import MeterTelegram.TelegramFile

namespace MeterTelegram.TelegramFile

/-! A telegram file as its caller sees it loaded: each telegram is pushed as its line is read, and
the first line that is refused ends the load with an error. -/

/-- The telegrams and the error of a caller, and what has been logged. -/
structure Held where
  telegrams : List Text
  error : Text
  log : List Entry
deriving DecidableEq, Repr

/-- Goes over lines, and says whether none of them was refused. -/
def pushLines (file : Text) (held : Held) : List Text → Bool × Held
  | [] => (true, held)
  | line :: others =>
      let line := Text.trim line
      if line.length = 0 ∨ line.head? = some 35 then pushLines file held others
      else if line.startsWith "telegram=" = false then
        (false, { held with error := "expected telegram=|hex| in " ++ file ++ " but got: " ++ line })
      else
        let hex := line.drop 9
        let hex :=
          if 2 ≤ hex.length ∧ hex.head? = some 124 ∧ hex.getLast? = some 124 then
            (hex.drop 1).take (hex.length - 2)
          else hex
        if hex.length = 0 ∨ Hex.classify false hex = .notHex ∨
            Hex.classify false hex = .oddDigits then
          (false, { held with error := "not a hex telegram in " ++ file ++ ": " ++ line })
        else pushLines file { held with telegrams := held.telegrams ++ [hex] } others

/-- Loads a file into what the caller holds, and says whether it was loaded. -/
def loadInto (files : Directory) (file : Text) (held : Held) : Bool × Held :=
  let loaded := TextLines.load files file
  let held := { held with log := held.log ++ loaded.entries }
  if loaded.fault.isSome then
    (false, { held with error := "could not read telegram file " ++ file })
  else
    match pushLines file held loaded.lines with
    | (false, held) => (false, held)
    | (true, held) =>
        let done := "(config) loaded " ++ Text.ofNat held.telegrams.length ++ " telegrams from " ++
          file.shown ++ "\n"
        (true, { held with log := held.log ++ [.debug done] })

/-- The caller after lines were collected by value. -/
def Held.collected (held : Held) : List Text × Option Fault → Bool × Held
  | (telegrams, none) => (true, { held with telegrams })
  | (telegrams, some fault) => (false, { held with telegrams, error := fault.message })

/-- The caller after a load by value. -/
def Held.after (held : Held) (loaded : Load) : Bool × Held :=
  match loaded.fault with
  | none => (true, ⟨loaded.telegrams, held.error, held.log ++ loaded.entries⟩)
  | some fault => (false, ⟨loaded.telegrams, fault.message, held.log ++ loaded.entries⟩)

theorem withoutBars_eq (hex : Text) :
    (if 2 ≤ hex.length ∧ hex.head? = some 124 ∧ hex.getLast? = some 124 then
        (hex.drop 1).take (hex.length - 2)
      else hex) = withoutBars hex := by
  have inner : (hex.drop 1).take (hex.length - 2) = hex.tail.dropLast := by
    rw [List.drop_one, List.dropLast_eq_take, List.length_tail]
    rfl
  rw [inner]
  rfl

/-- Text that is refused in one of three ways is no telegram. -/
theorem refused_iff (hex : Text) :
    (hex.length = 0 ∨ Hex.classify false hex = .notHex ∨ Hex.classify false hex = .oddDigits) ↔
      Hex.isTelegram hex = false := by
  have empty : Hex.classify false [] = .notHex := rfl
  rw [Hex.isTelegram]
  constructor
  · intro refused
    obtain none | unread | odd := refused
    · rw [List.length_eq_zero_iff.mp none, empty]
      rfl
    · rw [unread]
      rfl
    · rw [odd]
      rfl
  · intro refused
    cases verdict : Hex.classify false hex with
    | notHex => exact .inr (.inl rfl)
    | oddDigits => exact .inr (.inr rfl)
    | evenDigits =>
        rw [verdict] at refused
        contradiction

/-- What becomes of a line decides how the loop goes on. -/
theorem pushLines_cons (file : Text) (held : Held) (line : Text) (others : List Text) :
    pushLines file held (line :: others) =
      match telegram? file (Text.trim line) with
      | .error fault => (false, { held with error := fault.message })
      | .ok none => pushLines file held others
      | .ok (some telegram) =>
          pushLines file { held with telegrams := held.telegrams ++ [telegram] } others := by
  have length : start.length = 9 := rfl
  have spelled : ("telegram=" : Text) = start := rfl
  rw [pushLines, spelled]
  simp only [withoutBars_eq, refused_iff]
  cases Text.trim line with
  | nil => rfl
  | cons first rest =>
      by_cases comment : first = 35
      · rw [if_pos (.inr (congrArg some comment)), telegram?, if_pos comment]
      · have looked : ¬ ((first :: rest).length = 0 ∨ (first :: rest).head? = some 35) := by
          simp [comment]
        rw [if_neg looked, telegram?, if_neg comment, length]
        cases Text.startsWith (first :: rest) start with
        | false => rfl
        | true =>
            cases accepted : Hex.isTelegram (withoutBars (List.drop 9 (first :: rest))) <;>
              simp only [accepted, Bool.true_eq_false, Bool.not_true, Bool.false_eq_true, if_false,
                if_true, Fault.message]

theorem pushLines_eq (file : Text) (held : Held) (lines : List Text) :
    pushLines file held lines = held.collected (collect file held.telegrams lines) := by
  induction lines generalizing held with
  | nil => rfl
  | cons line others ih =>
      rw [pushLines_cons, collect]
      cases telegram? file (Text.trim line) with
      | error fault => rfl
      | ok found =>
          cases found with
          | none => exact ih held
          | some telegram => exact ih { held with telegrams := held.telegrams ++ [telegram] }

/-- Pushing line after line leaves the caller with what is loaded by value. -/
theorem loadInto_eq (files : Directory) (file : Text) (held : Held) :
    loadInto files file held = held.after (load files file held.telegrams) := by
  cases unread : (TextLines.load files file).fault with
  | some fault =>
      simp only [loadInto, load, unread]
      rfl
  | none =>
      have silent : (TextLines.load files file).entries = [] := by
        rw [TextLines.Load.entries, unread]
        rfl
      simp only [loadInto, load, unread, silent, pushLines_eq]
      cases collect file held.telegrams (TextLines.load files file).lines with
      | mk telegrams fault =>
          cases fault with
          | none => simp [Held.after, Held.collected]
          | some fault => simp [Held.after, Held.collected]

end MeterTelegram.TelegramFile
