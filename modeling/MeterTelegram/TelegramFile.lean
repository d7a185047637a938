import MeterTelegram.TextLines

namespace MeterTelegram.TelegramFile

/-! Telegram files: one telegram a line behind `telegram=`, with or without
bars around the hexadecimal text. Blank lines and lines that start with `#`
are passed over. -/

inductive Fault where
  | unreadable (file : Text)
  | unexpected (file line : Text)
  | notHex (file line : Text)
deriving DecidableEq, Repr

def Fault.message : Fault → Text
  | .unreadable file => "could not read telegram file " ++ file
  | .unexpected file line => "expected telegram=|hex| in " ++ file ++ " but got: " ++ line
  | .notHex file line => "not a hex telegram in " ++ file ++ ": " ++ line

def start : Text := "telegram="

/-- The text between bars, if it stands between bars. -/
def withoutBars (text : Text) : Text :=
  if 2 ≤ text.length ∧ text.head? = some 124 ∧ text.getLast? = some 124 then text.tail.dropLast
  else text

/-- The telegram of a trimmed line; none for blank lines and comments. -/
def telegram? (file line : Text) : Except Fault (Option Text) :=
  match line with
  | [] => .ok none
  | first :: _ =>
      if first = 35 then .ok none
      else if !line.startsWith start then .error (.unexpected file line)
      else
        let telegram := withoutBars (line.drop start.length)
        if Hex.isTelegram telegram then .ok (some telegram) else .error (.notHex file line)

/-- Telegrams collected so far, the fault that ended the collection, and what is logged. -/
structure Load where
  telegrams : List Text
  fault : Option Fault
  entries : List Entry
deriving DecidableEq, Repr

/-- Collects the telegrams of lines behind those already there. -/
def collect (file : Text) (telegrams : List Text) : List Text → List Text × Option Fault
  | [] => (telegrams, none)
  | line :: others =>
      match telegram? file (Text.trim line) with
      | .error fault => (telegrams, some fault)
      | .ok none => collect file telegrams others
      | .ok (some telegram) => collect file (telegrams ++ [telegram]) others

def load (files : Directory) (file : Text) (telegrams : List Text) : Load :=
  let loaded := TextLines.load files file
  match loaded.fault with
  | some _ => ⟨telegrams, some (.unreadable file), loaded.entries⟩
  | none =>
      match collect file telegrams loaded.lines with
      | (collected, some fault) => ⟨collected, some fault, []⟩
      | (collected, none) =>
          ⟨collected, none, [.debug ("(config) loaded " ++ Text.ofNat collected.length ++
            " telegrams from " ++ file.shown ++ "\n")]⟩

end MeterTelegram.TelegramFile
