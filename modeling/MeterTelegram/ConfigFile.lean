import MeterTelegram.Settings
import MeterTelegram.Text.Scan

namespace MeterTelegram.ConfigFile

/-! Config files: lines of a key, an equals sign and a value. A comment counts
as a pair of its text and an empty value; a pair without key ends the file. -/

structure Pair where
  key : Text
  value : Text
deriving DecidableEq, Repr

namespace Pair

def none : Pair := ⟨[], []⟩

def isComment (pair : Pair) : Bool :=
  pair.key.head? = some 35

end Pair

def maxLength : Nat := 4096

def isBetweenLines (byte : UInt8) : Bool :=
  byte == 10 || byte == 13 || byte == 32 || byte == 9

def withoutReturn (value : Text) : Text :=
  if value.getLast? = some 13 then value.dropLast else value

/-- The key stands before the equals sign, the value after it on the same line. -/
def keyAndValue (input : Text) : Pair × Text :=
  let key := Text.scanTrimmed (some 61) maxLength input
  if key.atEnd || key.missing then (Pair.none, key.rest)
  else
    let value := Text.scanTrimmed (some 10) maxLength key.rest
    if value.missing then (Pair.none, value.rest)
    else (⟨key.taken, withoutReturn value.taken⟩, value.rest)

/-- The next pair and the text behind it. -/
def next (input : Text) : Pair × Text :=
  match input.dropWhile isBetweenLines with
  | [] => (Pair.none, [])
  | byte :: rest =>
      if byte = 35 then
        let comment := Text.scanTrimmed (some 10) maxLength (byte :: rest)
        (⟨comment.taken, []⟩, comment.rest)
      else keyAndValue (byte :: rest)

/-- Pairs up to and including the first without key. Each takes at least a
byte, so as many steps as bytes are enough. -/
def pairsWithin : Nat → Text → List Pair
  | 0, _ => [Pair.none]
  | steps + 1, input =>
      let (pair, rest) := next input
      if pair.key.isEmpty then [pair] else pair :: pairsWithin steps rest

/-- The pairs of a file; its last line need not end in a newline. -/
def pairs (content : Text) : List Pair :=
  pairsWithin (content.length + 1) (content ++ [10])

/-- The settings after one pair. -/
def apply (files : Directory) (settings : Settings) (pair : Pair) : Settings.Update :=
  if pair.key.isEmpty || pair.isComment then settings.accept
  else match Settings.Key.ofName? pair.key with
    | some key => settings.give files pair.value key
    | none => settings.refuse (.key pair.key)

def Pair.entry (pair : Pair) : Entry :=
  .debug ("(config) \"" ++ pair.key.shown ++ "\" \"" ++ pair.value.shown ++ "\"\n")

/-- Applies pairs in order; complaints are logged as warnings. -/
def applyAll {ε : Type} (files : Directory) : List Pair → Settings → Journal ε Settings
  | [], settings => return settings
  | pair :: others, settings => do
      let update := apply files settings pair
      Journal.note (pair.entry :: update.complaints.map (fun complaint =>
        Entry.warning complaint.message))
      applyAll files others update.settings

/-- Settings after a config file. -/
def load (files : Directory) (name : Text) (settings : Settings) :
    Journal Directory.ReadFault Settings := do
  Journal.note [.debug ("(config) loading " ++ name.shown ++ "\n")]
  match files.read name with
  | .error fault => do
      Journal.note [.warning fault.message]
      Journal.fail fault
  | .ok content => applyAll files (pairs content) settings

end MeterTelegram.ConfigFile
