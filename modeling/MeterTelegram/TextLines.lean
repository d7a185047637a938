import MeterTelegram.Directory
import MeterTelegram.Journal
import MeterTelegram.Text.Scan

namespace MeterTelegram

/-! Files as lines. A line ends at a newline or at the end of the file; a
carriage return before the end is dropped, and so are empty lines. -/

namespace TextLines

def maxLength : Nat := 32768

def newline : UInt8 := 10

def withoutReturn (line : Text) : Text :=
  if line.getLast? = some 13 then line.dropLast else line

/-- Lines of a text, and whether none was too long; a line that is too long
ends the reading. -/
structure Lines where
  lines : List Text
  complete : Bool
deriving DecidableEq, Repr

/-- Each step takes at least a byte, so as many steps as bytes are enough. -/
def within : Nat → Text → Lines
  | 0, _ => ⟨[], true⟩
  | _ + 1, [] => ⟨[], true⟩
  | steps + 1, byte :: rest =>
      let scan := Text.scanTo (some newline.toNat) maxLength (byte :: rest)
      if scan.missing && !scan.atEnd then ⟨[], false⟩
      else
        let line := withoutReturn scan.taken
        let kept := if line.isEmpty then [] else [line]
        if scan.atEnd then ⟨kept, true⟩
        else
          let others := within steps scan.rest
          ⟨kept ++ others.lines, others.complete⟩

def ofText (content : Text) : Lines :=
  within content.length content

inductive Fault where
  | unreadable (cause : Directory.ReadFault)
  | tooLong (file : Text)
deriving DecidableEq, Repr

def Fault.message : Fault → Text
  | .unreadable cause => cause.message
  | .tooLong file => "Line too long in file " ++ file.shown ++ "\n"

/-- The lines read from a file, and what went wrong if not all were read. -/
structure Load where
  lines : List Text
  fault : Option Fault
deriving DecidableEq, Repr

def load (files : Directory) (name : Text) : Load :=
  match files.read name with
  | .error cause => ⟨[], some (.unreadable cause)⟩
  | .ok content =>
      let read := ofText content
      ⟨read.lines, if read.complete then none else some (.tooLong name)⟩

/-- A fault is logged as a warning. -/
def Load.entries (load : Load) : List Entry :=
  load.fault.toList.map (fun fault => Entry.warning fault.message)

end TextLines

end MeterTelegram
