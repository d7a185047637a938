import MeterTelegram.Text

namespace MeterTelegram.Text

/-! Scanning a text from the front. A scan takes bytes up to a stop byte and
steps over that byte; it reports whether the stop byte was missing and whether
the text is used up. -/

structure Scan where
  taken : Text
  rest : Text
  missing : Bool
  atEnd : Bool
deriving DecidableEq, Repr

/-- Stop bytes are given as signed values; without a stop nothing matches. -/
def stopsAt (stop : Option Int) (byte : UInt8) : Bool :=
  match stop with
  | none => false
  | some value => byte.toInt8.toInt == value

/-- Bytes before the first stop, at most `limit`, and what follows them. -/
def collect (stop : Option Int) : Nat → Text → Text × Text
  | 0, input => ([], input)
  | _ + 1, [] => ([], [])
  | limit + 1, byte :: rest =>
      if stopsAt stop byte then ([], byte :: rest)
      else
        let found := collect stop limit rest
        (byte :: found.1, found.2)

def scanTo (stop : Option Int) (limit : Nat) (input : Text) : Scan :=
  let found := collect stop limit input
  let reached := match found.2 with
    | [] => false
    | byte :: _ => stopsAt stop byte
  { taken := found.1
    rest := found.2.tail
    missing := stop.isSome && !reached
    atEnd := found.2.tail.isEmpty }

def skipBlank (input : Text) : Text :=
  input.dropWhile isBlank

/-- Like `scanTo` after leading blanks, with the taken text trimmed. -/
def scanTrimmed (stop : Option Int) (limit : Nat) (input : Text) : Scan :=
  match skipBlank input with
  | [] => { taken := [], rest := [], missing := stop.isSome, atEnd := true }
  | byte :: rest =>
      let scan := scanTo stop limit (byte :: rest)
      { scan with taken := trim scan.taken }

end MeterTelegram.Text
