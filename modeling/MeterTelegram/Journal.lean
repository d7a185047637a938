import MeterTelegram.Hex

namespace MeterTelegram

/-! What a computation says while it runs. Entries are data: which of them are
shown, and where, is decided by the session that follows a journal. -/

inductive Severity where
  | warning
  | verbose
  | debug
  | trace
  | fatal
deriving DecidableEq, Repr

inductive Entry where
  | message (severity : Severity) (text : Text)
  | output (text : Text)
deriving DecidableEq, Repr

namespace Entry

def warning (text : Text) : Entry := .message .warning text

def verbose (text : Text) : Entry := .message .verbose text

def debug (text : Text) : Entry := .message .debug text

def trace (text : Text) : Entry := .message .trace text

/-- Bytes under debugging, as quoted hexadecimal text. -/
def payload (intro : Text) (bytes : List UInt8) : Entry :=
  debug (intro.shown ++ " \"" ++ Hex.encode bytes ++ "\"\n")

end Entry

/-- The entries of a computation in order, and its result or the fault that ended it. -/
structure Journal (ε α : Type) where
  entries : List Entry
  outcome : Except ε α

namespace Journal

def pure {ε α : Type} (value : α) : Journal ε α :=
  ⟨[], .ok value⟩

def bind {ε α β : Type} (first : Journal ε α) (next : α → Journal ε β) : Journal ε β :=
  match first.outcome with
  | .error fault => ⟨first.entries, .error fault⟩
  | .ok value => ⟨first.entries ++ (next value).entries, (next value).outcome⟩

instance {ε : Type} : Monad (Journal ε) where
  pure := Journal.pure
  bind := Journal.bind

def note {ε : Type} (entries : List Entry) : Journal ε PUnit :=
  ⟨entries, .ok ()⟩

def ofExcept {ε α : Type} (result : Except ε α) : Journal ε α :=
  ⟨[], result⟩

def fail {ε α : Type} (fault : ε) : Journal ε α :=
  ⟨[], .error fault⟩

def mapFault {ε ε' α : Type} (translate : ε → ε') (journal : Journal ε α) : Journal ε' α :=
  ⟨journal.entries, journal.outcome.mapError translate⟩

/-- The result of a computation as a value: a fault of it ends nothing. -/
def attempt {ε ε' α : Type} (journal : Journal ε α) : Journal ε' (Except ε α) :=
  ⟨journal.entries, .ok journal.outcome⟩

end Journal

end MeterTelegram
