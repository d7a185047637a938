namespace MeterTelegram

/-! Text as the tool sees it: a sequence of bytes, usually but not always
UTF-8. String literals stand for their UTF-8 bytes. -/

abbrev Text := List UInt8

namespace Text

def ofString (text : String) : Text :=
  text.toUTF8.data.toList

end Text

instance : Coe String Text := ⟨Text.ofString⟩

namespace Text

def isBlank (byte : UInt8) : Bool :=
  byte == 32 || byte == 9

/-- The part a message shows: text ends at its first NUL byte. -/
def shown (text : Text) : Text :=
  text.takeWhile (· != 0)

/-- Longest message that is composed before it is stored. -/
def messageLimit : Nat := 4095

def clipped (text : Text) : Text :=
  text.take messageLimit

def trim (text : Text) : Text :=
  ((text.dropWhile isBlank).reverse.dropWhile isBlank).reverse

/-- All pieces between separators, the empty ones included. -/
def fields (separator : UInt8) : Text → List Text
  | [] => [[]]
  | byte :: rest =>
      match fields separator rest with
      | [] => [[byte]]
      | first :: others =>
          if byte = separator then [] :: first :: others
          else (byte :: first) :: others

/-- The non-empty pieces between separators. -/
def pieces (separator : UInt8) (text : Text) : List Text :=
  (fields separator text).filter (fun piece => !piece.isEmpty)

def startsWith (text start : Text) : Bool :=
  start.isPrefixOf text

/-- Whether the bytes of `part` follow each other somewhere in a text. -/
def occursIn (part : Text) : Text → Bool
  | [] => part.isEmpty
  | byte :: rest => part.isPrefixOf (byte :: rest) || occursIn part rest

def joined (separator : Text) (parts : List Text) : Text :=
  separator.intercalate parts

/-- Decimal digits without leading zeros. -/
def ofNat (value : Nat) : Text :=
  (Nat.toDigits 10 value).map (fun digit => UInt8.ofNat digit.toNat)

def ofInt (value : Int) : Text :=
  if value < 0 then 45 :: ofNat value.natAbs else ofNat value.natAbs

/-- Decimal with zeros filled in after the sign up to the given width. -/
def ofIntPadded (width : Nat) (value : Int) : Text :=
  if value < 0 then 45 :: (ofNat value.natAbs).leftpad (width - 1) 48
  else (ofNat value.natAbs).leftpad width 48

/-- Filled with spaces on the right up to the given width. -/
def padRight (width : Nat) (text : Text) : Text :=
  text ++ List.replicate (width - text.length) 32

end Text

end MeterTelegram
