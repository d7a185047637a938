import MeterTelegram.Hex
import MeterTelegram.Proofs.Text.Decimal

namespace MeterTelegram.Json

/-! The grammar of JSON texts, less the white space that may stand between tokens. -/

def IsWhole (text : Text) : Prop :=
  text = [48] ∨ ∃ first rest, text = first :: rest ∧ (49 ≤ first ∧ first ≤ 57) ∧
    Text.IsDecimal rest

def IsFraction (text : Text) : Prop :=
  text = [] ∨ ∃ digits, text = 46 :: digits ∧ digits ≠ [] ∧ Text.IsDecimal digits

def IsExponent (text : Text) : Prop :=
  text = [] ∨ ∃ mark sign digits, text = mark :: sign ++ digits ∧ (mark = 101 ∨ mark = 69) ∧
    (sign = [] ∨ sign = [43] ∨ sign = [45]) ∧ digits ≠ [] ∧ Text.IsDecimal digits

inductive IsUnsigned : Text → Prop
  | mk {whole fraction exponent : Text} (unscaled : IsWhole whole) (broken : IsFraction fraction)
      (scaled : IsExponent exponent) : IsUnsigned (whole ++ fraction ++ exponent)

inductive IsNumber : Text → Prop
  | positive {text : Text} (unsigned : IsUnsigned text) : IsNumber text
  | negative {text : Text} (unsigned : IsUnsigned text) : IsNumber (45 :: text)

/-- What stands between the quotation marks of a string. -/
inductive IsCharacters : Text → Prop
  | done : IsCharacters []
  | plain {character : Char} {rest : Text}
      (unescaped : 32 ≤ character.toNat ∧ character ≠ '\"' ∧ character ≠ '\\')
      (others : IsCharacters rest) : IsCharacters (String.utf8EncodeChar character ++ rest)
  | escape {byte : UInt8} {rest : Text} (named : byte ∈ [34, 92, 47, 98, 102, 110, 114, 116])
      (others : IsCharacters rest) : IsCharacters (92 :: byte :: rest)
  | code {digits rest : Text} (four : digits.length = 4)
      (hex : ∀ byte ∈ digits, Hex.isDigit byte = true) (others : IsCharacters rest) :
      IsCharacters (92 :: 117 :: (digits ++ rest))

def quoted (characters : Text) : Text :=
  34 :: characters ++ [34]

def array (elements : List Text) : Text :=
  91 :: Text.joined [44] elements ++ [93]

/-- A member is the characters of its key and the text of its value. -/
def member (key value : Text) : Text :=
  quoted key ++ 58 :: value

def object (members : List (Text × Text)) : Text :=
  123 :: Text.joined [44] (members.map fun (key, value) => member key value) ++ [125]

inductive IsValue : Text → Prop
  | word {text : Text} (listed : text ∈ ([("true" : Text), "false", "null"] : List Text)) :
      IsValue text
  | number {text : Text} (number : IsNumber text) : IsValue text
  | string {characters : Text} (spelled : IsCharacters characters) : IsValue (quoted characters)
  | array {elements : List Text} (values : ∀ element ∈ elements, IsValue element) :
      IsValue (array elements)
  | object {members : List (Text × Text)} (keys : ∀ member ∈ members, IsCharacters member.1)
      (values : ∀ member ∈ members, IsValue member.2) : IsValue (object members)

/-- Bytes that stand for themselves in a string. -/
def isPlainByte (byte : UInt8) : Bool :=
  32 ≤ byte && byte < 128 && byte != 34 && byte != 92

def isPlain (text : Text) : Bool :=
  text.all isPlainByte

variable {text other : Text}

theorem plainByte_encoded : ∀ code : Fin 128, isPlainByte (UInt8.ofNat code) = true →
    String.utf8EncodeChar (Char.ofNat code) = [UInt8.ofNat code] ∧
      32 ≤ (Char.ofNat code).toNat ∧ Char.ofNat code ≠ '\"' ∧ Char.ofNat code ≠ '\\' := by
  decide +kernel

theorem isCharacters_of_isPlain (plain : isPlain text = true) : IsCharacters text := by
  induction text with
  | nil => exact .done
  | cons byte rest ih =>
      simp only [isPlain, List.all_cons, Bool.and_eq_true] at plain
      obtain ⟨here, behind⟩ := plain
      have small : byte.toNat < 128 := by
        simp only [isPlainByte, Bool.and_eq_true, decide_eq_true_eq, UInt8.lt_iff_toNat_lt] at here
        exact here.1.1.2
      have same : UInt8.ofNat byte.toNat = byte := UInt8.ofNat_toNat
      obtain ⟨encoded, unescaped⟩ := plainByte_encoded ⟨byte.toNat, small⟩ (same.symm ▸ here)
      have spelled := IsCharacters.plain unescaped (ih behind)
      rw [encoded, same] at spelled
      exact spelled

@[simp] theorem isPlain_append : isPlain (text ++ other) = (isPlain text && isPlain other) := by
  simp [isPlain]

theorem isPlain_of_isDecimal (decimal : Text.IsDecimal text) : isPlain text = true := by
  refine List.all_eq_true.mpr fun byte listed => ?_
  have bounds := decimal byte listed
  simp only [isPlainByte, Bool.and_eq_true, decide_eq_true_eq, bne_iff_ne, ne_eq]
  grind

theorem joined_cons (separator first : Text) (rest : List Text) :
    Text.joined separator (first :: rest) = first ++ rest.flatMap (separator ++ ·) := by
  unfold Text.joined
  induction rest generalizing first with
  | nil => simp
  | cons second rest ih => simp [List.intercalate_cons_cons, ih second]

theorem isUnsigned_of_isWhole (whole : IsWhole text) : IsUnsigned text := by
  simpa using IsUnsigned.mk whole (.inl rfl) (.inl rfl)

theorem isWhole_ofNat (value : Nat) : IsWhole (Text.ofNat value) := by
  cases value with
  | zero => exact .inl rfl
  | succ value =>
      obtain ⟨first, rest, spelled, bounds⟩ := Text.ofNat_of_pos (Nat.succ_pos value)
      have decimal := Text.isDecimal_ofNat (value + 1)
      rw [spelled] at decimal ⊢
      exact .inr ⟨first, rest, rfl, bounds, (List.forall_mem_cons.mp decimal).2⟩

theorem isNumber_ofInt (value : Int) : IsNumber (Text.ofInt value) := by
  have unsigned := isUnsigned_of_isWhole (isWhole_ofNat value.natAbs)
  unfold Text.ofInt
  split
  · exact .negative unsigned
  · exact .positive unsigned

theorem IsNumber.ne_nil (number : IsNumber text) : text ≠ [] := by
  cases number with
  | negative => exact List.cons_ne_nil _ _
  | positive unsigned =>
      obtain ⟨rfl | ⟨first, rest, rfl, -⟩, -, -⟩ := unsigned
      · exact List.cons_ne_nil _ _
      · exact List.cons_ne_nil _ _

end MeterTelegram.Json
