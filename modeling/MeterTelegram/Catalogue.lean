import MeterTelegram.Registry

namespace MeterTelegram

/-! The catalogue of decoder families. No two families share a name or a
signature, so at most one decoder answers for a device. -/

structure Family where
  name : Text
  description : Text
  signatures : List Signature
  layout : Layout
deriving DecidableEq, Repr

namespace Family

def detects (family : Family) (signature : Signature) : Bool :=
  family.signatures.any (fun own => own.key = signature.key)

def decoder (family : Family) : Except Layout.Broken Decoder :=
  Decoder.ofLayout family.name family.signatures family.layout

end Family

/-- The registered families by name, and the names in the order they came: a name in the list
stands for what the map has under it. -/
structure Catalogue where
  byName : Text → Option Family
  listed : List Text

namespace Catalogue

inductive Fault where
  | nameTaken (name : Text)
  | signatureTaken (name : Text) (signature : Signature) (owner : Text)
deriving DecidableEq, Repr

def Fault.message : Fault → Text
  | .nameTaken name =>
      "Internal error: two decoders trying to register the name \"" ++ name.shown ++ "\"\n"
  | .signatureTaken name signature owner =>
      "Internal error: decoder " ++ name.shown ++ " tried to register " ++ signature.text ++
        " already taken by decoder " ++ owner.shown ++ "!\n"

def empty : Catalogue :=
  { byName := fun _ => none, listed := [] }

def find? (catalogue : Catalogue) (name : Text) : Option Family :=
  catalogue.byName name

/-- What the names in the list stand for. -/
def families (catalogue : Catalogue) : List Family :=
  catalogue.listed.filterMap catalogue.find?

def detecting (catalogue : Catalogue) (signature : Signature) : List Family :=
  catalogue.families.filter (fun family => family.detects signature)

/-- The first signature of a family that some other family already has. -/
def clash? (catalogue : Catalogue) (family : Family) : Option Fault :=
  family.signatures.findSome? (fun signature =>
    (catalogue.families.find? (fun owner => owner.detects signature)).map (fun owner =>
      Fault.signatureTaken family.name signature owner.name))

/-- Puts a family under its name, in place of what was there. -/
def write (catalogue : Catalogue) (family : Family) : Catalogue :=
  { catalogue with
    byName := fun name => if name = family.name then some family else catalogue.byName name }

/-- Lists a name if the map has something under it. -/
def list (catalogue : Catalogue) (name : Text) : Catalogue :=
  match catalogue.find? name with
  | some _ => { catalogue with listed := catalogue.listed ++ [name] }
  | none => catalogue

def enter (catalogue : Catalogue) (family : Family) : Catalogue :=
  (catalogue.write family).list family.name

def register (catalogue : Catalogue) (family : Family) : Except Fault Catalogue :=
  if (catalogue.find? family.name).isSome then .error (.nameTaken family.name)
  else match catalogue.clash? family with
    | some fault => .error fault
    | none => .ok (catalogue.enter family)

def registerAll (catalogue : Catalogue) (families : List Family) : Except Fault Catalogue :=
  families.foldlM register catalogue

/-- A registry of the decoders of all families. -/
def registry (catalogue : Catalogue) : Except Layout.Broken Registry :=
  catalogue.families.foldlM (fun registry family => family.decoder.map registry.add)
    Registry.empty

end Catalogue

end MeterTelegram
