import MeterTelegram.Journal

namespace MeterTelegram.SelfCheck

/-! Checks compare what comes out of the library with what is expected. What
the library logs meanwhile is kept in order, as in a journal. -/

/-- The number `failures` counts the expectations that did not hold; without a result the
check was given up. -/
structure Check (α : Type) where
  entries : List Entry
  failures : Nat
  result : Option α

namespace Check

def pure {α : Type} (value : α) : Check α :=
  ⟨[], 0, some value⟩

def bind {α β : Type} (first : Check α) (next : α → Check β) : Check β :=
  match first.result with
  | none => ⟨first.entries, first.failures, none⟩
  | some value =>
      let rest := next value
      ⟨first.entries ++ rest.entries, first.failures + rest.failures, rest.result⟩

instance : Monad Check where
  pure := Check.pure
  bind := Check.bind

def failure (expectation : Text) : Entry :=
  .output ("ERROR! " ++ expectation ++ "\n")

/-- An expectation that does not hold is printed and counted. -/
def expect (expectation : Text) (holds : Bool) : Check PUnit :=
  if holds then Check.pure () else ⟨[failure expectation], 1, some ()⟩

/-- Without a value the check is given up. -/
def need {α : Type} (expectation : Text) (value : Option α) : Check α :=
  match value with
  | some found => Check.pure found
  | none => ⟨[failure expectation], 1, none⟩

def note (entries : List Entry) : Check PUnit :=
  ⟨entries, 0, some ()⟩

/-- Keeps what a computation logs and hands on how it ended. -/
def attempt {ε α : Type} (journal : Journal ε α) : Check (Except ε α) :=
  ⟨journal.entries, 0, some journal.outcome⟩

/-- Keeps what a computation logs; after a fault the check is given up. -/
def follow {ε α : Type} (expectation : Text) (journal : Journal ε α) : Check α := do
  let outcome ← attempt journal
  need expectation outcome.toOption

/-- One check for each item, in order. -/
def each {α : Type} (items : List α) (check : α → Check PUnit) : Check PUnit :=
  match items with
  | [] => Check.pure ()
  | item :: others => Check.bind (check item) (fun _ => each others check)

end Check

end MeterTelegram.SelfCheck
