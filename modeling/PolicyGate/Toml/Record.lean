import PolicyGate.Toml.Value

/-!
Values as records with named fields, and as texts and lists.
-/

namespace PolicyGate.Toml

namespace Value

def text? : Value → Option String
  | .string text => some text
  | _ => none

def natural? : Value → Option Nat
  | .integer number => if 0 ≤ number then some number.toNat else none
  | _ => none

def items? : Value → Option (List Value)
  | .array items => some items
  | .tables elements => some (elements.reverse.map (.table .header))
  | _ => none

def listOf? {α : Type} (read : Value → Option α) (value : Value) : Option (List α) := do
  (← value.items?).mapM read

def texts? (value : Value) : Option (List String) := value.listOf? text?

/-- A value as a record with fields of these names. A table gives them by key and an array by
place; what it has beyond them is passed over. A date counts as a table that has none of them. -/
def record? (names : List String) (value : Value) : Option Entries :=
  match value with
  | .table _ entries => some entries
  | .datetime _ => some []
  | _ => value.items?.map (names.zip ·)

end Value

namespace Entries

def required? {α : Type} (entries : Entries) (name : String) (read : Value → Option α) :
    Option α :=
  (entries.find? name).bind read

def optional? {α : Type} (entries : Entries) (name : String) (read : Value → Option α)
    (default : α) : Option α :=
  match entries.find? name with
  | some value => read value
  | none => some default

end Entries

end PolicyGate.Toml
