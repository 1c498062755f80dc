import PolicyGate.Unicode.Age
import PolicyGate.Unicode.Break
import PolicyGate.Unicode.Property
import PolicyGate.Unicode.ScriptExtension

/-!
Finding a set of characters by the name of a property, a general category or a script. Case,
blanks, hyphens, underscores and a leading `is` do not count.
-/

namespace PolicyGate.Unicode

namespace PropertyName

def withoutIs : List Char → List Char
  | 'i' :: 's' :: rest | 'I' :: 's' :: rest | 'i' :: 'S' :: rest | 'I' :: 'S' :: rest => rest
  | name => name

/-- The form in which names are compared. The category named `c` keeps its own name, and the
property named `isc` too. -/
def simplify (name : List Char) : String :=
  let bare := withoutIs name
  let isKept (c : Char) : Bool := c.toNat < 128 && !(c = ' ' || c = '_' || c = '-')
  let kept := (bare.filter isKept).map Char.toLower
  if bare.length < name.length ∧ kept = ['c'] then "isc" else .ofList kept

def lookUp (name : String) (table : List (List String × CharSet)) : Option CharSet :=
  (table.find? fun entry => entry.1.contains name).map (·.2)

def find? (name : List Char) : Option CharSet :=
  let simple := simplify name
  (lookUp simple Property.named).or
    ((lookUp simple Category.named).or (lookUp simple Script.named))

def usedIn? (script : String) : Option CharSet :=
  (lookUp script Script.named).map fun belonging =>
    let added := (lookUp script ScriptExtension.additions).getD .empty
    let removed := (lookUp script ScriptExtension.removals).getD .empty
    .diff (.union belonging added) removed

def findValue? (name value : List Char) : Option CharSet :=
  let value := simplify value
  match simplify name with
  | "gc" | "generalcategory" => lookUp value Category.named
  | "sc" | "script" => lookUp value Script.named
  | "scx" | "scriptextensions" => usedIn? value
  | "age" => Age.named? value
  | "gcb" | "graphemeclusterbreak" => lookUp value Break.grapheme
  | "wb" | "wordbreak" => lookUp value Break.word
  | "sb" | "sentencebreak" => lookUp value Break.sentence
  | _ => none

end PropertyName

end PolicyGate.Unicode
