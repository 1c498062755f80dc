/-!
The values of a TOML document. A table remembers how it came to be, since that decides what may be
added to it later.
-/

namespace PolicyGate.Toml

inductive Origin where
  | header
  | implied
  | dotted
  | inline
  deriving DecidableEq

/-- Numbers with a point, and dates, are kept as they are written. -/
inductive Value where
  | string (text : String)
  | integer (number : Int)
  | float (written : String)
  | boolean (value : Bool)
  | datetime (written : String)
  | array (items : List Value)
  | table (origin : Origin) (entries : List (String × Value))
  /-- The tables under headers in double brackets, the latest first. -/
  | tables (elements : List (List (String × Value)))

abbrev Entries := List (String × Value)

namespace Entries

def find? (entries : Entries) (key : String) : Option Value := entries.lookup key

def put (key : String) (value : Value) : Entries → Entries
  | [] => [(key, value)]
  | entry :: rest =>
    if entry.1 = key then (key, value) :: rest else entry :: put key value rest

end Entries

end PolicyGate.Toml
