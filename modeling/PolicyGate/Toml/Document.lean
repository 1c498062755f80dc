import PolicyGate.Toml.Scalar

/-!
Whole TOML documents: values that hold others, and tables built line by line.

No key may be given twice, and a table that is complete may not be added to. A table is complete
when it is written in braces, and for dotted keys also when it stands under a header.
-/

namespace PolicyGate.Toml

/-- Puts a value under a dotted key, whose last part must be new. The tables on the way must not
be complete, and the innermost must have come from a dotted key. -/
def insertDotted (last : String) (value : Value) : List String → Entries → Option Entries
  | [], entries =>
    match entries.find? last with
    | some _ => none
    | none => some (entries.put last value)
  | part :: path, entries =>
    match entries.find? part with
    | none => do
      let inner ← insertDotted last value path []
      some (entries.put part (.table .dotted inner))
    | some (.table .dotted inner) => do
      let inner ← insertDotted last value path inner
      some (entries.put part (.table .dotted inner))
    | some (.table .implied inner) =>
      if path = [] then none
      else do
        let inner ← insertDotted last value path inner
        some (entries.put part (.table .implied inner))
    | some (.tables (inner :: earlier)) =>
      if path = [] then none
      else do
        let inner ← insertDotted last value path inner
        some (entries.put part (.tables (inner :: earlier)))
    | some _ => none

def insertKey (key : List String) (value : Value) (entries : Entries) : Option Entries :=
  match key.getLast? with
  | some last => insertDotted last value key.dropLast entries
  | none => none

def itemsFrom (item : List Char → Option (Value × List Char)) :
    Nat → List Value → List Char → Option (List Value × List Char)
  | 0, _, _ => none
  | fuel + 1, found, text => do
    match ← skipLines text with
    | ']' :: rest => some (found.reverse, rest)
    | text =>
      let (value, rest) ← item text
      match ← skipLines rest with
      | ',' :: rest => itemsFrom item fuel (value :: found) rest
      | ']' :: rest => some ((value :: found).reverse, rest)
      | _ => none

def membersFrom (item : List Char → Option (Value × List Char)) :
    Nat → Entries → List Char → Option (Entries × List Char)
  | 0, _, _ => none
  | fuel + 1, found, text => do
    let (key, rest) ← key text
    let rest ← symbol '=' rest
    let (value, rest) ← item (skipGap rest)
    let entries ← insertKey key value found
    match skipGap rest with
    | ',' :: rest => membersFrom item fuel entries rest
    | '}' :: rest => some (entries, rest)
    | _ => none

def valueWithin : Nat → List Char → Option (Value × List Char)
  | 0, text =>
    match text with
    | '[' :: _ | '{' :: _ => none
    | '"' :: _ | '\x27' :: _ => (string text).map fun (text, rest) => (.string text, rest)
    | _ => scalar text
  | depth + 1, text =>
    match text with
    | '[' :: rest =>
      (itemsFrom (valueWithin depth) (rest.length + 1) [] rest).map
        fun (items, rest) => (.array items, rest)
    | '{' :: rest =>
      match skipGap rest with
      | '}' :: rest => some (.table .inline [], rest)
      | rest =>
        (membersFrom (valueWithin depth) (rest.length + 1) [] rest).map
          fun (entries, rest) => (.table .inline entries, rest)
    | '"' :: _ | '\x27' :: _ => (string text).map fun (text, rest) => (.string text, rest)
    | _ => scalar text

def value (text : List Char) : Option (Value × List Char) := valueWithin (depthLimit - 1) text

def alter (change : Entries → Option Entries) : List String → Entries → Option Entries
  | [], entries => change entries
  | part :: path, entries =>
    match entries.find? part with
    | none => do
      let inner ← alter change path []
      some (entries.put part (.table .implied inner))
    | some (.table .inline _) => none
    | some (.table origin inner) => do
      let inner ← alter change path inner
      some (entries.put part (.table origin inner))
    | some (.tables (inner :: earlier)) => do
      let inner ← alter change path inner
      some (entries.put part (.tables (inner :: earlier)))
    | some _ => none

inductive Header where
  | root
  | table (path : List String) (name : String)
  | tables (path : List String) (name : String)

structure Draft where
  done : Entries
  header : Header
  current : Entries

def Draft.empty : Draft := ⟨[], .root, []⟩

def Draft.close (draft : Draft) : Option Entries :=
  match draft.header with
  | .root => some draft.current
  | .table path name =>
    alter (fun entries => some (entries.put name (.table .header draft.current))) path draft.done
  | .tables path name =>
    alter (fun entries =>
      match entries.find? name with
      | none => some (entries.put name (.tables [draft.current]))
      | some (.tables earlier) => some (entries.put name (.tables (draft.current :: earlier)))
      | some _ => none) path draft.done

def lookAt (path : List String) (name : String) (entries : Entries) : Option (Option Value) :=
  match path with
  | [] => some (entries.find? name)
  | part :: path =>
    match entries.find? part with
    | none => some none
    | some (.table .inline _) => none
    | some (.table _ inner) => lookAt path name inner
    | some (.tables (inner :: _)) => lookAt path name inner
    | some _ => none

/-- Begins the table of a header. One that so far was only implied keeps its entries. -/
def Draft.openTable (draft : Draft) (path : List String) (name : String) : Option Draft := do
  let done ← draft.close
  match ← lookAt path name done with
  | none => some ⟨done, .table path name, []⟩
  | some (.table .implied entries) => some ⟨done, .table path name, entries⟩
  | some _ => none

def Draft.openElement (draft : Draft) (path : List String) (name : String) : Option Draft := do
  let done ← draft.close
  match ← lookAt path name done with
  | none | some (.tables _) => some ⟨done, .tables path name, []⟩
  | some _ => none

def Draft.header? (draft : Draft) (text : List Char) : Option (Draft × List Char) := do
  let (double, text) := match text with
    | '[' :: rest => (true, rest)
    | text => (false, text)
  let (key, rest) ← key text
  let rest ← symbol ']' rest
  let rest ← if double then symbol ']' rest else some rest
  let rest ← finishLine rest
  let name ← key.getLast?
  let draft ← if double then draft.openElement key.dropLast name
    else draft.openTable key.dropLast name
  some (draft, rest)

def Draft.entry? (draft : Draft) (text : List Char) : Option (Draft × List Char) := do
  let (key, rest) ← key text
  let rest ← symbol '=' rest
  let (value, rest) ← value (skipGap rest)
  let rest ← finishLine rest
  let current ← insertKey key value draft.current
  some ({ draft with current }, rest)

def documentFrom : Nat → Draft → List Char → Option Entries
  | 0, _, _ => none
  | fuel + 1, draft, text =>
    match skipGap text with
    | [] => draft.close
    | '#' :: rest => do documentFrom fuel draft (← finishLine ('#' :: rest))
    | '\n' :: rest => documentFrom fuel draft rest
    | '\r' :: rest => do documentFrom fuel draft (← lineEnd? ('\r' :: rest))
    | '[' :: rest => do
      let (draft, rest) ← draft.header? rest
      documentFrom fuel draft rest
    | rest => do
      let (draft, rest) ← draft.entry? rest
      documentFrom fuel draft rest

def parse (text : String) : Option Entries :=
  let chars := match text.toList with
    | '\uFEFF' :: rest => rest
    | chars => chars
  documentFrom (chars.length + 1) .empty chars

end PolicyGate.Toml
