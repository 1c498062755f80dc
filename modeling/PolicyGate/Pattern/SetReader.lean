import PolicyGate.Pattern.Reader

/-!
Reading a set of characters in brackets: characters, ranges, named classes and sets inside sets,
joined by nothing, or by `&&`, `--` and `~~` from the left.

A set is read with its nesting depth. Sets inside sets are kept on a stack while they are open.
-/

namespace PolicyGate.Pattern

open Unicode

structure SetItem where
  set : CharSet
  depth : Nat

inductive SetOperator where
  | inter
  | diff
  | symmDiff
  deriving DecidableEq

inductive SetFrame where
  | opened (outer : List SetItem) (negated : Bool)
  | operand (operator : SetOperator) (left : SetItem)

def deepest (items : List SetItem) : Nat := (items.map SetItem.depth).foldl max 0

def unite : List SetItem → SetItem
  | [] => ⟨.empty, 0⟩
  | [item] => item
  | items => ⟨.unionAll (items.reverse.map SetItem.set), 1 + deepest items⟩

def SetOperator.apply (flags : Flags) (operator : SetOperator) (left right : SetItem) : SetItem :=
  let leftSet := fold flags left.set
  let rightSet := fold flags right.set
  let set := match operator with
    | .inter => CharSet.inter leftSet rightSet
    | .diff => .diff leftSet rightSet
    | .symmDiff => .symmDiff leftSet rightSet
  ⟨set, 1 + max left.depth right.depth⟩

def endOperation (flags : Flags) (item : SetItem) : List SetFrame → SetItem × List SetFrame
  | .operand operator left :: frames => (operator.apply flags left item, frames)
  | frames => (item, frames)

def namedClasses : List (String × CharSet) := [
  ("alnum", .ofText "30-39 41-5A 61-7A"),
  ("alpha", .ofText "41-5A 61-7A"),
  ("ascii", .range 0 0x7F),
  ("blank", .ofText "9 20"),
  ("cntrl", .ofText "0-1F 7F"),
  ("digit", .range 0x30 0x39),
  ("graph", .range 0x21 0x7E),
  ("lower", .range 0x61 0x7A),
  ("print", .range 0x20 0x7E),
  ("punct", .ofText "21-2F 3A-40 5B-60 7B-7E"),
  ("space", .ofText "9-D 20"),
  ("upper", .range 0x41 0x5A),
  ("word", asciiWord),
  ("xdigit", .ofText "30-39 41-46 61-66")]

def namedClass? : List Char → Option (Bool × CharSet × List Char)
  | ':' :: rest => do
    let (negated, rest) := match rest with
      | '^' :: rest => (true, rest)
      | rest => (false, rest)
    let (name, rest) ← cutAt [':'] [] rest
    let set ← namedClasses.lookup (.ofList name)
    match rest with
    | ']' :: rest => some (negated, set, rest)
    | _ => none
  | _ => none

def setAtom (flags : Flags) : List Char → Option (Atom × List Char)
  | [] => none
  | '\\' :: rest => escape flags rest
  | c :: rest => some (.literal c, rest)

def Atom.point? (flags : Flags) : Atom → Option Nat
  | .literal c => if !flags.wide ∧ 0x7F < c.toNat then none else some c.toNat
  | _ => none

def Atom.toSet? (flags : Flags) : Atom → Option CharSet
  | .set chars => some chars
  | atom => do
    let point ← atom.point? flags
    some (.range point point)

def firstShown (inComment : Bool) : List Char → Option Char
  | [] => none
  | c :: rest =>
    if Text.isBlank c then firstShown inComment rest
    else if !inComment && c = '#' then firstShown true rest
    else some c

def behindHyphen (flags : Flags) (rest : List Char) : Option Char :=
  if flags.spaced then (firstShown false rest).or rest.head? else rest.head?

/-- A single item or a range. A hyphen in front of a bracket or of another hyphen makes no
range. -/
def setRange (flags : Flags) (rest : List Char) : Option (CharSet × List Char) := do
  let (first, rest) ← setAtom flags rest
  match gap flags rest with
  | [] => none
  | '-' :: after =>
    let behind := behindHyphen flags after
    if behind = some ']' ∨ behind = some '-' then
      some (← first.toSet? flags, '-' :: after)
    else do
      let (last, rest) ← setAtom flags (gap flags after)
      let low ← first.point? flags
      let high ← last.point? flags
      if low ≤ high then some (.range low high, rest) else none
  | rest => some (← first.toSet? flags, rest)

def leadingHyphens (flags : Flags) (items : List SetItem) :
    Nat → List Char → List SetItem × List Char
  | fuel + 1, '-' :: rest =>
    leadingHyphens flags (⟨.single '-', 0⟩ :: items) fuel (gap flags rest)
  | _, rest => (items, rest)

def openSet (flags : Flags) (rest : List Char) : Bool × List SetItem × List Char :=
  let (negated, rest) := match gap flags rest with
    | '^' :: rest => (true, gap flags rest)
    | rest => (false, rest)
  let (items, rest) := leadingHyphens flags [] rest.length rest
  match items, rest with
  | [], ']' :: rest => (negated, [⟨.single ']', 0⟩], gap flags rest)
  | items, rest => (negated, items, rest)

def closeSet (flags : Flags) (negated : Bool) (item : SetItem) : Option SetItem := do
  let set ← negate flags.wide negated (fold flags item.set)
  some ⟨set, 1 + item.depth⟩

/-- The items of the innermost open set are given with the latest first, and the frames from the
innermost out. -/
def setFrom (flags : Flags) :
    Nat → List SetItem → List SetFrame → List Char → Option (SetItem × List Char)
  | 0, _, _, _ => none
  | fuel + 1, items, frames, rest => do
    let operation (operator : SetOperator) (rest : List Char) :=
      let (left, frames) := endOperation flags (unite items) frames
      setFrom flags fuel [] (.operand operator left :: frames) rest
    match gap flags rest with
    | [] => none
    | '[' :: rest =>
      match namedClass? rest with
      | some (negated, set, rest) =>
        let set ← negate flags.wide negated (fold flags set)
        setFrom flags fuel (⟨set, 0⟩ :: items) frames rest
      | none =>
        let (negated, inner, rest) := openSet flags rest
        setFrom flags fuel inner (.opened items negated :: frames) rest
    | ']' :: rest =>
      match endOperation flags (unite items) frames with
      | (item, .opened outer negated :: frames) =>
        let item ← closeSet flags negated item
        if frames.isEmpty then some (item, rest)
        else setFrom flags fuel (item :: outer) frames rest
      | _ => none
    | '&' :: '&' :: rest => operation .inter rest
    | '-' :: '-' :: rest => operation .diff rest
    | '~' :: '~' :: rest => operation .symmDiff rest
    | rest =>
      let (set, rest) ← setRange flags rest
      setFrom flags fuel (⟨set, 0⟩ :: items) frames rest

def bracketSet (flags : Flags) (rest : List Char) : Option (SetItem × List Char) := do
  let (negated, items, rest) := openSet flags rest
  let (item, rest) ← setFrom flags (rest.length + 1) items [.opened [] negated] rest
  some ({ item with set := if flags.wide then item.set else .inter .ascii item.set }, rest)

end PolicyGate.Pattern
