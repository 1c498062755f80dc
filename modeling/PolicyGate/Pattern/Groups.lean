import PolicyGate.Pattern.SetReader

/-!
Reading a whole pattern: sequences, alternatives, repetitions and groups.

Groups that are open are kept on a stack. Each part is read with its nesting depth, and no part may
nest deeper than the limit.
-/

namespace PolicyGate.Pattern

open Unicode

/-- A part of a sequence. What only sets flags matches nothing and cannot be repeated. -/
structure Part where
  pattern : Pattern
  depth : Nat
  repeatable : Bool

structure Outer where
  parts : List Part
  branches : List Part
  flags : Flags
  numbered : Bool

structure State where
  flags : Flags
  names : List (List Char)
  parts : List Part
  branches : List Part
  outers : List Outer

def State.initial : State := ⟨{}, [], [], [], []⟩

def deepestPart (parts : List Part) : Nat := (parts.map Part.depth).foldl max 0

def sequence : List Part → Part
  | [] => ⟨.empty, 0, true⟩
  | [part] => part
  | parts =>
    ⟨parts.foldl (fun later part => .seq part.pattern later) .empty, 1 + deepestPart parts, true⟩

def State.content (state : State) : Part :=
  let last := sequence state.parts
  match state.branches with
  | [] => last
  | branches =>
    let pattern := branches.foldl (fun later part => Pattern.either part.pattern later) last.pattern
    ⟨pattern, 1 + max last.depth (deepestPart branches), true⟩

def State.add (state : State) (part : Part) : State := { state with parts := part :: state.parts }

def State.addPattern (state : State) (pattern : Pattern) : State := state.add ⟨pattern, 0, true⟩

def literal (flags : Flags) (c : Char) : Pattern :=
  let single := CharSet.single c
  if !flags.ignoreCase then .one single
  else if flags.wide then .one (.folded single)
  else if c.toNat < 128 then .one (.inter .ascii (.folded single))
  else .one single

def Atom.toPattern (flags : Flags) : Atom → Pattern
  | .literal c => Pattern.literal flags c
  | .set chars => .one chars
  | .assertion kind => .assertion kind

/-- Any character, or any but those that end a line. Without wide characters it would match single
bytes, and is refused. -/
def dot (flags : Flags) : Option Pattern :=
  if !flags.wide then none
  else if flags.dotNewline then some (.one (.complement .empty))
  else if flags.returns then some (.one (.complement (.ofText "A D")))
  else some (.one (.complement (.single '\n')))

def startAnchor (flags : Flags) : Assertion :=
  if !flags.multiLine then .textStart else if flags.returns then .returnLineStart else .lineStart

def endAnchor (flags : Flags) : Assertion :=
  if !flags.multiLine then .textEnd else if flags.returns then .returnLineEnd else .lineEnd

def State.repeatLast (state : State) (least : Nat) (most : Option Nat) : Option State :=
  match state.parts with
  | part :: parts =>
    if part.repeatable then
      let repeated : Part := ⟨.repeated part.pattern least most, part.depth + 1, true⟩
      some { state with parts := repeated :: parts }
    else none
  | [] => none

def skipLazy : List Char → List Char
  | '?' :: rest => rest
  | rest => rest

def decimalFrom (flags : Flags) : Nat → List Char → List Char → List Char × List Char
  | fuel + 1, found, c :: rest =>
    if Text.isDigit c then decimalFrom flags fuel (c :: found) (gap flags rest)
    else (found.reverse, c :: rest)
  | _, found, rest => (found.reverse, rest)

def decimal (flags : Flags) (rest : List Char) : Option Nat × List Char :=
  let start := rest.dropWhile Text.isBlank
  let (digits, rest) := decimalFrom flags start.length [] start
  let rest := match rest.dropWhile Text.isBlank with
    | after => if after.length < rest.length then gap flags after else after
  let value := if digits = [] then none else (Text.number? 10 digits).filter (· < Nat.pow 2 32)
  (value, rest)

def bounds (flags : Flags) (rest : List Char) : Option (Nat × Option Nat × List Char) := do
  let (least, rest) := decimal flags (gap flags rest)
  let least ← least
  let (most, rest) ← match rest with
    | ',' :: rest =>
      match gap flags rest with
      | '}' :: rest => some (none, '}' :: rest)
      | rest => do
        let (most, rest) := decimal flags rest
        some (some (← most), rest)
    | rest => some (some least, rest)
  match rest with
  | '}' :: rest =>
    if most.all fun most => least ≤ most then some (least, most, skipLazy (gap flags rest))
    else none
  | _ => none

def isAlphabetic (c : Char) : Bool :=
  if c.toNat < 128 then c.isAlpha else Property.alphabetic.mem c

def isNumeric (c : Char) : Bool :=
  if c.toNat < 128 then c.isDigit else Category.number.mem c

def isNameChar (isFirst : Bool) (c : Char) : Bool :=
  c = '_' || isAlphabetic c || (!isFirst && (isNumeric c || c = '.' || c = '[' || c = ']'))

def groupNameFrom (found : List Char) : List Char → Option (List Char × List Char)
  | [] => none
  | c :: rest =>
    if c = '>' then (if found = [] then none else some (found.reverse, rest))
    else if isNameChar found.isEmpty c then groupNameFrom (c :: found) rest
    else none

/-- Flags up to the colon or parenthesis behind them, with that character and whether there was
any. No flag, and no minus, may occur twice, and a minus must not be last. -/
def flagsFrom (flags : Flags) (seen : List Char) :
    List Char → Option (Flags × Bool × Char × List Char)
  | [] => none
  | c :: rest =>
    if c = ':' ∨ c = ')' then
      if seen.head? = some '-' then none else some (flags, !seen.isEmpty, c, rest)
    else if seen.contains c then none
    else if c = '-' then flagsFrom flags (c :: seen) rest
    else
      match flags.set (!seen.contains '-') c with
      | some flags => flagsFrom flags (c :: seen) rest
      | none => none

def State.enter (state : State) (flags : Flags) (numbered : Bool) : State :=
  { state with
    flags
    parts := []
    branches := []
    outers := ⟨state.parts, state.branches, state.flags, numbered⟩ :: state.outers }

def State.enterNamed (state : State) (rest : List Char) : Option (State × List Char) := do
  let (name, rest) ← groupNameFrom [] rest
  if state.names.contains name then none
  else some ({ state with names := name :: state.names }.enter state.flags true, rest)

def State.openGroup (state : State) (rest : List Char) : Option (State × List Char) :=
  match gap state.flags rest with
  | '?' :: '=' :: _ | '?' :: '!' :: _ | '?' :: '<' :: '=' :: _ | '?' :: '<' :: '!' :: _ => none
  | '?' :: 'P' :: '<' :: rest | '?' :: '<' :: rest => state.enterNamed rest
  | '?' :: rest => do
    let (flags, any, last, rest) ← flagsFrom state.flags [] rest
    if last = ':' then some (state.enter flags false, rest)
    else if any then some ({ state with flags }.add ⟨.empty, 0, false⟩, rest)
    else none
  | rest => some (state.enter state.flags true, rest)

def State.closeGroup (state : State) : Option State :=
  match state.outers with
  | [] => none
  | outer :: outers =>
    let content := state.content
    let pattern := if outer.numbered then .captured content.pattern else content.pattern
    some {
      flags := outer.flags
      names := state.names
      parts := ⟨pattern, content.depth + 1, true⟩ :: outer.parts
      branches := outer.branches
      outers }

def State.nextBranch (state : State) : State :=
  { state with parts := [], branches := sequence state.parts :: state.branches }

def State.step (state : State) (c : Char) (rest : List Char) : Option (State × List Char) :=
  match c with
  | '(' => state.openGroup rest
  | ')' => do some (← state.closeGroup, rest)
  | '|' => some (state.nextBranch, rest)
  | '?' => do some (← state.repeatLast 0 (some 1), skipLazy rest)
  | '*' => do some (← state.repeatLast 0 none, skipLazy rest)
  | '+' => do some (← state.repeatLast 1 none, skipLazy rest)
  | '{' => do
    let (least, most, rest) ← bounds state.flags rest
    some (← state.repeatLast least most, rest)
  | '[' => do
    let (item, rest) ← bracketSet state.flags rest
    some (state.add ⟨.one item.set, item.depth, true⟩, rest)
  | '\\' => do
    let (atom, rest) ← escape state.flags rest
    some (state.addPattern (atom.toPattern state.flags), rest)
  | '.' => do some (state.addPattern (← dot state.flags), rest)
  | '^' => some (state.addPattern (.assertion (startAnchor state.flags)), rest)
  | '$' => some (state.addPattern (.assertion (endAnchor state.flags)), rest)
  | c => some (state.addPattern (literal state.flags c), rest)

def readFrom : Nat → State → List Char → Option Part
  | 0, _, _ => none
  | fuel + 1, state, rest =>
    match gap state.flags rest with
    | [] => if state.outers.isEmpty then some state.content else none
    | c :: rest => do
      let (state, rest) ← state.step c rest
      readFrom fuel state rest

def depthLimit : Nat := 250

def ofText? (text : String) : Option Pattern := do
  let chars := text.toList
  let part ← readFrom (chars.length + 1) .initial chars
  if part.depth ≤ depthLimit ∧ part.pattern.IsSmall then some part.pattern else none

end PolicyGate.Pattern
