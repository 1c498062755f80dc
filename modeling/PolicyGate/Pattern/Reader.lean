import PolicyGate.Pattern.Size
import PolicyGate.Unicode.PropertyName
import PolicyGate.Text.Blank
import PolicyGate.Text.Digit

/-!
Reading a pattern from its text.

The text is read from the left with the flags that hold where the reader stands: they change at
`(?flags)` until the end of the group, or for a group alone with `(?flags:...)`. Patterns begin
without regard to case. Whatever is not a pattern, or nests too deep, or grows too large, is
refused; looking around and referring back are no part of the language.
-/

namespace PolicyGate.Pattern

open Unicode

structure Flags where
  ignoreCase : Bool := true
  multiLine : Bool := false
  dotNewline : Bool := false
  swapGreed : Bool := false
  wide : Bool := true
  returns : Bool := false
  spaced : Bool := false

def Flags.set (flags : Flags) (value : Bool) : Char → Option Flags
  | 'i' => some { flags with ignoreCase := value }
  | 'm' => some { flags with multiLine := value }
  | 's' => some { flags with dotNewline := value }
  | 'U' => some { flags with swapGreed := value }
  | 'u' => some { flags with wide := value }
  | 'R' => some { flags with returns := value }
  | 'x' => some { flags with spaced := value }
  | _ => none

def skipSpaceFrom (inComment : Bool) : List Char → List Char
  | [] => []
  | c :: rest =>
    if inComment then skipSpaceFrom (c ≠ '\n') rest
    else if Text.isBlank c then skipSpaceFrom false rest
    else if c = '#' then skipSpaceFrom true rest
    else c :: rest

/-- Blanks and comments count only where the flags say that they do not. -/
def gap (flags : Flags) (rest : List Char) : List Char :=
  if flags.spaced then skipSpaceFrom false rest else rest

inductive Atom where
  | literal (c : Char)
  | set (chars : CharSet)
  | assertion (kind : Assertion)

def asciiWord : CharSet := .ofText "30-39 41-5A 5F 61-7A"

def letterSet (wide : Bool) : Char → Option CharSet
  | 'd' => some (if wide then Category.decimalNumber else .range 0x30 0x39)
  | 's' => some (if wide then Property.whiteSpace else .ofText "9-D 20")
  | 'w' => some (if wide then Property.word else asciiWord)
  | _ => none

def negate (wide negated : Bool) (set : CharSet) : Option CharSet :=
  if !negated then some set else if wide then some (.complement set) else none

def fold (flags : Flags) (set : CharSet) : CharSet := if flags.ignoreCase then set.close else set

def hexDigits (flags : Flags) : Nat → Nat → List Char → Option (Nat × List Char)
  | 0, value, rest => some (value, rest)
  | _ + 1, _, [] => none
  | count + 1, value, c :: rest => do
    let digit ← Text.hexDigit? c
    hexDigits flags count (16 * value + digit) (gap flags rest)

def bracedFrom (flags : Flags) : Nat → List Char → List Char → Option (List Char × List Char)
  | 0, _, _ => none
  | fuel + 1, found, rest =>
    match gap flags rest with
    | [] => none
    | '}' :: rest => some (found.reverse, rest)
    | c :: rest => bracedFrom flags fuel (c :: found) rest

def braced (flags : Flags) (rest : List Char) : Option (List Char × List Char) :=
  bracedFrom flags (rest.length + 1) [] rest

def hexEscape (flags : Flags) (digits : Nat) (rest : List Char) : Option (Atom × List Char) :=
  match gap flags rest with
  | '{' :: rest => do
    let (written, rest) ← braced flags rest
    if written = [] then none
    else
      let c ← (Text.number? 16 written).bind Text.character?
      some (.literal c, gap flags rest)
  | rest => do
    let (value, rest) ← hexDigits flags digits 0 rest
    let c ← Text.character? value
    if digits = 2 ∧ !flags.wide ∧ 0x7F < value then none else some (.literal c, rest)

def cutAt (separator before : List Char) : List Char → Option (List Char × List Char)
  | [] => none
  | c :: rest =>
    if separator.isPrefixOf (c :: rest) then
      some (before.reverse, (c :: rest).drop separator.length)
    else cutAt separator (c :: before) rest

def propertySet (name : List Char) : Option CharSet :=
  match (cutAt ['!', '='] [] name).or ((cutAt [':'] [] name).or (cutAt ['='] [] name)) with
  | some (name, value) => PropertyName.findValue? name value
  | none => PropertyName.find? name

def propertyEscape (flags : Flags) (negated : Bool) (rest : List Char) :
    Option (Atom × List Char) := do
  let (name, rest) ← match gap flags rest with
    | '{' :: rest => braced flags rest
    | '\\' :: _ => none
    | c :: rest => some ([c], gap flags rest)
    | [] => none
  if !flags.wide then none
  else
    let set ← propertySet name
    let set ← negate true negated (fold flags set)
    some (.set set, rest)

def isWordEdgeChar (c : Char) : Bool := c.isAlpha || c = '-'

def wordEdgeName (flags : Flags) : Nat → List Char → List Char → Option (List Char × List Char)
  | 0, _, _ => none
  | _ + 1, _, [] => none
  | fuel + 1, found, c :: rest =>
    if c = '}' then some (found.reverse, rest)
    else if isWordEdgeChar c then wordEdgeName flags fuel (c :: found) (gap flags rest)
    else none

/-- A word boundary, perhaps with a name in braces that says which. Braces that begin with
anything but a name belong to a repetition. -/
def boundaryEscape (flags : Flags) (rest : List Char) : Option (Atom × List Char) :=
  let plain := some (Atom.assertion (.boundary flags.wide), rest)
  match rest with
  | '{' :: inner =>
    match gap flags inner with
    | [] => none
    | c :: after =>
      if !isWordEdgeChar c then plain
      else do
        let (name, rest) ← wordEdgeName flags (after.length + 2) [] (c :: after)
        let kind ← match String.ofList name with
          | "start" => some (Assertion.wordStart flags.wide)
          | "end" => some (.wordEnd flags.wide)
          | "start-half" => some (.startHalf flags.wide)
          | "end-half" => some (.endHalf flags.wide)
          | _ => none
        some (.assertion kind, rest)
  | _ => plain

def isEscapable (c : Char) : Bool :=
  c.toNat < 128 && !c.isAlphanum && c ≠ '<' && c ≠ '>'

def escape (flags : Flags) : List Char → Option (Atom × List Char)
  | [] => none
  | c :: rest =>
    let special (c : Char) := some (Atom.literal c, rest)
    match c with
    | 'x' => hexEscape flags 2 rest
    | 'u' => hexEscape flags 4 rest
    | 'U' => hexEscape flags 8 rest
    | 'p' => propertyEscape flags false rest
    | 'P' => propertyEscape flags true rest
    | 'a' => special '\x07'
    | 'f' => special '\x0c'
    | 't' => special '\t'
    | 'n' => special '\n'
    | 'r' => special '\r'
    | 'v' => special '\x0b'
    | 'A' => some (.assertion .textStart, rest)
    | 'z' => some (.assertion .textEnd, rest)
    | 'b' => boundaryEscape flags rest
    | 'B' => some (.assertion (.noBoundary flags.wide), rest)
    | '<' => some (.assertion (.wordStart flags.wide), rest)
    | '>' => some (.assertion (.wordEnd flags.wide), rest)
    | _ =>
      match letterSet flags.wide c.toLower with
      | some set => do
        let set ← negate flags.wide c.isUpper set
        some (.set set, rest)
      | none => if isEscapable c then special c else none

end PolicyGate.Pattern
