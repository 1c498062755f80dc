import PolicyGate.Unicode.CharSet
import PolicyGate.Unicode.Property

/-!
Patterns for headings, and where in a text they are found.

A pattern is run on a set of places in the text and gives the places at which a match from one of
those may end. Places are marks in a list: the first is the start of the text, and there is one
behind every character. So a pattern is found in a text when some mark remains of all marks.
-/

namespace PolicyGate

open Unicode

structure Site where
  before : Option Char
  after : Option Char

inductive Assertion where
  | textStart
  | textEnd
  | lineStart
  | lineEnd
  | returnLineStart
  | returnLineEnd
  | boundary (wide : Bool)
  | noBoundary (wide : Bool)
  | wordStart (wide : Bool)
  | wordEnd (wide : Bool)
  | startHalf (wide : Bool)
  | endHalf (wide : Bool)
  deriving DecidableEq

namespace Assertion

def isWordChar (wide : Bool) (c : Char) : Bool :=
  if wide then isWord c else c.isAlphanum || c == '_'

def word (wide : Bool) (neighbour : Option Char) : Bool :=
  (neighbour.map (isWordChar wide)).getD false

def holds (site : Site) : Assertion → Bool
  | textStart => site.before.isNone
  | textEnd => site.after.isNone
  | lineStart => site.before.isNone || site.before = some '\n'
  | lineEnd => site.after.isNone || site.after = some '\n'
  | returnLineStart =>
    site.before.isNone || site.before = some '\n' ||
      (site.before = some '\r' && site.after ≠ some '\n')
  | returnLineEnd =>
    site.after.isNone || site.after = some '\r' ||
      (site.after = some '\n' && site.before ≠ some '\r')
  | boundary wide => word wide site.before != word wide site.after
  | noBoundary wide => word wide site.before == word wide site.after
  | wordStart wide => !word wide site.before && word wide site.after
  | wordEnd wide => word wide site.before && !word wide site.after
  | startHalf wide => !word wide site.before
  | endHalf wide => !word wide site.after

end Assertion

inductive Pattern where
  | empty
  | assertion (kind : Assertion)
  | one (set : CharSet)
  | seq (first second : Pattern)
  | either (left right : Pattern)
  | repeated (body : Pattern) (least : Nat) (most : Option Nat)
  /-- A group that is numbered, which matters to the size of a pattern alone. -/
  | captured (body : Pattern)

namespace Pattern

def sitesFrom (before : Option Char) : List Char → List Site
  | [] => [⟨before, none⟩]
  | c :: rest => ⟨before, some c⟩ :: sitesFrom (some c) rest

def sites (text : List Char) : List Site := sitesFrom none text

abbrev Marks := List Bool

def join (left right : Marks) : Marks := List.zipWith (· || ·) left right

def iterate (run : Marks → Marks) : Nat → Marks → Marks
  | 0, marks => marks
  | count + 1, marks =>
    let next := run marks
    if next = marks then marks else iterate run count next

def spread (run : Marks → Marks) : Nat → Marks → Marks
  | 0, marks => marks
  | count + 1, marks =>
    let next := join marks (run marks)
    if next = marks then marks else spread run count next

/-- A pattern that may be repeated without limit needs no more runs than the text has places. -/
def run (text : List Char) : Pattern → Marks → Marks
  | empty, marks => marks
  | assertion kind, marks =>
    List.zipWith (fun mark site => mark && kind.holds site) marks (sites text)
  | one set, marks => false :: List.zipWith (fun mark c => mark && set.mem c) marks text
  | seq first second, marks => run text second (run text first marks)
  | either left right, marks => join (run text left marks) (run text right marks)
  | repeated body least most, marks =>
    let start := iterate (run text body) least marks
    let extra := match most with
      | some most => min (most - least) (text.length + 1)
      | none => text.length + 1
    spread (run text body) extra start
  | captured body, marks => run text body marks

def occursIn (pattern : Pattern) (text : List Char) : Bool :=
  (pattern.run text (List.replicate (text.length + 1) true)).any id

end Pattern

end PolicyGate
