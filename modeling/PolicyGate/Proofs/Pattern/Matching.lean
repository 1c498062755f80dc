import Mathlib.Logic.Function.Iterate
import PolicyGate.Pattern.Basic

/-!
What a pattern matches, said of two places of a text and without marks, and that a run finds just
that. A repetition without limit is run only as often as the text has places; by then the marks do
not grow any more, since every run that changes them sets one more.
-/

namespace PolicyGate.Pattern

open Unicode

def Chain (step : Nat → Nat → Prop) : Nat → Nat → Nat → Prop
  | 0, start, stop => start = stop
  | count + 1, start, stop => ∃ middle, step start middle ∧ Chain step count middle stop

/-- A match of the pattern from one place of the text to another. -/
def Matches (text : List Char) : Pattern → Nat → Nat → Prop
  | empty, start, stop => start = stop
  | assertion kind, start, stop =>
    start = stop ∧ ∃ site, (sites text)[start]? = some site ∧ kind.holds site = true
  | one set, start, stop => start + 1 = stop ∧ ∃ c, text[start]? = some c ∧ set.mem c = true
  | seq first second, start, stop =>
    ∃ middle, Matches text first start middle ∧ Matches text second middle stop
  | either left right, start, stop => Matches text left start stop ∨ Matches text right start stop
  | repeated body least most, start, stop =>
    ∃ extra, (∀ limit ∈ most, extra ≤ limit - least) ∧
      Chain (Matches text body) (least + extra) start stop
  | captured body, start, stop => Matches text body start stop

theorem chain_add {step : Nat → Nat → Prop} {first second start stop : Nat} :
    Chain step (first + second) start stop ↔
      ∃ middle, Chain step first start middle ∧ Chain step second middle stop := by
  induction first generalizing start with
  | zero => simp [Chain]
  | succ first ih =>
      rw [Nat.succ_add_eq_add_succ, Nat.add_succ]
      simp only [Chain, ih]
      constructor
      · rintro ⟨next, here, middle, before, behind⟩
        exact ⟨middle, ⟨next, here, before⟩, behind⟩
      · rintro ⟨middle, ⟨next, here, before⟩, behind⟩
        exact ⟨next, here, middle, before, behind⟩

def Marked (marks : Marks) (place : Nat) : Prop := marks[place]? = some true

/-- On marks for so many places, a run goes from every marked place wherever a step leads. -/
structure Traces (size : Nat) (run : Marks → Marks) (step : Nat → Nat → Prop) : Prop where
  length : ∀ marks, marks.length = size → (run marks).length = size
  marked : ∀ marks, marks.length = size → ∀ stop,
    Marked (run marks) stop ↔ ∃ start, Marked marks start ∧ step start stop

theorem length_join {left right : Marks} (same : left.length = right.length) :
    (join left right).length = left.length := by
  rw [join, List.length_zipWith, same, Nat.min_self]

theorem marked_join {left right : Marks} (same : left.length = right.length) (place : Nat) :
    Marked (join left right) place ↔ Marked left place ∨ Marked right place := by
  induction left generalizing right place with
  | nil =>
      cases right with
      | nil => simp [Marked, join]
      | cons mark right => simp at same
  | cons first left ih =>
      cases right with
      | nil => simp at same
      | cons second right =>
          cases place with
          | zero => simp [Marked, join]
          | succ place =>
              have rest := ih (Nat.succ.inj same) place
              simpa [Marked, join] using rest

theorem join_eq_or_lt {left right : Marks} (same : left.length = right.length) :
    join left right = left ∨ (join left right).count false < left.count false := by
  induction left generalizing right with
  | nil => exact Or.inl rfl
  | cons first left ih =>
      cases right with
      | nil => simp at same
      | cons second right =>
          have rest := ih (Nat.succ.inj same)
          rw [join] at rest ⊢
          rw [List.zipWith_cons_cons]
          by_cases grows : first = false ∧ second = true
          · right
            rcases rest with kept | fewer
            · simp [grows, kept]
            · simp only [grows, Bool.or_true, List.count_cons_of_ne, ne_eq, Bool.true_eq_false,
                not_false_eq_true, List.count_cons_self]
              omega
          · have head : (first || second) = first := by
              cases first <;> simp_all
            rw [head]
            rcases rest with kept | fewer
            · left
              rw [kept]
            · right
              rw [List.count_cons, List.count_cons]
              omega

def widen (run : Marks → Marks) (marks : Marks) : Marks := join marks (run marks)

theorem iterate_eq (run : Marks → Marks) (count : Nat) (marks : Marks) :
    iterate run count marks = run^[count] marks := by
  induction count generalizing marks with
  | zero => rfl
  | succ count ih =>
      rw [iterate, Function.iterate_succ_apply]
      split
      · next fixed => rw [fixed, Function.iterate_fixed fixed]
      · exact ih _

theorem spread_eq (run : Marks → Marks) (count : Nat) (marks : Marks) :
    spread run count marks = (widen run)^[count] marks := by
  induction count generalizing marks with
  | zero => rfl
  | succ count ih =>
      rw [spread, Function.iterate_succ_apply]
      split
      · next fixed =>
          have same : widen run marks = marks := fixed
          rw [same, Function.iterate_fixed same]
      · exact ih _

namespace Traces

variable {size : Nat} {run other : Marks → Marks} {step next : Nat → Nat → Prop}

theorem of_iff (traces : Traces size run step) (same : ∀ marks, other marks = run marks)
    (meaning : ∀ start stop, next start stop ↔ step start stop) : Traces size other next where
  length marks fits := by
    rw [same, traces.length marks fits]
  marked marks fits stop := by
    simp only [same, traces.marked marks fits, meaning]

theorem comp (first : Traces size run step) (second : Traces size other next) :
    Traces size (other ∘ run) fun start stop => ∃ middle, step start middle ∧ next middle stop where
  length marks fits := second.length _ (first.length marks fits)
  marked marks fits stop := by
    rw [Function.comp_apply, second.marked _ (first.length marks fits)]
    simp only [first.marked marks fits]
    constructor
    · rintro ⟨middle, ⟨start, marked, before⟩, behind⟩
      exact ⟨start, marked, middle, before, behind⟩
    · rintro ⟨start, marked, middle, before, behind⟩
      exact ⟨middle, ⟨start, marked, before⟩, behind⟩

theorem join (left : Traces size run step) (right : Traces size other next) :
    Traces size (fun marks => Pattern.join (run marks) (other marks))
      fun start stop => step start stop ∨ next start stop where
  length marks fits := by
    have same := (left.length marks fits).trans (right.length marks fits).symm
    rw [length_join same, left.length marks fits]
  marked marks fits stop := by
    have same := (left.length marks fits).trans (right.length marks fits).symm
    rw [marked_join same, left.marked marks fits, right.marked marks fits]
    simp only [and_or_left, exists_or]

theorem iterate (traces : Traces size run step) (count : Nat) :
    Traces size run^[count] (Chain step count) where
  length marks fits := by
    induction count generalizing marks with
    | zero => exact fits
    | succ count ih => exact ih _ (traces.length marks fits)
  marked marks fits stop := by
    induction count generalizing marks with
    | zero => simp [Chain]
    | succ count ih =>
        rw [Function.iterate_succ_apply, ih _ (traces.length marks fits)]
        simp only [traces.marked marks fits, Chain]
        constructor
        · rintro ⟨middle, ⟨start, marked, here⟩, behind⟩
          exact ⟨start, marked, middle, here, behind⟩
        · rintro ⟨start, marked, middle, here, behind⟩
          exact ⟨middle, ⟨start, marked, here⟩, behind⟩

theorem widen (traces : Traces size run step) :
    Traces size (widen run) fun start stop => start = stop ∨ step start stop := by
  have still : Traces size id Eq := ⟨fun _ fits => fits, by simp⟩
  exact still.join traces

theorem chain_or_iff {count start stop : Nat} :
    Chain (fun start stop => start = stop ∨ step start stop) count start stop ↔
      ∃ extra ≤ count, Chain step extra start stop := by
  induction count generalizing start with
  | zero => simp [Chain]
  | succ count ih =>
      simp only [Chain, ih]
      constructor
      · rintro ⟨middle, rfl | here, extra, bound, rest⟩
        · exact ⟨extra, by omega, rest⟩
        · exact ⟨extra + 1, by omega, middle, here, rest⟩
      · rintro ⟨extra, bound, chain⟩
        cases extra with
        | zero => exact ⟨start, Or.inl rfl, 0, by omega, chain⟩
        | succ extra =>
            obtain ⟨middle, here, rest⟩ := chain
            exact ⟨middle, Or.inr here, extra, by omega, rest⟩

theorem spread (traces : Traces size run step) (count : Nat) :
    Traces size (Pattern.widen run)^[count]
      fun start stop => ∃ extra ≤ count, Chain step extra start stop where
  length := (traces.widen.iterate count).length
  marked marks fits stop := by
    simp only [(traces.widen.iterate count).marked marks fits, chain_or_iff]

theorem widen_fixed (traces : Traces size run step) {marks : Marks} (fits : marks.length = size)
    {count : Nat} (enough : marks.count false ≤ count) :
    Pattern.widen run ((Pattern.widen run)^[count] marks) = (Pattern.widen run)^[count] marks := by
  have alike (marks : Marks) (fits : marks.length = size) :
      marks.length = (run marks).length := by
    rw [fits, traces.length marks fits]
  induction count generalizing marks with
  | zero =>
      have least := join_eq_or_lt (alike marks fits)
      exact least.resolve_right (by omega)
  | succ count ih =>
      rw [Function.iterate_succ_apply]
      rcases join_eq_or_lt (alike marks fits) with fixed | fewer
      · have same : Pattern.widen run marks = marks := fixed
        rw [same, Function.iterate_fixed same, same]
      · have smaller : (Pattern.widen run marks).count false < marks.count false := fewer
        exact ih (traces.widen.length marks fits) (by omega)

theorem marked_of_fixed (traces : Traces size run step) {marks : Marks}
    (fits : marks.length = size) (fixed : Pattern.widen run marks = marks) {extra start stop : Nat}
    (marked : Marked marks start) (chain : Chain step extra start stop) : Marked marks stop := by
  induction extra generalizing start with
  | zero => exact chain ▸ marked
  | succ extra ih =>
      obtain ⟨middle, here, rest⟩ := chain
      refine ih ?_ rest
      rw [← fixed, traces.widen.marked marks fits]
      exact ⟨start, marked, Or.inr here⟩

theorem saturate (traces : Traces size run step) {count : Nat} (enough : size ≤ count) :
    Traces size (Pattern.widen run)^[count]
      fun start stop => ∃ extra, Chain step extra start stop where
  length := (traces.spread count).length
  marked marks fits stop := by
    constructor
    · intro marked
      obtain ⟨start, begun, extra, _, chain⟩ :=
        ((traces.spread count).marked marks fits stop).mp marked
      exact ⟨start, begun, extra, chain⟩
    · rintro ⟨start, begun, extra, chain⟩
      have places : marks.count false ≤ count := by
        have bound := List.count_le_length (a := false) (l := marks)
        omega
      have kept : Marked ((Pattern.widen run)^[count] marks) start :=
        ((traces.spread count).marked marks fits start).mpr ⟨start, begun, 0, by omega, rfl⟩
      exact traces.marked_of_fixed ((traces.spread count).length marks fits)
        (traces.widen_fixed fits places) kept chain

theorem limited (traces : Traces size run step) (limit : Nat) :
    Traces size (Pattern.widen run)^[min limit size]
      fun start stop => ∃ extra ≤ limit, Chain step extra start stop := by
  by_cases short : limit ≤ size
  · rw [Nat.min_eq_left short]
    exact traces.spread limit
  · rw [Nat.min_eq_right (by omega)]
    refine ⟨(traces.spread size).length, fun marks fits stop => ⟨?_, ?_⟩⟩
    · intro marked
      obtain ⟨start, begun, extra, bound, chain⟩ :=
        ((traces.spread size).marked marks fits stop).mp marked
      exact ⟨start, begun, extra, by omega, chain⟩
    · rintro ⟨start, begun, extra, _, chain⟩
      exact ((traces.saturate (Nat.le_refl size)).marked marks fits stop).mpr
        ⟨start, begun, extra, chain⟩

end Traces

theorem length_sitesFrom (before : Option Char) (text : List Char) :
    (sitesFrom before text).length = text.length + 1 := by
  induction text generalizing before with
  | nil => rfl
  | cons c text ih => rw [sitesFrom, List.length_cons, ih, List.length_cons]

theorem traces_assertion (text : List Char) (kind : Assertion) :
    Traces (text.length + 1) ((assertion kind).run text) (Matches text (assertion kind)) where
  length marks fits := by
    rw [run, List.length_zipWith, sites, length_sitesFrom, fits, Nat.min_self]
  marked marks fits stop := by
    simp only [Marked, run, List.getElem?_zipWith_eq_some, Matches, Bool.and_eq_true]
    constructor
    · rintro ⟨mark, site, marked, here, rfl, holds⟩
      exact ⟨stop, marked, rfl, site, here, holds⟩
    · rintro ⟨start, marked, rfl, site, here, holds⟩
      exact ⟨true, site, marked, here, rfl, holds⟩

theorem traces_one (text : List Char) (set : CharSet) :
    Traces (text.length + 1) ((one set).run text) (Matches text (one set)) where
  length marks fits := by
    rw [run, List.length_cons, List.length_zipWith, fits]
    omega
  marked marks fits stop := by
    cases stop with
    | zero => simp [Marked, run, Matches]
    | succ place =>
        simp only [Marked, run, List.getElem?_cons_succ, List.getElem?_zipWith_eq_some, Matches,
          Bool.and_eq_true]
        constructor
        · rintro ⟨mark, c, marked, here, rfl, member⟩
          exact ⟨place, marked, rfl, c, here, member⟩
        · rintro ⟨start, marked, next, c, here, member⟩
          obtain rfl := Nat.succ.inj next
          exact ⟨true, c, marked, here, rfl, member⟩

theorem traces_repeated {text : List Char} {body : Pattern} (least : Nat) (most : Option Nat)
    (traces : Traces (text.length + 1) (body.run text) (Matches text body)) :
    Traces (text.length + 1) ((repeated body least most).run text)
      (Matches text (repeated body least most)) := by
  cases most with
  | none =>
      have unlimited := (traces.iterate least).comp (traces.saturate (Nat.le_refl _))
      refine unlimited.of_iff (fun marks => ?_) fun start stop => ?_
      · simp only [run, iterate_eq, spread_eq, Function.comp_apply]
      · simp only [Matches, chain_add]
        constructor
        · rintro ⟨extra, _, middle, before, behind⟩
          exact ⟨middle, before, extra, behind⟩
        · rintro ⟨middle, before, extra, behind⟩
          exact ⟨extra, by simp, middle, before, behind⟩
  | some limit =>
      have limited := (traces.iterate least).comp (traces.limited (limit - least))
      refine limited.of_iff (fun marks => ?_) fun start stop => ?_
      · simp only [run, iterate_eq, spread_eq, Function.comp_apply]
      · simp only [Matches, chain_add]
        constructor
        · rintro ⟨extra, bound, middle, before, behind⟩
          exact ⟨middle, before, extra, bound limit rfl, behind⟩
        · rintro ⟨middle, before, extra, bound, behind⟩
          exact ⟨extra, by simpa using bound, middle, before, behind⟩

/-- A run finds what the pattern matches from one of the marked places, and nothing else. -/
theorem traces_run (text : List Char) (pattern : Pattern) :
    Traces (text.length + 1) (pattern.run text) (Matches text pattern) := by
  induction pattern with
  | empty => exact ⟨fun _ fits => fits, by simp [run, Matches]⟩
  | assertion kind => exact traces_assertion text kind
  | one set => exact traces_one text set
  | seq first second before behind => exact before.comp behind
  | either left right here there => exact here.join there
  | repeated body least most traces => exact traces_repeated least most traces
  | captured body traces => exact traces

theorem occursIn_iff (pattern : Pattern) (text : List Char) :
    pattern.occursIn text = true ↔
      ∃ start stop, start ≤ text.length ∧ Matches text pattern start stop := by
  have traces := traces_run text pattern
  have everywhere (start : Nat) :
      Marked (List.replicate (text.length + 1) true) start ↔ start ≤ text.length := by
    simp only [Marked, List.getElem?_replicate, Option.ite_none_right_eq_some, and_true]
    omega
  rw [occursIn, List.any_eq_true]
  constructor
  · rintro ⟨mark, member, rfl⟩
    obtain ⟨stop, marked⟩ := List.mem_iff_getElem?.mp member
    obtain ⟨start, begun, found⟩ := (traces.marked _ List.length_replicate stop).mp marked
    exact ⟨start, stop, (everywhere start).mp begun, found⟩
  · rintro ⟨start, stop, inside, found⟩
    have marked := (traces.marked _ List.length_replicate stop).mpr
      ⟨start, (everywhere start).mpr inside, found⟩
    exact ⟨true, List.mem_iff_getElem?.mpr ⟨stop, marked⟩, rfl⟩

end PolicyGate.Pattern
