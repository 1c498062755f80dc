import Mathlib.Data.List.Forall2
import PolicyGate.Pattern.Groups
import PolicyGate.Proofs.Pattern.Matching

/-!
Matches read from the left: what the first piece of a sequence takes from the text, and what is
left to the rest of it. Wherever a pattern that begins with a plain word is found, the word stands
in the text, letter by letter up to case.
-/

namespace PolicyGate.Pattern

open Unicode

def spelling (word : List Char) (tail : Pattern) : Pattern :=
  word.foldr (fun c later => .seq (literal {} c) later) tail

/-- Some match of the pattern begins where the first part of the text ends. -/
def Begins (pattern : Pattern) (front rest : List Char) : Prop :=
  ∃ stop, Matches (front ++ rest) pattern front.length stop

theorem occursIn_iff_begins (pattern : Pattern) (text : List Char) :
    pattern.occursIn text = true ↔
      ∃ front rest, text = front ++ rest ∧ pattern.Begins front rest := by
  rw [occursIn_iff]
  constructor
  · rintro ⟨start, stop, inside, found⟩
    refine ⟨text.take start, text.drop start, (List.take_append_drop start text).symm, stop, ?_⟩
    rwa [List.take_append_drop, List.length_take_of_le inside]
  · rintro ⟨front, rest, rfl, stop, found⟩
    exact ⟨front.length, stop, by simp, found⟩

theorem begins_empty (front rest : List Char) : empty.Begins front rest :=
  ⟨front.length, rfl⟩

theorem begins_either {left right : Pattern} {front rest : List Char} :
    (either left right).Begins front rest ↔ left.Begins front rest ∨ right.Begins front rest := by
  simp only [Begins, Matches, exists_or]

theorem occursIn_either {left right : Pattern} {text : List Char} :
    (either left right).occursIn text = true ↔
      left.occursIn text = true ∨ right.occursIn text = true := by
  simp only [occursIn_iff_begins, begins_either, and_or_left, exists_or]

theorem begins_empty_seq {tail : Pattern} {front rest : List Char} :
    (seq empty tail).Begins front rest ↔ tail.Begins front rest := by
  simp only [Begins, Matches, exists_eq_left']

theorem occursIn_empty_seq {tail : Pattern} {text : List Char} :
    (seq empty tail).occursIn text = true ↔ tail.occursIn text = true := by
  simp only [occursIn_iff_begins, begins_empty_seq]

theorem getElem?_sitesFrom (before : Option Char) (front rest : List Char) :
    (sitesFrom before (front ++ rest))[front.length]? =
      some ⟨front.getLast?.or before, rest.head?⟩ := by
  induction front generalizing before with
  | nil => cases rest <;> rfl
  | cons c front ih =>
      rw [List.cons_append, sitesFrom, List.length_cons, List.getElem?_cons_succ, ih,
        List.getLast?_cons]
      cases front.getLast? <;> rfl

theorem begins_assertion_seq {kind : Assertion} {tail : Pattern} {front rest : List Char} :
    (seq (assertion kind) tail).Begins front rest ↔
      kind.holds ⟨front.getLast?, rest.head?⟩ = true ∧ tail.Begins front rest := by
  have here : (sites (front ++ rest))[front.length]? = some ⟨front.getLast?, rest.head?⟩ := by
    rw [sites, getElem?_sitesFrom, Option.or_none]
  simp only [Begins, Matches]
  constructor
  · rintro ⟨stop, middle, ⟨rfl, site, same, holds⟩, found⟩
    rw [here, Option.some.injEq] at same
    exact ⟨same ▸ holds, stop, found⟩
  · rintro ⟨holds, stop, found⟩
    exact ⟨stop, front.length, ⟨rfl, _, here, holds⟩, found⟩

theorem begins_seq {first second : Pattern} {front rest : List Char} {Fits : List Char → Prop}
    (takes : ∀ stop, Matches (front ++ rest) first front.length stop ↔
      ∃ found after, rest = found ++ after ∧ Fits found ∧ stop = (front ++ found).length) :
    (seq first second).Begins front rest ↔
      ∃ found after, rest = found ++ after ∧ Fits found ∧ second.Begins (front ++ found) after := by
  constructor
  · rintro ⟨stop, middle, taken, behind⟩
    obtain ⟨found, after, rfl, fits, rfl⟩ := (takes middle).mp taken
    exact ⟨found, after, rfl, fits, stop, by rwa [List.append_assoc]⟩
  · rintro ⟨found, after, rfl, fits, stop, behind⟩
    rw [List.append_assoc] at behind
    exact ⟨stop, _, (takes _).mpr ⟨found, after, rfl, fits, rfl⟩, behind⟩

theorem matches_one_iff {set : CharSet} {front rest : List Char} {stop : Nat} :
    Matches (front ++ rest) (one set) front.length stop ↔
      ∃ found after, rest = found ++ after ∧ (∃ c, found = [c] ∧ set.mem c = true) ∧
        stop = (front ++ found).length := by
  have here : (front ++ rest)[front.length]? = rest.head? := by
    rw [List.getElem?_append_right (Nat.le_refl _), Nat.sub_self, List.head?_eq_getElem?]
  rw [Matches, here]
  constructor
  · rintro ⟨rfl, c, first, member⟩
    obtain ⟨after, whole⟩ := List.head?_eq_some_iff.mp first
    exact ⟨[c], after, whole, ⟨c, rfl, member⟩, by simp⟩
  · rintro ⟨_, after, rfl, ⟨c, rfl, member⟩, rfl⟩
    exact ⟨by simp, c, rfl, member⟩

theorem chain_one_iff {set : CharSet} {count stop : Nat} {front rest : List Char} :
    Chain (Matches (front ++ rest) (one set)) count front.length stop ↔
      ∃ found after, rest = found ++ after ∧ found.length = count ∧
        (∀ c ∈ found, set.mem c = true) ∧ stop = (front ++ found).length := by
  induction count generalizing front rest with
  | zero =>
      constructor
      · rintro rfl
        exact ⟨[], rest, rfl, rfl, by simp, by simp⟩
      · rintro ⟨found, after, whole, short, _, rfl⟩
        simp [Chain, List.length_eq_zero_iff.mp short]
  | succ count ih =>
      simp only [Chain, matches_one_iff]
      constructor
      · rintro ⟨_, ⟨_, after, rfl, ⟨c, rfl, member⟩, rfl⟩, chain⟩
        rw [← List.append_assoc, ih] at chain
        obtain ⟨found, final, rfl, size, members, rfl⟩ := chain
        exact ⟨c :: found, final, rfl, by simp [size], List.forall_mem_cons.mpr ⟨member, members⟩,
          by simp⟩
      · rintro ⟨found, final, whole, size, members, rfl⟩
        obtain ⟨c, found, rfl⟩ := List.exists_cons_of_length_eq_add_one size
        rw [List.forall_mem_cons] at members
        refine ⟨_, ⟨[c], found ++ final, whole, ⟨c, rfl, members.1⟩, rfl⟩, ?_⟩
        rw [whole, List.cons_append, List.append_cons, ih]
        exact ⟨found, final, rfl, by simpa using size, members.2, by simp⟩

theorem begins_gap {set : CharSet} {tail : Pattern} {front rest : List Char} :
    (seq (repeated (one set) 0 none) tail).Begins front rest ↔
      ∃ found after, rest = found ++ after ∧ (∀ c ∈ found, set.mem c = true) ∧
        tail.Begins (front ++ found) after := by
  refine begins_seq fun stop => ?_
  constructor
  · rintro ⟨extra, _, chain⟩
    rw [Nat.zero_add, chain_one_iff] at chain
    obtain ⟨found, after, whole, _, members, ends⟩ := chain
    exact ⟨found, after, whole, members, ends⟩
  · rintro ⟨found, after, whole, members, ends⟩
    refine ⟨found.length, by simp, ?_⟩
    rw [Nat.zero_add, chain_one_iff]
    exact ⟨found, after, whole, rfl, members, ends⟩

theorem mem_folded_single {letter c : Char} :
    (CharSet.folded (.single letter)).mem c = true ↔ letter ∈ caseVariants c := by
  rw [CharSet.mem, List.any_eq_true]
  constructor
  · rintro ⟨variant, among, same⟩
    simp only [CharSet.single, CharSet.mem, Bool.and_eq_true, decide_eq_true_eq] at same
    have point : variant.toNat = letter.toNat := by omega
    rwa [← Char.ofNat_toNat letter, ← point, Char.ofNat_toNat]
  · intro member
    exact ⟨letter, member, by simp [CharSet.single, CharSet.mem]⟩

theorem begins_letter {letter : Char} {tail : Pattern} {front rest : List Char} :
    (seq (literal {} letter) tail).Begins front rest ↔
      ∃ c after, rest = c :: after ∧ letter ∈ caseVariants c ∧
        tail.Begins (front ++ [c]) after := by
  change (seq (one (.folded (.single letter))) tail).Begins front rest ↔ _
  simp only [begins_seq fun _ => matches_one_iff, mem_folded_single]
  constructor
  · rintro ⟨_, after, rfl, ⟨c, rfl, member⟩, begins⟩
    exact ⟨c, after, rfl, member, begins⟩
  · rintro ⟨c, after, rfl, member, begins⟩
    exact ⟨[c], after, rfl, ⟨c, rfl, member⟩, begins⟩

theorem begins_spelling {word : List Char} {tail : Pattern} {front rest : List Char} :
    (spelling word tail).Begins front rest ↔
      ∃ found after, rest = found ++ after ∧
        List.Forall₂ (fun c letter => letter ∈ caseVariants c) found word ∧
        tail.Begins (front ++ found) after := by
  induction word generalizing front rest with
  | nil =>
      simp only [spelling, List.foldr_nil]
      constructor
      · intro begins
        exact ⟨[], rest, rfl, .nil, by simpa using begins⟩
      · rintro ⟨found, after, rfl, spelled, begins⟩
        cases spelled
        simpa using begins
  | cons letter word ih =>
      change (seq (literal {} letter) (spelling word tail)).Begins front rest ↔ _
      simp only [begins_letter, ih]
      constructor
      · rintro ⟨c, _, rfl, member, found, after, rfl, spelled, begins⟩
        exact ⟨c :: found, after, rfl, .cons member spelled, by simpa using begins⟩
      · rintro ⟨found, after, rfl, spelled, begins⟩
        cases spelled with
        | cons member spelled =>
            exact ⟨_, _, rfl, member, _, after, rfl, spelled, by simpa using begins⟩

theorem occursIn_spelling_iff {text word : List Char} {tail : Pattern} :
    (spelling word tail).occursIn text = true ↔
      ∃ front found after, text = front ++ found ++ after ∧
        List.Forall₂ (fun c letter => letter ∈ caseVariants c) found word ∧
        tail.Begins (front ++ found) after := by
  simp only [occursIn_iff_begins, begins_spelling]
  constructor
  · rintro ⟨front, _, rfl, found, after, rfl, spelled, begins⟩
    exact ⟨front, found, after, by simp, spelled, begins⟩
  · rintro ⟨front, found, after, rfl, spelled, begins⟩
    exact ⟨front, found ++ after, by simp, found, after, rfl, spelled, begins⟩

theorem occursIn_spelling {text word : List Char} {tail : Pattern}
    (occurs : (spelling word tail).occursIn text = true) :
    ∃ found, found <:+: text ∧
      List.Forall₂ (fun c letter => letter ∈ caseVariants c) found word := by
  obtain ⟨front, found, after, rfl, spelled, _⟩ := occursIn_spelling_iff.mp occurs
  exact ⟨found, List.infix_append front found after, spelled⟩

end PolicyGate.Pattern
