import PolicyGate.Proofs.Unicode.Blanks
import PolicyGate.Proofs.Unicode.Letters

/-!
Lower case is final: what it gives, it leaves as it is wherever that stands. The table moves no
character to one that it moves again, and none that shows to a blank.
-/

namespace PolicyGate.Unicode

namespace CaseRun

def image (run : CaseRun) : CaseRun :=
  ⟨((run.first : Int) + run.shift).toNat, ((run.last : Int) + run.shift).toNat, run.step, 0⟩

/-- Whether no point lies in both runs: one ends before the other begins, or goes between its
points. -/
def apart (left right : CaseRun) : Bool :=
  Nat.blt left.last right.first || Nat.blt right.last left.first ||
    Nat.beq left.step right.step &&
      !Nat.beq (left.first % left.step) (right.first % right.step) ||
    Nat.beq left.first left.last && !right.covers left.first

theorem covers_iff (run : CaseRun) (point : Nat) :
    run.covers point = true ↔ point ≤ run.last ∧ ∃ count, point = run.first + run.step * count := by
  simp only [covers, Bool.and_eq_true, decide_eq_true_eq, beq_iff_eq]
  constructor
  · rintro ⟨⟨first, last⟩, whole⟩
    obtain ⟨count, distance⟩ := Nat.dvd_of_mod_eq_zero whole
    exact ⟨last, count, by omega⟩
  · rintro ⟨last, count, rfl⟩
    exact ⟨⟨Nat.le_add_right _ _, last⟩, by rw [Nat.add_sub_cancel_left, Nat.mul_mod_right]⟩

theorem covers_image {run : CaseRun} {point : Nat} (covered : run.covers point = true)
    (positive : 0 ≤ (run.first : Int) + run.shift) :
    run.image.covers ((point : Int) + run.shift).toNat = true := by
  rw [covers_iff] at covered ⊢
  obtain ⟨last, count, rfl⟩ := covered
  simp only [image]
  exact ⟨by omega, count, by omega⟩

theorem not_covers_of_apart {left right : CaseRun} {point : Nat} (disjoint : left.apart right = true)
    (covered : left.covers point = true) : right.covers point = false := by
  rw [Bool.eq_false_iff]
  intro again
  have bounds := bounds_of_covers covered
  have others := bounds_of_covers again
  simp only [apart, Bool.or_eq_true, Bool.and_eq_true, Nat.blt_eq, Nat.beq_eq, Bool.not_eq_true']
    at disjoint
  rcases disjoint with ((before | behind) | ⟨sameStep, between⟩) | ⟨single, missed⟩
  · omega
  · omega
  · obtain ⟨_, count, here⟩ := (covers_iff left point).mp covered
    obtain ⟨_, steps, there⟩ := (covers_iff right point).mp again
    have same : left.first % left.step = right.first % right.step := by
      rw [← Nat.add_mul_mod_self_left left.first left.step count, ← here, there, sameStep,
        Nat.add_mul_mod_self_left]
    rw [same, Nat.beq_refl] at between
    contradiction
  · have first : point = left.first := by omega
    rw [first, missed] at again
    contradiction

end CaseRun

theorem lowerRuns_apart :
    (lowerRuns.all fun run => clearOfBlanks run.image.first run.image.last &&
      (⟨0x130, 0x130, 1, 0⟩ :: lowerRuns).all run.image.apart) = true := by
  decide +kernel

/-- Lower case leaves the character as it is, in whatever text it stands. -/
def Lowered (c : Char) : Prop := lowerChar c = [c] ∧ c ≠ 'Σ'

theorem lowered_special : CaseRun.apply lowerRuns 0x3A3 ≠ 0x3A3 ∧
    (lowerChar 'σ' = ['σ'] ∧ lowerChar 'ς' = ['ς']) ∧ lowerChar '\u0307' = ['\u0307'] := by
  decide

theorem lowered_of_ascii {c : Char} (ascii : c.toNat < 128) (small : c.isUpper = false) :
    Lowered c := by
  constructor
  · rw [lowerChar, if_pos ascii, toLower_of_small small]
  · rintro rfl
    exact absurd ascii (by decide)

theorem lowered_of_unmoved {c : Char} (wide : 128 ≤ c.toNat) (dotless : c.toNat ≠ 0x130)
    (stays : CaseRun.apply lowerRuns c.toNat = c.toNat) : Lowered c := by
  constructor
  · rw [lowerChar, if_neg (by omega), if_neg dotless, stays, Char.ofNat_toNat]
  · rintro rfl
    exact absurd stays lowered_special.1

theorem lowered_of_image {c : Char} {run : CaseRun} (among : run ∈ lowerRuns)
    (image : run.image.covers c.toNat = true) (wide : 128 ≤ c.toNat) : Lowered c := by
  have disjoint := (Bool.and_eq_true_iff.mp (List.all_eq_true.mp lowerRuns_apart run among)).2
  rw [List.all_cons, Bool.and_eq_true, List.all_eq_true] at disjoint
  apply lowered_of_unmoved wide
  · intro dotted
    have missed := CaseRun.not_covers_of_apart disjoint.1 image
    rw [dotted] at missed
    exact absurd missed (by decide)
  · rcases CaseRun.apply_cases lowerRuns c.toNat with same | ⟨other, member, covered, _⟩
    · exact same
    · rw [CaseRun.not_covers_of_apart (disjoint.2 other member) image] at covered
      contradiction

theorem cases_of_apply {c source : Char}
    (lowered : c = Char.ofNat (CaseRun.apply lowerRuns source.toNat)) :
    c = source ∧ CaseRun.apply lowerRuns c.toNat = c.toNat ∨ c = '\x00' ∨
      ∃ run ∈ lowerRuns, run.image.covers c.toNat = true := by
  rcases CaseRun.apply_cases lowerRuns source.toNat with same | ⟨run, among, covered, moved⟩
  · rw [same, Char.ofNat_toNat] at lowered
    subst lowered
    exact Or.inl ⟨rfl, same⟩
  · rcases toNat_ofNat_cases (CaseRun.apply lowerRuns source.toNat) with valid | null
    · have positive : 0 ≤ (run.first : Int) + run.shift := by
        have least := (lowerRuns_image run among).1
        omega
      refine Or.inr (Or.inr ⟨run, among, ?_⟩)
      rw [lowered, valid, moved]
      exact CaseRun.covers_image covered positive
    · refine Or.inr (Or.inl ?_)
      rw [← Char.ofNat_toNat c, lowered, null]

theorem lowered_of_mem_lowerChar {c source : Char} (member : c ∈ lowerChar source) : Lowered c := by
  have small := not_isUpper_of_mem_lowerChar member
  by_cases ascii : c.toNat < 128
  · exact lowered_of_ascii ascii small
  rw [Nat.not_lt] at ascii
  unfold lowerChar at member
  split at member
  · next narrow =>
      rw [List.mem_singleton.mp member] at ascii
      exact absurd (toLower_of_ascii narrow).1 (by omega)
  split at member
  · have mark : c = '\u0307' := by
      rcases List.mem_cons.mp member with rfl | second
      · exact absurd ascii (by decide)
      · exact List.mem_singleton.mp second
    rw [mark]
    exact ⟨lowered_special.2.2, by decide⟩
  · next dotless =>
      rcases cases_of_apply (List.mem_singleton.mp member) with ⟨rfl, same⟩ | rfl | image
      · exact lowered_of_unmoved ascii dotless same
      · exact absurd ascii (by decide)
      · obtain ⟨run, among, covered⟩ := image
        exact lowered_of_image among covered ascii

theorem lowered_of_mem_lowercase {text : List Char} {c : Char} (member : c ∈ lowercase text) :
    Lowered c := by
  rcases mem_lowerFrom member with rfl | rfl | ⟨source, _, lowered⟩
  · exact ⟨lowered_special.2.1.1, by decide⟩
  · exact ⟨lowered_special.2.1.2, by decide⟩
  · exact lowered_of_mem_lowerChar lowered

theorem lowerFrom_of_lowered (afterCased : Bool) {text : List Char}
    (lowered : ∀ c ∈ text, Lowered c) : lowerFrom afterCased text = text := by
  induction text generalizing afterCased with
  | nil => rfl
  | cons c text ih =>
      obtain ⟨kept, notSigma⟩ := lowered c List.mem_cons_self
      have rest := fun state => ih state fun other member =>
        lowered other (List.mem_cons_of_mem _ member)
      simp only [lowerFrom, notSigma, if_false, kept, rest, List.singleton_append]

theorem lowercase_lowercase (text : List Char) : lowercase (lowercase text) = lowercase text :=
  lowerFrom_of_lowered false fun _ => lowered_of_mem_lowercase

theorem not_isBlank_of_image {c : Char} {run : CaseRun} (among : run ∈ lowerRuns)
    (image : run.image.covers c.toNat = true) : Text.isBlank c = false := by
  have bounds := CaseRun.bounds_of_covers image
  by_cases ascii : c.toNat < 128
  · have least := lowerRuns_image run among
    have visible := forall_ascii (fun c => decide (c.toNat < 97) || !Text.isBlank c)
      (by decide) c ascii
    have high : ¬ c.toNat < 97 := by
      simp only [CaseRun.image] at bounds
      omega
    simpa [high] using visible
  · rw [Bool.eq_false_iff]
    intro blank
    obtain ⟨range, listed, first, last⟩ := mem_wideBlanks c blank (by omega)
    have apart := (Bool.and_eq_true_iff.mp (List.all_eq_true.mp lowerRuns_apart run among)).1
    have clear := List.all_eq_true.mp apart range listed
    simp only [Bool.or_eq_true, Nat.blt_eq] at clear
    omega

theorem not_isBlank_of_mem_lowerChar {c source : Char} (visible : Text.isBlank source = false)
    (member : c ∈ lowerChar source) : Text.isBlank c = false := by
  unfold lowerChar at member
  split at member
  · next ascii =>
      rw [List.mem_singleton.mp member]
      simpa [visible] using (toLower_of_ascii ascii).2.2
  split at member
  · rcases List.mem_cons.mp member with rfl | second
    · decide
    · rw [List.mem_singleton.mp second]
      decide
  · rcases cases_of_apply (List.mem_singleton.mp member) with ⟨rfl, _⟩ | rfl | image
    · exact visible
    · decide
    · obtain ⟨run, among, covered⟩ := image
      exact not_isBlank_of_image among covered

theorem not_isBlank_of_mem_lowercase {text : List Char}
    (visible : ∀ c ∈ text, Text.isBlank c = false) {c : Char} (member : c ∈ lowercase text) :
    Text.isBlank c = false := by
  rcases mem_lowerFrom member with rfl | rfl | ⟨source, among, lowered⟩
  · decide
  · decide
  · exact not_isBlank_of_mem_lowerChar (visible source among) lowered

theorem lowerChar_ne_nil (c : Char) : lowerChar c ≠ [] := by
  unfold lowerChar
  split
  · exact List.cons_ne_nil _ _
  split <;> exact List.cons_ne_nil _ _

theorem lowercase_ne_nil {text : List Char} (nonempty : text ≠ []) : lowercase text ≠ [] := by
  cases text with
  | nil => exact absurd rfl nonempty
  | cons c text =>
      rw [lowercase, lowerFrom]
      apply List.append_ne_nil_of_left_ne_nil
      split
      · exact List.cons_ne_nil _ _
      · exact lowerChar_ne_nil c

end PolicyGate.Unicode
