import PolicyGate.Evidence.NormalForm
import PolicyGate.Proofs.Text.Words
import PolicyGate.Proofs.Unicode.Tables

/-!
What lower case and case folding do to letters: lower case goes word by word and leaves no capital
of ASCII, and beyond ASCII only the long s and the Kelvin sign fold to letters of ASCII.
-/

namespace PolicyGate

namespace Unicode

theorem CaseRun.apply_cases (runs : List CaseRun) (point : Nat) :
    apply runs point = point ∨
      ∃ run ∈ runs, run.covers point = true ∧ apply runs point = (point + run.shift).toNat := by
  unfold apply
  split
  · next run found =>
      have covered : run.covers point = true := by simpa using List.find?_some found
      exact Or.inr ⟨run, List.mem_of_find?_eq_some found, covered, rfl⟩
  · exact Or.inl rfl

theorem CaseRun.bounds_of_covers {run : CaseRun} {point : Nat}
    (covered : run.covers point = true) : run.first ≤ point ∧ point ≤ run.last := by
  simp only [covers, Bool.and_eq_true, decide_eq_true_eq] at covered
  exact covered.1

theorem CaseRun.covers_of_mem_sources {runs : List CaseRun} {image point : Nat}
    (member : point ∈ sources runs image) : ∃ run ∈ runs, run.covers point = true := by
  obtain ⟨run, among, told⟩ := List.mem_filterMap.mp member
  dsimp only at told
  split at told
  · next covered =>
      rw [Option.some.injEq] at told
      exact ⟨run, among, told ▸ covered.2⟩
  · simp at told

theorem toNat_ofNat_cases (point : Nat) :
    (Char.ofNat point).toNat = point ∨ (Char.ofNat point).toNat = 0 := by
  by_cases valid : point.isValidChar
  · have same : Char.ofNat point = Char.ofNatAux point valid := dif_pos valid
    exact Or.inl (congrArg Char.toNat same)
  · have null : Char.ofNat point = '\x00' := dif_neg valid
    exact Or.inr (congrArg Char.toNat null)

theorem isUpper_iff (c : Char) : c.isUpper = true ↔ 65 ≤ c.toNat ∧ c.toNat ≤ 90 :=
  decide_eq_true_iff

theorem isLower_iff (c : Char) : c.isLower = true ↔ 97 ≤ c.toNat ∧ c.toNat ≤ 122 := by
  change (decide _ && decide _) = true ↔ _
  rw [Bool.and_eq_true, decide_eq_true_iff, decide_eq_true_iff]
  rfl

theorem lowerRuns_image : ∀ run ∈ lowerRuns, 97 ≤ (run.first : Int) + run.shift ∧
    run.covers ((0x17F : Int) - run.shift).toNat = false := by
  decide +kernel

theorem foldRuns_image : ∀ run ∈ foldRuns, 128 ≤ run.first ∧
    (128 ≤ (run.first : Int) + run.shift ∨
      run.first = run.last ∧ (run.first = 0x17F ∨ run.first = 0x212A)) := by
  decide +kernel

theorem toLower_of_small {c : Char} (small : c.isUpper = false) : c.toLower = c :=
  dif_neg (of_decide_eq_false small)

theorem toLower_of_ascii {c : Char} (ascii : c.toNat < 128) :
    c.toLower.toNat < 128 ∧ c.toLower.isUpper = false ∧
      (Text.isBlank c = true ∨ Text.isBlank c.toLower = false) := by
  have checked := forall_ascii (fun c => decide (c.toLower.toNat < 128) && !c.toLower.isUpper &&
    (Text.isBlank c || !Text.isBlank c.toLower)) (by decide) c ascii
  simpa [and_assoc] using checked

theorem simpleFold_of_small {c : Char} (ascii : c.toNat < 128) (small : c.isUpper = false) :
    simpleFold c = c := by
  rw [simpleFold, if_pos ascii, toLower_of_small small]

theorem folds_of_ascii {c : Char} (ascii : c.toNat < 128) :
    (c.isLower = false ∨ simpleFold c.toUpper = c) ∧
      (simpleFold c = c ∨ (simpleFold c).isLower = true ∧ c = (simpleFold c).toUpper) := by
  have checked := forall_ascii (fun c => (!c.isLower || simpleFold c.toUpper == c) &&
    (simpleFold c == c || (simpleFold c).isLower && c == (simpleFold c).toUpper))
    (by decide) c ascii
  simpa using checked

theorem not_isUpper_of_mem_lowerChar {c source : Char} (member : c ∈ lowerChar source) :
    c.isUpper = false := by
  unfold lowerChar at member
  split at member
  · next ascii =>
      rw [List.mem_singleton] at member
      rw [member]
      exact (toLower_of_ascii ascii).2.1
  split at member
  · rcases List.mem_cons.mp member with rfl | second
    · rfl
    · rw [List.mem_singleton.mp second]
      rfl
  · next wide _ =>
      rw [List.mem_singleton] at member
      have image : c.toNat = CaseRun.apply lowerRuns source.toNat ∨ c.toNat = 0 := by
        rw [member]
        exact toNat_ofNat_cases _
      rw [← Bool.not_eq_true, isUpper_iff]
      rcases CaseRun.apply_cases lowerRuns source.toNat with same | ⟨run, among, covered, moved⟩
      · omega
      · have first := (lowerRuns_image run among).1
        have bounds := CaseRun.bounds_of_covers covered
        omega

theorem longS_of_mem_lowerChar {source : Char} (member : '\u017F' ∈ lowerChar source) :
    source = '\u017F' := by
  unfold lowerChar at member
  split at member
  · next ascii =>
      have narrow := (toLower_of_ascii ascii).1
      rw [← List.mem_singleton.mp member] at narrow
      exact absurd narrow (by decide)
  split at member
  · exact absurd member (by decide)
  · rw [List.mem_singleton] at member
    have image : CaseRun.apply lowerRuns source.toNat = 0x17F := by
      rcases toNat_ofNat_cases (CaseRun.apply lowerRuns source.toNat) with same | none
      · rw [← same, ← member]
        rfl
      · rw [← member] at none
        exact absurd none (by decide)
    rcases CaseRun.apply_cases lowerRuns source.toNat with same | ⟨run, among, covered, moved⟩
    · rw [← Char.ofNat_toNat source, ← same, image]
    · have missed := (lowerRuns_image run among).2
      have point : ((0x17F : Int) - run.shift).toNat = source.toNat := by omega
      rw [point, covered] at missed
      exact absurd missed (by decide)

theorem mem_lowerFrom {afterCased : Bool} {text : List Char} {c : Char}
    (member : c ∈ lowerFrom afterCased text) :
    c = 'σ' ∨ c = 'ς' ∨ ∃ source ∈ text, c ∈ lowerChar source := by
  induction text generalizing afterCased with
  | nil => simp [lowerFrom] at member
  | cons first text ih =>
      rw [lowerFrom, List.mem_append] at member
      rcases member with here | later
      · split at here
        · split at here
          · exact Or.inr (Or.inl (List.mem_singleton.mp here))
          · exact Or.inl (List.mem_singleton.mp here)
        · exact Or.inr (Or.inr ⟨first, List.mem_cons_self, here⟩)
      · rcases ih later with sigma | final | ⟨source, among, lowered⟩
        · exact Or.inl sigma
        · exact Or.inr (Or.inl final)
        · exact Or.inr (Or.inr ⟨source, List.mem_cons_of_mem _ among, lowered⟩)

theorem not_isUpper_of_mem_lowercase {text : List Char} {c : Char} (member : c ∈ lowercase text) :
    c.isUpper = false := by
  rcases mem_lowerFrom member with rfl | rfl | ⟨source, _, lowered⟩
  · rfl
  · rfl
  · exact not_isUpper_of_mem_lowerChar lowered

theorem longS_of_mem_lowercase {text : List Char} (member : '\u017F' ∈ lowercase text) :
    '\u017F' ∈ text := by
  rcases mem_lowerFrom member with sigma | final | ⟨source, among, lowered⟩
  · exact absurd sigma (by decide)
  · exact absurd final (by decide)
  · rwa [← longS_of_mem_lowerChar lowered]

theorem simpleFold_of_wide {c : Char} (wide : 128 ≤ c.toNat) :
    (simpleFold c).toNat = 0 ∨ 128 ≤ (simpleFold c).toNat ∨ c = '\u017F' ∨ c = '\u212A' := by
  have image : (simpleFold c).toNat = CaseRun.apply foldRuns c.toNat ∨
      (simpleFold c).toNat = 0 := by
    rw [simpleFold, if_neg (by omega)]
    exact toNat_ofNat_cases _
  rcases CaseRun.apply_cases foldRuns c.toNat with same | ⟨run, among, covered, moved⟩
  · omega
  · have bounds := CaseRun.bounds_of_covers covered
    have point : (simpleFold c).toNat = 0 ∨ 128 ≤ (simpleFold c).toNat ∨
        c.toNat = 0x17F ∨ c.toNat = 0x212A := by
      have ends := (foldRuns_image run among).2
      omega
    refine point.imp_right (Or.imp_right (Or.imp ?_ ?_))
    · intro long
      rw [← Char.ofNat_toNat c, long]
    · intro kelvin
      rw [← Char.ofNat_toNat c, kelvin]

theorem wide_of_fold_lower {c : Char} (wide : 128 ≤ c.toNat)
    (lower : (simpleFold c).isLower = true) : c = '\u017F' ∨ c = '\u212A' := by
  rw [isLower_iff] at lower
  rcases simpleFold_of_wide wide with null | high | long
  · omega
  · omega
  · exact long

theorem not_isUpper_simpleFold (c : Char) : (simpleFold c).isUpper = false := by
  by_cases ascii : c.toNat < 128
  · rw [simpleFold, if_pos ascii]
    exact (toLower_of_ascii ascii).2.1
  · rw [← Bool.not_eq_true, isUpper_iff]
    rcases simpleFold_of_wide (Nat.le_of_not_lt ascii) with null | high | rfl | rfl
    · omega
    · omega
    · decide
    · decide

/-- Which characters an ASCII letter, or another visible sign of ASCII, stands for where case does
not count: those that fold as it does. -/
theorem mem_caseVariants_iff {c letter : Char} (visible : 0 < letter.toNat)
    (ascii : letter.toNat < 128) :
    letter ∈ caseVariants c ↔ simpleFold c = simpleFold letter := by
  have other : letter ∉ (CaseRun.sources foldRuns (simpleFold c).toNat).map Char.ofNat := by
    intro among
    obtain ⟨source, found, same⟩ := List.mem_map.mp among
    obtain ⟨run, ofRuns, covered⟩ := CaseRun.covers_of_mem_sources found
    have first := (foldRuns_image run ofRuns).1
    have bounds := CaseRun.bounds_of_covers covered
    rw [← same] at visible ascii
    rcases toNat_ofNat_cases source with kept | none <;> omega
  have variants : letter ∈ caseVariants c ↔ letter = simpleFold c ∨
      (simpleFold c).isLower = true ∧ letter = (simpleFold c).toUpper := by
    simp only [caseVariants]
    split
    · next lower => simp only [List.mem_cons, other, or_false, lower, true_and]
    · next caseless =>
        simp only [List.mem_cons, other, or_false, caseless, Bool.false_eq_true, false_and]
  rw [variants]
  constructor
  · rintro (rfl | ⟨lower, rfl⟩)
    · exact (simpleFold_of_small ascii (not_isUpper_simpleFold c)).symm
    · have small : (simpleFold c).toNat < 128 := by
        rw [isLower_iff] at lower
        omega
      have folds := (folds_of_ascii small).1
      rw [lower] at folds
      exact (folds.resolve_left (by decide)).symm
  · intro same
    rw [same]
    exact (folds_of_ascii ascii).2.imp_left Eq.symm

theorem simpleFold_of_mem_caseVariants {c letter : Char} (lower : letter.isLower = true)
    (member : letter ∈ caseVariants c) : simpleFold c = letter := by
  have bounds := (isLower_iff letter).mp lower
  have small : letter.isUpper = false := by
    rw [← Bool.not_eq_true, isUpper_iff]
    omega
  rw [mem_caseVariants_iff (by omega) (by omega)] at member
  exact member.trans (simpleFold_of_small (by omega) small)

theorem eq_of_mem_caseVariants {c letter : Char} (lower : letter.isLower = true)
    (small : c.isUpper = false) (member : letter ∈ caseVariants c) :
    c = letter ∨ c = '\u017F' ∧ letter = 's' ∨ c = '\u212A' ∧ letter = 'k' := by
  have folds := simpleFold_of_mem_caseVariants lower member
  by_cases ascii : c.toNat < 128
  · exact Or.inl ((simpleFold_of_small ascii small).symm.trans folds)
  · rcases wide_of_fold_lower (by omega) (folds ▸ lower) with rfl | rfl
    · exact Or.inr (Or.inl ⟨rfl, by rw [← folds]; decide⟩)
    · exact Or.inr (Or.inr ⟨rfl, by rw [← folds]; decide⟩)

theorem leadsCased_append_space (word rest : List Char) :
    leadsCased (word ++ ' ' :: rest) = leadsCased word := by
  induction word with
  | nil => rfl
  | cons c word ih =>
      by_cases ignorable : isCaseIgnorable c = true
      · simpa [leadsCased, ignorable] using ih
      · simp [leadsCased, ignorable]

theorem lowerFrom_append_space (afterCased : Bool) (word rest : List Char) :
    lowerFrom afterCased (word ++ ' ' :: rest) =
      lowerFrom afterCased word ++ ' ' :: lowercase rest := by
  induction word generalizing afterCased with
  | nil => rfl
  | cons c word ih =>
      simp only [List.cons_append, lowerFrom, leadsCased_append_space, ih, List.append_assoc]

theorem lowercase_intercalate (words : List (List Char)) :
    lowercase ([' '].intercalate words) = [' '].intercalate (words.map lowercase) := by
  induction words with
  | nil => rfl
  | cons word words ih =>
      cases words with
      | nil => simp
      | cons next words =>
          simp only [List.map_cons, List.intercalate_cons_cons, List.append_assoc,
            List.singleton_append] at ih ⊢
          rw [lowercase, lowerFrom_append_space, ih]
          rfl

end Unicode

open Unicode

theorem normalChars_eq (text : List Char) :
    normalChars text = [' '].intercalate ((Text.words text).map lowercase) :=
  lowercase_intercalate _

theorem not_isUpper_of_mem_normalChars {text : List Char} {c : Char}
    (member : c ∈ normalChars text) : c.isUpper = false :=
  not_isUpper_of_mem_lowercase member

theorem longS_of_mem_normalChars {text : List Char} (member : '\u017F' ∈ normalChars text) :
    '\u017F' ∈ text := by
  rcases Text.mem_intercalate (longS_of_mem_lowercase member) with between | ⟨word, among, inside⟩
  · exact absurd between (by decide)
  · exact ((Text.mem_words among).2 _ inside).1

end PolicyGate
