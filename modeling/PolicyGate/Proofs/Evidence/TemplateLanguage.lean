import PolicyGate.Proofs.Evidence.BuiltIn
import PolicyGate.Proofs.Evidence.Insertion
import PolicyGate.Proofs.Unicode.Letters

/-!
Which texts count as template text: the pattern as it is written, what it matches, and that the
scan for markers and words finds it in the same texts.
-/

namespace PolicyGate.Template

open Pattern Unicode

def patternText : String := "(?is)\\[PROMPT:|TODO:|TBD|replace this|\\badd\\b.*?\\bdetails"

def wordEdge : Pattern := .assertion (.boundary true)

def detailsPattern : Pattern := .seq wordEdge (plainPattern "details")

def addDetailsPattern : Pattern :=
  .seq wordEdge (spelling "add".toList
    (.seq wordEdge (.seq (.repeated (.one (.complement .empty)) 0 none) detailsPattern)))

def pattern : Pattern :=
  .either (.seq .empty (plainPattern "[PROMPT:"))
    (.either (plainPattern "TODO:") (.either (plainPattern "TBD")
      (.either (plainPattern "replace this") addDetailsPattern)))

theorem isSmall_pattern : pattern.IsSmall := by
  refine isSmall_of_size_le fun backward => ?_
  have edge : wordEdge.size backward ≤ 32 := Nat.le_refl 32
  have gap : ∀ backward,
      (Pattern.repeated (.one (.complement .empty)) 0 none).size backward ≤ 2000 := by
    decide +kernel
  have details : detailsPattern.size backward ≤ 32 + 30032 :=
    size_seq_le edge (plainPattern_size_le (by decide) (by decide))
  have addDetails : addDetailsPattern.size backward ≤ 50000 :=
    Nat.le_trans (size_seq_le edge (size_spelling_le (show "add".toList ⊆ commonSigns by decide)
      (size_seq_le edge (size_seq_le (gap backward) details)))) (by decide)
  have word : ∀ text ∈ ["[PROMPT:", "TODO:", "TBD", "replace this"],
      (plainPattern text).size backward ≤ 30032 := by
    have common : ∀ text ∈ ["[PROMPT:", "TODO:", "TBD", "replace this"],
        text.toList ⊆ commonSigns ∧ text.toList.length ≤ 100 := by
      decide
    exact fun text member => plainPattern_size_le (common text member).1 (common text member).2
  have choices := size_either_le (word "TBD" (by decide))
    (size_either_le (word "replace this" (by decide)) addDetails rfl rfl) rfl rfl
  have prompt : (Pattern.seq .empty (plainPattern "[PROMPT:")).size backward ≤ 32 + 30032 :=
    size_seq_le (Nat.le_refl 32) (word "[PROMPT:" (by decide))
  exact Nat.le_trans (size_either_le prompt
    (size_either_le (word "TODO:" (by decide)) choices rfl rfl) rfl rfl) (by decide)

-- The reader makes one call for each of the sixty characters.
set_option maxRecDepth 2000 in
theorem ofText?_patternText : Pattern.ofText? patternText = some pattern :=
  ofText?_of_readFrom ⟨pattern, 3, true⟩ rfl (by decide) isSmall_pattern

def Alike (found word : List Char) : Prop := found.map simpleFold = word.map simpleFold

def Mentions (text word : List Char) : Prop :=
  ∃ front found rest, text = front ++ found ++ rest ∧ Alike found word

def MentionsMarker (text : List Char) : Prop :=
  ∃ marker ∈ ["[prompt:", "todo:", "tbd", "replace this"], Mentions text marker.toList

/-- The word `add` and, at whatever distance behind it, a word that begins with `details`. -/
def AsksForDetails (text : List Char) : Prop :=
  ∃ front word middle found rest, text = front ++ word ++ middle ++ found ++ rest ∧
    Alike word "add".toList ∧ Alike found "details".toList ∧
    isOutsideWord front.getLast? = true ∧ isOutsideWord (middle ++ found ++ rest).head? = true ∧
    isOutsideWord (front ++ word ++ middle).getLast? = true

theorem isWord_of_fold {c : Char} (folds : simpleFold c = 'a' ∨ simpleFold c = 'd') :
    isWord c = true := by
  by_cases ascii : c.toNat < 128
  · have checked := forall_ascii
      (fun c => !(simpleFold c == 'a' || simpleFold c == 'd') || isWord c) (by decide) c ascii
    rcases folds with same | same <;> simpa [same] using checked
  · exfalso
    rcases simpleFold_of_wide (Nat.le_of_not_lt ascii) with null | high | rfl | rfl
    · rcases folds with same | same <;> simp [same] at null
    · rcases folds with same | same <;> simp [same] at high
    · revert folds
      decide
    · revert folds
      decide

theorem inside_head {letter : Char} {found word : List Char} (alike : Alike found (letter :: word))
    (folds : simpleFold letter = 'a' ∨ simpleFold letter = 'd') (rest : List Char) :
    isOutsideWord (found ++ rest).head? = false := by
  obtain ⟨c, found, rfl, same, _⟩ := List.map_eq_cons_iff.mp alike
  simp [isOutsideWord, isWord_of_fold (same ▸ folds)]

theorem inside_last {letter : Char} {found : List Char} (word : List Char)
    (alike : Alike found (word ++ [letter]))
    (folds : simpleFold letter = 'a' ∨ simpleFold letter = 'd') (front : List Char) :
    isOutsideWord (front ++ found).getLast? = false := by
  rw [Alike, List.map_append] at alike
  obtain ⟨found, last, rfl, _, same⟩ := List.map_eq_append_iff.mp alike
  obtain ⟨c, rfl, ends⟩ := List.map_eq_singleton_iff.mp same
  rw [← List.append_assoc, List.getLast?_concat]
  simp [isOutsideWord, isWord_of_fold (ends ▸ folds)]

theorem boundary_holds (before after : Option Char) :
    (Assertion.boundary true).holds ⟨before, after⟩ =
      (isOutsideWord before != isOutsideWord after) := by
  have outside (neighbour : Option Char) :
      Assertion.word true neighbour = !isOutsideWord neighbour := by
    cases neighbour with
    | none => rfl
    | some c => simp [Assertion.word, Assertion.isWordChar, isOutsideWord]
  simp only [Assertion.holds, outside, Bool.not_bne_not]

theorem spelled_iff_alike (word : List Char) {found : List Char}
    (visible : word.all (fun letter => 0 < letter.toNat && letter.toNat < 128) = true) :
    List.Forall₂ (fun c letter => letter ∈ caseVariants c) found word ↔ Alike found word := by
  induction word generalizing found with
  | nil => simp [Alike]
  | cons letter word ih =>
      simp only [List.all_cons, Bool.and_eq_true, decide_eq_true_eq] at visible
      cases found with
      | nil => simp [Alike]
      | cons c found =>
          rw [List.forall₂_cons, mem_caseVariants_iff visible.1.1 visible.1.2, ih visible.2]
          simp [Alike]

theorem occursIn_plainPattern_iff (word : String) (marker text : List Char)
    (visible : word.toList.all (fun letter => 0 < letter.toNat && letter.toNat < 128) = true)
    (same : word.toList.map simpleFold = marker.map simpleFold) :
    (plainPattern word).occursIn text = true ↔ Mentions text marker := by
  simp only [plainPattern, occursIn_spelling_iff, spelled_iff_alike _ visible, begins_empty, and_true,
    Mentions, Alike, same]

theorem detailsPattern_begins_iff {front rest : List Char} :
    detailsPattern.Begins front rest ↔
      ∃ found final, rest = found ++ final ∧ Alike found "details".toList ∧
        isOutsideWord front.getLast? = true := by
  simp only [detailsPattern, plainPattern, wordEdge, begins_assertion_seq, begins_spelling,
    spelled_iff_alike "details".toList (by decide), begins_empty, and_true]
  constructor
  · rintro ⟨edge, found, final, rfl, alike⟩
    rw [boundary_holds, inside_head alike (by decide) final, Bool.bne_false] at edge
    exact ⟨found, final, rfl, alike, edge⟩
  · rintro ⟨found, final, rfl, alike, outside⟩
    rw [boundary_holds, inside_head alike (by decide) final, Bool.bne_false]
    exact ⟨outside, found, final, rfl, alike⟩

theorem addDetailsPattern_occursIn_iff {text : List Char} :
    addDetailsPattern.occursIn text = true ↔ AsksForDetails text := by
  simp only [occursIn_iff_begins, addDetailsPattern, wordEdge, begins_assertion_seq,
    begins_spelling, spelled_iff_alike "add".toList (by decide), begins_gap,
    detailsPattern_begins_iff]
  constructor
  · rintro ⟨front, _, rfl, starts, word, _, rfl, add, ends, middle, _, rfl, _, found, rest, rfl,
      details, boundary⟩
    rw [boundary_holds, inside_head add (by decide) _, Bool.bne_false] at starts
    rw [boundary_holds, inside_last ['a', 'd'] add (by decide) front,
      Bool.false_bne] at ends
    exact ⟨front, word, middle, found, rest, by simp, add, details, starts, by simpa using ends,
      boundary⟩
  · rintro ⟨front, word, middle, found, rest, rfl, add, details, starts, ends, boundary⟩
    refine ⟨front, word ++ (middle ++ (found ++ rest)), by simp, ?_, word, _, rfl, add, ?_, middle,
      _, rfl, by simp [CharSet.mem], found, rest, rfl, details, boundary⟩
    · rwa [boundary_holds, inside_head add (by decide) _, Bool.bne_false]
    · rw [boundary_holds, inside_last ['a', 'd'] add (by decide) front, Bool.false_bne]
      simpa using ends

theorem pattern_occursIn_iff {text : List Char} :
    pattern.occursIn text = true ↔ MentionsMarker text ∨ AsksForDetails text := by
  have prompt := occursIn_plainPattern_iff "[PROMPT:" "[prompt:".toList text (by decide)
    (by decide)
  have todo := occursIn_plainPattern_iff "TODO:" "todo:".toList text (by decide)
    (by decide)
  have tbd := occursIn_plainPattern_iff "TBD" "tbd".toList text (by decide) (by decide)
  have replace := occursIn_plainPattern_iff "replace this" _ text (by decide) rfl
  simp only [pattern, occursIn_either, occursIn_empty_seq, prompt, todo, tbd, replace,
    addDetailsPattern_occursIn_iff, MentionsMarker, List.mem_cons, List.not_mem_nil, or_false,
    exists_eq_or_imp, exists_eq_left, or_assoc]

theorem alike_iff_of_folded {found word : List Char} (folded : word.map simpleFold = word) :
    Alike found word ↔ found.map simpleFold = word := by
  rw [Alike, folded]

theorem asksForDetails_iff {text : List Char} : AsksForDetails text ↔ AddDetails none text := by
  have addFolded : "add".toList.map simpleFold = "add".toList := by decide
  have detailsFolded : "details".toList.map simpleFold = "details".toList := by decide
  simp only [AsksForDetails, AddDetails, Option.or_none, ← alike_iff_of_folded addFolded,
    ← alike_iff_of_folded detailsFolded]
  constructor
  · rintro ⟨front, word, middle, found, rest, rfl, add, details, starts, ends, boundary⟩
    have apart : middle ≠ [] := by
      rintro rfl
      rw [List.append_nil, inside_last ['a', 'd'] add (by decide)] at boundary
      contradiction
    rw [List.getLast?_append_of_ne_nil _ apart] at boundary
    exact ⟨front, word, middle, found, rest, by simp, add, details, starts, ends, apart, boundary⟩
  · rintro ⟨front, word, middle, found, rest, rfl, add, details, starts, ends, apart, boundary⟩
    refine ⟨front, word, middle, found, rest, by simp, add, details, starts, ends, ?_⟩
    rwa [List.getLast?_append_of_ne_nil _ apart]

theorem markers_folded : ∀ marker ∈ markers, marker.map simpleFold = marker := by decide

theorem hasMarker_iff_mentions {text : List Char} :
    hasMarker text = true ↔ MentionsMarker text := by
  have listed : markers = ["[prompt:", "todo:", "tbd", "replace this"].map String.toList := rfl
  have named (marker : List Char) (member : marker ∈ markers) : Mentions text marker ↔
      ∃ front found rest, text = front ++ found ++ rest ∧ found.map simpleFold = marker := by
    simp only [Mentions, alike_iff_of_folded (markers_folded marker member)]
  rw [hasMarker_iff]
  constructor
  · rintro ⟨marker, member, occurs⟩
    rw [← named marker member] at occurs
    rw [listed, List.mem_map] at member
    obtain ⟨name, among, rfl⟩ := member
    exact ⟨name, among, occurs⟩
  · rintro ⟨name, among, mentions⟩
    have member : name.toList ∈ markers := listed ▸ List.mem_map_of_mem among
    exact ⟨name.toList, member, (named _ member).mp mentions⟩

/-- The scan finds the texts that are described, and so does the pattern. -/
theorem isTemplate_iff_mentions (text : String) :
    (isTemplate text = true ↔ MentionsMarker text.toList ∨ AsksForDetails text.toList) ∧
    ∃ written, Pattern.ofText? patternText = some written ∧
      written.occursIn text.toList = isTemplate text := by
  have scanned : isTemplate text = true ↔
      MentionsMarker text.toList ∨ AsksForDetails text.toList := by
    rw [isTemplate_iff, Occurs, hasMarker_iff_mentions, asksForDetails_iff]
  refine ⟨scanned, pattern, ofText?_patternText, ?_⟩
  rw [Bool.eq_iff_iff, scanned, pattern_occursIn_iff]

example : isTemplate "Please add\nmore detail\u017F." = true := by decide

end PolicyGate.Template
