import PolicyGate.Proofs.Evidence.Occurrence

/-!
Template text stays where more text is put between the characters, as long as that happens at a
line feed or at an end of the text. No needle holds a line feed, so none is cut in two, and what is
put in must not grow a word on a side where no line feed stands.
-/

namespace PolicyGate.Template

open Unicode

def Occurs (text : List Char) : Prop := hasMarker text = true ∨ AddDetails none text

theorem isTemplate_iff (text : String) : isTemplate text = true ↔ Occurs text.toList := by
  simp only [isTemplate, Occurs, Bool.or_eq_true, hasAddDetails_iff]

def LineEdge (neighbour : Option Char) : Prop := neighbour = none ∨ neighbour = some '\n'

structure Seam (before inserted after : List Char) : Prop where
  clean : LineEdge before.getLast? ∨ LineEdge after.head?
  left : LineEdge before.getLast? ∨ isOutsideWord inserted.head? = true
  right : LineEdge after.head? ∨ isOutsideWord inserted.getLast? = true

theorem LineEdge.of_append {front back : List Char} (edge : LineEdge (front ++ back).getLast?) :
    LineEdge back.getLast? := by
  cases last : back.getLast? with
  | none => exact Or.inl rfl
  | some c => rwa [List.getLast?_append, last] at edge

theorem Seam.of_append {front before inserted after : List Char}
    (seam : Seam (front ++ before) inserted after) : Seam before inserted after :=
  ⟨seam.clean.imp_left .of_append, seam.left.imp_left .of_append, seam.right⟩

theorem lineFeed_not_mem {needle found : List Char} (spared : '\n' ∉ needle)
    (reads : found.map simpleFold = needle) : '\n' ∉ found := by
  intro member
  apply spared
  rw [← reads]
  exact List.mem_map.mpr ⟨'\n', member, by decide⟩

theorem not_lineEdge_head {found : List Char} (rest : List Char) (spared : '\n' ∉ found)
    (nonempty : found ≠ []) : ¬ LineEdge (found ++ rest).head? := by
  cases found with
  | nil => exact absurd rfl nonempty
  | cons c found =>
      rintro (none | same)
      · simp at none
      · simp_all

theorem not_lineEdge_last {found : List Char} (front : List Char) (spared : '\n' ∉ found)
    (nonempty : found ≠ []) : ¬ LineEdge (front ++ found).getLast? := by
  intro edge
  have last := edge.of_append
  rw [List.getLast?_eq_some_getLast nonempty] at last
  rcases last with none | same
  · simp at none
  · apply spared
    rw [← Option.some.inj same]
    exact List.getLast_mem nonempty

theorem one_side {before after front found rest : List Char}
    (clean : LineEdge before.getLast? ∨ LineEdge after.head?) (spared : '\n' ∉ found)
    (whole : before ++ after = front ++ found ++ rest) :
    (∃ gap, front = before ++ gap ∧ after = gap ++ (found ++ rest)) ∨
      ∃ gap, before = front ++ found ++ gap ∧ rest = gap ++ after := by
  rw [List.append_assoc] at whole
  rcases List.append_eq_append_iff.mp whole with ⟨gap, outer, inner⟩ | ⟨start, outer, inner⟩
  · exact Or.inl ⟨gap, outer, inner⟩
  rcases List.append_eq_append_iff.mp inner with ⟨gap, first, second⟩ | ⟨stop, first, second⟩
  · refine Or.inr ⟨gap, ?_, second⟩
    rw [outer, first, List.append_assoc]
  by_cases startEmpty : start = []
  · refine Or.inl ⟨[], by simp [outer, startEmpty], ?_⟩
    rw [second, first, startEmpty]
    rfl
  by_cases stopEmpty : stop = []
  · refine Or.inr ⟨[], by simp [outer, first, stopEmpty], ?_⟩
    simp [second, stopEmpty]
  rw [first, List.mem_append, not_or] at spared
  rcases clean with edge | edge
  · exact absurd (outer ▸ edge) (not_lineEdge_last front spared.1 startEmpty)
  · exact absurd (second ▸ edge) (not_lineEdge_head rest spared.2 stopEmpty)

theorem Seam.outside_last {before inserted after gap tail : List Char}
    (seam : Seam before inserted after) (behind : after = gap ++ tail)
    (letter : ¬ LineEdge tail.head?)
    (outside : isOutsideWord (before ++ gap).getLast? = true) :
    isOutsideWord (before ++ inserted ++ gap).getLast? = true := by
  rcases List.eq_nil_or_concat gap with rfl | ⟨gap, last, rfl⟩
  · rw [List.nil_append] at behind
    subst behind
    have ends := seam.right.resolve_left letter
    rw [List.append_nil] at outside ⊢
    cases inserted with
    | nil => rwa [List.append_nil]
    | cons c inserted =>
        rw [List.getLast?_append]
        rwa [List.getLast?_cons] at ends ⊢
  · simpa using outside

theorem Seam.outside_head {before inserted after front gap : List Char}
    (seam : Seam before inserted after) (ahead : before = front ++ gap)
    (letter : ¬ LineEdge front.getLast?)
    (outside : isOutsideWord (gap ++ after).head? = true) :
    isOutsideWord (gap ++ inserted ++ after).head? = true := by
  cases gap with
  | nil =>
      rw [List.append_nil] at ahead
      subst ahead
      have starts := seam.left.resolve_left letter
      cases inserted with
      | nil => exact outside
      | cons c inserted => exact starts
  | cons c gap => exact outside

theorem markers_spare_lineFeed : ∀ marker ∈ markers, '\n' ∉ marker := by decide

theorem hasMarker_insert {before inserted after : List Char} (seam : Seam before inserted after)
    (holds : hasMarker (before ++ after) = true) :
    hasMarker (before ++ inserted ++ after) = true := by
  rw [hasMarker_iff] at holds ⊢
  obtain ⟨marker, member, front, found, rest, whole, reads⟩ := holds
  have spared := lineFeed_not_mem (markers_spare_lineFeed marker member) reads
  rcases one_side seam.clean spared whole with ⟨gap, _, rfl⟩ | ⟨gap, rfl, _⟩
  · exact ⟨marker, member, before ++ inserted ++ gap, found, rest, by simp, reads⟩
  · exact ⟨marker, member, front, found, gap ++ inserted ++ after, by simp, reads⟩

theorem AddDetails.insert {before inserted after : List Char} (seam : Seam before inserted after)
    (occurs : AddDetails none (before ++ after)) :
    AddDetails none (before ++ inserted ++ after) := by
  obtain ⟨front, word, middle, found, rest, whole, reads, details, starts, ends, nonempty,
    boundary⟩ := occurs
  simp only [Option.or_none] at starts
  have wordSpared := lineFeed_not_mem (by decide) reads
  have foundSpared := lineFeed_not_mem (by decide) details
  have wordNonempty : word ≠ [] := by
    rintro rfl
    exact absurd reads (by decide)
  have foundNonempty : found ≠ [] := by
    rintro rfl
    exact absurd details (by decide)
  rcases one_side seam.clean wordSpared whole with ⟨gap, rfl, behind⟩ | ⟨gap, ahead, tail⟩
  · refine ⟨before ++ inserted ++ gap, word, middle, found, rest, by simp [behind], reads, details,
      ?_, ends, nonempty, boundary⟩
    rw [Option.or_none]
    exact seam.outside_last behind (not_lineEdge_head _ wordSpared wordNonempty) starts
  have inner : Seam gap inserted after := .of_append (ahead ▸ seam)
  have follows : isOutsideWord (gap ++ inserted ++ after).head? = true :=
    seam.outside_head ahead (not_lineEdge_last front wordSpared wordNonempty) (tail ▸ ends)
  rcases one_side inner.clean foundSpared tail.symm with ⟨part, rfl, behind⟩ | ⟨part, cut, _⟩
  · refine ⟨front, word, gap ++ inserted ++ part, found, rest, ?_, reads, details, ?_, ?_, ?_, ?_⟩
    · simp [ahead, behind]
    · rwa [Option.or_none]
    · rw [behind] at follows
      simpa using follows
    · rintro empty
      simp_all
    · exact inner.outside_last behind (not_lineEdge_head _ foundSpared foundNonempty) boundary
  · refine ⟨front, word, middle, found, part ++ inserted ++ after, ?_, reads, details, ?_, ?_,
      nonempty, boundary⟩
    · simp [ahead, cut]
    · rwa [Option.or_none]
    · rw [cut] at follows
      simpa using follows

theorem Occurs.insert {before inserted after : List Char} (seam : Seam before inserted after)
    (occurs : Occurs (before ++ after)) : Occurs (before ++ inserted ++ after) :=
  occurs.imp (hasMarker_insert seam) (AddDetails.insert seam)

end PolicyGate.Template
