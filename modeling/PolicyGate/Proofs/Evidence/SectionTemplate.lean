import PolicyGate.Proofs.Evidence.Insertion
import PolicyGate.Proofs.Evidence.Ownership
import PolicyGate.Proofs.Text.Pieces
import PolicyGate.Proofs.Unicode.Blanks

/-!
Template text of a section stands in the body as well. From the text of the section the body comes
back in steps that each put something in beside a line feed: the blanks that were trimmed, the
lines of other sections, the headings and the carriage returns.
-/

namespace PolicyGate

namespace Template

open Unicode

theorem isOutsideWord_of_isBlank {neighbour : Option Char}
    (blank : ∀ c ∈ neighbour, Text.isBlank c = true) : isOutsideWord neighbour = true := by
  cases neighbour with
  | none => rfl
  | some c => simp [isOutsideWord, not_isWord_of_isBlank c (blank c rfl)]

theorem Occurs.of_trim {text : List Char} (occurs : Occurs (Text.trim text)) : Occurs text := by
  obtain ⟨front, back, whole, frontBlank, backBlank⟩ := Text.trim_split text
  have frontEnds : isOutsideWord front.getLast? = true :=
    isOutsideWord_of_isBlank fun c last => frontBlank c (List.mem_of_getLast? last)
  have backStarts : isOutsideWord back.head? = true :=
    isOutsideWord_of_isBlank fun c first => backBlank c (List.mem_of_head? first)
  have led : Occurs ([] ++ front ++ Text.trim text) :=
    Occurs.insert ⟨Or.inl (Or.inl rfl), Or.inl (Or.inl rfl), Or.inr frontEnds⟩ occurs
  rw [whole, ← List.append_nil (_ ++ back)]
  apply Occurs.insert ⟨Or.inr (Or.inl rfl), Or.inr backStarts, Or.inl (Or.inl rfl)⟩
  rwa [List.append_nil]

theorem lineEdge_lineFeed (front : List Char) : LineEdge (front ++ ['\n']).getLast? :=
  Or.inr List.getLast?_concat

theorem Occurs.append_lineFeed {text : List Char} (occurs : Occurs text) :
    Occurs (text ++ ['\n']) := by
  rw [← List.append_nil (text ++ ['\n'])]
  apply Occurs.insert ⟨Or.inr (Or.inl rfl), Or.inr rfl, Or.inl (Or.inl rfl)⟩
  rwa [List.append_nil]

theorem Occurs.insert_return {line rest : List Char} (occurs : Occurs (line ++ '\n' :: rest)) :
    Occurs (line ++ ['\r'] ++ '\n' :: rest) :=
  Occurs.insert ⟨Or.inr (Or.inr rfl), Or.inr rfl, Or.inl (Or.inr rfl)⟩ occurs

theorem ends_before_lineFeed {text front found rest : List Char} (spared : '\n' ∉ found)
    (nonempty : found ≠ []) (whole : text ++ ['\n'] = front ++ found ++ rest) :
    ∃ gap, text = front ++ found ++ gap ∧ rest = gap ++ ['\n'] := by
  rcases one_side (Or.inr (Or.inr rfl)) spared whole with ⟨gap, _, feed⟩ | inside
  · obtain ⟨c, member⟩ := List.exists_mem_of_ne_nil found nonempty
    have among : c ∈ ['\n'] := by
      rw [feed]
      simp [member]
    rw [List.mem_singleton.mp among] at member
    exact absurd member spared
  · exact inside

theorem hasMarker_of_append_lineFeed {text : List Char}
    (holds : hasMarker (text ++ ['\n']) = true) : hasMarker text = true := by
  rw [hasMarker_iff] at holds ⊢
  obtain ⟨marker, member, front, found, rest, whole, reads⟩ := holds
  have spared := lineFeed_not_mem (markers_spare_lineFeed marker member) reads
  have nonempty : found ≠ [] := by
    rintro rfl
    simp [← reads, markers] at member
  obtain ⟨gap, cut, _⟩ := ends_before_lineFeed spared nonempty whole
  exact ⟨marker, member, front, found, gap, cut, reads⟩

theorem AddDetails.of_append_lineFeed {text : List Char}
    (occurs : AddDetails none (text ++ ['\n'])) : AddDetails none text := by
  obtain ⟨front, word, middle, found, rest, whole, reads, details, starts, ends, nonempty,
    boundary⟩ := occurs
  have spared := lineFeed_not_mem (by decide) details
  have foundNonempty : found ≠ [] := by
    rintro rfl
    exact absurd details (by decide)
  have inner : text ++ ['\n'] = (front ++ word ++ middle) ++ found ++ rest := by simp [whole]
  obtain ⟨gap, cut, _⟩ := ends_before_lineFeed spared foundNonempty inner
  refine ⟨front, word, middle, found, gap, by simp [cut], reads, details, starts, ?_, nonempty,
    boundary⟩
  cases middle with
  | nil => exact absurd rfl nonempty
  | cons c middle => exact ends

theorem Occurs.of_append_lineFeed {text : List Char} (occurs : Occurs (text ++ ['\n'])) :
    Occurs text :=
  occurs.imp hasMarker_of_append_lineFeed AddDetails.of_append_lineFeed

theorem Occurs.of_sublist {kept all : List (List Char)} (sublist : kept.Sublist all)
    (front : List Char) (edge : LineEdge front.getLast?)
    (occurs : Occurs (front ++ Text.unlines kept)) : Occurs (front ++ Text.unlines all) := by
  induction sublist generalizing front with
  | slnil => exact occurs
  | cons line _ ih =>
      have seam : ∀ after, Seam front (line ++ ['\n']) after := fun after =>
        ⟨Or.inl edge, Or.inl edge, Or.inr (by rw [List.getLast?_concat]; rfl)⟩
      simpa using Occurs.insert (seam _) (ih front edge occurs)
  | cons_cons line _ ih =>
      have next := ih (front ++ line ++ ['\n']) (lineEdge_lineFeed _) (by simpa using occurs)
      simpa using next

theorem Occurs.of_lines (front line rest : List Char)
    (occurs : Occurs (front ++ Text.unlines (Text.linesFrom line rest))) :
    Occurs (front ++ line.reverse ++ rest) := by
  induction rest generalizing front line with
  | nil =>
      rw [Text.linesFrom] at occurs
      split at occurs
      · next empty => simpa [empty] using occurs
      · apply Occurs.of_append_lineFeed
        simpa using occurs
  | cons c rest ih =>
      rw [Text.linesFrom] at occurs
      split at occurs
      · next feed =>
          subst feed
          rw [Text.unlines_cons] at occurs
          have whole : Occurs (front ++ Text.closeLine line ++ '\n' :: rest) := by
            have next := ih (front ++ Text.closeLine line ++ ['\n']) [] (by simpa using occurs)
            simpa using next
          unfold Text.closeLine at whole
          split at whole
          · rw [List.reverse_cons, ← List.append_assoc]
            exact whole.insert_return
          · exact whole
      · have next := ih front (c :: line) occurs
        simpa using next

end Template

theorem isTemplate_of_mem_split {body : String} {part : BodySection}
    (member : part ∈ BodySection.split body) (template : isTemplate part.text = true) :
    isTemplate body = true := by
  obtain ⟨key, _, rfl⟩ := BodySection.mem_split member
  rw [Template.isTemplate_iff] at template ⊢
  have joined := Template.Occurs.of_trim (by simpa using template)
  have lined : Template.Occurs (Text.unlines
      (BodySection.ownedLines key BodySection.preamble (Text.lines body.toList))) := by
    cases owned : BodySection.ownedLines key BodySection.preamble (Text.lines body.toList) with
    | nil => simpa [owned] using joined
    | cons line rest =>
        rw [owned] at joined
        rw [← Text.intercalate_append_lineFeed]
        exact joined.append_lineFeed
  have sublist := BodySection.ownedLines_sublist key BodySection.preamble (Text.lines body.toList)
  exact Template.Occurs.of_lines [] [] body.toList
    (Template.Occurs.of_sublist sublist [] (Or.inl rfl) lined)

end PolicyGate
