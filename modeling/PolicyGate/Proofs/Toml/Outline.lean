import PolicyGate.Proofs.Toml.Lines

/-!
Documents in their common form: entries, and then tables under headers of one part. What such a
document has under a name can be read off without following its lines.
-/

namespace PolicyGate.Toml

theorem Entries.find?_cons (first name : String) (value : Value) (entries : Entries) :
    Entries.find? ((first, value) :: entries) name =
      if name = first then some value else entries.find? name := by
  by_cases same : name = first
  · simp [find?, same]
  · have apart : (name == first) = false := by simpa using same
    simp [find?, List.lookup_cons, apart, same]

theorem Entries.find?_put (entries : Entries) (key name : String) (value : Value) :
    (entries.put key value).find? name = if name = key then some value else entries.find? name := by
  induction entries with
  | nil => exact find?_cons key name value []
  | cons entry entries ih =>
      obtain ⟨first, other⟩ := entry
      rw [put]
      by_cases taken : first = key
      · rw [if_pos taken, find?_cons, find?_cons]
        by_cases same : name = key <;> simp [same, taken]
      · rw [if_neg taken, find?_cons, find?_cons, ih]
        by_cases same : name = first
        · simp [same, taken]
        · simp [same]

/-- Entries that stand together, and the table that they make. -/
structure Block where
  members : List (List String × Value)
  entries : Entries
  built : insertAll members [] = some entries

def Block.lines (block : Block) : List Line :=
  block.members.map fun member => .entry member.1 member.2

structure Section extends Block where
  name : String
  double : Bool

namespace Section

def opening (part : Section) : Line :=
  if part.double then .element [part.name] else .table [part.name]

def lines (part : Section) : List Line := part.opening :: part.toBlock.lines

def together : List Section → Option Value
  | [] => none
  | part :: parts =>
    if part.double then some (.tables ((part :: parts).map (·.entries)).reverse)
    else some (.table .header part.entries)

end Section

structure Outline where
  root : Block
  sections : List Section

namespace Outline

def lines (outline : Outline) : List Line :=
  outline.root.lines ++ outline.sections.flatMap Section.lines

def value? (outline : Outline) (name : String) : Option Value :=
  (outline.root.entries.find? name).or
    (Section.together (outline.sections.filter fun part => part.name = name))

/-- No name is given twice, except by headers in double brackets. -/
structure Plain (outline : Outline) : Prop where
  apart : ∀ part ∈ outline.sections, outline.root.entries.find? part.name = none
  single : outline.sections.Pairwise fun first second =>
    first.name = second.name → first.double = true ∧ second.double = true

end Outline

theorem Block.foldlM_read (block : Block) {draft : Draft} (fresh : draft.current = []) :
    block.lines.foldlM Draft.read draft = some { draft with current := block.entries } := by
  have steps : ∀ (members : List (List String × Value)) (draft : Draft),
      (members.map fun member => Line.entry member.1 member.2).foldlM Draft.read draft =
        (insertAll members draft.current).map fun current => { draft with current } := by
    intro members
    induction members with
    | nil => intro draft; rfl
    | cons member members ih =>
        intro draft
        rw [insertAll, List.map_cons, List.foldlM_cons, List.foldlM_cons, Draft.read]
        cases insertKey member.1 member.2 draft.current with
        | none => rfl
        | some current => exact ih { draft with current }
  rw [lines, steps, fresh, block.built, Option.map_some]

namespace Section

variable (part : Section)

def Fits (found? : Option Value) : Prop :=
  found? = none ∨ part.double = true ∧ ∃ earlier, found? = some (.tables earlier)

def onTop : Option Value → Value
  | some (.tables earlier) => .tables (part.entries :: earlier)
  | _ => if part.double then .tables [part.entries] else .table .header part.entries

def header : Header := if part.double then .tables [] part.name else .table [] part.name

variable {part}

theorem read_opening {draft : Draft} {done : Entries} (closed : draft.close = some done)
    (fits : part.Fits (done.find? part.name)) :
    draft.read part.opening = some ⟨done, part.header, []⟩ := by
  rcases fits with free | ⟨double, earlier, found⟩
  · by_cases double : part.double
    · simp [opening, header, double, Draft.read, Draft.openElement, closed, lookAt, free]
    · simp [opening, header, double, Draft.read, Draft.openTable, closed, lookAt, free]
  · simp [opening, header, double, Draft.read, Draft.openElement, closed, lookAt, found]

theorem close_header {done : Entries} (fits : part.Fits (done.find? part.name)) :
    Draft.close ⟨done, part.header, part.entries⟩ =
      some (done.put part.name (part.onTop (done.find? part.name))) := by
  rcases fits with free | ⟨double, earlier, found⟩
  · by_cases double : part.double
    · simp [header, double, Draft.close, alter, onTop, free]
    · simp [header, double, Draft.close, alter, onTop, free]
  · simp [header, double, Draft.close, alter, onTop, found]

theorem fits_together {earlier : List Section}
    (single : ∀ before ∈ earlier, before.double = true ∧ part.double = true) :
    part.Fits (together earlier) := by
  cases earlier with
  | nil => exact .inl rfl
  | cons before _ =>
      obtain ⟨double, also⟩ := single before List.mem_cons_self
      exact .inr ⟨also, _, by rw [together, if_pos double]⟩

theorem together_concat {earlier : List Section}
    (single : ∀ before ∈ earlier, before.double = true ∧ part.double = true) :
    together (earlier ++ [part]) = some (part.onTop (together earlier)) := by
  cases earlier with
  | nil => by_cases double : part.double <;> simp [together, onTop, double]
  | cons before _ =>
      have double := (single before List.mem_cons_self).1
      simp [together, onTop, double]

end Section

namespace Outline

variable {root : Block} {past : List Section} {part : Section}

def Holds (outline : Outline) (entries : Entries) : Prop :=
  ∀ name, entries.find? name = outline.value? name

theorem Holds.concat {draft : Draft} {done : Entries} (closed : draft.close = some done)
    (holds : Holds ⟨root, past⟩ done) (apart : root.entries.find? part.name = none)
    (single : ∀ before ∈ past, before.name = part.name →
      before.double = true ∧ part.double = true) :
    ∃ next after, part.lines.foldlM Draft.read draft = some next ∧ next.close = some after ∧
      Holds ⟨root, past ++ [part]⟩ after := by
  have found : done.find? part.name =
      Section.together (past.filter fun before => before.name = part.name) := by
    rw [holds part.name, value?, apart, Option.none_or]
  have alike : ∀ before ∈ past.filter fun before => before.name = part.name,
      before.double = true ∧ part.double = true := by
    intro before member
    obtain ⟨among, same⟩ := List.mem_filter.mp member
    exact single before among (by simpa using same)
  have fits : part.Fits (done.find? part.name) := by
    rw [found]
    exact Section.fits_together alike
  refine ⟨⟨done, part.header, part.entries⟩, _, ?_, Section.close_header fits, ?_⟩
  · rw [Section.lines, List.foldlM_cons, Section.read_opening closed fits]
    exact part.toBlock.foldlM_read rfl
  · intro name
    rw [Entries.find?_put, value?, List.filter_append]
    by_cases same : name = part.name
    · subst same
      rw [if_pos rfl, apart, Option.none_or, found]
      simpa using (Section.together_concat alike).symm
    · have other : ¬ part.name = name := fun equal => same equal.symm
      rw [if_neg same, holds name, value?]
      simp [other]

theorem tableOf?_sections (sections : List Section) {draft : Draft} {done : Entries}
    (closed : draft.close = some done) (holds : Holds ⟨root, past⟩ done)
    (plain : Plain ⟨root, past ++ sections⟩) :
    ∃ entries, ((sections.flatMap Section.lines).foldlM Draft.read draft).bind Draft.close =
      some entries ∧ Holds ⟨root, past ++ sections⟩ entries := by
  -- Over the sections still to come; those behind us are the outline that holds already.
  induction sections generalizing past draft done with
  | nil => exact ⟨done, closed, by rwa [List.append_nil]⟩
  | cons part sections ih =>
      have apart := plain.apart part (List.mem_append_right past List.mem_cons_self)
      have single : ∀ before ∈ past, before.name = part.name →
          before.double = true ∧ part.double = true := by
        intro before member
        exact (List.pairwise_append.mp plain.single).2.2 before member part List.mem_cons_self
      obtain ⟨next, after, read, ended, longer⟩ := holds.concat closed apart single
      rw [List.flatMap_cons, List.foldlM_append, read, List.append_cons]
      rw [List.append_cons] at plain
      exact ih ended longer plain

theorem exists_tableOf? {outline : Outline} (plain : outline.Plain) :
    ∃ entries, tableOf? outline.lines = some entries ∧ outline.Holds entries := by
  obtain ⟨root, sections⟩ := outline
  have closed : Draft.close ⟨[], .root, root.entries⟩ = some root.entries := rfl
  have holds : Holds ⟨root, []⟩ root.entries := by
    intro name
    simp [value?, Section.together]
  obtain ⟨entries, built, all⟩ := tableOf?_sections sections closed holds plain
  refine ⟨entries, ?_, all⟩
  rw [tableOf?, lines, List.foldlM_append, root.foldlM_read rfl]
  exact built

end Outline

end PolicyGate.Toml
