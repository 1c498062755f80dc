import PolicyGate.Proofs.Policy.Scope

/-!
What a policy makes of changes that come in another order, or with more between them. None of its
tests sees the order. More changes stay in scope and still tell of dependencies, and they can only
take away the exemption for bringing in the gate, unless they add its script themselves.
-/

namespace PolicyGate

/-- A longer list with the same items in the same order and admissible ones between them. -/
inductive Enlarged {α : Type} (admissible : α → Prop) : List α → List α → Prop
  | nil : Enlarged admissible [] []
  | keep (item : α) {items larger : List α} :
      Enlarged admissible items larger → Enlarged admissible (item :: items) (item :: larger)
  | insert {item : α} {items larger : List α} :
      admissible item → Enlarged admissible items larger →
        Enlarged admissible items (item :: larger)

namespace Enlarged

variable {α : Type} {admissible : α → Prop} {items larger : List α}

theorem subset (enlarged : Enlarged admissible items larger) : ∀ item ∈ items, item ∈ larger := by
  induction enlarged with
  | nil => exact fun _ member => member
  | keep first _ ih =>
      intro item member
      rcases List.mem_cons.mp member with rfl | later
      · exact List.mem_cons_self
      · exact List.mem_cons_of_mem _ (ih item later)
  | insert _ _ ih => exact fun item member => List.mem_cons_of_mem _ (ih item member)

theorem mem_or_admissible (enlarged : Enlarged admissible items larger) :
    ∀ item ∈ larger, item ∈ items ∨ admissible item := by
  induction enlarged with
  | nil => exact fun _ member => Or.inl member
  | keep first _ ih =>
      intro item member
      rcases List.mem_cons.mp member with rfl | later
      · exact Or.inl List.mem_cons_self
      · exact (ih item later).imp_left (List.mem_cons_of_mem _)
  | insert fits _ ih =>
      intro item member
      rcases List.mem_cons.mp member with rfl | later
      · exact Or.inr fits
      · exact ih item later

end Enlarged

namespace Policy

variable (policy : Policy)

/-- A file that may come along with the gate, or one that begins like such files. -/
def Admits (path : String) : Prop :=
  path ∈ policy.bootstrap.allowedFiles ∨
    ∃ start ∈ policy.bootstrap.allowedPrefixes, start.toList <+: path.toList

theorem allowsAtBootstrap_iff (path : String) :
    policy.allowsAtBootstrap path = true ↔ policy.Admits path := by
  simp [allowsAtBootstrap, Admits, startsWith_iff]

theorem addsGate_iff (change : Change) :
    policy.addsGate change = true ↔ change.path = policy.gateScript ∧ change.kind = .added := by
  simp [addsGate]

theorem bringsInGate_iff (changes : List Change) :
    policy.bringsInGate changes = true ↔
      (∃ change ∈ changes, policy.addsGate change = true) ∧
        ∀ change ∈ changes, ∀ path ∈ change.paths, policy.Admits path := by
  simp only [bringsInGate, Bool.and_eq_true, List.any_eq_true, List.all_eq_true,
    allowsAtBootstrap_iff]

theorem inScope_perm {files others : List String} (perm : files.Perm others) :
    policy.inScope files = policy.inScope others :=
  perm.any_eq

theorem bringsInGate_perm {changes others : List Change} (perm : changes.Perm others) :
    policy.bringsInGate changes = policy.bringsInGate others := by
  rw [bringsInGate, bringsInGate, perm.any_eq, perm.all_eq]

theorem changesManifest_perm {files others : List String} (perm : files.Perm others) :
    policy.changesManifest files = policy.changesManifest others :=
  perm.any_eq

theorem inScope_of_subset {files larger : List String} (subset : files ⊆ larger)
    (guarded : policy.inScope files = true) : policy.inScope larger = true := by
  rw [inScope_iff] at guarded ⊢
  obtain ⟨path, member, starts⟩ := guarded
  exact ⟨path, subset member, starts⟩

theorem changesManifest_of_subset {files larger : List String} (subset : files ⊆ larger)
    (touched : policy.changesManifest files = true) : policy.changesManifest larger = true := by
  simp only [changesManifest, List.any_eq_true] at touched ⊢
  obtain ⟨path, member, ends⟩ := touched
  exact ⟨path, subset member, ends⟩

theorem not_bringsInGate_of_enlarged {changes larger : List Change}
    (enlarged : Enlarged (fun change => policy.addsGate change = false) changes larger)
    (demanded : policy.bringsInGate changes = false) : policy.bringsInGate larger = false := by
  rw [Bool.eq_false_iff] at demanded ⊢
  intro exempt
  apply demanded
  rw [bringsInGate_iff] at exempt ⊢
  obtain ⟨⟨change, member, adds⟩, admitted⟩ := exempt
  refine ⟨⟨change, ?_, adds⟩, fun other among => admitted other (enlarged.subset other among)⟩
  rcases enlarged.mem_or_admissible change member with old | inserted
  · exact old
  · simp [inserted] at adds

end Policy

end PolicyGate
