import PolicyGate.Change.Listing
import PolicyGate.Policy.Coverage

/-! When a listing of changed paths is in scope: some path of it begins like a guarded one. -/

namespace PolicyGate

theorem startsWith_iff (text start : String) :
    startsWith text start = true ↔ start.toList <+: text.toList := by
  simp [startsWith]

namespace Policy

theorem guards_iff (policy : Policy) (path : String) :
    policy.guards path = true ↔
      ∃ guardPath ∈ policy.guardPaths, guardPath.toList <+: path.toList := by
  simp only [guards, List.any_eq_true, startsWith_iff]

theorem inScope_iff (policy : Policy) (files : List String) :
    policy.inScope files = true ↔ ∃ path ∈ files, policy.guards path = true := by
  simp only [inScope, List.any_eq_true]

end Policy

end PolicyGate
