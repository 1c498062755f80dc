import PolicyGate.Proofs.Gate.Decision
import PolicyGate.Proofs.Text.Lines
import PolicyGate.Proofs.Workspace.Lookup
import PolicyGate.Scan.Installed

/-!
Which tools the scanners start, and what they make of them. Each scan starts one tool or none. Only
a failed run of the secret scanner, or of the package manager that blocks, is a finding.
-/

namespace PolicyGate

def Text.Trimmed (text core : List Char) : Prop :=
  Snug core ∧ ∃ front back, text = front ++ core ++ back ∧
    (∀ c ∈ front, isBlank c = true) ∧ ∀ c ∈ back, isBlank c = true

theorem Text.trimmed_trim (text : List Char) : Trimmed text (trim text) :=
  ⟨snug_trim text, trim_split text⟩

/-- What a report repeats of a tool: what it printed, and behind it what it printed as errors. -/
def Completion.Echoes (completion : Completion) (text : String) : Prop :=
  ∃ output errors, Text.Trimmed (Text.decodeLossy completion.output) output ∧
    Text.Trimmed (Text.decodeLossy completion.errors) errors ∧
    text.toList =
      if output = [] then errors else if errors = [] then output else output ++ '\n' :: errors

theorem Completion.echoes_transcript (completion : Completion) :
    completion.Echoes completion.transcript := by
  refine ⟨_, _, Text.trimmed_trim _, Text.trimmed_trim _, ?_⟩
  rw [transcript, String.toList_ofList]
  by_cases silent : Text.trim (Text.decodeLossy completion.output) = [] <;>
    by_cases quiet : Text.trim (Text.decodeLossy completion.errors) = [] <;>
      simp [silent, quiet]

namespace Workspace

variable (workspace : Workspace) (command : Command)

def Starts (completion : Completion) : Prop :=
  command.hasNul = false ∧ workspace.start command = .ok completion

def Refuses (fault : AccessFault) : Prop :=
  command.hasNul = true ∧ fault = .nulByte ∨
    command.hasNul = false ∧ workspace.start command = .error fault

theorem run_of_starts {completion : Completion} (starts : workspace.Starts command completion) :
    workspace.run command = ⟨.ok completion, [command]⟩ := by
  simp [run, starts.1, starts.2]

theorem run_of_refuses {fault : AccessFault} (refuses : workspace.Refuses command fault) :
    workspace.run command = ⟨.error fault, []⟩ := by
  rcases refuses with ⟨nul, rfl⟩ | ⟨plain, failed⟩
  · simp [run, nul]
  · simp [run, plain, failed]

theorem starts_or_refuses :
    (∃ completion, workspace.Starts command completion) ∨
      ∃ fault, workspace.Refuses command fault := by
  cases nul : command.hasNul with
  | true => exact Or.inr ⟨_, Or.inl ⟨nul, rfl⟩⟩
  | false =>
      cases started : workspace.start command with
      | ok completion => exact Or.inl ⟨completion, nul, started⟩
      | error fault => exact Or.inr ⟨fault, Or.inr ⟨nul, started⟩⟩

end Workspace

def Policy.Touches (policy : Policy) (files : List String) : Prop :=
  ∃ file ∈ files, ∃ manifest ∈ policy.dependencyManifests, manifest.toList <:+ file.toList

theorem Policy.changesManifest_iff (policy : Policy) (files : List String) :
    policy.changesManifest files = true ↔ policy.Touches files := by
  simp only [changesManifest, isManifest, endsWith, List.any_eq_true, List.isSuffixOf_iff_suffix,
    Touches]

namespace Scan

/-- What the scan with a tool comes to, and the programs started for it. -/
inductive Reports (workspace : Workspace) (tool : String) (problem : String → ScanResult)
    (command : Command) : Traced ScanResult → Prop
  | unavailable {fault : AccessFault} : workspace.Refuses command fault →
      Reports workspace tool problem command ⟨.unavailable tool fault.message, []⟩
  | clean {completion : Completion} : workspace.Starts command completion →
      completion.status = .code 0 →
      Reports workspace tool problem command ⟨.clean tool, [command]⟩
  | problem {completion : Completion} {text : String} : workspace.Starts command completion →
      completion.status ≠ .code 0 → completion.Echoes text →
      Reports workspace tool problem command ⟨problem text, [command]⟩

section Reports

variable {workspace : Workspace} {tool : String} {problem : String → ScanResult}
  {command : Command} {scan : Traced ScanResult}

theorem reports_outcome (workspace : Workspace) (tool : String) (problem : String → ScanResult)
    (command : Command) :
    Reports workspace tool problem command
      (do return outcome tool problem (← workspace.run command)) := by
  rcases workspace.starts_or_refuses command with ⟨completion, starts⟩ | ⟨fault, refuses⟩
  · rw [workspace.run_of_starts command starts]
    change Reports workspace tool problem command ⟨outcome tool problem (.ok completion), [command]⟩
    by_cases succeeded : completion.status = .code 0
    · simp only [outcome, ExitStatus.succeeded, succeeded, decide_true, if_true]
      exact .clean starts succeeded
    · simp only [outcome, ExitStatus.succeeded, succeeded, decide_false, if_false,
        Bool.false_eq_true]
      exact .problem starts succeeded completion.echoes_transcript
  · rw [workspace.run_of_refuses command refuses]
    exact .unavailable refuses

theorem Reports.length_started (reports : Reports workspace tool problem command scan) :
    scan.started.length ≤ 1 := by
  cases reports <;> simp

theorem Reports.blocks_iff (reports : Reports workspace tool problem command scan)
    (blocking : ∀ text, (problem text).blocks = true) :
    scan.value.blocks = true ↔
      ∃ completion, workspace.Starts command completion ∧ completion.status ≠ .code 0 := by
  cases reports with
  | unavailable refuses =>
      have ran := workspace.run_of_refuses command refuses
      simp only [ScanResult.blocks, Bool.false_eq_true, false_iff]
      rintro ⟨completion, starts, _⟩
      rw [workspace.run_of_starts command starts] at ran
      simp at ran
  | clean starts succeeded =>
      simp only [ScanResult.blocks, Bool.false_eq_true, false_iff]
      rintro ⟨completion, again, failed⟩
      have same := starts.2.symm.trans again.2
      exact failed (Except.ok.inj same ▸ succeeded)
  | problem starts failed _ => simpa [blocking] using ⟨_, starts, failed⟩

theorem Reports.not_blocks (reports : Reports workspace tool problem command scan)
    (harmless : ∀ text, (problem text).blocks = false) : scan.value.blocks = false := by
  cases reports with
  | problem => exact harmless _
  | _ => rfl

end Reports

structure Manager where
  name : String
  lockFile : String
  blocks : Bool

namespace Manager

def pnpm : Manager := ⟨"pnpm", "pnpm-lock.yaml", true⟩

def npm : Manager := ⟨"npm", "package-lock.json", false⟩

def tool (manager : Manager) : String := manager.name ++ " audit"

def problem (manager : Manager) : String → ScanResult :=
  if manager.blocks then .findings manager.tool else .tolerated manager.tool

def Ready (manager : Manager) (workspace : Workspace) (root program : String) : Prop :=
  workspace.present (Path.join root manager.lockFile) = true ∧
    workspace.Supplies manager.name program

theorem managerFor?_eq_some_iff (manager : Manager) (visible : isBlankText manager.name = false)
    (workspace : Workspace) (root program : String) :
    managerFor? workspace root manager.lockFile manager.name = some program ↔
      manager.Ready workspace root program := by
  rw [Ready, ← workspace.findTool_eq_some_iff manager.name visible]
  cases locked : workspace.present (Path.join root manager.lockFile) <;>
    simp [managerFor?, locked]

theorem Ready.unique {manager : Manager} (visible : isBlankText manager.name = false)
    {workspace : Workspace} {root program other : String}
    (ready : manager.Ready workspace root program) (again : manager.Ready workspace root other) :
    other = program := by
  rw [← manager.managerFor?_eq_some_iff visible] at ready again
  exact Option.some.inj (again.symm.trans ready)

theorem managerFor?_eq_none_iff (manager : Manager) (visible : isBlankText manager.name = false)
    (workspace : Workspace) (root : String) :
    managerFor? workspace root manager.lockFile manager.name = none ↔
      ∀ program, ¬ manager.Ready workspace root program := by
  simp only [← manager.managerFor?_eq_some_iff visible, Option.eq_none_iff_forall_ne_some]

end Manager

def auditCommand (root program : String) : Command := ⟨program, auditArguments, some root⟩

def secretCommand (workspace : Workspace) (root program : String) : Command :=
  ⟨program, secretArguments (Path.join workspace.scratch secretReport) root, none⟩

/-- The audit that a workspace asks for: with the first of the two managers that is ready. -/
inductive Audits (workspace : Workspace) (root : String) : Traced ScanResult → Prop
  | pnpm {program : String} {scan : Traced ScanResult} :
      Manager.pnpm.Ready workspace root program →
      Reports workspace Manager.pnpm.tool Manager.pnpm.problem
        (auditCommand root program) scan →
      Audits workspace root scan
  | npm {program : String} {scan : Traced ScanResult} :
      (∀ other, ¬ Manager.pnpm.Ready workspace root other) →
      Manager.npm.Ready workspace root program →
      Reports workspace Manager.npm.tool Manager.npm.problem
        (auditCommand root program) scan →
      Audits workspace root scan
  | unsupported : (∀ other, ¬ Manager.pnpm.Ready workspace root other) →
      (∀ other, ¬ Manager.npm.Ready workspace root other) →
      Audits workspace root
        ⟨.skipped "no supported dependency scanner available for this stack", []⟩

theorem audit_reports (manager : Manager) (workspace : Workspace) (root program : String) :
    Reports workspace manager.tool manager.problem (auditCommand root program)
      (audit workspace root manager.name program manager.blocks) :=
  reports_outcome workspace manager.tool manager.problem (auditCommand root program)

section Selection

variable (workspace : Workspace) (root : String) (policy : Policy) (files : List String)

theorem dependencies_of_untouched (untouched : policy.changesManifest files = false) :
    dependencies workspace root policy files =
      ⟨.skipped "no dependency manifests changed", []⟩ := by
  rw [dependencies, untouched]
  rfl

theorem dependencies_audits (touched : policy.changesManifest files = true) :
    Audits workspace root (dependencies workspace root policy files) := by
  rw [dependencies, touched, Bool.not_true, if_neg Bool.false_ne_true]
  split
  · next program ready =>
      exact .pnpm ((Manager.pnpm.managerFor?_eq_some_iff (by decide) ..).mp ready)
        (audit_reports .pnpm workspace root program)
  · next unready =>
      have never := (Manager.pnpm.managerFor?_eq_none_iff (by decide) workspace root).mp unready
      split
      · next program ready =>
          exact .npm never ((Manager.npm.managerFor?_eq_some_iff (by decide) ..).mp ready)
            (audit_reports .npm workspace root program)
      · next neither =>
          exact .unsupported never
            ((Manager.npm.managerFor?_eq_none_iff (by decide) ..).mp neither)

end Selection

section Audits

variable {workspace : Workspace} {root : String} {scan : Traced ScanResult}

theorem Audits.length_started (audits : Audits workspace root scan) :
    scan.started.length ≤ 1 := by
  cases audits with
  | pnpm _ reports => exact reports.length_started
  | npm _ _ reports => exact reports.length_started
  | unsupported => simp

theorem Audits.blocks_iff (audits : Audits workspace root scan) :
    scan.value.blocks = true ↔
      ∃ program completion, Manager.pnpm.Ready workspace root program ∧
        workspace.Starts (auditCommand root program) completion ∧
        completion.status ≠ .code 0 := by
  cases audits with
  | @pnpm program _ ready reports =>
      rw [reports.blocks_iff fun _ => rfl]
      constructor
      · rintro ⟨completion, starts, failed⟩
        exact ⟨program, completion, ready, starts, failed⟩
      · rintro ⟨other, completion, again, starts, failed⟩
        rw [ready.unique (by decide) again] at starts
        exact ⟨completion, starts, failed⟩
  | npm never _ reports =>
      rw [reports.not_blocks fun _ => rfl]
      simp [never]
  | unsupported never _ => simp [ScanResult.blocks, never]

end Audits

theorem secrets_of_unsupplied {workspace : Workspace}
    (lacks : ∀ program, ¬ workspace.Supplies secretTool program) (root : String) :
    secrets workspace root =
      ⟨.skipped (secretTool ++ " not installed; skipping secret scan"), []⟩ := by
  have none : workspace.findTool secretTool = none := by
    rw [Option.eq_none_iff_forall_ne_some]
    intro program found
    exact lacks program ((workspace.findTool_eq_some_iff secretTool (by decide) program).mp found)
  rw [secrets, none]
  rfl

theorem secrets_reports {workspace : Workspace} {program : String}
    (supplies : workspace.Supplies secretTool program) (root : String) :
    Reports workspace secretTool (.findings secretTool) (secretCommand workspace root program)
      (secrets workspace root) := by
  rw [← workspace.findTool_eq_some_iff secretTool (by decide)] at supplies
  rw [secrets, supplies]
  exact reports_outcome workspace secretTool (.findings secretTool)
    (secretCommand workspace root program)

theorem secrets_blocks_iff (workspace : Workspace) (root : String) :
    (secrets workspace root).value.blocks = true ↔
      ∃ program completion, workspace.Supplies secretTool program ∧
        workspace.Starts (secretCommand workspace root program) completion ∧
        completion.status ≠ .code 0 := by
  by_cases supplied : ∃ program, workspace.Supplies secretTool program
  · obtain ⟨program, supplies⟩ := supplied
    rw [(secrets_reports supplies root).blocks_iff fun _ => rfl]
    constructor
    · rintro ⟨completion, starts, failed⟩
      exact ⟨program, completion, supplies, starts, failed⟩
    · rintro ⟨other, completion, again, starts, failed⟩
      rw [← workspace.findTool_eq_some_iff secretTool (by decide)] at supplies again
      rw [Option.some.inj (again.symm.trans supplies)] at starts
      exact ⟨completion, starts, failed⟩
  · have lacks := not_exists.mp supplied
    rw [secrets_of_unsupplied lacks]
    simp [ScanResult.blocks, lacks]

/-- Without a changed manifest nothing is audited. With one, the first manager that is ready is run
and no other, and only the first of them can find something that blocks. The secret scanner is run
wherever it is supplied. What either tool comes to is told by `Reports`. -/
theorem scans_start_and_block (workspace : Workspace) (root : String) (policy : Policy)
    (files : List String) :
    (¬ policy.Touches files →
      (dependencies workspace root policy files).started = [] ∧
      (dependencies workspace root policy files).value =
        .skipped "no dependency manifests changed") ∧
    (policy.Touches files → Audits workspace root (dependencies workspace root policy files)) ∧
    (dependencies workspace root policy files).started.length ≤ 1 ∧
    ((∃ tool output,
        (dependencies workspace root policy files).value = .findings tool output) ↔
      policy.Touches files ∧ ∃ program completion,
        Manager.pnpm.Ready workspace root program ∧
        workspace.Starts (auditCommand root program) completion ∧
        completion.status ≠ .code 0) ∧
    ((∀ program, ¬ workspace.Supplies secretTool program) →
      secrets workspace root =
        ⟨.skipped (secretTool ++ " not installed; skipping secret scan"), []⟩) ∧
    (∀ program, workspace.Supplies secretTool program →
      Reports workspace secretTool (.findings secretTool) (secretCommand workspace root program)
        (secrets workspace root)) ∧
    ((∃ tool output, (secrets workspace root).value = .findings tool output) ↔
      ∃ program completion, workspace.Supplies secretTool program ∧
        workspace.Starts (secretCommand workspace root program) completion ∧
        completion.status ≠ .code 0) := by
  simp only [← ScanResult.blocks_iff, ← policy.changesManifest_iff]
  refine ⟨?_, dependencies_audits workspace root policy files, ?_, ?_,
    fun lacks => secrets_of_unsupplied lacks root,
    fun _ supplies => secrets_reports supplies root, secrets_blocks_iff workspace root⟩
  · intro untouched
    rw [dependencies_of_untouched workspace root policy files (by simpa using untouched)]
    exact ⟨rfl, rfl⟩
  · cases touched : policy.changesManifest files with
    | false => simp [dependencies_of_untouched workspace root policy files touched]
    | true => exact (dependencies_audits workspace root policy files touched).length_started
  · cases touched : policy.changesManifest files with
    | false =>
        simp [dependencies_of_untouched workspace root policy files touched, ScanResult.blocks]
    | true =>
        rw [(dependencies_audits workspace root policy files touched).blocks_iff]
        simp

end Scan

end PolicyGate
