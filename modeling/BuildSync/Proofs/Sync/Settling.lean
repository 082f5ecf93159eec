import BuildSync.Proofs.Sync.Debt
import BuildSync.Session

/-!
# The sync settles

A session that maps, reconciles and installs in any order reports four changes at most: each of
them is paid for out of the debt at the start.
-/

set_option autoImplicit false

namespace BuildSync

/-- The steps of the sync; everything else that a session allows is an edit. -/
inductive SyncStep
  | map
  | reconcile
  | install
  deriving DecidableEq, Repr

def SyncStep.action : SyncStep → Action
  | .map => .map
  | .reconcile => .reconcile
  | .install => .installScm

def Progress.reportsChange (progress : Progress) : Bool :=
  match progress.answer with
  | .paths paths => !paths.isEmpty
  | _ => false

theorem mapResolved_ok (settings : Settings) (bridge : Option Bridge) (bc : BuildConfig) :
    mapResolved (.ok settings : Except ValidationError Settings) bridge bc =
      .ok (mapDefinition settings bridge bc) := by
  unfold mapResolved
  cases h : bc.pipeline with
  | none => simp [mapDefinition, h]
  | some strategy => rfl

namespace Session

/-- The debt of a session. Without valid settings nothing is mapped or reconciled. -/
def debt (env : Environment) (s : Session) : Nat :=
  match Settings.orAmbient env s.settings with
  | .ok settings => BuildSync.debt settings s.bc s.job (s.last.bind Outcome.scm)
  | .error _ => 0

theorem debt_le_four (env : Environment) (s : Session) : s.debt env ≤ 4 := by
  unfold debt
  split
  · exact BuildSync.debt_le_four _ _ _ _
  · exact Nat.zero_le 4

theorem debt_map (env : Environment) (s : Session) :
    (s.map env).session.debt env + (s.map env).reportsChange.toNat ≤ s.debt env := by
  unfold map debt
  cases hSettings : Settings.orAmbient env s.settings with
  | ok settings =>
    rw [mapResolved_ok]
    simp only [checked, hSettings]
    exact debt_map_le settings s.bridge s.bc s.job _
  | error e =>
    cases h : s.bc.pipeline <;>
      simp [mapResolved, h, checked, quiet, hSettings, Progress.reportsChange, Except.map]

theorem debt_reconcile (env : Environment) (s : Session) :
    (s.reconcile env).session.debt env + (s.reconcile env).reportsChange.toNat ≤ s.debt env := by
  unfold reconcile debt
  cases hSettings : Settings.orAmbient env s.settings with
  | ok settings =>
    have hReports : ∀ outcome : Outcome,
        (!(outcome.changes.map fun change => change.field.path).isEmpty) = outcome.changed := by
      intro outcome
      rw [List.isEmpty_map, Outcome.changed]
    simp only [checked, hSettings, Progress.reportsChange, hReports, Option.bind_some]
    exact debt_reconcile_le settings s.job s.bc _
  | error e => simp [checked, quiet, hSettings, Progress.reportsChange]

theorem debt_installScm (env : Environment) (s : Session) :
    s.installScm.session.debt env + s.installScm.reportsChange.toNat ≤ s.debt env := by
  unfold installScm
  split
  · rename_i scm checkout path hLast hJob
    simp only [debt, quiet, hLast, Job.install, hJob, Progress.reportsChange]
    cases Settings.orAmbient env s.settings with
    | ok settings => exact debt_install_le settings s.bc hJob scm
    | error e => exact Nat.le_refl 0
  · exact Nat.le_refl _

theorem debt_act (env : Environment) (s : Session) (step : SyncStep) :
    (s.act env step.action).session.debt env + (s.act env step.action).reportsChange.toNat ≤
      s.debt env := by
  cases step with
  | map => exact s.debt_map env
  | reconcile => exact s.debt_reconcile env
  | install => exact s.debt_installScm env

theorem countP_reportsChange_le_debt (env : Environment) (steps : List SyncStep) :
    ∀ s : Session,
      (s.run env (steps.map SyncStep.action)).countP Progress.reportsChange ≤ s.debt env := by
  -- Each step pays for its own report, so what is left bounds the rest of the run.
  induction steps with
  | nil => intro s; exact Nat.zero_le _
  | cons step steps ih =>
    intro s
    have hStep := s.debt_act env step
    have hRest := ih (s.act env step.action).session
    rw [List.map_cons, run, List.countP_cons]
    cases hReports : (s.act env step.action).reportsChange <;> simp [hReports] at hStep ⊢ <;> omega

/-- However mapping, reconciling and installing alternate, at most four steps report a change. -/
theorem countP_reportsChange_le_four (env : Environment) (s : Session) (steps : List SyncStep) :
    (s.run env (steps.map SyncStep.action)).countP Progress.reportsChange ≤ 4 :=
  Nat.le_trans (countP_reportsChange_le_debt env steps s) (s.debt_le_four env)

-- The script path, the branch, its name without decorations, and the blank name are four changes.
example :
    let bc : BuildConfig :=
      { apiVersion := BuildConfig.defaultApiVersion
        kind := BuildConfig.model
        metadata := ⟨"ci", "app", []⟩
        spec := some ⟨none, some ⟨some pipelineStrategyType, some ⟨none, none, []⟩, []⟩, []⟩
        extras := [] }
    let branch : BranchProperty :=
      ⟨"* ", some (.git ⟨[⟨some "https://example/repo.git", none, none, none⟩], [], []⟩)⟩
    let job : Job := ⟨"ci/ci-app", some (.scm (.git ⟨[], [], []⟩) "ci/Jenkinsfile"), some branch⟩
    let steps : List SyncStep := [.reconcile, .map, .reconcile, .map, .reconcile, .map, .reconcile]
    (run [] ⟨bc, job, some .defaults, none, none⟩ (steps.map SyncStep.action)).map
      Progress.reportsChange = [true, false, true, false, true, false, true] := by
  decide +kernel

end Session

end BuildSync
