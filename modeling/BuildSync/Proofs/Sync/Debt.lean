import BuildSync.Proofs.Sync.Idempotence
import BuildSync.Proofs.Sync.RoundTrip

/-!
# The debt of a sync

A BuildConfig, its job and the checkout of the last outcome have a debt of at most four. Mapping and
installing do not raise it, and neither does reconciling, which lowers it with every change.
-/

set_option autoImplicit false

namespace BuildSync

/-! ### Refs -/

namespace Ref

def Bare (ref : Option String) : Prop := ∀ name, ref = some name → undecorated name = name

theorem bare_nonempty_undecorated (ref : Option String) :
    Bare (nonempty (ref.map undecorated)) := by
  intro name hName
  obtain ⟨hMap, _⟩ := nonempty_some_iff.mp hName
  obtain ⟨ref, _, rfl⟩ := Option.map_eq_some_iff.mp hMap
  exact undecorated_idem ref

theorem bare_returned (ref : Option String) : Bare (returned ref) := by
  cases ref with
  | none => intro name hName; cases hName
  | some ref =>
    rw [returned, Option.bind_some]
    split
    · intro name hName
      cases hName
    · exact bare_nonempty_undecorated (some ref)

/-- A bare ref changes once more at most, when it is blank. -/
theorem returned_returned {ref : Option String} (hRef : Bare ref) :
    returned (returned ref) = returned ref := by
  cases ref with
  | none => rfl
  | some ref =>
    cases hBlank : Text.allBlank ref with
    | true => simp [returned, hBlank]
    | false =>
      have hReturned : returned (some ref) = some ref := by
        simp [returned, hBlank, hRef ref rfl, nonempty_of_ne (ne_empty_of_not_blank hBlank)]
      rw [hReturned, hReturned]

/-- The rounds of mapping and reconciling in which a ref still changes. -/
def debt (ref : Option String) : Nat :=
  if returned ref = ref then 0 else if returned (returned ref) = returned ref then 1 else 2

theorem debt_le (ref : Option String) : debt ref ≤ 2 := by
  unfold debt
  split
  · omega
  · split <;> omega

theorem debt_le_of_bare {ref : Option String} (hRef : Bare ref) : debt ref ≤ 1 := by
  rw [debt, if_pos (returned_returned hRef)]
  split <;> omega

theorem debt_returned (ref : Option String) :
    (if returned ref = ref then 0 else 1) + debt (returned ref) = debt ref := by
  have hLast : returned (returned (returned ref)) = returned (returned ref) :=
    returned_returned (bare_returned ref)
  by_cases hFirst : returned ref = ref
  · rw [if_pos hFirst, hFirst, Nat.zero_add]
  · rw [if_neg hFirst]
    simp only [debt, hLast, if_neg hFirst, if_true]
    split <;> rfl

end Ref

/-! ### The debt of a state -/

def checkoutRemote (settings : Settings) (scm : GitCheckout) : Option RemoteRef :=
  if settings.syncRemote then scm.remote? none else none

/-- What it costs to write a repository and to let its ref settle. -/
def remoteDebt (bc : BuildConfig) : Option RemoteRef → Nat
  | none => 0
  | some remote =>
    (if bc.remote = (some remote.1, remote.2) then 0 else 1) + Ref.debt remote.2

def pathDebt (settings : Settings) (job : Job) (bc : BuildConfig) (strategy : PipelineStrategy) :
    Nat :=
  if nonempty (job.scriptPath settings bc.contextDir strategy) = nonempty strategy.scriptPath then 0
  else 1

/-- Without a repository a definition may give way to the branch, whose name may settle in two
rounds. With one, only checkouts that are at hand can still be written. -/
def checkoutDebt (settings : Settings) (bc : BuildConfig) (scm last : Option GitCheckout) : Nat :=
  if bc.tracked .uri = none then 3
  else
    max (Ref.debt (bc.tracked .ref))
      (max (remoteDebt bc (scm.bind (checkoutRemote settings)))
        (remoteDebt bc (last.bind (checkoutRemote settings))))

/-- A bound on the changes still to come, with the checkout of the last outcome at hand. -/
def debt (settings : Settings) (bc : BuildConfig) (job : Job) (last : Option GitCheckout) : Nat :=
  match bc.pipeline with
  | none => 0
  | some strategy =>
    match job.definition with
    | some (.scm checkout _) =>
      pathDebt settings job bc strategy + checkoutDebt settings bc checkout.git? last
    | some (.inline script _) => if bc.tracked .script = some script then 0 else 3
    | _ =>
      if changesBetween bc (takeBranch settings job.branch bc strategy) = [] then 2 else 3

theorem bare_checkoutRemote {settings : Settings} {scm : Option GitCheckout} {remote : RemoteRef}
    (h : scm.bind (checkoutRemote settings) = some remote) : Ref.Bare remote.2 := by
  obtain ⟨scm, _, hRemote⟩ := Option.bind_eq_some_iff.mp h
  unfold checkoutRemote at hRemote
  split at hRemote
  · obtain ⟨url, _, rfl⟩ := Option.map_eq_some_iff.mp hRemote
    exact Ref.bare_nonempty_undecorated scm.branch?
  · cases hRemote

theorem remoteDebt_checkout_le (settings : Settings) (bc : BuildConfig) (scm : Option GitCheckout) :
    remoteDebt bc (scm.bind (checkoutRemote settings)) ≤ 2 := by
  cases h : scm.bind (checkoutRemote settings) with
  | none => simp [remoteDebt]
  | some remote =>
    have hRef := Ref.debt_le_of_bare (bare_checkoutRemote h)
    simp only [remoteDebt]
    split <;> omega

theorem checkoutDebt_le (settings : Settings) (bc : BuildConfig) (scm last : Option GitCheckout) :
    checkoutDebt settings bc scm last ≤ if bc.tracked .uri = none then 3 else 2 := by
  have hRef := Ref.debt_le (bc.tracked .ref)
  have hScm := remoteDebt_checkout_le settings bc scm
  have hLast := remoteDebt_checkout_le settings bc last
  unfold checkoutDebt
  split <;> omega

theorem pathDebt_le (settings : Settings) (job : Job) (bc : BuildConfig)
    (strategy : PipelineStrategy) : pathDebt settings job bc strategy ≤ 1 := by
  unfold pathDebt
  split <;> omega

theorem pathDebt_eq_zero_iff {settings : Settings} {job : Job} {bc : BuildConfig}
    {strategy : PipelineStrategy} :
    pathDebt settings job bc strategy = 0 ↔
      nonempty (job.scriptPath settings bc.contextDir strategy) = nonempty strategy.scriptPath := by
  simp [pathDebt]

section Kinds

variable (settings : Settings) {bc : BuildConfig} {job : Job} (last : Option GitCheckout)
  {strategy : PipelineStrategy}

theorem debt_no_pipeline (h : bc.pipeline = none) : debt settings bc job last = 0 := by
  simp only [debt, h]

theorem debt_scm {checkout : Checkout} {path : String} (h : bc.pipeline = some strategy)
    (hJob : job.definition = some (.scm checkout path)) :
    debt settings bc job last =
      pathDebt settings job bc strategy + checkoutDebt settings bc checkout.git? last := by
  simp only [debt, h, hJob]

theorem debt_inline {script : String} {sandbox : Bool} (h : bc.pipeline = some strategy)
    (hJob : job.definition = some (.inline script sandbox)) :
    debt settings bc job last = if bc.tracked .script = some script then 0 else 3 := by
  simp only [debt, h, hJob]

theorem debt_branch (h : bc.pipeline = some strategy) (hJob : job.FollowsBranch) :
    debt settings bc job last =
      if changesBetween bc (takeBranch settings job.branch bc strategy) = [] then 2 else 3 := by
  rcases hJob with hJob | ⟨className, hJob⟩ <;> simp only [debt, h, hJob]

end Kinds

theorem debt_le_four (settings : Settings) (bc : BuildConfig) (job : Job)
    (last : Option GitCheckout) : debt settings bc job last ≤ 4 := by
  cases h : bc.pipeline with
  | none => simp [debt_no_pipeline settings last h]
  | some strategy =>
    rcases job.kinds with ⟨checkout, path, hJob⟩ | ⟨script, sandbox, hJob⟩ | hJob
    · rw [debt_scm settings last h hJob]
      have hPath := pathDebt_le settings job bc strategy
      have hCheckout := checkoutDebt_le settings bc checkout.git? last
      split at hCheckout <;> omega
    · rw [debt_inline settings last h hJob]
      split <;> omega
    · rw [debt_branch settings last h hJob]
      split <;> omega

/-! ### Mapping -/

theorem remoteDebt_mapped {bc : BuildConfig} {uri : String} (hUri : bc.tracked .uri = some uri)
    (settings : Settings) (credentialsId : Option String) :
    remoteDebt bc (checkoutRemote settings (checkoutOf uri (bc.tracked .ref) credentialsId)) ≤
      Ref.debt (bc.tracked .ref) := by
  have hne : uri ≠ "" := (nonempty_some_iff.mp hUri).2
  unfold checkoutRemote
  split
  · have hRound := Ref.debt_returned (bc.tracked .ref)
    simp only [remote?_checkoutOf hne, remoteDebt, BuildConfig.remote, hUri, Prod.mk.injEq, true_and]
    by_cases hSame : Ref.returned (bc.tracked .ref) = bc.tracked .ref
    · rw [if_pos hSame] at hRound
      rw [if_pos hSame.symm]
      omega
    · rw [if_neg hSame] at hRound
      rw [if_neg (Ne.symm hSame)]
      omega
  · exact Nat.zero_le _

theorem debt_mapped_scm {settings : Settings} {bc : BuildConfig} {job : Job}
    {strategy : PipelineStrategy} {uri : String} {credentialsId : Option String}
    (h : bc.pipeline = some strategy) (hUri : bc.tracked .uri = some uri)
    (hJob : job.definition = some (.scm (.git (checkoutOf uri (bc.tracked .ref) credentialsId))
      (mappedScriptPath settings bc strategy))) (last : Option GitCheckout) :
    debt settings bc job last ≤
      max (Ref.debt (bc.tracked .ref)) (remoteDebt bc (last.bind (checkoutRemote settings))) := by
  have hPath : pathDebt settings job bc strategy = 0 := by
    simp [pathDebt, Job.scriptPath, hJob, mappedScriptPath, scriptPathUpdate_mapped]
  have hRemote := remoteDebt_mapped hUri settings credentialsId
  rw [debt_scm settings last h hJob, hPath, checkoutDebt, hUri, if_neg (Option.some_ne_none uri)]
  simp only [Checkout.git?, Option.bind_some]
  omega

section Bounds

variable (settings : Settings) {bc : BuildConfig} {strategy : PipelineStrategy}
  (h : bc.pipeline = some strategy) (hScript : bc.tracked .script = none)

include h hScript

theorem branch_le_debt (hUri : bc.tracked .uri = none) (job : Job) (last : Option GitCheckout) :
    (if changesBetween bc (takeBranch settings job.branch bc strategy) = [] then 2 else 3) ≤
      debt settings bc job last := by
  rcases job.kinds with ⟨checkout, path, hJob⟩ | ⟨script, sandbox, hJob⟩ | hJob
  · rw [debt_scm settings last h hJob, checkoutDebt, if_pos hUri]
    split <;> omega
  · rw [debt_inline settings last h hJob, hScript, if_neg (Option.some_ne_none script).symm]
    split <;> omega
  · exact Nat.le_of_eq (debt_branch settings last h hJob).symm

theorem remote_le_debt (hUri : bc.tracked .uri ≠ none) (job : Job) (last : Option GitCheckout) :
    max (Ref.debt (bc.tracked .ref)) (remoteDebt bc (last.bind (checkoutRemote settings))) ≤
      debt settings bc job last := by
  have hRef := Ref.debt_le (bc.tracked .ref)
  have hLast := remoteDebt_checkout_le settings bc last
  rcases job.kinds with ⟨checkout, path, hJob⟩ | ⟨script, sandbox, hJob⟩ | hJob
  · rw [debt_scm settings last h hJob, checkoutDebt, if_neg hUri]
    omega
  · rw [debt_inline settings last h hJob, hScript, if_neg (Option.some_ne_none script).symm]
    omega
  · rw [debt_branch settings last h hJob]
    split <;> omega

end Bounds

theorem debt_map_le (settings : Settings) (bridge : Option Bridge) (bc : BuildConfig) (job : Job)
    (last : Option GitCheckout) :
    debt settings bc { job with definition := (mapDefinition settings bridge bc).definition } last ≤
      debt settings bc job last := by
  cases h : bc.pipeline with
  | none => simp [debt_no_pipeline settings last h]
  | some strategy =>
    have hMapped := definition_mapDefinition settings bridge h
    cases hScript : bc.tracked .script with
    | some script =>
      simp only [hScript] at hMapped
      rw [debt_inline settings last h hMapped, if_pos hScript]
      exact Nat.zero_le _
    | none =>
      cases hUri : bc.tracked .uri with
      | none =>
        simp only [hScript, hUri, Option.map_none] at hMapped
        rw [debt_branch settings last h (Or.inl hMapped)]
        exact branch_le_debt settings h hScript hUri job last
      | some uri =>
        simp only [hScript, hUri, Option.map_some] at hMapped
        have hSourced : bc.tracked .uri ≠ none := by simp [hUri]
        apply Nat.le_trans (debt_mapped_scm h hUri hMapped last)
        exact remote_le_debt settings h hScript hSourced job last

/-! ### Installing -/

theorem debt_install_le (settings : Settings) (bc : BuildConfig) {job : Job} {checkout : Checkout}
    {path : String} (hJob : job.definition = some (.scm checkout path)) (scm : GitCheckout) :
    debt settings bc { job with definition := some (.scm (.git scm) path) } (some scm) ≤
      debt settings bc job (some scm) := by
  cases h : bc.pipeline with
  | none => simp [debt_no_pipeline settings (some scm) h]
  | some strategy =>
    have hScriptPath : Job.scriptPath settings { job with definition := some (.scm (.git scm) path) }
        bc.contextDir strategy = job.scriptPath settings bc.contextDir strategy := by
      simp only [Job.scriptPath, hJob]
    rw [debt_scm settings _ h rfl, debt_scm settings _ h hJob, pathDebt, hScriptPath, ← pathDebt]
    simp only [Checkout.git?, checkoutDebt]
    split <;> omega

/-! ### Reconciling -/

section Reconciling

variable {settings : Settings} {job : Job} {bc : BuildConfig} {strategy : PipelineStrategy}

theorem changesBetween_eq_nil (h : bc.pipeline = some strategy)
    (hRemote : (updatedBy settings job bc strategy).remote = bc.remote)
    (hScript : (updatedBy settings job bc strategy).tracked .script = bc.tracked .script)
    (hPath : pathDebt settings job bc strategy = 0) :
    changesBetween bc (updatedBy settings job bc strategy) = [] := by
  rw [changesBetween_eq_nil_iff]
  funext field
  cases field with
  | uri => exact (congrArg Prod.fst hRemote).symm
  | ref => exact (congrArg Prod.snd hRemote).symm
  | script => exact hScript.symm
  | scriptPath =>
    rw [tracked_scriptPath_updatedBy settings job h, pathDebt_eq_zero_iff.mp hPath]
    simp [BuildConfig.tracked, h]

theorem pathDebt_updatedBy (h : bc.pipeline = some strategy) :
    pathDebt settings job (updatedBy settings job bc strategy)
      (strategy.after settings job bc.contextDir) = 0 := by
  rw [pathDebt, BuildConfig.contextDir_of_frame (frame_updatedBy settings job h),
    job.scriptPath_scriptPath settings bc.contextDir rfl, if_pos rfl]

theorem remote?_scm (settings : Settings) {checkout : Checkout} {path : String}
    (hJob : job.definition = some (.scm checkout path)) :
    job.remote? settings = none ∨
      job.remote? settings = checkout.git?.bind (checkoutRemote settings) := by
  cases hSync : settings.syncRemote with
  | false => simp [Job.remote?, hJob, hSync]
  | true =>
    have hRemote : checkoutRemote settings = fun scm => scm.remote? none := by
      funext scm
      simp [checkoutRemote, hSync]
    cases hPath : Text.allBlank path with
    | true => simp [Job.remote?, hJob, hPath]
    | false => simp [Job.remote?, hJob, hPath, hSync, hRemote]

theorem bind_ensureSecret (settings : Settings) (source : Option BuildSource)
    (scm : Option GitCheckout) :
    (scm.map (ensureSecret source)).bind (checkoutRemote settings) =
      scm.bind (checkoutRemote settings) := by
  cases scm with
  | none => rfl
  | some scm => simp [checkoutRemote]

theorem checkoutDebt_congr {bc bc' : BuildConfig} (h : bc'.remote = bc.remote)
    (scm last : Option GitCheckout) :
    checkoutDebt settings bc' scm last = checkoutDebt settings bc scm last := by
  have hUri : bc'.tracked .uri = bc.tracked .uri := congrArg Prod.fst h
  have hRef : bc'.tracked .ref = bc.tracked .ref := congrArg Prod.snd h
  have hRemote : remoteDebt bc' = remoteDebt bc := by
    funext remote
    unfold remoteDebt
    rw [h]
  rw [checkoutDebt, hUri, hRef, hRemote, checkoutDebt]

theorem checkoutDebt_self_le (bc : BuildConfig) {scm scm' : Option GitCheckout}
    (h : scm'.bind (checkoutRemote settings) = scm.bind (checkoutRemote settings))
    (last : Option GitCheckout) :
    checkoutDebt settings bc scm scm' ≤ checkoutDebt settings bc scm last := by
  unfold checkoutDebt
  rw [h]
  split <;> omega

theorem checkoutDebt_of_written {bc : BuildConfig} {remote : RemoteRef}
    (h : bc.remote = (some remote.1, remote.2)) {scm scm' : Option GitCheckout}
    (hScm : scm.bind (checkoutRemote settings) = some remote)
    (hScm' : scm'.bind (checkoutRemote settings) = some remote) :
    checkoutDebt settings bc scm scm' = Ref.debt remote.2 := by
  have hUri : bc.tracked .uri = some remote.1 := congrArg Prod.fst h
  have hRef : bc.tracked .ref = remote.2 := congrArg Prod.snd h
  rw [checkoutDebt, if_neg (by simp [hUri]), hRef, hScm, hScm', remoteDebt, if_pos h]
  omega

theorem le_checkoutDebt_of_written (bc : BuildConfig) {scm : Option GitCheckout}
    {remote : RemoteRef} (hScm : scm.bind (checkoutRemote settings) = some remote)
    (last : Option GitCheckout) :
    (if bc.remote = (some remote.1, remote.2) then 0 else 1) + Ref.debt remote.2 ≤
      checkoutDebt settings bc scm last := by
  have hBare := Ref.debt_le_of_bare (bare_checkoutRemote hScm)
  have hRemote : remoteDebt bc (scm.bind (checkoutRemote settings)) =
      (if bc.remote = (some remote.1, remote.2) then 0 else 1) + Ref.debt remote.2 := by
    rw [hScm, remoteDebt]
  by_cases hUri : bc.tracked .uri = none
  · rw [checkoutDebt, if_pos hUri]
    split <;> omega
  · rw [checkoutDebt, if_neg hUri]
    omega

theorem debt_reconcile_scm {checkout : Checkout} {path : String} (h : bc.pipeline = some strategy)
    (hJob : job.definition = some (.scm checkout path))
    (hChanges : changesBetween bc (updatedBy settings job bc strategy) ≠ [])
    (last : Option GitCheckout) :
    debt settings (updatedBy settings job bc strategy) job
        (checkout.git?.map (ensureSecret bc.source)) + 1 ≤ debt settings bc job last := by
  have hScript : (updatedBy settings job bc strategy).tracked .script = bc.tracked .script := by
    rw [tracked_script_updatedBy settings job h]
    simp [Job.script?, hJob]
  have hPays : (updatedBy settings job bc strategy).remote = bc.remote →
      pathDebt settings job bc strategy ≠ 0 := fun hSame hPath =>
    hChanges (changesBetween_eq_nil h hSame hScript hPath)
  have hAfter := remote_updatedBy settings job h
  have hInstalled := bind_ensureSecret settings bc.source checkout.git?
  rw [debt_scm settings _ (pipeline_updatedBy settings job h) hJob, debt_scm settings _ h hJob,
    pathDebt_updatedBy h]
  -- Either the repository stays, and the path must have changed, or the checkout is written.
  cases hRemote : job.remote? settings with
  | none =>
    rw [hRemote] at hAfter
    have hPath := hPays hAfter
    have hCheckout := checkoutDebt_self_le bc hInstalled last
    rw [checkoutDebt_congr hAfter]
    omega
  | some remote =>
    rw [hRemote] at hAfter
    have hScm : checkout.git?.bind (checkoutRemote settings) = some remote := by
      rcases remote?_scm settings hJob with hNone | hSome
      · rw [hNone] at hRemote
        cases hRemote
      · rw [← hSome, hRemote]
    have hBefore := le_checkoutDebt_of_written bc hScm last
    rw [checkoutDebt_of_written hAfter hScm (hInstalled.trans hScm)]
    by_cases hSame : bc.remote = (some remote.1, remote.2)
    · rw [if_pos hSame] at hBefore
      have hPath := hPays (hAfter.trans hSame.symm)
      omega
    · rw [if_neg hSame] at hBefore
      omega

theorem debt_reconcile_inline {script : String} {sandbox : Bool} (h : bc.pipeline = some strategy)
    (hJob : job.definition = some (.inline script sandbox))
    (hChanges : changesBetween bc (updatedBy settings job bc strategy) ≠ [])
    (last last' : Option GitCheckout) :
    debt settings (updatedBy settings job bc strategy) job last' + 1 ≤
      debt settings bc job last := by
  have hRemote : (updatedBy settings job bc strategy).remote = bc.remote := by
    rw [remote_updatedBy settings job h]
    simp [Job.remote?, hJob]
  have hPath : pathDebt settings job bc strategy = 0 := by simp [pathDebt, Job.scriptPath, hJob]
  have hScript : (updatedBy settings job bc strategy).tracked .script ≠ bc.tracked .script :=
    fun hSame => hChanges (changesBetween_eq_nil h hRemote hSame hPath)
  rw [tracked_script_updatedBy settings job h] at hScript
  cases hBlank : Text.allBlank script with
  | true => simp [Job.script?, hJob, hBlank] at hScript
  | false =>
    have hCarried : job.script? = some script := by simp [Job.script?, hJob, hBlank]
    rw [hCarried, Option.some_or] at hScript
    have hStored := tracked_script_updatedBy settings job h
    rw [hCarried, Option.some_or] at hStored
    rw [debt_inline settings _ (pipeline_updatedBy settings job h) hJob, if_pos hStored,
      debt_inline settings _ h hJob, if_neg (Ne.symm hScript)]
    omega

theorem debt_reconcile_branch (h : bc.pipeline = some strategy) (hJob : job.FollowsBranch)
    (hChanges : changesBetween bc (updatedBy settings job bc strategy) ≠ [])
    (last last' : Option GitCheckout) :
    debt settings (updatedBy settings job bc strategy) job last' + 1 ≤
      debt settings bc job last := by
  have hAgain := updatedBy_updatedBy settings job h
  rw [updatedBy_branch settings hJob] at hAgain
  have hBefore : debt settings bc job last = 3 := by
    rw [debt_branch settings last h hJob, ← updatedBy_branch settings hJob, if_neg hChanges]
  have hAfter : debt settings (updatedBy settings job bc strategy) job last' = 2 := by
    rw [debt_branch settings last' (pipeline_updatedBy settings job h) hJob, hAgain,
      if_pos (changesBetween_eq_nil_iff.mpr rfl)]
  omega

theorem debt_scriptCheckout_le (settings : Settings) (bc : BuildConfig) (job : Job)
    (last : Option GitCheckout) :
    debt settings bc job (job.scriptCheckout.map (ensureSecret bc.source)) ≤
      debt settings bc job last := by
  cases h : bc.pipeline with
  | none => simp [debt_no_pipeline settings _ h]
  | some strategy =>
    rcases job.kinds with ⟨checkout, path, hJob⟩ | ⟨script, sandbox, hJob⟩ | hJob
    · have hScm : job.scriptCheckout = checkout.git? := by simp [Job.scriptCheckout, hJob]
      have hCheckout := checkoutDebt_self_le bc
        (bind_ensureSecret settings bc.source checkout.git?) last
      rw [debt_scm settings _ h hJob, debt_scm settings _ h hJob, hScm]
      omega
    · exact Nat.le_of_eq ((debt_inline settings _ h hJob).trans (debt_inline settings _ h hJob).symm)
    · exact Nat.le_of_eq ((debt_branch settings _ h hJob).trans (debt_branch settings _ h hJob).symm)

end Reconciling

/-- Reconciling raises no debt, and a reported change lowers it. -/
theorem debt_reconcile_le (settings : Settings) (job : Job) (bc : BuildConfig)
    (last : Option GitCheckout) :
    let outcome := reconcile settings job bc
    debt settings (if outcome.changed then outcome.updated else bc) job outcome.scm +
      outcome.changed.toNat ≤ debt settings bc job last := by
  intro outcome
  cases h : bc.pipeline with
  | none =>
    have hOutcome : outcome = ⟨bc, [], none⟩ := reconcile_of_no_pipeline settings job h
    rw [hOutcome, debt_no_pipeline settings last h]
    exact Nat.le_of_eq (debt_no_pipeline settings none h)
  | some strategy =>
    have hOutcome : outcome = _ := reconcile_of_pipeline settings job h
    by_cases hChanges : changesBetween bc (updatedBy settings job bc strategy) = []
    · have hChanged : outcome.changed = false := by simp [hOutcome, Outcome.changed, hChanges]
      have hScm : outcome.scm = job.scriptCheckout.map (ensureSecret bc.source) := by rw [hOutcome]
      rw [hChanged, hScm]
      exact debt_scriptCheckout_le settings bc job last
    · have hChanged : outcome.changed = true := by simp [hOutcome, Outcome.changed, hChanges]
      rw [hChanged, if_pos rfl, hOutcome]
      rcases job.kinds with ⟨checkout, path, hJob⟩ | ⟨script, sandbox, hJob⟩ | hJob
      · have hScm : job.scriptCheckout = checkout.git? := by simp [Job.scriptCheckout, hJob]
        rw [hScm]
        exact debt_reconcile_scm h hJob hChanges last
      · exact debt_reconcile_inline h hJob hChanges last _
      · exact debt_reconcile_branch h hJob hChanges last _

end BuildSync
