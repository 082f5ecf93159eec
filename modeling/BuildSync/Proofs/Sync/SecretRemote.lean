import BuildSync.Proofs.Sync.Credential
import BuildSync.Proofs.Sync.Idempotence
import BuildSync.Session

/-!
# The remote for the source secret

A checkout that comes back from reconciling carries the source secret, in a remote of its own where
none had it. That remote names no URL, so what is synced does not see it, and installing the checkout
settles it: the next round finds the secret and brings the same outcome.
-/

set_option autoImplicit false

namespace BuildSync

/-! ### Adding the secret -/

def Remote.ofCredential (id : String) : Remote := { Remote.empty with credentialsId := some id }

/-- The source secret of a BuildConfig, where no remote of the checkout has it. -/
def BuildConfig.Misses (bc : BuildConfig) (secret : SecretReference) (scm : GitCheckout) : Prop :=
  bc.sourceSecret = some secret ∧ ∀ remote ∈ scm.remotes, remote.credentialsId ≠ some secret.name

theorem GitCheckout.carries_iff {scm : GitCheckout} {secret : String} :
    scm.carries secret = true ↔ ∃ remote ∈ scm.remotes, remote.credentialsId = some secret := by
  simp [carries]

theorem GitCheckout.carries_addRemote (scm : GitCheckout) (secret : String) :
    (scm.addRemote (.ofCredential secret)).carries secret = true := by
  simp [carries, addRemote, Remote.ofCredential]

section EnsureSecret

variable {bc : BuildConfig} {secret : SecretReference} {scm : GitCheckout}

theorem ensureSecret_of_no_secret (h : bc.sourceSecret = none) (scm : GitCheckout) :
    ensureSecret bc.source scm = scm := by
  have hBound : bc.source.bind BuildSource.sourceSecret = none := h
  simp only [ensureSecret, missingSecret, hBound]

theorem ensureSecret_of_misses (h : bc.Misses secret scm) :
    ensureSecret bc.source scm = scm.addRemote (.ofCredential secret.name) := by
  rw [ensureSecret_of_secret h.1, if_neg]
  · rfl
  · intro hCarries
    obtain ⟨remote, hRemote, hId⟩ := GitCheckout.carries_iff.mp hCarries
    exact h.2 remote hRemote hId

theorem ensureSecret_of_not_misses (h : ∀ secret, ¬bc.Misses secret scm) :
    ensureSecret bc.source scm = scm := by
  cases hSecret : bc.sourceSecret with
  | none => exact ensureSecret_of_no_secret hSecret scm
  | some secret =>
    rw [ensureSecret_of_secret hSecret]
    split
    · rfl
    · rename_i hCarries
      refine absurd ⟨hSecret, fun remote hRemote hId => ?_⟩ (h secret)
      exact hCarries (GitCheckout.carries_iff.mpr ⟨remote, hRemote, hId⟩)

theorem ensureSecret_ensureSecret (bc : BuildConfig) (scm : GitCheckout) :
    ensureSecret bc.source (ensureSecret bc.source scm) = ensureSecret bc.source scm := by
  cases hSecret : bc.sourceSecret with
  | none => rw [ensureSecret_of_no_secret hSecret, ensureSecret_of_no_secret hSecret]
  | some secret =>
    by_cases hCarries : scm.carries secret.name
    · rw [ensureSecret_of_secret hSecret scm, if_pos hCarries, ensureSecret_of_secret hSecret,
        if_pos hCarries]
    · rw [ensureSecret_of_secret hSecret scm, if_neg hCarries, ensureSecret_of_secret hSecret]
      exact if_pos (scm.carries_addRemote secret.name)

end EnsureSecret

/-! ### Installing the checkout -/

@[simp]
theorem Job.install_none (job : Job) : job.install none = job := rfl

theorem Job.install_some {job : Job} {checkout : Checkout} {path : String}
    (h : job.definition = some (.scm checkout path)) (scm : GitCheckout) :
    job.install (some scm) = { job with definition := some (.scm (.git scm) path) } := by
  simp only [install, h]

theorem Job.scriptCheckout_eq_some_iff {job : Job} {scm : GitCheckout} :
    job.scriptCheckout = some scm ↔ ∃ path, job.definition = some (.scm (.git scm) path) := by
  rcases job.kinds with ⟨checkout, path, hJob⟩ | ⟨script, sandbox, hJob⟩ | hJob
  · cases checkout <;> simp [scriptCheckout, hJob, Checkout.git?]
  · simp [scriptCheckout, hJob]
  · rcases hJob with hJob | ⟨className, hJob⟩ <;> simp [scriptCheckout, hJob]

/-- The job after rounds of reconciling it and installing the checkout that comes back. -/
def Job.reinstalled (settings : Settings) (bc : BuildConfig) (job : Job) : Nat → Job
  | 0 => job
  | rounds + 1 =>
    let current := job.reinstalled settings bc rounds
    current.install (reconcile settings current bc).scm

/-- What is written to a BuildConfig does not depend on a remote without a URL at the end. -/
theorem takeScm_ensureSecret (settings : Settings) (source : Option BuildSource) (scm : GitCheckout)
    (path : String) (bc : BuildConfig) (strategy : PipelineStrategy) :
    takeScm settings (.git (ensureSecret source scm)) path bc strategy =
      takeScm settings (.git scm) path bc strategy := by
  cases hPath : Text.allBlank path with
  | true => simp only [takeScm, hPath, if_true]
  | false =>
    rw [takeScm_of_not_blank _ hPath, takeScm_of_not_blank _ hPath, takeRemote_eq, takeRemote_eq]
    simp only [Checkout.git?, Option.map_some, remote?_ensureSecret]

theorem scm_reconcile {bc : BuildConfig} {strategy : PipelineStrategy}
    (h : bc.pipeline = some strategy) (settings : Settings) (job : Job) :
    (reconcile settings job bc).scm = job.scriptCheckout.map (ensureSecret bc.source) := by
  rw [reconcile_of_pipeline settings job h]

theorem reconcile_install (settings : Settings) (job : Job) (bc : BuildConfig) :
    reconcile settings (job.install (reconcile settings job bc).scm) bc =
      reconcile settings job bc := by
  cases h : bc.pipeline with
  | none => rw [reconcile_of_no_pipeline settings job h, Job.install_none,
      reconcile_of_no_pipeline settings job h]
  | some strategy =>
    rw [scm_reconcile h]
    cases hScm : job.scriptCheckout with
    | none => rfl
    | some scm =>
      obtain ⟨path, hJob⟩ := Job.scriptCheckout_eq_some_iff.mp hScm
      rw [Option.map_some, Job.install_some hJob, reconcile_of_pipeline settings _ h,
        reconcile_of_pipeline settings job h]
      -- the branch of the job is the same, so that the outcomes differ in their checkouts at most
      simp only [updatedBy, Job.scriptCheckout, hJob, Checkout.git?, Option.map_some,
        takeScm_ensureSecret, ensureSecret_ensureSecret]

theorem reconcile_reinstalled (settings : Settings) (job : Job) (bc : BuildConfig) (rounds : Nat) :
    reconcile settings (job.reinstalled settings bc rounds) bc = reconcile settings job bc := by
  induction rounds with
  | zero => rfl
  | succ rounds ih => rw [Job.reinstalled, reconcile_install, ih]

theorem Job.reinstalled_succ (settings : Settings) (bc : BuildConfig) (job : Job) (rounds : Nat) :
    job.reinstalled settings bc (rounds + 1) =
      (job.reinstalled settings bc rounds).install (reconcile settings job bc).scm := by
  rw [reinstalled, reconcile_reinstalled]

/-- A round replaces the checkout and leaves the script path as it is. -/
theorem Job.definition_reinstalled (settings : Settings) (bc : BuildConfig) {job : Job}
    {checkout : Checkout} {path : String} (h : job.definition = some (.scm checkout path))
    (rounds : Nat) :
    ∃ checkout, (job.reinstalled settings bc rounds).definition = some (.scm checkout path) := by
  induction rounds with
  | zero => exact ⟨checkout, h⟩
  | succ rounds ih =>
    obtain ⟨current, hCurrent⟩ := ih
    rw [reinstalled_succ]
    cases (reconcile settings job bc).scm with
    | none => exact ⟨current, hCurrent⟩
    | some scm => exact ⟨.git scm, by rw [install_some hCurrent]⟩

/-- The checkout of a job comes back as it is but for one more remote at the end, with the source
secret for its credential and nothing else, which is there exactly where no remote had the secret.
Once it is installed, every further round brings the same outcome, and none of its changes when the
reconciled BuildConfig is kept. From any other job no checkout comes back. -/
theorem scm_settles_with_secret {bc : BuildConfig} {strategy : PipelineStrategy}
    (h : bc.pipeline = some strategy) (settings : Settings) (job : Job) :
    let outcome := reconcile settings job bc
    (∀ scm path, job.definition = some (.scm (.git scm) path) →
      (∀ secret, bc.Misses secret scm →
        outcome.scm = some { scm with
          remotes := scm.remotes ++ [⟨none, none, none, some secret.name⟩] }) ∧
      ((∀ secret, ¬bc.Misses secret scm) → outcome.scm = some scm) ∧
      ∀ rounds,
        let installed := job.reinstalled settings bc (rounds + 1)
        (installed.definition = outcome.scm.map fun scm => .scm (.git scm) path) ∧
          reconcile settings installed bc = outcome ∧
          reconcile settings installed outcome.updated = { outcome with changes := [] }) ∧
    ((∀ scm path, job.definition ≠ some (.scm (.git scm) path)) → outcome.scm = none) := by
  intro outcome
  have hOutcome : outcome.scm = job.scriptCheckout.map (ensureSecret bc.source) :=
    scm_reconcile h settings job
  constructor
  · intro scm path hJob
    rw [Job.scriptCheckout_eq_some_iff.mpr ⟨path, hJob⟩, Option.map_some] at hOutcome
    refine ⟨?_, ?_, ?_⟩
    · intro secret hMisses
      rw [hOutcome, ensureSecret_of_misses hMisses]
      rfl
    · intro hCarried
      rw [hOutcome, ensureSecret_of_not_misses hCarried]
    · intro rounds installed
      have hSame : reconcile settings installed bc = outcome :=
        reconcile_reinstalled settings job bc (rounds + 1)
      have hInstalled : installed = (job.reinstalled settings bc rounds).install outcome.scm :=
        job.reinstalled_succ settings bc rounds
      obtain ⟨current, hCurrent⟩ := Job.definition_reinstalled settings bc hJob rounds
      refine ⟨?_, hSame, ?_⟩
      · rw [hInstalled, hOutcome, Job.install_some hCurrent, Option.map_some]
      · rw [← hSame]
        exact reconcile_updated settings installed bc
  · intro hOther
    cases hScm : job.scriptCheckout with
    | none => rw [hOutcome, hScm, Option.map_none]
    | some scm =>
      obtain ⟨path, hJob⟩ := Job.scriptCheckout_eq_some_iff.mp hScm
      exact absurd hJob (hOther scm path)

theorem scm_settles_with_secret_no_remotes :
    let bc := (BuildConfig.ofRepository "https://example/repo.git" (some "main") none).withSecret
      "git-creds"
    let scm : GitCheckout := ⟨[], [⟨"*/main"⟩], [[]]⟩
    let job : Job := ⟨"", some (.scm (.git scm) "ci/Jenkinsfile"), none⟩
    (reconcile .defaults (job.reinstalled .defaults bc 3) bc).scm =
        some ⟨[⟨none, none, none, some "git-creds"⟩], [⟨"*/main"⟩], [[]]⟩ ∧
      (reconcile .defaults (job.reinstalled .defaults bc 3) bc).changes =
        [⟨.scriptPath, none, some "ci/Jenkinsfile"⟩] := by
  intro bc scm job
  have hPipeline : bc.pipeline = some ⟨none, none, []⟩ := rfl
  have hMisses : bc.Misses ⟨"git-creds", []⟩ scm := ⟨rfl, by simp [scm]⟩
  obtain ⟨hAdded, _, hRounds⟩ := (scm_settles_with_secret hPipeline .defaults job).1 scm _ rfl
  rw [(hRounds 2).2.1]
  exact ⟨hAdded _ hMisses, rfl⟩

end BuildSync
