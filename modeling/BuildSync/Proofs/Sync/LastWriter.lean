import BuildSync.Proofs.Sync.Carried

/-!
# The last writer wins

Jobs are reconciled one after another, and the reconciled BuildConfig is kept where a change is
reported. The repository with its ref is then that of the last job that carries one, and the inline
script that of the last job that carries one.
-/

set_option autoImplicit false

namespace BuildSync

/-! ### Runs of writes -/

/-- `after` is what the last writer of a run writes, or `before` where nobody writes. -/
def LastWritten {α β : Type} (Writes : α → β → Prop) (run : List α) (before after : β) : Prop :=
  (∃ earlier writer later, run = earlier ++ writer :: later ∧ Writes writer after ∧
      ∀ x ∈ later, ∀ value, ¬Writes x value) ∨
    (∀ x ∈ run, ∀ value, ¬Writes x value) ∧ after = before

theorem lastWritten_foldl {σ α β : Type} {Writes : α → β → Prop} {step : σ → α → σ}
    {Valid : σ → Prop} (view : σ → β) (carried : α → Option β)
    (hWrites : ∀ x value, Writes x value ↔ carried x = some value)
    (hValid : ∀ s x, Valid s → Valid (step s x))
    (hStep : ∀ s x, Valid s → view (step s x) = (carried x).getD (view s)) (run : List α) :
    ∀ s, Valid s → LastWritten Writes run (view s) (view (run.foldl step s)) := by
  induction run with
  | nil =>
    intro s _
    exact Or.inr ⟨fun x hx => absurd hx List.not_mem_nil, rfl⟩
  | cons x run ih =>
    intro s hs
    have hView := hStep s x hs
    rcases ih (step s x) (hValid s x hs) with ⟨earlier, writer, later, rfl, hLast⟩ | ⟨hRun, hKept⟩
    · exact Or.inl ⟨x :: earlier, writer, later, rfl, hLast⟩
    -- Nobody writes after `x`, so what `x` leaves is what the run leaves.
    · rw [List.foldl_cons, hKept, hView]
      cases hCarried : carried x with
      | none =>
        refine Or.inr ⟨?_, rfl⟩
        intro y hy
        rcases List.mem_cons.mp hy with rfl | hy
        · intro value hWriter
          rw [hWrites, hCarried] at hWriter
          cases hWriter
        · exact hRun y hy
      | some value => exact Or.inl ⟨[], x, run, rfl, (hWrites x value).mpr hCarried, hRun⟩

/-! ### Runs of jobs -/

namespace BuildConfig

/-- The BuildConfig after a job: the reconciled one, if a change is reported. -/
def adopt (settings : Settings) (bc : BuildConfig) (job : Job) : BuildConfig :=
  let outcome := reconcile settings job bc
  if outcome.changed then outcome.updated else bc

def adoptAll (settings : Settings) (bc : BuildConfig) (jobs : List Job) : BuildConfig :=
  jobs.foldl (adopt settings) bc

end BuildConfig

section Adopt

variable (settings : Settings) (job : Job) {bc : BuildConfig}

/-- Keeping a BuildConfig without a reported change loses no tracked field. -/
theorem tracked_adopt (bc : BuildConfig) :
    (bc.adopt settings job).tracked = (reconcile settings job bc).updated.tracked := by
  cases h : bc.pipeline with
  | none => simp [BuildConfig.adopt, reconcile_of_no_pipeline settings job h, Outcome.changed]
  | some strategy =>
    rw [BuildConfig.adopt, reconcile_of_pipeline settings job h]
    by_cases hChanges : changesBetween bc (updatedBy settings job bc strategy) = []
    · simp only [Outcome.changed, hChanges]
      exact changesBetween_eq_nil_iff.mp hChanges
    · simp [Outcome.changed, hChanges]

theorem isSome_pipeline_adopt (h : bc.pipeline.isSome = true) :
    (bc.adopt settings job).pipeline.isSome = true := by
  obtain ⟨strategy, hPipeline⟩ := Option.isSome_iff_exists.mp h
  rw [BuildConfig.adopt, reconcile_of_pipeline settings job hPipeline]
  split
  · rw [pipeline_updatedBy settings job hPipeline]
    rfl
  · exact h

theorem remote_adopt (h : bc.pipeline.isSome = true) :
    (bc.adopt settings job).remote =
      ((job.remote? settings).map fun remote => (some remote.1, remote.2)).getD bc.remote := by
  obtain ⟨strategy, hPipeline⟩ := Option.isSome_iff_exists.mp h
  have hAdopted : (bc.adopt settings job).remote = (updatedBy settings job bc strategy).remote := by
    simp only [BuildConfig.remote, tracked_adopt, reconcile_of_pipeline settings job hPipeline]
  rw [hAdopted, remote_updatedBy settings job hPipeline]
  cases job.remote? settings <;> rfl

theorem tracked_script_adopt (h : bc.pipeline.isSome = true) :
    (bc.adopt settings job).tracked .script =
      (job.script?.map some).getD (bc.tracked .script) := by
  obtain ⟨strategy, hPipeline⟩ := Option.isSome_iff_exists.mp h
  rw [tracked_adopt, reconcile_of_pipeline settings job hPipeline,
    tracked_script_updatedBy settings job hPipeline]
  cases job.script? <;> rfl

end Adopt

/-- Over a run of jobs the last one that carries a repository decides it together with the ref, and
the last one that carries an inline script decides the script. -/
theorem lastWritten_adoptAll (settings : Settings) {bc : BuildConfig}
    (h : bc.pipeline.isSome = true) (jobs : List Job) :
    LastWritten (Job.CarriesRemote settings) jobs bc.remote (bc.adoptAll settings jobs).remote ∧
      LastWritten Job.CarriesScript jobs (bc.tracked .script)
        ((bc.adoptAll settings jobs).tracked .script) := by
  have hStays : ∀ (bc : BuildConfig) (job : Job), bc.pipeline.isSome = true →
      (bc.adopt settings job).pipeline.isSome = true :=
    fun _ job => isSome_pipeline_adopt settings job
  constructor
  · apply lastWritten_foldl BuildConfig.remote _ (Job.carriesRemote_iff settings) hStays _ jobs bc h
    intro bc job
    exact remote_adopt settings job
  · apply lastWritten_foldl (fun bc => bc.tracked .script) _ Job.carriesScript_iff hStays _ jobs bc h
    intro bc job
    exact tracked_script_adopt settings job

theorem lastWritten_adoptAll_fork :
    let bc := BuildConfig.ofRepository "https://example/repo.git" (some "main") none
    let scm : GitCheckout := ⟨[⟨some "https://example/fork.git", none, none, none⟩], [⟨"*/dev"⟩], []⟩
    let jobs : List Job :=
      [⟨"", none, some ⟨"old", some (.git scm)⟩⟩, ⟨"", some (.scm (.git scm) "ci/Jenkinsfile"), none⟩,
        ⟨"", some (.inline "build()" true), none⟩, ⟨"", none, some ⟨"new", some (.git ⟨[], [], []⟩)⟩⟩]
    let final := bc.adoptAll .defaults jobs
    bc.pipeline.isSome = true ∧
      LastWritten (Job.CarriesRemote .defaults) jobs bc.remote final.remote ∧
      LastWritten Job.CarriesScript jobs (bc.tracked .script) (final.tracked .script) ∧
      final.remote = (some "https://example/fork.git", some "dev") ∧
      final.tracked .script = some "build()" := by
  intro bc scm jobs final
  have hSome : bc.pipeline.isSome = true := rfl
  obtain ⟨hRemote, hScript⟩ := lastWritten_adoptAll .defaults hSome jobs
  exact ⟨hSome, hRemote, hScript, by decide +kernel, by decide +kernel⟩

end BuildSync
