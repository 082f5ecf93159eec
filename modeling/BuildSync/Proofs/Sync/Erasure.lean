import BuildSync.Proofs.Sync.ScriptPath

/-!
# What reconciling erases

A job that carries no repository, script or script path leaves what is stored, and one that carries
them writes a text that is not empty. Only a job whose script path is the context directory itself
takes the stored script path away: nothing is left of its path that could be stored instead.
-/

set_option autoImplicit false

namespace BuildSync

/-- The job reads its script from the context directory itself, which is not the mapped path. -/
def Job.RunsContextDir (settings : Settings) (job : Job) (bc : BuildConfig) : Prop :=
  ∃ strategy checkout path dir, bc.pipeline = some strategy ∧
    job.definition = some (.scm checkout path) ∧ Text.allBlank path = false ∧
    nonempty bc.contextDir = some dir ∧ Path.VanishesIn path dir ∧
    Path.normalize path ≠ Path.normalize (mappedScriptPath settings bc strategy)

theorem nonempty_eq_none_iff {s : String} : nonempty (some s) = none ↔ s = "" := by
  by_cases hs : s = ""
  · rw [hs]
    decide
  · rw [nonempty_of_ne hs]
    exact iff_of_false nofun hs

theorem seenFrom_eq_empty_iff {contextDir : Option String} {path : String} (hPath : path ≠ "") :
    seenFrom contextDir path = "" ↔
      ∃ dir, nonempty contextDir = some dir ∧ Path.VanishesIn path dir := by
  unfold seenFrom
  cases hDir : nonempty contextDir with
  | none => simp [hPath]
  | some dir =>
    simp only [Path.fromContext_eq_empty_iff hPath (nonempty_some_iff.mp hDir).2, Option.some_inj]
    simp

section

variable (settings : Settings) (job : Job) {bc : BuildConfig} {strategy : PipelineStrategy}

theorem scriptPath_eq_none_iff (hPipeline : bc.pipeline = some strategy)
    (hStored : nonempty strategy.scriptPath ≠ none) :
    nonempty (job.scriptPath settings bc.contextDir strategy) = none ↔
      job.RunsContextDir settings bc := by
  rcases job.kinds with ⟨checkout, path, hJob⟩ | ⟨script, sandbox, hJob⟩ | hJob
  · have hRuns : job.RunsContextDir settings bc ↔ Text.allBlank path = false ∧
        Path.normalize path ≠ Path.normalize (mappedScriptPath settings bc strategy) ∧
          ∃ dir, nonempty bc.contextDir = some dir ∧ Path.VanishesIn path dir := by
      constructor
      · rintro ⟨strategy', checkout', path', dir, hSome, hRun, hPath, hDir, hVanishes, hDiffers⟩
        obtain rfl := Option.some_inj.mp (hSome.symm.trans hPipeline)
        obtain ⟨rfl, rfl⟩ := Definition.scm.inj (Option.some_inj.mp (hRun.symm.trans hJob))
        exact ⟨hPath, hDiffers, dir, hDir, hVanishes⟩
      · rintro ⟨hPath, hDiffers, dir, hDir, hVanishes⟩
        exact ⟨strategy, checkout, path, dir, hPipeline, hJob, hPath, hDir, hVanishes, hDiffers⟩
    rw [hRuns]
    simp only [Job.scriptPath, hJob]
    cases hPath : Text.allBlank path with
    | true => simpa using hStored
    | false =>
      rw [if_neg Bool.false_ne_true, scriptPathUpdate_eq, mappedScriptPath]
      split
      · rename_i hSame
        simpa [hSame] using hStored
      · rename_i hDiffers
        rw [Option.some_or, nonempty_eq_none_iff,
          seenFrom_eq_empty_iff (ne_empty_of_not_blank hPath)]
        simp [hDiffers]
  · refine iff_of_false ?_ ?_
    · simpa [Job.scriptPath, hJob] using hStored
    · rintro ⟨_, _, _, _, _, hRun, _⟩
      cases hJob.symm.trans hRun
  · have hSome : (nonempty strategy.scriptPath).isNone = false := by
      rwa [← Bool.not_eq_true, Option.isNone_iff_eq_none]
    refine iff_of_false ?_ ?_
    · simpa [hJob.scriptPath_eq, hSome] using hStored
    · rintro ⟨_, _, _, _, _, hRun, _⟩
      rcases hJob with hJob | ⟨className, hJob⟩ <;> cases hJob.symm.trans hRun

/-- What is stored in one of the three fields is still there, but for the script path of a job that
runs the context directory. -/
theorem tracked_updatedBy_eq_none_iff (hPipeline : bc.pipeline = some strategy)
    {field : TrackedField} (hField : field ≠ .ref) (hStored : bc.tracked field ≠ none) :
    (updatedBy settings job bc strategy).tracked field = none ↔
      field = .scriptPath ∧ job.RunsContextDir settings bc := by
  cases field with
  | uri =>
    rw [tracked_uri_updatedBy settings job hPipeline]
    refine iff_of_false ?_ fun h => nomatch h.1
    cases job.remote? settings with
    | none => exact hStored
    | some remote => exact nofun
  | ref => exact absurd rfl hField
  | script =>
    rw [tracked_script_updatedBy settings job hPipeline]
    refine iff_of_false ?_ fun h => nomatch h.1
    cases job.script? with
    | none => exact hStored
    | some script => exact nofun
  | scriptPath =>
    have hPath : nonempty strategy.scriptPath ≠ none := by
      simpa [BuildConfig.tracked, hPipeline] using hStored
    rw [tracked_scriptPath_updatedBy settings job hPipeline,
      scriptPath_eq_none_iff settings job hPipeline hPath, and_iff_right rfl]

end

theorem exists_erasing_change_iff {before after : BuildConfig} {field : TrackedField}
    (hStored : before.tracked field ≠ none) :
    (∃ change ∈ changesBetween before after, change.field = field ∧ change.after = none) ↔
      after.tracked field = none := by
  constructor
  · rintro ⟨change, hChange, rfl, hNone⟩
    exact (mem_changesBetween_iff.mp hChange).2.1.symm.trans hNone
  · intro hNone
    have hDiffer : before.tracked field ≠ after.tracked field := hNone ▸ hStored
    exact ⟨⟨field, before.tracked field, after.tracked field⟩,
      mem_changesBetween_iff.mpr ⟨rfl, rfl, hDiffer⟩, rfl, hNone⟩

/-- A stored repository, script or script path is erased, and reported so, exactly where it is a
script path and the job runs the context directory. Without a pipeline nothing is touched. -/
theorem reconcile_erases_iff (settings : Settings) (job : Job) (bc : BuildConfig) :
    let outcome := reconcile settings job bc
    (bc.pipeline = none → outcome.updated = bc ∧ outcome.changes = []) ∧
    ∀ field, field ≠ .ref → bc.tracked field ≠ none →
      (outcome.updated.tracked field = none ↔
        field = .scriptPath ∧ job.RunsContextDir settings bc) ∧
      ((∃ change ∈ outcome.changes, change.field = field ∧ change.after = none) ↔
        field = .scriptPath ∧ job.RunsContextDir settings bc) := by
  intro outcome
  cases hPipeline : bc.pipeline with
  | none =>
    have hOutcome : outcome = ⟨bc, [], none⟩ := reconcile_of_no_pipeline settings job hPipeline
    have hRuns : ¬job.RunsContextDir settings bc := by
      rintro ⟨strategy, _, _, _, hSome, _⟩
      cases hPipeline.symm.trans hSome
    rw [hOutcome]
    refine ⟨fun _ => ⟨rfl, rfl⟩, fun field _ hStored => ⟨?_, ?_⟩⟩
    · exact iff_of_false hStored fun h => hRuns h.2
    · exact iff_of_false (by simp) fun h => hRuns h.2
  | some strategy =>
    have hOutcome : outcome = _ := reconcile_of_pipeline settings job hPipeline
    rw [hOutcome]
    refine ⟨nofun, fun field hField hStored => ?_⟩
    have hErased := tracked_updatedBy_eq_none_iff settings job hPipeline hField hStored
    exact ⟨hErased, (exists_erasing_change_iff hStored).trans hErased⟩

theorem reconcile_erases_iff_in_src :
    let stored := BuildConfig.ofRepository "https://example/repo.git" (some "main") (some "./src")
    let bc := stored.withScriptPath "ci/Jenkinsfile"
    let job (path : String) : Job := ⟨"", some (.scm (.unsupported "") path), none⟩
    bc.tracked .scriptPath ≠ none ∧
      (reconcile .defaults (job "src//Jenkinsfile") bc).updated.tracked .scriptPath ≠ none ∧
      (reconcile .defaults (job "src/./") bc).updated.tracked .scriptPath = none ∧
      (reconcile .defaults (job "src/./") { bc with spec := none }).changes = [] := by
  intro stored bc job
  have hStored : bc.tracked .scriptPath ≠ none := by decide +kernel
  have hErases (path : String) :=
    ((reconcile_erases_iff .defaults (job path) bc).2 .scriptPath nofun hStored).1
  refine ⟨hStored, ?_, ?_, ((reconcile_erases_iff .defaults (job "src/./") _).1 rfl).2⟩
  · rw [ne_eq, hErases]
    rintro ⟨_, _, _, path, dir, _, hJob, _, hDir, hVanishes, _⟩
    cases hJob
    cases hDir
    revert hVanishes
    unfold Path.VanishesIn
    decide +kernel
  · refine (hErases "src/./").mpr ⟨rfl, _, _, _, "./src", rfl, rfl, by decide +kernel,
      by decide +kernel, Or.inl ⟨by decide +kernel, by decide +kernel⟩, by decide +kernel⟩

/-- The job's path is not blank, and an empty text is stored in the place of the stored path. -/
theorem reconcile_erases_scriptPath_of_src :
    let stored := BuildConfig.ofRepository "https://example/repo.git" (some "main") (some "src")
    let bc := stored.withScriptPath "ci/Jenkinsfile"
    let scm : GitCheckout := ⟨[⟨some "https://example/repo.git", none, none, none⟩], [⟨"main"⟩], []⟩
    let outcome := reconcile .defaults ⟨"", some (.scm (.git scm) "src"), none⟩ bc
    Text.allBlank "src" = false ∧ bc.tracked .scriptPath = some "ci/Jenkinsfile" ∧
      outcome.updated.pipeline.bind PipelineStrategy.scriptPath = some "" ∧
      outcome.changes = [⟨.scriptPath, some "ci/Jenkinsfile", none⟩] := by
  decide +kernel

end BuildSync
