import BuildSync.Proofs.Sync.RoundTrip

/-!
# When a script path is reported

A job that runs another file than the BuildConfig maps to is reported, and one that only spells the
file in another way is not. The report compares what is stored before and after, though: of a path
that does not lie below the context directory, what is left may be stored already.
-/

set_option autoImplicit false

namespace BuildSync

def Outcome.Reports (outcome : Outcome) (field : TrackedField) : Prop :=
  ∃ change ∈ outcome.changes, change.field = field

theorem exists_mem_changesBetween_iff {before after : BuildConfig} {field : TrackedField} :
    (∃ change ∈ changesBetween before after, change.field = field) ↔
      before.tracked field ≠ after.tracked field := by
  constructor
  · rintro ⟨change, hChange, rfl⟩
    obtain ⟨hBefore, hAfter, hDiffer⟩ := mem_changesBetween_iff.mp hChange
    rwa [hBefore, hAfter] at hDiffer
  · intro hDiffer
    exact ⟨⟨field, before.tracked field, after.tracked field⟩,
      mem_changesBetween_iff.mpr ⟨rfl, rfl, hDiffer⟩, rfl⟩

/-- The path does not lie strictly inside the context directory, and what is seen of it from there
is stored already. An empty text counts as nothing on both sides. -/
def SeenAsStored (contextDir : Option String) (strategy : PipelineStrategy) (path : String) :
    Prop :=
  ∃ dir, nonempty contextDir = some dir ∧
    ¬(Path.ofString path).StrictlyInside (Path.ofString dir) ∧
    nonempty (some (Path.fromContext path dir)) = nonempty strategy.scriptPath

section

variable {settings : Settings} {contextDir : Option String} {strategy : PipelineStrategy}
  {path : String}

/-- A path that is stored as it is seen from the context directory is the one that is mapped. -/
theorem normalize_eq_mapped_of_stored (hPath : path ≠ "")
    (hInside : ∀ dir, nonempty contextDir = some dir →
      (Path.ofString path).StrictlyInside (Path.ofString dir))
    (hStored : nonempty (some (seenFrom contextDir path)) = nonempty strategy.scriptPath) :
    Path.normalize path =
      Path.normalize (underContext contextDir (currentScriptPath settings strategy)) := by
  rw [nonempty_of_ne (seenFrom_ne_empty hPath hInside)] at hStored
  rw [currentScriptPath, ← hStored, Option.getD_some, normalize_underContext_seenFrom hInside]

theorem seenAsStored_iff (hPath : path ≠ "")
    (hDiffers : Path.normalize path ≠
      Path.normalize (underContext contextDir (currentScriptPath settings strategy))) :
    SeenAsStored contextDir strategy path ↔
      nonempty (some (seenFrom contextDir path)) = nonempty strategy.scriptPath := by
  constructor
  · rintro ⟨dir, hDir, _, hSeen⟩
    rwa [seenFrom, hDir]
  · intro hStored
    refine Classical.byContradiction fun hNotSeen => ?_
    refine hDiffers (normalize_eq_mapped_of_stored hPath ?_ hStored)
    intro dir hDir
    refine Classical.byContradiction fun hOutside => hNotSeen ⟨dir, hDir, hOutside, ?_⟩
    rwa [seenFrom, hDir] at hStored

end

/-- The script path of a checkout definition is reported exactly where it is another file than the
mapped one, and is not seen from the context directory as what is stored. -/
theorem reports_scriptPath_iff {settings : Settings} {job : Job} {bc : BuildConfig}
    {strategy : PipelineStrategy} {checkout : Checkout} {path : String}
    (hPipeline : bc.pipeline = some strategy) (hJob : job.definition = some (.scm checkout path))
    (hPath : Text.allBlank path = false) :
    (reconcile settings job bc).Reports .scriptPath ↔
      Path.normalize path ≠ Path.normalize (mappedScriptPath settings bc strategy) ∧
        ¬SeenAsStored bc.contextDir strategy path := by
  have hBefore : bc.tracked .scriptPath = nonempty strategy.scriptPath := by
    simp [BuildConfig.tracked, hPipeline]
  have hAfter : job.scriptPath settings bc.contextDir strategy =
      (scriptPathUpdate bc.contextDir (currentScriptPath settings strategy) path).or
        strategy.scriptPath := by
    simp [Job.scriptPath, hJob, hPath]
  rw [Outcome.Reports, reconcile_of_pipeline settings job hPipeline, exists_mem_changesBetween_iff,
    tracked_scriptPath_updatedBy settings job hPipeline, hBefore, hAfter, scriptPathUpdate_eq,
    mappedScriptPath]
  split
  · rename_i hSame
    exact iff_of_false (fun hDiffer => hDiffer rfl) fun h => h.1 hSame
  · rename_i hDiffers
    rw [seenAsStored_iff (ne_empty_of_not_blank hPath) hDiffers, Option.some_or]
    exact ⟨fun hDiffer => ⟨hDiffers, Ne.symm hDiffer⟩, fun h => Ne.symm h.2⟩

theorem reports_scriptPath_below_src :
    let bc := BuildConfig.ofRepository "https://example/repo.git" (some "main") (some "./src")
    let job (path : String) : Job := ⟨"", some (.scm (.unsupported "") path), none⟩
    (reconcile .defaults (job "src//ci/Jenkinsfile") bc).Reports .scriptPath ∧
      ¬(reconcile .defaults (job "./src//Jenkinsfile") bc).Reports .scriptPath := by
  intro bc job
  have hPipeline : bc.pipeline = some ⟨none, none, []⟩ := rfl
  constructor
  · refine (reports_scriptPath_iff hPipeline rfl (by decide)).mpr ⟨by decide, ?_⟩
    rintro ⟨dir, hDir, hOutside, _⟩
    cases hDir
    exact hOutside ⟨by decide, by decide, by decide⟩
  · intro hReports
    exact ((reports_scriptPath_iff hPipeline rfl (by decide)).mp hReports).1
      (by decide)

/-- The job runs a file beside the context directory, under the path that is stored for one below
it, and nothing is reported. -/
theorem reports_nothing_beside_src :
    let stored := BuildConfig.ofRepository "https://example/repo.git" (some "main") (some "src")
    let bc := stored.withScriptPath "Jenkinsfile"
    let strategy : PipelineStrategy := ⟨none, some "Jenkinsfile", []⟩
    let job : Job := ⟨"", some (.scm (.unsupported "") "Jenkinsfile"), none⟩
    bc.pipeline = some strategy ∧ Text.allBlank "Jenkinsfile" = false ∧
      Path.normalize "Jenkinsfile" ≠ Path.normalize (mappedScriptPath .defaults bc strategy) ∧
      ¬(reconcile .defaults job bc).Reports .scriptPath := by
  intro stored bc strategy job
  refine ⟨rfl, by decide, by decide, ?_⟩
  have hNone : (reconcile .defaults job bc).changes = [] := by decide
  rintro ⟨change, hChange, _⟩
  rw [hNone] at hChange
  exact absurd hChange List.not_mem_nil

end BuildSync
