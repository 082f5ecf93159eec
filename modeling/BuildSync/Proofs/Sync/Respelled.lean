import BuildSync.Proofs.Sync.RoundTrip
import Mathlib.Data.List.Forall2

/-!
# Paths in other spellings

How a context directory and a job's script path are spelled does not matter: two runs that differ in
this alone report the same changes, and map to the same script path afterwards. Only a path that is
stored as the job has it, without a context directory, keeps the job's spelling.
-/

set_option autoImplicit false

namespace BuildSync

/-! ### Spellings -/

/-- Spellings of one path, or no path on either side. An empty text is no path. -/
def SamePath (path path' : Option String) : Prop :=
  (nonempty path).map Path.normalize = (nonempty path').map Path.normalize

/-- The same stored path, or another spelling of it where there is no context directory. -/
def StoredAlike (contextDir path path' : Option String) : Prop :=
  path = path' ∨
    nonempty contextDir = none ∧ path.map Path.normalize = path'.map Path.normalize

theorem SamePath.cases {path path' : Option String} (h : SamePath path path') :
    nonempty path = none ∧ nonempty path' = none ∨
      ∃ p p', nonempty path = some p ∧ nonempty path' = some p' ∧
        Path.normalize p = Path.normalize p' := by
  unfold SamePath at h
  cases hPath : nonempty path with
  | none =>
    rw [hPath] at h
    exact Or.inl ⟨rfl, Option.map_eq_none_iff.mp h.symm⟩
  | some p =>
    rw [hPath] at h
    obtain ⟨p', hPath', hSame⟩ := Option.map_eq_some_iff.mp h.symm
    exact Or.inr ⟨p, p', rfl, hPath', hSame.symm⟩

section

variable {contextDir contextDir' : Option String} (hDir : SamePath contextDir contextDir')

include hDir

theorem normalize_underContext_congr {path path' : String}
    (hPath : Path.normalize path = Path.normalize path') :
    Path.normalize (underContext contextDir path) =
      Path.normalize (underContext contextDir' path') := by
  unfold underContext
  rcases hDir.cases with ⟨hNone, hNone'⟩ | ⟨dir, dir', hSome, hSome', hSame⟩
  · rw [hNone, hNone']
    exact hPath
  · rw [hSome, hSome']
    exact congrArg Path.normalize (Path.join_congr hSame hPath)

/-- Both jobs leave the stored path, or neither does and the paths they store are the same. -/
theorem storedAlike_scriptPathUpdate (settings : Settings) (strategy : PipelineStrategy)
    {path path' : String} (hPath : path ≠ "") (hPath' : path' ≠ "")
    (hSame : Path.normalize path = Path.normalize path') :
    let current := currentScriptPath settings strategy
    let left := nonempty ((scriptPathUpdate contextDir current path).or strategy.scriptPath)
    let left' := nonempty ((scriptPathUpdate contextDir' current path').or strategy.scriptPath)
    StoredAlike contextDir left left' ∧
      (nonempty strategy.scriptPath = left ↔ nonempty strategy.scriptPath = left') := by
  intro current left left'
  have hMapped : Path.normalize (underContext contextDir current) =
      Path.normalize (underContext contextDir' current) :=
    normalize_underContext_congr hDir rfl
  by_cases hKept : Path.normalize path = Path.normalize (underContext contextDir current)
  · have hLeft : left = nonempty strategy.scriptPath := by
      simp only [left, scriptPathUpdate_eq, if_pos hKept, Option.none_or]
    have hLeft' : left' = nonempty strategy.scriptPath := by
      simp only [left', scriptPathUpdate_eq, if_pos (hSame.symm.trans (hKept.trans hMapped)),
        Option.none_or]
    rw [hLeft, hLeft']
    exact ⟨Or.inl rfl, Iff.rfl⟩
  · have hKept' : ¬Path.normalize path' = Path.normalize (underContext contextDir' current) :=
      fun h => hKept (hSame.trans (h.trans hMapped.symm))
    have hLeft : left = nonempty (some (seenFrom contextDir path)) := by
      simp only [left, scriptPathUpdate_eq, if_neg hKept, Option.some_or]
    have hLeft' : left' = nonempty (some (seenFrom contextDir' path')) := by
      simp only [left', scriptPathUpdate_eq, if_neg hKept', Option.some_or]
    rcases hDir.cases with ⟨hNone, hNone'⟩ | ⟨dir, dir', hSome, hSome', hDirs⟩
    -- Without a context directory both store their own spelling, and neither is the stored path.
    · simp only [seenFrom, hNone, hNone', nonempty_of_ne hPath, nonempty_of_ne hPath'] at hLeft hLeft'
      simp only [underContext, hNone, hNone'] at hKept hKept'
      have hDiffers : ∀ p, Path.normalize p ≠ Path.normalize current →
          nonempty strategy.scriptPath ≠ some p := by
        intro p hp hStored
        exact hp (by simp only [current, currentScriptPath, hStored, Option.getD_some])
      rw [hLeft, hLeft']
      refine ⟨Or.inr ⟨hNone, congrArg some hSame⟩, ?_⟩
      exact iff_of_false (hDiffers path hKept) (hDiffers path' hKept')
    · have hSeen : left = left' := by
        rw [hLeft, hLeft', seenFrom, seenFrom, hSome, hSome']
        simp only [Path.fromContext_congr hSame hDirs]
      rw [hSeen]
      exact ⟨Or.inl rfl, Iff.rfl⟩

end

/-! ### Two runs -/

/-- The same job but for the spelling of its script path, which is not blank. -/
inductive Job.SpelledAlike : Job → Job → Prop
  | same (job : Job) : SpelledAlike job job
  | path (fullName : String) (checkout : Checkout) (branch : Option BranchProperty)
    {path path' : String} (hPath : Text.allBlank path = false)
    (hPath' : Text.allBlank path' = false) (hSame : Path.normalize path = Path.normalize path') :
    SpelledAlike ⟨fullName, some (.scm checkout path), branch⟩
      ⟨fullName, some (.scm checkout path'), branch⟩

namespace BuildConfig

/-- The BuildConfig with another text for the context directory of its source. -/
def withContextDir (bc : BuildConfig) (dir : Option String) : BuildConfig :=
  { bc with
    spec := bc.spec.map fun spec =>
      { spec with source := spec.source.map fun source => { source with contextDir := dir } } }

/-- The same BuildConfig but for the spelling of its context directory. -/
structure SpelledAlike (bc bc' : BuildConfig) : Prop where
  contextDir : SamePath bc.contextDir bc'.contextDir
  rest : bc' = bc.withContextDir bc'.contextDir

theorem pipeline_withContextDir (bc : BuildConfig) (dir : Option String) :
    (bc.withContextDir dir).pipeline = bc.pipeline := by
  unfold pipeline withContextDir
  cases bc.spec <;> rfl

theorem git_withContextDir (bc : BuildConfig) (dir : Option String) :
    (bc.withContextDir dir).git = bc.git := by
  unfold git source withContextDir
  cases bc.spec with
  | none => rfl
  | some spec =>
    obtain ⟨source, strategy, extras⟩ := spec
    cases source <;> rfl

namespace SpelledAlike

variable {bc bc' : BuildConfig} (h : bc.SpelledAlike bc')

include h

theorem pipeline_eq : bc'.pipeline = bc.pipeline := by
  rw [h.rest, pipeline_withContextDir]

theorem tracked_eq : bc'.tracked = bc.tracked := by
  have hGit : bc'.git = bc.git := by rw [h.rest, git_withContextDir]
  funext field
  cases field <;> simp only [tracked, h.pipeline_eq, hGit]

end SpelledAlike

end BuildConfig

namespace Job.SpelledAlike

variable {job job' : Job} (h : job.SpelledAlike job')

include h

theorem remote?_eq (settings : Settings) : job'.remote? settings = job.remote? settings := by
  cases h with
  | same => rfl
  | path fullName checkout branch hPath hPath' => simp [remote?, hPath, hPath']

theorem script?_eq : job'.script? = job.script? := by
  cases h <;> rfl

theorem storedAlike {contextDir contextDir' : Option String} (hDir : SamePath contextDir contextDir')
    (settings : Settings) (strategy : PipelineStrategy) :
    let left := nonempty (job.scriptPath settings contextDir strategy)
    let left' := nonempty (job'.scriptPath settings contextDir' strategy)
    StoredAlike contextDir left left' ∧
      (nonempty strategy.scriptPath = left ↔ nonempty strategy.scriptPath = left') := by
  cases h with
  | path fullName checkout branch hPath hPath' hSame =>
    simp only [scriptPath, hPath, hPath']
    exact storedAlike_scriptPathUpdate hDir settings strategy (ne_empty_of_not_blank hPath)
      (ne_empty_of_not_blank hPath') hSame
  | same =>
    rcases job.kinds with ⟨checkout, path, hJob⟩ | ⟨script, sandbox, hJob⟩ | hJob
    · simp only [scriptPath, hJob]
      cases hPath : Text.allBlank path with
      | true => exact ⟨Or.inl rfl, Iff.rfl⟩
      | false =>
        have hne := ne_empty_of_not_blank hPath
        exact storedAlike_scriptPathUpdate hDir settings strategy hne hne rfl
    · have hKept (dir : Option String) :
          job.scriptPath settings dir strategy = strategy.scriptPath := by
        simp only [scriptPath, hJob]
      rw [hKept, hKept]
      exact ⟨Or.inl rfl, Iff.rfl⟩
    · rw [hJob.scriptPath_eq, hJob.scriptPath_eq]
      exact ⟨Or.inl rfl, Iff.rfl⟩

end Job.SpelledAlike

/-- Changes of one field from one value to the same value, or to another spelling of the script path
where there is no context directory. -/
structure TrackedChange.SpelledAlike (contextDir : Option String) (change change' : TrackedChange) :
    Prop where
  field : change.field = change'.field
  before : change.before = change'.before
  after : change.after = change'.after ∨
    change.field = .scriptPath ∧ StoredAlike contextDir change.after change'.after

theorem forall₂_filterMap {α β γ : Type} {R : β → γ → Prop} {f : α → Option β} {g : α → Option γ}
    {as : List α} (h : ∀ a ∈ as, Option.Rel R (f a) (g a)) :
    List.Forall₂ R (as.filterMap f) (as.filterMap g) := by
  induction as with
  | nil => exact .nil
  | cons a as ih =>
    obtain ⟨hHead, hRest⟩ := List.forall_mem_cons.mp h
    rw [List.filterMap_cons, List.filterMap_cons]
    generalize f a = b at hHead
    generalize g a = c at hHead
    cases hHead with
    | none => exact ih hRest
    | some hRelated => exact .cons hRelated (ih hRest)

section

variable {bc bc' : BuildConfig} (hBc : bc.SpelledAlike bc')

include hBc

/-- Where each field is reported in both runs or in neither, and to alike values, the reports are
alike. -/
theorem changes_alike {updated updated' : BuildConfig}
    (hKept : ∀ field, bc.tracked field = updated.tracked field ↔
      bc.tracked field = updated'.tracked field)
    (hAfter : ∀ field, updated.tracked field = updated'.tracked field ∨
      field = .scriptPath ∧
        StoredAlike bc.contextDir (updated.tracked field) (updated'.tracked field)) :
    List.Forall₂ (TrackedChange.SpelledAlike bc.contextDir) (changesBetween bc updated)
      (changesBetween bc' updated') := by
  rw [changesBetween, changesBetween, hBc.tracked_eq]
  apply forall₂_filterMap
  intro field _
  by_cases hSame : bc.tracked field = updated.tracked field
  · rw [if_pos hSame, if_pos ((hKept field).mp hSame)]
    exact .none
  · rw [if_neg hSame, if_neg fun h => hSame ((hKept field).mpr h)]
    exact .some ⟨rfl, rfl, hAfter field⟩

variable {job job' : Job} (hJob : job.SpelledAlike job') (settings : Settings)
  {strategy : PipelineStrategy} (hPipeline : bc.pipeline = some strategy)

include hJob hPipeline

theorem tracked_updatedBy_of_ne {field : TrackedField} (hField : field ≠ .scriptPath) :
    (updatedBy settings job' bc' strategy).tracked field =
      (updatedBy settings job bc strategy).tracked field := by
  have hPipeline' : bc'.pipeline = some strategy := hBc.pipeline_eq.trans hPipeline
  cases field with
  | uri =>
    rw [tracked_uri_updatedBy settings job' hPipeline', tracked_uri_updatedBy settings job hPipeline,
      hJob.remote?_eq, hBc.tracked_eq]
  | ref =>
    rw [tracked_ref_updatedBy settings job' hPipeline', tracked_ref_updatedBy settings job hPipeline,
      hJob.remote?_eq, hBc.tracked_eq]
  | script =>
    rw [tracked_script_updatedBy settings job' hPipeline',
      tracked_script_updatedBy settings job hPipeline, hJob.script?_eq, hBc.tracked_eq]
  | scriptPath => exact absurd rfl hField

/-- What is stored as the script path afterwards is alike. -/
theorem tracked_scriptPath_alike :
    let after := (updatedBy settings job bc strategy).tracked .scriptPath
    let after' := (updatedBy settings job' bc' strategy).tracked .scriptPath
    StoredAlike bc.contextDir after after' ∧
      (bc.tracked .scriptPath = after ↔ bc.tracked .scriptPath = after') := by
  have hPipeline' : bc'.pipeline = some strategy := hBc.pipeline_eq.trans hPipeline
  have hStored : bc.tracked .scriptPath = nonempty strategy.scriptPath := by
    simp [BuildConfig.tracked, hPipeline]
  rw [tracked_scriptPath_updatedBy settings job hPipeline,
    tracked_scriptPath_updatedBy settings job' hPipeline', hStored]
  exact hJob.storedAlike hBc.contextDir settings strategy

theorem normalize_mappedScriptPath_alike (mapping : Settings) :
    Path.normalize (mappedScriptPath mapping (updatedBy settings job bc strategy)
        (strategy.after settings job bc.contextDir)) =
      Path.normalize (mappedScriptPath mapping (updatedBy settings job' bc' strategy)
        (strategy.after settings job' bc'.contextDir)) := by
  have hPipeline' : bc'.pipeline = some strategy := hBc.pipeline_eq.trans hPipeline
  have hDir := BuildConfig.contextDir_of_frame (frame_updatedBy settings job hPipeline)
  have hDir' := BuildConfig.contextDir_of_frame (frame_updatedBy settings job' hPipeline')
  rw [mappedScriptPath, mappedScriptPath, hDir, hDir']
  apply normalize_underContext_congr hBc.contextDir
  obtain ⟨hStored, _⟩ := hJob.storedAlike hBc.contextDir settings strategy
  have hPaths : (nonempty (job.scriptPath settings bc.contextDir strategy)).map Path.normalize =
      (nonempty (job'.scriptPath settings bc'.contextDir strategy)).map Path.normalize :=
    hStored.elim (congrArg _) And.right
  simp only [currentScriptPath, PipelineStrategy.after]
  rw [← Option.getD_map Path.normalize, ← Option.getD_map Path.normalize, hPaths]

end

def Definition.scriptPath? : Definition → Option String
  | .scm _ path => some path
  | _ => none

/-- How the context directory and the script path are spelled does not matter. -/
theorem reconcile_respelled (settings : Settings) {job job' : Job} {bc bc' : BuildConfig}
    (hJob : job.SpelledAlike job') (hBc : bc.SpelledAlike bc') :
    let outcome := reconcile settings job bc
    let outcome' := reconcile settings job' bc'
    List.Forall₂ (TrackedChange.SpelledAlike bc.contextDir) outcome.changes outcome'.changes ∧
    ∀ (mapping : Settings) (bridge bridge' : Option Bridge),
      ((mapDefinition mapping bridge outcome.updated).definition.bind Definition.scriptPath?).map
          Path.normalize =
        ((mapDefinition mapping bridge' outcome'.updated).definition.bind
          Definition.scriptPath?).map Path.normalize := by
  cases hPipeline : bc.pipeline with
  | none =>
    have hPipeline' := hBc.pipeline_eq.trans hPipeline
    rw [reconcile_of_no_pipeline settings job hPipeline,
      reconcile_of_no_pipeline settings job' hPipeline']
    refine ⟨.nil, fun mapping bridge bridge' => ?_⟩
    rw [definition_mapDefinition_of_no_pipeline mapping bridge hPipeline,
      definition_mapDefinition_of_no_pipeline mapping bridge' hPipeline']
  | some strategy =>
    have hPipeline' : bc'.pipeline = some strategy := hBc.pipeline_eq.trans hPipeline
    have hPath := tracked_scriptPath_alike hBc hJob settings hPipeline
    have hOther (field : TrackedField) (hField : field ≠ .scriptPath) :=
      tracked_updatedBy_of_ne hBc hJob settings hPipeline hField
    rw [reconcile_of_pipeline settings job hPipeline, reconcile_of_pipeline settings job' hPipeline']
    constructor
    · apply changes_alike hBc
      · intro field
        by_cases hField : field = .scriptPath
        · exact hField ▸ hPath.2
        · rw [hOther field hField]
      · intro field
        by_cases hField : field = .scriptPath
        · exact Or.inr ⟨hField, hField ▸ hPath.1⟩
        · exact Or.inl (hOther field hField).symm
    · intro mapping bridge bridge'
      have hMapped := normalize_mappedScriptPath_alike hBc hJob settings hPipeline mapping
      rw [definition_mapDefinition mapping bridge (pipeline_updatedBy settings job hPipeline),
        definition_mapDefinition mapping bridge' (pipeline_updatedBy settings job' hPipeline'),
        hOther .script nofun, hOther .uri nofun]
      cases (updatedBy settings job bc strategy).tracked .script with
      | some script => rfl
      | none =>
        cases (updatedBy settings job bc strategy).tracked .uri with
        | none => rfl
        | some uri => exact congrArg some hMapped

theorem reconcile_respelled_in_src :
    let bc (dir : String) :=
      BuildConfig.ofRepository "https://example/repo.git" (some "main") (some dir)
    let job (path : String) : Job := ⟨"", some (.scm (.unsupported "") path), none⟩
    let outcome := reconcile .defaults (job "./src//ci/Jenkinsfile") (bc "src/")
    let outcome' := reconcile .defaults (job "src/ci/./Jenkinsfile") (bc ".//src")
    (job "./src//ci/Jenkinsfile").SpelledAlike (job "src/ci/./Jenkinsfile") ∧
      (bc "src/").SpelledAlike (bc ".//src") ∧
      outcome.changes = [⟨.scriptPath, none, some "ci/Jenkinsfile"⟩] ∧
      List.Forall₂ (TrackedChange.SpelledAlike (some "src/")) outcome.changes outcome'.changes ∧
      ((mapDefinition .defaults none outcome.updated).definition.bind
          Definition.scriptPath?).map Path.normalize =
        ((mapDefinition .defaults none outcome'.updated).definition.bind
          Definition.scriptPath?).map Path.normalize := by
  intro bc job outcome outcome'
  have hJob : (job "./src//ci/Jenkinsfile").SpelledAlike (job "src/ci/./Jenkinsfile") :=
    .path "" (.unsupported "") none (by decide +kernel) (by decide +kernel) (by decide +kernel)
  have hBc : (bc "src/").SpelledAlike (bc ".//src") :=
    ⟨by unfold SamePath; decide +kernel, rfl⟩
  obtain ⟨hChanges, hMapped⟩ := reconcile_respelled .defaults hJob hBc
  exact ⟨hJob, hBc, by decide +kernel, hChanges, hMapped .defaults none none⟩

end BuildSync
