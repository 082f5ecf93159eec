import BuildSync.Proofs.Manifest.Bare
import BuildSync.Proofs.Sync.Footprint
import BuildSync.Proofs.Sync.Idempotence

/-!
# Reconciling what was saved

A reconciled copy can be saved and read again like any BuildConfig that is read from a document.
What is read has the same fields, and only fields decide what reconciling changes.
-/

set_option autoImplicit false

namespace BuildSync

/-! ### A reconciled copy is well-formed -/

theorem BuildSource.wellFormed_empty : BuildSource.empty.WellFormed :=
  ⟨nofun, nofun, Entries.foreign_nil _⟩

theorem BuildSource.unshadowed_empty : BuildSource.empty.Unshadowed := ⟨fun _ => rfl, fun _ => rfl⟩

theorem wellFormed_pointed {git : Option GitSource} (h : ∀ g ∈ git, g.WellFormed)
    (remote : Option RemoteRef) : ∀ g ∈ pointed git remote, g.WellFormed := by
  cases remote with
  | none => exact h
  | some remote =>
    rintro g ⟨⟩
    cases git with
    | none => exact ⟨Entries.foreign_nil _⟩
    | some old => exact ⟨(h old rfl).foreign⟩

section

variable {settings : Settings} {job : Job} {source source' : BuildSource}
  (hTaken : job.source? settings source = some source')

include hTaken

theorem BuildSource.WellFormed.taken (h : source.WellFormed) : source'.WellFormed := by
  have hGit := job.git_source? settings source
  rw [hTaken, Option.elim_some] at hGit
  obtain ⟨type, git, rfl⟩ := job.source?_eq_some settings hTaken
  refine ⟨?_, h.sourceSecret, h.foreign⟩
  rw [hGit]
  exact wellFormed_pointed h.git _

theorem BuildSource.Unshadowed.taken (h : source.Unshadowed) : source'.Unshadowed := by
  obtain ⟨type, git, rfl⟩ := job.source?_eq_some settings hTaken
  exact ⟨h.contextDir, h.sourceSecret⟩

end

/-- A job takes no script path away. -/
theorem Job.scriptPath_eq_none {settings : Settings} {job : Job} {contextDir : Option String}
    {strategy : PipelineStrategy} (h : job.scriptPath settings contextDir strategy = none) :
    strategy.scriptPath = none := by
  unfold Job.scriptPath at h
  split at h
  · split at h
    · exact h
    · exact (Option.or_eq_none_iff.mp h).2
  · exact h
  · split at h
    · cases h
    · exact h

namespace BuildConfig

variable {bc : BuildConfig} {source : Option BuildSource} {strategy : PipelineStrategy}

theorem WellFormed.rewritten (h : bc.WellFormed) (hSource : ∀ s ∈ source, s.WellFormed)
    (hStrategy : strategy.WellFormed) : (bc.rewritten source strategy).WellFormed := by
  refine ⟨h.metadata, ?_, h.foreign⟩
  intro spec hSpec
  obtain ⟨old, hOld, rfl⟩ := Option.map_eq_some_iff.mp hSpec
  have hOldSpec := h.spec old hOld
  refine ⟨hSource, ?_, hOldSpec.foreign⟩
  intro block hBlock
  obtain ⟨oldBlock, hOldBlock, rfl⟩ := Option.map_eq_some_iff.mp hBlock
  refine ⟨?_, (hOldSpec.strategy oldBlock hOldBlock).foreign⟩
  rintro _ ⟨⟩
  exact hStrategy

theorem Unshadowed.rewritten (hSource : ∀ s ∈ source, s.Unshadowed)
    (hStrategy : strategy.Unshadowed) : (bc.rewritten source strategy).Unshadowed := by
  intro spec hSpec
  obtain ⟨old, hOld, rfl⟩ := Option.map_eq_some_iff.mp hSpec
  refine ⟨hSource, ?_⟩
  intro block hBlock
  obtain ⟨oldBlock, hOldBlock, rfl⟩ := Option.map_eq_some_iff.mp hBlock
  refine ⟨nofun, ?_⟩
  rintro _ ⟨⟩
  exact hStrategy

theorem exists_block_of_pipeline (h : bc.pipeline = some strategy) :
    ∃ spec block, bc.spec = some spec ∧ spec.strategy = some block ∧
      block.pipeline = some strategy := by
  obtain ⟨block, hBlock, hPipeline⟩ := Option.bind_eq_some_iff.mp h
  obtain ⟨spec, hSpec, hBlock⟩ := Option.bind_eq_some_iff.mp hBlock
  split at hPipeline
  · exact ⟨spec, block, hSpec, hBlock, hPipeline⟩
  · cases hPipeline

theorem sourceOrEmpty_induction {P : BuildSource → Prop} (hEmpty : P .empty)
    (hSource : ∀ source, bc.source = some source → P source) : P bc.sourceOrEmpty := by
  unfold BuildConfig.sourceOrEmpty
  cases hStored : bc.source with
  | none => exact hEmpty
  | some source => exact hSource source hStored

variable (settings : Settings) (job : Job)

/-- What holds of the stored source and is kept by what jobs write holds of the source that is
left. -/
theorem source_left {P : BuildSource → Prop} (hEmpty : P .empty)
    (hSource : ∀ source, bc.source = some source → P source)
    (hTaken : ∀ source source', job.source? settings source = some source' → P source → P source') :
    ∀ source ∈ (job.source? settings bc.sourceOrEmpty).or bc.source, P source := by
  intro source hLeft
  cases hTouched : job.source? settings bc.sourceOrEmpty with
  | none => exact hSource source (by simpa [hTouched] using hLeft)
  | some taken =>
    obtain rfl : taken = source := by simpa [hTouched] using hLeft
    exact hTaken _ _ hTouched (sourceOrEmpty_induction hEmpty hSource)

theorem WellFormed.updated (h : bc.WellFormed) :
    (reconcile settings job bc).updated.WellFormed := by
  cases hPipeline : bc.pipeline with
  | none =>
    rw [reconcile_of_no_pipeline settings job hPipeline]
    exact h
  | some strategy =>
    rw [reconcile_of_pipeline settings job hPipeline, updatedBy_eq_rewritten settings hPipeline]
    obtain ⟨spec, block, hSpec, hBlock, hStrategy⟩ := exists_block_of_pipeline hPipeline
    have hStored := ((h.spec spec hSpec).strategy block hBlock).pipeline _ hStrategy
    exact h.rewritten (source_left settings job BuildSource.wellFormed_empty
      (fun _ => h.source) fun _ _ => BuildSource.WellFormed.taken) ⟨hStored.foreign⟩

theorem Unshadowed.updated (h : bc.Unshadowed) :
    (reconcile settings job bc).updated.Unshadowed := by
  cases hPipeline : bc.pipeline with
  | none =>
    rw [reconcile_of_no_pipeline settings job hPipeline]
    exact h
  | some strategy =>
    rw [reconcile_of_pipeline settings job hPipeline, updatedBy_eq_rewritten settings hPipeline]
    obtain ⟨spec, block, hSpec, hBlock, hStrategy⟩ := exists_block_of_pipeline hPipeline
    have hStored := ((h spec hSpec).strategy block hBlock).pipeline _ hStrategy
    -- a script path that is null in the copy has been null before, so nothing stands in its place
    refine Unshadowed.rewritten (source_left settings job BuildSource.unshadowed_empty ?_
      fun _ _ => BuildSource.Unshadowed.taken)
      ⟨fun hNone => hStored.scriptPath (Job.scriptPath_eq_none hNone)⟩
    intro source hSource
    obtain ⟨spec, hSpec, hSource⟩ := Option.bind_eq_some_iff.mp hSource
    exact (h spec hSpec).source source hSource

/-! ### Fields decide -/

theorem pipeline_bare (bc : BuildConfig) :
    bc.bare.pipeline = bc.pipeline.map PipelineStrategy.bare := by
  obtain ⟨apiVersion, kind, metadata, spec, extras⟩ := bc
  cases spec with
  | none => rfl
  | some spec =>
    obtain ⟨source, block, extras⟩ := spec
    cases block with
    | none => rfl
    | some block =>
      have hType : block.bare.isPipeline = block.isPipeline := rfl
      simp only [pipeline, bare, BuildSpec.bare, Option.map_some, Option.bind_some, hType]
      cases block.isPipeline <;> rfl

theorem git_bare (bc : BuildConfig) : bc.bare.git = bc.git.map GitSource.bare := by
  obtain ⟨apiVersion, kind, metadata, spec, extras⟩ := bc
  cases spec with
  | none => rfl
  | some spec =>
    obtain ⟨source, block, extras⟩ := spec
    cases source <;> rfl

theorem contextDir_bare (bc : BuildConfig) : bc.bare.contextDir = bc.contextDir := by
  obtain ⟨apiVersion, kind, metadata, spec, extras⟩ := bc
  cases spec with
  | none => rfl
  | some spec =>
    obtain ⟨source, block, extras⟩ := spec
    cases source <;> rfl

theorem tracked_bare (bc : BuildConfig) : bc.bare.tracked = bc.tracked := by
  funext field
  cases field with
  | uri | ref =>
    rw [tracked, git_bare, tracked]
    cases bc.git <;> rfl
  | script | scriptPath =>
    rw [tracked, pipeline_bare, tracked]
    cases bc.pipeline <;> rfl

theorem changes_bare (bc : BuildConfig) :
    (reconcile settings job bc.bare).changes = (reconcile settings job bc).changes := by
  cases hPipeline : bc.pipeline with
  | none =>
    have hBare : bc.bare.pipeline = none := by rw [pipeline_bare, hPipeline]; rfl
    rw [reconcile_of_no_pipeline settings job hPipeline,
      reconcile_of_no_pipeline settings job hBare]
  | some strategy =>
    have hBare : bc.bare.pipeline = some strategy.bare := by rw [pipeline_bare, hPipeline]; rfl
    have hTracked : (updatedBy settings job bc.bare strategy.bare).tracked =
        (updatedBy settings job bc strategy).tracked := by
      funext field
      cases field with
      | uri =>
        rw [tracked_uri_updatedBy settings job hBare, tracked_uri_updatedBy settings job hPipeline,
          tracked_bare]
      | ref =>
        rw [tracked_ref_updatedBy settings job hBare, tracked_ref_updatedBy settings job hPipeline,
          tracked_bare]
      | script =>
        rw [tracked_script_updatedBy settings job hBare,
          tracked_script_updatedBy settings job hPipeline, tracked_bare]
      | scriptPath =>
        rw [tracked_scriptPath_updatedBy settings job hBare,
          tracked_scriptPath_updatedBy settings job hPipeline, contextDir_bare]
        rfl
    rw [reconcile_of_pipeline settings job hPipeline, reconcile_of_pipeline settings job hBare]
    simp only [changesBetween, hTracked, tracked_bare]

/-- What is read from a saved reconciled copy has the fields of the copy. -/
theorem exists_read_of_same (hWellFormed : bc.WellFormed) (hUnshadowed : bc.Unshadowed)
    {v : Value} (hJson : v.IsJson)
    (hSame : ((reconcile settings job bc).updated.dump .manifest).SameJson v) :
    ∃ again, check v = .ok again ∧ again.bare = (reconcile settings job bc).updated.bare := by
  have hUpdated := hWellFormed.updated settings job
  have hDumped := hUpdated.check_dump (hUnshadowed.updated settings job)
  obtain ⟨again, hAgain, hBare⟩ := respects_check _ v _ hUpdated.isJson_dump hJson hSame hDumped
  exact ⟨again, hAgain, hBare.trans (bare_withoutNulls _)⟩

theorem changes_of_same_fields {again : BuildConfig}
    (h : again.bare = (reconcile settings job bc).updated.bare) :
    (reconcile settings job again).changes = [] := by
  rw [← changes_bare, h, changes_bare, reconcile_updated]

end BuildConfig

end BuildSync
