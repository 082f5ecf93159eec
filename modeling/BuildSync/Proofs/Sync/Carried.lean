import BuildSync.Proofs.Sync.RoundTrip

/-!
# What a job carries

A job carries a repository through the checkout it reads its script from, where the sync refreshes
repositories, or through the branch it was discovered for. Without the refresh the first way is
closed and the second is not.
-/

set_option autoImplicit false

namespace BuildSync

theorem GitCheckout.ref_eq (scm : GitCheckout) (refOverride : Option String) :
    scm.ref refOverride =
      (nonempty refOverride).or (nonempty (scm.branch?.map Ref.undecorated)) := by
  unfold GitCheckout.ref
  cases nonempty refOverride <;> rfl

namespace Job

/-- The job reads its script from a repository, at a path that is not blank. -/
def ReadsFrom (job : Job) (scm : GitCheckout) (url : String) : Prop :=
  ∃ path, job.definition = some (.scm (.git scm) path) ∧ Text.allBlank path = false ∧
    scm.url? = some url

/-- The job runs no definition of its own and was discovered for a branch of a repository. -/
def DiscoveredFor (job : Job) (name : String) (scm : GitCheckout) (url : String) : Prop :=
  job.FollowsBranch ∧ job.branch = some ⟨name, some (.git scm)⟩ ∧ scm.url? = some url

/-- The job carries a repository and a ref in it, which may be unset. -/
inductive CarriesRemote (settings : Settings) (job : Job) : Option String × Option String → Prop
  | checkout {scm : GitCheckout} {url : String} (hSync : settings.syncRemote = true)
      (hJob : job.ReadsFrom scm url) :
      CarriesRemote settings job (some url, nonempty (scm.branch?.map Ref.undecorated))
  | branch {name : String} {scm : GitCheckout} {url : String}
      (hJob : job.DiscoveredFor name scm url) :
      CarriesRemote settings job
        (some url, (nonempty (some name)).or (nonempty (scm.branch?.map Ref.undecorated)))

def CarriesScript (job : Job) (script : Option String) : Prop :=
  ∃ text sandbox, job.definition = some (.inline text sandbox) ∧ Text.allBlank text = false ∧
    script = some text

section

variable {settings : Settings} {job : Job}

theorem ReadsFrom.remote?_eq {scm : GitCheckout} {url : String} (hJob : job.ReadsFrom scm url)
    (hSync : settings.syncRemote = true) :
    job.remote? settings = some (url, nonempty (scm.branch?.map Ref.undecorated)) := by
  obtain ⟨path, hDefinition, hPath, hUrl⟩ := hJob
  simp [remote?, hDefinition, hPath, hSync, Checkout.git?, GitCheckout.remote?, hUrl, scm.ref_eq]

theorem DiscoveredFor.remote?_eq {name : String} {scm : GitCheckout} {url : String}
    (hJob : job.DiscoveredFor name scm url) (settings : Settings) :
    job.remote? settings =
      some (url, (nonempty (some name)).or (nonempty (scm.branch?.map Ref.undecorated))) := by
  obtain ⟨hFollows, hBranch, hUrl⟩ := hJob
  rw [hFollows.remote?_eq, hBranch, ← scm.ref_eq]
  simp [BranchProperty.git?, Checkout.git?, GitCheckout.remote?, hUrl]

theorem readsFrom_or_discoveredFor {remote : RemoteRef} (h : job.remote? settings = some remote) :
    (settings.syncRemote = true ∧ ∃ scm, job.ReadsFrom scm remote.1) ∨
      ∃ name scm, job.DiscoveredFor name scm remote.1 := by
  rcases job.kinds with ⟨checkout, path, hJob⟩ | ⟨script, sandbox, hJob⟩ | hJob
  · simp only [remote?, hJob] at h
    split at h
    · cases h
    · rename_i hTake
      obtain ⟨hPath, hSync⟩ : Text.allBlank path = false ∧ settings.syncRemote = true := by
        simpa using hTake
      obtain ⟨scm, hScm, hRemote⟩ := Option.bind_eq_some_iff.mp h
      obtain ⟨url, hUrl, rfl⟩ := Option.map_eq_some_iff.mp hRemote
      cases checkout with
      | unsupported className => cases hScm
      | git scm' =>
        cases hScm
        exact Or.inl ⟨hSync, scm, path, hJob, hPath, hUrl⟩
  · simp only [remote?, hJob] at h
    cases h
  · rw [hJob.remote?_eq] at h
    obtain ⟨⟨name, checkout⟩, hBranch, hTaken⟩ := Option.bind_eq_some_iff.mp h
    obtain ⟨scm, hScm, hRemote⟩ := Option.bind_eq_some_iff.mp hTaken
    obtain ⟨url, hUrl, rfl⟩ := Option.map_eq_some_iff.mp hRemote
    obtain ⟨checkout', rfl, hGit⟩ := Option.bind_eq_some_iff.mp hScm
    cases checkout' with
    | unsupported className => cases hGit
    | git scm' =>
      cases hGit
      exact Or.inr ⟨name, scm, hJob, hBranch, hUrl⟩

theorem carriesRemote_iff (settings : Settings) (job : Job) (pair : Option String × Option String) :
    job.CarriesRemote settings pair ↔
      (job.remote? settings).map (fun remote => (some remote.1, remote.2)) = some pair := by
  constructor
  · rintro (⟨hSync, hJob⟩ | hJob)
    · rw [hJob.remote?_eq hSync, Option.map_some]
    · rw [hJob.remote?_eq settings, Option.map_some]
  · intro h
    obtain ⟨remote, hRemote, rfl⟩ := Option.map_eq_some_iff.mp h
    rcases readsFrom_or_discoveredFor hRemote with ⟨hSync, scm, hJob⟩ | ⟨name, scm, hJob⟩
    · have hCarried := hRemote.symm.trans (hJob.remote?_eq hSync)
      rw [Option.some_inj.mp hCarried]
      exact .checkout hSync hJob
    · have hCarried := hRemote.symm.trans (hJob.remote?_eq settings)
      rw [Option.some_inj.mp hCarried]
      exact .branch hJob

theorem carriesScript_iff (job : Job) (script : Option String) :
    job.CarriesScript script ↔ job.script?.map some = some script := by
  constructor
  · rintro ⟨text, sandbox, hJob, hText, rfl⟩
    simp [script?, hJob, hText]
  · intro h
    obtain ⟨text, hText, rfl⟩ := Option.map_eq_some_iff.mp h
    have hBlank := script?_not_blank hText
    unfold script? at hText
    split at hText
    · rename_i script sandbox hJob
      split at hText
      · cases hText
      · cases hText
        exact ⟨text, sandbox, hJob, hBlank, rfl⟩
    · cases hText

end

end Job

/-! ### Without the refresh -/

theorem remote?_eq_none_of_not_discovered {settings : Settings}
    (hOff : settings.syncRemote = false) {job : Job}
    (hJob : ¬∃ name scm url, job.DiscoveredFor name scm url) : job.remote? settings = none := by
  cases hRemote : job.remote? settings with
  | none => rfl
  | some remote =>
    rcases Job.readsFrom_or_discoveredFor hRemote with ⟨hSync, _⟩ | ⟨name, scm, hDiscovered⟩
    · rw [hOff] at hSync
      cases hSync
    · exact absurd ⟨name, scm, remote.1, hDiscovered⟩ hJob

theorem remote_kept_of_remote?_eq_none (settings : Settings) {job : Job} {bc : BuildConfig}
    {strategy : PipelineStrategy} (h : bc.pipeline = some strategy)
    (hRemote : job.remote? settings = none) :
    (reconcile settings job bc).updated.git = bc.git ∧
      ∀ change ∈ (reconcile settings job bc).changes,
        change.field ≠ .uri ∧ change.field ≠ .ref := by
  have hGit := git_updatedBy settings job h
  have hUri := tracked_uri_updatedBy settings job h
  have hRef := tracked_ref_updatedBy settings job h
  rw [hRemote] at hGit hUri hRef
  rw [reconcile_of_pipeline settings job h]
  refine ⟨hGit, ?_⟩
  intro change hChange
  exact ⟨field_ne_of_tracked_eq hUri change hChange, field_ne_of_tracked_eq hRef change hChange⟩

/-- Without the refresh the repository and the ref stay as they are, and neither is reported, but
for a pipeline build whose job was discovered for a branch: there the branch is taken over. -/
theorem reconcile_without_refresh {settings : Settings} (hOff : settings.syncRemote = false)
    (job : Job) (bc : BuildConfig) :
    let outcome := reconcile settings job bc
    let discovered := ∃ name scm url, job.DiscoveredFor name scm url
    (¬(bc.pipeline.isSome = true ∧ discovered) →
      outcome.updated.git = bc.git ∧
        ∀ change ∈ outcome.changes, change.field ≠ .uri ∧ change.field ≠ .ref) ∧
    ∀ name scm url, bc.pipeline.isSome = true → job.DiscoveredFor name scm url →
      outcome.updated.remote =
        (some url, (nonempty (some name)).or (nonempty (scm.branch?.map Ref.undecorated))) := by
  intro outcome discovered
  constructor
  · intro hGated
    cases hPipeline : bc.pipeline with
    | none =>
      have hOutcome : outcome = ⟨bc, [], none⟩ := reconcile_of_no_pipeline settings job hPipeline
      rw [hOutcome]
      exact ⟨rfl, fun change hChange => absurd hChange List.not_mem_nil⟩
    | some strategy =>
      have hJob : ¬discovered := fun h => hGated ⟨by rw [hPipeline]; rfl, h⟩
      exact remote_kept_of_remote?_eq_none settings hPipeline
        (remote?_eq_none_of_not_discovered hOff hJob)
  · intro name scm url hSome hJob
    obtain ⟨strategy, hPipeline⟩ := Option.isSome_iff_exists.mp hSome
    have hOutcome : outcome = _ := reconcile_of_pipeline settings job hPipeline
    rw [hOutcome, remote_updatedBy settings job hPipeline, hJob.remote?_eq settings]
    rfl

theorem reconcile_without_refresh_fork :
    let settings := { Settings.defaults with syncRemote := false }
    let bc := BuildConfig.ofRepository "https://example/repo.git" (some "main") none
    let scm : GitCheckout := ⟨[⟨some "https://example/fork.git", none, none, none⟩], [⟨"*/dev"⟩], []⟩
    let edited : Job := ⟨"", some (.scm (.git scm) "ci/Jenkinsfile"), none⟩
    let discovered : Job := ⟨"", none, some ⟨"dev", some (.git scm)⟩⟩
    settings.syncRemote = false ∧
      ((reconcile settings edited bc).updated.git = bc.git ∧
        ∀ change ∈ (reconcile settings edited bc).changes,
          change.field ≠ .uri ∧ change.field ≠ .ref) ∧
      (reconcile settings discovered bc).updated.remote =
        (some "https://example/fork.git", some "dev") := by
  intro settings bc scm edited discovered
  have hEdited : ¬∃ name scm url, edited.DiscoveredFor name scm url := by
    rintro ⟨name, scm, url, hFollows, _⟩
    rcases hFollows with hJob | ⟨className, hJob⟩ <;> cases hJob
  have hDiscovered : discovered.DiscoveredFor "dev" scm "https://example/fork.git" :=
    ⟨Or.inl rfl, rfl, by decide +kernel⟩
  refine ⟨rfl, (reconcile_without_refresh rfl edited bc).1 fun h => hEdited h.2, ?_⟩
  rw [(reconcile_without_refresh rfl discovered bc).2 _ _ _ rfl hDiscovered]
  decide +kernel

-- The branch is taken over, and it is reported, although the refresh is off.
theorem refresh_off_discovered_branch :
    let settings := { Settings.defaults with syncRemote := false }
    let stored := BuildConfig.ofRepository "https://example/repo.git" (some "main") none
    let bc := stored.withScriptPath "Jenkinsfile"
    let scm : GitCheckout := ⟨[⟨some "https://example/fork.git", none, none, none⟩], [], []⟩
    let outcome := reconcile settings ⟨"", none, some ⟨"dev", some (.git scm)⟩⟩ bc
    settings.syncRemote = false ∧
      outcome.updated.git.bind GitSource.uri ≠ bc.git.bind GitSource.uri ∧
      outcome.updated.git.bind GitSource.ref ≠ bc.git.bind GitSource.ref ∧
      outcome.changes =
        [⟨.uri, some "https://example/repo.git", some "https://example/fork.git"⟩,
          ⟨.ref, some "main", some "dev"⟩] := by
  decide +kernel

end BuildSync
