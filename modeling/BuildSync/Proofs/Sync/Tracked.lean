import BuildSync.Proofs.Path.NormalForm
import BuildSync.Proofs.Sync.Effect

/-!
# The tracked fields

Mapping reads the four tracked fields and the frame. Reconciling moves each tracked field to what
the job carries, and reports a field exactly when it differs afterwards.
-/

set_option autoImplicit false

namespace BuildSync

theorem ne_empty_of_not_blank {s : String} (h : Text.allBlank s = false) : s ≠ "" := by
  rintro rfl
  cases h

theorem BuildConfig.nonempty_tracked (bc : BuildConfig) (field : TrackedField) :
    nonempty (bc.tracked field) = bc.tracked field := by
  cases field <;> exact nonempty_nonempty _

/-- The repository and the ref, as they are tracked. -/
def BuildConfig.remote (bc : BuildConfig) : Option String × Option String :=
  (bc.tracked .uri, bc.tracked .ref)

theorem changesBetween_eq_nil_iff {before after : BuildConfig} :
    changesBetween before after = [] ↔ before.tracked = after.tracked := by
  rw [changesBetween, List.filterMap_eq_nil_iff]
  constructor
  · intro h
    funext field
    have hField := h field (TrackedField.mem_all field)
    split at hField
    · assumption
    · cases hField
  · intro h field _
    rw [if_pos (congrFun h field)]

theorem field_ne_of_tracked_eq {before after : BuildConfig} {field : TrackedField}
    (h : after.tracked field = before.tracked field) :
    ∀ change ∈ changesBetween before after, change.field ≠ field := by
  rintro change hChange rfl
  obtain ⟨hBefore, hAfter, hDiffer⟩ := mem_changesBetween_iff.mp hChange
  exact hDiffer (hBefore.trans (h.symm.trans hAfter.symm))

/-! ### What a job carries -/

theorem GitCheckout.url?_ne_empty {scm : GitCheckout} {url : String} (h : scm.url? = some url) :
    url ≠ "" := by
  obtain ⟨remote, _, hUrl⟩ := Option.bind_eq_some_iff.mp h
  exact (nonempty_some_iff.mp hUrl).2

theorem GitCheckout.nonempty_ref (scm : GitCheckout) (refOverride : Option String) :
    nonempty (scm.ref refOverride) = scm.ref refOverride := by
  unfold GitCheckout.ref
  split
  · rename_i ref h
    exact nonempty_of_ne (nonempty_some_iff.mp h).2
  · exact nonempty_nonempty _

theorem GitCheckout.remote?_tracked {scm : GitCheckout} {refOverride : Option String}
    {remote : RemoteRef} (h : scm.remote? refOverride = some remote) :
    remote.1 ≠ "" ∧ nonempty remote.2 = remote.2 := by
  obtain ⟨url, hUrl, rfl⟩ := Option.map_eq_some_iff.mp h
  exact ⟨GitCheckout.url?_ne_empty hUrl, scm.nonempty_ref refOverride⟩

theorem Job.remote?_tracked {settings : Settings} {job : Job} {remote : RemoteRef}
    (h : job.remote? settings = some remote) : remote.1 ≠ "" ∧ nonempty remote.2 = remote.2 := by
  unfold Job.remote? at h
  split at h
  · split at h
    · cases h
    · obtain ⟨scm, _, hRemote⟩ := Option.bind_eq_some_iff.mp h
      exact GitCheckout.remote?_tracked hRemote
  · cases h
  · obtain ⟨branch, _, hBranch⟩ := Option.bind_eq_some_iff.mp h
    obtain ⟨scm, _, hRemote⟩ := Option.bind_eq_some_iff.mp hBranch
    exact GitCheckout.remote?_tracked hRemote

theorem Job.script?_not_blank {job : Job} {script : String} (h : job.script? = some script) :
    Text.allBlank script = false := by
  unfold Job.script? at h
  split at h
  · split at h
    · cases h
    · rename_i hBlank
      cases h
      simpa using hBlank
  · cases h

/-! ### Script paths -/

/-- A script path as it is stored beside a context directory. -/
def seenFrom (contextDir : Option String) (path : String) : String :=
  match nonempty contextDir with
  | some dir => Path.fromContext path dir
  | none => path

/-- A job's script path is stored unless it spells the file that is mapped already. -/
theorem scriptPathUpdate_eq (contextDir : Option String) (current path : String) :
    scriptPathUpdate contextDir current path =
      if Path.normalize path = Path.normalize (underContext contextDir current) then none
      else some (seenFrom contextDir path) := by
  unfold scriptPathUpdate underContext seenFrom
  cases nonempty contextDir with
  | none => rfl
  | some dir => rw [Path.normalize_join]

theorem scriptPathUpdate_mapped (contextDir : Option String) (current : String) :
    scriptPathUpdate contextDir current (underContext contextDir current) = none := by
  rw [scriptPathUpdate_eq, if_pos rfl]

/-! ### Reconciling -/

section UpdatedBy

variable (settings : Settings) (job : Job) {bc : BuildConfig} {strategy : PipelineStrategy}

theorem tracked_uri_updatedBy (h : bc.pipeline = some strategy) :
    (updatedBy settings job bc strategy).tracked .uri =
      (job.remote? settings).elim (bc.tracked .uri) fun remote => some remote.1 := by
  rw [BuildConfig.tracked, git_updatedBy settings job h]
  cases hRemote : job.remote? settings with
  | none => rfl
  | some remote => exact nonempty_of_ne (Job.remote?_tracked hRemote).1

theorem tracked_ref_updatedBy (h : bc.pipeline = some strategy) :
    (updatedBy settings job bc strategy).tracked .ref =
      (job.remote? settings).elim (bc.tracked .ref) Prod.snd := by
  rw [BuildConfig.tracked, git_updatedBy settings job h]
  cases hRemote : job.remote? settings with
  | none => rfl
  | some remote => exact (Job.remote?_tracked hRemote).2

theorem remote_updatedBy (h : bc.pipeline = some strategy) :
    (updatedBy settings job bc strategy).remote =
      (job.remote? settings).elim bc.remote fun remote => (some remote.1, remote.2) := by
  rw [BuildConfig.remote, tracked_uri_updatedBy settings job h, tracked_ref_updatedBy settings job h]
  cases job.remote? settings <;> rfl

theorem tracked_script_updatedBy (h : bc.pipeline = some strategy) :
    (updatedBy settings job bc strategy).tracked .script = job.script?.or (bc.tracked .script) := by
  rw [BuildConfig.tracked, pipeline_updatedBy settings job h, BuildConfig.tracked, h]
  cases hScript : job.script? with
  | none => simp [PipelineStrategy.after, hScript]
  | some script =>
    have hne := ne_empty_of_not_blank (Job.script?_not_blank hScript)
    simp [PipelineStrategy.after, hScript, nonempty_of_ne hne]

theorem tracked_scriptPath_updatedBy (h : bc.pipeline = some strategy) :
    (updatedBy settings job bc strategy).tracked .scriptPath =
      nonempty (job.scriptPath settings bc.contextDir strategy) := by
  rw [BuildConfig.tracked, pipeline_updatedBy settings job h]
  rfl

end UpdatedBy

section Reconcile

variable (settings : Settings) (job : Job) {bc : BuildConfig}

theorem reconcile_of_pipeline {strategy : PipelineStrategy} (h : bc.pipeline = some strategy) :
    reconcile settings job bc =
      { updated := updatedBy settings job bc strategy
        changes := changesBetween bc (updatedBy settings job bc strategy)
        scm := job.scriptCheckout.map (ensureSecret bc.source) } := by
  simp only [reconcile, h]

theorem reconcile_of_no_pipeline (h : bc.pipeline = none) :
    reconcile settings job bc = ⟨bc, [], none⟩ := by
  simp only [reconcile, h]

end Reconcile

/-! ### Mapping -/

def credentialId? (bridge : Option Bridge) (bc : BuildConfig) : Option String :=
  (findCredential bridge bc).bind fun resolution => resolution.result.id?

theorem checkoutOf_nonempty (uri : String) (ref : Option String) (credentialsId : Option String) :
    checkoutOf uri (nonempty ref) credentialsId = checkoutOf uri ref credentialsId := by
  unfold nonempty
  split <;> rfl

/-- Mapping reads the tracked fields and, below a repository, the context directory and the source
secret. -/
theorem mapDefinition_eq (settings : Settings) (bridge : Option Bridge) {bc : BuildConfig}
    {strategy : PipelineStrategy} (h : bc.pipeline = some strategy) :
    mapDefinition settings bridge bc =
      match bc.tracked .script, bc.tracked .uri with
      | some script, _ => ⟨some (.inline script settings.sandbox), []⟩
      | none, none => ⟨none, []⟩
      | none, some uri =>
        { definition := some (.scm
            (.git (checkoutOf uri (bc.tracked .ref) (credentialId? bridge bc)))
            (mappedScriptPath settings bc strategy))
          lookups := ((findCredential bridge bc).map Resolution.lookups).getD [] } := by
  have hScript : bc.tracked .script = nonempty strategy.script := by simp [BuildConfig.tracked, h]
  simp only [mapDefinition, h, hScript]
  cases nonempty strategy.script with
  | some script => rfl
  | none =>
    cases hGit : bc.git with
    | none => simp [BuildConfig.tracked, buildCheckout, BuildConfig.repository, hGit]
    | some git =>
      cases hUri : nonempty git.uri with
      | none => simp [BuildConfig.tracked, buildCheckout, BuildConfig.repository, hGit, hUri]
      | some uri =>
        simp [BuildConfig.tracked, buildCheckout, BuildConfig.repository, hGit, hUri,
          checkoutOf_nonempty, credentialId?]

theorem definition_mapDefinition (settings : Settings) (bridge : Option Bridge) {bc : BuildConfig}
    {strategy : PipelineStrategy} (h : bc.pipeline = some strategy) :
    (mapDefinition settings bridge bc).definition =
      match bc.tracked .script with
      | some script => some (.inline script settings.sandbox)
      | none => (bc.tracked .uri).map fun uri =>
        .scm (.git (checkoutOf uri (bc.tracked .ref) (credentialId? bridge bc)))
          (mappedScriptPath settings bc strategy) := by
  rw [mapDefinition_eq settings bridge h]
  cases bc.tracked .script with
  | some script => rfl
  | none => cases bc.tracked .uri <;> rfl

theorem definition_mapDefinition_of_no_pipeline (settings : Settings) (bridge : Option Bridge)
    {bc : BuildConfig} (h : bc.pipeline = none) :
    (mapDefinition settings bridge bc).definition = none := by
  simp only [mapDefinition, h]

end BuildSync
