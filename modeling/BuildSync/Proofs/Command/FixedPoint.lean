import BuildSync.Proofs.Command.Effects
import BuildSync.Proofs.Manifest.Spelling
import BuildSync.Proofs.Sync.Resaved
import BuildSync.Proofs.Yaml.KeyOrder

/-!
# The saved manifest is a fixed point

A second run that reads the manifest a first run has saved finds nothing to change, provided that
the YAML of the manifest is read as it was written.
-/

set_option autoImplicit false

namespace BuildSync

/-- A manifest that was written is read as JSON that holds the same. -/
def BuildConfig.RoundTrips (bc : BuildConfig) : Prop :=
  ∃ read : Entries,
    ((Text.decode bc.manifestBytes).bind fun text => Yaml.readValue text.toList) =
        some (.map read) ∧
      read.IsJson ∧ (bc.dump .manifest).SameJson (.map read)

/-- The paths lead to one location. -/
def Disk.SamePlace (disk : Disk) (path other : Path) : Prop :=
  ∃ location found found', disk.locate path = .ok (location, found) ∧
    disk.locate other = .ok (location, found')

theorem Disk.not_samePlace {disk : Disk} {path other : Path}
    (h : (disk.locate path).toOption.map Prod.fst ≠ (disk.locate other).toOption.map Prod.fst) :
    ¬disk.SamePlace path other := by
  rintro ⟨location, found, found', hPath, hOther⟩
  exact h (by rw [hPath, hOther]; rfl)

namespace BuildConfig

variable {bc : BuildConfig} (settings : Settings) (job : Job)

theorem kind_updated (bc : BuildConfig) : (reconcile settings job bc).updated.kind = bc.kind := by
  cases hPipeline : bc.pipeline with
  | none => rw [reconcile_of_no_pipeline settings job hPipeline]
  | some strategy =>
    rw [reconcile_of_pipeline settings job hPipeline, updatedBy_eq_rewritten settings hPipeline]
    rfl

end BuildConfig

namespace Command

variable {start next : Start} {arguments more : List String} {request again : ReconcileRequest}
  {out : Path} {doc : Entries}

/-- The job that a run has read is still there when the run has saved a manifest elsewhere. -/
theorem Effect.job_load {code : Nat} {disk : Disk} (h : Effect start request .plain code disk)
    (hCode : code = 2) (hOut : request.out = some out) {job : Job} {bc : BuildConfig}
    {settings : Settings} (hLoads : Loads start request job bc settings)
    (hOther : ¬disk.SamePlace request.job out) : Job.load disk request.job = .ok job := by
  obtain ⟨location, found, hLocated, hGrows⟩ := h.disk_of_two hCode out hOut
  have hRead : disk.read request.job = start.disk.read request.job := by
    cases hBefore : start.disk.read request.job with
    | ok bytes =>
      refine hGrows.read hBefore fun place found' hPlace hSame => hOther ?_
      exact ⟨location, found', found, hSame.1 ▸ hPlace, hLocated⟩
    | error e =>
      have hNotLoaded := hLoads.job
      simp [Job.load, readMapping, hBefore, bind, Except.bind] at hNotLoaded
  rw [← hLoads.job, Job.load, readMapping_congr hRead, Job.load]

/-- The manifest that a run has saved needs no change for the same job and settings. -/
theorem reconcile_saved_manifest (hAsks : Asks arguments request) (hOut : request.out = some out)
    (hDoc : readMapping start.disk request.buildConfig = .ok doc) (hJson : doc.IsJson)
    (hOnce : (Value.map doc).SpellsOnce BuildConfig.allFields)
    (hCode : (run start arguments).exitCode = 2)
    (hYaml : ∀ job bc settings, Loads start request job bc settings →
      (reconcile settings job bc).updated.RoundTrips)
    (hOther : ¬(run start arguments).disk.SamePlace request.job out)
    (hAgain : Asks more again) (hJob : again.job = request.job)
    (hManifest : again.buildConfig = out)
    (hDisk : next.disk = (run start arguments).disk)
    (hSettings : Settings.load next.disk next.env out.parent again.overrides =
      Settings.load start.disk start.env request.buildConfig.parent request.overrides) :
    (run next more).exitCode = 0 ∧ (run next more).disk = next.disk := by
  have hEffect : Effect start request .plain _ _ := effect_run hAsks .plain
  obtain ⟨job, bc, settings, hLoads, _, _, hHolds⟩ :=
    exists_reports_iff.mp (hEffect.code_eq_two_iff.mp hCode)
  have hSaved := (hHolds out hOut).1.read
  obtain ⟨read, hText, hRead, hSame⟩ := hYaml job bc settings hLoads
  -- the first run has read a BuildConfig that can be saved
  obtain ⟨doc', hDoc', hLoaded⟩ := BuildConfig.load_eq_ok_iff.mp hLoads.buildConfig
  obtain rfl : doc = doc' := Except.ok.inj (hDoc.symm.trans hDoc')
  obtain ⟨hCheck, hKind⟩ := (buildConfigOf_eq_ok_iff hJson).mp hLoaded
  have hDocument : (Value.map doc).IsJson := Value.isJson_map_iff.mpr hJson
  have hWellFormed := BuildConfig.ensures_wellFormed _ _ hDocument hCheck
  have hUnshadowed := BuildConfig.ensures_unshadowed _ _ hDocument hOnce hCheck
  -- the second run reads one with the same fields
  obtain ⟨bc', hCheck', hBare⟩ := BuildConfig.exists_read_of_same settings job hWellFormed
    hUnshadowed (Value.isJson_map_iff.mpr hRead) hSame
  have hKind' : bc'.kind = BuildConfig.model := by
    have hSameKind : bc'.bare.kind = (reconcile settings job bc).updated.bare.kind := by rw [hBare]
    exact hSameKind.trans ((BuildConfig.kind_updated settings job bc).trans hKind)
  have hLoads' : Loads next again job bc' settings := by
    refine ⟨?_, ?_, ?_⟩
    · rw [hJob, hDisk]
      exact hEffect.job_load hCode hOut hLoads hOther
    · rw [hManifest, hDisk]
      exact BuildConfig.load_eq_ok_iff.mpr ⟨read, readMapping_of_read hSaved hText hRead,
        (buildConfigOf_eq_ok_iff hRead).mpr ⟨hCheck', hKind'⟩⟩
    · rw [hManifest, hSettings]
      exact hLoads.settings
  have hNext : Effect next again .plain (run next more).exitCode (run next more).disk :=
    effect_run hAgain .plain
  have hUnchanged : (reconcile settings job bc').changed = false := by
    rw [Outcome.changed, BuildConfig.changes_of_same_fields settings job hBare]
    rfl
  have hZero : (run next more).exitCode = 0 := hNext.code_eq_zero_iff.mpr <|
    exists_reports_iff.mpr ⟨job, bc', settings, hLoads', World.prints_plain _, hUnchanged⟩
  exact ⟨hZero, hNext.disk_eq (.inl hZero)⟩

/-! ### A run with documents of texts -/

/-- The manifest of the build, with its keys in order. -/
def scriptManifest : Entries :=
  [(.text "apiVersion", .text BuildConfig.defaultApiVersion),
    (.text "kind", .text BuildConfig.model),
    (.text "metadata", .object [("name", .text "a"), ("namespace", .text "")]),
    (.text "spec", scriptSpec "x")]

theorem isJson_scriptManifest : scriptManifest.IsJson := by
  refine Value.isJson_map_iff.mp (?_ : (Value.object
    [("apiVersion", .text _), ("kind", .text _),
      ("metadata", .object [("name", .text "a"), ("namespace", .text "")]),
      ("spec", scriptSpec "x")]).IsJson)
  simp [scriptSpec]

theorem spellsOnce_scriptDocument :
    (Value.map scriptDocument).SpellsOnce BuildConfig.allFields := by
  unfold scriptDocument scriptSpec Value.object
  repeat'
    first
    | exact .scalar _
    | refine .map (by decide) (List.forall_mem_cons.mpr ⟨?_, ?_⟩)
    | refine List.forall_mem_cons.mpr ⟨?_, ?_⟩
    | exact nofun

/-- The entries that a dump of the build holds. -/
def scriptDump : Entries :=
  [(.text "apiVersion", .text BuildConfig.defaultApiVersion),
    (.text "kind", .text BuildConfig.model),
    (.text "metadata", .object [("namespace", .text ""), ("name", .text "a")]),
    (.text "spec", scriptSpec "x")]

theorem sameJson_scriptDump : (Value.map scriptDump).SameJson (.map scriptManifest) := by
  have hSpec : (scriptSpec "x").SameJson (scriptSpec "x") :=
    Value.IsJson.sameJson_self (by simp [scriptSpec])
  have hMetadata : (Value.object [("namespace", .text ""), ("name", .text "a")]).SameJson
      (.object [("name", .text "a"), ("namespace", .text "")]) := by
    refine .map fun key => ?_
    simp only [List.map, Entries.get?]
    by_cases hName : Key.text "name" = key
    · subst hName
      exact .some (.scalar _)
    · simp only [if_neg hName]
      exact Value.rel_sameJson_self fun v hGet => by
        split at hGet <;> cases hGet; exact .scalar _
  refine .map fun key => ?_
  simp only [scriptDump, scriptManifest, Entries.get?]
  split
  · exact .some (.scalar _)
  split
  · exact .some (.scalar _)
  split
  · exact .some hMetadata
  · exact Value.rel_sameJson_self fun v hGet => by
      split at hGet <;> cases hGet; exact hSpec

/-- The file that the build is saved to. -/
def scriptFile : String :=
  "apiVersion: build.openshift.io/v1\nkind: BuildConfig\nmetadata:\n  name: a\n  namespace: ''\n" ++
    "spec:\n  strategy:\n    jenkinsPipelineStrategy:\n      jenkinsfile: x\n"

theorem sortKeys_scriptDump : Yaml.sortKeys (.map scriptDump) = .map scriptManifest := by
  have hMetadata : Yaml.sortKeys (.object [("namespace", .text ""), ("name", .text "a")]) =
      .object [("name", .text "a"), ("namespace", .text "")] := by
    simp only [Value.object, List.map, Yaml.sortKeys, Yaml.sortKeysEntries]
    have hKeys : ["name", "namespace"].Pairwise (· < ·) := by decide
    exact congrArg Value.map (Yaml.mergeSort_keys (.swap _ _ _) hKeys)
  have hSpec : Yaml.sortKeys (scriptSpec "x") = scriptSpec "x" := by
    simp only [scriptSpec, Value.object, List.map, Yaml.sortKeys, Yaml.sortKeysEntries,
      List.mergeSort_singleton]
  simp only [scriptDump, Yaml.sortKeys, Yaml.sortKeysEntries, hMetadata, hSpec]
  -- the other keys of the build are in order
  have hKeys : ["apiVersion", "kind", "metadata", "spec"].Pairwise (· < ·) := by decide
  exact congrArg Value.map (Yaml.mergeSort_keys (.refl _) hKeys)

theorem write_scriptDump : Yaml.write scriptDump = scriptFile := by
  rw [Yaml.write, sortKeys_scriptDump]
  decide +kernel

theorem readValue_scriptFile :
    Yaml.readValue scriptFile.toList = some (.map scriptManifest) :=
  Value.eq_some_of_same (by decide +kernel)

theorem roundTrips_scriptBuild : (scriptBuild "x").RoundTrips := by
  have hBytes : (scriptBuild "x").manifestBytes = scriptFile.toUTF8 :=
    congrArg String.toUTF8 write_scriptDump
  have hText : Text.decode scriptFile.toUTF8 = some scriptFile := by decide +kernel
  refine ⟨scriptManifest, ?_, isJson_scriptManifest, sameJson_scriptDump⟩
  rw [hBytes, hText, Option.bind_some, readValue_scriptFile]

theorem run_reconcile_saved_manifest :
    let first := run scriptStart ["reconcile", "j", "b", "--out", "o"]
    let second := run { scriptStart with disk := first.disk } ["reconcile", "j", "o"]
    first.exitCode = 2 ∧ second.exitCode = 0 ∧ second.disk = first.disk := by
  have hAsks : Asks ["reconcile", "j", "b", "--out", "o"] (saveRequest "o") := ⟨0, _, rfl, rfl⟩
  have hAgain : Asks ["reconcile", "j", "o"]
    ⟨Path.ofString "j", Path.ofString "o", none, false, false⟩ := ⟨0, _, rfl, rfl⟩
  have hLoads := loads_scriptStart "o"
  obtain ⟨hDisk, hEnds, _⟩ := run_script hAsks hLoads (World.prints_plain _)
  have hCode := hEnds rfl (World.prints_plain _)
  have hYaml : ∀ job bc settings, Loads scriptStart (saveRequest "o") job bc settings →
      (reconcile settings job bc).updated.RoundTrips := by
    intro job bc settings hOther
    obtain ⟨rfl, rfl, rfl⟩ := hLoads.unique hOther
    exact roundTrips_scriptBuild
  have hApart : ¬(run scriptStart ["reconcile", "j", "b", "--out", "o"]).disk.SamePlace
      (Path.ofString "j") (Path.ofString "o") := by
    rw [hDisk]
    exact Disk.not_samePlace (by decide)
  -- the second run starts from any disk here: the one of the first run is not to be computed
  have hNext (disk : Disk) : ({ scriptStart with disk } : Start).disk = disk := rfl
  have hSettings (disk : Disk) (hText : envFileText disk (Path.ofString "o").parent = .ok "") :
      Settings.load ({ scriptStart with disk } : Start).disk ({ scriptStart with disk } : Start).env
        (Path.ofString "o").parent [] = .ok .defaults := Settings.load_eq_defaults hText
  obtain ⟨hZero, hSame⟩ := reconcile_saved_manifest hAsks rfl (readMapping_scriptBuild rfl)
    isJson_scriptDocument spellsOnce_scriptDocument hCode hYaml hApart hAgain rfl rfl (hNext _)
    ((hSettings _ (by rw [hDisk]; rfl)).trans hLoads.settings.symm)
  exact ⟨hCode, hZero, hSame.trans (hNext _)⟩

end Command

end BuildSync
