import BuildSync.Loading
import BuildSync.Proofs.Job.Reload
import BuildSync.Proofs.Job.Same
import BuildSync.Proofs.Sync.RoundTrip
import BuildSync.Proofs.Yaml.KeyOrder

/-!
# Jobs and their documents

A job that is read from a document is written to one that is read as the same job, and so is its
definition alone, which stands under its key in the document of a job. Only an extension that is
nested too deep stands in the way. A printed definition has its keys in order; where its YAML is
read as what was written, the definition is the same but for the order of keys in its extensions.
-/

set_option autoImplicit false

namespace BuildSync

/-! ### Manifests -/

theorem Definition.dumpFault?_eq (d : Definition) :
    d.dumpFault? = d.extensions.findSome? Entries.dumpFault? := by
  cases d with
  | inline script sandbox => rfl
  | scm checkout path => cases checkout <;> rfl
  | unsupported className => rfl

theorem Job.dumpFault?_eq (job : Job) :
    job.dumpFault? = job.extensions.findSome? Entries.dumpFault? := by
  obtain ⟨fullName, definition, branch⟩ := job
  have hDefinition : definition.bind Definition.dumpFault? =
      (definition.elim [] Definition.extensions).findSome? Entries.dumpFault? := by
    cases definition with
    | none => rfl
    | some d => exact d.dumpFault?_eq
  have hBranch : ((branch.bind BranchProperty.checkout).bind Checkout.git?).bind
      GitCheckout.dumpFault? =
        (branch.elim [] BranchProperty.extensions).findSome? Entries.dumpFault? := by
    rcases branch with _ | ⟨name, _ | ⟨scm | className⟩⟩ <;> rfl
  rw [dumpFault?, extensions, List.findSome?_append, ← hDefinition, ← hBranch,
    Option.orElse_eq_orElse, Option.orElse_eq_or]

/-- The document that a definition is written to, or why there is none. -/
def Definition.manifest (d : Definition) : Except DumpFault Value :=
  match d.dumpFault? with
  | some fault => .error fault
  | none => .ok (d.dump .manifest)

def Job.manifest (job : Job) : Except DumpFault Value :=
  match job.dumpFault? with
  | some fault => .error fault
  | none => .ok (job.dump .manifest)

theorem Definition.manifest_eq {d : Definition} (h : AllJson d.extensions) :
    d.manifest = if AllShallow d.extensions then .ok (d.dump .manifest) else .error .tooDeep := by
  rw [manifest, dumpFault?_eq]
  exact dumpCarrying_eq h (d.dump .manifest)

theorem Job.manifest_eq {job : Job} (h : AllJson job.extensions) :
    job.manifest =
      if AllShallow job.extensions then .ok (job.dump .manifest) else .error .tooDeep := by
  rw [manifest, dumpFault?_eq]
  exact dumpCarrying_eq h (job.dump .manifest)

/-! ### Definitions in the document of a job -/

theorem Definition.isNull_of_check {v : Value} {d : Definition} (h : check v = .ok d) :
    v.isNull = false := by
  refine Bool.eq_false_iff.mpr fun hNull => ?_
  rw [Value.isNull_iff.mp hNull] at h
  cases h

theorem Job.check_definition {v : Value} {d : Definition} (hJson : v.IsJson)
    (h : Definition.check v = .ok d) :
    check (.object [("definition", v)]) = .ok ⟨"", some d, none⟩ := by
  have hGiven : v.given? = some v := Value.given?_eq_some_iff.mpr ⟨rfl, Definition.isNull_of_check h⟩
  have hObject : (Value.object [("definition", v)]).IsJson := by simp [hJson]
  refine (check_eq_ok_iff (Value.isJson_map_iff.mp hObject)).mpr ⟨rfl, ?_, rfl, rfl⟩
  exact Entries.optional_eq_ok_iff.mpr (.inr ⟨v, d, hGiven, h, rfl⟩)

/-- Written by itself, the definition is read as the same one in the document of a job. Its YAML is
read as one that is the same up to the order of keys, if it is read as what was written. -/
structure Definition.Reloads (d : Definition) : Prop where
  manifest : d.manifest = .ok (d.dump .manifest)
  check : Job.check (.object [("definition", d.dump .manifest)]) = .ok ⟨"", some d, none⟩
  printed : ∀ read, Yaml.readValue (writeDefinition d).toList = some read → read.IsJson →
    (d.dump .manifest).SameJson read →
      ∃ other, Job.check (.object [("definition", read)]) = .ok ⟨"", some other, none⟩ ∧
        d.Same other

theorem Definition.reloads {d : Definition} (hJson : AllJson d.extensions)
    (hShallow : AllShallow d.extensions) : d.Reloads := by
  have hCheck := check_dump hJson
  refine ⟨?_, Job.check_definition (isJson_dump hJson) hCheck, ?_⟩
  · rw [manifest_eq hJson, if_pos hShallow]
  · intro read _ hRead hSame
    obtain ⟨other, hOther, hSameDefinition⟩ :=
      relates_check _ read d (isJson_dump hJson) hRead hSame hCheck
    exact ⟨other, Job.check_definition hRead hOther, hSameDefinition⟩

/-- What is mapped has no extensions. -/
theorem extensions_of_mapped {settings : Settings} {bridge : Option Bridge} {bc : BuildConfig}
    {d : Definition} (h : (mapDefinition settings bridge bc).definition = some d) :
    d.extensions = [] := by
  cases hPipeline : bc.pipeline with
  | none =>
    rw [definition_mapDefinition_of_no_pipeline settings bridge hPipeline] at h
    cases h
  | some strategy =>
    rw [definition_mapDefinition settings bridge hPipeline] at h
    split at h
    · cases h
      rfl
    · obtain ⟨uri, _, rfl⟩ := Option.map_eq_some_iff.mp h
      rfl

/-- Jobs and definitions that are read from documents are read again from what they are written to,
unless an extension is nested too deep. A mapped definition always is. -/
theorem check_job_manifest :
    (∀ doc job, Value.IsJson doc → Job.check doc = .ok job →
      (AllShallow job.extensions → ∃ v, job.manifest = .ok v ∧ Job.check v = .ok job) ∧
        (¬AllShallow job.extensions → job.manifest = .error .tooDeep)) ∧
    (∀ doc d, Value.IsJson doc → Definition.check doc = .ok d →
      (AllShallow d.extensions → d.Reloads) ∧
        (¬AllShallow d.extensions → d.manifest = .error .tooDeep)) ∧
    ∀ settings bridge bc d, (mapDefinition settings bridge bc).definition = some d →
      d.Reloads := by
  refine ⟨?_, ?_, ?_⟩
  · intro doc job hDoc hCheck
    have hJson := Job.ensures_json doc job hDoc hCheck
    rw [Job.manifest_eq hJson]
    constructor
    · intro hShallow
      rw [if_pos hShallow]
      exact ⟨_, rfl, Job.check_dump hJson⟩
    · intro hDeep
      rw [if_neg hDeep]
  · intro doc d hDoc hCheck
    have hJson := Definition.ensures_json doc d hDoc hCheck
    refine ⟨Definition.reloads hJson, fun hDeep => ?_⟩
    rw [Definition.manifest_eq hJson, if_neg hDeep]
  · intro settings bridge bc d hMapped
    -- with no extensions, none is other than JSON and none is too deep
    have hNone := extensions_of_mapped hMapped
    exact Definition.reloads (hNone ▸ nofun) (hNone ▸ nofun)

/-! ### Printed scripts -/

/-- What is written for an inline script, with its keys in order. -/
def inlineManifest (script : String) (sandbox : Bool) : Entries :=
  [(.text "kind", .text "inline"), (.text "sandbox", .bool sandbox), (.text "script", .text script)]

theorem isJson_inlineManifest (script : String) (sandbox : Bool) :
    (Value.map (inlineManifest script sandbox)).IsJson := by
  have hSandbox : (Value.bool sandbox).IsJson := .scalar trivial
  have hObject : Value.map (inlineManifest script sandbox) = .object
    [("kind", .text "inline"), ("sandbox", .bool sandbox), ("script", .text script)] := rfl
  rw [hObject]
  simp [hSandbox]

theorem sortKeys_inline (script : String) (sandbox : Bool) :
    Yaml.sortKeys ((Definition.inline script sandbox).dump .manifest) =
      .map (inlineManifest script sandbox) := by
  have hEntries : written (Definition.inlineValues script sandbox) [] =
      [(.text "kind", .text "inline"), (.text "script", .text script),
        (.text "sandbox", .bool sandbox)] := rfl
  have hKeys : ["kind", "sandbox", "script"].Pairwise (· < ·) := by decide
  rw [Definition.dump_inline_eq, hEntries]
  simp only [Yaml.sortKeys, Yaml.sortKeysEntries]
  exact congrArg Value.map (Yaml.mergeSort_keys (.cons _ (.swap _ _ _)) hKeys)

theorem sameJson_inline (script : String) (sandbox : Bool) :
    ((Definition.inline script sandbox).dump .manifest).SameJson
      (.map (inlineManifest script sandbox)) := by
  have hJson := Definition.isJson_dump (d := .inline script sandbox) nofun
  rw [Definition.dump_inline_eq, Value.isJson_map_iff] at hJson
  rw [Definition.dump_inline_eq]
  exact hJson.sameJson_of_perm (.cons _ (.swap _ _ _))

theorem writeDefinition_inline (script : String) (sandbox : Bool) :
    writeDefinition (.inline script sandbox) =
      let page := Yaml.writeEntries true 0 ⟨[], 0⟩ (inlineManifest script sandbox)
      String.ofList ('\n' :: page.written).reverse := by
  have hSorted := sortKeys_inline script sandbox
  rw [Definition.dump_inline_eq] at hSorted
  rw [writeDefinition, Definition.dump_inline_eq]
  simp only [Yaml.write, hSorted]
  rfl

theorem readValue_inline :
    Yaml.readValue (writeDefinition (.inline "x" true)).toList =
      some (.map (inlineManifest "x" true)) := by
  rw [writeDefinition_inline]
  exact Value.eq_some_of_same (by decide +kernel)

theorem check_job_manifest_extension :
    let definition : Value := .object
      [("kind", .text "scm"),
        ("scm", .object
          [("kind", .text "git"),
            ("user_remote_configs", .list [.object [("credentials_id", .text "git-creds")]]),
            ("extensions", .list [.object [("depth", .null), ("paths", .list [.text "ci"])]])]),
        ("script_path", .text "ci/Jenkinsfile")]
    let branch : Value := .object
      [("name", .text "main"), ("scm", .object [("kind", .text "unsupported")])]
    let doc : Value := .object [("definition", definition), ("branch", branch)]
    let bc := (BuildConfig.ofRepository "https://example/repo.git" none none).withScript "x"
    (∃ job v, Job.check doc = .ok job ∧ job.manifest = .ok v ∧ Job.check v = .ok job) ∧
      (∃ d, Definition.check definition = .ok d ∧ d.Reloads) ∧
      ∃ d read other, (mapDefinition .defaults none bc).definition = some d ∧
        Yaml.readValue (writeDefinition d).toList = some read ∧
        Job.check (.object [("definition", read)]) = .ok ⟨"", some other, none⟩ ∧
        d.Same other := by
  intro definition branch doc bc
  have hDefinition : definition.IsJson := by simp [definition]
  have hDoc : doc.IsJson := by simp [doc, hDefinition, branch]
  obtain ⟨hJobs, hDefinitions, hMapped⟩ := check_job_manifest
  refine ⟨?_, ?_, ?_⟩
  · obtain ⟨job, hCheck, hShallow⟩ : ∃ job, Job.check doc = .ok job ∧ AllShallow job.extensions :=
      ⟨_, rfl, by decide⟩
    obtain ⟨v, hManifest, hAgain⟩ := (hJobs doc job hDoc hCheck).1 hShallow
    exact ⟨job, v, hCheck, hManifest, hAgain⟩
  · obtain ⟨d, hCheck, hShallow⟩ :
        ∃ d, Definition.check definition = .ok d ∧ AllShallow d.extensions :=
      ⟨_, rfl, by decide⟩
    exact ⟨d, hCheck, (hDefinitions definition d hDefinition hCheck).1 hShallow⟩
  · have hInline : (mapDefinition .defaults none bc).definition = some (.inline "x" true) := rfl
    obtain ⟨other, hOther, hSame⟩ := (hMapped _ _ _ _ hInline).printed _ readValue_inline
      (isJson_inlineManifest "x" true) (sameJson_inline "x" true)
    exact ⟨_, _, other, hInline, readValue_inline, hOther, hSame⟩

/-! ### What is not read again -/

namespace Job

/-- A document with a checkout that has one value in an extension. -/
def extensionDocument (extra : Value) : Value := .object
  [("fullName", .text ""),
    ("definition", .object
      [("kind", .text "scm"),
        ("scm", .object
          [("kind", .text "git"), ("userRemoteConfigs", .list []), ("branches", .list []),
            ("extensions", .list [.object [("d", extra)]])]),
        ("scriptPath", .text "")])]

def ofExtension (extra : Value) : Job :=
  ⟨"", some (.scm (.git ⟨[], [], [[(.text "d", extra)]]⟩) ""), none⟩

variable {extra : Value} (h : extra.IsJson)

include h

theorem isJson_extensionDocument : (extensionDocument extra).IsJson := by
  simp [extensionDocument, h]

theorem json_ofExtension : AllJson (ofExtension extra).extensions := by
  have hExtension : (Value.object [("d", extra)]).IsJson := by simp [h]
  exact List.forall_mem_singleton.mpr (Value.isJson_map_iff.mp hExtension)

theorem check_extensionDocument : check (extensionDocument extra) = .ok (ofExtension extra) := by
  have hDump : (ofExtension extra).dump .manifest = extensionDocument extra.plain := rfl
  rw [h.plain_eq] at hDump
  rw [← hDump]
  exact check_dump (json_ofExtension h)

theorem manifest_ofExtension_of_deep (hDeep : maxDumpDepth < extra.levels) :
    (ofExtension extra).manifest = .error .tooDeep := by
  have hNotShallow : ¬AllShallow (ofExtension extra).extensions := by
    intro hShallow
    have hLevels := hShallow [(.text "d", extra)] (.head _) (.text "d", extra) (.head _)
    exact Nat.not_lt.mpr hLevels hDeep
  rw [manifest_eq (json_ofExtension h), if_neg hNotShallow]

end Job

/-- An extension that is nested too deep cannot be written, and a script with a next line character
is printed as one that is read with a blank. -/
theorem check_job_manifest_deep :
    (let doc := Job.extensionDocument (.nested 300)
    ∃ job, doc.IsJson ∧ Job.check doc = .ok job ∧ job.manifest = .error .tooDeep) ∧
      ∃ read, Yaml.readValue (writeDefinition (.inline "a\u0085b" true)).toList = some read ∧
        Definition.check read = .ok (.inline "a b" true) := by
  constructor
  · have hNested := Value.isJson_nested 300
    exact ⟨_, Job.isJson_extensionDocument hNested, Job.check_extensionDocument hNested,
      Job.manifest_ofExtension_of_deep hNested (by rw [Value.levels_nested]; decide)⟩
  · refine ⟨.map (inlineManifest "a b" true), ?_, rfl⟩
    rw [writeDefinition_inline]
    exact Value.eq_some_of_same (by decide +kernel)

end BuildSync
