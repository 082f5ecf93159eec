import BuildSync.Proofs.Sync.RoundTrip

/-!
# What a bridge decides

A bridge is asked for the source secret of a build that reads its script from a repository, once,
and decides nothing but the credential of the mapped remote. Reconciling looks for a remote with
the name of the secret for its credential, so it knows a mapped checkout again only where the bridge
gave out that name.
-/

set_option autoImplicit false

namespace BuildSync

/-! ### The credential -/

theorem BridgeReply.id?_result_eq_some_iff {reply : BridgeReply} {id : String} :
    reply.result.id? = some id ↔ reply = .answer (.resolved id) := by
  cases reply with
  | answer result => cases result <;> simp [BridgeReply.result, CredentialResult.id?]
  | refuse refusal => simp [BridgeReply.result, CredentialResult.id?]
  | breakdown kind text => simp [BridgeReply.result, CredentialResult.id?]

section FindCredential

variable {bc : BuildConfig} {secret : SecretReference}

theorem findCredential_of_secret (hSecret : bc.sourceSecret = some secret) (ask : Bridge) :
    findCredential (some ask) bc =
      some ⟨(ask secret.name bc.metadata).result, [⟨secret.name, bc.metadata⟩]⟩ := by
  have hBound : bc.source.bind BuildSource.sourceSecret = some secret := hSecret
  simp only [findCredential, Bridge.consult, hBound]

theorem findCredential_of_no_secret (hSecret : bc.sourceSecret = none) (bridge : Option Bridge) :
    findCredential bridge bc = none := by
  have hBound : bc.source.bind BuildSource.sourceSecret = none := hSecret
  simp only [findCredential, hBound]

theorem findCredential_of_no_bridge (bc : BuildConfig) : findCredential none bc = none := by
  unfold findCredential
  split <;> simp_all

end FindCredential

/-- A credential is given out exactly where a bridge answers with it. -/
theorem credentialId?_eq_some_iff {bridge : Option Bridge} {bc : BuildConfig} {id : String} :
    credentialId? bridge bc = some id ↔
      ∃ secret ask, bc.sourceSecret = some secret ∧ bridge = some ask ∧
        ask secret.name bc.metadata = .answer (.resolved id) := by
  unfold credentialId?
  cases bridge with
  | none => simp [findCredential_of_no_bridge]
  | some ask =>
    cases hSecret : bc.sourceSecret with
    | none => simp [findCredential_of_no_secret hSecret]
    | some secret =>
      simp [findCredential_of_secret hSecret, BridgeReply.id?_result_eq_some_iff]

/-! ### Mapping under any bridge -/

namespace BuildConfig

/-- A pipeline build without an inline script whose repository is checked out with a secret. -/
structure ChecksOutWith (bc : BuildConfig) (secret : SecretReference) : Prop where
  noScript : ∃ strategy, bc.pipeline = some strategy ∧ nonempty strategy.script = none
  repository : ∃ git uri, bc.git = some git ∧ nonempty git.uri = some uri
  secret : bc.sourceSecret = some secret

theorem tracked_uri_eq_some_iff {bc : BuildConfig} {uri : String} :
    bc.tracked .uri = some uri ↔ ∃ git, bc.git = some git ∧ nonempty git.uri = some uri := by
  cases hGit : bc.git <;> simp [tracked, hGit]

theorem checksOutWith_iff {bc : BuildConfig} {strategy : PipelineStrategy}
    (h : bc.pipeline = some strategy) (secret : SecretReference) :
    bc.ChecksOutWith secret ↔
      bc.tracked .script = none ∧ (∃ uri, bc.tracked .uri = some uri) ∧
        bc.sourceSecret = some secret := by
  have hScript : bc.tracked .script = nonempty strategy.script := by simp [tracked, h]
  simp only [tracked_uri_eq_some_iff, hScript]
  constructor
  · rintro ⟨⟨strategy', h', hNone⟩, ⟨git, uri, hUri⟩, hSecret⟩
    cases h.symm.trans h'
    exact ⟨hNone, ⟨uri, git, hUri⟩, hSecret⟩
  · rintro ⟨hNone, ⟨uri, git, hUri⟩, hSecret⟩
    exact ⟨⟨strategy, h, hNone⟩, ⟨git, uri, hUri⟩, hSecret⟩

end BuildConfig

/-- The definition with the same credential, or none, for all its remotes. -/
def Definition.withCredential (id : Option String) : Definition → Definition
  | .scm (.git checkout) path =>
    .scm (.git { checkout with
      remotes := checkout.remotes.map fun remote => { remote with credentialsId := id } }) path
  | definition => definition

section Mapping

variable (settings : Settings) (bridge : Option Bridge) (bc : BuildConfig)

theorem definition_mapDefinition_withCredential (other : Option Bridge) :
    (mapDefinition settings bridge bc).definition =
      (mapDefinition settings other bc).definition.map
        (Definition.withCredential (credentialId? bridge bc)) := by
  cases h : bc.pipeline with
  | none => simp [definition_mapDefinition_of_no_pipeline, h]
  | some strategy =>
    rw [definition_mapDefinition settings bridge h, definition_mapDefinition settings other h]
    cases bc.tracked .script with
    | some script => rfl
    | none => cases bc.tracked .uri <;> rfl

theorem remotes_of_mapped {settings : Settings} {bridge : Option Bridge} {bc : BuildConfig}
    {scm : GitCheckout} {path : String}
    (h : (mapDefinition settings bridge bc).definition = some (.scm (.git scm) path)) :
    ∃ remote, scm.remotes = [remote] ∧ remote.credentialsId = credentialId? bridge bc := by
  obtain ⟨strategy, hPipeline⟩ := pipeline_of_mapped h
  rw [definition_mapDefinition settings bridge hPipeline] at h
  split at h
  · cases h
  · obtain ⟨uri, _, hMapped⟩ := Option.map_eq_some_iff.mp h
    cases hMapped
    exact ⟨_, rfl, rfl⟩

theorem lookups_findCredential :
    ((findCredential bridge bc).map Resolution.lookups).getD [] =
      if bridge.isSome then
        (bc.sourceSecret.map fun secret => (⟨secret.name, bc.metadata⟩ : Lookup)).toList
      else [] := by
  cases bridge with
  | none => simp [findCredential_of_no_bridge]
  | some ask =>
    cases hSecret : bc.sourceSecret with
    | none => simp [findCredential_of_no_secret hSecret]
    | some secret => simp [findCredential_of_secret hSecret]

theorem lookups_mapDefinition {strategy : PipelineStrategy} (h : bc.pipeline = some strategy) :
    (mapDefinition settings bridge bc).lookups =
      if bridge.isSome = true ∧ bc.tracked .script = none ∧ (bc.tracked .uri).isSome = true then
        (bc.sourceSecret.map fun secret => (⟨secret.name, bc.metadata⟩ : Lookup)).toList
      else [] := by
  rw [mapDefinition_eq settings bridge h]
  cases bc.tracked .script with
  | some script => simp
  | none =>
    cases bc.tracked .uri with
    | none => simp
    | some uri => simp [lookups_findCredential]

theorem length_lookups_le_one : (mapDefinition settings bridge bc).lookups.length ≤ 1 := by
  cases h : bc.pipeline with
  | none => simp [mapDefinition, h]
  | some strategy =>
    rw [lookups_mapDefinition settings bridge bc h]
    split
    · cases bc.sourceSecret <;> simp
    · simp

theorem mem_lookups_iff (lookup : Lookup) :
    lookup ∈ (mapDefinition settings bridge bc).lookups ↔
      bridge.isSome = true ∧
        ∃ secret, bc.ChecksOutWith secret ∧ lookup = ⟨secret.name, bc.metadata⟩ := by
  cases h : bc.pipeline with
  | none =>
    simp only [mapDefinition, h, List.not_mem_nil, false_iff, not_and, not_exists]
    rintro - secret ⟨⟨strategy, hPipeline, _⟩, _, _⟩
    rw [h] at hPipeline
    cases hPipeline
  | some strategy =>
    simp only [lookups_mapDefinition settings bridge bc h, BuildConfig.checksOutWith_iff h,
      ← Option.isSome_iff_exists]
    split
    · rename_i hAsked
      simp only [hAsked, true_and, Option.mem_toList, Option.map_eq_some_iff]
      exact exists_congr fun secret => and_congr_right fun _ => eq_comm
    · rename_i hNotAsked
      refine iff_of_false List.not_mem_nil ?_
      rintro ⟨hBridge, secret, ⟨hScript, hUri, _⟩, _⟩
      exact hNotAsked ⟨hBridge, hScript, hUri⟩

end Mapping

/-- Two bridges lead to the same definition but for the credential of its one remote: the id that
the bridge answers with, and none where there is no bridge or where it refuses or breaks down. The
bridge is asked at most once, for the source secret in the name of the BuildConfig, and exactly
where a repository is checked out with one. -/
theorem mapDefinition_under_bridges (settings : Settings) (bridge other : Option Bridge)
    (bc : BuildConfig) :
    let mapped := mapDefinition settings bridge bc
    mapped.definition = (mapDefinition settings other bc).definition.map
        (Definition.withCredential (credentialId? bridge bc)) ∧
      (∀ scm path, mapped.definition = some (.scm (.git scm) path) →
        ∃ remote, scm.remotes = [remote] ∧ remote.credentialsId = credentialId? bridge bc) ∧
      (∀ id, credentialId? bridge bc = some id ↔
        ∃ secret ask, bc.sourceSecret = some secret ∧ bridge = some ask ∧
          ask secret.name bc.metadata = .answer (.resolved id)) ∧
      mapped.lookups.length ≤ 1 ∧
      ∀ lookup, lookup ∈ mapped.lookups ↔
        bridge.isSome = true ∧
          ∃ secret, bc.ChecksOutWith secret ∧ lookup = ⟨secret.name, bc.metadata⟩ := by
  intro mapped
  refine ⟨definition_mapDefinition_withCredential settings bridge bc other, ?_, ?_,
    length_lookups_le_one settings bridge bc, mem_lookups_iff settings bridge bc⟩
  · intro scm path hMapped
    exact remotes_of_mapped hMapped
  · intro id
    exact credentialId?_eq_some_iff

/-! ### A mapped checkout and its secret -/

section SourceSecret

variable {settings : Settings} {bridge : Option Bridge} {bc : BuildConfig}
  {secret : SecretReference} {scm : GitCheckout} {path : String}

theorem ensureSecret_of_secret (hSecret : bc.sourceSecret = some secret) (scm : GitCheckout) :
    ensureSecret bc.source scm =
      if scm.carries secret.name then scm
      else scm.addRemote { Remote.empty with credentialsId := some secret.name } := by
  have hBound : bc.source.bind BuildSource.sourceSecret = some secret := hSecret
  simp only [ensureSecret, missingSecret, hBound]
  cases scm.carries secret.name <;> rfl

/-- Reconciling knows a mapped checkout again where the bridge gave out the name of the secret. -/
theorem scm_of_mapped (hSecret : bc.sourceSecret = some secret)
    (hMapped : (mapDefinition settings bridge bc).definition = some (.scm (.git scm) path))
    (settings' : Settings) (fullName : String) (branch : Option BranchProperty) :
    (reconcile settings' ⟨fullName, some (.scm (.git scm) path), branch⟩ bc).scm =
      some (if credentialId? bridge bc = some secret.name then scm
        else scm.addRemote { Remote.empty with credentialsId := some secret.name }) := by
  obtain ⟨strategy, hPipeline⟩ := pipeline_of_mapped hMapped
  obtain ⟨remote, hRemotes, hCredential⟩ := remotes_of_mapped hMapped
  have hCarries : scm.carries secret.name = true ↔ credentialId? bridge bc = some secret.name := by
    simp [GitCheckout.carries, hRemotes, hCredential]
  rw [reconcile_of_pipeline settings' _ hPipeline]
  simp only [Job.scriptCheckout, Checkout.git?, Option.map_some, ensureSecret_of_secret hSecret,
    hCarries]

theorem GitCheckout.addRemote_ne_self (scm : GitCheckout) (remote : Remote) :
    scm.addRemote remote ≠ scm := by
  intro h
  simpa [addRemote] using congrArg (fun scm => scm.remotes.length) h

end SourceSecret

namespace SecretNames

/-- An id with a namespace in front is never the name of the secret. -/
theorem eq_name_iff_of_resolve {names : SecretNames} {secret id : String} {owner : ObjectMeta}
    (h : names.resolve secret owner = .resolved id) :
    id = secret ↔ names.namespaced = false ∨ owner.space = "" := by
  unfold resolve at h
  split at h
  · cases h
  · split at h
    · rename_i hPrefixed
      cases h
      have hSpace : names.namespaced = true ∧ owner.space ≠ "" := by simpa using hPrefixed
      simp [hSpace]
    · rename_i hBare
      cases h
      simpa [Decidable.or_iff_not_imp_left] using hBare

end SecretNames

theorem credentialId?_secretNames {names : SecretNames} {bc : BuildConfig}
    {secret : SecretReference} {id : String} (hSecret : bc.sourceSecret = some secret)
    (hResolved : names.resolve secret.name bc.metadata = .resolved id) :
    credentialId? (some names.bridge) bc = some id := by
  rw [credentialId?_eq_some_iff]
  exact ⟨secret, names.bridge, hSecret, rfl, congrArg BridgeReply.answer hResolved⟩

/-- A checkout that was mapped with the credential of a source secret comes back as it was exactly
where the id of the credential has no namespace in front. Otherwise a remote is appended that holds
the bare name of the secret for its credential, which is not its id. -/
theorem scm_of_mapped_with_secret {settings : Settings} {names : SecretNames} {bc : BuildConfig}
    {secret : SecretReference} {id : String} {scm : GitCheckout} {path : String}
    (hSecret : bc.sourceSecret = some secret)
    (hResolved : names.resolve secret.name bc.metadata = .resolved id)
    (hMapped : (mapDefinition settings (some names.bridge) bc).definition =
      some (.scm (.git scm) path))
    (settings' : Settings) (fullName : String) (branch : Option BranchProperty) :
    let outcome := reconcile settings' ⟨fullName, some (.scm (.git scm) path), branch⟩ bc
    (outcome.scm = some scm ↔ names.namespaced = false ∨ bc.metadata.space = "") ∧
      (outcome.scm ≠ some scm →
        id ≠ secret.name ∧
          outcome.scm =
            some (scm.addRemote { Remote.empty with credentialsId := some secret.name })) := by
  intro outcome
  have hScm := scm_of_mapped hSecret hMapped settings' fullName branch
  simp only [credentialId?_secretNames hSecret hResolved, Option.some_inj] at hScm
  have hNamed := SecretNames.eq_name_iff_of_resolve hResolved
  by_cases hId : id = secret.name
  · rw [if_pos hId] at hScm
    exact ⟨iff_of_true hScm (hNamed.mp hId), fun hOther => absurd hScm hOther⟩
  · rw [if_neg hId] at hScm
    refine ⟨iff_of_false ?_ (mt hNamed.mpr hId), fun _ => ⟨hId, hScm⟩⟩
    intro hSame
    exact scm.addRemote_ne_self _ (Option.some_inj.mp (hScm.symm.trans hSame))

def BuildConfig.withSecret (bc : BuildConfig) (name : String) : BuildConfig :=
  bc.withSource { bc.sourceOrEmpty with sourceSecret := some ⟨name, []⟩ }

theorem scm_of_mapped_with_secret_bare :
    let bc := (BuildConfig.ofRepository "https://example/repo.git" (some "main") none).withSecret
      "git-creds"
    let names : SecretNames := ⟨false, some ["git-creds"]⟩
    ∃ scm path, (mapDefinition .defaults (some names.bridge) bc).definition =
        some (.scm (.git scm) path) ∧
      (reconcile .defaults ⟨"", some (.scm (.git scm) path), none⟩ bc).scm = some scm := by
  intro bc names
  have hSecret : bc.sourceSecret = some ⟨"git-creds", []⟩ := rfl
  have hResolved : names.resolve "git-creds" bc.metadata = .resolved "git-creds" := by
    decide +kernel
  obtain ⟨scm, path, hMapped⟩ : ∃ scm path,
      (mapDefinition .defaults (some names.bridge) bc).definition = some (.scm (.git scm) path) :=
    ⟨_, _, rfl⟩
  refine ⟨scm, path, hMapped, ?_⟩
  exact (scm_of_mapped_with_secret hSecret hResolved hMapped .defaults "" none).1.mpr (Or.inl rfl)

theorem scm_of_mapped_namespaced :
    let bc := (BuildConfig.ofRepository "https://example/repo.git" (some "main") none).withSecret
      "git-creds"
    let names : SecretNames := ⟨true, none⟩
    ∃ scm path, (mapDefinition .defaults (some names.bridge) bc).definition =
        some (.scm (.git scm) path) ∧
      names.resolve "git-creds" bc.metadata = .resolved "ci-git-creds" ∧
      (reconcile .defaults ⟨"", some (.scm (.git scm) path), none⟩ bc).scm.map
          GitCheckout.remotes =
        some [⟨some "https://example/repo.git", none, some "main", some "ci-git-creds"⟩,
          ⟨none, none, none, some "git-creds"⟩] :=
  ⟨_, _, rfl, by decide +kernel, by decide +kernel⟩

end BuildSync
