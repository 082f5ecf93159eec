import BuildSync.Proofs.Sync.Credential

/-!
# Credential ids of namespaces

The id of a namespaced credential is the name of its secret behind its namespace and a dash. Dashes
may stand in namespaces and in names as well, so two secrets can come to one id, but only where the
name of one of them spells out the end of the other's namespace.
-/

set_option autoImplicit false

namespace BuildSync

namespace SecretNames

/-- What stands in front of the names of secrets in the ids of a namespace. -/
def lead (space : String) : String := if space = "" then "" else space ++ "-"

/-- The other namespace is this one and the front of this secret's name, up to a dash; what follows
the dash is the name of the other secret. -/
def SpellsOut (space secret otherSpace otherSecret : String) : Prop :=
  ∃ front, otherSpace = lead space ++ front ∧ otherSpace ≠ "" ∧ secret = front ++ "-" ++ otherSecret

theorem resolve_namespaced (secret : String) (owner : ObjectMeta) :
    resolve ⟨true, none⟩ secret owner = .resolved (lead owner.space ++ secret) := by
  by_cases hSpace : owner.space = "" <;> simp [resolve, knows, lead, hSpace]

theorem append_eq_append_iff {a b c d : String} :
    a ++ b = c ++ d ↔ (∃ x, c = a ++ x ∧ b = x ++ d) ∨ ∃ x, a = c ++ x ∧ d = x ++ b := by
  have hText : ∀ P : List Char → Prop, (∃ x : List Char, P x) ↔ ∃ x : String, P x.toList :=
    fun P => ⟨fun ⟨x, hx⟩ => ⟨.ofList x, by rwa [String.toList_ofList]⟩, fun ⟨x, hx⟩ => ⟨_, hx⟩⟩
  simp only [← String.toList_inj, String.toList_append, List.append_eq_append_iff, hText]

theorem lead_eq_empty_iff {space : String} : lead space = "" ↔ space = "" := by
  unfold lead
  split <;> simp [*]

theorem lead_injective {space other : String} (h : lead space = lead other) : space = other := by
  by_cases hOther : other = ""
  · subst hOther
    exact lead_eq_empty_iff.mp h
  · have hSpace : space ≠ "" := by
      rintro rfl
      exact hOther (lead_eq_empty_iff.mp h.symm)
    simpa [lead, hSpace, hOther] using h

theorem dash_eq_append_iff {a b : String} :
    "-" = a ++ b ↔ a = "" ∧ b = "-" ∨ a = "-" ∧ b = "" := by
  have hDash : "-".toList = ['-'] := rfl
  have hEmpty : "".toList = [] := rfl
  simp only [← String.toList_inj, String.toList_append, hDash, hEmpty]
  exact List.singleton_eq_append_iff

/-- A lead that goes on beyond another one ends with a dash of its own. -/
theorem lead_eq_append_iff {space other tail : String} :
    lead other = lead space ++ tail ↔
      other = space ∧ tail = "" ∨
        ∃ front, tail = front ++ "-" ∧ other = lead space ++ front ∧ other ≠ "" := by
  constructor
  · intro h
    by_cases hOther : other = ""
    · have hEmpty : lead space = "" ∧ tail = "" := by
        rw [lead_eq_empty_iff.mpr hOther] at h
        exact String.append_eq_empty_iff.mp h.symm
      exact .inl ⟨hOther.trans (lead_eq_empty_iff.mp hEmpty.1).symm, hEmpty.2⟩
    · have hLead : lead other = other ++ "-" := if_neg hOther
      -- the other lead ends in its dash, within this lead or beyond it
      rcases append_eq_append_iff.mp (hLead.symm.trans h) with
        ⟨x, hSpace, hDash⟩ | ⟨x, hSpace, hTail⟩
      · rcases dash_eq_append_iff.mp hDash with ⟨rfl, rfl⟩ | ⟨rfl, rfl⟩
        · exact .inr ⟨"", rfl, by simpa using hSpace.symm, hOther⟩
        · exact .inl ⟨lead_injective (hLead.trans hSpace.symm), rfl⟩
      · exact .inr ⟨x, hTail, hSpace, hOther⟩
  · rintro (⟨rfl, rfl⟩ | ⟨front, rfl, rfl, hOther⟩)
    · exact String.append_empty.symm
    · rw [lead, if_neg hOther, String.append_assoc]

/-- What a longer lead takes from a secret's name is nothing, or spells out a namespace. -/
theorem exists_lead_eq_append_iff {space secret otherSpace otherSecret : String} :
    (∃ tail, lead otherSpace = lead space ++ tail ∧ secret = tail ++ otherSecret) ↔
      space = otherSpace ∧ secret = otherSecret ∨
        SpellsOut space secret otherSpace otherSecret := by
  simp only [lead_eq_append_iff, SpellsOut]
  constructor
  · rintro ⟨tail, ⟨rfl, rfl⟩ | ⟨front, rfl, hSpace, hOther⟩, hSecret⟩
    · exact .inl ⟨rfl, hSecret.trans String.empty_append⟩
    · exact .inr ⟨front, hSpace, hOther, hSecret⟩
  · rintro (⟨rfl, rfl⟩ | ⟨front, hSpace, hOther, hSecret⟩)
    · exact ⟨"", .inl ⟨rfl, rfl⟩, String.empty_append.symm⟩
    · exact ⟨front ++ "-", .inr ⟨front, rfl, hSpace, hOther⟩, hSecret⟩

theorem lead_append_eq_iff {space secret otherSpace otherSecret : String} :
    lead space ++ secret = lead otherSpace ++ otherSecret ↔
      (space = otherSpace ∧ secret = otherSecret) ∨
        SpellsOut space secret otherSpace otherSecret ∨
        SpellsOut otherSpace otherSecret space secret := by
  rw [append_eq_append_iff, exists_lead_eq_append_iff, exists_lead_eq_append_iff]
  grind

/-- A name is never longer than itself, so equally named secrets spell out no namespace. -/
theorem SpellsOut.secret_ne {space secret otherSpace otherSecret : String}
    (h : SpellsOut space secret otherSpace otherSecret) : secret ≠ otherSecret := by
  obtain ⟨front, _, _, rfl⟩ := h
  intro hSame
  have hLength := congrArg String.length hSame
  simp only [String.length_append] at hLength
  have hDash : "-".length = 1 := rfl
  omega

end SecretNames

/-- The build is checked out with the credential. -/
def MapsWithCredential (settings : Settings) (bridge : Option Bridge) (bc : BuildConfig)
    (id : String) : Prop :=
  ∃ scm path remote, (mapDefinition settings bridge bc).definition = some (.scm (.git scm) path) ∧
    scm.remotes = [remote] ∧ remote.credentialsId = some id

namespace BuildConfig.ChecksOutWith

variable {bc : BuildConfig} {secret : SecretReference} (h : bc.ChecksOutWith secret)

include h

theorem exists_mapped (settings : Settings) (bridge : Option Bridge) :
    ∃ scm path, (mapDefinition settings bridge bc).definition = some (.scm (.git scm) path) := by
  obtain ⟨strategy, hPipeline, _⟩ := h.noScript
  obtain ⟨hScript, ⟨uri, hUri⟩, _⟩ := (checksOutWith_iff hPipeline secret).mp h
  rw [definition_mapDefinition settings bridge hPipeline, hScript, hUri]
  exact ⟨_, _, rfl⟩

theorem mapsWithCredential_iff (settings : Settings) (names : SecretNames) {id : String} :
    MapsWithCredential settings (some names.bridge) bc id ↔
      names.resolve secret.name bc.metadata = .resolved id := by
  obtain ⟨scm, path, hMapped⟩ := h.exists_mapped settings (some names.bridge)
  obtain ⟨remote, hRemotes, hCredential⟩ := remotes_of_mapped hMapped
  have hCarried : MapsWithCredential settings (some names.bridge) bc id ↔
      credentialId? (some names.bridge) bc = some id := by
    simp [MapsWithCredential, hMapped, hRemotes, hCredential]
  rw [hCarried, credentialId?_eq_some_iff]
  simp [h.secret, SecretNames.bridge]

end BuildConfig.ChecksOutWith

/-- Two builds are checked out with one credential exactly where they have the same secret of the
same namespace, or where the name of one secret spells out the end of the other's namespace. Secrets
of one name are kept apart by their namespaces. -/
theorem credential_eq_iff_of_namespaced {bc other : BuildConfig}
    {secret otherSecret : SecretReference} (h : bc.ChecksOutWith secret)
    (hOther : other.ChecksOutWith otherSecret) (settings otherSettings : Settings) :
    let bridge := some (SecretNames.bridge ⟨true, none⟩)
    ∃ id otherId, MapsWithCredential settings bridge bc id ∧
      MapsWithCredential otherSettings bridge other otherId ∧
      (id = otherId ↔
        (bc.metadata.space = other.metadata.space ∧ secret.name = otherSecret.name) ∨
          SecretNames.SpellsOut bc.metadata.space secret.name
            other.metadata.space otherSecret.name ∨
          SecretNames.SpellsOut other.metadata.space otherSecret.name
            bc.metadata.space secret.name) ∧
      (id = otherId → secret.name = otherSecret.name →
        bc.metadata.space = other.metadata.space) := by
  intro bridge
  have hResolved := SecretNames.resolve_namespaced secret.name bc.metadata
  have hOtherResolved := SecretNames.resolve_namespaced otherSecret.name other.metadata
  refine ⟨_, _, (h.mapsWithCredential_iff settings _).mpr hResolved,
    (hOther.mapsWithCredential_iff otherSettings _).mpr hOtherResolved,
    SecretNames.lead_append_eq_iff, fun hId hName => ?_⟩
  rcases SecretNames.lead_append_eq_iff.mp hId with ⟨hSpace, _⟩ | hSpells | hSpells
  · exact hSpace
  · exact absurd hName hSpells.secret_ne
  · exact absurd hName.symm hSpells.secret_ne

def BuildConfig.inSpace (bc : BuildConfig) (space : String) : BuildConfig :=
  { bc with metadata := { bc.metadata with space := space } }

theorem credential_eq_of_one_namespace :
    let bc := (BuildConfig.ofRepository "https://example/repo.git" none none).withSecret "git-creds"
    let other :=
      (BuildConfig.ofRepository "https://example/fork.git" (some "dev") none).withSecret "git-creds"
    let bridge := some (SecretNames.bridge ⟨true, none⟩)
    ∃ id, MapsWithCredential .defaults bridge bc id ∧
      MapsWithCredential .defaults bridge other id := by
  intro bc other bridge
  have h : bc.ChecksOutWith ⟨"git-creds", []⟩ := ⟨⟨_, rfl, rfl⟩, ⟨_, _, rfl, rfl⟩, rfl⟩
  have hOther : other.ChecksOutWith ⟨"git-creds", []⟩ := ⟨⟨_, rfl, rfl⟩, ⟨_, _, rfl, rfl⟩, rfl⟩
  obtain ⟨id, otherId, hMaps, hOtherMaps, hSame, _⟩ :=
    credential_eq_iff_of_namespaced h hOther .defaults .defaults
  obtain rfl : id = otherId := hSame.mpr (.inl ⟨rfl, rfl⟩)
  exact ⟨id, hMaps, hOtherMaps⟩

/-- A dash of the namespace and a dash of the secret's name cannot be told apart. -/
theorem credential_of_two_namespaces :
    let repository := BuildConfig.ofRepository "https://example/repo.git" none none
    let bc := (repository.withSecret "b").inSpace "team-a"
    let other := (repository.withSecret "a-b").inSpace "team"
    let bridge := some (SecretNames.bridge ⟨true, none⟩)
    bc.ChecksOutWith ⟨"b", []⟩ ∧ other.ChecksOutWith ⟨"a-b", []⟩ ∧
      MapsWithCredential .defaults bridge bc "team-a-b" ∧
      MapsWithCredential .defaults bridge other "team-a-b" ∧
      bc.metadata.space ≠ other.metadata.space := by
  refine ⟨⟨⟨_, rfl, rfl⟩, ⟨_, _, rfl, rfl⟩, rfl⟩, ⟨⟨_, rfl, rfl⟩, ⟨_, _, rfl, rfl⟩, rfl⟩,
    ⟨_, _, _, rfl, rfl, ?_⟩, ⟨_, _, _, rfl, rfl, ?_⟩, ?_⟩
  all_goals decide +kernel

end BuildSync
