import BuildSync.Loading
import BuildSync.Proofs.Document.Same
import BuildSync.Proofs.Manifest.Reading

/-!
# Loaded documents

What a file is loaded as depends on its bytes alone. A document is taken for a BuildConfig if it is
read as one of the right kind, which it may leave out.
-/

set_option autoImplicit false

namespace BuildSync

theorem eq_ok_of_toOption {ε α : Type} {result : Except ε α} {a : α}
    (h : result.toOption = some a) : result = .ok a := by
  cases result <;> cases h
  rfl

theorem buildConfigOf_eq_ok_iff {path : Path} {entries : Entries} (h : entries.IsJson)
    {bc : BuildConfig} :
    buildConfigOf path entries = .ok bc ↔
      BuildConfig.check (.map entries) = .ok bc ∧ bc.kind = BuildConfig.model := by
  have hOfValue : (BuildConfig.ofValue (.map entries)).mapError LoadError.invalid = .ok bc ↔
      BuildConfig.check (.map entries) = .ok bc := by
    unfold BuildConfig.ofValue Checked.toExcept
    cases BuildConfig.check (.map entries) <;> simp [Except.mapError]
  have hKind : BuildConfig.check (.map entries) = .ok bc →
      (entries.get? (.text "kind")).getD (.text BuildConfig.model) = .text bc.kind := by
    intro hCheck
    obtain ⟨_, hKind, _⟩ := (BuildConfig.check_eq_ok_iff h).mp hCheck
    rw [← entries.value?_word "kind"]
    obtain ⟨hNone, hDefault⟩ | ⟨v, hValue, hText⟩ := Entries.defaulted_eq_ok_iff.mp hKind
    · rw [show entries.value? (.word "kind") = none from hNone, hDefault, Option.getD_none]
    · rw [show entries.value? (.word "kind") = some v from hValue, Option.getD_some]
      exact (Value.checkText_eq_ok_iff (h.value? hValue)).mp hText
  constructor
  · intro hLoaded
    unfold buildConfigOf at hLoaded
    split at hLoaded
    · rename_i kind hGiven
      split at hLoaded
      · rename_i hModel
        have hCheck := hOfValue.mp hLoaded
        have hSame : Value.text kind = .text bc.kind := hGiven.symm.trans (hKind hCheck)
        exact ⟨hCheck, by simpa [hModel] using hSame.symm⟩
      · cases hLoaded
    · cases hLoaded
  · rintro ⟨hCheck, hModel⟩
    simp only [buildConfigOf, hKind hCheck, hModel, if_true]
    exact hOfValue.mpr hCheck

variable {disk after : Disk} {path : Path} {system : System} {bc : BuildConfig} {job : Job}
  {bytes : ByteArray} {doc : Entries}

theorem readMapping_congr (h : after.read path system = disk.read path system) :
    readMapping after path system = readMapping disk path system := by
  rw [readMapping, h, readMapping]

theorem readMapping_of_read (hRead : disk.read path system = .ok bytes)
    (hText : ((Text.decode bytes).bind fun text => Yaml.readValue text.toList) = some (.map doc))
    (hJson : doc.IsJson) : readMapping disk path system = .ok doc := by
  rw [readMapping, hRead]
  simp only [hText, hJson.entries?]

theorem readMapping_of_sameEntries
    (h : (readMapping disk path system).toOption.any (Value.sameEntries · doc) = true) :
    readMapping disk path system = .ok doc := by
  obtain ⟨entries, hRead, hSame⟩ := (Option.any_eq_true _ _).mp h
  rw [← Value.eq_of_sameEntries hSame]
  exact eq_ok_of_toOption hRead

theorem BuildConfig.load_eq_ok_iff :
    BuildConfig.load disk path system = .ok bc ↔
      ∃ doc, readMapping disk path system = .ok doc ∧ buildConfigOf path doc = .ok bc := by
  unfold BuildConfig.load
  cases readMapping disk path system <;> simp [bind, Except.bind]

theorem Job.load_eq_ok_iff :
    Job.load disk path system = .ok job ↔
      ∃ doc, readMapping disk path system = .ok doc ∧ Job.ofValue (.map doc) = .ok job := by
  unfold Job.load
  cases readMapping disk path system with
  | error e => simp [bind, Except.bind]
  | ok doc => cases hJob : Job.ofValue (.map doc) <;> simp [bind, Except.bind, Except.mapError, hJob]

/-- Settings that are set nowhere have their defaults. -/
theorem Settings.load_eq_defaults {dir : Path} (h : envFileText disk dir system = .ok "") :
    Settings.load disk [] dir [] system = .ok .defaults := by
  simp only [Settings.load, h, bind, Except.bind, EnvFile.values_empty]
  rfl

end BuildSync
