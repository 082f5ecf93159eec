import BuildSync.Proofs.Document.Same
import BuildSync.Proofs.Job.Reading

/-!
# Definitions from documents that hold the same

The order of keys does not matter to a definition, but for the order in which its extensions hold
theirs.
-/

set_option autoImplicit false

namespace BuildSync

/-! ### Up to the order of keys in extensions -/

structure GitCheckout.Same (scm other : GitCheckout) : Prop where
  remotes : scm.remotes = other.remotes
  branches : scm.branches = other.branches
  extensions : List.Forall₂ Entries.Same scm.extensions other.extensions

inductive Checkout.Same : Checkout → Checkout → Prop
  | git {scm other : GitCheckout} (h : scm.Same other) : Same (.git scm) (.git other)
  | unsupported (className : String) : Same (.unsupported className) (.unsupported className)

inductive Definition.Same : Definition → Definition → Prop
  | inline (script : String) (sandbox : Bool) : Same (.inline script sandbox) (.inline script sandbox)
  | scm {checkout other : Checkout} (h : checkout.Same other) (path : String) :
    Same (.scm checkout path) (.scm other path)
  | unsupported (className : String) : Same (.unsupported className) (.unsupported className)

/-! ### Reading the parts -/

theorem relates_checkExtension : Relates checkExtension Entries.Same := by
  intro v w extension hJson hOther hSame hRead
  obtain rfl := (checkExtension_eq_ok_iff hJson).mp hRead
  obtain ⟨other, rfl, hEntries⟩ := hSame.exists_map
  exact ⟨other, (checkExtension_eq_ok_iff hOther).mpr rfl, hEntries⟩

theorem Remote.relates_check : Relates check Eq :=
  relates_record fun _ other remote hR hOther hSame h => by
    obtain ⟨hUrl, hName, hRefspec, hCredential, hUnknown⟩ := (check_eq_ok_iff hR).mp h
    refine ⟨remote, (check_eq_ok_iff hOther).mpr ?_, rfl⟩
    exact ⟨hSame.optionalText hR hOther hUrl, hSame.optionalText hR hOther hName,
      hSame.optionalText hR hOther hRefspec, hSame.optionalText hR hOther hCredential,
      hSame.unknown_eq_nil hUnknown⟩

theorem BranchSpec.relates_check : Relates check Eq :=
  relates_record fun _ other branch hR hOther hSame h => by
    obtain ⟨hName, hUnknown⟩ := (check_eq_ok_iff hR).mp h
    obtain ⟨name, hOtherName, rfl⟩ := hSame.required_related hR hOther relates_checkText hName
    exact ⟨branch, (check_eq_ok_iff hOther).mpr ⟨hOtherName, hSame.unknown_eq_nil hUnknown⟩, rfl⟩

theorem GitCheckout.relates_check : Relates check Same :=
  relates_record fun _ other scm hR hOther hSame h => by
    obtain ⟨hKind, hRemotes, hBranches, hExtensions, hUnknown⟩ := (check_eq_ok_iff hR).mp h
    obtain ⟨remotes, hOtherRemotes, hRemotesSame⟩ :=
      hSame.defaulted_related hR hOther (relates_checkList Remote.relates_check) .nil hRemotes
    obtain ⟨branches, hOtherBranches, hBranchesSame⟩ :=
      hSame.defaulted_related hR hOther (relates_checkList BranchSpec.relates_check) .nil hBranches
    obtain ⟨extensions, hOtherExtensions, hExtensionsSame⟩ :=
      hSame.defaulted_related hR hOther (relates_checkList relates_checkExtension) .nil hExtensions
    rw [List.forall₂_eq_eq_eq] at hRemotesSame hBranchesSame
    refine ⟨⟨remotes, branches, extensions⟩, (check_eq_ok_iff hOther).mpr ?_,
      ⟨hRemotesSame, hBranchesSame, hExtensionsSame⟩⟩
    exact ⟨hSame.value?_eq_text hKind, hOtherRemotes, hOtherBranches, hOtherExtensions,
      hSame.unknown_eq_nil hUnknown⟩

theorem relates_checkUnsupported (model : String) : Relates (checkUnsupported model) Eq :=
  relates_record fun _ other className hR hOther hSame h => by
    obtain ⟨hName, hUnknown⟩ := (checkUnsupported_eq_ok_iff hR).mp h
    obtain ⟨_, hOtherName, rfl⟩ := hSame.defaulted_related hR hOther relates_checkText rfl hName
    exact ⟨className,
      (checkUnsupported_eq_ok_iff hOther).mpr ⟨hOtherName, hSame.unknown_eq_nil hUnknown⟩, rfl⟩

theorem Relates.map {α β : Type} {check : Value → Checked α} {R : α → α → Prop}
    {Q : β → β → Prop} {f : α → β} (hCheck : Relates check R) (hMap : ∀ a b, R a b → Q (f a) (f b)) :
    Relates (fun v => f <$> check v) Q := by
  intro v w a hJson hOther hSame hRead
  obtain ⟨x, hInner, rfl⟩ := Checked.map_eq_ok_iff.mp hRead
  obtain ⟨y, hOtherRead, hRelated⟩ := hCheck v w x hJson hOther hSame hInner
  exact ⟨f y, Checked.map_eq_ok_iff.mpr ⟨y, hOtherRead, rfl⟩, hMap x y hRelated⟩

theorem Checkout.relates_check : Relates check Same :=
  relates_variant fun tag _ => by
    by_cases hGit : tag = "git"
    · simp only [hGit, if_true]
      exact GitCheckout.relates_check.map fun _ _ => .git
    · simp only [hGit, if_false]
      refine (relates_checkUnsupported "UnsupportedScm").map ?_
      rintro className _ rfl
      exact .unsupported className

namespace Definition

theorem relates_checkInline : Relates checkInline Same :=
  relates_record fun _ other d hR hOther hSame h => by
    obtain ⟨script, sandbox, hScript, hSandbox, hUnknown, rfl⟩ := (checkInline_eq_ok_iff hR).mp h
    obtain ⟨_, hOtherScript, rfl⟩ := hSame.required_related hR hOther relates_checkText hScript
    obtain ⟨_, hOtherSandbox, rfl⟩ :=
      hSame.defaulted_related hR hOther relates_checkBool rfl hSandbox
    refine ⟨_, (checkInline_eq_ok_iff hOther).mpr ?_, .inline script sandbox⟩
    exact ⟨script, sandbox, hOtherScript, hOtherSandbox, hSame.unknown_eq_nil hUnknown, rfl⟩

theorem relates_checkScm : Relates checkScm Same :=
  relates_record fun _ other d hR hOther hSame h => by
    obtain ⟨checkout, path, hCheckout, hPath, hUnknown, rfl⟩ := (checkScm_eq_ok_iff hR).mp h
    obtain ⟨checkout', hOtherCheckout, hCheckoutSame⟩ :=
      hSame.required_related hR hOther Checkout.relates_check hCheckout
    obtain ⟨_, hOtherPath, rfl⟩ := hSame.defaulted_related hR hOther relates_checkText rfl hPath
    refine ⟨_, (checkScm_eq_ok_iff hOther).mpr ?_, .scm hCheckoutSame path⟩
    exact ⟨checkout', path, hOtherCheckout, hOtherPath, hSame.unknown_eq_nil hUnknown, rfl⟩

/-- From documents that hold the same, definitions are read that are the same up to the order of
keys in extensions. -/
theorem relates_check : Relates check Same :=
  relates_variant fun tag _ => by
    by_cases hInline : tag = "inline"
    · simp only [hInline, if_true]
      exact relates_checkInline
    by_cases hScm : tag = "scm"
    · simp only [hScm, if_true]
      exact relates_checkScm
    · simp only [hInline, hScm, if_false]
      refine (relates_checkUnsupported "UnsupportedDefinition").map ?_
      rintro className _ rfl
      exact .unsupported className

end Definition

end BuildSync
