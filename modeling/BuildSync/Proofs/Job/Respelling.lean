import BuildSync.Job.Check
import BuildSync.Proofs.Manifest.Respelling

/-!
# Job snapshots in another spelling

Reading a job snapshot ignores how its objects spell their fields, down to the remotes of a
checkout. With that, the spelling of a document only shows where an issue is.
-/

set_option autoImplicit false

namespace BuildSync

open Respelling (record plain list variant ignoredBy_plain ignoredBy_record ignoredBy_checkList
  ignoredBy_variant)

namespace Remote

def layout : Layout :=
  ⟨[(urlField, plain), (nameField, plain), (refspecField, plain), (credentialsIdField, plain)],
    by decide, by decide⟩

theorem ignores_spelling : (record layout).IgnoredBy check := ignoredBy_record fun h => by
  simp only [Checked.relocate_seq, Checked.relocate_map]
  rw [← h.optional_eq (.head _) (ignoredBy_plain _),
    ← h.optional_eq (.tail _ (.head _)) (ignoredBy_plain _),
    ← h.optional_eq (.tail _ (.tail _ (.head _))) (ignoredBy_plain _),
    ← h.optional_eq (.tail _ (.tail _ (.tail _ (.head _)))) (ignoredBy_plain _),
    show fields = layout.fields from rfl, ← h.noExtras_eq]

end Remote

namespace BranchSpec

def layout : Layout := ⟨[(nameField, plain)], by decide, by decide⟩

theorem ignores_spelling : (record layout).IgnoredBy check := ignoredBy_record fun h => by
  simp only [Checked.relocate_seq, Checked.relocate_map]
  rw [← h.required_eq (.head _) (ignoredBy_plain _),
    show [nameField] = layout.fields from rfl, ← h.noExtras_eq]

end BranchSpec

namespace GitCheckout

/-- The extensions are maps of their own, with no fields in them. -/
def layout : Layout :=
  ⟨[(kindTag, plain), (remotesField, list (record Remote.layout)),
    (branchesField, list (record BranchSpec.layout)), (extensionsField, plain)], by decide, by decide⟩

theorem ignores_spelling : (record layout).IgnoredBy check := ignoredBy_record fun h => by
  simp only [Checked.relocate_seq, Checked.relocate_map]
  rw [← h.defaulted_eq (.head _) (ignoredBy_plain _),
    ← h.defaulted_eq (.tail _ (.head _)) (ignoredBy_checkList Remote.ignores_spelling),
    ← h.defaulted_eq (.tail _ (.tail _ (.head _)))
      (ignoredBy_checkList BranchSpec.ignores_spelling),
    ← h.defaulted_eq (.tail _ (.tail _ (.tail _ (.head _)))) (ignoredBy_plain _),
    show fields = layout.fields from rfl, ← h.noExtras_eq]

end GitCheckout

def unsupportedLayout : Layout := ⟨[(kindTag, plain), (classNameField, plain)], by decide, by decide⟩

theorem checkUnsupported_ignores_spelling (model : String) :
    (record unsupportedLayout).IgnoredBy (checkUnsupported model) := ignoredBy_record fun h => by
  simp only [Checked.relocate_seq, Checked.relocate_map]
  rw [← h.defaulted_eq (.tail _ (.head _)) (ignoredBy_plain _),
    show [kindTag, classNameField] = unsupportedLayout.fields from rfl, ← h.noExtras_eq]

namespace Checkout

def kinds : List (String × Respelling) :=
  [("git", record GitCheckout.layout), ("unsupported", record unsupportedLayout)]

theorem ignores_spelling : (variant kinds).IgnoredBy check :=
  ignoredBy_variant <| List.forall_mem_cons.mpr
    ⟨GitCheckout.ignores_spelling.map Checkout.git, List.forall_mem_singleton.mpr <|
      (checkUnsupported_ignores_spelling "UnsupportedScm").map Checkout.unsupported⟩

end Checkout

namespace Definition

def inlineLayout : Layout :=
  ⟨[(kindTag, plain), (scriptField, plain), (sandboxField, plain)], by decide, by decide⟩

theorem checkInline_ignores_spelling : (record inlineLayout).IgnoredBy checkInline :=
  ignoredBy_record fun h => by
    simp only [Checked.relocate_seq, Checked.relocate_map]
    rw [← h.required_eq (.tail _ (.head _)) (ignoredBy_plain _),
      ← h.defaulted_eq (.tail _ (.tail _ (.head _))) (ignoredBy_plain _),
      show [kindTag, scriptField, sandboxField] = inlineLayout.fields from rfl, ← h.noExtras_eq]

def scmLayout : Layout :=
  ⟨[(kindTag, plain), (scmField, variant Checkout.kinds), (scriptPathField, plain)], by decide, by decide⟩

theorem checkScm_ignores_spelling : (record scmLayout).IgnoredBy checkScm :=
  ignoredBy_record fun h => by
    simp only [Checked.relocate_seq, Checked.relocate_map]
    rw [← h.required_eq (.tail _ (.head _)) Checkout.ignores_spelling,
      ← h.defaulted_eq (.tail _ (.tail _ (.head _))) (ignoredBy_plain _),
      show [kindTag, scmField, scriptPathField] = scmLayout.fields from rfl, ← h.noExtras_eq]

def kinds : List (String × Respelling) :=
  [("inline", record inlineLayout), ("scm", record scmLayout),
    ("unsupported", record unsupportedLayout)]

theorem ignores_spelling : (variant kinds).IgnoredBy check :=
  ignoredBy_variant <| List.forall_mem_cons.mpr ⟨checkInline_ignores_spelling,
    List.forall_mem_cons.mpr ⟨checkScm_ignores_spelling, List.forall_mem_singleton.mpr <|
      (checkUnsupported_ignores_spelling "UnsupportedDefinition").map Definition.unsupported⟩⟩

end Definition

namespace BranchProperty

def layout : Layout := ⟨[(nameField, plain), (scmField, variant Checkout.kinds)], by decide, by decide⟩

theorem ignores_spelling : (record layout).IgnoredBy check := ignoredBy_record fun h => by
  simp only [Checked.relocate_seq, Checked.relocate_map]
  rw [← h.required_eq (.head _) (ignoredBy_plain _),
    ← h.optional_eq (.tail _ (.head _)) Checkout.ignores_spelling,
    show [nameField, scmField] = layout.fields from rfl, ← h.noExtras_eq]

end BranchProperty

namespace Job

def layout : Layout :=
  ⟨[(fullNameField, plain), (definitionField, variant Definition.kinds),
    (branchField, record BranchProperty.layout)], by decide, by decide⟩

theorem ignores_spelling : (record layout).IgnoredBy check := ignoredBy_record fun h => by
  simp only [Checked.relocate_seq, Checked.relocate_map]
  rw [← h.defaulted_eq (.head _) (ignoredBy_plain _),
    ← h.optional_eq (.tail _ (.head _)) Definition.ignores_spelling,
    ← h.optional_eq (.tail _ (.tail _ (.head _))) BranchProperty.ignores_spelling,
    show fields = layout.fields from rfl, ← h.noExtras_eq]

/-- How a document may differ and still be read as the same job. -/
def respelling : Respelling := record layout

end Job

/-! ### Both kinds of documents -/

theorem Respelling.IgnoredBy.toExcept {α : Type} {r : Respelling} {check : Value → Checked α}
    (h : r.IgnoredBy check) (model : String) {v w : Value} (hDocument : v.IsDocument)
    (hOther : w.IsDocument) (hAlike : r.alike v w) :
    (check w).toExcept model =
      ((check v).toExcept model).mapError (ValidationError.relocate (r.locate w)) := by
  rw [h v w hDocument hOther hAlike, Checked.toExcept_relocate]

/-- A BuildConfig whose context directory is a number. -/
def numberedContextDir (name : Spelling → String) : Value :=
  .object [("metadata", .object [("name", .text "app")]),
    ("spec", .object [("source", .object [(name BuildSource.contextDirField, .scalar (.int 3))])])]

theorem isJson_numberedContextDir (name : Spelling → String) :
    (numberedContextDir name).IsJson := by
  have hNumber : (Value.scalar (.int 3)).IsJson := .scalar trivial
  simp [numberedContextDir, hNumber]

theorem alike_numberedContextDir : BuildConfig.respelling.alike
    (numberedContextDir Spelling.camel) (numberedContextDir Spelling.snake) := by
  have hMetadata : (record ObjectMeta.layout).alike (.object [("name", .text "app")])
      (.object [("name", .text "app")]) :=
    .map ⟨.cons (.field (.tail _ (.head _)) (.inl rfl) (.inl rfl) rfl) .nil, by decide, by decide⟩
  have hSource : (record BuildSource.layout).alike
      (.object [("contextDir", .scalar (.int 3))]) (.object [("context_dir", .scalar (.int 3))]) :=
    .map ⟨.cons (.field (.tail _ (.tail _ (.head _))) (.inl rfl) (.inr rfl) rfl) .nil,
      by decide, by decide⟩
  have hSpec : (record BuildSpec.layout).alike
      (.object [("source", .object [("contextDir", .scalar (.int 3))])])
      (.object [("source", .object [("context_dir", .scalar (.int 3))])]) :=
    .map ⟨.cons (.field (.head _) (.inl rfl) (.inl rfl) hSource) .nil, by decide, by decide⟩
  exact .map ⟨.cons (.field (.tail _ (.tail _ (.head _))) (.inl rfl) (.inl rfl) hMetadata) <|
    .cons (.field (.tail _ (.tail _ (.tail _ (.head _)))) (.inl rfl) (.inl rfl) hSpec) .nil,
    by decide, by decide⟩

/-- A job with a checkout from one remote. -/
def checkoutJob (name : Spelling → String) : Value :=
  .object [(name Job.fullNameField, .text "dev/app"),
    ("definition", .object [("kind", .text "scm"),
      ("scm", .object [("kind", .text "git"),
        (name GitCheckout.remotesField, .list [.object [("url", .text "repo"),
          (name Remote.credentialsIdField, .text "dev-key")]])]),
      (name Definition.scriptPathField, .text "Jenkinsfile")])]

theorem isJson_checkoutJob {name : Spelling → String}
    (hName : name = Spelling.camel ∨ name = Spelling.snake) : (checkoutJob name).IsJson := by
  rcases hName with rfl | rfl <;> simp [checkoutJob] <;> decide

theorem alike_checkoutJob :
    Job.respelling.alike (checkoutJob Spelling.camel) (checkoutJob Spelling.snake) := by
  have hRemote : (record Remote.layout).alike
      (.object [("url", .text "repo"), ("credentialsId", .text "dev-key")])
      (.object [("url", .text "repo"), ("credentials_id", .text "dev-key")]) :=
    .map ⟨.cons (.field (.head _) (.inl rfl) (.inl rfl) rfl) <|
      .cons (.field (.tail _ (.tail _ (.tail _ (.head _)))) (.inl rfl) (.inr rfl) rfl) .nil,
      by decide, by decide⟩
  have hCheckout : (variant Checkout.kinds).alike
      (.object [("kind", .text "git"), ("userRemoteConfigs", .list [.object
        [("url", .text "repo"), ("credentialsId", .text "dev-key")]])])
      (.object [("kind", .text "git"), ("user_remote_configs", .list [.object
        [("url", .text "repo"), ("credentials_id", .text "dev-key")]])]) :=
    Respelling.alike_of_tag rfl rfl rfl <| .map
      ⟨.cons (.field (.head _) (.inl rfl) (.inl rfl) rfl) <|
        .cons (.field (.tail _ (.head _)) (.inl rfl) (.inr rfl) (.list (.cons hRemote .nil))) .nil,
        by decide, by decide⟩
  refine .map ⟨.cons (.field (.head _) (.inl rfl) (.inr rfl) rfl) <|
    .cons (.field (.tail _ (.head _)) (.inl rfl) (.inl rfl) ?_) .nil, by decide, by decide⟩
  exact Respelling.alike_of_tag rfl rfl rfl <| .map
    ⟨.cons (.field (.head _) (.inl rfl) (.inl rfl) rfl) <|
      .cons (.field (.tail _ (.head _)) (.inl rfl) (.inl rfl) hCheckout) <|
      .cons (.field (.tail _ (.tail _ (.head _))) (.inl rfl) (.inr rfl) rfl) .nil,
      by decide, by decide⟩

/-- Documents that only spell their fields differently are read as the same, or they are refused
for the same issues, each at its location as the document itself spells it. -/
theorem ofValue_respelled {v w : Value} (hDocument : v.IsDocument) (hOther : w.IsDocument) :
    (BuildConfig.respelling.alike v w →
      BuildConfig.ofValue w = (BuildConfig.ofValue v).mapError
          (ValidationError.relocate (BuildConfig.respelling.locate w)) ∧
        ∀ location, List.Forall₂ (Step.Respells BuildConfig.respelling.fields) location
          (BuildConfig.respelling.locate w location)) ∧
    (Job.respelling.alike v w →
      Job.ofValue w = (Job.ofValue v).mapError
          (ValidationError.relocate (Job.respelling.locate w)) ∧
        ∀ location, List.Forall₂ (Step.Respells Job.respelling.fields) location
          (Job.respelling.locate w location)) :=
  ⟨fun hAlike => ⟨BuildConfig.ignores_spelling.toExcept BuildConfig.model hDocument hOther hAlike,
      BuildConfig.respelling.respells w⟩,
    fun hAlike => ⟨Job.ignores_spelling.toExcept Job.model hDocument hOther hAlike,
      Job.respelling.respells w⟩⟩

theorem ofValue_respelled_in_snake_case :
    (numberedContextDir Spelling.camel).IsJson ∧ (numberedContextDir Spelling.snake).IsJson ∧
    (checkoutJob Spelling.camel).IsJson ∧ (checkoutJob Spelling.snake).IsJson ∧
    BuildConfig.respelling.alike (numberedContextDir Spelling.camel)
      (numberedContextDir Spelling.snake) ∧
    Job.respelling.alike (checkoutJob Spelling.camel) (checkoutJob Spelling.snake) ∧
    BuildConfig.ofValue (numberedContextDir Spelling.snake) =
      (BuildConfig.ofValue (numberedContextDir Spelling.camel)).mapError (ValidationError.relocate
        (BuildConfig.respelling.locate (numberedContextDir Spelling.snake))) ∧
    Job.ofValue (checkoutJob Spelling.snake) =
      (Job.ofValue (checkoutJob Spelling.camel)).mapError (ValidationError.relocate
        (Job.respelling.locate (checkoutJob Spelling.snake))) := by
  have hCamel := isJson_numberedContextDir Spelling.camel
  have hSnake := isJson_numberedContextDir Spelling.snake
  have hJobCamel := isJson_checkoutJob (.inl rfl)
  have hJobSnake := isJson_checkoutJob (.inr rfl)
  exact ⟨hCamel, hSnake, hJobCamel, hJobSnake, alike_numberedContextDir, alike_checkoutJob,
    ((ofValue_respelled hCamel.isDocument hSnake.isDocument).1 alike_numberedContextDir).1,
    ((ofValue_respelled hJobCamel.isDocument hJobSnake.isDocument).2 alike_checkoutJob).1⟩

/-- Two documents that are alike, with an issue that is at a location of its own in each. -/
theorem numberedContextDir_located_as_spelled :
    (numberedContextDir Spelling.camel).IsJson ∧ (numberedContextDir Spelling.snake).IsJson ∧
      BuildConfig.respelling.alike (numberedContextDir Spelling.camel)
        (numberedContextDir Spelling.snake) ∧
      BuildConfig.ofValue (numberedContextDir Spelling.camel) = .error ⟨BuildConfig.model,
        [⟨[.key "spec", .key "source", .key "contextDir"], .notText⟩]⟩ ∧
      BuildConfig.ofValue (numberedContextDir Spelling.snake) = .error ⟨BuildConfig.model,
        [⟨[.key "spec", .key "source", .key "context_dir"], .notText⟩]⟩ ∧
      BuildConfig.ofValue (numberedContextDir Spelling.camel) ≠
        BuildConfig.ofValue (numberedContextDir Spelling.snake) := by
  refine ⟨isJson_numberedContextDir _, isJson_numberedContextDir _, alike_numberedContextDir,
    rfl, rfl, fun hSame => ?_⟩
  have hError := Except.error.inj hSame
  exact absurd hError (by decide)

end BuildSync
