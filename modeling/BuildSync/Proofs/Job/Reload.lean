import BuildSync.Job.Dump
import BuildSync.Proofs.Job.Reading

/-!
# Reading a written job

A job is read as the one that it was written from. Nothing of it is left out but what stands for an
absent value, and an extension is written as it is.
-/

set_option autoImplicit false

namespace BuildSync

/-! ### Extensions -/

def Checkout.extensions : Checkout → List Entries
  | .git scm => scm.extensions
  | .unsupported _ => []

def Definition.extensions : Definition → List Entries
  | .scm checkout _ => checkout.extensions
  | _ => []

def BranchProperty.extensions (branch : BranchProperty) : List Entries :=
  branch.checkout.elim [] Checkout.extensions

def Job.extensions (job : Job) : List Entries :=
  job.definition.elim [] Definition.extensions ++ job.branch.elim [] BranchProperty.extensions

theorem allJson_elim_iff {α : Type} {extensions : α → List Entries} {part : Option α} :
    AllJson (part.elim [] extensions) ↔ ∀ a ∈ part, AllJson (extensions a) := by
  cases part <;> simp [AllJson]

/-! ### What is read holds JSON -/

theorem ensures_checkExtension : Ensures checkExtension Entries.IsJson := by
  intro v extension hJson h
  rw [(checkExtension_eq_ok_iff hJson).mp h] at hJson
  exact Value.isJson_map_iff.mp hJson

theorem GitCheckout.ensures_json : Ensures check fun scm => AllJson scm.extensions := by
  intro v scm hJson h
  obtain ⟨r, rfl, hR⟩ := Value.exists_map_of_record hJson h
  obtain ⟨_, _, _, hExtensions, _⟩ := (check_eq_ok_iff hR).mp h
  exact hR.ensured_of_defaulted (ensures_checkList ensures_checkExtension)
    (List.forall_mem_nil _) hExtensions

theorem Checkout.ensures_json : Ensures check fun checkout => AllJson checkout.extensions := by
  intro v checkout hJson h
  obtain ⟨r, rfl, hR⟩ := Value.exists_map_of_variant hJson h
  obtain ⟨_, scm, hScm, rfl⟩ | ⟨_, _, _, rfl⟩ := (check_eq_ok_iff hR).mp h
  · exact GitCheckout.ensures_json _ scm hJson hScm
  · exact nofun

theorem Definition.ensures_json : Ensures check fun d => AllJson d.extensions := by
  intro v d hJson h
  obtain ⟨r, rfl, hR⟩ := Value.exists_map_of_variant hJson h
  obtain ⟨_, hInline⟩ | ⟨_, hScm⟩ | ⟨_, _, _, rfl⟩ := (check_eq_ok_iff hR).mp h
  · obtain ⟨_, _, _, _, _, rfl⟩ := (checkInline_eq_ok_iff hR).mp hInline
    exact nofun
  · obtain ⟨_, _, hCheckout, _, _, rfl⟩ := (checkScm_eq_ok_iff hR).mp hScm
    exact hR.ensured_of_required Checkout.ensures_json hCheckout
  · exact nofun

theorem BranchProperty.ensures_json : Ensures check fun branch => AllJson branch.extensions := by
  intro v branch hJson h
  obtain ⟨r, rfl, hR⟩ := Value.exists_map_of_record hJson h
  obtain ⟨_, hCheckout, _⟩ := (check_eq_ok_iff hR).mp h
  exact allJson_elim_iff.mpr (hR.ensured_of_optional Checkout.ensures_json hCheckout)

theorem Job.ensures_json : Ensures check fun job => AllJson job.extensions := by
  intro v job hJson h
  obtain ⟨r, rfl, hR⟩ := Value.exists_map_of_record hJson h
  obtain ⟨_, hDefinition, hBranch, _⟩ := (check_eq_ok_iff hR).mp h
  refine List.forall_mem_append.mpr ⟨allJson_elim_iff.mpr ?_, allJson_elim_iff.mpr ?_⟩
  · exact hR.ensured_of_optional Definition.ensures_json hDefinition
  · exact hR.ensured_of_optional BranchProperty.ensures_json hBranch

/-! ### Reading the parts again -/

theorem IsSavable.value?_kind {fields : List Spelling} {values : List (String × Value)} {tag : String}
    (h : IsSavable (kindTag :: fields) (("kind", .text tag) :: values) []) :
    (written (("kind", .text tag) :: values) []).value? kindTag = some (.text tag) :=
  h.value?_written List.mem_cons_self List.mem_cons_self

section

variable (remote : Remote)

def Remote.values : List (String × Value) :=
  [("url", .optionalText remote.url), ("name", .optionalText remote.name),
    ("refspec", .optionalText remote.refspec),
    ("credentialsId", .optionalText remote.credentialsId)]

theorem Remote.isSavable : IsSavable fields remote.values [] := .of_fields rfl (by decide)

theorem Remote.isJson_dump : (remote.dump .manifest).IsJson :=
  remote.isSavable.isJson_dumpRecord (by simp [values])

theorem Remote.check_dump : check (remote.dump .manifest) = .ok remote := by
  have hSavable := remote.isSavable
  have hJson := remote.isJson_dump
  rw [dump, dumpRecord_nil] at hJson ⊢
  exact (check_eq_ok_iff (Value.isJson_map_iff.mp hJson)).mpr
    ⟨hSavable.optionalText_written (by decide) (.head _),
      hSavable.optionalText_written (by decide) (.tail _ (.head _)),
      hSavable.optionalText_written (by decide) (.tail _ (.tail _ (.head _))),
      hSavable.optionalText_written (by decide) (.tail _ (.tail _ (.tail _ (.head _)))),
      hSavable.unknown_written⟩

end

section

variable (branch : BranchSpec)

def BranchSpec.values : List (String × Value) := [("name", .text branch.name)]

theorem BranchSpec.isSavable : IsSavable [nameField] branch.values [] := .of_fields rfl (by decide)

theorem BranchSpec.isJson_dump : (branch.dump .manifest).IsJson :=
  branch.isSavable.isJson_dumpRecord (by simp [values])

theorem BranchSpec.check_dump : check (branch.dump .manifest) = .ok branch := by
  have hSavable := branch.isSavable
  have hJson := branch.isJson_dump
  rw [dump, dumpRecord_nil] at hJson ⊢
  exact (check_eq_ok_iff (Value.isJson_map_iff.mp hJson)).mpr
    ⟨hSavable.required_written (by decide) (.head _) rfl rfl, hSavable.unknown_written⟩

end

section

def writeExtension (extension : Entries) : Value := .map (Value.plainEntries extension [])

theorem isJson_writeExtension {extension : Entries} (h : extension.IsJson) :
    (writeExtension extension).IsJson := by
  rw [writeExtension, h.plainEntries_eq]
  exact Value.isJson_map_iff.mpr h

theorem checkExtension_writeExtension {extension : Entries} (h : extension.IsJson) :
    checkExtension (writeExtension extension) = .ok extension := by
  refine (checkExtension_eq_ok_iff (isJson_writeExtension h)).mpr ?_
  rw [writeExtension, h.plainEntries_eq]

variable {scm : GitCheckout}

def GitCheckout.values (scm : GitCheckout) : List (String × Value) :=
  [("kind", .text "git"), ("userRemoteConfigs", .list (scm.remotes.map (Remote.dump .manifest))),
    ("branches", .list (scm.branches.map (BranchSpec.dump .manifest))),
    ("extensions", .list (scm.extensions.map writeExtension))]

theorem GitCheckout.isSavable (scm : GitCheckout) : IsSavable fields scm.values [] :=
  .of_fields rfl (by decide)

theorem GitCheckout.dump_eq (scm : GitCheckout) :
    scm.dump .manifest = .map (written scm.values []) := dumpRecord_nil scm.values

theorem GitCheckout.isJson_dump (h : AllJson scm.extensions) : (scm.dump .manifest).IsJson := by
  refine scm.isSavable.isJson_dumpRecord ?_
  have hRemotes : (Value.list (scm.remotes.map (Remote.dump .manifest))).IsJson :=
    .list (List.forall_mem_map.mpr fun remote _ => remote.isJson_dump)
  have hBranches : (Value.list (scm.branches.map (BranchSpec.dump .manifest))).IsJson :=
    .list (List.forall_mem_map.mpr fun branch _ => branch.isJson_dump)
  have hExtensions : (Value.list (scm.extensions.map writeExtension)).IsJson :=
    .list (List.forall_mem_map.mpr fun extension he => isJson_writeExtension (h extension he))
  simp [values, hRemotes, hBranches, hExtensions]

theorem GitCheckout.check_dump (h : AllJson scm.extensions) :
    check (scm.dump .manifest) = .ok scm := by
  have hSavable := scm.isSavable
  have hJson := isJson_dump h
  rw [dump_eq] at hJson ⊢
  refine (check_eq_ok_iff (Value.isJson_map_iff.mp hJson)).mpr ⟨?_, ?_, ?_, ?_, ?_⟩
  · intro v hKind
    exact Option.some_inj.mp ((Option.mem_def.mp hKind).symm.trans hSavable.value?_kind)
  · exact hSavable.defaulted_written (by decide) (.tail _ (.head _)) rfl
      (Value.checkList_map (fun remote _ => remote.isJson_dump) fun remote _ => remote.check_dump)
  · exact hSavable.defaulted_written (by decide) (.tail _ (.tail _ (.head _))) rfl
      (Value.checkList_map (fun branch _ => branch.isJson_dump) fun branch _ => branch.check_dump)
  · exact hSavable.defaulted_written (by decide) (.tail _ (.tail _ (.tail _ (.head _)))) rfl
      (Value.checkList_map (fun _ he => isJson_writeExtension (h _ he))
        fun _ he => checkExtension_writeExtension (h _ he))
  · exact hSavable.unknown_written

end

section

variable (className : String)

def unsupportedValues : List (String × Value) :=
  [("kind", .text "unsupported"), ("className", .text className)]

theorem isSavable_unsupported : IsSavable [kindTag, classNameField] (unsupportedValues className) [] :=
  .of_fields rfl (by decide)

theorem dumpUnsupported_eq :
    dumpUnsupported .manifest className = .map (written (unsupportedValues className) []) :=
  dumpRecord_nil (unsupportedValues className)

theorem isJson_dumpUnsupported : (dumpUnsupported .manifest className).IsJson :=
  (isSavable_unsupported className).isJson_dumpRecord (by simp [unsupportedValues])

theorem checkUnsupported_dump (model : String) :
    checkUnsupported model (dumpUnsupported .manifest className) = .ok className := by
  have hSavable := isSavable_unsupported className
  have hJson := isJson_dumpUnsupported className
  rw [dumpUnsupported_eq] at hJson ⊢
  exact (checkUnsupported_eq_ok_iff (Value.isJson_map_iff.mp hJson)).mpr
    ⟨hSavable.defaulted_written (by decide) (.tail _ (.head _)) rfl rfl, hSavable.unknown_written⟩

end

theorem Checkout.isJson_dump {checkout : Checkout} (h : AllJson checkout.extensions) :
    (checkout.dump .manifest).IsJson := by
  cases checkout with
  | git scm => exact GitCheckout.isJson_dump h
  | unsupported className => exact isJson_dumpUnsupported className

theorem Checkout.isNull_dump (checkout : Checkout) : (checkout.dump .manifest).isNull = false := by
  cases checkout <;> rfl

theorem Checkout.check_dump {checkout : Checkout} (h : AllJson checkout.extensions) :
    check (checkout.dump .manifest) = .ok checkout := by
  have hJson := isJson_dump h
  cases checkout with
  | git scm =>
    have hRead := GitCheckout.check_dump h
    rw [dump, GitCheckout.dump_eq] at hJson ⊢
    rw [GitCheckout.dump_eq] at hRead
    refine (check_eq_ok_iff (Value.isJson_map_iff.mp hJson)).mpr (.inl ⟨?_, scm, hRead, rfl⟩)
    exact scm.isSavable.value?_kind
  | unsupported className =>
    have hRead := checkUnsupported_dump className "UnsupportedScm"
    rw [dump, dumpUnsupported_eq] at hJson ⊢
    rw [dumpUnsupported_eq] at hRead
    refine (check_eq_ok_iff (Value.isJson_map_iff.mp hJson)).mpr (.inr ⟨?_, className, hRead, rfl⟩)
    exact (isSavable_unsupported className).value?_kind

namespace Definition

def inlineValues (script : String) (sandbox : Bool) : List (String × Value) :=
  [("kind", .text "inline"), ("script", .text script), ("sandbox", .bool sandbox)]

def scmValues (checkout : Checkout) (path : String) : List (String × Value) :=
  [("kind", .text "scm"), ("scm", checkout.dump .manifest), ("scriptPath", .text path)]

theorem isSavable_inline (script : String) (sandbox : Bool) :
    IsSavable [kindTag, scriptField, sandboxField] (inlineValues script sandbox) [] :=
  .of_fields rfl (by decide)

theorem isSavable_scm (checkout : Checkout) (path : String) :
    IsSavable [kindTag, scmField, scriptPathField] (scmValues checkout path) [] :=
  .of_fields rfl (by decide)

theorem dump_inline_eq (script : String) (sandbox : Bool) :
    dump .manifest (.inline script sandbox) = .map (written (inlineValues script sandbox) []) :=
  dumpRecord_nil (inlineValues script sandbox)

theorem dump_scm_eq (checkout : Checkout) (path : String) :
    dump .manifest (.scm checkout path) = .map (written (scmValues checkout path) []) :=
  dumpRecord_nil (scmValues checkout path)

variable {d : Definition}

theorem isNull_dump (d : Definition) : (d.dump .manifest).isNull = false := by
  cases d <;> rfl

theorem isJson_dump (h : AllJson d.extensions) : (d.dump .manifest).IsJson := by
  cases d with
  | inline script sandbox =>
    have hSandbox : (Value.bool sandbox).IsJson := .scalar trivial
    exact (isSavable_inline script sandbox).isJson_dumpRecord (by simp [inlineValues, hSandbox])
  | scm checkout path =>
    have hCheckout := Checkout.isJson_dump h
    exact (isSavable_scm checkout path).isJson_dumpRecord (by simp [scmValues, hCheckout])
  | unsupported className => exact isJson_dumpUnsupported className

theorem check_dump (h : AllJson d.extensions) : check (d.dump .manifest) = .ok d := by
  have hJson := isJson_dump h
  cases d with
  | inline script sandbox =>
    have hSavable := isSavable_inline script sandbox
    rw [dump_inline_eq, Value.isJson_map_iff] at hJson
    rw [dump_inline_eq]
    refine (check_eq_ok_iff hJson).mpr (.inl ⟨hSavable.value?_kind, ?_⟩)
    exact (checkInline_eq_ok_iff hJson).mpr ⟨script, sandbox,
      hSavable.required_written (by decide) (.tail _ (.head _)) rfl rfl,
      hSavable.defaulted_written (by decide) (.tail _ (.tail _ (.head _))) rfl rfl,
      hSavable.unknown_written, rfl⟩
  | scm checkout path =>
    have hSavable := isSavable_scm checkout path
    rw [dump_scm_eq, Value.isJson_map_iff] at hJson
    rw [dump_scm_eq]
    refine (check_eq_ok_iff hJson).mpr (.inr (.inl ⟨hSavable.value?_kind, ?_⟩))
    exact (checkScm_eq_ok_iff hJson).mpr ⟨checkout, path,
      hSavable.required_written (by decide) (.tail _ (.head _)) checkout.isNull_dump
        (Checkout.check_dump h),
      hSavable.defaulted_written (by decide) (.tail _ (.tail _ (.head _))) rfl rfl,
      hSavable.unknown_written, rfl⟩
  | unsupported className =>
    have hRead := checkUnsupported_dump className "UnsupportedDefinition"
    rw [dump, dumpUnsupported_eq] at hJson ⊢
    rw [dumpUnsupported_eq] at hRead
    refine (check_eq_ok_iff (Value.isJson_map_iff.mp hJson)).mpr
      (.inr (.inr ⟨?_, className, hRead, rfl⟩))
    exact (isSavable_unsupported className).value?_kind

end Definition

namespace BranchProperty

variable {branch : BranchProperty}

def values (branch : BranchProperty) : List (String × Value) :=
  [("name", .text branch.name), ("scm", dumpOptional (Checkout.dump .manifest) branch.checkout)]

theorem isSavable (branch : BranchProperty) : IsSavable [nameField, scmField] branch.values [] :=
  .of_fields rfl (by decide)

theorem isJson_dump (h : AllJson branch.extensions) : (branch.dump .manifest).IsJson := by
  have hCheckout := isJson_dumpOptional fun checkout hMem =>
    Checkout.isJson_dump (allJson_elim_iff.mp h checkout hMem)
  exact branch.isSavable.isJson_dumpRecord (by simp [values, hCheckout])

theorem check_dump (h : AllJson branch.extensions) :
    check (branch.dump .manifest) = .ok branch := by
  have hSavable := branch.isSavable
  have hJson := isJson_dump h
  rw [dump, dumpRecord_nil] at hJson ⊢
  refine (check_eq_ok_iff (Value.isJson_map_iff.mp hJson)).mpr ⟨?_, ?_, hSavable.unknown_written⟩
  · exact hSavable.required_written (by decide) (.head _) rfl rfl
  · have hRead := hSavable.optional_written (f := id) (by decide : scmField ∈ _) (.tail _ (.head _))
      Checkout.isNull_dump fun checkout hMem =>
        Checkout.check_dump (allJson_elim_iff.mp h checkout hMem)
    rwa [Option.map_id] at hRead

end BranchProperty

namespace Job

variable {job : Job}

def values (job : Job) : List (String × Value) :=
  [("fullName", .text job.fullName),
    ("definition", dumpOptional (Definition.dump .manifest) job.definition),
    ("branch", dumpOptional (BranchProperty.dump .manifest) job.branch)]

theorem isSavable (job : Job) : IsSavable fields job.values [] := .of_fields rfl (by decide)

theorem isJson_dump (h : AllJson job.extensions) : (job.dump .manifest).IsJson := by
  obtain ⟨hDefinition, hBranch⟩ := List.forall_mem_append.mp h
  have hDefinition := isJson_dumpOptional fun d hMem =>
    Definition.isJson_dump (allJson_elim_iff.mp hDefinition d hMem)
  have hBranch := isJson_dumpOptional fun branch hMem =>
    BranchProperty.isJson_dump (allJson_elim_iff.mp hBranch branch hMem)
  exact job.isSavable.isJson_dumpRecord (by simp [values, hDefinition, hBranch])

theorem check_dump (h : AllJson job.extensions) : check (job.dump .manifest) = .ok job := by
  have hSavable := job.isSavable
  have hJson := isJson_dump h
  obtain ⟨hDefinition, hBranch⟩ := List.forall_mem_append.mp h
  rw [dump, dumpRecord_nil] at hJson ⊢
  refine (check_eq_ok_iff (Value.isJson_map_iff.mp hJson)).mpr ⟨?_, ?_, ?_, hSavable.unknown_written⟩
  · exact hSavable.defaulted_written (by decide) (.head _) rfl rfl
  · have hRead := hSavable.optional_written (f := id) (by decide : definitionField ∈ fields)
      (.tail _ (.head _)) Definition.isNull_dump fun d hMem =>
        Definition.check_dump (allJson_elim_iff.mp hDefinition d hMem)
    rwa [Option.map_id] at hRead
  · have hRead := hSavable.optional_written (f := id) (by decide : branchField ∈ fields)
      (.tail _ (.tail _ (.head _))) (fun _ => rfl) fun branch hMem =>
        BranchProperty.check_dump (allJson_elim_iff.mp hBranch branch hMem)
    rwa [Option.map_id] at hRead

end Job

end BuildSync
