import BuildSync.Job.Check
import BuildSync.Proofs.Document.Reading

/-!
# What is read into a job

A part of a job is read from a JSON object exactly where each of its fields is and no other key is
there. A definition and a checkout are read as the variant that their kind names.
-/

set_option autoImplicit false

namespace BuildSync

/-! ### Extensions -/

theorem foldl_extension {entries : Entries}
    (hText : ∀ key ∈ entries.keys, ∃ name, key = .text name) :
    ∀ done : Entries,
      entries.foldl
        (fun done e =>
          (fun done name => Entries.put done (.text name) e.2) <$> done
            <*> (e.1.checkText.under (.key "[key]")).under (Entries.keyStep e.1))
        (.ok done) = Checked.ok (entries.foldl (fun done e => done.put e.1 e.2) done) := by
  induction entries with
  | nil => exact fun _ => rfl
  | cons e entries ih =>
    intro done
    obtain ⟨key, v⟩ := e
    obtain ⟨name, rfl⟩ := hText key List.mem_cons_self
    -- a text is checked to be itself, so that one entry is put and the rest follows
    have hNext := ih (fun key h => hText key (List.mem_cons_of_mem _ h)) (done.put (.text name) v)
    exact hNext

theorem checkExtension_eq_ok_iff {v : Value} (h : v.IsJson) {extension : Entries} :
    checkExtension v = .ok extension ↔ v = .map extension := by
  cases h with
  | scalar => simp [checkExtension, Value.entries?, Checked.fail]
  | list => simp [checkExtension, Value.entries?, Checked.fail]
  | @map entries hObject hValues =>
    have hJson : entries.IsJson := ⟨hObject, hValues⟩
    simp only [checkExtension, hJson.entries?, foldl_extension hObject.text,
      Value.foldl_put_eq_append [] hObject.nodup]
    simp

section

variable {r : Entries} (h : r.IsJson)

include h

theorem Remote.check_eq_ok_iff {remote : Remote} :
    Remote.check (.map r) = .ok remote ↔
      r.optional urlField Value.checkText = .ok remote.url ∧
        r.optional nameField Value.checkText = .ok remote.name ∧
        r.optional refspecField Value.checkText = .ok remote.refspec ∧
        r.optional credentialsIdField Value.checkText = .ok remote.credentialsId ∧
        r.unknown fields = [] := by
  obtain ⟨url, name, refspec, credentialsId⟩ := remote
  rw [check, Value.record_of_isJson h]
  simp [Entries.noExtras_eq_ok_iff, and_assoc]

theorem BranchSpec.check_eq_ok_iff {branch : BranchSpec} :
    BranchSpec.check (.map r) = .ok branch ↔
      r.required nameField Value.checkText = .ok branch.name ∧ r.unknown [nameField] = [] := by
  obtain ⟨name⟩ := branch
  rw [check, Value.record_of_isJson h]
  simp [Entries.noExtras_eq_ok_iff]

theorem GitCheckout.check_eq_ok_iff {scm : GitCheckout} :
    GitCheckout.check (.map r) = .ok scm ↔
      (∀ v ∈ r.value? kindTag, v = .text "git") ∧
        r.defaulted remotesField [] (Value.checkList Remote.check) = .ok scm.remotes ∧
        r.defaulted branchesField [] (Value.checkList BranchSpec.check) = .ok scm.branches ∧
        r.defaulted extensionsField [] (Value.checkList checkExtension) = .ok scm.extensions ∧
        r.unknown fields = [] := by
  obtain ⟨remotes, branches, extensions⟩ := scm
  rw [check, Value.record_of_isJson h]
  simp [Entries.noExtras_eq_ok_iff, Entries.defaulted_checkLiteral_eq_ok_iff, and_assoc]

theorem checkUnsupported_eq_ok_iff {model className : String} :
    checkUnsupported model (.map r) = .ok className ↔
      r.defaulted classNameField "" Value.checkText = .ok className ∧
        r.unknown [kindTag, classNameField] = [] := by
  rw [checkUnsupported, Value.record_of_isJson h]
  simp [Entries.noExtras_eq_ok_iff]

theorem Definition.checkInline_eq_ok_iff {d : Definition} :
    checkInline (.map r) = .ok d ↔
      ∃ script sandbox, r.required scriptField Value.checkText = .ok script ∧
        r.defaulted sandboxField true Value.checkBool = .ok sandbox ∧
        r.unknown [kindTag, scriptField, sandboxField] = [] ∧ .inline script sandbox = d := by
  rw [checkInline, Value.record_of_isJson h]
  simp [Entries.noExtras_eq_ok_iff, -Bool.exists_bool]

theorem Definition.checkScm_eq_ok_iff {d : Definition} :
    checkScm (.map r) = .ok d ↔
      ∃ checkout path, r.required scmField Checkout.check = .ok checkout ∧
        r.defaulted scriptPathField "" Value.checkText = .ok path ∧
        r.unknown [kindTag, scmField, scriptPathField] = [] ∧ .scm checkout path = d := by
  rw [checkScm, Value.record_of_isJson h]
  simp [Entries.noExtras_eq_ok_iff]

theorem Checkout.check_eq_ok_iff {checkout : Checkout} :
    check (.map r) = .ok checkout ↔
      (r.value? kindTag = some (.text "git") ∧
          ∃ scm, GitCheckout.check (.map r) = .ok scm ∧ .git scm = checkout) ∨
        (r.value? kindTag = some (.text "unsupported") ∧
          ∃ className, checkUnsupported "UnsupportedScm" (.map r) = .ok className ∧
            .unsupported className = checkout) := by
  rw [check, Value.variant_eq_ok_iff h]
  simp [kindTag]

theorem Definition.check_eq_ok_iff {d : Definition} :
    check (.map r) = .ok d ↔
      (r.value? kindTag = some (.text "inline") ∧ checkInline (.map r) = .ok d) ∨
        (r.value? kindTag = some (.text "scm") ∧ checkScm (.map r) = .ok d) ∨
        (r.value? kindTag = some (.text "unsupported") ∧
          ∃ className, checkUnsupported "UnsupportedDefinition" (.map r) = .ok className ∧
            .unsupported className = d) := by
  rw [check, Value.variant_eq_ok_iff h]
  simp [kindTag]

theorem BranchProperty.check_eq_ok_iff {branch : BranchProperty} :
    check (.map r) = .ok branch ↔
      r.required nameField Value.checkText = .ok branch.name ∧
        r.optional scmField Checkout.check = .ok branch.checkout ∧
        r.unknown [nameField, scmField] = [] := by
  obtain ⟨name, checkout⟩ := branch
  rw [check, Value.record_of_isJson h]
  simp [Entries.noExtras_eq_ok_iff]

theorem Job.check_eq_ok_iff {job : Job} :
    check (.map r) = .ok job ↔
      r.defaulted fullNameField "" Value.checkText = .ok job.fullName ∧
        r.optional definitionField Definition.check = .ok job.definition ∧
        r.optional branchField BranchProperty.check = .ok job.branch ∧
        r.unknown fields = [] := by
  obtain ⟨fullName, definition, branch⟩ := job
  rw [check, Value.record_of_isJson h]
  simp [Entries.noExtras_eq_ok_iff, and_assoc]

end
end BuildSync
