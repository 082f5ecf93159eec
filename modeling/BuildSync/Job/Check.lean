import BuildSync.Job.Basic
import BuildSync.Validation

/-!
# Reading a job snapshot

A snapshot accepts no unknown key. Definitions and checkouts name their variant under `kind`.
-/

set_option autoImplicit false

namespace BuildSync

def kindTag : Spelling := .word "kind"

namespace Remote

def urlField : Spelling := .word "url"
def nameField : Spelling := .word "name"
def refspecField : Spelling := .word "refspec"
def credentialsIdField : Spelling := ⟨"credentialsId", "credentials_id"⟩
def fields : List Spelling := [urlField, nameField, refspecField, credentialsIdField]

def model : String := "UserRemoteConfig"

def check : Value → Checked Remote :=
  Value.record model fun r =>
    (fun url name refspec credentialsId _ => Remote.mk url name refspec credentialsId)
      <$> r.optional urlField Value.checkText <*> r.optional nameField Value.checkText
      <*> r.optional refspecField Value.checkText
      <*> r.optional credentialsIdField Value.checkText <*> r.noExtras fields

def ofValue (v : Value) : Except ValidationError Remote := (check v).toExcept model

end Remote

namespace BranchSpec

def nameField : Spelling := .word "name"

def check : Value → Checked BranchSpec :=
  Value.record "BranchSpec" fun r =>
    (fun name _ => BranchSpec.mk name) <$> r.required nameField Value.checkText
      <*> r.noExtras [nameField]

end BranchSpec

/-- An extension is a map with any values whose keys are texts. -/
def checkExtension (v : Value) : Checked Entries :=
  match v.entries? with
  | some entries =>
    entries.foldl
      (fun done e =>
        (fun done name => Entries.put done (.text name) e.2) <$> done
          <*> (e.1.checkText.under (.key "[key]")).under (Entries.keyStep e.1))
      (.ok [])
  | none => .fail .notDictionary

namespace GitCheckout

def remotesField : Spelling := ⟨"userRemoteConfigs", "user_remote_configs"⟩
def branchesField : Spelling := .word "branches"
def extensionsField : Spelling := .word "extensions"
def fields : List Spelling := [kindTag, remotesField, branchesField, extensionsField]

def model : String := "GitScm"

/-- A checkout known to be a git one; its kind may be absent. -/
def check : Value → Checked GitCheckout :=
  Value.record model fun r =>
    (fun _ remotes branches extensions _ => GitCheckout.mk remotes branches extensions)
      <$> r.defaulted kindTag () (Value.checkLiteral "git")
      <*> r.defaulted remotesField [] (Value.checkList Remote.check)
      <*> r.defaulted branchesField [] (Value.checkList BranchSpec.check)
      <*> r.defaulted extensionsField [] (Value.checkList checkExtension) <*> r.noExtras fields

def ofValue (v : Value) : Except ValidationError GitCheckout := (check v).toExcept model

end GitCheckout

def classNameField : Spelling := ⟨"className", "class_name"⟩

def checkUnsupported (model : String) : Value → Checked String :=
  Value.record model fun r =>
    (fun className _ => className) <$> r.defaulted classNameField "" Value.checkText
      <*> r.noExtras [kindTag, classNameField]

namespace Checkout

def check : Value → Checked Checkout :=
  Value.variant ["git", "unsupported"] fun tag v =>
    if tag = "git" then .git <$> GitCheckout.check v
    else .unsupported <$> checkUnsupported "UnsupportedScm" v

end Checkout

namespace Definition

def scriptField : Spelling := .word "script"
def sandboxField : Spelling := .word "sandbox"
def scmField : Spelling := .word "scm"
def scriptPathField : Spelling := ⟨"scriptPath", "script_path"⟩

def checkInline : Value → Checked Definition :=
  Value.record "InlineScript" fun r =>
    (fun script sandbox _ => Definition.inline script sandbox)
      <$> r.required scriptField Value.checkText <*> r.defaulted sandboxField true Value.checkBool
      <*> r.noExtras [kindTag, scriptField, sandboxField]

def checkScm : Value → Checked Definition :=
  Value.record "ScmScript" fun r =>
    (fun checkout scriptPath _ => Definition.scm checkout scriptPath)
      <$> r.required scmField Checkout.check <*> r.defaulted scriptPathField "" Value.checkText
      <*> r.noExtras [kindTag, scmField, scriptPathField]

def check : Value → Checked Definition :=
  Value.variant ["inline", "scm", "unsupported"] fun tag v =>
    if tag = "inline" then checkInline v
    else if tag = "scm" then checkScm v
    else .unsupported <$> checkUnsupported "UnsupportedDefinition" v

end Definition

namespace BranchProperty

def nameField : Spelling := .word "name"
def scmField : Spelling := .word "scm"

def check : Value → Checked BranchProperty :=
  Value.record "BranchProperty" fun r =>
    (fun name checkout _ => BranchProperty.mk name checkout)
      <$> r.required nameField Value.checkText <*> r.optional scmField Checkout.check
      <*> r.noExtras [nameField, scmField]

end BranchProperty

namespace Job

def fullNameField : Spelling := ⟨"fullName", "full_name"⟩
def definitionField : Spelling := .word "definition"
def branchField : Spelling := .word "branch"
def fields : List Spelling := [fullNameField, definitionField, branchField]

def model : String := "JobSnapshot"

def check : Value → Checked Job :=
  Value.record model fun r =>
    (fun fullName definition branch _ => Job.mk fullName definition branch)
      <$> r.defaulted fullNameField "" Value.checkText
      <*> r.optional definitionField Definition.check
      <*> r.optional branchField BranchProperty.check <*> r.noExtras fields

def ofValue (v : Value) : Except ValidationError Job := (check v).toExcept model

end Job

end BuildSync
