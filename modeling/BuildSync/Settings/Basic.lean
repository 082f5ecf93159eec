import BuildSync.Validation

/-!
# Settings

The four settings of the sync, each decided by the first source that sets it.
-/

set_option autoImplicit false

namespace BuildSync

structure Settings where
  /-- The script path of a pipeline that stores none. -/
  defaultScriptPath : String
  /-- The sandbox flag of inline definitions. -/
  sandbox : Bool
  /-- Whether a checkout edit refreshes the repository and its ref. -/
  syncRemote : Bool
  /-- Whether credential ids carry the namespace of the secret. -/
  prefixNamespace : Bool
  deriving DecidableEq, Repr

namespace Settings

def model : String := "SyncSettings"

def defaultScriptPathField : Spelling := .word "default_jenkinsfile_path"
def sandboxField : Spelling := .word "sandbox"
def syncRemoteField : Spelling := .word "sync_remote"
def prefixNamespaceField : Spelling := .word "credentials_prefix_namespace"

def fields : List Spelling :=
  [defaultScriptPathField, sandboxField, syncRemoteField, prefixNamespaceField]

def defaults : Settings := ⟨"Jenkinsfile", true, true, true⟩

def check : Value → Checked Settings :=
  Value.record model fun r =>
    (fun path sandbox syncRemote prefixNamespace _ =>
        Settings.mk path sandbox syncRemote prefixNamespace)
      <$> r.defaulted defaultScriptPathField defaults.defaultScriptPath Value.checkNonemptyText
      <*> r.defaulted sandboxField defaults.sandbox Value.checkBool
      <*> r.defaulted syncRemoteField defaults.syncRemote Value.checkBool
      <*> r.defaulted prefixNamespaceField defaults.prefixNamespace Value.checkBool
      <*> r.noExtras fields

end Settings

end BuildSync
