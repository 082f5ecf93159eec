import BuildSync.Manifest.Basic
import BuildSync.Validation

/-!
# Reading a BuildConfig

A block accepts unknown keys and carries them along. Absent and null are the same for a field that
may be absent.
-/

set_option autoImplicit false

namespace BuildSync

namespace GitSource

def uriField : Spelling := .word "uri"
def refField : Spelling := .word "ref"
def fields : List Spelling := [uriField, refField]

def check : Value → Checked GitSource :=
  Value.record "GitBuildSource" fun r =>
    GitSource.mk <$> r.optional uriField Value.checkText <*> r.optional refField Value.checkText
      <*> r.extras fields

end GitSource

namespace SecretReference

def nameField : Spelling := .word "name"
def fields : List Spelling := [nameField]

def check : Value → Checked SecretReference :=
  Value.record "SecretReference" fun r =>
    SecretReference.mk <$> r.required nameField Value.checkNonemptyText <*> r.extras fields

end SecretReference

namespace BuildSource

def typeField : Spelling := .word "type"
def gitField : Spelling := .word "git"
def contextDirField : Spelling := ⟨"contextDir", "context_dir"⟩
def sourceSecretField : Spelling := ⟨"sourceSecret", "source_secret"⟩
def fields : List Spelling := [typeField, gitField, contextDirField, sourceSecretField]

def check : Value → Checked BuildSource :=
  Value.record "BuildSource" fun r =>
    BuildSource.mk <$> r.optional typeField Value.checkText <*> r.optional gitField GitSource.check
      <*> r.optional contextDirField Value.checkText
      <*> r.optional sourceSecretField SecretReference.check <*> r.extras fields

end BuildSource

namespace PipelineStrategy

def scriptField : Spelling := .word "jenkinsfile"
def scriptPathField : Spelling := ⟨"jenkinsfilePath", "jenkinsfile_path"⟩
def fields : List Spelling := [scriptField, scriptPathField]

def check : Value → Checked PipelineStrategy :=
  Value.record "JenkinsPipelineStrategy" fun r =>
    PipelineStrategy.mk <$> r.optional scriptField Value.checkText
      <*> r.optional scriptPathField Value.checkText <*> r.extras fields

end PipelineStrategy

namespace BuildStrategy

def typeField : Spelling := .word "type"
def pipelineField : Spelling := ⟨"jenkinsPipelineStrategy", "jenkins_pipeline_strategy"⟩
def fields : List Spelling := [typeField, pipelineField]

def check : Value → Checked BuildStrategy :=
  Value.record "BuildStrategy" fun r =>
    BuildStrategy.mk <$> r.optional typeField Value.checkText
      <*> r.optional pipelineField PipelineStrategy.check <*> r.extras fields

end BuildStrategy

namespace BuildSpec

def sourceField : Spelling := .word "source"
def strategyField : Spelling := .word "strategy"
def fields : List Spelling := [sourceField, strategyField]

def check : Value → Checked BuildSpec :=
  Value.record "BuildConfigSpec" fun r =>
    BuildSpec.mk <$> r.optional sourceField BuildSource.check
      <*> r.optional strategyField BuildStrategy.check <*> r.extras fields

end BuildSpec

namespace ObjectMeta

def spaceField : Spelling := .word "namespace"
def nameField : Spelling := .word "name"
def fields : List Spelling := [spaceField, nameField]

def model : String := "ObjectMeta"

def check : Value → Checked ObjectMeta :=
  Value.record model fun r =>
    ObjectMeta.mk <$> r.defaulted spaceField "" Value.checkText
      <*> r.required nameField Value.checkNonemptyText <*> r.extras fields

end ObjectMeta

namespace BuildConfig

def apiVersionField : Spelling := ⟨"apiVersion", "api_version"⟩
def kindField : Spelling := .word "kind"
def metadataField : Spelling := .word "metadata"
def specField : Spelling := .word "spec"
def fields : List Spelling := [apiVersionField, kindField, metadataField, specField]

def model : String := "BuildConfig"

def defaultApiVersion : String := "build.openshift.io/v1"

def check : Value → Checked BuildConfig :=
  Value.record model fun r =>
    BuildConfig.mk <$> r.defaulted apiVersionField defaultApiVersion Value.checkText
      <*> r.defaulted kindField model Value.checkText
      <*> r.required metadataField ObjectMeta.check <*> r.optional specField BuildSpec.check
      <*> r.extras fields

def ofValue (v : Value) : Except ValidationError BuildConfig := (check v).toExcept model

end BuildConfig

end BuildSync
