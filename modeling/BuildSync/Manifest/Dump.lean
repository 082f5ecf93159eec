import BuildSync.Dump
import BuildSync.Manifest.Basic

/-!
# Writing a BuildConfig

Fields are written in camel case.
-/

set_option autoImplicit false

namespace BuildSync

variable (style : DumpStyle)

def GitSource.dump (git : GitSource) : Value :=
  dumpRecord style [("uri", .optionalText git.uri), ("ref", .optionalText git.ref)] git.extras

def SecretReference.dump (secret : SecretReference) : Value :=
  dumpRecord style [("name", .text secret.name)] secret.extras

def BuildSource.dump (source : BuildSource) : Value :=
  dumpRecord style
    [("type", .optionalText source.type), ("git", dumpOptional (GitSource.dump style) source.git),
      ("contextDir", .optionalText source.contextDir),
      ("sourceSecret", dumpOptional (SecretReference.dump style) source.sourceSecret)]
    source.extras

def PipelineStrategy.dump (strategy : PipelineStrategy) : Value :=
  dumpRecord style
    [("jenkinsfile", .optionalText strategy.script),
      ("jenkinsfilePath", .optionalText strategy.scriptPath)]
    strategy.extras

def BuildStrategy.dump (strategy : BuildStrategy) : Value :=
  dumpRecord style
    [("type", .optionalText strategy.type),
      ("jenkinsPipelineStrategy", dumpOptional (PipelineStrategy.dump style) strategy.pipeline)]
    strategy.extras

def BuildSpec.dump (spec : BuildSpec) : Value :=
  dumpRecord style
    [("source", dumpOptional (BuildSource.dump style) spec.source),
      ("strategy", dumpOptional (BuildStrategy.dump style) spec.strategy)]
    spec.extras

def ObjectMeta.dump (metadata : ObjectMeta) : Value :=
  dumpRecord style [("namespace", .text metadata.space), ("name", .text metadata.name)]
    metadata.extras

def BuildConfig.dump (bc : BuildConfig) : Value :=
  dumpRecord style
    [("apiVersion", .text bc.apiVersion), ("kind", .text bc.kind),
      ("metadata", bc.metadata.dump style), ("spec", dumpOptional (BuildSpec.dump style) bc.spec)]
    bc.extras

/-- What the blocks of a BuildConfig carry along, in the order in which it is written. -/
def BuildConfig.carried (bc : BuildConfig) : List Entries :=
  let source := bc.source.toList
  let strategy := (bc.spec.bind BuildSpec.strategy).toList
  [bc.metadata.extras] ++ source.flatMap (fun s => (s.git.map GitSource.extras).toList) ++
    source.flatMap (fun s => (s.sourceSecret.map SecretReference.extras).toList) ++
    source.map BuildSource.extras ++
    strategy.flatMap (fun s => (s.pipeline.map PipelineStrategy.extras).toList) ++
    strategy.map BuildStrategy.extras ++ (bc.spec.map BuildSpec.extras).toList ++ [bc.extras]

def BuildConfig.dumpFault? (bc : BuildConfig) : Option DumpFault :=
  bc.carried.findSome? Entries.dumpFault?

end BuildSync
