import BuildSync.Credential

/-!
# Events

What the sync reports while it works. An event has a level, the channel it is reported on, and a
text; the texts are all here.
-/

set_option autoImplicit false

namespace BuildSync

inductive Level
  | debug
  | info
  | warning
  | error
  | critical
  deriving DecidableEq, Repr

namespace Level

def all : List Level := [.debug, .info, .warning, .error, .critical]

def name : Level → String
  | .debug => "DEBUG"
  | .info => "INFO"
  | .warning => "WARNING"
  | .error => "ERROR"
  | .critical => "CRITICAL"

def number : Level → Nat
  | .debug => 10
  | .info => 20
  | .warning => 30
  | .error => 40
  | .critical => 50

end Level

inductive Event
  | loadedBuildConfig (bc path : String)
  | loadedJob (job path : String)
  | mapping (bc : String)
  | noRepository (bc : String)
  | noBridge (bc : String)
  | secretUnavailable (bc : String) (reason : Unavailability) (detail : String)
  | noRemoteUrl (bc : String)
  | noPipeline (bc : String)
  | updating (bc job : String)
  | secretRemote (secret : String)
  | scriptPathUpdate (bc path current : String)
  | scriptUpdate (bc : String)
  | cannotUpdate (bc definition : String)
  | fieldChanged (bc path : String)
  deriving DecidableEq, Repr

namespace Event

def level : Event → Level
  | .loadedBuildConfig _ _ | .loadedJob _ _ | .mapping _ | .updating _ _ | .secretRemote _ => .info
  | .noRepository _ | .secretUnavailable _ _ _ | .noPipeline _ | .cannotUpdate _ _ => .warning
  | .noBridge _ | .noRemoteUrl _ | .scriptPathUpdate _ _ _ | .scriptUpdate _
  | .fieldChanged _ _ => .debug

def channel : Event → String
  | .loadedBuildConfig _ _ | .loadedJob _ _ => "config.loader"
  | .mapping _ | .noRepository _ => "engine.mapper"
  | .noBridge _ | .secretUnavailable _ _ _ | .noRemoteUrl _ => "engine.source_config"
  | .noPipeline _ | .updating _ _ | .secretRemote _ | .scriptPathUpdate _ _ _ | .scriptUpdate _
  | .cannotUpdate _ _ | .fieldChanged _ _ => "engine.reconcile"

def text : Event → String
  | .loadedBuildConfig bc path => s!"Loaded BuildConfig {bc} from {path}"
  | .loadedJob job path =>
    let name := if job = "" then "<unnamed>" else job
    s!"Loaded job {name} from {path}"
  | .mapping bc => s!"Mapping BuildConfig {bc} to pipeline definition"
  | .noRepository bc =>
    s!"BuildConfig {bc} has no source repository, cannot map it to a pipeline job"
  | .noBridge bc => s!"No credential bridge, checking out {bc} anonymously"
  | .secretUnavailable bc reason detail =>
    let detail := if detail = "" then "" else ": " ++ detail
    let cause := reason.text ++ detail
    s!"Source secret of BuildConfig {bc} unavailable ({cause}), checking out anonymously"
  | .noRemoteUrl bc => s!"Checkout for BuildConfig {bc} has no remote URL"
  | .noPipeline bc => s!"No JenkinsPipeline strategy available in BuildConfig {bc}"
  | .updating bc job => s!"Updating BuildConfig {bc} from job {job}"
  | .secretRemote secret => s!"Adding build source secret {secret} as remote credentials"
  | .scriptPathUpdate bc path current =>
    s!"Updating BuildConfig {bc} jenkinsfile path to {path} from {current}"
  | .scriptUpdate bc => s!"Updating BuildConfig {bc} inline jenkinsfile"
  | .cannotUpdate bc definition =>
    s!"Cannot update BuildConfig {bc} as the job definition is {definition}"
  | .fieldChanged bc path => s!"BuildConfig {bc}: {path} changed"

end Event

end BuildSync
