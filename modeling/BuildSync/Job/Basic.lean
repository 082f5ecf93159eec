import BuildSync.Manifest.Basic

/-!
# Job snapshots

The state of a pipeline job: the definition it runs and the branch it was discovered for.
-/

set_option autoImplicit false

namespace BuildSync

/-- A repository endpoint. One with credentials only carries them without naming a URL. -/
structure Remote where
  url : Option String
  name : Option String
  refspec : Option String
  credentialsId : Option String
  deriving DecidableEq, Repr

def Remote.empty : Remote := ⟨none, none, none, none⟩

structure BranchSpec where
  name : String
  deriving DecidableEq, Repr

/-- A git checkout. Only its first remote and its first branch matter to the sync. -/
structure GitCheckout where
  remotes : List Remote
  branches : List BranchSpec
  extensions : List Entries

namespace GitCheckout

def url? (scm : GitCheckout) : Option String :=
  scm.remotes.head?.bind fun remote => nonempty remote.url

def branch? (scm : GitCheckout) : Option String := scm.branches.head?.map BranchSpec.name

def addRemote (scm : GitCheckout) (remote : Remote) : GitCheckout :=
  { scm with remotes := scm.remotes ++ [remote] }

end GitCheckout

inductive Checkout
  | git (scm : GitCheckout)
  | unsupported (className : String)

def Checkout.git? : Checkout → Option GitCheckout
  | .git scm => some scm
  | .unsupported _ => none

/-- What a pipeline job runs: a script of its own, or one read from a checkout. -/
inductive Definition
  | inline (script : String) (sandbox : Bool)
  | scm (checkout : Checkout) (scriptPath : String)
  | unsupported (className : String)

def definitionLabel : Option Definition → String
  | none => "none"
  | some (.inline _ _) => "inline"
  | some (.scm _ _) => "scm"
  | some (.unsupported className) => if className = "" then "unsupported" else className

structure BranchProperty where
  name : String
  checkout : Option Checkout

structure Job where
  fullName : String
  definition : Option Definition
  branch : Option BranchProperty

end BuildSync
