import BuildSync.Credential
import BuildSync.Job.Basic
import BuildSync.Ref
import BuildSync.Text.Blank

/-!
# Sources and checkouts

The checkout of a BuildConfig's git source, and the way back.
-/

set_option autoImplicit false

namespace BuildSync

/-- Finds a credential for a source secret; a source without one, or without a bridge, is checked
out anonymously. -/
def findCredential (bridge : Option Bridge) (bc : BuildConfig) : Option Resolution :=
  match bc.source.bind BuildSource.sourceSecret, bridge with
  | some _, some bridge => some (Bridge.consult bridge bc)
  | _, _ => none

def CredentialResult.id? : CredentialResult → Option String
  | .resolved id => some id
  | .unavailable _ _ => none

structure BuiltCheckout where
  scm : Option GitCheckout
  lookups : List Lookup

/-- The branch specs of a ref. No spec means the default branch. -/
def branchesOf (ref : String) : List BranchSpec := if Text.allBlank ref then [] else [⟨ref⟩]

def checkoutOf (uri : String) (ref : Option String) (credentialsId : Option String) : GitCheckout :=
  let ref := ref.getD ""
  { remotes := [⟨some uri, none, nonempty (some ref), credentialsId⟩]
    branches := branchesOf ref
    extensions := [] }

def BuildConfig.repository (bc : BuildConfig) : Option (String × Option String) :=
  bc.git.bind fun git => (nonempty git.uri).map fun uri => (uri, git.ref)

/-- The checkout of a BuildConfig's git source; none without a repository. -/
def buildCheckout (bridge : Option Bridge) (bc : BuildConfig) : BuiltCheckout :=
  match bc.repository with
  | none => ⟨none, []⟩
  | some (uri, ref) =>
    let found := findCredential bridge bc
    { scm := some (checkoutOf uri ref (found.bind fun r => r.result.id?))
      lookups := (found.map Resolution.lookups).getD [] }

/-- The ref a checkout is synced to: the override, or the first branch without decorations. -/
def GitCheckout.ref (scm : GitCheckout) (refOverride : Option String) : Option String :=
  match nonempty refOverride with
  | some ref => some ref
  | none => nonempty (scm.branch?.map Ref.undecorated)

/-- Creates the source where there is none and makes it a git one. -/
def BuildConfig.asGit (bc : BuildConfig) : BuildConfig :=
  bc.withSource { bc.sourceOrEmpty with type := some gitSourceType }

/-- Copies the first remote and the ref of a checkout into the git source. A checkout without a URL
only makes the source a git one. -/
def applyCheckout (bc : BuildConfig) (scm : GitCheckout) (refOverride : Option String) :
    BuildConfig :=
  match scm.url? with
  | none => bc.asGit
  | some url => bc.asGit.withRemote url (scm.ref refOverride)

end BuildSync
