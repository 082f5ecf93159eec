import BuildSync.Manifest.Basic

/-!
# Credentials for source secrets

A bridge knows which credential a source secret maps to. It may answer, or fail in two ways; either
way the sync gets a credential or the reason there is none.
-/

set_option autoImplicit false

namespace BuildSync

inductive Unavailability
  | notConfigured
  | notFound
  | backendUnavailable
  deriving DecidableEq, Repr

def Unavailability.text : Unavailability → String
  | .notConfigured => "not-configured"
  | .notFound => "not-found"
  | .backendUnavailable => "backend-unavailable"

inductive CredentialResult
  | resolved (id : String)
  | unavailable (reason : Unavailability) (detail : String)
  deriving DecidableEq, Repr

structure Refusal where
  secret : String
  reason : Unavailability
  detail : String
  deriving DecidableEq, Repr

def Refusal.message (refusal : Refusal) : String :=
  let detail := if refusal.detail = "" then "" else ": " ++ refusal.detail
  "Cannot resolve credentials for secret '" ++ refusal.secret ++ "' (" ++ refusal.reason.text ++
    ")" ++ detail

/-- What a bridge does with a secret: it answers, refuses, or breaks down. -/
inductive BridgeReply
  | answer (result : CredentialResult)
  | refuse (refusal : Refusal)
  | breakdown (kind text : String)
  deriving DecidableEq, Repr

abbrev Bridge := String → ObjectMeta → BridgeReply

structure Lookup where
  secret : String
  owner : ObjectMeta

/-- The result of a reply. A breakdown counts as an unavailable backend. -/
def BridgeReply.result : BridgeReply → CredentialResult
  | .answer result => result
  | .refuse refusal => .unavailable refusal.reason refusal.message
  | .breakdown kind text => .unavailable .backendUnavailable (kind ++ ": " ++ text)

/-- Derives credential ids from secret names: with the namespace of the owner in front when
`namespaced`, and for the secrets in `known` only when there is such a list. -/
structure SecretNames where
  namespaced : Bool
  known : Option (List String)
  deriving DecidableEq, Repr

namespace SecretNames

def knows (names : SecretNames) (secret : String) : Bool :=
  match names.known with
  | some known => known.contains secret
  | none => true

def resolve (names : SecretNames) (secret : String) (owner : ObjectMeta) : CredentialResult :=
  if !names.knows secret then .unavailable .notFound ("secret '" ++ secret ++ "' is not synced")
  else if names.namespaced && owner.space != "" then .resolved (owner.space ++ "-" ++ secret)
  else .resolved secret

def bridge (names : SecretNames) : Bridge :=
  fun secret owner => .answer (names.resolve secret owner)

end SecretNames

structure Resolution where
  result : CredentialResult
  lookups : List Lookup

/-- Resolves the source secret of a BuildConfig; without one the bridge is not asked. -/
def Bridge.consult (bridge : Bridge) (bc : BuildConfig) : Resolution :=
  match bc.source.bind BuildSource.sourceSecret with
  | none => ⟨.unavailable .notConfigured "", []⟩
  | some secret => ⟨(bridge secret.name bc.metadata).result, [⟨secret.name, bc.metadata⟩]⟩

end BuildSync
