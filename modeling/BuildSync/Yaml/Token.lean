/-!
# Tokens

The tokens of a document. The structure of blocks, which is written by indentation, is marked by
tokens of its own.
-/

set_option autoImplicit false

namespace BuildSync.Yaml

/-- A tag as it is written: a handle, if it has one, and the rest. -/
structure WrittenTag where
  handle : Option String
  suffix : String
  deriving DecidableEq, Repr

inductive TokenKind
  | versionDirective (major minor : Nat)
  | tagDirective (handle lead : String)
  | otherDirective
  | documentStart
  | documentEnd
  | streamEnd
  | blockSequenceStart
  | blockMappingStart
  | blockEnd
  | flowSequenceStart
  | flowSequenceEnd
  | flowMappingStart
  | flowMappingEnd
  | blockEntry
  | flowEntry
  | key
  | value
  | alias (name : String)
  | anchor (name : String)
  | tag (written : WrittenTag)
  /-- A scalar by its code points, of which those of an escape may be surrogates. -/
  | scalar (codes : List Nat) (plain : Bool)
  deriving DecidableEq, Repr

structure Token where
  kind : TokenKind
  line : Nat
  deriving DecidableEq, Repr

end BuildSync.Yaml
