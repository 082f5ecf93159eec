import BuildSync.Main
import BuildSync.Session
import BuildSync.Double.Basic
import BuildSync.Double.Text
import BuildSync.Text.Base64
import BuildSync.Text.Digit
import BuildSync.Proofs.Path.Context
import BuildSync.Proofs.Manifest.Blocks
import BuildSync.Proofs.Sync.Effect
import BuildSync.Proofs.Sync.Tracked
import BuildSync.Proofs.Sync.Idempotence
import BuildSync.Proofs.Sync.RoundTrip
import BuildSync.Proofs.Sync.Debt
import BuildSync.Proofs.Sync.Settling
import BuildSync.Proofs.Sync.Carried
import BuildSync.Proofs.Sync.LastWriter
import BuildSync.Proofs.Sync.Footprint
import BuildSync.Proofs.Sync.Patch
import BuildSync.Proofs.Sync.Credential
import BuildSync.Proofs.Sync.ScriptPath
import BuildSync.Proofs.Sync.SecretRemote
import BuildSync.Proofs.Manifest.Canonical
import BuildSync.Proofs.Manifest.Reload
import BuildSync.Proofs.Job.RoundTrip
import BuildSync.Proofs.Sync.Namespace
import BuildSync.Proofs.Settings.Precedence
import BuildSync.Proofs.Command.FixedPoint
import BuildSync.Proofs.Sync.Erasure
import BuildSync.Proofs.Sync.Discovered
import BuildSync.Proofs.Sync.Respelled
import BuildSync.Proofs.Job.Respelling
import BuildSync.Proofs.Path.Names
import BuildSync.Proofs.Report.Changes
import BuildSync.Proofs.Command.Output
