import BuildSync.Dump
import BuildSync.Job.Basic

/-!
# Writing a job snapshot

Fields are written in camel case, and every definition and checkout with its kind.
-/

set_option autoImplicit false

namespace BuildSync

variable (style : DumpStyle)

def Remote.dump (remote : Remote) : Value :=
  dumpRecord style
    [("url", .optionalText remote.url), ("name", .optionalText remote.name),
      ("refspec", .optionalText remote.refspec),
      ("credentialsId", .optionalText remote.credentialsId)]
    []

def BranchSpec.dump (branch : BranchSpec) : Value :=
  dumpRecord style [("name", .text branch.name)] []

def GitCheckout.dump (scm : GitCheckout) : Value :=
  dumpRecord style
    [("kind", .text "git"), ("userRemoteConfigs", .list (scm.remotes.map (Remote.dump style))),
      ("branches", .list (scm.branches.map (BranchSpec.dump style))),
      ("extensions", .list (scm.extensions.map fun e => .map (Value.plainEntries e [])))]
    []

def dumpUnsupported (className : String) : Value :=
  dumpRecord style [("kind", .text "unsupported"), ("className", .text className)] []

def Checkout.dump : Checkout → Value
  | .git scm => scm.dump style
  | .unsupported className => dumpUnsupported style className

def Definition.dump : Definition → Value
  | .inline script sandbox =>
    dumpRecord style
      [("kind", .text "inline"), ("script", .text script), ("sandbox", .bool sandbox)] []
  | .scm checkout scriptPath =>
    dumpRecord style
      [("kind", .text "scm"), ("scm", checkout.dump style), ("scriptPath", .text scriptPath)] []
  | .unsupported className => dumpUnsupported style className

def BranchProperty.dump (branch : BranchProperty) : Value :=
  dumpRecord style
    [("name", .text branch.name), ("scm", dumpOptional (Checkout.dump style) branch.checkout)] []

def Job.dump (job : Job) : Value :=
  dumpRecord style
    [("fullName", .text job.fullName),
      ("definition", dumpOptional (Definition.dump style) job.definition),
      ("branch", dumpOptional (BranchProperty.dump style) job.branch)]
    []

def GitCheckout.dumpFault? (scm : GitCheckout) : Option DumpFault :=
  scm.extensions.findSome? Entries.dumpFault?

def Definition.dumpFault? : Definition → Option DumpFault
  | .scm checkout _ => checkout.git?.bind GitCheckout.dumpFault?
  | _ => none

def Job.dumpFault? (job : Job) : Option DumpFault :=
  job.definition.bind Definition.dumpFault? <|>
    ((job.branch.bind BranchProperty.checkout).bind Checkout.git?).bind GitCheckout.dumpFault?

end BuildSync
