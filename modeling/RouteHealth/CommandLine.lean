import RouteHealth.CommandLine.Line
import RouteHealth.CommandLine.Options
import RouteHealth.Policy.Json
import RouteHealth.Update.Batch

/-!
# The command

The command reads a document with a policy, overrides and routes, and prints one line for each
message.  All UPDATE messages are rendered before the first of them is printed.  Where its arguments ask
for a page it prints the page and reads nothing.
-/

namespace RouteHealth.CommandLine

/-- what a document holds -/
structure Document where
  policy : Policy
  overrides : Option Overrides
  routes : RouteSet

namespace Document

/-- the names of the fields, in order -/
def fieldNames : List String := ["advert", "parameters", "routes"]

/-- overrides, which may be given as `null` -/
def overrides? : Json → Option (Option Overrides)
  | .null => some none
  | j => (Overrides.ofJson? j).map some

def ofJson? (j : Json) : Option Document := do
  match ← j.fields? fieldNames with
  | [some policy, overrides, some routes] =>
    let policy ← Policy.ofJson? policy
    let overrides ← Json.field overrides? none overrides
    let routes ← RouteSet.ofJson? routes
    return { policy, overrides, routes }
  | _ => none

def ofText? (s : String) : Option Document := (Json.ofText? s).bind ofJson?

/-- the policy of a document for a given peer, or for the peer it names -/
def effectivePolicy (d : Document) (peerAsn : Option UInt16) : Policy :=
  let peerAsn := peerAsn.getD d.policy.peerAsn
  match d.overrides with
  | some overrides => d.policy.override overrides peerAsn
  | none => { d.policy with peerAsn }

end Document

/-- why the command fails -/
inductive Failure where
  | usage
  | input
  | render (cause : RenderError)
  deriving DecidableEq

def Failure.exitCode : Failure → UInt8
  | usage => 2
  | input | render _ => 1

/-- what the command prints and how it ends -/
structure Outcome where
  lines : List String
  failure : Option Failure
  deriving DecidableEq

def Outcome.exitCode (o : Outcome) : UInt8 :=
  match o.failure with
  | none => 0
  | some f => f.exitCode

def line (json : Bool) (m : Message) : String := (Line.ofMessage m).text json

def Document.outcome (d : Document) (o : Options) : Outcome :=
  let policy := d.effectivePolicy o.peerAsn
  let opening :=
    if o.withOpen then
      [line o.json (.opening (policy.openMessage o.holdTime (o.routerId.getD policy.nextHop)))]
    else []
  match policy.renderBatch d.routes with
  | .ok messages => ⟨opening ++ messages.map (line o.json), none⟩
  | .error e => ⟨opening, some (.render e)⟩

/-- the outcome of a command, where `read` gives the text of a file -/
def run (read : String → Option String) (args : List String) : Outcome :=
  match Options.ofArguments args with
  | .error .usage => ⟨[], some .usage⟩
  | .error (.page p) => ⟨p.lines, none⟩
  | .ok o =>
    match (read o.file).bind Document.ofText? with
    | none => ⟨[], some .input⟩
    | some d => d.outcome o

end RouteHealth.CommandLine
