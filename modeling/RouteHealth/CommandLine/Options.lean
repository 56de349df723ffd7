import RouteHealth.Address.Text

/-!
# Command line options

One file is named, anywhere among the options.  An option that takes a value takes it from the same
argument (after `=`, or directly after a one-letter option) or from the next argument, which must not
look like an option.  No option may be given twice, and after `--` there are no more options.  Arguments
are read from left to right until the first mistake or the first option that asks for a page.
-/

namespace RouteHealth.CommandLine

/-- what the user asks for -/
structure Options where
  file : String
  peerAsn : Option UInt16 := none
  withOpen : Bool := false
  holdTime : UInt16 := 90
  routerId : Option IPv4 := none
  json : Bool := false
  deriving DecidableEq

/-- the options seen so far -/
structure Seen where
  file : Option String := none
  peerAsn : Option UInt16 := none
  withOpen : Bool := false
  holdTime : Option UInt16 := none
  routerId : Option IPv4 := none
  json : Bool := false

/-- the options that take a value -/
inductive Setting where
  | peerAsn
  | holdTime
  | routerId
  deriving DecidableEq

/-- the options that are either given or not -/
inductive Switch where
  | withOpen
  | json
  deriving DecidableEq

/-- the pages that are printed in place of messages -/
inductive Page where
  | help
  | version
  deriving DecidableEq

def Page.lines : Page → List String
  | .help =>
    ["BGP-4 UPDATE/OPEN/NOTIFICATION encoding for route health injection",
      "",
      "Usage: bgp-rhi [OPTIONS] <FILE>",
      "",
      "Arguments:",
      "  <FILE>  Path to a JSON file holding `advert`, `routes` and optionally `parameters`",
      "",
      "Options:",
      "  -J, --peer-asn <PEER_ASN>    Render for this peer AS instead of the one in the advert",
      "      --open                   Also print the OPEN message body for the session",
      "      --hold-time <HOLD_TIME>  Hold time advertised in the OPEN message [default: 90]",
      "      --router-id <ROUTER_ID>  BGP identifier advertised in the OPEN message. Defaults to the IPv4 next hop",
      "      --json                   Output as JSON objects",
      "  -h, --help                   Print help",
      "  -V, --version                Print version"]
  | .version => ["bgp-rhi 0.1.0"]

/-- the option that takes a value and has a given long name -/
def Setting.ofName? (name : List Char) : Option Setting :=
  if name = "peer-asn".toList then some .peerAsn
  else if name = "hold-time".toList then some .holdTime
  else if name = "router-id".toList then some .routerId
  else none

/-- the option without a value that has a given long name -/
def Switch.ofName? (name : List Char) : Option Switch :=
  if name = "open".toList then some .withOpen
  else if name = "json".toList then some .json
  else none

/-- the page that the option with a given long name asks for -/
def Page.ofName? (name : List Char) : Option Page :=
  if name = "help".toList then some .help
  else if name = "version".toList then some .version
  else none

/-- a number below 65536 with an optional sign and any leading zeros; zero may have a minus sign -/
def word16? (cs : List Char) : Option UInt16 := do
  let (negative, digits) := match cs with
    | '+' :: rest => (false, rest)
    | '-' :: rest => (true, rest)
    | _ => (false, cs)
  let n ← Decimal.ofDigits? digits
  if n ≤ 65535 ∧ (negative → n = 0) then some (UInt16.ofNat n) else none

namespace Seen

/-- notes the file, which must not be named twice nor be empty -/
def addFile? (seen : Seen) (path : String) : Option Seen :=
  if seen.file = none ∧ path ≠ "" then some { seen with file := some path } else none

def set? (seen : Seen) (setting : Setting) (value : List Char) : Option Seen :=
  match setting with
  | .peerAsn =>
    if seen.peerAsn = none then (word16? value).map fun n => { seen with peerAsn := some n }
    else none
  | .holdTime =>
    if seen.holdTime = none then (word16? value).map fun n => { seen with holdTime := some n }
    else none
  | .routerId =>
    if seen.routerId = none then
      (IPv4.ofChars? value).map fun a => { seen with routerId := some a }
    else none

def switch? (seen : Seen) : Switch → Option Seen
  | .withOpen => if seen.withOpen then none else some { seen with withOpen := true }
  | .json => if seen.json then none else some { seen with json := true }

/-- what was asked for, if a file was named -/
def options? (seen : Seen) : Option Options :=
  seen.file.map fun file =>
    { file
      peerAsn := seen.peerAsn
      withOpen := seen.withOpen
      holdTime := seen.holdTime.getD 90
      routerId := seen.routerId
      json := seen.json }

end Seen

/-- what one argument is -/
inductive Argument where
  | endOfOptions
  | path
  | switch (s : Switch)
  /-- an option with the value in the same argument, if there is one -/
  | setting (s : Setting) (value : Option (List Char))
  | page (p : Page)
  | unknown

/-- what a one-letter option with the rest of its argument is; what follows the letter of a page is not
looked at -/
def Argument.ofShort (letter : Char) (rest : List Char) : Argument :=
  if letter = 'J' then
    match rest with
    | [] => .setting .peerAsn none
    | '=' :: value => .setting .peerAsn (some value)
    | value => .setting .peerAsn (some value)
  else if letter = 'h' then .page .help
  else if letter = 'V' then .page .version
  else .unknown

def Argument.ofLong (cs : List Char) : Argument :=
  let name := cs.takeWhile (· ≠ '=')
  let value := match cs.dropWhile (· ≠ '=') with
    | [] => none
    | _ :: value => some value
  match Setting.ofName? name, Switch.ofName? name, Page.ofName? name, value with
  | some s, _, _, _ => .setting s value
  | none, some s, _, none => .switch s
  | none, none, some p, none => .page p
  | _, _, _, _ => .unknown

def Argument.ofChars : List Char → Argument
  | ['-', '-'] => .endOfOptions
  | '-' :: '-' :: cs => .ofLong cs
  | '-' :: letter :: rest => .ofShort letter rest
  | _ => .path

/-- why nothing is rendered for some arguments -/
inductive Interruption where
  | usage
  | page (p : Page)
  deriving DecidableEq

def orUsage {α : Type} : Option α → Except Interruption α
  | some a => .ok a
  | none => .error .usage

/-- all the arguments, after those seen already -/
def scan (seen : Seen) : List String → Except Interruption Seen
  | [] => .ok seen
  | arg :: args =>
    match Argument.ofChars arg.toList with
    | .endOfOptions => orUsage (args.foldlM Seen.addFile? seen)
    | .path => orUsage (seen.addFile? arg) >>= (scan · args)
    | .switch s => orUsage (seen.switch? s) >>= (scan · args)
    | .setting s (some value) => orUsage (seen.set? s value) >>= (scan · args)
    | .setting s none =>
      match args with
      | [] => .error .usage
      | value :: args =>
        match Argument.ofChars value.toList with
        | .path => orUsage (seen.set? s value.toList) >>= (scan · args)
        | _ => .error .usage
    | .page p => .error (.page p)
    | .unknown => .error .usage

/-- what arguments without a mistake say, if none of them asks for a page -/
def scan? (seen : Seen) (args : List String) : Option Seen := (scan seen args).toOption

/-- what is to be rendered; that a file is named is looked at last -/
def Options.ofArguments (args : List String) : Except Interruption Options := do
  let seen ← scan {} args
  orUsage seen.options?

end RouteHealth.CommandLine
