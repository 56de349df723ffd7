import RouteHealth.CommandLine.Options
import RouteHealth.Proofs.Address.Text

/-!
# Every combination of options can be asked for

`Seen.arguments` writes options and a file as arguments, each option with its long name and its value
after `=`, and the file after `--`.  These arguments are read as what they were written from
(`scan?_arguments`), so there is a command line for every combination.
-/

namespace RouteHealth.CommandLine

def Setting.name : Setting → List Char
  | peerAsn => "peer-asn".toList
  | holdTime => "hold-time".toList
  | routerId => "router-id".toList

def Switch.name : Switch → List Char
  | withOpen => "open".toList
  | json => "json".toList

/-- the argument that gives an option its value -/
def Setting.argument (s : Setting) (value : List Char) : String :=
  String.ofList ('-' :: '-' :: (s.name ++ '=' :: value))

def Switch.argument (s : Switch) : String := String.ofList ('-' :: '-' :: s.name)

theorem Argument.ofChars_setting (s : Setting) (value : List Char) :
    ofChars (s.argument value).toList = .setting s (some value) := by
  rw [Setting.argument, String.toList_ofList]
  cases s with
  | peerAsn => rfl
  | holdTime => rfl
  | routerId => rfl

theorem Argument.ofChars_switch (s : Switch) : ofChars s.argument.toList = .switch s := by
  rw [Switch.argument, String.toList_ofList]
  cases s with
  | withOpen => rfl
  | json => rfl

theorem word16?_chars (n : UInt16) : word16? (Decimal.chars n.toNat) = some n := by
  have hn : n.toNat ≤ 65535 := Nat.le_of_lt_succ n.toNat_lt
  have hunsigned {c : Char} (hc : c.isDigit = false) (cs : List Char) :
      Decimal.chars n.toNat ≠ c :: cs := by
    have hne := Decimal.chars_append_ne hc n.toNat [] cs
    rwa [List.append_nil] at hne
  rw [word16?]
  · show (Decimal.ofDigits? _).bind _ = _
    rw [Decimal.ofDigits?_chars, Option.bind_some, if_pos ⟨hn, nofun⟩, UInt16.ofNat_toNat]
  · exact fun rest heq => hunsigned (by decide) rest heq
  · exact fun rest heq => hunsigned (by decide) rest heq

variable {seen seen' : Seen} {args : List String}

theorem scan?_setting {s : Setting} {value : List Char} (h : seen.set? s value = some seen') :
    scan? seen (s.argument value :: args) = scan? seen' args := by
  rw [scan?, scan, Argument.ofChars_setting]
  show (orUsage (seen.set? s value) >>= (scan · args)).toOption = _
  rw [h]
  rfl

theorem scan?_switch {s : Switch} (h : seen.switch? s = some seen') :
    scan? seen (s.argument :: args) = scan? seen' args := by
  rw [scan?, scan, Argument.ofChars_switch]
  show (orUsage (seen.switch? s) >>= (scan · args)).toOption = _
  rw [h]
  rfl

/-- an option that takes a value and may be given -/
theorem scan?_optional {α : Type} {s : Setting} {value : Option α} {chars : α → List Char}
    (noted : Option α → Seen) (h : ∀ a, (noted none).set? s (chars a) = some (noted (some a))) :
    scan? (noted none) ((value.map fun a => s.argument (chars a)).toList ++ args)
      = scan? (noted value) args := by
  cases value with
  | none => rfl
  | some a => exact scan?_setting (h a)

/-- an option without a value that may be given -/
theorem scan?_given {s : Switch} {given : Bool} (noted : Bool → Seen)
    (h : (noted false).switch? s = some (noted true)) :
    scan? (noted false) ((if given then [s.argument] else []) ++ args) = scan? (noted given) args := by
  cases given with
  | false => rfl
  | true => exact scan?_switch h

/-- arguments that ask for some options and name a file -/
def Seen.arguments (seen : Seen) (path : String) : List String :=
  (seen.peerAsn.map fun n => Setting.peerAsn.argument (Decimal.chars n.toNat)).toList
    ++ ((if seen.withOpen then [Switch.withOpen.argument] else [])
    ++ ((seen.holdTime.map fun n => Setting.holdTime.argument (Decimal.chars n.toNat)).toList
    ++ ((seen.routerId.map fun a => Setting.routerId.argument a.chars).toList
    ++ ((if seen.json then [Switch.json.argument] else [])
    ++ ["--", path]))))

/-- **every combination of options can be asked for** -/
theorem scan?_arguments (seen : Seen) {path : String} (h : path ≠ "") :
    scan? {} (seen.arguments path) = some { seen with file := some path } := by
  obtain ⟨file, peerAsn, withOpen, holdTime, routerId, json⟩ := seen
  have hpeerAsn (n : UInt16) : Seen.set? {} .peerAsn (Decimal.chars n.toNat)
      = some { peerAsn := some n } := by
    rw [Seen.set?, if_pos rfl, word16?_chars, Option.map_some]
  have hholdTime (n : UInt16) : Seen.set? { peerAsn, withOpen } .holdTime (Decimal.chars n.toNat)
      = some { peerAsn, withOpen, holdTime := some n } := by
    rw [Seen.set?, if_pos rfl, word16?_chars, Option.map_some]
  have hrouterId (a : IPv4) : Seen.set? { peerAsn, withOpen, holdTime } .routerId a.chars
      = some { peerAsn, withOpen, holdTime, routerId := some a } := by
    rw [Seen.set?, if_pos rfl, IPv4.ofChars?_chars, Option.map_some]
  have hfile : Seen.addFile? { peerAsn, withOpen, holdTime, routerId, json } path
      = some ⟨some path, peerAsn, withOpen, holdTime, routerId, json⟩ := if_pos ⟨rfl, h⟩
  rw [Seen.arguments, scan?_optional (fun n => { peerAsn := n }) hpeerAsn,
    scan?_given (fun b => { peerAsn, withOpen := b }) rfl,
    scan?_optional (fun n => { peerAsn, withOpen, holdTime := n }) hholdTime,
    scan?_optional (fun a => { peerAsn, withOpen, holdTime, routerId := a }) hrouterId,
    scan?_given (fun b => { peerAsn, withOpen, holdTime, routerId, json := b }) rfl]
  show (orUsage ([path].foldlM Seen.addFile? _)).toOption = _
  rw [List.foldlM_cons, hfile]
  rfl

end RouteHealth.CommandLine
