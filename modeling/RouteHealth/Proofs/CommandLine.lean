import RouteHealth.Proofs.CommandLine.Line
import RouteHealth.Proofs.CommandLine.Options

/-!
# The command prints the batch

The command replaces in the policy of a document what its options and the overrides of the document give.
It prints an OPEN message if one is asked for, and after it the messages of the batch if there is one
(`CommandLine.run_prints_batch`).  A batch that fails has none of its messages printed, because all of
them are made first.
-/

namespace RouteHealth

/-- the policy with another peer, if one is given, and with the fields of overrides, if there are any -/
def Policy.replaced (p : Policy) (peerAsn : Option UInt16) (overrides : Option Overrides) : Policy :=
  { p with
    peerAsn := peerAsn.getD p.peerAsn
    communities := (overrides.map (·.communities)).getD p.communities
    med := (overrides.map (·.med)).getD p.med
    localPref := (overrides.map (·.localPref)).getD p.localPref }

namespace CommandLine

namespace Document

/-! ## what a document gives -/

/-- a field gives overrides, and gives none if it is absent or `null` -/
def Gives (field : Option Json) : Option Overrides → Prop
  | none => field = none ∨ field = some .null
  | some o => ∃ j, field = some j ∧ Overrides.ofJson? j = some o

/-- a text has a policy, maybe overrides, and routes -/
def GivenBy (d : Document) (text : String) : Prop :=
  ∃ j policy overrides routes, Json.ofText? text = some j
    ∧ j.fields? ["advert", "parameters", "routes"] = some [some policy, overrides, some routes]
    ∧ Policy.ofJson? policy = some d.policy ∧ Gives overrides d.overrides
    ∧ RouteSet.ofJson? routes = some d.routes

theorem overrides?_of_ne_null {j : Json} (h : j ≠ .null) :
    overrides? j = (Overrides.ofJson? j).map some := by
  rw [overrides?]
  exact h

theorem field_overrides?_eq_some_iff (field : Option Json) (overrides : Option Overrides) :
    Json.field overrides? none field = some overrides ↔ Gives field overrides := by
  cases field with
  | none => cases overrides with
    | none => exact ⟨fun _ => .inl rfl, fun _ => rfl⟩
    | some o => exact ⟨nofun, nofun⟩
  | some j =>
    show overrides? j = some overrides ↔ _
    by_cases hnull : j = .null
    · subst hnull
      cases overrides with
      | none => exact ⟨fun _ => .inr rfl, fun _ => rfl⟩
      | some o =>
        constructor
        · nofun
        · rintro ⟨j, ⟨⟩, hj⟩
          cases hj
    · rw [overrides?_of_ne_null hnull, Option.map_eq_some_iff]
      cases overrides with
      | none =>
        constructor
        · nofun
        · rintro (h | h)
          · cases h
          · exact absurd (Option.some.inj h) hnull
      | some o =>
        constructor
        · rintro ⟨o', ho', ⟨⟩⟩
          exact ⟨j, rfl, ho'⟩
        · rintro ⟨j, ⟨⟩, hj⟩
          exact ⟨o, hj, rfl⟩

theorem ofJson?_of_fields {j policy routes : Json} {overrides : Option Json}
    (h : j.fields? fieldNames = some [some policy, overrides, some routes]) (d : Document) :
    ofJson? j = some d ↔ Policy.ofJson? policy = some d.policy
      ∧ Json.field overrides? none overrides = some d.overrides
      ∧ RouteSet.ofJson? routes = some d.routes := by
  obtain ⟨p, o, r⟩ := d
  rw [ofJson?, h]
  show (Policy.ofJson? policy).bind (fun p => (Json.field overrides? none overrides).bind fun o =>
    (RouteSet.ofJson? routes).bind fun r => some (⟨p, o, r⟩ : Document)) = _ ↔ _
  simp only [Option.bind_eq_some_iff, Option.some.injEq, mk.injEq]
  constructor
  · rintro ⟨p, hp, o, ho, r, hr, rfl, rfl, rfl⟩
    exact ⟨hp, ho, hr⟩
  · rintro ⟨hp, ho, hr⟩
    exact ⟨p, hp, o, ho, r, hr, rfl, rfl, rfl⟩

theorem ofText?_eq_some_iff (text : String) (d : Document) :
    ofText? text = some d ↔ d.GivenBy text := by
  rw [ofText?, Option.bind_eq_some_iff]
  constructor
  · rintro ⟨j, hj, h⟩
    have hopen := h
    obtain ⟨fields, hfields, hmatch⟩ := Option.bind_eq_some_iff.mp hopen
    split at hmatch
    next policy overrides routes =>
      obtain ⟨hpolicy, hoverrides, hroutes⟩ := (ofJson?_of_fields hfields d).mp h
      exact ⟨j, policy, overrides, routes, hj, hfields, hpolicy,
        (field_overrides?_eq_some_iff _ _).mp hoverrides, hroutes⟩
    next => cases hmatch
  · rintro ⟨j, policy, overrides, routes, hj, hfields, hpolicy, hoverrides, hroutes⟩
    refine ⟨j, hj, (ofJson?_of_fields hfields d).mpr ⟨hpolicy, ?_, hroutes⟩⟩
    exact (field_overrides?_eq_some_iff _ _).mpr hoverrides

/-- a document without overrides for any policy, with the routes of another -/
theorem exists_ofText?_eq {d : Document} {text : String} (h : ofText? text = some d) (p : Policy) :
    ∃ text', ofText? text' = some ⟨p, none, d.routes⟩ := by
  obtain ⟨-, -, -, routes, -, -, -, -, hroutes⟩ := (ofText?_eq_some_iff text d).mp h
  have hfields : (Json.ofMembers [("advert", p.toJson), ("routes", routes)]).fields?
      ["advert", "parameters", "routes"] = some [some p.toJson, none, some routes] := by
    rw [Json.fields?_ofMembers, if_pos (by simp only [List.map_cons, List.map_nil]; decide)]
    rfl
  have hpolicy : Policy.ofJson? p.toJson = some p := by
    have hwritten := Policy.readsFields.of_written p
    rwa [Json.ofText?_text, Option.bind_some] at hwritten
  exact ⟨_, (ofText?_eq_some_iff _ _).mpr
    ⟨_, _, _, _, Json.ofText?_text _, hfields, hpolicy, .inl rfl, hroutes⟩⟩

theorem effectivePolicy_eq (d : Document) (peerAsn : Option UInt16) :
    d.effectivePolicy peerAsn = d.policy.replaced peerAsn d.overrides := by
  obtain ⟨p, overrides, r⟩ := d
  cases overrides with
  | none => rfl
  | some o => rfl

/-! ## what is printed -/

/-- the message that is printed before the batch, if one is asked for -/
def front (d : Document) (o : Options) : List Message :=
  let p := d.policy.replaced o.peerAsn d.overrides
  if o.withOpen then [.opening (p.openMessage o.holdTime (o.routerId.getD p.nextHop))] else []

theorem type_of_mem_front {d : Document} {o : Options} {m : Message} (h : m ∈ d.front o) :
    m.type = 1 := by
  rw [front] at h
  split at h
  · rw [List.mem_singleton.mp h]
    rfl
  · cases h

theorem map_front (d : Document) (o : Options) (f : Message → String) :
    (d.front o).map f = if o.withOpen then
      [f (.opening ((d.policy.replaced o.peerAsn d.overrides).openMessage o.holdTime
        (o.routerId.getD (d.policy.replaced o.peerAsn d.overrides).nextHop)))] else [] := by
  rw [front]
  split
  · rfl
  · rfl

theorem outcome_of_ok {d : Document} {o : Options} {ms : List Message}
    (h : (d.policy.replaced o.peerAsn d.overrides).renderBatch d.routes = .ok ms) :
    d.outcome o = ⟨(d.front o ++ ms).map (line o.json), none⟩ := by
  rw [List.map_append, map_front, outcome]
  simp only [effectivePolicy_eq, h]

theorem outcome_of_error {d : Document} {o : Options} {e : RenderError}
    (h : (d.policy.replaced o.peerAsn d.overrides).renderBatch d.routes = .error e) :
    d.outcome o = ⟨(d.front o).map (line o.json), some (.render e)⟩ := by
  rw [map_front, outcome]
  simp only [effectivePolicy_eq, h]

/-- a document that already has the replaced policy has the same outcome without the replacements,
whatever the file is -/
theorem outcome_replaced (d : Document) (o : Options) (file : String) :
    outcome ⟨d.policy.replaced o.peerAsn d.overrides, none, d.routes⟩
      { o with file, peerAsn := none } = d.outcome o := by
  have hpolicy : effectivePolicy ⟨d.policy.replaced o.peerAsn d.overrides, none, d.routes⟩ none
      = d.effectivePolicy o.peerAsn := by
    rw [effectivePolicy_eq, effectivePolicy_eq]
    rfl
  rw [outcome, outcome, hpolicy]

end Document

/-- what is asked for of a file -/
def Seen.options (seen : Seen) (file : String) : Options where
  file
  peerAsn := seen.peerAsn
  withOpen := seen.withOpen
  holdTime := seen.holdTime.getD 90
  routerId := seen.routerId
  json := seen.json

theorem run_eq_outcome {read : String → Option String} {args : List String} {seen : Seen}
    {path text : String} {d : Document} (hargs : scan? {} args = some seen)
    (hfile : seen.file = some path) (htext : read path = some text)
    (hdoc : Document.ofText? text = some d) :
    run read args = d.outcome (seen.options path) := by
  have hscan : scan {} args = .ok seen := toOption_eq_some_iff.mp hargs
  have hoptions : Options.ofArguments args = .ok (seen.options path) := by
    unfold Options.ofArguments
    rw [hscan]
    show orUsage seen.options? = _
    rw [Seen.options?, hfile]
    rfl
  have hread : (read (seen.options path).file).bind Document.ofText? = some d := by
    rw [Seen.options, htext, Option.bind_some, hdoc]
  rw [run, hoptions]
  simp only [hread]

/-- **The command prints the batch.**  The policy is that of the document with the peer of the options
and the fields of the overrides.  An OPEN message comes first if one is asked for, and after it the
messages of the batch in their order.  If there is no batch, the command ends with 1 and all that it has
printed is OPEN.  Each line says what its message is.  A document that already has the replaced policy has
the same outcome without the replacements, and there is always such a document. -/
theorem run_prints_batch (read : String → Option String) (args : List String) (seen : Seen)
    (path text : String) (d : Document) (hargs : scan? {} args = some seen)
    (hfile : seen.file = some path) (htext : read path = some text)
    (hdoc : Document.ofText? text = some d) :
    let p := d.policy.replaced seen.peerAsn d.overrides
    let opening := p.openMessage (seen.holdTime.getD 90) (seen.routerId.getD p.nextHop)
    let front : List Message := if seen.withOpen then [.opening opening] else []
    d.GivenBy text
      ∧ (∀ ms, p.renderBatch d.routes = .ok ms →
        (run read args).lines = (front ++ ms).map (line seen.json) ∧ (run read args).exitCode = 0)
      ∧ (∀ e, p.renderBatch d.routes = .error e →
        (run read args).lines = front.map (line seen.json) ∧ (run read args).exitCode = 1
          ∧ ∀ l ∈ (run read args).lines, (Line.ofText? seen.json l).map (·.type) = some 1)
      ∧ (∀ m, Shows seen.json (line seen.json m) m)
      ∧ (∀ args' path' text', scan? {} args' = some { seen with file := some path', peerAsn := none } →
        read path' = some text' → Document.ofText? text' = some ⟨p, none, d.routes⟩ →
        run read args' = run read args)
      ∧ ∀ path', path' ≠ "" → ∃ args' text',
        scan? {} args' = some { seen with file := some path', peerAsn := none }
          ∧ Document.ofText? text' = some ⟨p, none, d.routes⟩ := by
  intro p opening front
  have hrun := run_eq_outcome hargs hfile htext hdoc
  refine ⟨(Document.ofText?_eq_some_iff text d).mp hdoc, ?_, ?_, shows_line seen.json, ?_, ?_⟩
  · intro ms hms
    rw [hrun, Document.outcome_of_ok hms]
    exact ⟨rfl, rfl⟩
  · intro e he
    rw [hrun, Document.outcome_of_error he]
    refine ⟨rfl, rfl, ?_⟩
    intro l hl
    obtain ⟨m, hm, rfl⟩ := List.mem_map.mp hl
    have hread : Line.ofText? seen.json (line seen.json m) = some ⟨m.type, m.body⟩ :=
      (shows_line seen.json m).readBack
    show (Line.ofText? seen.json (line seen.json m)).map (·.type) = some 1
    rw [hread, Option.map_some, Document.type_of_mem_front hm]
  · intro args' path' text' hargs' htext' hdoc'
    rw [run_eq_outcome hargs' rfl htext' hdoc', hrun]
    exact d.outcome_replaced (seen.options path) path'
  · intro path' hpath'
    obtain ⟨text', htext'⟩ := Document.exists_ofText?_eq hdoc p
    exact ⟨_, text', scan?_arguments { seen with file := none, peerAsn := none } hpath', htext'⟩

/-- a document with overrides, which do not keep the local preference -/
def overridingDocument : Document where
  policy := { asn := 65000, med := 3, localPref := 200 }
  overrides := some { med := 7 }
  routes := .singleton (.v4 (.ofNat 0x0A000001), true)

def overridingText : String :=
  (Json.ofMembers [("advert", .ofMembers [("asn", .ofNat 65000), ("med", .ofNat 3),
    ("local_pref", .ofNat 200)]), ("parameters", .ofMembers [("med", .ofNat 7)]),
    ("routes", .ofMembers [("10.0.0.1", .bool true)])]).text

theorem run_prints_batch_opening :
    (run (fun _ => some overridingText) ["-J65001", "--open", "routes.json"]).lines
        = ["1 04fde8005a0000000000",
          "2 00000019400101004002040201fde84003040000000080040400000007200a000001"]
      ∧ (run (fun _ => some overridingText) ["-J65001", "--open", "routes.json"]).exitCode = 0 := by
  have hroutes : RouteSet.ofJson? (.ofMembers [("10.0.0.1", .bool true)])
      = some overridingDocument.routes := by
    show some (RouteSet.ofList [(.v4 (.ofNat 0x0A000001), true)]) = _
    rw [RouteSet.ofList]
    rfl
  have hdoc : Document.ofText? overridingText = some overridingDocument := by
    apply (Document.ofText?_eq_some_iff _ _).mpr
    exact ⟨_, _, _, _, Json.ofText?_text _, rfl, rfl, ⟨_, rfl, rfl⟩, hroutes⟩
  have hbatch : (overridingDocument.policy.replaced (some 65001) overridingDocument.overrides).renderBatch
      overridingDocument.routes = .ok [.update [0, 0, 0, 25, 0x40, 1, 1, 0, 0x40, 2, 4, 2, 1, 0xFD, 0xE8,
        0x40, 3, 4, 0, 0, 0, 0, 0x80, 4, 4, 0, 0, 0, 7, 0x20, 10, 0, 0, 1]] := by decide +kernel
  obtain ⟨-, hok, -⟩ := run_prints_batch (fun _ => some overridingText)
    ["-J65001", "--open", "routes.json"]
    { file := some "routes.json", peerAsn := some 65001, withOpen := true } "routes.json" overridingText
    overridingDocument rfl rfl rfl hdoc
  obtain ⟨hlines, hexit⟩ := hok _ hbatch
  exact ⟨hlines.trans (by decide +kernel), hexit⟩

end CommandLine

end RouteHealth
