import RouteHealth.Policy.Json
import RouteHealth.Proofs.Address.Spelling
import RouteHealth.Proofs.Json.Text
import RouteHealth.Proofs.RouteSet.Flags
import RouteHealth.Update.Batch

/-!
# Routes from documents

A document of routes is an object with addresses as keys and flags as values.  Keys may be repeated, and
different keys may be one address.  The set that is read from it has for each address the flag of the last
entry with that address (`IsDocument.exists_get?_eq`), so documents that agree on these flags are one set
and give the same messages, whatever the order and the spelling of their entries (`document_lastFlags`).
-/

namespace RouteHealth.RouteSet

/-- the last of the entries with an address has the flag -/
def LastFlag (entries : List (String × Bool)) (a : Address) (flag : Bool) : Prop :=
  ∃ before key after, entries = before ++ (key, flag) :: after ∧ Address.ofText? key = some a ∧
    ∀ e ∈ after, Address.ofText? e.1 ≠ some a

/-- an object with keys and flags -/
def entriesJson (entries : List (String × Bool)) : Json :=
  .ofMembers (entries.map fun e => (e.1, .bool e.2))

/-- a text that is an object with the given keys and flags, where the keys are addresses -/
structure IsDocument (doc : String) (entries : List (String × Bool)) : Prop where
  ofText?_eq : Json.ofText? doc = some (entriesJson entries)
  exists_address : ∀ e ∈ entries, ∃ a, Address.ofText? e.1 = some a

variable {doc : String} {entries : List (String × Bool)} {a : Address} {flag : Bool}

/-- keys that are addresses have a document -/
theorem isDocument_text (h : ∀ e ∈ entries, ∃ a, Address.ofText? e.1 = some a) :
    IsDocument (entriesJson entries).text entries :=
  ⟨Json.ofText?_text _, h⟩

/-! ## the last flag -/

/-- the flag of the last entry with an address, if there is one -/
def lastFlag? (entries : List (String × Bool)) (a : Address) : Option Bool :=
  (entries.reverse.find? fun e => Address.ofText? e.1 = some a).map Prod.snd

theorem lastFlag?_eq_some_iff : lastFlag? entries a = some flag ↔ LastFlag entries a flag := by
  rw [lastFlag?, Option.map_eq_some_iff]
  simp only [find?_reverse_eq_some_iff, decide_eq_true_eq]
  constructor
  · rintro ⟨⟨key, flag⟩, ⟨hkey, before, after, hentries, hafter⟩, rfl⟩
    exact ⟨before, key, after, hentries, hkey, hafter⟩
  · rintro ⟨before, key, after, hentries, hkey, hafter⟩
    exact ⟨(key, flag), ⟨hkey, before, after, hentries, hafter⟩, rfl⟩

theorem lastFlag?_eq_none_iff :
    lastFlag? entries a = none ↔ ∀ e ∈ entries, Address.ofText? e.1 ≠ some a := by
  rw [lastFlag?, Option.map_eq_none_iff, List.find?_eq_none]
  simp only [List.mem_reverse, decide_eq_true_eq]

/-- the entries with an IPv4 address are those whose key is its text -/
theorem lastFlag_v4_iff {quad : IPv4} : LastFlag entries (.v4 quad) flag
    ↔ ∃ before after, entries = before ++ (quad.text, flag) :: after ∧ ∀ e ∈ after, e.1 ≠ quad.text := by
  simp only [LastFlag, Ne, Address.ofText?_eq_v4_iff]
  constructor
  · rintro ⟨before, key, after, hentries, rfl, hafter⟩
    exact ⟨before, after, hentries, hafter⟩
  · rintro ⟨before, after, hentries, hafter⟩
    exact ⟨before, quad.text, after, hentries, rfl, hafter⟩

/-! ## reading -/

/-- the route that an entry gives -/
def entryRoute? (e : String × Bool) : Option Route := (Address.ofText? e.1).map fun a => (a, e.2)

theorem lookup_of_entryRoute? {routes : List Route}
    (h : List.Forall₂ (fun e p => entryRoute? e = some p) entries routes) (a : Address) :
    routes.lookup a = (entries.find? fun e => Address.ofText? e.1 = some a).map Prod.snd := by
  induction h with
  | nil => rfl
  | @cons e p entries routes hp _ ih =>
    obtain ⟨b, hb, rfl⟩ := Option.map_eq_some_iff.mp hp
    rw [lookup_route, List.find?_cons, hb, ih]
    by_cases hab : a = b
    · simp [hab]
    · simp [hab, Ne.symm hab]

/-- the set of a document has for each address the flag of its last entry -/
theorem IsDocument.exists_get?_eq (h : IsDocument doc entries) :
    ∃ r, (Json.ofText? doc).bind ofJson? = some r ∧ ∀ a, r.get? a = lastFlag? entries a := by
  have hroute : ∀ e ∈ entries, ∃ p, entryRoute? e = some p := by
    intro e he
    obtain ⟨a, ha⟩ := h.exists_address e he
    exact ⟨(a, e.2), by rw [entryRoute?, ha, Option.map_some]⟩
  obtain ⟨routes, hroutes⟩ := exists_forall₂ hroute
  have hread : (entries.map fun e => (Literal.text e.1, Json.bool e.2)).mapM route? = some routes := by
    rw [List.mapM_map]
    exact mapM_eq_some_iff.mpr hroutes
  refine ⟨ofList routes, ?_, ?_⟩
  · rw [h.ofText?_eq, Option.bind_some, entriesJson, Json.ofMembers, List.map_map, ofJson?]
    exact congrArg (Option.map ofList) hread
  · intro a
    rw [get?_ofList, lastFlag?, lookup_of_entryRoute? (List.forall₂_reverse_iff.mpr hroutes)]

/-- **Of the entries of a document with one address the last one counts, and nothing else about their
order.**  The set of the document has the addresses of its keys in ascending order, those of IPv4 first,
and each with its last flag.  Another document with the same last flags gives the same addresses to
advertise and to withdraw, the same UPDATE body and the same batch for every policy.  Whatever other keys
there are, such as those of IPv4-mapped addresses, the flag of an IPv4 address is that of its own text. -/
theorem document_lastFlags (h : IsDocument doc entries) :
    ∃ r, (Json.ofText? doc).bind ofJson? = some r ∧
      (∀ a flag, r.get? a = some flag ↔ LastFlag entries a flag) ∧
      (∀ a, a ∈ r.entries.map Prod.fst ↔ ∃ e ∈ entries, Address.ofText? e.1 = some a) ∧
      (r.entries.map Prod.fst).Pairwise (· < ·) ∧
      Nlri.ofFamily .ipv4 (r.entries.map Prod.fst) ++ Nlri.ofFamily .ipv6 (r.entries.map Prod.fst)
        = r.entries.map Prod.fst ∧
      (∀ doc' entries', IsDocument doc' entries' →
        (∀ a flag, LastFlag entries' a flag ↔ LastFlag entries a flag) →
        ∃ r', (Json.ofText? doc').bind ofJson? = some r' ∧
          r'.advertised = r.advertised ∧ r'.withdrawn = r.withdrawn ∧
          ∀ p : Policy, p.render r' = p.render r ∧ p.renderBatch r' = p.renderBatch r) ∧
      (∀ quad flag, r.get? (.v4 quad) = some flag ↔
        ∃ before after, entries = before ++ (quad.text, flag) :: after ∧
          ∀ e ∈ after, e.1 ≠ quad.text) ∧
      (∀ e ∈ entries, ∀ a, IPv6.ofText? e.1 = some a →
        Address.v6 a ∈ r.entries.map Prod.fst ∧ ∀ quad : IPv4, e.1 ≠ quad.text) := by
  obtain ⟨r, hread, hget⟩ := h.exists_get?_eq
  have hflag : ∀ a flag, r.get? a = some flag ↔ LastFlag entries a flag := by
    intro a flag
    rw [hget, lastFlag?_eq_some_iff]
  have hmem : ∀ a, a ∈ r.entries.map Prod.fst ↔ ∃ e ∈ entries, Address.ofText? e.1 = some a := by
    intro a
    rw [mem_addresses_iff, hget, Ne, lastFlag?_eq_none_iff]
    push Not
    rfl
  have hascending : (r.entries.map Prod.fst).Pairwise (· < ·) := List.pairwise_map.mpr r.ascending
  refine ⟨r, hread, hflag, hmem, hascending, Nlri.ofFamily_append hascending, ?_, ?_, ?_⟩
  case refine_1 =>
    intro doc' entries' h' hsame
    obtain ⟨r', hread', hget'⟩ := h'.exists_get?_eq
    -- a set is its flags, so the two documents are one set
    have heq : r' = r := by
      apply ext_get?
      intro a
      apply Option.ext
      intro flag
      rw [hget', lastFlag?_eq_some_iff, hsame, hflag]
    rw [heq] at hread'
    exact ⟨r, hread', rfl, rfl, fun p => ⟨rfl, rfl⟩⟩
  case refine_2 =>
    intro quad flag
    rw [hflag, lastFlag_v4_iff]
  case refine_3 =>
    intro e he a ha
    have hkey : Address.ofText? e.1 = some (.v6 a) := Address.ofText?_eq_v6_iff.mpr ha
    refine ⟨(hmem _).mpr ⟨e, he, hkey⟩, ?_⟩
    intro quad heq
    rw [Address.ofText?_eq_v4_iff.mpr heq] at hkey
    cases hkey

/-- an IPv4 address, and twice the IPv6 address that it is mapped to -/
def mappedEntries : List (String × Bool) :=
  [("10.0.0.1", true), ("::ffff:10.0.0.1", false), ("::FFFF:A00:1", true)]

/-- the same addresses, each once, in another order and spelling -/
def respelledEntries : List (String × Bool) := [("0:0:0:0:0:ffff:a00:1", true), ("10.0.0.1", true)]

theorem document_lastFlags_respelled : ∃ r r' : RouteSet,
    (Json.ofText? (entriesJson mappedEntries).text).bind ofJson? = some r ∧
    r.get? (.v4 (.ofNat 0x0A000001)) = some true ∧
    r.get? (.v6 (.ofNat 0xFFFF0A000001)) = some true ∧
    (Json.ofText? (entriesJson respelledEntries).text).bind ofJson? = some r' ∧
    r'.advertised = r.advertised := by
  have hv4 : Address.ofText? "10.0.0.1" = some (.v4 (.ofNat 0x0A000001)) := by decide +kernel
  have hquad : Address.ofText? "::ffff:10.0.0.1" = some (.v6 (.ofNat 0xFFFF0A000001)) := by
    decide +kernel
  have hupper : Address.ofText? "::FFFF:A00:1" = some (.v6 (.ofNat 0xFFFF0A000001)) := by
    decide +kernel
  have hfull : Address.ofText? "0:0:0:0:0:ffff:a00:1" = some (.v6 (.ofNat 0xFFFF0A000001)) := by
    decide +kernel
  have hmapped : IsDocument (entriesJson mappedEntries).text mappedEntries :=
    isDocument_text (by simp [mappedEntries, hv4, hquad, hupper])
  have hrespelled : IsDocument (entriesJson respelledEntries).text respelledEntries :=
    isDocument_text (by simp [respelledEntries, hv4, hfull])
  have hsame : ∀ a flag, LastFlag respelledEntries a flag ↔ LastFlag mappedEntries a flag := by
    intro a flag
    rw [← lastFlag?_eq_some_iff, ← lastFlag?_eq_some_iff]
    by_cases h4 : Address.v4 (.ofNat 0x0A000001) = a <;>
      by_cases h6 : Address.v6 (.ofNat 0xFFFF0A000001) = a <;>
      simp [lastFlag?, respelledEntries, mappedEntries, hv4, hquad, hupper, hfull, h4, h6]
  obtain ⟨r, hread, hflag, -, -, -, hother, hquads, -⟩ := document_lastFlags hmapped
  obtain ⟨r', hread', hadvertised, -⟩ := hother _ _ hrespelled hsame
  have hlast : LastFlag mappedEntries (.v6 (.ofNat 0xFFFF0A000001)) true :=
    ⟨mappedEntries.take 2, _, [], rfl, hupper, List.forall_mem_nil _⟩
  exact ⟨r, r', hread, (hquads _ _).mpr ⟨[], _, rfl, by decide +kernel⟩, (hflag _ _).mpr hlast,
    hread', hadvertised⟩

end RouteHealth.RouteSet
