import RouteHealth.CommandLine
import RouteHealth.Proofs.Policy.Json

/-!
# Printed lines

A message is printed on one line, and the line is read back as the type and the body of the message
(`CommandLine.shows_line`).  The text of any JSON value is on one line, because control characters are
only ever written as escapes (`Json.printable_chars`).
-/

namespace RouteHealth

/-! ## text on one line -/

/-- no character is a control character, so that the text is on one line -/
def Printable (cs : List Char) : Prop := ∀ c ∈ cs, 32 ≤ c.toNat

instance : DecidablePred Printable := fun cs => List.decidableBAll (fun c : Char => 32 ≤ c.toNat) cs

namespace Printable

variable {c : Char} {cs ds : List Char}

theorem cons (hc : 32 ≤ c.toNat) (hcs : Printable cs) : Printable (c :: cs) :=
  List.forall_mem_cons.mpr ⟨hc, hcs⟩

theorem append (hcs : Printable cs) (hds : Printable ds) : Printable (cs ++ ds) :=
  List.forall_mem_append.mpr ⟨hcs, hds⟩

theorem flatMap {α : Type} {f : α → List Char} (h : ∀ x, Printable (f x)) (xs : List α) :
    Printable (xs.flatMap f) := by
  intro c hc
  obtain ⟨x, -, hmem⟩ := List.mem_flatMap.mp hc
  exact h x c hmem

theorem newline_notMem (h : Printable cs) : '\n' ∉ cs := fun hmem => absurd (h _ hmem) (by decide)

theorem digitChar {d : Nat} (h : d < 16) : 32 ≤ (Nat.digitChar d).toNat := by
  interval_cases d <;> decide

theorem decimal (n : Nat) : Printable (Decimal.chars n) := by
  intro c hc
  have hdigit := Decimal.isDigit_of_mem_chars hc
  rw [Char.isDigit, Bool.and_eq_true] at hdigit
  have hzero : 48 ≤ c.toNat := of_decide_eq_true hdigit.1
  omega

theorem hex (bs : Bytes) : Printable (Hex.chars bs) := by
  apply flatMap
  intro b
  have hb : b.toNat < 256 := b.toNat_lt
  exact .cons (digitChar (by omega)) (.cons (digitChar (by omega)) (by decide))

end Printable

theorem Numeral.printable_chars (n : Numeral) : Printable n.chars := by
  obtain ⟨negative, whole, fraction, exponent⟩ := n
  have hsign : ∀ p : Prop, ∀ _ : Decidable p, Printable (if p then ['-'] else []) := by
    intro p _
    split <;> decide
  have hfraction : Printable (fractionChars fraction) := by
    rw [fractionChars]
    split
    · decide
    · refine .cons (by decide) fun c hc => ?_
      obtain ⟨d, -, rfl⟩ := List.mem_map.mp hc
      exact Printable.digitChar (by omega)
  have hexponent : Printable (exponentChars exponent) := by
    cases exponent with
    | none => decide
    | some e => exact ((hsign _ _).append (.decimal _)).cons (by decide)
  exact (((hsign _ _).append (.decimal whole)).append hfraction).append hexponent

theorem Literal.printable_escape (c : Char) : Printable (escape c) := by
  rw [escape]
  split_ifs with _ _ _ _ _ _ _ hcontrol
  -- the seven escapes of one letter, the other control characters, and any other character
  iterate 7 decide
  · have hhigh := Printable.digitChar (show c.toNat / 16 < 16 by omega)
    have hlow := Printable.digitChar (Nat.mod_lt c.toNat (show 0 < 16 by decide))
    have hdigits : Printable [(c.toNat / 16).digitChar, (c.toNat % 16).digitChar] :=
      .cons hhigh (.cons hlow (by decide))
    exact Printable.append (show Printable ['\\', 'u', '0', '0'] by decide) hdigits
  · exact .cons (Nat.not_lt.mp hcontrol) (by decide)

theorem Literal.printable_chars (l : Literal) : Printable l.chars := by
  cases l with
  | text s =>
    have hinner : Printable (s.toList.flatMap escape) := .flatMap printable_escape s.toList
    exact (hinner.cons (by decide)).append (by decide)
  | unpaired => decide

namespace Json

mutual

theorem printable_chars : (j : Json) → Printable j.chars
  | null => by decide
  | bool true => by decide
  | bool false => by decide
  | number n => n.printable_chars
  | string s => s.printable_chars
  | array items => by
    rw [chars]
    exact ((printable_itemsChars items).cons (by decide)).append (by decide)
  | object members => by
    rw [chars]
    exact ((printable_membersChars members).cons (by decide)).append (by decide)

theorem printable_itemsChars : (items : List Json) → Printable (itemsChars items)
  | [] => by decide
  | [item] => by
    rw [itemsChars]
    exact printable_chars item
  | item :: item' :: items => by
    rw [itemsChars_cons_cons]
    exact (printable_chars item).append ((printable_itemsChars (item' :: items)).cons (by decide))

theorem printable_membersChars : (members : List (Literal × Json)) → Printable (membersChars members)
  | [] => by decide
  | [(key, value)] => by
    rw [membersChars]
    exact key.printable_chars.append ((printable_chars value).cons (by decide))
  | (key, value) :: member :: members => by
    rw [membersChars_cons_cons]
    have hrest : Printable (',' :: membersChars (member :: members)) :=
      (printable_membersChars (member :: members)).cons (by decide)
    exact key.printable_chars.append (((printable_chars value).append hrest).cons (by decide))

end

end Json

/-! ## lines -/

namespace CommandLine

namespace Line

theorem toList_plain (l : Line) :
    l.plain.toList = Decimal.chars l.type.toNat ++ ' ' :: Hex.chars l.body := by
  simp [plain, Decimal.text, Hex.text]

theorem printable_text (json : Bool) (l : Line) : Printable (l.text json).toList := by
  cases json with
  | false =>
    show Printable l.plain.toList
    rw [toList_plain]
    exact (Printable.decimal _).append ((Printable.hex l.body).cons (by decide))
  | true =>
    show Printable (String.ofList l.toJson.chars).toList
    rw [String.toList_ofList]
    exact l.toJson.printable_chars

theorem ofPlain?_plain (l : Line) : ofPlain? l.plain = some l := by
  have hdigits : ∀ c ∈ Decimal.chars l.type.toNat, c.isDigit = true :=
    fun _ => Decimal.isDigit_of_mem_chars
  have hblank : NoDigit (' ' :: Hex.chars l.body) := .cons (by decide) _
  have htype : l.type.toNat ≤ 255 := Nat.le_of_lt_succ l.type.toNat_lt
  rw [ofPlain?, toList_plain, takeWhile_digits hdigits hblank, dropWhile_digits hdigits hblank]
  show (Decimal.ofDigits? _).bind _ = _
  rw [Decimal.ofDigits?_chars, Option.bind_some]
  show (Hex.ofChars? _).bind _ = _
  rw [Hex.ofChars?_chars, Option.bind_some, if_pos htype, UInt8.ofNat_toNat]

theorem fields?_toJson (l : Line) : l.toJson.fields? ["body", "length", "type"]
    = some [some (.ofText (Hex.text l.body)), some (.ofNat l.body.length),
      some (.ofNat l.type.toNat)] := by
  rw [toJson, Json.fields?_ofMembers, if_pos (by simp only [List.map_cons, List.map_nil]; decide)]
  rfl

theorem ofJson?_toJson (l : Line) : ofJson? l.toJson = some l := by
  have htype : l.type.toNat ≤ 255 := Nat.le_of_lt_succ l.type.toNat_lt
  rw [ofJson?, fields?_toJson]
  show ((Json.ofText (Hex.text l.body)).text?.bind Hex.ofText?).bind _ = _
  rw [Json.text?_ofText, Option.bind_some, Hex.ofText?_text, Option.bind_some]
  show ((Json.ofNat l.body.length).nat? l.body.length).bind _ = _
  rw [Json.nat?_ofNat le_rfl, Option.bind_some]
  show ((Json.ofNat l.type.toNat).nat? 255).bind _ = _
  rw [Json.nat?_ofNat htype, Option.bind_some, if_pos rfl, UInt8.ofNat_toNat]

theorem ofText?_text (json : Bool) (l : Line) : ofText? json (l.text json) = some l := by
  cases json with
  | false => exact l.ofPlain?_plain
  | true =>
    show (Json.ofText? l.toJson.text).bind ofJson? = some l
    rw [Json.ofText?_text, Option.bind_some, ofJson?_toJson]

end Line

/-- a text is one line that says what a message is, in JSON or not -/
structure Shows (json : Bool) (text : String) (m : Message) : Prop where
  oneLine : '\n' ∉ text.toList
  readBack : Line.ofText? json text = some ⟨m.type, m.body⟩
  /-- a line in JSON has an object of the type, the length and the hexadecimal text of the body -/
  members : json = true → Json.ofText? text = some (.ofMembers [("body", .ofText (Hex.text m.body)),
    ("length", .ofNat m.body.length), ("type", .ofNat m.type.toNat)])

theorem shows_line (json : Bool) (m : Message) : Shows json (line json m) m where
  oneLine := ((Line.ofMessage m).printable_text json).newline_notMem
  readBack := (Line.ofMessage m).ofText?_text json
  members := by
    rintro rfl
    exact Json.ofText?_text (Line.ofMessage m).toJson

end CommandLine

end RouteHealth
