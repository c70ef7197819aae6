import ProbeGateway.Proofs.Json.Skipping
import ProbeGateway.Proofs.Json.Written

/-!
# What typed readers accept

A typed reader refuses values of other types. What it accepts is told by the value as it is written,
with the members of objects as they stand in the text: `Accepts` is the equivalence of the two.

1. The text of a value begins as the value tells, and the first octet tells of arrays and objects
   (`writtenRead_of_writtenValue`, `items_of_writtenValue`, `members_of_writtenValue`).
2. Readers of strings, of values, of optional values and of lists accept the values of their types
   (`accepts_readText`, `accepts_readValue`, `Accepts.optional`, `Accepts.list`).
3. A whole text is read if its value is of the type (`Accepts.parseWith`).
-/

namespace ProbeGateway.Json

variable {α β σ : Type} {reader : Reader α} {levels : Nat} {input rest : Bytes} {v : Json}

/-! ## Values as they are written -/

theorem readValue_of_writtenValue (h : writtenValue levels input = .ok (v, rest)) :
    readValue levels input = .ok (v.normal, rest) := by
  have hsame := alike_writtenValue levels input
  rw [h] at hsame
  generalize readValue levels input = outcome at hsame
  cases hsame with
  | read hnormal rest => rw [hnormal.1]

theorem takesText_writtenValue (levels : Nat) : TakesText (writtenValue levels) :=
  fun _ _ _ h => takesText_readValue levels (readValue_of_writtenValue h)

/-- A bracket at the front opens an array, whose items are written. -/
theorem items_of_writtenValue {behind : Bytes} (hspace : skipSpace input = 0x5B :: behind)
    (h : writtenValue levels input = .ok (v, rest)) :
    ∃ levels' items, levels = levels' + 1 ∧ v = .array items ∧
      readItems (writtenValue levels') (behind.length + 1) true behind = .ok (items, rest) := by
  cases levels with
  | zero =>
    rw [writtenValue, readValueWith_array _ _ hspace] at h
    cases h
  | succ levels =>
    rw [writtenValue, readValueWith_array _ _ hspace] at h
    obtain ⟨⟨items, _⟩, hitems, h⟩ := bind_eq_ok.mp h
    cases h
    exact ⟨levels, items, rfl, rfl, hitems⟩

/-- A brace at the front opens an object, whose members are written. -/
theorem members_of_writtenValue {behind : Bytes} (hspace : skipSpace input = 0x7B :: behind)
    (h : writtenValue levels input = .ok (v, rest)) :
    ∃ levels' members, levels = levels' + 1 ∧ v = .object members ∧
      readMembers (writtenMember (writtenValue levels')) (behind.length + 1) true [] behind =
        .ok (members, rest) := by
  cases levels with
  | zero =>
    rw [writtenValue, readValueWith_object _ _ hspace] at h
    cases h
  | succ levels =>
    rw [writtenValue, readValueWith_object _ _ hspace] at h
    obtain ⟨⟨members, _⟩, hmembers, h⟩ := bind_eq_ok.mp h
    cases h
    exact ⟨levels, members, rfl, rfl, hmembers⟩

/-- What the value tells of how its text begins. -/
inductive WrittenRead (input : Bytes) : (levels : Nat) → Json → Bytes → Prop
  | null {levels : Nat} {behind rest : Bytes} (hspace : skipSpace input = 0x6E :: behind) :
    WrittenRead input levels .null rest
  | bool {levels : Nat} (b : Bool) (rest : Bytes) : WrittenRead input levels (.bool b) rest
  | number {levels : Nat} (n : JsonNumber) (rest : Bytes) :
    WrittenRead input levels (.number n) rest
  | text {levels : Nat} {behind rest : Bytes} {s : String}
      (hspace : skipSpace input = 0x22 :: behind) (hread : readString behind = .ok (s, rest)) :
    WrittenRead input levels (.text s) rest
  | array {levels : Nat} {behind rest : Bytes} {items : List Json}
      (hspace : skipSpace input = 0x5B :: behind)
      (hread : readItems (writtenValue levels) (behind.length + 1) true behind =
        .ok (items, rest)) : WrittenRead input (levels + 1) (.array items) rest
  | object {levels : Nat} {behind rest : Bytes} {members : List (String × Json)}
      (hspace : skipSpace input = 0x7B :: behind)
      (hread : readMembers (writtenMember (writtenValue levels)) (behind.length + 1) true []
        behind = .ok (members, rest)) : WrittenRead input (levels + 1) (.object members) rest

theorem writtenRead_of_writtenValue (h : writtenValue levels input = .ok (v, rest)) :
    WrittenRead input levels v rest := by
  obtain ⟨array, object, hvalue⟩ := writtenValue_eq levels
  have hread := h
  rw [hvalue] at hread
  cases valueRead_of_readValueWith hread with
  | null hspace => exact .null hspace
  | bool b => exact .bool b rest
  | number n => exact .number n rest
  | text hspace hs => exact .text hspace hs
  | array hspace =>
    obtain ⟨levels, items, rfl, rfl, hitems⟩ := items_of_writtenValue hspace h
    exact .array hspace hitems
  | object hspace =>
    obtain ⟨levels, members, rfl, rfl, hmembers⟩ := members_of_writtenValue hspace h
    exact .object hspace hmembers

/-! ## Types -/

/-- A reader takes just the values of a type. -/
structure Accepts (reader : Reader α) (levels : Nat) (type : Json → Prop) : Prop where
  takes : TakesText reader
  iff : ∀ {input v rest}, writtenValue levels input = .ok (v, rest) →
    ((∃ x, reader input = .ok (x, rest)) ↔ type v)

variable {type : Json → Prop}

/-- What a reader that takes a value leaves is what is behind the value. -/
theorem TakesText.rest_eq (h : TakesText reader) {x : α} {rest' : Bytes}
    (hread : reader input = .ok (x, rest')) (hv : writtenValue levels input = .ok (v, rest)) :
    rest' = rest :=
  (h hread).unique (takesText_writtenValue levels hv)

theorem TakesMember.rest_eq {reader : Reader σ} (h : TakesMember reader) {x : σ}
    {colon rest' : Bytes} (hread : reader input = .ok (x, rest'))
    (hcolon : readColon input = .ok colon) (hv : writtenValue levels colon = .ok (v, rest)) :
    rest' = rest := by
  obtain ⟨value, hspace, hvalue⟩ := h hread
  cases hspace.symm.trans (skipSpace_of_readColon hcolon)
  exact hvalue.unique (takesText_writtenValue levels hv)

theorem Accepts.type_of_read (h : Accepts reader levels type) {x : α} {rest' : Bytes}
    (hread : reader input = .ok (x, rest')) (hv : writtenValue levels input = .ok (v, rest)) :
    type v := by
  obtain rfl := h.takes.rest_eq hread hv
  exact (h.iff hv).mp ⟨x, hread⟩

/-- A value is `null`, or of a type. -/
def OrNull (type : Json → Prop) (v : Json) : Prop := v = .null ∨ type v

/-- A value is an array of values of a type. -/
def IsList (type : Json → Prop) (v : Json) : Prop := ∃ items, v = .array items ∧ ∀ w ∈ items, type w

theorem Accepts.optional (h : Accepts reader levels type) :
    Accepts (readOptional reader) levels (OrNull type) where
  takes := h.takes.optional
  iff {input v rest} hv := by
    by_cases hnull : ∃ behind, skipSpace input = 0x6E :: behind
    · -- nothing else than `null` begins so
      obtain ⟨behind, hspace⟩ := hnull
      obtain ⟨array, object, hvalue⟩ := writtenValue_eq levels
      rw [hvalue, readValueWith_null array object hspace] at hv
      obtain ⟨mid, hword, hv⟩ := bind_eq_ok.mp hv
      cases hv
      refine iff_of_true ⟨none, ?_⟩ (.inl rfl)
      rw [readOptional, hspace]
      exact congrArg (· >>= _) hword
    · have hread : readOptional reader input =
          (reader input >>= fun outcome => .ok (some outcome.1, outcome.2)) := by
        unfold readOptional
        split
        · next behind hspace => exact absurd ⟨behind, hspace⟩ hnull
        · rfl
      rw [hread]
      constructor
      · rintro ⟨o, ho⟩
        obtain ⟨⟨x, mid⟩, hx, -⟩ := bind_eq_ok.mp ho
        exact .inr (h.type_of_read hx hv)
      · rintro (rfl | htype)
        · cases writtenRead_of_writtenValue hv with
          | null hspace => exact absurd ⟨_, hspace⟩ hnull
        · obtain ⟨x, hx⟩ := (h.iff hv).mpr htype
          exact ⟨some x, by rw [hx, ok_bind]⟩

/-! ## Lists -/

theorem Accepts.items {item : Reader α} (h : Accepts item levels type) {count : Nat} {first : Bool}
    {vs : List Json} (hvs : readItems (writtenValue levels) count first input = .ok (vs, rest)) :
    (∃ xs, readItems item count first input = .ok (xs, rest)) ↔ ∀ v ∈ vs, type v := by
  induction count generalizing first input vs with
  | zero => cases hvs
  | succ count ih =>
    cases itemsRead_of_readItems hvs with
    | none hclose => exact iff_of_true ⟨[], readItems_closed item hclose count first⟩ nofun
    | @one start mid _ v vs hstart hv hvs =>
      rw [hstart.readItems, List.forall_mem_cons, ← ih hvs, ← h.iff hv]
      constructor
      · rintro ⟨xs, hxs⟩
        obtain ⟨⟨x, _⟩, hx, hxs⟩ := bind_eq_ok.mp hxs
        obtain rfl := h.takes.rest_eq hx hv
        obtain ⟨⟨xs, _⟩, hxs, heq⟩ := bind_eq_ok.mp hxs
        cases heq
        exact ⟨⟨x, hx⟩, xs, hxs⟩
      · rintro ⟨⟨x, hx⟩, xs, hxs⟩
        refine ⟨x :: xs, ?_⟩
        rw [hx, ok_bind]
        exact congrArg (· >>= _) hxs

theorem Accepts.list {item : (levels : Nat) → Reader α}
    (h : ∀ levels, Accepts (item levels) levels type) (levels : Nat) :
    Accepts (readList levels item) levels (IsList type) where
  takes := .list (fun levels => (h levels).takes) levels
  iff {input v rest} hv := by
    constructor
    · rintro ⟨xs, hxs⟩
      unfold readList at hxs
      split at hxs
      · cases hxs
      next b behind hspace =>
      split at hxs
      · next hb =>
        subst hb
        obtain ⟨levels, vs, rfl, rfl, hvs⟩ := items_of_writtenValue hspace hv
        exact ⟨vs, rfl, ((h levels).items hvs).mp ⟨xs, hxs⟩⟩
      · exact absurd hxs mismatch_ne_ok
    · rintro ⟨vs, rfl, hvs⟩
      cases writtenRead_of_writtenValue hv with
      | @array levels _ _ _ hspace hread =>
        obtain ⟨xs, hxs⟩ := ((h levels).items hread).mpr hvs
        refine ⟨xs, ?_⟩
        rw [readList, hspace]
        exact hxs

/-! ## Whole texts -/

/-- **A text is read if its value is of the type.** -/
theorem Accepts.parseWith (h : Accepts reader maxLevels type) (hv : parseWritten input = .ok v) :
    (∃ x, parseWith reader input = .ok x) ↔ type v := by
  obtain ⟨rest, hread, hblank⟩ := parseWith_eq_ok.mp hv
  constructor
  · rintro ⟨x, hx⟩
    obtain ⟨_, hx, -⟩ := parseWith_eq_ok.mp hx
    exact h.type_of_read hx hread
  · intro htype
    obtain ⟨x, hx⟩ := (h.iff hread).mpr htype
    exact ⟨x, parseWith_eq_ok.mpr ⟨rest, hx, hblank⟩⟩

end ProbeGateway.Json
