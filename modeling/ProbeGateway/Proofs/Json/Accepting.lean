import ProbeGateway.Proofs.Json.Grammar

/-!
# Readers take values of the grammar

Whatever a reader makes of what it reads, it takes a value of the grammar off the front of the text
(`TakesText`).

1. Strings, optional values, lists and values of any kind are taken so (`takesText_readText`,
   `TakesText.optional`, `TakesText.list`, `takesText_readValue`).
2. A value that is skipped is skipped to where reading ends, since both pass a value of the grammar
   (`rest_of_skipValue`).
3. A record is read from the members of an object, or from an array that has no more elements than
   the record has fields (`elements_of_readMembers`, `elements_of_readPositional`).
-/

namespace ProbeGateway.Json

variable {α σ : Type} {input rest : Bytes} {first : Bool} {fuel : Nat} {reader : Reader α}

/-- A reader takes values of the grammar. -/
def TakesText (reader : Reader α) : Prop :=
  ∀ ⦃input x rest⦄, reader input = .ok (x, rest) → ValueText input rest

/-! ## Values -/

theorem mismatch_ne_ok {expected : String} {x : α} :
    mismatch expected input ≠ .ok x := by
  intro h
  unfold mismatch at h
  dsimp only at h
  split at h
  · cases h
  · -- six scalars are read before they are refused, and two brackets are not
    iterate 6
      split at h
      · obtain ⟨_, _, h⟩ := bind_eq_ok.mp h
        cases h
    iterate 2
      split at h
      · cases h
    cases h

theorem quote_of_readText {s : String} (h : readText input = .ok (s, rest)) :
    ∃ text, skipSpace input = 0x22 :: text ∧ readString text = .ok (s, rest) := by
  unfold readText readTextWith at h
  split at h
  · cases h
  next b text hspace =>
  split at h
  · next hquote =>
    obtain ⟨⟨s', mid⟩, hstring, h⟩ := bind_eq_ok.mp h
    cases h
    exact ⟨text, by rw [hspace, hquote], hstring⟩
  · exact absurd h mismatch_ne_ok

theorem takesText_readText : TakesText readText := by
  intro input s rest hread
  obtain ⟨text, hspace, hstring⟩ := quote_of_readText hread
  refine .scalar ?_
  rw [hspace]
  exact .text (stringText_of_readString hstring)

theorem TakesText.optional (h : TakesText reader) : TakesText (readOptional reader) := by
  intro input o rest hread
  unfold readOptional at hread
  split at hread
  · next behind hspace =>
    obtain ⟨mid, hmid, hread⟩ := bind_eq_ok.mp hread
    cases hread
    refine .scalar ?_
    rw [hspace]
    exact scalarText_null hmid
  · obtain ⟨⟨x, mid⟩, hx, hread⟩ := bind_eq_ok.mp hread
    cases hread
    exact h hx

theorem elements_of_readItems (h : TakesText reader) {xs : List α}
    (hread : readItems reader fuel first input = .ok (xs, rest)) :
    Elements .array xs.length first input rest := by
  induction fuel generalizing first input xs with
  | zero => cases hread
  | succ fuel ih =>
    cases itemsRead_of_readItems hread with
    | none hclose => exact .close hclose
    | one hstart hitem hitems =>
      obtain ⟨before, hbegins, hspace⟩ := hstart.begins
      exact .item hbegins ((h hitem).of_skipSpace_eq hspace.symm) (ih hitems)

theorem TakesText.list {item : (levels : Nat) → Reader α} (h : ∀ levels, TakesText (item levels))
    (levels : Nat) : TakesText (readList levels item) := by
  intro input xs rest hread
  unfold readList at hread
  split at hread
  · cases hread
  next b behind hspace =>
  split at hread
  · next hb =>
    subst hb
    cases levels with
    | zero => cases hread
    | succ levels =>
      exact .array hspace (elements_of_readItems (h levels) hread)
  · exact absurd hread mismatch_ne_ok

/-- A reader takes the colon and the value of a member. -/
def TakesMember (reader : Reader σ) : Prop :=
  ∀ ⦃input x rest⦄, reader input = .ok (x, rest) →
    ∃ value, skipSpace input = 0x3A :: value ∧ ValueText value rest

theorem elements_of_readMembers {member : String → σ → Reader σ}
    (h : ∀ key state, TakesMember (member key state)) {state after : σ}
    (hread : readMembers member fuel first state input = .ok (after, rest)) :
    ∃ count, Elements .object count first input rest := by
  induction fuel generalizing first state input with
  | zero => cases hread
  | succ fuel ih =>
    cases membersRead_of_readMembers hread with
    | none hclose => exact ⟨0, .close hclose⟩
    | one hstart hkey hmember hmembers =>
      obtain ⟨before, hbegins, hspace⟩ := hstart.begins
      obtain ⟨text, rfl, htext⟩ := stringText_of_readKey hkey
      rw [skipSpace_cons rfl] at hspace
      obtain ⟨value, hcolon, hvalue⟩ := h _ _ hmember
      obtain ⟨count, helements⟩ := ih hmembers
      exact ⟨count + 1, .member hbegins hspace htext hcolon hvalue helements⟩

/-- How a value is read: its first octet tells its form. -/
inductive ValueRead (array object : Reader Json) (input : Bytes) : Json → Bytes → Prop
  | null {behind rest : Bytes} (hspace : skipSpace input = 0x6E :: behind)
      (hword : readWord (octets "ull") behind = .ok rest) :
    ValueRead array object input .null rest
  | bool {rest : Bytes} (b : Bool) (h : ScalarText (skipSpace input) rest) :
    ValueRead array object input (.bool b) rest
  | number {rest : Bytes} (n : JsonNumber) (h : ScalarText (skipSpace input) rest) :
    ValueRead array object input (.number n) rest
  | text {behind rest : Bytes} {s : String} (hspace : skipSpace input = 0x22 :: behind)
      (hread : readString behind = .ok (s, rest)) : ValueRead array object input (.text s) rest
  | array {behind rest : Bytes} {v : Json} (hspace : skipSpace input = 0x5B :: behind)
      (hread : array behind = .ok (v, rest)) : ValueRead array object input v rest
  | object {behind rest : Bytes} {v : Json} (hspace : skipSpace input = 0x7B :: behind)
      (hread : object behind = .ok (v, rest)) : ValueRead array object input v rest

theorem valueRead_of_readValueWith {array object : Reader Json} {v : Json}
    (h : readValueWith array object input = .ok (v, rest)) :
    ValueRead array object input v rest := by
  unfold readValueWith at h
  split at h
  · cases h
  next b behind hspace =>
  have hscalar {rest : Bytes} (h : ScalarText (b :: behind) rest) :
      ScalarText (skipSpace input) rest := by
    rw [hspace]
    exact h
  split at h
  · next hb =>
    subst hb
    obtain ⟨mid, hword, h⟩ := bind_eq_ok.mp h
    cases h
    exact .null hspace hword
  split at h
  · next hb =>
    subst hb
    obtain ⟨mid, hword, h⟩ := bind_eq_ok.mp h
    cases h
    exact .bool true (hscalar (scalarText_true hword))
  split at h
  · next hb =>
    subst hb
    obtain ⟨mid, hword, h⟩ := bind_eq_ok.mp h
    cases h
    exact .bool false (hscalar (scalarText_false hword))
  split at h
  · next hb =>
    subst hb
    obtain ⟨⟨n, mid⟩, hn, h⟩ := bind_eq_ok.mp h
    cases h
    exact .number n (hscalar (.negative (skipNumber_of_readNumber hn)))
  split at h
  · next hdigit =>
    obtain ⟨⟨n, mid⟩, hn, h⟩ := bind_eq_ok.mp h
    cases h
    exact .number n (hscalar (.number hdigit (skipNumber_of_readNumber hn)))
  split at h
  · next hb =>
    subst hb
    obtain ⟨⟨s, mid⟩, hread, h⟩ := bind_eq_ok.mp h
    cases h
    exact .text hspace hread
  split at h
  · next hb => exact .array (hb ▸ hspace) h
  split at h
  · next hb => exact .object (hb ▸ hspace) h
  · cases h

theorem takesText_readValueWith {array object : Reader Json}
    (harray : ∀ ⦃input v rest⦄, array input = .ok (v, rest) →
      ∃ count, Elements .array count true input rest)
    (hobject : ∀ ⦃input v rest⦄, object input = .ok (v, rest) →
      ∃ count, Elements .object count true input rest) :
    TakesText (readValueWith array object) := by
  intro input v rest hread
  cases valueRead_of_readValueWith hread with
  | null hspace hword =>
    refine .scalar ?_
    rw [hspace]
    exact scalarText_null hword
  | bool _ h => exact .scalar h
  | number _ h => exact .scalar h
  | text hspace hstring =>
    refine .scalar ?_
    rw [hspace]
    exact .text (stringText_of_readString hstring)
  | array hspace hread =>
    obtain ⟨count, helements⟩ := harray hread
    exact .array hspace helements
  | object hspace hread =>
    obtain ⟨count, helements⟩ := hobject hread
    exact .object hspace helements

theorem takesMember_readMember {value : Reader Json} (h : TakesText value) (key : String)
    (members : List (String × Json)) : TakesMember (readMember value key members) := by
  intro input after rest hread
  obtain ⟨mid, hcolon, hread⟩ := bind_eq_ok.mp hread
  obtain ⟨⟨v, _⟩, hvalue, hread⟩ := bind_eq_ok.mp hread
  cases hread
  exact ⟨mid, skipSpace_of_readColon hcolon, h hvalue⟩

/-- Values of any kind are taken, level by level. -/
theorem takesText_readValue (levels : Nat) : TakesText (readValue levels) := by
  induction levels with
  | zero => exact takesText_readValueWith (fun _ _ _ h => nomatch h) fun _ _ _ h => nomatch h
  | succ levels ih =>
    refine takesText_readValueWith (fun input v rest hread => ?_) fun input v rest hread => ?_
    · obtain ⟨⟨items, _⟩, hitems, hread⟩ := bind_eq_ok.mp hread
      cases hread
      exact ⟨_, elements_of_readItems ih hitems⟩
    · obtain ⟨⟨members, _⟩, hmembers, hread⟩ := bind_eq_ok.mp hread
      cases hread
      exact elements_of_readMembers (takesMember_readMember ih) hmembers

/-- **Skipping ends where reading ends.** -/
theorem rest_of_skipValue {levels : Nat} {v : Json} {rest' : Bytes}
    (h : readValue levels input = .ok (v, rest)) (hskip : skipValue input = .ok rest') :
    rest' = rest :=
  (valueText_of_skipValue hskip).unique (takesText_readValue levels h)

/-! ## Records -/

theorem TakesText.field (h : TakesText reader) (name : String) (given : σ → Bool)
    (put : α → σ → σ) (optional : Bool) :
    TakesText (Field.of name given reader put optional).read := by
  intro input fill rest hread
  obtain ⟨⟨x, mid⟩, hx, hread⟩ := bind_eq_ok.mp hread
  cases hread
  exact h hx

/-- A field is filled with what its reader reads. -/
theorem read_field {x : α} (h : reader input = .ok (x, rest)) (name : String) (given : σ → Bool)
    (put : α → σ → σ) (optional : Bool) :
    (Field.of name given reader put optional).read input = .ok (put x, rest) := by
  show (reader input >>= _) = _
  rw [h]
  rfl

/-- A member of a record is a member, also if the record does not know it. -/
theorem takesMember_readField {fields : List (Field σ)}
    (h : ∀ field ∈ fields, TakesText field.read) (key : String) (state : σ) :
    TakesMember (readField fields key state) := by
  intro input after rest hread
  unfold readField at hread
  split at hread
  · obtain ⟨mid, hcolon, hread⟩ := bind_eq_ok.mp hread
    obtain ⟨_, hskip, hread⟩ := bind_eq_ok.mp hread
    cases hread
    exact ⟨mid, skipSpace_of_readColon hcolon, valueText_of_skipValue hskip⟩
  next field hfield =>
  split at hread
  · cases hread
  · obtain ⟨mid, hcolon, hread⟩ := bind_eq_ok.mp hread
    obtain ⟨⟨put, _⟩, hput, hread⟩ := bind_eq_ok.mp hread
    cases hread
    exact ⟨mid, skipSpace_of_readColon hcolon, h field (List.mem_of_find?_eq_some hfield) hput⟩

/-- Fields are taken by position from no more elements than there are fields. -/
theorem elements_of_readPositional (expected : String) {rows : List (Field σ)}
    (h : ∀ field ∈ rows, TakesText field.read) {index : Nat} {state after : σ}
    (hread : readPositional expected rows index state input = .ok (after, rest)) :
    ∃ count ≤ rows.length, Elements .array count (index == 0) input rest := by
  induction rows generalizing index state input with
  | nil =>
    obtain ⟨_, hend, hread⟩ := bind_eq_ok.mp hread
    cases hread
    exact ⟨0, Nat.le_refl 0, .close (skipSpace_of_readArrayEnd hend)⟩
  | cons field rows ih =>
    have hothers : ∀ field ∈ rows, TakesText field.read :=
      fun field hfield => h field (.tail _ hfield)
    cases fieldRead_of_readPositional hread with
    | @none behind _ _ hclose hfields =>
      -- No element begins at the bracket, so that the other fields have none either.
      have hblanks : skipSpace (0x5D :: behind) = 0x5D :: behind := skipSpace_cons rfl behind
      obtain ⟨count, -, helements⟩ := ih hothers hfields
      cases helements with
      | close hclose' =>
        cases hblanks.symm.trans hclose'
        exact ⟨0, Nat.zero_le _, .close hclose⟩
      | item hbegins =>
        cases hbegins with
        | behindComma hcomma => cases hblanks.symm.trans hcomma
    | one hstart hfield hfields =>
      obtain ⟨before, hbegins, hspace⟩ := hstart.begins
      have hvalue := h field (.head _) hfield
      obtain ⟨count, hle, helements⟩ := ih hothers hfields
      exact ⟨count + 1, Nat.succ_le_succ hle,
        .item hbegins (hvalue.of_skipSpace_eq hspace.symm) helements⟩

/-- What no field touches stays as it is. -/
theorem kept_of_readPositional {β : Type} (view : σ → β) (expected : String)
    {rows : List (Field σ)}
    (h : ∀ field ∈ rows, ∀ ⦃input put rest⦄, field.read input = .ok (put, rest) →
      ∀ state, view (put state) = view state) {index : Nat} {state after : σ}
    (hread : readPositional expected rows index state input = .ok (after, rest)) :
    view after = view state := by
  induction rows generalizing index state input with
  | nil =>
    obtain ⟨_, hend, hread⟩ := bind_eq_ok.mp hread
    cases hread
    rfl
  | cons field rows ih =>
    have ih {index : Nat} {input : Bytes} {state : σ}
        (hread : readPositional expected rows index state input = .ok (after, rest)) :
        view after = view state := ih (fun field hfield => h field (.tail _ hfield)) hread
    cases fieldRead_of_readPositional hread with
    | none hclose hfields => exact ih hfields
    | one hstart hfield hfields =>
      rw [ih hfields]
      exact h field (.head _) hfield state

/-- Where the array is closed, all fields that are left keep what the record has without them. -/
theorem readPositional_closed (expected : String) {rows : List (Field σ)}
    (h : ∀ field ∈ rows, field.optional = true) (index : Nat) (state : σ)
    (hclose : skipSpace input = 0x5D :: rest) :
    readPositional expected rows index state input = .ok (state, rest) := by
  induction rows generalizing index input with
  | nil =>
    unfold readPositional readArrayEnd
    rw [hclose]
    rfl
  | cons field rows ih =>
    have hblanks : skipSpace (0x5D :: rest) = 0x5D :: rest := skipSpace_cons rfl rest
    unfold readPositional
    rw [hclose]
    dsimp only
    rw [if_pos rfl, if_pos (h field (.head _))]
    exact ih (fun field hfield => h field (.tail _ hfield)) _ hblanks

/-- How a record is read: by position behind the bracket of an array, or member by member behind
the brace of an object. -/
inductive RecordRead (fields : (levels : Nat) → List (Field σ)) (empty : σ) (input : Bytes) :
    σ → Bytes → Prop
  | array {levels : Nat} {expected : String} {behind rest : Bytes} {after : σ}
      (hopen : skipSpace input = 0x5B :: behind)
      (hread : readPositional expected (fields levels) 0 empty behind = .ok (after, rest)) :
    RecordRead fields empty input after rest
  | object {levels : Nat} {behind rest : Bytes} {after : σ}
      (hopen : skipSpace input = 0x7B :: behind)
      (hread : readMembers (readField (fields levels)) (behind.length + 1) true empty behind =
        .ok (after, rest)) :
    RecordRead fields empty input after rest

section Record

variable {fields : (levels : Nat) → List (Field σ)} {levels : Nat} {name : String}
  {empty after : σ}

theorem recordRead_of_readRecord
    (h : readRecord levels name fields empty input = .ok (after, rest)) :
    RecordRead fields empty input after rest := by
  unfold readRecord at h
  split at h
  · cases h
  next b behind hspace =>
  split at h
  · next hb =>
    subst hb
    cases levels with
    | zero => cases h
    | succ levels => exact .array hspace h
  split at h
  · next hb =>
    subst hb
    cases levels with
    | zero => cases h
    | succ levels =>
      obtain ⟨⟨state, mid⟩, hmembers, h⟩ := bind_eq_ok.mp h
      dsimp only at h
      split at h
      · cases h
      · cases h
        exact .object hspace hmembers
  · exact absurd h mismatch_ne_ok

theorem readRecord_array {behind : Bytes} (hopen : skipSpace input = 0x5B :: behind) :
    readRecord (levels + 1) name fields empty input =
      readPositional (recordLength name (fields levels).length) (fields levels) 0 empty
        behind := by
  unfold readRecord
  rw [hopen]
  rfl

variable (levels name empty) in
theorem TakesText.record (h : ∀ levels, ∀ field ∈ fields levels, TakesText field.read) :
    TakesText (readRecord levels name fields empty) := by
  intro input after rest hread
  cases recordRead_of_readRecord hread with
  | array hopen hread =>
    obtain ⟨count, -, helements⟩ := elements_of_readPositional _ (h _) hread
    exact .array hopen helements
  | object hopen hread =>
    obtain ⟨count, helements⟩ := elements_of_readMembers (takesMember_readField (h _)) hread
    exact .object hopen helements

end Record

theorem TakesText.complete {reader : Reader σ} (h : TakesText reader) (finish : σ → Option α) :
    TakesText (reader.complete finish) := by
  intro input x rest hread
  obtain ⟨⟨state, mid⟩, hstate, hread⟩ := bind_eq_ok.mp hread
  dsimp only at hread
  split at hread
  · cases hread
    exact h hstate
  · cases hread

end ProbeGateway.Json
