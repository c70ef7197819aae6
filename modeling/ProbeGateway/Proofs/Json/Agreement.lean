import Mathlib.Data.List.Nodup
import Mathlib.Logic.Function.Basic
import ProbeGateway.Json.Record
import ProbeGateway.Proofs.Json.Accepting
import ProbeGateway.Proofs.Sorted

/-!
# Typed readers and the reader of values

A typed reader takes the octets of a value without building the value. Where both it and
`readValue` read, they leave the same octets, and what the one reads stands for what the other reads
(`Together`).

1. Strings, optional values and lists are read together with values (`together_readText`,
   `Together.optional`, `Together.list`).
2. Members and items are read in lockstep (`Together.members`, `Together.items`); a member that a
   record does not know is skipped by the one and built by the other.
3. A record holds what was found for its fields, under their names in an object and by position in
   an array (`Json.heldFor`). What is kept by the reading of each field is true of the whole record
   (`Tracks.record`).
-/

namespace ProbeGateway.Json

variable {α β σ τ : Type}

/-- Where two readers both read, they leave the same octets, and what they read is related. -/
def Together (reader : Reader α) (reader' : Reader β) (related : α → β → Prop) : Prop :=
  ∀ ⦃input x rest y rest'⦄, reader input = .ok (x, rest) → reader' input = .ok (y, rest') →
    rest = rest' ∧ related x y

variable {reader : Reader α} {related : α → Json → Prop} {levels : Nat}

/-! ## Values by their first octet -/

theorem readValue_eq (levels : Nat) :
    ∃ array object, readValue levels = readValueWith array object := by
  cases levels with
  | zero => exact ⟨_, _, rfl⟩
  | succ levels => exact ⟨_, _, rfl⟩

section FirstOctet

variable {input behind : Bytes} (array object : Reader Json)

theorem readValueWith_null (h : skipSpace input = 0x6E :: behind) :
    readValueWith array object input =
      (readWord (octets "ull") behind >>= fun rest => .ok (.null, rest)) := by
  rw [readValueWith, h]
  rfl

theorem readValueWith_text (h : skipSpace input = 0x22 :: behind) :
    readValueWith array object input =
      (readString behind >>= fun (s, rest) => .ok (.text s, rest)) := by
  rw [readValueWith, h]
  rfl

theorem readValueWith_array (h : skipSpace input = 0x5B :: behind) :
    readValueWith array object input = array behind := by
  rw [readValueWith, h]
  rfl

theorem readValueWith_object (h : skipSpace input = 0x7B :: behind) :
    readValueWith array object input = object behind := by
  rw [readValueWith, h]
  rfl

theorem readValueWith_number {b : UInt8} (h : skipSpace input = b :: behind)
    (hdigit : isDigitOctet b = true) :
    readValueWith array object input =
      (readNumber false (b :: behind) >>= fun (n, rest) => .ok (.number n, rest)) := by
  have hne (c : UInt8) (hc : isDigitOctet c = false) : b ≠ c := by
    rintro rfl
    cases hc.symm.trans hdigit
  rw [readValueWith, h]
  dsimp only
  rw [if_neg (hne 0x6E rfl), if_neg (hne 0x74 rfl), if_neg (hne 0x66 rfl), if_neg (hne 0x2D rfl),
    if_pos hdigit]

theorem readValueWith_negative (h : skipSpace input = 0x2D :: behind) :
    readValueWith array object input =
      (readNumber true behind >>= fun (n, rest) => .ok (.number n, rest)) := by
  rw [readValueWith, h]
  rfl

end FirstOctet

/-! ## Strings, optional values and lists -/

/-- A value may be `null` in place of what is related. -/
def Nullable (related : α → Json → Prop) : Option α → Json → Prop
  | none, v => v = .null
  | some x, v => related x v

theorem Together.optional (h : Together reader (readValue levels) related) :
    Together (readOptional reader) (readValue levels) (Nullable related) := by
  intro input o rest v rest' hread hread'
  unfold readOptional at hread
  split at hread
  · next behind hspace =>
    obtain ⟨array, object, hvalue⟩ := readValue_eq levels
    rw [hvalue, readValueWith_null array object hspace] at hread'
    obtain ⟨mid, hmid, hread⟩ := bind_eq_ok.mp hread
    rw [hmid] at hread'
    cases hread
    cases hread'
    exact ⟨rfl, rfl⟩
  · obtain ⟨⟨x, mid⟩, hx, hread⟩ := bind_eq_ok.mp hread
    cases hread
    exact h hx hread'

/-- Items are read in lockstep. -/
theorem Together.items {item : Reader α} {item' : Reader β} {related : α → β → Prop}
    (h : Together item item' related) (count : Nat) (first : Bool) :
    Together (readItems item count first) (readItems item' count first)
      (List.Forall₂ related) := by
  induction count generalizing first with
  | zero => exact fun _ _ _ _ _ hread => nomatch hread
  | succ count ih =>
    intro input xs rest ys rest' hread hread'
    cases itemsRead_of_readItems hread with
    | none hclose =>
      rw [readItems_closed item' hclose] at hread'
      cases hread'
      exact ⟨rfl, .nil⟩
    | one hstart hx hxs =>
      cases itemsRead_of_readItems hread' with
      | none hclose => exact absurd hclose hstart.not_closed
      | one hstart' hy hys =>
        cases hstart.unique hstart'
        obtain ⟨rfl, hxy⟩ := h hx hy
        obtain ⟨rfl, hrest⟩ := ih false hxs hys
        exact ⟨rfl, .cons hxy hrest⟩

theorem Together.list {item : (levels : Nat) → Reader α}
    (h : ∀ levels, Together (item levels) (readValue levels) related) (levels : Nat) :
    Together (readList levels item) (readValue levels) fun xs v =>
      ∃ vs, v = .array vs ∧ List.Forall₂ related xs vs := by
  intro input xs rest v rest' hread hread'
  unfold readList at hread
  split at hread
  · cases hread
  · next b behind hspace =>
    split at hread
    · next hb =>
      subst hb
      cases levels with
      | zero => cases hread
      | succ levels =>
        rw [readValue, readValueWith_array _ _ hspace] at hread'
        obtain ⟨⟨vs, _⟩, hvs, hread'⟩ := bind_eq_ok.mp hread'
        cases hread'
        obtain ⟨hrest, hitems⟩ := (h levels).items _ true hread hvs
        exact ⟨hrest, vs, rfl, hitems⟩
    · exact absurd hread mismatch_ne_ok

/-! ## Members -/

/-- Members are read in lockstep, and what each of them keeps is kept. -/
theorem Together.members {member : String → σ → Reader σ} {member' : String → τ → Reader τ}
    {Inv : σ → τ → Prop}
    (h : ∀ key s t, Inv s t → Together (member key s) (member' key t) Inv) (count : Nat)
    (first : Bool) {s : σ} {t : τ} (hst : Inv s t) :
    Together (readMembers member count first s) (readMembers member' count first t) Inv := by
  induction count generalizing first s t with
  | zero => exact fun _ _ _ _ _ hread => nomatch hread
  | succ count ih =>
    intro input after rest after' rest' hread hread'
    cases membersRead_of_readMembers hread with
    | none hclose =>
      cases membersRead_of_readMembers hread' with
      | none hclose' =>
        cases hclose.symm.trans hclose'
        exact ⟨rfl, hst⟩
      | one hstart' => exact absurd hclose hstart'.not_closed
    | one hstart hkey hmember hmembers =>
      cases membersRead_of_readMembers hread' with
      | none hclose => exact absurd hclose hstart.not_closed
      | one hstart' hkey' hmember' hmembers' =>
        cases hstart.unique hstart'
        cases hkey.symm.trans hkey'
        obtain ⟨rfl, hinv⟩ := h _ s t hst hmember hmember'
        exact ih false hinv hmembers hmembers'

/-! ## Records -/

/-- What a value holds under the names of fields: an object its members, an array its items by
position. -/
def heldFor (names : List String) : Json → String → Option Json
  | .object members, name => Sorted.find? name members
  | .array items, name => Sorted.find? name (names.zip items)
  | _, _ => none

/-- What is found for a field, when this is put under a key. -/
def foundAt (key : String) (v : Json) (found : String → Option Json) : String → Option Json :=
  Function.update found key (some v)

/-- A relation between what was found for the fields of a record and the draft of the record is kept
by the reading of each field, and by members that are no field. -/
structure Tracks (fields : (levels : Nat) → List (Field σ)) (names : List String)
    (Inv : (String → Option Json) → σ → Prop) : Prop where
  names_eq : ∀ levels, (fields levels).map (·.name) = names
  nodup : names.Nodup
  congr : ∀ {found found' draft}, (∀ name ∈ names, found' name = found name) → Inv found draft →
    Inv found' draft
  read : ∀ {levels found draft}, ∀ field ∈ fields levels, Inv found draft →
    Together field.read (readValue levels) fun put v =>
      Inv (foundAt field.name v found) (put draft)

/-- A field of a record takes what its reader takes. -/
theorem Together.field (h : Together reader (readValue levels) related) (name : String)
    (given : σ → Bool) (put : α → σ → σ) (optional : Bool) :
    Together (Field.of name given reader put optional).read (readValue levels) fun fill v =>
      ∃ x, fill = put x ∧ related x v := by
  intro input fill rest v rest' hread hread'
  obtain ⟨⟨x, mid⟩, hx, hread⟩ := bind_eq_ok.mp hread
  cases hread
  obtain ⟨hrest, hrelated⟩ := h hx hread'
  exact ⟨hrest, x, rfl, hrelated⟩

theorem find?_insert (key : String) (v : Json) (members : List (String × Json)) :
    (fun name => Sorted.find? name (Sorted.insert key v members)) =
      foundAt key v fun name => Sorted.find? name members := by
  funext name
  unfold foundAt
  by_cases h : name = key
  · subst h
    rw [Function.update_self, Sorted.find?_insert_self]
  · rw [Function.update_of_ne h]
    exact Sorted.find?_update_of_ne h _ members

section Tracks

variable {fields : (levels : Nat) → List (Field σ)} {names : List String}
  {Inv : (String → Option Json) → σ → Prop}

/-- A member of a record is a member of the object, under the same key. -/
theorem Tracks.member (h : Tracks fields names Inv) (key : String) (draft : σ)
    (members : List (String × Json)) (hinv : Inv (fun name => Sorted.find? name members) draft) :
    Together (readField (fields levels) key draft) (readMember (readValue levels) key members)
      fun draft members => Inv (fun name => Sorted.find? name members) draft := by
  intro input after rest after' rest' hread hread'
  obtain ⟨colon, hcolon, hread'⟩ := bind_eq_ok.mp hread'
  obtain ⟨⟨v, _⟩, hv, hread'⟩ := bind_eq_ok.mp hread'
  cases hread'
  dsimp only
  rw [find?_insert]
  unfold readField at hread
  split at hread
  · next hunknown =>
    obtain ⟨colon', hcolon', hread⟩ := bind_eq_ok.mp hread
    cases hcolon.symm.trans hcolon'
    obtain ⟨_, hskip, hread⟩ := bind_eq_ok.mp hread
    cases hread
    refine ⟨rest_of_skipValue hv hskip, h.congr (fun name hname => ?_) hinv⟩
    have hne : name ≠ key := by
      rintro rfl
      rw [← h.names_eq levels] at hname
      obtain ⟨field, hfield, rfl⟩ := List.mem_map.mp hname
      simpa using List.find?_eq_none.mp hunknown field hfield
    exact Function.update_of_ne hne _ _
  · next field hfield =>
    split at hread
    · cases hread
    · obtain ⟨colon', hcolon', hread⟩ := bind_eq_ok.mp hread
      cases hcolon.symm.trans hcolon'
      obtain ⟨⟨put, _⟩, hput, hread⟩ := bind_eq_ok.mp hread
      cases hread
      have hname : field.name = key := by simpa using List.find?_some hfield
      rw [← hname]
      exact h.read field (List.mem_of_find?_eq_some hfield) hinv hput hv

/-- What is found when entries are looked up before anything else. -/
def foundIn (entries : List (String × Json)) (found : String → Option Json) :
    String → Option Json :=
  fun name => (Sorted.find? name entries).or (found name)

/-- It does not matter whether an entry is put there before the others or among them. -/
theorem foundIn_foundAt {key : String} {entries : List (String × Json)}
    (h : ∀ entry ∈ entries, entry.1 ≠ key) (v : Json) (found : String → Option Json) :
    foundIn entries (foundAt key v found) = foundIn ((key, v) :: entries) found := by
  funext name
  unfold foundIn foundAt
  rw [Sorted.find?]
  by_cases hname : name = key
  · subst hname
    rw [if_pos rfl, Function.update_self, Sorted.find?_eq_none_of_ne h]
    rfl
  · rw [if_neg hname, Function.update_of_ne hname]

/-- The items of an array are taken for the fields of a record, one after the other. -/
theorem together_positional {levels : Nat} {kept : (String → Option Json) → σ → Prop}
    (expected : String) {rows : List (Field σ)} (hnodup : (rows.map (·.name)).Nodup)
    (hread : ∀ field ∈ rows, ∀ found draft, kept found draft →
      Together field.read (readValue levels) fun put v =>
        kept (foundAt field.name v found) (put draft))
    (count index : Nat) {found : String → Option Json} {draft : σ} (hkept : kept found draft) :
    Together (readPositional expected rows index draft)
      (readItems (readValue levels) count (index == 0)) fun draft items =>
        kept (foundIn ((rows.map (·.name)).zip items) found) draft := by
  induction rows generalizing count index found draft with
  | nil =>
    intro input after rest items rest' hrow hitems
    obtain ⟨_, hend, hrow⟩ := bind_eq_ok.mp hrow
    cases hrow
    cases count with
    | zero => cases hitems
    | succ count =>
      rw [readItems_closed _ (skipSpace_of_readArrayEnd hend)] at hitems
      cases hitems
      exact ⟨rfl, hkept⟩
  | cons field rows ih =>
    intro input after rest items rest' hrow hitems
    obtain ⟨hnew, hnodup⟩ := List.nodup_cons.mp hnodup
    have ih := ih hnodup fun field hfield => hread field (.tail _ hfield)
    cases count with
    | zero => cases hitems
    | succ count =>
      cases fieldRead_of_readPositional hrow with
      | none hclose hfields =>
        rw [readItems_closed _ hclose] at hitems
        cases hitems
        have hblanks : skipSpace (0x5D :: rest') = 0x5D :: rest' := skipSpace_cons rfl rest'
        have hnone := readItems_closed (readValue levels) hblanks count false
        obtain ⟨rfl, hkept⟩ := ih (count + 1) (index + 1) hkept hfields hnone
        rw [List.zip_nil_right] at hkept
        exact ⟨rfl, hkept⟩
      | one hstart hput hfields =>
        cases itemsRead_of_readItems hitems with
        | none hclose => exact absurd hclose hstart.not_closed
        | one hstart' hv hvs =>
          cases hstart.unique hstart'
          obtain ⟨rfl, hkept⟩ := hread field (.head _) found draft hkept hput hv
          obtain ⟨rfl, hkept⟩ := ih count (index + 1) hkept hfields hvs
          rw [foundIn_foundAt fun entry hentry => ?_] at hkept
          · exact ⟨rfl, hkept⟩
          · intro hname
            have hmem := (List.of_mem_zip hentry).1
            rw [hname] at hmem
            exact hnew hmem

/-- **A record holds what was found for its fields.** -/
theorem Tracks.record (h : Tracks fields names Inv) (levels : Nat) (name : String) {empty : σ}
    (hempty : Inv (fun _ => none) empty) :
    Together (readRecord levels name fields empty) (readValue levels) fun draft v =>
      Inv (heldFor names v) draft := by
  intro input draft rest v rest' hread hread'
  unfold readRecord at hread
  split at hread
  · cases hread
  · next b behind hspace =>
    split at hread
    · next hb =>
      subst hb
      cases levels with
      | zero => cases hread
      | succ levels =>
        rw [readValue, readValueWith_array _ _ hspace] at hread'
        obtain ⟨⟨items, _⟩, hitems, hread'⟩ := bind_eq_ok.mp hread'
        cases hread'
        have hnames := h.names_eq levels
        obtain ⟨hrest, hinv⟩ := together_positional _ (hnames ▸ h.nodup)
          (fun field hfield _ _ hinv => h.read field hfield hinv) _ 0 hempty hread hitems
        rw [hnames] at hinv
        refine ⟨hrest, h.congr (fun name _ => ?_) hinv⟩
        exact (Option.or_none).symm
    · split at hread
      · next hb =>
        subst hb
        cases levels with
        | zero => cases hread
        | succ levels =>
          rw [readValue, readValueWith_object _ _ hspace] at hread'
          obtain ⟨⟨members, _⟩, hmembers, hread'⟩ := bind_eq_ok.mp hread'
          cases hread'
          obtain ⟨⟨state, _⟩, hstate, hread⟩ := bind_eq_ok.mp hread
          dsimp only at hread
          split at hread
          · cases hread
          · cases hread
            have hnothing : Inv (fun name => Sorted.find? name []) empty := hempty
            exact Together.members (fun key s t => h.member key s t) _ true hnothing hstate hmembers
      · exact absurd hread mismatch_ne_ok

end Tracks

/-- What a draft amounts to is related as the draft is. -/
theorem Together.complete {reader : Reader σ} {reader' : Reader β} {related : σ → β → Prop}
    (h : Together reader reader' related) (finish : σ → Option α) :
    Together (reader.complete finish) reader' fun x y =>
      ∃ draft, finish draft = some x ∧ related draft y := by
  intro input x rest y rest' hread hread'
  obtain ⟨⟨draft, mid⟩, hdraft, hread⟩ := bind_eq_ok.mp hread
  dsimp only at hread
  split at hread
  · next hfinish =>
    cases hread
    obtain ⟨hrest, hrelated⟩ := h hdraft hread'
    exact ⟨hrest, draft, hfinish, hrelated⟩
  · cases hread

end ProbeGateway.Json
