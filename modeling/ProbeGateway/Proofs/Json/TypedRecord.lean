import ProbeGateway.Proofs.Json.Agreement
import ProbeGateway.Proofs.Json.Typed
import ProbeGateway.Proofs.Related

/-!
# What the reader of a record accepts

A record is read from an object that has each of its fields at most once, with a value of its type,
and all fields that it needs; or from an array of values of the types of its fields, by position.
Nothing else is a record (`IsRecord`).

1. By position, an item is taken for each field until there are no more (`accepts_positional`).
2. By name, the fields that a draft has are those among the members that have been read (`Given`). A
   member that is no field is skipped, whatever its value (`accepts_member`, `accepts_members`).
3. Either way, what is accepted is a record of its types (`Accepts.record`), and has all fields that
   it needs (`given_of_readRecord`).
-/

namespace ProbeGateway.Json

variable {α σ : Type} {reader : Reader α} {levels : Nat} {input rest : Bytes} {v : Json}
  {type : Json → Prop}

/-! ## Fields and their types -/

/-- A field as its record is written: its name, the type of its value, and whether it may be left
out. -/
structure FieldType where
  name : String
  type : Json → Prop
  optional : Bool

/-- No field is repeated among members, and the fields that are there have values of their types. -/
structure Fits (types : List FieldType) (members : List (String × Json)) : Prop where
  once : members.Pairwise fun m n => m.1 = n.1 → ∀ t ∈ types, t.name ≠ m.1
  typed : ∀ t ∈ types, ∀ w, (t.name, w) ∈ members → t.type w

/-- Items are values of the types of fields, by position. Fields without an item may be left out. -/
inductive FitsByPosition : List FieldType → List Json → Prop
  | none {types : List FieldType} (h : ∀ t ∈ types, t.optional = true) : FitsByPosition types []
  | one {t : FieldType} {types : List FieldType} {w : Json} {items : List Json} (hw : t.type w)
      (h : FitsByPosition types items) : FitsByPosition (t :: types) (w :: items)

/-- A value is a record with fields of some types: an object that has all the fields that it needs,
or an array. -/
inductive IsRecord (types : List FieldType) : Json → Prop
  | object {members : List (String × Json)} (h : Fits types members)
      (hneeded : ∀ t ∈ types, t.optional = false → t.name ∈ members.map (·.1)) :
    IsRecord types (.object members)
  | array {items : List Json} (h : FitsByPosition types items) : IsRecord types (.array items)

/-- A field of a record has a type: it has its name, and its reader takes the values of the type. -/
structure Field.HasType (levels : Nat) (field : Field σ) (t : FieldType) : Prop where
  name : field.name = t.name
  optional : field.optional = t.optional
  read : Accepts field.read levels t.type

/-- The reading of a field marks it as given, and leaves the others as they are. -/
def MarksGiven (fields : List (Field σ)) : Prop :=
  ∀ field ∈ fields, ∀ ⦃input put rest⦄, field.read input = .ok (put, rest) → ∀ state,
    ∀ other ∈ fields, other.given (put state) = (other.name == field.name || other.given state)

theorem Accepts.field (h : Accepts reader levels type) (name : String) (given : σ → Bool)
    (put : α → σ → σ) (optional : Bool) :
    Field.HasType levels (.of name given reader put optional) ⟨name, type, optional⟩ where
  name := rfl
  optional := rfl
  read := {
    takes := h.takes.field name given put optional
    iff := fun {input v rest} hv => by
      refine Iff.trans ?_ (h.iff hv)
      constructor
      · rintro ⟨fill, hfill⟩
        obtain ⟨⟨x, _⟩, hx, heq⟩ := bind_eq_ok.mp hfill
        cases heq
        exact ⟨x, hx⟩
      · rintro ⟨x, hx⟩
        exact ⟨put x, read_field hx name given put optional⟩ }

section Fields

variable {fields : List (Field σ)} {types : List FieldType}

/-! ## By position -/

theorem fitsByPosition_nil : FitsByPosition types [] ↔ ∀ t ∈ types, t.optional = true := by
  refine ⟨fun h => ?_, .none⟩
  cases h with
  | none h => exact h

theorem fitsByPosition_cons {t : FieldType} {w : Json} {items : List Json} :
    FitsByPosition (t :: types) (w :: items) ↔ t.type w ∧ FitsByPosition types items := by
  refine ⟨fun h => ?_, fun h => .one h.1 h.2⟩
  cases h with
  | one hw h => exact ⟨hw, h⟩

/-- An array is taken for a record if its items have the types of the fields. -/
theorem accepts_positional (expected : String)
    (h : List.Forall₂ (Field.HasType levels) fields types) {count index : Nat} {items : List Json}
    (hitems : readItems (writtenValue levels) count (index == 0) input = .ok (items, rest))
    (state : σ) :
    (∃ after, readPositional expected fields index state input = .ok (after, rest)) ↔
      FitsByPosition types items := by
  induction h generalizing count index items input state with
  | nil =>
    cases count with
    | zero => cases hitems
    | succ count =>
      cases itemsRead_of_readItems hitems with
      | none hclose =>
        have hread : readPositional expected [] index state input = .ok (state, rest) :=
          readPositional_closed expected (fun _ h => absurd h List.not_mem_nil) index state hclose
        exact iff_of_true ⟨state, hread⟩ (.none fun _ h => absurd h List.not_mem_nil)
      | one hstart =>
        refine iff_of_false (fun hread => ?_) fun h => ?_
        · obtain ⟨after, hread⟩ := hread
          obtain ⟨_, hend, -⟩ := bind_eq_ok.mp hread
          exact hstart.not_closed (skipSpace_of_readArrayEnd hend)
        · cases h
  | @cons field t fields types hfield _ ih =>
    cases count with
    | zero => cases hitems
    | succ count =>
      cases itemsRead_of_readItems hitems with
      | none hclose =>
        have hblanks : skipSpace (0x5D :: rest) = 0x5D :: rest := skipSpace_cons rfl rest
        have hnone := readItems_closed (writtenValue levels) hblanks count (index + 1 == 0)
        rw [fitsByPosition_nil, List.forall_mem_cons, ← fitsByPosition_nil, ← ih hnone state,
          ← hfield.optional, readPositional, hclose]
        dsimp only
        rw [if_pos rfl]
        cases field.optional with
        | true => exact (and_iff_right rfl).symm
        | false =>
          refine iff_of_false (fun hread => ?_) fun h => absurd h.1 Bool.false_ne_true
          obtain ⟨after, hread⟩ := hread
          cases hread
      | @one start mid _ w items hstart hw hitems =>
        have hlater : readItems (writtenValue levels) count (index + 1 == 0) mid =
          .ok (items, rest) := hitems
        rw [hstart.readPositional, fitsByPosition_cons, ← hfield.read.iff hw]
        constructor
        · rintro ⟨after, hread⟩
          obtain ⟨⟨put, _⟩, hput, hread⟩ := bind_eq_ok.mp hread
          obtain rfl := hfield.read.takes.rest_eq hput hw
          exact ⟨⟨put, hput⟩, (ih hlater (put state)).mp ⟨after, hread⟩⟩
        · rintro ⟨⟨put, hput⟩, hfits⟩
          obtain ⟨after, hread⟩ := (ih hlater (put state)).mpr hfits
          refine ⟨after, ?_⟩
          rw [hput, ok_bind]
          exact hread

/-- The fields that a draft has are those whose names stand among members. -/
def Given (fields : List (Field σ)) (state : σ) (members : List (String × Json)) : Prop :=
  ∀ field ∈ fields, field.given state = true ↔ field.name ∈ members.map (·.1)

variable {key : String} {members : List (String × Json)} {state : σ}

theorem fits_concat : Fits types (members ++ [(key, v)]) ↔
    Fits types members ∧ ∀ t ∈ types, t.name = key → t.type v ∧ key ∉ members.map (·.1) := by
  constructor
  · intro h
    obtain ⟨honce, -, hlast⟩ := List.pairwise_append.mp h.once
    refine ⟨⟨honce, fun t ht w hw => h.typed t ht w (List.mem_append_left _ hw)⟩, ?_⟩
    rintro t ht rfl
    refine ⟨h.typed t ht v (List.mem_append_right _ (.head _)), fun hmem => ?_⟩
    obtain ⟨m, hm, hname⟩ := List.mem_map.mp hmem
    exact hlast m hm _ (.head _) hname t ht hname.symm
  · rintro ⟨h, hlast⟩
    refine ⟨List.pairwise_append.mpr ⟨h.once, List.pairwise_singleton _ _, ?_⟩, ?_⟩
    · intro m hm n hn hname t ht htype
      cases List.mem_singleton.mp hn
      exact (hlast t ht (htype.trans hname)).2 (List.mem_map.mpr ⟨m, hm, hname⟩)
    · intro t ht w hw
      rcases List.mem_append.mp hw with hw | hw
      · exact h.typed t ht w hw
      · cases List.mem_singleton.mp hw
        exact (hlast t ht rfl).1

theorem Fits.of_prefix {before : List (String × Json)} (h : Fits types members)
    (hbefore : before <+: members) : Fits types before where
  once := h.once.sublist hbefore.sublist
  typed t ht w hw := h.typed t ht w (hbefore.subset hw)

/-- Members are put behind those that stand there. -/
theorem prefix_of_readMembers {value : Reader Json} {count : Nat} {first : Bool}
    {before : List (String × Json)}
    (h : readMembers (writtenMember value) count first before input = .ok (members, rest)) :
    before <+: members := by
  induction count generalizing first before input with
  | zero => cases h
  | succ count ih =>
    cases membersRead_of_readMembers h with
    | none => exact List.prefix_rfl
    | one hstart hkey hmember hmembers =>
      obtain ⟨_, -, hmember⟩ := bind_eq_ok.mp hmember
      obtain ⟨_, -, hmember⟩ := bind_eq_ok.mp hmember
      cases hmember
      exact (List.prefix_append _ _).trans (ih hmembers)

/-- A member that is taken is given, and the others are as before. -/
theorem given_of_readField (hmarks : MarksGiven fields) (hgiven : Given fields state members)
    {next : σ} {mid : Bytes} (hread : readField fields key state input = .ok (next, mid))
    (v : Json) : Given fields next (members ++ [(key, v)]) := by
  intro other hother
  rw [List.map_append, List.mem_append, ← hgiven other hother, List.map_singleton,
    List.mem_singleton]
  unfold readField at hread
  split at hread
  · next hunknown =>
    obtain ⟨_, -, hread⟩ := bind_eq_ok.mp hread
    obtain ⟨_, -, hread⟩ := bind_eq_ok.mp hread
    cases hread
    have hne : other.name ≠ key := by simpa using List.find?_eq_none.mp hunknown other hother
    exact (or_iff_left hne).symm
  · next field hfind =>
    split at hread
    · cases hread
    · obtain ⟨_, -, hread⟩ := bind_eq_ok.mp hread
      obtain ⟨⟨put, _⟩, hput, hread⟩ := bind_eq_ok.mp hread
      cases hread
      have hkey : field.name = key := by simpa using List.find?_some hfind
      rw [hmarks field (List.mem_of_find?_eq_some hfind) hput state other hother, Bool.or_eq_true,
        beq_iff_eq, hkey, or_comm]

variable (h : List.Forall₂ (Field.HasType levels) fields types)
  (hnodup : (types.map (·.name)).Nodup)

include h

theorem takesText_of_hasType : ∀ field ∈ fields, TakesText field.read := by
  induction h with
  | nil => exact nofun
  | cons hfield _ ih => exact List.forall_mem_cons.mpr ⟨hfield.read.takes, ih⟩

include hnodup in
/-- A member is taken if it is no field, or the first of its field and of its type. -/
theorem accepts_member (hgiven : Given fields state members) {colon mid : Bytes}
    (hcolon : readColon input = .ok colon) (hv : writtenValue levels colon = .ok (v, mid)) :
    (∃ next, readField fields key state input = .ok (next, mid)) ↔
      ∀ t ∈ types, t.name = key → t.type v ∧ key ∉ members.map (·.1) := by
  have hfind := find?_related h (p := fun field => field.name = key)
    (q := fun t => t.name = key) fun field t hfield => by rw [hfield.name]
  unfold readField
  rcases rel_cases hfind with ⟨hnone, hunknown⟩ | ⟨field, t, hsome, hknown, hfield⟩
  · have hskip : skipValue colon = .ok mid := skipValue_eq_ok.mpr (takesText_writtenValue levels hv)
    rw [hnone]
    refine iff_of_true ⟨state, ?_⟩ fun t ht hname => ?_
    · rw [hcolon, ok_bind, hskip, ok_bind]
    · exact absurd hname (by simpa using List.find?_eq_none.mp hunknown t ht)
  · have hmem := List.mem_of_find?_eq_some hsome
    have hkey : field.name = key := by simpa using List.find?_some hsome
    have ht := List.mem_of_find?_eq_some hknown
    have honly : ∀ t' ∈ types, t'.name = key → t' = t := fun t' ht' hname =>
      List.inj_on_of_nodup_map hnodup ht' ht (hname.trans (hkey.symm.trans hfield.name))
    have hseen := hgiven field hmem
    rw [hkey] at hseen
    rw [hsome]
    dsimp only
    by_cases hrepeated : field.given state = true
    · rw [if_pos hrepeated]
      refine iff_of_false nofun fun hall => ?_
      exact (hall t ht (hfield.name.symm.trans hkey)).2 (hseen.mp hrepeated)
    · rw [if_neg hrepeated, hcolon, ok_bind]
      constructor
      · rintro ⟨next, hnext⟩ t' ht' hname
        obtain ⟨⟨put, _⟩, hput, -⟩ := bind_eq_ok.mp hnext
        obtain rfl := honly t' ht' hname
        exact ⟨hfield.read.type_of_read hput hv, fun hmem => hrepeated (hseen.mpr hmem)⟩
      · intro hall
        have htype := (hall t ht (hfield.name.symm.trans hkey)).1
        obtain ⟨put, hput⟩ := (hfield.read.iff hv).mpr htype
        exact ⟨put state, by rw [hput, ok_bind]⟩

include hnodup in
/-- Members are taken if the fields among them are there once and have values of their types. -/
theorem accepts_members (hmarks : MarksGiven fields) {count : Nat} {first : Bool}
    {before : List (String × Json)}
    (hmembers : readMembers (writtenMember (writtenValue levels)) count first before input =
      .ok (members, rest)) (hfits : Fits types before) (hgiven : Given fields state before) :
    (∃ after, readMembers (readField fields) count first state input = .ok (after, rest)) ↔
      Fits types members := by
  induction count generalizing first before input state with
  | zero => cases hmembers
  | succ count ih =>
    cases membersRead_of_readMembers hmembers with
    | none hclose => exact iff_of_true ⟨state, readMembers_closed _ hclose count first state⟩ hfits
    | @one start behind mid _ key _ _ hstart hkey hmember hmembers =>
      obtain ⟨colon, hcolon, hmember⟩ := bind_eq_ok.mp hmember
      obtain ⟨⟨v, _⟩, hv, hmember⟩ := bind_eq_ok.mp hmember
      cases hmember
      have hmember : (∃ next, readField fields key state behind = .ok (next, mid)) ↔ _ :=
        accepts_member h hnodup hgiven hcolon hv
      rw [hstart.readMembers, hkey, ok_bind]
      constructor
      · rintro ⟨after, hread⟩
        obtain ⟨⟨next, _⟩, hnext, hread⟩ := bind_eq_ok.mp hread
        obtain rfl := (takesMember_readField (takesText_of_hasType h) _ _).rest_eq hnext hcolon hv
        have hconcat := fits_concat.mpr ⟨hfits, hmember.mp ⟨next, hnext⟩⟩
        have hgiven' := given_of_readField hmarks hgiven hnext v
        exact (ih hmembers hconcat hgiven').mp ⟨after, hread⟩
      · intro hall
        have hconcat := hall.of_prefix (prefix_of_readMembers hmembers)
        obtain ⟨next, hnext⟩ := hmember.mpr (fits_concat.mp hconcat).2
        have hgiven' := given_of_readField hmarks hgiven hnext v
        obtain ⟨after, hread⟩ := (ih hmembers hconcat hgiven').mpr hall
        exact ⟨after, (congrArg (· >>= _) hnext).trans hread⟩

/-- Where all members have been taken, the fields that are given are those among them. -/
theorem given_of_readMembers (hmarks : MarksGiven fields) {count : Nat} {first : Bool} {after : σ}
    {before : List (String × Json)} {rest' : Bytes} (hgiven : Given fields state before)
    (hread : readMembers (readField fields) count first state input = .ok (after, rest'))
    (hmembers : readMembers (writtenMember (writtenValue levels)) count first before input =
      .ok (members, rest)) : Given fields after members := by
  have hmember (key : String) (state : σ) (before : List (String × Json))
      (hgiven : Given fields state before) :
      Together (readField fields key state) (writtenMember (writtenValue levels) key before)
        (Given fields) := by
    intro input next mid members mid' hnext hmember
    obtain ⟨colon, hcolon, hmember⟩ := bind_eq_ok.mp hmember
    obtain ⟨⟨v, _⟩, hv, hmember⟩ := bind_eq_ok.mp hmember
    cases hmember
    exact ⟨(takesMember_readField (takesText_of_hasType h) key state).rest_eq hnext hcolon hv,
      given_of_readField hmarks hgiven hnext v⟩
  exact (Together.members hmember count first hgiven hread hmembers).2

/-- What is needed is there, where the fields that are given are those among members. -/
theorem find?_missing (hgiven : Given fields state members) :
    (fields.find? fun field => !field.optional && !field.given state) = none ↔
      ∀ t ∈ types, t.optional = false → t.name ∈ members.map (·.1) := by
  rw [List.find?_eq_none]
  induction h with
  | nil => exact iff_of_true nofun nofun
  | @cons field t fields types hfield _ ih =>
    obtain ⟨hone, hgiven⟩ := List.forall_mem_cons.mp hgiven
    rw [List.forall_mem_cons, List.forall_mem_cons, ih hgiven]
    refine and_congr_left' ?_
    rw [← hfield.name, ← hone, ← hfield.optional]
    cases field.optional <;> simp

end Fields

/-! ## Either way -/

variable {fields : (levels : Nat) → List (Field σ)} {types : List FieldType} {empty : σ}

theorem readRecord_object {behind : Bytes} (hopen : skipSpace input = 0x7B :: behind)
    (name : String) :
    readRecord (levels + 1) name fields empty input =
      (readMembers (readField (fields levels)) (behind.length + 1) true empty behind >>=
        fun (state, rest) =>
          match (fields levels).find? fun field => !field.optional && !field.given state with
          | some field => failHere (.missingField field.name) rest
          | none => .ok (state, rest)) := by
  unfold readRecord
  rw [hopen]
  rfl

theorem accepts_array (h : List.Forall₂ (Field.HasType levels) (fields levels) types)
    {behind : Bytes} {items : List Json} (hspace : skipSpace input = 0x5B :: behind)
    (hitems : readItems (writtenValue levels) (behind.length + 1) true behind = .ok (items, rest))
    (name : String) :
    (∃ after, readRecord (levels + 1) name fields empty input = .ok (after, rest)) ↔
      FitsByPosition types items := by
  have hfirst : readItems (writtenValue levels) (behind.length + 1) (0 == 0) behind =
    .ok (items, rest) := hitems
  rw [readRecord_array hspace]
  exact accepts_positional _ h hfirst empty

theorem accepts_object (h : List.Forall₂ (Field.HasType levels) (fields levels) types)
    (hnodup : (types.map (·.name)).Nodup) (hmarks : MarksGiven (fields levels))
    (hempty : ∀ field ∈ fields levels, field.given empty = false) {behind : Bytes}
    {members : List (String × Json)} (hspace : skipSpace input = 0x7B :: behind)
    (hmembers : readMembers (writtenMember (writtenValue levels)) (behind.length + 1) true []
      behind = .ok (members, rest)) (name : String) :
    (∃ after, readRecord (levels + 1) name fields empty input = .ok (after, rest)) ↔
      Fits types members ∧ ∀ t ∈ types, t.optional = false → t.name ∈ members.map (·.1) := by
  have hnothing : Given (fields levels) empty [] := fun field hfield =>
    iff_of_false (Bool.eq_false_iff.mp (hempty field hfield)) nofun
  have hfits := accepts_members h hnodup hmarks hmembers ⟨.nil, nofun⟩ hnothing
  have hgiven {after : σ} (hread : readMembers (readField (fields levels)) (behind.length + 1) true
      empty behind = .ok (after, rest)) : Given (fields levels) after members :=
    given_of_readMembers h hmarks hnothing hread hmembers
  rw [readRecord_object hspace]
  constructor
  · rintro ⟨after, hread⟩
    obtain ⟨⟨state, _⟩, hstate, hread⟩ := bind_eq_ok.mp hread
    dsimp only at hread
    split at hread
    · cases hread
    · next hnone =>
      cases hread
      exact ⟨hfits.mp ⟨after, hstate⟩, (find?_missing h (hgiven hstate)).mp hnone⟩
  · rintro ⟨hall, hneeded⟩
    obtain ⟨after, hread⟩ := hfits.mpr hall
    refine ⟨after, ?_⟩
    rw [hread, ok_bind]
    dsimp only
    rw [(find?_missing h (hgiven hread)).mpr hneeded]

/-- **A record accepts objects and arrays of its types.** -/
theorem Accepts.record (h : ∀ levels, List.Forall₂ (Field.HasType levels) (fields levels) types)
    (hnodup : (types.map (·.name)).Nodup) (hmarks : ∀ levels, MarksGiven (fields levels))
    (hempty : ∀ levels, ∀ field ∈ fields levels, field.given empty = false) (levels : Nat)
    (name : String) : Accepts (readRecord levels name fields empty) levels (IsRecord types) where
  takes := .record levels name empty fun levels => takesText_of_hasType (h levels)
  iff {input v rest} hv := by
    constructor
    · rintro ⟨after, hread⟩
      cases recordRead_of_readRecord hread with
      | array hspace =>
        obtain ⟨levels, items, rfl, rfl, hitems⟩ := items_of_writtenValue hspace hv
        exact .array ((accepts_array (h levels) hspace hitems name).mp ⟨after, hread⟩)
      | object hspace =>
        obtain ⟨levels, members, rfl, rfl, hmembers⟩ := members_of_writtenValue hspace hv
        obtain ⟨hfits, hneeded⟩ := (accepts_object (h levels) hnodup (hmarks levels)
          (hempty levels) hspace hmembers name).mp ⟨after, hread⟩
        exact .object hfits hneeded
    · rintro (⟨hfits, hneeded⟩ | hfits)
      · cases writtenRead_of_writtenValue hv with
        | @object levels _ _ _ hspace hmembers =>
          exact (accepts_object (h levels) hnodup (hmarks levels) (hempty levels) hspace hmembers
            name).mpr ⟨hfits, hneeded⟩
      · cases writtenRead_of_writtenValue hv with
        | @array levels _ _ _ hspace hitems =>
          exact (accepts_array (h levels) hspace hitems name).mpr hfits

/-- A record that is completed accepts what it accepts before. -/
theorem Accepts.complete {reader : Reader σ} {type : Json → Prop} (h : Accepts reader levels type)
    {finish : σ → Option α}
    (hfinish : ∀ {input state rest}, reader input = .ok (state, rest) → (finish state).isSome) :
    Accepts (reader.complete finish) levels type where
  takes := h.takes.complete finish
  iff {input v rest} hv := by
    refine Iff.trans ?_ (h.iff hv)
    constructor
    · rintro ⟨x, hx⟩
      obtain ⟨⟨state, _⟩, hstate, -⟩ := bind_eq_ok.mp hx
      obtain rfl := h.takes.rest_eq hstate hv
      exact ⟨state, hstate⟩
    · rintro ⟨state, hstate⟩
      obtain ⟨x, hx⟩ := Option.isSome_iff_exists.mp (hfinish hstate)
      refine ⟨x, ?_⟩
      rw [Reader.complete, hstate, ok_bind]
      dsimp only
      rw [hx]

end ProbeGateway.Json
