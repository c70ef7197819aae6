import ProbeGateway.Proofs.Json.Value
import ProbeGateway.Proofs.Sorted

/-!
# Records read back

An object is read member by member. Members fill a state (`Fills`) if each of them, read behind its
key, turns the state before it into the state after it, and an object whose members fill a state is
read as that state (`Fills.readMembers`). So a map of strings is read back in its order
(`takes_readTextMap`), and a record from members that fill its fields (`Takes.record`).
-/

namespace ProbeGateway.Json

variable {σ : Type} {member : String → σ → Reader σ} {rest : Bytes}

/-! ## Members -/

/-- Members turn a state into another, one after the other. -/
inductive Fills (member : String → σ → Reader σ) : σ → List (String × Json) → σ → Prop
  | nil (state : σ) : Fills member state [] state
  | cons {key : String} {v : Json} {members : List (String × Json)} {before next after : σ}
      (hread : ∀ rest, Delimits rest →
        member key before (0x3A :: (v.body ++ rest)) = .ok (next, rest))
      (hmembers : Fills member next members after) :
      Fills member before ((key, v) :: members) after

/-- A member: its key, a colon and its value. -/
def memberBody (m : String × Json) : Bytes := (text m.1).body ++ 0x3A :: m.2.body

/-- Members with a comma before each. -/
def laterMembers (members : List (String × Json)) : Bytes :=
  members.flatMap fun m => 0x2C :: memberBody m

theorem memberBody_append (m : String × Json) (rest : Bytes) :
    memberBody m ++ rest = 0x22 :: (Utf8.encodeList (m.1.toList.flatMap escapeChar) ++
      0x22 :: 0x3A :: (m.2.body ++ rest)) := by
  unfold memberBody
  rw [List.append_assoc, text_append, List.cons_append]

theorem encodeList_writeMembers (m : String × Json) (members : List (String × Json)) :
    Utf8.encodeList (writeMembers (m :: members)) = memberBody m ++ laterMembers members := by
  induction members generalizing m with
  | nil =>
    rw [writeMembers, Utf8.encodeList_append, Utf8.encodeList_cons]
    exact (List.append_nil _).symm
  | cons n members ih =>
    rw [writeMembers, Utf8.encodeList_append, Utf8.encodeList_append, Utf8.encodeList_cons,
      Utf8.encodeList_cons, ih]
    rfl

theorem laterMembers_delimits (members : List (String × Json)) (rest : Bytes) :
    Delimits (laterMembers members ++ 0x7D :: rest) := by
  cases members with
  | nil => exact .brace rest
  | cons m members => exact .comma _

variable {key : String} {v : Json} {before next : σ} {input : Bytes}

/-- The first member turns the state before it into the next. -/
theorem readMembers_first
    (hread : member key before (0x3A :: (v.body ++ input)) = .ok (next, input)) (fuel : Nat) :
    readMembers member (fuel + 1) true before (memberBody (key, v) ++ input) =
      readMembers member fuel false next input := by
  rw [memberBody_append, readMembers, skipSpace_cons rfl]
  dsimp only
  rw [if_neg (by decide), if_pos rfl, readKey, if_pos rfl, readString_escaped, ok_bind]
  dsimp only
  rw [hread, ok_bind]

/-- So does a member behind a comma. -/
theorem readMembers_next
    (hread : member key before (0x3A :: (v.body ++ input)) = .ok (next, input)) (fuel : Nat) :
    readMembers member (fuel + 1) false before (0x2C :: (memberBody (key, v) ++ input)) =
      readMembers member fuel false next input := by
  rw [memberBody_append, readMembers, skipSpace_cons rfl]
  dsimp only
  rw [if_neg (by decide), if_neg Bool.false_ne_true, if_pos rfl, skipSpace_cons rfl]
  dsimp only
  rw [if_neg (by decide), readKey, if_pos rfl, readString_escaped, ok_bind]
  dsimp only
  rw [hread, ok_bind]

variable {members : List (String × Json)} {after : σ}

/-- The members behind the first are read, each behind its comma. -/
theorem Fills.readMembers_later (h : Fills member before members after) (rest : Bytes) :
    ∀ fuel, (laterMembers members ++ 0x7D :: rest).length < fuel →
      readMembers member fuel false before (laterMembers members ++ 0x7D :: rest) =
        .ok (after, rest) := by
  intro fuel hfuel
  -- The fuel counts octets, and each member uses up its comma at least.
  induction h generalizing fuel with
  | nil state =>
    cases fuel with
    | zero => exact absurd hfuel (Nat.not_lt_zero _)
    | succ fuel => rfl
  | @cons key v members before next after hread hmembers ih =>
    have hlater : laterMembers ((key, v) :: members) ++ 0x7D :: rest =
        0x2C :: (memberBody (key, v) ++ (laterMembers members ++ 0x7D :: rest)) := by
      rw [← List.append_assoc]
      rfl
    rw [hlater] at hfuel ⊢
    cases fuel with
    | zero => exact absurd hfuel (Nat.not_lt_zero _)
    | succ fuel =>
      rw [readMembers_next (hread _ (laterMembers_delimits members rest))]
      refine ih fuel ?_
      simp only [List.length_cons, List.length_append] at hfuel ⊢
      omega

/-- **An object is read as the state that its members fill**, up to its closing brace. -/
theorem Fills.readMembers (h : Fills member before members after) (rest : Bytes) :
    Json.readMembers member
        ((Utf8.encodeList (writeMembers members) ++ 0x7D :: rest).length + 1) true before
        (Utf8.encodeList (writeMembers members) ++ 0x7D :: rest) = .ok (after, rest) := by
  cases h with
  | nil => rfl
  | @cons key v members _ next _ hread hmembers =>
    rw [encodeList_writeMembers, List.append_assoc,
      readMembers_first (hread _ (laterMembers_delimits members rest))]
    refine hmembers.readMembers_later rest _ ?_
    -- the first member is no empty text
    simp only [memberBody_append, List.length_append, List.length_cons]
    omega

theorem body_object (members : List (String × Json)) :
    (object members).body = 0x7B :: (Utf8.encodeList (writeMembers members) ++ [0x7D]) := by
  unfold body
  rw [write, List.cons_append, Utf8.encodeList_cons, Utf8.encodeList_append]
  rfl

theorem object_append (members : List (String × Json)) (rest : Bytes) :
    (object members).body ++ rest =
      0x7B :: (Utf8.encodeList (writeMembers members) ++ 0x7D :: rest) := by
  rw [body_object, List.cons_append, List.append_assoc, List.singleton_append]

theorem opens_object (members : List (String × Json)) :
    ∃ b bs, (object members).body = b :: bs ∧ Opens b := by
  refine ⟨_, _, body_object members, rfl, ?_, ?_⟩
  all_goals decide

/-! ## Maps of strings -/

/-- Entries that follow in order are put at the end one by one. -/
theorem fills_readTextMember {before entries : Sorted String String}
    (h : Sorted.Increasing (before ++ entries)) :
    Fills readTextMember before (entries.map fun entry => (entry.1, text entry.2))
      (before ++ entries) := by
  induction entries generalizing before with
  | nil =>
    rw [List.append_nil]
    exact .nil before
  | cons entry entries ih =>
    obtain ⟨key, value⟩ := entry
    rw [List.append_cons] at h ⊢
    have hlast : Sorted.insert key value before = before ++ [(key, value)] :=
      Sorted.Increasing.insert_eq_append (List.pairwise_append.mp h).1
    refine .cons (fun rest hrest => ?_) (ih h)
    show (readText ((text value).body ++ rest) >>= _) = _
    rw [(takes_readText value).reads rest hrest, ok_bind]
    exact congrArg (fun entries => Except.ok (entries, rest)) hlast

/-- **A map of strings is taken**, its keys in order. -/
theorem takes_readTextMap {entries : Sorted String String} (h : Sorted.Increasing entries)
    (levels : Nat) :
    Takes (readTextMap (levels + 1)) (object (entries.map fun entry => (entry.1, text entry.2)))
      entries where
  opens := opens_object _
  reads rest _ := by
    have hfills : Fills readTextMember [] (entries.map fun entry => (entry.1, text entry.2))
        entries := @fills_readTextMember [] entries h
    rw [object_append]
    exact hfills.readMembers rest

/-! ## Records -/

variable {α : Type} {reader : Reader α} {x : α} {fields : List (Field σ)} {given : σ → Bool}
  {put : α → σ → σ} {optional : Bool}

/-- A member under the name of a field that has no value yet is put into the field. -/
theorem Fills.field (hfind : fields.find? (·.name = key) = some (.of key given reader put optional))
    (hgiven : given before = false) (h : Takes reader v x)
    (hmembers : Fills (readField fields) (put x before) members after) :
    Fills (readField fields) before ((key, v) :: members) after := by
  refine .cons (fun rest hrest => ?_) hmembers
  have hopen : (Field.of key given reader put optional).given before ≠ true := by
    rw [show (Field.of key given reader put optional).given before = false from hgiven]
    exact Bool.false_ne_true
  unfold readField
  rw [hfind]
  dsimp only
  rw [if_neg hopen]
  show ((reader (v.body ++ rest) >>= _) >>= _) = _
  rw [h.reads rest hrest]
  rfl

/-- A member that may be left out is put into its field where it is written. -/
theorem Fills.optionalField {put : Option String → σ → σ}
    (hfind : fields.find? (·.name = key) = some (.of key given (readOptional readText) put true))
    (hgiven : given before = false) (s : Option String)
    (hmembers : Fills (readField fields) (s.elim before fun s => put (some s) before) members
      after) :
    Fills (readField fields) before (optionalMember key s ++ members) after := by
  cases s with
  | none => exact hmembers
  | some s => exact .field hfind hgiven (takes_readOptional_text s) hmembers

/-- **A record is taken** if its members fill all fields that it cannot be without. -/
theorem Takes.record {levels : Nat} {fields : (levels : Nat) → List (Field σ)} {empty : σ}
    (h : Fills (readField (fields levels)) empty members after)
    (hfull : (fields levels).find? (fun field => !field.optional && !field.given after) = none)
    (name : String) : Takes (readRecord (levels + 1) name fields empty) (object members) after where
  opens := opens_object members
  reads rest _ := by
    rw [object_append]
    show (Json.readMembers _ _ true _ _ >>= _) = _
    rw [h.readMembers rest, ok_bind]
    dsimp only
    rw [hfull]

theorem Takes.complete {reader : Reader σ} (h : Takes reader v after) {finish : σ → Option α}
    (hfinish : finish after = some x) : Takes (reader.complete finish) v x where
  opens := h.opens
  reads rest hrest := by
    unfold Reader.complete
    rw [h.reads rest hrest, ok_bind]
    dsimp only
    rw [hfinish]

end ProbeGateway.Json
