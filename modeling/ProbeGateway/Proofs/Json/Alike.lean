import ProbeGateway.Proofs.Json.Value
import ProbeGateway.Proofs.Related

/-!
# Readers that differ in what they make of a text

Two readers are alike (`Alike`) if they refuse the same texts, with the same fault, and what they
read of any other text is related and leaves the same octets. They stay alike inside arrays
(`Alike.items`), objects (`Alike.members`), optional values (`Alike.optional`) and records
(`Alike.record`), so that readers of whole texts are alike if those of their parts are.
-/

namespace ProbeGateway.Json

variable {α β γ σ τ : Type} {related : α → β → Prop} {kept : σ → τ → Prop}

/-! ## Outcomes -/

/-- Two outcomes are the same fault, or have related values with the same octets behind them. -/
inductive SameOutcome (related : α → β → Prop) :
    Except Fault (α × Bytes) → Except Fault (β × Bytes) → Prop
  | refused (fault : Fault) : SameOutcome related (.error fault) (.error fault)
  | read {x : α} {y : β} (h : related x y) (rest : Bytes) :
    SameOutcome related (.ok (x, rest)) (.ok (y, rest))

/-- Two readers have the same outcome on every text. -/
def Alike (related : α → β → Prop) (reader : Reader α) (reader' : Reader β) : Prop :=
  ∀ input, SameOutcome related (reader input) (reader' input)

theorem Alike.refl (reader : Reader α) : Alike Eq reader reader := by
  intro input
  cases reader input with
  | error fault => exact .refused fault
  | ok outcome => exact .read rfl outcome.2

namespace SameOutcome

theorem bind {first : Except Fault (α × Bytes)} {first' : Except Fault (β × Bytes)}
    {next : α × Bytes → Except Fault (σ × Bytes)} {next' : β × Bytes → Except Fault (τ × Bytes)}
    (h : SameOutcome related first first')
    (hnext : ∀ x y rest, related x y → SameOutcome kept (next (x, rest)) (next' (y, rest))) :
    SameOutcome kept (first >>= next) (first' >>= next') := by
  cases h with
  | refused fault => exact .refused fault
  | read hxy rest => exact hnext _ _ rest hxy

/-- A step that both make changes nothing. -/
theorem step (outcome : Except Fault γ) {next : γ → Except Fault (α × Bytes)}
    {next' : γ → Except Fault (β × Bytes)}
    (hnext : ∀ z, SameOutcome related (next z) (next' z)) :
    SameOutcome related (outcome >>= next) (outcome >>= next') := by
  cases outcome with
  | error fault => exact .refused fault
  | ok z => exact hnext z

theorem mismatch (expected : String) (input : Bytes) :
    SameOutcome related (mismatch expected input) (mismatch expected input) := by
  unfold Json.mismatch
  dsimp only
  split
  · exact .refused _
  · -- six scalars are read before they are refused, and two brackets are not
    iterate 6
      split
      · exact .step _ fun _ => .refused _
    iterate 2
      split
      · exact .refused _
    exact .refused _

end SameOutcome

/-! ## Arrays and objects -/

theorem Alike.items {item : Reader α} {item' : Reader β} (h : Alike related item item')
    (fuel : Nat) (first : Bool) :
    Alike (List.Forall₂ related) (readItems item fuel first) (readItems item' fuel first) := by
  have hcons {fuel : Nat} (ih : ∀ first, Alike (List.Forall₂ related) (readItems item fuel first)
      (readItems item' fuel first)) (input : Bytes) :
      SameOutcome (List.Forall₂ related)
        (item input >>= fun first =>
          readItems item fuel false first.2 >>= fun later => .ok (first.1 :: later.1, later.2))
        (item' input >>= fun first =>
          readItems item' fuel false first.2 >>= fun later => .ok (first.1 :: later.1, later.2)) :=
    (h input).bind fun x y rest hxy =>
      (ih false rest).bind fun xs ys rest hxys => .read (.cons hxy hxys) rest
  induction fuel generalizing first with
  | zero => exact fun input => .refused _
  | succ fuel ih =>
    intro input
    unfold readItems
    split
    · exact .refused _
    split
    · exact .read .nil _
    split
    · exact hcons ih _
    split
    · split
      · exact .refused _
      split
      · exact .refused _
      · exact hcons ih _
    · exact .refused _

theorem Alike.members {member : String → σ → Reader σ} {member' : String → τ → Reader τ}
    (h : ∀ key s t, kept s t → Alike kept (member key s) (member' key t)) (fuel : Nat)
    (first : Bool) {s : σ} {t : τ} (hst : kept s t) :
    Alike kept (readMembers member fuel first s) (readMembers member' fuel first t) := by
  induction fuel generalizing first s t with
  | zero => exact fun input => .refused _
  | succ fuel ih =>
    intro input
    have hone (input : Bytes) : SameOutcome kept
        (readKey input >>= fun key =>
          member key.1 s key.2 >>= fun next => readMembers member fuel false next.1 next.2)
        (readKey input >>= fun key =>
          member' key.1 t key.2 >>= fun next => readMembers member' fuel false next.1 next.2) :=
      .step _ fun key => (h key.1 s t hst key.2).bind fun s t rest hst => ih false hst rest
    unfold readMembers
    split
    · exact .refused _
    split
    · exact .read hst _
    split
    · exact hone _
    split
    · split
      · exact .refused _
      split
      · exact .refused _
      · exact hone _
    · exact .refused _

/-- A value is read alike if arrays and objects are. -/
theorem alike_readValueWith {R : Json → Json → Prop} {array object array' object' : Reader Json}
    (hnull : R .null .null) (hbool : ∀ b, R (.bool b) (.bool b))
    (hnumber : ∀ n, R (.number n) (.number n)) (htext : ∀ s, R (.text s) (.text s))
    (harray : Alike R array array') (hobject : Alike R object object') :
    Alike R (readValueWith array object) (readValueWith array' object') := by
  intro input
  unfold readValueWith
  split
  · exact .refused _
  split
  · exact .step _ fun rest => .read hnull rest
  split
  · exact .step _ fun rest => .read (hbool true) rest
  split
  · exact .step _ fun rest => .read (hbool false) rest
  split
  · exact .step _ fun n => .read (hnumber n.1) n.2
  split
  · exact .step _ fun n => .read (hnumber n.1) n.2
  split
  · exact .step _ fun s => .read (htext s.1) s.2
  split
  · exact harray _
  split
  · exact hobject _
  · exact .refused _

theorem Alike.optional {reader : Reader α} {reader' : Reader β} (h : Alike related reader reader') :
    Alike (Option.Rel related) (readOptional reader) (readOptional reader') := by
  intro input
  unfold readOptional
  split
  · exact .step _ fun rest => .read .none rest
  · exact (h input).bind fun x y rest hxy => .read (.some hxy) rest

/-! ## Records -/

/-- Fields of one name that are given and needed alike, and put in what they read alike. -/
structure Field.Alike (kept : σ → τ → Prop) (field : Field σ) (field' : Field τ) : Prop where
  name : field.name = field'.name
  given : ∀ s t, kept s t → field.given s = field'.given t
  read : Json.Alike (fun put put' => ∀ s t, kept s t → kept (put s) (put' t)) field.read field'.read
  optional : field.optional = field'.optional

/-- A field is as alike as its reader, if what is read is put in alike. -/
theorem Alike.field {reader : Reader α} {reader' : Reader β} (h : Alike related reader reader')
    (name : String) {given : σ → Bool} {given' : τ → Bool} {put : α → σ → σ} {put' : β → τ → τ}
    (hgiven : ∀ s t, kept s t → given s = given' t)
    (hput : ∀ x y s t, related x y → kept s t → kept (put x s) (put' y t)) (optional : Bool) :
    Field.Alike kept (.of name given reader put optional)
      (.of name given' reader' put' optional) where
  name := rfl
  given := hgiven
  read input := (h input).bind fun x y rest hxy => .read (fun s t => hput x y s t hxy) rest
  optional := rfl

section Record

variable {fields : List (Field σ)} {fields' : List (Field τ)}

theorem alike_readField (h : List.Forall₂ (Field.Alike kept) fields fields') (key : String) (s : σ)
    (t : τ) (hst : kept s t) :
    Alike kept (readField fields key s) (readField fields' key t) := by
  intro input
  have hfind := find?_related h (p := fun field => field.name = key)
    (q := fun field => field.name = key) fun field field' hfield => by rw [hfield.name]
  unfold readField
  generalize fields.find? (fun field => field.name = key) = found at hfind
  generalize fields'.find? (fun field => field.name = key) = found' at hfind
  cases hfind with
  | none => exact .step _ fun rest => .step _ fun rest => .read hst rest
  | @some field field' hfield =>
    dsimp only
    rw [hfield.given s t hst]
    split
    · exact .refused _
    · exact .step _ fun rest => (hfield.read rest).bind fun put put' rest hput =>
        .read (hput s t hst) rest

theorem alike_readPositional (expected : String)
    (h : List.Forall₂ (Field.Alike kept) fields fields') (index : Nat) {s : σ} {t : τ}
    (hst : kept s t) :
    Alike kept (readPositional expected fields index s)
      (readPositional expected fields' index t) := by
  induction h generalizing index s t with
  | nil => exact fun input => .step _ fun rest => .read hst rest
  | @cons field field' fields fields' hfield _ ih =>
    intro input
    have hone (input : Bytes) : SameOutcome kept
        (field.read input >>= fun put =>
          readPositional expected fields (index + 1) (put.1 s) put.2)
        (field'.read input >>= fun put =>
          readPositional expected fields' (index + 1) (put.1 t) put.2) :=
      (hfield.read input).bind fun put put' rest hput => ih (index + 1) (hput s t hst) rest
    unfold readPositional
    rw [hfield.optional]
    split
    · exact .refused _
    split
    · split
      · exact ih (index + 1) hst _
      · exact .refused _
    split
    · exact hone _
    split
    · split
      · exact .refused _
      split
      · exact .refused _
      · exact hone _
    · exact .refused _

end Record

/-- **Records are read alike if their fields are.** -/
theorem Alike.record {fields : (levels : Nat) → List (Field σ)}
    {fields' : (levels : Nat) → List (Field τ)} {levels : Nat}
    (h : List.Forall₂ (Field.Alike kept) (fields levels) (fields' levels)) (name : String)
    {empty : σ} {empty' : τ} (hempty : kept empty empty') :
    Alike kept (readRecord (levels + 1) name fields empty)
      (readRecord (levels + 1) name fields' empty') := by
  intro input
  unfold readRecord
  split
  · exact .refused _
  split
  · dsimp only
    rw [h.length_eq]
    exact alike_readPositional _ h 0 hempty _
  split
  · refine (Alike.members (alike_readField h) _ true hempty _).bind fun s t rest hst => ?_
    have hfind := find?_related h (p := fun field => !field.optional && !field.given s)
      (q := fun field => !field.optional && !field.given t) fun field field' hfield => by
        rw [hfield.optional, hfield.given s t hst]
    dsimp only
    generalize (fields levels).find? _ = found at hfind ⊢
    generalize (fields' levels).find? _ = found' at hfind ⊢
    cases hfind with
    | none => exact .read hst rest
    | some hfield =>
      dsimp only
      rw [hfield.name]
      exact .refused _
  · exact .mismatch _ _

theorem Alike.complete {reader : Reader σ} {reader' : Reader τ} (h : Alike kept reader reader')
    {finish : σ → Option α} {finish' : τ → Option β}
    (hfinish : ∀ s t, kept s t → Option.Rel related (finish s) (finish' t)) :
    Alike related (reader.complete finish) (reader'.complete finish') := by
  refine fun input => (h input).bind fun s t rest hst => ?_
  have hrel := hfinish s t hst
  dsimp only
  generalize finish s = x at hrel
  generalize finish' t = y at hrel
  cases hrel with
  | none => exact .refused _
  | some hxy => exact .read hxy rest

/-! ## Whole texts -/

/-- Whole texts are read alike, the places of faults included. -/
theorem Alike.parseWith {reader : Reader α} {reader' : Reader β} (h : Alike related reader reader')
    (input : Bytes) :
    Option.Rel related (parseWith reader input).toOption (parseWith reader' input).toOption := by
  have hsame := h input
  unfold Json.parseWith
  generalize reader input = outcome at hsame
  generalize reader' input = outcome' at hsame
  cases hsame with
  | refused fault => exact .none
  | read hxy rest =>
    dsimp only [ok_bind]
    split
    · exact .some hxy
    · exact .none

end ProbeGateway.Json
