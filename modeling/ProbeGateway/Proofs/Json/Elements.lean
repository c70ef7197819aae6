import ProbeGateway.Json.Record
import ProbeGateway.Proofs.Json.Value

/-!
# Arrays and objects, element by element

The loops over an array or an object differ in what they do with an element, and agree on where it
begins: at once if it is the first, and behind a comma if it is not (`Starts`). What a loop has read
comes from the closing bracket, or from an element and the rest of the loop behind it. That is said
once for each loop (`itemsRead_of_readItems`, `membersRead_of_readMembers`,
`fieldRead_of_readPositional`).
-/

namespace ProbeGateway.Json

variable {α σ : Type} {input start rest : Bytes} {first : Bool}

/-! ## Where elements begin -/

/-- An element of an array or object begins here. -/
inductive Starts (bracket : Bracket) (input : Bytes) : (first : Bool) → (start : Bytes) → Prop
  | now {b : UInt8} {behind : Bytes} (h : skipSpace input = b :: behind)
      (hopen : b ≠ bracket.close) : Starts bracket input true (b :: behind)
  | behindComma {b : UInt8} {before behind : Bytes} (hcomma : skipSpace input = 0x2C :: before)
      (h : skipSpace before = b :: behind) (hopen : b ≠ bracket.close) :
    Starts bracket input false (b :: behind)

namespace Starts

variable {bracket : Bracket} {start' : Bytes}

theorem unique (h : Starts bracket input first start) (h' : Starts bracket input first start') :
    start = start' := by
  cases h with
  | now h =>
    cases h' with
    | now h' => rw [← h, ← h']
  | behindComma hcomma h =>
    cases h' with
    | behindComma hcomma' h' =>
      cases hcomma.symm.trans hcomma'
      rw [← h, ← h']

/-- No element begins where the bracket is closed. -/
theorem not_closed (h : Starts bracket input first start) :
    skipSpace input ≠ bracket.close :: rest := by
  intro hclose
  cases h with
  | now h hopen =>
    rw [h] at hclose
    exact hopen (List.cons.inj hclose).1
  | behindComma hcomma =>
    rw [hcomma] at hclose
    cases bracket with
    | array => cases hclose
    | object => cases hclose

end Starts

/-! ## Items -/

/-- How items are read: there is none left, or one begins and the others follow. -/
inductive ItemsRead (item : Reader α) (count : Nat) (first : Bool) (input : Bytes) :
    List α → Bytes → Prop
  | none {rest : Bytes} (hclose : skipSpace input = 0x5D :: rest) :
    ItemsRead item count first input [] rest
  | one {start mid rest : Bytes} {x : α} {xs : List α} (hstart : Starts .array input first start)
      (hitem : item start = .ok (x, mid))
      (hitems : readItems item count false mid = .ok (xs, rest)) :
    ItemsRead item count first input (x :: xs) rest

theorem itemsRead_of_readItems {item : Reader α} {count : Nat} {xs : List α}
    (h : readItems item (count + 1) first input = .ok (xs, rest)) :
    ItemsRead item count first input xs rest := by
  unfold readItems at h
  split at h
  · cases h
  next b behind hspace =>
  split at h
  · next hclose =>
    cases h
    exact .none (hclose ▸ hspace)
  next hopen =>
  split at h
  · next hfirst =>
    subst hfirst
    obtain ⟨⟨x, mid⟩, hitem, h⟩ := bind_eq_ok.mp h
    obtain ⟨⟨xs, _⟩, hitems, h⟩ := bind_eq_ok.mp h
    cases h
    exact .one (.now hspace hopen) hitem hitems
  next hfirst =>
  cases Bool.eq_false_iff.mpr hfirst
  split at h
  · next hcomma =>
    split at h
    · cases h
    next c behind' hspace' =>
    split at h
    · cases h
    next hopen =>
    obtain ⟨⟨x, mid⟩, hitem, h⟩ := bind_eq_ok.mp h
    obtain ⟨⟨xs, _⟩, hitems, h⟩ := bind_eq_ok.mp h
    cases h
    exact .one (.behindComma (hcomma ▸ hspace) hspace' hopen) hitem hitems
  · cases h

/-- An item that begins is read, and the others behind it. -/
theorem Starts.readItems (h : Starts .array input first start) (item : Reader α) (count : Nat) :
    readItems item (count + 1) first input =
      (item start >>= fun (x, mid) =>
        readItems item count false mid >>= fun (xs, rest) => .ok (x :: xs, rest)) := by
  cases h with
  | now hspace hopen =>
    rw [Json.readItems, hspace]
    exact (if_neg hopen).trans (if_pos rfl)
  | behindComma hcomma hspace hopen =>
    rw [Json.readItems, hcomma]
    dsimp only
    rw [if_neg (by decide), if_neg Bool.false_ne_true, if_pos rfl, hspace]
    exact if_neg hopen

theorem readItems_closed (item : Reader α) (h : skipSpace input = 0x5D :: rest) (count : Nat)
    (first : Bool) : readItems item (count + 1) first input = .ok ([], rest) := by
  rw [readItems, h]
  rfl

/-! ## Members -/

/-- How members are read: there is none left, or the key of one begins and the others follow. -/
inductive MembersRead (member : String → σ → Reader σ) (count : Nat) (first : Bool) (state : σ)
    (input : Bytes) : σ → Bytes → Prop
  | none {rest : Bytes} (hclose : skipSpace input = 0x7D :: rest) :
    MembersRead member count first state input state rest
  | one {start behind mid rest : Bytes} {key : String} {next after : σ}
      (hstart : Starts .object input first start) (hkey : readKey start = .ok (key, behind))
      (hmember : member key state behind = .ok (next, mid))
      (hmembers : readMembers member count false next mid = .ok (after, rest)) :
    MembersRead member count first state input after rest

theorem membersRead_of_readMembers {member : String → σ → Reader σ} {count : Nat}
    {state after : σ} (h : readMembers member (count + 1) first state input = .ok (after, rest)) :
    MembersRead member count first state input after rest := by
  unfold readMembers at h
  split at h
  · cases h
  next b behind hspace =>
  split at h
  · next hclose =>
    cases h
    exact .none (hclose ▸ hspace)
  next hopen =>
  split at h
  · next hfirst =>
    subst hfirst
    obtain ⟨⟨key, _⟩, hkey, h⟩ := bind_eq_ok.mp h
    obtain ⟨⟨next, mid⟩, hmember, hmembers⟩ := bind_eq_ok.mp h
    exact .one (.now hspace hopen) hkey hmember hmembers
  next hfirst =>
  cases Bool.eq_false_iff.mpr hfirst
  split at h
  · next hcomma =>
    split at h
    · cases h
    next c behind' hspace' =>
    split at h
    · cases h
    next hopen =>
    obtain ⟨⟨key, _⟩, hkey, h⟩ := bind_eq_ok.mp h
    obtain ⟨⟨next, mid⟩, hmember, hmembers⟩ := bind_eq_ok.mp h
    exact .one (.behindComma (hcomma ▸ hspace) hspace' hopen) hkey hmember hmembers
  · cases h

/-- The key of a member that begins is read, then the member, and the others behind it. -/
theorem Starts.readMembers (h : Starts .object input first start)
    (member : String → σ → Reader σ) (count : Nat) (state : σ) :
    readMembers member (count + 1) first state input =
      (readKey start >>= fun (key, behind) =>
        member key state behind >>= fun (next, mid) =>
          readMembers member count false next mid) := by
  cases h with
  | now hspace hopen =>
    rw [Json.readMembers, hspace]
    exact (if_neg hopen).trans (if_pos rfl)
  | behindComma hcomma hspace hopen =>
    rw [Json.readMembers, hcomma]
    dsimp only
    rw [if_neg (by decide), if_neg Bool.false_ne_true, if_pos rfl, hspace]
    exact if_neg hopen

theorem readMembers_closed (member : String → σ → Reader σ) (h : skipSpace input = 0x7D :: rest)
    (count : Nat) (first : Bool) (state : σ) :
    readMembers member (count + 1) first state input = .ok (state, rest) := by
  rw [readMembers, h]
  rfl

/-! ## Fields by position -/

theorem skipSpace_of_readArrayEnd (h : readArrayEnd input = .ok rest) :
    skipSpace input = 0x5D :: rest := by
  unfold readArrayEnd at h
  split at h
  · cases h
  · next b behind hspace =>
    split at h
    · next hclose =>
      cases h
      rw [hspace, hclose]
    · split at h
      · split at h
        · cases h
        · cases h
      · cases h

/-- How a field is read from an array: there is no item left for it and it may be left out, or one
begins. -/
inductive FieldRead (expected : String) (field : Field σ) (fields : List (Field σ)) (index : Nat)
    (state : σ) (input : Bytes) : σ → Bytes → Prop
  | none {behind rest : Bytes} {after : σ} (hclose : skipSpace input = 0x5D :: behind)
      (hfields : readPositional expected fields (index + 1) state (0x5D :: behind) =
        .ok (after, rest)) (hoptional : field.optional = true) :
    FieldRead expected field fields index state input after rest
  | one {start mid rest : Bytes} {put : σ → σ} {after : σ}
      (hstart : Starts .array input (index == 0) start) (hfield : field.read start = .ok (put, mid))
      (hfields : readPositional expected fields (index + 1) (put state) mid = .ok (after, rest)) :
    FieldRead expected field fields index state input after rest

theorem fieldRead_of_readPositional {expected : String} {field : Field σ}
    {fields : List (Field σ)} {index : Nat} {state after : σ}
    (h : readPositional expected (field :: fields) index state input = .ok (after, rest)) :
    FieldRead expected field fields index state input after rest := by
  unfold readPositional at h
  split at h
  · cases h
  next b behind hspace =>
  split at h
  · next hclose =>
    subst hclose
    split at h
    · next hoptional => exact .none hspace h hoptional
    · cases h
  next hopen =>
  split at h
  · next hindex =>
    subst hindex
    obtain ⟨⟨put, mid⟩, hfield, hfields⟩ := bind_eq_ok.mp h
    exact .one (.now hspace hopen) hfield hfields
  next hindex =>
  split at h
  · next hcomma =>
    split at h
    · cases h
    next c behind' hspace' =>
    split at h
    · cases h
    next hopen =>
    obtain ⟨⟨put, mid⟩, hfield, hfields⟩ := bind_eq_ok.mp h
    have hstart : Starts .array input false (c :: behind') :=
      .behindComma (hcomma ▸ hspace) hspace' hopen
    exact .one (beq_false_of_ne hindex ▸ hstart) hfield hfields
  · cases h

/-- A field whose item begins is read, and the others behind it. -/
theorem Starts.readPositional {index : Nat} (h : Starts .array input (index == 0) start)
    (expected : String) (field : Field σ) (fields : List (Field σ)) (state : σ) :
    readPositional expected (field :: fields) index state input =
      (field.read start >>= fun (put, mid) =>
        readPositional expected fields (index + 1) (put state) mid) := by
  generalize hfirst : (index == 0) = first at h
  cases h with
  | now hspace hopen =>
    rw [Json.readPositional, hspace]
    exact (if_neg hopen).trans (if_pos (beq_iff_eq.mp hfirst))
  | behindComma hcomma hspace hopen =>
    rw [Json.readPositional, hcomma]
    dsimp only
    rw [if_neg (by decide), if_neg (beq_eq_false_iff_ne.mp hfirst), if_pos rfl, hspace]
    exact if_neg hopen

end ProbeGateway.Json
