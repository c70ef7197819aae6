import ProbeGateway.Proofs.Json.Agreement
import ProbeGateway.Proofs.Json.Alike
import ProbeGateway.Proofs.Json.Normal
import ProbeGateway.Proofs.Json.Record

/-!
# Values as they are written

`readValue` puts the members of an object in order and keeps the last of equal keys. `writtenValue`
reads the same texts and keeps all members as they stand in the text.

1. Both readers refuse the same texts. Of any other text, the one reads the normal form of what the
   other reads (`alike_writtenValue`), which nests no deeper than is allowed.
2. The text of a value whose numbers are integers is read back as the value, with all its members
   (`takes_writtenValue`).
-/

namespace ProbeGateway.Json

/-! ## Reading -/

/-- Reads a member of an object and puts it behind the others. -/
def writtenMember (value : Reader Json) (key : String) (members : List (String × Json)) :
    Reader (List (String × Json)) := fun input => do
  let rest ← readColon input
  let (v, rest) ← value rest
  .ok (members ++ [(key, v)], rest)

/-- Reads a value with arrays and objects nested at most `levels` deep, and all members of an object
as they stand there. -/
def writtenValue : (levels : Nat) → Reader Json
  | 0 => readValueWith (failHere .tooDeep) (failHere .tooDeep)
  | levels + 1 =>
    readValueWith
      (fun input => do
        let (items, rest) ← readItems (writtenValue levels) (input.length + 1) true input
        .ok (.array items, rest))
      (fun input => do
        let (members, rest) ←
          readMembers (writtenMember (writtenValue levels)) (input.length + 1) true [] input
        .ok (.object members, rest))

/-- The value that octets spell as a JSON text, as it is written there. -/
def parseWritten (input : Bytes) : Except Refusal Json :=
  parseWith (writtenValue maxLevels) input

/-- A value is the normal form of a written one, which nests at most so deep. -/
def NormalWithin (levels : Nat) (v w : Json) : Prop := w = v.normal ∧ Within levels v

/-- Members are the normal form of written ones, which nest at most so deep. -/
def MembersWithin (levels : Nat) (members sorted : List (String × Json)) : Prop :=
  NormalWithin (levels + 1) (.object members) (.object sorted)

variable {levels : Nat} {v : Json} {rest : Bytes}

theorem normalWithin_array {items items' : List Json}
    (h : List.Forall₂ (NormalWithin levels) items items') :
    NormalWithin (levels + 1) (.array items) (.array items') := by
  have hnormal : items' = items.map normal ∧ ∀ v ∈ items, Within levels v := by
    induction h with
    | nil => exact ⟨rfl, fun v hv => nomatch hv⟩
    | cons hv _ ih =>
      obtain ⟨rfl, hwithin⟩ := hv
      obtain ⟨rfl, hothers⟩ := ih
      exact ⟨rfl, List.forall_mem_cons.mpr ⟨hwithin, hothers⟩⟩
  obtain ⟨rfl, hwithin⟩ := hnormal
  exact ⟨(normal_array items).symm, .array hwithin⟩

theorem MembersWithin.concat {members sorted : List (String × Json)} {w : Json}
    (h : MembersWithin levels members sorted) (hv : NormalWithin levels v w) (key : String) :
    MembersWithin levels (members ++ [(key, v)]) (Sorted.insert key w sorted) := by
  obtain ⟨hsorted, hmembers⟩ := h
  obtain ⟨rfl, hwithin⟩ := hv
  rw [normal_object] at hsorted
  cases hsorted
  constructor
  · rw [normal_object, List.map_append, List.map_singleton, sortMembers_concat]
  · cases hmembers with
    | object hmembers =>
      refine .object fun m hm => ?_
      rcases List.mem_append.mp hm with hm | hm
      · exact hmembers m hm
      · rw [List.mem_singleton.mp hm]
        exact hwithin

/-- **A value is read in normal form** where it is read as it is written. -/
theorem alike_writtenValue (levels : Nat) :
    Alike (NormalWithin levels) (writtenValue levels) (readValue levels) := by
  induction levels with
  | zero =>
    refine alike_readValueWith ⟨rfl, .null 0⟩ (fun b => ⟨rfl, .bool 0 b⟩)
      (fun n => ⟨rfl, .number 0 n⟩) (fun s => ⟨rfl, .text 0 s⟩) ?_ ?_
    all_goals exact fun input => .refused _
  | succ levels ih =>
    refine alike_readValueWith ⟨rfl, .null _⟩ (fun b => ⟨rfl, .bool _ b⟩)
      (fun n => ⟨rfl, .number _ n⟩) (fun s => ⟨rfl, .text _ s⟩) ?_ ?_
    · exact fun input => (ih.items _ true input).bind fun vs ws rest h =>
        .read (normalWithin_array h) rest
    · have hmember (key : String) (members sorted : List (String × Json))
          (h : MembersWithin levels members sorted) : Alike (MembersWithin levels)
            (writtenMember (writtenValue levels) key members)
            (readMember (readValue levels) key sorted) :=
        fun input => .step _ fun rest => (ih rest).bind fun v w rest hv =>
          .read (h.concat hv key) rest
      have hempty : MembersWithin levels [] [] := ⟨rfl, .object fun m hm => nomatch hm⟩
      intro input
      refine (Alike.members hmember _ true hempty input).bind fun members sorted rest h => ?_
      have hobject : NormalWithin (levels + 1) (.object members) (.object sorted) := h
      exact .read hobject rest

/-! ## Reading what was written -/

theorem writtenValue_eq (levels : Nat) :
    ∃ array object, writtenValue levels = readValueWith array object := by
  cases levels with
  | zero => exact ⟨_, _, rfl⟩
  | succ levels => exact ⟨_, _, rfl⟩

/-- An integer below zero is a minus sign and digits. -/
theorem body_negative {n : Nat} (hn : n ≠ 0) :
    (number (.integer (-n))).body = 0x2D :: (nat n).body := by
  unfold body nat
  rw [write, writeNumber, signedDigits, if_pos (by omega), write, writeNumber,
    signedDigits_natCast, Int.natAbs_neg, Int.natAbs_natCast]
  rfl

/-- Integers of 64 bits are taken. -/
theorem takes_integer {i : Int} (hlow : -2 ^ 63 ≤ i) (hhigh : i < 2 ^ 64) (levels : Nat) :
    Takes (writtenValue levels) (number (.integer i)) (number (.integer i)) := by
  obtain ⟨array, object, hvalue⟩ := writtenValue_eq levels
  have hlimit : wordLimit = 2 ^ 64 := rfl
  rw [hvalue]
  by_cases hneg : i < 0
  · obtain ⟨n, rfl⟩ : ∃ n : Nat, i = -n := ⟨i.natAbs, by omega⟩
    have hn : n ≠ 0 := by omega
    have hsmall : 2 * n ≤ wordLimit := by omega
    refine ⟨⟨_, _, body_negative hn, by decide, by decide, by decide⟩, fun rest hrest => ?_⟩
    rw [body_negative hn, List.cons_append,
      readValueWith_negative array object (skipSpace_cons rfl _),
      readNumber_negative hn hsmall hrest, ok_bind]
  · obtain ⟨n, rfl⟩ : ∃ n : Nat, i = n := ⟨i.toNat, by omega⟩
    have hsmall : n < wordLimit := by omega
    obtain ⟨b, bs, hbody, hopens, hdigit, -⟩ := opens_nat n
    refine ⟨⟨b, bs, hbody, hopens⟩, fun rest hrest => ?_⟩
    have hnumber := readNumber_nat hsmall hrest
    change readValueWith array object ((nat n).body ++ rest) = _
    rw [hbody, List.cons_append] at hnumber ⊢
    rw [readValueWith_number array object (skipSpace_cons hopens.1 _) hdigit, hnumber, ok_bind]

/-- Members are put one behind the other, all of them. -/
theorem fills_writtenMember {value : Reader Json} {members : List (String × Json)}
    (h : ∀ m ∈ members, Takes value m.2 m.2) (before : List (String × Json)) :
    Fills (writtenMember value) before members (before ++ members) := by
  induction members generalizing before with
  | nil =>
    rw [List.append_nil]
    exact .nil before
  | cons m members ih =>
    obtain ⟨key, v⟩ := m
    rw [List.append_cons]
    refine .cons (fun rest hrest => ?_) (ih (fun m hm => h m (.tail _ hm)) _)
    show (value (v.body ++ rest) >>= _) = _
    rw [(h _ (.head _)).reads rest hrest, ok_bind]

/-- **A value whose numbers are integers is read back**, with all members of its objects. -/
theorem takes_writtenValue (h : Within levels v) (hintegral : Integral v) :
    Takes (writtenValue levels) v v := by
  induction h with
  | null levels =>
    obtain ⟨array, object, hvalue⟩ := writtenValue_eq levels
    rw [hvalue]
    exact ⟨⟨_, _, rfl, by decide, by decide, by decide⟩, fun rest _ => rfl⟩
  | bool levels b =>
    obtain ⟨array, object, hvalue⟩ := writtenValue_eq levels
    rw [hvalue]
    cases b with
    | false => exact ⟨⟨_, _, rfl, by decide, by decide, by decide⟩, fun rest _ => rfl⟩
    | true => exact ⟨⟨_, _, rfl, by decide, by decide, by decide⟩, fun rest _ => rfl⟩
  | number levels n =>
    obtain ⟨i, rfl, hlow, hhigh⟩ := hintegral n (.self _)
    exact takes_integer hlow hhigh levels
  | text levels s =>
    obtain ⟨array, object, hvalue⟩ := writtenValue_eq levels
    refine ⟨opens_text s, fun rest _ => ?_⟩
    rw [hvalue, text_append, readValueWith_text array object (skipSpace_cons rfl _),
      readString_escaped, ok_bind]
  | @array levels items _ ih =>
    have hitems : Takes (readList (levels + 1) writtenValue) (.array (items.map id)) items :=
      .list fun v hv => ih v hv (hintegral.item hv)
    rw [List.map_id] at hitems
    refine ⟨hitems.opens, fun rest hrest => ?_⟩
    have hread := hitems.reads rest hrest
    rw [body_array, List.cons_append] at hread ⊢
    rw [writtenValue, readValueWith_array _ _ (skipSpace_cons rfl _)]
    exact congrArg (· >>= _) hread
  | @object levels members _ ih =>
    have hfills : Fills (writtenMember (writtenValue levels)) [] members ([] ++ members) :=
      fills_writtenMember (fun m hm => ih m hm (hintegral.member hm)) []
    refine ⟨opens_object members, fun rest _ => ?_⟩
    rw [object_append, writtenValue, readValueWith_object _ _ (skipSpace_cons rfl _),
      hfills.readMembers rest, ok_bind]
    rfl

/-- **The text of a value with integers and increasing keys spells the value**, with and without
regard to the order of members. -/
theorem parse_body (h : Within maxLevels v) (hintegral : Integral v) (hordered : Ordered v) :
    parseWritten v.body = .ok v ∧ parse v.body = .ok v := by
  have hwritten : parseWritten v.body = .ok v := (takes_writtenValue h hintegral).parseWith
  have hrel : Option.Rel (NormalWithin maxLevels) (parseWritten v.body).toOption
      (parse v.body).toOption := (alike_writtenValue maxLevels).parseWith v.body
  rw [hwritten] at hrel ⊢
  generalize parse v.body = outcome at hrel ⊢
  cases outcome with
  | error refusal => cases hrel
  | ok w =>
    cases hrel with
    | some hnormal =>
      rw [hnormal.1, normal_of_ordered h hordered]
      exact ⟨rfl, rfl⟩

/-! ## Values that are read back -/

/-- A value that is read back from its text: it nests at most so deep, and all its numbers are
integers of 64 bits. -/
structure Readable (levels : Nat) (v : Json) : Prop where
  within : Within levels v
  integral : Integral v

namespace Readable

theorem text (levels : Nat) (s : String) : Readable levels (.text s) :=
  ⟨.text levels s, integral_text s⟩

theorem nat {n : Nat} (h : n < wordLimit) (levels : Nat) : Readable levels (.nat n) := by
  have hlimit : wordLimit = 18446744073709551616 := rfl
  exact ⟨.number levels _, integral_integer (by omega) (by omega)⟩

theorem array {items : List Json} (h : ∀ v ∈ items, Readable levels v) :
    Readable (levels + 1) (.array items) :=
  ⟨.array fun v hv => (h v hv).within, integral_array fun v hv => (h v hv).integral⟩

theorem object {members : List (String × Json)} (h : ∀ m ∈ members, Readable levels m.2) :
    Readable (levels + 1) (.object members) :=
  ⟨.object fun m hm => (h m hm).within, integral_object fun m hm => (h m hm).integral⟩

/-- A member that may be left out holds a text. -/
theorem optionalMember (levels : Nat) (key : String) (value : Option String) :
    ∀ m ∈ optionalMember key value, Readable levels m.2 := by
  cases value with
  | none => exact fun m hm => absurd hm List.not_mem_nil
  | some s => exact List.forall_mem_singleton.mpr (text levels s)

theorem parseWritten (h : Readable maxLevels v) : parseWritten v.body = .ok v :=
  (takes_writtenValue h.within h.integral).parseWith

end Readable

end ProbeGateway.Json
