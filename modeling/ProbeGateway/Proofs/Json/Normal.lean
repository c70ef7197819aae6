import Mathlib.Algebra.Ring.Int.Defs
import Mathlib.Data.List.Forall2
import Mathlib.Data.List.Induction
import ProbeGateway.Json.Value
import ProbeGateway.Proofs.Sorted
import ProbeGateway.Proofs.Text.Order

/-!
# Values in normal form

The members of an object may be written in any order and with repeated keys. In the normal form of a
value (`normal`) they stand in increasing order of key, with the last value of each key.

1. A value agrees with its normal form (`agrees_normal`): values that agree have the same items, and
   under each key the same last value (`Agrees`).
2. The keys of every object in the normal form increase in the order of their octets
   (`ordered_normal`), and a value with such keys is its own normal form (`normal_of_ordered`).
3. What is said of all numbers in a value, or of its depth, is true of the normal form as well
   (`Integral.normal`, `Within.normal`): its parts are the normal forms of parts (`part_normal`).
-/

namespace ProbeGateway.Json

/-! ## Parts and depth -/

/-- A value stands somewhere in another, or is the other. -/
inductive Part : Json → Json → Prop
  | self (v : Json) : Part v v
  | item {w v : Json} {items : List Json} (hv : v ∈ items) (h : Part w v) : Part w (.array items)
  | member {w : Json} {m : String × Json} {members : List (String × Json)} (hm : m ∈ members)
      (h : Part w m.2) : Part w (.object members)

/-- Arrays and objects nest at most so deep in a value. -/
inductive Within : (levels : Nat) → Json → Prop
  | null (levels : Nat) : Within levels .null
  | bool (levels : Nat) (b : Bool) : Within levels (.bool b)
  | number (levels : Nat) (n : JsonNumber) : Within levels (.number n)
  | text (levels : Nat) (s : String) : Within levels (.text s)
  | array {levels : Nat} {items : List Json} (h : ∀ v ∈ items, Within levels v) :
    Within (levels + 1) (.array items)
  | object {levels : Nat} {members : List (String × Json)} (h : ∀ m ∈ members, Within levels m.2) :
    Within (levels + 1) (.object members)

/-- Every number in a value is an integer of 64 bits, with a sign or without. -/
def Integral (v : Json) : Prop :=
  ∀ n, Part (.number n) v → ∃ i : Int, n = .integer i ∧ -2 ^ 63 ≤ i ∧ i < 2 ^ 64

/-- The keys of every object in a value strictly increase in the order of their octets. -/
def Ordered (v : Json) : Prop :=
  ∀ members, Part (.object members) v → members.Pairwise fun m n => octets m.1 < octets n.1

/-- The last value that is written under a key. -/
def lastValue? (key : String) (members : List (String × Json)) : Option Json :=
  Sorted.find? key members.reverse

/-- Two values are equal but for the order of members, and for members before the last of a key. -/
inductive Agrees : Json → Json → Prop
  | null : Agrees .null .null
  | bool (b : Bool) : Agrees (.bool b) (.bool b)
  | number (n : JsonNumber) : Agrees (.number n) (.number n)
  | text (s : String) : Agrees (.text s) (.text s)
  | array {items items' : List Json} (h : List.Forall₂ Agrees items items') :
    Agrees (.array items) (.array items')
  | object {members members' : List (String × Json)}
      (h : ∀ key, Option.Rel Agrees (lastValue? key members) (lastValue? key members')) :
    Agrees (.object members) (.object members')

variable {v : Json} {items : List Json} {members : List (String × Json)} {levels : Nat}

theorem Within.mono {more : Nat} (h : Within levels v) (hle : levels ≤ more) : Within more v := by
  induction h generalizing more with
  | null => exact .null more
  | bool => exact .bool more _
  | number => exact .number more _
  | text => exact .text more _
  | array _ ih =>
    obtain ⟨more, rfl⟩ := Nat.exists_eq_add_one.mpr (Nat.zero_lt_of_lt hle)
    exact .array fun v hv => ih v hv (Nat.le_of_succ_le_succ hle)
  | object _ ih =>
    obtain ⟨more, rfl⟩ := Nat.exists_eq_add_one.mpr (Nat.zero_lt_of_lt hle)
    exact .object fun m hm => ih m hm (Nat.le_of_succ_le_succ hle)

theorem Integral.item (h : Integral (.array items)) (hv : v ∈ items) : Integral v :=
  fun n hn => h n (.item hv hn)

theorem Integral.member (h : Integral (.object members)) {m : String × Json} (hm : m ∈ members) :
    Integral m.2 :=
  fun n hn => h n (.member hm hn)

theorem Ordered.item (h : Ordered (.array items)) (hv : v ∈ items) : Ordered v :=
  fun members hmembers => h members (.item hv hmembers)

theorem Ordered.member (h : Ordered (.object members)) {m : String × Json} (hm : m ∈ members) :
    Ordered m.2 :=
  fun members hmembers => h members (.member hm hmembers)

theorem integral_text (s : String) : Integral (.text s) := fun _ hn => nomatch hn

theorem integral_integer {i : Int} (hlow : -2 ^ 63 ≤ i) (hhigh : i < 2 ^ 64) :
    Integral (.number (.integer i)) := by
  intro n hn
  cases hn
  exact ⟨i, rfl, hlow, hhigh⟩

theorem integral_array (h : ∀ v ∈ items, Integral v) : Integral (.array items) := by
  intro n hn
  cases hn with
  | item hv hn => exact h _ hv n hn

theorem integral_object (h : ∀ m ∈ members, Integral m.2) : Integral (.object members) := by
  intro n hn
  cases hn with
  | member hm hn => exact h _ hm n hn

theorem ordered_text (s : String) : Ordered (.text s) := fun _ hmembers => nomatch hmembers

theorem ordered_number (n : JsonNumber) : Ordered (.number n) := fun _ hmembers => nomatch hmembers

theorem ordered_object (hkeys : members.Pairwise fun m n => octets m.1 < octets n.1)
    (h : ∀ m ∈ members, Ordered m.2) : Ordered (.object members) := by
  intro others hothers
  cases hothers with
  | self => exact hkeys
  | member hm hothers => exact h _ hm others hothers

/-! ## Members in order -/

theorem increasing_iff :
    Sorted.Increasing members ↔ members.Pairwise fun m n => octets m.1 < octets n.1 :=
  List.Pairwise.iff fun _ _ => octets_lt_iff.symm

theorem sortMembers_concat (members : List (String × Json)) (m : String × Json) :
    sortMembers (members ++ [m]) = Sorted.insert m.1 m.2 (sortMembers members) := by
  unfold sortMembers
  rw [List.foldl_append]
  rfl

theorem increasing_sortMembers (members : List (String × Json)) :
    Sorted.Increasing (sortMembers members) := by
  induction members using List.reverseRecOn with
  | nil => exact Sorted.increasing_nil
  | append_singleton members m ih =>
    rw [sortMembers_concat]
    exact ih.update

theorem mem_of_mem_sortMembers {m : String × Json} (h : m ∈ sortMembers members) :
    m ∈ members := by
  induction members using List.reverseRecOn with
  | nil => exact h
  | append_singleton members n ih =>
    rw [sortMembers_concat] at h
    rcases Sorted.mem_insert h with rfl | h
    · exact List.mem_append_right _ (.head _)
    · exact List.mem_append_left _ (ih h)

/-- Members that are in order stay as they are. -/
theorem sortMembers_of_increasing (h : Sorted.Increasing members) :
    sortMembers members = members := by
  induction members using List.reverseRecOn with
  | nil => rfl
  | append_singleton members m ih =>
    rw [sortMembers_concat, ih (List.pairwise_append.mp h).1]
    exact h.insert_eq_append

theorem find?_sortMembers (key : String) (members : List (String × Json)) :
    Sorted.find? key (sortMembers members) = lastValue? key members := by
  induction members using List.reverseRecOn with
  | nil => rfl
  | append_singleton members m ih =>
    obtain ⟨k, v⟩ := m
    unfold lastValue?
    rw [sortMembers_concat, List.reverse_concat]
    by_cases hk : key = k
    · subst hk
      rw [Sorted.find?_cons_self, Sorted.find?_insert_self]
    · rw [Sorted.find?_cons_of_ne hk]
      exact (Sorted.find?_update_of_ne hk _ _).trans ih

/-- Sorting keeps the last value of each key. -/
theorem lastValue?_sortMembers (key : String) (members : List (String × Json)) :
    lastValue? key (sortMembers members) = lastValue? key members := by
  rw [← find?_sortMembers key members]
  exact (increasing_sortMembers members).find?_reverse

theorem lastValue?_map (view : Json → Json) (key : String) (members : List (String × Json)) :
    lastValue? key (members.map fun m => (m.1, view m.2)) = (lastValue? key members).map view := by
  unfold lastValue?
  rw [← List.map_reverse, Sorted.find?_map]

/-! ## The normal form -/

mutual

/-- The normal form of a value. -/
def normal : Json → Json
  | .null => .null
  | .bool b => .bool b
  | .number n => .number n
  | .text s => .text s
  | .array items => .array (normalItems items)
  | .object members => .object (sortMembers (normalMembers members))

/-- The normal forms of items. -/
def normalItems : List Json → List Json
  | [] => []
  | v :: rest => normal v :: normalItems rest

/-- Members with the normal forms of their values. -/
def normalMembers : List (String × Json) → List (String × Json)
  | [] => []
  | (key, v) :: rest => (key, normal v) :: normalMembers rest

end

theorem normalItems_eq (items : List Json) : normalItems items = items.map normal := by
  induction items with
  | nil => rfl
  | cons v rest ih => rw [normalItems, ih, List.map_cons]

theorem normalMembers_eq (members : List (String × Json)) :
    normalMembers members = members.map fun m => (m.1, normal m.2) := by
  induction members with
  | nil => rfl
  | cons m rest ih =>
    obtain ⟨key, v⟩ := m
    rw [normalMembers, ih, List.map_cons]

theorem normal_array (items : List Json) : normal (.array items) = .array (items.map normal) := by
  rw [normal, normalItems_eq]

theorem normal_object (members : List (String × Json)) :
    normal (.object members) = .object (sortMembers (members.map fun m => (m.1, normal m.2))) := by
  rw [normal, normalMembers_eq]

/-- A member of the normal form comes from a member with the same key. -/
theorem exists_of_mem_sortMembers {m : String × Json}
    (h : m ∈ sortMembers (members.map fun m => (m.1, normal m.2))) :
    ∃ n ∈ members, m = (n.1, normal n.2) := by
  obtain ⟨n, hn, rfl⟩ := List.mem_map.mp (mem_of_mem_sortMembers h)
  exact ⟨n, hn, rfl⟩

/-- Parts of the normal form are the normal forms of parts. -/
theorem part_normal {w : Json} (h : Part w (normal v)) : ∃ u, Part u v ∧ w = normal u := by
  generalize hn : normal v = n at h
  induction h generalizing v with
  | self => exact ⟨v, .self v, hn.symm⟩
  | @item n ns hmem _ ih =>
    cases v with
    | array items =>
      rw [normal_array] at hn
      cases hn
      obtain ⟨v, hv, hvn⟩ := List.mem_map.mp hmem
      obtain ⟨u, hu, hw⟩ := ih hvn
      exact ⟨u, .item hv hu, hw⟩
    | _ => cases hn
  | @member m ms hmem _ ih =>
    cases v with
    | object members =>
      rw [normal_object] at hn
      cases hn
      obtain ⟨n, hmember, rfl⟩ := exists_of_mem_sortMembers hmem
      obtain ⟨u, hu, hw⟩ := ih rfl
      exact ⟨u, .member hmember hu, hw⟩
    | _ => cases hn

theorem Integral.normal (h : Integral v) : Integral v.normal := by
  intro n hn
  obtain ⟨u, hu, heq⟩ := part_normal hn
  cases u with
  | number n' =>
    cases heq
    exact h n hu
  | _ => cases heq

/-- **The keys of the normal form increase.** -/
theorem ordered_normal (v : Json) : Ordered v.normal := by
  intro members hmembers
  obtain ⟨u, hu, heq⟩ := part_normal hmembers
  cases u with
  | object members' =>
    rw [normal_object] at heq
    cases heq
    exact increasing_iff.mp (increasing_sortMembers _)
  | _ => cases heq

theorem Within.normal (h : Within levels v) : Within levels v.normal := by
  induction h with
  | null levels => exact .null levels
  | bool levels b => exact .bool levels b
  | number levels n => exact .number levels n
  | text levels s => exact .text levels s
  | array _ ih =>
    rw [normal_array]
    refine .array fun w hw => ?_
    obtain ⟨v, hv, rfl⟩ := List.mem_map.mp hw
    exact ih v hv
  | object _ ih =>
    rw [normal_object]
    refine .object fun m hm => ?_
    obtain ⟨n, hn, rfl⟩ := exists_of_mem_sortMembers hm
    exact ih n hn

/-- A value whose keys increase is its own normal form. -/
theorem normal_of_ordered (h : Within levels v) (hordered : Ordered v) : v.normal = v := by
  induction h with
  | null => rfl
  | bool => rfl
  | number => rfl
  | text => rfl
  | array _ ih =>
    rw [normal_array, List.map_congr_left fun v hv => ih v hv (hordered.item hv), List.map_id']
  | @object _ members _ ih =>
    have hsame : ∀ m ∈ members, (m.1, Json.normal m.2) = m :=
      fun m hm => Prod.ext rfl (ih m hm (hordered.member hm))
    have hmap : (members.map fun m => (m.1, Json.normal m.2)) = members := by
      rw [List.map_congr_left hsame, List.map_id']
    rw [normal_object, hmap, sortMembers_of_increasing (increasing_iff.mpr (hordered _ (.self _)))]

/-- **A value agrees with its normal form.** -/
theorem agrees_normal (h : Within levels v) : Agrees v v.normal := by
  induction h with
  | null => exact .null
  | bool _ b => exact .bool b
  | number _ n => exact .number n
  | text _ s => exact .text s
  | array _ ih =>
    rw [normal_array]
    exact .array (List.forall₂_map_right_iff.mpr (List.forall₂_same.mpr ih))
  | @object _ members _ ih =>
    rw [normal_object]
    refine .object fun key => ?_
    rw [lastValue?_sortMembers, lastValue?_map]
    cases hlast : lastValue? key members with
    | none => exact .none
    | some v =>
      have hmem : (key, v) ∈ members := List.mem_reverse.mp (Sorted.mem_of_find?_eq_some hlast)
      exact .some (ih _ hmem)

end ProbeGateway.Json
