import ProbeGateway.Sorted

/-!
# Maps stay sorted

1. The keys of a map increase, and changing a value keeps them so (`Increasing.update`).
2. In such a map a change meets the value that was found before (`Increasing.find?_update_self`).
3. A map whose entries are put in one by one, in their order, is built entry by entry
   (`Increasing.insert_eq_append`).
4. Changes under different keys may be made in any order (`update_comm`).

What is found in a list of entries that is put together is told without any order
(`find?_append`, `find?_replace`).
-/

namespace ProbeGateway.Sorted

/-! ## Entries in a list that is put together -/

section Find

variable {κ α β : Type} [DecidableEq κ] {key other : κ} {value : α} {entries : Sorted κ α}

theorem find?_cons_self (rest : Sorted κ α) : find? key ((key, value) :: rest) = some value :=
  if_pos rfl

theorem find?_cons_of_ne (h : key ≠ other) (rest : Sorted κ α) :
    find? key ((other, value) :: rest) = find? key rest := if_neg h

theorem find?_eq_none_of_ne (h : ∀ e ∈ entries, e.1 ≠ key) : find? key entries = none := by
  induction entries with
  | nil => rfl
  | cons entry rest ih =>
    rw [find?, if_neg (Ne.symm (h entry (.head _)))]
    exact ih fun e he => h e (.tail _ he)

theorem find?_append (first second : Sorted κ α) :
    find? key (first ++ second) = (find? key first).or (find? key second) := by
  induction first with
  | nil => rfl
  | cons entry first ih =>
    obtain ⟨k, v⟩ := entry
    rw [List.cons_append, find?, find?]
    by_cases h : key = k
    · rw [if_pos h, if_pos h]
      rfl
    · rw [if_neg h, if_neg h, ih]

theorem mem_of_find?_eq_some (h : find? key entries = some value) : (key, value) ∈ entries := by
  induction entries with
  | nil => cases h
  | cons entry rest ih =>
    obtain ⟨k, v⟩ := entry
    rw [find?] at h
    split at h
    · next hk =>
      cases h
      rw [hk]
      exact .head _
    · exact .tail _ (ih h)

theorem find?_map (view : α → β) (entries : Sorted κ α) :
    find? key (entries.map fun e => (e.1, view e.2)) = (find? key entries).map view := by
  induction entries with
  | nil => rfl
  | cons entry rest ih =>
    obtain ⟨k, v⟩ := entry
    rw [List.map_cons, find?, find?]
    by_cases h : key = k
    · rw [if_pos h, if_pos h]
      rfl
    · rw [if_neg h, if_neg h, ih]

/-- An entry that is put in changes nothing under other keys. -/
theorem find?_put_of_ne (h : other ≠ key) (before after : Sorted κ α) :
    find? other (before ++ (key, value) :: after) = find? other (before ++ after) := by
  rw [find?_append, find?_append, find?, if_neg h]

/-- Views of two values under one key agree wherever the values stand. -/
theorem find?_replace (view : Option α → β) {value' : α}
    (h : view (some value) = view (some value')) (before after : Sorted κ α) :
    view (find? key (before ++ (key, value) :: after)) =
      view (find? key (before ++ (key, value') :: after)) := by
  rw [find?_append, find?_append, find?, find?, if_pos rfl, if_pos rfl]
  cases find? key before with
  | none => exact h
  | some v => rfl

end Find

/-! ## Entries in order -/

/-- The keys increase from each entry to all later ones. -/
def Increasing {κ α : Type} [LT κ] (entries : Sorted κ α) : Prop :=
  entries.Pairwise fun a b => a.1 < b.1

theorem increasing_nil {κ α : Type} [LT κ] : Increasing ([] : Sorted κ α) := .nil

variable {κ α : Type} [LT κ] [DecidableLT κ] [DecidableEq κ] {key : κ} {change : Option α → α}
  {entries : Sorted κ α}

/-- No key comes from elsewhere. -/
theorem mem_update {e : κ × α} (h : e ∈ update key change entries) : e.1 = key ∨ e ∈ entries := by
  induction entries with
  | nil =>
    rw [update, List.mem_singleton] at h
    exact .inl (congrArg Prod.fst h)
  | cons entry rest ih =>
    obtain ⟨k, v⟩ := entry
    unfold update at h
    split at h
    · next hk =>
      rcases List.mem_cons.mp h with rfl | h
      · exact .inl hk.symm
      · exact .inr (.tail _ h)
    · split at h
      · rcases List.mem_cons.mp h with rfl | h
        · exact .inl rfl
        · exact .inr h
      · rcases List.mem_cons.mp h with rfl | h
        · exact .inr (.head _)
        · exact (ih h).imp_right (.tail _)

theorem mem_insert {value : α} {e : κ × α} (h : e ∈ insert key value entries) :
    e = (key, value) ∨ e ∈ entries := by
  induction entries with
  | nil => exact .inl (List.mem_singleton.mp h)
  | cons entry rest ih =>
    obtain ⟨k, v⟩ := entry
    unfold insert Sorted.update at h
    split at h
    · next hk =>
      subst hk
      exact (List.mem_cons.mp h).imp_right (.tail _)
    · split at h
      · exact List.mem_cons.mp h
      · rcases List.mem_cons.mp h with rfl | h
        · exact .inr (.head _)
        · exact (ih h).imp_right (.tail _)

/-- A change shows in a view of the values as the change of what is viewed. -/
theorem map_update {β : Type} {view : α → β} {change' : Option β → β}
    (h : ∀ old, view (change old) = change' (old.map view)) (entries : Sorted κ α) :
    (update key change entries).map (fun e => (e.1, view e.2)) =
      update key change' (entries.map fun e => (e.1, view e.2)) := by
  induction entries with
  | nil => simp [update, h]
  | cons entry rest ih =>
    obtain ⟨k, v⟩ := entry
    by_cases hk : key = k
    · simp [update, hk, h]
    · by_cases hl : key < k
      · simp [update, hk, hl, h]
      · simpa [update, hk, hl] using ih

/-- What is put under a key is found there. -/
theorem find?_insert_self {value : α} : find? key (insert key value entries) = some value := by
  induction entries with
  | nil => exact if_pos rfl
  | cons entry rest ih =>
    obtain ⟨k, v⟩ := entry
    unfold insert Sorted.update
    split
    · next hk => exact if_pos hk
    · next hk =>
      split
      · exact if_pos rfl
      · exact (if_neg hk).trans ih

variable [LE κ] [Std.IsLinearOrder κ] [Std.LawfulOrderLT κ]

/-- Changes under different keys may be made in any order. -/
theorem update_comm {other : κ} {change' : Option α → α} (h : key ≠ other)
    (entries : Sorted κ α) :
    update key change (update other change' entries) =
      update other change' (update key change entries) := by
  induction entries with
  | nil => grind [update]
  | cons entry rest ih =>
    obtain ⟨k, v⟩ := entry
    grind [update]

/-- Changing a value keeps the keys in order. -/
theorem Increasing.update (h : Increasing entries) : Increasing (update key change entries) := by
  induction entries with
  | nil => exact List.pairwise_singleton _ _
  | cons entry rest ih =>
    obtain ⟨k, v⟩ := entry
    obtain ⟨hfirst, hrest⟩ := List.pairwise_cons.mp h
    unfold Sorted.update
    split
    · exact List.pairwise_cons.mpr ⟨hfirst, hrest⟩
    · next hne =>
      split
      · next hlt =>
        refine List.pairwise_cons.mpr ⟨fun e he => ?_, h⟩
        rcases List.mem_cons.mp he with rfl | he
        · exact hlt
        · exact Std.lt_trans hlt (hfirst e he)
      · next hlt =>
        refine List.pairwise_cons.mpr ⟨fun e he => ?_, ih hrest⟩
        rcases mem_update he with hkey | he
        · rw [hkey]
          exact Std.lt_of_le_of_ne (Std.not_lt.mp hlt) (Ne.symm hne)
        · exact hfirst e he

/-- The greatest key goes to the end. -/
theorem Increasing.insert_eq_append {value : α} (h : Increasing (entries ++ [(key, value)])) :
    insert key value entries = entries ++ [(key, value)] := by
  induction entries with
  | nil => rfl
  | cons entry rest ih =>
    obtain ⟨hfirst, hrest⟩ := List.pairwise_cons.mp h
    have hlt : entry.1 < key := hfirst (key, value) (List.mem_append_right _ (.head _))
    unfold insert Sorted.update
    rw [if_neg (Std.ne_of_lt hlt).symm, if_neg (Std.not_lt.mpr (Std.le_of_lt hlt))]
    exact congrArg (entry :: ·) (ih hrest)

omit [DecidableLT κ] [Std.IsLinearOrder κ] in
/-- Nothing is found below the first key. -/
theorem find?_eq_none (h : ∀ e ∈ entries, key < e.1) : find? key entries = none := by
  induction entries with
  | nil => rfl
  | cons entry rest ih =>
    have hne : key ≠ entry.1 := Std.ne_of_lt (h entry (.head _))
    rw [find?, if_neg hne]
    exact ih fun e he => h e (.tail _ he)

omit [DecidableLT κ] [Std.IsLinearOrder κ] in
/-- It does not matter from which end a key is looked for. -/
theorem Increasing.find?_reverse (h : Increasing entries) :
    find? key entries.reverse = find? key entries := by
  induction entries with
  | nil => rfl
  | cons entry rest ih =>
    obtain ⟨k, v⟩ := entry
    obtain ⟨hfirst, hrest⟩ := List.pairwise_cons.mp h
    rw [List.reverse_cons, find?_append, ih hrest]
    by_cases hk : key = k
    · subst hk
      rw [find?_eq_none hfirst, find?_cons_self, find?_cons_self, Option.none_or]
    · rw [find?_cons_of_ne hk, find?_cons_of_ne hk, find?, Option.or_none]

/-- A change meets the value that was found before. -/
theorem Increasing.find?_update_self (h : Increasing entries) :
    find? key (Sorted.update key change entries) = some (change (find? key entries)) := by
  induction entries with
  | nil => simp [Sorted.update, find?]
  | cons entry rest ih =>
    obtain ⟨k, v⟩ := entry
    obtain ⟨hfirst, hrest⟩ := List.pairwise_cons.mp h
    by_cases hk : key = k
    · simp [Sorted.update, find?, hk]
    · by_cases hl : key < k
      · have hnone : find? key rest = none :=
          find?_eq_none fun e he => Std.lt_trans hl (hfirst e he)
        simp [Sorted.update, find?, hk, hl, hnone]
      · simp [Sorted.update, find?, hk, hl, ih hrest]

end ProbeGateway.Sorted
