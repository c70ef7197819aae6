import ProbeGateway.Http.Headers

/-!
# Merging headers

Headers are merged all at once, or put in one by one (`Headers.putIn`): the first of a name then
takes the place of all that stands under the name, and the others of that name follow it.

1. Merged headers have the values of the new headers under the names of these, and keep their own
   under all other names (`values_merge`).
2. Headers put in one by one leave the same values under every name (`values_putIn`), by induction
   on the headers still to come; the names that have been begun are general in it
   (`values_putIn_begun`).
-/

namespace ProbeGateway.Headers

variable (name : String) (h other : Headers)

theorem has_cons (n v : String) : has name ((n, v) :: h) = (decide (n = name) || has name h) := rfl

theorem values_eq_nil_iff : values name h = [] ↔ has name h = false := by
  rw [Bool.eq_false_iff, ne_eq, has_iff_values_ne_nil, Decidable.not_not]

/-! ## All at once -/

/-- Of the headers that are merged into, those stay whose names are not given anew. -/
theorem values_filter_has :
    values name (h.filter fun e => !other.has e.1) = if other.has name then [] else values name h := by
  induction h with
  | nil =>
    rw [List.filter_nil, values_nil]
    split
    · rfl
    · rfl
  | cons e h ih =>
    obtain ⟨n, v⟩ := e
    rw [List.filter_cons]
    by_cases hn : n = name
    · subst hn
      cases hhas : other.has n with
      | true => simpa [hhas] using ih
      | false => simpa [hhas, values_cons_self] using ih
    · rw [values_cons_of_ne hn, ← ih]
      split
      · exact values_cons_of_ne hn v _
      · rfl

theorem values_merge :
    values name (h.merge other) = if other.has name then values name other else values name h := by
  rw [merge, values_append, values_filter_has]
  cases hhas : other.has name with
  | true => rfl
  | false =>
    rw [(values_eq_nil_iff name other).mpr hhas]
    exact List.append_nil _

/-- A name that only the new headers may have. -/
theorem values_merge_of_values_eq_nil {name : String} {h : Headers} (hname : values name h = []) :
    values name (h.merge other) = values name other := by
  rw [values_merge, hname]
  split
  · rfl
  · rw [(values_eq_nil_iff name other).mpr (Bool.eq_false_iff.mpr ‹_›)]

/-- A name that the new headers do not have. -/
theorem values_merge_of_other_eq_nil {name : String} {other : Headers}
    (hname : values name other = []) : values name (h.merge other) = values name h := by
  rw [values_merge, if_neg (Bool.eq_false_iff.mp ((values_eq_nil_iff name other).mp hname))]

/-! ## One by one -/

/-- Puts headers in one by one. The first of a name takes the place of all that stands under it, and
the others of that name follow. The names of which the first is in are `begun`. -/
def putIn : (headers : Headers) → (begun : List String) → (other : Headers) → Headers
  | headers, _, [] => headers
  | headers, begun, (name, value) :: other =>
    if name ∈ begun then putIn (headers.append name value) begun other
    else putIn (headers.set name value) (name :: begun) other

/-- What follows a name that is begun stands behind its values, and what follows any other name
stands in their place. -/
theorem values_putIn_begun (begun : List String) :
    values name (h.putIn begun other) =
      if name ∈ begun then values name h ++ values name other
      else if other.has name then values name other else values name h := by
  induction other generalizing h begun with
  | nil =>
    rw [putIn, values_nil, List.append_nil]
    split
    · rfl
    · rfl
  | cons e other ih =>
    obtain ⟨n, v⟩ := e
    rw [putIn]
    by_cases hn : n = name
    · subst hn
      rw [values_cons_self, has_cons, decide_eq_true rfl, Bool.true_or, if_pos rfl]
      by_cases hbegun : n ∈ begun
      · rw [if_pos hbegun, ih, if_pos hbegun, if_pos hbegun, append, values_append,
          values_cons_self, values_nil, List.append_assoc, List.singleton_append]
      · rw [if_neg hbegun, ih, if_pos List.mem_cons_self, if_neg hbegun, values_set_self,
          List.singleton_append]
    · have hname : name ≠ n := Ne.symm hn
      have happend : values name (h.append n v) = values name h := by
        rw [append, values_append, values_cons_of_ne hn, values_nil, List.append_nil]
      rw [values_cons_of_ne hn, has_cons, decide_eq_false hn, Bool.false_or]
      by_cases hbegun : n ∈ begun
      · rw [if_pos hbegun, ih, happend]
      · rw [if_neg hbegun, ih, values_set_of_ne v h hname]
        simp only [List.mem_cons, hname, false_or]

/-- **Headers put in one by one are merged.** -/
theorem values_putIn : values name (h.putIn [] other) = values name (h.merge other) := by
  rw [values_putIn_begun, if_neg List.not_mem_nil, values_merge]

end ProbeGateway.Headers
