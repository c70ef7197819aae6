/-!
# Headers

Header names are lower case, and a name may have several values, in order. `Headers.values` is the
view of a list of headers: what stands under each name. Each operation says what it does to it.
-/

namespace ProbeGateway

/-- Header names and values, in the order in which they were added. -/
abbrev Headers := List (String × String)

namespace Headers

/-- The values of a name, in order. -/
def values (name : String) (headers : Headers) : List String :=
  (headers.filter fun h => h.1 = name).map (·.2)

/-- The first value of a name. -/
def first? (name : String) (headers : Headers) : Option String := (headers.values name).head?

/-- Whether a name has a value. -/
def has (name : String) (headers : Headers) : Bool := headers.any fun h => h.1 = name

/-- Drops every value of a name. -/
def remove (name : String) (headers : Headers) : Headers := headers.filter fun h => h.1 ≠ name

/-- Adds a value after those a name already has. -/
def append (name value : String) (headers : Headers) : Headers := headers ++ [(name, value)]

/-- Makes a value the only one of a name. -/
def set (name value : String) (headers : Headers) : Headers :=
  (headers.remove name).append name value

/-- Adds a value unless the name has one. -/
def setDefault (name value : String) (headers : Headers) : Headers :=
  if headers.has name then headers else headers.append name value

/-- Puts the headers of `other` in, in place of those of the same names. -/
def merge (headers other : Headers) : Headers :=
  (headers.filter fun h => !other.has h.1) ++ other

/-! ## The values under a name -/

@[simp] theorem values_nil (name : String) : values name [] = [] := rfl

@[simp] theorem values_append (name : String) (h k : List (String × String)) :
    values name (h ++ k) = values name h ++ values name k := by
  simp [values]

theorem values_cons (name : String) (n v : String) (h : Headers) :
    values name ((n, v) :: h) = (if n = name then [v] else []) ++ values name h := by
  by_cases hn : n = name <;> simp [values, hn]

theorem values_cons_self (name value : String) (h : Headers) :
    values name ((name, value) :: h) = value :: values name h := by
  rw [values_cons, if_pos rfl, List.singleton_append]

theorem values_cons_of_ne {name other : String} (hne : other ≠ name) (value : String)
    (h : Headers) : values name ((other, value) :: h) = values name h := by
  rw [values_cons, if_neg hne, List.nil_append]

@[simp] theorem values_remove_self (name : String) (h : Headers) :
    values name (h.remove name) = [] := by
  induction h with
  | nil => rfl
  | cons x h ih =>
    obtain ⟨n, v⟩ := x
    by_cases hn : n = name
    · subst hn; simp_all [remove]
    · simp_all [remove, values]

theorem values_remove_of_ne {name other : String} (h : Headers) (hne : other ≠ name) :
    values other (h.remove name) = values other h := by
  induction h with
  | nil => rfl
  | cons x h ih =>
    obtain ⟨n, v⟩ := x
    by_cases hn : n = name
    · subst hn
      have hne' : ¬ n = other := fun e => hne e.symm
      rw [values_cons, if_neg hne', List.nil_append, ← ih]
      simp [remove]
    · have : remove name ((n, v) :: h) = (n, v) :: remove name h := by simp [remove, hn]
      rw [this, values_cons, values_cons, ih]

@[simp] theorem values_set_self (name value : String) (h : Headers) :
    values name (h.set name value) = [value] := by
  simp [set, append, values_cons]

theorem values_set_of_ne {name other : String} (value : String) (h : Headers)
    (hne : other ≠ name) : values other (h.set name value) = values other h := by
  have : ¬ name = other := fun e => hne e.symm
  simp [set, append, values_cons, values_remove_of_ne h hne, this]

theorem values_setDefault_of_ne {name other : String} (value : String) (h : Headers)
    (hne : other ≠ name) : values other (h.setDefault name value) = values other h := by
  have : ¬ name = other := fun e => hne e.symm
  unfold setDefault
  split
  · rfl
  · simp [append, values_cons, this]

theorem has_iff_values_ne_nil (name : String) (h : Headers) :
    h.has name = true ↔ values name h ≠ [] := by
  induction h with
  | nil => simp [has]
  | cons x h ih =>
    obtain ⟨n, v⟩ := x
    rw [values_cons]
    by_cases hn : n = name
    · simp [has, hn]
    · simpa [has, hn] using ih

/-- A default counts just if the name has no value. -/
theorem values_setDefault_self (name value : String) (h : Headers) :
    values name (h.setDefault name value) =
      if values name h = [] then [value] else values name h := by
  unfold setDefault
  by_cases hv : values name h = []
  · have hhas : ¬ (h.has name = true) := fun hh => (has_iff_values_ne_nil name h).mp hh hv
    rw [if_neg hhas, if_pos hv, append, values_append, hv, List.nil_append, values_cons_self,
      values_nil]
  · rw [if_pos ((has_iff_values_ne_nil name h).mpr hv), if_neg hv]

/-- With a default a name has a first value. -/
theorem first?_setDefault_self (name value : String) (h : Headers) :
    (h.setDefault name value).first? name = some ((h.first? name).getD value) := by
  unfold first?
  rw [values_setDefault_self]
  cases values name h with
  | nil => rfl
  | cons v rest => rfl

end Headers

end ProbeGateway
