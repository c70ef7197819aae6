/-!
# Entries sorted by key

A finite map as a list of key and value pairs in increasing order of key. A key occurs at most once,
so two maps with the same entries are equal, whatever order the entries came in.
-/

namespace ProbeGateway

/-- Key and value pairs, kept in increasing order of key. -/
abbrev Sorted (κ α : Type) := List (κ × α)

namespace Sorted

variable {κ α : Type} [LT κ] [DecidableLT κ] [DecidableEq κ]

/-- Changes the value under a key, given the old value if there is one. -/
def update (key : κ) (change : Option α → α) : Sorted κ α → Sorted κ α
  | [] => [(key, change none)]
  | (k, v) :: rest =>
    if key = k then (k, change (some v)) :: rest
    else if key < k then (key, change none) :: (k, v) :: rest
    else (k, v) :: update key change rest

/-- Puts a value under a key; a value already there is replaced. -/
def insert (key : κ) (value : α) (entries : Sorted κ α) : Sorted κ α :=
  entries.update key fun _ => value

omit [LT κ] [DecidableLT κ] in
/-- The value under a key. -/
def find? (key : κ) : Sorted κ α → Option α
  | [] => none
  | (k, v) :: rest => if key = k then some v else find? key rest

theorem find?_update_of_ne {key other : κ} (h : other ≠ key) (change : Option α → α)
    (entries : Sorted κ α) : find? other (update key change entries) = find? other entries := by
  induction entries with
  | nil => simp [update, find?, h]
  | cons e rest ih =>
    obtain ⟨k, v⟩ := e
    by_cases hk : key = k
    · subst hk; simp [update, find?, h]
    · by_cases hl : key < k
      · simp [update, find?, hk, hl, h]
      · simp [update, find?, hk, hl, ih]

end Sorted

end ProbeGateway
