import ProbeGateway.Http.Target

/-!
# Targets read in parts

A text is read in parts by cutting it in front of the first character that does not belong to the
part (`Cut`). So a target that begins with a slash is read as its path and its query, wherever they
end (`RequestTarget.parse_append`).
-/

namespace ProbeGateway

/-! ## Cuts -/

/-- A list ends, and another begins, where a condition fails for the first time. -/
structure Cut {α : Type} (p : α → Bool) (xs ys : List α) : Prop where
  holds : ∀ a ∈ xs, p a = true
  fails : ∀ a ∈ ys.head?, p a = false

namespace Cut

variable {α : Type} {p : α → Bool} {xs ys : List α}

theorem takeWhile (h : Cut p xs ys) : (xs ++ ys).takeWhile p = xs := by
  rw [List.takeWhile_append_of_pos h.holds]
  cases ys with
  | nil => exact List.append_nil xs
  | cons a ys =>
    rw [List.takeWhile_cons_of_neg (Bool.eq_false_iff.mp (h.fails a rfl)), List.append_nil]

theorem dropWhile (h : Cut p xs ys) : (xs ++ ys).dropWhile p = ys := by
  rw [List.dropWhile_append_of_pos h.holds]
  cases ys with
  | nil => rfl
  | cons a ys => exact List.dropWhile_cons_of_neg (Bool.eq_false_iff.mp (h.fails a rfl))

/-- Every list can be cut. -/
theorem exists_append (p : α → Bool) (l : List α) : ∃ xs ys, l = xs ++ ys ∧ Cut p xs ys := by
  refine ⟨l.takeWhile p, l.dropWhile p, List.takeWhile_append_dropWhile.symm, ?_⟩
  constructor
  · exact List.all_eq_true.mp List.all_takeWhile
  · intro a ha
    have hhead := List.head?_dropWhile_not p l
    rwa [ha] at hhead

end Cut

/-- What is found of all characters of a text holds of each. -/
theorem forall_mem_of_all {s : List Char} {P : Char → Prop} [DecidablePred P]
    (h : s.all (fun c => decide (P c)) = true) : ∀ c ∈ s, P c := by
  intro c hc
  exact of_decide_eq_true (List.all_eq_true.mp h c hc)

namespace RequestTarget

/-! ## Paths and queries -/

/-- The query in what follows a path. -/
def queryIn : List Char → Option String
  | '?' :: q => some (String.ofList (q.takeWhile (· ≠ '#')))
  | _ => none

variable {path tail : List Char}

/-- A path begins with a slash, and what follows it begins where a path ends. -/
theorem parse_append (hslash : path.head? = some '/')
    (hcut : Cut (fun c => !endsPath c) path tail) :
    parse (String.ofList (path ++ tail)) = ⟨String.ofList path, queryIn tail⟩ := by
  obtain ⟨rest, rfl⟩ := List.head?_eq_some_iff.mp hslash
  have hparse : parse (String.ofList ('/' :: rest ++ tail)) =
      ofPathAndQuery ('/' :: rest ++ tail) := by
    unfold parse
    rw [String.toList_ofList]
    rfl
  rw [hparse, ofPathAndQuery, hcut.takeWhile, hcut.dropWhile]
  rfl

end RequestTarget

end ProbeGateway
