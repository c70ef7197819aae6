import Mathlib.Data.List.Forall2
import Mathlib.Data.Option.Basic

/-!
# Related lists and optional values

What is found in lists that are related one by one is related (`find?_related`), and so is what
related optional values come to (`rel_getD`, `rel_cases`).
-/

namespace ProbeGateway

variable {α β : Type} {related : α → β → Prop}

theorem find?_related {xs : List α} {ys : List β} (h : List.Forall₂ related xs ys) {p : α → Bool}
    {q : β → Bool} (hp : ∀ x y, related x y → p x = q y) :
    Option.Rel related (xs.find? p) (ys.find? q) := by
  induction h with
  | nil => exact .none
  | @cons x y xs ys hxy _ ih =>
    rw [List.find?_cons, List.find?_cons, ← hp x y hxy]
    cases p x with
    | true => exact .some hxy
    | false => exact ih

variable {o : Option α} {o' : Option β} (h : Option.Rel related o o')

include h

theorem rel_cases : o = none ∧ o' = none ∨ ∃ x y, o = some x ∧ o' = some y ∧ related x y := by
  cases h with
  | none => exact .inl ⟨rfl, rfl⟩
  | some h => exact .inr ⟨_, _, rfl, rfl, h⟩

theorem isSome_related : o.isSome = o'.isSome := by
  cases h with
  | none => rfl
  | some _ => rfl

theorem rel_getD {x : α} {y : β} (hxy : related x y) : related (o.getD x) (o'.getD y) := by
  cases h with
  | none => exact hxy
  | some h => exact h

end ProbeGateway
