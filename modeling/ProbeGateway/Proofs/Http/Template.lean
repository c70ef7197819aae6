import ProbeGateway.Http.Template

/-!
# Which template a path goes to

1. A literal template fits its own text only (`match?_literals`), and one that ends in a remainder
   fits every longer text that it begins (`match?_beginning`).
2. Of several templates one that fits is chosen (`fits_of_choose`), none only if none fits
   (`choose_eq_none_iff`), and the one that fits alone is chosen for certain (`choose_of_only`).
-/

namespace ProbeGateway.Template

/-! ## What fits -/

theorem match?_literals (s path : List Char) :
    match? (s.map .literal) path = if path = s then some [] else none := by
  induction s generalizing path with
  | nil => cases path <;> rfl
  | cons c s ih =>
    cases path with
    | nil => rfl
    | cons d path =>
      rw [List.map_cons, match?]
      by_cases h : c = d
      · rw [if_pos h, ih, h]
        simp
      · have : d :: path ≠ c :: s := fun e => h (List.cons.inj e).1.symm
        rw [if_neg h, if_neg this]

/-- A remainder stands for what the path has behind the literal beginning. -/
theorem match?_beginning (s rest : List Char) :
    match? (s.map .literal ++ [.remainder]) (s ++ rest) =
      if rest.isEmpty then none else some [String.ofList rest] := by
  induction s with
  | nil => rfl
  | cons c s ih =>
    rw [List.map_cons, List.cons_append, List.cons_append, match?, if_pos rfl, ih]

/-- A path that begins otherwise does not fit. -/
theorem match?_of_not_prefix {s path : List Char} (h : ¬ s <+: path) :
    match? (s.map .literal ++ [.remainder]) path = none := by
  induction s generalizing path with
  | nil => exact absurd List.nil_prefix h
  | cons c s ih =>
    cases path with
    | nil => rfl
    | cons d path =>
      rw [List.map_cons, List.cons_append, match?]
      by_cases hc : c = d
      · rw [if_pos hc]
        apply ih
        rintro ⟨rest, rfl⟩
        exact h ⟨rest, by rw [hc, List.cons_append]⟩
      · rw [if_neg hc]

/-! ## What is chosen -/

variable {path : List Char} {templates : List String} {template : String} {parts : List String}

theorem choose_eq_none_iff :
    choose path templates = none ↔ ∀ t ∈ templates, match? (pieces t) path = none := by
  induction templates with
  | nil => simp [choose]
  | cons t rest ih =>
    rw [choose, List.forall_mem_cons, ← ih]
    cases match? (pieces t) path with
    | none => simp
    | some found =>
      cases choose path rest with
      | none => simp
      | some other =>
        dsimp only
        split <;> simp

/-- What is chosen fits. -/
theorem fits_of_choose (h : choose path templates = some (template, parts)) :
    template ∈ templates ∧ match? (pieces template) path = some parts := by
  induction templates with
  | nil => exact absurd h (by simp [choose])
  | cons t rest ih =>
    have inRest (hr : choose path rest = some (template, parts)) :
        template ∈ t :: rest ∧ match? (pieces template) path = some parts :=
      (ih hr).imp_left (.tail _)
    rw [choose] at h
    cases hm : match? (pieces t) path with
    | none =>
      rw [hm] at h
      exact inRest h
    | some found =>
      have itself (he : some (t, found) = some (template, parts)) :
          template ∈ t :: rest ∧ match? (pieces template) path = some parts := by
        obtain ⟨rfl, rfl⟩ := Prod.mk.inj (Option.some.inj he)
        exact ⟨.head _, hm⟩
      rw [hm] at h
      cases hc : choose path rest with
      | none =>
        rw [hc] at h
        exact itself h
      | some other =>
        rw [hc] at h
        dsimp only at h
        split at h
        · exact inRest (hc.trans h)
        · exact itself h

/-- A template that fits alone is chosen. -/
theorem choose_of_only (hmem : template ∈ templates)
    (hfits : match? (pieces template) path = some parts)
    (honly : ∀ t ∈ templates, t ≠ template → match? (pieces t) path = none) :
    choose path templates = some (template, parts) := by
  cases hc : choose path templates with
  | none =>
    have := choose_eq_none_iff.mp hc template hmem
    rw [hfits] at this
    exact absurd this (by simp)
  | some found =>
    obtain ⟨t, ps⟩ := found
    obtain ⟨ht, hps⟩ := fits_of_choose hc
    by_cases he : t = template
    · subst he
      rw [hfits] at hps
      rw [Option.some.inj hps]
    · rw [honly t ht he] at hps
      exact absurd hps (by simp)

end ProbeGateway.Template
