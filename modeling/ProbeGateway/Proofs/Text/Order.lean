import ProbeGateway.Text.Utf8

/-!
# UTF-8 keeps order

Texts are ordered as their octets are (`octets_lt_iff`): a character with the greater value has the
greater octets, whatever follows it (`encodeChar_append_lt`).
-/

namespace ProbeGateway

namespace Utf8

variable {m n : Nat}

theorem ofNat_lt_ofNat (hm : m < 256) (hn : n < 256) :
    UInt8.ofNat m < UInt8.ofNat n ↔ m < n := by
  rw [UInt8.lt_iff_toNat_lt, toNat_ofNat_of_lt hm, toNat_ofNat_of_lt hn]

theorem ofNat_inj (hm : m < 256) (hn : n < 256) : UInt8.ofNat m = UInt8.ofNat n ↔ m = n := by
  rw [← UInt8.toNat_inj, toNat_ofNat_of_lt hm, toNat_ofNat_of_lt hn]

/-- The octets of a greater character are greater, whatever follows. -/
theorem encodeChar_append_lt {c d : Char} (h : c < d) (u v : Bytes) :
    encodeChar c ++ u < encodeChar d ++ v := by
  have hlt : c.toNat < d.toNat := Char.lt_def.mp h
  have hc := char_toNat_lt c
  have hd := char_toNat_lt d
  -- A character has at least as many octets as a smaller one, and more only with a greater lead.
  unfold encodeChar
  dsimp only
  repeat' split
  all_goals
    simp (disch := omega) only [List.cons_append, List.nil_append, List.cons_lt_cons_iff,
      ofNat_lt_ofNat, ofNat_inj]
    omega

theorem encodeList_lt {s t : List Char} (h : s < t) : encodeList s < encodeList t := by
  induction s generalizing t with
  | nil =>
    cases t with
    | nil => exact absurd h (List.lt_irrefl [])
    | cons d t =>
      obtain ⟨b, r, hoctets, -⟩ := step_encodeChar d (encodeList t)
      rw [encodeList_cons, hoctets, encodeList_nil]
      exact List.nil_lt_cons b r
  | cons c s ih =>
    cases t with
    | nil => exact absurd h (List.not_lt_nil _)
    | cons d t =>
      rcases List.cons_lt_cons_iff.mp h with hlt | ⟨rfl, hlt⟩
      · exact encodeChar_append_lt hlt _ _
      · rw [encodeList_cons, encodeList_cons]
        exact List.append_left_lt (ih hlt)

end Utf8

/-- **Texts are in the order of their octets.** -/
theorem octets_lt_iff {s t : String} : octets s < octets t ↔ s < t := by
  constructor
  · intro h
    rcases Std.lt_trichotomy s t with hlt | heq | hgt
    · exact hlt
    · rw [heq] at h
      exact absurd h (List.lt_irrefl _)
    · exact absurd h (List.lt_asymm (Utf8.encodeList_lt (String.lt_iff.mp hgt)))
  · intro h
    exact Utf8.encodeList_lt (String.lt_iff.mp h)

end ProbeGateway
