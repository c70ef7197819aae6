import ProbeGateway.Proofs.Json.Grammar

/-!
# Every value is skipped

Skipping needs fuel for each value and each bracket that it passes. The fuel that it starts with
goes by the octets, and lasts for every value of the grammar.

1. A scalar is passed in one step, and leaves fewer octets (`skipFrom_of_scalarText`,
   `length_of_scalarText`).
2. A value is passed in less than two steps for each of its octets, and the elements behind a
   bracket in no more than two (`PassesValue`, `PassesElements`).
3. A value is skipped exactly if it is one of the grammar (`skipValue_eq_ok`).
-/

namespace ProbeGateway.Json

variable {input mid rest : Bytes}

/-! ## Octets that are passed -/

theorem length_skipSpace_le (input : Bytes) : (skipSpace input).length ≤ input.length :=
  (List.dropWhile_suffix isSpace).length_le

/-- An octet behind blanks is one of the text. -/
theorem length_of_skipSpace {b : UInt8} (h : skipSpace input = b :: rest) :
    rest.length < input.length := by
  have hle := length_skipSpace_le input
  rw [h] at hle
  exact hle

theorem length_of_readHex4 {n : Nat} (h : readHex4 input = .ok (n, rest)) :
    rest.length ≤ input.length := by
  unfold readHex4 at h
  split at h
  · next a b c d behind =>
    split at h
    · cases h
      exact Nat.le_add_right _ 4
    · cases h
  · cases h

theorem length_of_skipEscape (h : skipEscape input = .ok rest) : rest.length < input.length := by
  unfold skipEscape at h
  split at h
  · cases h
  next b behind =>
  split at h
  · cases h
    exact Nat.lt_succ_self _
  split at h
  · obtain ⟨⟨n, _⟩, hread, h⟩ := bind_eq_ok.mp h
    cases h
    exact Nat.lt_succ_of_le (length_of_readHex4 hread)
  · cases h

theorem length_of_stringText (h : StringText input rest) : rest.length < input.length := by
  induction h with
  | close rest => exact Nat.lt_succ_self _
  | plain _ _ _ _ ih => exact ih.trans (Nat.lt_succ_self _)
  | escape hescape _ ih =>
    exact (ih.trans (length_of_skipEscape hescape)).trans (Nat.lt_succ_self _)

theorem length_of_skipExponent (h : skipExponent input = .ok rest) :
    rest.length ≤ input.length := by
  unfold skipExponent at h
  dsimp only at h
  split at h
  · cases h
  next b behind hsign =>
  split at h
  · cases h
    have hdigits : (behind.dropWhile isDigitOctet).length ≤ (b :: behind).length :=
      (List.dropWhile_suffix isDigitOctet).length_le.trans (Nat.le_succ _)
    refine hdigits.trans ?_
    rw [← hsign]
    split
    · exact Nat.le_succ _
    · exact Nat.le_succ _
    · exact Nat.le_refl _
  · cases h

theorem length_of_skipFractionTail (h : skipFractionTail input = .ok rest) :
    rest.length ≤ input.length := by
  unfold skipFractionTail at h
  split at h
  · cases h
    exact Nat.le_refl _
  · split at h
    · exact (length_of_skipExponent h).trans (Nat.le_succ _)
    · cases h
      exact Nat.le_refl _

theorem length_of_skipNumberTail (h : skipNumberTail input = .ok rest) :
    rest.length ≤ input.length := by
  unfold skipNumberTail at h
  split at h
  · cases h
    exact Nat.le_refl _
  next b behind =>
  split at h
  · split at h
    · cases h
    next c after =>
    split at h
    · have hdigits := (List.dropWhile_suffix (l := after) isDigitOctet).length_le
      have hle := length_of_skipFractionTail h
      simp only [List.length_cons]
      omega
    · cases h
  split at h
  · exact (length_of_skipExponent h).trans (Nat.le_succ _)
  · cases h
    exact Nat.le_refl _

theorem length_of_skipNumber (h : skipNumber input = .ok rest) : rest.length < input.length := by
  unfold skipNumber at h
  split at h
  · cases h
  next b behind =>
  refine Nat.lt_succ_of_le ?_
  split at h
  · split at h
    · split at h
      · cases h
      · exact length_of_skipNumberTail h
    · cases h
      exact Nat.le_refl _
  split at h
  · exact (length_of_skipNumberTail h).trans (List.dropWhile_suffix isDigitOctet).length_le
  · cases h

theorem length_of_scalarText (h : ScalarText input rest) : rest.length < input.length := by
  have hword (b : UInt8) (word rest : Bytes) : rest.length < (b :: (word ++ rest)).length :=
    Nat.lt_succ_of_le (List.suffix_append word rest).length_le
  cases h with
  | null => exact hword _ _ _
  | true => exact hword _ _ _
  | false => exact hword _ _ _
  | negative h => exact (length_of_skipNumber h).trans (Nat.lt_succ_self _)
  | number _ h => exact length_of_skipNumber h
  | text h => exact (length_of_stringText h).trans (Nat.lt_succ_self _)

/-! ## Scalars -/

theorem readWord_append (word rest : Bytes) : readWord word (word ++ rest) = .ok rest := by
  induction word with
  | nil => rfl
  | cons w word ih =>
    rw [List.cons_append, readWord, if_pos rfl]
    exact ih

theorem skipString_of_stringText (h : StringText input rest) {fuel : Nat}
    (hfuel : input.length < fuel) : skipString fuel input = .ok rest := by
  induction h generalizing fuel with
  | close rest =>
    obtain ⟨fuel, rfl⟩ := Nat.exists_eq_add_one.mpr (Nat.zero_lt_of_lt hfuel)
    rfl
  | plain hquote hback hcontrol _ ih =>
    obtain ⟨fuel, rfl⟩ := Nat.exists_eq_add_one.mpr (Nat.zero_lt_of_lt hfuel)
    rw [skipString, if_neg hquote, if_neg hback, if_neg hcontrol]
    exact ih (Nat.lt_of_succ_lt_succ hfuel)
  | escape hescape _ ih =>
    obtain ⟨fuel, rfl⟩ := Nat.exists_eq_add_one.mpr (Nat.zero_lt_of_lt hfuel)
    rw [skipString, if_neg (by decide), if_pos rfl, hescape, ok_bind]
    exact ih ((length_of_skipEscape hescape).trans (Nat.lt_of_succ_lt_succ hfuel))

/-- A scalar is passed in one step. -/
theorem skipFrom_of_scalarText (h : ScalarText (skipSpace input) rest) (fuel : Nat)
    (opened : List Bracket) :
    skipFrom (fuel + 1) opened input = skipRest fuel true opened rest := by
  generalize hinput : skipSpace input = scalar at h
  rw [skipFrom, hinput]
  cases h with
  | null => exact congrArg (· >>= _) (readWord_append _ rest)
  | true => exact congrArg (· >>= _) (readWord_append _ rest)
  | false => exact congrArg (· >>= _) (readWord_append _ rest)
  | negative h => exact congrArg (· >>= _) h
  | @number b behind _ hdigit h =>
    have hne (c : UInt8) (hc : isDigitOctet c = false) : b ≠ c := by
      rintro rfl
      cases hc.symm.trans hdigit
    dsimp only
    rw [if_neg (hne 0x6E rfl), if_neg (hne 0x74 rfl), if_neg (hne 0x66 rfl),
      if_neg (hne 0x2D rfl), if_pos hdigit, h, ok_bind]
  | text h =>
    exact congrArg (· >>= _) (skipString_of_stringText h (Nat.lt_succ_self _))

/-! ## Values and elements -/

theorem skipFrom_of_skipSpace_eq {input' : Bytes} (h : skipSpace input = skipSpace input')
    (fuel : Nat) (opened : List Bracket) :
    skipFrom (fuel + 1) opened input = skipFrom (fuel + 1) opened input' := by
  rw [skipFrom, h, skipFrom]

theorem skipFrom_opening {bracket : Bracket} (h : skipSpace input = bracket.opening :: rest)
    (fuel : Nat) (opened : List Bracket) :
    skipFrom (fuel + 1) opened input = skipRest fuel false (bracket :: opened) rest := by
  rw [skipFrom, h]
  cases bracket <;> rfl

theorem skipRest_close {bracket : Bracket} (h : skipSpace input = bracket.close :: rest)
    (fuel : Nat) (afterValue : Bool) (outer : List Bracket) :
    skipRest (fuel + 1) afterValue (bracket :: outer) input = skipRest fuel true outer rest := by
  rw [skipRest, h]
  cases afterValue <;> cases bracket <;> rfl

/-- An element that begins is passed next, up to blanks before it. -/
theorem skipRest_begins {bracket : Bracket} {first : Bool} {start : Bytes}
    (hbegins : Begins input first start) (hstart : skipSpace start ≠ [])
    (hopen : ∀ behind, skipSpace start ≠ bracket.close :: behind) (fuel : Nat)
    (outer : List Bracket) :
    ∃ before, skipSpace before = skipSpace start ∧
      skipRest (fuel + 1) (!first) (bracket :: outer) input =
        (skipToItem bracket before >>= skipFrom fuel (bracket :: outer)) := by
  cases hbegins with
  | now =>
    obtain ⟨b, behind, hspace⟩ := List.exists_cons_of_ne_nil hstart
    have hb : b ≠ bracket.close := fun hb => hopen behind (hb ▸ hspace)
    refine ⟨skipSpace input, skipSpace_skipSpace input, ?_⟩
    rw [skipRest, hspace]
    dsimp only
    rw [Bool.not_true, Bool.false_and, if_neg Bool.false_ne_true, if_neg hb,
      if_neg Bool.false_ne_true]
  | behindComma hcomma =>
    refine ⟨start, rfl, ?_⟩
    rw [skipRest, hcomma]
    rfl

theorem skipToItem_object {start key behind value : Bytes} (hquote : skipSpace start = 0x22 :: key)
    (hkey : StringText key behind) (hcolon : skipSpace behind = 0x3A :: value) :
    skipToItem .object start = .ok value := by
  have hread : readColon behind = .ok value := by
    rw [readColon, hcolon]
    rfl
  rw [skipToItem, skipKey, hquote]
  dsimp only
  rw [if_pos rfl, skipString_of_stringText hkey (Nat.lt_succ_self _), ok_bind, hread]

/-- Skipping passes a value in less than two steps for each octet. -/
def PassesValue (input rest : Bytes) : Prop :=
  ∃ steps, steps + 2 + 2 * rest.length ≤ 2 * input.length ∧
    ∀ fuel opened, skipFrom (fuel + steps + 1) opened input = skipRest fuel true opened rest

/-- Skipping passes the elements behind a bracket in no more than two steps for each octet. -/
def PassesElements (bracket : Bracket) (first : Bool) (input rest : Bytes) : Prop :=
  ∃ steps, steps + 2 * rest.length ≤ 2 * input.length ∧
    ∀ fuel outer, skipRest (fuel + steps) (!first) (bracket :: outer) input =
      skipRest fuel true outer rest

theorem Begins.length_le {first : Bool} {start : Bytes} (h : Begins input first start) :
    start.length ≤ input.length := by
  cases h with
  | now => exact Nat.le_refl _
  | behindComma hcomma => exact (length_of_skipSpace hcomma).le

/-- A value has an octet that is no blank. -/
theorem ValueText.ne_nil (h : ValueText input rest) : skipSpace input ≠ [] := by
  cases h with
  | scalar h => exact List.ne_nil_of_length_pos (Nat.zero_lt_of_lt (length_of_scalarText h))
  | bracketed hopen =>
    rw [hopen]
    exact List.cons_ne_nil _ _

/-- An element is passed, and then the others. -/
theorem passesElements_of_item {bracket : Bracket} {first : Bool} {start value : Bytes}
    (hbegins : Begins input first start) (hstart : skipSpace start ≠ [])
    (hopen : ∀ behind, skipSpace start ≠ bracket.close :: behind)
    (hitem : ∀ before, skipSpace before = skipSpace start →
      ∃ value', skipToItem bracket before = .ok value' ∧ skipSpace value' = skipSpace value)
    (hle : value.length ≤ start.length) (hvalue : PassesValue value mid)
    (helements : PassesElements bracket false mid rest) :
    PassesElements bracket first input rest := by
  obtain ⟨steps, hsteps, hvalue⟩ := hvalue
  obtain ⟨steps', hsteps', helements⟩ := helements
  have hlength := hbegins.length_le
  refine ⟨steps' + steps + 2, by omega, fun fuel outer => ?_⟩
  obtain ⟨before, hspace, hrest⟩ :=
    skipRest_begins hbegins hstart hopen (fuel + steps' + steps + 1) outer
  obtain ⟨value', hitem, hblanks⟩ := hitem before hspace
  calc skipRest (fuel + (steps' + steps + 2)) (!first) (bracket :: outer) input
    _ = skipFrom (fuel + steps' + steps + 1) (bracket :: outer) value' := by
      rw [hitem, ok_bind] at hrest
      rw [← hrest]
      exact congrArg (skipRest · _ _ _) (by omega)
    _ = skipFrom (fuel + steps' + steps + 1) (bracket :: outer) value :=
      skipFrom_of_skipSpace_eq hblanks _ _
    _ = skipRest (fuel + steps') true (bracket :: outer) mid := hvalue _ _
    _ = skipRest fuel true outer rest := helements fuel outer

/-- Every value of the grammar is passed, by induction on its derivation. -/
theorem passesValue_of_valueText (h : ValueText input rest) : PassesValue input rest := by
  refine @ValueText.rec (fun input rest _ => PassesValue input rest)
    (fun bracket _ first input rest _ => PassesElements bracket first input rest)
    ?scalar ?bracketed ?close ?item ?member input rest h
  case scalar =>
    intro input rest h
    have hless := length_of_scalarText h
    have hle := length_skipSpace_le input
    exact ⟨0, by omega, fun fuel opened => skipFrom_of_scalarText h fuel opened⟩
  case bracketed =>
    rintro bracket count input behind rest hopen - ⟨steps, hsteps, helements⟩
    have hless := length_of_skipSpace hopen
    refine ⟨steps, by omega, fun fuel opened => ?_⟩
    rw [skipFrom_opening hopen]
    exact helements fuel opened
  case close =>
    intro bracket first input rest hclose
    have hless := length_of_skipSpace hclose
    exact ⟨1, by omega, fun fuel outer => skipRest_close hclose fuel _ outer⟩
  case item =>
    intro count first input start mid rest hbegins hvalue _ ihValue ih
    refine passesElements_of_item hbegins hvalue.ne_nil (fun _ => hvalue.ne_close)
      (fun before hspace => ?_) (Nat.le_refl _) ihValue ih
    exact ⟨before, rfl, hspace⟩
  case member =>
    intro count first input start key behind value mid rest hbegins hquote hkey hcolon _ _ ihValue
      ih
    have hstart := length_of_skipSpace hquote
    have hbehind := length_of_stringText hkey
    have hcolonLess := length_of_skipSpace hcolon
    have hopen (behind : Bytes) : skipSpace start ≠ Bracket.object.close :: behind := by
      rw [hquote]
      nofun
    refine passesElements_of_item hbegins (hquote ▸ List.cons_ne_nil _ _) hopen
      (fun before hspace => ?_) (by omega) ihValue ih
    exact ⟨value, skipToItem_object (hspace.trans hquote) hkey hcolon, rfl⟩

/-- **A value is skipped exactly if it is one of the grammar.** -/
theorem skipValue_eq_ok : skipValue input = .ok rest ↔ ValueText input rest := by
  refine ⟨valueText_of_skipValue, fun h => ?_⟩
  obtain ⟨steps, hsteps, hskip⟩ := passesValue_of_valueText h
  obtain ⟨fuel, hfuel⟩ : ∃ fuel, 2 * input.length + 2 = fuel + 1 + steps + 1 :=
    ⟨2 * input.length - steps, by omega⟩
  rw [skipValue, hfuel, hskip (fuel + 1) []]
  rfl

end ProbeGateway.Json
