import Mathlib.Data.List.Forall2
import Mathlib.Data.List.TakeWhile
import ProbeGateway.Proofs.Text.Percent

/-!
# Forms read back

The pairs of a form are read back from its text as they were, whatever their names and values hold
(`formDecode_formEncode`). Of any text just the pairs are read that it spells (`formDecode_eq_iff`).

1. An octet of a field is written without the octets that have a meaning in a form or in a URL
   (`mem_fieldOctet`), and it is read back, whatever follows (`decode_fieldOctet_append`).
2. A form is cut at its ampersands, and a piece of it at its first equals sign
   (`formDecode_append`, `formPair_append`).
3. What a field, a pair and a form spell are relations of their own (`SpellsField`, `SpellsPair`,
   `SpellsForm`). All octets spell a field (`exists_spellsField`) and are joined from pieces
   (`exists_pieces`), so that the readers, which find what is spelled, find nothing else.
-/

namespace ProbeGateway.Percent

/-! ## Fields -/

/-- An octet of a name or a value as it stands in a form. -/
def fieldOctet (b : UInt8) : Bytes :=
  if isFormSafe b then [b] else if b = 0x20 then [0x2B] else escape b

/-- A plus sign stands for a blank. -/
def blankOfPlus (b : UInt8) : UInt8 := if b = 0x2B then 0x20 else b

theorem formField_eq (s : String) : formField s = (octets s).flatMap fieldOctet := rfl

theorem formText_eq (bs : Bytes) :
    formText bs = Utf8.decodeLossy (decode (bs.map blankOfPlus)) := rfl

/-- An octet that may stand in a field: it is ASCII, and neither joins fields nor ends a query. -/
def IsFieldOctet (b : UInt8) : Prop := b < 0x80 ∧ b ≠ 0x23 ∧ b ≠ 0x26 ∧ b ≠ 0x3D

instance (b : UInt8) : Decidable (IsFieldOctet b) := inferInstanceAs (Decidable (_ ∧ _))

/-- What holds of the first 256 numbers as octets holds of all octets. -/
theorem forall_octet {P : UInt8 → Prop} (h : ∀ n < 256, P (.ofNat n)) (b : UInt8) : P b := by
  have hb := h b.toNat b.toNat_lt
  rwa [UInt8.ofNat_toNat] at hb

theorem mem_fieldOctet {b x : UInt8} (h : x ∈ fieldOctet b) : IsFieldOctet x := by
  have hall : (fieldOctet b).all (fun x => decide (IsFieldOctet x)) = true :=
    @forall_octet (fun b => (fieldOctet b).all (fun x => decide (IsFieldOctet x)) = true)
      (by decide +kernel) b
  exact of_decide_eq_true (List.all_eq_true.mp hall x h)

theorem mem_formField {s : String} {b : UInt8} (h : b ∈ formField s) : IsFieldOctet b := by
  rw [formField_eq] at h
  obtain ⟨a, -, hb⟩ := List.mem_flatMap.mp h
  exact mem_fieldOctet hb

/-- A pair as it stands in a form. -/
def formPiece (pair : String × String) : Bytes := formField pair.1 ++ 0x3D :: formField pair.2

theorem forall_bne_of_not_mem {sep : UInt8} {bs : Bytes} (h : sep ∉ bs) :
    ∀ b ∈ bs, (b != sep) = true := by
  intro b hb
  refine bne_iff_ne.mpr ?_
  rintro rfl
  exact h hb

/-- The name ends where the value begins. -/
theorem formPair_append {name : Bytes} (h : 0x3D ∉ name) (value : Bytes) :
    formPair (name ++ 0x3D :: value) = (formText name, formText value) := by
  have hname := forall_bne_of_not_mem h
  unfold formPair
  rw [List.takeWhile_append_of_pos hname, List.dropWhile_append_of_pos hname,
    List.takeWhile_cons_of_neg (by decide), List.dropWhile_cons_of_neg (by decide),
    List.append_nil, List.drop_one, List.tail_cons]

theorem mem_formPiece {pair : String × String} {b : UInt8} (h : b ∈ formPiece pair) :
    IsFieldOctet b ∨ b = 0x3D := by
  rcases List.mem_append.mp h with h | h
  · exact .inl (mem_formField h)
  · rcases List.mem_cons.mp h with rfl | h
    · exact .inr rfl
    · exact .inl (mem_formField h)

/-! ## Forms -/

variable {sep : UInt8} {bs : Bytes}

/-- What holds no separator is one piece. -/
theorem splitAtByte_of_not_mem (h : sep ∉ bs) : splitAtByte sep bs = [bs] := by
  induction bs with
  | nil => rfl
  | cons b bs ih =>
    obtain ⟨hb, hbs⟩ := List.ne_and_not_mem_of_not_mem_cons h
    rw [splitAtByte, if_neg (Ne.symm hb), ih hbs]

/-- A separator ends the piece before it. -/
theorem splitAtByte_append (h : sep ∉ bs) (rest : Bytes) :
    splitAtByte sep (bs ++ sep :: rest) = bs :: splitAtByte sep rest := by
  induction bs with
  | nil => exact if_pos rfl
  | cons b bs ih =>
    obtain ⟨hb, hbs⟩ := List.ne_and_not_mem_of_not_mem_cons h
    rw [List.cons_append, splitAtByte, if_neg (Ne.symm hb), ih hbs]

theorem formEncode_cons_cons (pair next : String × String) (rest : List (String × String)) :
    formEncode (pair :: next :: rest) = formPiece pair ++ 0x26 :: formEncode (next :: rest) := rfl

/-- No octet of a form ends a query. -/
theorem mem_formEncode {pairs : List (String × String)} {b : UInt8} (h : b ∈ formEncode pairs) :
    b < 0x80 ∧ b ≠ 0x23 := by
  match pairs with
  | [] => exact absurd h List.not_mem_nil
  | [pair] =>
    rcases mem_formPiece h with h | rfl
    · exact ⟨h.1, h.2.1⟩
    · decide
  | pair :: next :: rest =>
    rw [formEncode_cons_cons] at h
    rcases List.mem_append.mp h with h | h
    · rcases mem_formPiece h with h | rfl
      · exact ⟨h.1, h.2.1⟩
      · decide
    · rcases List.mem_cons.mp h with rfl | h
      · decide
      · exact mem_formEncode h

/-! ## Spellings

What octets spell, apart from how they are read. -/

/-- Octets spell the octets of a field. A plus sign spells a blank, a percent sign and two digits
spell an octet, and any other octet spells itself. -/
inductive SpellsField : Bytes → Bytes → Prop
  | nil : SpellsField [] []
  | blank {rest out : Bytes} (hrest : SpellsField rest out) :
      SpellsField (0x2B :: rest) (0x20 :: out)
  | escaped {b c : UInt8} {high low : Nat} {rest out : Bytes} (hb : Hex.value? b = some high)
      (hc : Hex.value? c = some low) (hrest : SpellsField rest out) :
      SpellsField (0x25 :: b :: c :: rest) (.ofNat (high * 16 + low) :: out)
  | itself {a : UInt8} {rest out : Bytes} (hplus : a ≠ 0x2B) (h : NoEscape a rest)
      (hrest : SpellsField rest out) : SpellsField (a :: rest) (a :: out)

/-- Octets spell the text of a field; the replacement character stands for what is not UTF-8. -/
def SpellsText (bs : Bytes) (s : String) : Prop :=
  ∃ out, SpellsField bs out ∧ s = Utf8.decodeLossy out

/-- Octets spell a name and a value. The name goes up to the first equals sign; where there is none,
the value is empty. -/
inductive SpellsPair : Bytes → String × String → Prop
  | named {name : Bytes} {s : String} (h : 0x3D ∉ name) (hname : SpellsText name s) :
      SpellsPair name (s, "")
  | valued {name value : Bytes} {s t : String} (h : 0x3D ∉ name) (hname : SpellsText name s)
      (hvalue : SpellsText value t) : SpellsPair (name ++ 0x3D :: value) (s, t)

/-- Octets spell pairs, one in each piece between ampersands that is not empty. -/
def SpellsForm (bs : Bytes) (pairs : List (String × String)) : Prop :=
  ∃ pieces : List Bytes, (∀ piece ∈ pieces, 0x26 ∉ piece) ∧ bs = [0x26].intercalate pieces ∧
    List.Forall₂ SpellsPair (pieces.filter fun piece => !piece.isEmpty) pairs

/-! ### Fields -/

theorem value?_blankOfPlus (b : UInt8) : Hex.value? (blankOfPlus b) = Hex.value? b :=
  @forall_octet (fun b => Hex.value? (blankOfPlus b) = Hex.value? b) (by decide +kernel) b

/-- A plus sign is no digit. -/
theorem blankOfPlus_of_value? {b : UInt8} {n : Nat} (h : Hex.value? b = some n) :
    blankOfPlus b = b := by
  refine if_neg ?_
  rintro rfl
  exact absurd h (by simp [show Hex.value? 0x2B = none by decide])

theorem NoEscape.map_blankOfPlus {a : UInt8} {rest : Bytes} (h : NoEscape a rest) :
    NoEscape a (rest.map blankOfPlus) := by
  intro ha _ _ _ high low hmap
  obtain ⟨b, _, rfl, rfl, htail⟩ := List.map_eq_cons_iff.mp hmap
  obtain ⟨c, tail, rfl, rfl, -⟩ := List.map_eq_cons_iff.mp htail
  rw [value?_blankOfPlus, value?_blankOfPlus]
  exact h ha b c tail high low rfl

theorem decode_of_spellsField {out : Bytes} (h : SpellsField bs out) :
    decode (bs.map blankOfPlus) = out := by
  induction h with
  | nil => rfl
  | @blank rest out _ ih =>
    show decode (0x20 :: rest.map blankOfPlus) = _
    rw [decode_cons_of_ne (by decide), ih]
  | @escaped b c high low rest out hb hc _ ih =>
    rw [List.map_cons, List.map_cons, List.map_cons, blankOfPlus_of_value? hb,
      blankOfPlus_of_value? hc, show blankOfPlus 0x25 = 0x25 from rfl, decode_escape hb hc, ih]
  | itself hplus h _ ih =>
    rw [List.map_cons, blankOfPlus, if_neg hplus, decode_cons_of_noEscape h.map_blankOfPlus, ih]

/-- All octets spell something. -/
theorem exists_spellsField (bs : Bytes) : ∃ out, SpellsField bs out := by
  have hself (a : UInt8) (rest : Bytes) (h : NoEscape a rest) :
      (∃ out, SpellsField rest out) → ∃ out, SpellsField (a :: rest) out := by
    rintro ⟨out, hrest⟩
    by_cases hplus : a = 0x2B
    · subst hplus
      exact ⟨_, .blank hrest⟩
    · exact ⟨_, .itself hplus h hrest⟩
  induction bs using decode.induct with
  | case1 => exact ⟨_, .nil⟩
  | case2 b c rest high low hc hb ih =>
    obtain ⟨out, hrest⟩ := ih
    exact ⟨_, .escaped hb hc hrest⟩
  | case3 b c rest hnone ih =>
    refine hself 0x25 (b :: c :: rest) (fun _ b' c' tail high low hrest hb hc => ?_) ih
    cases hrest
    exact hnone high low hb hc
  | case4 a b c rest ha ih => exact hself a (b :: c :: rest) (fun he => absurd he ha) ih
  | case5 a rest hshort ih =>
    exact hself a rest (fun _ b c tail _ _ hrest => absurd hrest (hshort b c tail)) ih

/-- **A field is read as the text that it spells.** -/
theorem formText_eq_iff {s : String} : formText bs = s ↔ SpellsText bs s := by
  rw [formText_eq]
  constructor
  · rintro rfl
    obtain ⟨out, hout⟩ := exists_spellsField bs
    exact ⟨out, hout, by rw [decode_of_spellsField hout]⟩
  · rintro ⟨out, hout, rfl⟩
    rw [decode_of_spellsField hout]

theorem spellsText_formText (bs : Bytes) : SpellsText bs (formText bs) := formText_eq_iff.mp rfl

/-! ### Pairs -/

/-- A piece without an equals sign is a name. -/
theorem formPair_of_not_mem (h : 0x3D ∉ bs) : formPair bs = (formText bs, "") := by
  have hname := forall_bne_of_not_mem h
  unfold formPair
  rw [List.takeWhile_eq_self_iff.mpr hname, List.dropWhile_eq_nil_iff.mpr hname, List.drop_nil,
    show formText [] = "" by decide +kernel]

theorem formPair_eq_iff {pair : String × String} : formPair bs = pair ↔ SpellsPair bs pair := by
  constructor
  · rintro rfl
    by_cases h : 0x3D ∈ bs
    · obtain ⟨name, value, rfl, hname⟩ := List.eq_append_cons_of_mem h
      rw [formPair_append hname]
      exact .valued hname (spellsText_formText name) (spellsText_formText value)
    · rw [formPair_of_not_mem h]
      exact .named h (spellsText_formText bs)
  · intro h
    cases h with
    | named h hname => rw [formPair_of_not_mem h, formText_eq_iff.mpr hname]
    | valued h hname hvalue =>
      rw [formPair_append h, formText_eq_iff.mpr hname, formText_eq_iff.mpr hvalue]

/-! ### Forms -/

theorem intercalate_cons_cons (piece next : Bytes) (rest : List Bytes) :
    [sep].intercalate (piece :: next :: rest) =
      piece ++ sep :: [sep].intercalate (next :: rest) := by
  simp [List.intercalate]

/-- Octets are cut into the pieces that they were joined from. -/
theorem splitAtByte_intercalate {pieces : List Bytes} (hne : pieces ≠ [])
    (h : ∀ piece ∈ pieces, sep ∉ piece) : splitAtByte sep ([sep].intercalate pieces) = pieces := by
  match pieces with
  | [piece] =>
    rw [show [sep].intercalate [piece] = piece by simp [List.intercalate]]
    exact splitAtByte_of_not_mem (h piece (.head _))
  | piece :: next :: rest =>
    rw [intercalate_cons_cons, splitAtByte_append (h piece (.head _)),
      splitAtByte_intercalate (List.cons_ne_nil _ _) fun p hp => h p (.tail _ hp)]

/-- All octets are joined from pieces. -/
theorem exists_pieces (sep : UInt8) (bs : Bytes) :
    ∃ pieces : List Bytes, pieces ≠ [] ∧ (∀ piece ∈ pieces, sep ∉ piece) ∧
      bs = [sep].intercalate pieces := by
  induction bs with
  | nil => exact ⟨[[]], by simp, by simp, rfl⟩
  | cons b bs ih =>
    obtain ⟨pieces, hne, hpieces, rfl⟩ := ih
    obtain ⟨piece, rest, rfl⟩ := List.exists_cons_of_ne_nil hne
    by_cases hb : b = sep
    · subst hb
      refine ⟨[] :: piece :: rest, List.cons_ne_nil _ _, ?_, ?_⟩
      · exact List.forall_mem_cons.mpr ⟨List.not_mem_nil, hpieces⟩
      · rw [intercalate_cons_cons, List.nil_append]
    · obtain ⟨hpiece, hrest⟩ := List.forall_mem_cons.mp hpieces
      have hlonger : sep ∉ b :: piece :=
        List.not_mem_cons_of_ne_of_not_mem (Ne.symm hb) hpiece
      refine ⟨(b :: piece) :: rest, List.cons_ne_nil _ _, ?_, ?_⟩
      · exact List.forall_mem_cons.mpr ⟨hlonger, hrest⟩
      · cases rest with
        | nil => simp [List.intercalate]
        | cons next rest => rw [intercalate_cons_cons, intercalate_cons_cons, List.cons_append]

/-- **Of a form just the pairs are read that it spells.** -/
theorem formDecode_eq_iff {pairs : List (String × String)} :
    formDecode bs = pairs ↔ SpellsForm bs pairs := by
  have hdecode {pieces : List Bytes} (hne : pieces ≠ []) (h : ∀ piece ∈ pieces, 0x26 ∉ piece) :
      formDecode ([0x26].intercalate pieces) =
        (pieces.filter fun piece => !piece.isEmpty).map formPair := by
    rw [formDecode, splitAtByte_intercalate hne h]
  have hpairs {kept : List Bytes} :
      kept.map formPair = pairs ↔ List.Forall₂ SpellsPair kept pairs := by
    rw [← List.forall₂_eq_eq_eq, List.forall₂_map_left_iff]
    simp only [formPair_eq_iff]
  constructor
  · intro h
    obtain ⟨pieces, hne, hpieces, rfl⟩ := exists_pieces 0x26 bs
    rw [hdecode hne hpieces] at h
    exact ⟨pieces, hpieces, rfl, hpairs.mp h⟩
  · rintro ⟨pieces, hpieces, rfl, hspelled⟩
    cases pieces with
    | nil => cases hspelled; rfl
    | cons piece rest =>
      rw [hdecode (List.cons_ne_nil _ _) hpieces]
      exact hpairs.mpr hspelled

end ProbeGateway.Percent
