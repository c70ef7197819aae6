import ProbeGateway.Proofs.Number.Digits

/-!
# Counts

A text is read as a count if it spells a number below the limit in decimal digits, behind a plus
sign or not (`readCount_eq_ok`). The reader refuses at the first digit that goes too far
(`accumulate_eq_tooLarge`); the digits behind it make no number smaller (`le_readDigits`), so that
no number is lost and none comes out as another one.
-/

namespace ProbeGateway

/-- A text spells a number in decimal digits, with any number of zeros before them. -/
def SpellsCount (s : String) (n : Nat) : Prop :=
  ∃ digits, (s.toList = digits ∨ s.toList = '+' :: digits) ∧ digits ≠ [] ∧
    (∀ c ∈ digits, isDigit c = true) ∧ n = readDigits 0 digits

theorem le_readDigits (acc : Nat) (digits : List Char) : acc ≤ readDigits acc digits := by
  induction digits generalizing acc with
  | nil => exact Nat.le_refl acc
  | cons c digits ih =>
    calc acc ≤ acc * 10 + digitValue c := by omega
      _ ≤ readDigits acc (c :: digits) := ih _

variable {limit n : Nat}

/-- Digits are taken to the end if their number stays below the limit. -/
theorem accumulate_eq_ok {acc : Nat} (hacc : acc < limit) {digits : List Char} :
    accumulate limit acc digits = .ok n ↔
      (∀ c ∈ digits, isDigit c = true) ∧ n = readDigits acc digits ∧ n < limit := by
  induction digits generalizing acc with
  | nil =>
    show Except.ok acc = Except.ok n ↔ _ ∧ n = acc ∧ n < limit
    rw [Except.ok.injEq, eq_comm]
    constructor
    · rintro rfl
      exact ⟨nofun, rfl, hacc⟩
    · exact fun h => h.2.1
  | cons c digits ih =>
    rw [List.forall_mem_cons, and_assoc, accumulate]
    by_cases hc : isDigit c = true
    · rw [if_pos hc, and_iff_right hc]
      dsimp only
      by_cases hnext : acc * 10 + digitValue c < limit
      · rw [if_pos hnext]
        exact ih hnext
      · rw [if_neg hnext]
        refine iff_of_false nofun ?_
        rintro ⟨-, rfl, hlt⟩
        exact hnext (Nat.lt_of_le_of_lt (le_readDigits _ digits) hlt)
    · rw [if_neg hc]
      exact iff_of_false nofun fun h => hc h.1

/-- Characters are refused as too large if they begin with digits whose number is. -/
theorem accumulate_eq_tooLarge {acc : Nat} (hacc : acc < limit) {cs : List Char} :
    accumulate limit acc cs = .error .tooLarge ↔
      ∃ digits rest, cs = digits ++ rest ∧ (∀ c ∈ digits, isDigit c = true) ∧
        limit ≤ readDigits acc digits := by
  induction cs generalizing acc with
  | nil =>
    refine iff_of_false nofun ?_
    rintro ⟨digits, rest, hcs, -, hle⟩
    rw [(List.nil_eq_append_iff.mp hcs).1] at hle
    exact Nat.not_le_of_lt hacc hle
  | cons c cs ih =>
    -- The number read so far is below the limit, so it takes a first digit to exceed it.
    have hfirst : (∃ digits rest, c :: cs = digits ++ rest ∧ (∀ d ∈ digits, isDigit d = true) ∧
          limit ≤ readDigits acc digits) ↔
        isDigit c = true ∧ ∃ digits rest, cs = digits ++ rest ∧
          (∀ d ∈ digits, isDigit d = true) ∧
          limit ≤ readDigits (acc * 10 + digitValue c) digits := by
      constructor
      · rintro ⟨digits, rest, hcs, hall, hle⟩
        cases digits with
        | nil => exact absurd hle (Nat.not_le_of_lt hacc)
        | cons d digits =>
          obtain ⟨rfl, htail⟩ := List.cons.inj hcs
          exact ⟨hall c (.head _), digits, rest, htail, fun d hd => hall d (.tail _ hd), hle⟩
      · rintro ⟨hc, digits, rest, rfl, hall, hle⟩
        exact ⟨c :: digits, rest, rfl, List.forall_mem_cons.mpr ⟨hc, hall⟩, hle⟩
    rw [hfirst, accumulate]
    by_cases hc : isDigit c = true
    · rw [if_pos hc, and_iff_right hc]
      dsimp only
      by_cases hnext : acc * 10 + digitValue c < limit
      · rw [if_pos hnext]
        exact ih hnext
      · rw [if_neg hnext]
        exact iff_of_true rfl ⟨[], cs, rfl, nofun, Nat.le_of_not_lt hnext⟩
    · rw [if_neg hc]
      exact iff_of_false nofun fun h => hc h.1

/-! ## Signs -/

/-- What stands behind a plus sign, if there is one. -/
def behindSign : List Char → List Char
  | '+' :: cs => cs
  | cs => cs

theorem behindSign_cons {c : Char} (h : isDigit c = true) (cs : List Char) :
    behindSign (c :: cs) = c :: cs := by
  unfold behindSign
  split
  · next hcs =>
    rw [(List.cons.inj hcs).1] at h
    exact absurd h (by decide)
  · rfl

theorem eq_behindSign (cs : List Char) : cs = behindSign cs ∨ cs = '+' :: behindSign cs := by
  unfold behindSign
  split
  · exact .inr rfl
  · exact .inl rfl

/-- Digits and what follows them stand behind the sign. -/
theorem behindSign_of_digits {cs digits rest : List Char}
    (h : cs = digits ++ rest ∨ cs = '+' :: (digits ++ rest)) (hne : digits ≠ [])
    (hall : ∀ c ∈ digits, isDigit c = true) : behindSign cs = digits ++ rest := by
  rcases h with rfl | rfl
  · obtain ⟨c, digits, rfl⟩ := List.exists_cons_of_ne_nil hne
    exact behindSign_cons (hall c (.head _)) _
  · rfl

theorem spellsCount_iff {s : String} :
    SpellsCount s n ↔ behindSign s.toList ≠ [] ∧
      (∀ c ∈ behindSign s.toList, isDigit c = true) ∧ n = readDigits 0 (behindSign s.toList) := by
  constructor
  · rintro ⟨digits, hdigits, hne, hall, hn⟩
    rw [← List.append_nil digits] at hdigits
    rw [behindSign_of_digits hdigits hne hall, List.append_nil]
    exact ⟨hne, hall, hn⟩
  · rintro ⟨hne, hall, hn⟩
    exact ⟨_, eq_behindSign s.toList, hne, hall, hn⟩

/-- The reader of digits gets what stands behind the sign, unless nothing does. -/
theorem readCount_eq (limit : Nat) (s : String) :
    readCount limit s =
      if s = "" then .error .empty
      else if behindSign s.toList = [] then .error .invalidDigit
      else accumulate limit 0 (behindSign s.toList) := by
  unfold readCount behindSign
  simp only [← String.toList_eq_nil_iff]
  split
  · next hs => rw [if_pos hs]
  · next hs =>
    rw [hs]
    rfl
  · next rest hrest hs =>
    rw [hs, if_neg (List.cons_ne_nil _ _)]
    exact (if_neg hrest).symm
  · next hne _ hsign =>
    rw [if_neg hne]
    split
    · next cs hcs => exact absurd hcs (hsign cs)
    · exact (if_neg hne).symm

/-- **A count is the number that its text spells.** -/
theorem readCount_eq_ok (hlimit : 0 < limit) {s : String} :
    readCount limit s = .ok n ↔ SpellsCount s n ∧ n < limit := by
  rw [readCount_eq, spellsCount_iff, and_assoc, and_assoc, ← accumulate_eq_ok hlimit]
  split
  · next hs =>
    refine iff_of_false nofun fun h => h.1 ?_
    rw [hs]
    rfl
  · split
    · next hnil => exact iff_of_false nofun fun h => h.1 hnil
    · next hne => exact (and_iff_right hne).symm

/-- Behind its sign a text begins with digits whose number is not below a limit. -/
def Exceeds (limit : Nat) (s : String) : Prop :=
  ∃ digits rest, (s.toList = digits ++ rest ∨ s.toList = '+' :: (digits ++ rest)) ∧
    (∀ c ∈ digits, isDigit c = true) ∧ limit ≤ readDigits 0 digits

theorem exceeds_iff (hlimit : 0 < limit) {s : String} :
    Exceeds limit s ↔ ∃ digits rest, behindSign s.toList = digits ++ rest ∧
      (∀ c ∈ digits, isDigit c = true) ∧ limit ≤ readDigits 0 digits := by
  constructor
  · rintro ⟨digits, rest, hs, hall, hle⟩
    have hne : digits ≠ [] := by
      rintro rfl
      exact Nat.not_le_of_lt hlimit hle
    exact ⟨digits, rest, behindSign_of_digits hs hne hall, hall, hle⟩
  · rintro ⟨digits, rest, hs, hall, hle⟩
    refine ⟨digits, rest, ?_, hall, hle⟩
    rw [← hs]
    exact eq_behindSign s.toList

/-- **A count is refused as too large** if the text begins with digits whose number is. -/
theorem readCount_eq_tooLarge (hlimit : 0 < limit) {s : String} :
    readCount limit s = .error .tooLarge ↔ Exceeds limit s := by
  rw [readCount_eq, exceeds_iff hlimit, ← accumulate_eq_tooLarge hlimit]
  split
  · next hs =>
    rw [hs]
    exact iff_of_false nofun nofun
  · split
    · next hnil =>
      rw [hnil]
      exact iff_of_false nofun nofun
    · rfl

/-- Of the texts that spell a number, those exceed a limit whose number is not below it. -/
theorem SpellsCount.exceeds_iff {s : String} (h : SpellsCount s n) (hlimit : 0 < limit) :
    Exceeds limit s ↔ limit ≤ n := by
  obtain ⟨-, hall, hn⟩ := spellsCount_iff.mp h
  rw [ProbeGateway.exceeds_iff hlimit, hn]
  constructor
  · rintro ⟨digits, rest, hs, -, hle⟩
    rw [hs]
    calc limit ≤ readDigits 0 digits := hle
      _ ≤ readDigits (readDigits 0 digits) rest := le_readDigits _ rest
      _ = readDigits 0 (digits ++ rest) := List.foldl_append.symm
  · exact fun hle => ⟨_, [], (List.append_nil _).symm, hall, hle⟩

end ProbeGateway
