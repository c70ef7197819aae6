import Mathlib.Data.List.Forall2
import ProbeGateway.Config
import ProbeGateway.Proofs.Http.Target
import ProbeGateway.Proofs.Number.Counts
import ProbeGateway.Proofs.Number.Order

/-!
# The values of variables

1. A variable is given if it has a text that is not white space throughout (`Config.Given`). What is
   read is the text given, as it stands, or the default where none is given (`Config.Stands`).
2. A text means a value: an address, the value of a header, a number of seconds, a probability or a
   format. The reader of a variable accepts the texts that mean something, yields what they mean,
   and refuses every other text under the name of the variable (`Config.Reads`).
-/

namespace ProbeGateway

/-- No octet of a character beyond ASCII is an octet of ASCII. -/
theorem Utf8.le_of_mem_encodeChar {c : Char} (h : 0x80 ≤ c.toNat) {b : UInt8}
    (hb : b ∈ Utf8.encodeChar c) : 0x80 ≤ b.toNat := by
  have hlt := Utf8.char_toNat_lt c
  have hbound {n : Nat} (hn : n < 256) (hle : 0x80 ≤ n) : 0x80 ≤ (UInt8.ofNat n).toNat := by
    rwa [Utf8.toNat_ofNat_of_lt hn]
  unfold Utf8.encodeChar at hb
  dsimp only at hb
  rw [if_neg (by omega)] at hb
  split at hb
  · simp only [List.mem_cons, List.not_mem_nil, or_false] at hb
    rcases hb with rfl | rfl
    all_goals exact hbound (by omega) (by omega)
  · split at hb
    · simp only [List.mem_cons, List.not_mem_nil, or_false] at hb
      rcases hb with rfl | rfl | rfl
      all_goals exact hbound (by omega) (by omega)
    · simp only [List.mem_cons, List.not_mem_nil, or_false] at hb
      rcases hb with rfl | rfl | rfl | rfl
      all_goals exact hbound (by omega) (by omega)

/-- A small letter is the small form of itself and of its great form. -/
theorem toLower_eq_iff {c letter : Char} (h : 0x61 ≤ letter.toNat ∧ letter.toNat ≤ 0x7A) :
    c.toLower = letter ↔ c = letter ∨ c = letter.toUpper := by
  have hupper : letter.toUpper.toNat + 0x20 = letter.toNat := by
    unfold Char.toUpper
    rw [dif_pos (show 'a'.val ≤ letter.val ∧ letter.val ≤ 'z'.val from h)]
    have hval : letter.val.toNat = letter.toNat := rfl
    have hshift : ('A'.val - 'a'.val).toNat = 2 ^ 32 - 0x20 := by decide
    have hsum := UInt32.toNat_add letter.val ('A'.val - 'a'.val)
    rw [hval, hshift] at hsum
    show (letter.val + ('A'.val - 'a'.val)).toNat + 0x20 = letter.toNat
    omega
  have hlower : c.toLower.toNat =
      if 0x41 ≤ c.toNat ∧ c.toNat ≤ 0x5A then c.toNat + 0x20 else c.toNat := by
    unfold Char.toLower
    split
    · next hc =>
      have hc' : 0x41 ≤ c.toNat ∧ c.toNat ≤ 0x5A := hc
      rw [if_pos hc']
      have hval : c.val.toNat = c.toNat := rfl
      have hshift : ('a'.val - 'A'.val).toNat = 0x20 := by decide
      have hsum := UInt32.toNat_add c.val ('a'.val - 'A'.val)
      rw [hval, hshift] at hsum
      show (c.val + ('a'.val - 'A'.val)).toNat = c.toNat + 0x20
      omega
    · next hc => exact (if_neg hc).symm
  rw [← Char.toNat_inj, ← Char.toNat_inj, ← Char.toNat_inj, hlower]
  split
  · omega
  · omega

/-- Letters are found in either form just if they are the small forms. -/
theorem forall₂_toLower_iff {cs letters : List Char}
    (h : ∀ letter ∈ letters, 0x61 ≤ letter.toNat ∧ letter.toNat ≤ 0x7A) :
    List.Forall₂ (fun c letter => c = letter ∨ c = letter.toUpper) cs letters ↔
      cs.map Char.toLower = letters := by
  induction letters generalizing cs with
  | nil => rw [List.forall₂_nil_right_iff, List.map_eq_nil_iff]
  | cons letter letters ih =>
    obtain ⟨hletter, hletters⟩ := List.forall_mem_cons.mp h
    rw [List.forall₂_cons_right_iff, List.map_eq_cons_iff]
    constructor
    · rintro ⟨c, cs', hc, hcs, rfl⟩
      exact ⟨c, cs', rfl, (toLower_eq_iff hletter).mpr hc, (ih hletters).mp hcs⟩
    · rintro ⟨c, cs', rfl, hc, hcs⟩
      exact ⟨c, cs', (toLower_eq_iff hletter).mp hc, (ih hletters).mpr hcs, rfl⟩

namespace Config

variable {lookup : Lookup} {name default s : String}

/-! ## What is given -/

/-- A text is white space throughout; the empty text is. -/
def Blank (s : String) : Prop := ∀ c ∈ s.toList, isBlank c = true

/-- A variable has a text that is not blank. -/
def Given (lookup : Lookup) (name s : String) : Prop := lookup name = some s ∧ ¬ Blank s

/-- The text of a variable, or its default where none is given. -/
def Stands (lookup : Lookup) (name default s : String) : Prop :=
  Given lookup name s ∨ (∀ t, ¬ Given lookup name t) ∧ s = default

theorem isAllBlank_iff : isAllBlank s = true ↔ Blank s := List.all_eq_true

theorem setting_eq_some : setting lookup name = some s ↔ Given lookup name s := by
  unfold setting Given
  rw [Option.filter_eq_some_iff, ← isAllBlank_iff, Bool.not_eq_true, Bool.not_eq_true']

theorem stands_iff : Stands lookup name default s ↔ settingOr lookup name default = s := by
  unfold Stands settingOr
  constructor
  · rintro (h | ⟨hnone, rfl⟩)
    · rw [setting_eq_some.mpr h, Option.getD_some]
    · cases hs : setting lookup name with
      | none => rfl
      | some t => exact absurd (setting_eq_some.mp hs) (hnone t)
  · intro h
    cases hs : setting lookup name with
    | none =>
      rw [hs, Option.getD_none] at h
      refine .inr ⟨fun t ht => ?_, h.symm⟩
      rw [setting_eq_some.mpr ht] at hs
      cases hs
    | some t =>
      rw [hs, Option.getD_some] at h
      exact .inl (h ▸ setting_eq_some.mp hs)

/-! ## What texts mean -/

/-- A text is a socket address. -/
def IsAddress (s : String) (a : SocketAddress) : Prop := SocketAddress.parse? s = some a

/-- A text is the value of a header, as it stands: of its octets, none below the space but the tab,
and not the one that deletes. -/
def IsHeaderValue (s value : String) : Prop :=
  value = s ∧ ∀ b ∈ octets s, b = 0x09 ∨ 0x20 ≤ b ∧ b ≠ 0x7F

/-- A text spells a number of seconds, at least one and of at most 64 bits. -/
def IsSeconds (s : String) (n : Nat) : Prop := SpellsCount s n ∧ 1 ≤ n ∧ n < Nat.pow 2 64

/-- A text is a finite number between zero and one. -/
def IsProbability (s : String) (x : Binary64) : Prop :=
  Binary64.parse? s = some x ∧ ∃ p, x.value? = some p ∧ 0 ≤ p ∧ p ≤ 1

/-- A text is the name of a format, each letter small or great. -/
def IsFormat (s : String) (f : LogFormat) : Prop :=
  List.Forall₂ (fun c letter => c = letter ∨ c = letter.toUpper) s.toList f.name.toList

/-- A reader accepts the texts with a meaning, and names what it refuses. -/
structure Reads {α : Type} (read : String → String → Except ConfigError α)
    (Means : String → α → Prop) : Prop where
  ok_iff {name s : String} {x : α} : read name s = .ok x ↔ Means s x
  refused {name s : String} {e : ConfigError} :
    read name s = .error e → e.name = name ∧ e.value = s

theorem reads_address : Reads readAddress IsAddress where
  ok_iff {name s a} := by
    unfold readAddress IsAddress
    cases SocketAddress.parse? s with
    | none => exact iff_of_false nofun nofun
    | some a => rw [Except.ok.injEq, Option.some.injEq]
  refused {name s e} h := by
    unfold readAddress at h
    split at h
    · cases h
    · cases h
      exact ⟨rfl, rfl⟩

theorem isHeaderChar_iff {c : Char} :
    isHeaderChar c = true ↔ ∀ b ∈ Utf8.encodeChar c, b = 0x09 ∨ 0x20 ≤ b ∧ b ≠ 0x7F := by
  have htab : c = '\t' ↔ c.toNat = 0x09 := Char.toNat_inj.symm
  simp only [isHeaderChar, Bool.or_eq_true, Bool.and_eq_true, decide_eq_true_eq, htab,
    UInt8.le_iff_toNat_le, ne_eq, ← UInt8.toNat_inj]
  by_cases hascii : c.toNat < 0x80
  · rw [Utf8.encodeChar_of_ascii hascii, List.forall_mem_singleton,
      Utf8.toNat_ofNat_of_lt (by omega)]
    exact or_comm
  · refine iff_of_true (by omega) fun b hb => ?_
    have hb := Utf8.le_of_mem_encodeChar (Nat.le_of_not_lt hascii) hb
    have hspace : (0x20 : UInt8).toNat = 0x20 := rfl
    have hdelete : (0x7F : UInt8).toNat = 0x7F := rfl
    omega

theorem reads_headerValue : Reads readHeaderValue IsHeaderValue where
  ok_iff {name s value} := by
    have hall : s.toList.all isHeaderChar = true ↔
        ∀ b ∈ octets s, b = 0x09 ∨ 0x20 ≤ b ∧ b ≠ 0x7F := by
      show _ ↔ ∀ b ∈ s.toList.flatMap Utf8.encodeChar, _
      rw [List.all_eq_true, List.forall_mem_flatMap]
      exact forall₂_congr fun c _ => isHeaderChar_iff
    unfold readHeaderValue IsHeaderValue
    rw [← hall]
    split
    · next h => rw [Except.ok.injEq, and_iff_left h, eq_comm]
    · next h => exact iff_of_false nofun fun hvalue => h hvalue.2
  refused {name s e} h := by
    unfold readHeaderValue at h
    split at h
    · cases h
    · cases h
      exact ⟨rfl, rfl⟩

theorem reads_seconds : Reads readSeconds IsSeconds where
  ok_iff {name s n} := by
    have hcount {n : Nat} : readCount wordLimit s = .ok n ↔ SpellsCount s n ∧ n < Nat.pow 2 64 :=
      readCount_eq_ok (by decide)
    unfold readSeconds IsSeconds
    rw [and_comm (a := 1 ≤ n), ← and_assoc, ← hcount]
    split
    · next h =>
      refine iff_of_false nofun ?_
      rintro ⟨hn, hpos⟩
      rw [h] at hn
      cases hn
      exact absurd hpos (by decide)
    · next m hm h =>
      rw [h, Except.ok.injEq, Except.ok.injEq]
      refine (and_iff_left_of_imp ?_).symm
      rintro rfl
      exact Nat.pos_of_ne_zero fun hzero => hm hzero
    · next h =>
      rw [h]
      exact iff_of_false nofun nofun
  refused {name s e} h := by
    unfold readSeconds at h
    split at h
    · cases h
      exact ⟨rfl, rfl⟩
    · cases h
    · cases h
      exact ⟨rfl, rfl⟩

theorem isShare_iff {x : Binary64} :
    isShare x = true ↔ ∃ p, x.value? = some p ∧ 0 ≤ p ∧ p ≤ 1 := by
  have hzero : (Binary64.zero false).value? = some 0 := by
    norm_num [Binary64.zero, Binary64.value?]
  have hone : (Binary64.ofNat 1).value? = some 1 := by
    have : Binary64.ofNat 1 = .finite false (2 ^ 52) (-52) := by decide +kernel
    rw [this]
    norm_num [Binary64.value?]
  unfold isShare
  rw [Bool.and_eq_true]
  cases x with
  | nan => exact iff_of_false (fun h => nomatch h.1) nofun
  | infinity negative =>
    refine iff_of_false ?_ nofun
    cases negative with
    | false => exact fun h => nomatch h.2
    | true => exact fun h => nomatch h.1
  | finite negative significand exponent =>
    have hvalue : (Binary64.finite negative significand exponent).value? = some _ := rfl
    rw [Binary64.le_iff hzero hvalue, Binary64.le_iff hvalue hone, hvalue]
    constructor
    · exact fun h => ⟨_, rfl, h⟩
    · rintro ⟨p, hp, h⟩
      cases hp
      exact h

theorem reads_share : Reads readShare IsProbability where
  ok_iff {name s x} := by
    unfold readShare IsProbability
    rw [← isShare_iff]
    cases Binary64.parse? s with
    | none => exact iff_of_false nofun nofun
    | some y =>
      dsimp only
      rw [Option.some.injEq]
      split
      · next h =>
        rw [Except.ok.injEq]
        refine (and_iff_left_of_imp ?_).symm
        rintro rfl
        exact h
      · next h =>
        refine iff_of_false nofun ?_
        rintro ⟨rfl, hshare⟩
        exact h hshare
  refused {name s e} h := by
    unfold readShare at h
    split at h
    · split at h
      · cases h
      · cases h
        exact ⟨rfl, rfl⟩
    · cases h
      exact ⟨rfl, rfl⟩

theorem isFormat_iff {f : LogFormat} :
    IsFormat s f ↔ String.ofList (s.toList.map Char.toLower) = f.name := by
  have hsmall : ∀ letter ∈ f.name.toList, 0x61 ≤ letter.toNat ∧ letter.toNat ≤ 0x7A := by
    cases f
    all_goals exact forall_mem_of_all (by decide +kernel)
  unfold IsFormat
  rw [forall₂_toLower_iff hsmall, ← String.toList_inj, String.toList_ofList]

theorem reads_logFormat : Reads readLogFormat IsFormat where
  ok_iff {name s f} := by
    rw [isFormat_iff]
    unfold readLogFormat
    dsimp only
    split
    · next h => 
      rw [h]
      cases f <;> decide
    · next hjson =>
      split
      · next h =>
        rw [h]
        cases f <;> decide
      · next htext =>
        refine iff_of_false nofun fun h => ?_
        cases f with
        | json => exact hjson h
        | text => exact htext h
  refused {name s e} h := by
    unfold readLogFormat at h
    dsimp only at h
    split at h
    · cases h
    · split at h
      · cases h
      · cases h
        exact ⟨rfl, rfl⟩

end Config

end ProbeGateway
