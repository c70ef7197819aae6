import Mathlib.Data.List.TakeWhile
import ProbeGateway.Json.Record
import ProbeGateway.Proofs.Json.Text

/-!
# Values read back

A reader takes a value (`Takes`) if it takes the compact text of the value off the front of any text
that goes on as a text may go on behind a value. Strings (`takes_readText`), optional strings
(`takes_readOptional_text`), names of cases (`takes_readCase`), counts (`takes_readCountNumber`) and
lists of what can be taken (`Takes.list`) are taken.
-/

namespace ProbeGateway.Json

/-- Octets that may stand behind a value. -/
inductive Delimits : Bytes → Prop
  | nothing : Delimits []
  | comma (rest : Bytes) : Delimits (0x2C :: rest)
  | bracket (rest : Bytes) : Delimits (0x5D :: rest)
  | brace (rest : Bytes) : Delimits (0x7D :: rest)

/-- An octet that may begin a value: no blank, and nothing that closes an array or object. -/
def Opens (b : UInt8) : Prop := isSpace b = false ∧ b ≠ 0x5D ∧ b ≠ 0x7D

/-- A reader takes the text of a value for what the value stands for. -/
structure Takes {α : Type} (reader : Reader α) (v : Json) (x : α) : Prop where
  opens : ∃ b bs, v.body = b :: bs ∧ Opens b
  reads : ∀ rest, Delimits rest → reader (v.body ++ rest) = .ok (x, rest)

theorem skipSpace_cons {b : UInt8} (h : isSpace b = false) (rest : Bytes) :
    skipSpace (b :: rest) = b :: rest := by
  unfold skipSpace
  rw [List.dropWhile_cons_of_neg (by simp [h])]

theorem skipSpace_eq_nil {input : Bytes} : skipSpace input = [] ↔ ∀ b ∈ input, isSpace b :=
  List.dropWhile_eq_nil_iff

variable {α : Type} {reader : Reader α} {v : Json} {x : α}

theorem mapError_eq_ok {ε ε' : Type} {f : ε → ε'} {outcome : Except ε α} :
    outcome.mapError f = .ok x ↔ outcome = .ok x := by
  cases outcome with
  | error e => exact iff_of_false nofun nofun
  | ok y => rw [Except.mapError, Except.ok.injEq, Except.ok.injEq]

/-- A text is read when nothing but blanks stands behind its value. -/
theorem parseWith_eq_ok {input : Bytes} :
    parseWith reader input = .ok x ↔
      ∃ rest, reader input = .ok (x, rest) ∧ ∀ b ∈ rest, isSpace b := by
  unfold Json.parseWith
  dsimp only
  rw [mapError_eq_ok, bind_eq_ok]
  constructor
  · rintro ⟨⟨y, rest⟩, hread, h⟩
    dsimp only at h
    split at h
    · next hspace =>
      cases h
      exact ⟨rest, hread, skipSpace_eq_nil.mp hspace⟩
    · cases h
  · rintro ⟨rest, hread, hspace⟩
    refine ⟨(x, rest), hread, ?_⟩
    dsimp only
    rw [skipSpace_eq_nil.mpr hspace]

/-- A text that a reader takes is its value. -/
theorem Takes.parseWith (h : Takes reader v x) : parseWith reader v.body = .ok x := by
  have hread := h.reads [] .nothing
  rw [List.append_nil] at hread
  unfold Json.parseWith
  dsimp only
  rw [hread, ok_bind]
  rfl

/-! ## Strings -/

theorem body_text (s : String) :
    (text s).body = 0x22 :: (Utf8.encodeList (s.toList.flatMap escapeChar) ++ [0x22]) := by
  unfold body
  rw [write, writeText, List.cons_append, Utf8.encodeList_cons, Utf8.encodeList_append]
  rfl

theorem text_append (s : String) (rest : Bytes) :
    (text s).body ++ rest =
      0x22 :: (Utf8.encodeList (s.toList.flatMap escapeChar) ++ 0x22 :: rest) := by
  rw [body_text, List.cons_append, List.append_assoc, List.singleton_append]

theorem opens_text (s : String) : ∃ b bs, (text s).body = b :: bs ∧ Opens b := by
  refine ⟨_, _, body_text s, rfl, ?_, ?_⟩
  all_goals decide

/-- What is done with a string is done with the one that was written. -/
theorem readTextWith_text (expected : String) (use : String → Reader α) (s : String)
    (rest : Bytes) : readTextWith expected use ((text s).body ++ rest) = use s rest := by
  rw [text_append]
  show (readString _ >>= _) = _
  rw [readString_escaped, ok_bind]

theorem takes_readTextWith {expected : String} {use : String → Reader α} {s : String}
    (h : ∀ rest, use s rest = .ok (x, rest)) : Takes (readTextWith expected use) (text s) x where
  opens := opens_text s
  reads rest _ := by rw [readTextWith_text, h]

theorem takes_readText (s : String) : Takes readText (text s) s :=
  takes_readTextWith fun _ => rfl

/-- Different strings have different texts. -/
theorem body_text_injective {s t : String} (h : (text s).body = (text t).body) : s = t := by
  have hread := (takes_readText s).parseWith
  rw [h, (takes_readText t).parseWith] at hread
  exact (Except.ok.inj hread).symm

/-- A case is taken from its name. -/
theorem takes_readCase {cases : List (String × α)} {name : String}
    (h : Sorted.find? name cases = some x) (levels : Nat) :
    Takes (readCase levels cases) (text name) x where
  opens := opens_text name
  reads rest _ := by
    have hname : readCaseName cases ((text name).body ++ rest) = .ok (x, rest) := by
      unfold readCaseName
      rw [readTextWith_text, h]
    rw [text_append] at hname ⊢
    exact hname

/-- An optional value is taken where it is present, if its text is not taken for `null`. -/
theorem Takes.optional (h : Takes reader v x) (hnull : v.body.head? ≠ some 0x6E) :
    Takes (readOptional reader) v (some x) where
  opens := h.opens
  reads rest hrest := by
    obtain ⟨b, bs, hbody, hopens⟩ := h.opens
    have hread := h.reads rest hrest
    rw [hbody, List.cons_append] at hread ⊢
    unfold readOptional
    rw [skipSpace_cons hopens.1]
    split
    · next hword =>
      rw [hbody, List.head?_cons, (List.cons.inj hword).1] at hnull
      exact absurd rfl hnull
    · rw [hread, ok_bind]

theorem takes_readOptional_text (s : String) :
    Takes (readOptional readText) (text s) (some s) :=
  (takes_readText s).optional (by rw [body_text, List.head?_cons]; decide)

/-! ## Counts -/

theorem encodeChar_of_isDigit {c : Char} (h : isDigit c = true) :
    Utf8.encodeChar c = [.ofNat c.toNat] := by
  obtain ⟨-, hhigh⟩ := isDigit_iff.mp h
  exact Utf8.encodeChar_of_ascii (by omega)

theorem toNat_digitOctet {c : Char} (h : isDigit c = true) :
    (UInt8.ofNat c.toNat).toNat = c.toNat := by
  obtain ⟨-, hhigh⟩ := isDigit_iff.mp h
  exact Utf8.toNat_ofNat_of_lt (by omega)

theorem isDigitOctet_of_isDigit {c : Char} (h : isDigit c = true) :
    isDigitOctet (.ofNat c.toNat) = true := by
  obtain ⟨hlow, hhigh⟩ := isDigit_iff.mp h
  unfold isDigitOctet
  rw [Bool.and_eq_true, decide_eq_true_eq, decide_eq_true_eq, UInt8.le_iff_toNat_le,
    UInt8.le_iff_toNat_le, toNat_digitOctet h]
  exact ⟨hlow, hhigh⟩

/-- The octets of a number in digits. -/
def digitOctets (digits : List Char) : Bytes := digits.map fun c => .ofNat c.toNat

theorem encodeList_digits {digits : List Char} (hd : ∀ d ∈ digits, isDigit d = true) :
    Utf8.encodeList digits = digitOctets digits := by
  induction digits with
  | nil => rfl
  | cons d digits ih =>
    rw [Utf8.encodeList_cons, encodeChar_of_isDigit (hd d (.head _)),
      ih fun d h => hd d (.tail _ h)]
    rfl

theorem digitsValue_digitOctets {digits : List Char} (hd : ∀ d ∈ digits, isDigit d = true) :
    digitsValue (digitOctets digits) = readDigits 0 digits := by
  -- Both folds go on from the value of the digits before.
  have hfold (acc : Nat) :
      (digitOctets digits).foldl (fun n b => n * 10 + (b.toNat - 0x30)) acc =
        readDigits acc digits := by
    induction digits generalizing acc with
    | nil => rfl
    | cons d digits ih =>
      show List.foldl _ (acc * 10 + ((UInt8.ofNat d.toNat).toNat - 0x30)) (digitOctets digits) = _
      rw [toNat_digitOctet (hd d (.head _)), ih fun d h => hd d (.tail _ h)]
      rfl
  exact hfold 0

theorem body_nat (n : Nat) : (nat n).body = digitOctets (decimalDigits n) := by
  unfold body nat
  rw [write, writeNumber, signedDigits_natCast,
    encodeList_digits fun d hd => isDigit_of_mem_digits hd]

variable {rest : Bytes}

/-- Digits end where a value may end. -/
theorem span_digits {digits : List Char} (hd : ∀ d ∈ digits, isDigit d = true)
    (hrest : Delimits rest) :
    (digitOctets digits ++ rest).takeWhile isDigitOctet = digitOctets digits ∧
      (digitOctets digits ++ rest).dropWhile isDigitOctet = rest := by
  have hall : ∀ b ∈ digitOctets digits, isDigitOctet b = true := by
    intro b hb
    obtain ⟨d, hmem, rfl⟩ := List.mem_map.mp hb
    exact isDigitOctet_of_isDigit (hd d hmem)
  rw [List.takeWhile_append_of_pos hall, List.dropWhile_append_of_pos hall]
  cases hrest
  all_goals exact ⟨List.append_nil _, rfl⟩

theorem readNumberTail_of_delimits (hrest : Delimits rest) (negative : Bool) (whole : Bytes) :
    readNumberTail negative whole rest = wholeNumber negative whole rest := by
  cases hrest
  all_goals rfl

theorem digitsValue_body_nat (n : Nat) : digitsValue (nat n).body = n := by
  rw [body_nat, digitsValue_digitOctets fun d => isDigit_of_mem_digits, readDigits_decimalDigits]

/-- The digits of a number are all its whole digits. -/
theorem readNumber_body_nat (negative : Bool) (n : Nat) (hrest : Delimits rest) :
    readNumber negative ((nat n).body ++ rest) = wholeNumber negative (nat n).body rest := by
  have hd : ∀ d ∈ decimalDigits n, isDigit d = true := fun d => isDigit_of_mem_digits
  rw [body_nat]
  cases hdigits : decimalDigits n with
  | nil => exact absurd hdigits (decimalDigits_ne_nil n)
  | cons c digits =>
    rw [hdigits] at hd
    by_cases hzero : c = '0'
    · -- The reader takes a leading zero for the whole number, and it is.
      subst hzero
      rw [eq_nil_of_decimalDigits hdigits]
      have hread : readNumber negative (0x30 :: rest) = readNumberTail negative [0x30] rest := by
        cases hrest
        all_goals rfl
      exact hread.trans (readNumberTail_of_delimits hrest negative _)
    · have hcd : isDigit c = true := hd c (.head _)
      have hne : (UInt8.ofNat c.toNat) ≠ 0x30 := by
        intro h
        apply hzero
        rw [← Char.toNat_inj, ← toNat_digitOctet hcd, h]
        rfl
      obtain ⟨htake, hdrop⟩ := span_digits (fun d h => hd d (.tail _ h)) hrest
      show readNumber negative (.ofNat c.toNat :: (digitOctets digits ++ rest)) = _
      unfold readNumber
      dsimp only
      rw [if_neg hne, if_pos (isDigitOctet_of_isDigit hcd), htake, hdrop,
        readNumberTail_of_delimits hrest]
      rfl

/-- The digits of a number are read as the number. -/
theorem readNumber_nat {n : Nat} (h : n < wordLimit) (hrest : Delimits rest) :
    readNumber false ((nat n).body ++ rest) = .ok (.integer n, rest) := by
  rw [readNumber_body_nat false n hrest, wholeNumber, digitsValue_body_nat,
    if_neg Bool.false_ne_true, if_pos h]

/-- Behind a minus sign the digits of a number are read as its negation. -/
theorem readNumber_negative {n : Nat} (hn : n ≠ 0) (h : 2 * n ≤ wordLimit) (hrest : Delimits rest) :
    readNumber true ((nat n).body ++ rest) = .ok (.integer (-n), rest) := by
  rw [readNumber_body_nat true n hrest, wholeNumber, digitsValue_body_nat, if_pos rfl,
    if_pos ⟨hn, h⟩]

/-- The first octet of a number in digits is that of a digit. -/
theorem opens_nat (n : Nat) :
    ∃ b bs, (nat n).body = b :: bs ∧ Opens b ∧ isDigitOctet b = true ∧ b ≠ 0x2D := by
  rw [body_nat]
  cases hdigits : decimalDigits n with
  | nil => exact absurd hdigits (decimalDigits_ne_nil n)
  | cons c digits =>
    have hcd : isDigit c = true := isDigit_of_mem_digits (by rw [hdigits]; exact .head _)
    obtain ⟨hlow, hhigh⟩ := isDigit_iff.mp hcd
    have hne (b : UInt8) (h : b.toNat < 0x30 ∨ 0x39 < b.toNat) : UInt8.ofNat c.toNat ≠ b := by
      rintro rfl
      rw [toNat_digitOctet hcd] at h
      omega
    refine ⟨_, _, rfl, ⟨?_, hne _ (.inr ?_), hne _ (.inr ?_)⟩, isDigitOctet_of_isDigit hcd,
      hne _ (.inl ?_)⟩
    · unfold isSpace
      have hblank (b : UInt8) (h : b.toNat < 0x30) : (UInt8.ofNat c.toNat == b) = false :=
        beq_false_of_ne (hne b (.inl h))
      rw [hblank 0x20 (by decide), hblank 0x0A (by decide), hblank 0x0D (by decide),
        hblank 0x09 (by decide)]
      rfl
    all_goals decide

/-- A count is taken if it fits 64 bits. -/
theorem takes_readCountNumber {n : Nat} (h : n < wordLimit) : Takes readCountNumber (nat n) n where
  opens := by
    obtain ⟨b, bs, hbody, hopens, -, -⟩ := opens_nat n
    exact ⟨b, bs, hbody, hopens⟩
  reads rest hrest := by
    obtain ⟨b, bs, hbody, hopens, hdigit, hminus⟩ := opens_nat n
    have hnumber := readNumber_nat h hrest
    unfold readCountNumber
    rw [hbody, List.cons_append] at hnumber ⊢
    rw [skipSpace_cons hopens.1]
    dsimp only
    rw [if_neg hminus, if_pos hdigit, hnumber, ok_bind]
    rfl

/-! ## Lists -/

/-- Values with a comma before each. -/
def later (vs : List Json) : Bytes := vs.flatMap fun v => 0x2C :: v.body

theorem encodeList_writeItems (v : Json) (vs : List Json) :
    Utf8.encodeList (writeItems (v :: vs)) = v.body ++ later vs := by
  induction vs generalizing v with
  | nil =>
    rw [writeItems]
    exact (List.append_nil _).symm
  | cons w vs ih =>
    rw [writeItems, Utf8.encodeList_append, Utf8.encodeList_cons, ih]
    rfl

theorem later_delimits (vs : List Json) (rest : Bytes) : Delimits (later vs ++ 0x5D :: rest) := by
  cases vs with
  | nil => exact .bracket rest
  | cons v vs => exact .comma _

/-- The first item is taken. -/
theorem Takes.readItems_first {item : Reader α} (h : Takes item v x) {input : Bytes}
    (hinput : Delimits input) {fuel : Nat} {xs : List α}
    (hxs : readItems item fuel false input = .ok (xs, rest)) :
    readItems item (fuel + 1) true (v.body ++ input) = .ok (x :: xs, rest) := by
  obtain ⟨b, bs, hbody, hspace, hbracket, -⟩ := h.opens
  have hread := h.reads input hinput
  rw [hbody, List.cons_append] at hread ⊢
  rw [readItems, skipSpace_cons hspace]
  dsimp only
  rw [if_neg hbracket, if_pos rfl, hread, ok_bind]
  dsimp only
  rw [hxs, ok_bind]

/-- An item behind a comma is taken. -/
theorem Takes.readItems_next {item : Reader α} (h : Takes item v x) {input : Bytes}
    (hinput : Delimits input) {fuel : Nat} {xs : List α}
    (hxs : readItems item fuel false input = .ok (xs, rest)) :
    readItems item (fuel + 1) false (0x2C :: (v.body ++ input)) = .ok (x :: xs, rest) := by
  obtain ⟨b, bs, hbody, hspace, hbracket, -⟩ := h.opens
  have hread := h.reads input hinput
  rw [hbody, List.cons_append] at hread ⊢
  rw [readItems, skipSpace_cons rfl]
  dsimp only
  rw [if_neg (by decide), if_neg Bool.false_ne_true, if_pos rfl, skipSpace_cons hspace]
  dsimp only
  rw [if_neg hbracket, hread, ok_bind]
  dsimp only
  rw [hxs, ok_bind]

variable {json : α → Json}

/-- The items behind the first are taken, each behind its comma. -/
theorem readItems_later {item : Reader α} {xs : List α} (h : ∀ x ∈ xs, Takes item (json x) x)
    (rest : Bytes) :
    ∀ fuel, (later (xs.map json) ++ 0x5D :: rest).length < fuel →
      readItems item fuel false (later (xs.map json) ++ 0x5D :: rest) = .ok (xs, rest) := by
  intro fuel hfuel
  -- The fuel counts octets, and each item uses up its comma at least.
  induction xs generalizing fuel with
  | nil =>
    cases fuel with
    | zero => exact absurd hfuel (Nat.not_lt_zero _)
    | succ fuel => rfl
  | cons x xs ih =>
    have hlater : later ((x :: xs).map json) ++ 0x5D :: rest =
        0x2C :: ((json x).body ++ (later (xs.map json) ++ 0x5D :: rest)) := by
      rw [← List.append_assoc]
      rfl
    rw [hlater] at hfuel ⊢
    cases fuel with
    | zero => exact absurd hfuel (Nat.not_lt_zero _)
    | succ fuel =>
      refine (h x (.head _)).readItems_next (later_delimits _ rest)
        (ih (fun y hy => h y (.tail _ hy)) fuel ?_)
      simp only [List.length_cons, List.length_append] at hfuel ⊢
      omega

theorem body_array (vs : List Json) :
    (array vs).body = 0x5B :: (Utf8.encodeList (writeItems vs) ++ [0x5D]) := by
  unfold body
  rw [write, List.cons_append, Utf8.encodeList_cons, Utf8.encodeList_append]
  rfl

/-- **A list is taken if its items are.** -/
theorem Takes.list {xs : List α} {levels : Nat} {item : (levels : Nat) → Reader α}
    (h : ∀ x ∈ xs, Takes (item levels) (json x) x) :
    Takes (readList (levels + 1) item) (array (xs.map json)) xs where
  opens := ⟨_, _, body_array _, rfl, by decide, by decide⟩
  reads rest hrest := by
    rw [body_array, List.cons_append, List.append_assoc, List.singleton_append]
    show readItems (item levels) (_ + 1) true _ = _
    cases xs with
    | nil => rfl
    | cons x xs =>
      have hx := h x (.head _)
      obtain ⟨b, bs, hbody, -⟩ := hx.opens
      rw [List.map_cons, encodeList_writeItems, List.append_assoc]
      refine hx.readItems_first (later_delimits _ rest)
        (readItems_later (fun y hy => h y (.tail _ hy)) rest _ ?_)
      -- the first item is no empty text
      simp only [hbody, List.length_append, List.length_cons]
      omega

end ProbeGateway.Json
