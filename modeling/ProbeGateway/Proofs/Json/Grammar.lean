import Mathlib.Data.List.DropRight
import ProbeGateway.Proofs.Json.Skip

/-!
# The grammar of texts

What stands at the front of a text is told by a grammar on octets: a value (`ValueText`) is a scalar
or has brackets, and in brackets there is some number of elements (`Elements`). A string is plain
octets and escapes; whether these are Unicode is no matter of the grammar, and neither is how deep
brackets nest.

1. Blanks before a value do not matter (`ValueText.of_skipSpace_eq`).
2. A value ends in one place (`ValueText.unique`): its first octet tells its form, and an element
   does not begin where a bracket is closed (`ValueText.ne_close`).
3. Strings and words that are read or skipped are those of the grammar (`stringText_of_readString`,
   `stringText_of_skipString`).
4. What is skipped is a value (`valueText_of_skipValue`). Skipping goes by the brackets that are
   open, and what is left of its fuel carries the induction (`Skips`).
-/

namespace ProbeGateway.Json

/-! ## The grammar -/

/-- A string goes on at the front, up to its closing quote. -/
inductive StringText : (input rest : Bytes) → Prop
  | close (rest : Bytes) : StringText (0x22 :: rest) rest
  | plain {b : UInt8} {input rest : Bytes} (hquote : b ≠ 0x22) (hback : b ≠ 0x5C)
      (hcontrol : ¬ b < 0x20) (h : StringText input rest) : StringText (b :: input) rest
  | escape {input mid rest : Bytes} (hescape : skipEscape input = .ok mid)
      (h : StringText mid rest) : StringText (0x5C :: input) rest

/-- A value without brackets is at the front. -/
inductive ScalarText : (input rest : Bytes) → Prop
  | null (rest : Bytes) : ScalarText (0x6E :: (octets "ull" ++ rest)) rest
  | true (rest : Bytes) : ScalarText (0x74 :: (octets "rue" ++ rest)) rest
  | false (rest : Bytes) : ScalarText (0x66 :: (octets "alse" ++ rest)) rest
  | negative {input rest : Bytes} (h : skipNumber input = .ok rest) :
    ScalarText (0x2D :: input) rest
  | number {b : UInt8} {input rest : Bytes} (hdigit : isDigitOctet b = Bool.true)
      (h : skipNumber (b :: input) = .ok rest) : ScalarText (b :: input) rest
  | text {input rest : Bytes} (h : StringText input rest) : ScalarText (0x22 :: input) rest

/-- An element begins: at once if it is the first, and behind a comma if it is not. -/
inductive Begins (input : Bytes) : (first : Bool) → (start : Bytes) → Prop
  | now : Begins input true input
  | behindComma {start : Bytes} (h : skipSpace input = 0x2C :: start) : Begins input false start

/-- The octet that opens a bracket. -/
def Bracket.opening : Bracket → UInt8
  | array => 0x5B
  | object => 0x7B

mutual

/-- A value is at the front, behind blanks. -/
inductive ValueText : (input rest : Bytes) → Prop
  | scalar {input rest : Bytes} (h : ScalarText (skipSpace input) rest) : ValueText input rest
  | bracketed {bracket : Bracket} {count : Nat} {input behind rest : Bytes}
      (hopen : skipSpace input = bracket.opening :: behind)
      (h : Elements bracket count true behind rest) : ValueText input rest

/-- So many elements are at the front, and the closing bracket behind them. -/
inductive Elements : Bracket → (count : Nat) → (first : Bool) → (input rest : Bytes) → Prop
  | close {bracket : Bracket} {first : Bool} {input rest : Bytes}
      (h : skipSpace input = bracket.close :: rest) : Elements bracket 0 first input rest
  | item {count : Nat} {first : Bool} {input start mid rest : Bytes}
      (hbegins : Begins input first start) (hvalue : ValueText start mid)
      (h : Elements .array count false mid rest) : Elements .array (count + 1) first input rest
  | member {count : Nat} {first : Bool} {input start key behind value mid rest : Bytes}
      (hbegins : Begins input first start) (hquote : skipSpace start = 0x22 :: key)
      (hkey : StringText key behind) (hcolon : skipSpace behind = 0x3A :: value)
      (hvalue : ValueText value mid) (h : Elements .object count false mid rest) :
    Elements .object (count + 1) first input rest

end

/-- Octets are the text of an array or object with so many elements, with blanks around it. -/
def IsTextOf (bracket : Bracket) (count : Nat) (input : Bytes) : Prop :=
  ∃ behind rest, skipSpace input = bracket.opening :: behind ∧
    Elements bracket count true behind rest ∧ ∀ b ∈ rest, isSpace b = true

variable {input start behind rest : Bytes} {bracket : Bracket} {count : Nat}
  {first : Bool}

/-! ## Blanks -/

theorem skipSpace_skipSpace (input : Bytes) : skipSpace (skipSpace input) = skipSpace input :=
  List.dropWhile_idempotent _ input

/-- It does not matter where the blanks before a value begin. -/
theorem ValueText.of_skipSpace_eq {input' : Bytes} (hspace : skipSpace input = skipSpace input')
    (h : ValueText input rest) : ValueText input' rest := by
  cases h with
  | scalar h =>
    rw [hspace] at h
    exact .scalar h
  | bracketed hopen h =>
    rw [hspace] at hopen
    exact .bracketed hopen h

theorem ValueText.array (hopen : skipSpace input = 0x5B :: behind)
    (h : Elements .array count true behind rest) : ValueText input rest := by
  have hopening : skipSpace input = Bracket.array.opening :: behind := hopen
  exact .bracketed hopening h

theorem ValueText.object (hopen : skipSpace input = 0x7B :: behind)
    (h : Elements .object count true behind rest) : ValueText input rest := by
  have hopening : skipSpace input = Bracket.object.opening :: behind := hopen
  exact .bracketed hopening h

/-- Readers begin an element behind the blanks before it. -/
theorem Starts.begins (h : Starts bracket input first start) :
    ∃ before, Begins input first before ∧ skipSpace before = skipSpace start := by
  cases h with
  | now h => exact ⟨_, .now, by rw [← h, skipSpace_skipSpace]⟩
  | behindComma hcomma h =>
    exact ⟨_, .behindComma hcomma, by rw [← h, skipSpace_skipSpace]⟩

/-! ## What stands at the front stands there alone -/

theorem StringText.unique (h : StringText input rest) {rest' : Bytes}
    (h' : StringText input rest') : rest = rest' := by
  induction h with
  | close =>
    cases h' with
    | close => rfl
    | plain hquote => exact absurd rfl hquote
  | plain hquote hback _ _ ih =>
    cases h' with
    | close => exact absurd rfl hquote
    | plain _ _ _ h' => exact ih h'
    | escape => exact absurd rfl hback
  | escape hescape _ ih =>
    cases h' with
    | plain _ hback => exact absurd rfl hback
    | escape hescape' h' =>
      cases hescape.symm.trans hescape'
      exact ih h'

theorem ScalarText.unique (h : ScalarText input rest) {rest' : Bytes}
    (h' : ScalarText input rest') : rest = rest' := by
  generalize hinput : input = input' at h'
  -- The first octet tells the forms apart.
  cases h <;> cases h' <;> first
    | exact List.append_cancel_left (List.cons.inj hinput).2
    | grind [isDigitOctet, StringText.unique]

/-- No scalar begins with a bracket. -/
theorem ScalarText.ne_opening (h : ScalarText input rest) : input ≠ bracket.opening :: behind := by
  cases bracket <;> cases h <;> grind [isDigitOctet, Bracket.opening]

theorem ScalarText.ne_close (h : ScalarText input rest) : input ≠ bracket.close :: behind := by
  cases bracket <;> cases h <;> grind [isDigitOctet, Bracket.close]

theorem Bracket.opening_injective {bracket' : Bracket} (h : bracket.opening = bracket'.opening) :
    bracket = bracket' := by
  cases bracket <;> cases bracket' <;> first | rfl | exact absurd h (by decide)

theorem Bracket.opening_ne_close {bracket' : Bracket} : bracket.opening ≠ bracket'.close := by
  cases bracket <;> cases bracket' <;> decide

/-- No value begins where a bracket is closed. -/
theorem ValueText.ne_close (h : ValueText input rest) :
    skipSpace input ≠ bracket.close :: behind := by
  cases h with
  | scalar h => exact h.ne_close
  | bracketed hopen =>
    rw [hopen]
    exact fun hclose => Bracket.opening_ne_close (List.cons.inj hclose).1

/-- An element begins in one place. -/
theorem Begins.unique (h : Begins input first start) {start' : Bytes}
    (h' : Begins input first start') : start = start' := by
  cases h with
  | now =>
    cases h'
    rfl
  | behindComma hcomma =>
    cases h' with
    | behindComma hcomma' =>
      cases hcomma.symm.trans hcomma'
      rfl

/-- No element begins where the bracket is closed. -/
theorem Begins.ne_close (h : Begins input first start)
    (hstart : skipSpace start ≠ bracket.close :: behind) :
    skipSpace input ≠ bracket.close :: behind := by
  cases h with
  | now => exact hstart
  | behindComma hcomma =>
    rw [hcomma]
    cases bracket <;> exact fun hclose => absurd (List.cons.inj hclose).1 (by decide)

/-- **A value ends in one place**, by induction on one of two derivations. -/
theorem ValueText.unique (h : ValueText input rest) {rest' : Bytes} (h' : ValueText input rest') :
    rest = rest' := by
  revert rest'
  refine @ValueText.rec
    (fun input rest _ => ∀ {rest'}, ValueText input rest' → rest = rest')
    (fun bracket _ first input rest _ => ∀ {count' rest'},
      Elements bracket count' first input rest' → rest = rest')
    ?scalar ?bracketed ?close ?item ?member input rest h
  case scalar =>
    intro input rest h rest' h'
    cases h' with
    | scalar h' => exact h.unique h'
    | bracketed hopen => exact absurd hopen h.ne_opening
  case bracketed =>
    intro bracket count input behind rest hopen h ih rest' h'
    cases h' with
    | scalar h' => exact absurd hopen h'.ne_opening
    | bracketed hopen' h' =>
      obtain ⟨hbracket, rfl⟩ := List.cons.inj (hopen.symm.trans hopen')
      obtain rfl := Bracket.opening_injective hbracket
      exact ih h'
  case close =>
    intro bracket first input rest hclose count' rest' h'
    cases h' with
    | close hclose' =>
      cases hclose.symm.trans hclose'
      rfl
    | item hbegins hvalue => exact absurd hclose (hbegins.ne_close hvalue.ne_close)
    | member hbegins hquote => exact absurd hclose (hbegins.ne_close (by rw [hquote]; nofun))
  case item =>
    intro count first input start mid rest hbegins hvalue h ihValue ih count' rest' h'
    cases h' with
    | close hclose => exact absurd hclose (hbegins.ne_close hvalue.ne_close)
    | item hbegins' hvalue' h' =>
      obtain rfl := hbegins.unique hbegins'
      obtain rfl := ihValue hvalue'
      exact ih h'
  case member =>
    intro count first input start key behind value mid rest hbegins hquote hkey hcolon hvalue h
      ihValue ih count' rest' h'
    cases h' with
    | close hclose => exact absurd hclose (hbegins.ne_close (by rw [hquote]; nofun))
    | member hbegins' hquote' hkey' hcolon' hvalue' h' =>
      obtain rfl := hbegins.unique hbegins'
      cases hquote.symm.trans hquote'
      obtain rfl := hkey.unique hkey'
      cases hcolon.symm.trans hcolon'
      obtain rfl := ihValue hvalue'
      exact ih h'

/-! ## Scalars -/

theorem append_of_readWord {word : Bytes} (h : readWord word input = .ok rest) :
    input = word ++ rest := by
  induction word generalizing input with
  | nil =>
    cases h
    rfl
  | cons w word ih =>
    cases input with
    | nil => cases h
    | cons b input =>
      rw [readWord] at h
      split at h
      · next hb => rw [hb, ih h, List.cons_append]
      · cases h

theorem scalarText_null (h : readWord (octets "ull") input = .ok rest) :
    ScalarText (0x6E :: input) rest := by
  rw [append_of_readWord h]
  exact .null rest

theorem scalarText_true (h : readWord (octets "rue") input = .ok rest) :
    ScalarText (0x74 :: input) rest := by
  rw [append_of_readWord h]
  exact .true rest

theorem scalarText_false (h : readWord (octets "alse") input = .ok rest) :
    ScalarText (0x66 :: input) rest := by
  rw [append_of_readWord h]
  exact .false rest

theorem stringText_of_skipString {fuel : Nat} (h : skipString fuel input = .ok rest) :
    StringText input rest := by
  induction fuel generalizing input with
  | zero => cases h
  | succ fuel ih =>
    cases input with
    | nil => cases h
    | cons b input =>
      rw [skipString] at h
      split at h
      · next hquote =>
        cases h
        rw [hquote]
        exact .close rest
      next hquote =>
      split at h
      · next hback =>
        obtain ⟨mid, hescape, h⟩ := bind_eq_ok.mp h
        rw [hback]
        exact .escape hescape (ih h)
      next hback =>
      split at h
      · cases h
      · next hcontrol => exact .plain hquote hback hcontrol (ih h)

theorem stringText_of_readStringOctets {fuel : Nat} {content : Bytes}
    (h : readStringOctets fuel input = .ok (content, rest)) : StringText input rest := by
  induction fuel generalizing input content with
  | zero => cases h
  | succ fuel ih =>
    cases input with
    | nil => cases h
    | cons b input =>
      rw [readStringOctets] at h
      split at h
      · next hquote =>
        cases h
        rw [hquote]
        exact .close rest
      next hquote =>
      split at h
      · next hback =>
        obtain ⟨⟨c, mid⟩, hread, h⟩ := bind_eq_ok.mp h
        obtain ⟨⟨tail, _⟩, hrest, h⟩ := bind_eq_ok.mp h
        cases h
        rw [hback]
        rcases skipEscape_of_readEscape hread with hone | ⟨tail, hfirst, hsecond⟩
        · exact .escape hone (ih hrest)
        · exact .escape hfirst (.escape hsecond (ih hrest))
      next hback =>
      split at h
      · cases h
      · next hcontrol =>
        obtain ⟨⟨tail, _⟩, hrest, h⟩ := bind_eq_ok.mp h
        cases h
        exact .plain hquote hback hcontrol (ih hrest)

theorem stringText_of_readString {s : String} (h : readString input = .ok (s, rest)) :
    StringText input rest := by
  obtain ⟨content, hcontent⟩ := readStringOctets_of_readString h
  exact stringText_of_readStringOctets hcontent

theorem stringText_of_readKey {key : String} (h : readKey start = .ok (key, rest)) :
    ∃ text, start = 0x22 :: text ∧ StringText text rest := by
  unfold readKey at h
  split at h
  · cases h
  next b text =>
  split at h
  · next hquote => exact ⟨text, by rw [hquote], stringText_of_readString h⟩
  · cases h

theorem skipSpace_of_readColon (h : readColon input = .ok rest) :
    skipSpace input = 0x3A :: rest := by
  unfold readColon at h
  split at h
  · cases h
  next b behind hspace =>
  split at h
  · next hcolon =>
    cases h
    rw [hspace, hcolon]
  · cases h

/-! ## Values that are skipped -/

/-- What skipping does with so much fuel: it passes a value, and it passes the elements that are
left of a bracket. Either way it goes on behind them with less fuel. -/
structure Skips (fuel : Nat) : Prop where
  value : ∀ {opened input final}, skipFrom fuel opened input = .ok final →
    ∃ mid, ValueText input mid ∧ ∃ fuel' < fuel, skipRest fuel' true opened mid = .ok final
  elements : ∀ {bracket outer afterValue input final},
    skipRest fuel afterValue (bracket :: outer) input = .ok final →
      ∃ count mid, Elements bracket count (!afterValue) input mid ∧
        ∃ fuel' < fuel, skipRest fuel' true outer mid = .ok final

variable {fuel : Nat} {final : Bytes}

/-- A value is passed in one step, or its brackets by way of their elements. -/
theorem value_of_skipFrom (ih : ∀ fuel' < fuel + 1, Skips fuel') {opened : List Bracket}
    (h : skipFrom (fuel + 1) opened input = .ok final) :
    ∃ mid, ValueText input mid ∧ ∃ fuel' < fuel + 1, skipRest fuel' true opened mid = .ok final := by
  have hscalar {skipped : Except Fault Bytes}
      (hskipped : ∀ mid, skipped = .ok mid → ScalarText (skipSpace input) mid)
      (h : (skipped >>= skipRest fuel true opened) = .ok final) :
      ∃ mid, ValueText input mid ∧
        ∃ fuel' < fuel + 1, skipRest fuel' true opened mid = .ok final := by
    obtain ⟨mid, hmid, h⟩ := bind_eq_ok.mp h
    exact ⟨mid, .scalar (hskipped mid hmid), fuel, fuel.lt_succ_self, h⟩
  have hbracket (bracket : Bracket) {behind : Bytes}
      (hopen : skipSpace input = bracket.opening :: behind)
      (h : skipRest fuel false (bracket :: opened) behind = .ok final) :
      ∃ mid, ValueText input mid ∧
        ∃ fuel' < fuel + 1, skipRest fuel' true opened mid = .ok final := by
    obtain ⟨count, mid, helements, fuel', hlt, h⟩ := (ih fuel fuel.lt_succ_self).elements h
    exact ⟨mid, .bracketed hopen helements, fuel', hlt.trans fuel.lt_succ_self, h⟩
  rw [skipFrom] at h
  split at h
  · cases h
  next b behind hspace =>
  rw [hspace] at hscalar
  split at h
  · next hb =>
    subst hb
    exact hscalar (fun mid => scalarText_null) h
  split at h
  · next hb =>
    subst hb
    exact hscalar (fun mid => scalarText_true) h
  split at h
  · next hb =>
    subst hb
    exact hscalar (fun mid => scalarText_false) h
  split at h
  · next hb =>
    subst hb
    exact hscalar (fun mid => .negative) h
  split at h
  · next hdigit => exact hscalar (fun mid => .number hdigit) h
  split at h
  · next hb =>
    subst hb
    exact hscalar (fun mid hmid => .text (stringText_of_skipString hmid)) h
  split at h
  · next hb =>
    subst hb
    exact hbracket .array hspace h
  split at h
  · next hb =>
    subst hb
    exact hbracket .object hspace h
  · cases h

/-- An element is passed, behind its key in an object, and then the others. -/
theorem elements_of_skipToItem (ih : ∀ fuel' < fuel + 1, Skips fuel') {outer : List Bracket}
    (hbegins : Begins input first start) {before : Bytes}
    (hspace : skipSpace before = skipSpace start)
    (h : (skipToItem bracket before >>= skipFrom fuel (bracket :: outer)) = .ok final) :
    ∃ count mid, Elements bracket count first input mid ∧
      ∃ fuel' < fuel + 1, skipRest fuel' true outer mid = .ok final := by
  obtain ⟨value, hitem, hfrom⟩ := bind_eq_ok.mp h
  obtain ⟨mid, hvalue, fuel', hlt, hothers⟩ := (ih fuel fuel.lt_succ_self).value hfrom
  obtain ⟨count, rest, helements, fuel'', hlt', hrest⟩ :=
    (ih fuel' (hlt.trans fuel.lt_succ_self)).elements hothers
  have hless : fuel'' < fuel + 1 := (hlt'.trans hlt).trans fuel.lt_succ_self
  suffices hone : Elements bracket (count + 1) first input rest from
    ⟨count + 1, rest, hone, fuel'', hless, hrest⟩
  cases bracket with
  | array =>
    obtain rfl : before = value := Except.ok.inj hitem
    exact .item hbegins (hvalue.of_skipSpace_eq hspace) helements
  | object =>
    rw [skipToItem, skipKey, hspace] at hitem
    split at hitem
    · cases hitem
    next b key hkeyStart =>
    split at hitem
    · next hquote =>
      obtain ⟨behind, hkey, hcolon⟩ := bind_eq_ok.mp hitem
      rw [hquote] at hkeyStart
      exact .member hbegins hkeyStart (stringText_of_skipString hkey)
        (skipSpace_of_readColon hcolon) hvalue helements
    · cases hitem

theorem elements_of_skipRest (ih : ∀ fuel' < fuel + 1, Skips fuel') {outer : List Bracket}
    {afterValue : Bool}
    (h : skipRest (fuel + 1) afterValue (bracket :: outer) input = .ok final) :
    ∃ count mid, Elements bracket count (!afterValue) input mid ∧
      ∃ fuel' < fuel + 1, skipRest fuel' true outer mid = .ok final := by
  rw [skipRest] at h
  split at h
  · cases h
  next b behind hspace =>
  split at h
  · next hcomma =>
    rw [Bool.and_eq_true, beq_iff_eq] at hcomma
    obtain ⟨rfl, rfl⟩ := hcomma
    exact elements_of_skipToItem ih (.behindComma hspace) rfl h
  split at h
  · next hclose =>
    rw [hclose] at hspace
    exact ⟨0, behind, .close hspace, fuel, fuel.lt_succ_self, h⟩
  split at h
  · cases h
  · next hfirst =>
    cases Bool.eq_false_iff.mpr hfirst
    rw [← hspace] at h
    exact elements_of_skipToItem ih .now (skipSpace_skipSpace input) h

/-- Skipping passes values and elements, by induction on the fuel. -/
theorem skips (fuel : Nat) : Skips fuel := by
  induction fuel using Nat.strongRecOn with
  | ind fuel ih =>
    cases fuel with
    | zero => exact ⟨(nomatch ·), (nomatch ·)⟩
    | succ fuel => exact ⟨value_of_skipFrom ih, elements_of_skipRest ih⟩

/-- What is skipped is a value. -/
theorem valueText_of_skipValue (h : skipValue input = .ok rest) : ValueText input rest := by
  obtain ⟨mid, hvalue, fuel, -, hrest⟩ := (skips _).value h
  cases fuel with
  | zero => cases hrest
  | succ fuel =>
    cases hrest
    exact hvalue

end ProbeGateway.Json
