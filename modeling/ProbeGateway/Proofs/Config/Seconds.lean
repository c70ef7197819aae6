import ProbeGateway.Proofs.Config.Values

/-!
# Numbers of seconds

A number of seconds is read as the number that its text spells, however long the text is, or not at
all (`seconds_neither_wrap`). Zero and numbers beyond 64 bits have refusals of their own.
-/

namespace ProbeGateway.Config

variable {name s : String}

/-- What the reader of counts refuses is refused for the same reason. -/
theorem readSeconds_eq_notCount {fault : CountFault} :
    readSeconds name s = .error ⟨name, s, .notCount fault⟩ ↔
      readCount wordLimit s = .error fault := by
  unfold readSeconds
  split
  · next h =>
    rw [h]
    exact iff_of_false nofun nofun
  · next h =>
    rw [h]
    exact iff_of_false nofun nofun
  · next h =>
    rw [h, Except.error.injEq, Except.error.injEq, ConfigError.mk.injEq, ConfigFault.notCount.injEq]
    simp only [true_and]

/-- A count of zero is refused, and nothing else is for that reason. -/
theorem readSeconds_eq_notPositive :
    readSeconds name s = .error ⟨name, s, .notPositive⟩ ↔ SpellsCount s 0 := by
  have hcount : readCount wordLimit s = .ok 0 ↔ SpellsCount s 0 ∧ 0 < wordLimit :=
    readCount_eq_ok (by decide)
  rw [and_iff_left (by decide)] at hcount
  rw [← hcount]
  unfold readSeconds
  split
  · next h => exact iff_of_true rfl h
  · next n hn h =>
    rw [h, Except.ok.injEq]
    exact iff_of_false nofun hn
  · next h =>
    rw [h]
    refine iff_of_false (fun hfault => ?_) nofun
    cases hfault

/-- **Seconds neither wrap nor are misread.** A text is taken for a number of seconds exactly if it
spells a number that is positive and fits 64 bits, and it is taken for that number. Zero is refused
as not positive. A text is refused as too large if the digits that it begins with are; of the texts
that spell a number these are the ones whose number does not fit. A text that spells no number is
refused, and every refusal has the name of the variable and the text as it stands. -/
theorem seconds_neither_wrap (name s : String) :
    let zero : ConfigError := ⟨name, s, .notPositive⟩
    let tooLarge : ConfigError := ⟨name, s, .notCount .tooLarge⟩
    let refusal := "invalid " ++ name ++ ": " ++ Quoted.quote s ++ ": "
    (∀ n, readSeconds name s = .ok n ↔ SpellsCount s n ∧ 1 ≤ n ∧ n ≤ 2 ^ 64 - 1) ∧
    (readSeconds name s = .error zero ↔ SpellsCount s 0) ∧
    (readSeconds name s = .error tooLarge ↔ Exceeds (2 ^ 64) s) ∧
    (∀ n, SpellsCount s n → (readSeconds name s = .error tooLarge ↔ 2 ^ 64 ≤ n)) ∧
    ((∀ n, ¬ SpellsCount s n) → ∃ fault,
      readSeconds name s = .error ⟨name, s, .notCount fault⟩) ∧
    (∀ e, readSeconds name s = .error e → e.name = name ∧ e.value = s) ∧
    zero.message = refusal ++ "must be positive" ∧
    tooLarge.message = refusal ++ "number too large to fit in target type" := by
  intro zero tooLarge refusal
  have hlimit : 0 < wordLimit := by decide
  have htooLarge : readSeconds name s = .error tooLarge ↔ Exceeds (2 ^ 64) s :=
    readSeconds_eq_notCount.trans (readCount_eq_tooLarge hlimit)
  refine ⟨fun n => ?_, readSeconds_eq_notPositive, htooLarge, fun n hn => ?_, fun hnone => ?_,
    fun e => reads_seconds.refused, rfl, rfl⟩
  · rw [reads_seconds.ok_iff, IsSeconds]
    have hbound : n ≤ 2 ^ 64 - 1 ↔ n < Nat.pow 2 64 := (Nat.lt_iff_le_pred (by decide)).symm
    rw [hbound]
  · exact htooLarge.trans (hn.exceeds_iff hlimit)
  · cases hcount : readCount wordLimit s with
    | error fault => exact ⟨fault, readSeconds_eq_notCount.mpr hcount⟩
    | ok n => exact absurd ((readCount_eq_ok hlimit).mp hcount).1 (hnone n)

/-- The greatest number is read behind a sign and zeros. The next one is refused as too large, with
or without a letter behind it, and zeros are refused as not positive. -/
theorem seconds_neither_wrap_limit :
    let name := "SHUTDOWN_TIMEOUT_SECS"
    readSeconds name "+0018446744073709551615" = .ok 18446744073709551615 ∧
      readSeconds name "18446744073709551616" =
        .error ⟨name, "18446744073709551616", .notCount .tooLarge⟩ ∧
      readSeconds name "18446744073709551616s" =
        .error ⟨name, "18446744073709551616s", .notCount .tooLarge⟩ ∧
      readSeconds name "000" = .error ⟨name, "000", .notPositive⟩ := by
  intro name
  have hgreatest : SpellsCount "+0018446744073709551615" 18446744073709551615 :=
    spellsCount_iff.mpr ⟨by decide +kernel, forall_mem_of_all (by decide +kernel),
      by decide +kernel⟩
  have hnext : SpellsCount "18446744073709551616" 18446744073709551616 :=
    spellsCount_iff.mpr ⟨by decide +kernel, forall_mem_of_all (by decide +kernel),
      by decide +kernel⟩
  have hletter : Exceeds (2 ^ 64) "18446744073709551616s" :=
    ⟨"18446744073709551616".toList, ['s'], .inl (by decide +kernel),
      forall_mem_of_all (by decide +kernel), by decide +kernel⟩
  have hzero : SpellsCount "000" 0 :=
    spellsCount_iff.mpr ⟨by decide +kernel, forall_mem_of_all (by decide +kernel),
      by decide +kernel⟩
  refine ⟨?_, ?_, ?_, ?_⟩
  · exact ((seconds_neither_wrap name _).1 _).mpr ⟨hgreatest, by decide, by decide⟩
  · exact ((seconds_neither_wrap name _).2.2.2.1 _ hnext).mpr (by decide)
  · exact (seconds_neither_wrap name _).2.2.1.mpr hletter
  · exact (seconds_neither_wrap name _).2.1.mpr hzero

end ProbeGateway.Config
