import ProbeGateway.Health.Rules
import ProbeGateway.Proofs.Time.Timestamp

/-!
# When a target was last checked

A target was last checked at the instant that the first alert of its rule names, or now
(`last_checked_as_spelled`). What counts is the instant and not how it is spelled: the one that
stands for "never" counts as absent in every spelling. The spellings are those of RFC 3339, and those
with the minus sign U+2212 for the hyphen of an offset (`last_checked_minus`).
-/

namespace ProbeGateway

open Instant

namespace Rule

/-- The first alert of a rule has a text for the time from which it has been active. -/
def BeganAt (members : List (String × Json)) (s : String) : Prop :=
  ∃ first more, Sorted.find? "alerts" members = some (.array (.object first :: more)) ∧
    Sorted.find? "activeAt" first = some (.text s)

variable {members : List (String × Json)} {s : String} {now : Instant} {c : HealthCheck}

/-- No instant is spelled by nothing, so that an empty text counts as absent either way. -/
theorem bind_activeInstant? (h : BeganAt members s) :
    (ofMembers members).activeAt.bind activeInstant? = activeInstant? s := by
  obtain ⟨first, more, halerts, hbegan⟩ := h
  have hfirst : firstAlert? members = some first := by
    unfold firstAlert?
    rw [halerts]
    rfl
  have htext : textUnder "activeAt" first = s := by
    unfold textUnder
    rw [hbegan]
    rfl
  show (alertText? "activeAt" members).bind activeInstant? = _
  unfold alertText?
  rw [hfirst, Option.map_some, htext]
  by_cases hs : s = ""
  · subst hs
    rfl
  · rw [Option.filter_some, if_pos (by simpa using hs), Option.bind_some]

theorem lastChecked_eq (hbegan : BeganAt members s)
    (hcheck : (ofMembers members).check? now = some c) :
    c.lastChecked = (activeInstant? s).getD now := by
  obtain ⟨target, -, rfl⟩ := Option.map_eq_some_iff.mp hcheck
  dsimp only
  rw [bind_activeInstant? hbegan]

/-- A timestamp is checked at its instant, and one for "never" is not. -/
theorem activeInstant?_of_means {p : Timestamp} {t : Instant} (hp : p.IsValid Zone.readMinus)
    (hs : s.toList = p.text) (ht : p.Means t) :
    (activeInstant? s).getD now = if t = .never then now else t := by
  unfold activeInstant?
  rw [Timestamp.parseStrict_eq_ok_iff.mpr ⟨p, hp, hs, ht⟩, Except.toOption, Option.filter_some]
  by_cases hnever : t = .never
  · simp [hnever]
  · simp [hnever]

theorem activeInstant?_of_no_timestamp
    (h : ∀ p : Timestamp, p.IsValid Zone.readMinus → s.toList ≠ p.text) :
    activeInstant? s = none := by
  unfold activeInstant?
  cases hread : Instant.parseStrict s with
  | error e => rfl
  | ok t =>
    obtain ⟨p, hp, hs, -⟩ := Timestamp.parseStrict_eq_ok_iff.mp hread
    exact absurd hs (h p hp)

/-- The timestamp of the instant that stands for "never". -/
def neverTimestamp : Timestamp := ⟨⟨1, 1, 1⟩, 'T', 0, 0, 0, [], .universal 'Z'⟩

/-- **A target was last checked at the instant that is spelled.** If the text is a timestamp, then
it means one instant, which has the date and the time of day that the offset carries the local ones
to, and is shown by them. A leap second is kept. Unless the instant is the one that stands for
"never", the target was checked then; and now otherwise, as where the text is no timestamp. So the
spellings of one instant come to the same. The timestamps are those of RFC 3339, and those that would
be with a hyphen in place of U+2212. -/
theorem last_checked_as_spelled (hbegan : BeganAt members s)
    (hcheck : (ofMembers members).check? now = some c) :
    (∀ p : Timestamp, p.IsValid Zone.readMinus → s.toList = p.text →
      ∃ t, (∀ t', p.Means t' ↔ t' = t) ∧
        (∃ date second, p.Carries date second ∧
          t.text = String.ofList (dateText date ++ 'T' :: timeText second t.nanos ++ ['Z'])) ∧
        (nanosPerSecond ≤ t.nanos ↔ p.second = 60) ∧
        c.lastChecked = if t = .never then now else t) ∧
    ((∀ p : Timestamp, p.IsValid Zone.readMinus → s.toList ≠ p.text) → c.lastChecked = now) ∧
    neverTimestamp.Means .never ∧
    (∀ members' s' c', BeganAt members' s' → (ofMembers members').check? now = some c' →
      ∀ p p' : Timestamp, ∀ t, p.IsValid Zone.readMinus → p'.IsValid Zone.readMinus →
        s.toList = p.text → s'.toList = p'.text → p.Means t → p'.Means t →
        c'.lastChecked = c.lastChecked) ∧
    ∀ (p : Timestamp) t mark zeros zone, p.Means t → zone.seconds = p.zone.seconds →
      ({ p with mark, fraction := p.fraction ++ List.replicate zeros '0', zone } :
        Timestamp).Means t := by
  have hchecked := lastChecked_eq hbegan hcheck
  refine ⟨fun p hp hs => ?_, fun hnone => ?_, ?_, ?_, ?_⟩
  · obtain ⟨t, hmeans⟩ := Timestamp.exists_means hp.civil
    have ht := (hmeans t).mpr rfl
    refine ⟨t, hmeans, ⟨_, _, ht.carries hp, rfl⟩, ht.leap_iff hp, ?_⟩
    rw [hchecked, activeInstant?_of_means hp hs ht]
  · rw [hchecked, activeInstant?_of_no_timestamp hnone, Option.getD_none]
  · exact (Timestamp.means_iff (by decide)).mpr (by decide)
  · intro members' s' c' hbegan' hcheck' p p' t hp hp' hs hs' ht ht'
    rw [hchecked, lastChecked_eq hbegan' hcheck', activeInstant?_of_means hp hs ht,
      activeInstant?_of_means hp' hs' ht']
  · exact fun p t mark zeros zone ht hzone => ht.respelled mark zeros hzone

/-- The minus sign in front of an offset is none of RFC 3339, and the instant is taken all the
same. -/
theorem last_checked_minus :
    let s := "2024-05-01T10:00:00\u221202:00"
    let members : List (String × Json) :=
      [("alerts", .array [.object [("activeAt", .text s)]]),
        ("labels", .object [("target", .text "a")])]
    BeganAt members s ∧ (∀ p : Timestamp, p.IsValid Zone.standardMinus → s.toList ≠ p.text) ∧
      ∃ c, (ofMembers members).check? .never = some c ∧ c.lastChecked ≠ .never ∧
        c.lastChecked.text = "2024-05-01T12:00:00Z" := by
  intro s members
  have hminus : '\u2212' ∈ s.toList := by decide +kernel
  refine ⟨⟨[("activeAt", .text s)], [], by decide +kernel, by decide +kernel⟩, fun p hp hs => ?_, ?_⟩
  · rw [hs] at hminus
    exact absurd (hp.text_ascii _ hminus) (by decide)
  · cases hcheck : (ofMembers members).check? .never with
    | none => exact absurd hcheck (by decide +kernel)
    | some c =>
      have hc : ((ofMembers members).check? .never).all fun c => decide (c.lastChecked ≠ .never ∧
          c.lastChecked.text = "2024-05-01T12:00:00Z") := by decide +kernel
      rw [hcheck] at hc
      exact ⟨c, rfl, of_decide_eq_true hc⟩

/-- A leap second in the first hour of March in local time ends a leap day. -/
theorem last_checked_as_spelled_leapDay :
    let s := "2000-03-01 00:59:60.50000000019+01:00"
    let members : List (String × Json) :=
      [("alerts", .array [.object [("activeAt", .text s)]]),
        ("labels", .object [("target", .text "a")])]
    BeganAt members s ∧
      ∃ c, (ofMembers members).check? .never = some c ∧
        c.lastChecked.text = "2000-02-29T23:59:60.500Z" := by
  intro s members
  have hbegan : BeganAt members s :=
    ⟨[("activeAt", .text s)], [], by decide +kernel, by decide +kernel⟩
  let p : Timestamp :=
    ⟨⟨2000, 3, 1⟩, ' ', 0, 59, 60, "50000000019".toList, .offset '+' 1 0⟩
  have hp : p.IsValid Zone.standardMinus := by
    refine ⟨⟨by decide, by decide, by decide, .inr (.inr rfl), by decide, by decide, by decide, ?_,
      .offset (.inl rfl) (by decide) (by decide)⟩, by decide⟩
    exact List.all_eq_true.mp (by decide +kernel)
  have hs : s.toList = p.text := by decide +kernel
  have ht : p.Means ⟨951868799, 1500000000⟩ :=
    (Timestamp.means_iff hp.civil).mpr (by decide +kernel)
  cases hcheck : (ofMembers members).check? .never with
  | none => exact absurd hcheck (by decide +kernel)
  | some c =>
    obtain ⟨hspelled, -⟩ := last_checked_as_spelled hbegan hcheck
    obtain ⟨t, hmeans, -, -, hlast⟩ := hspelled p hp.read hs
    refine ⟨hbegan, c, rfl, ?_⟩
    rw [hlast, ← (hmeans _).mp ht]
    decide +kernel

end Rule

end ProbeGateway
