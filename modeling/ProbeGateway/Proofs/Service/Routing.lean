import ProbeGateway.Proofs.Http.Template
import ProbeGateway.Proofs.Pipeline.Traffic
import ProbeGateway.Service.Api

/-!
# Where paths lead

A path of the public application leads to the template that it spells, or to the target or the
metric that it names behind the beginning of one (`Leads`); every other path leads nowhere
(`choose_eq_some_iff`). The paths of the main routes are `IsMainPath`; apart from those of the
probes they are all that lead anywhere (`isMainPath_iff`).
-/

namespace ProbeGateway.Api

/-! ## Templates -/

/-- The templates that stand for themselves only. -/
def literalTemplates : List String :=
  [healthTemplate, noTargetTemplate, alertsTemplate, noMetricTemplate] ++ probeTemplates

/-- The templates with a remainder, each with the beginning before it. -/
def openTemplates : List (String × String) :=
  [(noTargetTemplate, targetTemplate), (noMetricTemplate, metricTemplate)]

theorem mem_templates_iff {t : String} :
    t ∈ mainTemplates ++ probeTemplates ↔
      t ∈ literalTemplates ∨ ∃ beginning, (beginning, t) ∈ openTemplates := by
  simp only [mainTemplates, literalTemplates, openTemplates, List.mem_append, List.mem_cons,
    List.not_mem_nil, or_false, Prod.mk.injEq, exists_or, exists_eq_left]
  grind

/-- A route of the public application fetches at a main template, or is a probe. -/
theorem mem_routes {settings : ApiSettings} {route : Route} (h : route ∈ (app settings).routes) :
    (∃ t ∈ mainTemplates, ∃ action, route = fetching t action) ∨
      ∃ t ∈ probeTemplates, route = probe t := by
  rcases List.mem_append.mp h with hmain | hprobe
  · refine .inl ?_
    simp only [List.mem_cons, List.not_mem_nil, or_false] at hmain
    rcases hmain with rfl | rfl | rfl | rfl | rfl | rfl
    all_goals exact ⟨_, by decide +kernel, _, rfl⟩
  · obtain ⟨t, ht, rfl⟩ := List.mem_map.mp hprobe
    exact .inr ⟨t, ht, rfl⟩

theorem pieces_literal :
    ∀ t ∈ literalTemplates, Template.pieces t = t.toList.map .literal := by
  decide +kernel

theorem pieces_open :
    ∀ o ∈ openTemplates, Template.pieces o.2 = o.1.toList.map .literal ++ [.remainder] := by
  decide +kernel

/-! ## Paths -/

/-- A path leads to a template, and its end is what the remainder of the template stands for. -/
inductive Leads : (path template : String) → (parts : List String) → Prop
  | literal {t : String} (h : t ∈ literalTemplates) : Leads t t []
  | behind {beginning t rest : String} (h : (beginning, t) ∈ openTemplates) (hr : rest ≠ "") :
      Leads (beginning ++ rest) t [rest]

/-- No other template fits a path with something behind the beginning of one. -/
theorem choose_behind {beginning t rest : String} (h : (beginning, t) ∈ openTemplates)
    (hr : rest ≠ "") :
    Template.choose (beginning ++ rest).toList (mainTemplates ++ probeTemplates) =
      some (t, [rest]) := by
  rw [String.toList_append]
  have hrest : rest.toList ≠ [] := fun e => hr (String.toList_eq_nil_iff.mp e)
  apply Template.choose_of_only (mem_templates_iff.mpr (.inr ⟨beginning, h⟩))
  · rw [pieces_open _ h, Template.match?_beginning, if_neg (by simpa using hrest),
      String.ofList_toList]
  · intro u hu hne
    have hbegins : beginning.toList <+: beginning.toList ++ rest.toList := List.prefix_append _ _
    rcases mem_templates_iff.mp hu with hu | ⟨other, hu⟩
    · rw [pieces_literal u hu, Template.match?_literals]
      split
      · next he =>
        -- Only the beginning itself is a literal template that begins so.
        have honly : ∀ o ∈ openTemplates, ∀ u ∈ literalTemplates,
            o.1.toList <+: u.toList → u = o.1 := by decide +kernel
        rw [he] at hbegins
        rw [honly _ h u hu hbegins] at he
        exact absurd (List.append_right_eq_self.mp he) hrest
      · rfl
    · rw [pieces_open _ hu]
      apply Template.match?_of_not_prefix
      intro hother
      have honly : ∀ o ∈ openTemplates, ∀ p ∈ openTemplates,
          o.1.toList <+: p.1.toList ∨ p.1.toList <+: o.1.toList → o.2 = p.2 := by decide +kernel
      exact hne (honly _ hu _ h (List.prefix_or_prefix_of_prefix hother hbegins))

/-- **Where a path leads.** -/
theorem choose_eq_some_iff {path t : String} {parts : List String} :
    Template.choose path.toList (mainTemplates ++ probeTemplates) = some (t, parts) ↔
      Leads path t parts := by
  constructor
  · intro h
    obtain ⟨hmem, hfits⟩ := Template.fits_of_choose h
    rcases mem_templates_iff.mp hmem with hlit | ⟨beginning, hopen⟩
    · rw [pieces_literal t hlit, Template.match?_literals] at hfits
      split at hfits
      · next he =>
        rw [← Option.some.inj hfits, String.toList_inj.mp he]
        exact .literal hlit
      · exact absurd hfits (by simp)
    · rw [pieces_open _ hopen] at hfits
      by_cases hp : beginning.toList <+: path.toList
      · obtain ⟨rest, hrest⟩ := hp
        rw [← hrest, Template.match?_beginning] at hfits
        split at hfits
        · exact absurd hfits (by simp)
        · next hne =>
          have hpath : path = beginning ++ String.ofList rest := by
            rw [← String.toList_inj, String.toList_append, String.toList_ofList, hrest]
          rw [← Option.some.inj hfits, hpath]
          refine .behind hopen fun e => hne ?_
          rw [← String.toList_inj, String.toList_ofList] at e
          simpa using e
      · rw [Template.match?_of_not_prefix hp] at hfits
        exact absurd hfits (by simp)
  · intro h
    cases h with
    | literal hlit =>
      have hself : ∀ t ∈ literalTemplates,
          Template.choose t.toList (mainTemplates ++ probeTemplates) = some (t, []) := by
        decide +kernel
      exact hself _ hlit
    | behind hopen hr => exact choose_behind hopen hr

/-- A path that begins like an open template leads there, or to the beginning if nothing is behind
it; its parameter is the same as if the template were open to that, too. -/
theorem leads_behind {beginning t : String} (hopen : (beginning, t) ∈ openTemplates)
    (rest : String) :
    ∃ u ∈ [beginning, t], ∃ parts, Leads (beginning ++ rest) u parts ∧
      (parts.head?.bind Percent.segmentText?).getD "" = (Percent.segmentText? rest).getD "" := by
  by_cases hr : rest = ""
  · subst hr
    have hliteral : ∀ o ∈ openTemplates, o.1 ∈ literalTemplates := by decide +kernel
    rw [String.append_empty]
    exact ⟨beginning, .head _, [], .literal (hliteral _ hopen), by decide +kernel⟩
  · exact ⟨t, .tail _ (.head _), [rest], .behind hopen hr, rfl⟩

theorem mem_mainTemplates_of_open :
    ∀ o ∈ openTemplates, ∀ u ∈ [o.1, o.2], u ∈ mainTemplates := by
  decide +kernel

/-- The paths of the main routes: those of all checks and of all alerts, and those that begin like
a target or a metric. -/
def IsMainPath (path : String) : Prop :=
  path = healthTemplate ∨ path = alertsTemplate ∨
    (∃ rest, path = noTargetTemplate ++ rest) ∨ ∃ rest, path = noMetricTemplate ++ rest

/-- Apart from the probes, just these paths lead to a template, and that of a main route. -/
theorem isMainPath_iff {path : String} (hp : path ∉ probeTemplates) :
    IsMainPath path ↔ ∃ t ∈ mainTemplates, ∃ parts, Leads path t parts := by
  constructor
  · have behind {beginning t : String} (hopen : (beginning, t) ∈ openTemplates) (rest : String) :
        ∃ t ∈ mainTemplates, ∃ parts, Leads (beginning ++ rest) t parts := by
      obtain ⟨u, hu, parts, hleads, -⟩ := leads_behind hopen rest
      exact ⟨u, mem_mainTemplates_of_open _ hopen u hu, parts, hleads⟩
    rintro (rfl | rfl | ⟨rest, rfl⟩ | ⟨rest, rfl⟩)
    · exact ⟨_, by decide +kernel, _, .literal (by decide +kernel)⟩
    · exact ⟨_, by decide +kernel, _, .literal (by decide +kernel)⟩
    · exact behind (t := targetTemplate) (.head _) rest
    · exact behind (t := metricTemplate) (.tail _ (.head _)) rest
  · rintro ⟨t, -, parts, hleads⟩
    cases hleads with
    | literal hlit =>
      rcases List.mem_append.mp hlit with hmain | hprobe
      · simp only [List.mem_cons, List.not_mem_nil, or_false] at hmain
        rcases hmain with rfl | rfl | rfl | rfl
        · exact .inl rfl
        · exact .inr (.inr (.inl ⟨"", (String.append_empty).symm⟩))
        · exact .inr (.inl rfl)
        · exact .inr (.inr (.inr ⟨"", (String.append_empty).symm⟩))
      · exact absurd hprobe hp
    | @behind _ _ rest hopen hr =>
      simp only [openTemplates, List.mem_cons, Prod.mk.injEq, List.not_mem_nil, or_false] at hopen
      rcases hopen with ⟨rfl, -⟩ | ⟨rfl, -⟩
      · exact .inr (.inr (.inl ⟨rest, rfl⟩))
      · exact .inr (.inr (.inr ⟨rest, rfl⟩))

end ProbeGateway.Api
