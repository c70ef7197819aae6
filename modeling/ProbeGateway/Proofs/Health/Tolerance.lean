import Mathlib.Control.Monad.Basic
import Mathlib.Logic.Relation
import ProbeGateway.Proofs.Health.Views
import ProbeGateway.Proofs.Sorted

/-!
# What the walk of a payload passes over

`Edit` is one edit of the value at a place of a payload: something that the walk ignores is put in,
something that it reads as missing is put in another form, or rules move from one group to the next.
An edit of a value is an edit of what holds the value.

1. An edit leaves what is read at its place (`Edit.same`, by induction on the place of the edit).
2. Payloads that differ by edits, made or taken back, have the same rules (`Edits.ofPayload_eq`).
3. So the three answers of a store are the same for both, and none of them fails but for a target
   that is absent (`walk_tolerant`).
-/

namespace ProbeGateway

namespace Rule

open Sorted (find?)

/-! ## Places -/

/-- The places of a payload that the walk comes to. -/
inductive Place
  | payload
  | data
  | groups
  | group
  | rules
  | rule
  /-- Labels, or annotations. -/
  | texts
  | alerts
  | firstAlert

namespace Place

/-- The place under a key of an object. -/
inductive Under : Place → String → Place → Prop
  | data : Under payload "data" data
  | groups : Under data "groups" groups
  | rules : Under group "rules" rules
  | labels : Under rule "labels" texts
  | annotations : Under rule "annotations" texts
  | alerts : Under rule "alerts" alerts

/-- The place of each item of an array. -/
inductive Among : Place → Place → Prop
  | groups : Among groups group
  | rules : Among rules rule

/-- The keys of a rule that the walk reads. -/
def ruleKeys : List String := ["name", "state", "labels", "annotations", "alerts"]

/-- The keys of an alert that the walk reads. -/
def alertKeys : List String := ["activeAt", "value"]

/-- A member of an object that the walk ignores. -/
def Ignores : Place → String → Json → Prop
  | payload, key, _ => key ≠ "data"
  | data, key, _ => key ≠ "groups"
  | group, key, _ => key ≠ "rules"
  | rule, key, _ => key ∉ ruleKeys
  | firstAlert, key, _ => key ∉ alertKeys
  | texts, _, v => v.text? = none
  | groups, _, _ => False
  | rules, _, _ => False
  | alerts, _, _ => False

/-- An item of an array that the walk skips: a group without an array of rules, and a rule that is
no object. -/
def Skips : Place → Json → Prop
  | groups, v => (v.get? "rules").bind Json.items? = none
  | rules, v => v.members? = none
  | _, _ => False

/-- A text of a rule or an alert, which the walk reads as the empty one where it is missing. -/
def HasText : Place → String → Prop
  | rule, key => key ∈ ["name", "state"]
  | firstAlert, key => key ∈ alertKeys
  | _, _ => False

/-- A member of an object that reads as a missing one: no text, or the empty one. -/
def Blank (p : Place) (key : String) (v : Json) : Prop := p.HasText key ∧ v.text?.getD "" = ""

end Place

/-! ## Edits -/

/-- A group with some rules, whatever else it has. -/
def groupOf (before after : List (String × Json)) (rules : List Json) : Json :=
  .object (before ++ ("rules", .array rules) :: after)

/-- One edit of the value at a place. -/
inductive Edit : Place → Json → Json → Prop
  /-- A member that is ignored is put in. -/
  | ignored {p : Place} {key : String} {v : Json} (before after : List (String × Json))
      (h : p.Ignores key v) :
      Edit p (.object (before ++ after)) (.object (before ++ (key, v) :: after))
  /-- An item that is skipped is put in. -/
  | skipped {p : Place} {v : Json} (before after : List Json) (h : p.Skips v) :
      Edit p (.array (before ++ after)) (.array (before ++ v :: after))
  /-- A member that is missing is put in as a blank one. -/
  | filled {p : Place} {key : String} {v : Json} (before after : List (String × Json))
      (h : p.Blank key v) (hmissing : find? key (before ++ after) = none) :
      Edit p (.object (before ++ after)) (.object (before ++ (key, v) :: after))
  /-- A blank member is replaced by another one. -/
  | replaced {p : Place} {key : String} {v w : Json} (before after : List (String × Json))
      (hv : p.Blank key v) (hw : p.Blank key w) :
      Edit p (.object (before ++ (key, v) :: after)) (.object (before ++ (key, w) :: after))
  /-- All alerts behind the first are changed. -/
  | later (first : Json) (rest rest' : List Json) :
      Edit .alerts (.array (first :: rest)) (.array (first :: rest'))
  /-- The rules at the end of a group move to the start of the next one. -/
  | moved (before after : List Json) {m n m' n' : List (String × Json)}
      (hm : find? "rules" m = none) (hm' : find? "rules" m' = none)
      (rules moving rules' : List Json) :
      Edit .groups
        (.array (before ++ groupOf m n (rules ++ moving) :: groupOf m' n' rules' :: after))
        (.array (before ++ groupOf m n rules :: groupOf m' n' (moving ++ rules') :: after))
  /-- A group is divided into two. -/
  | divided (before after : List Json) {m n m' n' : List (String × Json)}
      (hm : find? "rules" m = none) (hm' : find? "rules" m' = none) (rules rules' : List Json) :
      Edit .groups (.array (before ++ groupOf m n (rules ++ rules') :: after))
        (.array (before ++ groupOf m n rules :: groupOf m' n' rules' :: after))
  /-- The value under a key is edited. -/
  | under {p q : Place} {key : String} {v w : Json} (before after : List (String × Json))
      (hkey : p.Under key q) (h : Edit q v w) :
      Edit p (.object (before ++ (key, v) :: after)) (.object (before ++ (key, w) :: after))
  /-- An item is edited. -/
  | among {p q : Place} {v w : Json} (before after : List Json) (hitem : p.Among q)
      (h : Edit q v w) : Edit p (.array (before ++ v :: after)) (.array (before ++ w :: after))
  /-- The first alert is edited. -/
  | first {v w : Json} (rest : List Json) (h : Edit .firstAlert v w) :
      Edit .alerts (.array (v :: rest)) (.array (w :: rest))

/-! ## What is read at a place -/

/-- The rule that an object is. -/
def ofRule? (v : Json) : Option Rule := v.members?.map ofMembers

/-- The rules of an array of rules. -/
def ofRules (v : Json) : List Rule := (v.items?.getD []).filterMap ofRule?

/-- The rules of an array of groups. -/
def ofGroups (v : Json) : List Rule := (v.items?.getD []).flatMap ofGroup

/-- The rules of an object with groups. -/
def ofData (v : Json) : List Rule := ((v.get? "groups").map ofGroups).getD []

/-- An entry whose value is a text. -/
def textEntry? (entry : String × Json) : Option (String × String) :=
  entry.2.text?.map fun s => (entry.1, s)

/-- The texts of an object. -/
def textsOf (v : Json) : Sorted String String := (v.members?.getD []).filterMap textEntry?

/-- The text under a key of an alert, unless it is empty. -/
def textIn? (key : String) (alert : Json) : Option String :=
  (alert.members?.map (textUnder key)).filter fun s => s ≠ ""

/-- The text under a key of the first of some alerts. -/
def firstText? (key : String) (alerts : Json) : Option String :=
  (alerts.items?.bind List.head?).bind (textIn? key)

/-- The walk reads two values at a place alike. -/
def Place.Same : Place → Json → Json → Prop
  | payload, v, w => ofPayload v = ofPayload w
  | data, v, w => ofData v = ofData w
  | groups, v, w => ofGroups v = ofGroups w
  | group, v, w => ofGroup v = ofGroup w
  | rules, v, w => ofRules v = ofRules w
  | rule, v, w => ofRule? v = ofRule? w
  | texts, v, w => textsOf v = textsOf w
  | alerts, v, w => ∀ key ∈ Place.alertKeys, firstText? key v = firstText? key w
  | firstAlert, v, w => ∀ key ∈ Place.alertKeys, textIn? key v = textIn? key w

theorem ofPayload_eq (payload : Json) :
    ofPayload payload = ((payload.get? "data").map ofData).getD [] := by
  unfold ofPayload
  cases payload.get? "data" with
  | none => rfl
  | some data =>
    rw [Option.bind_some, Option.map_some, Option.getD_some, ofData]
    cases data.get? "groups" with
    | none => rfl
    | some groups => rfl

theorem ofGroup_eq (group : Json) : ofGroup group = ((group.get? "rules").map ofRules).getD [] := by
  unfold ofGroup
  cases group.get? "rules" with
  | none => rfl
  | some rules => rfl

theorem textsUnder_eq (key : String) (members : List (String × Json)) :
    textsUnder key members = ((find? key members).map textsOf).getD [] := by
  unfold textsUnder
  cases find? key members with
  | none => rfl
  | some v => rfl

theorem alertText?_eq (key : String) (members : List (String × Json)) :
    alertText? key members = (find? "alerts" members).bind (firstText? key) := by
  unfold alertText? firstAlert? firstText? textIn?
  cases find? "alerts" members with
  | none => rfl
  | some alerts =>
    simp only [Option.bind_some]
    cases alerts.items? with
    | none => rfl
    | some items =>
      cases items with
      | nil => rfl
      | cons alert rest => rfl

/-! ## Members that are read alike -/

section Members

variable {m m' : List (String × Json)} {key : String}

theorem textUnder_congr (h : find? key m = find? key m') : textUnder key m = textUnder key m' := by
  unfold textUnder
  rw [h]

theorem textsUnder_congr (h : find? key m = find? key m') :
    textsUnder key m = textsUnder key m' := by
  unfold textsUnder
  rw [h]

theorem alertText?_congr (h : find? "alerts" m = find? "alerts" m') :
    alertText? key m = alertText? key m' := by
  rw [alertText?_eq, alertText?_eq, h]

theorem ofMembers_congr (hname : textUnder "name" m = textUnder "name" m')
    (hstate : textUnder "state" m = textUnder "state" m')
    (hlabels : textsUnder "labels" m = textsUnder "labels" m')
    (hannotations : textsUnder "annotations" m = textsUnder "annotations" m')
    (halerts : ∀ key ∈ Place.alertKeys, alertText? key m = alertText? key m') :
    ofMembers m = ofMembers m' := by
  unfold ofMembers
  rw [hname, hstate, hlabels, hannotations, halerts "activeAt" (.head _),
    halerts "value" (.tail _ (.head _))]

/-- Rules that differ under one key only are the same if what stands under it is read alike. -/
theorem ofMembers_congr_at (hother : ∀ other, other ≠ key → find? other m = find? other m')
    (htext : key ∈ ["name", "state"] → textUnder key m = textUnder key m')
    (htexts : key ∈ ["labels", "annotations"] → textsUnder key m = textsUnder key m')
    (halerts : key = "alerts" →
      ∀ inner ∈ Place.alertKeys, alertText? inner m = alertText? inner m') :
    ofMembers m = ofMembers m' := by
  have hfield (name : String) (h : name = key → textUnder key m = textUnder key m') :
      textUnder name m = textUnder name m' := by
    by_cases hn : name = key
    · rw [hn, h hn]
    · exact textUnder_congr (hother name hn)
  have hfields (name : String) (h : name = key → textsUnder key m = textsUnder key m') :
      textsUnder name m = textsUnder name m' := by
    by_cases hn : name = key
    · rw [hn, h hn]
    · exact textsUnder_congr (hother name hn)
  refine ofMembers_congr (hfield "name" ?_) (hfield "state" ?_) (hfields "labels" ?_)
    (hfields "annotations" ?_) fun inner hinner => ?_
  · rintro rfl
    exact htext (.head _)
  · rintro rfl
    exact htext (.tail _ (.head _))
  · rintro rfl
    exact htexts (.head _)
  · rintro rfl
    exact htexts (.tail _ (.head _))
  · by_cases hk : "alerts" = key
    · exact halerts hk.symm inner hinner
    · exact alertText?_congr (hother "alerts" hk)

end Members

/-! ## Edits are passed over -/

section Edits

variable {p q : Place} {key : String} {v w : Json}

theorem same_ignored (h : p.Ignores key v) (before after : List (String × Json)) :
    p.Same (.object (before ++ after)) (.object (before ++ (key, v) :: after)) := by
  have hother (other : String) (hne : other ≠ key) :
      find? other (before ++ after) = find? other (before ++ (key, v) :: after) :=
    (Sorted.find?_put_of_ne hne before after).symm
  cases p with
  | payload =>
    show ofPayload _ = ofPayload _
    rw [ofPayload_eq, ofPayload_eq, Json.get?, Json.get?, hother _ (Ne.symm h)]
  | data =>
    show ofData _ = ofData _
    rw [ofData, ofData, Json.get?, Json.get?, hother _ (Ne.symm h)]
  | group =>
    show ofGroup _ = ofGroup _
    rw [ofGroup_eq, ofGroup_eq, Json.get?, Json.get?, hother _ (Ne.symm h)]
  | rule =>
    have hunread (hkey : key ∈ Place.ruleKeys) {c : Prop} : c := absurd hkey h
    refine congrArg some (ofMembers_congr_at hother (fun hk => hunread ?_) (fun hk => hunread ?_)
      fun hk => hunread ?_)
    · exact List.mem_append_left ["labels", "annotations", "alerts"] hk
    · exact List.mem_append_right ["name", "state"] (List.mem_append_left ["alerts"] hk)
    · rw [hk]
      decide
  | texts =>
    have hentry : textEntry? (key, v) = none := Option.map_eq_none_iff.mpr h
    show List.filterMap _ (before ++ after) = List.filterMap _ (before ++ (key, v) :: after)
    rw [List.filterMap_append, List.filterMap_append, List.filterMap_cons_none hentry]
  | firstAlert =>
    intro inner hinner
    have hne : inner ≠ key := by
      rintro rfl
      exact h hinner
    show ((some _).map _).filter _ = ((some _).map _).filter _
    rw [Option.map_some, Option.map_some, textUnder_congr (hother inner hne)]
  | groups => exact h.elim
  | rules => exact h.elim
  | alerts => exact h.elim

theorem same_skipped (h : p.Skips v) (before after : List Json) :
    p.Same (.array (before ++ after)) (.array (before ++ v :: after)) := by
  cases p with
  | groups =>
    have hgroup : ofGroup v = [] := by
      unfold ofGroup
      rw [show (v.get? "rules").bind Json.items? = none from h]
      rfl
    show List.flatMap _ (before ++ after) = List.flatMap _ (before ++ v :: after)
    rw [List.flatMap_append, List.flatMap_append, List.flatMap_cons, hgroup, List.nil_append]
  | rules =>
    have hrule : ofRule? v = none := Option.map_eq_none_iff.mpr h
    show List.filterMap _ (before ++ after) = List.filterMap _ (before ++ v :: after)
    rw [List.filterMap_append, List.filterMap_append, List.filterMap_cons_none hrule]
  | _ => exact h.elim

/-- What stands under the key of a text does not matter but for the text. -/
theorem same_text (hkey : p.HasText key) {m m' : List (String × Json)}
    (hother : ∀ other, other ≠ key → find? other m = find? other m')
    (htext : textUnder key m = textUnder key m') : p.Same (.object m) (.object m') := by
  cases p with
  | rule =>
    have hkind : key ∉ ["labels", "annotations", "alerts"] := by
      rcases List.mem_cons.mp hkey with rfl | hkey
      · decide
      · rw [List.mem_singleton.mp hkey]
        decide
    refine congrArg some (ofMembers_congr_at hother (fun _ => htext) (fun hk => absurd ?_ hkind)
      fun hk => absurd ?_ hkind)
    · exact List.mem_append_left ["alerts"] hk
    · rw [hk]
      decide
  | firstAlert =>
    intro inner hinner
    have hinner : textUnder inner m = textUnder inner m' := by
      by_cases hk : inner = key
      · rw [hk, htext]
      · exact textUnder_congr (hother inner hk)
    show ((some _).map _).filter _ = ((some _).map _).filter _
    rw [Option.map_some, Option.map_some, hinner]
  | _ => exact hkey.elim

theorem same_filled (h : p.Blank key v) (before after : List (String × Json))
    (hmissing : find? key (before ++ after) = none) :
    p.Same (.object (before ++ after)) (.object (before ++ (key, v) :: after)) := by
  refine same_text h.1 (fun other hne => (Sorted.find?_put_of_ne hne before after).symm) ?_
  have hput : find? key (before ++ (key, v) :: after) = some v := by
    rw [Sorted.find?_append, Option.or_eq_none_iff] at hmissing
    rw [Sorted.find?_append, hmissing.1, find?, if_pos rfl]
    rfl
  unfold textUnder
  rw [hmissing, hput, Option.bind_none, Option.bind_some, h.2]
  rfl

theorem same_replaced (hv : p.Blank key v) (hw : p.Blank key w)
    (before after : List (String × Json)) :
    p.Same (.object (before ++ (key, v) :: after)) (.object (before ++ (key, w) :: after)) := by
  refine same_text hv.1 (fun other hne => ?_) ?_
  · rw [Sorted.find?_put_of_ne hne, Sorted.find?_put_of_ne hne]
  · exact Sorted.find?_replace (fun found => (found.bind Json.text?).getD "")
      (hv.2.trans hw.2.symm) before after

/-! ### Groups -/

theorem ofRules_append (rules rules' : List Json) :
    ofRules (.array (rules ++ rules')) = ofRules (.array rules) ++ ofRules (.array rules') :=
  List.filterMap_append

theorem ofGroup_groupOf {m n : List (String × Json)} (h : find? "rules" m = none)
    (rules : List Json) : ofGroup (groupOf m n rules) = ofRules (.array rules) := by
  rw [ofGroup_eq, groupOf, Json.get?, Sorted.find?_append, h, find?, if_pos rfl]
  rfl

theorem ofGroups_array (groups : List Json) :
    ofGroups (.array groups) = groups.flatMap ofGroup := rfl

theorem same_divided (before after : List Json) {m n m' k : List (String × Json)}
    (hm : find? "rules" m = none) (hm' : find? "rules" m' = none) (rules rules' : List Json) :
    Place.groups.Same (.array (before ++ groupOf m n (rules ++ rules') :: after))
      (.array (before ++ groupOf m n rules :: groupOf m' k rules' :: after)) := by
  show ofGroups _ = ofGroups _
  simp only [ofGroups_array, List.flatMap_append, List.flatMap_cons, ofGroup_groupOf hm,
    ofGroup_groupOf hm', ofRules_append, List.append_assoc]

theorem same_moved (before after : List Json) {m n m' n' : List (String × Json)}
    (hm : find? "rules" m = none) (hm' : find? "rules" m' = none)
    (rules moving rules' : List Json) :
    Place.groups.Same
      (.array (before ++ groupOf m n (rules ++ moving) :: groupOf m' n' rules' :: after))
      (.array (before ++ groupOf m n rules :: groupOf m' n' (moving ++ rules') :: after)) := by
  -- Both come from one group with all rules, which is divided here or there.
  have hhere := same_divided before after (n := n) (k := n') hm hm' (rules ++ moving) rules'
  have hthere := same_divided before after (n := n) (k := n') hm hm' rules (moving ++ rules')
  rw [List.append_assoc] at hhere
  exact hhere.symm.trans hthere

/-! ### Edits inside -/

theorem same_under (hkey : p.Under key q) (h : q.Same v w) (before after : List (String × Json)) :
    p.Same (.object (before ++ (key, v) :: after)) (.object (before ++ (key, w) :: after)) := by
  have hother (other : String) (hne : other ≠ key) :
      find? other (before ++ (key, v) :: after) = find? other (before ++ (key, w) :: after) := by
    rw [Sorted.find?_put_of_ne hne, Sorted.find?_put_of_ne hne]
  cases hkey with
  | data =>
    show ofPayload _ = ofPayload _
    rw [ofPayload_eq, ofPayload_eq]
    exact Sorted.find?_replace (fun found => (found.map ofData).getD []) h before after
  | groups =>
    exact Sorted.find?_replace (fun found => (found.map ofGroups).getD []) h before after
  | rules =>
    show ofGroup _ = ofGroup _
    rw [ofGroup_eq, ofGroup_eq]
    exact Sorted.find?_replace (fun found => (found.map ofRules).getD []) h before after
  | labels =>
    refine congrArg some (ofMembers_congr_at hother nofun (fun _ => ?_) nofun)
    rw [textsUnder_eq, textsUnder_eq]
    exact Sorted.find?_replace (fun found => (found.map textsOf).getD []) h before after
  | annotations =>
    refine congrArg some (ofMembers_congr_at hother nofun (fun _ => ?_) nofun)
    rw [textsUnder_eq, textsUnder_eq]
    exact Sorted.find?_replace (fun found => (found.map textsOf).getD []) h before after
  | alerts =>
    refine congrArg some (ofMembers_congr_at hother nofun nofun fun _ inner hinner => ?_)
    rw [alertText?_eq, alertText?_eq]
    exact Sorted.find?_replace (fun found => found.bind (firstText? inner))
      (h inner hinner) before after

theorem same_among (hitem : p.Among q) (h : q.Same v w) (before after : List Json) :
    p.Same (.array (before ++ v :: after)) (.array (before ++ w :: after)) := by
  cases hitem with
  | groups =>
    show ofGroups _ = ofGroups _
    rw [ofGroups_array, ofGroups_array, List.flatMap_append, List.flatMap_append,
      List.flatMap_cons, List.flatMap_cons, show ofGroup v = ofGroup w from h]
  | rules =>
    show List.filterMap _ (before ++ v :: after) = List.filterMap _ (before ++ w :: after)
    rw [List.filterMap_append, List.filterMap_append, List.filterMap_cons, List.filterMap_cons,
      show ofRule? v = ofRule? w from h]

/-- **An edit is passed over.** What is read at the place of an edit stays as it is. -/
theorem Edit.same (h : Edit p v w) : p.Same v w := by
  induction h with
  | ignored before after h => exact same_ignored h before after
  | skipped before after h => exact same_skipped h before after
  | filled before after h hmissing => exact same_filled h before after hmissing
  | replaced before after hv hw => exact same_replaced hv hw before after
  | later first rest rest' => exact fun _ _ => rfl
  | moved before after hm hm' rules moving rules' =>
    exact same_moved before after hm hm' rules moving rules'
  | divided before after hm hm' rules rules' => exact same_divided before after hm hm' rules rules'
  | under before after hkey _ ih => exact same_under hkey ih before after
  | among before after hitem _ ih => exact same_among hitem ih before after
  | first rest _ ih => exact ih

end Edits

/-- Payloads that differ by edits, made or taken back. -/
def Edits : Json → Json → Prop := Relation.EqvGen (Edit .payload)

theorem Edits.ofPayload_eq {payload payload' : Json} (h : Edits payload payload') :
    ofPayload payload = ofPayload payload' := by
  induction h with
  | rel _ _ h => exact h.same
  | refl _ => rfl
  | symm _ _ _ ih => exact ih.symm
  | trans _ _ _ _ _ first second => exact first.trans second

theorem ofPayload_of_no_groups {payload : Json}
    (h : ((payload.get? "data").bind (Json.get? "groups")).bind Json.items? = none) :
    ofPayload payload = [] := by
  unfold ofPayload
  rw [h]
  rfl

end Rule

/-! ## The answers of a store -/

namespace RulesStore

variable {backend backend' : RulesBackend} {env env' : Surroundings} {payload payload' : Json}

/-- **The walk is tolerant.** Two payloads that differ by edits, which the walk passes over, give
the same answers at the same time. The checks and the alerts are always given, and the check of a
target fails only where the target is absent. Without an array of groups there are no checks and no
alerts. -/
theorem walk_tolerant (h : delivered backend env = .ok payload)
    (h' : delivered backend' env' = .ok payload') (hnow : env.now = env'.now)
    (hedits : Rule.Edits payload payload') :
    ∃ checks summary check,
      (store backend env).Answers checks summary check ∧
      (store backend' env').Answers checks summary check ∧
      (∀ target e, check target = .error e ↔
        e = .notFound ("target not found: " ++ target) ∧ ∀ c ∈ checks, c.target ≠ target) ∧
      (((payload.get? "data").bind (Json.get? "groups")).bind Json.items? = none →
        checks = [] ∧ summary = {}) := by
  have hchecks : checksOf env'.now payload' = checksOf env.now payload := by
    unfold checksOf
    rw [hedits.ofPayload_eq, hnow]
  have halerts : alertsOf payload' = alertsOf payload := by
    unfold alertsOf
    rw [hedits.ofPayload_eq]
  have hcheck (target : String) :
      checkOf env'.now target payload' = checkOf env.now target payload := by
    unfold checkOf
    rw [hchecks]
  have hanswers := answers_of_delivered h'
  simp only [hchecks, halerts, hcheck] at hanswers
  refine ⟨_, _, _, answers_of_delivered h, hanswers, fun target e => checkOf_eq_error _ _,
    fun hnone => ⟨?_, ?_⟩⟩
  · unfold checksOf
    rw [Rule.ofPayload_of_no_groups hnone]
    rfl
  · unfold alertsOf
    rw [Rule.ofPayload_of_no_groups hnone]
    rfl

/-- A payload with one rule, and the same payload with a group that is none, a rule that is none, a
label that is no text, an empty name, and a member that nobody reads. -/
theorem walk_tolerant_noise :
    let plain := "\x7b\"data\":\x7b\"groups\":[\x7b\"rules\":[\x7b\"labels\":\x7b\"target\":" ++
      "\"a\"\x7d,\"state\":\"firing\"\x7d]\x7d]\x7d\x7d"
    let noisy := "\x7b\"data\":\x7b\"groups\":[7,\x7b\"rules\":[null,\x7b\"labels\":\x7b" ++
      "\"n\":1,\"target\":\"a\"\x7d,\"name\":\"\",\"state\":\"firing\"\x7d]\x7d]\x7d," ++
      "\"status\":\"ok\"\x7d"
    let env (body : String) : Surroundings :=
      { Surroundings.quiet with rules := .answered 200 (octets body) }
    let backend : RulesBackend := ⟨some "http://[::1]:3000", "", "", 10⟩
    ∃ payload payload',
      delivered backend (env plain) = .ok payload ∧ delivered backend (env noisy) = .ok payload' ∧
      Rule.Edits payload payload' ∧
      ∃ checks summary check,
        (store backend (env plain)).Answers checks summary check ∧
        (store backend (env noisy)).Answers checks summary check ∧
        check "b" = .error (.notFound "target not found: b") := by
  intro plain noisy env backend
  -- What the edits go through, from the labels of the rule outwards.
  let target := ("target", Json.text "a")
  let labels := ("labels", Json.object [target])
  let moreLabels := ("labels", Json.object [("n", .nat 1), target])
  let name := ("name", Json.text "")
  let state := ("state", Json.text "firing")
  let groupWith (rules : List Json) := Json.object [("rules", .array rules)]
  let dataWith (groups : List Json) := ("data", Json.object [("groups", .array groups)])
  have hplain : delivered backend (env plain) =
      .ok (.object [dataWith [groupWith [.object [labels, state]]]]) := by decide +kernel
  have hnoisy : delivered backend (env noisy) =
      .ok (.object [dataWith [.nat 7, groupWith [.null, .object [moreLabels, name, state]]],
        ("status", .text "ok")]) := by decide +kernel
  have hlabel : Rule.Edit .rule (.object [labels, state]) (.object [moreLabels, state]) :=
    .under [] [state] .labels (.ignored [] [target] rfl)
  have hname : Rule.Edit .rule (.object [moreLabels, state]) (.object [moreLabels, name, state]) :=
    .filled [moreLabels] [state] ⟨.head _, rfl⟩ (by decide)
  have hnull (rule : Json) : Rule.Edit .group (groupWith [rule]) (groupWith [.null, rule]) :=
    .under [] [] .rules (.skipped [] [rule] rfl)
  have hrule {v w : Json} (h : Rule.Edit .rule v w) :
      Rule.Edit .group (groupWith [v]) (groupWith [w]) :=
    .under [] [] .rules (.among [] [] .rules h)
  have hgroup {v w : Json} (h : Rule.Edit .group v w) :
      Rule.Edits (.object [dataWith [v]]) (.object [dataWith [w]]) :=
    .rel _ _ (.under [] [] .data (.under [] [] .groups (.among [] [] .groups h)))
  have hseven (group : Json) :
      Rule.Edits (.object [dataWith [group]]) (.object [dataWith [.nat 7, group]]) :=
    .rel _ _ (.under [] [] .data (.under [] [] .groups (.skipped [] [group] rfl)))
  have hstatus (data : String × Json) :
      Rule.Edits (.object [data]) (.object [data, ("status", .text "ok")]) :=
    .rel _ _ (.ignored [data] [] (show "status" ≠ "data" by decide))
  have hedits : Rule.Edits (.object [dataWith [groupWith [.object [labels, state]]]])
      (.object [dataWith [.nat 7, groupWith [.null, .object [moreLabels, name, state]]],
        ("status", .text "ok")]) :=
    (hgroup (hrule hlabel)).trans _ _ _ <| (hgroup (hrule hname)).trans _ _ _ <|
      (hgroup (hnull _)).trans _ _ _ <| (hseven _).trans _ _ _ (hstatus _)
  obtain ⟨checks, summary, check, hanswers, hanswers', herror, -⟩ :=
    walk_tolerant hplain hnoisy rfl hedits
  refine ⟨_, _, hplain, hnoisy, hedits, checks, summary, check, hanswers, hanswers', ?_⟩
  have hlist : checks = [⟨"a", .down, ⟨0, 0⟩, "", none⟩] := by
    have hrun := hanswers.checks {}
    rw [checks_run, hplain] at hrun
    rw [← Except.ok.inj hrun]
    decide +kernel
  refine (herror "b" _).mpr ⟨rfl, fun c hc => ?_⟩
  rw [hlist, List.mem_singleton] at hc
  rw [hc]
  decide

end RulesStore

end ProbeGateway
