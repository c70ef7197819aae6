import Mathlib.Data.List.Forall2
import ProbeGateway.Proofs.Pipeline.Dispatch
import ProbeGateway.Proofs.Related

/-!
# Applications of one shape

Which route answers a request is decided by the groups, the templates and the methods of all routes,
and not by their handlers.

1. Of two lists of routes that are related one by one, related routes are found
   (`methodRoute?_related`, `anyRoute?_related`), and both refuse alike (`allowedAt_related`,
   `refusalGroup_related`).
2. Two applications with such routes dispatch a request alike (`dispatch?_alike`): to related
   routes, or to the same refusal.
-/

namespace ProbeGateway

/-- Routes that differ in their handlers at most. -/
structure Route.SameShape (r r' : Route) : Prop where
  group : r.group = r'.group
  template : r.template = r'.template
  method : r.method = r'.method

/-- Applications that differ in the handlers of their routes at most. -/
structure App.SameShape (app app' : App) : Prop where
  settings : app.settings = app'.settings
  routes : List.Forall₂ Route.SameShape app.routes app'.routes

/-- A request is dispatched to related routes, or refused alike. -/
inductive Dispatch.Alike (R : Route → Route → Prop) (env : Surroundings) :
    Dispatch → Dispatch → Prop
  | routed {r r' : Route} (hr : R r r') (manner : Manner) (incoming : Incoming) :
      Alike R env ⟨r.group, r.handler env, manner, incoming⟩
        ⟨r'.group, r'.handler env, manner, incoming⟩
  | refused (group : RouteGroup) (allowed : String) (incoming : Incoming) :
      Alike R env ⟨group, App.notAllowed, .refused allowed, incoming⟩
        ⟨group, App.notAllowed, .refused allowed, incoming⟩

/-! ## Lists of routes -/

section Related

variable {R : Route → Route → Prop} {rs rs' : List Route} (h : List.Forall₂ R rs rs')

include h

theorem map_related {α : Type} {f : Route → α} (hf : ∀ r r', R r r' → f r = f r') :
    rs.map f = rs'.map f := by
  induction h with
  | nil => rfl
  | cons hr _ ih => rw [List.map_cons, List.map_cons, hf _ _ hr, ih]

variable (hR : ∀ r r', R r r' → r.SameShape r')

include hR

theorem methodRoute?_related (method : Method) :
    Option.Rel R (App.methodRoute? method rs) (App.methodRoute? method rs') := by
  have hfind (m : Method) := find?_related h (p := fun r => r.method = some m)
    (q := fun r => r.method = some m) (fun r r' hr => by rw [(hR r r' hr).method])
  have hmethod := hfind method
  unfold App.methodRoute?
  generalize rs.find? (fun r => r.method = some method) = found at hmethod
  generalize rs'.find? (fun r => r.method = some method) = found' at hmethod
  cases hmethod with
  | some hr => exact .some hr
  | none =>
    rw [Option.none_or, Option.none_or]
    split
    · exact hfind .get
    · exact .none

theorem anyRoute?_related : Option.Rel R (App.anyRoute? rs) (App.anyRoute? rs') :=
  find?_related h fun r r' hr => by rw [(hR r r' hr).method]

theorem allowedAt_related : App.allowedAt rs = App.allowedAt rs' := by
  have hmethods := map_related h (f := Route.method) fun r r' hr => (hR r r' hr).method
  have hfilter (l : List Route) : l.filterMap Route.method = (l.map Route.method).filterMap id := by
    rw [List.filterMap_map]
    rfl
  unfold App.allowedAt
  rw [hfilter, hmethods, ← hfilter]

theorem refusalGroup_related : App.refusalGroup rs = App.refusalGroup rs' := by
  have hgroups := map_related h (f := Route.group) fun r r' hr => (hR r r' hr).group
  have hany (l : List Route) : (l.any fun r => decide (r.group = .bare)) =
      (l.map Route.group).any fun g => decide (g = .bare) := by
    rw [List.any_map]
    rfl
  unfold App.refusalGroup
  rw [hany, hgroups, ← hany]

end Related

/-! ## Applications -/

namespace App

variable {R : Route → Route → Prop} {app app' : App} (env : Surroundings)
  (h : List.Forall₂ R app.routes app'.routes) (hR : ∀ r r', R r r' → r.SameShape r')

include h hR

theorem routesAt_related (template : String) :
    List.Forall₂ R (app.routesAt template) (app'.routesAt template) := by
  apply List.rel_filter _ h
  intro r r' hr
  simp only [decide_eq_true_eq]
  rw [(hR r r' hr).template]

theorem dispatchAt_alike (incoming : Incoming) :
    Dispatch.Alike R env (app.dispatchAt env incoming) (app'.dispatchAt env incoming) := by
  have hroutes := routesAt_related h hR incoming.template
  have hmethod := methodRoute?_related hroutes hR incoming.request.method
  have hany := anyRoute?_related hroutes hR
  unfold App.dispatchAt
  generalize methodRoute? incoming.request.method (app.routesAt incoming.template) = route
    at hmethod ⊢
  generalize methodRoute? incoming.request.method (app'.routesAt incoming.template) = route'
    at hmethod ⊢
  cases hmethod with
  | some hr => exact .routed hr .byMethod incoming
  | none =>
    generalize anyRoute? (app.routesAt incoming.template) = route at hany ⊢
    generalize anyRoute? (app'.routesAt incoming.template) = route' at hany ⊢
    cases hany with
    | some hr => exact .routed hr .byAny incoming
    | none =>
      rw [refusalGroup_related hroutes hR, allowedAt_related hroutes hR]
      exact .refused _ _ incoming

/-- Applications with related routes dispatch a request alike. -/
theorem dispatch?_alike (request : Request) :
    Option.Rel (Dispatch.Alike R env) (app.dispatch? env request) (app'.dispatch? env request) := by
  have htemplates := map_related h (f := Route.template) fun r r' hr => (hR r r' hr).template
  unfold App.dispatch?
  rw [htemplates]
  cases Template.choose request.path.toList (app'.routes.map Route.template) with
  | none => exact .none
  | some found => exact .some (dispatchAt_alike env h hR _)

end App

/-- Dispatches to routes of one shape differ in their handlers at most. -/
theorem Dispatch.Alike.same {R : Route → Route → Prop} (hR : ∀ r r', R r r' → r.SameShape r')
    {env : Surroundings} {d d' : Dispatch} (h : Dispatch.Alike R env d d') :
    d.group = d'.group ∧ d.manner = d'.manner ∧ d.incoming = d'.incoming := by
  cases h with
  | routed hr manner incoming => exact ⟨(hR _ _ hr).group, rfl, rfl⟩
  | refused group allowed incoming => exact ⟨rfl, rfl, rfl⟩

end ProbeGateway
