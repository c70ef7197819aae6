import ProbeGateway.Proofs.Service.Coverage
import ProbeGateway.Proofs.Service.Question

/-!
# What a request to the public application leaves

How a request is taken (`Api.Taken`) depends on the request alone: it puts a question to the
backends, asks a probe, asks what may be asked, or is refused. The response, the calls and the marks
are functions of that, of the settings and of what the request meets outside the service
(`leaves_serve`), whatever was done before.
-/

namespace ProbeGateway

namespace Api

/-- The question that a template stands for. -/
def questionAt (incoming : Incoming) : Question :=
  if incoming.template = healthTemplate then .checks
  else if incoming.template = alertsTemplate then .alerts
  else if incoming.template = noMetricTemplate ∨ incoming.template = metricTemplate then
    .metric (parameter incoming)
  else .check (parameter incoming)

variable (settings : ApiSettings)

/-- A main template has one route, which answers its question. -/
theorem routesAt_main {t : String} (ht : t ∈ mainTemplates) :
    ∃ action, (app settings).routesAt t = [fetching t action] ∧
      ∀ env incoming, incoming.template = t →
        action env incoming = (questionAt incoming).answer settings env := by
  simp only [mainTemplates, List.mem_cons, List.not_mem_nil, or_false] at ht
  rcases ht with rfl | rfl | rfl | rfl | rfl | rfl
  all_goals
    refine ⟨_, rfl, fun env incoming h => ?_⟩
    unfold questionAt
    rw [h]
    rfl

theorem routesAt_probe {t : String} (ht : t ∈ probeTemplates) :
    (app settings).routesAt t = [probe t] := by
  simp only [probeTemplates, List.mem_cons, List.not_mem_nil, or_false] at ht
  rcases ht with rfl | rfl | rfl
  all_goals rfl

/-! ## How a request is taken -/

/-- How a request is taken. -/
inductive Taken
  /-- Its path leads nowhere. -/
  | nowhere
  | probed
  /-- A probe refuses its method. -/
  | unprobed
  | asked (incoming : Incoming) (q : Question)
  /-- It asks what may be asked. -/
  | preflight (incoming : Incoming)
  /-- A main route refuses its method. -/
  | refused (incoming : Incoming)
deriving DecidableEq, Repr

/-- How a request that has come to a template is taken. -/
def takenAt (incoming : Incoming) : Taken :=
  if incoming.template ∈ mainTemplates then
    if incoming.request.method.fetches then .asked incoming (questionAt incoming)
    else if incoming.request.method = .options then .preflight incoming
    else .refused incoming
  else if incoming.request.method.fetches then .probed
  else .unprobed

/-- How a request is taken. -/
def taken (request : Request) : Taken :=
  match Template.choose request.path.toList (mainTemplates ++ probeTemplates) with
  | none => .nowhere
  | some (template, parts) => takenAt ⟨request, template, parts, none⟩

namespace Taken

/-- The question that is put to the backends. -/
def question? : Taken → Option Question
  | asked _ q => some q
  | _ => none

/-- The manner in which the request comes to what answers it. -/
def manner : Taken → Manner
  | probed | asked .. => .byMethod
  | _ => .refused "GET,HEAD"

variable (settings : ApiSettings) (env : Surroundings)

/-- The innermost response to a request that the layers see, with the template it came to. -/
def innermost? : Taken → Option (Incoming × Response)
  | asked incoming q =>
    some (incoming, Layer.allow ⟨settings.corsOrigin⟩ (.ofResult (q.result settings env)))
  | preflight incoming => some (incoming, Layer.preflight ⟨settings.corsOrigin⟩)
  | refused incoming => some (incoming, Layer.allow ⟨settings.corsOrigin⟩ (.empty 405))
  | _ => none

/-- The response that a client gets. -/
def response (request : Request) (t : Taken) : Response :=
  match t.innermost? settings env with
  | some (_, r) => t.manner.finish request.method (Layer.stamped env request (Layer.settled r))
  | none =>
    match t with
    | probed => t.manner.finish request.method (.ofJson alive)
    | unprobed => t.manner.finish request.method (.empty 405)
    | _ => App.notFound

/-- The attempt to ask a backend. -/
def attempt? (t : Taken) : Option Attempt := t.question?.bind (·.attempt? settings env)

/-- The calls that are sent to the backends. -/
def calls (t : Taken) : List Call := Attempt.calls (t.attempt? settings env)

/-- The operation and the outcome that a question of health is counted under. -/
def healthQuery? (t : Taken) : Option (String × String) :=
  t.question?.bind (·.healthQuery? settings env)

/-- The recording of the response, of the requests that the layers see. -/
def recording? (t : Taken) : Option Recording :=
  (t.innermost? settings env).map fun (incoming, r) => Layer.measured env incoming r

/-- The marks that the request leaves: those of its question, and that of its recording. -/
def marks (t : Taken) : List Mark :=
  Attempt.marks (t.attempt? settings env) ++ Mark.healthQueries (t.healthQuery? settings env) ++
    ((t.recording? settings env).map Mark.response).toList

/-- The footprint of a request that is taken so. -/
def Leaves (request : Request) (t : Taken) : Prop :=
  Action.Leaves ((app settings).serve env request) (t.response settings env request)
    (t.calls settings env) (t.marks settings env)

end Taken

/-! ## What it leaves -/

section

variable {settings : ApiSettings} {env : Surroundings} {incoming : Incoming}

/-- A fetching request to a main route leaves what its question leaves, and its recording. -/
theorem leaves_serve_asked
    (hd : (app settings).dispatch? env incoming.request =
      some ((app settings).dispatchAt env incoming))
    (ht : incoming.template ∈ mainTemplates) (hm : incoming.request.method.fetches = true) :
    (Taken.asked incoming (questionAt incoming)).Leaves settings env incoming.request := by
  obtain ⟨action, hroutes, haction⟩ := routesAt_main settings ht
  rw [App.dispatchAt_fetches hroutes rfl hm] at hd
  have hoptions : incoming.request.method ≠ .options := by
    intro h
    rw [h] at hm
    exact absurd hm (by decide)
  let q := questionAt incoming
  have hanswer : Action.Leaves (action env (Layer.traced env incoming)) (q.result settings env)
      (q.calls settings env) (q.marks settings env) := by
    rw [haction env (Layer.traced env incoming) rfl]
    exact Question.leaves_answer q
  have hhandler : Action.Leaves (Handler.ofResult (action env) (Layer.traced env incoming)) _ _ _ :=
    hanswer.map fun result => Outcome.answered (.ofResult result)
  exact App.leaves_serve_answered hd rfl hoptions hhandler

/-- Any other request to a main route leaves its recording only. -/
theorem leaves_serve_preflight
    (hd : (app settings).dispatch? env incoming.request =
      some ((app settings).dispatchAt env incoming))
    (ht : incoming.template ∈ mainTemplates) (hm : incoming.request.method = .options) :
    (Taken.preflight incoming).Leaves settings env incoming.request := by
  obtain ⟨action, hroutes, -⟩ := routesAt_main settings ht
  rw [App.dispatchAt_refuses hroutes rfl (by rw [hm]; decide)] at hd
  exact App.leaves_serve_preflight hd rfl hm

theorem leaves_serve_refused
    (hd : (app settings).dispatch? env incoming.request =
      some ((app settings).dispatchAt env incoming))
    (ht : incoming.template ∈ mainTemplates) (hm : incoming.request.method.fetches = false)
    (hoptions : incoming.request.method ≠ .options) :
    (Taken.refused incoming).Leaves settings env incoming.request := by
  obtain ⟨action, hroutes, -⟩ := routesAt_main settings ht
  rw [App.dispatchAt_refuses hroutes rfl hm] at hd
  exact App.leaves_serve_answered hd rfl hoptions (.pure _)

/-- A request to a probe leaves nothing. -/
theorem leaves_serve_probe
    (hd : (app settings).dispatch? env incoming.request =
      some ((app settings).dispatchAt env incoming))
    (ht : incoming.template ∈ probeTemplates) :
    (if incoming.request.method.fetches then Taken.probed else .unprobed).Leaves settings env
      incoming.request := by
  have hroutes := routesAt_probe settings ht
  split
  · next hm =>
    rw [App.dispatchAt_fetches hroutes rfl hm] at hd
    exact App.leaves_serve_bare hd rfl (.pure _)
  · next hm =>
    rw [App.dispatchAt_refuses hroutes rfl (Bool.eq_false_iff.mpr hm)] at hd
    exact App.leaves_serve_bare hd rfl (.pure _)

/-- What a request leaves that has come to a template. -/
theorem leaves_serveAt
    (hd : (app settings).dispatch? env incoming.request =
      some ((app settings).dispatchAt env incoming))
    (hmem : incoming.template ∈ mainTemplates ++ probeTemplates) :
    (takenAt incoming).Leaves settings env incoming.request := by
  unfold takenAt
  split
  · next ht =>
    split
    · next hm => exact leaves_serve_asked hd ht hm
    · next hm =>
      split
      · next hoptions => exact leaves_serve_preflight hd ht hoptions
      · next hoptions => exact leaves_serve_refused hd ht (Bool.eq_false_iff.mpr hm) hoptions
  · next ht => exact leaves_serve_probe hd ((List.mem_append.mp hmem).resolve_left ht)

end

/-- **What a request leaves.** -/
theorem leaves_serve (env : Surroundings) (request : Request) :
    (taken request).Leaves settings env request := by
  unfold taken
  cases hc : Template.choose request.path.toList (mainTemplates ++ probeTemplates) with
  | none =>
    have hd : (app settings).dispatch? env request = none := by
      unfold App.dispatch?
      exact Option.map_eq_none_iff.mpr hc
    exact App.leaves_serve_none hd
  | some found =>
    obtain ⟨template, parts⟩ := found
    let incoming : Incoming := ⟨request, template, parts, none⟩
    have hd : (app settings).dispatch? env incoming.request =
        some ((app settings).dispatchAt env incoming) :=
      @App.dispatch?_of_choose (app settings) env request (template, parts) hc
    have hmem : incoming.template ∈ mainTemplates ++ probeTemplates :=
      (Template.fits_of_choose hc).1
    exact leaves_serveAt hd hmem

end Api

end ProbeGateway
