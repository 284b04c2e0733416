import CameraAcquisition.Acquisition.Control

/-!
# Every interleaving of the controller's threads

The host threads, the worker and the trigger threads take their steps in any order. A step
is one of:

* a host thread that is not in a call makes a request;
* a host thread in a call takes the call's next step, when the call can: a wait for a
  condition ends only once the condition holds, a wait with a deadline may end at any time,
  and starting a trigger thread may fail;
* the worker takes its next step, time passing as it needs;
* a trigger thread takes its next step;
* when the plant is open to the outside, anything else changes the camera and the host:
  other programs using the SDK, the host's own use of its buffers and its listener.

Requests keep to what the language allows: no call is made on a controller that is being
dropped or has been, and a drop waits until no other call is under way.

`Reachable env init p` says that the system gets from `init` to `p`; `Counted` follows an
execution and counts the steps of a kind.

## What this module delivers

- `Actor`, `Request` with `Request.call`, `Call.isDrop`, `Call.isArming`, `Caller.isBusy`,
  `mayRequest`.
- `Transition`, `Plant.initial`, `Reachable`, `Counted`.
-/

set_option autoImplicit false

namespace CameraAcquisition

/-- Who takes a step. -/
inductive Actor where
  | caller (i : Nat)
  | worker
  | timer (i : Nat)
  | outside
  deriving Repr, BEq, DecidableEq, Inhabited

/-- What a host thread can ask of the controller. -/
inductive Request where
  | prepare
  | releaseBuffer
  | update (f : AcqParams → AcqParams)
  | start
  | stop
  | reset
  | setRoi (attr : Sdk.RoiAttr)
  | drop
  deriving Inhabited

/-- The call a request begins. -/
def Request.call : Request → Call
  | .prepare => .prepare
  | .releaseBuffer => .releaseBuffer
  | .update f => .update f
  | .start => .start
  | .stop => .stop .plain
  | .reset => .stop .reset
  | .setRoi attr => .setRoi attr
  | .drop => .stop .drop

/-- Whether a call point belongs to the drop of the controller. -/
def Call.isDrop : Call → Bool
  | .stop .drop | .stopAwaitArming .drop | .stopAbort .drop _ | .stopPause .drop _ => true
  | .dropQuit | .dropJoin | .dropRelease => true
  | _ => false

/-- Whether a call point belongs to a start that holds the arming flag: past its first
section, and before it has handed its run over or given up. -/
def Call.isArming : Call → Bool
  | .armCapture _ | .settling _ | .armTimer _ | .handOver _ | .cancelling _ _
  | .failArming _ => true
  | _ => false

/-- Whether a host thread is in a call. -/
def Caller.isBusy : Caller → Bool
  | .busy _ => true
  | _ => false

/-- Whether host thread `i` may make request `r`: it is not in a call, the controller is
neither dropped nor being dropped, and a drop finds no other call under way. -/
def mayRequest (p : Plant) (i : Nat) (r : Request) : Prop :=
  (p.callers i).isBusy = false ∧ p.ctl.quit = false ∧
    (∀ j c, p.callers j = .busy c → c.isDrop = false) ∧
    (r matches .drop → ∀ j, (p.callers j).isBusy = false)

/-- One step of the system; `env` opens the plant to the outside. -/
inductive Transition (env : Bool) : Plant → Actor → Plant → Prop where
  | request {p : Plant} (i : Nat) (r : Request) (h : mayRequest p i r) :
      Transition env p (.caller i) (p.setCaller i (.busy r.call))
  | call {p q : Plant} {c : Call} {r : Caller} (i : Nat) (expire : Bool)
      (spawn : Except CameraError Unit) (hc : p.callers i = .busy c)
      (h : Acquisition.Call.step expire spawn c p = some (r, q)) :
      Transition env p (.caller i) (q.setCaller i r)
  | worker {p q : Plant} (h : Worker.step true p = some q) : Transition env p .worker q
  | timer {p q : Plant} (i : Nat) (h : Timer.step i p = some q) :
      Transition env p (.timer i) q
  | outside {p : Plant} (sim : Sdk.Simulator) (host : Host) (h : env = true) :
      Transition env p .outside { p with sim, host }

/-- A controller just made, on a camera and a host: no thread has moved yet. -/
def Plant.initial (params : AcqParams) (timings : Timings) (deviceIndex : Nat)
    (sim : Sdk.Simulator) (host : Host) : Plant :=
  ⟨Controller.make params timings deviceIndex, .idle, [], fun _ => .idle, sim, host⟩

/-- The plants the system reaches from `init`. -/
inductive Reachable (env : Bool) (init : Plant) : Plant → Prop where
  | init : Reachable env init init
  | step {p q : Plant} {a : Actor} (hp : Reachable env init p) (h : Transition env p a q) :
      Reachable env init q

/-- `Counted env kind p n q`: an execution leads from `p` to `q`, and `n` of its steps are of
the kind `kind` picks out. -/
inductive Counted (env : Bool) (kind : Plant → Actor → Plant → Bool) :
    Plant → Nat → Plant → Prop where
  | refl (p : Plant) : Counted env kind p 0 p
  | step {p q r : Plant} {a : Actor} {n : Nat} (hp : Counted env kind p n q)
      (h : Transition env q a r) : Counted env kind p (n + if kind q a r then 1 else 0) r

end CameraAcquisition
