import CameraAcquisition.Sdk.Simulator
import Mathlib.Tactic.SplitIfs

/-!
# What the SDK calls do to the camera's resources

The controller holds two resources of the camera: a running capture and the frame buffer.
`Simulator.holdings` is the part of a simulated camera that says whether it holds them,
whether it answers calls at all (an initialised API and an opened device), and how often each
was taken and given back.

Each SDK call the controller makes has one lemma for what it does to the holdings. Starting a
capture takes the capture when the camera answers and is not capturing; stopping one gives it
back whenever the camera answers; allocating the buffer takes it when the camera answers, no
allocation failure is injected and the buffer is free; releasing it gives it back when the
camera answers and the buffer is allocated. Every other call leaves the holdings alone, and a
refused start leaves the camera as it was.

`SameBuffer` relates two cameras that agree on the frame buffer and its counters.

## What this module delivers

- `Sdk.Holdings`, `Simulator.holdings` and `Simulator.closedError_eq_none`.
- `Simulator.holdings_capStart`, `capStart_ok`, `capStart_error`, `holdings_capStop`,
  `holdings_bufAlloc`, `holdings_bufRelease` and the calls that keep the holdings.
- `Holdings.Balanced`, kept by every call that may change the holdings
  (`Simulator.balanced_capStart` and the others), with `capturing_capStop`,
  `allocated_bufRelease` and `bufAlloc_cases`.
- `Simulator.SameBuffer` with `sameBuffer_of_holdings`.
-/

set_option autoImplicit false

namespace CameraAcquisition

namespace Sdk

/-- The resources a camera holds for its user, and their counters. -/
structure Holdings where
  /-- The camera answers calls: its API is initialised and its device opened. -/
  live : Bool
  capturing : Bool
  allocated : Bool
  capStarts : Nat
  capStops : Nat
  bufAllocs : Nat
  bufReleases : Nat

namespace Holdings

/-- The counters agree with what the camera holds: every capture started and every buffer
allocated was stopped or released but the one held now, and the camera holds nothing unless
it answers calls. -/
structure Balanced (h : Holdings) : Prop where
  capStarts : h.capStarts = h.capStops + if h.capturing then 1 else 0
  bufAllocs : h.bufAllocs = h.bufReleases + if h.allocated then 1 else 0
  live_of_capturing : h.capturing = true → h.live = true
  live_of_allocated : h.allocated = true → h.live = true

end Holdings

namespace Simulator

/-- What a simulated camera holds. -/
def holdings (s : Simulator) : Holdings :=
  ⟨s.initialized && s.opened, s.capture.isSome, s.allocated, s.stats.capStarts,
    s.stats.capStops, s.stats.bufAllocs, s.stats.bufReleases⟩

variable (s : Simulator)

@[simp] theorem holdings_capturing : s.holdings.capturing = s.capture.isSome := rfl
@[simp] theorem holdings_allocated : s.holdings.allocated = s.allocated := rfl
@[simp] theorem holdings_capStarts : s.holdings.capStarts = s.stats.capStarts := rfl
@[simp] theorem holdings_capStops : s.holdings.capStops = s.stats.capStops := rfl
@[simp] theorem holdings_bufAllocs : s.holdings.bufAllocs = s.stats.bufAllocs := rfl
@[simp] theorem holdings_bufReleases : s.holdings.bufReleases = s.stats.bufReleases := rfl

/-- A call is refused for a closed camera only. -/
theorem closedError_eq_none (call : String) :
    s.closedError call = none ↔ s.holdings.live = true := by
  unfold closedError holdings
  cases s.initialized <;> cases s.opened <;> simp

/-- An answering camera runs the call; a closed one refuses it and stays as it was. -/
theorem whenOpen_eq {α : Type} (call : String) (k : Unit → Answer α) :
    s.whenOpen call k =
      if s.holdings.live then k ()
      else (.error ((s.closedError call).getD ⟨.notInit, call⟩), s) := by
  unfold whenOpen
  split
  · rename_i e he
    have hl : s.holdings.live = false := by
      cases hl : s.holdings.live
      · rfl
      · simp [(closedError_eq_none s call).2 hl] at he
    simp [hl, he]
  · rename_i he
    simp [(closedError_eq_none s call).1 he]

variable (m : CaptureMode)

theorem holdings_capStart : (s.capStart m).2.holdings =
    if s.holdings.live && !s.holdings.capturing then
      { s.holdings with capturing := true, capStarts := s.holdings.capStarts + 1 }
    else s.holdings := by
  unfold capStart
  rw [whenOpen_eq]
  cases hi : s.initialized <;> cases ho : s.opened <;> cases hc : s.capture.isSome <;>
    simp [holdings, hi, ho, hc]

theorem capStart_ok {u : Unit} (h : (s.capStart m).1 = .ok u) :
    s.holdings.live = true ∧ s.holdings.capturing = false := by
  unfold capStart at h
  rw [whenOpen_eq] at h
  by_cases hl : s.holdings.live <;> by_cases hc : s.capture.isSome <;> simp_all

/-- A refused capture start leaves the camera as it was. -/
theorem capStart_error {err : CallError} (h : (s.capStart m).1 = .error err) :
    (s.capStart m).2 = s := by
  unfold capStart at h ⊢
  rw [whenOpen_eq] at h ⊢
  by_cases hl : s.holdings.live <;> by_cases hc : s.capture.isSome <;> simp_all

theorem holdings_capStop : s.capStop.2.holdings =
    if s.holdings.live then
      { s.holdings with capturing := false, capStops := s.holdings.capStops + 1 }
    else s.holdings := by
  unfold capStop
  rw [whenOpen_eq]
  cases hi : s.initialized <;> cases ho : s.opened <;> simp [holdings, hi, ho]

theorem holdings_bufAlloc : s.bufAlloc.2.holdings =
    if s.holdings.live && !s.failNextAlloc && !s.holdings.allocated then
      { s.holdings with allocated := true, bufAllocs := s.holdings.bufAllocs + 1 }
    else s.holdings := by
  unfold bufAlloc
  rw [whenOpen_eq]
  cases hi : s.initialized <;> cases ho : s.opened <;> cases hf : s.failNextAlloc <;>
    cases ha : s.allocated <;> simp [holdings, hi, ho, ha]

theorem holdings_bufRelease : s.bufRelease.2.holdings =
    if s.holdings.live && s.holdings.allocated then
      { s.holdings with allocated := false, bufReleases := s.holdings.bufReleases + 1 }
    else s.holdings := by
  unfold bufRelease
  rw [whenOpen_eq]
  cases hi : s.initialized <;> cases ho : s.opened <;> cases ha : s.allocated <;>
    simp [holdings, hi, ho, ha]

@[simp] theorem holdings_capTrigger : s.capTrigger.2.holdings = s.holdings := by
  unfold capTrigger
  rw [whenOpen_eq]
  split <;> rfl

@[simp] theorem holdings_setCapTrigger (attr : TriggerAttr) :
    (s.setCapTrigger attr).2.holdings = s.holdings := by
  unfold setCapTrigger
  rw [whenOpen_eq]
  split
  · split <;> rfl
  · rfl

@[simp] theorem holdings_abortWait : s.abortWait.2.holdings = s.holdings := by
  unfold abortWait
  rw [whenOpen_eq]
  split <;> rfl

@[simp] theorem holdings_doSoftwareTrigger : s.doSoftwareTrigger.2.holdings = s.holdings := by
  unfold doSoftwareTrigger
  rw [whenOpen_eq]
  split
  · split <;> rfl
  · rfl

@[simp] theorem holdings_setRoi (attr : RoiAttr) : (s.setRoi attr).2.holdings = s.holdings := by
  unfold setRoi
  rw [whenOpen_eq]
  split
  · split_ifs <;> rfl
  · rfl

@[simp] theorem holdings_waitForFrame (patient : Bool) (f : Frame) :
    (s.waitForFrame patient f).2.holdings = s.holdings := by
  unfold waitForFrame deliver
  split
  · rfl
  · split_ifs <;> (try split) <;> (try split_ifs) <;> rfl

/-! ### Balanced counters -/

/-- A capture start keeps the counters balanced. -/
theorem balanced_capStart (h : s.holdings.Balanced) : (s.capStart m).2.holdings.Balanced := by
  have hs := h.capStarts
  rw [holdings_capStart]
  split
  · next hc =>
    simp only [Bool.and_eq_true, Bool.not_eq_true'] at hc
    refine ⟨?_, h.bufAllocs, fun _ => hc.1, h.live_of_allocated⟩
    simp only [hc.2] at hs
    simpa using hs
  · exact h

/-- A capture stop keeps the counters balanced when an answering camera was capturing. -/
theorem balanced_capStop (h : s.holdings.Balanced)
    (hc : s.holdings.live = true → s.holdings.capturing = true) :
    s.capStop.2.holdings.Balanced := by
  have hs := h.capStarts
  rw [holdings_capStop]
  split
  · next hl =>
    refine ⟨?_, h.bufAllocs, by simp, h.live_of_allocated⟩
    simp only [hc hl] at hs
    simpa using hs
  · exact h

/-- An allocation keeps the counters balanced. -/
theorem balanced_bufAlloc (h : s.holdings.Balanced) : s.bufAlloc.2.holdings.Balanced := by
  have hs := h.bufAllocs
  rw [holdings_bufAlloc]
  split
  · next ha =>
    simp only [Bool.and_eq_true, Bool.not_eq_true'] at ha
    refine ⟨h.capStarts, ?_, h.live_of_capturing, fun _ => ha.1.1⟩
    simp only [ha.2] at hs
    simpa using hs
  · exact h

/-- A release keeps the counters balanced. -/
theorem balanced_bufRelease (h : s.holdings.Balanced) : s.bufRelease.2.holdings.Balanced := by
  have hs := h.bufAllocs
  rw [holdings_bufRelease]
  split
  · next ha =>
    simp only [Bool.and_eq_true] at ha
    refine ⟨h.capStarts, ?_, h.live_of_capturing, by simp⟩
    simp only [ha.2] at hs
    simpa using hs
  · exact h

/-- A balanced camera has no capture after a capture stop. -/
theorem capturing_capStop (h : s.holdings.Balanced) : s.capStop.2.capture.isSome = false := by
  have hc := holdings_capStop s
  split at hc
  · exact congrArg Holdings.capturing hc
  · next hl =>
    have e := congrArg Holdings.capturing hc
    simp only [holdings_capturing] at e
    rw [e]
    cases hcap : s.capture.isSome
    · rfl
    · simp [h.live_of_capturing (by simpa using hcap)] at hl

/-- A balanced camera has no buffer after a release. -/
theorem allocated_bufRelease (h : s.holdings.Balanced) : s.bufRelease.2.allocated = false := by
  have ha := holdings_bufRelease s
  split at ha
  · exact congrArg Holdings.allocated ha
  · next hl =>
    have e := congrArg Holdings.allocated ha
    simp only [holdings_allocated] at e
    rw [e]
    cases hal : s.allocated
    · rfl
    · simp [h.live_of_allocated (by simpa using hal), hal] at hl

/-- A capture started and stopped at once on a balanced camera that captures nothing leaves it
balanced, capturing nothing, with the same buffer. -/
theorem capStart_capStop (h : s.holdings.Balanced) (hc : s.capture.isSome = false) :
    (s.capStart m).2.capStop.2.holdings.Balanced ∧
      (s.capStart m).2.capStop.2.capture.isSome = false ∧
      (s.capStart m).2.capStop.2.allocated = s.allocated := by
  have h1 := balanced_capStart s m h
  have hs := holdings_capStart s m
  have hc' : s.holdings.capturing = false := by simpa using hc
  -- the capture is held exactly when the camera answered the start
  have hheld : (s.capStart m).2.holdings.live = true →
      (s.capStart m).2.holdings.capturing = true := by
    rw [hs]
    split
    · simp
    · next hl => simp_all
  have ha1 : (s.capStart m).2.allocated = s.allocated := by
    have := congrArg Holdings.allocated hs
    split at this <;> simpa using this
  have ha2 : (s.capStart m).2.capStop.2.allocated = (s.capStart m).2.allocated := by
    have := congrArg Holdings.allocated (holdings_capStop (s.capStart m).2)
    split at this <;> simpa using this
  exact ⟨balanced_capStop _ h1 hheld, capturing_capStop _ h1, ha2.trans ha1⟩

/-- An allocation that succeeds leaves the buffer allocated; one that fails leaves the
holdings alone. -/
theorem bufAlloc_cases : (∃ f, s.bufAlloc.1 = .ok f ∧ s.bufAlloc.2.allocated = true) ∨
    (∃ e, s.bufAlloc.1 = .error e ∧ s.bufAlloc.2.holdings = s.holdings) := by
  have hh := holdings_bufAlloc s
  unfold bufAlloc at hh ⊢
  rw [whenOpen_eq] at hh ⊢
  by_cases hl : s.holdings.live <;> by_cases hf : s.failNextAlloc <;>
    by_cases ha : s.allocated <;> simp_all

/-! ## Counting capture starts -/

/-- A capture start is counted exactly when the camera grants it. -/
theorem capStarts_capStart : (s.capStart m).2.stats.capStarts =
    s.stats.capStarts + if (s.capStart m).1.isOk then 1 else 0 := by
  unfold capStart
  rw [whenOpen_eq]
  by_cases hl : s.holdings.live <;> by_cases hc : s.capture.isSome <;>
    simp_all [Except.isOk, Except.toBool]

/-- A camera that granted a capture start grants its stop. -/
theorem capStop_capStart_ok {u : Unit} {err : CallError} (h : (s.capStart m).1 = .ok u) :
    (s.capStart m).2.capStop.1 ≠ .error err := by
  obtain ⟨hl, hc⟩ := capStart_ok s m h
  unfold capStop
  rw [whenOpen_eq]
  have hh := holdings_capStart s m
  rw [if_pos (by rw [hl, hc]; rfl)] at hh
  have hl' : (s.capStart m).2.holdings.live = true := by rw [hh]; exact hl
  simp [hl']

/-- The calls that stop the capture or take or give back the buffer count no capture start. -/
@[simp] theorem capStarts_capStop : s.capStop.2.stats.capStarts = s.stats.capStarts := by
  have h := congrArg Holdings.capStarts (holdings_capStop s)
  split at h <;> simpa using h

@[simp] theorem capStarts_bufAlloc : s.bufAlloc.2.stats.capStarts = s.stats.capStarts := by
  have h := congrArg Holdings.capStarts (holdings_bufAlloc s)
  split at h <;> simpa using h

@[simp] theorem capStarts_bufRelease : s.bufRelease.2.stats.capStarts = s.stats.capStarts := by
  have h := congrArg Holdings.capStarts (holdings_bufRelease s)
  split at h <;> simpa using h

/-- Two cameras agree on the frame buffer: whether it is allocated, and how often it was
allocated and released. -/
structure SameBuffer (s s' : Simulator) : Prop where
  allocated : s'.allocated = s.allocated
  bufAllocs : s'.stats.bufAllocs = s.stats.bufAllocs
  bufReleases : s'.stats.bufReleases = s.stats.bufReleases

theorem SameBuffer.refl : SameBuffer s s := ⟨rfl, rfl, rfl⟩

theorem sameBuffer_of_holdings {s' : Simulator} (h : s'.holdings = s.holdings) :
    SameBuffer s s' := by
  have ha := congrArg Holdings.allocated h
  have hb := congrArg Holdings.bufAllocs h
  have hr := congrArg Holdings.bufReleases h
  exact ⟨ha, hb, hr⟩

theorem sameBuffer_capStart : SameBuffer s (s.capStart m).2 := by
  have h := holdings_capStart s m
  split at h <;> exact ⟨congrArg Holdings.allocated h, congrArg Holdings.bufAllocs h,
    congrArg Holdings.bufReleases h⟩

theorem sameBuffer_capStop : SameBuffer s s.capStop.2 := by
  have h := holdings_capStop s
  split at h <;> exact ⟨congrArg Holdings.allocated h, congrArg Holdings.bufAllocs h,
    congrArg Holdings.bufReleases h⟩

end Simulator

end Sdk

end CameraAcquisition
