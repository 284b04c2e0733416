import CameraAcquisition.Proofs.Sdk.Resources

/-!
# What the SDK calls do to software triggers

A capture in software trigger mode delivers one frame per trigger. A trigger goes through only
while the camera answers calls and captures in that mode; it is then pending until a frame
wait takes it. `Simulator.feed` is the part of a simulated camera that says how far this has
come: the mode of the running capture, the triggers pending, and the triggers that went through
in all.

Starting a capture that the camera takes, or stopping one, drops the pending triggers; a
trigger that goes through adds a pending trigger and counts; a frame wait that delivers takes a
pending trigger in software trigger mode and none in the other modes, and one that fails takes
none. Every other call leaves the feed alone.

## What this module delivers

- `Sdk.Feed` and `Simulator.feed`.
- `Simulator.feed_capStart`, `feed_capStop`, `doSoftwareTrigger_fires`,
  `doSoftwareTrigger_cases`, the frame wait's `waitForFrame_capture`, `waitForFrame_triggers`,
  `waitForFrame_takes` and `waitForFrame_failed`, and the calls that keep the feed or the count
  of triggers.
-/

set_option autoImplicit false

namespace CameraAcquisition

namespace Sdk

/-- The software trigger side of a camera: the running capture's mode, the triggers pending,
and the count of triggers that went through. -/
structure Feed where
  capture : Option CaptureMode
  pending : Nat
  triggers : Nat

namespace Simulator

/-- The software trigger side of a simulated camera. -/
def feed (s : Simulator) : Feed := ⟨s.capture, s.pendingTriggers, s.stats.softwareTriggers⟩

variable (s : Simulator)

@[simp] theorem feed_capture : s.feed.capture = s.capture := rfl
@[simp] theorem feed_pending : s.feed.pending = s.pendingTriggers := rfl
@[simp] theorem feed_triggers : s.feed.triggers = s.stats.softwareTriggers := rfl

/-- A capture start the camera takes runs a capture in the given mode with nothing pending. -/
theorem feed_capStart (m : CaptureMode) : (s.capStart m).2.feed =
    if s.holdings.live && s.capture.isNone then ⟨some m, 0, s.stats.softwareTriggers⟩
    else s.feed := by
  unfold capStart
  rw [whenOpen_eq]
  cases hl : s.holdings.live <;> cases hc : s.capture <;> simp [feed, hc]

/-- A capture stop the camera answers ends the capture and drops what is pending. -/
theorem feed_capStop : s.capStop.2.feed =
    if s.holdings.live then ⟨none, 0, s.stats.softwareTriggers⟩ else s.feed := by
  unfold capStop
  rw [whenOpen_eq]
  cases hl : s.holdings.live <;> simp [feed]

@[simp] theorem feed_bufAlloc : s.bufAlloc.2.feed = s.feed := by
  unfold bufAlloc
  rw [whenOpen_eq]
  split
  · split_ifs <;> rfl
  · rfl

@[simp] theorem feed_bufRelease : s.bufRelease.2.feed = s.feed := by
  unfold bufRelease
  rw [whenOpen_eq]
  split
  · split_ifs <;> rfl
  · rfl

@[simp] theorem feed_abortWait : s.abortWait.2.feed = s.feed := by
  unfold abortWait
  rw [whenOpen_eq]
  split <;> rfl

@[simp] theorem feed_setRoi (attr : RoiAttr) : (s.setRoi attr).2.feed = s.feed := by
  unfold setRoi
  rw [whenOpen_eq]
  split
  · split_ifs <;> rfl
  · rfl

@[simp] theorem triggers_bufAlloc :
    s.bufAlloc.2.stats.softwareTriggers = s.stats.softwareTriggers :=
  congrArg Feed.triggers s.feed_bufAlloc

@[simp] theorem triggers_bufRelease :
    s.bufRelease.2.stats.softwareTriggers = s.stats.softwareTriggers :=
  congrArg Feed.triggers s.feed_bufRelease

/-- A capture start changes no count of triggers. -/
@[simp] theorem triggers_capStart (m : CaptureMode) :
    (s.capStart m).2.stats.softwareTriggers = s.stats.softwareTriggers := by
  have e := congrArg Feed.triggers (s.feed_capStart m)
  simp only [feed_triggers] at e
  rw [e]
  split <;> rfl

@[simp] theorem triggers_capStop :
    s.capStop.2.stats.softwareTriggers = s.stats.softwareTriggers := by
  have e := congrArg Feed.triggers s.feed_capStop
  simp only [feed_triggers] at e
  rw [e]
  split <;> rfl

/-- A trigger on a camera that answers and captures in software trigger mode goes through:
one more trigger pending, one more counted. -/
theorem doSoftwareTrigger_fires (hl : s.holdings.live = true)
    (hc : s.capture = some .triggerSoftware) :
    s.doSoftwareTrigger.1 = .ok () ∧ s.doSoftwareTrigger.2.feed =
      ⟨s.capture, s.pendingTriggers + 1, s.stats.softwareTriggers + 1⟩ := by
  unfold doSoftwareTrigger
  rw [whenOpen_eq, if_pos hl, hc]
  exact ⟨rfl, rfl⟩

/-- A trigger goes through, or is refused and leaves the camera as it was. -/
theorem doSoftwareTrigger_cases :
    (s.doSoftwareTrigger.1 = .ok () ∧ s.capture = some .triggerSoftware ∧
      s.doSoftwareTrigger.2.feed =
        ⟨s.capture, s.pendingTriggers + 1, s.stats.softwareTriggers + 1⟩) ∨
    (∃ err, s.doSoftwareTrigger.1 = .error err ∧ s.doSoftwareTrigger.2 = s) := by
  by_cases hl : s.holdings.live
  · by_cases hc : s.capture = some .triggerSoftware
    · exact .inl ⟨(s.doSoftwareTrigger_fires hl hc).1, hc, (s.doSoftwareTrigger_fires hl hc).2⟩
    · -- the derived test of the mode, decided on each mode
      have hb : (s.capture != some CaptureMode.triggerSoftware) = true := by
        rcases hm : s.capture with _ | m
        · rfl
        · cases m
          case triggerSoftware => exact absurd hm hc
          all_goals rfl
      unfold doSoftwareTrigger
      rw [whenOpen_eq, if_pos hl, if_pos hb]
      exact .inr ⟨_, rfl, rfl⟩
  · unfold doSoftwareTrigger
    rw [whenOpen_eq, if_neg hl]
    exact .inr ⟨_, rfl, rfl⟩

/-- A trigger leaves the capture running as it was. -/
@[simp] theorem doSoftwareTrigger_capture : s.doSoftwareTrigger.2.capture = s.capture := by
  rcases s.doSoftwareTrigger_cases with ⟨-, -, e⟩ | ⟨err, -, e⟩
  · exact congrArg Feed.capture e
  · rw [e]

/-! ### Frame waits -/

variable (patient : Bool) (f : Frame)

/-- A frame wait leaves the capture running as it was. -/
@[simp] theorem waitForFrame_capture : (s.waitForFrame patient f).2.capture = s.capture := by
  unfold waitForFrame deliver
  split
  · rfl
  · split_ifs <;> (try split) <;> (try split_ifs) <;> rfl

/-- A frame wait fires no trigger. -/
@[simp] theorem waitForFrame_triggers :
    (s.waitForFrame patient f).2.stats.softwareTriggers = s.stats.softwareTriggers := by
  unfold waitForFrame deliver
  split
  · rfl
  · split_ifs <;> (try split) <;> (try split_ifs) <;> rfl

/-- A frame delivered in software trigger mode takes one pending trigger; in any other mode it
takes none. -/
theorem waitForFrame_takes {g : Frame} (h : (s.waitForFrame patient f).1 = .captured g) :
    if s.capture = some .triggerSoftware then
      (s.waitForFrame patient f).2.pendingTriggers + 1 = s.pendingTriggers
    else (s.waitForFrame patient f).2.pendingTriggers = s.pendingTriggers := by
  unfold waitForFrame deliver at h ⊢
  split at h
  · cases h
  · rcases hm : s.capture with _ | m
    · simp [hm] at h
    · -- the derived test of the mode, read as a decision
      have hb : (m == CaptureMode.triggerSoftware) = decide (m = .triggerSoftware) := by
        cases m <;> rfl
      simp only [hb, Option.some.injEq] at h ⊢
      split_ifs at h ⊢ <;> simp_all; try omega

/-- A frame wait that fails takes no trigger. -/
theorem waitForFrame_failed {err : CallError} (h : (s.waitForFrame patient f).1 = .failed err) :
    (s.waitForFrame patient f).2.feed = s.feed := by
  have hp : (s.waitForFrame patient f).2.pendingTriggers = s.pendingTriggers := by
    unfold waitForFrame deliver at h ⊢
    split at h
    · rfl
    · rcases hm : s.capture with _ | m
      · simp
      · simp only [hm] at h ⊢
        split_ifs at h ⊢ <;> rfl
  simp only [feed, waitForFrame_capture, waitForFrame_triggers, hp]

end Simulator

end Sdk

end CameraAcquisition
