import CameraAcquisition.Proofs.Sdk.Resources
import CameraAcquisition.Sdk.Blocking

/-!
# What a frame wait writes

A frame wait taken pause by pause (`Sdk.Blocking`) writes only a few fields of the camera: the
abort latch with its count, the injected failures left, the triggers pending, and the next
frame's index with the count of frames. `Simulator.WaitsFrom s s'` says that `s'` is `s` with at
most those fields changed. Each part of a wait, its beginning and every wake-up, leads from the
camera it finds to one it `WaitsFrom` (`Simulator.waitsFrom_beginWait`,
`Simulator.waitsFrom_wake`), so the capture, the holdings, the region and the trigger settings
stay as they were.

The count of frames grows by one exactly when a part of a wait returns a frame, which only a
wake-up at the end of the exposure does, and the frame is the next in the camera's order
(`Simulator.beginWait_frames`, `Simulator.wake_frames`, `Simulator.wake_captured`). A wait takes a
pending trigger only in the software-trigger loop, on its way to the exposure, and never gives
one back: the triggers pending, a wait past its trigger and a frame returned never count more
after a part of a wait than before (`Simulator.beginWait_triggers`, `Simulator.wake_triggers`).

## What this module delivers

- `Pause.pastTrigger`, `Progress.pastTrigger` and `Progress.delivers`.
- `Simulator.WaitsFrom` with `WaitsFrom.trans`, `waitsFrom_beginWait`, `waitsFrom_wake` and the
  fields it keeps.
- `Simulator.beginWait_frames`, `Simulator.wake_frames`, `Simulator.wake_captured`.
- `Simulator.beginWait_triggers`, `Simulator.wake_triggers`.
-/

set_option autoImplicit false

namespace CameraAcquisition.Sdk

/-- Whether a wait paused at `p` is past the software-trigger loop. -/
def Pause.pastTrigger : Pause → Bool
  | .trigger => false
  | .period | .exposure => true

/-- Whether a wait paused past the software-trigger loop. -/
def Progress.pastTrigger : Progress → Bool
  | .paused p => p.pastTrigger
  | .returned _ => false

/-- Whether a wait returned a frame. -/
def Progress.delivers : Progress → Bool
  | .returned (.captured _) => true
  | _ => false

@[simp] theorem Progress.pastTrigger_paused (p : Pause) :
    (Progress.paused p).pastTrigger = p.pastTrigger := rfl
@[simp] theorem Progress.pastTrigger_returned (w : Wait) :
    (Progress.returned w).pastTrigger = false := rfl
@[simp] theorem Progress.delivers_paused (p : Pause) : (Progress.paused p).delivers = false := rfl
@[simp] theorem Progress.delivers_captured (f : Frame) :
    (Progress.returned (.captured f)).delivers = true := rfl
@[simp] theorem Progress.delivers_failed (e : CallError) :
    (Progress.returned (.failed e)).delivers = false := rfl

namespace Simulator

/-- `s'` is `s` with at most what a frame wait writes changed: the abort latch and its count,
the injected failures left, the triggers pending, the next frame's index and the count of
frames. -/
def WaitsFrom (s s' : Simulator) : Prop :=
  ∃ (latched : Bool) (aborts failures pending index frames : Nat),
    s' = { s with abortPending := latched, failNextWaits := failures, pendingTriggers := pending,
                  nextIndex := index, stats := { s.stats with aborts, frames } }

variable {s s' s'' : Simulator}

theorem WaitsFrom.refl (s : Simulator) : WaitsFrom s s :=
  ⟨s.abortPending, s.stats.aborts, s.failNextWaits, s.pendingTriggers, s.nextIndex,
    s.stats.frames, rfl⟩

theorem WaitsFrom.trans (h : WaitsFrom s s') (h' : WaitsFrom s' s'') : WaitsFrom s s'' := by
  obtain ⟨l, a, fl, pd, i, fr, rfl⟩ := h'
  obtain ⟨-, -, -, -, -, -, rfl⟩ := h
  exact ⟨l, a, fl, pd, i, fr, rfl⟩

section Keeps

variable (h : WaitsFrom s s')
include h

theorem WaitsFrom.capture_eq : s'.capture = s.capture := by
  obtain ⟨-, -, -, -, -, -, rfl⟩ := h
  rfl

theorem WaitsFrom.holdings_eq : s'.holdings = s.holdings := by
  obtain ⟨-, -, -, -, -, -, rfl⟩ := h
  rfl

theorem WaitsFrom.config_eq : s'.config = s.config := by
  obtain ⟨-, -, -, -, -, -, rfl⟩ := h
  rfl

theorem WaitsFrom.roi_eq : s'.roi = s.roi := by
  obtain ⟨-, -, -, -, -, -, rfl⟩ := h
  rfl

theorem WaitsFrom.trigger_eq : s'.trigger = s.trigger := by
  obtain ⟨-, -, -, -, -, -, rfl⟩ := h
  rfl

end Keeps

/-! ## Each part of a wait -/

theorem waitsFrom_checkAbort (s : Simulator) : WaitsFrom s s.checkAbort.2 := by
  unfold checkAbort
  split_ifs
  · exact ⟨_, _, _, _, _, _, rfl⟩
  all_goals exact WaitsFrom.refl s

theorem waitsFrom_deliver (s : Simulator) (f : Frame) : WaitsFrom s (s.deliver f).2 :=
  ⟨_, _, _, _, _, _, rfl⟩

/-- A pause is entered with the camera its abort check leaves. -/
theorem pauseAt_snd (s : Simulator) (p : Pause) : (s.pauseAt p).2 = s.checkAbort.2 := by
  unfold pauseAt
  split <;> simp_all

theorem waitsFrom_pauseAt (s : Simulator) (p : Pause) : WaitsFrom s (s.pauseAt p).2 := by
  rw [pauseAt_snd]
  exact waitsFrom_checkAbort s

theorem waitsFrom_triggerRound (s : Simulator) : WaitsFrom s s.triggerRound.2 := by
  have hc := waitsFrom_checkAbort s
  unfold triggerRound
  split
  · next h => simpa [h] using hc
  · next s₁ h =>
    simp only [h] at hc
    split_ifs
    · exact hc.trans (WaitsFrom.trans ⟨_, _, _, _, _, _, rfl⟩ (waitsFrom_pauseAt _ _))
    · exact hc

theorem waitsFrom_beginWait (s : Simulator) : WaitsFrom s s.beginWait.2 := by
  unfold beginWait
  split
  · exact WaitsFrom.refl s
  split_ifs
  · exact WaitsFrom.refl s
  split
  · exact WaitsFrom.refl s
  have hc := waitsFrom_checkAbort s
  split
  · next h => simpa [h] using hc
  · next s₁ h =>
    simp only [h] at hc
    split_ifs
    · exact hc.trans ⟨_, _, _, _, _, _, rfl⟩
    split
    · exact hc.trans (waitsFrom_triggerRound s₁)
    · exact hc.trans (waitsFrom_pauseAt s₁ _)
    · exact hc.trans (waitsFrom_pauseAt s₁ _)

theorem waitsFrom_wake (s : Simulator) (p : Pause) (timedOut : Bool) (f : Frame) :
    WaitsFrom s (s.wake p timedOut f).2 := by
  have hc := waitsFrom_checkAbort s
  unfold wake
  split
  · exact waitsFrom_triggerRound s
  all_goals
    split_ifs
    · split
      · next h => simpa [h] using hc
      · next s₁ h =>
        simp only [h] at hc
        first
          | exact hc.trans (waitsFrom_pauseAt s₁ _)
          | exact hc.trans (waitsFrom_deliver s₁ f)
    · exact waitsFrom_pauseAt s _

/-! ## The frames a wait returns -/

theorem checkAbort_frames (s : Simulator) : s.checkAbort.2.stats.frames = s.stats.frames := by
  unfold checkAbort
  split_ifs <;> rfl

theorem pauseAt_delivers (s : Simulator) (p : Pause) : (s.pauseAt p).1.delivers = false := by
  unfold pauseAt
  split <;> rfl

theorem pauseAt_frames (s : Simulator) (p : Pause) :
    (s.pauseAt p).2.stats.frames = s.stats.frames := by
  rw [pauseAt_snd, checkAbort_frames]

theorem triggerRound_frames (s : Simulator) :
    s.triggerRound.1.delivers = false ∧ s.triggerRound.2.stats.frames = s.stats.frames := by
  have hc := checkAbort_frames s
  unfold triggerRound
  split
  · next h => simpa [h] using hc
  · next s₁ h =>
    simp only [h] at hc
    split_ifs
    · exact ⟨pauseAt_delivers _ _, by rw [pauseAt_frames]; exact hc⟩
    · exact ⟨rfl, hc⟩

/-- The beginning of a wait returns no frame and counts none. -/
theorem beginWait_frames (s : Simulator) :
    s.beginWait.1.delivers = false ∧ s.beginWait.2.stats.frames = s.stats.frames := by
  unfold beginWait
  split
  · exact ⟨rfl, rfl⟩
  split_ifs
  · exact ⟨rfl, rfl⟩
  split
  · exact ⟨rfl, rfl⟩
  have hc := checkAbort_frames s
  split
  · next h => simpa [h] using hc
  · next s₁ h =>
    simp only [h] at hc
    split_ifs
    · exact ⟨rfl, hc⟩
    split
    · exact (triggerRound_frames s₁).imp id (·.trans hc)
    all_goals exact ⟨pauseAt_delivers _ _, (pauseAt_frames _ _).trans hc⟩

/-- A wake-up counts a frame exactly when it returns one. -/
theorem wake_frames (s : Simulator) (p : Pause) (timedOut : Bool) (f : Frame) :
    (s.wake p timedOut f).2.stats.frames =
      s.stats.frames + (s.wake p timedOut f).1.delivers.toNat := by
  have hc := checkAbort_frames s
  cases p with
  | trigger =>
    obtain ⟨hd, hf⟩ := triggerRound_frames s
    simp only [wake, hd, hf]
    rfl
  | period =>
    simp only [wake]
    split_ifs
    · split
      · next h => simp [h] at hc ⊢; exact hc
      · next s₁ h =>
        simp only [h] at hc
        simp [pauseAt_delivers, pauseAt_frames, hc]
    · simp [pauseAt_delivers, pauseAt_frames]
  | exposure =>
    simp only [wake]
    split_ifs
    · split
      · next h => simp [h] at hc ⊢; exact hc
      · next s₁ h =>
        simp only [h] at hc
        simp [deliver, hc]
    · simp [pauseAt_delivers, pauseAt_frames]

/-! ## The triggers a wait takes -/

theorem checkAbort_pending (s : Simulator) :
    s.checkAbort.2.pendingTriggers = s.pendingTriggers := by
  unfold checkAbort
  split_ifs <;> rfl

theorem pauseAt_triggers (s : Simulator) (p : Pause) :
    (s.pauseAt p).2.pendingTriggers + (s.pauseAt p).1.pastTrigger.toNat ≤
      s.pendingTriggers + p.pastTrigger.toNat := by
  have hc := checkAbort_pending s
  rw [pauseAt_snd, hc]
  unfold pauseAt
  split <;> simp

/-- A round of the software-trigger loop takes a pending trigger only on its way past the loop,
and returns no frame. -/
theorem triggerRound_triggers (s : Simulator) :
    s.triggerRound.2.pendingTriggers + s.triggerRound.1.pastTrigger.toNat +
      s.triggerRound.1.delivers.toNat ≤ s.pendingTriggers := by
  have hc := checkAbort_pending s
  unfold triggerRound
  split
  · next h => simp [h] at hc ⊢; omega
  · next s₁ h =>
    simp only [h] at hc
    split_ifs with hp
    · have := pauseAt_triggers { s₁ with pendingTriggers := s₁.pendingTriggers - 1 } .exposure
      simp only [pauseAt_delivers, Bool.toNat_false, Nat.add_zero]
      simp only [Pause.pastTrigger, Bool.toNat_true] at this
      omega
    · simp [hc, Pause.pastTrigger]

/-- On a camera in software trigger mode, the beginning of a wait takes a pending trigger only
on its way past the software-trigger loop, and returns no frame. -/
theorem beginWait_triggers (hc : s.capture = some .triggerSoftware) :
    s.beginWait.2.pendingTriggers + s.beginWait.1.pastTrigger.toNat +
      s.beginWait.1.delivers.toNat ≤ s.pendingTriggers := by
  unfold beginWait
  split
  · simp
  split_ifs
  · simp
  simp only [hc]
  have hp := checkAbort_pending s
  split
  · next h => simp [h] at hp ⊢; omega
  · next s₁ h =>
    simp only [h] at hp
    split_ifs
    · simp [hp]
    · exact hp ▸ triggerRound_triggers s₁

/-- A wake-up takes a pending trigger only on its way past the software-trigger loop, and a
wait past the loop that returns a frame or fails has none to give back. -/
theorem wake_triggers (s : Simulator) (p : Pause) (timedOut : Bool) (f : Frame) :
    (s.wake p timedOut f).2.pendingTriggers + (s.wake p timedOut f).1.pastTrigger.toNat +
      (s.wake p timedOut f).1.delivers.toNat ≤ s.pendingTriggers + p.pastTrigger.toNat := by
  have hc := checkAbort_pending s
  cases p with
  | trigger => simpa [wake, Pause.pastTrigger] using triggerRound_triggers s
  | period =>
    simp only [wake]
    split_ifs
    · split
      · next h => simp [h] at hc ⊢; omega
      · next s₁ h =>
        simp only [h] at hc
        have := pauseAt_triggers s₁ .exposure
        simp only [pauseAt_delivers, Pause.pastTrigger, Bool.toNat_true, Bool.toNat_false] at this ⊢
        omega
    · have := pauseAt_triggers s .period
      simp only [pauseAt_delivers, Pause.pastTrigger, Bool.toNat_true, Bool.toNat_false] at this ⊢
      omega
  | exposure =>
    simp only [wake]
    split_ifs
    · split
      · next h => simp [h] at hc ⊢; omega
      · next s₁ h =>
        simp only [h] at hc
        simp [deliver, hc, Pause.pastTrigger]
    · have := pauseAt_triggers s .exposure
      simp only [pauseAt_delivers, Pause.pastTrigger, Bool.toNat_true, Bool.toNat_false] at this ⊢
      omega

end Simulator

end CameraAcquisition.Sdk
