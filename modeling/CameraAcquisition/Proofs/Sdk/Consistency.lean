import CameraAcquisition.Proofs.Sdk.Region
import CameraAcquisition.Proofs.Image.Bytes

/-!
# What every sequence of SDK calls keeps

A simulated camera answers every entry point of the SDK (`Entry`) from one state, behind guards
that each call checks in its own order: an initialised API and an opened device, a capture
running, a buffer allocated. `Entry.apply` is the camera after a call, whatever it answered, and
`Simulator.run` the camera after a sequence of calls.

The invariants read a part of the camera only, its tally (`Simulator.tally`): the build, the
region, the trigger outputs, the buffer with its counters, and the frame counter with the count
of frames. Seventeen of the twenty-three calls leave the tally as it was (`Simulator.tally_apply`);
the allocation, the release, the frame wait, the region write and the output write each keep it
consistent (`Tally.Consistent`) by a lemma of their own. So every sequence of calls on a camera
just made leaves it consistent, and the region and the trigger set-up change only while the
camera does not capture (`calls_keep_camera_consistent`).

## What this module delivers

- `Entry` with `Entry.apply`, `Entry.writesTally`, `Entry.writesSetup`, and `Simulator.run`.
- `Tally`, `Simulator.tally`, `Simulator.tally_apply`, `Simulator.setup_apply`,
  `Simulator.waitForFrame_tally`.
- `Tally.Consistent` with `consistent_make`, one `consistent_*` lemma per call that writes the
  tally, `consistent_apply` and `consistent_run`.
- `setup_of_capturing`, `setTriggerOut_refused`, `setTriggerOut_eq`, `bufAlloc_frame`.
- `calls_keep_camera_consistent`.
-/

set_option autoImplicit false

namespace CameraAcquisition.Sdk

/-- An entry point of the SDK, with its arguments. -/
inductive Entry where
  | apiInit
  | apiUninit
  | devOpen (index : Nat)
  | devClose
  | devInfo (id : InfoId)
  | propAttr (id : PropId)
  | propValue (id : PropId)
  | setPropValue (id : PropId) (v : Float)
  | capaValue (id : CapaId)
  | setCapaValue (id : CapaId) (v : Int)
  | bufAlloc
  | bufRelease
  | capTrigger
  | setCapTrigger (attr : TriggerAttr)
  | capStart (mode : CaptureMode)
  | capStop
  | waitForFrame (patient : Bool) (f : Frame)
  | abortWait
  | doSoftwareTrigger
  | roi
  | setRoi (attr : RoiAttr)
  | triggerOut (channel : Nat)
  | setTriggerOut (attr : TriggerOutAttr)

namespace Entry

/-- The camera after a call, whatever the call answered. -/
def apply : Entry → Simulator → Simulator
  | apiInit, s => s.apiInit.2
  | apiUninit, s => s.apiUninit
  | devOpen index, s => (s.devOpen index).2
  | devClose, s => s.devClose
  | devInfo id, s => (s.devInfo id).2
  | propAttr id, s => (s.propAttr id).2
  | propValue id, s => (s.propValue id).2
  | setPropValue id v, s => (s.setPropValue id v).2
  | capaValue id, s => (s.capaValue id).2
  | setCapaValue id v, s => (s.setCapaValue id v).2
  | bufAlloc, s => s.bufAlloc.2
  | bufRelease, s => s.bufRelease.2
  | capTrigger, s => s.capTrigger.2
  | setCapTrigger attr, s => (s.setCapTrigger attr).2
  | capStart mode, s => (s.capStart mode).2
  | capStop, s => s.capStop.2
  | waitForFrame patient f, s => (s.waitForFrame patient f).2
  | abortWait, s => s.abortWait.2
  | doSoftwareTrigger, s => s.doSoftwareTrigger.2
  | roi, s => s.getRoi.2
  | setRoi attr, s => (s.setRoi attr).2
  | triggerOut channel, s => (s.triggerOut channel).2
  | setTriggerOut attr, s => (s.setTriggerOut attr).2

/-- Whether a call may write the region, the trigger outputs, the buffer or the frame
counter. -/
def writesTally : Entry → Bool
  | bufAlloc | bufRelease | waitForFrame _ _ | setRoi _ | setTriggerOut _ => true
  | _ => false

/-- Whether a call may write the region or the trigger set-up. -/
def writesSetup : Entry → Bool
  | setRoi _ | setCapTrigger _ => true
  | _ => false

end Entry

/-- The camera after a sequence of calls. -/
def Simulator.run (calls : List Entry) (s : Simulator) : Simulator :=
  calls.foldl (fun s e => e.apply s) s

/-- The tally of a camera, what its invariants read: its build, its region, its trigger
outputs, whether its buffer is allocated with the buffer counters, and its frame counter with
the count of frames. -/
structure Tally where
  config : SimConfig
  roi : RoiAttr
  outputs : List TriggerOutAttr
  allocated : Bool
  bufAllocs : Nat
  bufReleases : Nat
  nextIndex : Nat
  frames : Nat

namespace Simulator

/-- The tally of a camera. -/
def tally (s : Simulator) : Tally :=
  ⟨s.config, s.roi, s.outputs, s.allocated, s.stats.bufAllocs, s.stats.bufReleases, s.nextIndex,
    s.stats.frames⟩

variable (s : Simulator)

/-- A call that writes none of the tally leaves it as it was. -/
theorem tally_apply (e : Entry) (h : e.writesTally = false) : (e.apply s).tally = s.tally := by
  cases e <;> simp only [Entry.writesTally, Bool.true_eq_false] at h <;>
    simp only [Entry.apply, apiInit, apiUninit, devOpen, devClose, devInfo, propAttr, propValue,
      setPropValue, capaValue, setCapaValue, capTrigger, setCapTrigger, capStart, capStop,
      abortWait, doSoftwareTrigger, getRoi, triggerOut, whenOpen_eq] <;>
    repeat' split
  all_goals rfl

/-- A call other than the two writes leaves the region and the trigger set-up. -/
theorem setup_apply (e : Entry) (h : e.writesSetup = false) :
    (e.apply s).roi = s.roi ∧ (e.apply s).trigger = s.trigger := by
  cases e <;> simp only [Entry.writesSetup, Bool.true_eq_false] at h <;>
    simp only [Entry.apply, apiInit, apiUninit, devOpen, devClose, devInfo, propAttr, propValue,
      setPropValue, capaValue, setCapaValue, bufAlloc, bufRelease, capTrigger, capStart, capStop,
      waitForFrame, deliver, abortWait, doSoftwareTrigger, getRoi, triggerOut, setTriggerOut,
      whenOpen_eq] <;>
    repeat' split
  all_goals simp

/-- A frame wait either brings the next frame, numbered by the frame counter, which then counts
it, or leaves the tally as it was. -/
theorem waitForFrame_tally (patient : Bool) (f : Frame) :
    (∃ g, (s.waitForFrame patient f).1 = .captured g ∧ g = f.fill s.nextIndex ∧
      (s.waitForFrame patient f).2.tally =
        { s.tally with nextIndex := (s.nextIndex + 1) % Nat.pow 2 32,
                       frames := s.stats.frames + 1 }) ∨
    ((∀ g, (s.waitForFrame patient f).1 ≠ .captured g) ∧
      (s.waitForFrame patient f).2.tally = s.tally) := by
  unfold waitForFrame deliver
  repeat' split
  all_goals first
    | exact .inl ⟨_, rfl, rfl, rfl⟩
    | exact .inr ⟨(fun _ h => nomatch h), rfl⟩

end Simulator

/-- The tally of a camera is consistent: an enabled region is non-empty and inside the sensor,
a disabled one is the whole sensor; the buffer counters differ by the buffer held; the frame
counter is the count of frames modulo `2^32`; and each of the three trigger outputs has a delay
and a width. -/
structure Tally.Consistent (b : Tally) : Prop where
  roi_inside : b.roi.enable = true → 0 < b.roi.width ∧ 0 < b.roi.height ∧
    b.roi.hOffset + b.roi.width ≤ b.config.sensorWidth ∧
    b.roi.vOffset + b.roi.height ≤ b.config.sensorHeight
  roi_full : b.roi.enable = false → b.roi = Simulator.fullRoi b.config
  buffer : b.bufAllocs = b.bufReleases + if b.allocated then 1 else 0
  frames : b.nextIndex = b.frames % Nat.pow 2 32
  outputs_length : b.outputs.length = triggerOutputs
  outputs_timed : ∀ o ∈ b.outputs, o.delay.isSome = true ∧ o.width.isSome = true

namespace Simulator

variable {s : Simulator}

/-- A camera just made has a consistent tally. -/
theorem consistent_make (c : SimConfig) : (make c).tally.Consistent where
  roi_inside h := by simp [make, tally, fullRoi] at h
  roi_full _ := rfl
  buffer := rfl
  frames := rfl
  outputs_length := by simp [make, tally, triggerOutputs]
  outputs_timed o ho := by
    simp only [make, tally, List.mem_map] at ho
    obtain ⟨_, _, rfl⟩ := ho
    simp

/-- An allocation keeps the tally consistent: it takes a free buffer and counts it. -/
theorem consistent_bufAlloc (h : s.tally.Consistent) : s.bufAlloc.2.tally.Consistent := by
  unfold bufAlloc
  rw [whenOpen_eq]
  split_ifs with hl hf ha
  · exact h
  · exact h
  · refine ⟨h.roi_inside, h.roi_full, ?_, h.frames, h.outputs_length, h.outputs_timed⟩
    have hb := h.buffer
    simp only [tally, ha, Bool.false_eq_true, if_false] at hb
    simp [tally, hb]
  · exact h

/-- A release keeps the tally consistent: it frees a held buffer and counts it. -/
theorem consistent_bufRelease (h : s.tally.Consistent) : s.bufRelease.2.tally.Consistent := by
  unfold bufRelease
  rw [whenOpen_eq]
  split_ifs with hl ha
  · exact h
  · refine ⟨h.roi_inside, h.roi_full, ?_, h.frames, h.outputs_length, h.outputs_timed⟩
    have hA : s.allocated = true := by simpa using ha
    have hb := h.buffer
    simp only [tally, hA, if_true] at hb
    simp [tally, hb]
  · exact h

/-- A frame wait keeps the tally consistent: a frame delivered is counted by both counters. -/
theorem consistent_waitForFrame (h : s.tally.Consistent) (patient : Bool) (f : Frame) :
    (s.waitForFrame patient f).2.tally.Consistent := by
  rcases waitForFrame_tally s patient f with ⟨g, -, -, hb⟩ | ⟨-, hb⟩
  · rw [hb]
    refine ⟨h.roi_inside, h.roi_full, h.buffer, ?_, h.outputs_length, h.outputs_timed⟩
    have hf : s.nextIndex = s.stats.frames % Nat.pow 2 32 := h.frames
    change (s.nextIndex + 1) % Nat.pow 2 32 = (s.stats.frames + 1) % Nat.pow 2 32
    rw [hf, Nat.add_mod, Nat.mod_mod, ← Nat.add_mod]
  · rw [hb]
    exact h

/-- Writing the region keeps the tally consistent: an enabled region passes the checks, a
disabled one becomes the whole sensor. -/
theorem consistent_setRoi (h : s.tally.Consistent) (attr : RoiAttr) :
    (s.setRoi attr).2.tally.Consistent := by
  unfold setRoi
  rw [whenOpen_eq]
  split_ifs with hl hc he hz hout
  · exact h
  · exact h
  · exact h
  · refine ⟨fun _ => ?_, fun hd => by simp_all [tally], h.buffer, h.frames, h.outputs_length,
      h.outputs_timed⟩
    simp only [tally]
    omega
  · exact ⟨fun hd => by simp [tally, fullRoi] at hd, fun _ => rfl, h.buffer, h.frames,
      h.outputs_length, h.outputs_timed⟩
  · exact h

/-- Writing a trigger output keeps the tally consistent: an absent delay or width keeps the
one the output had. -/
theorem consistent_setTriggerOut (h : s.tally.Consistent) (attr : TriggerOutAttr) :
    (s.setTriggerOut attr).2.tally.Consistent := by
  unfold setTriggerOut
  rw [whenOpen_eq]
  split_ifs with hl
  · split
    · exact h
    · next cur hcur =>
      have hmem : cur ∈ s.outputs := List.mem_of_getElem? hcur
      refine ⟨h.roi_inside, h.roi_full, h.buffer, h.frames, ?_, fun o ho => ?_⟩
      · simpa [tally] using h.outputs_length
      · simp only [tally] at ho
        rcases List.mem_or_eq_of_mem_set ho with ho | rfl
        · exact h.outputs_timed o ho
        · obtain ⟨hd, hw⟩ := h.outputs_timed cur hmem
          cases hda : attr.delay <;> cases hwa : attr.width <;> simp_all
  · exact h

/-- Every call keeps the tally consistent. -/
theorem consistent_apply (h : s.tally.Consistent) (e : Entry) : (e.apply s).tally.Consistent := by
  cases hw : e.writesTally
  · rw [tally_apply s e hw]
    exact h
  · cases e <;> simp only [Entry.writesTally, Bool.false_eq_true] at hw
    · exact consistent_bufAlloc h
    · exact consistent_bufRelease h
    · exact consistent_waitForFrame h _ _
    · exact consistent_setRoi h _
    · exact consistent_setTriggerOut h _

/-- Every sequence of calls keeps the tally consistent. -/
theorem consistent_run (h : s.tally.Consistent) (calls : List Entry) :
    (run calls s).tally.Consistent := by
  induction calls generalizing s with
  | nil => exact h
  | cons e calls ih => exact ih (consistent_apply h e)

/-- While the camera captures, no call changes the region or the trigger set-up: the two calls
that write them refuse. -/
theorem setup_of_capturing (hc : s.capture.isSome = true) (e : Entry) :
    (e.apply s).roi = s.roi ∧ (e.apply s).trigger = s.trigger := by
  cases hw : e.writesSetup
  · exact setup_apply s e hw
  · cases e <;> simp only [Entry.writesSetup, Bool.false_eq_true] at hw
    · simp only [Entry.apply, setCapTrigger, whenOpen_eq]
      split_ifs <;> exact ⟨rfl, rfl⟩
    · simp only [Entry.apply, setRoi, whenOpen_eq]
      split_ifs <;> exact ⟨rfl, rfl⟩

/-- An output past the last is refused and nothing changes. -/
theorem setTriggerOut_refused (h : s.tally.Consistent) {attr : TriggerOutAttr}
    (hc : triggerOutputs ≤ attr.channel) : ∃ err, s.setTriggerOut attr = (.error err, s) := by
  have hlen : s.outputs.length = triggerOutputs := h.outputs_length
  have hnone : s.outputs[attr.channel]? = none := List.getElem?_eq_none (by omega)
  unfold setTriggerOut
  rw [whenOpen_eq]
  split_ifs
  · rw [hnone]
    exact ⟨_, rfl⟩
  · exact ⟨_, rfl⟩

/-- An answering camera writes an existing output, keeping its delay and width where none is
given. -/
theorem setTriggerOut_eq {attr cur : TriggerOutAttr} (hl : s.holdings.live = true)
    (hcur : s.outputs[attr.channel]? = some cur) :
    s.setTriggerOut attr = (.ok (), { s with outputs := (s.outputs.set attr.channel
      { attr with delay := attr.delay <|> cur.delay, width := attr.width <|> cur.width }) }) := by
  unfold setTriggerOut
  rw [whenOpen_eq, if_pos hl, hcur]

/-- An allocation the camera grants hands out a frame of the enabled region, or else of the
sensor, whose image has two bytes a pixel. -/
theorem bufAlloc_frame {f : Frame} (h : s.bufAlloc.1 = .ok f) :
    (f.width, f.height) = (if s.roi.enable then (s.roi.width, s.roi.height)
      else (s.config.sensorWidth, s.config.sensorHeight)) ∧
    f.image.size = f.width * f.height * 2 := by
  obtain ⟨-, hsize, hb⟩ := s.bufAlloc_fits h
  exact ⟨hsize, by rw [Frame.size_image f hb, Frame.imgSize, hb]⟩

end Simulator

/-- Along every sequence of SDK calls on a simulated camera just made, with any arguments: an
enabled region is non-empty and inside the sensor and a disabled one is the whole sensor, the
buffer counters differ by one exactly while a buffer is allocated, the frame counter is the
count of frames modulo `2^32`, and the three trigger outputs each have a delay and a width.
The region and the trigger set-up change only while the camera is not capturing. Writing an
output past the last is refused and changes nothing; writing an output keeps its delay and width
where none is given. An allocation hands out a frame of the region, or of the sensor when no
region is enabled, with two bytes a pixel. -/
theorem calls_keep_camera_consistent (c : SimConfig) (calls : List Entry) :
    let s := Simulator.run calls (Simulator.make c)
    s.tally.Consistent ∧
    (∀ e : Entry, s.capture.isSome = true →
      (e.apply s).roi = s.roi ∧ (e.apply s).trigger = s.trigger) ∧
    (∀ attr : TriggerOutAttr, triggerOutputs ≤ attr.channel →
      ∃ err, s.setTriggerOut attr = (.error err, s)) ∧
    (∀ attr cur : TriggerOutAttr, s.holdings.live = true → s.outputs[attr.channel]? = some cur →
      s.setTriggerOut attr = (.ok (), { s with outputs := (s.outputs.set attr.channel
        { attr with delay := attr.delay <|> cur.delay, width := attr.width <|> cur.width }) })) ∧
    (∀ f : Frame, s.bufAlloc.1 = .ok f →
      (f.width, f.height) = (if s.roi.enable then (s.roi.width, s.roi.height)
        else (s.config.sensorWidth, s.config.sensorHeight)) ∧
      f.image.size = f.width * f.height * 2) := by
  intro s
  have h : s.tally.Consistent := Simulator.consistent_run (Simulator.consistent_make c) calls
  exact ⟨h, fun e hc => Simulator.setup_of_capturing hc e,
    fun _ hc => Simulator.setTriggerOut_refused h hc,
    fun _ _ hl hcur => Simulator.setTriggerOut_eq hl hcur,
    fun _ hf => Simulator.bufAlloc_frame hf⟩

end CameraAcquisition.Sdk
