import UsbTv.Driver.Lifetime
import UsbTv.Driver.Requests

set_option relaxedAutoImplicit false
set_option autoImplicit false

/-!
# The native functions

`usbtv.cpp`: the functions that `UsbTv.java` calls through JNI. They all act on one global, the
pointer `usbtv`, whichever object calls them. `JNI_OnLoad` has set `javaVm`, and the constructor of
the driver gets an environment, a callback and parameters that are not null.

A result `none` means that the call does not return or is undefined.

## Main definitions

* `UsbTv.NativeDriver` — the driver object with its callback flag.
* `UsbTv.Jni.usbtvInitialize`, `usbtvDispose` and the others — the functions.
* `UsbTv.NativeDriver.threadStep` — what the native threads do between two calls.

## Main results

* `UsbTv.UsbTvDriver.startStreaming_of_inactive` — what a start makes of `_streamActive` and of the
  parameters, whatever the state of the threads.
-/

namespace UsbTv

/-! ## The functions -/

/-- The object that `usbtv` points to: a driver and its `_useCallback`. -/
structure NativeDriver extends UsbTvDriver where
  useCallback : Bool

/-- What the memory of a new driver object holds where its constructor assigns nothing. -/
structure Unassigned where
  frameParams : FrameParams
  input : TvInput
  droppedFrameCounter : ℕ
  incompleteFrameCounter : ℕ

/-- `new UsbTvDriver(jenv, callback, params)`. -/
def NativeDriver.new (params : Java.DeviceParams) (memory : Unassigned) : NativeDriver where
  toUsbTvDriver := .new params memory.frameParams memory.input memory.droppedFrameCounter
    memory.incompleteFrameCounter
  useCallback := false

namespace Jni

variable (usbtv : Option NativeDriver)

/-- `UsbTv_initialize`. -/
def usbtvInitialize (params : Java.DeviceParams) (memory : Unassigned) :
    Bool × Option NativeDriver :=
  match usbtv with
  | some d => (false, some d)
  | none =>
    let d := NativeDriver.new params memory
    if d.initialized then (true, some d) else (false, none)

@[simp] lemma usbtvInitialize_some (d : NativeDriver) (params : Java.DeviceParams)
    (memory : Unassigned) : usbtvInitialize (some d) params memory = (false, some d) := rfl

/-- The constructor has an environment, a callback and parameters, so it initializes the driver. -/
@[simp] lemma usbtvInitialize_none (params : Java.DeviceParams) (memory : Unassigned) :
    usbtvInitialize none params memory = (true, some (.new params memory)) := rfl

/-- `UsbTv_dispose`. -/
def usbtvDispose (answer : ℕ → ℤ) : Option (Option NativeDriver) :=
  match usbtv with
  | some d => (d.destruct answer).map fun _ => none
  | none => some none

variable {usbtv} in
/-- After `dispose` there is no driver. -/
lemma usbtvDispose_eq_some {answer : ℕ → ℤ} {usbtv' : Option NativeDriver}
    (h : usbtvDispose usbtv answer = some usbtv') : usbtv' = none := by
  unfold usbtvDispose at h
  split at h
  · obtain ⟨d, -, rfl⟩ := Option.map_eq_some_iff.mp h
    rfl
  · exact (Option.some_inj.mp h).symm

/-- `UsbTv_useCallback`. -/
def usbtvUseCallback (shouldUse : Bool) : Option NativeDriver :=
  usbtv.map fun d => { d with useCallback := shouldUse }

/-- `UsbTv_startStreaming`. -/
def usbtvStartStreaming (params : Java.DeviceParams) (answer : ℕ → ℤ) :
    Option (Bool × Option NativeDriver) :=
  match usbtv with
  | some d => (d.startStreaming params answer).map fun r =>
      (r.1, some { d with toUsbTvDriver := r.2 })
  | none => some (false, none)

/-- `UsbTv_stopStreaming`. -/
def usbtvStopStreaming (answer : ℕ → ℤ) : Option (Option NativeDriver) :=
  match usbtv with
  | some d => (d.stopStreaming answer).map fun d' => some { d with toUsbTvDriver := d' }
  | none => some none

/-- `UsbTv_setInput`. -/
def usbtvSetInput (input : ℤ) (answer : ℕ → ℤ) : Bool × Option NativeDriver :=
  match usbtv with
  | some d =>
    ((d.setTvInput answer input).1,
      some { d with toUsbTvDriver := (d.setTvInput answer input).2 })
  | none => (false, none)

end Jni

/-! ## The native threads -/

/-- What the threads of the driver do between two calls. -/
inductive ThreadEvent
  /-- The reap thread processes a packet. -/
  | packet (packet : Packet) (answer : Answer)
  /-- A URB completes. -/
  | complete (urb : ℕ)
  /-- `REAPURB` returns a URB, and `resubmitUrb` submits it again. -/
  | reapUrb (urb : ℕ) (answer : ℕ → ℤ)
  /-- `REAPURB` fails for good: `reapUrbAsync` clears `_urbThreadRunning` and returns. -/
  | reapExit
  /-- `returnFrameToPool`, or the process thread, unlocks a frame. -/
  | clearFrameLock (framePoolIndex : ℤ)

/-- A step of the threads. -/
def NativeDriver.threadStep (d : NativeDriver) : ThreadEvent → Option NativeDriver
  | .packet packet answer =>
    (UsbTvDriver.Session.step ⟨d.toUsbTvDriver, false⟩ (.packet packet answer)).map fun s =>
      { d with toUsbTvDriver := s.driver }
  | .complete urb =>
    some { d with usbConnection := { d.usbConnection with
      usbfs := d.usbConnection.usbfs.complete urb } }
  | .reapUrb urb answer =>
    if d.usbConnection.urbThreadRunning = true ∧ urb ∈ d.usbConnection.usbfs.completed then
      let usb := { d.usbConnection with usbfs := d.usbConnection.usbfs.reap urb }
      some { d with usbConnection := (usb.submitUrb answer urb).2 }
    else none
  | .reapExit =>
    if d.usbConnection.urbThreadRunning then
      some { d with usbConnection := { d.usbConnection with urbThreadRunning := false } }
    else none
  | .clearFrameLock framePoolIndex =>
    (d.clearFrameLock framePoolIndex).map fun r => { d with toUsbTvDriver := r.2 }

/-! ## What the calls leave alone -/

namespace UsbTvDriver

/-- The two drivers have the same parameters. -/
structure SameSettings (d d' : UsbTvDriver) : Prop where
  initialized : d'.initialized = d.initialized
  frameParams : d'.frameParams = d.frameParams
  packetsPerField : d'.packetsPerField = d.packetsPerField
  input : d'.input = d.input

lemma SameSettings.trans {d d' d'' : UsbTvDriver} (h : SameSettings d d')
    (h' : SameSettings d' d'') : SameSettings d d'' :=
  ⟨h'.initialized.trans h.initialized, h'.frameParams.trans h.frameParams,
    h'.packetsPerField.trans h.packetsPerField, h'.input.trans h.input⟩

/-- `stopStreaming` clears `_streamActive` and keeps the parameters. -/
lemma stopStreaming_settings {d d' : UsbTvDriver} {answer : ℕ → ℤ} (hinit : d.initialized = true)
    (h : d.stopStreaming answer = some d') : d'.streamActive = false ∧ SameSettings d d' := by
  rw [stopStreaming, if_pos hinit] at h
  generalize (if d.usbConnection.urbThreadRunning then d.usbConnection.stopUrbAsyncRead
    else d.usbConnection.discardIsoUrbs.2) = u at h
  dsimp only at h
  by_cases hguard : d.frameProcessThread = true ∧ d.processThreadRunning = false
  · rw [if_pos hguard] at h
    exact absurd h (by simp)
  · rw [if_neg hguard] at h
    cases hptr : d.usbInputFrame with
    | indeterminate => simp [hptr] at h
    | null =>
      simp only [hptr, Option.some_inj] at h
      rw [← h]
      exact ⟨rfl, rfl, rfl, rfl, rfl⟩
    | frame i =>
      simp only [hptr, Option.some_inj] at h
      rw [← h]
      exact ⟨rfl, rfl, rfl, rfl, rfl⟩

/-- A start that stops again reports its failure. -/
lemma stopStreaming_failed {d d' : UsbTvDriver} {answer : ℕ → ℤ} {ok : Bool}
    (hinit : d.initialized = true)
    (h : (d.stopStreaming answer).map (fun d => (false, d)) = some (ok, d')) :
    d'.streamActive = ok ∧ SameSettings d d' := by
  obtain ⟨d₁, hd₁, heq⟩ := Option.map_eq_some_iff.mp h
  obtain ⟨rfl, rfl⟩ := Prod.mk.inj heq
  exact stopStreaming_settings hinit hd₁

/-- The second half of a start of an active driver leaves `_streamActive` as it reports. -/
lemma openStream_settings {d d' : UsbTvDriver} {answer : ℕ → ℤ} {ok : Bool}
    (hinit : d.initialized = true) (hactive : d.streamActive = true)
    (h : d.openStream answer = some (ok, d')) : d'.streamActive = ok ∧ SameSettings d d' := by
  obtain ⟨d₂, hd₂, h⟩ := Option.bind_eq_some_iff.mp h
  obtain ⟨pool, index, rfl⟩ := fetchFromNewPool_eq hd₂
  -- every exit is a stop of a driver with the parameters of `d`, or a success
  have hstop : ∀ {e : UsbTvDriver},
      (e.stopStreaming answer).map (fun d => (false, d)) = some (ok, d') → SameSettings d e →
      d'.streamActive = ok ∧ SameSettings d d' := by
    intro e hfail hsameE
    obtain ⟨hact, hsameF⟩ := stopStreaming_failed (hsameE.initialized.trans hinit) hfail
    exact ⟨hact, hsameE.trans hsameF⟩
  by_cases hthread : d.frameProcessThread = true
  · simp only [hthread, if_true] at h
    exact hstop h ⟨rfl, rfl, rfl, rfl⟩
  · simp only [hthread, Bool.false_eq_true, if_false] at h
    rw [setInterface_eq] at h
    split at h
    · next heq =>
      obtain ⟨-, rfl⟩ := Prod.mk.inj heq
      exact hstop h ⟨rfl, rfl, rfl, rfl⟩
    · next heq =>
      obtain ⟨-, rfl⟩ := Prod.mk.inj heq
      split at h
      · exact hstop h ⟨rfl, rfl, rfl, rfl⟩
      · split at h
        · exact hstop h ⟨rfl, rfl, rfl, rfl⟩
        · obtain ⟨rfl, rfl⟩ := Prod.mk.inj (Option.some_inj.mp h)
          exact ⟨hactive, rfl, rfl, rfl, rfl⟩

/-- **A start of an inactive driver** takes over the parameters, and it leaves `_streamActive` as it
reports if and only if alternate setting 0 could be selected. -/
theorem startStreaming_of_inactive {d d' : UsbTvDriver} {params : Java.DeviceParams}
    {answer : ℕ → ℤ} {ok : Bool} (hinit : d.initialized = true) (hactive : d.streamActive = false)
    (h : d.startStreaming params answer = some (ok, d')) :
    (d'.streamActive = ok ↔ answer d.usbConnection.log.length = 0) ∧
      SameSettings (d.beginStream params) d' := by
  rcases startStreaming_cases hinit hactive h with
    ⟨hret, rfl, log, rfl⟩ | ⟨hret, rfl, log, rfl⟩ | ⟨hret, hopen⟩
  · refine ⟨iff_of_false (fun hact => ?_) hret, rfl, rfl, rfl, rfl⟩
    exact absurd hact (by simp [withLog, beginStream, parseStreamingParams])
  · exact ⟨iff_of_true rfl hret, rfl, rfl, rfl, rfl⟩
  · obtain ⟨hact, hsame⟩ := openStream_settings
      (d := (d.beginStream params).withLog (d.registerLog params)) hinit rfl hopen
    exact ⟨iff_of_true hact hret, hsame.initialized, hsame.frameParams, hsame.packetsPerField,
      hsame.input⟩

/-- `setTvInput` keeps the input that it was called with. -/
lemma setTvInput_input (d : UsbTvDriver) (answer : ℕ → ℤ) (input : Java.InputSelection) :
    (d.setTvInput answer input.ordinal).2.input = .cast input.ordinal := by
  cases input with
  | composite =>
    obtain ⟨log, hlog⟩ := setRegisters_withLog answer compositeInput
      { d with input := .usbtvCompositeInput }
    rw [setTvInput, if_pos (by rfl)]
    dsimp only
    split_ifs
    · rw [hlog]
      rfl
    · rfl
  | svideo =>
    obtain ⟨log, hlog⟩ := setRegisters_withLog answer svideoInput
      { d with input := .usbtvSvideoInput }
    rw [setTvInput, if_neg (by decide), if_pos (by rfl)]
    dsimp only
    split_ifs
    · rw [hlog]
      rfl
    · rfl

/-- What the reap thread works on has the packets per field of the driver. -/
lemma assembler_packetsPerField {d : UsbTvDriver} {a : Assembler} (h : d.assembler = some a) :
    a.packetsPerField = d.packetsPerField := by
  unfold assembler at h
  split at h
  · rw [← Option.some_inj.mp h]
  · exact absurd h (by simp)

end UsbTvDriver

namespace Jni

/-- Some of the calls that neither make nor delete a driver, one after the other. -/
inductive Calls (answer : ℕ → ℤ) : Option NativeDriver → Option NativeDriver → Prop
  | refl (usbtv : Option NativeDriver) : Calls answer usbtv usbtv
  | trans {usbtv usbtv' usbtv'' : Option NativeDriver} (h : Calls answer usbtv usbtv')
      (h' : Calls answer usbtv' usbtv'') : Calls answer usbtv usbtv''
  | startStreaming {usbtv usbtv' : Option NativeDriver} {params : Java.DeviceParams} {ok : Bool}
      (h : usbtvStartStreaming usbtv params answer = some (ok, usbtv')) : Calls answer usbtv usbtv'
  | stopStreaming {usbtv usbtv' : Option NativeDriver}
      (h : usbtvStopStreaming usbtv answer = some usbtv') : Calls answer usbtv usbtv'
  | setInput (usbtv : Option NativeDriver) (input : ℤ) :
      Calls answer usbtv (usbtvSetInput usbtv input answer).2
  | useCallback (usbtv : Option NativeDriver) (shouldUse : Bool) :
      Calls answer usbtv (usbtvUseCallback usbtv shouldUse)

variable {usbtv usbtv' : Option NativeDriver} {answer : ℕ → ℤ}

/-- Without a driver these calls do nothing. -/
lemma Calls.eq_none (h : Calls answer usbtv usbtv') (hnone : usbtv = none) : usbtv' = none := by
  induction h with
  | refl => exact hnone
  | trans _ _ ih ih' => exact ih' (ih hnone)
  | startStreaming h =>
    subst hnone
    exact (Prod.mk.inj (Option.some_inj.mp h)).2.symm
  | stopStreaming h =>
    subst hnone
    exact (Option.some_inj.mp h).symm
  | setInput =>
    subst hnone
    rfl
  | useCallback =>
    subst hnone
    rfl

/-- The driver, if there is one, is initialized. -/
def Initialized (usbtv : Option NativeDriver) : Prop := ∀ d ∈ usbtv, d.initialized = true

lemma Initialized.startStreaming {params : Java.DeviceParams} {ok : Bool} (hi : Initialized usbtv)
    (h : usbtvStartStreaming usbtv params answer = some (ok, usbtv')) : Initialized usbtv' := by
  cases usbtv with
  | none =>
    obtain ⟨-, rfl⟩ := Prod.mk.inj (Option.some_inj.mp h)
    exact hi
  | some d =>
    have hinit := hi d rfl
    obtain ⟨⟨ok', d'⟩, hd', heq⟩ := Option.map_eq_some_iff.mp h
    obtain ⟨-, rfl⟩ := Prod.mk.inj heq
    rintro d₁ ⟨⟩
    cases hactive : d.streamActive with
    | true =>
      rw [UsbTvDriver.startStreaming_of_active hactive] at hd'
      obtain ⟨-, rfl⟩ := Prod.mk.inj (Option.some_inj.mp hd')
      exact hinit
    | false =>
      obtain ⟨-, hsame⟩ := UsbTvDriver.startStreaming_of_inactive hinit hactive hd'
      exact hsame.initialized.trans hinit

lemma Initialized.stopStreaming (hi : Initialized usbtv)
    (h : usbtvStopStreaming usbtv answer = some usbtv') : Initialized usbtv' := by
  cases usbtv with
  | none =>
    obtain rfl := Option.some_inj.mp h
    exact hi
  | some d =>
    have hinit := hi d rfl
    obtain ⟨d', hd', rfl⟩ := Option.map_eq_some_iff.mp h
    rintro d₁ ⟨⟩
    obtain ⟨-, hsame⟩ := UsbTvDriver.stopStreaming_settings hinit hd'
    exact hsame.initialized.trans hinit

/-- These calls leave an initialized driver initialized. -/
lemma Calls.initialized (h : Calls answer usbtv usbtv') (hi : Initialized usbtv) :
    Initialized usbtv' := by
  induction h with
  | refl => exact hi
  | trans _ _ ih ih' => exact ih' (ih hi)
  | startStreaming h => exact hi.startStreaming h
  | stopStreaming h => exact hi.stopStreaming h
  | setInput usbtv input =>
    cases usbtv with
    | none => exact hi
    | some d =>
      rintro d₁ ⟨⟩
      obtain ⟨log, tvInput, heq⟩ := d.setTvInput_eq answer input
      rw [heq]
      exact hi d rfl
  | useCallback usbtv shouldUse =>
    cases usbtv with
    | none => exact hi
    | some d =>
      rintro d₁ ⟨⟩
      exact hi d rfl

end Jni

/-- The threads leave `_streamActive`, the parameters and the callback flag alone. -/
lemma NativeDriver.threadStep_settings {d d' : NativeDriver} {e : ThreadEvent}
    (h : d.threadStep e = some d') :
    d'.streamActive = d.streamActive ∧ d'.useCallback = d.useCallback ∧
      UsbTvDriver.SameSettings d.toUsbTvDriver d'.toUsbTvDriver := by
  cases e with
  | packet packet answer =>
    obtain ⟨s, hs, rfl⟩ := Option.map_eq_some_iff.mp h
    obtain ⟨-, a, ha, rfl⟩ := UsbTvDriver.step_packet hs
    refine ⟨rfl, rfl, rfl, rfl, ?_, rfl⟩
    have hconfig := (Assembler.processPacket_config a (fun _ => answer) packet).packetsPerField
    exact hconfig.trans (UsbTvDriver.assembler_packetsPerField ha)
  | complete urb =>
    obtain rfl := Option.some_inj.mp h
    exact ⟨rfl, rfl, rfl, rfl, rfl, rfl⟩
  | reapUrb urb answer =>
    simp only [NativeDriver.threadStep] at h
    split_ifs at h
    obtain rfl := Option.some_inj.mp h
    exact ⟨rfl, rfl, rfl, rfl, rfl, rfl⟩
  | reapExit =>
    simp only [NativeDriver.threadStep] at h
    split_ifs at h
    obtain rfl := Option.some_inj.mp h
    exact ⟨rfl, rfl, rfl, rfl, rfl, rfl⟩
  | clearFrameLock framePoolIndex =>
    obtain ⟨⟨success, r⟩, hr, rfl⟩ := Option.map_eq_some_iff.mp h
    unfold UsbTvDriver.clearFrameLock at hr
    split at hr
    · split_ifs at hr
      obtain ⟨-, rfl⟩ := Prod.mk.inj (Option.some_inj.mp hr)
      exact ⟨rfl, rfl, rfl, rfl, rfl, rfl⟩
    · obtain ⟨-, rfl⟩ := Prod.mk.inj (Option.some_inj.mp hr)
      exact ⟨rfl, rfl, rfl, rfl, rfl, rfl⟩

end UsbTv
