import UsbTv.Lib.StepSystem
import UsbTv.Handler.Basic

set_option relaxedAutoImplicit false
set_option autoImplicit false

/-!
# The Java view of the driver

An open `UsbTv` object has a copy of what the driver keeps: `mIsStreaming` of `_streamActive`, the
listener of `_useCallback`, and `mDeviceParams` of the parameters of the stream. Each message
changes the copy first and calls native code next. The copies part when `startStreaming` fails at
its first request: it reports the failure and leaves `_streamActive` set.

## Main definitions

* `UsbTv.Agrees` — the object and the driver agree.
* `UsbTv.views` — the runs of an object that is alone with the native library.
* `UsbTv.View.Resets` — the condition that starts can select alternate setting 0.

## Main results

* `UsbTv.View.agrees_of_reachable` — when the two copies agree.
* `UsbTv.View.start_disagrees` — a start after which they do not.
-/

namespace UsbTv

open Java

/-! ## Agreement -/

/-- The parameters of the stream are those of Java. -/
structure SameParams (params : DeviceParams) (d : UsbTvDriver) : Prop where
  frameWidth : (d.frameParams.frameWidth : ℤ) = params.mFrameWidth
  frameHeight : (d.frameParams.frameHeight : ℤ) = params.mFrameHeight
  bufferSize : (d.frameParams.bufferSize : ℤ) = params.mFrameSizeBytes
  norm : d.frameParams.norm = .cast params.mNorm.ordinal
  scanType : d.frameParams.scanType = .cast params.mScanType.ordinal
  packetsPerField : (d.packetsPerField : ℤ) = params.mVideoPacketsPerField
  input : d.input = .cast params.mInput.ordinal

/-- **What `parseStreamingParams` stores** are the parameters that it reads. -/
lemma sameParams_beginStream {params : DeviceParams} {d d' : UsbTvDriver}
    (h : UsbTvDriver.SameSettings (d.beginStream params) d') : SameParams params d' := by
  obtain ⟨hwidth, hheight, hsize, hpackets⟩ := nativeFrameParams_sizes params
  have hframe : d'.frameParams = nativeFrameParams params := h.frameParams
  have hfield : d'.packetsPerField = nativePacketsPerField params := h.packetsPerField
  refine ⟨?_, ?_, ?_, ?_, ?_, ?_, h.input⟩
  · rw [hframe, hwidth]
  · rw [hframe, hheight]
  · rw [hframe, hsize]
  · rw [hframe]
    rfl
  · rw [hframe]
    rfl
  · rw [hfield, hpackets]

/-- Parameters of the same norm and scan type describe the same frames. -/
lemma SameParams.congr {p q : DeviceParams} {d d' : UsbTvDriver} (h : SameParams p d)
    (hnorm : q.mNorm = p.mNorm) (hscan : q.mScanType = p.mScanType)
    (hframe : d'.frameParams = d.frameParams) (hfield : d'.packetsPerField = d.packetsPerField)
    (hinput : d'.input = .cast q.mInput.ordinal) : SameParams q d' := by
  obtain ⟨hwidth, hheight, hpackets, hsize⟩ := DeviceParams.frameSize_congr hnorm hscan
  refine ⟨?_, ?_, ?_, ?_, ?_, ?_, hinput⟩
  · rw [hframe, hwidth, h.frameWidth]
  · rw [hframe, hheight, h.frameHeight]
  · rw [hframe, hsize, h.bufferSize]
  · rw [hframe, hnorm, h.norm]
  · rw [hframe, hscan, h.scanType]
  · rw [hfield, hpackets, h.packetsPerField]

/-- The object and the driver agree on the stream, on the listener, and on the parameters of a
stream that is active. -/
structure Agrees (u : UsbTvInstance) (d : NativeDriver) : Prop where
  streamActive : u.mIsStreaming = d.streamActive
  useCallback : d.useCallback = u.mOnFrameReceivedListener.isSome
  params : u.mIsStreaming = true → SameParams u.mDeviceParams d.toUsbTvDriver

/-! ## Runs -/

/-- An object of the class `UsbTv`, what it shares with others, and the calls to its callbacks. -/
structure View where
  self : UsbTvInstance
  shared : Shared
  callbacks : List Callback

/-- What can happen to an object. -/
inductive ViewEvent
  /-- `open`, or the answer to a request, sets `mHasUsbPermission`. -/
  | permission
  /-- The handler thread takes a message. -/
  | message (msg : Message) (env : Environment)
  /-- The threads of the driver take a step. -/
  | thread (e : ThreadEvent)

namespace View

/-- One event. All messages but `OPEN_DEVICE` are sent through `mDriverInterface`. -/
def step (s : View) : ViewEvent → Option View
  | .permission => some { s with self := { s.self with mHasUsbPermission := true } }
  | .message msg env =>
    if msg = .openDevice ∨ hasDriver s.callbacks = true then
      (s.self.handleMessage s.shared env msg).map fun r =>
        ⟨r.self, r.shared, s.callbacks ++ r.callbacks⟩
    else none
  | .thread e =>
    (s.shared.usbtv.bind fun d => d.threadStep e).map fun d =>
      { s with shared := { s.shared with usbtv := some d } }

end View

/-- The runs of an object constructed with `params` while no other object has a driver. -/
def views (params : DeviceParams) : StepSystem View ViewEvent where
  Init s := ∃ host, s = ⟨.new params, ⟨none, host⟩, []⟩
  step := View.step

/-- A start of this driver can select alternate setting 0, if the driver is inactive. -/
def CanReset (usbtv : Option NativeDriver) (answer : ℕ → ℤ) : Prop :=
  ∀ d ∈ usbtv, d.streamActive = false → answer d.usbConnection.log.length = 0

instance (usbtv : Option NativeDriver) (answer : ℕ → ℤ) : Decidable (CanReset usbtv answer) :=
  inferInstanceAs (Decidable (∀ d ∈ usbtv, _))

/-- A restart of this driver can select alternate setting 0 once the stream is stopped. -/
def CanRestart (usbtv : Option NativeDriver) (answer : ℕ → ℤ) : Prop :=
  ∀ usbtv' ∈ Jni.usbtvStopStreaming usbtv answer, CanReset usbtv' answer

instance (usbtv : Option NativeDriver) (answer : ℕ → ℤ) : Decidable (CanRestart usbtv answer) :=
  inferInstanceAs (Decidable (∀ usbtv' ∈ Jni.usbtvStopStreaming usbtv answer, _))

namespace View

/-- The condition on an event: where `startStreaming` is called on an inactive driver, by
`START_STREAMING` or by `restartStream`, its request for alternate setting 0 succeeds. -/
def Resets (s : View) : ViewEvent → Prop
  | .message .startStreaming env =>
    s.self.mIsStreaming = false → CanReset s.shared.usbtv env.answer
  | .message (.setNorm _) env | .message (.setScanType _) env =>
    s.self.mIsStreaming = true → CanRestart s.shared.usbtv env.answer
  | _ => True

instance (s : View) (e : ViewEvent) : Decidable (Resets s e) :=
  match e with
  | .message .startStreaming _ | .message (.setNorm _) _ | .message (.setScanType _) _ =>
    inferInstanceAs (Decidable (_ → _))
  | .message .openDevice _ | .message .closeDevice _ | .message .stopStreaming _
  | .message (.setInput _) _ | .message (.setControl _) _ | .message (.setFrameListener _) _
  | .permission | .thread _ => inferInstanceAs (Decidable True)

/-! ## The calls -/

/-- **A start**, and what it reports: the copies agree afterwards if and only if alternate setting 0
could be selected. -/
lemma agrees_start {u : UsbTvInstance} {d : NativeDriver} {answer : ℕ → ℤ} {ok : Bool}
    {usbtv : Option NativeDriver} (hinit : d.initialized = true) (hactive : d.streamActive = false)
    (hcallback : d.useCallback = u.mOnFrameReceivedListener.isSome)
    (h : Jni.usbtvStartStreaming (some d) u.mDeviceParams answer = some (ok, usbtv)) :
    ∃ d', usbtv = some d' ∧ d'.initialized = true ∧
      (Agrees { u with mIsStreaming := ok } d' ↔ CanReset (some d) answer) := by
  obtain ⟨⟨ok', d'⟩, hstart, heq⟩ := Option.map_eq_some_iff.mp h
  obtain ⟨rfl, rfl⟩ := Prod.mk.inj heq
  obtain ⟨hiff, hsame⟩ := UsbTvDriver.startStreaming_of_inactive hinit hactive hstart
  refine ⟨_, rfl, hsame.initialized.trans hinit, fun hagrees => ?_, fun hreset => ?_⟩
  · rintro d₁ ⟨⟩ -
    exact hiff.mp hagrees.streamActive.symm
  · have hret := hreset d rfl hactive
    exact ⟨(hiff.mpr hret).symm, hcallback, fun _ => sameParams_beginStream hsame⟩

/-- A stop leaves an inactive driver. -/
lemma stop_eq_some {d : NativeDriver} {answer : ℕ → ℤ} {usbtv : Option NativeDriver}
    (hinit : d.initialized = true) (h : Jni.usbtvStopStreaming (some d) answer = some usbtv) :
    ∃ d', usbtv = some d' ∧ d'.initialized = true ∧ d'.streamActive = false ∧
      d'.useCallback = d.useCallback := by
  obtain ⟨d', hstop, rfl⟩ := Option.map_eq_some_iff.mp h
  obtain ⟨hactive, hsame⟩ := UsbTvDriver.stopStreaming_settings hinit hstop
  exact ⟨_, rfl, hsame.initialized.trans hinit, hactive, rfl⟩

/-- **A restart** of an object whose parameters have changed. -/
lemma agrees_restart {u : UsbTvInstance} {shared : Shared} {d : NativeDriver} {answer : ℕ → ℤ}
    {r : Handled} (h : u.restartStream shared answer = some r) (husbtv : shared.usbtv = some d)
    (hinit : d.initialized = true) (hactive : u.mIsStreaming = d.streamActive)
    (hcallback : d.useCallback = u.mOnFrameReceivedListener.isSome) :
    ∃ d', r.shared.usbtv = some d' ∧ d'.initialized = true ∧
      (Agrees r.self d' ↔ (u.mIsStreaming = true → CanRestart shared.usbtv answer)) := by
  unfold UsbTvInstance.restartStream at h
  split_ifs at h with hstreaming
  · obtain ⟨usbtv₁, hstop, h⟩ := Option.bind_eq_some_iff.mp h
    obtain ⟨⟨ok, usbtv₂⟩, hstart, rfl⟩ := Option.map_eq_some_iff.mp h
    rw [husbtv] at hstop
    obtain ⟨d₁, rfl, hinit₁, hactive₁, hcallback₁⟩ := stop_eq_some hinit hstop
    obtain ⟨d₂, rfl, hinit₂, hiff⟩ :=
      agrees_start hinit₁ hactive₁ (hcallback₁.trans hcallback) hstart
    refine ⟨d₂, rfl, hinit₂, hiff.trans ⟨fun hreset _ => ?_, fun hrestart => ?_⟩⟩
    · rintro usbtv' husbtv'
      rw [husbtv, hstop] at husbtv'
      obtain rfl := Option.some_inj.mp husbtv'
      exact hreset
    · have hcan := hrestart hstreaming
      rw [husbtv] at hcan
      exact hcan _ hstop
  · obtain rfl := Option.some_inj.mp h
    refine ⟨d, husbtv, hinit, fun _ hs => absurd hs hstreaming, fun _ => ?_⟩
    exact ⟨hactive, hcallback, fun hs => absurd hs hstreaming⟩

/-! ## What holds in every state -/

/-- An open object and its driver agree; and an object that is not open has no driver, and either
was never given out or has no device any more. -/
structure Sound (s : View) : Prop where
  opened : s.self.mIsOpen = true →
    ∃ d, s.shared.usbtv = some d ∧ d.initialized = true ∧ Agrees s.self d
  closed : s.self.mIsOpen = false → s.shared.usbtv = none
  noDevice : s.self.mIsOpen = false → hasDriver s.callbacks = true → s.self.mUsbtvDevice = none
  fresh : hasDriver s.callbacks = false → s.self.mIsOpen = false ∧ s.self.mIsStreaming = false ∧
    s.self.mOnFrameReceivedListener = none

variable {s s' : View} {env : Environment} {r : Handled}

/-- **The messages of the stream** to an open object: afterwards the copies agree if and only if the
condition holds. -/
lemma Sound.handleMessage_iff {msg : Message} (hs : Sound s) (hopen : s.self.mIsOpen = true)
    (hmsg : msg ≠ .openDevice) (hclose : msg ≠ .closeDevice)
    (h : s.self.handleMessage s.shared env msg = some r) :
    ∃ d, r.shared.usbtv = some d ∧ d.initialized = true ∧
      (Agrees r.self d ↔ Resets s (.message msg env)) := by
  obtain ⟨d, husbtv, hinit, hagrees⟩ := hs.opened hopen
  cases msg with
  | openDevice => exact absurd rfl hmsg
  | closeDevice => exact absurd rfl hclose
  | startStreaming =>
    simp only [UsbTvInstance.handleMessage] at h
    split_ifs at h with hstreaming
    · obtain rfl := Option.some_inj.mp h
      refine ⟨d, husbtv, hinit, iff_of_true hagrees fun hnot => ?_⟩
      exact absurd (hnot.symm.trans hstreaming) (by simp)
    · obtain ⟨⟨ok, usbtv⟩, hstart, rfl⟩ := Option.map_eq_some_iff.mp h
      rw [Bool.not_eq_true] at hstreaming
      rw [husbtv] at hstart
      have hactive : d.streamActive = false := hagrees.streamActive.symm.trans hstreaming
      obtain ⟨d', rfl, hinit', hiff⟩ := agrees_start hinit hactive hagrees.useCallback hstart
      refine ⟨d', rfl, hinit', hiff.trans ?_⟩
      simp only [Resets, husbtv, hstreaming, true_imp_iff]
  | stopStreaming =>
    simp only [UsbTvInstance.handleMessage] at h
    split_ifs at h with hstreaming
    · obtain ⟨usbtv, hstop, rfl⟩ := Option.map_eq_some_iff.mp h
      rw [husbtv] at hstop
      obtain ⟨d', rfl, hinit', hactive', hcallback'⟩ := stop_eq_some hinit hstop
      refine ⟨d', rfl, hinit', iff_of_true ?_ trivial⟩
      exact ⟨hactive'.symm, hcallback'.trans hagrees.useCallback,
        fun hnot => absurd hnot (by simp [UsbTvInstance.handled])⟩
    · obtain rfl := Option.some_inj.mp h
      exact ⟨d, husbtv, hinit, iff_of_true hagrees trivial⟩
  | setInput input =>
    obtain rfl := Option.some_inj.mp h
    obtain ⟨log, tvInput, heq⟩ := d.setTvInput_eq env.answer input.ordinal
    have hinput := d.setTvInput_input env.answer input
    rw [heq] at hinput
    refine ⟨{ d with toUsbTvDriver := { d.withLog log with input := tvInput } }, ?_, hinit,
      iff_of_true ⟨hagrees.streamActive, hagrees.useCallback, fun hstreaming => ?_⟩ trivial⟩
    · rw [← heq]
      simp only [UsbTvInstance.handled, husbtv]
      rfl
    · exact (hagrees.params hstreaming).congr rfl rfl rfl rfl hinput
  | setNorm norm =>
    have hrestart := agrees_restart h husbtv hinit hagrees.streamActive hagrees.useCallback
    exact hrestart
  | setScanType scanType =>
    have hrestart := agrees_restart h husbtv hinit hagrees.streamActive hagrees.useCallback
    exact hrestart
  | setControl value => exact absurd h (by simp [UsbTvInstance.handleMessage])
  | setFrameListener listener =>
    simp only [UsbTvInstance.handleMessage] at h
    split_ifs at h with hstreaming
    · obtain rfl := Option.some_inj.mp h
      exact ⟨d, husbtv, hinit, iff_of_true hagrees trivial⟩
    · obtain rfl := Option.some_inj.mp h
      refine ⟨{ d with useCallback := listener.isSome }, ?_, hinit, iff_of_true ?_ trivial⟩
      · simp only [UsbTvInstance.handled, husbtv]
        rfl
      · exact ⟨hagrees.streamActive, rfl, fun hs => absurd hs hstreaming⟩

/-- **`OPEN_DEVICE`** keeps an object sound. -/
lemma Sound.openDevice (hs : Sound s)
    (h : s.self.handleMessage s.shared env .openDevice = some r) :
    Sound ⟨r.self, r.shared, s.callbacks ++ r.callbacks⟩ := by
  rcases UsbTvInstance.handleMessage_openDevice h with
    ⟨hnone, hdev, -, hcallbacks, connection, host, hself, hshared⟩ |
    ⟨hsame, -, hcallbacks, connection, params, hself, hparams⟩
  · -- the driver is new, so the object was not open, and no other message came before
    have hclosed : s.self.mIsOpen = false := by
      by_contra hopen
      obtain ⟨d, husbtv, -⟩ := hs.opened (by simpa using hopen)
      exact absurd (hnone.symm.trans husbtv) (by simp)
    have hnew : hasDriver s.callbacks = false := by
      by_contra hold
      rw [hs.noDevice hclosed (by simpa using hold)] at hdev
      exact absurd hdev (by simp)
    obtain ⟨-, hstreaming, hlistener⟩ := hs.fresh hnew
    have hopen : r.self.mIsOpen = true := by rw [hself]
    refine ⟨fun _ => ⟨_, by rw [hshared], rfl, ?_⟩, fun hnot => ?_, fun hnot => ?_, fun hnot => ?_⟩
    · rw [hself]
      refine ⟨hstreaming, ?_, fun hnot => absurd (hstreaming.symm.trans hnot) (by simp)⟩
      dsimp only
      rw [hlistener]
      rfl
    · exact absurd (hopen.symm.trans hnot) (by simp)
    · exact absurd (hopen.symm.trans hnot) (by simp)
    · simp [hcallbacks, hasDriver] at hnot
  · have hdriver : hasDriver (s.callbacks ++ r.callbacks) = hasDriver s.callbacks := by
      rw [hcallbacks, hasDriver_append_null]
    have hopen : r.self.mIsOpen = s.self.mIsOpen := by rw [hself]
    refine ⟨fun h => ?_, fun h => ?_, fun h hold => ?_, fun hnew => ?_⟩
    · obtain ⟨d, husbtv, hinit, hagrees⟩ := hs.opened (hopen.symm.trans h)
      refine ⟨d, hsame.trans husbtv, hinit, ?_⟩
      rw [hself]
      refine ⟨hagrees.streamActive, hagrees.useCallback, fun hstreaming => ?_⟩
      have hold := hagrees.params hstreaming
      rcases hparams with rfl | rfl
      · exact hold
      · exact hold.congr rfl rfl rfl rfl hold.input
    · exact hsame.trans (hs.closed (hopen.symm.trans h))
    · rw [hself]
      exact hs.noDevice (hopen.symm.trans h) (hdriver.symm.trans hold)
    · rw [hself]
      exact hs.fresh (hdriver.symm.trans hnew)

/-- **`CLOSE_DEVICE`** keeps an object sound. -/
lemma Sound.closeDevice (hs : Sound s) (hdriver : hasDriver s.callbacks = true)
    (h : s.self.handleMessage s.shared env .closeDevice = some r) :
    Sound ⟨r.self, r.shared, s.callbacks ++ r.callbacks⟩ := by
  have hclosed : r.self.mIsOpen = false ∧ r.shared.usbtv = none ∧ r.self.mUsbtvDevice = none := by
    obtain ⟨-, -, ⟨-, hnone, hself⟩ | ⟨hclosed, hshared, hself⟩⟩ :=
      UsbTvInstance.handleMessage_closeDevice h
    · rw [hself]
      exact ⟨rfl, hnone, rfl⟩
    · rw [hself, hshared]
      exact ⟨hclosed, hs.closed hclosed, hs.noDevice hclosed hdriver⟩
  refine ⟨fun hopen => ?_, fun _ => hclosed.2.1, fun _ _ => hclosed.2.2, fun hnew => ?_⟩
  · exact absurd (hclosed.1.symm.trans hopen) (by simp)
  · simp [hasDriver_append, hdriver] at hnew

/-- **The messages of the stream** keep an object sound, if the condition holds. -/
lemma Sound.streamMessage {msg : Message} (hs : Sound s) (hdriver : hasDriver s.callbacks = true)
    (hmsg : msg ≠ .openDevice) (hclose : msg ≠ .closeDevice) (hc : Resets s (.message msg env))
    (h : s.self.handleMessage s.shared env msg = some r) :
    Sound ⟨r.self, r.shared, s.callbacks ++ r.callbacks⟩ := by
  have hkeeps := UsbTvInstance.handleMessage_keeps hmsg hclose h
  refine ⟨fun hopen => ?_, fun hclosed => ?_, fun hclosed _ => ?_, fun hnew => ?_⟩
  · obtain ⟨d, husbtv, hinit, hiff⟩ :=
      hs.handleMessage_iff (hkeeps.mIsOpen.symm.trans hopen) hmsg hclose h
    exact ⟨d, husbtv, hinit, hiff.mpr hc⟩
  · have hnone := hs.closed (hkeeps.mIsOpen.symm.trans hclosed)
    exact hkeeps.calls.eq_none hnone
  · exact hkeeps.mUsbtvDevice.trans (hs.noDevice (hkeeps.mIsOpen.symm.trans hclosed) hdriver)
  · simp [hasDriver_append, hdriver] at hnew

/-- **The threads of the driver** keep an object sound. -/
lemma Sound.thread {d d' : NativeDriver} {e : ThreadEvent} (hs : Sound s)
    (husbtv : s.shared.usbtv = some d) (h : d.threadStep e = some d') :
    Sound { s with shared := { s.shared with usbtv := some d' } } := by
  obtain ⟨hactive, hcallback, hsame⟩ := NativeDriver.threadStep_settings h
  refine ⟨fun hopen => ?_, fun hclosed => ?_, hs.noDevice, hs.fresh⟩
  · obtain ⟨d₁, husbtv₁, hinit, hagrees⟩ := hs.opened hopen
    obtain rfl := Option.some_inj.mp (husbtv.symm.trans husbtv₁)
    refine ⟨d', rfl, hsame.initialized.trans hinit, hagrees.streamActive.trans hactive.symm,
      hcallback.trans hagrees.useCallback, fun hstreaming => ?_⟩
    have hparams := hagrees.params hstreaming
    exact hparams.congr rfl rfl hsame.frameParams hsame.packetsPerField
      (hsame.input.trans hparams.input)
  · exact absurd ((hs.closed hclosed).symm.trans husbtv) (by simp)

/-- What a message does to an object. -/
lemma step_message {msg : Message} (h : s.step (.message msg env) = some s') :
    (msg = .openDevice ∨ hasDriver s.callbacks = true) ∧
      ∃ r, s.self.handleMessage s.shared env msg = some r ∧
        s' = ⟨r.self, r.shared, s.callbacks ++ r.callbacks⟩ := by
  simp only [step] at h
  split_ifs at h with hguard
  obtain ⟨r, hr, rfl⟩ := Option.map_eq_some_iff.mp h
  exact ⟨hguard, r, hr, rfl⟩

/-- **Each event that meets the condition keeps an object sound.** -/
lemma sound_step {e : ViewEvent} (hs : Sound s) (hc : Resets s e) (h : s.step e = some s') :
    Sound s' := by
  cases e with
  | permission =>
    obtain rfl := Option.some_inj.mp h
    refine ⟨fun hopen => ?_, hs.closed, hs.noDevice, hs.fresh⟩
    obtain ⟨d, husbtv, hinit, hagrees⟩ := hs.opened hopen
    exact ⟨d, husbtv, hinit, hagrees.streamActive, hagrees.useCallback, hagrees.params⟩
  | thread e =>
    obtain ⟨d', hd', rfl⟩ := Option.map_eq_some_iff.mp h
    obtain ⟨d, husbtv, hstep⟩ := Option.bind_eq_some_iff.mp hd'
    exact hs.thread husbtv hstep
  | message msg env =>
    obtain ⟨hguard, r, hr, rfl⟩ := step_message h
    by_cases hmsg : msg = .openDevice
    · subst hmsg
      exact hs.openDevice hr
    have hdriver : hasDriver s.callbacks = true := hguard.resolve_left hmsg
    by_cases hclose : msg = .closeDevice
    · subst hclose
      exact hs.closeDevice hdriver hr
    · exact hs.streamMessage hdriver hmsg hclose hc hr

/-- In every run whose events meet the condition the object is sound. -/
lemma sound_of_reachable {params : DeviceParams} (h : (views params).ReachableUnder Resets s) :
    Sound s := by
  refine StepSystem.ReachableUnder.invariant (I := Sound) ?_
    (fun s e s' _ hs hc hstep => sound_step hs hc hstep) h
  rintro s ⟨host, rfl⟩
  exact ⟨fun hopen => absurd hopen (by simp [UsbTvInstance.new]), fun _ => rfl,
    fun _ hold => absurd hold (by simp), fun _ => ⟨rfl, rfl, rfl⟩⟩

/-- **When the object and the driver agree.** In every run whose starts so far could select
alternate setting 0, an open object agrees with its driver; and an event that leaves it open leaves
them in agreement if and only if its start, if it makes one, can select alternate setting 0 too. -/
theorem agrees_of_reachable {params : DeviceParams} (h : (views params).ReachableUnder Resets s) :
    (s.self.mIsOpen = true → ∃ d, s.shared.usbtv = some d ∧ Agrees s.self d) ∧
      ∀ e s', (views params).step s e = some s' → s'.self.mIsOpen = true →
        ((∃ d, s'.shared.usbtv = some d ∧ Agrees s'.self d) ↔ Resets s e) := by
  have hs := sound_of_reachable h
  have hagrees : ∀ {s : View}, Sound s → s.self.mIsOpen = true →
      ∃ d, s.shared.usbtv = some d ∧ Agrees s.self d := by
    intro s hs hopen
    obtain ⟨d, husbtv, -, hagrees⟩ := hs.opened hopen
    exact ⟨d, husbtv, hagrees⟩
  refine ⟨hagrees hs, fun e s' hstep hopen => ⟨fun hex => ?_, fun hc => ?_⟩⟩
  · cases e with
    | permission | thread => trivial
    | message msg env =>
      obtain ⟨-, r, hr, rfl⟩ := step_message hstep
      by_cases hmsg : msg = .openDevice
      · subst hmsg
        trivial
      by_cases hclose : msg = .closeDevice
      · subst hclose
        trivial
      have hkeeps := UsbTvInstance.handleMessage_keeps hmsg hclose hr
      obtain ⟨d, husbtv, -, hiff⟩ :=
        hs.handleMessage_iff (hkeeps.mIsOpen.symm.trans hopen) hmsg hclose hr
      obtain ⟨d', husbtv', hd'⟩ := hex
      obtain rfl := Option.some_inj.mp (husbtv.symm.trans husbtv')
      exact hiff.mp hd'
  · exact hagrees (sound_step hs hc hstep) hopen

/-- Parameters of a first stream on device 0. -/
def firstParams : DeviceParams := (Builder.new.setUsbDevice 0).build

/-- A new object. -/
def firstView : View := ⟨.new firstParams, ⟨none, ⟨0, [], []⟩⟩, []⟩

lemma firstView_init : (views firstParams).Init firstView := ⟨⟨0, [], []⟩, rfl⟩

/-- The device is opened, and a first stream is started. -/
theorem agrees_of_reachable_firstStream :
    ∃ s d, (views firstParams).ReachableUnder Resets s ∧ s.self.mIsStreaming = true ∧
      s.shared.usbtv = some d ∧ Agrees s.self d := by
  have h : ((views firstParams).runUnder Resets firstView
      [.permission, .message .openDevice (answering 0),
        .message .startStreaming (answering 0)]).map
      (fun s => (s.self.mIsOpen, s.self.mIsStreaming)) = some (true, true) := by decide
  obtain ⟨s, hrun, heq⟩ := Option.map_eq_some_iff.mp h
  obtain ⟨hopen, hstreaming⟩ := Prod.mk.inj heq
  have hs : (views firstParams).ReachableUnder Resets s :=
    StepSystem.ReachableUnder.runUnder (.init firstView_init) hrun
  obtain ⟨d, husbtv, hagrees⟩ := (agrees_of_reachable hs).1 hopen
  exact ⟨s, d, hs, hstreaming, husbtv, hagrees⟩

/-- **A start after which they disagree**: its first request, for alternate setting 0, fails, and
the object is not streaming while the driver is active. -/
theorem start_disagrees :
    ¬ ∀ s, (views firstParams).Reachable s → s.self.mIsOpen = true →
      ∃ d, s.shared.usbtv = some d ∧ Agrees s.self d := by
  intro hclaim
  have h : ((views firstParams).run firstView
      [.permission, .message .openDevice (answering 0),
        .message .startStreaming (answering (-1))]).map
      (fun s => (s.self.mIsOpen, s.self.mIsStreaming, s.shared.usbtv.map (·.streamActive))) =
      some (true, false, some true) := by decide
  obtain ⟨s, hrun, heq⟩ := Option.map_eq_some_iff.mp h
  obtain ⟨hopen, hrest⟩ := Prod.mk.inj heq
  obtain ⟨hstreaming, hactive⟩ := Prod.mk.inj hrest
  have hs : (views firstParams).Reachable s :=
    StepSystem.Reachable.run (.init firstView_init) hrun
  obtain ⟨d, husbtv, hagrees⟩ := hclaim s hs hopen
  rw [husbtv] at hactive
  have hd : d.streamActive = true := Option.some_inj.mp hactive
  exact absurd (hstreaming.symm.trans (hagrees.streamActive.trans hd)) (by simp)

end View

end UsbTv
