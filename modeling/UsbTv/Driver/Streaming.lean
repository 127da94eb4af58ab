import UsbTv.Lib.StepSystem
import UsbTv.Device.Basic
import UsbTv.DeviceParams
import UsbTv.Driver.Assembly

set_option relaxedAutoImplicit false
set_option autoImplicit false

/-!
# Starting and stopping a stream

`UsbTvDriver`: the constructor, `startStreaming` with every exit it has, and `stopStreaming`.
A result `none` means that the call does not return or is undefined: a search for a free frame
that no frame of the pool can end, a frame counter that wraps before it reaches the pool size,
a member read before it is assigned, a `join` that nobody wakes.

`UsbTvDriver.sessions` is one driver object over its whole life: starts, stops and packets in any
order. `stopStreaming` is split after it clears `_streamActive`, because the reap thread goes on
until it is joined.

## Main definitions

* `UsbTv.UsbTvDriver` — the members of the class.
* `UsbTv.UsbTvDriver.startStreaming`, `stopStreaming` — the two calls.
* `UsbTv.UsbTvDriver.sessions` — all runs of a driver.
* `UsbTv.UsbTvDriver.Idle` — no stream, no pool, no thread.

## Main results

* `UsbTv.UsbTvDriver.stopStreaming_eq` — what `stopStreaming` leaves behind.
* `UsbTv.UsbTvDriver.startStreaming_of_idle` — the exits of `startStreaming`.
* `UsbTv.UsbTvDriver.wellFormed_of_reachable` — an inactive driver is idle.
-/

namespace UsbTv

/-! ## State -/

/-- `_usbInputFrame`. The constructor does not assign it. -/
inductive FramePtr
  | indeterminate
  | null
  | frame (index : ℕ)
  deriving DecidableEq, Repr

/-- A frame of the pool as `allocateFramePool` sets it up. -/
def UsbTvFrame.new (bufferSize : ℕ) : UsbTvFrame where
  bufferSize := bufferSize
  buffer := fun _ => none
  frameId := 0
  flags := 0
  lock := false

/-- An entry of the pool that no frame was made for. -/
def UsbTvFrame.absent : UsbTvFrame := UsbTvFrame.new 0

/-- `UsbTvDriver`, the members that starting, stopping and the packets use. -/
structure UsbTvDriver extends Tracking where
  initialized : Bool
  streamActive : Bool
  frameParams : FrameParams
  input : TvInput
  framePoolSize : ℕ
  /-- `_framePool`: null, or the frames by index. -/
  framePool : Option (ℕ → UsbTvFrame)
  usbInputFrame : FramePtr
  /-- `_frameProcessThread` is not null. -/
  frameProcessThread : Bool
  processThreadRunning : Bool
  usbConnection : AndroidUsbDevice
  /-- The frames handed over since the last start, in order. -/
  handed : List Handover

namespace UsbTvDriver

/-- The constructor. What it does not assign has some value: `_frameParams`, `_input` and the
two counters. -/
def new (params : Java.DeviceParams) (frameParams : FrameParams) (input : TvInput)
    (dropped incomplete : ℕ) : UsbTvDriver where
  currentFrameId := 0
  packetsPerField := 0
  packetsDone := 0
  lastOdd := true
  secondFrame := false
  droppedFrameCounter := dropped
  incompleteFrameCounter := incomplete
  initialized := true
  streamActive := false
  frameParams := frameParams
  input := input
  framePoolSize := toUint16 params.mFramePoolSize
  framePool := none
  usbInputFrame := .indeterminate
  frameProcessThread := false
  processThreadRunning := false
  usbConnection := .new
  handed := []

/-- The driver of a first stream, NTSC with the default pool of four frames. -/
def firstDriver : UsbTvDriver :=
  new Java.Builder.new.build (nativeFrameParams Java.Builder.new.build) .usbtvCompositeInput 0 0

/-! ## Stopping -/

/-- `freeFramePool`. -/
def freeFramePool (d : UsbTvDriver) : UsbTvDriver :=
  { d with framePool := if d.streamActive then d.framePool else none }

/-- `stopStreaming`. The locks that it clears are those of frames which it frees next. A process
thread whose running flag is clear already is not woken up. -/
def stopStreaming (d : UsbTvDriver) (answer : ℕ → ℤ) : Option UsbTvDriver :=
  if d.initialized then
    let usb := if d.usbConnection.urbThreadRunning then d.usbConnection.stopUrbAsyncRead
      else d.usbConnection.discardIsoUrbs.2
    if d.frameProcessThread = true ∧ d.processThreadRunning = false then none
    else
      let (_, usb) := usb.setInterface answer 0 0
      let d := { d with
        streamActive := false
        usbConnection := usb
        frameProcessThread := false
        processThreadRunning := if d.frameProcessThread then false else d.processThreadRunning }
      match d.usbInputFrame with
      | .indeterminate => none
      | .null => some d.freeFramePool
      | .frame _ => some ({ d with usbInputFrame := .null }).freeFramePool
  else some d

/-! ## Starting -/

/-- `parseStreamingParams`. -/
def parseStreamingParams (d : UsbTvDriver) (params : Java.DeviceParams) : UsbTvDriver :=
  { d with
    frameParams := nativeFrameParams params
    packetsPerField := nativePacketsPerField params
    input := .cast params.mInput.ordinal }

/-- What `startStreaming` does before its first request. -/
def beginStream (d : UsbTvDriver) (params : Java.DeviceParams) : UsbTvDriver :=
  ({ d with
    streamActive := true
    droppedFrameCounter := 0
    incompleteFrameCounter := 0
    handed := [] }).parseStreamingParams params

/-- `_usbConnection->setInterface`. -/
def setInterface (d : UsbTvDriver) (answer : ℕ → ℤ) (interface altSetting : ℕ) :
    Bool × UsbTvDriver :=
  let (success, usb) := d.usbConnection.setInterface answer interface altSetting
  (success, { d with usbConnection := usb })

/-- `setRegisters`: it ends with the first write that fails. -/
def setRegisters (answer : ℕ → ℤ) : List (ℕ × ℕ) → UsbTvDriver → Bool × UsbTvDriver
  | [], d => (true, d)
  | (index, value) :: regs, d =>
    match d.usbConnection.controlTransfer answer value index with
    | (false, usb) => (false, { d with usbConnection := usb })
    | (true, usb) => setRegisters answer regs { d with usbConnection := usb }

/-- The register table of a norm. -/
def normRegisters : TvNorm → List (ℕ × ℕ)
  | .ntsc => ntscTvNorm
  | .pal => palTvNorm

/-- The register table of an input. -/
def inputRegisters : TvInput → List (ℕ × ℕ)
  | .usbtvCompositeInput => compositeInput
  | .usbtvSvideoInput => svideoInput

/-- The loop of `allocateFramePool`, whose counter is a `uint8_t`. -/
def allocateFrames (bufferSize framePoolSize : ℕ) :
    ℕ → ℕ → (ℕ → UsbTvFrame) → Option (ℕ → UsbTvFrame)
  | 0, _, _ => none
  | fuel + 1, i, pool =>
    if i < framePoolSize then
      allocateFrames bufferSize framePoolSize fuel ((i + 1) % 2 ^ 8)
        (Function.update pool i (UsbTvFrame.new bufferSize))
    else some pool

/-- `allocateFramePool`. After 257 tests of the counter the loop repeats itself. -/
def allocateFramePool (d : UsbTvDriver) : Option UsbTvDriver :=
  match d.framePool with
  | some _ => some d
  | none =>
    (allocateFrames d.frameParams.bufferSize d.framePoolSize 257 0 fun _ => .absent).map
      fun pool => { d with framePool := some pool }

/-- The search of `fetchFrameFromPool`, whose index is a `uint8_t`. -/
def searchFrame (framePoolSize : ℕ) (pool : ℕ → UsbTvFrame) : ℕ → ℕ → Option ℕ
  | 0, _ => none
  | fuel + 1, index =>
    if (pool index).lock = false then some index
    else
      let next := (index + 1) % 2 ^ 8
      searchFrame framePoolSize pool fuel (if next ≥ framePoolSize then 0 else next)

/-- `_usbInputFrame = fetchFrameFromPool()` with no other thread at work: when every frame of the
pool has been tested and was locked, the search does not end. -/
def fetchInputFrame (d : UsbTvDriver) : Option UsbTvDriver :=
  match d.framePool with
  | none => none
  | some pool =>
    (searchFrame d.framePoolSize pool d.framePoolSize 0).map fun index =>
      { d with
        framePool := some (Function.update pool index
          { pool index with lock := true, flags := frameStart })
        usbInputFrame := .frame index }

/-- What `startStreaming` does once the registers are written. -/
def openStream (d : UsbTvDriver) (answer : ℕ → ℤ) : Option (Bool × UsbTvDriver) :=
  (d.allocateFramePool.bind fetchInputFrame).bind fun d =>
    if d.frameProcessThread = true then
      -- "ERROR, Process thread not free;"
      (({ d with processThreadRunning := false }).stopStreaming answer).map fun d => (false, d)
    else
      let d := { d with processThreadRunning := true, frameProcessThread := true }
      match d.setInterface answer 0 1 with
      | (false, d) => (d.stopStreaming answer).map fun d => (false, d)
      | (true, d) =>
        match d.usbConnection.initIsoUrbs answer usbtvIsocTransfers with
        | (false, usb) =>
          (({ d with usbConnection := usb }).stopStreaming answer).map fun d => (false, d)
        | (true, usb) =>
          match usb.startUrbAsyncRead with
          | (false, usb) =>
            (({ d with usbConnection := usb }).stopStreaming answer).map fun d => (false, d)
          | (true, usb) => some (true, { d with usbConnection := usb })

/-- `startStreaming`. The first exit leaves `_streamActive` set. -/
def startStreaming (d : UsbTvDriver) (params : Java.DeviceParams) (answer : ℕ → ℤ) :
    Option (Bool × UsbTvDriver) :=
  if d.initialized = true ∧ d.streamActive = false then
    match (d.beginStream params).setInterface answer 0 0 with
    | (false, d) => some (false, d)
    | (true, d) =>
      match setRegisters answer videoInit d with
      | (false, d) => some (false, { d with streamActive := false })
      | (true, d) =>
        match setRegisters answer (normRegisters d.frameParams.norm) d with
        | (false, d) => some (false, { d with streamActive := false })
        | (true, d) =>
          match setRegisters answer (inputRegisters d.input) d with
          | (false, d) => some (false, { d with streamActive := false })
          | (true, d) => d.openStream answer
  else some (d.streamActive, d)

/-! ## Packets -/

/-- What the reap thread works on, once there is a frame to write to. -/
def assembler (d : UsbTvDriver) : Option Assembler :=
  match d.framePool, d.usbInputFrame with
  | some frames, .frame i => some
      { toTracking := d.toTracking
        frameParams := d.frameParams
        usbInputFrame := i
        frames := frames
        handed := d.handed }
  | _, _ => none

/-- What the reap thread works on is that of the driver. -/
lemma assembler_eq_some {d : UsbTvDriver} {a : Assembler} (h : d.assembler = some a) :
    d.framePool = some a.frames ∧ d.usbInputFrame = .frame a.usbInputFrame ∧
      a.toTracking = d.toTracking ∧ a.frameParams = d.frameParams ∧ a.handed = d.handed := by
  unfold assembler at h
  split at h
  · next frames i hpool hptr =>
    obtain rfl := Option.some_inj.mp h
    exact ⟨hpool, hptr, rfl, rfl, rfl⟩
  · exact absurd h (by simp)

/-- The driver after the reap thread has changed what it works on. -/
def withAssembler (d : UsbTvDriver) (a : Assembler) : UsbTvDriver :=
  { d with
    toTracking := a.toTracking
    usbInputFrame := .frame a.usbInputFrame
    framePool := some a.frames
    handed := a.handed }

/-! ## Runs -/

/-- A driver object, and whether `stopStreaming` is at work on it. -/
structure Session where
  driver : UsbTvDriver
  stopping : Bool

/-- What can happen to a driver object. The environment answers the requests of a call, and the
frame that a packet completes. -/
inductive SessionEvent
  | startStreaming (params : Java.DeviceParams) (answer : ℕ → ℤ)
  /-- `stopStreaming` clears `_streamActive`. -/
  | beginStop
  /-- The rest of `stopStreaming`. -/
  | endStop (answer : ℕ → ℤ)
  | packet (packet : Packet) (answer : Answer)

/-- One event. `fetchFrameFromPool` returns a frame of the pool. -/
def Session.step (s : Session) : SessionEvent → Option Session
  | .startStreaming params answer =>
    if s.stopping then none
    else (s.driver.startStreaming params answer).map fun r => ⟨r.2, false⟩
  | .beginStop =>
    if s.stopping ∨ s.driver.initialized = false then none
    else some ⟨{ s.driver with streamActive := false }, true⟩
  | .endStop answer =>
    if s.stopping then (s.driver.stopStreaming answer).map fun d => ⟨d, false⟩ else none
  | .packet packet answer =>
    match answer with
    | .accepted next =>
      if next < s.driver.framePoolSize then
        s.driver.assembler.map fun a =>
          ⟨s.driver.withAssembler (a.processPacket (fun _ => answer) packet), s.stopping⟩
      else none
    | _ => s.driver.assembler.map fun a =>
        ⟨s.driver.withAssembler (a.processPacket (fun _ => answer) packet), s.stopping⟩

/-- The runs of a driver object constructed with `params`. -/
def sessions (params : Java.DeviceParams) : StepSystem Session SessionEvent where
  Init s := ∃ frameParams input dropped incomplete,
    s = ⟨new params frameParams input dropped incomplete, false⟩
  step := Session.step

/-! ## What stopping leaves behind -/

/-- The driver is idle: no stream, no pool, no process thread, no reap thread, and no URB counts
as submitted. -/
structure Idle (d : UsbTvDriver) : Prop where
  streamActive : d.streamActive = false
  framePool : d.framePool = none
  frameProcessThread : d.frameProcessThread = false
  processThreadRunning : d.processThreadRunning = false
  urbThread : d.usbConnection.urbThread = false
  urbThreadRunning : d.usbConnection.urbThreadRunning = false
  isoUrbsSubmitted : d.usbConnection.isoUrbsSubmitted = 0

/-- The running flags tell which threads exist, and URBs count as submitted only in a pool. -/
structure Consistent (d : UsbTvDriver) : Prop where
  processThread : d.processThreadRunning = d.frameProcessThread
  urbThread : d.usbConnection.urbThreadRunning = d.usbConnection.urbThread
  counted : d.usbConnection.Counted

lemma Idle.consistent {d : UsbTvDriver} (h : d.Idle) : d.Consistent :=
  ⟨h.processThreadRunning.trans h.frameProcessThread.symm,
    h.urbThreadRunning.trans h.urbThread.symm, fun _ => h.isoUrbsSubmitted⟩

/-- The device without a reap thread and without URBs that count as submitted. -/
structure UsbStopped (u : AndroidUsbDevice) : Prop where
  urbThread : u.urbThread = false
  urbThreadRunning : u.urbThreadRunning = false
  isoUrbsSubmitted : u.isoUrbsSubmitted = 0

/-- Discarding the URBs leaves none that counts as submitted. -/
lemma discardIsoUrbs_isoUrbsSubmitted_of_counted {u : AndroidUsbDevice} (h : u.Counted) :
    u.discardIsoUrbs.2.isoUrbsSubmitted = 0 := by
  rw [u.discardIsoUrbs_isoUrbsSubmitted]
  split_ifs with hnil
  · exact h hnil
  · rfl

/-- The reap thread ends and the URBs are discarded, on whichever of its two ways
`stopStreaming` gets there. -/
lemma usbStopped_of_stop {u : AndroidUsbDevice} (hc : u.Counted)
    (ht : u.urbThreadRunning = u.urbThread) :
    UsbStopped (if u.urbThreadRunning then u.stopUrbAsyncRead else u.discardIsoUrbs.2) := by
  cases hr : u.urbThreadRunning with
  | true =>
    have hthread : u.urbThread = true := ht.symm.trans hr
    simp only [if_true, AndroidUsbDevice.stopUrbAsyncRead, hthread]
    set u₁ : AndroidUsbDevice := { u with urbThreadRunning := false, urbThread := false }
    have hs := u₁.discardIsoUrbs_same
    exact ⟨hs.urbThread, hs.urbThreadRunning,
      discardIsoUrbs_isoUrbsSubmitted_of_counted (u := u₁) hc⟩
  | false =>
    have hthread : u.urbThread = false := ht.symm.trans hr
    have hs := u.discardIsoUrbs_same
    simp only [Bool.false_eq_true, if_false]
    exact ⟨hs.urbThread.trans hthread, hs.urbThreadRunning.trans hr,
      discardIsoUrbs_isoUrbsSubmitted_of_counted hc⟩

/-- The driver with the tracking variables and parameters of `d`, and nothing else left of its
stream. -/
def stopped (d : UsbTvDriver) (usb : AndroidUsbDevice) : UsbTvDriver :=
  { d with
    streamActive := false
    usbConnection := usb
    frameProcessThread := false
    processThreadRunning := false
    usbInputFrame := .null
    framePool := none }

lemma stopped_idle (d : UsbTvDriver) {usb : AndroidUsbDevice} (h : UsbStopped usb) :
    (d.stopped usb).Idle :=
  ⟨rfl, rfl, rfl, rfl, h.urbThread, h.urbThreadRunning, h.isoUrbsSubmitted⟩

/-- **What `stopStreaming` leaves behind.** -/
lemma stopStreaming_eq {d d' : UsbTvDriver} {answer : ℕ → ℤ} (hinit : d.initialized = true)
    (hd : d.Consistent) (h : d.stopStreaming answer = some d') :
    ∃ usb, UsbStopped usb ∧ d' = d.stopped usb := by
  have hrun : (if d.frameProcessThread = true then false else d.processThreadRunning) = false := by
    rw [hd.processThread]
    cases d.frameProcessThread <;> rfl
  have husb := usbStopped_of_stop hd.counted hd.urbThread
  rw [stopStreaming, if_pos hinit] at h
  generalize (if d.usbConnection.urbThreadRunning then d.usbConnection.stopUrbAsyncRead
    else d.usbConnection.discardIsoUrbs.2) = u at h husb
  simp only [hrun] at h
  split_ifs at h
  refine ⟨(u.setInterface answer 0 0).2,
    ⟨husb.urbThread, husb.urbThreadRunning, husb.isoUrbsSubmitted⟩, ?_⟩
  cases hptr : d.usbInputFrame with
  | indeterminate => simp [hptr] at h
  | null =>
    simp only [hptr, freeFramePool, Bool.false_eq_true, if_false, Option.some_inj] at h
    rw [← h, stopped]
  | frame i =>
    simp only [hptr, freeFramePool, Bool.false_eq_true, if_false, Option.some_inj] at h
    rw [← h, stopped]

/-! ## What starting does -/

/-- The driver with another record of requests. -/
def withLog (d : UsbTvDriver) (log : List Ioctl) : UsbTvDriver :=
  { d with usbConnection := { d.usbConnection with log := log } }

/-- The requests that write a register table. -/
def registerWrites (regs : List (ℕ × ℕ)) : List Ioctl :=
  regs.map fun r => .control r.2 r.1

/-- Setting the interface changes the record of requests only. -/
lemma setInterface_eq (d : UsbTvDriver) (answer : ℕ → ℤ) (interface altSetting : ℕ) :
    d.setInterface answer interface altSetting =
      (answer d.usbConnection.log.length == 0,
        d.withLog (d.usbConnection.log ++ [.setInterface interface altSetting])) := rfl

/-- Writing registers changes the record of requests only: it breaks off, or the whole table is
on record, in order. -/
lemma setRegisters_cases (answer : ℕ → ℤ) (regs : List (ℕ × ℕ)) (d : UsbTvDriver) :
    (∃ log, setRegisters answer regs d = (false, d.withLog log)) ∨
      setRegisters answer regs d =
        (true, d.withLog (d.usbConnection.log ++ registerWrites regs)) := by
  induction regs generalizing d with
  | nil =>
    right
    simp [setRegisters, registerWrites, withLog]
  | cons r regs ih =>
    obtain ⟨index, value⟩ := r
    cases hret : (answer d.usbConnection.log.length == 0) with
    | false =>
      left
      refine ⟨d.usbConnection.log ++ [.control value index], ?_⟩
      simp only [setRegisters, AndroidUsbDevice.controlTransfer, AndroidUsbDevice.ioctl, hret,
        withLog]
    | true =>
      let d₁ := d.withLog (d.usbConnection.log ++ [.control value index])
      have heq : setRegisters answer ((index, value) :: regs) d = setRegisters answer regs d₁ := by
        simp only [setRegisters, AndroidUsbDevice.controlTransfer, AndroidUsbDevice.ioctl, hret,
          d₁, withLog]
      rw [heq]
      rcases ih d₁ with ⟨log, hlog⟩ | hlog
      · exact .inl ⟨log, hlog⟩
      · right
        rw [hlog]
        simp [d₁, withLog, registerWrites]

/-- The pool that `allocateFramePool` makes. -/
def newPool (bufferSize framePoolSize : ℕ) : ℕ → UsbTvFrame :=
  fun i => if i < framePoolSize then UsbTvFrame.new bufferSize else .absent

/-- With a pool of at most 255 frames the loop makes each of them. -/
lemma allocateFrames_eq {bufferSize framePoolSize fuel i : ℕ} (hsize : framePoolSize < 2 ^ 8)
    (hi : i ≤ framePoolSize) (hfuel : framePoolSize < i + fuel) (pool : ℕ → UsbTvFrame) :
    allocateFrames bufferSize framePoolSize fuel i pool = some fun j =>
      if i ≤ j ∧ j < framePoolSize then UsbTvFrame.new bufferSize else pool j := by
  induction fuel generalizing i pool with
  | zero => omega
  | succ fuel ih =>
    by_cases hlt : i < framePoolSize
    · rw [allocateFrames, if_pos hlt, Nat.mod_eq_of_lt (by omega), ih (by omega) (by omega)]
      congr 1
      funext j
      by_cases hj : j = i
      · subst hj
        simp [hlt]
      · rw [Function.update_of_ne hj]
        have hiff : (i + 1 ≤ j ∧ j < framePoolSize) ↔ (i ≤ j ∧ j < framePoolSize) := by omega
        simp only [hiff]
    · rw [allocateFrames, if_neg hlt]
      congr 1
      funext j
      rw [if_neg (by omega)]

/-- With a pool of more than 255 frames the counter wraps and the loop never ends. -/
lemma allocateFrames_of_le {bufferSize framePoolSize : ℕ} (hsize : 2 ^ 8 ≤ framePoolSize)
    (fuel : ℕ) {i : ℕ} (hi : i < 2 ^ 8) (pool : ℕ → UsbTvFrame) :
    allocateFrames bufferSize framePoolSize fuel i pool = none := by
  induction fuel generalizing i pool with
  | zero => rfl
  | succ fuel ih =>
    rw [allocateFrames, if_pos (by omega)]
    exact ih (Nat.mod_lt _ (by norm_num)) _

/-- A new pool exists only for a size that the counter can reach. -/
lemma allocateFramePool_eq {d d' : UsbTvDriver} (hpool : d.framePool = none)
    (h : d.allocateFramePool = some d') :
    d.framePoolSize < 2 ^ 8 ∧
      d' = { d with framePool := some (newPool d.frameParams.bufferSize d.framePoolSize) } := by
  simp only [allocateFramePool, hpool] at h
  by_cases hsize : d.framePoolSize < 2 ^ 8
  · rw [allocateFrames_eq hsize (Nat.zero_le _) (by omega), Option.map_some, Option.some_inj] at h
    simp only [Nat.zero_le, true_and] at h
    exact ⟨hsize, h.symm⟩
  · rw [allocateFrames_of_le (by omega) 257 (by norm_num)] at h
    exact absurd h (by simp)

/-- The pool after its first frame was fetched. -/
def startedPool (bufferSize framePoolSize : ℕ) : ℕ → UsbTvFrame :=
  Function.update (newPool bufferSize framePoolSize) 0
    { newPool bufferSize framePoolSize 0 with lock := true, flags := frameStart }

/-- Every frame of a started pool has a buffer of the size asked for. -/
lemma startedPool_bufferSize {bufferSize framePoolSize i : ℕ} (hi : i < framePoolSize) :
    (startedPool bufferSize framePoolSize i).bufferSize = bufferSize := by
  by_cases h0 : i = 0
  · subst h0
    simp [startedPool, newPool, hi, UsbTvFrame.new]
  · simp [startedPool, newPool, h0, hi, UsbTvFrame.new]

/-- From a new pool that is not empty, frame `0` is fetched. -/
lemma fetchInputFrame_newPool {d d' : UsbTvDriver} {bufferSize : ℕ}
    (hpool : d.framePool = some (newPool bufferSize d.framePoolSize))
    (h : d.fetchInputFrame = some d') :
    0 < d.framePoolSize ∧
      d' = { d with
        framePool := some (startedPool bufferSize d.framePoolSize)
        usbInputFrame := .frame 0 } := by
  simp only [fetchInputFrame, hpool] at h
  cases hsize : d.framePoolSize with
  | zero =>
    rw [hsize] at h
    exact absurd h (by simp [searchFrame])
  | succ n =>
    have hfree : (newPool bufferSize (n + 1) 0).lock = false := by simp [newPool, UsbTvFrame.new]
    rw [hsize, searchFrame, if_pos hfree, Option.map_some, Option.some_inj] at h
    exact ⟨by omega, h.symm⟩

/-- The device while a stream runs that was opened at `u`: the reap thread runs, and the URBs of
the pool were submitted right after alternate setting 1 was selected. -/
structure UsbStreaming (u u' : AndroidUsbDevice) : Prop where
  urbThread : u'.urbThread = true
  urbThreadRunning : u'.urbThreadRunning = true
  isoUrbsSubmitted : u'.isoUrbsSubmitted = usbtvIsocTransfers
  length_isoUrbPool : u'.isoUrbPool.length = usbtvIsocTransfers
  pending : ∀ urb ∈ u'.isoUrbPool, urb ∈ u'.usbfs.pending
  log : u'.log = u.log ++ [.setInterface 0 1] ++ u'.isoUrbPool.map .submitUrb

/-- Initialising the URBs and starting the reap thread of a device at rest. -/
lemma usbStreaming_of_init {u : AndroidUsbDevice} {answer : ℕ → ℤ} (hu : UsbStopped u)
    (hinit : (u.initIsoUrbs answer usbtvIsocTransfers).1 = true) :
    let u' := (u.initIsoUrbs answer usbtvIsocTransfers).2
    u'.startUrbAsyncRead = (true, { u' with urbThread := true, urbThreadRunning := true }) ∧
      u'.isoUrbsSubmitted = usbtvIsocTransfers ∧ u'.isoUrbPool.length = usbtvIsocTransfers ∧
      (∀ urb ∈ u'.isoUrbPool, urb ∈ u'.usbfs.pending) ∧
      u'.log = u.log ++ u'.isoUrbPool.map .submitUrb := by
  intro u'
  obtain ⟨hs, hcount⟩ := AndroidUsbDevice.initIsoUrbs_of_success
    (fun _ => hu.isoUrbsSubmitted) (by decide) hinit
  have hclear := AndroidUsbDevice.clearIsoUrbs_of_not_submitted hu.isoUrbsSubmitted
  have hpool : u'.isoUrbPool = List.range' u.allocated usbtvIsocTransfers := by
    have h := hs.isoUrbPool
    rw [hclear] at h
    exact h
  have hthread : u'.urbThread = false := by
    have h := hs.urbThread
    rw [hclear] at h
    exact h.trans hu.urbThread
  refine ⟨by simp only [AndroidUsbDevice.startUrbAsyncRead, hthread, if_true], hcount, ?_, ?_, ?_⟩
  · rw [hpool, List.length_range']
  · intro urb hurb
    have h := hs.pending
    rw [hclear] at h
    rw [hpool] at hurb
    change u'.usbfs.pending = _ at h
    rw [h]
    exact List.mem_append_right _ hurb
  · have h := hs.log_of_eq rfl
    rw [hclear] at h
    rw [hpool]
    exact h

/-- A failed `initIsoUrbs` on a device at rest leaves it at rest. -/
lemma usbStopped_of_initIsoUrbs {u : AndroidUsbDevice} {answer : ℕ → ℤ} (hu : UsbStopped u)
    (hinit : (u.initIsoUrbs answer usbtvIsocTransfers).1 = false) :
    UsbStopped (u.initIsoUrbs answer usbtvIsocTransfers).2 := by
  obtain ⟨k, -, hf⟩ := AndroidUsbDevice.initIsoUrbs_of_failure (fun _ => hu.isoUrbsSubmitted)
    (by decide) hinit
  exact ⟨hf.urbThread.trans hu.urbThread, hf.urbThreadRunning.trans hu.urbThreadRunning,
    hf.isoUrbsSubmitted⟩

/-- The driver with a pool, a frame to write to and a process thread. -/
def opened (d : UsbTvDriver) (usb : AndroidUsbDevice) : UsbTvDriver :=
  { d with
    framePool := some (startedPool d.frameParams.bufferSize d.framePoolSize)
    usbInputFrame := .frame 0
    frameProcessThread := true
    processThreadRunning := true
    usbConnection := usb }

/-- Stopping a driver that was opened undoes the opening. -/
lemma stopStreaming_opened {d d' : UsbTvDriver} {usb : AndroidUsbDevice} {answer : ℕ → ℤ}
    (hinit : d.initialized = true) (husb : UsbStopped usb)
    (h : (d.opened usb).stopStreaming answer = some d') :
    ∃ usb', UsbStopped usb' ∧ d' = d.stopped usb' := by
  have hc : (d.opened usb).Consistent :=
    ⟨rfl, husb.urbThreadRunning.trans husb.urbThread.symm, fun _ => husb.isoUrbsSubmitted⟩
  obtain ⟨usb', husb', rfl⟩ := stopStreaming_eq (d := d.opened usb) hinit hc h
  exact ⟨usb', husb', rfl⟩

/-- **The exits of `startStreaming` once the registers are written**: either the stream runs, or
everything is undone. -/
lemma openStream_cases {d d' : UsbTvDriver} {answer : ℕ → ℤ} {ok : Bool}
    (hinit : d.initialized = true) (hpool : d.framePool = none)
    (hthread : d.frameProcessThread = false) (husb : UsbStopped d.usbConnection)
    (h : d.openStream answer = some (ok, d')) :
    0 < d.framePoolSize ∧ d.framePoolSize < 2 ^ 8 ∧
      ((ok = false ∧ ∃ usb, UsbStopped usb ∧ d' = d.stopped usb) ∨
        (ok = true ∧ ∃ usb, UsbStreaming d.usbConnection usb ∧ d' = d.opened usb)) := by
  rw [openStream, Option.bind_eq_some_iff] at h
  obtain ⟨d₂, hd₂, h⟩ := h
  rw [Option.bind_eq_some_iff] at hd₂
  obtain ⟨d₁, hd₁, hd₂⟩ := hd₂
  obtain ⟨hsize, rfl⟩ := allocateFramePool_eq hpool hd₁
  obtain ⟨hpos, rfl⟩ := fetchInputFrame_newPool rfl hd₂
  refine ⟨hpos, hsize, ?_⟩
  simp only [hthread, Bool.false_eq_true, if_false] at h
  rw [setInterface_eq] at h
  have hfail : ∀ {u : AndroidUsbDevice}, UsbStopped u →
      ((d.opened u).stopStreaming answer).map (fun d => (false, d)) = some (ok, d') →
      ok = false ∧ ∃ usb, UsbStopped usb ∧ d' = d.stopped usb := by
    intro u hu h
    obtain ⟨d₃, hd₃, heq⟩ := Option.map_eq_some_iff.mp h
    obtain ⟨rfl, rfl⟩ := Prod.mk.injEq .. ▸ heq
    exact ⟨rfl, stopStreaming_opened hinit hu hd₃⟩
  -- the device once alternate setting 1 was asked for
  set u : AndroidUsbDevice :=
    { d.usbConnection with log := d.usbConnection.log ++ [.setInterface 0 1] } with hu
  have hus : UsbStopped u := ⟨husb.urbThread, husb.urbThreadRunning, husb.isoUrbsSubmitted⟩
  cases hret : (answer d.usbConnection.log.length == 0) with
  | false =>
    simp only [hret] at h
    exact .inl (hfail hus h)
  | true =>
    simp only [hret] at h
    change (match u.initIsoUrbs answer usbtvIsocTransfers with
      | (false, usb) => ((d.opened usb).stopStreaming answer).map fun d => (false, d)
      | (true, usb) => match usb.startUrbAsyncRead with
        | (false, usb) => ((d.opened usb).stopStreaming answer).map fun d => (false, d)
        | (true, usb) => some (true, d.opened usb)) = _ at h
    cases hok : (u.initIsoUrbs answer usbtvIsocTransfers).1 with
    | false =>
      have hst := usbStopped_of_initIsoUrbs hus hok
      rw [← Prod.mk.eta (p := u.initIsoUrbs answer usbtvIsocTransfers), hok] at h
      exact .inl (hfail hst h)
    | true =>
      obtain ⟨hread, hcount, hlen, hpending, hlog⟩ := usbStreaming_of_init hus hok
      rw [← Prod.mk.eta (p := u.initIsoUrbs answer usbtvIsocTransfers), hok] at h
      simp only [hread, Option.some_inj, Prod.mk.injEq] at h
      obtain ⟨rfl, rfl⟩ := h
      refine .inr ⟨rfl, { (u.initIsoUrbs answer usbtvIsocTransfers).2 with
        urbThread := true, urbThreadRunning := true }, ?_, rfl⟩
      exact ⟨rfl, rfl, hcount, hlen, hpending, hlog⟩

/-- The requests of a full start up to the registers. -/
def registerRequests (norm : TvNorm) (input : TvInput) : List Ioctl :=
  [.setInterface 0 0] ++ registerWrites videoInit ++ registerWrites (normRegisters norm) ++
    registerWrites (inputRegisters input)

/-- **The exits of `startStreaming`** from an idle driver: alternate setting 0 could not be
selected; a register could not be written; or the registers were all written, in order. -/
lemma startStreaming_cases {d d' : UsbTvDriver} {params : Java.DeviceParams} {answer : ℕ → ℤ}
    {ok : Bool} (hinit : d.initialized = true) (hactive : d.streamActive = false)
    (h : d.startStreaming params answer = some (ok, d')) :
    (answer d.usbConnection.log.length ≠ 0 ∧ ok = false ∧
        ∃ log, d' = (d.beginStream params).withLog log) ∨
      (answer d.usbConnection.log.length = 0 ∧ ok = false ∧
        ∃ log, d' = { (d.beginStream params).withLog log with streamActive := false }) ∨
      (answer d.usbConnection.log.length = 0 ∧
        ((d.beginStream params).withLog (d.usbConnection.log ++
          registerRequests (d.beginStream params).frameParams.norm
            (d.beginStream params).input)).openStream answer = some (ok, d')) := by
  set b := d.beginStream params with hb
  have hlog : b.usbConnection.log = d.usbConnection.log := rfl
  rw [startStreaming, if_pos ⟨hinit, hactive⟩, ← hb, setInterface_eq, hlog] at h
  -- the exits with an unwritten register
  have hexit : ∀ log : List Ioctl,
      some (false, { b.withLog log with streamActive := false }) = some (ok, d') →
      ok = false ∧ ∃ log, d' = { b.withLog log with streamActive := false } := by
    intro log heq
    rw [Option.some_inj, Prod.mk.injEq] at heq
    exact ⟨heq.1.symm, log, heq.2.symm⟩
  cases hret : (answer d.usbConnection.log.length == 0) with
  | false =>
    rw [hret, Option.some_inj, Prod.mk.injEq] at h
    exact .inl ⟨by simpa using hret, h.1.symm, _, h.2.symm⟩
  | true =>
    have hzero : answer d.usbConnection.log.length = 0 := by simpa using hret
    rw [hret] at h
    right
    dsimp only at h
    rcases setRegisters_cases answer videoInit
      (b.withLog (d.usbConnection.log ++ [.setInterface 0 0])) with ⟨log, h₁⟩ | h₁
    · rw [h₁] at h
      exact .inl ⟨hzero, hexit log h⟩
    rw [h₁] at h
    dsimp only at h
    rcases setRegisters_cases answer (normRegisters b.frameParams.norm)
      (b.withLog (d.usbConnection.log ++ [.setInterface 0 0] ++ registerWrites videoInit)) with
      ⟨log, h₂⟩ | h₂
    · erw [h₂] at h
      exact .inl ⟨hzero, hexit log h⟩
    erw [h₂] at h
    dsimp only at h
    rcases setRegisters_cases answer (inputRegisters b.input)
      (b.withLog (d.usbConnection.log ++ [.setInterface 0 0] ++ registerWrites videoInit ++
        registerWrites (normRegisters b.frameParams.norm))) with ⟨log, h₃⟩ | h₃
    · erw [h₃] at h
      exact .inl ⟨hzero, hexit log h⟩
    erw [h₃] at h
    refine .inr ⟨hzero, ?_⟩
    rw [← h]
    simp only [registerRequests, withLog, List.append_assoc]

/-- The record of requests when the registers of a stream are written. -/
def registerLog (d : UsbTvDriver) (params : Java.DeviceParams) : List Ioctl :=
  d.usbConnection.log ++
    registerRequests (nativeFrameParams params).norm (.cast params.mInput.ordinal)

/-- **The exits of `startStreaming` from an idle driver.** If alternate setting 0 cannot be
selected, `_streamActive` stays set; at every other failure the driver is idle again; and after a
success the stream is open. -/
theorem startStreaming_of_idle {d d' : UsbTvDriver} {params : Java.DeviceParams}
    {answer : ℕ → ℤ} {ok : Bool} (hinit : d.initialized = true) (hd : d.Idle)
    (h : d.startStreaming params answer = some (ok, d')) :
    (answer d.usbConnection.log.length ≠ 0 ∧ ok = false ∧
        ∃ log, d' = (d.beginStream params).withLog log) ∨
      (answer d.usbConnection.log.length = 0 ∧ ok = false ∧ d'.Idle ∧
        d'.toTracking = (d.beginStream params).toTracking ∧ d'.initialized = true ∧
        d'.framePoolSize = d.framePoolSize) ∨
      (answer d.usbConnection.log.length = 0 ∧ ok = true ∧ 0 < d.framePoolSize ∧
        d.framePoolSize < 2 ^ 8 ∧
        ∃ usb, UsbStreaming { d.usbConnection with log := d.registerLog params } usb ∧
          d' = (d.beginStream params).opened usb) := by
  rcases startStreaming_cases hinit hd.streamActive h with
    hreset | ⟨hret, hok, log, rfl⟩ | ⟨hret, hopen⟩
  · exact .inl hreset
  · refine .inr (.inl ⟨hret, hok, ?_, rfl, hinit, rfl⟩)
    exact ⟨rfl, hd.framePool, hd.frameProcessThread, hd.processThreadRunning, hd.urbThread,
      hd.urbThreadRunning, hd.isoUrbsSubmitted⟩
  · obtain ⟨hpos, hsize, ⟨hok, usb, husb, rfl⟩ | ⟨hok, usb, husb, rfl⟩⟩ :=
      openStream_cases (d := (d.beginStream params).withLog (d.registerLog params)) hinit
        hd.framePool hd.frameProcessThread
        ⟨hd.urbThread, hd.urbThreadRunning, hd.isoUrbsSubmitted⟩ hopen
    · exact .inr (.inl ⟨hret, hok, stopped_idle _ husb, rfl, hinit, rfl⟩)
    · exact .inr (.inr ⟨hret, hok, hpos, hsize, usb, husb, rfl⟩)

/-- While a stream is active, or on a driver that is not initialized, `startStreaming` only
reports `_streamActive`. -/
lemma startStreaming_of_active {d : UsbTvDriver} (hactive : d.streamActive = true)
    (params : Java.DeviceParams) (answer : ℕ → ℤ) :
    d.startStreaming params answer = some (true, d) := by
  have h : ¬ (d.initialized = true ∧ d.streamActive = false) := by simp [hactive]
  rw [startStreaming, if_neg h, hactive]

/-- A newly constructed driver is where runs start. -/
lemma reachable_new (params : Java.DeviceParams) (frameParams : FrameParams) (input : TvInput)
    (dropped incomplete : ℕ) :
    (sessions params).Reachable ⟨new params frameParams input dropped incomplete, false⟩ :=
  .init ⟨frameParams, input, dropped, incomplete, rfl⟩

/-- A run may go on with `startStreaming`. -/
lemma reachable_startStreaming {params₀ params : Java.DeviceParams} {d d' : UsbTvDriver}
    (h : (sessions params₀).Reachable ⟨d, false⟩) {answer : ℕ → ℤ} {ok : Bool}
    (hd' : d.startStreaming params answer = some (ok, d')) :
    (sessions params₀).Reachable ⟨d', false⟩ := by
  apply h.step (e := .startStreaming params answer) trivial
  simp only [sessions, Session.step, hd', Bool.false_eq_true, if_false, Option.map_some]

/-! ## What holds in every state -/

/-- A packet is processed on the frame in progress, and `fetchFrameFromPool` returns a frame of
the pool. -/
lemma step_packet {s s' : Session} {packet : Packet} {answer : Answer}
    (h : s.step (.packet packet answer) = some s') :
    (∀ next, answer = .accepted next → next < s.driver.framePoolSize) ∧
      ∃ a, s.driver.assembler = some a ∧
        s' = ⟨s.driver.withAssembler (a.processPacket (fun _ => answer) packet), s.stopping⟩ := by
  cases answer with
  | accepted next =>
    simp only [Session.step] at h
    split_ifs at h with hnext
    obtain ⟨a, ha, rfl⟩ := Option.map_eq_some_iff.mp h
    refine ⟨?_, a, ha, rfl⟩
    rintro next' ⟨⟩
    exact hnext
  | refused =>
    obtain ⟨a, ha, rfl⟩ := Option.map_eq_some_iff.mp h
    exact ⟨by simp, a, ha, rfl⟩
  | stopped =>
    obtain ⟨a, ha, rfl⟩ := Option.map_eq_some_iff.mp h
    exact ⟨by simp, a, ha, rfl⟩

/-- What holds of a driver object between any two events. -/
structure WellFormed (s : Session) : Prop where
  initialized : s.driver.initialized = true
  consistent : s.driver.Consistent
  idle : s.stopping = false → s.driver.streamActive = false → s.driver.Idle

/-- **What an event can do**: a start finds the driver active or idle, and a stop goes through. -/
lemma WellFormed.step_cases {s s' : Session} {e : SessionEvent} (hs : WellFormed s)
    (h : s.step e = some s') :
    match e with
    | .startStreaming params answer => s.driver.streamActive = true ∧ s' = s ∨
        s.driver.streamActive = false ∧ s.driver.Idle ∧
          ∃ ok d', s.driver.startStreaming params answer = some (ok, d') ∧ s' = ⟨d', false⟩
    | .beginStop => s.stopping = false ∧ s' = ⟨{ s.driver with streamActive := false }, true⟩
    | .endStop _ => ∃ usb, UsbStopped usb ∧ s' = ⟨s.driver.stopped usb, false⟩
    | .packet packet answer =>
        (∀ next, answer = .accepted next → next < s.driver.framePoolSize) ∧
          ∃ a, s.driver.assembler = some a ∧
            s' = ⟨s.driver.withAssembler (a.processPacket (fun _ => answer) packet),
              s.stopping⟩ := by
  cases e with
  | startStreaming params answer =>
    simp only [Session.step] at h
    split_ifs at h with hstop
    obtain ⟨⟨ok, d'⟩, hd', rfl⟩ := Option.map_eq_some_iff.mp h
    rw [Bool.not_eq_true] at hstop
    cases hactive : s.driver.streamActive with
    | true =>
      rw [startStreaming_of_active hactive, Option.some_inj, Prod.mk.injEq] at hd'
      obtain ⟨-, rfl⟩ := hd'
      exact .inl ⟨rfl, by rw [← hstop]⟩
    | false => exact .inr ⟨rfl, hs.idle hstop hactive, ok, d', hd', rfl⟩
  | beginStop =>
    simp only [Session.step] at h
    split_ifs at h with hguard
    rw [not_or, Bool.not_eq_true] at hguard
    exact ⟨hguard.1, (Option.some_inj.mp h).symm⟩
  | endStop answer =>
    simp only [Session.step] at h
    split_ifs at h
    obtain ⟨d', hd', rfl⟩ := Option.map_eq_some_iff.mp h
    obtain ⟨usb, husb, rfl⟩ := stopStreaming_eq hs.initialized hs.consistent hd'
    exact ⟨usb, husb, rfl⟩
  | packet packet answer => exact step_packet h

lemma wellFormed_step {s s' : Session} {e : SessionEvent} (hs : WellFormed s)
    (h : s.step e = some s') : WellFormed s' := by
  have hcons := hs.consistent
  cases e with
  | startStreaming params answer =>
    obtain ⟨-, rfl⟩ | ⟨-, hidle, ok, d', hd', rfl⟩ := hs.step_cases h
    · exact hs
    · rcases startStreaming_of_idle hs.initialized hidle hd' with
        ⟨-, -, log, rfl⟩ | ⟨-, -, hidle', -, hinit', -⟩ | ⟨-, -, -, -, usb, husb, rfl⟩
      · exact ⟨hs.initialized, ⟨hcons.processThread, hcons.urbThread, hcons.counted⟩,
          fun _ hact => by simp [withLog, beginStream, parseStreamingParams] at hact⟩
      · exact ⟨hinit', hidle'.consistent, fun _ _ => hidle'⟩
      · refine ⟨hs.initialized, ⟨rfl, husb.urbThreadRunning.trans husb.urbThread.symm,
          fun hnil => ?_⟩, fun _ hact => ?_⟩
        · have hlen := husb.length_isoUrbPool
          change usb.isoUrbPool = [] at hnil
          rw [hnil] at hlen
          exact absurd hlen (by decide)
        · simp [opened, beginStream, parseStreamingParams] at hact
  | beginStop =>
    obtain ⟨-, rfl⟩ := hs.step_cases h
    exact ⟨hs.initialized, ⟨hcons.processThread, hcons.urbThread, hcons.counted⟩,
      fun hstop => by simp at hstop⟩
  | endStop answer =>
    obtain ⟨usb, husb, rfl⟩ := hs.step_cases h
    have hidle' := stopped_idle s.driver husb
    exact ⟨hs.initialized, hidle'.consistent, fun _ _ => hidle'⟩
  | packet packet answer =>
    obtain ⟨-, a, ha, rfl⟩ := hs.step_cases h
    refine ⟨hs.initialized, ⟨hcons.processThread, hcons.urbThread, hcons.counted⟩,
      fun hstop hact => ?_⟩
    -- an idle driver has no pool to write to
    have hd := hs.idle hstop hact
    simp [assembler, hd.framePool] at ha

/-- **Between any two events a driver is well formed.** -/
theorem wellFormed_of_reachable {params : Java.DeviceParams}
    {C : Session → SessionEvent → Prop} {s : Session}
    (h : (sessions params).ReachableUnder C s) : WellFormed s := by
  refine StepSystem.ReachableUnder.invariant (I := WellFormed) ?_
    (fun s e s' _ hs _ hstep => wellFormed_step hs hstep) h
  rintro s ⟨frameParams, input, dropped, incomplete, rfl⟩
  have hidle : (new params frameParams input dropped incomplete).Idle :=
    ⟨rfl, rfl, rfl, rfl, rfl, rfl, rfl⟩
  exact ⟨rfl, hidle.consistent, fun _ _ => hidle⟩

/-- Once `stopStreaming` is done the driver is idle. -/
lemma idle_of_endStop {params : Java.DeviceParams} {s₀ s : Session}
    (hs₀ : (sessions params).Reachable s₀) {answer : ℕ → ℤ}
    (h : (sessions params).step s₀ (.endStop answer) = some s) : s.driver.Idle := by
  obtain ⟨usb, husb, rfl⟩ := (wellFormed_of_reachable hs₀).step_cases (e := .endStop answer) h
  exact stopped_idle _ husb

end UsbTvDriver

end UsbTv
