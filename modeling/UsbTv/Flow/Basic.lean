import UsbTv.DeviceParams
import UsbTv.Device.Threads

set_option relaxedAutoImplicit false
set_option autoImplicit false

/-!
# The way of a frame

A frame of the pool is written by the reap thread, waits in the process queue, is taken to the
listener by the process thread, and is returned by whoever the listener gave it to. Two locks go
with it: the `atomic_flag` of the native frame, which keeps it out of the pool, and `mLocked` of
its Java object, which lets it be returned once.

All threads are here: the handler thread in `startStreaming` and `stopStreaming`, the reap thread
of the USB device, the process thread, and any number of consumers. What a packet does that
completes no frame has no part in this, and is left to the driver's packet side.

A native pointer to a frame names the pool too, so that a pointer into a pool that was freed is
not mistaken for one into the next pool.

## Main definitions

* `UsbTv.FrameRef`, `UsbTv.JavaFrame` — frames of all pools, and their Java objects.
* `UsbTv.FrameFlow` — what the threads share.
* `UsbTv.frameFlow` — all interleavings.

## Main results

* `UsbTv.FrameFlow.startStreaming_of_unpooled` — what a start without a pool leaves behind.
* `UsbTv.FrameFlow.stopStep_cases`, `processStep_cases`, `fetchStep_cases` and the others — what
  each step does.
-/

namespace UsbTv

/-! ## State -/

/-- A frame, by the pool it belongs to and its index there. `allocateFramePool` makes the native
frame and its Java object together, and the name stands for both. -/
structure FrameRef where
  pool : ℕ
  index : ℕ
  deriving DecidableEq, Repr

/-- `UsbTvFrame`, the Java object: its lock, and whether it was ever unlocked for the listener,
which the object itself does not know. -/
structure JavaFrame where
  mLocked : Bool
  delivered : Bool
  deriving DecidableEq, Repr

/-- The constructor of the Java object. -/
def JavaFrame.new : JavaFrame := ⟨false, false⟩

/-- `_usbInputFrame`. -/
inductive InputFrame
  | indeterminate
  | null
  | frame (r : FrameRef)
  deriving DecidableEq, Repr

/-- Where the call of the driver stands that the handler thread makes. -/
inductive DriverCall
  /-- There is none. -/
  | idle
  /-- `startStreaming` is at `initIsoUrbs`. -/
  | initUrbs
  /-- `startStreaming` is at `startUrbAsyncRead`. -/
  | readUrbs
  /-- `startStreaming` has failed and calls `stopStreaming`. -/
  | failed
  /-- `stopStreaming` is at the test of `isUrbThreadRunning`. -/
  | stopUrbs
  /-- `stopStreaming` is in `stopUrbAsyncRead`, or past it or `discardIsoUrbs`. -/
  | stopReap
  /-- `stopStreaming` is at the `enqueue` of a null frame. -/
  | stopEnqueue
  /-- `stopStreaming` is at `_frameProcessThread->join()`. -/
  | stopJoin
  /-- `stopStreaming` is at the loop that empties the queue. -/
  | stopDrain
  /-- `stopStreaming` is at `freeFramePool`. -/
  | stopFree
  deriving DecidableEq, Repr

/-- `stopStreaming` has cleared `_streamActive`. -/
def DriverCall.Stops : DriverCall → Prop
  | stopUrbs | stopReap | stopEnqueue | stopJoin | stopDrain | stopFree => True
  | idle | initUrbs | readUrbs | failed => False

/-- Where the process thread stands. -/
inductive ProcessPc
  /-- `_frameProcessThread` is null. -/
  | absent
  /-- At `while (*(ctx->threadRunning))`. -/
  | test
  /-- In `getFrame`. -/
  | dequeue
  /-- At `if (*(ctx->useCallback))`, and then in `invoke`. -/
  | invoke (r : FrameRef)
  /-- In `nativeFrameCallback`, at the test of the listener. -/
  | callback (r : FrameRef)
  /-- At `frame.unlock()`. -/
  | unlock (r : FrameRef)
  /-- At `onFrameReceived(frame)`. -/
  | deliver (r : FrameRef)
  /-- The thread has ended and was not joined. -/
  | exited
  deriving DecidableEq, Repr

/-- The frame that the process thread has dequeued and not unlocked. -/
def ProcessPc.frame : ProcessPc → Option FrameRef
  | invoke r | callback r | unlock r => some r
  | absent | test | dequeue | deliver _ | exited => none

@[simp] lemma ProcessPc.frame_test : test.frame = none := rfl

@[simp] lemma ProcessPc.frame_deliver (r : FrameRef) : (deliver r).frame = none := rfl

/-- The reap thread is in `onUrbReceived`. -/
def ReapPc.isCallback : ReapPc → Bool
  | callback _ => true
  | absent | test | reaping | lock _ | reset _ | submit _ | exited => false

/-- What the handler thread, the reap thread, the process thread and the consumers share. -/
structure FrameFlow where
  /-- `usbtv` is not null. -/
  usbtv : Bool
  /-- `_usbConnection`, and the threads at work on it. -/
  usb : UsbThreads
  framePoolSize : ℕ
  streamActive : Bool
  /-- `_framePool`: null, or the pool. -/
  framePool : Option ℕ
  /-- The number of pools allocated so far. -/
  pools : ℕ
  /-- `lock` of the native frames. -/
  lock : FrameRef → Bool
  usbInputFrame : InputFrame
  frameProcessQueue : List (Option FrameRef)
  useCallback : Bool
  processThreadRunning : Bool
  /-- `_threadAttached` of the callback. -/
  threadAttached : Bool
  call : DriverCall
  process : ProcessPc
  /-- The index that the reap thread tries next in `fetchFrameFromPool`. -/
  fetching : Option ℕ
  mIsStreaming : Bool
  /-- `mOnFrameReceivedListener` is not null. -/
  mOnFrameReceivedListener : Bool
  javaFrame : FrameRef → JavaFrame
  /-- The frames dequeued and not handed to the listener. -/
  skipped : List FrameRef
  /-- The frames that consumers have locked in `returnFrame` and not released yet. -/
  returning : List FrameRef

/-! ## Steps -/

/-- How `startStreaming` gets on before it initialises the URBs. -/
inductive StartOutcome
  /-- `setInterface(0, 0)` fails. -/
  | interfaceFailed
  /-- Writing the registers fails. -/
  | registersFailed
  /-- The registers are written, and `setInterface(0, 1)` returns `success`. The process thread
  gets attached to the Java VM or not. -/
  | opened (success attached : Bool)
  deriving DecidableEq, Repr

/-- What can happen to the frames. -/
inductive FlowEvent
  /-- `UsbTv.initialize`, with the pool size of the parameters. -/
  | usbtvInitialize (mFramePoolSize : ℤ)
  /-- `UsbTv.dispose`. A driver that is active calls `stopStreaming` first. -/
  | dispose
  /-- The message `SET_FRAME_LISTENER`. -/
  | setFrameListener (listener : Bool)
  /-- `startStreaming` up to `initIsoUrbs`. -/
  | startStreaming (outcome : StartOutcome)
  /-- `stopStreaming` clears `_streamActive`. -/
  | stopStreaming
  /-- A step of the threads at work on the USB device. -/
  | usb (e : UsbEvent)
  /-- The next step of `stopStreaming` once the reap thread is joined. -/
  | stop
  /-- The reap thread calls `addCompleteFrameToQueue`. -/
  | addCompleteFrameToQueue (enqueued : Bool)
  /-- The reap thread tries a frame in `fetchFrameFromPool`. -/
  | fetch
  /-- The process thread dequeues the entry in place `k`: the queue keeps the order of each
  producer only. -/
  | dequeue (k : ℕ)
  /-- The next step of the process thread outside `getFrame`. -/
  | process
  /-- A consumer calls `returnFrame`, up to `compareAndSet`. -/
  | returnFrame (r : FrameRef)
  /-- The consumer goes on to `returnFrameToPool`. -/
  | returnFrameToPool (r : FrameRef)

namespace FrameFlow

/-- A fresh driver object. -/
def construct (s : FrameFlow) (framePoolSize : ℕ) : FrameFlow :=
  { s with
    usbtv := true
    usb := .new
    framePoolSize := framePoolSize
    streamActive := false
    framePool := none
    usbInputFrame := .indeterminate
    frameProcessQueue := []
    useCallback := false
    processThreadRunning := false
    threadAttached := false
    call := .idle
    process := .absent
    fetching := none
    mIsStreaming := false
    mOnFrameReceivedListener := false }

/-- `allocateFramePool`. With 256 frames or more its `uint8_t` counter never gets there. -/
def allocateFramePool (s : FrameFlow) : Option FrameFlow :=
  match s.framePool with
  | some _ => some s
  | none =>
    if s.framePoolSize < 2 ^ 8 then
      some { s with
        framePool := some s.pools
        pools := s.pools + 1
        lock := fun r => if r.pool = s.pools then false else s.lock r
        javaFrame := fun r => if r.pool = s.pools then .new else s.javaFrame r }
    else none

/-- `_usbInputFrame = fetchFrameFromPool()` on the handler thread, which finds the first frame
that is not locked. -/
def fetchInputFrame (s : FrameFlow) : Option FrameFlow :=
  match s.framePool with
  | none => none
  | some pool =>
    ((List.range s.framePoolSize).find? fun i => !s.lock ⟨pool, i⟩).map fun i =>
      { s with
        lock := Function.update s.lock ⟨pool, i⟩ true
        usbInputFrame := .frame ⟨pool, i⟩ }

/-- `startStreaming` up to `initIsoUrbs`. -/
def startStreaming (s : FrameFlow) (outcome : StartOutcome) : Option FrameFlow :=
  if s.streamActive then some { s with mIsStreaming := true }
  else
    match outcome with
    | .interfaceFailed => some { s with streamActive := true, mIsStreaming := false }
    | .registersFailed => some { s with mIsStreaming := false }
    | .opened success attached =>
      (({ s with streamActive := true } : FrameFlow).allocateFramePool.bind
          fetchInputFrame).map fun s : FrameFlow =>
        if s.process = .absent then
          { s with
            processThreadRunning := true
            process := .test
            threadAttached := attached
            call := if success then .initUrbs else .failed }
        else { s with processThreadRunning := false, call := .failed }

/-- `freeFramePool`. The locks that it sets are those of frames which it frees next. -/
def freeFramePool (s : FrameFlow) : FrameFlow :=
  { s with framePool := if s.streamActive then s.framePool else none }

/-- The loop of `stopStreaming` that empties the queue and clears the locks of its frames. -/
def drainQueue (s : FrameFlow) : FrameFlow :=
  { s with
    lock := fun r => s.lock r && !s.frameProcessQueue.contains (some r)
    frameProcessQueue := [] }

/-- The next step of `stopStreaming` once the reap thread is joined. -/
def stopStep (s : FrameFlow) : Option FrameFlow :=
  match s.call with
  | .stopReap =>
    if s.usb.handler ≠ .closed then none
    else if s.process = .absent then some { s with call := .stopDrain }
    else if s.processThreadRunning then
      some { s with processThreadRunning := false, call := .stopEnqueue }
    else some { s with call := .stopJoin }
  | .stopEnqueue =>
    some { s with frameProcessQueue := s.frameProcessQueue ++ [none], call := .stopJoin }
  | .stopJoin =>
    if s.process = .exited then some { s with process := .absent, call := .stopDrain } else none
  | .stopDrain =>
    match s.usbInputFrame with
    | .indeterminate => none
    | .null => some { s.drainQueue with call := .stopFree }
    | .frame r =>
      some { s.drainQueue with
        lock := Function.update s.drainQueue.lock r false
        usbInputFrame := .null
        call := .stopFree }
  | .stopFree => some { s.freeFramePool with mIsStreaming := false, call := .idle }
  | _ => none

/-- Where the call of the handler thread stands after an event of the USB device that leaves its
threads as `usb`, or `none` if the event is not what comes next. -/
def nextCall (s : FrameFlow) (usb : UsbThreads) : UsbEvent → Option DriverCall
  | .initIsoUrbs _ =>
    if s.call = .initUrbs then some (if usb.handler = .opened then .readUrbs else .failed) else none
  | .startUrbAsyncRead =>
    if s.call = .readUrbs then some (if usb.handler = .streaming then .idle else .failed) else none
  | .stop => if s.call = .stopUrbs then some .stopReap else none
  | .handler => if s.call = .stopReap then some .stopReap else none
  | .reap _ => if s.fetching = none then some s.call else none
  | .reapUrb _ | .reapError _ | .complete _ => some s.call

/-- A step of the threads at work on the USB device. -/
def usbStep (s : FrameFlow) (e : UsbEvent) : Option FrameFlow :=
  (s.usb.step e).bind fun usb => (s.nextCall usb e).map fun call =>
    { s with
      usb := usb
      call := call
      mIsStreaming := s.mIsStreaming || (s.call = .readUrbs && call = .idle) }

/-- The reap thread calls `addCompleteFrameToQueue`, up to `fetchFrameFromPool`. -/
def addCompleteFrameToQueue (s : FrameFlow) (enqueued : Bool) : Option FrameFlow :=
  match s.usbInputFrame with
  | .frame r =>
    if s.usb.reap.isCallback = true ∧ s.fetching = none then
      if enqueued then
        some { s with
          frameProcessQueue := s.frameProcessQueue ++ [some r]
          fetching := some 0 }
      else some s
    else none
  | _ => none

/-- The reap thread tries a frame in `fetchFrameFromPool`. -/
def fetchStep (s : FrameFlow) : Option FrameFlow :=
  match s.fetching, s.framePool with
  | some index, some pool =>
    if s.streamActive then
      if s.lock ⟨pool, index⟩ = false then
        some { s with
          lock := Function.update s.lock ⟨pool, index⟩ true
          usbInputFrame := .frame ⟨pool, index⟩
          fetching := none }
      else
        let next := (index + 1) % 2 ^ 8
        some { s with fetching := some (if next ≥ s.framePoolSize then 0 else next) }
    else some { s with usbInputFrame := .frame ⟨pool, 0⟩, fetching := none }
  | _, _ => none

/-- The process thread dequeues an entry. -/
def dequeueStep (s : FrameFlow) (k : ℕ) : Option FrameFlow :=
  if s.process = .dequeue then
    s.frameProcessQueue[k]?.map fun entry =>
      { s with
        frameProcessQueue := s.frameProcessQueue.eraseIdx k
        process := match entry with
          | none => .test
          | some r => .invoke r }
  else none

/-- The process thread goes on without handing the frame to the listener. -/
def skip (s : FrameFlow) (r : FrameRef) : FrameFlow :=
  { s with process := .test, skipped := r :: s.skipped }

/-- The next step of the process thread outside `getFrame`. -/
def processStep (s : FrameFlow) : Option FrameFlow :=
  match s.process with
  | .test => some { s with process := if s.processThreadRunning then .dequeue else .exited }
  | .invoke r =>
    some (if s.useCallback = true ∧ s.threadAttached = true then { s with process := .callback r }
      else s.skip r)
  | .callback r =>
    some (if s.mOnFrameReceivedListener then { s with process := .unlock r } else s.skip r)
  | .unlock r =>
    some { s with
      javaFrame := Function.update s.javaFrame r { mLocked := false, delivered := true }
      process := .deliver r }
  | .deliver _ => some { s with process := .test }
  | .absent | .dequeue | .exited => none

/-- `returnFrame`, called by a consumer that has got the frame object, up to `compareAndSet`. -/
def returnFrame (s : FrameFlow) (r : FrameRef) : Option FrameFlow :=
  if (s.javaFrame r).delivered then
    if (s.javaFrame r).mLocked then some s
    else
      some { s with
        javaFrame := Function.update s.javaFrame r { s.javaFrame r with mLocked := true }
        returning := r :: s.returning }
  else none

/-- `returnFrameToPool` and `clearFrameLock`. An index past the end of the pool is undefined. -/
def clearFrameLock (s : FrameFlow) (framePoolIndex : ℕ) : Option (Bool × FrameFlow) :=
  if s.usbtv then
    match s.framePool with
    | some pool =>
      if framePoolIndex < s.framePoolSize then
        some (true, { s with lock := Function.update s.lock ⟨pool, framePoolIndex⟩ false })
      else none
    | none => some (false, s)
  else some (false, s)

/-- The consumer goes on to `returnFrameToPool`. -/
def returnStep (s : FrameFlow) (r : FrameRef) : Option FrameFlow :=
  if r ∈ s.returning then
    (({ s with returning := s.returning.erase r }).clearFrameLock r.index).map Prod.snd
  else none

/-- One event. -/
def step (s : FrameFlow) : FlowEvent → Option FrameFlow
  | .usbtvInitialize mFramePoolSize =>
    if s.usbtv = false then some (s.construct (toUint16 mFramePoolSize)) else none
  | .dispose =>
    if s.usbtv = true ∧ s.call = .idle ∧ s.streamActive = false then
      some { s with usbtv := false }
    else none
  | .setFrameListener listener =>
    if s.call = .idle then
      if s.mIsStreaming then some s
      else some { s with
        mOnFrameReceivedListener := listener
        useCallback := if s.usbtv then listener else s.useCallback }
    else none
  | .startStreaming outcome =>
    if s.usbtv = true ∧ s.call = .idle then s.startStreaming outcome else none
  | .stopStreaming =>
    if s.usbtv = true ∧ (s.call = .idle ∨ s.call = .failed) then
      some { s with streamActive := false, call := .stopUrbs }
    else none
  | .usb e => s.usbStep e
  | .stop => s.stopStep
  | .addCompleteFrameToQueue enqueued => s.addCompleteFrameToQueue enqueued
  | .fetch => s.fetchStep
  | .dequeue k => s.dequeueStep k
  | .process => s.processStep
  | .returnFrame r => s.returnFrame r
  | .returnFrameToPool r => s.returnStep r

/-- Before the first driver object. -/
def new : FrameFlow where
  usbtv := false
  usb := .new
  framePoolSize := 0
  streamActive := false
  framePool := none
  pools := 0
  lock := fun _ => false
  usbInputFrame := .indeterminate
  frameProcessQueue := []
  useCallback := false
  processThreadRunning := false
  threadAttached := false
  call := .idle
  process := .absent
  fetching := none
  mIsStreaming := false
  mOnFrameReceivedListener := false
  javaFrame := fun _ => .new
  skipped := []
  returning := []

end FrameFlow

/-- All interleavings of the handler thread, the reap thread, the process thread, the consumers
and the kernel. -/
def frameFlow : StepSystem FrameFlow FlowEvent where
  Init s := s = FrameFlow.new
  step := FrameFlow.step

namespace FrameFlow

/-! ## Starting -/

/-- The state after a start that has allocated a pool. -/
def started (s : FrameFlow) (success attached : Bool) : FrameFlow :=
  { s with
    streamActive := true
    framePool := some s.pools
    pools := s.pools + 1
    lock := Function.update (fun r => if r.pool = s.pools then false else s.lock r)
      ⟨s.pools, 0⟩ true
    javaFrame := fun r => if r.pool = s.pools then .new else s.javaFrame r
    usbInputFrame := .frame ⟨s.pools, 0⟩
    processThreadRunning := true
    process := .test
    threadAttached := attached
    call := if success then .initUrbs else .failed }

/-- In a pool without locks the search for the first input frame ends at the first frame. -/
lemma fetchInputFrame_of_unlocked {s s' : FrameFlow} {pool : ℕ} (hpool : s.framePool = some pool)
    (hlock : ∀ i, s.lock ⟨pool, i⟩ = false) (h : s.fetchInputFrame = some s') :
    0 < s.framePoolSize ∧ s' = { s with
      lock := Function.update s.lock ⟨pool, 0⟩ true
      usbInputFrame := .frame ⟨pool, 0⟩ } := by
  simp only [fetchInputFrame, hpool, hlock, Bool.not_false] at h
  obtain ⟨i, hi, rfl⟩ := Option.map_eq_some_iff.mp h
  cases hsize : s.framePoolSize with
  | zero => simp [hsize] at hi
  | succ n =>
    rw [hsize, List.range_succ_eq_map, List.find?_cons_of_pos rfl] at hi
    obtain rfl := Option.some_inj.mp hi
    exact ⟨n.succ_pos, by rw [hpool]⟩

/-- **What a start without a pool leaves behind**: it allocates one, locks its first frame for the
reap thread, and has a process thread made. -/
lemma startStreaming_of_unpooled {s s' : FrameFlow} {success attached : Bool}
    (hactive : s.streamActive = false) (hpool : s.framePool = none) (hprocess : s.process = .absent)
    (h : s.startStreaming (.opened success attached) = some s') :
    0 < s.framePoolSize ∧ s.framePoolSize < 2 ^ 8 ∧ s' = s.started success attached := by
  simp only [startStreaming, hactive, allocateFramePool, hpool, Bool.false_eq_true, if_false,
    Option.map_eq_some_iff, Option.bind_eq_some_iff] at h
  obtain ⟨s₂, ⟨s₁, halloc, hfetch⟩, rfl⟩ := h
  split_ifs at halloc with hsize
  obtain rfl := Option.some_inj.mp halloc
  obtain ⟨hpos, rfl⟩ := fetchInputFrame_of_unlocked rfl (fun i => if_pos rfl) hfetch
  exact ⟨hpos, hsize, by simp only [hprocess, if_true, started]⟩

/-! ## What each step does -/

/-- `initialize` makes a driver where there is none. -/
lemma usbtvInitialize_cases {s s' : FrameFlow} {mFramePoolSize : ℤ}
    (h : s.step (.usbtvInitialize mFramePoolSize) = some s') :
    s.usbtv = false ∧ s' = s.construct (toUint16 mFramePoolSize) := by
  simp only [step] at h
  split_ifs at h with hgone
  exact ⟨hgone, (Option.some_inj.mp h).symm⟩

/-- `dispose` deletes a driver that has stopped. -/
lemma dispose_cases {s s' : FrameFlow} (h : s.step .dispose = some s') :
    (s.usbtv = true ∧ s.call = .idle ∧ s.streamActive = false) ∧
      s' = { s with usbtv := false } := by
  simp only [step] at h
  split_ifs at h with hguard
  exact ⟨hguard, (Option.some_inj.mp h).symm⟩

/-- `SET_FRAME_LISTENER` changes the listener and its flag, if anything. -/
lemma setFrameListener_cases {s s' : FrameFlow} {listener : Bool}
    (h : s.step (.setFrameListener listener) = some s') :
    s' = s ∨ ∃ useCallback,
      s' = { s with mOnFrameReceivedListener := listener, useCallback := useCallback } := by
  simp only [step] at h
  split_ifs at h
  · exact .inl (Option.some_inj.mp h).symm
  · exact .inr ⟨_, (Option.some_inj.mp h).symm⟩
  · exact .inr ⟨_, (Option.some_inj.mp h).symm⟩

/-- `startStreaming` needs a driver that no other call is in. -/
lemma startStreaming_guard {s s' : FrameFlow} {outcome : StartOutcome}
    (h : s.step (.startStreaming outcome) = some s') :
    (s.usbtv = true ∧ s.call = .idle) ∧ s.startStreaming outcome = some s' := by
  simp only [step] at h
  split_ifs at h with hguard
  exact ⟨hguard, h⟩

/-- `stopStreaming` clears `_streamActive` and goes on to the transfers. -/
lemma stopStreaming_cases {s s' : FrameFlow} (h : s.step .stopStreaming = some s') :
    (s.usbtv = true ∧ (s.call = .idle ∨ s.call = .failed)) ∧
      s' = { s with streamActive := false, call := .stopUrbs } := by
  simp only [step] at h
  split_ifs at h with hguard
  exact ⟨hguard, (Option.some_inj.mp h).symm⟩

/-- A step of the threads at work on the USB device. -/
lemma usbStep_cases {s s' : FrameFlow} {e : UsbEvent} (h : s.usbStep e = some s') :
    ∃ usb call streaming, s.usb.step e = some usb ∧ s.nextCall usb e = some call ∧
      s' = { s with usb := usb, call := call, mIsStreaming := streaming } := by
  obtain ⟨usb, husb, h⟩ := Option.bind_eq_some_iff.mp h
  obtain ⟨call, hcall, rfl⟩ := Option.map_eq_some_iff.mp h
  exact ⟨usb, call, _, husb, hcall, rfl⟩

/-- How the call of the handler thread gets on with the USB device. -/
lemma nextCall_cases {s : FrameFlow} {usb : UsbThreads} {e : UsbEvent} {call : DriverCall}
    (h : s.nextCall usb e = some call) :
    call = s.call ∨ (s.call = .initUrbs ∧ (call = .readUrbs ∨ call = .failed)) ∨
      (s.call = .readUrbs ∧ (call = .idle ∨ call = .failed)) ∨
      (s.call = .stopUrbs ∧ call = .stopReap) := by
  cases e with
  | initIsoUrbs answer =>
    simp only [nextCall] at h
    split_ifs at h with hinit
    · exact .inr (.inl ⟨hinit, .inl (Option.some_inj.mp h).symm⟩)
    · exact .inr (.inl ⟨hinit, .inr (Option.some_inj.mp h).symm⟩)
  | startUrbAsyncRead =>
    simp only [nextCall] at h
    split_ifs at h with hread
    · exact .inr (.inr (.inl ⟨hread, .inl (Option.some_inj.mp h).symm⟩))
    · exact .inr (.inr (.inl ⟨hread, .inr (Option.some_inj.mp h).symm⟩))
  | stop =>
    simp only [nextCall] at h
    split_ifs at h with hstop
    exact .inr (.inr (.inr ⟨hstop, (Option.some_inj.mp h).symm⟩))
  | handler =>
    simp only [nextCall] at h
    split_ifs at h with hstop
    exact .inl ((Option.some_inj.mp h).symm.trans hstop.symm)
  | reap answer =>
    simp only [nextCall] at h
    split_ifs at h
    exact .inl (Option.some_inj.mp h).symm
  | reapUrb | reapError | complete => exact .inl (Option.some_inj.mp h).symm

/-- The steps of `stopStreaming`. -/
lemma stopStep_cases {s s' : FrameFlow} (h : s.stopStep = some s') :
    (s.call = .stopReap ∧ s.usb.handler = .closed ∧
      (s.process = .absent ∧ s' = { s with call := .stopDrain } ∨
        s.process ≠ .absent ∧
          s' = { s with processThreadRunning := false, call := .stopEnqueue } ∨
        s.process ≠ .absent ∧ s' = { s with call := .stopJoin })) ∨
    (s.call = .stopEnqueue ∧ s' = { s with
      frameProcessQueue := s.frameProcessQueue ++ [none], call := .stopJoin }) ∨
    (s.call = .stopJoin ∧ s.process = .exited ∧
      s' = { s with process := .absent, call := .stopDrain }) ∨
    (s.call = .stopDrain ∧ ∃ lock, s' = { s with
      lock := lock, frameProcessQueue := [], usbInputFrame := .null, call := .stopFree }) ∨
    (s.call = .stopFree ∧ s' = { s.freeFramePool with mIsStreaming := false, call := .idle }) := by
  unfold stopStep at h
  split at h
  · next hcall =>
    split_ifs at h with hclosed habsent hrunning
    · exact .inl ⟨hcall, not_not.mp hclosed, .inl ⟨habsent, (Option.some_inj.mp h).symm⟩⟩
    · exact .inl ⟨hcall, not_not.mp hclosed, .inr (.inl ⟨habsent, (Option.some_inj.mp h).symm⟩)⟩
    · exact .inl ⟨hcall, not_not.mp hclosed, .inr (.inr ⟨habsent, (Option.some_inj.mp h).symm⟩)⟩
  · next hcall => exact .inr (.inl ⟨hcall, (Option.some_inj.mp h).symm⟩)
  · next hcall =>
    split_ifs at h with hexited
    exact .inr (.inr (.inl ⟨hcall, hexited, (Option.some_inj.mp h).symm⟩))
  · next hcall =>
    split at h
    · exact absurd h (by simp)
    · next hnull =>
      refine .inr (.inr (.inr (.inl ⟨hcall, s.drainQueue.lock, ?_⟩)))
      rw [← Option.some_inj.mp h, ← hnull]
      rfl
    · next r _ =>
      exact .inr (.inr (.inr (.inl ⟨hcall, Function.update s.drainQueue.lock r false,
        (Option.some_inj.mp h).symm⟩)))
  · next hcall => exact .inr (.inr (.inr (.inr ⟨hcall, (Option.some_inj.mp h).symm⟩)))
  · exact absurd h (by simp)

/-- The steps of the process thread outside `getFrame`. -/
lemma processStep_cases {s s' : FrameFlow} (h : s.processStep = some s') :
    (∃ pc, s.process.frame = none ∧ s.process ≠ .absent ∧ pc.frame = none ∧ pc ≠ .absent ∧
      s' = { s with process := pc }) ∨
    (∃ r, s.process.frame = some r ∧
      ((∃ pc, pc.frame = some r ∧ pc ≠ .absent ∧ s' = { s with process := pc }) ∨
        s' = s.skip r)) ∨
    (∃ r, s.process = .unlock r ∧ s' = { s with
      javaFrame := Function.update s.javaFrame r { mLocked := false, delivered := true }
      process := .deliver r }) := by
  unfold processStep at h
  split at h
  · next hpc =>
    refine .inl ⟨_, by simp [hpc, ProcessPc.frame], by simp [hpc], ?_, ?_,
      (Option.some_inj.mp h).symm⟩
    · split_ifs <;> rfl
    · split_ifs <;> simp
  · next r hpc =>
    refine .inr (.inl ⟨r, by rw [hpc]; rfl, ?_⟩)
    split_ifs at h
    · exact .inl ⟨.callback r, rfl, by simp, (Option.some_inj.mp h).symm⟩
    · exact .inr (Option.some_inj.mp h).symm
  · next r hpc =>
    refine .inr (.inl ⟨r, by rw [hpc]; rfl, ?_⟩)
    split_ifs at h
    · exact .inl ⟨.unlock r, rfl, by simp, (Option.some_inj.mp h).symm⟩
    · exact .inr (Option.some_inj.mp h).symm
  · next r hpc => exact .inr (.inr ⟨r, hpc, (Option.some_inj.mp h).symm⟩)
  · next r hpc =>
    exact .inl ⟨.test, by simp [hpc, ProcessPc.frame], by simp [hpc], rfl, by simp,
      (Option.some_inj.mp h).symm⟩
  all_goals exact absurd h (by simp)

/-- The process thread dequeues a null frame or a frame. -/
lemma dequeueStep_cases {s s' : FrameFlow} {k : ℕ} (h : s.dequeueStep k = some s') :
    s.process = .dequeue ∧ ∃ entry pc, s.frameProcessQueue[k]? = some entry ∧
      pc.frame = entry ∧ pc ≠ .absent ∧
      s' = { s with frameProcessQueue := s.frameProcessQueue.eraseIdx k, process := pc } := by
  unfold dequeueStep at h
  split_ifs at h with hpc
  obtain ⟨entry, hentry, rfl⟩ := Option.map_eq_some_iff.mp h
  refine ⟨hpc, entry, _, hentry, ?_, ?_, rfl⟩
  · cases entry <;> rfl
  · cases entry <;> simp

/-- `addCompleteFrameToQueue` up to `fetchFrameFromPool`. -/
lemma addCompleteFrameToQueue_cases {s s' : FrameFlow} {enqueued : Bool}
    (h : s.addCompleteFrameToQueue enqueued = some s') :
    ∃ r, s.usbInputFrame = .frame r ∧ s.usb.reap.isCallback = true ∧ s.fetching = none ∧
      (s' = s ∨ s' = { s with
        frameProcessQueue := s.frameProcessQueue ++ [some r], fetching := some 0 }) := by
  unfold addCompleteFrameToQueue at h
  split at h
  · next r hr =>
    split_ifs at h with hguard henqueued
    · exact ⟨r, hr, hguard.1, hguard.2, .inr (Option.some_inj.mp h).symm⟩
    · exact ⟨r, hr, hguard.1, hguard.2, .inl (Option.some_inj.mp h).symm⟩
  · exact absurd h (by simp)

/-- `fetchFrameFromPool` gets a frame that was not locked, goes on with the next index, or ends
with the stream. -/
lemma fetchStep_cases {s s' : FrameFlow} (h : s.fetchStep = some s') :
    ∃ index pool, s.fetching = some index ∧ s.framePool = some pool ∧
      ((s.streamActive = true ∧ s.lock ⟨pool, index⟩ = false ∧ s' = { s with
          lock := Function.update s.lock ⟨pool, index⟩ true
          usbInputFrame := .frame ⟨pool, index⟩
          fetching := none }) ∨
        (∃ next, (0 < s.framePoolSize → next < s.framePoolSize) ∧
          s' = { s with fetching := some next }) ∨
        (s.streamActive = false ∧
          s' = { s with usbInputFrame := .frame ⟨pool, 0⟩, fetching := none })) := by
  unfold fetchStep at h
  split at h
  · next index pool hindex hpool =>
    refine ⟨index, pool, hindex, hpool, ?_⟩
    split_ifs at h with hactive hlock
    · exact .inl ⟨hactive, hlock, (Option.some_inj.mp h).symm⟩
    · refine .inr (.inl ⟨_, fun hpos => ?_, (Option.some_inj.mp h).symm⟩)
      split_ifs with hend
      · exact hpos
      · exact not_le.mp hend
    · exact .inr (.inr ⟨by simpa using hactive, (Option.some_inj.mp h).symm⟩)
  · exact absurd h (by simp)

/-- `returnFrame` does nothing, or locks the Java object. -/
lemma returnFrame_cases {s s' : FrameFlow} {r : FrameRef} (h : s.returnFrame r = some s') :
    (s.javaFrame r).delivered = true ∧
      (s' = s ∨ ((s.javaFrame r).mLocked = false ∧ s' = { s with
        javaFrame := Function.update s.javaFrame r { s.javaFrame r with mLocked := true }
        returning := r :: s.returning })) := by
  unfold returnFrame at h
  split_ifs at h with hdelivered hlocked
  · exact ⟨hdelivered, .inl (Option.some_inj.mp h).symm⟩
  · exact ⟨hdelivered, .inr ⟨by simpa using hlocked, (Option.some_inj.mp h).symm⟩⟩

/-- `clearFrameLock` finds no pool, or clears the lock of the frame of the pool with the given
index. -/
lemma clearFrameLock_cases {s s' : FrameFlow} {index : ℕ} {success : Bool}
    (h : s.clearFrameLock index = some (success, s')) :
    ((s.usbtv = false ∨ s.framePool = none) ∧ success = false ∧ s' = s) ∨
      ∃ pool, s.framePool = some pool ∧ index < s.framePoolSize ∧ success = true ∧
        s' = { s with lock := Function.update s.lock ⟨pool, index⟩ false } := by
  unfold clearFrameLock at h
  split at h
  · split at h
    · next pool hpool =>
      split_ifs at h with hindex
      obtain ⟨rfl, rfl⟩ := Prod.mk.inj (Option.some_inj.mp h)
      exact .inr ⟨pool, hpool, hindex, rfl, rfl⟩
    · next hpool =>
      obtain ⟨rfl, rfl⟩ := Prod.mk.inj (Option.some_inj.mp h)
      exact .inl ⟨.inr hpool, rfl, rfl⟩
  · next hgone =>
    obtain ⟨rfl, rfl⟩ := Prod.mk.inj (Option.some_inj.mp h)
    exact .inl ⟨.inl (by simpa using hgone), rfl, rfl⟩

/-- `returnFrameToPool` finds no pool, or clears the lock of the frame of the pool with the index
of the Java object. -/
lemma returnStep_cases {s s' : FrameFlow} {r : FrameRef} (h : s.returnStep r = some s') :
    r ∈ s.returning ∧
      ((s.usbtv = false ∨ s.framePool = none) ∧
          s' = { s with returning := s.returning.erase r } ∨
        ∃ pool, s.framePool = some pool ∧ r.index < s.framePoolSize ∧ s' = { s with
          returning := s.returning.erase r
          lock := Function.update s.lock ⟨pool, r.index⟩ false }) := by
  unfold returnStep at h
  split_ifs at h with hr
  obtain ⟨⟨success, s₁⟩, hclear, rfl⟩ := Option.map_eq_some_iff.mp h
  rcases clearFrameLock_cases hclear with ⟨hnone, -, rfl⟩ | ⟨pool, hpool, hindex, -, rfl⟩
  · exact ⟨hr, .inl ⟨hnone, rfl⟩⟩
  · exact ⟨hr, .inr ⟨pool, hpool, hindex, rfl⟩⟩

/-! ## A first stream

Parts of runs, from which the examples of the following modules are put together. -/

/-- The driver is made, a listener is set, and a stream starts. -/
def openEvents (mFramePoolSize : ℤ) : List FlowEvent :=
  [.usbtvInitialize mFramePoolSize, .setFrameListener true, .startStreaming (.opened true true),
    .usb (.initIsoUrbs fun _ => 0), .usb .startUrbAsyncRead]

/-- A URB completes the first frame, which goes to the queue; the reap thread fetches the second
frame, and the process thread unlocks the first one for the listener. -/
def deliverEvents : List FlowEvent :=
  [.usb (.complete 0), .usb (.reap fun _ => 0), .usb (.reapUrb 0), .addCompleteFrameToQueue true,
    .fetch, .fetch, .process, .dequeue 0, .process, .process, .process]

/-- The reap thread resubmits its URB, the process thread returns from the listener, and
`stopStreaming` goes on to where it joins the process thread, which has ended. -/
def stopEvents : List FlowEvent :=
  [.usb (.reap fun _ => 0), .usb (.reap fun _ => 0), .usb (.reap fun _ => 0),
    .usb (.reap fun _ => 0), .process, .stopStreaming, .usb .stop, .usb .handler, .usb .handler,
    .usb (.reap fun _ => 0), .usb .handler, .usb .handler, .usb .handler, .stop, .stop, .process]

end FrameFlow

end UsbTv
