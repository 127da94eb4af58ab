import UsbTv.Device.SelfExit
import UsbTv.Flow.Pointers

set_option relaxedAutoImplicit false
set_option autoImplicit false

/-!
# Starting a stopped driver again

A driver that was stopped can be started again, and deleted, if `stopStreaming` has joined the reap
thread. It has not if `reapUrbAsync` ended itself before: then `_urbThread` stays, and every start
fails at `startUrbAsyncRead` from then on.

## Main definitions

* `UsbTv.FrameFlow.Stopped` — `stopStreaming` has returned.
* `UsbTv.FrameFlow.StopsRunning` — a stop finds no reap thread that has ended itself.
* `UsbTv.FrameFlow.startEvents` — a start in which every ioctl succeeds.

## Main results

* `UsbTv.FrameFlow.startable_of_reachable` — a stopped driver can be started again.
* `UsbTv.FrameFlow.never_streaming_of_selfExit` — otherwise it cannot.
* `UsbTv.FrameFlow.selfExit_unstartable` — the run in which it cannot.
-/

namespace UsbTv

namespace FrameFlow

/-! ## The condition -/

/-- The condition on a step: where `stopStreaming` tests `isUrbThreadRunning`, the flag is set if
there is a reap thread. -/
def StopsRunning (s : FrameFlow) : FlowEvent → Prop
  | .usb e => s.usb.StopsRunning e
  | _ => True

instance (s : FrameFlow) (e : FlowEvent) : Decidable (StopsRunning s e) :=
  match e with
  | .usb e => inferInstanceAs (Decidable (s.usb.StopsRunning e))
  | .usbtvInitialize _ | .dispose | .setFrameListener _ | .startStreaming _ | .stopStreaming
  | .stop | .addCompleteFrameToQueue _ | .fetch | .dequeue _ | .process | .returnFrame _
  | .returnFrameToPool _ => inferInstanceAs (Decidable True)

/-- The runs that meet the condition are runs of the USB device that meet it. -/
lemma usb_stopsRunning {s : FrameFlow} (h : frameFlow.ReachableUnder StopsRunning s) :
    usbThreads.ReachableUnder UsbThreads.StopsRunning s.usb := by
  refine StepSystem.ReachableUnder.map (f := usb) ?_ (fun s e s' _ hc hstep => ?_) h
  · rintro s rfl
    rfl
  · rcases step_usb hstep with heq | ⟨-, hnew⟩ | ⟨usbEvent, rfl, husb⟩
    · exact .inl heq
    · exact .inr (.inl hnew)
    · exact .inr (.inr ⟨usbEvent, hc, husb⟩)

/-! ## Stopped drivers -/

/-- `stopStreaming` has returned, and no start has got anywhere since. -/
structure Stopped (s : FrameFlow) : Prop where
  usbtv : s.usbtv = true
  inactive : s.streamActive = false
  idle : s.call = .idle
  usbInputFrame : s.usbInputFrame = .null

/-- A driver whose `_usbInputFrame` was assigned has a pool size that a pool can be made of. -/
structure Sized (s : FrameFlow) : Prop where
  size : s.usbInputFrame ≠ .indeterminate → 0 < s.framePoolSize ∧ s.framePoolSize < 2 ^ 8
  freed : s.call = .stopFree → s.usbInputFrame = .null

/-- A step that assigns no first input frame, and does not come to free the pool, keeps the driver
sized. -/
lemma Sized.of_eq {s s' : FrameFlow} (hs : Sized s) (hsize : s'.framePoolSize = s.framePoolSize)
    (hinput : s'.usbInputFrame = s.usbInputFrame)
    (hcall : s'.call = .stopFree → s.call = .stopFree) : Sized s' := by
  refine ⟨fun hassigned => ?_, fun hfree => ?_⟩
  · rw [hsize]
    exact hs.size (hinput ▸ hassigned)
  · exact hinput.trans (hs.freed (hcall hfree))

/-- The steps of `stopStreaming` keep the driver sized. -/
lemma sized_stopStep {s s' : FrameFlow} (hs : Sized s) (h : s.stopStep = some s') : Sized s' := by
  rcases stopStep_cases h with ⟨-, -, ⟨-, rfl⟩ | ⟨-, rfl⟩ | ⟨-, rfl⟩⟩ | ⟨-, rfl⟩ |
    ⟨-, -, rfl⟩ | ⟨hcall, lock, rfl⟩ | ⟨-, rfl⟩
  · exact hs.of_eq rfl rfl (by simp)
  · exact hs.of_eq rfl rfl (by simp)
  · exact hs.of_eq rfl rfl (by simp)
  · exact hs.of_eq rfl rfl (by simp)
  · exact hs.of_eq rfl rfl (by simp)
  · refine ⟨fun _ => hs.size fun hinput => ?_, fun _ => rfl⟩
    -- `_usbInputFrame` is read here
    simp [stopStep, hcall, hinput] at h
  · exact hs.of_eq rfl rfl (by simp)

/-- Each step keeps the driver sized. -/
lemma sized_step {s s' : FrameFlow} {e : FlowEvent} (hw : WellFormed s) (hu : s.usb.WellFormed)
    (hs : Sized s) (h : s.step e = some s') : Sized s' := by
  cases e with
  | usbtvInitialize mFramePoolSize =>
    obtain ⟨-, rfl⟩ := usbtvInitialize_cases h
    exact ⟨by simp [construct], by simp [construct]⟩
  | dispose =>
    obtain ⟨-, rfl⟩ := dispose_cases h
    exact hs.of_eq rfl rfl id
  | setFrameListener listener =>
    obtain rfl | ⟨useCallback, rfl⟩ := setFrameListener_cases h
    · exact hs.of_eq rfl rfl id
    · exact hs.of_eq rfl rfl id
  | startStreaming outcome =>
    obtain ⟨hguard, h⟩ := startStreaming_guard h
    have hstart := h
    rcases hw.startStreaming_cases hguard.2 h with ⟨streaming, rfl⟩ | ⟨-, streaming, rfl⟩ |
      ⟨success, attached, rfl, hactive, -, rfl⟩
    · exact hs.of_eq rfl rfl id
    · exact hs.of_eq rfl rfl id
    · obtain ⟨hpool, hprocess, -, -⟩ := hw.idle hactive hguard.2
      obtain ⟨hpos, hlt, -⟩ := startStreaming_of_unpooled hactive hpool hprocess hstart
      refine ⟨fun _ => ⟨hpos, hlt⟩, ?_⟩
      cases success <;> simp [started]
  | stopStreaming =>
    obtain ⟨-, rfl⟩ := stopStreaming_cases h
    exact hs.of_eq rfl rfl (by simp)
  | usb e =>
    obtain ⟨usb, call, streaming, -, hcall, rfl⟩ := usbStep_cases h
    refine hs.of_eq rfl rfl fun hfree => ?_
    rcases nextCall_cases hcall with heq | ⟨-, hc | hc⟩ | ⟨-, hc | hc⟩ | ⟨-, hc⟩
    · exact heq.symm.trans hfree
    all_goals exact absurd (hc.symm.trans hfree) (by simp)
  | stop => exact sized_stopStep hs h
  | addCompleteFrameToQueue enqueued =>
    obtain ⟨r, -, -, -, rfl | rfl⟩ := addCompleteFrameToQueue_cases h <;>
      exact hs.of_eq rfl rfl id
  | fetch =>
    obtain ⟨index, pool, hindex, hpool, hcases⟩ := fetchStep_cases h
    have hne : s.call ≠ .stopFree := fun hcall => by
      obtain ⟨-, hfree⟩ := hw.not_joined hu (hw.callback (by simp [hindex]))
      exact hfree hcall
    have hsize := hs.size (hw.assigned (by simp [hpool]))
    rcases hcases with ⟨-, -, rfl⟩ | ⟨next, -, rfl⟩ | ⟨-, rfl⟩
    · exact ⟨fun _ => hsize, fun hfree => absurd hfree hne⟩
    · exact hs.of_eq rfl rfl id
    · exact ⟨fun _ => hsize, fun hfree => absurd hfree hne⟩
  | dequeue k =>
    obtain ⟨-, entry, pc, -, -, -, rfl⟩ := dequeueStep_cases h
    exact hs.of_eq rfl rfl id
  | process =>
    rcases processStep_cases h with ⟨pc, -, -, -, -, rfl⟩ | ⟨r, -, ⟨pc, -, -, rfl⟩ | rfl⟩ |
      ⟨r, -, rfl⟩ <;> exact hs.of_eq rfl rfl id
  | returnFrame r =>
    obtain ⟨-, rfl | ⟨-, rfl⟩⟩ := returnFrame_cases h <;> exact hs.of_eq rfl rfl id
  | returnFrameToPool r =>
    obtain ⟨-, ⟨-, rfl⟩ | ⟨pool, -, -, rfl⟩⟩ := returnStep_cases h <;> exact hs.of_eq rfl rfl id

/-- In every run the driver is sized. -/
lemma sized_of_reachable {C : FrameFlow → FlowEvent → Prop} {s : FrameFlow}
    (h : frameFlow.ReachableUnder C s) : Sized s := by
  refine StepSystem.ReachableUnder.invariant (I := Sized) ?_
    (fun s e s' hr hs _ hstep =>
      sized_step (wellFormed_of_reachable hr) (usb_wellFormed hr) hs hstep) h
  rintro s rfl
  exact ⟨by simp [new], by simp [new]⟩

/-- When `stopStreaming` returns, the driver is stopped. -/
lemma stopped_of_stopFree {C : FrameFlow → FlowEvent → Prop} {s s' : FrameFlow}
    (h : frameFlow.ReachableUnder C s) (hcall : s.call = .stopFree)
    (hstep : s.step .stop = some s') : Stopped s' := by
  have hw := wellFormed_of_reachable h
  have husbtv : s.usbtv = true := by
    by_contra hgone
    have hidle := (disposed_of_reachable h (by simpa using hgone)).2
    exact absurd (hidle.symm.trans hcall) (by simp)
  simp only [step, stopStep, hcall] at hstep
  obtain rfl := Option.some_inj.mp hstep
  exact ⟨husbtv, hw.stops (by simp [hcall, DriverCall.Stops]), rfl,
    (sized_of_reachable h).freed hcall⟩

/-! ## Starting -/

/-- A start in which every ioctl succeeds. -/
def startEvents (attached : Bool) (answer : ℕ → ℤ) : List FlowEvent :=
  [.startStreaming (.opened true attached), .usb (.initIsoUrbs answer), .usb .startUrbAsyncRead]

/-- In a pool without locks the search for the first input frame finds the first frame. -/
lemma fetchInputFrame_eq {s : FrameFlow} {pool : ℕ} (hpool : s.framePool = some pool)
    (hpos : 0 < s.framePoolSize) (hlock : ∀ i, s.lock ⟨pool, i⟩ = false) :
    s.fetchInputFrame = some { s with
      lock := Function.update s.lock ⟨pool, 0⟩ true
      usbInputFrame := .frame ⟨pool, 0⟩ } := by
  have hfind : ((List.range s.framePoolSize).find? fun i => !s.lock ⟨pool, i⟩) = some 0 := by
    obtain ⟨size, hsize⟩ := Nat.exists_eq_succ_of_ne_zero hpos.ne'
    rw [hsize, List.range_succ_eq_map, List.find?_cons_of_pos (by simp [hlock])]
  simp only [fetchInputFrame, hpool, hfind, Option.map_some]

/-- A start without a pool gets to `initIsoUrbs`. -/
lemma startStreaming_eq_started {s : FrameFlow} (hactive : s.streamActive = false)
    (hpool : s.framePool = none) (hprocess : s.process = .absent) (hpos : 0 < s.framePoolSize)
    (hlt : s.framePoolSize < 2 ^ 8) (success attached : Bool) :
    s.startStreaming (.opened success attached) = some (s.started success attached) := by
  have halloc : ({ s with streamActive := true } : FrameFlow).allocateFramePool = some { s with
      streamActive := true
      framePool := some s.pools
      pools := s.pools + 1
      lock := fun r => if r.pool = s.pools then false else s.lock r
      javaFrame := fun r => if r.pool = s.pools then .new else s.javaFrame r } := by
    simp only [allocateFramePool, hpool, if_pos hlt]
  have hfetch := fetchInputFrame_eq (s := { s with
      streamActive := true
      framePool := some s.pools
      pools := s.pools + 1
      lock := fun r => if r.pool = s.pools then false else s.lock r
      javaFrame := fun r => if r.pool = s.pools then .new else s.javaFrame r }) rfl hpos
    fun i => if_pos rfl
  simp only [startStreaming, hactive, Bool.false_eq_true, if_false]
  rw [halloc, Option.bind_some, hfetch, Option.map_some]
  simp only [hprocess, if_true, started]

/-- An idle driver whose reap thread is joined gets all the way. -/
lemma run_startEvents {s : FrameFlow} (hw : WellFormed s) (hu : s.usb.WellFormed)
    (husbtv : s.usbtv = true) (hactive : s.streamActive = false) (hidle : s.call = .idle)
    (hpos : 0 < s.framePoolSize) (hlt : s.framePoolSize < 2 ^ 8)
    (hthread : s.usb.device.urbThread = false) (attached : Bool) {answer : ℕ → ℤ}
    (haccepted : ∀ k, 0 ≤ answer k) :
    ∃ s', frameFlow.run s (startEvents attached answer) = some s' ∧ s'.streamActive = true ∧
      s'.usb.handler = .streaming ∧ s'.call = .idle ∧ s'.mIsStreaming = true := by
  obtain ⟨hpool, hprocess, -, -⟩ := hw.idle hactive hidle
  have hclosed := (hw.inactive hactive hidle).2
  have hmutex := hu.urbMutex_of_closed hclosed
  have hstart : frameFlow.step s (.startStreaming (.opened true attached)) =
      some (s.started true attached) := by
    simp only [frameFlow, step, husbtv, hidle, and_self, if_true]
    exact startStreaming_eq_started hactive hpool hprocess hpos hlt true attached
  have hsuccess := AndroidUsbDevice.initIsoUrbs_of_accepted hu.counted
    (show usbtvIsocTransfers < 2 ^ 8 by decide) haccepted
  have hsame := (UsbThreads.initIsoUrbs_same hu.counted answer).1
  obtain ⟨device, hopened, hdevice⟩ : ∃ device,
      s.usb.device.initIsoUrbs answer usbtvIsocTransfers = (true, device) ∧
        device.urbThread = false :=
    ⟨_, Prod.ext hsuccess rfl, hsame.trans hthread⟩
  have hinit : frameFlow.step (s.started true attached) (.usb (.initIsoUrbs answer)) =
      some { s.started true attached with
        usb := { s.usb with device := device, handler := .opened }
        call := .readUrbs } := by
    simp [frameFlow, step, usbStep, UsbThreads.step, started, hclosed, hmutex, hopened, nextCall]
  refine ⟨{ s.started true attached with
      usb := { s.usb with
        device := { device with urbThread := true, urbThreadRunning := true }
        handler := .streaming
        reap := .test }
      call := .idle
      mIsStreaming := true }, ?_, rfl, rfl, rfl, rfl⟩
  rw [startEvents, StepSystem.run_cons, hstart, Option.bind_some, StepSystem.run_cons, hinit,
    Option.bind_some]
  simp [StepSystem.run_cons, frameFlow, step, usbStep, UsbThreads.step, hmutex, nextCall,
    AndroidUsbDevice.startUrbAsyncRead, hdevice]

/-- **A stopped driver can be started again, and deleted**, in a run whose stops find no reap thread
that has ended itself: when `stopStreaming` returns, the reap thread is joined and `_urbThread` is
null, and stays so while the driver is stopped; a start in which every ioctl succeeds is successful;
and the destructor of the device leaves no reap thread. -/
theorem startable_of_reachable {s : FrameFlow} (h : frameFlow.ReachableUnder StopsRunning s) :
    (∀ s', s.call = .stopFree → s.step .stop = some s' → Stopped s') ∧
      (Stopped s → s.usb.device.urbThread = false ∧ s.usb.reap = .absent ∧
        ∀ attached answer, (∀ k, 0 ≤ answer k) →
          ∃ s', frameFlow.run s (startEvents attached answer) = some s' ∧ s'.streamActive = true ∧
            s'.usb.handler = .streaming ∧ s'.call = .idle ∧ s'.mIsStreaming = true) ∧
      (s.streamActive = false → s.call = .idle → s.usb.device.destruct.urbThread = false) := by
  have hw := wellFormed_of_reachable h
  have hu := usb_wellFormed h
  have hthread : s.streamActive = false → s.call = .idle → s.usb.device.urbThread = false :=
    fun hactive hidle =>
      UsbThreads.urbThread_of_reachable (usb_stopsRunning h) (hw.inactive hactive hidle).2
  refine ⟨fun s' => stopped_of_stopFree h, fun hs => ?_, fun hactive hidle => ?_⟩
  · have hjoined := hthread hs.inactive hs.idle
    obtain ⟨hpos, hlt⟩ := (sized_of_reachable h).size (by simp [hs.usbInputFrame])
    refine ⟨hjoined, ?_, fun attached answer haccepted =>
      run_startEvents hw hu hs.usbtv hs.inactive hs.idle hpos hlt hjoined attached haccepted⟩
    by_contra habsent
    exact absurd (hjoined.symm.trans (hu.urbThread.mpr habsent)) (by simp)
  · rw [AndroidUsbDevice.destruct_urbThread, hthread hactive hidle, Bool.false_and]

/-- A first stream is stopped. -/
theorem startable_of_reachable_firstStream :
    ∃ s, frameFlow.ReachableUnder StopsRunning s ∧ Stopped s ∧ s.usb.device.urbThread = false ∧
      s.usb.reap = .absent ∧ s.usb.device.destruct.urbThread = false := by
  have h : (frameFlow.runUnder StopsRunning new
      (openEvents 4 ++ deliverEvents ++ stopEvents ++ [.stop, .stop, .stop])).map (fun s =>
        (s.usbtv, s.streamActive, s.call, s.usbInputFrame)) =
      some (true, false, .idle, .null) := by decide
  obtain ⟨s, hrun, heq⟩ := Option.map_eq_some_iff.mp h
  simp only [Prod.mk.injEq] at heq
  obtain ⟨husbtv, hactive, hidle, hinput⟩ := heq
  have hs : frameFlow.ReachableUnder StopsRunning s :=
    StepSystem.ReachableUnder.runUnder (.init rfl) hrun
  have hstopped : Stopped s := ⟨husbtv, hactive, hidle, hinput⟩
  obtain ⟨-, hstart, hdestruct⟩ := startable_of_reachable hs
  obtain ⟨hthread, hreap, -⟩ := hstart hstopped
  exact ⟨s, hs, hstopped, hthread, hreap, hdestruct hactive hidle⟩

/-! ## Reap threads that end themselves -/

/-- **After any other stop the driver does not stream again**: if `stopStreaming` finds the flag
cleared and the reap thread still there, then until there is a new driver object `_urbThread` is not
null, no start is successful, and the destructor does not join the thread. -/
theorem never_streaming_of_selfExit {s s₁ s₂ : FrameFlow} {es : List FlowEvent}
    (h : frameFlow.Reachable s) (hthread : s.usb.device.urbThread = true)
    (hrunning : s.usb.device.urbThreadRunning = false) (hstop : s.step (.usb .stop) = some s₁)
    (hes : ∀ size, FlowEvent.usbtvInitialize size ∉ es) (hrun : frameFlow.run s₁ es = some s₂) :
    s₂.usb.device.urbThread = true ∧ s₂.usb.handler ≠ .streaming ∧
      s₂.usb.device.destruct.urbThread = true := by
  have hstuck : s₂.usb.Stuck := by
    have h₁ : s₁.usb.Stuck := by
      obtain ⟨usb, call, streaming, husb, -, rfl⟩ := usbStep_cases hstop
      exact UsbThreads.stuck_of_stop hthread hrunning husb
    have hr₁ : frameFlow.Reachable s₁ := h.step (e := .usb .stop) trivial hstop
    clear hstop
    induction es generalizing s₁ with
    | nil =>
      obtain rfl : s₁ = s₂ := by simpa using hrun
      exact h₁
    | cons e es ih =>
      rw [StepSystem.run_cons, Option.bind_eq_some_iff] at hrun
      obtain ⟨s', hstep, hrun⟩ := hrun
      refine ih (fun size hmem => hes size (List.mem_cons_of_mem e hmem)) hrun ?_
        (hr₁.step trivial hstep)
      rcases step_usb hstep with heq | ⟨⟨size, rfl⟩, -⟩ | ⟨usbEvent, -, husb⟩
      · rw [heq]
        exact h₁
      · exact absurd List.mem_cons_self (hes size)
      · exact UsbThreads.stuck_step (usb_wellFormed hr₁) h₁ husb
  refine ⟨hstuck.urbThread, fun hstreaming => ?_, hstuck.destruct_urbThread⟩
  rcases hstuck.handler with hpc | hpc | hpc <;>
    exact absurd (hstreaming.symm.trans hpc) (by simp)

/-- A first stream ends with `-ENODEV`, and is stopped. -/
def selfExitEvents : List FlowEvent :=
  openEvents 4 ++ [.usb (.reap fun _ => 0), .usb (.reapError (-19)), .process, .stopStreaming,
    .usb .stop, .stop, .stop, .dequeue 0, .process, .stop, .stop, .stop]

/-- **A stopped driver that cannot be started**: `REAPURB` has returned `-ENODEV` before the stop. A
start in which every ioctl succeeds fails. -/
theorem selfExit_unstartable :
    ¬ ∀ s, frameFlow.Reachable s → Stopped s →
      s.usb.device.urbThread = false ∧ s.usb.reap = .absent ∧
        ∀ attached answer, (∀ k, 0 ≤ answer k) →
          ∃ s', frameFlow.run s (startEvents attached answer) = some s' ∧ s'.streamActive = true ∧
            s'.usb.handler = .streaming ∧ s'.call = .idle ∧ s'.mIsStreaming = true := by
  intro hclaim
  have h : (frameFlow.run new selfExitEvents).map (fun s =>
      ((s.usbtv, s.streamActive, s.call, s.usbInputFrame),
        (frameFlow.run s (startEvents true fun _ => 0)).map fun s' => s'.usb.handler)) =
      some ((true, false, .idle, .null), some .failed) := by decide
  obtain ⟨s, hrun, heq⟩ := Option.map_eq_some_iff.mp h
  simp only [Prod.mk.injEq] at heq
  obtain ⟨⟨husbtv, hactive, hidle, hinput⟩, hfailed⟩ := heq
  have hs : frameFlow.Reachable s := StepSystem.Reachable.run (.init rfl) hrun
  obtain ⟨-, -, hstart⟩ := hclaim s hs ⟨husbtv, hactive, hidle, hinput⟩
  obtain ⟨s', hrun', -, hstreaming, -⟩ := hstart true (fun _ => 0) fun _ => le_rfl
  rw [hrun', Option.map_some, hstreaming] at hfailed
  simp at hfailed

end FrameFlow

end UsbTv
