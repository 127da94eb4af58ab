import UsbTv.Flow.Basic

set_option relaxedAutoImplicit false
set_option autoImplicit false

/-!
# Pointers to frames

The reap thread, the process queue and the process thread hold pointers to frames of the pool.
`stopStreaming` takes all of them back before it frees the pool: it joins the reap thread and the
process thread, empties the queue, and sets `_usbInputFrame` to null. So no such pointer is ever
into a pool that is gone. The Java objects that consumers hold are another matter.

## Main definitions

* `UsbTv.FrameFlow.toUsbThreads` — the USB device goes through runs of its own.
* `UsbTv.FrameFlow.Points` — the driver holds a pointer to a frame.
* `UsbTv.FrameFlow.WellFormed` — what holds between any two steps.

## Main results

* `UsbTv.FrameFlow.wellFormed_of_reachable` — every run keeps it.
* `UsbTv.FrameFlow.framePool_of_disposed` — a driver object leaves no pool behind.
-/

namespace UsbTv

namespace FrameFlow

/-! ## The USB device -/

/-- A start leaves the USB device alone until `initIsoUrbs`. -/
lemma startStreaming_usb {s s' : FrameFlow} {outcome : StartOutcome}
    (h : s.startStreaming outcome = some s') : s'.usb = s.usb := by
  unfold startStreaming at h
  split_ifs at h
  · obtain rfl := Option.some_inj.mp h
    rfl
  split at h
  · obtain rfl := Option.some_inj.mp h
    rfl
  · obtain rfl := Option.some_inj.mp h
    rfl
  · simp only [Option.map_eq_some_iff, Option.bind_eq_some_iff] at h
    obtain ⟨s₂, ⟨s₁, halloc, hfetch⟩, rfl⟩ := h
    have hs₁ : s₁.usb = s.usb := by
      unfold allocateFramePool at halloc
      split at halloc
      · obtain rfl := Option.some_inj.mp halloc
        rfl
      · split_ifs at halloc
        obtain rfl := Option.some_inj.mp halloc
        rfl
    have hs₂ : s₂.usb = s₁.usb := by
      unfold fetchInputFrame at hfetch
      split at hfetch
      · exact absurd hfetch (by simp)
      · obtain ⟨i, -, rfl⟩ := Option.map_eq_some_iff.mp hfetch
        rfl
    rw [← hs₁, ← hs₂]
    split_ifs <;> rfl

/-- Every step leaves the USB device alone, makes a new one, or is a step of its threads. -/
lemma step_usb {s s' : FrameFlow} {e : FlowEvent} (h : s.step e = some s') :
    s'.usb = s.usb ∨ ((∃ size, e = .usbtvInitialize size) ∧ s'.usb = .new) ∨
      ∃ usbEvent, e = .usb usbEvent ∧ s.usb.step usbEvent = some s'.usb := by
  cases e with
  | usbtvInitialize mFramePoolSize =>
    obtain ⟨-, rfl⟩ := usbtvInitialize_cases h
    exact .inr (.inl ⟨⟨mFramePoolSize, rfl⟩, rfl⟩)
  | dispose =>
    obtain ⟨-, rfl⟩ := dispose_cases h
    exact .inl rfl
  | setFrameListener listener =>
    obtain rfl | ⟨useCallback, rfl⟩ := setFrameListener_cases h
    · exact .inl rfl
    · exact .inl rfl
  | startStreaming outcome =>
    obtain ⟨-, h⟩ := startStreaming_guard h
    exact .inl (startStreaming_usb h)
  | stopStreaming =>
    obtain ⟨-, rfl⟩ := stopStreaming_cases h
    exact .inl rfl
  | usb e =>
    obtain ⟨usb, call, streaming, husb, -, rfl⟩ := usbStep_cases h
    exact .inr (.inr ⟨e, rfl, husb⟩)
  | stop =>
    refine .inl ?_
    rcases stopStep_cases h with ⟨-, -, ⟨-, rfl⟩ | ⟨-, rfl⟩ | ⟨-, rfl⟩⟩ | ⟨-, rfl⟩ | ⟨-, -, rfl⟩ |
      ⟨-, lock, rfl⟩ | ⟨-, rfl⟩ <;> rfl
  | addCompleteFrameToQueue enqueued =>
    obtain ⟨r, -, -, -, rfl | rfl⟩ := addCompleteFrameToQueue_cases h <;> exact .inl rfl
  | fetch =>
    obtain ⟨index, pool, -, -, ⟨-, -, rfl⟩ | ⟨next, -, rfl⟩ | ⟨-, rfl⟩⟩ := fetchStep_cases h <;>
      exact .inl rfl
  | dequeue k =>
    obtain ⟨-, entry, pc, -, -, -, rfl⟩ := dequeueStep_cases h
    exact .inl rfl
  | process =>
    refine .inl ?_
    rcases processStep_cases h with ⟨pc, -, -, -, -, rfl⟩ | ⟨r, -, ⟨pc, -, -, rfl⟩ | rfl⟩ |
      ⟨r, -, rfl⟩ <;> rfl
  | returnFrame r =>
    obtain ⟨-, rfl | ⟨-, rfl⟩⟩ := returnFrame_cases h <;> exact .inl rfl
  | returnFrameToPool r =>
    obtain ⟨-, ⟨-, rfl⟩ | ⟨pool, -, -, rfl⟩⟩ := returnStep_cases h <;> exact .inl rfl

/-- **The USB device goes through runs of its own**, a new one for each driver object. -/
def toUsbThreads : StepSystem.Refinement frameFlow (fun _ _ => True) usbThreads where
  abs := usb
  init := by
    rintro s rfl
    rfl
  sim s e s' _ _ h := (step_usb h).imp_right (.imp And.right fun ⟨e, _, husb⟩ => ⟨e, husb⟩)

/-- The threads of the USB device are well formed in every run. -/
lemma usb_wellFormed {C : FrameFlow → FlowEvent → Prop} {s : FrameFlow}
    (h : frameFlow.ReachableUnder C s) : s.usb.WellFormed :=
  UsbThreads.wellFormed_of_reachable (toUsbThreads.reachable h.reachable)

/-! ## What holds in every state -/

/-- The call of the handler thread fits where the thread stands at the USB device. -/
def Fits : DriverCall → HandlerPc → Prop
  | .idle, pc => pc = .streaming ∨ pc = .closed
  | .readUrbs, pc => pc = .opened
  | .failed, pc => pc = .failed ∨ pc = .closed
  | .stopUrbs, pc => pc = .streaming ∨ pc = .failed ∨ pc = .closed
  | .stopReap, pc => pc = .stopLock ∨ pc = .stopClear ∨ pc = .stopJoin ∨ pc = .stopDiscard ∨
      pc = .stopUnlock ∨ pc = .closed
  | .initUrbs, pc | .stopEnqueue, pc | .stopJoin, pc | .stopDrain, pc | .stopFree, pc =>
      pc = .closed

/-- The driver holds a pointer to the frame. -/
def Points (s : FrameFlow) (r : FrameRef) : Prop :=
  s.usbInputFrame = .frame r ∨ some r ∈ s.frameProcessQueue ∨ s.process.frame = some r

/-- The frame is one of the pool there is. -/
def InPool (s : FrameFlow) (r : FrameRef) : Prop :=
  s.framePool = some r.pool ∧ r.index < s.framePoolSize

/-- What the threads keep between any two steps. -/
structure WellFormed (s : FrameFlow) : Prop where
  fits : Fits s.call s.usb.handler
  /-- An inactive driver has neither a pool nor a stream. -/
  inactive : s.streamActive = false → s.call = .idle → s.framePool = none ∧ s.usb.handler = .closed
  starts : s.call = .initUrbs ∨ s.call = .readUrbs ∨ s.call = .failed → s.streamActive = true
  stops : s.call.Stops → s.streamActive = false
  /-- Only a reap thread in `onUrbReceived` fetches a frame. -/
  callback : s.fetching ≠ none → s.usb.reap.isCallback = true
  /-- Without a pool there is no process thread and no pointer to a frame. -/
  unpooled : s.framePool = none →
    s.process = .absent ∧ s.frameProcessQueue = [] ∧ ∀ r, s.usbInputFrame ≠ .frame r
  /-- A pool without a process thread is about to be freed. -/
  unthreaded : s.process = .absent → s.framePool ≠ none → s.call = .stopDrain ∨ s.call = .stopFree
  assigned : s.framePool ≠ none → s.usbInputFrame ≠ .indeterminate
  enqueueing : s.call = .stopEnqueue → s.process ≠ .absent
  joined : s.call = .stopDrain ∨ s.call = .stopFree → s.process = .absent
  drained : s.call = .stopFree → s.frameProcessQueue = [] ∧ ∀ r, s.usbInputFrame ≠ .frame r
  /-- The driver points to frames of the pool only. -/
  inPool : ∀ r, s.Points r → s.InPool r
  fetching : ∀ index, s.fetching = some index → index < s.framePoolSize
  pool_lt : ∀ pool, s.framePool = some pool → pool < s.pools
  skipped_lt : ∀ r ∈ s.skipped, r.pool < s.pools
  returning_lt : ∀ r ∈ s.returning, r.pool < s.pools
  delivered_lt : ∀ r, (s.javaFrame r).delivered = true → r.pool < s.pools

/-- The reap thread is in `onUrbReceived` only where the handler thread has not joined it. -/
lemma WellFormed.not_joined {s : FrameFlow} (hs : WellFormed s) (hu : s.usb.WellFormed)
    (h : s.usb.reap.isCallback = true) : s.call ≠ .stopDrain ∧ s.call ≠ .stopFree := by
  have hclosed : s.usb.handler ≠ .closed := by
    intro hclosed
    rcases hu.reapIdle (.inl hclosed) with hreap | hreap <;>
      simp [hreap, ReapPc.isCallback] at h
  have hfits := hs.fits
  refine ⟨fun hc => hclosed ?_, fun hc => hclosed ?_⟩
  · simpa [hc, Fits] using hfits
  · simpa [hc, Fits] using hfits

/-- A call of the handler thread that goes on, and does not come to free the pool, keeps the state
well formed. -/
lemma WellFormed.withCall {s : FrameFlow} (hs : WellFormed s) {usb : UsbThreads} {call : DriverCall}
    {active running streaming : Bool} (hfits : Fits call usb.handler)
    (hcallback : s.fetching ≠ none → usb.reap.isCallback = true)
    (hactive : active = true ↔ ¬ call.Stops)
    (hfrom : s.call ≠ .stopDrain ∧ s.call ≠ .stopFree)
    (hto : call ≠ .stopDrain ∧ call ≠ .stopFree)
    (henqueueing : call = .stopEnqueue → s.process ≠ .absent) :
    WellFormed { s with
      usb := usb
      call := call
      streamActive := active
      processThreadRunning := running
      mIsStreaming := streaming } :=
  { hs with
    fits := hfits
    inactive := fun hinactive hidle => by
      simp only at hinactive hidle
      simp [hinactive, hidle, DriverCall.Stops] at hactive
    starts := fun hstarts => hactive.mpr (by
      rcases hstarts with hcall | hcall | hcall <;> simp only at hcall <;>
        simp [hcall, DriverCall.Stops])
    stops := fun hstops => by
      simp only at hstops
      simpa [hstops] using hactive
    callback := hcallback
    unthreaded := fun habsent hpool => by
      rcases hs.unthreaded habsent hpool with hcall | hcall
      · exact absurd hcall hfrom.1
      · exact absurd hcall hfrom.2
    enqueueing := henqueueing
    joined := fun hcall => by
      rcases hcall with hcall | hcall
      · exact absurd hcall hto.1
      · exact absurd hcall hto.2
    drained := fun hcall => absurd hcall hto.2 }

/-- The steps of the threads at the USB device keep the state well formed. -/
lemma wellFormed_usbStep {s s' : FrameFlow} {e : UsbEvent} (hs : WellFormed s)
    (hu : s.usb.WellFormed) (h : s.usbStep e = some s') : WellFormed s' := by
  obtain ⟨usb, call, streaming, husb, hcall, rfl⟩ := usbStep_cases h
  have hpc := UsbThreads.step_handler husb
  have hcallback : s.fetching ≠ none → usb.reap.isCallback = true := by
    intro hf
    have hc := hs.callback hf
    obtain ⟨urb, hurb⟩ : ∃ urb, s.usb.reap = .callback urb := by
      cases hreap : s.usb.reap with
      | callback urb => exact ⟨urb, rfl⟩
      | absent | test | reaping | lock | reset | submit | exited =>
        simp [hreap, ReapPc.isCallback] at hc
    rw [UsbThreads.step_reap hu (by simp [UsbThreads.ReapIdle, hurb]) (by simp [hurb]) ?_ husb]
    · exact hc
    · rintro answer rfl
      simp [nextCall, hf] at hcall
  cases e with
  | initIsoUrbs answer =>
    simp only [nextCall] at hcall
    split_ifs at hcall with hinit hopened
    · obtain rfl := Option.some_inj.mp hcall
      have hactive := hs.starts (.inl hinit)
      exact hs.withCall hopened hcallback (by simp [hactive, DriverCall.Stops]) (by simp [hinit])
        (by simp) (by simp)
    · obtain rfl := Option.some_inj.mp hcall
      have hactive := hs.starts (.inl hinit)
      exact hs.withCall (.inl (hpc.resolve_left hopened)) hcallback
        (by simp [hactive, DriverCall.Stops]) (by simp [hinit]) (by simp) (by simp)
  | startUrbAsyncRead =>
    simp only [nextCall] at hcall
    split_ifs at hcall with hread hstreaming
    · obtain rfl := Option.some_inj.mp hcall
      have hactive := hs.starts (.inr (.inl hread))
      exact hs.withCall (.inl hstreaming) hcallback (by simp [hactive, DriverCall.Stops])
        (by simp [hread]) (by simp) (by simp)
    · obtain rfl := Option.some_inj.mp hcall
      have hactive := hs.starts (.inr (.inl hread))
      exact hs.withCall (.inl (hpc.resolve_left hstreaming)) hcallback
        (by simp [hactive, DriverCall.Stops]) (by simp [hread]) (by simp) (by simp)
  | stop =>
    simp only [nextCall] at hcall
    split_ifs at hcall with hstop
    obtain rfl := Option.some_inj.mp hcall
    have hactive := hs.stops (by simp [hstop, DriverCall.Stops])
    exact hs.withCall (by rcases hpc with hpc | hpc <;> simp [Fits, hpc]) hcallback
      (by simp [hactive, DriverCall.Stops]) (by simp [hstop]) (by simp) (by simp)
  | handler =>
    simp only [nextCall] at hcall
    split_ifs at hcall with hstop
    obtain rfl := Option.some_inj.mp hcall
    have hactive := hs.stops (by simp [hstop, DriverCall.Stops])
    exact hs.withCall (by rcases hpc with (hpc | hpc | hpc | hpc) | hpc <;> simp [Fits, hpc])
      hcallback (by simp [hactive, DriverCall.Stops]) (by simp [hstop]) (by simp) (by simp)
  | reap answer =>
    simp only [nextCall] at hcall
    split_ifs at hcall
    obtain rfl := Option.some_inj.mp hcall
    exact { hs with
      fits := by rw [hpc]; exact hs.fits
      inactive := by rw [hpc]; exact hs.inactive
      callback := hcallback }
  | reapUrb | reapError | complete =>
    obtain rfl := Option.some_inj.mp hcall
    exact { hs with
      fits := by rw [hpc]; exact hs.fits
      inactive := by rw [hpc]; exact hs.inactive
      callback := hcallback }

/-- The steps of `stopStreaming` keep the state well formed. -/
lemma wellFormed_stopStep {s s' : FrameFlow} (hs : WellFormed s) (h : s.stopStep = some s') :
    WellFormed s' := by
  have hfits := hs.fits
  rcases stopStep_cases h with ⟨hcall, hclosed, hprocess⟩ | ⟨hcall, rfl⟩ | ⟨hcall, hexited, rfl⟩ |
    ⟨hcall, lock, rfl⟩ | ⟨hcall, rfl⟩
  · have hstops : s.streamActive = false := hs.stops (by simp [hcall, DriverCall.Stops])
    rcases hprocess with ⟨habsent, rfl⟩ | ⟨hne, rfl⟩ | ⟨hne, rfl⟩
    · exact { hs with
        fits := hclosed
        inactive := by simp
        starts := by simp
        stops := fun _ => hstops
        unthreaded := fun _ _ => .inl rfl
        enqueueing := by simp
        joined := fun _ => habsent
        drained := by simp }
    · exact hs.withCall hclosed hs.callback (by simp [hstops, DriverCall.Stops]) (by simp [hcall])
        (by simp) (fun _ => hne)
    · exact hs.withCall hclosed hs.callback (by simp [hstops, DriverCall.Stops]) (by simp [hcall])
        (by simp) (by simp)
  · have hstops : s.streamActive = false := hs.stops (by simp [hcall, DriverCall.Stops])
    have hwork := hs.enqueueing hcall
    rw [hcall] at hfits
    exact { hs with
      fits := hfits
      inactive := by simp
      starts := by simp
      stops := fun _ => hstops
      unpooled := fun hnone => absurd (hs.unpooled hnone).1 hwork
      unthreaded := fun habsent => absurd habsent hwork
      enqueueing := by simp
      joined := by simp
      drained := by simp
      inPool := fun r hr => hs.inPool r (by simpa [Points] using hr) }
  · have hstops : s.streamActive = false := hs.stops (by simp [hcall, DriverCall.Stops])
    rw [hcall] at hfits
    exact { hs with
      fits := hfits
      inactive := by simp
      starts := by simp
      stops := fun _ => hstops
      unpooled := fun hnone => ⟨rfl, (hs.unpooled hnone).2⟩
      unthreaded := fun _ _ => .inl rfl
      enqueueing := by simp
      joined := fun _ => rfl
      drained := by simp
      inPool := fun r hr => hs.inPool r (by
        simp only [Points, ProcessPc.frame, reduceCtorEq, or_false] at hr
        exact hr.elim .inl fun hr => .inr (.inl hr)) }
  · have hstops : s.streamActive = false := hs.stops (by simp [hcall, DriverCall.Stops])
    have habsent := hs.joined (.inl hcall)
    rw [hcall] at hfits
    exact { hs with
      fits := hfits
      inactive := by simp
      starts := by simp
      stops := fun _ => hstops
      unpooled := fun _ => ⟨habsent, rfl, by simp⟩
      unthreaded := fun _ _ => .inr rfl
      assigned := by simp
      enqueueing := by simp
      joined := fun _ => habsent
      drained := fun _ => ⟨rfl, by simp⟩
      inPool := fun r hr => by simp [Points, habsent, ProcessPc.frame] at hr }
  · have hstops : s.streamActive = false := hs.stops (by simp [hcall, DriverCall.Stops])
    have habsent := hs.joined (.inr hcall)
    obtain ⟨hqueue, hinput⟩ := hs.drained hcall
    have hfree : s.freeFramePool.framePool = none := by simp [freeFramePool, hstops]
    rw [hcall] at hfits
    exact { hs with
      fits := .inr hfits
      inactive := fun _ _ => ⟨hfree, hfits⟩
      starts := by simp
      stops := False.elim
      unpooled := fun _ => ⟨habsent, hqueue, hinput⟩
      unthreaded := fun _ hpool => absurd hfree hpool
      assigned := fun hpool => absurd hfree hpool
      enqueueing := by simp
      joined := by simp
      drained := by simp
      inPool := fun r hr => by
        rcases hr with hr | hr | hr
        · exact absurd hr (hinput r)
        · change some r ∈ s.frameProcessQueue at hr
          simp [hqueue] at hr
        · change s.process.frame = some r at hr
          simp [habsent, ProcessPc.frame] at hr
      pool_lt := fun pool hpool => by
        change s.freeFramePool.framePool = some pool at hpool
        simp [hfree] at hpool }

/-- The steps of the reap thread in `addCompleteFrameToQueue` keep the state well formed. -/
lemma wellFormed_addCompleteFrameToQueue {s s' : FrameFlow} {enqueued : Bool} (hs : WellFormed s)
    (hu : s.usb.WellFormed) (h : s.addCompleteFrameToQueue enqueued = some s') :
    WellFormed s' := by
  obtain ⟨r, hr, hreap, -, rfl | rfl⟩ := addCompleteFrameToQueue_cases h
  · exact hs
  obtain ⟨-, hfree⟩ := hs.not_joined hu hreap
  have hin := hs.inPool r (.inl hr)
  exact { hs with
    callback := fun _ => hreap
    unpooled := fun hnone => absurd hr ((hs.unpooled hnone).2.2 r)
    drained := fun hcall => absurd hcall hfree
    inPool := fun r' hr' => by
      simp only [Points, List.mem_append, List.mem_singleton, Option.some_inj] at hr'
      rcases hr' with hr' | (hr' | rfl) | hr'
      · exact hs.inPool r' (.inl hr')
      · exact hs.inPool r' (.inr (.inl hr'))
      · exact hin
      · exact hs.inPool r' (.inr (.inr hr'))
    fetching := fun index hindex => by
      obtain rfl := Option.some_inj.mp hindex
      exact lt_of_le_of_lt (Nat.zero_le _) hin.2 }

/-- The steps of the reap thread in `fetchFrameFromPool` keep the state well formed. -/
lemma wellFormed_fetchStep {s s' : FrameFlow} (hs : WellFormed s) (hu : s.usb.WellFormed)
    (h : s.fetchStep = some s') : WellFormed s' := by
  obtain ⟨index, pool, hindex, hpool, hcases⟩ := fetchStep_cases h
  have hlt := hs.fetching index hindex
  have hreap := hs.callback (by simp [hindex])
  obtain ⟨-, hfree⟩ := hs.not_joined hu hreap
  have hinput : ∀ i, i < s.framePoolSize → ∀ r,
      (InputFrame.frame ⟨pool, i⟩ = .frame r ∨ some r ∈ s.frameProcessQueue ∨
        s.process.frame = some r) → s.InPool r := by
    rintro i hi r (hr | hr | hr)
    · obtain rfl := InputFrame.frame.inj hr
      exact ⟨hpool, hi⟩
    · exact hs.inPool r (.inr (.inl hr))
    · exact hs.inPool r (.inr (.inr hr))
  rcases hcases with ⟨-, -, rfl⟩ | ⟨next, hnext, rfl⟩ | ⟨-, rfl⟩
  · exact { hs with
      callback := by simp
      unpooled := fun hnone => by simp [hpool] at hnone
      assigned := by simp
      drained := fun hcall => absurd hcall hfree
      inPool := hinput index hlt
      fetching := by simp }
  · exact { hs with
      callback := fun _ => hreap
      fetching := fun i hi => by
        obtain rfl := Option.some_inj.mp hi
        exact hnext (lt_of_le_of_lt (Nat.zero_le _) hlt) }
  · exact { hs with
      callback := by simp
      unpooled := fun hnone => by simp [hpool] at hnone
      assigned := by simp
      drained := fun hcall => absurd hcall hfree
      inPool := hinput 0 (lt_of_le_of_lt (Nat.zero_le _) hlt)
      fetching := by simp }

/-- A process thread that goes on at work keeps the state well formed, if it points to no frame
but the one it had or one that was queued. -/
lemma WellFormed.withProcess {s : FrameFlow} (hs : WellFormed s) (pc : ProcessPc)
    {queue : List (Option FrameRef)} (hwork : s.process ≠ .absent) (hpc : pc ≠ .absent)
    (hqueue : ∀ entry ∈ queue, entry ∈ s.frameProcessQueue)
    (hframe : ∀ r, pc.frame = some r → s.Points r) :
    WellFormed { s with frameProcessQueue := queue, process := pc } :=
  { hs with
    unpooled := fun hnone => absurd (hs.unpooled hnone).1 hwork
    unthreaded := fun habsent => absurd habsent hpc
    enqueueing := fun _ => hpc
    joined := fun hcall => absurd (hs.joined hcall) hwork
    drained := fun hcall => absurd (hs.joined (.inr hcall)) hwork
    inPool := by
      rintro r (hr | hr | hr)
      · exact hs.inPool r (.inl hr)
      · exact hs.inPool r (.inr (.inl (hqueue _ hr)))
      · exact hs.inPool r (hframe r hr) }

/-- The steps of the process thread keep the state well formed. -/
lemma wellFormed_processStep {s s' : FrameFlow} (hs : WellFormed s)
    (h : s.processStep = some s') : WellFormed s' := by
  have hlt : ∀ r, s.process.frame = some r → r.pool < s.pools := fun r hr =>
    hs.pool_lt r.pool (hs.inPool r (.inr (.inr hr))).1
  rcases processStep_cases h with ⟨pc, -, hwork, hnone, hpc, rfl⟩ |
    ⟨r, hr, ⟨pc, hframe, hpc, rfl⟩ | rfl⟩ | ⟨r, hr, rfl⟩
  · exact hs.withProcess pc hwork hpc (fun _ h => h) (by simp [hnone])
  · refine hs.withProcess pc ?_ hpc (fun _ h => h) fun r' hr' => .inr (.inr ?_)
    · rintro habsent
      simp [habsent, ProcessPc.frame] at hr
    · rw [hr, ← hframe, hr']
  · have hwork : s.process ≠ .absent := by
      rintro habsent
      simp [habsent, ProcessPc.frame] at hr
    exact { hs.withProcess .test hwork (by simp) (fun _ h => h)
        (by simp [ProcessPc.frame]) with
      skipped_lt := by
        intro r' hr'
        rcases List.mem_cons.mp hr' with rfl | hr'
        · exact hlt r' hr
        · exact hs.skipped_lt r' hr' }
  · have hwork : s.process ≠ .absent := by simp [hr]
    have hframe : s.process.frame = some r := by simp [hr, ProcessPc.frame]
    exact { hs.withProcess (.deliver r) hwork (by simp) (fun _ h => h)
        (by simp [ProcessPc.frame]) with
      delivered_lt := by
        intro r' hr'
        by_cases hne : r' = r
        · exact hne ▸ hlt r hframe
        · exact hs.delivered_lt r' (by simpa [Function.update_of_ne hne] using hr') }

/-- Dequeuing keeps the state well formed. -/
lemma wellFormed_dequeueStep {s s' : FrameFlow} {k : ℕ} (hs : WellFormed s)
    (h : s.dequeueStep k = some s') : WellFormed s' := by
  obtain ⟨hwork, entry, pc, hentry, hframe, hpc, rfl⟩ := dequeueStep_cases h
  refine hs.withProcess pc (by simp [hwork]) hpc (fun _ h => List.mem_of_mem_eraseIdx h)
    fun r hr => ?_
  have hmem := List.mem_of_getElem? hentry
  rw [← hframe, hr] at hmem
  exact .inr (.inl hmem)

/-- The steps of a consumer keep the state well formed. -/
lemma wellFormed_returnFrame {s s' : FrameFlow} {r : FrameRef} (hs : WellFormed s)
    (h : s.returnFrame r = some s') : WellFormed s' := by
  obtain ⟨hdelivered, rfl | ⟨-, rfl⟩⟩ := returnFrame_cases h
  · exact hs
  · exact { hs with
      returning_lt := by
        intro r' hr'
        rcases List.mem_cons.mp hr' with rfl | hr'
        · exact hs.delivered_lt r' hdelivered
        · exact hs.returning_lt r' hr'
      delivered_lt := by
        intro r' hr'
        by_cases hne : r' = r
        · exact hne ▸ hs.delivered_lt r hdelivered
        · exact hs.delivered_lt r' (by simpa [Function.update_of_ne hne] using hr') }

/-- The rest of `returnFrame` keeps the state well formed. -/
lemma wellFormed_returnStep {s s' : FrameFlow} {r : FrameRef} (hs : WellFormed s)
    (h : s.returnStep r = some s') : WellFormed s' := by
  have hlt : ∀ r' ∈ s.returning.erase r, r'.pool < s.pools := fun r' hr' =>
    hs.returning_lt r' (List.mem_of_mem_erase hr')
  obtain ⟨-, ⟨-, rfl⟩ | ⟨pool, -, -, rfl⟩⟩ := returnStep_cases h
  · exact { hs with returning_lt := hlt }
  · exact { hs with returning_lt := hlt }

/-- An inactive driver between two calls has no pool, no process thread and no pointer to a
frame. -/
lemma WellFormed.idle {s : FrameFlow} (hs : WellFormed s) (hactive : s.streamActive = false)
    (hcall : s.call = .idle) : s.framePool = none ∧ s.process = .absent ∧
      s.frameProcessQueue = [] ∧ ∀ r, s.usbInputFrame ≠ .frame r :=
  have hpool := (hs.inactive hactive hcall).1
  ⟨hpool, hs.unpooled hpool⟩

/-- Where the USB device is closed, no reap thread searches the pool. -/
lemma WellFormed.not_fetching {s : FrameFlow} (hs : WellFormed s) (hu : s.usb.WellFormed)
    (hclosed : s.usb.handler = .closed) : s.fetching = none := by
  by_contra hfetching
  have hreap := hs.callback hfetching
  rcases hu.reapIdle (.inl hclosed) with h | h <;> simp [h, ReapPc.isCallback] at hreap

/-- The steps of `stopStreaming` find a driver that is not active, and leave it so. -/
lemma WellFormed.inactive_stopStep {s s' : FrameFlow} (hs : WellFormed s)
    (h : s.stopStep = some s') : s'.streamActive = false := by
  have hstops : s.call.Stops → s.streamActive = false := hs.stops
  rcases stopStep_cases h with ⟨hcall, -, ⟨-, rfl⟩ | ⟨-, rfl⟩ | ⟨-, rfl⟩⟩ | ⟨hcall, rfl⟩ |
    ⟨hcall, -, rfl⟩ | ⟨hcall, lock, rfl⟩ | ⟨hcall, rfl⟩
  all_goals
    rw [hcall] at hstops
    exact hstops trivial

/-- What a start does between two calls. -/
lemma WellFormed.startStreaming_cases {s s' : FrameFlow} {outcome : StartOutcome}
    (hs : WellFormed s) (hcall : s.call = .idle) (h : s.startStreaming outcome = some s') :
    (∃ streaming, s' = { s with mIsStreaming := streaming }) ∨
      (s.framePool = none ∧
        ∃ streaming, s' = { s with streamActive := true, mIsStreaming := streaming }) ∨
      ∃ success attached, outcome = .opened success attached ∧ s.streamActive = false ∧
        0 < s.framePoolSize ∧ s' = s.started success attached := by
  rcases Bool.eq_false_or_eq_true s.streamActive with hactive | hactive
  · unfold startStreaming at h
    rw [if_pos hactive] at h
    exact .inl ⟨_, (Option.some_inj.mp h).symm⟩
  obtain ⟨hpool, hprocess, -, -⟩ := hs.idle hactive hcall
  cases outcome with
  | interfaceFailed =>
    unfold startStreaming at h
    rw [if_neg (by simp [hactive])] at h
    exact .inr (.inl ⟨hpool, _, (Option.some_inj.mp h).symm⟩)
  | registersFailed =>
    unfold startStreaming at h
    rw [if_neg (by simp [hactive])] at h
    exact .inl ⟨_, (Option.some_inj.mp h).symm⟩
  | opened success attached =>
    obtain ⟨hpos, -, rfl⟩ := startStreaming_of_unpooled hactive hpool hprocess h
    exact .inr (.inr ⟨success, attached, rfl, hactive, hpos, rfl⟩)

/-- A start keeps the state well formed. -/
lemma wellFormed_startStreaming {s s' : FrameFlow} {outcome : StartOutcome} (hs : WellFormed s)
    (hcall : s.call = .idle) (h : s.startStreaming outcome = some s') : WellFormed s' := by
  rcases hs.startStreaming_cases hcall h with ⟨streaming, rfl⟩ | ⟨-, streaming, rfl⟩ |
    ⟨success, attached, -, hactive, hpos, rfl⟩
  · exact { hs with }
  · exact { hs with
      inactive := by simp
      starts := fun _ => rfl
      stops := by simp [hcall, DriverCall.Stops] }
  · obtain ⟨hpool, hprocess, hqueue, hinput⟩ := hs.idle hactive hcall
    have hclosed := (hs.inactive hactive hcall).2
    exact { hs with
      fits := by
        cases success
        · exact .inr hclosed
        · exact hclosed
      inactive := by simp [started]
      starts := fun _ => rfl
      stops := by cases success <;> exact False.elim
      unpooled := by simp [started]
      unthreaded := by simp [started]
      assigned := by simp [started]
      enqueueing := by cases success <;> simp [started]
      joined := by cases success <;> simp [started]
      drained := by cases success <;> simp [started]
      inPool := by
        rintro r (hr | hr | hr)
        · obtain rfl := InputFrame.frame.inj hr
          exact ⟨rfl, hpos⟩
        · change some r ∈ s.frameProcessQueue at hr
          simp [hqueue] at hr
        · simp [started, ProcessPc.frame] at hr
      pool_lt := by simp [started]
      skipped_lt := fun r hr => Nat.lt_succ_of_lt (hs.skipped_lt r hr)
      returning_lt := fun r hr => Nat.lt_succ_of_lt (hs.returning_lt r hr)
      delivered_lt := by
        intro r hr
        by_cases hnew : r.pool = s.pools
        · simp [started, hnew, JavaFrame.new] at hr
        · exact Nat.lt_succ_of_lt (hs.delivered_lt r (by simpa [started, hnew] using hr)) }

/-- Every step keeps the state well formed. -/
lemma wellFormed_step {s s' : FrameFlow} {e : FlowEvent} (hs : WellFormed s)
    (hu : s.usb.WellFormed) (h : s.step e = some s') : WellFormed s' := by
  cases e with
  | usbtvInitialize mFramePoolSize =>
    obtain ⟨-, rfl⟩ := usbtvInitialize_cases h
    exact { hs with
      fits := .inr rfl
      inactive := fun _ _ => ⟨rfl, rfl⟩
      starts := by simp [construct]
      stops := False.elim
      callback := by simp [construct]
      unpooled := fun _ => ⟨rfl, rfl, by simp [construct]⟩
      unthreaded := by simp [construct]
      assigned := by simp [construct]
      enqueueing := by simp [construct]
      joined := by simp [construct]
      drained := by simp [construct]
      inPool := by simp [construct, Points, ProcessPc.frame]
      fetching := by simp [construct]
      pool_lt := by simp [construct] }
  | dispose =>
    obtain ⟨-, rfl⟩ := dispose_cases h
    exact { hs with }
  | setFrameListener listener =>
    obtain rfl | ⟨useCallback, rfl⟩ := setFrameListener_cases h
    · exact hs
    · exact { hs with }
  | startStreaming outcome =>
    obtain ⟨hguard, h⟩ := startStreaming_guard h
    exact wellFormed_startStreaming hs hguard.2 h
  | stopStreaming =>
    obtain ⟨hguard, rfl⟩ := stopStreaming_cases h
    have hfits := hs.fits
    refine hs.withCall ?_ hs.callback (by simp [DriverCall.Stops]) ?_ (by simp) (by simp)
    · rcases hguard.2 with hcall | hcall
      · rw [hcall] at hfits
        exact hfits.elim .inl fun hc => .inr (.inr hc)
      · rw [hcall] at hfits
        exact .inr hfits
    · rcases hguard.2 with hcall | hcall <;> simp [hcall]
  | usb e => exact wellFormed_usbStep hs hu h
  | stop => exact wellFormed_stopStep hs h
  | addCompleteFrameToQueue enqueued => exact wellFormed_addCompleteFrameToQueue hs hu h
  | fetch => exact wellFormed_fetchStep hs hu h
  | dequeue k => exact wellFormed_dequeueStep hs h
  | process => exact wellFormed_processStep hs h
  | returnFrame r => exact wellFormed_returnFrame hs h
  | returnFrameToPool r => exact wellFormed_returnStep hs h

/-- **Between any two steps the state is well formed.** -/
theorem wellFormed_of_reachable {C : FrameFlow → FlowEvent → Prop} {s : FrameFlow}
    (h : frameFlow.ReachableUnder C s) : WellFormed s := by
  refine StepSystem.ReachableUnder.invariant (I := WellFormed) ?_
    (fun s e s' hr hs _ hstep => wellFormed_step hs (usb_wellFormed hr) hstep) h
  rintro s rfl
  exact
    { fits := .inr rfl
      inactive := fun _ _ => ⟨rfl, rfl⟩
      starts := by simp [new]
      stops := False.elim
      callback := by simp [new]
      unpooled := fun _ => ⟨rfl, rfl, by simp [new]⟩
      unthreaded := by simp [new]
      assigned := by simp [new]
      enqueueing := by simp [new]
      joined := by simp [new]
      drained := by simp [new]
      inPool := by simp [new, Points, ProcessPc.frame]
      fetching := by simp [new]
      pool_lt := by simp [new]
      skipped_lt := by simp [new]
      returning_lt := by simp [new]
      delivered_lt := by simp [new, JavaFrame.new] }

/-! ## Driver objects -/

/-- No driver object: nothing is active, and there is no call. -/
def Disposed (s : FrameFlow) : Prop :=
  s.usbtv = false → s.streamActive = false ∧ s.call = .idle

/-- A driver object goes when it is idle, and nothing starts without one. -/
lemma disposed_step {s s' : FrameFlow} {e : FlowEvent} (hw : WellFormed s) (hs : Disposed s)
    (h : s.step e = some s') : Disposed s' := by
  intro hgone
  cases e with
  | usbtvInitialize mFramePoolSize =>
    obtain ⟨-, rfl⟩ := usbtvInitialize_cases h
    simp [construct] at hgone
  | dispose =>
    obtain ⟨hguard, rfl⟩ := dispose_cases h
    exact ⟨hguard.2.2, hguard.2.1⟩
  | setFrameListener listener =>
    obtain rfl | ⟨useCallback, rfl⟩ := setFrameListener_cases h
    · exact hs hgone
    · exact hs hgone
  | startStreaming outcome =>
    obtain ⟨hguard, h⟩ := startStreaming_guard h
    rcases hw.startStreaming_cases hguard.2 h with ⟨streaming, rfl⟩ | ⟨-, streaming, rfl⟩ |
      ⟨success, attached, -, -, -, rfl⟩ <;>
    exact absurd (hguard.1.symm.trans hgone) (by simp)
  | stopStreaming =>
    obtain ⟨hguard, rfl⟩ := stopStreaming_cases h
    exact absurd (hguard.1.symm.trans hgone) (by simp)
  | usb e =>
    obtain ⟨usb, call, streaming, -, hcall, rfl⟩ := usbStep_cases h
    obtain ⟨hactive, hidle⟩ := hs hgone
    refine ⟨hactive, ?_⟩
    rcases nextCall_cases hcall with heq | ⟨hc, -⟩ | ⟨hc, -⟩ | ⟨hc, -⟩
    · exact heq.trans hidle
    all_goals exact absurd (hidle.symm.trans hc) (by simp)
  | stop =>
    rcases stopStep_cases h with ⟨hcall, -, ⟨-, rfl⟩ | ⟨-, rfl⟩ | ⟨-, rfl⟩⟩ | ⟨hcall, rfl⟩ |
      ⟨hcall, -, rfl⟩ | ⟨hcall, lock, rfl⟩ | ⟨hcall, rfl⟩ <;>
    exact absurd (hcall.symm.trans (hs hgone).2) (by simp)
  | addCompleteFrameToQueue enqueued =>
    obtain ⟨r, -, -, -, rfl | rfl⟩ := addCompleteFrameToQueue_cases h <;> exact hs hgone
  | fetch =>
    obtain ⟨index, pool, -, -, ⟨-, -, rfl⟩ | ⟨next, -, rfl⟩ | ⟨-, rfl⟩⟩ := fetchStep_cases h <;>
      exact hs hgone
  | dequeue k =>
    obtain ⟨-, entry, pc, -, -, -, rfl⟩ := dequeueStep_cases h
    exact hs hgone
  | process =>
    rcases processStep_cases h with ⟨pc, -, -, -, -, rfl⟩ | ⟨r, -, ⟨pc, -, -, rfl⟩ | rfl⟩ |
      ⟨r, -, rfl⟩ <;> exact hs hgone
  | returnFrame r =>
    obtain ⟨-, rfl | ⟨-, rfl⟩⟩ := returnFrame_cases h <;> exact hs hgone
  | returnFrameToPool r =>
    obtain ⟨-, ⟨-, rfl⟩ | ⟨pool, -, -, rfl⟩⟩ := returnStep_cases h <;> exact hs hgone

/-- In every run nothing is active without a driver object. -/
lemma disposed_of_reachable {C : FrameFlow → FlowEvent → Prop} {s : FrameFlow}
    (h : frameFlow.ReachableUnder C s) : Disposed s := by
  refine StepSystem.ReachableUnder.invariant (I := Disposed) ?_
    (fun s e s' hr hs _ hstep => disposed_step (wellFormed_of_reachable hr) hs hstep) h
  rintro s rfl -
  exact ⟨rfl, rfl⟩

/-- Without a driver object there is no pool. -/
lemma framePool_of_disposed {C : FrameFlow → FlowEvent → Prop} {s : FrameFlow}
    (h : frameFlow.ReachableUnder C s) (husbtv : s.usbtv = false) : s.framePool = none := by
  obtain ⟨hactive, hcall⟩ := disposed_of_reachable h husbtv
  exact ((wellFormed_of_reachable h).inactive hactive hcall).1

end FrameFlow

end UsbTv
