import UsbTv.Flow.Queued

set_option relaxedAutoImplicit false
set_option autoImplicit false

/-!
# A list ahead of the queue

The driver with its queue does what the driver does that has a list for it: an entry is appended
when it is published, and taken when its index is. So the list is ahead of what the threads know
that are in a call of the queue, as `FrameFlow.ahead` has it. Here this is shown of each of the
steps that are made outside the queue, within a call and at its return.

Two things are needed for this of the way in which the driver uses the queue. There is one consumer
at a time, as the loop of `stopStreaming` that empties the queue comes after the process thread is
joined. And while that loop is at work no other thread calls the queue, so that it ends with an
empty queue and not before.

## Main definitions

* `UsbTv.FrameFlow.Returned` — what a thread does when its call of the queue returns.

## Main results

* `UsbTv.FrameFlow.ahead_step` — a step outside the queue.
* `UsbTv.FrameFlow.matchedBy_within` — a step within a call of the queue.
* `UsbTv.FrameFlow.Returned.matchedBy` — a return from the queue.
-/

namespace UsbTv

namespace FrameFlow

variable {s s' : FrameFlow} {e : FlowEvent}

/-! ## What the steps of the other threads leave alone -/

/-- Only the handler thread goes on with its call. -/
lemma step_call (h : s.step e = some s') (he : e.caller ≠ some .handler) : s'.call = s.call := by
  cases e with
  | usbtvInitialize mFramePoolSize => exact absurd rfl he
  | dispose => exact absurd rfl he
  | setFrameListener listener => exact absurd rfl he
  | startStreaming outcome => exact absurd rfl he
  | stopStreaming => exact absurd rfl he
  | stop => exact absurd rfl he
  | usb e =>
    obtain ⟨usb, call, streaming, -, hcall, rfl⟩ := usbStep_cases h
    cases e with
    | initIsoUrbs answer => exact absurd rfl he
    | startUrbAsyncRead => exact absurd rfl he
    | stop => exact absurd rfl he
    | handler => exact absurd rfl he
    | reap answer =>
      simp only [nextCall] at hcall
      split_ifs at hcall
      exact (Option.some_inj.mp hcall).symm
    | reapUrb urb => exact (Option.some_inj.mp hcall).symm
    | reapError ret => exact (Option.some_inj.mp hcall).symm
    | complete urb => exact (Option.some_inj.mp hcall).symm
  | addCompleteFrameToQueue enqueued =>
    obtain ⟨r, -, -, -, rfl | rfl⟩ := addCompleteFrameToQueue_cases h <;> rfl
  | fetch =>
    obtain ⟨index, pool, -, -, ⟨-, -, rfl⟩ | ⟨next, -, rfl⟩ | ⟨-, rfl⟩⟩ := fetchStep_cases h <;> rfl
  | dequeue k =>
    obtain ⟨-, entry, pc, -, -, -, rfl⟩ := dequeueStep_cases h
    rfl
  | process =>
    rcases processStep_cases h with ⟨pc, -, -, -, -, rfl⟩ | ⟨r, -, ⟨pc, -, -, rfl⟩ | rfl⟩ |
      ⟨r, -, rfl⟩ <;> rfl
  | returnFrame r =>
    obtain ⟨-, rfl | ⟨-, rfl⟩⟩ := returnFrame_cases h <;> rfl
  | returnFrameToPool r =>
    obtain ⟨-, ⟨-, rfl⟩ | ⟨pool, -, -, rfl⟩⟩ := returnStep_cases h <;> rfl

/-- A start leaves the process thread, the fetching and the queue alone, but for a process thread
where there was none. -/
lemma startStreaming_frame {outcome : StartOutcome} (h : s.startStreaming outcome = some s') :
    (s.process ≠ .absent → s'.process = s.process) ∧ s'.fetching = s.fetching ∧
      s'.frameProcessQueue = s.frameProcessQueue ∧
      (s.streamActive = true → s'.usbInputFrame = s.usbInputFrame) := by
  unfold startStreaming at h
  split_ifs at h with hactive
  · obtain rfl := Option.some_inj.mp h
    exact ⟨fun _ => rfl, rfl, rfl, fun _ => rfl⟩
  split at h
  · obtain rfl := Option.some_inj.mp h
    exact ⟨fun _ => rfl, rfl, rfl, fun _ => rfl⟩
  · obtain rfl := Option.some_inj.mp h
    exact ⟨fun _ => rfl, rfl, rfl, fun _ => rfl⟩
  · simp only [Option.map_eq_some_iff, Option.bind_eq_some_iff] at h
    obtain ⟨s₂, ⟨s₁, halloc, hfetch⟩, rfl⟩ := h
    have hs₁ : s₁.process = s.process ∧ s₁.fetching = s.fetching ∧
        s₁.frameProcessQueue = s.frameProcessQueue := by
      unfold allocateFramePool at halloc
      split at halloc
      · obtain rfl := Option.some_inj.mp halloc
        exact ⟨rfl, rfl, rfl⟩
      · split_ifs at halloc
        obtain rfl := Option.some_inj.mp halloc
        exact ⟨rfl, rfl, rfl⟩
    have hs₂ : s₂.process = s₁.process ∧ s₂.fetching = s₁.fetching ∧
        s₂.frameProcessQueue = s₁.frameProcessQueue := by
      unfold fetchInputFrame at hfetch
      split at hfetch
      · exact absurd hfetch (by simp)
      · obtain ⟨i, -, rfl⟩ := Option.map_eq_some_iff.mp hfetch
        exact ⟨rfl, rfl, rfl⟩
    obtain ⟨hprocess, hfetching, hqueue⟩ := hs₂
    rw [hs₁.1] at hprocess
    rw [hs₁.2.1] at hfetching
    rw [hs₁.2.2] at hqueue
    split
    · next habsent =>
      exact ⟨fun hne => absurd (hprocess.symm.trans habsent) hne, hfetching, hqueue,
        fun h => absurd h hactive⟩
    · exact ⟨fun _ => hprocess, hfetching, hqueue, fun h => absurd h hactive⟩

/-- A process thread at the queue moves by steps of its own only. -/
lemma step_process (h : s.step e = some s') (he : e.caller ≠ some .process)
    (hinit : ∀ size, e ≠ .usbtvInitialize size) (hpc : s.process = .dequeue) :
    s'.process = .dequeue := by
  cases e with
  | usbtvInitialize mFramePoolSize => exact absurd rfl (hinit mFramePoolSize)
  | dispose =>
    obtain ⟨-, rfl⟩ := dispose_cases h
    exact hpc
  | setFrameListener listener =>
    obtain rfl | ⟨useCallback, rfl⟩ := setFrameListener_cases h <;> exact hpc
  | startStreaming outcome =>
    obtain ⟨-, h⟩ := startStreaming_guard h
    exact ((startStreaming_frame h).1 (by rw [hpc]; exact nofun)).trans hpc
  | stopStreaming =>
    obtain ⟨-, rfl⟩ := stopStreaming_cases h
    exact hpc
  | stop =>
    rcases stopStep_cases h with ⟨-, -, ⟨-, rfl⟩ | ⟨-, rfl⟩ | ⟨-, rfl⟩⟩ | ⟨-, rfl⟩ |
      ⟨-, hexited, rfl⟩ | ⟨-, lock, rfl⟩ | ⟨-, rfl⟩
    · exact hpc
    · exact hpc
    · exact hpc
    · exact hpc
    · rw [hexited] at hpc
      cases hpc
    · exact hpc
    · exact hpc
  | usb e =>
    obtain ⟨usb, call, streaming, -, -, rfl⟩ := usbStep_cases h
    exact hpc
  | addCompleteFrameToQueue enqueued =>
    obtain ⟨r, -, -, -, rfl | rfl⟩ := addCompleteFrameToQueue_cases h <;> exact hpc
  | fetch =>
    obtain ⟨index, pool, -, -, ⟨-, -, rfl⟩ | ⟨next, -, rfl⟩ | ⟨-, rfl⟩⟩ := fetchStep_cases h <;>
      exact hpc
  | dequeue k => exact absurd rfl he
  | process => exact absurd rfl he
  | returnFrame r =>
    obtain ⟨-, rfl | ⟨-, rfl⟩⟩ := returnFrame_cases h <;> exact hpc
  | returnFrameToPool r =>
    obtain ⟨-, ⟨-, rfl⟩ | ⟨pool, -, -, rfl⟩⟩ := returnStep_cases h <;> exact hpc

/-- What a reap thread in `onUrbReceived` finds is changed by steps of its own only, as long as the
driver is active between two calls, and the input frame is not taken from it. -/
lemma step_reap (hu : s.usb.WellFormed) (h : s.step e = some s') (he : e.caller ≠ some .reap)
    (hinit : ∀ size, e ≠ .usbtvInitialize size) (hqueued : s.isQueued e = false)
    (hactive : s.call = .idle → s.streamActive = true) (hcallback : s.usb.reap.isCallback = true) :
    s'.usb.reap.isCallback = true ∧ s'.fetching = s.fetching ∧
      s'.usbInputFrame = s.usbInputFrame := by
  cases e with
  | usbtvInitialize mFramePoolSize => exact absurd rfl (hinit mFramePoolSize)
  | dispose =>
    obtain ⟨-, rfl⟩ := dispose_cases h
    exact ⟨hcallback, rfl, rfl⟩
  | setFrameListener listener =>
    obtain rfl | ⟨useCallback, rfl⟩ := setFrameListener_cases h <;> exact ⟨hcallback, rfl, rfl⟩
  | startStreaming outcome =>
    obtain ⟨hguard, h⟩ := startStreaming_guard h
    obtain ⟨-, hfetching, -, hinput⟩ := startStreaming_frame h
    exact ⟨by rw [startStreaming_usb h]; exact hcallback, hfetching, hinput (hactive hguard.2)⟩
  | stopStreaming =>
    obtain ⟨-, rfl⟩ := stopStreaming_cases h
    exact ⟨hcallback, rfl, rfl⟩
  | stop =>
    rcases stopStep_cases h with ⟨-, -, ⟨-, rfl⟩ | ⟨-, rfl⟩ | ⟨-, rfl⟩⟩ | ⟨-, rfl⟩ | ⟨-, -, rfl⟩ |
      ⟨hcall, lock, rfl⟩ | ⟨-, rfl⟩
    · exact ⟨hcallback, rfl, rfl⟩
    · exact ⟨hcallback, rfl, rfl⟩
    · exact ⟨hcallback, rfl, rfl⟩
    · exact ⟨hcallback, rfl, rfl⟩
    · exact ⟨hcallback, rfl, rfl⟩
    · simp [isQueued, hcall] at hqueued
    · exact ⟨hcallback, rfl, rfl⟩
  | usb e =>
    obtain ⟨usb, call, streaming, husb, -, rfl⟩ := usbStep_cases h
    refine ⟨?_, rfl, rfl⟩
    have hreap : usb.reap = s.usb.reap := by
      refine UsbThreads.step_reap hu ?_ ?_ ?_ husb
      · rintro (hreap | hreap) <;> simp [hreap, ReapPc.isCallback] at hcallback
      · intro hreap
        simp [hreap, ReapPc.isCallback] at hcallback
      · rintro answer rfl
        exact he rfl
    rw [hreap]
    exact hcallback
  | addCompleteFrameToQueue enqueued => exact absurd rfl he
  | fetch => exact absurd rfl he
  | dequeue k =>
    obtain ⟨-, entry, pc, -, -, -, rfl⟩ := dequeueStep_cases h
    exact ⟨hcallback, rfl, rfl⟩
  | process =>
    rcases processStep_cases h with ⟨pc, -, -, -, -, rfl⟩ | ⟨r, -, ⟨pc, -, -, rfl⟩ | rfl⟩ |
      ⟨r, -, rfl⟩ <;> exact ⟨hcallback, rfl, rfl⟩
  | returnFrame r =>
    obtain ⟨-, rfl | ⟨-, rfl⟩⟩ := returnFrame_cases h <;> exact ⟨hcallback, rfl, rfl⟩
  | returnFrameToPool r =>
    obtain ⟨-, ⟨-, rfl⟩ | ⟨pool, -, -, rfl⟩⟩ := returnStep_cases h <;> exact ⟨hcallback, rfl, rfl⟩

/-- Only the calls of the queue change the list. -/
lemma step_frameProcessQueue (h : s.step e = some s') (hqueued : s.isQueued e = false)
    (hnil : s.frameProcessQueue = []) : s'.frameProcessQueue = [] := by
  cases e with
  | usbtvInitialize mFramePoolSize =>
    obtain ⟨-, rfl⟩ := usbtvInitialize_cases h
    rfl
  | dispose =>
    obtain ⟨-, rfl⟩ := dispose_cases h
    exact hnil
  | setFrameListener listener =>
    obtain rfl | ⟨useCallback, rfl⟩ := setFrameListener_cases h <;> exact hnil
  | startStreaming outcome =>
    obtain ⟨-, h⟩ := startStreaming_guard h
    exact (startStreaming_frame h).2.2.1.trans hnil
  | stopStreaming =>
    obtain ⟨-, rfl⟩ := stopStreaming_cases h
    exact hnil
  | stop =>
    rcases stopStep_cases h with ⟨-, -, ⟨-, rfl⟩ | ⟨-, rfl⟩ | ⟨-, rfl⟩⟩ | ⟨hcall, -⟩ | ⟨-, -, rfl⟩ |
      ⟨-, lock, rfl⟩ | ⟨-, rfl⟩
    · exact hnil
    · exact hnil
    · exact hnil
    · simp [isQueued, hcall] at hqueued
    · exact hnil
    · rfl
    · exact hnil
  | usb e =>
    obtain ⟨usb, call, streaming, -, -, rfl⟩ := usbStep_cases h
    exact hnil
  | addCompleteFrameToQueue enqueued => cases hqueued
  | fetch =>
    obtain ⟨index, pool, -, -, ⟨-, -, rfl⟩ | ⟨next, -, rfl⟩ | ⟨-, rfl⟩⟩ := fetchStep_cases h <;>
      exact hnil
  | dequeue k => cases hqueued
  | process =>
    rcases processStep_cases h with ⟨pc, -, -, -, -, rfl⟩ | ⟨r, -, ⟨pc, -, -, rfl⟩ | rfl⟩ |
      ⟨r, -, rfl⟩ <;> exact hnil
  | returnFrame r =>
    obtain ⟨-, rfl | ⟨-, rfl⟩⟩ := returnFrame_cases h <;> exact hnil
  | returnFrameToPool r =>
    obtain ⟨-, ⟨-, rfl⟩ | ⟨pool, -, -, rfl⟩⟩ := returnStep_cases h <;> exact hnil

/-! ## Threads in no call -/

variable {caller : Caller} {seen : Caller → CallPc (Option FrameRef)}
  {pc : CallPc (Option FrameRef)} {lock : FrameRef → Bool}
  {queue drained entries : List (Option FrameRef)}

/-- The process thread calls the queue in `getFrame` only. -/
lemma InCall.process_out (hin : s.InCall .process pc) (h : s.process ≠ .dequeue) : pc = .out := by
  cases pc with
  | out => rfl
  | dequeuing mayFail => exact absurd hin.1 h
  | dequeued result => exact absurd hin.1 h
  | enqueuing item => exact hin.elim
  | enqueued success => exact hin.elim

/-- The handler thread calls the queue in `stopStreaming` only. -/
lemma InCall.handler_out (hin : s.InCall .handler pc) (h : s.call ≠ .stopEnqueue)
    (h' : s.call ≠ .stopDrain) : pc = .out := by
  cases pc with
  | out => rfl
  | dequeuing mayFail => exact absurd hin h'
  | dequeued result => exact absurd hin h'
  | enqueuing item => exact absurd hin.1 h
  | enqueued success => exact absurd hin.1 h

/-- The reap thread calls the queue in `onUrbReceived` only. -/
lemma InCall.reap_out (hin : s.InCall .reap pc) (h : s.usb.reap.isCallback ≠ true) :
    pc = .out := by
  cases pc with
  | out => rfl
  | dequeuing mayFail => exact hin.elim
  | dequeued result => exact hin.elim
  | enqueuing item => exact absurd hin.1 h
  | enqueued success => exact absurd hin.1 h

/-- There is a process thread in both or in none. -/
lemma InCall.process_eq_absent (hin : s.InCall .process pc) :
    pc.process s.process = .absent ↔ s.process = .absent := by
  by_cases hpc : s.process = .dequeue
  · have hne : pc.process s.process ≠ .absent := by
      rw [hpc]
      cases pc with
      | dequeued result =>
        cases result with
        | none => exact nofun
        | some entry => cases entry <;> exact nofun
      | _ => exact nofun
    rw [hpc] at hne ⊢
    exact ⟨fun h => absurd h hne, nofun⟩
  · rw [hin.process_out hpc]
    exact .rfl

/-- The loop of `stopStreaming` is at work in both or in none. -/
lemma InCall.call_eq_stopDrain (hin : s.InCall .handler pc) :
    pc.call s.call = .stopDrain ↔ s.call = .stopDrain := by
  cases pc with
  | enqueued success =>
    have hcall : s.call = .stopEnqueue := hin.1
    rw [hcall]
    exact ⟨nofun, nofun⟩
  | out => exact .rfl
  | enqueuing item => exact .rfl
  | dequeuing mayFail => exact .rfl
  | dequeued result => exact .rfl

/-- Nothing is in hand unless the queue is being emptied. -/
lemma InCall.inHand_eq (hin : s.InCall .handler pc) (h : s.call ≠ .stopDrain) :
    pc.inHand = [] := by
  unfold CallPc.inHand
  split
  · exact absurd hin h
  · rfl

/-- A thread in no call stands anywhere. -/
lemma inCall_out : s.InCall caller .out := by cases caller <;> trivial

/-- The handler thread is where it was. -/
lemma InCall.handler_of (hin : s.InCall .handler pc) (h : s'.call = s.call) :
    s'.InCall .handler pc := by
  cases pc with
  | out => trivial
  | enqueuing item => exact ⟨h.trans hin.1, hin.2⟩
  | enqueued success => exact ⟨h.trans hin.1, hin.2⟩
  | dequeuing mayFail => exact h.trans hin
  | dequeued result => exact h.trans hin

/-- The process thread is where it was. -/
lemma InCall.process_of (hin : s.InCall .process pc)
    (h : s.process = .dequeue → s'.process = .dequeue) : s'.InCall .process pc := by
  cases pc with
  | out => trivial
  | enqueuing item => exact hin.elim
  | enqueued success => exact hin.elim
  | dequeuing mayFail => exact ⟨h hin.1, hin.2⟩
  | dequeued result => exact ⟨h hin.1, hin.2⟩

/-- The reap thread is where it was. -/
lemma InCall.reap_of (hin : s.InCall .reap pc)
    (h : s.usb.reap.isCallback = true → s'.usb.reap.isCallback = true ∧
      s'.fetching = s.fetching ∧ s'.usbInputFrame = s.usbInputFrame) : s'.InCall .reap pc := by
  cases pc with
  | out => trivial
  | enqueuing item =>
    obtain ⟨hcallback, hfetching, hinput⟩ := h hin.1
    refine ⟨hcallback, hfetching.trans hin.2.1, ?_⟩
    rw [hinput]
    exact hin.2.2
  | enqueued success =>
    obtain ⟨hcallback, hfetching, -⟩ := h hin.1
    exact ⟨hcallback, hfetching.trans hin.2⟩
  | dequeuing mayFail => exact hin.elim
  | dequeued result => exact hin.elim

/-! ## Steps outside the queue -/

/-- Where no thread is in a call, the driver is what it is with an empty list. -/
lemma ahead_eq_self (hout : ∀ caller, seen caller = .out) (hunused : s.frameProcessQueue = []) :
    s.ahead seen s.lock [] = s := by
  rw [ahead, hout, hout, hout, ← hunused]
  rfl

/-- A list that is the queue, with the same locks. -/
lemma drains_self (s : FrameFlow) (entries : List (Option FrameRef)) :
    s.Drains [] entries s.lock entries [] := by
  refine ⟨.refl _, fun r => ?_, fun _ => ⟨rfl, rfl⟩⟩
  simp

/-- An idle driver that is not active has no thread in a call, and nothing in its queue. -/
lemma quiet (hin : ∀ caller, s.InCall caller (seen caller))
    (hs : frameFlow.Reachable (s.ahead seen lock queue))
    (hd : s.Drains (seen .handler).inHand entries lock queue drained)
    (hcall : s.call = .idle) (hactive : s.streamActive = false) :
    (∀ caller, seen caller = .out) ∧ s.lock = lock ∧ entries = queue ∧ queue = [] := by
  have hwf := wellFormed_of_reachable hs
  have hhandler : seen .handler = .out :=
    (hin .handler).handler_out (by rw [hcall]; exact nofun) (by rw [hcall]; exact nofun)
  have hidle : (s.ahead seen lock queue).call = .idle := by
    rw [ahead_call, hhandler, hcall]
    rfl
  obtain ⟨-, hprocess, hqueue, -⟩ := hwf.idle hactive hidle
  have hclosed := (hwf.inactive hactive hidle).2
  obtain ⟨hlock, hentries⟩ := hd.same (by rw [hcall]; exact nofun)
  refine ⟨fun caller => ?_, hlock, hentries, hqueue⟩
  cases caller with
  | handler => exact hhandler
  | reap =>
    refine (hin .reap).reap_out ?_
    have hreap := (usb_wellFormed hs).reapIdle (.inl hclosed)
    rw [ahead_usb] at hreap
    rcases hreap with hreap | hreap <;> rw [hreap] <;> exact nofun
  | process =>
    refine (hin .process).process_out ?_
    rw [(hin .process).process_eq_absent.mp hprocess]
    exact nofun

/-- Where there is no driver object, no thread is in a call either. -/
lemma quiet_of_disposed (hin : ∀ caller, s.InCall caller (seen caller))
    (hs : frameFlow.Reachable (s.ahead seen lock queue))
    (hd : s.Drains (seen .handler).inHand entries lock queue drained)
    (hout : seen .handler = .out) (hgone : s.usbtv = false) :
    (∀ caller, seen caller = .out) ∧ s.lock = lock ∧ entries = queue ∧ queue = [] := by
  obtain ⟨hactive, hidle⟩ := disposed_of_reachable hs hgone
  rw [ahead_call, hout, CallPc.call_out] at hidle
  exact quiet hin hs hd hidle hactive

variable (lock queue) in
/-- The call of the handler thread gets on with the USB device as it does with a list. -/
lemma ahead_nextCall {usb : UsbThreads} {e : UsbEvent} {call : DriverCall}
    (hout : ∀ caller ∈ e.caller, seen caller = .out) (h : s.nextCall usb e = some call) :
    (s.ahead seen lock queue).nextCall usb e = some ((seen .handler).call call) ∧
      ((s.ahead seen lock queue).mIsStreaming ||
          ((s.ahead seen lock queue).call = .readUrbs && (seen .handler).call call = .idle)) =
        (s.mIsStreaming || (s.call = .readUrbs && call = .idle)) ∧
      (s.call = .stopDrain → call = .stopDrain) := by
  have hboth : ∀ call : DriverCall,
      (decide (call = .readUrbs) && decide (call = .idle)) = false := by
    rintro (_ | _) <;> rfl
  cases e with
  | initIsoUrbs answer =>
    simp only [nextCall, ahead_call, ahead_mIsStreaming, hout .handler rfl, CallPc.call_out] at h ⊢
    exact ⟨h, trivial, fun hc => by simp [hc] at h⟩
  | startUrbAsyncRead =>
    simp only [nextCall, ahead_call, ahead_mIsStreaming, hout .handler rfl, CallPc.call_out] at h ⊢
    exact ⟨h, trivial, fun hc => by simp [hc] at h⟩
  | stop =>
    simp only [nextCall, ahead_call, ahead_mIsStreaming, hout .handler rfl, CallPc.call_out] at h ⊢
    exact ⟨h, trivial, fun hc => by simp [hc] at h⟩
  | handler =>
    simp only [nextCall, ahead_call, ahead_mIsStreaming, hout .handler rfl, CallPc.call_out] at h ⊢
    exact ⟨h, trivial, fun hc => by simp [hc] at h⟩
  | reap answer =>
    simp only [nextCall, ahead_call, ahead_mIsStreaming, ahead_fetching, hout .reap rfl,
      CallPc.fetching_out] at h ⊢
    split_ifs at h ⊢
    obtain rfl := Option.some_inj.mp h
    exact ⟨rfl, by rw [hboth, hboth], fun hc => hc⟩
  | reapUrb urb =>
    obtain rfl := Option.some_inj.mp h
    exact ⟨rfl, by rw [ahead_call, ahead_mIsStreaming, hboth, hboth], fun hc => hc⟩
  | reapError ret =>
    obtain rfl := Option.some_inj.mp h
    exact ⟨rfl, by rw [ahead_call, ahead_mIsStreaming, hboth, hboth], fun hc => hc⟩
  | complete urb =>
    obtain rfl := Option.some_inj.mp h
    exact ⟨rfl, by rw [ahead_call, ahead_mIsStreaming, hboth, hboth], fun hc => hc⟩

/-- A call of the handler thread goes on outside the queue. -/
lemma ahead_withCall (hout : seen .handler = .out) (call : DriverCall) :
    ({ s with call := call } : FrameFlow).ahead seen lock queue =
      { s.ahead seen lock queue with call := call } := by
  rw [ahead, ahead, hout]
  rfl

/-- The process thread goes on outside the queue. -/
lemma ahead_withProcess (hout : seen .process = .out) (process : ProcessPc) :
    ({ s with process := process } : FrameFlow).ahead seen lock queue =
      { s.ahead seen lock queue with process := process } := by
  rw [ahead, ahead, hout]
  rfl

/-- The step of an event is one with a list, and the list and the locks stay what they are to be. -/
def Follows (s s' : FrameFlow) (e : FlowEvent) (seen : Caller → CallPc (Option FrameRef))
    (entries : List (Option FrameRef)) (lock : FrameRef → Bool) (queue : List (Option FrameRef)) :
    Prop :=
  ∃ lock' queue' drained',
    (s.ahead seen lock queue).step e = some (s'.ahead seen lock' queue') ∧
      s'.Drains (seen .handler).inHand entries lock' queue' drained'

/-- A listener is set. -/
lemma follows_setFrameListener {listener : Bool}
    (hd : s.Drains (seen .handler).inHand entries lock queue drained)
    (hout : seen .handler = .out) (h : s.step (.setFrameListener listener) = some s') :
    s.Follows s' (.setFrameListener listener) seen entries lock queue := by
  unfold Follows
  simp only [step] at h ⊢
  by_cases hidle : s.call = .idle
  · rw [if_pos hidle] at h
    rw [if_pos (by rw [ahead_call, hout, CallPc.call_out, hidle])]
    by_cases hstreaming : s.mIsStreaming = true
    · rw [if_pos hstreaming] at h
      rw [ahead_mIsStreaming, if_pos hstreaming]
      obtain rfl := Option.some_inj.mp h
      exact ⟨lock, queue, drained, rfl, hd⟩
    · rw [if_neg hstreaming] at h
      rw [ahead_mIsStreaming, if_neg hstreaming]
      obtain rfl := Option.some_inj.mp h
      exact ⟨lock, queue, drained, rfl, hd.perm, hd.cleared, hd.same⟩
  · rw [if_neg hidle] at h
    cases h

/-- `startStreaming`: where the driver is not active, no thread is in a call. -/
lemma follows_startStreaming {outcome : StartOutcome}
    (hin : ∀ caller, s.InCall caller (seen caller)) (hunused : s.frameProcessQueue = [])
    (hs : frameFlow.Reachable (s.ahead seen lock queue))
    (hd : s.Drains (seen .handler).inHand entries lock queue drained)
    (hout : seen .handler = .out) (h : s.step (.startStreaming outcome) = some s') :
    s.Follows s' (.startStreaming outcome) seen entries lock queue := by
  unfold Follows
  obtain ⟨hguard, hstart⟩ := startStreaming_guard h
  by_cases hactive : s.streamActive = true
  · unfold startStreaming at hstart
    rw [if_pos hactive] at hstart
    obtain rfl := Option.some_inj.mp hstart
    refine ⟨lock, queue, drained, ?_, hd.perm, hd.cleared, hd.same⟩
    simp only [step, startStreaming, ahead_call, ahead_usbtv, ahead_streamActive]
    rw [if_pos ⟨hguard.1, by rw [hout, CallPc.call_out, hguard.2]⟩, if_pos hactive]
    rfl
  · -- no thread is in a call
    obtain ⟨hquiet, rfl, rfl, hnil⟩ := quiet hin hs hd hguard.2 (Bool.eq_false_iff.mpr hactive)
    rw [hnil, ahead_eq_self hquiet hunused, h]
    refine ⟨_, _, [],
      congrArg some (ahead_eq_self hquiet (step_frameProcessQueue h rfl hunused)).symm, ?_⟩
    rw [hquiet]
    exact drains_self _ _

/-- The threads at work on the USB device. -/
lemma follows_usb {e : UsbEvent}
    (hd : s.Drains (seen .handler).inHand entries lock queue drained)
    (hout : ∀ caller ∈ e.caller, seen caller = .out) (h : s.step (.usb e) = some s') :
    s.Follows s' (.usb e) seen entries lock queue := by
  unfold Follows
  simp only [step, usbStep, Option.bind_eq_some_iff, Option.map_eq_some_iff] at h
  obtain ⟨usb, husb, call, hnext, rfl⟩ := h
  obtain ⟨hnext', hstreaming, hdrain⟩ :=
    ahead_nextCall lock queue hout hnext
  refine ⟨lock, queue, drained, ?_, hd.perm, hd.cleared, fun hc => hd.same fun h => hc (hdrain h)⟩
  simp only [step, usbStep, ahead_usb, husb, Option.bind_some, hnext', Option.map_some,
    hstreaming]
  rfl

/-- `stopStreaming` outside the queue. -/
lemma follows_stop (hin : ∀ caller, s.InCall caller (seen caller))
    (hd : s.Drains (seen .handler).inHand entries lock queue drained)
    (hqueued : s.isQueued .stop = false) (hhandler : seen .handler = .out)
    (h : s.step .stop = some s') : s.Follows s' .stop seen entries lock queue := by
  unfold Follows
  have hcalls : s.call ≠ .stopEnqueue ∧ s.call ≠ .stopDrain := by
    simpa [isQueued, not_or] using hqueued
  obtain ⟨rfl, rfl⟩ := hd.same hcalls.2
  rw [hhandler]
  simp only [step, stopStep, ahead_call, hhandler, CallPc.call_out, ahead_usb, ahead_process,
    (hin .process).process_eq_absent, ahead_processThreadRunning] at h ⊢
  split at h
  · next hc =>
    split_ifs at h ⊢ with hclosed habsent hrunning
    · obtain rfl := Option.some_inj.mp h
      exact ⟨_, _, [], congrArg some (ahead_withCall hhandler _).symm, drains_self _ _⟩
    · obtain rfl := Option.some_inj.mp h
      refine ⟨_, _, [], ?_, drains_self _ _⟩
      rw [ahead, ahead, hhandler]
      rfl
    · obtain rfl := Option.some_inj.mp h
      exact ⟨_, _, [], congrArg some (ahead_withCall hhandler _).symm, drains_self _ _⟩
  · next hc => exact absurd hc hcalls.1
  · next hc =>
    split_ifs at h with hexited
    obtain rfl := Option.some_inj.mp h
    have hprocess : seen .process = .out :=
      (hin .process).process_out (by simp [hexited])
    rw [hprocess, CallPc.process_out, if_pos hexited]
    refine ⟨_, _, [], ?_, drains_self _ _⟩
    rw [ahead, ahead, hhandler, hprocess]
    rfl
  · next hc => exact absurd hc hcalls.2
  · next hc =>
    obtain rfl := Option.some_inj.mp h
    refine ⟨_, _, [], ?_, drains_self _ _⟩
    rw [ahead, ahead, hhandler]
    rfl
  · exact absurd h (by simp)

/-- `fetchFrameFromPool`. The queue is not being emptied, so that the locks are the same. -/
lemma follows_fetch (hin : ∀ caller, s.InCall caller (seen caller))
    (hs : frameFlow.Reachable (s.ahead seen lock queue))
    (hd : s.Drains (seen .handler).inHand entries lock queue drained)
    (hreap : seen .reap = .out) (h : s.step .fetch = some s') :
    s.Follows s' .fetch seen entries lock queue := by
  have hwf := wellFormed_of_reachable hs
  unfold Follows
  obtain ⟨index, pool, hindex, hpool, -⟩ := fetchStep_cases h
  have hcallback := hwf.callback (by simp [hreap, hindex])
  have hjoined := (hwf.not_joined (usb_wellFormed hs) hcallback).1
  have hdrain : s.call ≠ .stopDrain := fun hc =>
    hjoined ((hin .handler).call_eq_stopDrain.mpr hc)
  obtain ⟨rfl, rfl⟩ := hd.same hdrain
  rw [(hin .handler).inHand_eq hdrain]
  simp only [step, fetchStep, ahead_fetching, ahead_framePool, ahead_streamActive, ahead_lock,
    ahead_framePoolSize, hreap, CallPc.fetching_out, hindex, hpool] at h ⊢
  split_ifs at h ⊢ <;>
  · obtain rfl := Option.some_inj.mp h
    refine ⟨_, _, [], ?_, drains_self _ _⟩
    rw [ahead, ahead, hreap]
    rfl

/-- The process thread outside `getFrame`. -/
lemma follows_process (hd : s.Drains (seen .handler).inHand entries lock queue drained)
    (hprocess : seen .process = .out) (h : s.step .process = some s') :
    s.Follows s' .process seen entries lock queue := by
  unfold Follows
  simp only [step, processStep, ahead_process, hprocess, CallPc.process_out, ahead_useCallback,
    ahead_threadAttached, ahead_mOnFrameReceivedListener, ahead_processThreadRunning] at h ⊢
  split at h
  · next hpc =>
    obtain rfl := Option.some_inj.mp h
    exact ⟨lock, queue, drained, congrArg some (ahead_withProcess hprocess _).symm, hd.perm,
      hd.cleared, hd.same⟩
  · next r hpc =>
    obtain rfl := Option.some_inj.mp h
    refine ⟨lock, queue, drained, ?_, ?_⟩
    · split_ifs
      · exact congrArg some (ahead_withProcess hprocess _).symm
      · rw [ahead, ahead, hprocess]
        rfl
    · split_ifs <;> exact ⟨hd.perm, hd.cleared, hd.same⟩
  · next r hpc =>
    obtain rfl := Option.some_inj.mp h
    refine ⟨lock, queue, drained, ?_, ?_⟩
    · split_ifs
      · exact congrArg some (ahead_withProcess hprocess _).symm
      · rw [ahead, ahead, hprocess]
        rfl
    · split_ifs <;> exact ⟨hd.perm, hd.cleared, hd.same⟩
  · next r hpc =>
    obtain rfl := Option.some_inj.mp h
    refine ⟨lock, queue, drained, ?_, hd.perm, hd.cleared, hd.same⟩
    rw [ahead, ahead, hprocess]
    rfl
  · next r hpc =>
    obtain rfl := Option.some_inj.mp h
    exact ⟨lock, queue, drained, congrArg some (ahead_withProcess hprocess _).symm, hd.perm,
      hd.cleared, hd.same⟩
  all_goals exact absurd h (by simp)

/-- A consumer clears a lock, of a frame that the loop of `stopStreaming` has taken or of any. -/
lemma follows_returnFrameToPool {r : FrameRef}
    (hd : s.Drains (seen .handler).inHand entries lock queue drained)
    (h : s.step (.returnFrameToPool r) = some s') :
    s.Follows s' (.returnFrameToPool r) seen entries lock queue := by
  unfold Follows
  simp only [step, returnStep, clearFrameLock, ahead_returning, ahead_usbtv, ahead_framePool,
    ahead_framePoolSize] at h ⊢
  by_cases hr : r ∈ s.returning
  · rw [if_pos hr] at h ⊢
    cases husbtv : s.usbtv with
    | false =>
      simp only [husbtv, Bool.false_eq_true, if_false] at h ⊢
      obtain rfl := Option.some_inj.mp h
      exact ⟨lock, queue, drained, rfl, hd.perm, hd.cleared, hd.same⟩
    | true =>
      simp only [husbtv, if_true] at h ⊢
      cases hpool : s.framePool with
      | none =>
        simp only [hpool] at h ⊢
        obtain rfl := Option.some_inj.mp h
        exact ⟨lock, queue, drained, rfl, hd.perm, hd.cleared, hd.same⟩
      | some pool =>
        simp only [hpool] at h ⊢
        by_cases hindex : r.index < s.framePoolSize
        · rw [if_pos hindex] at h ⊢
          obtain rfl := Option.some_inj.mp h
          refine ⟨Function.update lock ⟨pool, r.index⟩ false, queue, drained, rfl, hd.perm,
            fun r' => ?_, fun hc => ⟨?_, (hd.same hc).2⟩⟩
          · by_cases hr' : r' = ⟨pool, r.index⟩
            · simp [hr']
            · simp only [Function.update_of_ne hr']
              exact hd.cleared r'
          · rw [← (hd.same hc).1]
        · rw [if_neg hindex] at h
          cases h
  · rw [if_neg hr] at h
    cases h

/-- **A step outside the queue is one with a list for it.** -/
lemma ahead_step (hin : ∀ caller, s.InCall caller (seen caller))
    (hunused : s.frameProcessQueue = []) (hs : frameFlow.Reachable (s.ahead seen lock queue))
    (hd : s.Drains (seen .handler).inHand entries lock queue drained)
    (hqueued : s.isQueued e = false) (hout : ∀ caller ∈ e.caller, seen caller = .out)
    (h : s.step e = some s') : s.Follows s' e seen entries lock queue := by
  unfold Follows
  cases e with
  | usbtvInitialize mFramePoolSize =>
    obtain ⟨hgone, rfl⟩ := usbtvInitialize_cases h
    obtain ⟨hquiet, rfl, rfl, hnil⟩ := quiet_of_disposed hin hs hd (hout .handler rfl) hgone
    rw [hnil, ahead_eq_self hquiet hunused, h]
    refine ⟨_, _, [], congrArg some (ahead_eq_self hquiet rfl).symm, ?_⟩
    rw [hquiet]
    exact drains_self _ _
  | dispose =>
    obtain ⟨hguard, rfl⟩ := dispose_cases h
    refine ⟨lock, queue, drained, ?_, hd.perm, hd.cleared, hd.same⟩
    simp only [step, ahead_call, ahead_usbtv, ahead_streamActive]
    rw [if_pos ⟨hguard.1, by rw [hout .handler rfl, CallPc.call_out, hguard.2.1], hguard.2.2⟩]
    rfl
  | setFrameListener listener => exact follows_setFrameListener hd (hout .handler rfl) h
  | startStreaming outcome => exact follows_startStreaming hin hunused hs hd (hout .handler rfl) h
  | stopStreaming =>
    obtain ⟨hguard, rfl⟩ := stopStreaming_cases h
    obtain ⟨rfl, rfl⟩ := hd.same (by rcases hguard.2 with h | h <;> simp [h])
    rw [hout .handler rfl]
    refine ⟨_, _, [], ?_, drains_self _ _⟩
    simp only [step, ahead_call, ahead_usbtv, hout .handler rfl, CallPc.call_out]
    rw [if_pos hguard, ahead, ahead, hout .handler rfl]
    rfl
  | usb e => exact follows_usb hd hout h
  | stop => exact follows_stop hin hd hqueued (hout .handler rfl) h
  | addCompleteFrameToQueue enqueued => cases hqueued
  | fetch => exact follows_fetch hin hs hd (hout .reap rfl) h
  | dequeue k => cases hqueued
  | process => exact follows_process hd (hout .process rfl) h
  | returnFrame r =>
    simp only [step, returnFrame, ahead_javaFrame, ahead_returning] at h ⊢
    split_ifs at h ⊢
    · obtain rfl := Option.some_inj.mp h
      exact ⟨lock, queue, drained, rfl, hd⟩
    · obtain rfl := Option.some_inj.mp h
      exact ⟨lock, queue, drained, rfl, hd.perm, hd.cleared, hd.same⟩
  | returnFrameToPool r => exact follows_returnFrameToPool hd h

/-- A step outside the queue leaves the threads where they are that are in a call. -/
lemma inCall_step (hin : ∀ caller, s.InCall caller (seen caller))
    (hs : frameFlow.Reachable (s.ahead seen lock queue)) (hqueued : s.isQueued e = false)
    (hout : ∀ caller ∈ e.caller, seen caller = .out) (hinit : ∀ size, e ≠ .usbtvInitialize size)
    (h : s.step e = some s') (caller : Caller) : s'.InCall caller (seen caller) := by
  by_cases he : e.caller = some caller
  · rw [hout caller he]
    exact inCall_out
  cases caller with
  | handler => exact (hin .handler).handler_of (step_call h he)
  | process => exact (hin .process).process_of (step_process h he hinit)
  | reap =>
    have husb : (s.ahead seen lock queue).usb.WellFormed := usb_wellFormed hs
    rw [ahead_usb] at husb
    refine (hin .reap).reap_of fun hcallback =>
      step_reap husb h he hinit hqueued (fun hidle => ?_) hcallback
    -- an idle driver that is not active has no reap thread
    by_contra hactive
    have hhandler : seen .handler = .out :=
      (hin .handler).handler_out (by rw [hidle]; exact nofun) (by rw [hidle]; exact nofun)
    have hclosed := ((wellFormed_of_reachable hs).inactive (Bool.eq_false_iff.mpr hactive) (by
      rw [ahead_call, hhandler, hidle]
      rfl)).2
    rcases husb.reapIdle (.inl hclosed) with hreap | hreap <;> rw [hreap] at hcallback <;>
      cases hcallback

/-! ## Calls of the queue -/

/-- While the loop of `stopStreaming` is at work, no other thread comes to the queue. -/
lemma not_dequeue_of_stopDrain (hin : ∀ caller, s.InCall caller (seen caller))
    (hs : frameFlow.Reachable (s.ahead seen lock queue)) (hcall : s.call = .stopDrain) :
    s.process ≠ .dequeue ∧ s.usb.reap.isCallback ≠ true := by
  have hwf := wellFormed_of_reachable hs
  have hdrain : (s.ahead seen lock queue).call = .stopDrain :=
    (hin .handler).call_eq_stopDrain.mpr hcall
  refine ⟨fun hprocess => ?_, fun hcallback => ?_⟩
  · have habsent := (hin .process).process_eq_absent.mp (hwf.joined (.inl hdrain))
    rw [hprocess] at habsent
    cases habsent
  · exact (hwf.not_joined (usb_wellFormed hs) hcallback).1 hdrain

variable {τ : Type*} {u : τ} {l l' : List (τ × Option FrameRef)}
  {pc' : CallPc (Option FrameRef)} {t : FrameFlow}

/-- A thread that goes on within its call stands where it called the queue. -/
lemma InCall.within (hin : s.InCall caller pc) (h : Within u l pc l' pc')
    (hrefuse : ¬ (caller = .handler ∧ pc' = .enqueued false)) : s.InCall caller pc' := by
  cases h with
  | stay => exact hin
  | append item =>
    cases caller with
    | handler => exact ⟨hin.1, rfl⟩
    | reap => exact ⟨hin.1, hin.2.1⟩
    | process => exact hin.elim
  | refuse item =>
    cases caller with
    | handler => exact absurd ⟨rfl, rfl⟩ hrefuse
    | reap => exact ⟨hin.1, hin.2.1⟩
    | process => exact hin.elim
  | commit =>
    cases caller with
    | handler => exact hin
    | reap => exact hin.elim
    | process => cases hin.2
  | take k x hx =>
    cases caller with
    | handler => exact hin
    | reap => exact hin.elim
    | process => exact ⟨hin.1, nofun⟩
  | fail =>
    cases caller with
    | handler => exact hin
    | reap => exact hin.elim
    | process => cases hin.2

/-- What the reap thread is seen to do. -/
lemma ahead_update_reap :
    s.ahead (Function.update seen .reap pc) lock queue =
      { s.ahead seen lock queue with fetching := pc.fetching s.fetching } := rfl

/-- What the process thread is seen to do. -/
lemma ahead_update_process :
    s.ahead (Function.update seen .process pc) lock queue =
      { s.ahead seen lock queue with process := pc.process s.process } := rfl

/-- What the handler thread is seen to do. -/
lemma ahead_update_handler :
    s.ahead (Function.update seen .handler pc) lock queue =
      { s.ahead seen lock queue with call := pc.call s.call } := rfl

/-- An entry is appended to the list. -/
lemma Drains.append (hd : s.Drains [] entries lock queue drained) (entry : Option FrameRef) :
    s.Drains [] (entries ++ [entry]) lock (queue ++ [entry]) drained := by
  refine ⟨?_, hd.cleared, fun hc => ⟨(hd.same hc).1, by rw [(hd.same hc).2]⟩⟩
  have hperm := hd.perm.append_right [entry]
  simpa only [List.nil_append, List.append_assoc] using hperm

/-- The loop of `stopStreaming` takes an entry. -/
lemma Drains.take {k : ℕ} {entry : Option FrameRef} (hd : s.Drains [] entries lock queue drained)
    (hk : entries[k]? = some entry) (hcall : s.call = .stopDrain) :
    s.Drains [entry] (entries.eraseIdx k) lock queue drained := by
  refine ⟨hd.perm.trans (List.Perm.append_left _ ?_), hd.cleared, fun hc => absurd hcall hc⟩
  obtain ⟨hlt, rfl⟩ := List.getElem?_eq_some_iff.mp hk
  exact (List.getElem_cons_eraseIdx_perm hlt).symm

/-- **A step within a call of the queue** is a step at the list, or none. -/
lemma matchedBy_within (hin : ∀ caller, s.InCall caller (seen caller))
    (ht : frameFlow.Reachable t) (hm : s.MatchedBy seen (l.map Prod.snd) t)
    (h : Within u l (seen caller) l' pc')
    (hrefuse : ¬ (caller = .handler ∧ pc' = .enqueued false)) :
    s.MatchedBy (Function.update seen caller pc') (l'.map Prod.snd) t ∨
      ∃ e t', t.isQueued e = true ∧ t.step e = some t' ∧
        s.MatchedBy (Function.update seen caller pc') (l'.map Prod.snd) t' := by
  obtain ⟨lock, queue, drained, rfl, hd⟩ := hm
  have hcaller := hin caller
  generalize hpc : seen caller = pc at h hcaller
  cases h with
  | stay =>
    left
    rw [← hpc, Function.update_eq_self]
    exact ⟨lock, queue, drained, rfl, hd⟩
  | append item =>
    right
    cases caller with
    | handler =>
      obtain ⟨hcall, rfl⟩ := hcaller
      rw [hpc] at hd
      refine ⟨.stop, _, ?_, ?_, lock, queue ++ [none], drained, rfl, ?_⟩
      · simp [isQueued, hpc, CallPc.call, hcall]
      · simp only [step, stopStep, ahead_call, hpc, CallPc.call, hcall]
        rfl
      · rw [List.map_append]
        exact hd.append none
    | reap =>
      obtain ⟨hcallback, hfetching, r, rfl, hr⟩ := hcaller
      have hdrain : s.call ≠ .stopDrain := fun hc =>
        (not_dequeue_of_stopDrain hin ht hc).2 hcallback
      rw [(hin .handler).inHand_eq hdrain] at hd
      refine ⟨.addCompleteFrameToQueue true, _, rfl, ?_, lock, queue ++ [some r], drained,
        rfl, ?_⟩
      · simp only [step, addCompleteFrameToQueue, ahead_usbInputFrame, hr, ahead_usb,
          ahead_fetching, hpc, CallPc.fetching, hfetching, hcallback, and_self, if_true]
        rw [← hr]
        rfl
      · rw [List.map_append]
        show s.Drains (seen .handler).inHand _ _ _ _
        rw [(hin .handler).inHand_eq hdrain]
        exact hd.append (some r)
    | process => exact hcaller.elim
  | refuse item =>
    left
    cases caller with
    | handler => exact absurd ⟨rfl, rfl⟩ hrefuse
    | reap =>
      refine ⟨lock, queue, drained, ?_, hd⟩
      rw [ahead_update_reap, ahead, hpc]
      rfl
    | process => exact hcaller.elim
  | commit =>
    left
    cases caller with
    | handler =>
      rw [hpc] at hd
      refine ⟨lock, queue, drained, ?_, hd⟩
      rw [ahead_update_handler, ahead, hpc]
      rfl
    | reap => exact hcaller.elim
    | process => cases hcaller.2
  | take k x hx =>
    have hentry : (l.map Prod.snd)[k]? = some x.2 := by rw [List.getElem?_map, hx, Option.map_some]
    rw [← List.eraseIdx_map]
    cases caller with
    | handler =>
      left
      rw [hpc] at hd
      refine ⟨lock, queue, drained, ?_, hd.take hentry hcaller⟩
      rw [ahead_update_handler, ahead, hpc]
      rfl
    | reap => exact hcaller.elim
    | process =>
      right
      have hdrain : s.call ≠ .stopDrain := fun hc =>
        (not_dequeue_of_stopDrain hin ht hc).1 hcaller.1
      obtain ⟨rfl, rfl⟩ := hd.same hdrain
      refine ⟨.dequeue k, _, rfl, ?_, s.lock, (l.map Prod.snd).eraseIdx k, [], rfl, ?_⟩
      · simp only [step, dequeueStep, ahead_process, hpc, CallPc.process, hcaller.1, if_true,
          ahead_frameProcessQueue, hentry, Option.map_some]
        cases x.2 <;> rfl
      · show s.Drains (seen .handler).inHand _ _ _ _
        rw [(hin .handler).inHand_eq hdrain]
        exact drains_self _ _
  | fail =>
    left
    cases caller with
    | handler =>
      rw [hpc] at hd
      refine ⟨lock, queue, drained, ?_, hd⟩
      rw [ahead_update_handler, ahead, hpc]
      rfl
    | reap => exact hcaller.elim
    | process => cases hcaller.2

/-- A thread calls `enqueue` where it calls it. -/
lemma inCall_of_enqueue {item : Option FrameRef} (h : s.calls caller (.enqueue item) = true) :
    s.InCall caller (.enqueuing item) := by
  cases caller with
  | handler =>
    cases item with
    | none => exact ⟨by simpa [calls] using h, rfl⟩
    | some r => cases h
  | reap =>
    cases item with
    | none => cases h
    | some r =>
      simp only [calls, decide_eq_true_eq] at h
      exact ⟨h.1, h.2.1, r, rfl, h.2.2⟩
  | process => cases h

/-- A thread that dequeues is the process thread in `getFrame`, or the handler thread in the loop of
`stopStreaming`. -/
lemma dequeues_of_calls {blocking : Bool} (h : s.calls caller (.dequeue blocking) = true) :
    caller = .process ∧ blocking = true ∧ s.process = .dequeue ∨
      caller = .handler ∧ blocking = false ∧ s.call = .stopDrain := by
  cases caller with
  | handler =>
    cases blocking with
    | true => cases h
    | false => exact .inr ⟨rfl, rfl, by simpa [calls] using h⟩
  | reap => cases h
  | process =>
    cases blocking with
    | true => exact .inl ⟨rfl, rfl, by simpa [calls] using h⟩
    | false => cases h

/-- A thread calls `wait_dequeue` or `try_dequeue` where it calls it. -/
lemma inCall_of_dequeue {blocking : Bool} (h : s.calls caller (.dequeue blocking) = true) :
    s.InCall caller (.dequeuing !blocking) := by
  rcases dequeues_of_calls h with ⟨rfl, rfl, hprocess⟩ | ⟨rfl, rfl, hcall⟩
  · exact ⟨hprocess, rfl⟩
  · exact hcall

/-- A call of the queue is not seen at the list. -/
lemma MatchedBy.start (hm : s.MatchedBy seen entries t) (hout : seen caller = .out)
    (hstart : (∃ item, pc' = .enqueuing item) ∨ ∃ mayFail, pc' = .dequeuing mayFail) :
    s.MatchedBy (Function.update seen caller pc') entries t := by
  obtain ⟨lock, queue, drained, rfl, hd⟩ := hm
  have hsame : (∀ own, pc'.fetching own = own) ∧ (∀ own, pc'.process own = own) ∧
      (∀ own, pc'.call own = own) ∧ pc'.inHand = [] := by
    rcases hstart with ⟨item, rfl⟩ | ⟨mayFail, rfl⟩ <;>
      exact ⟨fun _ => rfl, fun _ => rfl, fun _ => rfl, rfl⟩
  obtain ⟨hfetching, hprocess, hcall, hhand⟩ := hsame
  cases caller with
  | handler =>
    rw [hout] at hd
    refine ⟨lock, queue, drained, ?_, ?_⟩
    · rw [ahead_update_handler, ahead, hout, hcall]
      rfl
    · rw [Function.update_self, hhand]
      exact hd
  | reap =>
    refine ⟨lock, queue, drained, ?_, hd⟩
    rw [ahead_update_reap, ahead, hout, hfetching]
    rfl
  | process =>
    refine ⟨lock, queue, drained, ?_, hd⟩
    rw [ahead_update_process, ahead, hout, hprocess]
    rfl

/-! ## Returns -/

/-- What a thread does that is in a call of the driver, when its call of the queue returns. -/
inductive Returned (s : FrameFlow) : Caller → CallPc (Option FrameRef) → FrameFlow → Prop
  | fetch : Returned s .reap (.enqueued true) { s with fetching := some 0 }
  | keep : Returned s .reap (.enqueued false) s
  | join (success : Bool) : Returned s .handler (.enqueued success) { s with call := .stopJoin }
  | process (entry : Option FrameRef) :
    Returned s .process (.dequeued (some entry)) { s with process := .ofEntry entry }
  | clear (entry : Option FrameRef) :
    Returned s .handler (.dequeued (some entry)) (s.clearLock entry)
  | stop {s' : FrameFlow} (h : s.stopStep = some s') : Returned s .handler (.dequeued none) s'

variable {place : QueuePc τ (Option FrameRef)} {q : BlockingConcurrentQueue τ (Option FrameRef)}

/-- A thread that returns does nothing else. -/
lemma returned_of_returns (hin : s.InCall caller (place.seen q))
    (hplace : (∃ success, place = .enqueued success) ∨ ∃ result, place = .done result)
    (h : s.returns caller place = some s') : s.Returned caller (place.seen q) s' := by
  rcases hplace with ⟨success, rfl⟩ | ⟨result, rfl⟩
  · cases caller with
    | handler =>
      obtain rfl := Option.some_inj.mp h
      exact .join success
    | reap =>
      cases success with
      | false =>
        obtain rfl := Option.some_inj.mp h
        exact .keep
      | true =>
        obtain rfl := Option.some_inj.mp h
        exact .fetch
    | process => exact hin.elim
  · cases caller with
    | handler =>
      cases result with
      | none => exact .stop h
      | some entry =>
        obtain rfl := Option.some_inj.mp h
        exact .clear entry
    | reap => exact hin.elim
    | process =>
      cases result with
      | none => exact absurd rfl hin.2
      | some entry =>
        obtain rfl := Option.some_inj.mp h
        exact .process entry

/-- The loop of `stopStreaming` ends. -/
lemma stopStep_of_drained (hcall : s.call = .stopDrain) (h : s.stopStep = some s') :
    s'.process = s.process ∧ s'.frameProcessQueue = [] := by
  simp only [stopStep, hcall] at h
  split at h
  · cases h
  · cases h
    exact ⟨rfl, rfl⟩
  · cases h
    exact ⟨rfl, rfl⟩

/-- A thread that returns leaves the others where they were. -/
lemma Returned.inCall (h : s.Returned caller pc s') (hin : ∀ caller, s.InCall caller (seen caller))
    (ht : frameFlow.Reachable (s.ahead seen lock queue)) (hpc : seen caller = pc)
    (hunused : s.frameProcessQueue = []) :
    (∀ other, s'.InCall other (Function.update seen caller .out other)) ∧
      s'.frameProcessQueue = [] := by
  cases h with
  | fetch =>
    refine ⟨fun other => ?_, hunused⟩
    cases other with
    | handler => exact (hin .handler).handler_of rfl
    | reap => trivial
    | process => exact (hin .process).process_of fun h => h
  | keep =>
    refine ⟨fun other => ?_, hunused⟩
    cases other with
    | handler => exact hin .handler
    | reap => trivial
    | process => exact hin .process
  | join success =>
    refine ⟨fun other => ?_, hunused⟩
    cases other with
    | handler => trivial
    | reap => exact (hin .reap).reap_of fun h => ⟨h, rfl, rfl⟩
    | process => exact (hin .process).process_of fun h => h
  | process entry =>
    refine ⟨fun other => ?_, hunused⟩
    cases other with
    | handler => exact (hin .handler).handler_of rfl
    | reap => exact (hin .reap).reap_of fun h => ⟨h, rfl, rfl⟩
    | process => trivial
  | clear entry =>
    have hrest : (s.clearLock entry).process = s.process ∧ (s.clearLock entry).usb = s.usb ∧
        (s.clearLock entry).fetching = s.fetching ∧
        (s.clearLock entry).usbInputFrame = s.usbInputFrame ∧
        (s.clearLock entry).frameProcessQueue = s.frameProcessQueue := by
      cases entry <;> exact ⟨rfl, rfl, rfl, rfl, rfl⟩
    obtain ⟨hprocess, husb, hfetching, hinput, hqueue⟩ := hrest
    refine ⟨fun other => ?_, hqueue.trans hunused⟩
    cases other with
    | handler => trivial
    | reap => exact (hin .reap).reap_of fun h => ⟨by rw [husb]; exact h, hfetching, hinput⟩
    | process => exact (hin .process).process_of fun h => hprocess.trans h
  | stop h =>
    have hcall : s.call = .stopDrain := by
      have hhandler := hin .handler
      rwa [hpc] at hhandler
    obtain ⟨hprocess, hqueue⟩ := stopStep_of_drained hcall h
    refine ⟨fun other => ?_, hqueue⟩
    cases other with
    | handler => trivial
    | reap =>
      show s'.InCall .reap (seen .reap)
      rw [(hin .reap).reap_out (not_dequeue_of_stopDrain hin ht hcall).2]
      trivial
    | process => exact (hin .process).process_of fun h => hprocess.trans h

/-- The loop of `stopStreaming` clears a lock. -/
lemma Drains.clear {entry : Option FrameRef}
    (hd : s.Drains [entry] entries lock queue drained) (hcall : s.call = .stopDrain) :
    (s.clearLock entry).Drains [] entries lock queue (entry :: drained) := by
  have hcall' : (s.clearLock entry).call = .stopDrain := by cases entry <;> exact hcall
  refine ⟨?_, fun r => ?_, fun hc => absurd hcall' hc⟩
  · exact hd.perm.trans List.perm_middle
  · have hcleared := hd.cleared r
    cases entry with
    | none => simpa [clearLock] using hcleared
    | some r' =>
      by_cases hr : r = r'
      · simp [clearLock, hr]
      · simpa [clearLock, Function.update_of_ne hr, hr] using hcleared

variable (seen) in
/-- Where nothing is left in the queue, the list is emptied as what was taken from it was. -/
lemma Drains.drainQueue (hd : s.Drains [] [] lock queue drained)
    (hunused : s.frameProcessQueue = []) :
    (s.ahead seen lock queue).drainQueue = s.drainQueue.ahead seen s.drainQueue.lock [] := by
  have hlock : (fun r => lock r && !queue.contains (some r)) =
      fun r => s.lock r && !s.frameProcessQueue.contains (some r) := by
    funext r
    have hcontains : queue.contains (some r) = drained.contains (some r) := by
      have hperm : queue.Perm drained := by simpa using hd.perm
      rw [Bool.eq_iff_iff, List.contains_iff_mem, List.contains_iff_mem, hperm.mem_iff]
    rw [hunused, hcontains, ← hd.cleared r]
    simp
  show ({ s.ahead seen lock queue with
      lock := fun r => lock r && !queue.contains (some r)
      frameProcessQueue := [] } : FrameFlow) = _
  rw [hlock]
  rfl

/-- **A return from the queue** is not seen at the list, but for that of the last `try_dequeue`. -/
lemma Returned.matchedBy (h : s.Returned caller pc s')
    (hin : ∀ caller, s.InCall caller (seen caller)) (ht : frameFlow.Reachable t)
    (hm : s.MatchedBy seen entries t) (hpc : seen caller = pc)
    (hunused : s.frameProcessQueue = [])
    (hnil : caller = .handler → pc = .dequeued none → entries = []) :
    s'.MatchedBy (Function.update seen caller .out) entries t ∨
      ∃ e t', t.isQueued e = true ∧ t.step e = some t' ∧
        s'.MatchedBy (Function.update seen caller .out) entries t' := by
  obtain ⟨lock, queue, drained, rfl, hd⟩ := hm
  cases h with
  | fetch =>
    refine .inl ⟨lock, queue, drained, ?_, hd.perm, hd.cleared, hd.same⟩
    rw [ahead_update_reap, ahead, hpc]
    rfl
  | keep =>
    refine .inl ⟨lock, queue, drained, ?_, hd⟩
    rw [ahead_update_reap, ahead, hpc]
    rfl
  | join success =>
    have hcall : s.call = .stopEnqueue := by
      have hhandler := hin .handler
      rw [hpc] at hhandler
      exact hhandler.1
    rw [hpc] at hd
    refine .inl ⟨lock, queue, drained, ?_, hd.perm, hd.cleared, fun _ => hd.same ?_⟩
    · rw [ahead_update_handler, ahead, hpc]
      rfl
    · rw [hcall]
      exact nofun
  | process entry =>
    refine .inl ⟨lock, queue, drained, ?_, hd.perm, hd.cleared, hd.same⟩
    rw [ahead_update_process, ahead, hpc]
    rfl
  | clear entry =>
    have hcall : s.call = .stopDrain := by
      have hhandler := hin .handler
      rwa [hpc] at hhandler
    rw [hpc] at hd
    refine .inl ⟨lock, queue, entry :: drained, ?_, hd.clear hcall⟩
    rw [ahead_update_handler, ahead, hpc]
    cases entry <;> rfl
  | stop h =>
    have hcall : s.call = .stopDrain := by
      have hhandler := hin .handler
      rwa [hpc] at hhandler
    rw [hpc, hnil rfl rfl] at hd
    have hdrain := hd.drainQueue seen hunused
    rw [hnil rfl rfl]
    refine .inr ⟨.stop, s'.ahead (Function.update seen .handler .out) s'.lock [], ?_, ?_, s'.lock,
      [], [], rfl, drains_self _ _⟩
    · simp [isQueued, hpc, CallPc.call, hcall]
    simp only [step, stopStep, ahead_call, hpc, CallPc.call, hcall, ahead_usbInputFrame,
      hdrain] at h ⊢
    split at h
    · cases h
    · obtain rfl := Option.some_inj.mp h
      rfl
    · obtain rfl := Option.some_inj.mp h
      rfl

end FrameFlow

end UsbTv
