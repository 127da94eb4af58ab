import UsbTv.Lib.Shutdown
import UsbTv.Flow.Pointers

set_option relaxedAutoImplicit false
set_option autoImplicit false

/-!
# Stopping the process thread

Once the reap thread is joined, `stopStreaming` shuts the process thread down: it clears
`_processThreadRunning`, enqueues a null frame, joins the thread and empties the queue. This is the
handshake of `Shutdown`, and the rest of the driver does not get in its way.

## Main definitions

* `UsbTv.FrameFlow.stopCall` — one call of `stopStreaming`, and how often the process thread
  dequeues after its flag is cleared.
* `UsbTv.FrameFlow.toShutdown` — the call is a shutdown of the process thread.

## Main results

* `UsbTv.FrameFlow.running_of_reachable` — a stop finds the process thread running.
* `UsbTv.FrameFlow.stopCall_refines` — the call refines the handshake.
* `UsbTv.FrameFlow.handshake_of_stopCall` — what this says of the driver.
-/

namespace UsbTv

/-- Where the process thread stands as a worker. -/
def ProcessPc.worker : ProcessPc → Worker
  | test => .test
  | dequeue => .waiting
  | invoke _ | callback _ | unlock _ | deliver _ => .working
  | absent | exited => .ended

/-- Where `stopStreaming` stands in the shutdown of the process thread. -/
def DriverCall.stopper : DriverCall → Stopper
  | stopReap => .clear
  | stopEnqueue => .enqueue
  | stopJoin => .join
  | stopDrain => .drain
  | stopFree | idle | initUrbs | readUrbs | failed | stopUrbs => .returned

namespace FrameFlow

/-! ## The thread to be stopped -/

/-- Unless it is being stopped, the process thread runs and its flag is set. -/
def Running (s : FrameFlow) : Prop :=
  s.process ≠ .absent → s.call ≠ .stopEnqueue → s.call ≠ .stopJoin →
    s.processThreadRunning = true ∧ s.process ≠ .exited

/-- A step that leaves the process thread and its flag alone, and comes from no stop of the thread,
keeps it running. -/
lemma Running.of_call {s s' : FrameFlow} (hs : Running s) (hprocess : s'.process = s.process)
    (hrunning : s'.processThreadRunning = s.processThreadRunning)
    (hcall : s.call = .stopEnqueue ∨ s.call = .stopJoin → s'.call = s.call) : Running s' := by
  intro hne henqueue hjoin
  rw [hprocess] at hne ⊢
  rw [hrunning]
  refine hs hne (fun hc => henqueue ?_) fun hc => hjoin ?_
  · rw [hcall (.inl hc), hc]
  · rw [hcall (.inr hc), hc]

/-- The steps of the process thread keep it running. -/
lemma running_processStep {s s' : FrameFlow} (hs : Running s) (h : s.processStep = some s') :
    Running s' := by
  have hgo : ∀ pc, s.process ≠ .absent → (s.processThreadRunning = true → pc ≠ .exited) →
      Running { s with process := pc } := by
    intro pc hne hpc _ henqueue hjoin
    obtain ⟨hrunning, -⟩ := hs hne henqueue hjoin
    exact ⟨hrunning, hpc hrunning⟩
  unfold processStep at h
  split at h
  · next hpc =>
    obtain rfl := Option.some_inj.mp h
    exact hgo _ (by simp [hpc]) fun hrunning => by simp [hrunning]
  · next r hpc =>
    split_ifs at h
    · obtain rfl := Option.some_inj.mp h
      exact hgo _ (by simp [hpc]) (by simp)
    · obtain rfl := Option.some_inj.mp h
      exact hgo .test (by simp [hpc]) (by simp)
  · next r hpc =>
    split_ifs at h
    · obtain rfl := Option.some_inj.mp h
      exact hgo _ (by simp [hpc]) (by simp)
    · obtain rfl := Option.some_inj.mp h
      exact hgo .test (by simp [hpc]) (by simp)
  · next r hpc =>
    obtain rfl := Option.some_inj.mp h
    exact hgo (.deliver r) (by simp [hpc]) (by simp)
  · next r hpc =>
    obtain rfl := Option.some_inj.mp h
    exact hgo _ (by simp [hpc]) (by simp)
  all_goals exact absurd h (by simp)

/-- **Each step keeps the process thread running**, but those that stop it. -/
lemma running_step {s s' : FrameFlow} {e : FlowEvent} (hw : WellFormed s) (hs : Running s)
    (h : s.step e = some s') : Running s' := by
  cases e with
  | usbtvInitialize mFramePoolSize =>
    obtain ⟨-, rfl⟩ := usbtvInitialize_cases h
    intro hne
    simp [construct] at hne
  | dispose =>
    obtain ⟨-, rfl⟩ := dispose_cases h
    exact hs
  | setFrameListener listener =>
    obtain rfl | ⟨useCallback, rfl⟩ := setFrameListener_cases h
    · exact hs
    · exact hs
  | startStreaming outcome =>
    obtain ⟨hguard, h⟩ := startStreaming_guard h
    rcases hw.startStreaming_cases hguard.2 h with ⟨streaming, rfl⟩ | ⟨-, streaming, rfl⟩ |
      ⟨success, attached, -, -, -, rfl⟩
    · exact hs
    · exact hs
    · exact fun _ _ _ => ⟨rfl, by simp [started]⟩
  | stopStreaming =>
    obtain ⟨hguard, rfl⟩ := stopStreaming_cases h
    refine hs.of_call rfl rfl fun hc => ?_
    rcases hguard.2 with hcall | hcall <;> simp [hcall] at hc
  | usb e =>
    obtain ⟨usb, call, streaming, -, hcall, rfl⟩ := usbStep_cases h
    refine hs.of_call rfl rfl fun hc => ?_
    rcases nextCall_cases hcall with heq | ⟨hpc, -⟩ | ⟨hpc, -⟩ | ⟨hpc, -⟩
    · exact heq
    all_goals rcases hc with hc | hc <;> exact absurd (hc.symm.trans hpc) (by simp)
  | stop =>
    rcases stopStep_cases h with ⟨-, -, ⟨habsent, rfl⟩ | ⟨-, rfl⟩ | ⟨-, rfl⟩⟩ | ⟨-, rfl⟩ |
      ⟨-, -, rfl⟩ | ⟨hcall, lock, rfl⟩ | ⟨hcall, rfl⟩
    · exact fun hne => absurd habsent hne
    · exact fun _ henqueue => absurd rfl henqueue
    · exact fun _ _ hjoin => absurd rfl hjoin
    · exact fun _ _ hjoin => absurd rfl hjoin
    · exact fun hne => absurd rfl hne
    · exact fun hne => absurd (hw.joined (.inl hcall)) hne
    · exact fun hne => absurd (hw.joined (.inr hcall)) hne
  | addCompleteFrameToQueue enqueued =>
    obtain ⟨r, -, -, -, rfl | rfl⟩ := addCompleteFrameToQueue_cases h <;> exact hs
  | fetch =>
    obtain ⟨index, pool, -, -, ⟨-, -, rfl⟩ | ⟨next, -, rfl⟩ | ⟨-, rfl⟩⟩ := fetchStep_cases h <;>
      exact hs
  | dequeue k =>
    simp only [step, dequeueStep] at h
    split_ifs at h with hpc
    obtain ⟨entry, -, rfl⟩ := Option.map_eq_some_iff.mp h
    intro _ henqueue hjoin
    refine ⟨(hs (by simp [hpc]) henqueue hjoin).1, ?_⟩
    cases entry <;> simp
  | process => exact running_processStep hs h
  | returnFrame r =>
    obtain ⟨-, rfl | ⟨-, rfl⟩⟩ := returnFrame_cases h <;> exact hs
  | returnFrameToPool r =>
    obtain ⟨-, ⟨-, rfl⟩ | ⟨pool, -, -, rfl⟩⟩ := returnStep_cases h <;> exact hs

/-- **A stop finds the process thread running.** -/
lemma running_of_reachable {C : FrameFlow → FlowEvent → Prop} {s : FrameFlow}
    (h : frameFlow.ReachableUnder C s) : Running s := by
  refine StepSystem.ReachableUnder.invariant (I := Running) ?_
    (fun s e s' hr hs _ hstep => running_step (wellFormed_of_reachable hr) hs hstep) h
  rintro s rfl hne
  exact absurd rfl hne

/-! ## One call of `stopStreaming` -/

/-- The number of entries dequeued since `_processThreadRunning` was cleared, after one more
event. -/
def countDequeue (s : FrameFlow) (dequeued : ℕ) : FlowEvent → ℕ
  | .dequeue _ => if s.processThreadRunning then dequeued else dequeued + 1
  | _ => dequeued

/-- The interleavings of one call of `stopStreaming` from the state `s₀` to its return, and the
number of entries that the process thread dequeues after its flag is cleared. -/
def stopCall (s₀ : FrameFlow) : StepSystem (FrameFlow × ℕ) FlowEvent where
  Init x := x = (s₀, 0)
  step x e :=
    if x.1.call = .idle then none
    else (x.1.step e).map fun s => (s, x.1.countDequeue x.2 e)

/-- `stopStreaming` is past the reap thread, or has returned, and no other call is at work. -/
structure Stopping (s : FrameFlow) : Prop where
  usbtv : s.usbtv = true
  call : s.call = .stopReap ∨ s.call = .stopEnqueue ∨ s.call = .stopJoin ∨ s.call = .stopDrain ∨
    s.call = .stopFree ∨ s.call = .idle
  closed : s.usb.handler = .closed
  reapIdle : s.usb.ReapIdle
  /-- There is a process thread until it is joined. -/
  thread : s.process = .absent ↔ s.call = .stopDrain ∨ s.call = .stopFree ∨ s.call = .idle
  running : s.call = .stopReap → s.processThreadRunning = true

/-- A step that leaves the call and the USB device alone goes on with the stop. -/
lemma Stopping.of_eq {s s' : FrameFlow} (hs : Stopping s) (husbtv : s'.usbtv = s.usbtv)
    (hcall : s'.call = s.call) (husb : s'.usb = s.usb)
    (hprocess : s'.process = .absent ↔ s.process = .absent)
    (hrunning : s'.processThreadRunning = s.processThreadRunning) : Stopping s' := by
  refine ⟨husbtv.trans hs.usbtv, ?_, ?_, ?_, ?_, fun hreap => ?_⟩
  · rw [hcall]
    exact hs.call
  · rw [husb]
    exact hs.closed
  · rw [husb]
    exact hs.reapIdle
  · rw [hcall]
    exact hprocess.trans hs.thread
  · exact hrunning.trans (hs.running (hcall.symm.trans hreap))

/-- What the handshake sees of a call of `stopStreaming`. -/
def toShutdown (x : FrameFlow × ℕ) : Shutdown FrameRef where
  running := x.1.processThreadRunning
  queue := x.1.frameProcessQueue
  worker := x.1.process.worker
  stopper := x.1.call.stopper
  taken := x.2

/-- A step of the call is one of the handshake, or is not seen there. -/
def Shuts (x x' : FrameFlow × ℕ) : Prop :=
  toShutdown x' = toShutdown x ∨ ∃ e, (toShutdown x).step e = some (toShutdown x')

/-- Past the reap thread the USB device only completes URBs. -/
lemma stopping_usbStep {s s' : FrameFlow} {e : UsbEvent} (hs : Stopping s)
    (h : s.usbStep e = some s') (n : ℕ) : Stopping s' ∧ Shuts (s, n) (s', n) := by
  obtain ⟨usb, call, streaming, husb, hcall, rfl⟩ := usbStep_cases h
  have hreap : s.usb.reap ≠ .reaping := by rcases hs.reapIdle with h | h <;> simp [h]
  cases e with
  | initIsoUrbs answer =>
    rcases hs.call with hc | hc | hc | hc | hc | hc <;> simp [nextCall, hc] at hcall
  | startUrbAsyncRead =>
    rcases hs.call with hc | hc | hc | hc | hc | hc <;> simp [nextCall, hc] at hcall
  | stop =>
    rcases hs.call with hc | hc | hc | hc | hc | hc <;> simp [nextCall, hc] at hcall
  | handler =>
    have hpc := hs.closed
    rcases UsbThreads.handlerStep_cases husb with h | h | h | h | h | h <;>
      exact absurd (hpc.symm.trans h.1) (by simp)
  | reap answer =>
    rcases UsbThreads.reapStep_cases husb with ⟨h, -⟩ | ⟨urb, ⟨h, -⟩ | ⟨h, -⟩ | ⟨h, -⟩ | ⟨h, -⟩⟩ <;>
      rcases hs.reapIdle with hi | hi <;> exact absurd (hi.symm.trans h) (by simp)
  | reapUrb urb => exact absurd (UsbThreads.step_cases husb).1 hreap
  | reapError ret => exact absurd (UsbThreads.step_cases husb).1 hreap
  | complete urb =>
    obtain ⟨-, rfl⟩ := UsbThreads.step_cases husb
    obtain rfl := Option.some_inj.mp hcall
    exact ⟨⟨hs.usbtv, hs.call, hs.closed, hs.reapIdle, hs.thread, hs.running⟩, .inl rfl⟩

/-- The steps of `stopStreaming` are those of the handshake. -/
lemma stopping_stopStep {s s' : FrameFlow} (hs : Stopping s) (h : s.stopStep = some s') (n : ℕ) :
    Stopping s' ∧ Shuts (s, n) (s', n) := by
  have hthread := hs.thread
  rcases stopStep_cases h with ⟨hcall, -, ⟨habsent, rfl⟩ | ⟨hne, rfl⟩ | ⟨hne, rfl⟩⟩ | ⟨hcall, rfl⟩ |
    ⟨hcall, hexited, rfl⟩ | ⟨hcall, lock, rfl⟩ | ⟨hcall, rfl⟩
  · simp [hcall, habsent] at hthread
  · refine ⟨⟨hs.usbtv, by simp, hs.closed, hs.reapIdle, by simp [hne], by simp⟩, .inr ⟨.stop, ?_⟩⟩
    simp [Shutdown.step, Shutdown.stopStep, toShutdown, hcall, DriverCall.stopper]
  · -- the flag is set, so the null frame is enqueued
    simp only [stopStep, hcall, hs.closed, hne, hs.running hcall, ne_eq, not_true, if_false,
      if_true] at h
    have hcalls := congrArg (Option.map call) h
    simp at hcalls
  · have hne : s.process ≠ .absent := fun habsent => by simp [hcall, habsent] at hthread
    refine ⟨⟨hs.usbtv, by simp, hs.closed, hs.reapIdle, by simp [hne], by simp⟩, .inr ⟨.stop, ?_⟩⟩
    simp [Shutdown.step, Shutdown.stopStep, toShutdown, hcall, DriverCall.stopper]
  · refine ⟨⟨hs.usbtv, by simp, hs.closed, hs.reapIdle, by simp, by simp⟩, .inr ⟨.stop, ?_⟩⟩
    simp [Shutdown.step, Shutdown.stopStep, toShutdown, hcall, hexited, DriverCall.stopper,
      ProcessPc.worker]
  · have habsent : s.process = .absent := hthread.mpr (.inl hcall)
    refine ⟨⟨hs.usbtv, by simp, hs.closed, hs.reapIdle, by simp [habsent], by simp⟩,
      .inr ⟨.stop, ?_⟩⟩
    simp [Shutdown.step, Shutdown.stopStep, toShutdown, hcall, DriverCall.stopper]
  · have habsent : s.process = .absent := hthread.mpr (.inr (.inl hcall))
    refine ⟨⟨hs.usbtv, by simp, hs.closed, hs.reapIdle, ?_, by simp⟩, .inl ?_⟩
    · simpa [freeFramePool] using habsent
    · simp [toShutdown, hcall, DriverCall.stopper, freeFramePool]

/-- The steps of the process thread outside `getFrame` are those of the worker. -/
lemma stopping_processStep {s s' : FrameFlow} (hs : Stopping s) (h : s.processStep = some s')
    (n : ℕ) : Stopping s' ∧ Shuts (s, n) (s', n) := by
  have hstop : Stopping s' := by
    rcases processStep_cases h with ⟨pc, -, hne, -, hpc, rfl⟩ | ⟨r, hr, ⟨pc, -, hpc, rfl⟩ | rfl⟩ |
      ⟨r, hr, rfl⟩
    · exact hs.of_eq rfl rfl rfl (iff_of_false hpc hne) rfl
    · have hne : s.process ≠ .absent := fun habsent => by simp [habsent, ProcessPc.frame] at hr
      exact hs.of_eq rfl rfl rfl (iff_of_false hpc hne) rfl
    · have hne : s.process ≠ .absent := fun habsent => by simp [habsent, ProcessPc.frame] at hr
      exact hs.of_eq rfl rfl rfl (iff_of_false (by simp [skip]) hne) rfl
    · exact hs.of_eq rfl rfl rfl (iff_of_false (by simp) (by simp [hr])) rfl
  refine ⟨hstop, ?_⟩
  unfold processStep at h
  split at h
  · next hpc =>
    obtain rfl := Option.some_inj.mp h
    refine .inr ⟨.test, ?_⟩
    cases hrunning : s.processThreadRunning <;>
      simp [Shutdown.step, toShutdown, hpc, hrunning, ProcessPc.worker]
  · next r hpc =>
    split_ifs at h
    · obtain rfl := Option.some_inj.mp h
      exact .inl (by simp [toShutdown, hpc, ProcessPc.worker])
    · obtain rfl := Option.some_inj.mp h
      exact .inr ⟨.work, by simp [Shutdown.step, toShutdown, hpc, ProcessPc.worker, skip]⟩
  · next r hpc =>
    split_ifs at h
    · obtain rfl := Option.some_inj.mp h
      exact .inl (by simp [toShutdown, hpc, ProcessPc.worker])
    · obtain rfl := Option.some_inj.mp h
      exact .inr ⟨.work, by simp [Shutdown.step, toShutdown, hpc, ProcessPc.worker, skip]⟩
  · next r hpc =>
    obtain rfl := Option.some_inj.mp h
    exact .inl (by simp [toShutdown, hpc, ProcessPc.worker])
  · next r hpc =>
    obtain rfl := Option.some_inj.mp h
    exact .inr ⟨.work, by simp [Shutdown.step, toShutdown, hpc, ProcessPc.worker]⟩
  all_goals exact absurd h (by simp)

/-- The process thread dequeues as the worker does. -/
lemma stopping_dequeueStep {s s' : FrameFlow} {k : ℕ} (hs : Stopping s)
    (h : s.dequeueStep k = some s') (n : ℕ) :
    Stopping s' ∧ Shuts (s, n) (s', s.countDequeue n (.dequeue k)) := by
  unfold dequeueStep at h
  split_ifs at h with hpc
  obtain ⟨entry, hentry, rfl⟩ := Option.map_eq_some_iff.mp h
  refine ⟨hs.of_eq rfl rfl rfl (iff_of_false ?_ (by simp [hpc])) rfl, .inr ⟨.take k, ?_⟩⟩
  · cases entry <;> simp
  · cases entry <;>
      simp [Shutdown.step, toShutdown, hpc, hentry, ProcessPc.worker, countDequeue]

/-- **Each step of the call is one of the handshake**, or is not seen there.

**Proof sketch.** Once the reap thread is idle nothing is queued any more but the null frame. No
other call can begin before this one returns, and the consumers touch neither the queue nor the
thread. -/
lemma stopping_step {s s' : FrameFlow} {e : FlowEvent} (hs : Stopping s) (hbusy : s.call ≠ .idle)
    (h : s.step e = some s') (n : ℕ) : Stopping s' ∧ Shuts (s, n) (s', s.countDequeue n e) := by
  cases e with
  | usbtvInitialize mFramePoolSize =>
    obtain ⟨hgone, -⟩ := usbtvInitialize_cases h
    exact absurd (hgone.symm.trans hs.usbtv) (by simp)
  | dispose =>
    obtain ⟨hguard, -⟩ := dispose_cases h
    exact absurd hguard.2.1 hbusy
  | setFrameListener listener =>
    simp only [step, hbusy, if_false] at h
    exact absurd h (by simp)
  | startStreaming outcome =>
    obtain ⟨hguard, h⟩ := startStreaming_guard h
    exact absurd hguard.2 hbusy
  | stopStreaming =>
    obtain ⟨hguard, -⟩ := stopStreaming_cases h
    have hfailed := hguard.2.resolve_left hbusy
    rcases hs.call with hc | hc | hc | hc | hc | hc <;>
      exact absurd (hfailed.symm.trans hc) (by simp)
  | usb e => exact stopping_usbStep hs h n
  | stop => exact stopping_stopStep hs h n
  | addCompleteFrameToQueue enqueued =>
    obtain ⟨r, -, hreap, -, -⟩ := addCompleteFrameToQueue_cases h
    rcases hs.reapIdle with hi | hi <;> simp [hi, ReapPc.isCallback] at hreap
  | fetch =>
    obtain ⟨index, pool, -, -, ⟨-, -, rfl⟩ | ⟨next, -, rfl⟩ | ⟨-, rfl⟩⟩ := fetchStep_cases h <;>
      exact ⟨hs.of_eq rfl rfl rfl Iff.rfl rfl, .inl rfl⟩
  | dequeue k => exact stopping_dequeueStep hs h n
  | process => exact stopping_processStep hs h n
  | returnFrame r =>
    obtain ⟨-, rfl | ⟨-, rfl⟩⟩ := returnFrame_cases h <;>
      exact ⟨hs.of_eq rfl rfl rfl Iff.rfl rfl, .inl rfl⟩
  | returnFrameToPool r =>
    obtain ⟨-, ⟨-, rfl⟩ | ⟨pool, -, -, rfl⟩⟩ := returnStep_cases h <;>
      exact ⟨hs.of_eq rfl rfl rfl Iff.rfl rfl, .inl rfl⟩

/-- Every state of the call is one of a stop. -/
lemma stopping_of_stopCall {s₀ : FrameFlow} (h₀ : Stopping s₀) {x : FrameFlow × ℕ}
    (h : (stopCall s₀).Reachable x) : Stopping x.1 := by
  refine StepSystem.ReachableUnder.invariant (I := fun x => Stopping x.1) ?_ ?_ h
  · rintro x rfl
    exact h₀
  · intro x e x' _ hs _ hstep
    simp only [stopCall] at hstep
    split_ifs at hstep with hbusy
    obtain ⟨s', hs', rfl⟩ := Option.map_eq_some_iff.mp hstep
    exact (stopping_step hs hbusy hs' x.2).1

/-- **The call refines the handshake**, whatever is in the queue when it begins. -/
def stopCall_refines {s₀ : FrameFlow} (h₀ : Stopping s₀) (hcall : s₀.call = .stopReap)
    (hexited : s₀.process ≠ .exited) :
    StepSystem.Refinement (stopCall s₀) (fun _ _ => True) (shutdown FrameRef) where
  abs := toShutdown
  init := by
    rintro x rfl
    refine ⟨h₀.running hcall, ?_, by simp [toShutdown, hcall, DriverCall.stopper], rfl⟩
    have habsent : s₀.process ≠ .absent := fun habsent => by
      simpa [hcall, habsent] using h₀.thread
    cases hpc : s₀.process with
    | absent => exact absurd hpc habsent
    | exited => exact absurd hpc hexited
    | test | dequeue | invoke | callback | unlock | deliver =>
      simp [toShutdown, hpc, ProcessPc.worker]
  sim := by
    intro x e x' hr _ hstep
    have hs := stopping_of_stopCall h₀ hr
    simp only [stopCall] at hstep
    split_ifs at hstep with hbusy
    obtain ⟨s', hs', rfl⟩ := Option.map_eq_some_iff.mp hstep
    exact (stopping_step hs hbusy hs' x.2).2.imp_right .inr

/-- In every run, a stop that is past the reap thread and has a process thread to stop finds it
running. -/
lemma stopping_of_reachable {s : FrameFlow} (h : frameFlow.Reachable s)
    (hcall : s.call = .stopReap) (hclosed : s.usb.handler = .closed)
    (hprocess : s.process ≠ .absent)
    (queue : List (Option FrameRef)) :
    Stopping { s with frameProcessQueue := queue } ∧ s.process ≠ .exited := by
  obtain ⟨hrunning, hexited⟩ := running_of_reachable h hprocess (by simp [hcall]) (by simp [hcall])
  have husbtv : s.usbtv = true := by
    by_contra hgone
    have hpool := framePool_of_disposed h (by simpa using hgone)
    exact hprocess ((wellFormed_of_reachable h).unpooled hpool).1
  exact ⟨⟨husbtv, .inl hcall, hclosed, (usb_wellFormed h).reapIdle (.inl hclosed),
    by simp [hcall, hprocess], fun _ => hrunning⟩, hexited⟩

/-! ## The handshake of the driver -/

/-- Every process thread begins with an empty queue. -/
lemma frameProcessQueue_of_startStreaming {s s' : FrameFlow} {outcome : StartOutcome}
    (h : frameFlow.Reachable s) (hprocess : s.process = .absent)
    (hstep : s.step (.startStreaming outcome) = some s') : s'.frameProcessQueue = [] := by
  have hw := wellFormed_of_reachable h
  simp only [step] at hstep
  split_ifs at hstep with hguard
  have hpool : s.framePool = none := by
    by_contra hpool
    rcases hw.unthreaded hprocess hpool with hcall | hcall <;> simp [hguard.2] at hcall
  have hqueue := (hw.unpooled hpool).2.1
  rcases hw.startStreaming_cases hguard.2 hstep with ⟨streaming, rfl⟩ | ⟨-, streaming, rfl⟩ |
    ⟨success, attached, -, -, -, rfl⟩ <;> exact hqueue

/-- A process thread that can take a step in the handshake can take one in the driver. -/
lemma exists_step_of_shutdown {s : FrameFlow} {n : ℕ} {e : ShutdownEvent} {t : Shutdown FrameRef}
    (he : e = .test ∨ e = .take 0 ∨ e = .work) (h : (toShutdown (s, n)).step e = some t) :
    ∃ e s', (e = .process ∨ e = .dequeue 0) ∧ s.step e = some s' := by
  have hprocess : s.process.worker = .test ∨ s.process.worker = .working →
      ∃ s', s.step .process = some s' := by
    intro hworker
    cases hpc : s.process with
    | test | invoke | callback | unlock | deliver =>
      simp only [step, processStep, hpc]
      exact ⟨_, rfl⟩
    | absent | dequeue | exited => simp [hpc, ProcessPc.worker] at hworker
  rcases he with rfl | rfl | rfl
  · simp only [Shutdown.step] at h
    split_ifs at h with hworker
    all_goals
      obtain ⟨s', hs'⟩ := hprocess (.inl hworker)
      exact ⟨.process, s', .inl rfl, hs'⟩
  · by_cases hworker : s.process.worker = .waiting
    · simp only [Shutdown.step, toShutdown, hworker, if_true] at h
      obtain ⟨entry, hentry, -⟩ := Option.map_eq_some_iff.mp h
      have hpc : s.process = .dequeue := by
        cases hpc : s.process with
        | dequeue => rfl
        | absent | test | invoke | callback | unlock | deliver | exited =>
          simp [hpc, ProcessPc.worker] at hworker
      obtain ⟨s', hs'⟩ : ∃ s', s.step (.dequeue 0) = some s' := by
        simp only [step, dequeueStep, hpc, if_true, hentry, Option.map_some]
        exact ⟨_, rfl⟩
      exact ⟨.dequeue 0, s', .inr rfl, hs'⟩
    · simp only [Shutdown.step, toShutdown, hworker, if_false] at h
      exact absurd h (by simp)
  · simp only [Shutdown.step] at h
    split_ifs at h with hworker
    obtain ⟨s', hs'⟩ := hprocess (.inr hworker)
    exact ⟨.process, s', .inl rfl, hs'⟩

/-- **The shutdown of the process thread is sound.** Take any state of a run in which
`stopStreaming` is past the reap thread and there is a process thread to stop, with anything in the
queue. In every interleaving from there to the return of the call: while `stopStreaming` joins the
process thread, the thread does not wait at an empty queue, and unless it has ended it can go on;
after `_processThreadRunning` is cleared it dequeues at most one entry; and when the call returns,
the queue is empty and the thread is gone. The process thread of a next stream begins with an empty
queue. -/
theorem handshake_of_stopCall {s : FrameFlow} (h : frameFlow.Reachable s)
    (hcall : s.call = .stopReap) (hclosed : s.usb.handler = .closed)
    (hprocess : s.process ≠ .absent)
    (queue : List (Option FrameRef)) {s' : FrameFlow} {dequeued : ℕ}
    (hrun : (stopCall { s with frameProcessQueue := queue }).Reachable (s', dequeued)) :
    (s'.call = .stopJoin → s'.process = .dequeue → s'.frameProcessQueue ≠ []) ∧
      (s'.call = .stopJoin → s'.process ≠ .exited →
        ∃ e s'', (e = .process ∨ e = .dequeue 0) ∧ s'.step e = some s'') ∧
      dequeued ≤ 1 ∧
      (s'.call = .idle → s'.frameProcessQueue = [] ∧ s'.process = .absent) ∧
      ∀ {s₁ s₂ : FrameFlow} {outcome : StartOutcome}, frameFlow.Reachable s₁ →
        s₁.process = .absent → s₁.step (.startStreaming outcome) = some s₂ →
          s₂.frameProcessQueue = [] := by
  obtain ⟨h₀, hexited⟩ := stopping_of_reachable h hcall hclosed hprocess queue
  have hstop := stopping_of_stopCall h₀ hrun
  have hsound := Shutdown.sound_of_reachable ((stopCall_refines h₀ hcall hexited).reachable hrun)
  have hjoin : s'.call = .stopJoin → (toShutdown (s', dequeued)).stopper = .join :=
    fun hjoining => congrArg DriverCall.stopper hjoining
  refine ⟨fun hjoining hpc hnil => ?_, fun hjoining hne => ?_, ?_, fun hidle => ⟨?_, ?_⟩,
    frameProcessQueue_of_startStreaming⟩
  · have hmem : none ∈ s'.frameProcessQueue :=
      hsound.woken (hjoin hjoining) (congrArg ProcessPc.worker hpc)
    simp [hnil] at hmem
  · have hworker : (toShutdown (s', dequeued)).worker ≠ .ended := by
      have habsent : s'.process ≠ .absent := fun habsent => by
        simpa [hjoining, habsent] using hstop.thread
      cases hpc : s'.process with
      | absent => exact absurd hpc habsent
      | exited => exact absurd hpc hne
      | test | dequeue | invoke | callback | unlock | deliver =>
        simp [toShutdown, hpc, ProcessPc.worker]
    obtain ⟨e, t, he, hstep⟩ := Shutdown.exists_step_of_join hsound (hjoin hjoining) hworker
    exact exists_step_of_shutdown he hstep
  · by_cases hclear : (toShutdown (s', dequeued)).stopper = .clear
    · have hzero : dequeued = 0 := (hsound.running hclear).2.2
      omega
    · have hle := hsound.taken_le hclear
      change dequeued + _ ≤ 1 at hle
      omega
  · exact hsound.drained (congrArg DriverCall.stopper hidle)
  · exact hstop.thread.mpr (.inr (.inr hidle))

/-- A first stream is stopped. The process thread waits at the queue, takes the null frame, and
ends. -/
theorem handshake_of_stopCall_firstStream :
    ∃ s s', frameFlow.Reachable s ∧ s.call = .stopReap ∧ s.usb.handler = .closed ∧
      s.process ≠ .absent ∧
      (stopCall { s with frameProcessQueue := [] }).Reachable (s', 1) ∧ s'.call = .idle ∧
      s'.frameProcessQueue = [] ∧ s'.process = .absent := by
  have h : (frameFlow.run new (openEvents 4 ++ [.process, .stopStreaming, .usb .stop,
      .usb .handler, .usb .handler, .usb (.reap fun _ => 0), .usb .handler, .usb .handler,
      .usb .handler])).bind (fun s =>
        ((stopCall { s with frameProcessQueue := [] }).run ({ s with frameProcessQueue := [] }, 0)
          [.stop, .stop, .dequeue 0, .process, .stop, .stop, .stop]).map fun x =>
            ((s.call, s.usb.handler, s.process), x.2, x.1.call)) =
      some ((.stopReap, .closed, .dequeue), 1, .idle) := by decide
  obtain ⟨s, hrun, h⟩ := Option.bind_eq_some_iff.mp h
  obtain ⟨⟨s', dequeued⟩, hrun', heq⟩ := Option.map_eq_some_iff.mp h
  simp only [Prod.mk.injEq] at heq
  obtain ⟨⟨hcall, hclosed, hprocess⟩, rfl, hidle⟩ := heq
  have hs : frameFlow.Reachable s := StepSystem.Reachable.run (.init rfl) hrun
  have hne : s.process ≠ .absent := by simp [hprocess]
  have hs' := StepSystem.Reachable.run (.init rfl) hrun'
  exact ⟨s, s', hs, hcall, hclosed, hne, hs', hidle,
    (handshake_of_stopCall hs hcall hclosed hne [] hs').2.2.2.1 hidle⟩

end FrameFlow

end UsbTv
