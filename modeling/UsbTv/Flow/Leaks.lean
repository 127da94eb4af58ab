import UsbTv.Flow.Release

set_option relaxedAutoImplicit false
set_option autoImplicit false

/-!
# Frames that are never released

The process thread dequeues a frame and hands it to the listener, who is to return it. If the
callback is not in use, the thread is not attached, or there is no listener, it goes on to the next
frame. The comment at its head has it that it would "do nothing except release the lock" then, but
it does not release it, and the frame is out of the pool until the pool is freed.

This is the only way to lose a frame: in every run a frame whose lock is set has one of its roles,
if being passed over by the process thread is counted among them.

## Main definitions

* `UsbTv.FrameFlow.Covered` — a locked frame of the pool has a role.
* `UsbTv.FrameFlow.Accounted` — a thread or a consumer has the frame.
* `UsbTv.FrameFlow.HandsOver` — the process thread hands its frame over.

## Main results

* `UsbTv.FrameFlow.covered_of_reachable` — no lock is left behind but by the process thread.
* `UsbTv.FrameFlow.accounted_of_reachable` — runs in which the process thread hands frames over.
* `UsbTv.FrameFlow.not_accounted_of_skipped` — any frame it passes over is lost to the stream.
-/

namespace UsbTv

namespace FrameFlow

/-- While the stream is active, each frame of the pool whose native lock is set has a role. -/
def Covered (s : FrameFlow) : Prop :=
  s.streamActive = true → Custody.Covered {r | s.InPool r} s.held s.lock

/-- A thread or a consumer has the frame: it is `_usbInputFrame`, it is in the process queue, the
process thread has it, or it was delivered and is not returned. -/
def Accounted (s : FrameFlow) (r : FrameRef) : Prop := s.Points r ∨ s.Out r

/-- What the process thread tests next before it hands its frame over is set. -/
def handsOver (s : FrameFlow) : Bool :=
  match s.process with
  | .invoke _ => s.useCallback && s.threadAttached
  | .callback _ => s.mOnFrameReceivedListener
  | _ => true

/-- The condition on a step: while the stream is active, the process thread finds the callback in
use, itself attached, and a listener. -/
def HandsOver (s : FrameFlow) : FlowEvent → Prop
  | .process => s.streamActive = true → s.handsOver = true
  | _ => True

instance (s : FrameFlow) (e : FlowEvent) : Decidable (HandsOver s e) :=
  match e with
  | .process => inferInstanceAs (Decidable (_ → _))
  | .usbtvInitialize _ | .dispose | .setFrameListener _ | .startStreaming _ | .stopStreaming
  | .usb _ | .stop | .addCompleteFrameToQueue _ | .fetch | .dequeue _ | .returnFrame _
  | .returnFrameToPool _ => inferInstanceAs (Decidable True)

/-! ## No other lock is left behind -/

/-- In a new pool only the input frame is locked. -/
lemma covered_started {s : FrameFlow} (hfetching : s.fetching = none) (success attached : Bool) :
    Covered (s.started success attached) := by
  rintro - r ⟨hpool, -⟩ hlocked
  have hnew : r.pool = s.pools := (Option.some_inj.mp hpool).symm
  refine ⟨.input, ?_⟩
  by_cases hr : r = ⟨s.pools, 0⟩
  · simp [held, started, hr, hfetching]
  · simp [started, Function.update_of_ne hr, hnew] at hlocked

/-- The reap thread queues its frame. -/
lemma covered_addCompleteFrameToQueue {s s' : FrameFlow} {enqueued : Bool} (hs : Covered s)
    (h : s.addCompleteFrameToQueue enqueued = some s') : Covered s' := by
  obtain ⟨r, hr, -, -, rfl | rfl⟩ := addCompleteFrameToQueue_cases h
  · exact hs
  intro hactive
  refine (hs hactive).move r (fun _ => ⟨.queued, by simp [held]⟩) (fun r' _ hne c => ?_)
    fun _ _ _ => id
  cases c with
  | input => simp [held, hr, hne.symm]
  | queued => simp [held]
  | processed | delivered | returning => exact le_rfl

/-- The reap thread locks the frame that it takes. -/
lemma covered_fetchStep {s s' : FrameFlow} (hs : Covered s) (h : s.fetchStep = some s') :
    Covered s' := by
  obtain ⟨index, pool, hindex, -, ⟨-, -, rfl⟩ | ⟨next, -, rfl⟩ | ⟨hinactive, rfl⟩⟩ :=
    fetchStep_cases h
  · intro hactive
    refine (hs hactive).move ⟨pool, index⟩ (fun _ => ⟨.input, by simp [held]⟩)
      (fun r _ _ c => ?_) fun r _ hne hlocked => by simpa [hne] using hlocked
    cases c with
    | input => simp [held, hindex]
    | queued | processed | delivered | returning => exact le_rfl
  · intro hactive
    refine (hs hactive).mono (fun r _ c => ?_) fun _ _ => id
    cases c with
    | input => simp [held, hindex]
    | queued | processed | delivered | returning => exact le_rfl
  · intro hactive
    exact absurd (hinactive.symm.trans hactive) (by simp)

/-- The process thread has the frame that it dequeues. -/
lemma covered_dequeueStep {s s' : FrameFlow} {k : ℕ} (hs : Covered s)
    (h : s.dequeueStep k = some s') : Covered s' := by
  obtain ⟨hpc, entry, pc, hentry, hframe, -, rfl⟩ := dequeueStep_cases h
  have hnone : s.process.frame = none := by rw [hpc]; rfl
  have hcount := count_eraseIdx hentry
  intro hactive
  -- what is not dequeued stays queued
  have hstay : ∀ r, entry ≠ some r → ∀ c, s.held c r ≤ FrameFlow.held { s with
      frameProcessQueue := s.frameProcessQueue.eraseIdx k, process := pc } c r := by
    intro r hne c
    cases c with
    | queued =>
      have hr := hcount (some r)
      rw [if_neg (by simpa using hne)] at hr
      simp only [held]
      omega
    | processed => simp [held, hnone]
    | input | delivered | returning => exact le_rfl
  cases entry with
  | none => exact (hs hactive).mono (fun r _ => hstay r (by simp)) fun _ _ => id
  | some r =>
    refine (hs hactive).move r (fun _ => ⟨.processed, ?_⟩)
      (fun r' _ hne => hstay r' (by simpa using hne.symm)) fun _ _ _ => id
    simp only [held, hframe, if_true]
    omega

/-- The process thread keeps its frame, passes over it, or delivers it. -/
lemma covered_processStep {s s' : FrameFlow} (hs : Covered s) (h : s.processStep = some s') :
    Covered s' := by
  intro hactive
  rcases processStep_cases h with ⟨pc, hframe, -, hnone, -, rfl⟩ |
    ⟨r, hframe, ⟨pc, hpc, -, rfl⟩ | rfl⟩ | ⟨r, hpc, rfl⟩
  · refine (hs hactive).mono (fun r _ c => ?_) fun _ _ => id
    cases c with
    | processed => simp [held, hframe]
    | input | queued | delivered | returning => exact le_rfl
  · refine (hs hactive).mono (fun r' _ c => ?_) fun _ _ => id
    cases c with
    | processed => simp [held, hframe, hpc]
    | input | queued | delivered | returning => exact le_rfl
  · refine (hs hactive).mono (fun r' _ c => ?_) fun _ _ => id
    cases c with
    | processed =>
      simp only [held, skip, ProcessPc.frame_test, hframe, List.count_cons, beq_iff_eq,
        Option.some_inj, reduceCtorEq, if_false]
      omega
    | input | queued | delivered | returning => exact le_rfl
  · have hframe : s.process.frame = some r := by rw [hpc]; rfl
    refine (hs hactive).move r (fun _ => ⟨.delivered, by simp [held]⟩) (fun r' _ hne c => ?_)
      fun _ _ _ => id
    cases c with
    | processed => simp [held, hframe, hne.symm]
    | delivered => simp [held, hne]
    | input | queued | returning => exact le_rfl

/-- A consumer that starts to return a frame still has it. -/
lemma covered_returnFrame {s s' : FrameFlow} {r : FrameRef} (hs : Covered s)
    (h : s.returnFrame r = some s') : Covered s' := by
  obtain ⟨-, rfl | ⟨-, rfl⟩⟩ := returnFrame_cases h
  · exact hs
  intro hactive
  refine (hs hactive).move r (fun _ => ⟨.returning, by simp [held]⟩) (fun r' _ hne c => ?_)
    fun _ _ _ => id
  cases c with
  | delivered => simp [held, hne]
  | returning => simp [held, hne.symm]
  | input | queued | processed => exact le_rfl

/-- The frame that a consumer gives up is unlocked, or is none of the pool. -/
lemma covered_returnStep {s s' : FrameFlow} {r : FrameRef} (hs : Covered s)
    (hgone : s.usbtv = false → s.framePool = none) (h : s.returnStep r = some s') :
    Covered s' := by
  obtain ⟨-, ⟨hnone, rfl⟩ | ⟨pool, hpool, -, rfl⟩⟩ := returnStep_cases h
  · have hpool := hnone.elim hgone id
    rintro - r' ⟨hin, -⟩
    exact absurd (hpool.symm.trans hin) (by simp)
  intro hactive
  refine (hs hactive).move ⟨pool, r.index⟩ (fun hlocked => by simp at hlocked)
    (fun r' hr' hne c => ?_) fun r' _ hne hlocked => by simpa [hne] using hlocked
  cases c with
  | returning =>
    have hr : r' ≠ r := by
      rintro rfl
      obtain rfl := Option.some_inj.mp (hpool.symm.trans hr'.1)
      exact hne rfl
    simp [held, List.count_erase_of_ne hr]
  | input | queued | processed | delivered => exact le_rfl

/-- **Each step leaves no lock behind**: the frame that it moves is unlocked or has a role.

**Proof sketch.** One case for each event. The handler thread locks the input frame of a new pool,
the reap thread the frame that it takes; a frame that is queued, dequeued, delivered or about to be
returned has the next role, and so has one that the process thread passes over. -/
lemma covered_step {s s' : FrameFlow} {e : FlowEvent} (hw : WellFormed s) (hu : s.usb.WellFormed)
    (hgone : s.usbtv = false → s.framePool = none) (hs : Covered s) (h : s.step e = some s') :
    Covered s' := by
  cases e with
  | usbtvInitialize mFramePoolSize =>
    obtain ⟨-, rfl⟩ := usbtvInitialize_cases h
    intro hactive
    simp [construct] at hactive
  | dispose =>
    obtain ⟨-, rfl⟩ := dispose_cases h
    exact hs
  | setFrameListener listener =>
    obtain rfl | ⟨useCallback, rfl⟩ := setFrameListener_cases h
    · exact hs
    · exact hs
  | startStreaming outcome =>
    obtain ⟨hguard, h⟩ := startStreaming_guard h
    rcases hw.startStreaming_cases hguard.2 h with ⟨streaming, rfl⟩ | ⟨hpool, streaming, rfl⟩ |
      ⟨success, attached, -, hactive, -, rfl⟩
    · exact hs
    · rintro - r ⟨hr, -⟩
      simp [hpool] at hr
    · have hclosed := (hw.inactive hactive hguard.2).2
      exact covered_started (hw.not_fetching hu hclosed) success attached
  | stopStreaming =>
    obtain ⟨-, rfl⟩ := stopStreaming_cases h
    intro hactive
    simp at hactive
  | usb e =>
    obtain ⟨usb, call, streaming, -, -, rfl⟩ := usbStep_cases h
    exact hs
  | stop =>
    intro hactive
    exact absurd ((hw.inactive_stopStep h).symm.trans hactive) (by simp)
  | addCompleteFrameToQueue enqueued => exact covered_addCompleteFrameToQueue hs h
  | fetch => exact covered_fetchStep hs h
  | dequeue k => exact covered_dequeueStep hs h
  | process => exact covered_processStep hs h
  | returnFrame r => exact covered_returnFrame hs h
  | returnFrameToPool r => exact covered_returnStep hs hgone h

/-- **In every run a locked frame of the pool has a role** while the stream is active. -/
theorem covered_of_reachable {C : FrameFlow → FlowEvent → Prop} {s : FrameFlow}
    (h : frameFlow.ReachableUnder C s) : Covered s := by
  refine StepSystem.ReachableUnder.invariant (I := Covered) ?_
    (fun s e s' hr hs _ hstep =>
      covered_step (wellFormed_of_reachable hr) (usb_wellFormed hr) (framePool_of_disposed hr) hs
        hstep) h
  rintro s rfl hactive
  simp [new] at hactive

/-! ## What the process thread passes over -/

/-- While the stream is active, the process thread has passed over no frame of the pool. -/
def NoneSkipped (s : FrameFlow) : Prop := s.streamActive = true → ∀ r ∈ s.skipped, ¬ s.InPool r

/-- The process thread passes over a frame only where a test fails. -/
lemma skipped_of_handsOver {s s' : FrameFlow} (hh : s.handsOver = true)
    (h : s.processStep = some s') : s'.skipped = s.skipped := by
  unfold processStep at h
  split at h
  · obtain rfl := Option.some_inj.mp h
    rfl
  · next r hpc =>
    have htests : s.useCallback = true ∧ s.threadAttached = true := by
      simpa [handsOver, hpc] using hh
    rw [if_pos htests] at h
    obtain rfl := Option.some_inj.mp h
    rfl
  · next r hpc =>
    have htest : s.mOnFrameReceivedListener = true := by simpa [handsOver, hpc] using hh
    rw [if_pos htest] at h
    obtain rfl := Option.some_inj.mp h
    rfl
  · obtain rfl := Option.some_inj.mp h
    rfl
  · obtain rfl := Option.some_inj.mp h
    rfl
  all_goals exact absurd h (by simp)

/-- A step keeps the frames of the pool from being passed over, if the process thread hands its
frame over. A new pool has no such frames, because their names are new. -/
lemma noneSkipped_step {s s' : FrameFlow} {e : FlowEvent} (hw : WellFormed s)
    (hs : NoneSkipped s) (hc : HandsOver s e) (h : s.step e = some s') : NoneSkipped s' := by
  cases e with
  | usbtvInitialize mFramePoolSize =>
    obtain ⟨-, rfl⟩ := usbtvInitialize_cases h
    intro hactive
    simp [construct] at hactive
  | dispose =>
    obtain ⟨-, rfl⟩ := dispose_cases h
    exact hs
  | setFrameListener listener =>
    obtain rfl | ⟨useCallback, rfl⟩ := setFrameListener_cases h
    · exact hs
    · exact hs
  | startStreaming outcome =>
    obtain ⟨hguard, h⟩ := startStreaming_guard h
    rcases hw.startStreaming_cases hguard.2 h with ⟨streaming, rfl⟩ | ⟨hpool, streaming, rfl⟩ |
      ⟨success, attached, -, -, -, rfl⟩
    · exact hs
    · rintro - r - ⟨hr, -⟩
      simp [hpool] at hr
    · rintro - r hr ⟨hpool, -⟩
      have hlt := hw.skipped_lt r hr
      rw [← Option.some_inj.mp hpool] at hlt
      exact absurd hlt (lt_irrefl _)
  | stopStreaming =>
    obtain ⟨-, rfl⟩ := stopStreaming_cases h
    intro hactive
    simp at hactive
  | usb e =>
    obtain ⟨usb, call, streaming, -, -, rfl⟩ := usbStep_cases h
    exact hs
  | stop =>
    intro hactive
    exact absurd ((hw.inactive_stopStep h).symm.trans hactive) (by simp)
  | addCompleteFrameToQueue enqueued =>
    obtain ⟨r, -, -, -, rfl | rfl⟩ := addCompleteFrameToQueue_cases h <;> exact hs
  | fetch =>
    obtain ⟨index, pool, -, -, ⟨-, -, rfl⟩ | ⟨next, -, rfl⟩ | ⟨-, rfl⟩⟩ := fetchStep_cases h <;>
      exact hs
  | dequeue k =>
    obtain ⟨-, entry, pc, -, -, -, rfl⟩ := dequeueStep_cases h
    exact hs
  | process =>
    intro hactive r hr
    have hbefore : s.streamActive = true ∧ ∀ r, s'.InPool r → s.InPool r := by
      rcases processStep_cases h with ⟨pc, -, -, -, -, rfl⟩ | ⟨r, -, ⟨pc, -, -, rfl⟩ | rfl⟩ |
        ⟨r, -, rfl⟩ <;> exact ⟨hactive, fun _ hin => hin⟩
    rw [skipped_of_handsOver (hc hbefore.1) h] at hr
    exact fun hin => hs hbefore.1 r hr (hbefore.2 r hin)
  | returnFrame r =>
    obtain ⟨-, rfl | ⟨-, rfl⟩⟩ := returnFrame_cases h <;> exact hs
  | returnFrameToPool r =>
    obtain ⟨-, ⟨-, rfl⟩ | ⟨pool, -, -, rfl⟩⟩ := returnStep_cases h <;> exact hs

/-- In every run in which the process thread hands its frames over, it has passed over no frame
of the pool while the stream is active. -/
lemma noneSkipped_of_reachable {s : FrameFlow} (h : frameFlow.ReachableUnder HandsOver s) :
    NoneSkipped s := by
  refine StepSystem.ReachableUnder.invariant (I := NoneSkipped) ?_
    (fun s e s' hr hs hc hstep => noneSkipped_step (wellFormed_of_reachable hr) hs hc hstep) h
  rintro s rfl hactive
  simp [new] at hactive

/-- **No frame of the pool is leaked** in a run in which the process thread hands over every frame
that it dequeues: while the stream is active, a frame whose lock is set is `_usbInputFrame`, in
the process queue, with the process thread, or delivered and not returned; and the process thread
has passed over no frame of the pool. -/
theorem accounted_of_reachable {s : FrameFlow} (h : frameFlow.ReachableUnder HandsOver s)
    (hactive : s.streamActive = true) :
    (∀ r, s.InPool r → s.lock r = true → s.Accounted r) ∧
      ∀ r, s.InPool r → r ∉ s.skipped := by
  have hnone : ∀ r, s.InPool r → r ∉ s.skipped := fun r hr hmem =>
    noneSkipped_of_reachable h hactive r hmem hr
  refine ⟨fun r hr hlocked => ?_, hnone⟩
  obtain ⟨a, ha⟩ := covered_of_reachable h hactive r hr hlocked
  cases a with
  | input =>
    have hinput : s.usbInputFrame = .frame r := by
      by_contra hne
      simp [held, hne] at ha
    exact .inl (.inl hinput)
  | queued => exact .inl (.inr (.inl (List.count_pos_iff.mp ha)))
  | processed =>
    have hprocess : s.process.frame = some r := by
      by_contra hne
      simp [held, hne, List.count_eq_zero.mpr (hnone r hr)] at ha
    exact .inl (.inr (.inr hprocess))
  | delivered => exact .inr (.inl ha)
  | returning => exact .inr (.inr ha)

/-- The first frame of a first stream is delivered, and still locked. -/
theorem accounted_of_reachable_firstFrame :
    ∃ s, frameFlow.ReachableUnder HandsOver s ∧ s.streamActive = true ∧ s.InPool ⟨0, 0⟩ ∧
      s.lock ⟨0, 0⟩ = true ∧ (∀ r, s.InPool r → s.lock r = true → s.Accounted r) ∧
      ∀ r, s.InPool r → r ∉ s.skipped := by
  have h : (frameFlow.runUnder HandsOver new (openEvents 4 ++ deliverEvents)).map
      (fun s => (s.streamActive, s.framePool, s.framePoolSize, s.lock ⟨0, 0⟩)) =
      some (true, some 0, 4, true) := by decide
  obtain ⟨s, hrun, heq⟩ := Option.map_eq_some_iff.mp h
  simp only [Prod.mk.injEq] at heq
  obtain ⟨hactive, hpool, hsize, hlocked⟩ := heq
  have hs : frameFlow.ReachableUnder HandsOver s :=
    StepSystem.ReachableUnder.runUnder (.init rfl) hrun
  exact ⟨s, hs, hactive, ⟨hpool, by rw [hsize]; decide⟩, hlocked,
    accounted_of_reachable hs hactive⟩

/-- **Any frame that it passes over is lost to the stream**: if consumers release frames of the
current pool only, a frame of the pool that the process thread has passed over stays locked while
the stream is active, and but for a stale `_usbInputFrame` nobody has it. -/
theorem not_accounted_of_skipped {s : FrameFlow} (h : frameFlow.ReachableUnder ReturnsCurrent s)
    (hactive : s.streamActive = true) {r : FrameRef} (hr : s.InPool r) (hskipped : r ∈ s.skipped) :
    s.lock r = true ∧ (s.fetching = none → ¬ s.Accounted r) := by
  have hguarded := owned_of_reachable h hactive
  have hcount : 0 < s.skipped.count r := List.count_pos_iff.mpr hskipped
  have hprocessed : 0 < s.held .processed r := by
    simp only [held]
    omega
  have hother : ∀ a, 0 < s.held a r → a = .processed := fun a ha =>
    hguarded.role_unique hr ha hprocessed
  refine ⟨hguarded.locked hr hprocessed, fun hfetching haccounted => ?_⟩
  rcases haccounted with (hinput | hqueue | hprocess) | hdelivered | hreturning
  · exact absurd (hother .input (by simp [held, hinput, hfetching])) (by simp)
  · exact absurd (hother .queued (List.count_pos_iff.mpr hqueue)) (by simp)
  · have hone := hguarded.held_le_one (a := .processed) hr
    simp only [held, hprocess, if_true] at hone
    omega
  · exact absurd (hother .delivered hdelivered) (by simp)
  · exact absurd (hother .returning hreturning) (by simp)

/-- A driver is made and a stream starts, without a listener. The first frame is queued, the reap
thread fetches the second one, and the process thread dequeues the first one and passes over it. -/
def silentEvents : List FlowEvent :=
  [.usbtvInitialize 4, .startStreaming (.opened true true), .usb (.initIsoUrbs fun _ => 0),
    .usb .startUrbAsyncRead, .usb (.complete 0), .usb (.reap fun _ => 0), .usb (.reapUrb 0),
    .addCompleteFrameToQueue true, .fetch, .fetch, .process, .dequeue 0, .process]

/-- **A frame leaked by a stream without a listener**: its lock is set, and nobody has it. -/
theorem skipped_leaked :
    ¬ ∀ s, frameFlow.Reachable s → s.streamActive = true → ∀ r, s.InPool r → s.lock r = true →
      s.Accounted r := by
  intro hclaim
  have h : (frameFlow.runUnder ReturnsCurrent new silentEvents).map
      (fun s => ((s.streamActive, s.framePool, s.framePoolSize), s.fetching, s.skipped)) =
      some ((true, some 0, 4), none, [⟨0, 0⟩]) := by decide
  obtain ⟨s, hrun, heq⟩ := Option.map_eq_some_iff.mp h
  simp only [Prod.mk.injEq] at heq
  obtain ⟨⟨hactive, hpool, hsize⟩, hfetching, hskipped⟩ := heq
  have hs : frameFlow.ReachableUnder ReturnsCurrent s :=
    StepSystem.ReachableUnder.runUnder (.init rfl) hrun
  have hr : s.InPool ⟨0, 0⟩ := ⟨hpool, by rw [hsize]; decide⟩
  obtain ⟨hlocked, hnot⟩ := not_accounted_of_skipped hs hactive hr (by simp [hskipped])
  exact hnot hfetching (hclaim s hs.reachable hactive _ hr hlocked)

end FrameFlow

end UsbTv
