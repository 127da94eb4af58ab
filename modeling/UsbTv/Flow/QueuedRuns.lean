import UsbTv.Flow.Handshake
import UsbTv.Flow.Ownership
import UsbTv.Flow.Simulation

set_option relaxedAutoImplicit false
set_option autoImplicit false

/-!
# Runs of the driver with its queue

What was shown of the driver with a list for its queue, for the driver with the queue as it is
written: that nobody has a frame that another has, that no frame is freed to which something in the
queue or on its way through it still points, and that `stopStreaming` does not wait for a process
thread that is blocked.

## Main definitions

* `UsbTv.QueuedFlow.now` — the driver with its entries for a list.
* `UsbTv.QueuedFlow.ReturnsCurrent` — consumers release frames of the current pool only.
* `UsbTv.FrameFlow.Posted` — what a process thread finds that is to end.

## Main results

* `UsbTv.QueuedFlow.exists_matches` — the driver with its queue does what the driver with a list
  does.
* `UsbTv.QueuedFlow.exclusive_now` — a frame has one role at a time.
* `UsbTv.QueuedFlow.inPool_of_entries` — what the queue points to is not freed.
* `UsbTv.QueuedFlow.exists_step_of_processJoin` — a process thread that is joined can go on.
-/

namespace UsbTv

open BlockingConcurrentQueue

namespace FrameFlow

/-! ## A process thread that is to end -/

/-- While `stopStreaming` waits for the process thread, or is about to, its flag is cleared, and a
thread that dequeues finds the null frame. -/
def Posted (s : FrameFlow) : Prop :=
  (s.call = .stopEnqueue ∨ s.call = .stopJoin →
      s.process ≠ .absent ∧ s.processThreadRunning = false) ∧
    (s.call = .stopJoin → s.process = .dequeue → none ∈ s.frameProcessQueue)

/-- The steps of the process thread keep it so: a thread whose flag is cleared comes to its end
instead of the queue. -/
lemma posted_processStep {s s' : FrameFlow} (hs : Posted s) (h : s.processStep = some s') :
    Posted s' := by
  have hgo : ∀ pc, pc ≠ .absent → pc ≠ .dequeue → Posted { s with process := pc } :=
    fun pc habsent hdequeue =>
      ⟨fun hcall => ⟨habsent, (hs.1 hcall).2⟩, fun _ hpc => absurd hpc hdequeue⟩
  unfold processStep at h
  split at h
  · obtain rfl := Option.some_inj.mp h
    by_cases hcall : s.call = .stopEnqueue ∨ s.call = .stopJoin
    · have hcleared := (hs.1 hcall).2
      exact hgo _ (by simp [hcleared]) (by simp [hcleared])
    · exact ⟨fun hc => absurd hc hcall, fun hc => absurd (.inr hc) hcall⟩
  · obtain rfl := Option.some_inj.mp h
    split_ifs
    · exact hgo _ nofun nofun
    · exact hgo .test nofun nofun
  · obtain rfl := Option.some_inj.mp h
    split_ifs
    · exact hgo _ nofun nofun
    · exact hgo .test nofun nofun
  · obtain rfl := Option.some_inj.mp h
    exact hgo (.deliver _) nofun nofun
  · obtain rfl := Option.some_inj.mp h
    exact hgo .test nofun nofun
  all_goals exact absurd h (by simp)

/-- Each step keeps it so. -/
lemma posted_step {s s' : FrameFlow} {e : FlowEvent} (hw : WellFormed s) (hrunning : Running s)
    (hs : Posted s) (h : s.step e = some s') : Posted s' := by
  have hidle : ∀ {s : FrameFlow}, s.call ≠ .stopEnqueue → s.call ≠ .stopJoin → Posted s :=
    fun henqueue hjoin =>
      ⟨fun hc => hc.elim (absurd · henqueue) (absurd · hjoin), fun hc => absurd hc hjoin⟩
  cases e with
  | usbtvInitialize mFramePoolSize =>
    obtain ⟨-, rfl⟩ := usbtvInitialize_cases h
    exact hidle (by simp [construct]) (by simp [construct])
  | dispose =>
    obtain ⟨-, rfl⟩ := dispose_cases h
    exact hs
  | setFrameListener listener =>
    obtain rfl | ⟨useCallback, rfl⟩ := setFrameListener_cases h <;> exact hs
  | startStreaming outcome =>
    obtain ⟨hguard, h⟩ := startStreaming_guard h
    rcases hw.startStreaming_cases hguard.2 h with ⟨streaming, rfl⟩ | ⟨-, streaming, rfl⟩ |
      ⟨success, attached, -, -, -, rfl⟩
    · exact hs
    · exact hs
    · refine hidle ?_ ?_ <;> cases success <;> simp [started]
  | stopStreaming =>
    obtain ⟨-, rfl⟩ := stopStreaming_cases h
    exact hidle (by simp) (by simp)
  | usb e =>
    obtain ⟨usb, call, streaming, -, hcall, rfl⟩ := usbStep_cases h
    rcases nextCall_cases hcall with rfl | ⟨-, rfl | rfl⟩ | ⟨-, rfl | rfl⟩ | ⟨-, rfl⟩
    · exact hs
    · exact hidle (by simp) (by simp)
    · exact hidle (by simp) (by simp)
    · exact hidle (by simp) (by simp)
    · exact hidle (by simp) (by simp)
    · exact hidle (by simp) (by simp)
  | stop =>
    rcases stopStep_cases h with ⟨hcall, -, ⟨-, rfl⟩ | ⟨hne, rfl⟩ | ⟨hne, rfl⟩⟩ | ⟨hcall, rfl⟩ |
      ⟨-, -, rfl⟩ | ⟨-, lock, rfl⟩ | ⟨-, rfl⟩
    · exact hidle (by simp) (by simp)
    · exact ⟨fun _ => ⟨hne, rfl⟩, fun hjoin => by simp at hjoin⟩
    · -- the flag of a process thread that is not being stopped is set
      obtain ⟨hset, -⟩ := hrunning hne (by simp [hcall]) (by simp [hcall])
      simp only [step, stopStep, hcall, hne, hset, if_false, if_true] at h
      split_ifs at h
      have hcalls := congrArg FrameFlow.call (Option.some_inj.mp h)
      cases hcalls
    · exact ⟨fun _ => hs.1 (.inl hcall), fun _ _ => by simp⟩
    · exact hidle (by simp) (by simp)
    · exact hidle (by simp) (by simp)
    · exact hidle (by simp) (by simp)
  | addCompleteFrameToQueue enqueued =>
    obtain ⟨r, -, -, -, rfl | rfl⟩ := addCompleteFrameToQueue_cases h
    · exact hs
    · exact ⟨hs.1, fun hcall hpc => List.mem_append_left _ (hs.2 hcall hpc)⟩
  | fetch =>
    obtain ⟨index, pool, -, -, ⟨-, -, rfl⟩ | ⟨next, -, rfl⟩ | ⟨-, rfl⟩⟩ := fetchStep_cases h <;>
      exact hs
  | dequeue k =>
    simp only [step, dequeueStep] at h
    split_ifs at h with hpc
    obtain ⟨entry, -, rfl⟩ := Option.map_eq_some_iff.mp h
    refine ⟨fun hcall => ⟨?_, (hs.1 hcall).2⟩, fun _ hdequeue => ?_⟩
    · cases entry <;> simp
    · cases entry <;> cases hdequeue
  | process => exact posted_processStep hs h
  | returnFrame r =>
    obtain ⟨-, rfl | ⟨-, rfl⟩⟩ := returnFrame_cases h <;> exact hs
  | returnFrameToPool r =>
    obtain ⟨-, ⟨-, rfl⟩ | ⟨pool, -, -, rfl⟩⟩ := returnStep_cases h <;> exact hs

/-- It is so in every run. -/
lemma posted_of_reachable {C : FrameFlow → FlowEvent → Prop} {s : FrameFlow}
    (h : frameFlow.ReachableUnder C s) : Posted s := by
  refine StepSystem.ReachableUnder.invariant (I := Posted) ?_
    (fun s e s' hr hs _ hstep =>
      posted_step (wellFormed_of_reachable hr) (running_of_reachable hr) hs hstep) h
  rintro s rfl
  refine ⟨fun hcall => ?_, fun hcall => ?_⟩
  · rcases hcall with hcall | hcall <;> cases hcall
  · cases hcall

end FrameFlow

namespace QueuedFlow

variable {τ : Type*} {w : ℕ} {c c' : QueuedFlow τ} {s : FrameFlow}

/-! ## The list and the queue -/

/-- The driver with its entries for a list. -/
def now (c : QueuedFlow τ) : FrameFlow := c.flow.ahead c.seen c.flow.lock c.entries

/-- But for the loop of `stopStreaming` that empties the queue, the list is what is in the queue. -/
lemma Matches.eq_now (hm : c.Matches s) (hcall : c.flow.call ≠ .stopDrain) : s = c.now := by
  obtain ⟨lock, queue, drained, rfl, hd⟩ := hm
  obtain ⟨rfl, rfl⟩ := hd.same hcall
  rfl

variable [DecidableEq τ] [Fintype τ]

/-- **The driver with its queue does what the driver with a list does**: to every state that it
reaches there is one that the driver with a list reaches, with the same frames in its list as are in
the queue, or on their way through it, and the same in all else.

**Proof sketch.** An entry is appended to the list when it is published, and taken from it when its
index is. All else that a thread does in the queue is not seen at the list. The loop that empties
the queue is a step at the list that comes at its end: no other thread is in the queue then, and
`try_dequeue` does not fail before the queue is empty. -/
theorem exists_matches (hw : 0 < w) (h : (queuedFlow τ w).ReachableUnder (Provided w) c) :
    ∃ s, frameFlow.Reachable s ∧ c.Matches s := by
  obtain ⟨s, hs, -, hm⟩ := sound_of_reachable hw h
  exact ⟨s, hs, hm⟩

/-! ## A first stream -/

/-- Three threads that are yet to be made. -/
def first : QueuedFlow (Fin 3) where
  flow := .new
  queue := ⟨.new, fun _ => .out⟩
  thread
    | .handler => 0
    | .reap => 1
    | .process => 2

/-- Such threads are as at the start of a run. -/
lemma init_first : (queuedFlow (Fin 3) 32).Init first := by
  refine ⟨rfl, rfl, fun a b => ?_⟩
  cases a <;> cases b <;> decide

/-- A stream is opened, a URB completes the first frame, and the reap thread enqueues it, but has
not signalled it yet. -/
def publishEvents : List (QueuedEvent (Fin 3)) :=
  (FrameFlow.openEvents 4).map .flow ++
    [.flow (.usb (.complete 0)), .flow (.usb (.reap fun _ => 0)), .flow (.usb (.reapUrb 0)),
      .queue .reap (.enqueue (some ⟨0, 0⟩)), .queue .reap .next, .queue .reap .next]

/-- The process thread comes to `wait_dequeue`, and `stopStreaming` to where it joins the thread. -/
def joinEvents : List (QueuedEvent (Fin 3)) :=
  (FrameFlow.openEvents 4).map .flow ++
    [.flow .process, .queue .process (.dequeue true), .flow .stopStreaming, .flow (.usb .stop),
      .flow (.usb .handler), .flow (.usb .handler), .flow (.usb (.reap fun _ => 0)),
      .flow (.usb .handler), .flow (.usb .handler), .flow (.usb .handler), .flow .stop,
      .queue .handler (.enqueue none), .queue .handler .next, .queue .handler .next,
      .queue .handler .next, .queue .handler .next, .queue .handler .ret]

/-- The first frame is in the list before it is signalled. -/
theorem exists_matches_publish :
    ∃ c, (queuedFlow (Fin 3) 32).ReachableUnder (Provided 32) c ∧
      c.entries = [some ⟨0, 0⟩] ∧ c.flow.fetching = none ∧
      ∃ s, frameFlow.Reachable s ∧ c.Matches s := by
  have h : ((queuedFlow (Fin 3) 32).runUnder (Provided 32) first publishEvents).map
      (fun c => (c.entries, c.flow.fetching)) = some ([some ⟨0, 0⟩], none) := by decide +kernel
  obtain ⟨c, hrun, heq⟩ := Option.map_eq_some_iff.mp h
  obtain ⟨hentries, hfetching⟩ := Prod.mk.inj heq
  have hreach := StepSystem.ReachableUnder.runUnder (.init init_first) hrun
  exact ⟨c, hreach, hentries, hfetching, exists_matches (by decide) hreach⟩

/-! ## Who has a frame -/

/-- The condition on a step: `returnFrameToPool` is called for a frame of the pool there is, if
there is one. -/
def ReturnsCurrent (c : QueuedFlow τ) : QueuedEvent τ → Prop
  | .flow e => c.flow.ReturnsCurrent e
  | .newThread _ _ | .queue _ _ => True

instance (c : QueuedFlow τ) (e : QueuedEvent τ) : Decidable (c.ReturnsCurrent e) :=
  match e with
  | .flow e => inferInstanceAs (Decidable (c.flow.ReturnsCurrent e))
  | .newThread _ _ | .queue _ _ => inferInstanceAs (Decidable True)

omit [DecidableEq τ] [Fintype τ] in
/-- The pool is that of the driver with a list. -/
lemma Matches.returnsCurrent {e : FlowEvent} (hm : c.Matches s) (h : c.flow.ReturnsCurrent e) :
    s.ReturnsCurrent e := by
  obtain ⟨lock, queue, drained, rfl, -⟩ := hm
  cases e with
  | returnFrameToPool r => exact h
  | _ => trivial

/-- While the stream is active, the frames of the pool are guarded by their native locks. -/
lemma guarded_now (hw : 0 < w)
    (h : (queuedFlow τ w).ReachableUnder (fun c e => c.Provided w e ∧ c.ReturnsCurrent e) c)
    (hactive : c.flow.streamActive = true) :
    Custody.Guarded {r | c.flow.InPool r} c.now.held c.flow.lock := by
  have hqueue : ∀ (s : FrameFlow) e, s.isQueued e = true → s.ReturnsCurrent e := fun s e he => by
    cases e with
    | returnFrameToPool r => cases he
    | _ => trivial
  obtain ⟨s, hs, hsound, hm⟩ := exists_matches_under (D := FrameFlow.ReturnsCurrent) hw
    (fun _ _ hc => hc.1) (fun c s e hm hc => hm.returnsCurrent hc.2) hqueue h
  have hcall : c.flow.call ≠ .stopDrain := by
    intro hdrain
    obtain ⟨lock, queue, drained, rfl, -⟩ := hm
    have hstops : (c.flow.ahead c.seen lock queue).call.Stops := by
      rw [FrameFlow.ahead_call, (hsound.inCall .handler).call_eq_stopDrain.mpr hdrain]
      trivial
    have hinactive := (FrameFlow.wellFormed_of_reachable hs).stops hstops
    rw [FrameFlow.ahead_streamActive, hactive] at hinactive
    cases hinactive
  obtain rfl := hm.eq_now hcall
  exact FrameFlow.owned_of_reachable hs hactive

/-- **A frame has one role at a time**: while the stream is active, each frame of the pool is at
most one of the input frame, in the queue once, with the process thread, delivered, or in the middle
of its return, and its native lock is set in each of these roles.

**Proof sketch.** This is so with a list for the queue. -/
theorem exclusive_now (hw : 0 < w)
    (h : (queuedFlow τ w).ReachableUnder (fun c e => c.Provided w e ∧ c.ReturnsCurrent e) c)
    (hactive : c.flow.streamActive = true) (r : FrameRef) (hr : c.flow.InPool r) :
    (∀ a b, 0 < c.now.held a r → 0 < c.now.held b r → a = b) ∧ (∀ a, c.now.held a r ≤ 1) ∧
      ∀ a, 0 < c.now.held a r → c.flow.lock r = true := by
  have hguarded := guarded_now hw h hactive
  exact ⟨fun a b => hguarded.role_unique hr, fun a => hguarded.held_le_one hr,
    fun a => hguarded.locked hr⟩

/-- The first frame is in the queue, and its lock is set. -/
theorem exclusive_now_publish :
    ∃ c, (queuedFlow (Fin 3) 32).ReachableUnder
        (fun c e => c.Provided 32 e ∧ c.ReturnsCurrent e) c ∧
      c.flow.streamActive = true ∧ c.flow.InPool ⟨0, 0⟩ ∧ c.now.held .queued ⟨0, 0⟩ = 1 ∧
      (∀ a b, 0 < c.now.held a ⟨0, 0⟩ → 0 < c.now.held b ⟨0, 0⟩ → a = b) ∧
      (∀ a, c.now.held a ⟨0, 0⟩ ≤ 1) ∧
      ∀ a, 0 < c.now.held a ⟨0, 0⟩ → c.flow.lock ⟨0, 0⟩ = true := by
  have h : ((queuedFlow (Fin 3) 32).runUnder
      (fun c e => c.Provided 32 e ∧ c.ReturnsCurrent e) first publishEvents).map
      (fun c => (c.flow.streamActive, c.flow.framePool, c.flow.framePoolSize,
        c.now.held .queued ⟨0, 0⟩)) = some (true, some 0, 4, 1) := by decide +kernel
  obtain ⟨c, hrun, heq⟩ := Option.map_eq_some_iff.mp h
  simp only [Prod.mk.injEq] at heq
  obtain ⟨hactive, hpool, hsize, hheld⟩ := heq
  have hreach := StepSystem.ReachableUnder.runUnder (.init init_first) hrun
  have hr : c.flow.InPool ⟨0, 0⟩ := ⟨hpool, by rw [hsize]; decide⟩
  exact ⟨c, hreach, hactive, hr, hheld, exclusive_now (by decide) hreach hactive _ hr⟩

/-! ## What the queue points to -/

/-- **No frame is freed that the queue points to**: a frame that is in the queue, that a thread has
got from it and has not returned with, or that the driver has a pointer to, is one of the pool there
is. -/
theorem inPool_of_entries (hw : 0 < w) (h : (queuedFlow τ w).ReachableUnder (Provided w) c)
    (r : FrameRef)
    (hr : some r ∈ c.entries ∨ (∃ caller, c.seen caller = .dequeued (some (some r))) ∨
      c.flow.usbInputFrame = .frame r ∨ c.flow.process.frame = some r) : c.flow.InPool r := by
  obtain ⟨s, hs, hsound, lock, queue, drained, rfl, hd⟩ := sound_of_reachable hw h
  refine (FrameFlow.wellFormed_of_reachable hs).inPool r ?_
  have hmem : some r ∈ queue ↔
      some r ∈ drained ∨ some r ∈ (c.seen .handler).inHand ∨ some r ∈ c.entries := by
    rw [hd.perm.mem_iff, List.mem_append, List.mem_append]
  rcases hr with hqueued | ⟨caller, hseen⟩ | hinput | hprocess
  · exact .inr (.inl (hmem.mpr (.inr (.inr hqueued))))
  · have hin := hsound.inCall caller
    rw [hseen] at hin
    cases caller with
    | handler =>
      refine .inr (.inl (hmem.mpr (.inr (.inl ?_))))
      rw [hseen]
      exact List.mem_singleton.mpr rfl
    | reap => exact hin.elim
    | process =>
      refine .inr (.inr ?_)
      rw [FrameFlow.ahead_process, hseen]
      rfl
  · exact .inl hinput
  · refine .inr (.inr ?_)
    have hout := (hsound.inCall .process).process_out fun hpc => by
      rw [hpc] at hprocess
      cases hprocess
    rw [FrameFlow.ahead_process, hout]
    exact hprocess

/-- The frame that is in the queue is one of the pool. -/
theorem inPool_of_entries_publish :
    ∃ c, (queuedFlow (Fin 3) 32).ReachableUnder (Provided 32) c ∧
      some ⟨0, 0⟩ ∈ c.entries ∧ c.flow.InPool ⟨0, 0⟩ := by
  have h : ((queuedFlow (Fin 3) 32).runUnder (Provided 32) first publishEvents).map entries =
      some [some ⟨0, 0⟩] := by decide +kernel
  obtain ⟨c, hrun, hentries⟩ := Option.map_eq_some_iff.mp h
  have hreach := StepSystem.ReachableUnder.runUnder (.init init_first) hrun
  have hmem : some ⟨0, 0⟩ ∈ c.entries := by
    rw [hentries]
    exact List.mem_singleton.mpr rfl
  exact ⟨c, hreach, hmem, inPool_of_entries (by decide) hreach ⟨0, 0⟩ (.inl hmem)⟩

/-! ## Joining the process thread -/

omit [Fintype τ] in
/-- While the process thread is joined, no other thread is in the queue. -/
lemma Sound.out_of_join (hs : c.Sound w) {lock : FrameRef → Bool} {queue : List (Option FrameRef)}
    (ht : frameFlow.Reachable (c.flow.ahead c.seen lock queue)) (hcall : c.flow.call = .stopJoin) :
    c.seen .handler = .out ∧ ∀ t ≠ c.thread .process, c.queue.place t = .out := by
  have hhandler : c.seen .handler = .out :=
    (hs.inCall .handler).handler_out (by rw [hcall]; exact nofun) (by rw [hcall]; exact nofun)
  have hclosed : c.flow.usb.handler = .closed := by
    have hfits := (FrameFlow.wellFormed_of_reachable ht).fits
    rwa [FrameFlow.ahead_call, hhandler, CallPc.call_out, hcall] at hfits
  have husb : (c.flow.ahead c.seen lock queue).usb.WellFormed := FrameFlow.usb_wellFormed ht
  refine ⟨hhandler, fun t hne => ?_⟩
  by_contra hplace
  obtain ⟨caller, rfl⟩ := hs.exists_caller hplace
  refine hplace ((QueuePc.seen_eq_out (q := c.queue.shared)).mp ?_)
  cases caller with
  | handler => exact hhandler
  | reap =>
    refine (hs.inCall .reap).reap_out ?_
    have hreap := husb.reapIdle (.inl hclosed)
    rw [FrameFlow.ahead_usb] at hreap
    rcases hreap with hreap | hreap <;> rw [hreap] <;> exact nofun
  | process => exact absurd rfl hne

/-- A process thread that is joined is not blocked in the queue. -/
lemma exists_move_of_join (hw : 0 < w) (h : (queuedFlow τ w).ReachableUnder (Provided w) c)
    (hcall : c.flow.call = .stopJoin) (hplace : c.place .process ≠ .out) :
    ∃ e r, c.queue.shared.move w (c.thread .process) (c.place .process) e = some r := by
  obtain ⟨s, hs, hsound, lock, queue, drained, rfl, hd⟩ := sound_of_reachable hw h
  obtain ⟨hhandler, hout⟩ := hsound.out_of_join hs hcall
  by_contra hnone
  have hstuck : ∀ e, c.queue.shared.move w (c.thread .process) (c.place .process) e = none :=
    fun e => Option.eq_none_iff_forall_ne_some.mpr fun r hr => hnone ⟨e, r, hr⟩
  have hblocked := blocked_of_stuck hw (hsound.compares hw) hplace hstuck
  have hempty : c.queue.shared.entries = [] := by
    refine entries_eq_nil_of_blocked hw (hsound.compares hw) hplace fun t ht => ?_
    by_cases hother : t = c.thread .process
    · rw [hother]
      exact hblocked
    · exact absurd (hout t hother) ht
  -- but the null frame is there
  have hseen : c.seen .process = .dequeuing false := by
    rw [seen, place, hblocked.1]
    rfl
  have hprocess : c.flow.process = .dequeue := by
    have hin := hsound.inCall .process
    rw [hseen] at hin
    exact hin.1
  have hnull : none ∈ queue := by
    refine (FrameFlow.posted_of_reachable hs).2 ?_ ?_
    · rw [FrameFlow.ahead_call, hhandler, CallPc.call_out, hcall]
    · rw [FrameFlow.ahead_process, hseen, hprocess]
      rfl
  rw [← (hd.same (by simp [hcall])).2, entries, hempty] at hnull
  cases hnull

omit [Fintype τ] in
/-- The process thread makes a move of the queue that it can make. -/
lemma exists_queueStep {e : QueueEvent (Option FrameRef)}
    {r : BlockingConcurrentQueue τ (Option FrameRef) × QueuePc τ (Option FrameRef)}
    (hcalls : c.flow.calls .process e = true)
    (hmove : c.queue.shared.move w (c.thread .process) (c.place .process) e = some r) :
    ∃ c', c.step w (.queue .process e) = some c' := by
  have hreturns : ∀ pc : QueuePc τ (Option FrameRef), ∃ flow,
      c.flow.returns .process pc = some flow := by
    intro pc
    cases pc with
    | done result => cases result <;> exact ⟨_, rfl⟩
    | _ => exact ⟨_, rfl⟩
  obtain ⟨flow, hflow⟩ := hreturns (c.place .process)
  have hstep : (queueCrew τ (Option FrameRef) w).step c.queue (c.thread .process, e) =
      some ⟨r.1, Function.update c.queue.place (c.thread .process) r.2⟩ :=
    Crew.step_eq_some.mpr ⟨r.1, r.2, hmove, rfl⟩
  show ∃ c', c.queueStep w .process e = some c'
  unfold queueStep
  rw [if_pos hcalls, hstep, Option.bind_some]
  cases e with
  | ret =>
    simp only [hflow, Option.map_some]
    exact ⟨_, rfl⟩
  | _ => exact ⟨_, rfl⟩

/-- **`stopStreaming` does not wait for a process thread that is blocked**: while it joins the
process thread, the thread has a step to take, in the queue or outside, until it has ended.

**Proof sketch.** The null frame is in the queue before the thread is joined, and the process thread
is the only one in the queue. So it finds a permit. -/
theorem exists_step_of_processJoin (hw : 0 < w) (h : (queuedFlow τ w).ReachableUnder (Provided w) c)
    (hcall : c.flow.call = .stopJoin) (hexited : c.flow.process ≠ .exited) :
    ∃ e c', (e = .flow .process ∨ ∃ e', e = .queue .process e') ∧ c.step w e = some c' := by
  by_cases hplace : c.place .process = .out
  · by_cases hdequeue : c.flow.process = .dequeue
    · -- it calls `wait_dequeue`
      obtain ⟨c', hc'⟩ := exists_queueStep (w := w) (c := c) (e := .dequeue true)
        (by simp [FrameFlow.calls, hdequeue]) (by rw [hplace]; rfl)
      exact ⟨_, c', .inr ⟨_, rfl⟩, hc'⟩
    · -- it goes on outside
      obtain ⟨s, hs, hsound, lock, queue, drained, rfl, -⟩ := sound_of_reachable hw h
      obtain ⟨hhandler, -⟩ := hsound.out_of_join hs hcall
      have hseen : c.seen .process = .out := QueuePc.seen_eq_out.mpr hplace
      have habsent : c.flow.process ≠ .absent := by
        have hposted := ((FrameFlow.posted_of_reachable hs).1 (.inr (by
          rw [FrameFlow.ahead_call, hhandler, CallPc.call_out, hcall]))).1
        rwa [FrameFlow.ahead_process, hseen, CallPc.process_out] at hposted
      obtain ⟨flow, hflow⟩ : ∃ flow, c.flow.step .process = some flow := by
        show ∃ flow, c.flow.processStep = some flow
        unfold FrameFlow.processStep
        cases hpc : c.flow.process with
        | absent => exact absurd hpc habsent
        | dequeue => exact absurd hpc hdequeue
        | exited => exact absurd hpc hexited
        | _ => exact ⟨_, rfl⟩
      refine ⟨.flow .process, { c with flow := flow, queue := c.queue }, .inl rfl, ?_⟩
      have hguard : c.flow.isQueued .process = false ∧
          ∀ caller ∈ FlowEvent.process.caller, c.place caller = .out := by
        refine ⟨rfl, fun caller hcaller => ?_⟩
        cases hcaller
        exact hplace
      show (if _ then _ else none) = _
      rw [if_pos hguard, hflow]
      rfl
  · obtain ⟨e, r, hmove⟩ := exists_move_of_join hw h hcall hplace
    have hcalls : c.flow.calls .process e = true := by
      cases e with
      | enqueue item => exact absurd (move_enqueue hmove).1 hplace
      | dequeue blocking => exact absurd (move_dequeue hmove rfl).1 hplace
      | _ => rfl
    obtain ⟨c', hc'⟩ := exists_queueStep hcalls hmove
    exact ⟨_, c', .inr ⟨_, rfl⟩, hc'⟩

/-- The process thread is in `wait_dequeue` when it is joined. -/
theorem exists_step_of_processJoin_dequeue :
    ∃ c, (queuedFlow (Fin 3) 32).ReachableUnder (Provided 32) c ∧
      c.flow.call = .stopJoin ∧ c.flow.process = .dequeue ∧ c.place .process ≠ .out ∧
      ∃ e c', (e = .flow .process ∨ ∃ e', e = .queue .process e') ∧ c.step 32 e = some c' := by
  have h : ((queuedFlow (Fin 3) 32).runUnder (Provided 32) first joinEvents).map
      (fun c => (c.flow.call, c.flow.process, c.place .process)) =
      some (.stopJoin, .dequeue, .acquire true .out) := by decide +kernel
  obtain ⟨c, hrun, heq⟩ := Option.map_eq_some_iff.mp h
  simp only [Prod.mk.injEq] at heq
  obtain ⟨hcall, hprocess, hplace⟩ := heq
  have hreach := StepSystem.ReachableUnder.runUnder (.init init_first) hrun
  exact ⟨c, hreach, hcall, hprocess, by rw [hplace]; exact nofun,
    exists_step_of_processJoin (by decide) hreach hcall (by rw [hprocess]; exact nofun)⟩

end QueuedFlow

end UsbTv
