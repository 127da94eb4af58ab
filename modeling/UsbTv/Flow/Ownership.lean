import Mathlib.Data.List.Perm.Basic
import UsbTv.Lib.Custody
import UsbTv.Flow.Pointers

set_option relaxedAutoImplicit false
set_option autoImplicit false

/-!
# Who has a frame

While a stream is active, a frame of the pool goes round: the reap thread writes it, it waits in
the process queue, the process thread has it, the listener has it, a consumer returns it. Nobody
has it before the one before has given it up, and its native lock is set all the way.

The second lock is what this rests on. A consumer that returns a frame twice, or late, finds
`mLocked` set, and `mLocked` is cleared only when the process thread has the frame again.

## Main definitions

* `UsbTv.Role`, `UsbTv.FrameFlow.held` — who has a frame.
* `UsbTv.FrameFlow.ReturnsCurrent` — consumers release frames of the current pool only.

## Main results

* `UsbTv.FrameFlow.owned_step` — each step hands a frame from one role to the next.
* `UsbTv.FrameFlow.exclusive_of_reachable` — a frame has one role at a time.
-/

namespace UsbTv

/-- The roles a frame of the pool can have. -/
inductive Role
  /-- It is `_usbInputFrame`. Once it is queued it is no longer, although `_usbInputFrame` still
  points to it until the next frame is fetched. -/
  | input
  /-- It is in the process queue. -/
  | queued
  /-- It was dequeued and not unlocked for the listener. -/
  | processed
  /-- It was delivered and not returned. -/
  | delivered
  /-- A consumer is in `returnFrame`, past `compareAndSet`. -/
  | returning
  deriving DecidableEq, Repr

instance : Fintype Role where
  elems := {.input, .queued, .processed, .delivered, .returning}
  complete a := by cases a <;> simp

namespace FrameFlow

/-- How often a frame has a role. -/
def held (s : FrameFlow) : Role → FrameRef → ℕ
  | .input, r => if s.usbInputFrame = .frame r ∧ s.fetching = none then 1 else 0
  | .queued, r => s.frameProcessQueue.count (some r)
  | .processed, r => (if s.process.frame = some r then 1 else 0) + s.skipped.count r
  | .delivered, r =>
    if (s.javaFrame r).delivered = true ∧ (s.javaFrame r).mLocked = false then 1 else 0
  | .returning, r => s.returning.count r

/-- The condition on a step: `returnFrameToPool` is called for a frame of the pool there is, if
there is one. Within one pool generation there are no others. -/
def ReturnsCurrent (s : FrameFlow) : FlowEvent → Prop
  | .returnFrameToPool r => s.framePool = none ∨ s.framePool = some r.pool
  | _ => True

instance (s : FrameFlow) (e : FlowEvent) : Decidable (ReturnsCurrent s e) :=
  match e with
  | .returnFrameToPool _ => inferInstanceAs (Decidable (_ ∨ _))
  | .usbtvInitialize _ | .dispose | .setFrameListener _ | .startStreaming _ | .stopStreaming
  | .usb _ | .stop | .addCompleteFrameToQueue _ | .fetch | .dequeue _ | .process
  | .returnFrame _ => inferInstanceAs (Decidable True)

/-- While the stream is active, the frames of the pool are guarded by their native locks. -/
def Owned (s : FrameFlow) : Prop :=
  s.streamActive = true → Custody.Guarded {r | s.InPool r} s.held s.lock

/-- Taking an entry out of a queue. -/
lemma count_eraseIdx {α : Type*} [BEq α] [LawfulBEq α] {l : List α} {k : ℕ} {x : α}
    (h : l[k]? = some x) (y : α) :
    l.count y = (l.eraseIdx k).count y + if x == y then 1 else 0 := by
  obtain ⟨hk, rfl⟩ := List.getElem?_eq_some_iff.mp h
  rw [← (List.getElem_cons_eraseIdx_perm hk).count_eq y, List.count_cons]

/-! ## One step -/

/-- A new pool is guarded: its first frame is the input frame, and nobody has the others. -/
lemma guarded_started {s : FrameFlow} (hs : WellFormed s) (hqueue : s.frameProcessQueue = [])
    (hpos : 0 < s.framePoolSize) (success attached : Bool) :
    Custody.Guarded {r | (s.started success attached).InPool r}
      (s.started success attached).held (s.started success attached).lock := by
  have hnew : ∀ r, (s.started success attached).InPool r → r.pool = s.pools := by
    rintro r ⟨hpool, -⟩
    exact (Option.some_inj.mp hpool).symm
  have hheld : ∀ r, (s.started success attached).InPool r → ∀ a, a ≠ .input →
      (s.started success attached).held a r ≤ 0 := by
    intro r hr a ha
    have hpool := hnew r hr
    cases a with
    | input => exact absurd rfl ha
    | queued => simp [held, started, hqueue]
    | processed =>
      have hskipped : r ∉ s.skipped := fun hmem => absurd (hs.skipped_lt r hmem) (by omega)
      simp [held, started, ProcessPc.frame, List.count_eq_zero.mpr hskipped]
    | delivered => simp [held, started, hpool, JavaFrame.new]
    | returning =>
      have hreturning : r ∉ s.returning := fun hmem => absurd (hs.returning_lt r hmem) (by omega)
      simp [held, started, List.count_eq_zero.mpr hreturning]
  have hnone : Custody.Guarded {r | (s.started success attached).InPool r}
      (fun (_ : Role) _ => 0) (fun _ => false) := by
    intro r _
    simp
  refine hnone.take (a := .input) (i := ⟨s.pools, 0⟩) rfl (by simp [started]) ?_
    (hheld _ ⟨rfl, hpos⟩) (fun r hr hne a => ?_) (fun r hr hne => ?_)
  · simp only [held]
    split_ifs <;> omega
  · by_cases ha : a = .input
    · subst ha
      simp [held, started, hne.symm]
    · exact hheld r hr a ha
  · simp [started, hne, hnew r hr]

/-- The reap thread hands the input frame over to the queue. -/
lemma owned_addCompleteFrameToQueue {s s' : FrameFlow} {enqueued : Bool} (hs : Owned s)
    (h : s.addCompleteFrameToQueue enqueued = some s') : Owned s' := by
  obtain ⟨r, hr, -, hfetching, rfl | rfl⟩ := addCompleteFrameToQueue_cases h
  · exact hs
  intro hactive
  refine (hs hactive).handOver (a := .input) (b := .queued) (i := r) (by simp) ?_ ?_ ?_ ?_
  · simp [held, hr, hfetching]
  · simp [held]
  · intro c hc hc'
    cases c with
    | input => exact absurd rfl hc
    | queued => exact absurd rfl hc'
    | processed | delivered | returning => exact le_rfl
  · intro r' _ hne c
    cases c with
    | input => simp [held]
    | queued => simp [held, hne.symm]
    | processed | delivered | returning => exact le_rfl

/-- The reap thread takes an unlocked frame of the pool. -/
lemma owned_fetchStep {s s' : FrameFlow} (hs : Owned s) (h : s.fetchStep = some s') :
    Owned s' := by
  obtain ⟨index, pool, hindex, -, ⟨-, hunlocked, rfl⟩ | ⟨next, -, rfl⟩ | ⟨hinactive, rfl⟩⟩ :=
    fetchStep_cases h
  · intro hactive
    refine (hs hactive).take (a := .input) (i := ⟨pool, index⟩) hunlocked
      (Function.update_self _ _ _) ?_ ?_ ?_ (fun r _ hne => Function.update_of_ne hne _ _)
    · simp [held]
    · intro c hc
      cases c with
      | input => exact absurd rfl hc
      | queued | processed | delivered | returning => exact le_rfl
    · intro r _ hne c
      cases c with
      | input => simp [held, hne.symm]
      | queued | processed | delivered | returning => exact le_rfl
  · intro hactive
    refine (hs hactive).mono (fun r _ c => ?_) fun _ _ => rfl
    cases c with
    | input => simp [held]
    | queued | processed | delivered | returning => exact le_rfl
  · intro hactive
    exact absurd (hinactive.symm.trans hactive) (by simp)

/-- The process thread takes a frame from the queue. -/
lemma owned_dequeueStep {s s' : FrameFlow} {k : ℕ} (hs : Owned s)
    (h : s.dequeueStep k = some s') : Owned s' := by
  obtain ⟨hpc, entry, pc, hentry, rfl, -, rfl⟩ := dequeueStep_cases h
  have hnone : s.process.frame = none := by rw [hpc]; rfl
  intro hactive
  have hcount := count_eraseIdx hentry
  cases hframe : pc.frame with
  | none =>
    refine (hs hactive).mono (fun r _ c => ?_) fun _ _ => rfl
    cases c with
    | queued =>
      have hr := hcount (some r)
      simp only [held]
      omega
    | processed => simp [held, hframe]
    | input | delivered | returning => exact le_rfl
  | some r =>
    rw [hframe] at hcount
    refine (hs hactive).handOver (a := .queued) (b := .processed) (i := r) (by simp) ?_ ?_ ?_ ?_
    · have hr := hcount (some r)
      rw [beq_self_eq_true, if_pos rfl] at hr
      simp only [held]
      omega
    · simp [held, hframe, hnone]
      omega
    · intro c hc hc'
      cases c with
      | queued => exact absurd rfl hc
      | processed => exact absurd rfl hc'
      | input | delivered | returning => exact le_rfl
    · intro r' _ hne c
      cases c with
      | queued =>
        have hr := hcount (some r')
        simp only [held]
        omega
      | processed => simp [held, hframe, hne.symm]
      | input | delivered | returning => exact le_rfl

/-- The process thread keeps its frame, passes over it, or delivers it. -/
lemma owned_processStep {s s' : FrameFlow} (hs : Owned s) (h : s.processStep = some s') :
    Owned s' := by
  intro hactive
  rcases processStep_cases h with ⟨pc, hframe, -, hnone, -, rfl⟩ |
    ⟨r, hframe, ⟨pc, hpc, -, rfl⟩ | rfl⟩ | ⟨r, hpc, rfl⟩
  · refine (hs hactive).mono (fun r _ c => ?_) fun _ _ => rfl
    cases c with
    | processed => simp [held, hnone]
    | input | queued | delivered | returning => exact le_rfl
  · refine (hs hactive).mono (fun r' _ c => ?_) fun _ _ => rfl
    cases c with
    | processed => simp [held, hframe, hpc]
    | input | queued | delivered | returning => exact le_rfl
  · refine (hs hactive).mono (fun r' _ c => ?_) fun _ _ => rfl
    cases c with
    | processed =>
      simp only [held, skip, ProcessPc.frame_test, hframe, List.count_cons, beq_iff_eq,
        Option.some_inj, reduceCtorEq, if_false]
      omega
    | input | queued | delivered | returning => exact le_rfl
  · have hframe : s.process.frame = some r := by rw [hpc]; rfl
    refine (hs hactive).handOver (a := .processed) (b := .delivered) (i := r) (by simp)
      ?_ ?_ ?_ ?_
    · simp only [held, hframe, ProcessPc.frame_deliver, reduceCtorEq, if_false, if_true]
      omega
    · simp [held]
    · intro c hc hc'
      cases c with
      | processed => exact absurd rfl hc
      | delivered => exact absurd rfl hc'
      | input | queued | returning => exact le_rfl
    · intro r' _ hne c
      cases c with
      | processed => simp [held]
      | delivered => simp [held, hne]
      | input | queued | returning => exact le_rfl

/-- A consumer starts to return a frame. -/
lemma owned_returnFrame {s s' : FrameFlow} {r : FrameRef} (hs : Owned s)
    (h : s.returnFrame r = some s') : Owned s' := by
  obtain ⟨hdelivered, rfl | ⟨hunlocked, rfl⟩⟩ := returnFrame_cases h
  · exact hs
  intro hactive
  refine (hs hactive).handOver (a := .delivered) (b := .returning) (i := r) (by simp) ?_ ?_ ?_ ?_
  · simp [held, hdelivered, hunlocked]
  · simp [held]
  · intro c hc hc'
    cases c with
    | delivered => exact absurd rfl hc
    | returning => exact absurd rfl hc'
    | input | queued | processed => exact le_rfl
  · intro r' _ hne c
    cases c with
    | delivered => simp [held, hne]
    | returning => simp [held, hne.symm]
    | input | queued | processed => exact le_rfl

/-- A consumer releases a frame of the pool. -/
lemma owned_returnStep {s s' : FrameFlow} {r : FrameRef} (hs : Owned s)
    (hc : s.framePool = none ∨ s.framePool = some r.pool) (h : s.returnStep r = some s') :
    Owned s' := by
  obtain ⟨hr, ⟨-, rfl⟩ | ⟨pool, hpool, -, rfl⟩⟩ := returnStep_cases h
  · intro hactive
    refine (hs hactive).mono (fun r' _ c => ?_) fun _ _ => rfl
    cases c with
    | returning =>
      simp only [held, List.count_erase]
      omega
    | input | queued | processed | delivered => exact le_rfl
  · have hr' : (⟨pool, r.index⟩ : FrameRef) = r := by
      rw [hpool] at hc
      simp only [reduceCtorEq, Option.some_inj, false_or] at hc
      rw [hc]
    intro hactive
    refine (hs hactive).giveUp (a := .returning) (i := r) ?_ ?_ ?_ ?_
    · have hpos := List.count_pos_iff.mpr hr
      simp only [held, List.count_erase_self]
      omega
    · intro c hc
      cases c with
      | returning => exact absurd rfl hc
      | input | queued | processed | delivered => exact le_rfl
    · intro r' _ hne c
      cases c with
      | returning => simp [held, List.count_erase_of_ne hne]
      | input | queued | processed | delivered => exact le_rfl
    · intro r' _ hne
      simp [hr', hne]

/-- A start makes a new pool, or the stream is as it was or has no pool. -/
lemma owned_startStreaming {s s' : FrameFlow} {outcome : StartOutcome} (hw : WellFormed s)
    (hs : Owned s) (hcall : s.call = .idle) (h : s.startStreaming outcome = some s') :
    Owned s' := by
  rcases hw.startStreaming_cases hcall h with ⟨streaming, rfl⟩ | ⟨hpool, streaming, rfl⟩ |
    ⟨success, attached, -, hactive, hpos, rfl⟩
  · exact hs
  · rintro - r ⟨hr, -⟩
    simp [hpool] at hr
  · obtain ⟨-, -, hqueue, -⟩ := hw.idle hactive hcall
    exact fun _ => guarded_started hw hqueue hpos success attached

/-- **Each step hands a frame from one role to the next**, or leaves it where it is.

**Proof sketch.** One case for each event. The handler thread makes a new pool, in which nobody
has a frame but the reap thread the first one; where it takes frames back, the stream is no longer
active. The reap thread queues its frame and takes an unlocked one, the process thread dequeues
a frame and delivers it, a consumer starts to return a frame, and releases it: by the condition it
is the one that it had. -/
lemma owned_step {s s' : FrameFlow} {e : FlowEvent} (hw : WellFormed s) (hs : Owned s)
    (hc : ReturnsCurrent s e) (h : s.step e = some s') : Owned s' := by
  cases e with
  | usbtvInitialize mFramePoolSize =>
    obtain ⟨-, rfl⟩ := usbtvInitialize_cases h
    intro hactive
    simp [construct] at hactive
  | dispose =>
    obtain ⟨-, rfl⟩ := dispose_cases h
    exact hs
  | setFrameListener listener =>
    obtain rfl | ⟨useCallback, rfl⟩ := setFrameListener_cases h
    · exact hs
    · exact hs
  | startStreaming outcome =>
    obtain ⟨hguard, h⟩ := startStreaming_guard h
    exact owned_startStreaming hw hs hguard.2 h
  | stopStreaming =>
    obtain ⟨-, rfl⟩ := stopStreaming_cases h
    intro hactive
    simp at hactive
  | usb e =>
    obtain ⟨usb, call, streaming, -, -, rfl⟩ := usbStep_cases h
    exact hs
  | stop =>
    intro hactive
    exact absurd ((hw.inactive_stopStep h).symm.trans hactive) (by simp)
  | addCompleteFrameToQueue enqueued => exact owned_addCompleteFrameToQueue hs h
  | fetch => exact owned_fetchStep hs h
  | dequeue k => exact owned_dequeueStep hs h
  | process => exact owned_processStep hs h
  | returnFrame r => exact owned_returnFrame hs h
  | returnFrameToPool r => exact owned_returnStep hs hc h

/-- In every run in which consumers release frames of the current pool only, the frames of the
pool are guarded while the stream is active. -/
lemma owned_of_reachable {s : FrameFlow} (h : frameFlow.ReachableUnder ReturnsCurrent s) :
    Owned s := by
  refine StepSystem.ReachableUnder.invariant (I := Owned) ?_
    (fun s e s' hr hs hc hstep => owned_step (wellFormed_of_reachable hr) hs hc hstep) h
  rintro s rfl hactive
  simp [new] at hactive

/-! ## The roles of a frame -/

/-- **A frame has one role at a time**: while the stream is active, each frame of the pool is at
most one of the input frame, queued once, with the process thread, delivered, or in the middle of
its return; its native lock is set in each of these roles; and `clearFrameLock` is called for it
in none of them but the last. -/
theorem exclusive_of_reachable {s : FrameFlow} (h : frameFlow.ReachableUnder ReturnsCurrent s)
    (hactive : s.streamActive = true) (r : FrameRef) (hr : s.InPool r) :
    (∀ a b, 0 < s.held a r → 0 < s.held b r → a = b) ∧
      (∀ a, s.held a r ≤ 1) ∧
      (∀ a, 0 < s.held a r → s.lock r = true) ∧
      ∀ r' s', ReturnsCurrent s (.returnFrameToPool r') →
        s.step (.returnFrameToPool r') = some s' → r'.index = r.index →
          ∀ a, a ≠ .returning → s.held a r = 0 := by
  have hguarded := owned_of_reachable h hactive
  refine ⟨fun a b => hguarded.role_unique hr, fun a => hguarded.held_le_one hr,
    fun a => hguarded.locked hr, fun r' s' hc hstep hindex a ha => ?_⟩
  obtain ⟨hmem, -⟩ := returnStep_cases hstep
  obtain rfl : r' = r := by
    have hpool : r'.pool = r.pool := by
      rcases hc with hnone | hpool
      · exact absurd hr.1 (by simp [hnone])
      · exact Option.some_inj.mp (hpool.symm.trans hr.1)
    cases r
    cases r'
    simp only at hpool hindex
    rw [hpool, hindex]
  by_contra hpos
  have hreturning : 0 < s.held .returning r' := List.count_pos_iff.mpr hmem
  exact ha (hguarded.role_unique hr (Nat.pos_of_ne_zero hpos) hreturning)

/-- The first frame of a first stream is delivered, and a consumer is about to release it. -/
theorem exclusive_of_reachable_firstFrame :
    ∃ s, frameFlow.ReachableUnder ReturnsCurrent s ∧ s.streamActive = true ∧
      s.InPool ⟨0, 0⟩ ∧ (s.step (.returnFrameToPool ⟨0, 0⟩)).isSome = true ∧
      (∀ a b, 0 < s.held a ⟨0, 0⟩ → 0 < s.held b ⟨0, 0⟩ → a = b) ∧
      (∀ a, s.held a ⟨0, 0⟩ ≤ 1) ∧
      (∀ a, 0 < s.held a ⟨0, 0⟩ → s.lock ⟨0, 0⟩ = true) ∧
      ∀ r' s', ReturnsCurrent s (.returnFrameToPool r') →
        s.step (.returnFrameToPool r') = some s' → r'.index = 0 →
          ∀ a, a ≠ .returning → s.held a ⟨0, 0⟩ = 0 := by
  have h : (frameFlow.runUnder ReturnsCurrent new
      (openEvents 4 ++ deliverEvents ++ [.returnFrame ⟨0, 0⟩])).map
      (fun s => (s.streamActive, s.framePool, s.framePoolSize,
        (s.step (.returnFrameToPool ⟨0, 0⟩)).isSome)) = some (true, some 0, 4, true) := by decide
  obtain ⟨s, hrun, heq⟩ := Option.map_eq_some_iff.mp h
  simp only [Prod.mk.injEq] at heq
  obtain ⟨hactive, hpool, hsize, hstep⟩ := heq
  have hs : frameFlow.ReachableUnder ReturnsCurrent s :=
    StepSystem.ReachableUnder.runUnder (.init rfl) hrun
  have hr : s.InPool ⟨0, 0⟩ := ⟨hpool, by rw [hsize]; decide⟩
  exact ⟨s, hs, hactive, hr, hstep, exclusive_of_reachable hs hactive _ hr⟩

end FrameFlow

end UsbTv
