import UsbTv.Flow.Leaks
import UsbTv.Flow.Packets

set_option relaxedAutoImplicit false
set_option autoImplicit false

/-!
# Dropping or waiting

A completed frame is dropped if the process queue has no room for it, which is made for one frame
less than the pool has. Otherwise it is queued, and `fetchFrameFromPool` "will block until an
unlocked frame is received". The queue alone can never have all frames of the pool. But the
process thread and the consumers have frames too, and nothing of that is looked at when a frame is
queued: with all frames away the reap thread waits for a consumer.

## Main definitions

* `UsbTv.FrameFlow.Bounded` — the queue takes one frame less than the pool has.
* `UsbTv.FrameFlow.Away` — a frame that waits, is processed, or is with a consumer.

## Main results

* `UsbTv.FrameFlow.run_fetch_of_unlocked` — the search ends if a frame is unlocked.
* `UsbTv.FrameFlow.drops_or_waits` — what happens to a completed frame.
* `UsbTv.FrameFlow.locked_of_away` — if all frames are away, none is unlocked.
-/

namespace UsbTv

namespace FrameFlow

/-- The condition on a step: `try_enqueue` succeeds only while the queue has fewer than
`_framePoolSize - 1` entries. -/
def Bounded (s : FrameFlow) : FlowEvent → Prop
  | .addCompleteFrameToQueue enqueued =>
    enqueued = true → s.frameProcessQueue.length < s.framePoolSize - 1
  | _ => True

instance (s : FrameFlow) (e : FlowEvent) : Decidable (Bounded s e) :=
  match e with
  | .addCompleteFrameToQueue _ => inferInstanceAs (Decidable (_ → _))
  | .usbtvInitialize _ | .dispose | .setFrameListener _ | .startStreaming _ | .stopStreaming
  | .usb _ | .stop | .fetch | .dequeue _ | .process | .returnFrame _
  | .returnFrameToPool _ => inferInstanceAs (Decidable True)

/-- The frame is in the queue, was dequeued and not delivered, or is with a consumer. -/
def Away (s : FrameFlow) (r : FrameRef) : Prop :=
  some r ∈ s.frameProcessQueue ∨ 0 < s.held .processed r ∨ s.Out r

/-! ## The search for a frame -/

/-- A pool that was allocated has fewer than 256 frames. -/
lemma framePoolSize_lt {C : FrameFlow → FlowEvent → Prop} {s : FrameFlow}
    (h : frameFlow.ReachableUnder C s) : s.framePool ≠ none → s.framePoolSize < 2 ^ 8 := by
  refine StepSystem.ReachableUnder.invariant
    (I := fun s => s.framePool ≠ none → s.framePoolSize < 2 ^ 8) ?_ ?_ h
  · rintro s rfl hsome
    exact absurd rfl hsome
  · intro s e s' hr hs _ hstep hsome
    have hw := wellFormed_of_reachable hr
    rcases step_out hw hstep with ⟨hpool, hsize, -⟩ |
      ⟨-, ⟨-, -, hnone⟩ | ⟨-, hnone⟩ | ⟨success, attached, rfl, hactive, hpool⟩⟩
    · rw [hsize]
      exact hs (hpool ▸ hsome)
    · exact absurd hnone hsome
    · exact absurd hnone hsome
    · simp only [frameFlow, step] at hstep
      split_ifs at hstep with hguard
      have hprocess := (hw.idle hactive hguard.2).2.1
      obtain ⟨-, hlt, rfl⟩ := startStreaming_of_unpooled hactive hpool hprocess hstep
      exact hlt

/-- **The search ends if a frame of the pool is unlocked**: the reap thread takes it, without a
step of any other thread. -/
lemma run_fetch_of_unlocked {s : FrameFlow} {pool : ℕ} (hpool : s.framePool = some pool)
    (hactive : s.streamActive = true) (hsize : s.framePoolSize < 2 ^ 8)
    (hfetching : s.fetching = some 0) {r : FrameRef} (hr : s.InPool r) (hlock : s.lock r = false) :
    ∃ k r' s', frameFlow.run s (List.replicate k .fetch) = some s' ∧ s'.fetching = none ∧
      s'.usbInputFrame = .frame r' ∧ s.InPool r' ∧ s.lock r' = false := by
  have hexists : ∃ i, i < s.framePoolSize ∧ s.lock ⟨pool, i⟩ = false := by
    obtain rfl := Option.some_inj.mp (hpool.symm.trans hr.1)
    exact ⟨r.index, hr.2, hlock⟩
  classical
  obtain ⟨hlt, hunlocked⟩ := Nat.find_spec hexists
  have hlocked : ∀ i < Nat.find hexists, s.lock ⟨pool, i⟩ = true := by
    intro i hi
    have hnot := Nat.find_min hexists hi
    rw [not_and, Bool.not_eq_false] at hnot
    exact hnot (hi.trans hlt)
  have hrun := run_fetch hpool hactive hsize hlt hunlocked hlocked (Nat.find hexists) le_rfl
  have hself : { s with fetching := some (Nat.find hexists - Nat.find hexists) } = s := by
    rw [Nat.sub_self, ← hfetching]
  rw [hself] at hrun
  exact ⟨_, ⟨pool, Nat.find hexists⟩, _, hrun, rfl, rfl, ⟨hpool, hlt⟩, hunlocked⟩

/-! ## A completed frame -/

/-- A queue with fewer entries than the pool has frames lacks one of them. -/
lemma exists_not_mem_queue {s : FrameFlow} {pool : ℕ} (hpool : s.framePool = some pool)
    (hlen : s.frameProcessQueue.length < s.framePoolSize) :
    ∃ r, s.InPool r ∧ some r ∉ s.frameProcessQueue := by
  by_contra hall
  push Not at hall
  have hnodup : ((List.range s.framePoolSize).map fun i =>
      some (⟨pool, i⟩ : FrameRef)).Nodup :=
    List.nodup_range.map fun i j hij => by simpa using hij
  have hsubset : ((List.range s.framePoolSize).map fun i => some (⟨pool, i⟩ : FrameRef)) ⊆
      s.frameProcessQueue := by
    intro entry hentry
    obtain ⟨i, hi, rfl⟩ := List.mem_map.mp hentry
    exact hall ⟨pool, i⟩ ⟨hpool, List.mem_range.mp hi⟩
  have hle := (List.subperm_of_subset hnodup hsubset).length_le
  rw [List.length_map, List.length_range] at hle
  omega

/-- If no frame of the pool is unlocked while the reap thread searches for one, all are away. -/
lemma away_of_locked {C : FrameFlow → FlowEvent → Prop} {s : FrameFlow}
    (h : frameFlow.ReachableUnder C s) (hactive : s.streamActive = true)
    (hfetching : s.fetching ≠ none) (hlocked : ∀ r, s.InPool r → s.lock r = true) (r : FrameRef)
    (hr : s.InPool r) : s.Away r := by
  obtain ⟨a, ha⟩ := covered_of_reachable h hactive r hr (hlocked r hr)
  cases a with
  | input => simp [held, hfetching] at ha
  | queued => exact .inl (List.count_pos_iff.mp ha)
  | processed => exact .inr (.inl ha)
  | delivered => exact .inr (.inr (.inl ha))
  | returning => exact .inr (.inr (.inr ha))

/-- **Dropping or waiting.** While the stream is active and the queue takes one frame less than
the pool has, a completed frame that is queued leaves an unlocked frame, which the reap thread gets
without waiting for anybody, unless all frames of the pool are in the queue, with the process thread
or with consumers, and not all of them in the queue. A completed frame that is not queued is kept,
and counted as dropped. -/
theorem drops_or_waits {s : FrameFlow} (h : frameFlow.ReachableUnder Bounded s)
    (hactive : s.streamActive = true) :
    (∀ s', Bounded s (.addCompleteFrameToQueue true) →
      s.step (.addCompleteFrameToQueue true) = some s' →
        (∃ k r s'', s'.InPool r ∧ s'.lock r = false ∧
            frameFlow.run s' (List.replicate k .fetch) = some s'' ∧ s''.fetching = none ∧
            s''.usbInputFrame = .frame r) ∨
          (∀ r, s'.InPool r → s'.lock r = true ∧ s'.Away r) ∧
            ∃ r, s'.InPool r ∧ some r ∉ s'.frameProcessQueue) ∧
    ∀ s' a pool, s.step (.addCompleteFrameToQueue false) = some s' → s.Sees a pool →
      s' = s ∧ s'.Sees (a.addCompleteFrameToQueue fun _ => .refused) pool ∧
        (a.addCompleteFrameToQueue fun _ => .refused).droppedFrameCounter =
          (a.droppedFrameCounter + 1) % 2 ^ 32 := by
  constructor
  · intro s' hc hstep
    have hs' := h.step hc hstep
    obtain ⟨r₀, hr₀, -, -, heq | heq⟩ := addCompleteFrameToQueue_cases hstep
    · -- a frame that is queued makes the queue longer
      have hqueue : s'.frameProcessQueue = s.frameProcessQueue ++ [some r₀] := by
        have hadd := hstep
        simp only [step, addCompleteFrameToQueue, hr₀, if_true] at hadd
        split_ifs at hadd
        rw [← Option.some_inj.mp hadd]
      rw [heq] at hqueue
      simp at hqueue
    have hin : s.InPool r₀ := (wellFormed_of_reachable h).inPool r₀ (.inl hr₀)
    have hactive' : s'.streamActive = true := by rw [heq]; exact hactive
    have hpool' : s'.framePool = some r₀.pool := by rw [heq]; exact hin.1
    have hfetching : s'.fetching = some 0 := by rw [heq]
    by_cases hunlocked : ∃ r, s'.InPool r ∧ s'.lock r = false
    · obtain ⟨r, hr, hlock⟩ := hunlocked
      obtain ⟨k, r', s'', hrun, hdone, hinput, hr', hlock'⟩ :=
        run_fetch_of_unlocked hpool' hactive' (framePoolSize_lt hs' (by simp [hpool'])) hfetching
          hr hlock
      exact .inl ⟨k, r', s'', hr', hlock', hrun, hdone, hinput⟩
    · push Not at hunlocked
      have hlocked : ∀ r, s'.InPool r → s'.lock r = true := fun r hr => by
        simpa using hunlocked r hr
      refine .inr ⟨fun r hr => ⟨hlocked r hr,
        away_of_locked hs' hactive' (by simp [hfetching]) hlocked r hr⟩, ?_⟩
      apply exists_not_mem_queue hpool'
      have hroom := hc rfl
      rw [heq]
      simp only [List.length_append, List.length_singleton]
      omega
  · intro s' a pool hstep hsees
    have heq : s' = s := by
      simp only [step, addCompleteFrameToQueue, hsees.usbInputFrame, Bool.false_eq_true,
        if_false] at hstep
      split_ifs at hstep
      exact (Option.some_inj.mp hstep).symm
    have hsame : (a.addCompleteFrameToQueue fun _ => .refused).SameLocks a := by
      have hcount : a.recordHandover.countDropped.SameLocks a := ⟨rfl, fun _ => rfl⟩
      exact hcount.setFlags frameStart
    subst heq
    exact ⟨rfl, hsees.congr hsame, rfl⟩

/-- The second frame of a first stream is completed while the first one is delivered: of four
frames, the third one is unlocked. -/
theorem drops_or_waits_secondFrame :
    ∃ s s', frameFlow.ReachableUnder Bounded s ∧ s.streamActive = true ∧
      Bounded s (.addCompleteFrameToQueue true) ∧
      s.step (.addCompleteFrameToQueue true) = some s' ∧
      ((∃ k r s'', s'.InPool r ∧ s'.lock r = false ∧
          frameFlow.run s' (List.replicate k .fetch) = some s'' ∧ s''.fetching = none ∧
          s''.usbInputFrame = .frame r) ∨
        (∀ r, s'.InPool r → s'.lock r = true ∧ s'.Away r) ∧
          ∃ r, s'.InPool r ∧ some r ∉ s'.frameProcessQueue) := by
  have h : (frameFlow.runUnder Bounded new (openEvents 4 ++ deliverEvents)).map
      (fun s => (s.streamActive, decide (Bounded s (.addCompleteFrameToQueue true)),
        (s.step (.addCompleteFrameToQueue true)).isSome)) = some (true, true, true) := by decide
  obtain ⟨s, hrun, heq⟩ := Option.map_eq_some_iff.mp h
  simp only [Prod.mk.injEq, decide_eq_true_eq] at heq
  obtain ⟨hactive, hroom, hstep⟩ := heq
  obtain ⟨s', hs'⟩ := Option.isSome_iff_exists.mp hstep
  have hs : frameFlow.ReachableUnder Bounded s :=
    StepSystem.ReachableUnder.runUnder (.init rfl) hrun
  exact ⟨s, s', hs, hactive, hroom, hs', (drops_or_waits hs hactive).1 s' hroom hs'⟩

/-- **A frame queued with no frame unlocked**: of a pool of two frames, the first one is with a
consumer when the second one is completed. The queue is empty and takes it, and the reap thread
waits for the consumer. -/
theorem queued_without_unlocked :
    ¬ ∀ s s', frameFlow.ReachableUnder Bounded s → s.streamActive = true →
      Bounded s (.addCompleteFrameToQueue true) →
      s.step (.addCompleteFrameToQueue true) = some s' →
        ∃ r, s'.InPool r ∧ s'.lock r = false := by
  intro hclaim
  have h : (frameFlow.runUnder Bounded new (openEvents 2 ++ deliverEvents)).bind (fun s =>
      (s.step (.addCompleteFrameToQueue true)).map fun s' =>
        ((s.streamActive, decide (Bounded s (.addCompleteFrameToQueue true))),
          (s'.framePool, s'.framePoolSize), s'.lock ⟨0, 0⟩, s'.lock ⟨0, 1⟩)) =
      some ((true, true), (some 0, 2), true, true) := by decide
  obtain ⟨s, hrun, h⟩ := Option.bind_eq_some_iff.mp h
  obtain ⟨s', hstep, heq⟩ := Option.map_eq_some_iff.mp h
  simp only [Prod.mk.injEq, decide_eq_true_eq] at heq
  obtain ⟨⟨hactive, hroom⟩, ⟨hpool, hsize⟩, hfirst, hsecond⟩ := heq
  have hs : frameFlow.ReachableUnder Bounded s :=
    StepSystem.ReachableUnder.runUnder (.init rfl) hrun
  obtain ⟨⟨pool, index⟩, ⟨hpool', hindex⟩, hunlocked⟩ := hclaim s s' hs hactive hroom hstep
  obtain rfl := Option.some_inj.mp (hpool.symm.trans hpool')
  rw [hsize] at hindex
  obtain rfl | rfl : index = 0 ∨ index = 1 := Nat.le_one_iff_eq_zero_or_eq_one.mp
    (Nat.lt_succ_iff.mp hindex)
  · exact absurd (hfirst.symm.trans hunlocked) (by decide)
  · exact absurd (hsecond.symm.trans hunlocked) (by decide)

/-- **If all frames are away, none is unlocked**, as long as consumers release frames of the current
pool only: then the reap thread gets no frame before one of them is returned. -/
theorem locked_of_away {s : FrameFlow} (h : frameFlow.ReachableUnder ReturnsCurrent s)
    (hactive : s.streamActive = true) {r : FrameRef} (hr : s.InPool r) (haway : s.Away r) :
    s.lock r = true := by
  have hguarded := owned_of_reachable h hactive
  rcases haway with hqueue | hprocessed | hdelivered | hreturning
  · have hqueued : 0 < s.held .queued r := List.count_pos_iff.mpr hqueue
    exact hguarded.locked hr hqueued
  · exact hguarded.locked hr hprocessed
  · exact hguarded.locked hr hdelivered
  · exact hguarded.locked hr hreturning

end FrameFlow

end UsbTv
