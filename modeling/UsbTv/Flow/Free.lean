import UsbTv.Flow.Ownership

set_option relaxedAutoImplicit false
set_option autoImplicit false

/-!
# Freeing the pool

`stopStreaming` joins the reap thread and the process thread, and takes back the frames that they
and the queue have. It does not wait for the consumers. `freeFramePool` tests the lock of each
frame, and where it is still set says so in the log and frees the buffer all the same. A consumer
that still has the frame then reads freed memory through its `ByteBuffer`.

Once the process thread is joined nothing is delivered any more. So what counts is what consumers
have returned by then.

## Main definitions

* `UsbTv.FrameFlow.JoinsReturned` — the process thread is joined when all frames are returned.
* `UsbTv.FrameFlow.FreesReturned` — nothing that is about to be freed is delivered.

## Main results

* `UsbTv.FrameFlow.not_delivered_of_freeFramePool` — runs with such joins.
* `UsbTv.FrameFlow.exists_freed_of_join` — any other join can go wrong.
-/

namespace UsbTv

namespace FrameFlow

/-- The condition on a step: where `stopStreaming` has the process thread joined, no frame of the
pool is delivered and not returned. -/
def JoinsReturned (s : FrameFlow) : FlowEvent → Prop
  | .stop =>
    s.call = .stopJoin → s.process = .exited → ∀ r, s.InPool r → s.held .delivered r = 0
  | _ => True

/-- What holds of all frames of the pool is checked index by index. -/
lemma forall_inPool_iff {s : FrameFlow} {p : FrameRef → Prop} :
    (∀ r, s.InPool r → p r) ↔ ∀ pool ∈ s.framePool, ∀ i < s.framePoolSize, p ⟨pool, i⟩ :=
  ⟨fun h pool hpool i hi => h ⟨pool, i⟩ ⟨hpool, hi⟩,
    fun h r ⟨hpool, hi⟩ => h r.pool hpool r.index hi⟩

instance (s : FrameFlow) (e : FlowEvent) : Decidable (JoinsReturned s e) :=
  match e with
  | .stop =>
    have : Decidable (∀ r, s.InPool r → s.held .delivered r = 0) :=
      decidable_of_iff _ forall_inPool_iff.symm
    inferInstanceAs (Decidable (_ → _ → _))
  | .usbtvInitialize _ | .dispose | .setFrameListener _ | .startStreaming _ | .stopStreaming
  | .usb _ | .addCompleteFrameToQueue _ | .fetch | .dequeue _ | .process | .returnFrame _
  | .returnFrameToPool _ => inferInstanceAs (Decidable True)

/-- Past the join of the process thread, no frame of the pool is delivered and not returned. -/
def FreesReturned (s : FrameFlow) : Prop :=
  s.call = .stopDrain ∨ s.call = .stopFree → ∀ r, s.InPool r → s.held .delivered r = 0

/-- A step that leaves the call, the pool and the Java objects alone keeps the frames returned. -/
lemma FreesReturned.of_eq {s s' : FrameFlow} (hs : FreesReturned s) (hcall : s'.call = s.call)
    (hpool : s'.framePool = s.framePool) (hsize : s'.framePoolSize = s.framePoolSize)
    (hjava : s'.javaFrame = s.javaFrame) : FreesReturned s' := by
  intro hc r hr
  rw [InPool, hpool, hsize] at hr
  rw [hcall] at hc
  have hnone := hs hc r hr
  simp only [held, hjava] at hnone ⊢
  exact hnone

/-- A state whose call is not past the join has nothing to show. -/
lemma FreesReturned.of_call {s : FrameFlow} (hdrain : s.call ≠ .stopDrain)
    (hfree : s.call ≠ .stopFree) : FreesReturned s := by
  rintro (hcall | hcall)
  · exact absurd hcall hdrain
  · exact absurd hcall hfree

/-- The steps of `stopStreaming` keep the frames returned, if the process thread is joined when
they are. -/
lemma freesReturned_stopStep {s s' : FrameFlow} (hw : WellFormed s) (hs : FreesReturned s)
    (hc : JoinsReturned s .stop) (h : s.stopStep = some s') : FreesReturned s' := by
  rcases stopStep_cases h with ⟨hcall, -, ⟨habsent, rfl⟩ | ⟨-, rfl⟩ | ⟨-, rfl⟩⟩ | ⟨-, rfl⟩ |
    ⟨hcall, hexited, rfl⟩ | ⟨hcall, lock, rfl⟩ | ⟨hcall, rfl⟩
  · -- without a process thread there is no pool
    rintro - r ⟨hpool, -⟩
    rcases hw.unthreaded habsent (by simp only at hpool; simp [hpool]) with hc | hc <;>
      simp [hcall] at hc
  · exact .of_call (by simp) (by simp)
  · exact .of_call (by simp) (by simp)
  · exact .of_call (by simp) (by simp)
  · exact fun _ => hc hcall hexited
  · exact fun _ => hs (.inl hcall)
  · exact .of_call (by simp) (by simp)

/-- **Past the join each step keeps the frames returned.**

**Proof sketch.** Only the process thread clears the lock of a Java object, and it is gone past
the join. Where it is joined the condition says what is to be shown. -/
lemma freesReturned_step {s s' : FrameFlow} {e : FlowEvent} (hw : WellFormed s)
    (hs : FreesReturned s) (hc : JoinsReturned s e) (h : s.step e = some s') :
    FreesReturned s' := by
  cases e with
  | usbtvInitialize mFramePoolSize =>
    obtain ⟨-, rfl⟩ := usbtvInitialize_cases h
    exact .of_call (by simp [construct]) (by simp [construct])
  | dispose =>
    obtain ⟨-, rfl⟩ := dispose_cases h
    exact hs.of_eq rfl rfl rfl rfl
  | setFrameListener listener =>
    obtain rfl | ⟨useCallback, rfl⟩ := setFrameListener_cases h
    · exact hs
    · exact hs.of_eq rfl rfl rfl rfl
  | startStreaming outcome =>
    obtain ⟨hguard, h⟩ := startStreaming_guard h
    rcases hw.startStreaming_cases hguard.2 h with ⟨streaming, rfl⟩ | ⟨-, streaming, rfl⟩ |
      ⟨success, attached, -, -, -, rfl⟩
    · exact hs.of_eq rfl rfl rfl rfl
    · exact hs.of_eq rfl rfl rfl rfl
    · cases success <;> exact .of_call (by simp [started]) (by simp [started])
  | stopStreaming =>
    obtain ⟨-, rfl⟩ := stopStreaming_cases h
    exact .of_call (by simp) (by simp)
  | usb e =>
    obtain ⟨usb, call, streaming, -, hcall, rfl⟩ := usbStep_cases h
    cases e with
    | reap answer =>
      simp only [nextCall] at hcall
      split_ifs at hcall
      obtain rfl := Option.some_inj.mp hcall
      exact hs.of_eq rfl rfl rfl rfl
    | reapUrb | reapError | complete =>
      obtain rfl := Option.some_inj.mp hcall
      exact hs.of_eq rfl rfl rfl rfl
    | initIsoUrbs | startUrbAsyncRead | stop | handler =>
      simp only [nextCall] at hcall
      split_ifs at hcall
      all_goals
        obtain rfl := Option.some_inj.mp hcall
        exact .of_call (by simp) (by simp)
  | stop => exact freesReturned_stopStep hw hs hc h
  | addCompleteFrameToQueue enqueued =>
    obtain ⟨r, -, -, -, rfl | rfl⟩ := addCompleteFrameToQueue_cases h
    · exact hs
    · exact hs.of_eq rfl rfl rfl rfl
  | fetch =>
    obtain ⟨index, pool, -, -, ⟨-, -, rfl⟩ | ⟨next, -, rfl⟩ | ⟨-, rfl⟩⟩ := fetchStep_cases h <;>
      exact hs.of_eq rfl rfl rfl rfl
  | dequeue k =>
    obtain ⟨-, entry, pc, -, -, -, rfl⟩ := dequeueStep_cases h
    exact hs.of_eq rfl rfl rfl rfl
  | process =>
    rcases processStep_cases h with ⟨pc, -, -, -, -, rfl⟩ | ⟨r, -, ⟨pc, -, -, rfl⟩ | rfl⟩ |
      ⟨r, hpc, rfl⟩
    · exact hs.of_eq rfl rfl rfl rfl
    · exact hs.of_eq rfl rfl rfl rfl
    · exact hs.of_eq rfl rfl rfl rfl
    · intro hcall
      simp [hw.joined hcall] at hpc
  | returnFrame r =>
    obtain ⟨-, rfl | ⟨-, rfl⟩⟩ := returnFrame_cases h
    · exact hs
    · intro hcall r' hr'
      by_cases hne : r' = r
      · simp [held, hne]
      · have hnone := hs hcall r' hr'
        simpa [held, hne] using hnone
  | returnFrameToPool r =>
    obtain ⟨-, ⟨-, rfl⟩ | ⟨pool, -, -, rfl⟩⟩ := returnStep_cases h
    · exact hs.of_eq rfl rfl rfl rfl
    · exact hs.of_eq rfl rfl rfl rfl

/-- In every run whose joins find all frames returned, they still are when the pool is freed. -/
lemma freesReturned_of_reachable {s : FrameFlow} (h : frameFlow.ReachableUnder JoinsReturned s) :
    FreesReturned s := by
  refine StepSystem.ReachableUnder.invariant (I := FreesReturned) ?_
    (fun s e s' hr hs hc hstep => freesReturned_step (wellFormed_of_reachable hr) hs hc hstep) h
  rintro s rfl
  exact .of_call (by simp [new]) (by simp [new])

/-- **No frame is freed while a consumer holds it**, in every run in which `stopStreaming` has the
process thread joined when all frames are returned: where `freeFramePool` frees the pool, the Java
object of none of its frames was unlocked for the listener and not locked again by a return. -/
theorem not_delivered_of_freeFramePool {s s' : FrameFlow}
    (h : frameFlow.ReachableUnder JoinsReturned s) (hcall : s.call = .stopFree)
    (hstep : s.step .stop = some s') :
    s'.framePool = none ∧ ∀ r, s.InPool r →
      ¬ ((s.javaFrame r).delivered = true ∧ (s.javaFrame r).mLocked = false) := by
  have hw := wellFormed_of_reachable h
  constructor
  · have hactive := hw.stops (by simp [hcall, DriverCall.Stops])
    simp only [step, stopStep, hcall] at hstep
    obtain rfl := Option.some_inj.mp hstep
    simp [freeFramePool, hactive]
  · intro r hr hout
    have hnone := freesReturned_of_reachable h (.inr hcall) r hr
    simp [held, hout] at hnone

/-- The first frame of a first stream is returned, and the stream is stopped. -/
theorem not_delivered_of_freeFramePool_firstStream :
    ∃ s s', frameFlow.ReachableUnder JoinsReturned s ∧ s.call = .stopFree ∧
      s.step .stop = some s' ∧ s.framePool = some 0 ∧ (s.javaFrame ⟨0, 0⟩).delivered = true ∧
      s'.framePool = none ∧ ∀ r, s.InPool r →
        ¬ ((s.javaFrame r).delivered = true ∧ (s.javaFrame r).mLocked = false) := by
  have h : (frameFlow.runUnder JoinsReturned new (openEvents 4 ++ deliverEvents ++
      [.returnFrame ⟨0, 0⟩, .returnFrameToPool ⟨0, 0⟩] ++ stopEvents ++ [.stop, .stop])).map
      (fun s => (s.call, (s.step .stop).isSome, s.framePool, (s.javaFrame ⟨0, 0⟩).delivered)) =
      some (.stopFree, true, some 0, true) := by decide
  obtain ⟨s, hrun, heq⟩ := Option.map_eq_some_iff.mp h
  simp only [Prod.mk.injEq] at heq
  obtain ⟨hcall, hstep, hpool, hdelivered⟩ := heq
  obtain ⟨s', hs'⟩ := Option.isSome_iff_exists.mp hstep
  have hs : frameFlow.ReachableUnder JoinsReturned s :=
    StepSystem.ReachableUnder.runUnder (.init rfl) hrun
  exact ⟨s, s', hs, hcall, hs', hpool, hdelivered, not_delivered_of_freeFramePool hs hcall hs'⟩

/-- **Any other join can go wrong**: if a consumer has a frame when the process thread is joined,
and keeps it, `stopStreaming` goes on to free the frame. -/
theorem exists_freed_of_join {s : FrameFlow} (hw : WellFormed s) (hcall : s.call = .stopJoin)
    (hexited : s.process = .exited) {r : FrameRef} (hr : s.InPool r)
    (hout : (s.javaFrame r).delivered = true ∧ (s.javaFrame r).mLocked = false) :
    ∃ s', frameFlow.run s [.stop, .stop] = some s' ∧ s'.call = .stopFree ∧ s'.InPool r ∧
      (s'.javaFrame r).delivered = true ∧ (s'.javaFrame r).mLocked = false := by
  have hjoin : s.step .stop = some { s with process := .absent, call := .stopDrain } := by
    simp only [step, stopStep, hcall, hexited, if_true]
  simp only [StepSystem.run_cons, StepSystem.run_nil, frameFlow, hjoin, Option.bind_some]
  simp only [step, stopStep]
  split
  · next hinput =>
    exact absurd hinput (hw.assigned (by simp [hr.1]))
  · exact ⟨_, rfl, rfl, hr, hout⟩
  · exact ⟨_, rfl, rfl, hr, hout⟩

/-- **A frame freed while it is delivered**: a first stream is stopped before its first frame is
returned. Its native lock is still set when its buffer is freed. -/
theorem delivered_freed :
    ∃ s s', frameFlow.Reachable s ∧ s.call = .stopFree ∧ s.step .stop = some s' ∧
      s.InPool ⟨0, 0⟩ ∧ s'.framePool = none ∧ s.lock ⟨0, 0⟩ = true ∧
      (s.javaFrame ⟨0, 0⟩).delivered = true ∧ (s.javaFrame ⟨0, 0⟩).mLocked = false := by
  have h : (frameFlow.run new
      (openEvents 4 ++ deliverEvents ++ stopEvents ++ [.stop, .stop])).bind (fun s =>
        (s.step .stop).map fun s' => ((s.call, s.framePool, s.framePoolSize, s'.framePool),
          s.lock ⟨0, 0⟩, s.javaFrame ⟨0, 0⟩)) =
      some ((.stopFree, some 0, 4, none), true, ⟨false, true⟩) := by decide
  obtain ⟨s, hrun, h⟩ := Option.bind_eq_some_iff.mp h
  obtain ⟨s', hstep, heq⟩ := Option.map_eq_some_iff.mp h
  simp only [Prod.mk.injEq] at heq
  obtain ⟨⟨hcall, hpool, hsize, hfreed⟩, hlock, hjava⟩ := heq
  have hs : frameFlow.Reachable s := StepSystem.Reachable.run (.init rfl) hrun
  exact ⟨s, s', hs, hcall, hstep, ⟨hpool, by rw [hsize]; decide⟩, hfreed, hlock, by rw [hjava],
    by rw [hjava]⟩

end FrameFlow

end UsbTv
