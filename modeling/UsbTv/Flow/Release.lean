import UsbTv.Flow.Ownership

set_option relaxedAutoImplicit false
set_option autoImplicit false

/-!
# What a returned frame releases

A Java frame knows its index in the pool and not its pool. `clearFrameLock` clears the lock of
whatever frame has this index now. After a stop there is no pool and nothing is cleared; but after
the next start a frame of the old pool releases a frame of the new one, which may be in use, or an
index past the end of a smaller pool. The code relies on the pool index being "strictly
controlled"; what would control it is that a start finds all frames returned. If already the stop
finds them returned, no return comes to nothing either.

## Main definitions

* `UsbTv.FrameFlow.ReleasesItself` — `clearFrameLock` gets at the frame that is returned.
* `UsbTv.FrameFlow.StartsReturned` — a start that allocates a pool finds all frames returned.
* `UsbTv.FrameFlow.StopsReturned` — a stop that frees the pool finds all frames returned.

## Main results

* `UsbTv.FrameFlow.step_out` — what a step does to the frames that consumers have.
* `UsbTv.FrameFlow.releasesItself_of_reachable` — runs with such starts, and with such stops.
* `UsbTv.FrameFlow.exists_not_releasesItself_of_start` — any other start can go wrong.
* `UsbTv.FrameFlow.exists_not_cleared_of_stop` — after any other stop a return comes to nothing.
-/

namespace UsbTv

namespace FrameFlow

/-- If there is a pool, the index of the Java frame is below its size, and the frame with this
index is the one that the Java frame was made for. -/
def ReleasesItself (s : FrameFlow) (r : FrameRef) : Prop :=
  ∀ pool, s.framePool = some pool →
    r.index < s.framePoolSize ∧ (⟨pool, r.index⟩ : FrameRef) = r

/-- The condition on a step: where `startStreaming` comes to allocate a pool, no frame is
delivered and not returned, and no consumer is in `returnFrame`. -/
def StartsReturned (s : FrameFlow) : FlowEvent → Prop
  | .startStreaming (.opened _ _) =>
    s.streamActive = false → ∀ r, s.held .delivered r = 0 ∧ s.held .returning r = 0
  | _ => True

/-- The condition on a step: where `stopStreaming` comes to free the pool, no frame is delivered
and not returned, and no consumer is in `returnFrame`. -/
def StopsReturned (s : FrameFlow) : FlowEvent → Prop
  | .stop => s.call = .stopFree → ∀ r, s.held .delivered r = 0 ∧ s.held .returning r = 0
  | _ => True

/-- A consumer has the frame. -/
def Out (s : FrameFlow) (r : FrameRef) : Prop := 0 < s.held .delivered r ∨ 0 < s.held .returning r

lemma not_out {s : FrameFlow} {r : FrameRef}
    (h : s.held .delivered r = 0 ∧ s.held .returning r = 0) : ¬ s.Out r := by
  rintro (hr | hr)
  · omega
  · omega

/-! ## What consumers have -/

/-- A frame that a new pool lets consumers have they had before. -/
lemma out_started {s : FrameFlow} {success attached : Bool} {r : FrameRef}
    (hr : (s.started success attached).Out r) : s.Out r := by
  apply hr.imp_left
  intro hr
  by_cases hnew : r.pool = s.pools
  · simp [held, started, hnew, JavaFrame.new] at hr
  · simpa [held, started, hnew] using hr

/-- **What a step does to the frames that consumers have.** As long as the pool stays, consumers
get frames of the pool only; where it is freed, gone with its driver object, or allocated, they
get none.

**Proof sketch.** The process thread delivers a frame of the pool, because it points to no other.
A consumer that starts to return a frame had it delivered. -/
lemma step_out {s s' : FrameFlow} {e : FlowEvent} (hw : WellFormed s) (h : s.step e = some s') :
    (s'.framePool = s.framePool ∧ s'.framePoolSize = s.framePoolSize ∧
        ∀ r, s'.Out r → s.Out r ∨ s.InPool r) ∨
      (∀ r, s'.Out r → s.Out r) ∧
        (e = .stop ∧ s.call = .stopFree ∧ s'.framePool = none ∨
          s.usbtv = false ∧ s'.framePool = none ∨
          ∃ success attached, e = .startStreaming (.opened success attached) ∧
            s.streamActive = false ∧ s.framePool = none) := by
  cases e with
  | usbtvInitialize mFramePoolSize =>
    obtain ⟨hgone, rfl⟩ := usbtvInitialize_cases h
    exact .inr ⟨fun _ hr => hr, .inr (.inl ⟨hgone, rfl⟩)⟩
  | dispose =>
    obtain ⟨-, rfl⟩ := dispose_cases h
    exact .inl ⟨rfl, rfl, fun _ hr => .inl hr⟩
  | setFrameListener listener =>
    obtain rfl | ⟨useCallback, rfl⟩ := setFrameListener_cases h
    · exact .inl ⟨rfl, rfl, fun _ hr => .inl hr⟩
    · exact .inl ⟨rfl, rfl, fun _ hr => .inl hr⟩
  | startStreaming outcome =>
    obtain ⟨hguard, h⟩ := startStreaming_guard h
    rcases hw.startStreaming_cases hguard.2 h with ⟨streaming, rfl⟩ | ⟨-, streaming, rfl⟩ |
      ⟨success, attached, rfl, hactive, -, rfl⟩
    · exact .inl ⟨rfl, rfl, fun _ hr => .inl hr⟩
    · exact .inl ⟨rfl, rfl, fun _ hr => .inl hr⟩
    · obtain ⟨hpool, -⟩ := hw.idle hactive hguard.2
      exact .inr ⟨fun _ hr => out_started hr,
        .inr (.inr ⟨success, attached, rfl, hactive, hpool⟩)⟩
  | stopStreaming =>
    obtain ⟨-, rfl⟩ := stopStreaming_cases h
    exact .inl ⟨rfl, rfl, fun _ hr => .inl hr⟩
  | usb e =>
    obtain ⟨usb, call, streaming, -, -, rfl⟩ := usbStep_cases h
    exact .inl ⟨rfl, rfl, fun _ hr => .inl hr⟩
  | stop =>
    rcases stopStep_cases h with ⟨-, -, ⟨-, rfl⟩ | ⟨-, rfl⟩ | ⟨-, rfl⟩⟩ | ⟨-, rfl⟩ | ⟨-, -, rfl⟩ |
      ⟨-, lock, rfl⟩ | ⟨hcall, rfl⟩
    · exact .inl ⟨rfl, rfl, fun _ hr => .inl hr⟩
    · exact .inl ⟨rfl, rfl, fun _ hr => .inl hr⟩
    · exact .inl ⟨rfl, rfl, fun _ hr => .inl hr⟩
    · exact .inl ⟨rfl, rfl, fun _ hr => .inl hr⟩
    · exact .inl ⟨rfl, rfl, fun _ hr => .inl hr⟩
    · exact .inl ⟨rfl, rfl, fun _ hr => .inl hr⟩
    · have hactive := hw.stops (by simp [hcall, DriverCall.Stops])
      exact .inr ⟨fun _ hr => hr, .inl ⟨rfl, hcall, by simp [freeFramePool, hactive]⟩⟩
  | addCompleteFrameToQueue enqueued =>
    obtain ⟨r, -, -, -, rfl | rfl⟩ := addCompleteFrameToQueue_cases h <;>
      exact .inl ⟨rfl, rfl, fun _ hr => .inl hr⟩
  | fetch =>
    obtain ⟨index, pool, -, -, ⟨-, -, rfl⟩ | ⟨next, -, rfl⟩ | ⟨-, rfl⟩⟩ := fetchStep_cases h <;>
      exact .inl ⟨rfl, rfl, fun _ hr => .inl hr⟩
  | dequeue k =>
    obtain ⟨-, entry, pc, -, -, -, rfl⟩ := dequeueStep_cases h
    exact .inl ⟨rfl, rfl, fun _ hr => .inl hr⟩
  | process =>
    rcases processStep_cases h with ⟨pc, -, -, -, -, rfl⟩ | ⟨r, -, ⟨pc, -, -, rfl⟩ | rfl⟩ |
      ⟨r, hpc, rfl⟩
    · exact .inl ⟨rfl, rfl, fun _ hr => .inl hr⟩
    · exact .inl ⟨rfl, rfl, fun _ hr => .inl hr⟩
    · exact .inl ⟨rfl, rfl, fun _ hr => .inl hr⟩
    · refine .inl ⟨rfl, rfl, fun r' hr' => ?_⟩
      by_cases hne : r' = r
      · exact .inr (hne ▸ hw.inPool r (.inr (.inr (by rw [hpc]; rfl))))
      · exact .inl (by simpa [Out, held, hne] using hr')
  | returnFrame r =>
    obtain ⟨hdelivered, rfl | ⟨hunlocked, rfl⟩⟩ := returnFrame_cases h
    · exact .inl ⟨rfl, rfl, fun _ hr => .inl hr⟩
    · refine .inl ⟨rfl, rfl, fun r' hr' => .inl ?_⟩
      by_cases hne : r' = r
      · subst hne
        exact .inl (by simp [held, hdelivered, hunlocked])
      · simpa [Out, held, hne, Ne.symm hne] using hr'
  | returnFrameToPool r =>
    have hle : ∀ r', (s.returning.erase r).count r' ≤ s.returning.count r' := fun r' => by
      rw [List.count_erase]
      omega
    obtain ⟨-, ⟨-, rfl⟩ | ⟨pool, -, -, rfl⟩⟩ := returnStep_cases h
    · exact .inl ⟨rfl, rfl, fun r' hr' => .inl (hr'.imp_right (lt_of_lt_of_le · (hle r')))⟩
    · exact .inl ⟨rfl, rfl, fun r' hr' => .inl (hr'.imp_right (lt_of_lt_of_le · (hle r')))⟩

/-- In every run whose starts find all frames returned, consumers have frames of the pool there
is, if there is one. -/
lemma inPool_of_out_startsReturned {s : FrameFlow} (h : frameFlow.ReachableUnder StartsReturned s) :
    ∀ r, s.Out r → s.framePool ≠ none → s.InPool r := by
  refine StepSystem.ReachableUnder.invariant
    (I := fun s => ∀ r, s.Out r → s.framePool ≠ none → s.InPool r) ?_ ?_ h
  · rintro s rfl r - hsome
    exact absurd rfl hsome
  · intro s e s' hreach hs hc hstep r hr hsome
    rcases step_out (wellFormed_of_reachable hreach) hstep with ⟨hpool, hsize, hout⟩ |
      ⟨hout, ⟨-, -, hnone⟩ | ⟨-, hnone⟩ | ⟨success, attached, rfl, hactive, -⟩⟩
    · rw [InPool, hpool, hsize]
      exact (hout r hr).elim (fun hr => hs r hr (hpool ▸ hsome)) id
    · exact absurd hnone hsome
    · exact absurd hnone hsome
    · exact absurd (hout r hr) (not_out (hc hactive r))

/-- In every run whose stops find all frames returned, consumers have frames of the pool, and
there is one. -/
lemma inPool_of_out_stopsReturned {s : FrameFlow} (h : frameFlow.ReachableUnder StopsReturned s) :
    ∀ r, s.Out r → s.InPool r := by
  refine StepSystem.ReachableUnder.invariant (I := fun s => ∀ r, s.Out r → s.InPool r) ?_ ?_ h
  · rintro s rfl r hr
    simp [Out, held, new, JavaFrame.new] at hr
  · intro s e s' hreach hs hc hstep r hr
    have hpooled : s.framePool = none → ∀ r, ¬ s.Out r := by
      intro hnone r hr
      have hpool := (hs r hr).1
      rw [hnone] at hpool
      exact absurd hpool (by simp)
    rcases step_out (wellFormed_of_reachable hreach) hstep with ⟨hpool, hsize, hout⟩ |
      ⟨hout, ⟨rfl, hcall, -⟩ | ⟨hgone, -⟩ | ⟨success, attached, -, -, hnone⟩⟩
    · rw [InPool, hpool, hsize]
      exact (hout r hr).elim (hs r) id
    · exact absurd (hout r hr) (not_out (hc hcall r))
    · exact absurd (hout r hr) (hpooled (framePool_of_disposed hreach hgone) r)
    · exact absurd (hout r hr) (hpooled hnone r)

/-- Where stops find all frames returned, so do starts. -/
lemma startsReturned_of_stopsReturned {s : FrameFlow}
    (h : frameFlow.ReachableUnder StopsReturned s) : frameFlow.ReachableUnder StartsReturned s := by
  apply h.mono
  intro s e s' hreach _ hstep
  cases e with
  | startStreaming outcome =>
    cases outcome with
    | opened success attached =>
      intro hactive r
      have hout : ¬ s.Out r := by
        intro hr
        have hpool := (inPool_of_out_stopsReturned hreach r hr).1
        have hcall : s.call = .idle := by
          simp only [frameFlow, step] at hstep
          split_ifs at hstep with hguard
          exact hguard.2
        rw [((wellFormed_of_reachable hreach).inactive hactive hcall).1] at hpool
        exact absurd hpool (by simp)
      rw [Out, not_or] at hout
      omega
    | interfaceFailed | registersFailed => trivial
  | usbtvInitialize | dispose | setFrameListener | stopStreaming | usb | stop
  | addCompleteFrameToQueue | fetch | dequeue | process | returnFrame | returnFrameToPool => trivial

/-! ## What is released -/

/-- A frame that releases itself clears its own lock, or nothing if there is no pool. -/
lemma clearFrameLock_of_releasesItself {s : FrameFlow} {r : FrameRef} (h : s.ReleasesItself r)
    (husbtv : s.usbtv = false → s.framePool = none) :
    s.clearFrameLock r.index =
      match s.framePool with
      | none => some (false, s)
      | some _ => some (true, { s with lock := Function.update s.lock r false }) := by
  unfold clearFrameLock
  cases hpool : s.framePool with
  | none => simp
  | some pool =>
    obtain ⟨hindex, hself⟩ := h pool hpool
    have hdriver : s.usbtv = true := by
      by_contra hgone
      rw [husbtv (by simpa using hgone)] at hpool
      exact absurd hpool (by simp)
    simp only [hdriver, if_true, hindex, hself]

/-- **A returned frame only releases itself.** In every run whose starts find all frames returned,
wherever a consumer goes on to `returnFrameToPool`, the index is below the size of the pool and
is that of the frame itself, and `clearFrameLock` clears its lock and no other; if there is no
pool, nothing is cleared. In every run whose stops find all frames returned, there is a pool, and
the lock is cleared. -/
theorem releasesItself_of_reachable {s : FrameFlow} (r : FrameRef) (hr : r ∈ s.returning) :
    (frameFlow.ReachableUnder StartsReturned s →
      s.ReleasesItself r ∧ s.clearFrameLock r.index =
        match s.framePool with
        | none => some (false, s)
        | some _ => some (true, { s with lock := Function.update s.lock r false })) ∧
    (frameFlow.ReachableUnder StopsReturned s →
      r.index < s.framePoolSize ∧ s.clearFrameLock r.index =
        some (true, { s with lock := Function.update s.lock r false })) := by
  have hout : s.Out r := .inr (List.count_pos_iff.mpr hr)
  have hstarts : frameFlow.ReachableUnder StartsReturned s → s.ReleasesItself r := by
    intro h pool hpool
    obtain ⟨hself, hindex⟩ := inPool_of_out_startsReturned h r hout (by simp [hpool])
    obtain rfl := Option.some_inj.mp (hpool.symm.trans hself)
    exact ⟨hindex, rfl⟩
  constructor
  · intro h
    exact ⟨hstarts h, clearFrameLock_of_releasesItself (hstarts h) (framePool_of_disposed h)⟩
  · intro h
    have hin := inPool_of_out_stopsReturned h r hout
    have hitself := hstarts (startsReturned_of_stopsReturned h)
    refine ⟨hin.2, ?_⟩
    rw [clearFrameLock_of_releasesItself hitself (framePool_of_disposed h), hin.1]

/-- The frame of a first stream is returned, while the stream is active. -/
theorem releasesItself_of_reachable_firstFrame :
    ∃ s, frameFlow.ReachableUnder StartsReturned s ∧ frameFlow.ReachableUnder StopsReturned s ∧
      (⟨0, 0⟩ : FrameRef) ∈ s.returning ∧ s.ReleasesItself ⟨0, 0⟩ ∧ 0 < s.framePoolSize ∧
      s.clearFrameLock 0 =
        some (true, { s with lock := Function.update s.lock ⟨0, 0⟩ false }) := by
  have h : (frameFlow.run new (openEvents 4 ++ deliverEvents ++ [.returnFrame ⟨0, 0⟩])).map
      returning = some [⟨0, 0⟩] := by decide
  obtain ⟨s, hrun, hreturning⟩ := Option.map_eq_some_iff.mp h
  have hstops : frameFlow.ReachableUnder StopsReturned s :=
    StepSystem.ReachableUnder.run (.init rfl)
      (by simp [StopsReturned, openEvents, deliverEvents]) hrun
  have hstarts := startsReturned_of_stopsReturned hstops
  have hr : (⟨0, 0⟩ : FrameRef) ∈ s.returning := by simp [hreturning]
  obtain ⟨h₁, h₂⟩ := releasesItself_of_reachable ⟨0, 0⟩ hr
  obtain ⟨hindex, hclear⟩ := h₂ hstops
  exact ⟨s, hstarts, hstops, hr, (h₁ hstarts).1, hindex, hclear⟩

/-! ## Other starts and stops -/

/-- A consumer that has a frame can get to `returnFrameToPool`. -/
lemma exists_returning_of_out {s : FrameFlow} {r : FrameRef} (h : s.Out r) :
    ∃ es s', frameFlow.run s es = some s' ∧ r ∈ s'.returning ∧ s'.framePool = s.framePool := by
  rcases h with hr | hr
  · have hout : (s.javaFrame r).delivered = true ∧ (s.javaFrame r).mLocked = false := by
      by_contra hnot
      simp [held, hnot] at hr
    obtain ⟨s', hreturn, hmem, hpool⟩ : ∃ s', s.returnFrame r = some s' ∧ r ∈ s'.returning ∧
        s'.framePool = s.framePool := by
      unfold returnFrame
      rw [hout.1, hout.2]
      exact ⟨_, rfl, List.mem_cons_self, rfl⟩
    refine ⟨[.returnFrame r], s', ?_, hmem, hpool⟩
    rw [StepSystem.run_cons]
    show (s.returnFrame r).bind _ = _
    rw [hreturn]
    rfl
  · exact ⟨[], s, rfl, List.count_pos_iff.mp hr, rfl⟩

/-- **Any other start can go wrong**: if a pool is allocated while a consumer has a frame, it can
return the frame next, and does not get at the frame it returns. -/
theorem exists_not_releasesItself_of_start {s s' : FrameFlow} (hw : WellFormed s)
    (hcall : s.call = .idle) (hactive : s.streamActive = false) {success attached : Bool}
    (h : s.startStreaming (.opened success attached) = some s') {r : FrameRef} (hr : s.Out r) :
    ∃ es s'', frameFlow.run s' es = some s'' ∧ r ∈ s''.returning ∧ ¬ s''.ReleasesItself r := by
  obtain ⟨hpool, hprocess, -, -⟩ := hw.idle hactive hcall
  obtain ⟨-, -, rfl⟩ := startStreaming_of_unpooled hactive hpool hprocess h
  have hlt : r.pool < s.pools := by
    rcases hr with hr | hr
    · apply hw.delivered_lt r
      by_contra hnot
      simp [held, hnot] at hr
    · exact hw.returning_lt r (List.count_pos_iff.mp hr)
  have hout : (s.started success attached).Out r := by
    apply hr.imp_left
    intro hr
    simpa [held, started, hlt.ne] using hr
  obtain ⟨es, s'', hrun, hmem, hpool''⟩ := exists_returning_of_out hout
  refine ⟨es, s'', hrun, hmem, fun hitself => ?_⟩
  obtain ⟨-, hself⟩ := hitself s.pools hpool''
  rw [← hself] at hlt
  exact absurd hlt (lt_irrefl _)

/-- **After any other stop a return comes to nothing**: if the pool is freed while a consumer has a
frame, it can return the frame next, and `clearFrameLock` clears nothing and reports it. -/
theorem exists_not_cleared_of_stop {s s' : FrameFlow} (hw : WellFormed s)
    (hcall : s.call = .stopFree) (h : s.step .stop = some s') {r : FrameRef} (hr : s.Out r) :
    ∃ es s'', frameFlow.run s' es = some s'' ∧ r ∈ s''.returning ∧
      s''.clearFrameLock r.index = some (false, s'') := by
  have hactive := hw.stops (by simp [hcall, DriverCall.Stops])
  simp only [step, stopStep, hcall] at h
  obtain rfl := Option.some_inj.mp h
  have hout : ({ s.freeFramePool with mIsStreaming := false, call := .idle } : FrameFlow).Out r :=
    hr
  obtain ⟨es, s'', hrun, hmem, hpool⟩ := exists_returning_of_out hout
  refine ⟨es, s'', hrun, hmem, ?_⟩
  have hnone : s''.framePool = none := by
    rw [hpool]
    simp [freeFramePool, hactive]
  simp [clearFrameLock, hnone]

/-- A stream in which the first frame is delivered, a stop, and a second stream, in which the
first frame is returned. -/
def lateReturnEvents : List FlowEvent :=
  openEvents 4 ++ deliverEvents ++ stopEvents ++ [.stop, .stop, .stop,
    .startStreaming (.opened true true), .usb (.initIsoUrbs fun _ => 0), .usb .startUrbAsyncRead,
    .returnFrame ⟨0, 0⟩]

/-- **A late return**: a frame delivered in a first stream is returned in a second one, and clears
the lock of the frame that the reap thread is writing to. -/
theorem returnFrameToPool_clears_usbInputFrame :
    ∃ s s', frameFlow.Reachable s ∧ (⟨0, 0⟩ : FrameRef) ∈ s.returning ∧
      ¬ s.ReleasesItself ⟨0, 0⟩ ∧ s.streamActive = true ∧ s.usbInputFrame = .frame ⟨1, 0⟩ ∧
      s.step (.returnFrameToPool ⟨0, 0⟩) = some s' ∧
      s.lock ⟨1, 0⟩ = true ∧ s'.lock ⟨1, 0⟩ = false := by
  have h : (frameFlow.run new lateReturnEvents).bind (fun s =>
      (s.step (.returnFrameToPool ⟨0, 0⟩)).map fun s' =>
        ((s.returning, s.framePool, s.streamActive), s.usbInputFrame,
          s.lock ⟨1, 0⟩, s'.lock ⟨1, 0⟩)) =
      some (([⟨0, 0⟩], some 1, true), .frame ⟨1, 0⟩, true, false) := by decide
  obtain ⟨s, hrun, h⟩ := Option.bind_eq_some_iff.mp h
  obtain ⟨s', hstep, heq⟩ := Option.map_eq_some_iff.mp h
  simp only [Prod.mk.injEq] at heq
  obtain ⟨⟨hreturning, hpool, hactive⟩, hinput, hbefore, hafter⟩ := heq
  have hs : frameFlow.Reachable s := StepSystem.Reachable.run (.init rfl) hrun
  refine ⟨s, s', hs, by simp [hreturning], fun hitself => ?_, hactive, hinput, hstep, hbefore,
    hafter⟩
  exact absurd (hitself 1 hpool).2 (by decide)

end FrameFlow

end UsbTv
