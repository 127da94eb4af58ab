import UsbTv.Device.Threads

set_option relaxedAutoImplicit false
set_option autoImplicit false

/-!
# Stopping and `_urbMutex`

`stopUrbAsyncRead` joins the reap thread while it has `_urbMutex`, and the reap thread takes
`_urbMutex` in `resubmitUrb` for every URB it gets. If it is on its way there when the flag is
cleared, the two wait for each other for ever. It is not if it is at the test of the flag, or
past `resubmitUrb`'s critical section.

## Main definitions

* `UsbTv.UsbThreads.Deadlocked` — the two threads wait for each other.
* `UsbTv.UsbThreads.ClearsApart` — the flag is cleared while the reap thread is not on its way
  to `_urbMutex`.

## Main results

* `UsbTv.UsbThreads.not_deadlocked_of_reachable` — runs whose stops clear the flag apart.
* `UsbTv.UsbThreads.step_eq_none_of_deadlocked` — a deadlock is for ever.
* `UsbTv.UsbThreads.exists_deadlocked_of_clear` — any other stop can deadlock.
-/

namespace UsbTv

namespace UsbThreads

/-- The handler thread waits in `join` and has `_urbMutex`; the reap thread waits for it. -/
def Deadlocked (s : UsbThreads) : Prop :=
  s.handler = .stopJoin ∧ s.urbMutex = some .handler ∧ ∃ urb, s.reap = .lock urb

/-- `stopUrbAsyncRead` was called and has not returned. -/
def Stopping (s : UsbThreads) : Prop := s.handler = .stopLock ∨ s.HandlerLocked

/-- The event is a step of the handler thread in `stopUrbAsyncRead` or of the reap thread. An
error of `REAPURB` and the completion of a URB are not up to them. -/
def ThreadStep : UsbEvent → Prop
  | .handler | .reap _ | .reapUrb _ => True
  | _ => False

/-- The reap thread is not on its way to `_urbMutex`: it has ended, or will test
`_urbThreadRunning` before it takes `_urbMutex` again. -/
def reapApart (s : UsbThreads) : Bool :=
  match s.reap with
  | .test | .submit _ | .exited => true
  | .absent | .reaping | .callback _ | .lock _ | .reset _ => false

/-- The condition on a step: where `stopUrbAsyncRead` clears `_urbThreadRunning`, the reap thread
is not on its way to `_urbMutex`. -/
def ClearsApart (s : UsbThreads) : UsbEvent → Prop
  | .handler => s.handler = .stopClear → s.device.urbThread = true → s.reapApart = true
  | _ => True

instance (s : UsbThreads) (e : UsbEvent) : Decidable (ClearsApart s e) :=
  match e with
  | .handler => inferInstanceAs (Decidable (_ → _ → _))
  | .initIsoUrbs _ | .startUrbAsyncRead | .stop | .reap _ | .reapUrb _ | .reapError _
  | .complete _ => inferInstanceAs (Decidable True)

/-- The reap thread that is joined is not on its way to `_urbMutex`. -/
def JoinsApart (s : UsbThreads) : Prop :=
  s.handler = .stopJoin → s.device.urbThreadRunning = false ∧ s.reapApart = true

/-- **What a stop waits for**: once the flag is clear, a reap thread that is not on its way to
`_urbMutex` does not get there any more. -/
lemma joinsApart_step {s s' : UsbThreads} {e : UsbEvent} (hs : JoinsApart s)
    (hc : ClearsApart s e) (h : s.step e = some s') : JoinsApart s' := by
  intro hjoin
  cases e with
  | initIsoUrbs answer => rcases step_handler h with hpc | hpc <;> simp [hpc] at hjoin
  | startUrbAsyncRead => rcases step_handler h with hpc | hpc <;> simp [hpc] at hjoin
  | stop => rcases step_handler h with hpc | hpc <;> simp [hpc] at hjoin
  | handler =>
    rcases handlerStep_cases h with ⟨-, -, rfl⟩ | ⟨hclear, hthread, rfl⟩ | ⟨-, -, rfl⟩ |
      ⟨-, -, rfl⟩ | ⟨-, rfl⟩ | ⟨-, rfl⟩
    · simp at hjoin
    · exact ⟨rfl, hc hclear hthread⟩
    · simp at hjoin
    · simp at hjoin
    · simp at hjoin
    · simp at hjoin
  | reap answer =>
    obtain ⟨hflag, hapart⟩ := hs ((step_handler h).symm.trans hjoin)
    rcases reapStep_cases h with ⟨-, rfl⟩ |
      ⟨urb, ⟨hpc, rfl⟩ | ⟨hpc, -, rfl⟩ | ⟨hpc, rfl⟩ | ⟨-, rfl⟩⟩
    · exact ⟨hflag, by simp [reapApart, hflag]⟩
    · exact absurd hapart (by simp [reapApart, hpc])
    · exact absurd hapart (by simp [reapApart, hpc])
    · exact absurd hapart (by simp [reapApart, hpc])
    · refine ⟨?_, rfl⟩
      unfold AndroidUsbDevice.submitUrb AndroidUsbDevice.ioctl
      dsimp only
      split_ifs <;> exact hflag
  | reapUrb urb =>
    obtain ⟨hreaping, -, rfl⟩ := step_cases h
    exact absurd (hs hjoin).2 (by simp [reapApart, hreaping])
  | reapError ret =>
    obtain ⟨hreaping, ⟨-, rfl⟩ | ⟨-, rfl⟩⟩ := step_cases h
    · exact absurd (hs hjoin).2 (by simp [reapApart, hreaping])
    · exact ⟨rfl, rfl⟩
  | complete urb =>
    obtain ⟨-, rfl⟩ := step_cases h
    exact hs hjoin

/-- In runs whose stops clear the flag apart, the reap thread that is joined is not on its way to
`_urbMutex`. -/
lemma joinsApart_of_reachable {s : UsbThreads} (h : usbThreads.ReachableUnder ClearsApart s) :
    JoinsApart s := by
  refine StepSystem.ReachableUnder.invariant (I := JoinsApart) ?_
    (fun s e s' _ hs hc hstep => joinsApart_step hs hc hstep) h
  rintro s rfl hjoin
  exact absurd hjoin (by simp [new])

/-- While `stopUrbAsyncRead` is at work on a reap thread that is not on its way to `_urbMutex`,
one of the two threads can go on. -/
lemma exists_threadStep {s : UsbThreads} (hw : WellFormed s) (hj : JoinsApart s)
    (hs : s.Stopping) : ∃ e, ThreadStep e ∧ (s.step e).isSome = true := by
  rcases hs with hlock | hlocked
  · -- whoever has the mutex can go on, and if nobody has it the handler thread takes it
    rcases hm : s.urbMutex with _ | _ | _
    · exact ⟨.handler, trivial, by simp [step, handlerStep, hlock, hm]⟩
    · have h := hw.handlerMutex.mp hm
      simp [HandlerLocked, hlock] at h
    · obtain ⟨urb, hreset⟩ := hw.reapMutex.mp hm
      exact ⟨.reap fun _ => 0, trivial, by simp [step, reapStep, hreset]⟩
  · rcases hlocked with hpc | hpc | hpc | hpc
    · refine ⟨.handler, trivial, ?_⟩
      simp only [step, handlerStep, hpc]
      split_ifs <;> rfl
    · obtain ⟨-, hapart⟩ := hj hpc
      unfold reapApart at hapart
      cases hreap : s.reap with
      | test => exact ⟨.reap fun _ => 0, trivial, by simp [step, reapStep, hreap]⟩
      | submit urb => exact ⟨.reap fun _ => 0, trivial, by simp [step, reapStep, hreap]⟩
      | exited => exact ⟨.handler, trivial, by simp [step, handlerStep, hpc, hreap]⟩
      | absent | reaping | callback | lock | reset => simp [hreap] at hapart
    · exact ⟨.handler, trivial, by simp [step, handlerStep, hpc]⟩
    · exact ⟨.handler, trivial, by simp [step, handlerStep, hpc]⟩

/-- **A stop that clears the flag apart does not deadlock.** In every run in which each stop
clears `_urbThreadRunning` while the reap thread is not on its way to `_urbMutex`, the handler
thread and the reap thread never wait for each other, and until `stopUrbAsyncRead` has returned
one of them can go on. -/
theorem not_deadlocked_of_reachable {s : UsbThreads}
    (h : usbThreads.ReachableUnder ClearsApart s) :
    ¬ s.Deadlocked ∧
      (s.Stopping → s.device.usbfs.completed ≠ [] →
        ∃ e, ThreadStep e ∧ (s.step e).isSome = true) := by
  have hj := joinsApart_of_reachable h
  refine ⟨?_, fun hs _ => exists_threadStep (wellFormed_of_reachable h) hj hs⟩
  rintro ⟨hjoin, -, urb, hlock⟩
  exact absurd (hj hjoin).2 (by simp [reapApart, hlock])

/-- A stream that starts, and the handler thread of which stands in front of the clearing of
`_urbThreadRunning`; the reap thread has got URB `0` if `reaped`. -/
def stopEvents (reaped : Bool) : List UsbEvent :=
  [.initIsoUrbs fun _ => 0, .startUrbAsyncRead, .complete 0, .complete 1] ++
    (if reaped then [.reap fun _ => 0, .reapUrb 0] else []) ++ [.stop, .handler]

/-- A stop with the reap thread at the test of the flag. -/
theorem not_deadlocked_of_reachable_test :
    ∃ s, usbThreads.ReachableUnder ClearsApart s ∧ s.handler = .stopJoin ∧ ¬ s.Deadlocked ∧
      (s.Stopping → s.device.usbfs.completed ≠ [] →
        ∃ e, ThreadStep e ∧ (s.step e).isSome = true) := by
  have h : (usbThreads.runUnder ClearsApart new (stopEvents false ++ [.handler])).map handler =
      some .stopJoin := by decide
  obtain ⟨s, hrun, hjoin⟩ := Option.map_eq_some_iff.mp h
  have hs : usbThreads.ReachableUnder ClearsApart s :=
    StepSystem.ReachableUnder.runUnder (.init rfl) hrun
  exact ⟨s, hs, hjoin, not_deadlocked_of_reachable hs⟩

/-- **A deadlock is for ever**: neither of the two threads can go on. -/
theorem step_eq_none_of_deadlocked {s : UsbThreads} (h : s.Deadlocked) {e : UsbEvent}
    (he : ThreadStep e) : s.step e = none := by
  obtain ⟨hjoin, hmutex, urb, hlock⟩ := h
  cases e with
  | handler => simp [step, handlerStep, hjoin, hlock]
  | reap answer => simp [step, reapStep, hlock, hmutex]
  | reapUrb urb' => simp [step, hlock]
  | initIsoUrbs | startUrbAsyncRead | stop | reapError | complete => exact he.elim

/-- **Any other stop can deadlock**: if the flag is cleared while the reap thread is in the
callback, at `_urbMutex.lock()`, or in `REAPURB` with a complete URB to get, the two threads can
go on to a deadlock. -/
theorem exists_deadlocked_of_clear {s : UsbThreads} (hw : WellFormed s)
    (hclear : s.handler = .stopClear) (hthread : s.device.urbThread = true)
    (hway : s.reapApart = false)
    (hcompleted : s.reap = .reaping → s.device.usbfs.completed ≠ []) :
    ∃ es s', (∀ e ∈ es, ThreadStep e) ∧ usbThreads.run s es = some s' ∧ s'.Deadlocked := by
  have hmutex : s.urbMutex = some .handler := hw.handlerMutex.mpr (.inl hclear)
  cases s with
  | mk device urbMutex handler reap =>
  simp only at hclear hthread hmutex hcompleted
  subst hclear hmutex
  cases reap with
  | lock urb =>
    refine ⟨[.handler],
      ⟨{ device with urbThreadRunning := false }, some .handler, .stopJoin, .lock urb⟩,
      by simp [ThreadStep], ?_, ?_⟩
    · simp only [StepSystem.run, usbThreads, step, handlerStep, hthread, if_true, Option.bind_some]
    · exact ⟨rfl, rfl, urb, rfl⟩
  | callback urb =>
    refine ⟨[.handler, .reap fun _ => 0],
      ⟨{ device with urbThreadRunning := false }, some .handler, .stopJoin, .lock urb⟩,
      by simp [ThreadStep], ?_, ?_⟩
    · simp only [StepSystem.run, usbThreads, step, handlerStep, reapStep, hthread, if_true,
        Option.bind_some]
    · exact ⟨rfl, rfl, urb, rfl⟩
  | reaping =>
    obtain ⟨urb, hurb⟩ := List.exists_mem_of_ne_nil _ (hcompleted rfl)
    refine ⟨[.handler, .reapUrb urb, .reap fun _ => 0],
      ⟨{ device with urbThreadRunning := false, usbfs := device.usbfs.reap urb }, some .handler,
        .stopJoin, .lock urb⟩, by simp [ThreadStep], ?_, ?_⟩
    · simp only [StepSystem.run, usbThreads, step, handlerStep, reapStep, hthread, hurb, and_self,
        if_true, Option.bind_some]
    · exact ⟨rfl, rfl, urb, rfl⟩
  | reset urb =>
    have h := hw.reapMutex.mpr ⟨urb, rfl⟩
    simp at h
  | absent => exact absurd (hw.urbThread.mp hthread) (by simp)
  | test | submit | exited => simp [reapApart] at hway

/-- **A stop that deadlocks**: the flag is cleared while the reap thread is in the callback. The
kernel has another URB to hand out, and neither thread can go on. -/
theorem reachable_deadlocked :
    ∃ s, usbThreads.Reachable s ∧ s.Deadlocked ∧ s.Stopping ∧ s.device.usbfs.completed ≠ [] ∧
      ∀ e, ThreadStep e → s.step e = none := by
  have h : (usbThreads.run new (stopEvents true ++ [.handler, .reap fun _ => 0])).map
      (fun s => (s.handler, s.urbMutex, s.reap, s.device.usbfs.completed)) =
      some (.stopJoin, some .handler, .lock 0, [1]) := by decide
  obtain ⟨s, hrun, heq⟩ := Option.map_eq_some_iff.mp h
  simp only [Prod.mk.injEq] at heq
  obtain ⟨hjoin, hmutex, hlock, hcompleted⟩ := heq
  have hdead : s.Deadlocked := ⟨hjoin, hmutex, 0, hlock⟩
  have hs : usbThreads.Reachable s := StepSystem.Reachable.run (.init rfl) hrun
  exact ⟨s, hs, hdead, .inr (.inr (.inl hjoin)), by simp [hcompleted],
    fun e he => step_eq_none_of_deadlocked hdead he⟩

end UsbThreads

end UsbTv
