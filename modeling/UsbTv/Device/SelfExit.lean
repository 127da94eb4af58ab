import UsbTv.Device.Threads

set_option relaxedAutoImplicit false
set_option autoImplicit false

/-!
# A reap thread that ends itself

Two members tell of the reap thread: `_urbThread` that there is one, `_urbThreadRunning` that it
runs. When `REAPURB` fails for good, `reapUrbAsync` clears the flag and returns. `stopStreaming`
tests the flag, so it does not join such a thread; `startUrbAsyncRead` tests the pointer, so it
makes no other; and the destructor tests the flag again.

## Main definitions

* `UsbTv.AndroidUsbDevice.destruct` — the destructor of the device.
* `UsbTv.UsbThreads.StopsRunning` — a stop finds no reap thread that has ended itself.
* `UsbTv.UsbThreads.Stuck` — the reap thread has ended itself, and a stop has passed it over.

## Main results

* `UsbTv.UsbThreads.urbThread_of_reachable` — with no stream there is no reap thread.
* `UsbTv.UsbThreads.stuck_step` — a reap thread that was passed over is never joined.
-/

namespace UsbTv

namespace AndroidUsbDevice

/-- `~AndroidUsbDevice`. -/
def destruct (d : AndroidUsbDevice) : AndroidUsbDevice :=
  let d := if d.urbThreadRunning then d.stopUrbAsyncRead else d
  d.freeIsoUrbs

lemma stopUrbAsyncRead_urbThread (d : AndroidUsbDevice) : d.stopUrbAsyncRead.urbThread = false := by
  unfold stopUrbAsyncRead
  split_ifs with hthread
  · exact (discardIsoUrbs_same _).urbThread
  · simpa using hthread

/-- The destructor joins the reap thread if it runs. -/
lemma destruct_urbThread (d : AndroidUsbDevice) :
    d.destruct.urbThread = (d.urbThread && !d.urbThreadRunning) := by
  unfold destruct
  rw [(freeIsoUrbs_freed _).urbThread]
  split_ifs with hrunning
  · rw [d.stopUrbAsyncRead_urbThread, hrunning, Bool.not_true, Bool.and_false]
  · rw [Bool.not_eq_true] at hrunning
    rw [hrunning, Bool.not_false, Bool.and_true]

/-- If every `SUBMITURB` succeeds, so does `initIsoUrbs`. -/
lemma initIsoUrbs_of_accepted {d : AndroidUsbDevice} {answer : ℕ → ℤ} {n : ℕ} (hc : d.Counted)
    (hn : n < 2 ^ 8) (haccepted : ∀ k, 0 ≤ answer k) : (d.initIsoUrbs answer n).1 = true := by
  by_contra hfailed
  obtain ⟨submitted, -, hinit⟩ := initIsoUrbs_of_failure hc hn (by simpa using hfailed)
  have hrefused := hinit.refused
  have hle := haccepted (d.clearIsoUrbs.log.length + submitted)
  omega

end AndroidUsbDevice

namespace UsbThreads

/-! ## Stops that join -/

/-- The condition on a step: where `stopStreaming` tests `isUrbThreadRunning`, the flag is set if
there is a reap thread. -/
def StopsRunning (s : UsbThreads) : UsbEvent → Prop
  | .stop => s.device.urbThread = true → s.device.urbThreadRunning = true
  | _ => True

instance (s : UsbThreads) (e : UsbEvent) : Decidable (StopsRunning s e) :=
  match e with
  | .stop => inferInstanceAs (Decidable (_ → _))
  | .initIsoUrbs _ | .startUrbAsyncRead | .handler | .reap _ | .reapUrb _ | .reapError _
  | .complete _ => inferInstanceAs (Decidable True)

/-- Before `startUrbAsyncRead` and after the join there is no reap thread. -/
def Joined (s : UsbThreads) : Prop :=
  s.handler = .closed ∨ s.handler = .opened ∨ s.handler = .failed ∨ s.handler = .stopDiscard ∨
    s.handler = .stopUnlock → s.device.urbThread = false

/-- The steps of `stopUrbAsyncRead` join the reap thread. -/
lemma joined_handlerStep {s s' : UsbThreads} (hs : Joined s) (h : s.handlerStep = some s') :
    Joined s' := by
  rcases handlerStep_cases h with ⟨-, -, rfl⟩ | ⟨-, -, rfl⟩ | ⟨-, hthread, rfl⟩ | ⟨-, -, rfl⟩ |
    ⟨hpc, rfl⟩ | ⟨hpc, rfl⟩
  · simp [Joined]
  · simp [Joined]
  · exact fun _ => hthread
  · exact fun _ => rfl
  · intro _
    show s.device.discardIsoUrbs.2.urbThread = false
    rw [s.device.discardIsoUrbs_same.urbThread]
    exact hs (by simp [hpc])
  · exact fun _ => hs (by simp [hpc])

/-- **Each step that meets the condition keeps the reap thread joined** where it should be. -/
lemma joined_step {s s' : UsbThreads} {e : UsbEvent} (hw : WellFormed s) (hs : Joined s)
    (hc : StopsRunning s e) (h : s.step e = some s') : Joined s' := by
  cases e with
  | initIsoUrbs answer =>
    obtain ⟨hclosed, -, pc, -, rfl⟩ := step_cases h
    intro _
    exact (initIsoUrbs_same hw.counted answer).1.trans (hs (.inl hclosed))
  | startUrbAsyncRead =>
    obtain ⟨hopened, -, ⟨-, rfl⟩ | ⟨hthread, rfl⟩⟩ := step_cases h
    · simp [Joined]
    · exact absurd (hthread.symm.trans (hs (.inr (.inl hopened)))) (by simp)
  | stop =>
    obtain ⟨-, ⟨-, rfl⟩ | ⟨hstopped, rfl⟩⟩ := step_cases h
    · simp [Joined]
    · intro _
      show s.device.discardIsoUrbs.2.urbThread = false
      rw [s.device.discardIsoUrbs_same.urbThread]
      by_contra hthread
      exact absurd ((hc (by simpa using hthread)).symm.trans hstopped) (by simp)
  | handler => exact joined_handlerStep hs h
  | reap answer =>
    rcases reapStep_cases h with ⟨-, rfl⟩ |
      ⟨urb, ⟨-, rfl⟩ | ⟨-, -, rfl⟩ | ⟨-, rfl⟩ | ⟨-, rfl⟩⟩
    · exact hs
    · exact hs
    · exact hs
    · exact hs
    · intro hpc
      have hthread := hs hpc
      unfold AndroidUsbDevice.submitUrb AndroidUsbDevice.ioctl
      dsimp only
      split_ifs <;> exact hthread
  | reapUrb urb =>
    obtain ⟨-, -, rfl⟩ := step_cases h
    exact hs
  | reapError ret =>
    obtain ⟨-, ⟨-, rfl⟩ | ⟨-, rfl⟩⟩ := step_cases h <;> exact hs
  | complete urb =>
    obtain ⟨-, rfl⟩ := step_cases h
    exact hs

/-- **With no stream there is no reap thread**, in a run whose stops find none that has ended
itself. -/
theorem urbThread_of_reachable {s : UsbThreads} (h : usbThreads.ReachableUnder StopsRunning s)
    (hclosed : s.handler = .closed) : s.device.urbThread = false := by
  have hjoined : Joined s := by
    refine StepSystem.ReachableUnder.invariant (I := Joined) ?_
      (fun s e s' hr hs hc hstep => joined_step (wellFormed_of_reachable hr) hs hc hstep) h
    rintro s rfl
    exact fun _ => rfl
  exact hjoined (.inl hclosed)

/-- With no stream `_urbMutex` is free. -/
lemma WellFormed.urbMutex_of_closed {s : UsbThreads} (hs : WellFormed s)
    (hclosed : s.handler = .closed) : s.urbMutex = none := by
  cases hmutex : s.urbMutex with
  | none => rfl
  | some owner =>
    cases owner with
    | handler =>
      rcases hs.handlerMutex.mp hmutex with hpc | hpc | hpc | hpc <;>
        exact absurd (hclosed.symm.trans hpc) (by simp)
    | reap =>
      obtain ⟨urb, hreset⟩ := hs.reapMutex.mp hmutex
      rcases hs.reapIdle (.inl hclosed) with hpc | hpc <;>
        exact absurd (hpc.symm.trans hreset) (by simp)

/-! ## Stops that do not -/

/-- The reap thread has ended itself, and no stream is open for it. -/
structure Stuck (s : UsbThreads) : Prop where
  handler : s.handler = .closed ∨ s.handler = .opened ∨ s.handler = .failed
  urbThread : s.device.urbThread = true
  urbThreadRunning : s.device.urbThreadRunning = false

/-- A stop passes over a reap thread that has ended itself. -/
lemma stuck_of_stop {s s' : UsbThreads} (hthread : s.device.urbThread = true)
    (hrunning : s.device.urbThreadRunning = false) (h : s.step .stop = some s') : Stuck s' := by
  obtain ⟨-, ⟨hrun, -⟩ | ⟨-, rfl⟩⟩ := step_cases h
  · exact absurd (hrun.symm.trans hrunning) (by simp)
  · have hsame := s.device.discardIsoUrbs_same
    exact ⟨.inl rfl, hsame.urbThread.trans hthread, hsame.urbThreadRunning.trans hrunning⟩

/-- **A reap thread that was passed over is never joined**: no start succeeds any more, and no stop
and not even the destructor joins the thread. -/
theorem stuck_step {s s' : UsbThreads} {e : UsbEvent} (hw : WellFormed s) (hs : Stuck s)
    (h : s.step e = some s') : Stuck s' := by
  have hexited : s.reap = .exited := by
    have hjoin : s.handler ≠ .stopJoin := by rcases hs.handler with hpc | hpc | hpc <;> simp [hpc]
    have habsent := hw.urbThread.mp hs.urbThread
    exact (hw.urbThreadRunning hs.urbThreadRunning hjoin).resolve_left habsent
  cases e with
  | initIsoUrbs answer =>
    obtain ⟨-, -, pc, hpc, rfl⟩ := step_cases h
    obtain ⟨hthread, hrunning, -⟩ := initIsoUrbs_same hw.counted answer
    refine ⟨.inr hpc, hthread.trans hs.urbThread, hrunning.trans hs.urbThreadRunning⟩
  | startUrbAsyncRead =>
    obtain ⟨-, -, ⟨hthread, -⟩ | ⟨-, rfl⟩⟩ := step_cases h
    · exact absurd (hs.urbThread.symm.trans hthread) (by simp)
    · exact ⟨.inr (.inr rfl), hs.urbThread, hs.urbThreadRunning⟩
  | stop => exact stuck_of_stop hs.urbThread hs.urbThreadRunning h
  | handler =>
    rcases hs.handler with hpc | hpc | hpc <;> simp [step, handlerStep, hpc] at h
  | reap answer => simp [step, reapStep, hexited] at h
  | reapUrb urb => exact absurd (hexited.symm.trans (step_cases h).1) (by simp)
  | reapError ret => exact absurd (hexited.symm.trans (step_cases h).1) (by simp)
  | complete urb =>
    obtain ⟨-, rfl⟩ := step_cases h
    exact ⟨hs.handler, hs.urbThread, hs.urbThreadRunning⟩

/-- The destructor of the device leaves the thread unjoined too. -/
lemma Stuck.destruct_urbThread {s : UsbThreads} (hs : Stuck s) :
    s.device.destruct.urbThread = true := by
  rw [AndroidUsbDevice.destruct_urbThread, hs.urbThread, hs.urbThreadRunning]
  rfl

end UsbThreads

end UsbTv
