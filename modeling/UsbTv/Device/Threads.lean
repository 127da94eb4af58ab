import UsbTv.Lib.StepSystem
import UsbTv.Definitions
import UsbTv.Device.Basic

set_option relaxedAutoImplicit false
set_option autoImplicit false

/-!
# The threads of the USB device

The handler thread opens and stops streams; the reap thread runs `reapUrbAsync`, and the kernel
completes URBs whenever it likes. The two threads share the device and `_urbMutex`. Only the
calls during which both threads are at work are split into steps: `stopUrbAsyncRead` and the loop
of `reapUrbAsync`. `initIsoUrbs` and `startUrbAsyncRead` hold `_urbMutex` all along, and no reap
thread is at work then.

## Main definitions

* `UsbTv.HandlerPc`, `UsbTv.ReapPc` — where the two threads stand.
* `UsbTv.UsbThreads` — the state they share.
* `UsbTv.reapDispatch` — what `reapUrbAsync` does after an error.
* `UsbTv.usbThreads` — all interleavings.

## Main results

* `UsbTv.UsbThreads.wellFormed_of_reachable` — who holds `_urbMutex`, and when there is a reap
  thread.
* `UsbTv.UsbThreads.run_stop` — an undisturbed stop is `stopUrbAsyncRead`.
-/

namespace UsbTv

/-! ## State -/

/-- Where the handler thread stands. -/
inductive HandlerPc
  /-- There is no stream. -/
  | closed
  /-- `initIsoUrbs` was successful. -/
  | opened
  /-- `startUrbAsyncRead` was successful. -/
  | streaming
  /-- A start failed, and `stopStreaming` is called. -/
  | failed
  /-- `stopUrbAsyncRead` is at `_urbMutex.lock()`. -/
  | stopLock
  /-- It has `_urbMutex` and is at `if (_urbThread != nullptr)`. -/
  | stopClear
  /-- It is at `_urbThread->join()`. -/
  | stopJoin
  /-- It is at `discardIsoUrbs()`. -/
  | stopDiscard
  /-- It is at `_urbMutex.unlock()`. -/
  | stopUnlock
  deriving DecidableEq, Repr

/-- Where the reap thread stands. -/
inductive ReapPc
  /-- There is no reap thread. -/
  | absent
  /-- At `while (_urbThreadRunning)`. -/
  | test
  /-- In `REAPURB`. -/
  | reaping
  /-- In `onUrbReceived` with the URB. -/
  | callback (urb : ℕ)
  /-- In `resubmitUrb` at `_urbMutex.lock()`. -/
  | lock (urb : ℕ)
  /-- It has `_urbMutex` and resets the URB. -/
  | reset (urb : ℕ)
  /-- At `submitUrb` after `_urbMutex.unlock()`. -/
  | submit (urb : ℕ)
  /-- The thread has ended and was not joined. -/
  | exited
  deriving DecidableEq, Repr

/-- The URB that the reap thread has. -/
def ReapPc.urb : ReapPc → Option ℕ
  | callback urb | lock urb | reset urb | submit urb => some urb
  | absent | test | reaping | exited => none

/-- A thread that can have `_urbMutex`. -/
inductive MutexOwner
  | handler
  | reap
  deriving DecidableEq, Repr

/-- The device, `_urbMutex`, and where the threads stand. -/
structure UsbThreads where
  device : AndroidUsbDevice
  urbMutex : Option MutexOwner
  handler : HandlerPc
  reap : ReapPc
  deriving DecidableEq, Repr

/-- What `reapUrbAsync` does after a `REAPURB` that returned no URB. -/
inductive ReapOutcome
  /-- The loop goes on. -/
  | again
  /-- `_urbThreadRunning = false; return`. -/
  | exit
  /-- The null URB is read. -/
  | crash
  deriving DecidableEq, Repr

/-- The `switch` of `reapUrbAsync` for an error: `-ENODEV`, `-ENOENT`, `-ECONNRESET` and
`-ESHUTDOWN` end the thread, `-EPIPE` reads the type of the URB, any other value tries again. -/
def reapDispatch (ret : ℤ) : ReapOutcome :=
  if ret = -19 ∨ ret = -2 ∨ ret = -104 ∨ ret = -108 then .exit
  else if ret = -32 then .crash
  else .again

/-! ## Steps -/

/-- What can happen to the threads. -/
inductive UsbEvent
  /-- `startStreaming` calls `initIsoUrbs`. -/
  | initIsoUrbs (answer : ℕ → ℤ)
  /-- `startStreaming` calls `startUrbAsyncRead`. -/
  | startUrbAsyncRead
  /-- `stopStreaming` tests `isUrbThreadRunning` and calls `stopUrbAsyncRead` or
  `discardIsoUrbs`. -/
  | stop
  /-- The next step of `stopUrbAsyncRead`. -/
  | handler
  /-- The next step of the reap thread outside `REAPURB`. -/
  | reap (answer : ℕ → ℤ)
  /-- `REAPURB` returns a URB. -/
  | reapUrb (urb : ℕ)
  /-- `REAPURB` returns an error. -/
  | reapError (ret : ℤ)
  /-- A URB completes. -/
  | complete (urb : ℕ)

namespace UsbThreads

/-- The next step of `stopUrbAsyncRead`. -/
def handlerStep (s : UsbThreads) : Option UsbThreads :=
  match s.handler with
  | .stopLock =>
    if s.urbMutex = none then some { s with urbMutex := some .handler, handler := .stopClear }
    else none
  | .stopClear =>
    if s.device.urbThread then
      some { s with device := { s.device with urbThreadRunning := false }, handler := .stopJoin }
    else some { s with handler := .stopUnlock }
  | .stopJoin =>
    if s.reap = .exited then
      some { s with
        device := { s.device with urbThread := false }
        reap := .absent
        handler := .stopDiscard }
    else none
  | .stopDiscard => some { s with device := s.device.discardIsoUrbs.2, handler := .stopUnlock }
  | .stopUnlock => some { s with urbMutex := none, handler := .closed }
  | _ => none

/-- The next step of the reap thread outside `REAPURB`. -/
def reapStep (s : UsbThreads) (answer : ℕ → ℤ) : Option UsbThreads :=
  match s.reap with
  | .test => some { s with reap := if s.device.urbThreadRunning then .reaping else .exited }
  | .callback urb => some { s with reap := .lock urb }
  | .lock urb =>
    if s.urbMutex = none then some { s with urbMutex := some .reap, reap := .reset urb } else none
  | .reset urb => some { s with urbMutex := none, reap := .submit urb }
  | .submit urb => some { s with device := (s.device.submitUrb answer urb).2, reap := .test }
  | _ => none

/-- One event. -/
def step (s : UsbThreads) : UsbEvent → Option UsbThreads
  | .initIsoUrbs answer =>
    if s.handler = .closed ∧ s.urbMutex = none then
      match s.device.initIsoUrbs answer usbtvIsocTransfers with
      | (true, device) => some { s with device := device, handler := .opened }
      | (false, device) => some { s with device := device, handler := .failed }
    else none
  | .startUrbAsyncRead =>
    if s.handler = .opened ∧ s.urbMutex = none then
      match s.device.startUrbAsyncRead with
      | (true, device) => some { s with device := device, handler := .streaming, reap := .test }
      | (false, device) => some { s with device := device, handler := .failed }
    else none
  | .stop =>
    if s.handler = .streaming ∨ s.handler = .failed ∨ s.handler = .closed then
      if s.device.urbThreadRunning then some { s with handler := .stopLock }
      else some { s with device := s.device.discardIsoUrbs.2, handler := .closed }
    else none
  | .handler => s.handlerStep
  | .reap answer => s.reapStep answer
  | .reapUrb urb =>
    if s.reap = .reaping ∧ urb ∈ s.device.usbfs.completed then
      some { s with
        device := { s.device with usbfs := s.device.usbfs.reap urb }
        reap := .callback urb }
    else none
  | .reapError ret =>
    if s.reap = .reaping ∧ ret ≠ 0 then
      match reapDispatch ret with
      | .again => some { s with reap := .test }
      | .exit => some { s with
          device := { s.device with urbThreadRunning := false }
          reap := .exited }
      | .crash => none
    else none
  | .complete urb =>
    if urb ∈ s.device.usbfs.pending then
      some { s with device := { s.device with usbfs := s.device.usbfs.complete urb } }
    else none

/-- A new device, which no thread uses. -/
def new : UsbThreads where
  device := .new
  urbMutex := none
  handler := .closed
  reap := .absent

end UsbThreads

/-- All interleavings of the handler thread, the reap thread and the kernel. -/
def usbThreads : StepSystem UsbThreads UsbEvent where
  Init s := s = UsbThreads.new
  step := UsbThreads.step

namespace UsbThreads

/-! ## What a step can do -/

/-- The steps of `stopUrbAsyncRead`. -/
lemma handlerStep_cases {s s' : UsbThreads} (h : s.handlerStep = some s') :
    s.handler = .stopLock ∧ s.urbMutex = none ∧
        s' = { s with urbMutex := some .handler, handler := .stopClear } ∨
      s.handler = .stopClear ∧ s.device.urbThread = true ∧
        s' = { s with
          device := { s.device with urbThreadRunning := false }, handler := .stopJoin } ∨
      s.handler = .stopClear ∧ s.device.urbThread = false ∧
        s' = { s with handler := .stopUnlock } ∨
      s.handler = .stopJoin ∧ s.reap = .exited ∧
        s' = { s with
          device := { s.device with urbThread := false }
          reap := .absent
          handler := .stopDiscard } ∨
      s.handler = .stopDiscard ∧
        s' = { s with device := s.device.discardIsoUrbs.2, handler := .stopUnlock } ∨
      s.handler = .stopUnlock ∧ s' = { s with urbMutex := none, handler := .closed } := by
  unfold handlerStep at h
  split at h
  · next hpc =>
    split_ifs at h with hfree
    exact .inl ⟨hpc, hfree, (Option.some_inj.mp h).symm⟩
  · next hpc =>
    split_ifs at h with hthread
    · exact .inr (.inl ⟨hpc, hthread, (Option.some_inj.mp h).symm⟩)
    · exact .inr (.inr (.inl ⟨hpc, by simpa using hthread, (Option.some_inj.mp h).symm⟩))
  · next hpc =>
    split_ifs at h with hexit
    exact .inr (.inr (.inr (.inl ⟨hpc, hexit, (Option.some_inj.mp h).symm⟩)))
  · next hpc => exact .inr (.inr (.inr (.inr (.inl ⟨hpc, (Option.some_inj.mp h).symm⟩))))
  · next hpc => exact .inr (.inr (.inr (.inr (.inr ⟨hpc, (Option.some_inj.mp h).symm⟩))))
  · exact absurd h (by simp)

/-- The steps of the reap thread outside `REAPURB`. -/
lemma reapStep_cases {s s' : UsbThreads} {answer : ℕ → ℤ} (h : s.reapStep answer = some s') :
    s.reap = .test ∧
        s' = { s with reap := if s.device.urbThreadRunning then .reaping else .exited } ∨
      ∃ urb, s.reap = .callback urb ∧ s' = { s with reap := .lock urb } ∨
        s.reap = .lock urb ∧ s.urbMutex = none ∧
          s' = { s with urbMutex := some .reap, reap := .reset urb } ∨
        s.reap = .reset urb ∧ s' = { s with urbMutex := none, reap := .submit urb } ∨
        s.reap = .submit urb ∧
          s' = { s with device := (s.device.submitUrb answer urb).2, reap := .test } := by
  unfold reapStep at h
  split at h
  · next hpc => exact .inl ⟨hpc, (Option.some_inj.mp h).symm⟩
  · next urb hpc => exact .inr ⟨urb, .inl ⟨hpc, (Option.some_inj.mp h).symm⟩⟩
  · next urb hpc =>
    split_ifs at h with hfree
    exact .inr ⟨urb, .inr (.inl ⟨hpc, hfree, (Option.some_inj.mp h).symm⟩)⟩
  · next urb hpc => exact .inr ⟨urb, .inr (.inr (.inl ⟨hpc, (Option.some_inj.mp h).symm⟩))⟩
  · next urb hpc => exact .inr ⟨urb, .inr (.inr (.inr ⟨hpc, (Option.some_inj.mp h).symm⟩))⟩
  · exact absurd h (by simp)

/-- The events, each with its guard and the state it leads to. -/
lemma step_cases {s s' : UsbThreads} {e : UsbEvent} (h : s.step e = some s') :
    match e with
    | .initIsoUrbs answer => s.handler = .closed ∧ s.urbMutex = none ∧
        ∃ pc, (pc = .opened ∨ pc = .failed) ∧
          s' = { s with
            device := (s.device.initIsoUrbs answer usbtvIsocTransfers).2, handler := pc }
    | .startUrbAsyncRead => s.handler = .opened ∧ s.urbMutex = none ∧
        (s.device.urbThread = false ∧
            s' = { s with
              device := { s.device with urbThread := true, urbThreadRunning := true }
              handler := .streaming
              reap := .test } ∨
          s.device.urbThread = true ∧ s' = { s with handler := .failed })
    | .stop => (s.handler = .streaming ∨ s.handler = .failed ∨ s.handler = .closed) ∧
        (s.device.urbThreadRunning = true ∧ s' = { s with handler := .stopLock } ∨
          s.device.urbThreadRunning = false ∧
            s' = { s with device := s.device.discardIsoUrbs.2, handler := .closed })
    | .handler => s.handlerStep = some s'
    | .reap answer => s.reapStep answer = some s'
    | .reapUrb urb => s.reap = .reaping ∧ urb ∈ s.device.usbfs.completed ∧
        s' = { s with
          device := { s.device with usbfs := s.device.usbfs.reap urb }
          reap := .callback urb }
    | .reapError ret => s.reap = .reaping ∧
        (reapDispatch ret = .again ∧ s' = { s with reap := .test } ∨
          reapDispatch ret = .exit ∧
            s' = { s with
              device := { s.device with urbThreadRunning := false }
              reap := .exited })
    | .complete urb => urb ∈ s.device.usbfs.pending ∧
        s' = { s with device := { s.device with usbfs := s.device.usbfs.complete urb } } := by
  cases e with
  | initIsoUrbs answer =>
    simp only [step] at h
    split_ifs at h with hguard
    refine ⟨hguard.1, hguard.2, ?_⟩
    split at h
    · next heq => exact ⟨_, .inl rfl, by rw [heq]; exact (Option.some_inj.mp h).symm⟩
    · next heq => exact ⟨_, .inr rfl, by rw [heq]; exact (Option.some_inj.mp h).symm⟩
  | startUrbAsyncRead =>
    simp only [step, AndroidUsbDevice.startUrbAsyncRead] at h
    split_ifs at h with hguard hthread
    · exact ⟨hguard.1, hguard.2, .inl ⟨hthread, (Option.some_inj.mp h).symm⟩⟩
    · exact ⟨hguard.1, hguard.2, .inr ⟨by simpa using hthread, (Option.some_inj.mp h).symm⟩⟩
  | stop =>
    simp only [step] at h
    split_ifs at h with hguard hrun
    · exact ⟨hguard, .inl ⟨hrun, (Option.some_inj.mp h).symm⟩⟩
    · exact ⟨hguard, .inr ⟨by simpa using hrun, (Option.some_inj.mp h).symm⟩⟩
  | handler => exact h
  | reap answer => exact h
  | reapUrb urb =>
    simp only [step] at h
    split_ifs at h with hguard
    exact ⟨hguard.1, hguard.2, (Option.some_inj.mp h).symm⟩
  | reapError ret =>
    simp only [step] at h
    split_ifs at h with hguard
    refine ⟨hguard.1, ?_⟩
    split at h
    · next hret => exact .inl ⟨hret, (Option.some_inj.mp h).symm⟩
    · next hret => exact .inr ⟨hret, (Option.some_inj.mp h).symm⟩
    · exact absurd h (by simp)
  | complete urb =>
    simp only [step] at h
    split_ifs at h with hpending
    exact ⟨hpending, (Option.some_inj.mp h).symm⟩

/-! ## What holds in every state -/

/-- The handler thread has `_urbMutex`. -/
def HandlerLocked (s : UsbThreads) : Prop :=
  s.handler = .stopClear ∨ s.handler = .stopJoin ∨ s.handler = .stopDiscard ∨
    s.handler = .stopUnlock

/-- No reap thread is at work. -/
def ReapIdle (s : UsbThreads) : Prop := s.reap = .absent ∨ s.reap = .exited

/-- What the threads keep between any two steps. -/
structure WellFormed (s : UsbThreads) : Prop where
  /-- The handler thread has `_urbMutex` from `lock` to `unlock`. -/
  handlerMutex : s.urbMutex = some .handler ↔ s.HandlerLocked
  /-- The reap thread has `_urbMutex` while it resets a URB. -/
  reapMutex : s.urbMutex = some .reap ↔ ∃ urb, s.reap = .reset urb
  /-- `_urbThread` tells whether there is a reap thread. -/
  urbThread : s.device.urbThread = true ↔ s.reap ≠ .absent
  /-- Only the handler thread that joins it clears the flag of a reap thread at work. -/
  urbThreadRunning : s.device.urbThreadRunning = false → s.handler ≠ .stopJoin → s.ReapIdle
  /-- No reap thread is at work while there is no stream. -/
  reapIdle : s.handler = .closed ∨ s.handler = .opened ∨ s.handler = .failed ∨
    s.handler = .stopDiscard ∨ s.handler = .stopUnlock → s.ReapIdle
  counted : s.device.Counted

/-- A change of the device that keeps its threads and counts no URB without a pool keeps the
threads well formed. -/
lemma WellFormed.withDevice {s : UsbThreads} (h : WellFormed s) {d : AndroidUsbDevice}
    (ht : d.urbThread = s.device.urbThread) (hr : d.urbThreadRunning = s.device.urbThreadRunning)
    (hc : d.Counted) : WellFormed { s with device := d } :=
  ⟨h.handlerMutex, h.reapMutex, by rw [← h.urbThread, ← ht], by rw [hr]; exact h.urbThreadRunning,
    h.reapIdle, hc⟩

/-- Discarding the URBs counts none without a pool. -/
lemma counted_discardIsoUrbs {d : AndroidUsbDevice} (h : d.Counted) :
    d.discardIsoUrbs.2.Counted := by
  intro hnil
  rw [d.discardIsoUrbs_same.isoUrbPool] at hnil
  rw [d.discardIsoUrbs_isoUrbsSubmitted, if_pos hnil]
  exact h hnil

/-- Whether it succeeds or fails, `initIsoUrbs` keeps the threads and counts no URB without a
pool. -/
lemma initIsoUrbs_same {d : AndroidUsbDevice} (hc : d.Counted) (answer : ℕ → ℤ) :
    let d' := (d.initIsoUrbs answer usbtvIsocTransfers).2
    d'.urbThread = d.urbThread ∧ d'.urbThreadRunning = d.urbThreadRunning ∧ d'.Counted := by
  intro d'
  have hclear := d.clearIsoUrbs_freed
  cases hok : (d.initIsoUrbs answer usbtvIsocTransfers).1 with
  | true =>
    obtain ⟨hs, -⟩ := AndroidUsbDevice.initIsoUrbs_of_success hc (by decide) hok
    refine ⟨hs.urbThread.trans hclear.urbThread,
      hs.urbThreadRunning.trans hclear.urbThreadRunning, fun hnil => ?_⟩
    have hpool := hs.isoUrbPool
    rw [hclear.isoUrbPool, List.nil_append] at hpool
    have hlen := congrArg List.length (hpool.symm.trans hnil)
    rw [List.length_range'] at hlen
    exact absurd hlen (by decide)
  | false =>
    obtain ⟨k, -, hf⟩ := AndroidUsbDevice.initIsoUrbs_of_failure hc (by decide) hok
    exact ⟨hf.urbThread, hf.urbThreadRunning, fun _ => hf.isoUrbsSubmitted⟩

/-- The steps of `stopUrbAsyncRead` keep the threads well formed. -/
lemma wellFormed_handlerStep {s s' : UsbThreads} (hs : WellFormed s)
    (h : s.handlerStep = some s') : WellFormed s' := by
  have hmutex : s.HandlerLocked → s.urbMutex = some .handler := hs.handlerMutex.mpr
  have hreset := hs.reapMutex
  rcases handlerStep_cases h with ⟨hpc, hfree, rfl⟩ | ⟨hpc, -, rfl⟩ | ⟨hpc, hthread, rfl⟩ |
    ⟨hpc, -, rfl⟩ | ⟨hpc, rfl⟩ | ⟨hpc, rfl⟩
  · rw [hfree] at hreset
    refine ⟨by simp [HandlerLocked], ?_, hs.urbThread, fun hr _ => hs.urbThreadRunning hr ?_,
      by simp, hs.counted⟩
    · simpa using hreset
    · simp [hpc]
  · have hmutex := hmutex (.inl hpc)
    exact ⟨by simp [HandlerLocked, hmutex], hs.reapMutex, hs.urbThread, by simp, by simp,
      hs.counted⟩
  · have hmutex := hmutex (.inl hpc)
    have habsent : s.reap = .absent := by
      by_contra hne
      exact absurd (hs.urbThread.mpr hne) (by simp [hthread])
    exact ⟨by simp [HandlerLocked, hmutex], hs.reapMutex, hs.urbThread,
      fun _ _ => .inl habsent, fun _ => .inl habsent, hs.counted⟩
  · have hmutex := hmutex (.inr (.inl hpc))
    exact ⟨by simp [HandlerLocked, hmutex], by simp [hmutex], by simp, fun _ _ => .inl rfl,
      fun _ => .inl rfl, hs.counted⟩
  · have hmutex := hmutex (.inr (.inr (.inl hpc)))
    have hidle : s.ReapIdle := hs.reapIdle (by simp [hpc])
    have hd := s.device.discardIsoUrbs_same
    refine ⟨by simp [HandlerLocked, hmutex], hs.reapMutex, ?_, fun _ _ => hidle, fun _ => hidle,
      counted_discardIsoUrbs hs.counted⟩
    show s.device.discardIsoUrbs.2.urbThread = true ↔ _
    rw [hd.urbThread]
    exact hs.urbThread
  · have hmutex := hmutex (.inr (.inr (.inr hpc)))
    have hidle : s.ReapIdle := hs.reapIdle (by simp [hpc])
    refine ⟨by simp [HandlerLocked], ?_, hs.urbThread, fun _ _ => hidle, fun _ => hidle,
      hs.counted⟩
    rw [hmutex] at hreset
    simpa using hreset

/-- A reap thread that stays at work keeps the threads well formed, if it takes and gives
`_urbMutex` as it should. -/
lemma WellFormed.withReap {s : UsbThreads} (h : WellFormed s) {pc : ReapPc}
    {m : Option MutexOwner} (hwork : ¬ s.ReapIdle) (hpc : pc ≠ .absent)
    (hhandler : m = some .handler ↔ s.urbMutex = some .handler)
    (hreap : m = some .reap ↔ ∃ urb, pc = .reset urb) :
    WellFormed { s with urbMutex := m, reap := pc } := by
  refine ⟨hhandler.trans h.handlerMutex, hreap, ?_, fun hr hj => ?_, fun hh => ?_, h.counted⟩
  · have habsent : s.reap ≠ .absent := fun heq => hwork (.inl heq)
    exact ⟨fun _ => hpc, fun _ => h.urbThread.mpr habsent⟩
  · exact absurd (h.urbThreadRunning hr hj) hwork
  · exact absurd (h.reapIdle hh) hwork

/-- The steps of the reap thread outside `REAPURB` keep the threads well formed. -/
lemma wellFormed_reapStep {s s' : UsbThreads} (hs : WellFormed s) {answer : ℕ → ℤ}
    (h : s.reapStep answer = some s') : WellFormed s' := by
  have hreset := hs.reapMutex
  rcases reapStep_cases h with ⟨hpc, rfl⟩ |
    ⟨urb, ⟨hpc, rfl⟩ | ⟨hpc, hfree, rfl⟩ | ⟨hpc, rfl⟩ | ⟨hpc, rfl⟩⟩
  · rw [hpc] at hreset
    refine hs.withReap (by simp [ReapIdle, hpc]) ?_ Iff.rfl ?_
    · split_ifs <;> simp
    · rw [hreset]
      split_ifs <;> simp
  · rw [hpc] at hreset
    exact hs.withReap (by simp [ReapIdle, hpc]) (by simp) Iff.rfl (by simpa using hreset)
  · exact hs.withReap (by simp [ReapIdle, hpc]) (by simp) (by simp [hfree]) (by simp)
  · have hmutex : s.urbMutex = some .reap := hreset.mpr ⟨urb, hpc⟩
    exact hs.withReap (by simp [ReapIdle, hpc]) (by simp) (by simp [hmutex]) (by simp)
  · rw [hpc] at hreset
    have hd : WellFormed { s with device := (s.device.submitUrb answer urb).2 } := by
      unfold AndroidUsbDevice.submitUrb AndroidUsbDevice.ioctl
      dsimp only
      split_ifs
      · exact hs.withDevice rfl rfl hs.counted
      · exact hs.withDevice rfl rfl hs.counted
    exact hd.withReap (by simp [ReapIdle, hpc]) (by simp) Iff.rfl (by simpa using hreset)

/-- Every event keeps the threads well formed. -/
lemma wellFormed_step {s s' : UsbThreads} {e : UsbEvent} (hs : WellFormed s)
    (h : s.step e = some s') : WellFormed s' := by
  cases e with
  | initIsoUrbs answer =>
    obtain ⟨hclosed, -, pc, hpc, rfl⟩ := step_cases h
    obtain ⟨ht, hr, hc⟩ := initIsoUrbs_same hs.counted answer
    have hd := hs.withDevice ht hr hc
    have hidle : s.ReapIdle := hs.reapIdle (.inl hclosed)
    refine ⟨?_, hd.reapMutex, hd.urbThread, fun _ _ => hidle, fun _ => hidle, hd.counted⟩
    rw [hs.handlerMutex]
    apply iff_of_false (by simp [HandlerLocked, hclosed])
    rcases hpc with rfl | rfl <;> simp [HandlerLocked]
  | startUrbAsyncRead =>
    obtain ⟨hopened, hfree, ⟨-, rfl⟩ | ⟨-, rfl⟩⟩ := step_cases h
    · exact ⟨by simp [HandlerLocked, hfree], by simp [hfree], by simp, by simp, by simp,
        hs.counted⟩
    · have hidle : s.ReapIdle := hs.reapIdle (.inr (.inl hopened))
      exact ⟨by simp [HandlerLocked, hfree], hs.reapMutex, hs.urbThread, fun _ _ => hidle,
        fun _ => hidle, hs.counted⟩
  | stop =>
    obtain ⟨hguard, hcases⟩ := step_cases h
    have hlocked : ¬ s.HandlerLocked := by
      rcases hguard with hg | hg | hg <;> simp [HandlerLocked, hg]
    rcases hcases with ⟨hrun, rfl⟩ | ⟨hrun, rfl⟩
    · exact ⟨by rw [hs.handlerMutex]; exact iff_of_false hlocked (by simp [HandlerLocked]),
        hs.reapMutex, hs.urbThread, by simp [hrun], by simp, hs.counted⟩
    · have hidle : s.ReapIdle := by
        apply hs.urbThreadRunning hrun
        rcases hguard with hg | hg | hg <;> simp [hg]
      have hd := s.device.discardIsoUrbs_same
      have hw := hs.withDevice hd.urbThread hd.urbThreadRunning (counted_discardIsoUrbs hs.counted)
      exact ⟨by rw [hs.handlerMutex]; exact iff_of_false hlocked (by simp [HandlerLocked]),
        hw.reapMutex, hw.urbThread, fun _ _ => hidle, fun _ => hidle, hw.counted⟩
  | handler => exact wellFormed_handlerStep hs h
  | reap answer => exact wellFormed_reapStep hs h
  | reapUrb urb =>
    obtain ⟨hreaping, -, rfl⟩ := step_cases h
    have hreset := hs.reapMutex
    rw [hreaping] at hreset
    have hd : WellFormed
        { s with device := { s.device with usbfs := s.device.usbfs.reap urb } } :=
      hs.withDevice rfl rfl hs.counted
    exact hd.withReap (by simp [ReapIdle, hreaping]) (by simp) Iff.rfl (by simpa using hreset)
  | reapError ret =>
    obtain ⟨hreaping, hcases⟩ := step_cases h
    have hreset := hs.reapMutex
    rw [hreaping] at hreset
    rcases hcases with ⟨-, rfl⟩ | ⟨-, rfl⟩
    · exact hs.withReap (by simp [ReapIdle, hreaping]) (by simp) Iff.rfl (by simpa using hreset)
    · have hthread := hs.urbThread.mpr (by simp [hreaping])
      exact ⟨hs.handlerMutex, by simpa using hreset, by simp [hthread], fun _ _ => .inr rfl,
        fun _ => .inr rfl, hs.counted⟩
  | complete urb =>
    obtain ⟨-, rfl⟩ := step_cases h
    exact hs.withDevice rfl rfl hs.counted

/-- **Between any two steps the threads are well formed.** -/
theorem wellFormed_of_reachable {C : UsbThreads → UsbEvent → Prop} {s : UsbThreads}
    (h : usbThreads.ReachableUnder C s) : WellFormed s := by
  refine StepSystem.ReachableUnder.invariant (I := WellFormed) ?_
    (fun s e s' _ hs _ hstep => wellFormed_step hs hstep) h
  rintro s rfl
  exact ⟨by simp [new, HandlerLocked], by simp [new], by simp [new, AndroidUsbDevice.new],
    fun _ _ => .inl rfl, fun _ => .inl rfl, fun _ => rfl⟩

/-! ## What an event changes -/

/-- Where the handler thread stands after an event. -/
lemma step_handler {s s' : UsbThreads} {e : UsbEvent} (h : s.step e = some s') :
    match e with
    | .initIsoUrbs _ => s'.handler = .opened ∨ s'.handler = .failed
    | .startUrbAsyncRead => s'.handler = .streaming ∨ s'.handler = .failed
    | .stop => s'.handler = .stopLock ∨ s'.handler = .closed
    | .handler => s'.HandlerLocked ∨ s'.handler = .closed
    | .reap _ | .reapUrb _ | .reapError _ | .complete _ => s'.handler = s.handler := by
  cases e with
  | initIsoUrbs answer =>
    obtain ⟨-, -, pc, hpc, rfl⟩ := step_cases h
    exact hpc
  | startUrbAsyncRead =>
    obtain ⟨-, -, ⟨-, rfl⟩ | ⟨-, rfl⟩⟩ := step_cases h
    · exact .inl rfl
    · exact .inr rfl
  | stop =>
    obtain ⟨-, ⟨-, rfl⟩ | ⟨-, rfl⟩⟩ := step_cases h
    · exact .inl rfl
    · exact .inr rfl
  | handler =>
    rcases handlerStep_cases h with ⟨-, -, rfl⟩ | ⟨-, -, rfl⟩ | ⟨-, -, rfl⟩ | ⟨-, -, rfl⟩ |
      ⟨-, rfl⟩ | ⟨-, rfl⟩
    · exact .inl (.inl rfl)
    · exact .inl (.inr (.inl rfl))
    · exact .inl (.inr (.inr (.inr rfl)))
    · exact .inl (.inr (.inr (.inl rfl)))
    · exact .inl (.inr (.inr (.inr rfl)))
    · exact .inr rfl
  | reap answer =>
    rcases reapStep_cases h with ⟨-, rfl⟩ | ⟨urb, ⟨-, rfl⟩ | ⟨-, -, rfl⟩ | ⟨-, rfl⟩ | ⟨-, rfl⟩⟩ <;>
    rfl
  | reapUrb urb =>
    obtain ⟨-, -, rfl⟩ := step_cases h
    rfl
  | reapError ret =>
    obtain ⟨-, ⟨-, rfl⟩ | ⟨-, rfl⟩⟩ := step_cases h <;> rfl
  | complete urb =>
    obtain ⟨-, rfl⟩ := step_cases h
    rfl

/-- A reap thread at work that is not in `REAPURB` moves by steps of its own only. -/
lemma step_reap {s s' : UsbThreads} {e : UsbEvent} (hw : WellFormed s)
    (hwork : ¬ s.ReapIdle) (hreaping : s.reap ≠ .reaping) (he : ∀ answer, e ≠ .reap answer)
    (h : s.step e = some s') : s'.reap = s.reap := by
  cases e with
  | initIsoUrbs answer =>
    obtain ⟨-, -, pc, -, rfl⟩ := step_cases h
    rfl
  | startUrbAsyncRead =>
    exact absurd (hw.reapIdle (.inr (.inl (step_cases h).1))) hwork
  | stop =>
    obtain ⟨-, ⟨-, rfl⟩ | ⟨-, rfl⟩⟩ := step_cases h <;> rfl
  | handler =>
    rcases handlerStep_cases h with ⟨-, -, rfl⟩ | ⟨-, -, rfl⟩ | ⟨-, -, rfl⟩ | ⟨-, hexit, -⟩ |
      ⟨-, rfl⟩ | ⟨-, rfl⟩
    · rfl
    · rfl
    · rfl
    · exact absurd (.inr hexit) hwork
    · rfl
    · rfl
  | reap answer => exact absurd rfl (he answer)
  | reapUrb urb => exact absurd (step_cases h).1 hreaping
  | reapError ret => exact absurd (step_cases h).1 hreaping
  | complete urb =>
    obtain ⟨-, rfl⟩ := step_cases h
    rfl

/-- **An undisturbed stop is `stopUrbAsyncRead`**: if the reap thread is at the test of
`_urbThreadRunning` when the handler thread clears it, the device ends up as the sequential
function leaves it. -/
theorem run_stop {s : UsbThreads} (hthread : s.device.urbThread = true)
    (hhandler : s.handler = .stopClear) (hreap : s.reap = .test) (answer : ℕ → ℤ) :
    usbThreads.run s [.handler, .reap answer, .handler, .handler, .handler] =
      some
        { device := s.device.stopUrbAsyncRead
          urbMutex := none
          handler := .closed
          reap := .absent } := by
  cases s
  simp only at hthread hhandler hreap
  subst hhandler hreap
  simp [StepSystem.run_cons, usbThreads, step, handlerStep, reapStep, hthread,
    AndroidUsbDevice.stopUrbAsyncRead]

end UsbThreads

end UsbTv
