import UsbTv.Device.UrbLifetime
import UsbTv.Flow.Pointers

set_option relaxedAutoImplicit false
set_option autoImplicit false

/-!
# The URBs of a stream

`initIsoUrbs` submits sixteen URBs. Each of them goes from the kernel to the reap thread and back,
by a `SUBMITURB` at the end of `onUrbReceived`. Nobody looks at its result: if it fails, the URB is
gone, `_isoUrbsSubmitted` still counts it, and the stream goes on with one URB less until there is
none. `initIsoUrbs` makes the same request and gives up if it fails.

## Main definitions

* `UsbTv.UsbThreads.NoneLost` — all URBs are with the kernel or the reap thread.
* `UsbTv.FrameFlow.Resubmits` — the URBs of an active stream are resubmitted successfully.

## Main results

* `UsbTv.UsbThreads.noneLost_step` — what each step of the device's threads does to the URBs.
* `UsbTv.FrameFlow.noneLost_of_reachable` — runs with successful resubmissions.
* `UsbTv.UsbThreads.lost_of_refused` — any other resubmission loses its URB.
-/

namespace UsbTv

/-- The URB that the reap thread submits next. -/
def ReapPc.submitting : ReapPc → Option ℕ
  | submit urb => some urb
  | absent | test | reaping | callback _ | lock _ | reset _ | exited => none

namespace UsbThreads

/-- The URBs of a stream: there are `USBTV_ISOC_TRANSFERS` of them, as many count as submitted, and
each is with the kernel or with the reap thread. -/
structure NoneLost (s : UsbThreads) : Prop where
  length : s.device.isoUrbPool.length = usbtvIsocTransfers
  nodup : s.device.isoUrbPool.Nodup
  isoUrbsSubmitted : s.device.isoUrbsSubmitted = usbtvIsocTransfers
  held : ∀ urb ∈ s.device.isoUrbPool, s.Held urb

/-- The URBs of the pool were submitted, and no stop is at work. -/
def Submits (s : UsbThreads) : Prop := s.handler = .opened ∨ s.handler = .streaming

/-- The `SUBMITURB` that the reap thread makes next for a URB of the pool succeeds. -/
def Resubmits (s : UsbThreads) (answer : ℕ → ℤ) : Prop :=
  ∀ urb ∈ s.reap.submitting, urb ∈ s.device.isoUrbPool → 0 ≤ answer s.device.log.length

instance (s : UsbThreads) (answer : ℕ → ℤ) : Decidable (s.Resubmits answer) :=
  inferInstanceAs (Decidable (∀ urb ∈ s.reap.submitting, _))

/-- A step that leaves the pool and its count alone, and after which its URBs are still held, loses
none. -/
lemma NoneLost.of_held {s s' : UsbThreads} (h : NoneLost s)
    (hpool : s'.device.isoUrbPool = s.device.isoUrbPool)
    (hcount : s'.device.isoUrbsSubmitted = s.device.isoUrbsSubmitted)
    (hheld : ∀ urb ∈ s.device.isoUrbPool, s.Held urb → s'.Held urb) : NoneLost s' :=
  ⟨by rw [hpool]; exact h.length, by rw [hpool]; exact h.nodup,
    hcount.trans h.isoUrbsSubmitted, fun urb hu => by
      rw [hpool] at hu
      exact hheld urb hu (h.held urb hu)⟩

/-- A successful `initIsoUrbs` submits its whole pool. -/
lemma noneLost_initIsoUrbs {s s' : UsbThreads} {answer : ℕ → ℤ} (hw : WellFormed s)
    (h : s.step (.initIsoUrbs answer) = some s') (hsubmits : s'.Submits) : NoneLost s' := by
  simp only [step] at h
  split_ifs at h
  split at h
  · next d heq =>
    obtain rfl := Option.some_inj.mp h
    have hok : (s.device.initIsoUrbs answer usbtvIsocTransfers).1 = true := by rw [heq]
    obtain ⟨hsub, hcount⟩ := AndroidUsbDevice.initIsoUrbs_of_success hw.counted (by decide) hok
    rw [heq] at hsub hcount
    have hpool := hsub.isoUrbPool
    rw [s.device.clearIsoUrbs_freed.isoUrbPool, List.nil_append] at hpool
    refine ⟨?_, ?_, hcount, fun urb hu => .inl (.inl ?_)⟩
    · rw [hpool, List.length_range']
    · rw [hpool]
      exact List.nodup_range'
    · rw [hpool] at hu
      rw [hsub.pending]
      exact List.mem_append_right _ hu
  · obtain rfl := Option.some_inj.mp h
    rcases hsubmits with hpc | hpc <;> simp at hpc

/-- The reap thread hands its URB on, and the kernel takes it back if the `SUBMITURB` succeeds. -/
lemma noneLost_reapStep {s s' : UsbThreads} {answer : ℕ → ℤ} (hs : NoneLost s)
    (hc : s.Resubmits answer) (h : s.reapStep answer = some s') : NoneLost s' := by
  rcases reapStep_cases h with ⟨hpc, rfl⟩ |
    ⟨urb, ⟨hpc, rfl⟩ | ⟨hpc, -, rfl⟩ | ⟨hpc, rfl⟩ | ⟨hpc, rfl⟩⟩
  · refine hs.of_held rfl rfl fun urb _ hu => hu.imp_right fun hurb => ?_
    simp [hpc, ReapPc.urb] at hurb
  · refine hs.of_held rfl rfl fun urb' _ hu => hu.imp_right fun hurb => ?_
    rw [hpc] at hurb
    exact hurb
  · refine hs.of_held rfl rfl fun urb' _ hu => hu.imp_right fun hurb => ?_
    rw [hpc] at hurb
    exact hurb
  · refine hs.of_held rfl rfl fun urb' _ hu => hu.imp_right fun hurb => ?_
    rw [hpc] at hurb
    exact hurb
  · have hsubmit : s.reap.submitting = some urb := by rw [hpc]; rfl
    unfold AndroidUsbDevice.submitUrb AndroidUsbDevice.ioctl
    dsimp only
    split_ifs with hret
    · refine hs.of_held rfl rfl fun urb' hmem hu => hu.imp_right fun hurb => ?_
      -- the URB that is refused is none of the pool
      rw [hpc] at hurb
      obtain rfl := Option.some_inj.mp hurb
      have hok := hc urb hsubmit hmem
      omega
    · refine hs.of_held rfl rfl fun urb' _ hu => .inl (Usbfs.holds_submit.mpr ?_)
      apply hu.imp_right
      intro hurb
      rw [hpc] at hurb
      exact (Option.some_inj.mp hurb).symm

/-- **What each step does to the URBs**: `initIsoUrbs` submits them, and after that each is with the
kernel or the reap thread, unless a resubmission fails.

**Proof sketch.** While URBs are submitted the steps of `stopUrbAsyncRead` cannot happen. A
`REAPURB` takes a URB from the kernel to the reap thread; a completion leaves it with the kernel. -/
lemma noneLost_step {s s' : UsbThreads} {e : UsbEvent} (hw : WellFormed s)
    (hs : s.Submits → NoneLost s) (hc : ∀ answer, e = .reap answer → s.Resubmits answer)
    (h : s.step e = some s') (hsubmits : s'.Submits) : NoneLost s' := by
  have hpc := step_handler h
  cases e with
  | initIsoUrbs answer => exact noneLost_initIsoUrbs hw h hsubmits
  | startUrbAsyncRead =>
    obtain ⟨hopened, -, ⟨-, rfl⟩ | ⟨-, rfl⟩⟩ := step_cases h
    · have hnone : s.reap.urb = none := by
        rcases hw.reapIdle (.inr (.inl hopened)) with hreap | hreap <;> rw [hreap] <;> rfl
      refine (hs (.inl hopened)).of_held rfl rfl fun urb _ hu => hu.imp_right fun hurb => ?_
      exact absurd (hnone.symm.trans hurb) (by simp)
    · rcases hsubmits with hpc | hpc <;> simp at hpc
  | stop =>
    rcases hsubmits with hsub | hsub <;> rcases hpc with hpc | hpc <;>
      exact absurd (hsub.symm.trans hpc) (by simp)
  | handler =>
    rcases hsubmits with hsub | hsub <;> simp [HandlerLocked, hsub] at hpc
  | reap answer =>
    have hbefore : s.Submits := by rwa [Submits, ← hpc]
    exact noneLost_reapStep (hs hbefore) (hc answer rfl) h
  | reapUrb urb =>
    obtain ⟨hreaping, -, rfl⟩ := step_cases h
    refine (hs hsubmits).of_held rfl rfl fun urb' _ hu => ?_
    have hkernel : s.device.usbfs.Holds urb' := by
      apply hu.resolve_right
      intro hurb
      simp [hreaping, ReapPc.urb] at hurb
    by_cases hne : urb' = urb
    · exact .inr (by rw [hne]; rfl)
    · exact .inl (hkernel.imp_right (List.mem_erase_of_ne hne).mpr)
  | reapError ret =>
    obtain ⟨hreaping, hcases⟩ := step_cases h
    have hkernel : ∀ urb, s.Held urb → s.device.usbfs.Holds urb := fun urb hu =>
      hu.resolve_right fun hurb => by simp [hreaping, ReapPc.urb] at hurb
    rcases hcases with ⟨-, rfl⟩ | ⟨-, rfl⟩
    · exact (hs hsubmits).of_held rfl rfl fun urb _ hu => .inl (hkernel urb hu)
    · exact (hs hsubmits).of_held rfl rfl fun urb _ hu => .inl (hkernel urb hu)
  | complete urb =>
    obtain ⟨-, rfl⟩ := step_cases h
    exact (hs hsubmits).of_held rfl rfl fun urb' _ hu => hu.imp_left Usbfs.holds_complete.mpr

/-- **Any other resubmission loses its URB**: if the `SUBMITURB` fails, nobody has the URB any
more, and the stream and its count are as before. -/
theorem lost_of_refused {s : UsbThreads} {urb : ℕ} {answer : ℕ → ℤ}
    (hreap : s.reap = .submit urb) (hrefused : answer s.device.log.length < 0)
    (hkernel : ¬ s.device.usbfs.Holds urb) :
    ∃ s', s.step (.reap answer) = some s' ∧ ¬ s'.Held urb ∧ s'.handler = s.handler ∧
      s'.device.isoUrbPool = s.device.isoUrbPool ∧
      s'.device.isoUrbsSubmitted = s.device.isoUrbsSubmitted := by
  refine ⟨{ s with device := (s.device.submitUrb answer urb).2, reap := .test }, ?_, ?_, rfl, ?_⟩
  · simp only [step, reapStep, hreap]
  · simpa [Held, ReapPc.urb, AndroidUsbDevice.submitUrb, AndroidUsbDevice.ioctl, hrefused]
      using hkernel
  · simp [AndroidUsbDevice.submitUrb, AndroidUsbDevice.ioctl, hrefused]

end UsbThreads

namespace FrameFlow

/-- The condition on a step: while the stream is active, the reap thread resubmits the URBs of
the pool successfully. -/
def Resubmits (s : FrameFlow) : FlowEvent → Prop
  | .usb (.reap answer) => s.streamActive = true → s.usb.Resubmits answer
  | _ => True

instance (s : FrameFlow) (e : FlowEvent) : Decidable (Resubmits s e) :=
  match e with
  | .usb (.reap _) => inferInstanceAs (Decidable (_ → _))
  | .usb (.initIsoUrbs _) | .usb .startUrbAsyncRead | .usb .stop | .usb .handler | .usb (.reapUrb _)
  | .usb (.reapError _) | .usb (.complete _) | .usbtvInitialize _ | .dispose | .setFrameListener _
  | .startStreaming _ | .stopStreaming | .stop | .addCompleteFrameToQueue _ | .fetch | .dequeue _
  | .process | .returnFrame _ | .returnFrameToPool _ => inferInstanceAs (Decidable True)

/-- While the stream is active, the URBs that were submitted for it are not lost. -/
def UrbsKept (s : FrameFlow) : Prop :=
  s.streamActive = true → s.usb.Submits → s.usb.NoneLost

/-- **Each step keeps the URBs of an active stream**, if they are resubmitted successfully. -/
lemma urbsKept_step {s s' : FrameFlow} {e : FlowEvent} (hw : WellFormed s) (hu : s.usb.WellFormed)
    (hs : UrbsKept s) (hc : Resubmits s e) (h : s.step e = some s') : UrbsKept s' := by
  cases e with
  | usbtvInitialize mFramePoolSize =>
    obtain ⟨-, rfl⟩ := usbtvInitialize_cases h
    intro hactive
    simp [construct] at hactive
  | dispose =>
    obtain ⟨-, rfl⟩ := dispose_cases h
    exact hs
  | setFrameListener listener =>
    obtain rfl | ⟨useCallback, rfl⟩ := setFrameListener_cases h
    · exact hs
    · exact hs
  | startStreaming outcome =>
    obtain ⟨hguard, h⟩ := startStreaming_guard h
    have husb := startStreaming_usb h
    intro hactive' hsubmits
    rw [husb] at hsubmits ⊢
    rcases Bool.eq_false_or_eq_true s.streamActive with hactive | hactive
    · exact hs hactive hsubmits
    · -- an inactive driver has no stream
      have hclosed := (hw.inactive hactive hguard.2).2
      rcases hsubmits with hpc | hpc <;> exact absurd (hclosed.symm.trans hpc) (by simp)
  | stopStreaming =>
    obtain ⟨-, rfl⟩ := stopStreaming_cases h
    intro hactive
    simp at hactive
  | usb e =>
    obtain ⟨usb, call, streaming, husb, -, rfl⟩ := usbStep_cases h
    intro hactive
    refine UsbThreads.noneLost_step hu (hs hactive) (fun answer he => ?_) husb
    subst he
    exact hc hactive
  | stop =>
    intro hactive
    exact absurd ((hw.inactive_stopStep h).symm.trans hactive) (by simp)
  | addCompleteFrameToQueue enqueued =>
    obtain ⟨r, -, -, -, rfl | rfl⟩ := addCompleteFrameToQueue_cases h <;> exact hs
  | fetch =>
    obtain ⟨index, pool, -, -, ⟨-, -, rfl⟩ | ⟨next, -, rfl⟩ | ⟨-, rfl⟩⟩ := fetchStep_cases h <;>
      exact hs
  | dequeue k =>
    obtain ⟨-, entry, pc, -, -, -, rfl⟩ := dequeueStep_cases h
    exact hs
  | process =>
    rcases processStep_cases h with ⟨pc, -, -, -, -, rfl⟩ | ⟨r, -, ⟨pc, -, -, rfl⟩ | rfl⟩ |
      ⟨r, -, rfl⟩ <;> exact hs
  | returnFrame r =>
    obtain ⟨-, rfl | ⟨-, rfl⟩⟩ := returnFrame_cases h <;> exact hs
  | returnFrameToPool r =>
    obtain ⟨-, ⟨-, rfl⟩ | ⟨pool, -, -, rfl⟩⟩ := returnStep_cases h <;> exact hs

/-- **No URB is lost while streaming**, in a run in which the reap thread resubmits the URBs of an
active stream successfully. After a successful start and as long as `_streamActive` is set, each of
the `USBTV_ISOC_TRANSFERS` URBs of the pool is with the kernel or with the reap thread, and
`_isoUrbsSubmitted` is their number. -/
theorem noneLost_of_reachable {s : FrameFlow} (h : frameFlow.ReachableUnder Resubmits s)
    (hactive : s.streamActive = true) (hstreaming : s.usb.handler = .streaming) :
    s.usb.device.isoUrbPool.length = usbtvIsocTransfers ∧ s.usb.device.isoUrbPool.Nodup ∧
      (∀ urb ∈ s.usb.device.isoUrbPool,
        s.usb.device.usbfs.Holds urb ∨ s.usb.reap.urb = some urb) ∧
      s.usb.device.isoUrbsSubmitted = s.usb.device.isoUrbPool.length := by
  have hkept : UrbsKept s := by
    refine StepSystem.ReachableUnder.invariant (I := UrbsKept) ?_
      (fun s e s' hr hs hc hstep =>
        urbsKept_step (wellFormed_of_reachable hr) (usb_wellFormed hr) hs hc hstep) h
    rintro s rfl hactive
    simp [new] at hactive
  have hnone := hkept hactive (.inr hstreaming)
  exact ⟨hnone.length, hnone.nodup, hnone.held, hnone.isoUrbsSubmitted.trans hnone.length.symm⟩

/-- The first URB of a first stream comes to the reap thread, which goes on to resubmit it. -/
def resubmitEvents : List FlowEvent :=
  openEvents 4 ++ [.usb (.complete 0), .usb (.reap fun _ => 0), .usb (.reapUrb 0),
    .usb (.reap fun _ => 0), .usb (.reap fun _ => 0), .usb (.reap fun _ => 0)]

/-- The first URB of a first stream is resubmitted. -/
theorem noneLost_of_reachable_firstUrb :
    ∃ s, frameFlow.ReachableUnder Resubmits s ∧ s.streamActive = true ∧
      s.usb.handler = .streaming ∧ s.usb.device.isoUrbPool.length = usbtvIsocTransfers ∧
      s.usb.device.isoUrbPool.Nodup ∧
      (∀ urb ∈ s.usb.device.isoUrbPool,
        s.usb.device.usbfs.Holds urb ∨ s.usb.reap.urb = some urb) ∧
      s.usb.device.isoUrbsSubmitted = s.usb.device.isoUrbPool.length := by
  have h : (frameFlow.runUnder Resubmits new
      (resubmitEvents ++ [.usb (.reap fun _ => 0)])).map
      (fun s => (s.streamActive, s.usb.handler)) = some (true, .streaming) := by decide
  obtain ⟨s, hrun, heq⟩ := Option.map_eq_some_iff.mp h
  simp only [Prod.mk.injEq] at heq
  obtain ⟨hactive, hstreaming⟩ := heq
  have hs : frameFlow.ReachableUnder Resubmits s :=
    StepSystem.ReachableUnder.runUnder (.init rfl) hrun
  exact ⟨s, hs, hactive, hstreaming, noneLost_of_reachable hs hactive hstreaming⟩

/-- **A URB lost while streaming**: the `SUBMITURB` of the first URB fails. The stream is active,
and all sixteen URBs count as submitted. -/
theorem refused_lost :
    ¬ ∀ s, frameFlow.Reachable s → s.streamActive = true → s.usb.handler = .streaming →
      ∀ urb ∈ s.usb.device.isoUrbPool,
        s.usb.device.usbfs.Holds urb ∨ s.usb.reap.urb = some urb := by
  intro hclaim
  have h : (frameFlow.run new (resubmitEvents ++ [.usb (.reap fun _ => -1)])).map (fun s =>
      ((s.streamActive, s.usb.handler), decide (0 ∈ s.usb.device.isoUrbPool),
        decide (s.usb.device.usbfs.Holds 0), s.usb.reap.urb)) =
      some ((true, .streaming), true, false, none) := by decide
  obtain ⟨s, hrun, heq⟩ := Option.map_eq_some_iff.mp h
  simp only [Prod.mk.injEq, decide_eq_true_eq, decide_eq_false_iff_not] at heq
  obtain ⟨⟨hactive, hstreaming⟩, hmem, hkernel, hreap⟩ := heq
  have hs : frameFlow.Reachable s := StepSystem.Reachable.run (.init rfl) hrun
  rcases hclaim s hs hactive hstreaming 0 hmem with hu | hu
  · exact hkernel hu
  · exact absurd (hreap.symm.trans hu) (by simp)

end FrameFlow

end UsbTv
