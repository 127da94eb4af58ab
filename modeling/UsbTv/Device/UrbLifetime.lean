import UsbTv.Device.Threads

set_option relaxedAutoImplicit false
set_option autoImplicit false

/-!
# The life of a URB

`discardIsoUrbs` only makes URBs complete; the kernel keeps them until they are reaped. A stop
discards and reaps no more, and the next `initIsoUrbs` deletes the pool. So does the failure path
of `initIsoUrbs` with what it has just submitted. If the kernel still holds a URB that is
deleted, the next reap thread gets it.

## Main definitions

* `UsbTv.UsbThreads.InitsReaped` — `initIsoUrbs` finds its old pool reaped, and submits all of
  its new one or nothing.
* `UsbTv.UsbThreads.HeldAlive` — no thread and not the kernel holds a deleted URB.

## Main results

* `UsbTv.UsbThreads.heldAlive_step` — each step keeps this.
* `UsbTv.UsbThreads.not_mem_deleted_of_reapUrb` — the reap thread never gets a deleted URB.
* `UsbTv.UsbThreads.exists_deleted_of_initIsoUrbs` — any other call deletes a URB in use.
-/

namespace UsbTv

namespace UsbThreads

/-- The condition on a step: where `initIsoUrbs` is called, the kernel holds no URB of the old
pool, and either all submissions succeed or already the first one fails. -/
def InitsReaped (s : UsbThreads) : UsbEvent → Prop
  | .initIsoUrbs answer =>
    (∀ urb ∈ s.device.isoUrbPool, ¬ s.device.usbfs.Holds urb) ∧
      ((∀ k < usbtvIsocTransfers, 0 ≤ answer (s.device.clearIsoUrbs.log.length + k)) ∨
        answer s.device.clearIsoUrbs.log.length < 0)
  | _ => True

instance (s : UsbThreads) (e : UsbEvent) : Decidable (InitsReaped s e) :=
  match e with
  | .initIsoUrbs _ => inferInstanceAs (Decidable ((∀ urb ∈ s.device.isoUrbPool, _) ∧ _))
  | .handler | .startUrbAsyncRead | .stop | .reap _ | .reapUrb _ | .reapError _
  | .complete _ => inferInstanceAs (Decidable True)

/-- The kernel or the reap thread holds the URB. -/
def Held (s : UsbThreads) (urb : ℕ) : Prop :=
  s.device.usbfs.Holds urb ∨ s.reap.urb = some urb

/-- No URB that is held was deleted, and no URB is in use that was not allocated. -/
structure HeldAlive (s : UsbThreads) : Prop where
  alive : ∀ urb, s.Held urb → urb ∉ s.device.deleted
  held_lt : ∀ urb, s.Held urb → urb < s.device.allocated
  pool_lt : ∀ urb ∈ s.device.isoUrbPool, urb < s.device.allocated
  deleted_lt : ∀ urb ∈ s.device.deleted, urb < s.device.allocated

/-- A step that deletes and allocates nothing, leaves the pool alone and lets no new URB be held
keeps the URBs alive. -/
lemma HeldAlive.of_held {s s' : UsbThreads} (h : HeldAlive s)
    (hheld : ∀ urb, s'.Held urb → s.Held urb) (hpool : s'.device.isoUrbPool = s.device.isoUrbPool)
    (hdel : s'.device.deleted = s.device.deleted)
    (hall : s'.device.allocated = s.device.allocated) : HeldAlive s' :=
  ⟨fun urb hu => by rw [hdel]; exact h.alive urb (hheld urb hu),
    fun urb hu => by rw [hall]; exact h.held_lt urb (hheld urb hu),
    by rw [hpool, hall]; exact h.pool_lt, by rw [hdel, hall]; exact h.deleted_lt⟩

/-- Deleting a pool that nobody holds, and allocating URBs of which some are submitted and the
refused ones deleted, keeps the URBs alive. -/
lemma HeldAlive.of_renewed {s s' : UsbThreads} (h : HeldAlive s) (submitted refused : List ℕ)
    (hsubmitted : ∀ urb ∈ submitted, s.device.allocated ≤ urb ∧ urb < s'.device.allocated)
    (hrefused : ∀ urb ∈ refused,
      s.device.allocated ≤ urb ∧ urb < s'.device.allocated ∧ urb ∉ submitted)
    (hall : s.device.allocated ≤ s'.device.allocated)
    (hdel : s'.device.deleted = s.device.deleted ++ s.device.isoUrbPool ++ refused)
    (hpool : ∀ urb ∈ s'.device.isoUrbPool, urb ∈ submitted)
    (hheld : ∀ urb, s'.Held urb → s.Held urb ∧ urb ∉ s.device.isoUrbPool ∨ urb ∈ submitted) :
    HeldAlive s' := by
  refine ⟨fun urb hu hmem => ?_, fun urb hu => ?_, fun urb hu => (hsubmitted urb (hpool urb hu)).2,
    fun urb hu => ?_⟩
  · rw [hdel, List.mem_append, List.mem_append] at hmem
    rcases hheld urb hu with ⟨hu, hnot⟩ | hu
    · rcases hmem with (hmem | hmem) | hmem
      · exact h.alive urb hu hmem
      · exact hnot hmem
      · have hlt := h.held_lt urb hu
        have hle := (hrefused urb hmem).1
        omega
    · have hle := (hsubmitted urb hu).1
      rcases hmem with (hmem | hmem) | hmem
      · have hlt := h.deleted_lt urb hmem
        omega
      · have hlt := h.pool_lt urb hmem
        omega
      · exact (hrefused urb hmem).2.2 hu
  · rcases hheld urb hu with ⟨hu, -⟩ | hu
    · exact (h.held_lt urb hu).trans_le hall
    · exact (hsubmitted urb hu).2
  · rw [hdel, List.mem_append, List.mem_append] at hu
    rcases hu with (hu | hu) | hu
    · exact (h.deleted_lt urb hu).trans_le hall
    · exact (h.pool_lt urb hu).trans_le hall
    · exact (hrefused urb hu).2.1

/-- **Initialising the URBs keeps those alive that are held**, if the old pool is reaped and the
new one is submitted or not.

**Proof sketch.** The old pool is deleted, and nobody holds it: not the kernel by the condition,
and there is no reap thread at work. What is submitted is new. On failure nothing was submitted,
and the one URB that was refused is deleted, which is new as well. -/
lemma heldAlive_initIsoUrbs {s : UsbThreads} (hw : WellFormed s) (hs : HeldAlive s)
    (hclosed : s.handler = .closed) {answer : ℕ → ℤ} (hc : InitsReaped s (.initIsoUrbs answer))
    (pc : HandlerPc) :
    HeldAlive { s with
      device := (s.device.initIsoUrbs answer usbtvIsocTransfers).2, handler := pc } := by
  obtain ⟨hreaped, hanswers⟩ := hc
  have hclear := s.device.clearIsoUrbs_freed
  have hnone : s.reap.urb = none := by
    rcases hw.reapIdle (.inl hclosed) with h | h <;> rw [h] <;> rfl
  have hold : ∀ urb, s.device.usbfs.Holds urb → s.Held urb ∧ urb ∉ s.device.isoUrbPool :=
    fun urb hu => ⟨.inl hu, fun hp => hreaped urb hp hu⟩
  cases hok : (s.device.initIsoUrbs answer usbtvIsocTransfers).1 with
  | true =>
    obtain ⟨hsub, -⟩ := AndroidUsbDevice.initIsoUrbs_of_success hw.counted (by decide) hok
    obtain ⟨hdel, hall⟩ := hsub.deleted_of_eq rfl
    generalize (s.device.initIsoUrbs answer usbtvIsocTransfers).2 = d at *
    rw [hclear.deleted] at hdel
    rw [hclear.allocated] at hall
    refine hs.of_renewed (List.range' s.device.allocated usbtvIsocTransfers) []
      (fun urb hu => ?_) (by simp) ?_ ?_ (fun urb hu => ?_) fun urb hu => ?_
    · show _ ∧ urb < d.allocated
      rw [hall]
      exact List.mem_range'_1.mp hu
    · show _ ≤ d.allocated
      omega
    · rw [List.append_nil]
      exact hdel
    · change urb ∈ d.isoUrbPool at hu
      rw [hsub.isoUrbPool, hclear.isoUrbPool, List.nil_append, hclear.allocated] at hu
      exact hu
    · rcases hu with hu | hu
      · rw [Usbfs.Holds, hsub.pending, hsub.completed, List.mem_append, hclear.allocated] at hu
        rcases hu with (hu | hu) | hu
        · exact .inl (hold urb ((hclear.holds urb).mp (.inl hu)))
        · exact .inr hu
        · exact .inl (hold urb ((hclear.holds urb).mp (.inr hu)))
      · rw [hnone] at hu
        exact absurd hu (by simp)
  | false =>
    obtain ⟨k, hk, hfail⟩ :=
      AndroidUsbDevice.initIsoUrbs_of_failure hw.counted (by decide) hok
    -- not all submissions succeeded, so the first one failed
    obtain rfl : k = 0 := by
      rcases hanswers with hall | hfirst
      · have h₁ := hall k hk
        have h₂ := hfail.refused
        omega
      · by_contra hne
        have h := hfail.accepted 0 (by omega)
        rw [Nat.add_zero] at h
        omega
    have hdel := hfail.deleted
    have hall := hfail.allocated
    have hholds := hfail.holds
    have hpool := hfail.isoUrbPool
    generalize (s.device.initIsoUrbs answer usbtvIsocTransfers).2 = d at *
    simp only [Nat.add_zero, List.range'_zero, List.append_nil] at hdel hall
    refine hs.of_renewed [] [s.device.allocated] (by simp)
      (fun urb hu => ?_) ?_ hdel (fun urb hu => ?_) fun urb hu => ?_
    · obtain rfl := List.mem_singleton.mp hu
      show _ ∧ _ < d.allocated ∧ _
      exact ⟨le_rfl, by omega, List.not_mem_nil⟩
    · show _ ≤ d.allocated
      omega
    · change urb ∈ d.isoUrbPool at hu
      rw [hpool] at hu
      exact hu
    · rcases hu with hu | hu
      · exact .inl (hold urb (by simpa using (hholds urb).mp hu))
      · rw [hnone] at hu
        exact absurd hu (by simp)

/-- The steps of `stopUrbAsyncRead` release no URB. -/
lemma heldAlive_handlerStep {s s' : UsbThreads} (hs : HeldAlive s)
    (h : s.handlerStep = some s') : HeldAlive s' := by
  rcases handlerStep_cases h with ⟨-, -, rfl⟩ | ⟨-, -, rfl⟩ | ⟨-, -, rfl⟩ | ⟨-, -, rfl⟩ |
    ⟨-, rfl⟩ | ⟨-, rfl⟩
  · exact hs.of_held (fun _ hu => hu) rfl rfl rfl
  · exact hs.of_held (fun _ hu => hu) rfl rfl rfl
  · exact hs.of_held (fun _ hu => hu) rfl rfl rfl
  · refine hs.of_held (fun urb hu => ?_) rfl rfl rfl
    exact hu.imp_right fun hu => by simp [ReapPc.urb] at hu
  · have hd := s.device.discardIsoUrbs_same
    refine hs.of_held (fun urb hu => ?_) hd.isoUrbPool hd.deleted hd.allocated
    exact hu.imp_left (hd.holds urb).mp
  · exact hs.of_held (fun _ hu => hu) rfl rfl rfl

/-- The reap thread hands a URB on from step to step, and to the kernel in the end. -/
lemma heldAlive_reapStep {s s' : UsbThreads} (hs : HeldAlive s) {answer : ℕ → ℤ}
    (h : s.reapStep answer = some s') : HeldAlive s' := by
  rcases reapStep_cases h with ⟨-, rfl⟩ |
    ⟨urb, ⟨hpc, rfl⟩ | ⟨hpc, -, rfl⟩ | ⟨hpc, rfl⟩ | ⟨hpc, rfl⟩⟩
  · refine hs.of_held (fun urb hu => ?_) rfl rfl rfl
    apply hu.imp_right
    intro hu
    split_ifs at hu <;> simp [ReapPc.urb] at hu
  · refine hs.of_held (fun urb' hu => ?_) rfl rfl rfl
    exact hu.imp_right fun hu => by rw [hpc]; exact hu
  · refine hs.of_held (fun urb' hu => ?_) rfl rfl rfl
    exact hu.imp_right fun hu => by rw [hpc]; exact hu
  · refine hs.of_held (fun urb' hu => ?_) rfl rfl rfl
    exact hu.imp_right fun hu => by rw [hpc]; exact hu
  · have hurb : s.reap.urb = some urb := by rw [hpc]; rfl
    unfold AndroidUsbDevice.submitUrb AndroidUsbDevice.ioctl
    dsimp only
    split_ifs
    · refine hs.of_held (fun urb' hu => ?_) rfl rfl rfl
      exact hu.imp_right fun hu => by simp [ReapPc.urb] at hu
    · refine hs.of_held (fun urb' hu => ?_) rfl rfl rfl
      rcases hu with hu | hu
      · rcases Usbfs.holds_submit.mp hu with hu | rfl
        · exact .inl hu
        · exact .inr hurb
      · simp [ReapPc.urb] at hu

/-- **Each step keeps the URBs alive that are held**, as long as `initIsoUrbs` is called when the
condition holds. -/
lemma heldAlive_step {s s' : UsbThreads} {e : UsbEvent} (hw : WellFormed s) (hs : HeldAlive s)
    (hc : InitsReaped s e) (h : s.step e = some s') : HeldAlive s' := by
  cases e with
  | initIsoUrbs answer =>
    obtain ⟨hclosed, -, pc, -, rfl⟩ := step_cases h
    exact heldAlive_initIsoUrbs hw hs hclosed hc pc
  | startUrbAsyncRead =>
    obtain ⟨-, -, ⟨-, rfl⟩ | ⟨-, rfl⟩⟩ := step_cases h
    · refine hs.of_held (fun urb hu => ?_) rfl rfl rfl
      exact hu.imp_right fun hu => by simp [ReapPc.urb] at hu
    · exact hs.of_held (fun _ hu => hu) rfl rfl rfl
  | stop =>
    obtain ⟨-, ⟨-, rfl⟩ | ⟨-, rfl⟩⟩ := step_cases h
    · exact hs.of_held (fun _ hu => hu) rfl rfl rfl
    · have hd := s.device.discardIsoUrbs_same
      refine hs.of_held (fun urb hu => ?_) hd.isoUrbPool hd.deleted hd.allocated
      exact hu.imp_left (hd.holds urb).mp
  | handler => exact heldAlive_handlerStep hs h
  | reap answer => exact heldAlive_reapStep hs h
  | reapUrb urb =>
    obtain ⟨-, hcompleted, rfl⟩ := step_cases h
    refine hs.of_held (fun urb' hu => ?_) rfl rfl rfl
    rcases hu with hu | hu
    · exact .inl (Usbfs.holds_of_holds_reap hu)
    · obtain rfl := Option.some_inj.mp hu
      exact .inl (.inr hcompleted)
  | reapError ret =>
    obtain ⟨-, ⟨-, rfl⟩ | ⟨-, rfl⟩⟩ := step_cases h
    · refine hs.of_held (fun urb hu => ?_) rfl rfl rfl
      exact hu.imp_right fun hu => by simp [ReapPc.urb] at hu
    · refine hs.of_held (fun urb hu => ?_) rfl rfl rfl
      exact hu.imp_right fun hu => by simp [ReapPc.urb] at hu
  | complete urb =>
    obtain ⟨-, rfl⟩ := step_cases h
    refine hs.of_held (fun urb' hu => ?_) rfl rfl rfl
    exact hu.imp_left Usbfs.holds_complete.mp

/-- In runs that meet the condition no URB that is held was deleted. -/
lemma heldAlive_of_reachable {s : UsbThreads} (h : usbThreads.ReachableUnder InitsReaped s) :
    HeldAlive s := by
  refine StepSystem.ReachableUnder.invariant (I := HeldAlive) ?_
    (fun s e s' hreach hs hc hstep =>
      heldAlive_step (wellFormed_of_reachable hreach) hs hc hstep) h
  rintro s rfl
  refine ⟨fun urb hu => ?_, fun urb hu => ?_, by simp [new, AndroidUsbDevice.new],
    by simp [new, AndroidUsbDevice.new]⟩ <;>
  simp [Held, new, AndroidUsbDevice.new, Usbfs.Holds, ReapPc.urb] at hu

/-- **The reap thread never gets a deleted URB**, in every run in which each `initIsoUrbs` finds
its old pool reaped and submits all of its new one or nothing; and no URB is deleted while the
kernel holds it. -/
theorem not_mem_deleted_of_reapUrb {s : UsbThreads}
    (h : usbThreads.ReachableUnder InitsReaped s) :
    (∀ urb s', s.step (.reapUrb urb) = some s' → urb ∉ s.device.deleted) ∧
      ∀ urb ∈ s.device.deleted, ¬ s.device.usbfs.Holds urb := by
  have hs := heldAlive_of_reachable h
  refine ⟨fun urb s' hstep => ?_, fun urb hmem hu => hs.alive urb (.inl hu) hmem⟩
  obtain ⟨-, hcompleted, -⟩ := step_cases hstep
  exact hs.alive urb (.inl (.inr hcompleted))

/-- A first stream, up to its reap thread in `REAPURB`. -/
def firstStream : List UsbEvent :=
  [.initIsoUrbs fun _ => 0, .startUrbAsyncRead, .complete 0, .reap fun _ => 0]

/-- The first URB of a first stream is reaped. -/
theorem not_mem_deleted_of_reapUrb_firstStream :
    ∃ s s', usbThreads.ReachableUnder InitsReaped s ∧ s.step (.reapUrb 0) = some s' ∧
      (∀ urb s', s.step (.reapUrb urb) = some s' → urb ∉ s.device.deleted) ∧
      ∀ urb ∈ s.device.deleted, ¬ s.device.usbfs.Holds urb := by
  have h : ((usbThreads.runUnder InitsReaped new firstStream).bind
      fun s => s.step (.reapUrb 0)).isSome = true := by decide
  obtain ⟨s', hs'⟩ := Option.isSome_iff_exists.mp h
  obtain ⟨s, hrun, hstep⟩ := Option.bind_eq_some_iff.mp hs'
  have hs : usbThreads.ReachableUnder InitsReaped s :=
    StepSystem.ReachableUnder.runUnder (.init rfl) hrun
  exact ⟨s, s', hs, hstep, not_mem_deleted_of_reapUrb hs⟩

/-- **Any other `initIsoUrbs` goes wrong**: it deletes a URB that the kernel holds.

**Proof sketch.** Either the kernel holds a URB of the old pool, which is deleted in any case; or
some submission fails that is not the first one, and the URBs submitted before it are deleted. -/
theorem exists_deleted_of_initIsoUrbs {s : UsbThreads} (hw : WellFormed s)
    (hclosed : s.handler = .closed) (hmutex : s.urbMutex = none) {answer : ℕ → ℤ}
    (hc : ¬ InitsReaped s (.initIsoUrbs answer)) :
    ∃ urb s', s.step (.initIsoUrbs answer) = some s' ∧ urb ∈ s'.device.deleted ∧
      s'.device.usbfs.Holds urb := by
  have hclear := s.device.clearIsoUrbs_freed
  obtain ⟨s', hstep, hdevice⟩ : ∃ s', s.step (.initIsoUrbs answer) = some s' ∧
      s'.device = (s.device.initIsoUrbs answer usbtvIsocTransfers).2 := by
    simp only [step, hclosed, hmutex, and_self, if_true]
    split
    · next heq => exact ⟨_, rfl, by rw [heq]⟩
    · next heq => exact ⟨_, rfl, by rw [heq]⟩
  suffices h : ∃ urb, urb ∈ s'.device.deleted ∧ s'.device.usbfs.Holds urb by
    obtain ⟨urb, h⟩ := h
    exact ⟨urb, s', hstep, h⟩
  rw [hdevice]
  cases hok : (s.device.initIsoUrbs answer usbtvIsocTransfers).1 with
  | true =>
    obtain ⟨hsub, -⟩ := AndroidUsbDevice.initIsoUrbs_of_success hw.counted (by decide) hok
    obtain ⟨urb, hmem, hholds⟩ : ∃ urb ∈ s.device.isoUrbPool, s.device.usbfs.Holds urb := by
      by_contra hnone
      exact hc ⟨fun urb hmem hu => hnone ⟨urb, hmem, hu⟩, .inl hsub.accepted⟩
    refine ⟨urb, ?_, ?_⟩
    · rw [(hsub.deleted_of_eq rfl).1, hclear.deleted]
      exact List.mem_append_right _ hmem
    · have hold := (hclear.holds urb).mpr hholds
      rw [Usbfs.Holds, hsub.pending, hsub.completed, List.mem_append]
      exact hold.imp_left .inl
  | false =>
    obtain ⟨k, -, hfail⟩ := AndroidUsbDevice.initIsoUrbs_of_failure hw.counted (by decide) hok
    by_cases hold : ∃ urb ∈ s.device.isoUrbPool, s.device.usbfs.Holds urb
    · obtain ⟨urb, hmem, hholds⟩ := hold
      refine ⟨urb, ?_, (hfail.holds urb).mpr (.inl hholds)⟩
      rw [hfail.deleted]
      simp [hmem]
    · have hpos : 0 < k := by
        by_contra hzero
        obtain rfl : k = 0 := by omega
        exact hc ⟨fun urb hmem hu => hold ⟨urb, hmem, hu⟩, .inr hfail.refused⟩
      have hnew : s.device.allocated ∈ List.range' s.device.allocated k :=
        List.mem_range'_1.mpr ⟨le_rfl, by omega⟩
      refine ⟨s.device.allocated, ?_, (hfail.holds _).mpr (.inr hnew)⟩
      rw [hfail.deleted]
      exact List.mem_append_right _ hnew

/-- A first stream that is stopped with the reap thread at the test of its flag, and a second
stream up to its reap thread in `REAPURB`. -/
def secondStream : List UsbEvent :=
  [.initIsoUrbs fun _ => 0, .startUrbAsyncRead, .stop, .handler, .handler, .reap fun _ => 0,
    .handler, .handler, .handler, .initIsoUrbs fun _ => 0, .startUrbAsyncRead, .reap fun _ => 0]

/-- **A deleted URB that is reaped**: the stop of the first stream discards its URBs, which
nobody reaps; the second stream deletes them, and its reap thread gets one of them. -/
theorem reapUrb_deleted :
    ∃ s s', usbThreads.Reachable s ∧ s.step (.reapUrb 0) = some s' ∧ 0 ∈ s.device.deleted := by
  have h : (usbThreads.run new secondStream).map
      (fun s => ((s.step (.reapUrb 0)).isSome, decide (0 ∈ s.device.deleted))) =
      some (true, true) := by decide
  obtain ⟨s, hrun, heq⟩ := Option.map_eq_some_iff.mp h
  simp only [Prod.mk.injEq, decide_eq_true_eq] at heq
  obtain ⟨hstep, hdel⟩ := heq
  obtain ⟨s', hs'⟩ := Option.isSome_iff_exists.mp hstep
  exact ⟨s, s', StepSystem.Reachable.run (.init rfl) hrun, hs', hdel⟩

end UsbThreads

end UsbTv
