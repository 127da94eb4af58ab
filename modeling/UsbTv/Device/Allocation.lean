import Mathlib.Data.List.Nodup
import UsbTv.Device.Threads

set_option relaxedAutoImplicit false
set_option autoImplicit false

/-!
# Initialising the URBs when an allocation fails

`AndroidUsbDevice.initIsoUrbs` takes for granted that every URB can be allocated. Here
`allocateUrb` may return null. The loop of `initIsoUrbs` writes the members of the URB at once, so
the call does not get past such a URB; where it gets there, it is the call of the other model.

The pool and the counter change in complete calls of one thread; what the reap thread and the
kernel do meanwhile is resubmitting, completing and reaping URBs.

## Main definitions

* `UsbTv.Allocation` — what the allocations of `allocateUrb` return.
* `UsbTv.UrbPool` — the device and its `_urbMutex`.
* `UsbTv.UrbPool.initIsoUrbs` — `initIsoUrbs`, where an allocation may fail.
* `UsbTv.UrbPool.AllOrNothing` — what is asked of a call.
* `UsbTv.urbPool` — the calls of the device, in any order.

## Main results

* `UsbTv.UrbPool.initIsoUrbs_eq` — without a null URB, the call is `AndroidUsbDevice.initIsoUrbs`.
* `UsbTv.UrbPool.sound_of_reachable` — what holds of the pool and the counter after any calls.
* `UsbTv.UrbPool.poolAllOrNothing_iff` — a call is all or nothing exactly if no allocation it makes
  fails.
-/

namespace UsbTv

/-- What the allocations of `allocateUrb` return. -/
inductive Allocation
  /-- `calloc` has no room for the URB. -/
  | noUrb
  /-- `malloc` has no room for the buffer. -/
  | noBuffer
  | granted
  deriving DecidableEq, Repr

namespace Allocation

/-- `allocateUrb`. A URB without a buffer is freed again. -/
def allocateUrb (d : AndroidUsbDevice) : Allocation → Option ℕ × AndroidUsbDevice
  | noUrb => (none, d)
  | noBuffer =>
    let (urb, d) := d.allocateUrb
    (none, d.deleteUrb urb)
  | granted =>
    let (urb, d) := d.allocateUrb
    (some urb, d)

/-- The loop of `initIsoUrbs`, or `none` where it writes a member of a null URB. -/
def submitIsoUrbs (answer : ℕ → ℤ) : (ℕ → Allocation) → ℕ → AndroidUsbDevice →
    Option AndroidUsbDevice
  | _, 0, d => some d
  | alloc, transfers + 1, d =>
    match (alloc 0).allocateUrb d with
    | (none, _) => none
    | (some urb, d) =>
      match d.submitUrb answer urb with
      | (false, d) => some (d.deleteUrb urb)
      | (true, d) => submitIsoUrbs answer (fun i => alloc (i + 1)) transfers
          { d with
            isoUrbsSubmitted := (d.isoUrbsSubmitted + 1) % 2 ^ 8
            isoUrbPool := d.isoUrbPool ++ [urb] }

/-- No allocation that the loop makes fails: the first submission is request `first`, and the loop
ends with the first one that is refused. -/
def NoneFails (answer : ℕ → ℤ) (alloc : ℕ → Allocation) (first transfers : ℕ) : Prop :=
  ∀ i < transfers, (∀ j < i, 0 ≤ answer (first + j)) → alloc i = granted

instance (answer : ℕ → ℤ) (alloc : ℕ → Allocation) (first transfers : ℕ) :
    Decidable (NoneFails answer alloc first transfers) :=
  inferInstanceAs (Decidable (∀ i < transfers, (∀ j < i, 0 ≤ answer (first + j)) → _))

/-- The allocations from the second round on. -/
lemma noneFails_succ {answer : ℕ → ℤ} {alloc : ℕ → Allocation} {first transfers : ℕ} :
    NoneFails answer alloc first (transfers + 1) ↔ alloc 0 = granted ∧
      (0 ≤ answer first →
        NoneFails answer (fun i => alloc (i + 1)) (first + 1) transfers) := by
  constructor
  · refine fun h => ⟨h 0 (by omega) (by omega), fun haccepted i hi hj => ?_⟩
    apply h (i + 1) (by omega)
    intro j hji
    cases j with
    | zero => exact haccepted
    | succ j =>
      have := hj j (by omega)
      rwa [Nat.add_right_comm, Nat.add_assoc] at this
  · rintro ⟨hzero, hsucc⟩ i hi hj
    cases i with
    | zero => exact hzero
    | succ i =>
      apply hsucc (hj 0 (by omega)) i (by omega)
      intro j hji
      have := hj (j + 1) (by omega)
      rwa [Nat.add_right_comm, Nat.add_assoc]

/-- **The loop with failing allocations** gets stuck at a null URB, or is the loop without them. -/
theorem submitIsoUrbs_eq (answer : ℕ → ℤ) (alloc : ℕ → Allocation) (transfers : ℕ)
    (d : AndroidUsbDevice) :
    submitIsoUrbs answer alloc transfers d =
      if NoneFails answer alloc d.log.length transfers then
        some (AndroidUsbDevice.submitIsoUrbs answer transfers d)
      else none := by
  induction transfers generalizing alloc d with
  | zero => exact (if_pos (by simp [NoneFails])).symm
  | succ transfers ih =>
    rw [submitIsoUrbs]
    cases halloc : alloc 0 with
    | noUrb =>
      rw [if_neg fun h => by simpa [halloc] using (noneFails_succ.mp h).1]
      rfl
    | noBuffer =>
      rw [if_neg fun h => by simpa [halloc] using (noneFails_succ.mp h).1]
      rfl
    | granted =>
      simp only [allocateUrb, AndroidUsbDevice.submitIsoUrbs, AndroidUsbDevice.allocateUrb,
        AndroidUsbDevice.submitUrb, AndroidUsbDevice.ioctl]
      by_cases hret : answer d.log.length < 0
      · rw [if_pos (noneFails_succ.mpr ⟨halloc, fun h => absurd h (by omega)⟩)]
        simp [hret]
      · simp only [hret, if_false]
        rw [ih]
        refine if_congr ?_ rfl rfl
        rw [noneFails_succ]
        simp [halloc, Int.not_lt.mp hret]

end Allocation

/-- The device and its `_urbMutex`. -/
structure UrbPool where
  device : AndroidUsbDevice
  urbMutex : Bool
  deriving DecidableEq, Repr

/-- How a call of `initIsoUrbs` ends. -/
inductive InitOutcome
  | returned (success : Bool) (s : UrbPool)
  /-- A member of a null URB is written. -/
  | nullUrb
  deriving DecidableEq, Repr

namespace UrbPool

/-- A new device. -/
def new : UrbPool where
  device := .new
  urbMutex := false

/-- `initIsoUrbs`, where an allocation may fail. -/
def initIsoUrbs (s : UrbPool) (alloc : ℕ → Allocation) (answer : ℕ → ℤ) (numTransfers : ℕ) :
    InitOutcome :=
  let s := { s with urbMutex := true }
  let s := { s with device := s.device.clearIsoUrbs }
  match Allocation.submitIsoUrbs answer alloc numTransfers s.device with
  | none => .nullUrb
  | some d =>
    if d.isoUrbsSubmitted ≠ numTransfers then
      .returned false { device := d.discardIsoUrbs.2.freeIsoUrbs, urbMutex := false }
    else .returned true { device := d, urbMutex := false }

/-- The number of requests before the first submission of `initIsoUrbs`: what counts as submitted
is discarded. -/
def firstSubmit (d : AndroidUsbDevice) : ℕ :=
  d.log.length + if d.isoUrbsSubmitted > 0 then d.isoUrbPool.length else 0

/-- How `initIsoUrbs` is to end. -/
structure InitEnded (s : UrbPool) (alloc : ℕ → Allocation) (answer : ℕ → ℤ) (numTransfers : ℕ)
    (success : Bool) (s' : UrbPool) : Prop where
  success_iff : success = true ↔
    ∀ i < numTransfers, alloc i = .granted ∧ 0 ≤ answer (firstSubmit s.device + i)
  /-- The new pool holds exactly the new URBs, which usbfs has. -/
  kept : success = true →
    s'.device.isoUrbPool = List.range' s.device.allocated numTransfers ∧
      s'.device.allocated = s.device.allocated + numTransfers ∧
      s'.device.isoUrbsSubmitted = numTransfers ∧
      ∀ u ∈ s'.device.isoUrbPool, u ∈ s'.device.usbfs.pending
  none_kept : success = false →
    s'.device.isoUrbPool = [] ∧ s'.device.isoUrbsSubmitted = 0
  /-- The URBs of the old pool, and the new ones that are not kept. -/
  deleted_once : ∀ u, (u ∈ s.device.isoUrbPool ∨
      s.device.allocated ≤ u ∧ u < s'.device.allocated ∧ u ∉ s'.device.isoUrbPool) →
    s'.device.deleted.count u = 1
  kept_not_deleted : ∀ u ∈ s'.device.isoUrbPool, u ∉ s'.device.deleted
  unlocked : s'.urbMutex = false

/-- **All or nothing**: the call returns, and as it is to. -/
def AllOrNothing (s : UrbPool) (alloc : ℕ → Allocation) (answer : ℕ → ℤ) (numTransfers : ℕ) :
    Prop :=
  ∃ success s', s.initIsoUrbs alloc answer numTransfers = .returned success s' ∧
    s.InitEnded alloc answer numTransfers success s'

/-! ## Runs -/

/-- The calls of the device, and what the kernel does to its URBs. `resubmitUrb` is all that the
reap thread does with them. -/
inductive Call
  | initIsoUrbs (alloc : ℕ → Allocation) (answer : ℕ → ℤ) (numTransfers : ℕ)
  | startUrbAsyncRead
  | stopUrbAsyncRead
  | discardIsoUrbs
  | resubmitUrb (answer : ℕ → ℤ) (urb : ℕ)
  | complete (urb : ℕ)
  | reap (urb : ℕ)

/-- One call. A `uint8_t` counts the transfers. -/
def step (s : UrbPool) : Call → Option UrbPool
  | .initIsoUrbs alloc answer numTransfers =>
    if numTransfers < 2 ^ 8 then
      match s.initIsoUrbs alloc answer numTransfers with
      | .returned _ s' => some s'
      | .nullUrb => none
    else none
  | .startUrbAsyncRead => some { s with device := s.device.startUrbAsyncRead.2 }
  | .stopUrbAsyncRead => some { s with device := s.device.stopUrbAsyncRead }
  | .discardIsoUrbs => some { s with device := s.device.discardIsoUrbs.2 }
  | .resubmitUrb answer urb => some { s with device := (s.device.submitUrb answer urb).2 }
  | .complete urb =>
    some { s with device := { s.device with usbfs := s.device.usbfs.complete urb } }
  | .reap urb => some { s with device := { s.device with usbfs := s.device.usbfs.reap urb } }

end UrbPool

/-- The calls of the device, in any order. -/
def urbPool : StepSystem UrbPool UrbPool.Call where
  Init s := s = UrbPool.new
  step := UrbPool.step

namespace UrbPool

/-- What holds between two calls: the counter counts URBs of the pool, the URBs of the pool and
the deleted ones are different URBs that were allocated, and nobody has `_urbMutex`. -/
structure Sound (s : UrbPool) : Prop where
  counted : s.device.Counted
  nodup : (s.device.deleted ++ s.device.isoUrbPool).Nodup
  allocated : ∀ u ∈ s.device.deleted ++ s.device.isoUrbPool, u < s.device.allocated
  unlocked : s.urbMutex = false

/-- A change that concerns neither the pool nor its URBs. -/
lemma Sound.withDevice {s : UrbPool} (h : Sound s) {d : AndroidUsbDevice}
    (hsame : d.isoUrbPool = s.device.isoUrbPool ∧ d.deleted = s.device.deleted ∧
      d.allocated = s.device.allocated) (hc : d.Counted) : Sound { s with device := d } := by
  obtain ⟨hpool, hdel, hall⟩ := hsame
  refine ⟨hc, ?_, ?_, h.unlocked⟩
  · show (d.deleted ++ d.isoUrbPool).Nodup
    rw [hdel, hpool]
    exact h.nodup
  · show ∀ u ∈ d.deleted ++ d.isoUrbPool, u < d.allocated
    rw [hdel, hpool, hall]
    exact h.allocated

/-! ## One call of `initIsoUrbs` -/

/-- Discarding makes a request for each URB. -/
lemma discardUrbs_log_length (urbs : List ℕ) (d : AndroidUsbDevice) :
    (AndroidUsbDevice.discardUrbs urbs d).2.log.length = d.log.length + urbs.length := by
  induction urbs generalizing d with
  | nil => rfl
  | cons urb urbs ih =>
    simp only [AndroidUsbDevice.discardUrbs, ih, AndroidUsbDevice.discardUrb, List.length_append,
      List.length_cons, List.length_nil]
    omega

/-- The first half of `initIsoUrbs` makes a request for each URB of a pool that counts as
submitted. -/
lemma clearIsoUrbs_log_length {d : AndroidUsbDevice} (hc : d.Counted) :
    d.clearIsoUrbs.log.length = firstSubmit d := by
  unfold firstSubmit
  split_ifs with hsub
  · have hpool : d.isoUrbPool ≠ [] := fun h => by
      have := hc h
      omega
    have hzero : d.discardIsoUrbs.2.isoUrbsSubmitted = 0 := by
      rw [AndroidUsbDevice.discardIsoUrbs_isoUrbsSubmitted, if_neg hpool]
    have hlog : d.discardIsoUrbs.2.log.length = d.log.length + d.isoUrbPool.length := by
      rw [← discardUrbs_log_length, AndroidUsbDevice.discardIsoUrbs, if_neg hpool]
    simp only [AndroidUsbDevice.clearIsoUrbs, if_pos hsub]
    split_ifs
    · rw [AndroidUsbDevice.freeIsoUrbs_of_not_submitted hzero]
      exact hlog
    · exact hlog
  · rw [AndroidUsbDevice.clearIsoUrbs_of_not_submitted (by omega)]
    rfl

/-- **Without a null URB** the call is the one of `AndroidUsbDevice`. -/
theorem initIsoUrbs_eq {s : UrbPool} (hc : s.device.Counted) (alloc : ℕ → Allocation)
    (answer : ℕ → ℤ) (n : ℕ) :
    s.initIsoUrbs alloc answer n =
      if Allocation.NoneFails answer alloc (firstSubmit s.device) n then
        .returned (s.device.initIsoUrbs answer n).1
          { device := (s.device.initIsoUrbs answer n).2, urbMutex := false }
      else .nullUrb := by
  unfold initIsoUrbs
  simp only [Allocation.submitIsoUrbs_eq, clearIsoUrbs_log_length hc]
  by_cases hfails : Allocation.NoneFails answer alloc (firstSubmit s.device) n
  · simp only [if_pos hfails, AndroidUsbDevice.initIsoUrbs]
    split_ifs <;> rfl
  · simp only [if_neg hfails]

/-- New URBs differ from those that were allocated before. -/
lemma nodup_append_range' {urbs : List ℕ} {allocated : ℕ} (h : urbs.Nodup)
    (hlt : ∀ u ∈ urbs, u < allocated) (n : ℕ) : (urbs ++ List.range' allocated n).Nodup := by
  refine List.nodup_append.mpr ⟨h, List.nodup_range', fun u hu v hv => ?_⟩
  have := hlt u hu
  have := (List.mem_range'_1.mp hv).1
  omega

/-- What `initIsoUrbs` does with the URBs, where no allocation fails. -/
lemma initIsoUrbs_urbs {s : UrbPool} (hs : Sound s) (answer : ℕ → ℤ) {n : ℕ} (hn : n < 2 ^ 8) :
    let d' := (s.device.initIsoUrbs answer n).2
    ∃ k, d'.allocated = s.device.allocated + k ∧
      (d'.deleted ++ d'.isoUrbPool).Perm
        (s.device.deleted ++ s.device.isoUrbPool ++ List.range' s.device.allocated k) ∧
      d'.Counted := by
  intro d'
  have hclear := s.device.clearIsoUrbs_freed
  cases hok : (s.device.initIsoUrbs answer n).1 with
  | true =>
    obtain ⟨hsub, hcount⟩ := AndroidUsbDevice.initIsoUrbs_of_success hs.counted hn hok
    obtain ⟨hdel, hall⟩ := hsub.deleted_of_eq rfl
    have hpool := hsub.isoUrbPool
    rw [hclear.isoUrbPool, List.nil_append, hclear.allocated] at hpool
    refine ⟨n, by rw [hall, hclear.allocated], ?_, fun hnil => ?_⟩
    · rw [hdel, hclear.deleted, hpool]
    · -- an empty pool is one of no transfers
      have hzero : n = 0 := by simpa using hpool.symm.trans hnil
      exact hcount.trans hzero
  | false =>
    obtain ⟨k, -, hf⟩ := AndroidUsbDevice.initIsoUrbs_of_failure hs.counted hn hok
    refine ⟨k + 1, by rw [hf.allocated, Nat.add_assoc], ?_, fun _ => hf.isoUrbsSubmitted⟩
    rw [hf.isoUrbPool, List.append_nil, hf.deleted, List.range'_1_concat, List.append_assoc]
    exact List.Perm.append_left _ List.perm_append_comm

/-- The two outcomes tell what the new pool is. -/
lemma initIsoUrbs_isoUrbPool {s : UrbPool} (hs : Sound s) (answer : ℕ → ℤ) {n : ℕ}
    (hn : n < 2 ^ 8) :
    (s.device.initIsoUrbs answer n).1 = true ∧
        (s.device.initIsoUrbs answer n).2.isoUrbPool = List.range' s.device.allocated n ∨
      (s.device.initIsoUrbs answer n).1 = false ∧
        (s.device.initIsoUrbs answer n).2.isoUrbPool = [] := by
  have hclear := s.device.clearIsoUrbs_freed
  cases hok : (s.device.initIsoUrbs answer n).1 with
  | true =>
    have hsub := (AndroidUsbDevice.initIsoUrbs_of_success hs.counted hn hok).1.isoUrbPool
    rw [hclear.isoUrbPool, List.nil_append, hclear.allocated] at hsub
    exact .inl ⟨rfl, hsub⟩
  | false =>
    obtain ⟨k, -, hf⟩ := AndroidUsbDevice.initIsoUrbs_of_failure hs.counted hn hok
    exact .inr ⟨rfl, hf.isoUrbPool⟩

/-- **A call of `initIsoUrbs`** keeps the pool and the counter sound. -/
lemma sound_initIsoUrbs {s : UrbPool} (hs : Sound s) (answer : ℕ → ℤ) {n : ℕ}
    (hn : n < 2 ^ 8) :
    Sound { device := (s.device.initIsoUrbs answer n).2, urbMutex := false } := by
  obtain ⟨k, hall, hperm, hcounted⟩ := initIsoUrbs_urbs hs answer hn
  refine ⟨hcounted, ?_, fun u hu => ?_, rfl⟩
  · exact hperm.nodup_iff.mpr (nodup_append_range' hs.nodup hs.allocated k)
  · show u < (s.device.initIsoUrbs answer n).2.allocated
    rw [hall]
    rcases List.mem_append.mp (hperm.mem_iff.mp hu) with hold | hnew
    · have := hs.allocated u hold
      omega
    · exact (List.mem_range'_1.mp hnew).2

/-- Where no allocation fails, the call succeeds exactly if usbfs takes every URB. -/
lemma initIsoUrbs_success_iff {s : UrbPool} (hs : Sound s) {alloc : ℕ → Allocation}
    {answer : ℕ → ℤ} {n : ℕ} (hn : n < 2 ^ 8)
    (hfails : Allocation.NoneFails answer alloc (firstSubmit s.device) n) :
    (s.device.initIsoUrbs answer n).1 = true ↔
      ∀ i < n, alloc i = .granted ∧ 0 ≤ answer (firstSubmit s.device + i) := by
  have hfirst := clearIsoUrbs_log_length hs.counted
  constructor
  · intro hok i hi
    have hsub := (AndroidUsbDevice.initIsoUrbs_of_success hs.counted hn hok).1
    rw [← hfirst]
    refine ⟨hfails i hi fun j hj => ?_, hsub.accepted i hi⟩
    rw [← hfirst]
    exact hsub.accepted j (by omega)
  · intro haccepted
    by_contra hfailed
    obtain ⟨k, hk, hf⟩ :=
      AndroidUsbDevice.initIsoUrbs_of_failure hs.counted hn (by simpa using hfailed)
    have hrefused := hf.refused
    rw [hfirst] at hrefused
    have := (haccepted k hk).2
    omega

/-- The URBs of the old pool, and the new ones that are not kept, are deleted once. -/
lemma initIsoUrbs_deleted {s : UrbPool} (hs : Sound s) (answer : ℕ → ℤ) {n : ℕ}
    (hn : n < 2 ^ 8) {u : ℕ}
    (hu : u ∈ s.device.isoUrbPool ∨ s.device.allocated ≤ u ∧
      u < (s.device.initIsoUrbs answer n).2.allocated ∧
      u ∉ (s.device.initIsoUrbs answer n).2.isoUrbPool) :
    (s.device.initIsoUrbs answer n).2.deleted.count u = 1 := by
  obtain ⟨k, hall, hperm, -⟩ := initIsoUrbs_urbs hs answer hn
  have hnodup := (List.nodup_append.mp (sound_initIsoUrbs hs answer hn).nodup).1
  -- the new pool has new URBs only
  have hkept : u ∉ (s.device.initIsoUrbs answer n).2.isoUrbPool := by
    rcases hu with hold | ⟨-, -, hkept⟩
    · have hlt := hs.allocated u (List.mem_append_right _ hold)
      rcases initIsoUrbs_isoUrbPool hs answer hn with ⟨-, heq⟩ | ⟨-, heq⟩
      · rw [heq, List.mem_range'_1]
        omega
      · rw [heq]
        exact List.not_mem_nil
    · exact hkept
  have hmem : u ∈ (s.device.initIsoUrbs answer n).2.deleted ++
      (s.device.initIsoUrbs answer n).2.isoUrbPool := by
    rw [hperm.mem_iff, List.append_assoc]
    refine List.mem_append_right _ (List.mem_append.mpr (hu.imp_right fun hnew => ?_))
    rw [List.mem_range'_1, ← hall]
    exact ⟨hnew.1, hnew.2.1⟩
  exact List.count_eq_one_of_mem hnodup ((List.mem_append.mp hmem).resolve_right hkept)

/-- **Where no allocation fails**, the call ends as it is to. -/
lemma initEnded {s : UrbPool} (hs : Sound s) {alloc : ℕ → Allocation} {answer : ℕ → ℤ} {n : ℕ}
    (hn : n < 2 ^ 8) (hfails : Allocation.NoneFails answer alloc (firstSubmit s.device) n) :
    s.InitEnded alloc answer n (s.device.initIsoUrbs answer n).1
      { device := (s.device.initIsoUrbs answer n).2, urbMutex := false } := by
  have hclear := s.device.clearIsoUrbs_freed
  have hdisjoint := (List.nodup_append.mp (sound_initIsoUrbs hs answer hn).nodup).2.2
  refine ⟨initIsoUrbs_success_iff hs hn hfails, fun hok => ?_, fun hfailed => ?_,
    fun u hu => initIsoUrbs_deleted hs answer hn hu,
    fun u hu hdel => hdisjoint u hdel u hu rfl, rfl⟩
  · obtain ⟨hsub, hcount⟩ := AndroidUsbDevice.initIsoUrbs_of_success hs.counted hn hok
    obtain ⟨-, heq⟩ :=
      (initIsoUrbs_isoUrbPool hs answer hn).resolve_right fun h => by simp [hok] at h
    refine ⟨heq, ?_, hcount, fun u hu => ?_⟩
    · show (s.device.initIsoUrbs answer n).2.allocated = s.device.allocated + n
      rw [(hsub.deleted_of_eq rfl).2, hclear.allocated]
    · show u ∈ (s.device.initIsoUrbs answer n).2.usbfs.pending
      rw [hsub.pending, hclear.allocated]
      exact List.mem_append_right _ (heq ▸ hu)
  · obtain ⟨k, -, hf⟩ := AndroidUsbDevice.initIsoUrbs_of_failure hs.counted hn hfailed
    exact ⟨hf.isoUrbPool, hf.isoUrbsSubmitted⟩

/-! ## Runs of calls -/

/-- **Each call keeps the pool and the counter sound**. -/
lemma sound_step {s s' : UrbPool} {c : Call} (hs : Sound s) (h : s.step c = some s') :
    Sound s' := by
  cases c with
  | initIsoUrbs alloc answer n =>
    simp only [step, initIsoUrbs_eq hs.counted] at h
    split_ifs at h with hn hfails
    · obtain rfl := Option.some_inj.mp h
      exact sound_initIsoUrbs hs answer hn
  | startUrbAsyncRead =>
    obtain rfl := Option.some_inj.mp h
    unfold AndroidUsbDevice.startUrbAsyncRead
    split_ifs
    · exact hs.withDevice ⟨rfl, rfl, rfl⟩ hs.counted
    · exact hs
  | stopUrbAsyncRead =>
    obtain rfl := Option.some_inj.mp h
    unfold AndroidUsbDevice.stopUrbAsyncRead
    split_ifs
    · have hsame := AndroidUsbDevice.discardIsoUrbs_same
        { s.device with urbThreadRunning := false, urbThread := false }
      exact hs.withDevice ⟨hsame.isoUrbPool, hsame.deleted, hsame.allocated⟩
        (UsbThreads.counted_discardIsoUrbs hs.counted)
    · exact hs
  | discardIsoUrbs =>
    obtain rfl := Option.some_inj.mp h
    have hsame := s.device.discardIsoUrbs_same
    exact hs.withDevice ⟨hsame.isoUrbPool, hsame.deleted, hsame.allocated⟩
      (UsbThreads.counted_discardIsoUrbs hs.counted)
  | resubmitUrb answer urb =>
    obtain rfl := Option.some_inj.mp h
    unfold AndroidUsbDevice.submitUrb AndroidUsbDevice.ioctl
    dsimp only
    split_ifs
    · exact hs.withDevice ⟨rfl, rfl, rfl⟩ hs.counted
    · exact hs.withDevice ⟨rfl, rfl, rfl⟩ hs.counted
  | complete urb =>
    obtain rfl := Option.some_inj.mp h
    exact hs.withDevice ⟨rfl, rfl, rfl⟩ hs.counted
  | reap urb =>
    obtain rfl := Option.some_inj.mp h
    exact hs.withDevice ⟨rfl, rfl, rfl⟩ hs.counted

/-- **After any calls** the pool and the counter are sound. -/
theorem sound_of_reachable {s : UrbPool} (h : urbPool.Reachable s) : Sound s := by
  refine h.invariant (fun s hs => ?_) fun s c s' _ hs _ hstep =>
    sound_step (s := s) (c := c) hs hstep
  obtain rfl : s = UrbPool.new := hs
  exact ⟨fun _ => rfl, List.nodup_nil, fun u hu => absurd hu (List.not_mem_nil), rfl⟩

/-- **When `initIsoUrbs` is all or nothing**: exactly if none of the allocations it makes
fails. -/
theorem poolAllOrNothing_iff {s : UrbPool} (hs : urbPool.Reachable s) (alloc : ℕ → Allocation)
    (answer : ℕ → ℤ) {numTransfers : ℕ} (hn : numTransfers < 2 ^ 8) :
    s.AllOrNothing alloc answer numTransfers ↔
      Allocation.NoneFails answer alloc (firstSubmit s.device) numTransfers := by
  have hsound := sound_of_reachable hs
  constructor
  · rintro ⟨success, s', hreturned, -⟩
    rw [initIsoUrbs_eq hsound.counted] at hreturned
    by_contra hfails
    rw [if_neg hfails] at hreturned
    cases hreturned
  · intro hfails
    exact ⟨_, _, by rw [initIsoUrbs_eq hsound.counted, if_pos hfails], initEnded hsound hn hfails⟩

/-- A pool of four URBs is replaced. The third new one is refused, so it does not matter that there
is no room for a fourth. -/
theorem poolAllOrNothing_iff_refused :
    ∃ s, urbPool.Reachable s ∧ s.device.isoUrbPool = [0, 1, 2, 3] ∧
      (s.AllOrNothing (fun i => if i < 3 then .granted else .noBuffer)
          (fun n => if n = 10 then -1 else 0) 4 ↔
        Allocation.NoneFails (fun n => if n = 10 then -1 else 0)
          (fun i => if i < 3 then .granted else .noBuffer) (firstSubmit s.device) 4) ∧
      s.AllOrNothing (fun i => if i < 3 then .granted else .noBuffer)
        (fun n => if n = 10 then -1 else 0) 4 := by
  have h : (urbPool.run UrbPool.new [.initIsoUrbs (fun _ => .granted) (fun _ => 0) 4]).map
      (fun s => (s.device.isoUrbPool, firstSubmit s.device)) = some ([0, 1, 2, 3], 8) := by
    decide
  obtain ⟨s, hrun, heq⟩ := Option.map_eq_some_iff.mp h
  obtain ⟨hpool, hfirst⟩ := Prod.mk.inj heq
  have hreach : urbPool.Reachable s := StepSystem.Reachable.run (.init rfl) hrun
  have hfour : 4 < 2 ^ 8 := by decide
  have hiff := poolAllOrNothing_iff hreach (fun i => if i < 3 then .granted else .noBuffer)
    (fun n => if n = 10 then -1 else 0) hfour
  refine ⟨s, hreach, hpool, hiff, hiff.mpr ?_⟩
  rw [hfirst]
  decide

/-- On a new device there is no room for the third URB. -/
theorem not_poolAllOrNothing_third :
    urbPool.Reachable UrbPool.new ∧
      ¬ UrbPool.new.AllOrNothing (fun i => if i = 2 then .noBuffer else .granted) (fun _ => 0)
        usbtvIsocTransfers := by
  refine ⟨.init rfl, ?_⟩
  rintro ⟨success, s', hreturned, -⟩
  rw [initIsoUrbs_eq (fun _ => rfl), if_neg (by decide)] at hreturned
  cases hreturned

end UrbPool

end UsbTv
