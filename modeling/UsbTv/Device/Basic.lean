import Mathlib.Data.List.Basic
import Mathlib.Data.List.Range
import Mathlib.Tactic.NormNum

set_option relaxedAutoImplicit false
set_option autoImplicit false

/-!
# The USB device

`AndroidUsbDevice`: control requests, and the pool of isochronous URBs. The kernel side is the
part of usbfs that holds URBs: a submitted URB is pending until it completes, a discard only makes
it complete, and a completed URB stays with the kernel until it is reaped.

What an ioctl returns is an answer of the environment, numbered by the requests made so far.
URBs are known by the order of their allocation, so that no two URBs have one name. Allocation
succeeds.

## Main definitions

* `UsbTv.Usbfs` — the URBs that the kernel holds.
* `UsbTv.AndroidUsbDevice` — the members of the class, and the record of its requests.
* `UsbTv.AndroidUsbDevice.initIsoUrbs`, `startUrbAsyncRead`, `stopUrbAsyncRead`,
  `discardIsoUrbs` — the stream interface.

## Main results

* `UsbTv.AndroidUsbDevice.submitIsoUrbs_spec` — what the submission loop leaves behind.
* `UsbTv.AndroidUsbDevice.initIsoUrbs_of_success`, `initIsoUrbs_of_failure` — the two outcomes
  of `initIsoUrbs`.
-/

namespace UsbTv

/-! ## The kernel -/

/-- The URBs that usbfs holds. -/
structure Usbfs where
  /-- Submitted, and not complete yet. -/
  pending : List ℕ
  /-- Complete, and waiting for a `REAPURB`. -/
  completed : List ℕ
  deriving DecidableEq, Repr

namespace Usbfs

/-- The kernel holds the URB. -/
def Holds (k : Usbfs) (urb : ℕ) : Prop := urb ∈ k.pending ∨ urb ∈ k.completed

instance (k : Usbfs) (urb : ℕ) : Decidable (k.Holds urb) := inferInstanceAs (Decidable (_ ∨ _))

/-- A successful `SUBMITURB`. -/
def submit (k : Usbfs) (urb : ℕ) : Usbfs := { k with pending := k.pending ++ [urb] }

/-- A pending URB completes; nothing happens if it is not pending. -/
def complete (k : Usbfs) (urb : ℕ) : Usbfs :=
  if urb ∈ k.pending then
    { pending := k.pending.erase urb, completed := k.completed ++ [urb] }
  else k

/-- A `REAPURB` that returns `urb`. -/
def reap (k : Usbfs) (urb : ℕ) : Usbfs := { k with completed := k.completed.erase urb }

lemma holds_submit {k : Usbfs} {urb u : ℕ} : (k.submit urb).Holds u ↔ k.Holds u ∨ u = urb := by
  simp only [Holds, submit, List.mem_append, List.mem_singleton]
  tauto

/-- A discarded URB stays with the kernel. -/
lemma holds_complete {k : Usbfs} {urb u : ℕ} : (k.complete urb).Holds u ↔ k.Holds u := by
  unfold complete
  split_ifs with hmem
  · by_cases hu : u = urb
    · subst hu
      simp [Holds, hmem]
    · simp only [Holds, List.mem_erase_of_ne hu, List.mem_append, List.mem_singleton, hu, or_false]
  · rfl

lemma holds_of_holds_reap {k : Usbfs} {urb u : ℕ} (h : (k.reap urb).Holds u) : k.Holds u :=
  h.imp_right List.mem_of_mem_erase

end Usbfs

/-! ## The device -/

/-- The requests made to usbfs. A register write is a vendor request `USBTV_REQUEST_REG` with
this value and index. -/
inductive Ioctl
  | setInterface (interface altSetting : ℕ)
  | control (value index : ℕ)
  | submitUrb (urb : ℕ)
  | discardUrb (urb : ℕ)
  deriving DecidableEq, Repr

/-- `AndroidUsbDevice`, without its bulk URBs, which this driver never submits. -/
structure AndroidUsbDevice where
  isoUrbsSubmitted : ℕ
  urbThreadRunning : Bool
  /-- `_urbThread` is not null. -/
  urbThread : Bool
  isoUrbPool : List ℕ
  usbfs : Usbfs
  /-- The number of URBs allocated so far. -/
  allocated : ℕ
  /-- The URBs released by `deleteUrb`. -/
  deleted : List ℕ
  /-- The requests made so far. -/
  log : List Ioctl
  deriving DecidableEq, Repr

namespace AndroidUsbDevice

/-- `AndroidUsbDevice(fd)`. -/
def new : AndroidUsbDevice where
  isoUrbsSubmitted := 0
  urbThreadRunning := false
  urbThread := false
  isoUrbPool := []
  usbfs := ⟨[], []⟩
  allocated := 0
  deleted := []
  log := []

/-- An ioctl: the answer of the environment, and the request on record. -/
def ioctl (d : AndroidUsbDevice) (answer : ℕ → ℤ) (request : Ioctl) : ℤ × AndroidUsbDevice :=
  (answer d.log.length, { d with log := d.log ++ [request] })

/-- `setInterface`. -/
def setInterface (d : AndroidUsbDevice) (answer : ℕ → ℤ) (interface altSetting : ℕ) :
    Bool × AndroidUsbDevice :=
  let (ret, d) := d.ioctl answer (.setInterface interface altSetting)
  (ret == 0, d)

/-- `controlTransfer`, as `setRegisters` calls it. -/
def controlTransfer (d : AndroidUsbDevice) (answer : ℕ → ℤ) (value index : ℕ) :
    Bool × AndroidUsbDevice :=
  let (ret, d) := d.ioctl answer (.control value index)
  (ret == 0, d)

/-- `allocateUrb`. -/
def allocateUrb (d : AndroidUsbDevice) : ℕ × AndroidUsbDevice :=
  (d.allocated, { d with allocated := d.allocated + 1 })

/-- `deleteUrb`. -/
def deleteUrb (d : AndroidUsbDevice) (urb : ℕ) : AndroidUsbDevice :=
  { d with deleted := d.deleted ++ [urb] }

/-- `submitUrb`. -/
def submitUrb (d : AndroidUsbDevice) (answer : ℕ → ℤ) (urb : ℕ) : Bool × AndroidUsbDevice :=
  let (ret, d) := d.ioctl answer (.submitUrb urb)
  if ret < 0 then (false, d) else (true, { d with usbfs := d.usbfs.submit urb })

/-- A `DISCARDURB`: usbfs refuses it if the URB is not pending. -/
def discardUrb (d : AndroidUsbDevice) (urb : ℕ) : Bool × AndroidUsbDevice :=
  (decide (urb ∈ d.usbfs.pending),
    { d with usbfs := d.usbfs.complete urb, log := d.log ++ [.discardUrb urb] })

/-- The loop of `discardIsoUrbs`. -/
def discardUrbs : List ℕ → AndroidUsbDevice → Bool × AndroidUsbDevice
  | [], d => (true, d)
  | urb :: urbs, d =>
    let (ok, d) := d.discardUrb urb
    let (success, d) := discardUrbs urbs d
    (ok && success, d)

/-- `discardIsoUrbs`. An empty pool leaves `_isoUrbsSubmitted` alone. -/
def discardIsoUrbs (d : AndroidUsbDevice) : Bool × AndroidUsbDevice :=
  if d.isoUrbPool = [] then (true, d)
  else
    let (success, d) := discardUrbs d.isoUrbPool d
    (success, { d with isoUrbsSubmitted := 0 })

/-- `freeIsoUrbs`. -/
def freeIsoUrbs (d : AndroidUsbDevice) : AndroidUsbDevice :=
  let d := if d.isoUrbsSubmitted > 0 then d.discardIsoUrbs.2 else d
  { d.isoUrbPool.foldl deleteUrb d with isoUrbPool := [] }

/-- The allocation and submission loop of `initIsoUrbs`: it ends with the first URB that cannot
be submitted. -/
def submitIsoUrbs (answer : ℕ → ℤ) : ℕ → AndroidUsbDevice → AndroidUsbDevice
  | 0, d => d
  | transfers + 1, d =>
    let (urb, d) := d.allocateUrb
    match d.submitUrb answer urb with
    | (false, d) => d.deleteUrb urb
    | (true, d) => submitIsoUrbs answer transfers
        { d with
          isoUrbsSubmitted := (d.isoUrbsSubmitted + 1) % 2 ^ 8
          isoUrbPool := d.isoUrbPool ++ [urb] }

/-- The first half of `initIsoUrbs`: what an earlier stream left is discarded and freed. -/
def clearIsoUrbs (d : AndroidUsbDevice) : AndroidUsbDevice :=
  let d := if d.isoUrbsSubmitted > 0 then d.discardIsoUrbs.2 else d
  if d.isoUrbPool.length > 0 then d.freeIsoUrbs else d

/-- `initIsoUrbs`. -/
def initIsoUrbs (d : AndroidUsbDevice) (answer : ℕ → ℤ) (numTransfers : ℕ) :
    Bool × AndroidUsbDevice :=
  let d := submitIsoUrbs answer numTransfers d.clearIsoUrbs
  if d.isoUrbsSubmitted ≠ numTransfers then (false, d.discardIsoUrbs.2.freeIsoUrbs)
  else (true, d)

/-- `startUrbAsyncRead`, where the thread can be created. -/
def startUrbAsyncRead (d : AndroidUsbDevice) : Bool × AndroidUsbDevice :=
  if d.urbThread = false then (true, { d with urbThread := true, urbThreadRunning := true })
  else (false, d)

/-- `stopUrbAsyncRead`, where the reap thread ends. -/
def stopUrbAsyncRead (d : AndroidUsbDevice) : AndroidUsbDevice :=
  if d.urbThread = true then
    ({ d with urbThreadRunning := false, urbThread := false }).discardIsoUrbs.2
  else d

/-! ## Discarding and freeing -/

/-- The two states differ at most in the requests and in which URBs of the kernel are complete. -/
structure SameUrbs (d d' : AndroidUsbDevice) : Prop where
  isoUrbPool : d'.isoUrbPool = d.isoUrbPool
  urbThread : d'.urbThread = d.urbThread
  urbThreadRunning : d'.urbThreadRunning = d.urbThreadRunning
  allocated : d'.allocated = d.allocated
  deleted : d'.deleted = d.deleted
  holds : ∀ u, d'.usbfs.Holds u ↔ d.usbfs.Holds u

namespace SameUrbs

lemma refl (d : AndroidUsbDevice) : SameUrbs d d := ⟨rfl, rfl, rfl, rfl, rfl, fun _ => Iff.rfl⟩

lemma trans {d d' d'' : AndroidUsbDevice} (h : SameUrbs d d') (h' : SameUrbs d' d'') :
    SameUrbs d d'' :=
  ⟨h'.isoUrbPool.trans h.isoUrbPool, h'.urbThread.trans h.urbThread,
    h'.urbThreadRunning.trans h.urbThreadRunning, h'.allocated.trans h.allocated,
    h'.deleted.trans h.deleted, fun u => (h'.holds u).trans (h.holds u)⟩

end SameUrbs

lemma discardUrbs_same (urbs : List ℕ) (d : AndroidUsbDevice) :
    SameUrbs d (discardUrbs urbs d).2 := by
  induction urbs generalizing d with
  | nil => exact SameUrbs.refl d
  | cons urb urbs ih =>
    have h : SameUrbs d (d.discardUrb urb).2 :=
      ⟨rfl, rfl, rfl, rfl, rfl, fun _ => Usbfs.holds_complete⟩
    exact h.trans (ih _)

/-- **Discarding releases nothing**: every URB stays where it is, with the kernel too. -/
lemma discardIsoUrbs_same (d : AndroidUsbDevice) : SameUrbs d d.discardIsoUrbs.2 := by
  unfold discardIsoUrbs
  split_ifs
  · exact SameUrbs.refl d
  · have h := discardUrbs_same d.isoUrbPool d
    exact ⟨h.isoUrbPool, h.urbThread, h.urbThreadRunning, h.allocated, h.deleted, h.holds⟩

/-- After a discard of a pool that is not empty no URB counts as submitted. -/
lemma discardIsoUrbs_isoUrbsSubmitted (d : AndroidUsbDevice) :
    d.discardIsoUrbs.2.isoUrbsSubmitted =
      if d.isoUrbPool = [] then d.isoUrbsSubmitted else 0 := by
  unfold discardIsoUrbs
  split_ifs <;> rfl

/-- Deleting URBs changes nothing but the list of deleted URBs. -/
lemma foldl_deleteUrb (urbs : List ℕ) (d : AndroidUsbDevice) :
    urbs.foldl deleteUrb d = { d with deleted := d.deleted ++ urbs } := by
  induction urbs generalizing d with
  | nil => simp
  | cons urb urbs ih =>
    rw [List.foldl_cons, ih]
    simp [deleteUrb]

/-- What freeing the pool does. -/
structure FreedPool (d d' : AndroidUsbDevice) : Prop where
  isoUrbPool : d'.isoUrbPool = []
  urbThread : d'.urbThread = d.urbThread
  urbThreadRunning : d'.urbThreadRunning = d.urbThreadRunning
  allocated : d'.allocated = d.allocated
  deleted : d'.deleted = d.deleted ++ d.isoUrbPool
  holds : ∀ u, d'.usbfs.Holds u ↔ d.usbfs.Holds u

lemma freeIsoUrbs_freed (d : AndroidUsbDevice) : FreedPool d d.freeIsoUrbs := by
  have h : SameUrbs d (if d.isoUrbsSubmitted > 0 then d.discardIsoUrbs.2 else d) := by
    split_ifs
    · exact d.discardIsoUrbs_same
    · exact SameUrbs.refl d
  unfold freeIsoUrbs
  simp only [foldl_deleteUrb]
  exact ⟨rfl, h.urbThread, h.urbThreadRunning, h.allocated, by rw [h.deleted, h.isoUrbPool],
    h.holds⟩

lemma freeIsoUrbs_of_not_submitted {d : AndroidUsbDevice} (h : d.isoUrbsSubmitted = 0) :
    d.freeIsoUrbs = { d with deleted := d.deleted ++ d.isoUrbPool, isoUrbPool := [] } := by
  have h' : ¬ d.isoUrbsSubmitted > 0 := by omega
  simp only [freeIsoUrbs, if_neg h', foldl_deleteUrb]

/-- The first half of `initIsoUrbs` frees the pool of an earlier stream, whatever the kernel
still holds of it. -/
lemma clearIsoUrbs_freed (d : AndroidUsbDevice) : FreedPool d d.clearIsoUrbs := by
  have h : SameUrbs d (if d.isoUrbsSubmitted > 0 then d.discardIsoUrbs.2 else d) := by
    split_ifs
    · exact d.discardIsoUrbs_same
    · exact SameUrbs.refl d
  unfold clearIsoUrbs
  generalize (if d.isoUrbsSubmitted > 0 then d.discardIsoUrbs.2 else d) = d₁ at h
  by_cases hlen : d₁.isoUrbPool.length > 0
  · have hf := d₁.freeIsoUrbs_freed
    simp only [if_pos hlen]
    exact ⟨hf.isoUrbPool, hf.urbThread.trans h.urbThread,
      hf.urbThreadRunning.trans h.urbThreadRunning, hf.allocated.trans h.allocated,
      by rw [hf.deleted, h.deleted, h.isoUrbPool], fun u => (hf.holds u).trans (h.holds u)⟩
  · have hnil : d₁.isoUrbPool = [] := List.length_eq_zero_iff.mp (by omega)
    have hd : d.isoUrbPool = [] := h.isoUrbPool.symm.trans hnil
    simp only [if_neg hlen]
    exact ⟨hnil, h.urbThread, h.urbThreadRunning, h.allocated,
      by rw [h.deleted, hd, List.append_nil], h.holds⟩

/-- When no URB counts as submitted, the first half of `initIsoUrbs` makes no request. -/
lemma clearIsoUrbs_of_not_submitted {d : AndroidUsbDevice} (h : d.isoUrbsSubmitted = 0) :
    d.clearIsoUrbs = { d with deleted := d.deleted ++ d.isoUrbPool, isoUrbPool := [] } := by
  have h' : ¬ d.isoUrbsSubmitted > 0 := by omega
  simp only [clearIsoUrbs, if_neg h']
  split_ifs with hlen
  · exact freeIsoUrbs_of_not_submitted h
  · have hnil : d.isoUrbPool = [] := List.length_eq_zero_iff.mp (by omega)
    cases d
    simp_all

/-! ## Submitting -/

/-- What the submission loop leaves behind when `submitted` of `transfers` URBs could be
submitted. -/
structure Submitted (answer : ℕ → ℤ) (d d' : AndroidUsbDevice) (transfers submitted : ℕ) :
    Prop where
  le : submitted ≤ transfers
  accepted : ∀ k < submitted, 0 ≤ answer (d.log.length + k)
  refused : submitted < transfers → answer (d.log.length + submitted) < 0
  isoUrbPool : d'.isoUrbPool = d.isoUrbPool ++ List.range' d.allocated submitted
  isoUrbsSubmitted : d.isoUrbsSubmitted < 2 ^ 8 →
    d'.isoUrbsSubmitted = (d.isoUrbsSubmitted + submitted) % 2 ^ 8
  pending : d'.usbfs.pending = d.usbfs.pending ++ List.range' d.allocated submitted
  completed : d'.usbfs.completed = d.usbfs.completed
  urbThread : d'.urbThread = d.urbThread
  urbThreadRunning : d'.urbThreadRunning = d.urbThreadRunning
  /-- If all could be submitted, nothing was deleted. -/
  deleted_of_eq : submitted = transfers →
    d'.deleted = d.deleted ∧ d'.allocated = d.allocated + transfers
  /-- Otherwise the URB that could not be submitted was deleted. -/
  deleted_of_lt : submitted < transfers →
    d'.deleted = d.deleted ++ [d.allocated + submitted] ∧
      d'.allocated = d.allocated + submitted + 1
  log_of_eq : submitted = transfers →
    d'.log = d.log ++ (List.range' d.allocated transfers).map .submitUrb

/-- **The submission loop** submits the URBs up to the first one that usbfs refuses, and that one
it deletes. -/
theorem submitIsoUrbs_spec (answer : ℕ → ℤ) (transfers : ℕ) (d : AndroidUsbDevice) :
    ∃ submitted,
      Submitted answer d (submitIsoUrbs answer transfers d) transfers submitted := by
  induction transfers generalizing d with
  | zero =>
    refine ⟨0, le_rfl, by simp, by simp, ?_, fun h => ?_, ?_, rfl, rfl, rfl,
      fun _ => ⟨rfl, rfl⟩, ?_, ?_⟩
    · simp [submitIsoUrbs]
    · exact (Nat.mod_eq_of_lt h).symm
    · simp [submitIsoUrbs]
    · exact fun h => absurd h (lt_irrefl 0)
    · simp [submitIsoUrbs]
  | succ transfers ih =>
    by_cases hret : answer d.log.length < 0
    · have heq : submitIsoUrbs answer (transfers + 1) d =
          { d with
            allocated := d.allocated + 1
            log := d.log ++ [.submitUrb d.allocated]
            deleted := d.deleted ++ [d.allocated] } := by
        simp [submitIsoUrbs, allocateUrb, submitUrb, ioctl, hret, deleteUrb]
      rw [heq]
      exact ⟨0, by omega, by simp, fun _ => hret, by simp, fun h => (Nat.mod_eq_of_lt h).symm,
        by simp, rfl, rfl, rfl, by simp, by simp, by simp⟩
    · -- the first URB goes to the kernel and into the pool
      let d₁ : AndroidUsbDevice :=
        { d with
          allocated := d.allocated + 1
          log := d.log ++ [.submitUrb d.allocated]
          usbfs := d.usbfs.submit d.allocated
          isoUrbsSubmitted := (d.isoUrbsSubmitted + 1) % 2 ^ 8
          isoUrbPool := d.isoUrbPool ++ [d.allocated] }
      have heq : submitIsoUrbs answer (transfers + 1) d = submitIsoUrbs answer transfers d₁ := by
        simp [submitIsoUrbs, allocateUrb, submitUrb, ioctl, hret, d₁]
      obtain ⟨k, hk⟩ := ih d₁
      rw [heq]
      have hlen : d₁.log.length = d.log.length + 1 := by simp [d₁]
      refine ⟨k + 1, by have := hk.le; omega, fun j hj => ?_, fun h => ?_, ?_, fun h => ?_, ?_,
        hk.completed, hk.urbThread, hk.urbThreadRunning, fun h => ?_, fun h => ?_, fun h => ?_⟩
      · cases j with
        | zero => exact Int.not_lt.mp hret
        | succ j =>
          have := hk.accepted j (by omega)
          rw [hlen] at this
          rwa [Nat.add_right_comm, Nat.add_assoc] at this
      · have := hk.refused (by omega)
        rw [hlen] at this
        rwa [Nat.add_right_comm, Nat.add_assoc] at this
      · rw [hk.isoUrbPool, List.range'_succ]
        simp [d₁]
      · rw [hk.isoUrbsSubmitted (Nat.mod_lt _ (by decide))]
        simp only [d₁]
        omega
      · rw [hk.pending, List.range'_succ]
        simp [d₁, Usbfs.submit]
      · obtain ⟨hdel, hall⟩ := hk.deleted_of_eq (by omega)
        exact ⟨hdel, by rw [hall]; simp only [d₁]; omega⟩
      · obtain ⟨hdel, hall⟩ := hk.deleted_of_lt (by omega)
        refine ⟨?_, by rw [hall]; simp only [d₁]; omega⟩
        rw [hdel]
        simp only [d₁]
        rw [Nat.add_right_comm, Nat.add_assoc]
      · rw [hk.log_of_eq (by omega), List.range'_succ]
        simp [d₁]

/-! ## Initialising the URBs -/

/-- URBs count as submitted only while there is a pool of them. -/
def Counted (d : AndroidUsbDevice) : Prop := d.isoUrbPool = [] → d.isoUrbsSubmitted = 0

/-- The first half of `initIsoUrbs` leaves no URB that counts as submitted. -/
lemma clearIsoUrbs_isoUrbsSubmitted {d : AndroidUsbDevice} (hc : d.Counted) :
    d.clearIsoUrbs.isoUrbsSubmitted = 0 := by
  have hzero : ∀ e : AndroidUsbDevice, e.isoUrbsSubmitted = 0 →
      (if e.isoUrbPool.length > 0 then e.freeIsoUrbs else e).isoUrbsSubmitted = 0 := by
    intro e he
    split_ifs
    · rw [freeIsoUrbs_of_not_submitted he]
      exact he
    · exact he
  unfold clearIsoUrbs
  apply hzero _
  split_ifs with hsub
  · rw [discardIsoUrbs_isoUrbsSubmitted, if_neg]
    intro hnil
    have := hc hnil
    omega
  · omega

/-- **A successful `initIsoUrbs`** has submitted all URBs of its new pool. -/
lemma initIsoUrbs_of_success {d : AndroidUsbDevice} {answer : ℕ → ℤ} {n : ℕ} (hc : d.Counted)
    (hn : n < 2 ^ 8) (h : (d.initIsoUrbs answer n).1 = true) :
    Submitted answer d.clearIsoUrbs (d.initIsoUrbs answer n).2 n n ∧
      (d.initIsoUrbs answer n).2.isoUrbsSubmitted = n := by
  obtain ⟨k, hk⟩ := submitIsoUrbs_spec answer n d.clearIsoUrbs
  have hzero := clearIsoUrbs_isoUrbsSubmitted hc
  have hcount := hk.isoUrbsSubmitted (by omega)
  have hle := hk.le
  rw [hzero, Nat.zero_add, Nat.mod_eq_of_lt (by omega)] at hcount
  unfold initIsoUrbs at h ⊢
  by_cases hne : (submitIsoUrbs answer n d.clearIsoUrbs).isoUrbsSubmitted = n
  · rw [if_neg (not_not.mpr hne)] at h ⊢
    obtain rfl : k = n := hcount.symm.trans hne
    exact ⟨hk, hne⟩
  · rw [if_pos hne] at h
    exact absurd h (by simp)

/-- What a failed `initIsoUrbs` leaves behind when `submitted` URBs could be submitted. -/
structure InitFailed (answer : ℕ → ℤ) (d d' : AndroidUsbDevice) (submitted : ℕ) : Prop where
  accepted : ∀ k < submitted, 0 ≤ answer (d.clearIsoUrbs.log.length + k)
  refused : answer (d.clearIsoUrbs.log.length + submitted) < 0
  isoUrbPool : d'.isoUrbPool = []
  isoUrbsSubmitted : d'.isoUrbsSubmitted = 0
  urbThread : d'.urbThread = d.urbThread
  urbThreadRunning : d'.urbThreadRunning = d.urbThreadRunning
  allocated : d'.allocated = d.allocated + submitted + 1
  deleted : d'.deleted = d.deleted ++ d.isoUrbPool ++ [d.allocated + submitted] ++
    List.range' d.allocated submitted
  holds : ∀ u, d'.usbfs.Holds u ↔ d.usbfs.Holds u ∨ u ∈ List.range' d.allocated submitted

/-- **A failed `initIsoUrbs`** deletes the URBs it has submitted, which the kernel still
holds. -/
lemma initIsoUrbs_of_failure {d : AndroidUsbDevice} {answer : ℕ → ℤ} {n : ℕ} (hc : d.Counted)
    (hn : n < 2 ^ 8) (h : (d.initIsoUrbs answer n).1 = false) :
    ∃ submitted < n, InitFailed answer d (d.initIsoUrbs answer n).2 submitted := by
  obtain ⟨k, hk⟩ := submitIsoUrbs_spec answer n d.clearIsoUrbs
  have hzero := clearIsoUrbs_isoUrbsSubmitted hc
  have hclear := d.clearIsoUrbs_freed
  have hcount := hk.isoUrbsSubmitted (by omega)
  have hle := hk.le
  rw [hzero, Nat.zero_add, Nat.mod_eq_of_lt (by omega)] at hcount
  unfold initIsoUrbs at h ⊢
  by_cases hne : (submitIsoUrbs answer n d.clearIsoUrbs).isoUrbsSubmitted = n
  · rw [if_neg (not_not.mpr hne)] at h
    exact absurd h (by simp)
  · rw [if_pos hne]
    have hlt : k < n := by omega
    refine ⟨k, hlt, ?_⟩
    generalize submitIsoUrbs answer n d.clearIsoUrbs = d₁ at hk hcount
    have hpool : d₁.isoUrbPool = List.range' d.allocated k := by
      rw [hk.isoUrbPool, hclear.isoUrbPool, hclear.allocated, List.nil_append]
    have hdis := d₁.discardIsoUrbs_same
    have hsub : d₁.discardIsoUrbs.2.isoUrbsSubmitted = 0 := by
      rw [discardIsoUrbs_isoUrbsSubmitted]
      split_ifs with hnil
      · rw [hpool, List.range'_eq_nil_iff] at hnil
        omega
      · rfl
    have hfree := d₁.discardIsoUrbs.2.freeIsoUrbs_freed
    obtain ⟨hdel, hall⟩ := hk.deleted_of_lt hlt
    refine ⟨hk.accepted, hk.refused hlt, hfree.isoUrbPool, ?_, ?_, ?_, ?_, ?_, fun u => ?_⟩
    · simp only [freeIsoUrbs_of_not_submitted hsub, hsub]
    · rw [hfree.urbThread, hdis.urbThread, hk.urbThread, hclear.urbThread]
    · rw [hfree.urbThreadRunning, hdis.urbThreadRunning, hk.urbThreadRunning,
        hclear.urbThreadRunning]
    · rw [hfree.allocated, hdis.allocated, hall, hclear.allocated]
    · rw [hfree.deleted, hdis.deleted, hdis.isoUrbPool, hpool, hdel, hclear.deleted,
        hclear.allocated]
    · rw [hfree.holds, hdis.holds, Usbfs.Holds, hk.pending, hk.completed, hclear.allocated,
        ← hclear.holds, Usbfs.Holds, List.mem_append]
      tauto

end AndroidUsbDevice

end UsbTv
