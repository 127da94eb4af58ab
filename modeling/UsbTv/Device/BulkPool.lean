import UsbTv.Lib.StepSystem
import UsbTv.Device.BulkUrbs

set_option relaxedAutoImplicit false
set_option autoImplicit false

/-!
# The pool of bulk URBs

Runs of calls on an `AndroidUsbDevice` that submit bulk URBs, kill and resubmit those of the pool,
and discard the pool. `_bulkUrbsSubmitted` counts with 8 bits what has come into the pool since it
was last discarded, and `freeBulkUrbs` has a loop that never runs.

## Main definitions

* `UsbTv.BulkCall`, `UsbTv.BulkDevice.bulkCalls` — the calls, and the runs of them.
* `UsbTv.BulkDevice.WellFormed` — what the URBs of the pool look like.
* `UsbTv.BulkDevice.Counted` — what `_bulkUrbsSubmitted` counts.
* `UsbTv.BulkDevice.ReleasesPool` — what is asked of the counter and of `freeBulkUrbs`.

## Main results

* `UsbTv.BulkDevice.wellFormed`, `counted` — both hold in every state of a run.
* `UsbTv.BulkDevice.releasesPool_iff` — the pool is released exactly if it is empty.
* `UsbTv.BulkDevice.counter_wraps` — after 256 submissions the counter is 0.
-/

namespace UsbTv

/-- The calls that concern bulk URBs. -/
inductive BulkCall
  | submitBulkUrb (endpoint bufferSize : ℕ)
  | killUrb (urb : ℕ)
  | resubmitUrb (urb : ℕ)
  | discardBulkUrbs
  | deleteContinuousBulkUrb (urb : ℕ)
  deriving DecidableEq, Repr

namespace BulkDevice

variable {answer : ℕ → ℤ} {fresh : ℕ → ℕ → ℕ} {scatterGather : Bool}

/-- What a call does. -/
def perform (answer : ℕ → ℤ) (fresh : ℕ → ℕ → ℕ) (d : BulkDevice) :
    BulkCall → Option (Bool × BulkDevice)
  | .submitBulkUrb endpoint bufferSize => d.submitBulkUrb answer fresh endpoint bufferSize
  | .killUrb urb => d.killUrb answer (some urb)
  | .resubmitUrb urb => d.resubmitUrb answer (some urb)
  | .discardBulkUrbs => d.discardBulkUrbs answer
  | .deleteContinuousBulkUrb urb => (d.deleteContinuousBulkUrb urb).map fun d => (true, d)

/-- The calls that a run can make: a URB is killed or resubmitted while it is in the pool, and the
device deletes URBs only by itself. -/
def Possible (d : BulkDevice) : BulkCall → Prop
  | .submitBulkUrb _ bufferSize => bufferSize < 2 ^ 32
  | .killUrb urb => urb ∈ d.bulkUrbPool
  | .resubmitUrb urb => urb ∈ d.bulkUrbPool
  | .discardBulkUrbs => True
  | .deleteContinuousBulkUrb _ => False

instance (d : BulkDevice) (call : BulkCall) : Decidable (d.Possible call) :=
  match call with
  | .submitBulkUrb _ bufferSize => inferInstanceAs (Decidable (bufferSize < 2 ^ 32))
  | .killUrb urb => inferInstanceAs (Decidable (urb ∈ d.bulkUrbPool))
  | .resubmitUrb urb => inferInstanceAs (Decidable (urb ∈ d.bulkUrbPool))
  | .discardBulkUrbs => inferInstanceAs (Decidable True)
  | .deleteContinuousBulkUrb _ => inferInstanceAs (Decidable False)

/-- The runs of calls that return, on a new device. -/
def bulkCalls (answer : ℕ → ℤ) (fresh : ℕ → ℕ → ℕ) (scatterGather : Bool) :
    StepSystem BulkDevice BulkCall where
  Init d := d = new scatterGather
  step d call :=
    if d.Possible call then (d.perform answer fresh call).map fun (_, d) => d else none

/-! ## The URBs of the pool -/

/-- A URB that is submitted itself. -/
structure Simple (d : BulkDevice) (urb : ℕ) : Prop where
  flags : (d.urbs urb).flags &&& usbdevfsUrbBulkContinuation = 0
  usercontext : ∃ poolIndex isLast, (d.urbs urb).usercontext = .urb none poolIndex isLast

/-- A URB whose sub-URBs are submitted. -/
structure Continuous (d : BulkDevice) (urb subUrbCount : ℕ) (subUrbs : ℕ → ℕ) : Prop where
  flags : (d.urbs urb).flags &&& usbdevfsUrbBulkContinuation ≠ 0
  usercontext : (d.urbs urb).usercontext = .continuous subUrbCount subUrbs
  two_le : 2 ≤ subUrbCount
  lt : subUrbCount < 2 ^ 8

/-- A URB has one of the two shapes. -/
def Shaped (d : BulkDevice) (urb : ℕ) : Prop :=
  d.Simple urb ∨ ∃ subUrbCount subUrbs, d.Continuous urb subUrbCount subUrbs

/-- What usbfs gets to see of a URB: itself or its sub-URBs. -/
def parts (d : BulkDevice) (urb : ℕ) : List ℕ :=
  match (d.urbs urb).usercontext with
  | .urb .. => [urb]
  | .continuous subUrbCount subUrbs => (List.range subUrbCount).map subUrbs

/-- The URBs of the pool are shaped, all different, and allocated with their parts. -/
structure WellFormed (d : BulkDevice) : Prop where
  nodup : d.bulkUrbPool.Nodup
  shaped : ∀ u ∈ d.bulkUrbPool, d.Shaped u
  lt : ∀ u ∈ d.bulkUrbPool, u < d.allocated
  parts_lt : ∀ u ∈ d.bulkUrbPool, ∀ v ∈ d.parts u, v < d.allocated

/-- A URB looks the same in both states. -/
structure SameShape (d d' : BulkDevice) (urb : ℕ) : Prop where
  flags : (d'.urbs urb).flags = (d.urbs urb).flags
  usercontext : (d'.urbs urb).usercontext = (d.urbs urb).usercontext

namespace SameShape

variable {d d' : BulkDevice} {urb : ℕ}

lemma shaped (h : SameShape d d' urb) (hs : d.Shaped urb) : d'.Shaped urb := by
  rcases hs with hs | ⟨n, subUrbs, hs⟩
  · exact .inl ⟨by rw [h.flags, hs.flags], by rw [h.usercontext]; exact hs.usercontext⟩
  · exact .inr ⟨n, subUrbs, by rw [h.flags]; exact hs.flags,
      by rw [h.usercontext, hs.usercontext], hs.two_le, hs.lt⟩

lemma parts (h : SameShape d d' urb) : d'.parts urb = d.parts urb := by
  unfold BulkDevice.parts
  rw [h.usercontext]

end SameShape

lemma Touched.sameShape {d d' : BulkDevice} {requests : List Ioctl} {blocks : List Block}
    {visits : List Visit} (h : Touched d d' requests blocks visits) (urb : ℕ) :
    SameShape d d' urb :=
  ⟨h.flags urb, h.usercontext urb⟩

lemma Simple.parts {d : BulkDevice} {urb : ℕ} (h : d.Simple urb) : d.parts urb = [urb] := by
  obtain ⟨i, l, hctx⟩ := h.usercontext
  unfold BulkDevice.parts
  rw [hctx]

lemma Continuous.parts {d : BulkDevice} {urb n : ℕ} {subUrbs : ℕ → ℕ}
    (h : d.Continuous urb n subUrbs) : d.parts urb = (List.range n).map subUrbs := by
  unfold BulkDevice.parts
  rw [h.usercontext]

/-! ## What the calls do to the pool -/

/-- The loops of `discardBulkUrbs` use these indices on the sub-URBs of a URB. -/
def discardVisits (d : BulkDevice) (urb : ℕ) : List Visit :=
  match (d.urbs urb).usercontext with
  | .urb .. => []
  | .continuous subUrbCount _ => (List.range subUrbCount).map fun i => ⟨.discard, urb, i⟩

variable (answer) in
/-- A URB of either shape is discarded. -/
lemma discardBulkUrb_shaped {d : BulkDevice} {urb : ℕ} (h : d.Shaped urb) :
    ∃ r, d.discardBulkUrb answer urb = some r ∧
      Touched d r.2 ((d.parts urb).map .discardUrb) [] (d.discardVisits urb) := by
  rcases h with h | ⟨n, subUrbs, h⟩
  · obtain ⟨i, l, hctx⟩ := h.usercontext
    refine ⟨_, by rw [discardBulkUrb, if_pos h.flags], ?_⟩
    unfold discardVisits
    rw [h.parts, hctx]
    exact .ioctl d answer (.discardUrb urb)
  · obtain ⟨r, hr, htouched⟩ := discardBulkUrb_spec answer h.flags h.usercontext h.lt
    refine ⟨r, hr, ?_⟩
    unfold discardVisits
    rw [h.parts, h.usercontext, List.map_map]
    exact htouched

variable (answer) in
/-- **The outer loop of `discardBulkUrbs`** discards all parts of all URBs. -/
lemma discardEach_spec {urbs : List ℕ} {d : BulkDevice} (h : ∀ u ∈ urbs, d.Shaped u) :
    ∃ r, discardEach answer urbs d = some r ∧
      Touched d r.2 (urbs.flatMap fun u => (d.parts u).map .discardUrb) []
        (urbs.flatMap d.discardVisits) := by
  induction urbs generalizing d with
  | nil => exact ⟨(true, d), rfl, .refl d⟩
  | cons urb urbs ih =>
    obtain ⟨r, hr, htouched⟩ := discardBulkUrb_shaped answer (h urb List.mem_cons_self)
    obtain ⟨r', hr', htouched'⟩ := ih (d := r.2) fun u hu =>
      (htouched.sameShape u).shaped (h u (List.mem_cons_of_mem _ hu))
    refine ⟨(r.1 && r'.1, r'.2), ?_, ?_⟩
    · rw [discardEach, hr, Option.bind_some]
      simp only [hr', Option.map_some]
    · have hparts : ∀ u, r.2.parts u = d.parts u := fun u => (htouched.sameShape u).parts
      have hvisits : r.2.discardVisits = d.discardVisits := by
        funext u
        unfold discardVisits
        rw [htouched.usercontext]
      have hboth := htouched.trans htouched'
      simp only [hparts, hvisits] at hboth
      exact hboth

variable (answer) in
/-- **`discardBulkUrbs`** discards all parts of the pool, and the counter is 0 unless the pool is
empty. -/
lemma discardBulkUrbs_spec {d : BulkDevice} (h : ∀ u ∈ d.bulkUrbPool, d.Shaped u) :
    ∃ success d₁ d', d.discardBulkUrbs answer = some (success, d') ∧
      Touched d d₁ (d.bulkUrbPool.flatMap fun u => (d.parts u).map .discardUrb) []
        (d.bulkUrbPool.flatMap d.discardVisits) ∧
      d' = if d.bulkUrbPool = [] then d₁ else { d₁ with bulkUrbsSubmitted := 0 } := by
  unfold discardBulkUrbs
  by_cases hnil : d.bulkUrbPool = []
  · refine ⟨true, d, d, by rw [if_pos hnil], ?_, by rw [if_pos hnil]⟩
    rw [hnil]
    exact .refl d
  · obtain ⟨r, hr, htouched⟩ := discardEach_spec answer h
    refine ⟨r.1, r.2, _, ?_, htouched, rfl⟩
    rw [if_neg hnil, if_neg hnil, hr, Option.map_some]

/-- What `submitBulkUrb` leaves behind: a new URB in the pool or none. Older URBs are not
submitted. -/
structure Grown (d d' : BulkDevice) (success : Bool) : Prop where
  lt : d.allocated < d'.allocated
  old : ∀ u < d.allocated, SameShape d d' u
  log : ∃ requests, d'.log = d.log ++ requests ∧ ∀ u < d.allocated, .submitUrb u ∉ requests
  refused : success = false →
    d'.bulkUrbPool = d.bulkUrbPool ∧ d'.bulkUrbsSubmitted = d.bulkUrbsSubmitted
  accepted : success = true →
    d'.bulkUrbPool = d.bulkUrbPool ++ [d.allocated] ∧
      d'.bulkUrbsSubmitted = (d.bulkUrbsSubmitted + 1) % 2 ^ 8 ∧ d'.Shaped d.allocated ∧
      ∀ v ∈ d'.parts d.allocated, v < d'.allocated

/-- The URB of the first branch of `submitBulkUrb`. -/
def simpleUrb (d : BulkDevice) (endpoint bufferSize : ℕ) : BulkUrb :=
  ⟨endpoint, 0, 0, ⟨d.allocated, 0⟩, cInt bufferSize, 0, 0,
    .urb none (d.bulkUrbPool.length % 2 ^ 8) true⟩

/-- The first branch of `submitBulkUrb`, when the URB is submitted. -/
def simpleSubmitted (d : BulkDevice) (endpoint bufferSize : ℕ) : BulkDevice :=
  { d with
    allocated := d.allocated + 1
    urbs := Function.update d.urbs d.allocated (d.simpleUrb endpoint bufferSize)
    log := d.log ++ [.submitUrb d.allocated] }

/-- **The first branch of `submitBulkUrb`**. -/
lemma submitSimple_eq (d : BulkDevice) (endpoint bufferSize : ℕ) :
    d.submitSimple answer endpoint bufferSize =
      if 0 ≤ answer d.log.length then
        (true, (d.simpleSubmitted endpoint bufferSize).addToPool d.allocated)
      else (false, (d.simpleSubmitted endpoint bufferSize).deleteUrb d.allocated) := by
  by_cases h : answer d.log.length < 0
  · rw [if_neg (not_le.mpr h)]
    simp [submitSimple, allocateUrb, modify, submitUrb, ioctl, h, simpleSubmitted, simpleUrb]
  · rw [if_pos (not_lt.mp h)]
    simp [submitSimple, allocateUrb, modify, submitUrb, ioctl, h, simpleSubmitted, simpleUrb]

variable (answer) in
/-- What the first branch of `submitBulkUrb` leaves behind. -/
lemma submitSimple_grown (d : BulkDevice) (endpoint bufferSize : ℕ) :
    Grown d (d.submitSimple answer endpoint bufferSize).2
      (d.submitSimple answer endpoint bufferSize).1 := by
  have hold : ∀ u < d.allocated,
      (d.simpleSubmitted endpoint bufferSize).urbs u = d.urbs u :=
    fun u hu => Function.update_of_ne hu.ne ..
  have hnew : (d.simpleSubmitted endpoint bufferSize).urbs d.allocated =
      d.simpleUrb endpoint bufferSize := Function.update_self ..
  have hlog : ∀ u < d.allocated, Ioctl.submitUrb u ∉ [Ioctl.submitUrb d.allocated] := by
    intro u hu hmem
    have heq := List.mem_singleton.mp hmem
    rw [Ioctl.submitUrb.injEq] at heq
    omega
  rw [submitSimple_eq]
  split_ifs
  · have hsimple : ((d.simpleSubmitted endpoint bufferSize).addToPool d.allocated).Simple
        d.allocated := by
      refine ⟨?_, d.bulkUrbPool.length % 2 ^ 8, true, ?_⟩
      · rw [addToPool, hnew]
        exact Nat.zero_and _
      · rw [addToPool, hnew]
        rfl
    refine ⟨Nat.lt_succ_self _, fun u hu => ⟨congrArg (·.flags) (hold u hu),
      congrArg (·.usercontext) (hold u hu)⟩, ⟨_, rfl, hlog⟩, fun h => ?_,
      fun _ => ⟨rfl, rfl, .inl hsimple, ?_⟩⟩
    · cases h
    · rw [hsimple.parts]
      intro v hv
      rw [List.mem_singleton.mp hv]
      exact Nat.lt_succ_self _
  · refine ⟨Nat.lt_succ_self _, fun u hu => ⟨congrArg (·.flags) (hold u hu),
      congrArg (·.usercontext) (hold u hu)⟩, ⟨_, rfl, hlog⟩, fun _ => ⟨rfl, rfl⟩, fun h => ?_⟩
    cases h

/-- The sub-URBs that are built are new. -/
lemma builtSubUrbs_mem {main n v : ℕ}
    (h : v ∈ (List.range n).map (builtSubUrbs fresh main n)) : main < v ∧ v < main + 1 + n := by
  obtain ⟨i, hi, rfl⟩ := List.mem_map.mp h
  have hlt := List.mem_range.mp hi
  rw [builtSubUrbs, if_pos hlt]
  omega

/-- None of the requests about the sub-URBs submits an older URB. -/
lemma submitUrb_not_mem {main n : ℕ} (discarded : List ℕ) {u : ℕ} (hu : u < main) :
    Ioctl.submitUrb u ∉ ((List.range n).map fun i => .submitUrb (builtSubUrbs fresh main n i)) ++
      discarded.map fun i => .discardUrb (builtSubUrbs fresh main n i) := by
  intro hmem
  rcases List.mem_append.mp hmem with hmem | hmem
  · obtain ⟨i, hi, heq⟩ := List.mem_map.mp hmem
    have hlt := (builtSubUrbs_mem (List.mem_map_of_mem (f := builtSubUrbs fresh main n) hi)).1
    rw [Ioctl.submitUrb.injEq] at heq
    omega
  · obtain ⟨i, -, heq⟩ := List.mem_map.mp hmem
    cases heq

section Continuous

variable {d d₀ d₁ : BulkDevice} {endpoint bufferSize : ℕ} {requests : List Ioctl}
  {blocks : List Block} {visits : List Visit}

/-- Older URBs have the shape that they had before the construction. -/
lemma Built.sameShape_old
    (hbuilt : Built fresh d d₀ endpoint bufferSize (chunkCount bufferSize))
    (htouched : Touched d₀ d₁ requests blocks visits) : ∀ u < d.allocated, SameShape d d₁ u := by
  intro u hu
  have heq := hbuilt.old u hu
  exact ⟨by rw [htouched.flags, heq], by rw [htouched.usercontext, heq]⟩

/-- What the second branch of `submitBulkUrb` leaves behind if all sub-URBs are accepted. -/
lemma Built.grown_accepted
    (hbuilt : Built fresh d d₀ endpoint bufferSize (chunkCount bufferSize))
    (hsize : maxUsbfsBulkSize < bufferSize) (hcount : chunkCount bufferSize < 2 ^ 8)
    (htouched : Touched d₀ d₁ ((List.range (chunkCount bufferSize)).map fun i =>
      .submitUrb (builtSubUrbs fresh d.allocated (chunkCount bufferSize) i)) blocks visits) :
    Grown d (d₁.addToPool d.allocated) true := by
  have hcontinuous : (d₁.addToPool d.allocated).Continuous d.allocated (chunkCount bufferSize)
      (builtSubUrbs fresh d.allocated (chunkCount bufferSize)) := by
    refine ⟨?_, (htouched.usercontext _).trans (hbuilt.usercontext hcount),
      two_le_chunkCount hsize, hcount⟩
    show (d₁.urbs d.allocated).flags &&& _ ≠ 0
    rw [htouched.flags, hbuilt.main]
    show usbdevfsUrbBulkContinuation &&& usbdevfsUrbBulkContinuation ≠ 0
    decide
  have hold := hbuilt.sameShape_old htouched
  refine ⟨?_, fun u hu => ⟨(hold u hu).flags, (hold u hu).usercontext⟩,
    ⟨_, htouched.log.trans (by rw [hbuilt.log]), fun u hu => ?_⟩, fun h => ?_,
    fun _ => ⟨?_, ?_, .inr ⟨_, _, hcontinuous⟩, fun v hv => ?_⟩⟩
  · show d.allocated < d₁.allocated
    rw [htouched.allocated, hbuilt.allocated]
    omega
  · intro hmem
    exact submitUrb_not_mem [] hu (List.mem_append_left _ hmem)
  · cases h
  · show d₁.bulkUrbPool ++ _ = _
    rw [htouched.bulkUrbPool, hbuilt.bulkUrbPool]
  · show (d₁.bulkUrbsSubmitted + 1) % _ = _
    rw [htouched.bulkUrbsSubmitted, hbuilt.bulkUrbsSubmitted]
  · rw [hcontinuous.parts] at hv
    show v < d₁.allocated
    rw [htouched.allocated, hbuilt.allocated]
    exact (builtSubUrbs_mem hv).2

/-- What it leaves behind if one of them is refused. -/
lemma Built.grown_refused
    (hbuilt : Built fresh d d₀ endpoint bufferSize (chunkCount bufferSize)) (discarded : List ℕ)
    (htouched : Touched d₀ d₁ (((List.range (chunkCount bufferSize)).map fun i =>
        .submitUrb (builtSubUrbs fresh d.allocated (chunkCount bufferSize) i)) ++
      discarded.map fun i =>
        .discardUrb (builtSubUrbs fresh d.allocated (chunkCount bufferSize) i)) blocks visits) :
    Grown d d₁ false := by
  refine ⟨?_, hbuilt.sameShape_old htouched,
    ⟨_, htouched.log.trans (by rw [hbuilt.log]), fun u hu => ?_⟩, fun _ => ⟨?_, ?_⟩, fun h => ?_⟩
  · rw [htouched.allocated, hbuilt.allocated]
    omega
  · exact submitUrb_not_mem discarded hu
  · rw [htouched.bulkUrbPool, hbuilt.bulkUrbPool]
  · rw [htouched.bulkUrbsSubmitted, hbuilt.bulkUrbsSubmitted]
  · cases h

end Continuous

/-- **What `submitBulkUrb` leaves behind**, when it returns. -/
lemma submitBulkUrb_grown {d d' : BulkDevice} {endpoint bufferSize : ℕ} {success : Bool}
    (h : d.submitBulkUrb answer fresh endpoint bufferSize = some (success, d')) :
    Grown d d' success := by
  by_cases hpath : bufferSize ≤ maxUsbfsBulkSize ∨ d.scatterGatherEnabled = true
  · rw [submitBulkUrb, if_pos hpath, Option.some_inj] at h
    have hgrown := d.submitSimple_grown answer endpoint bufferSize
    rwa [h] at hgrown
  rcases le_or_gt (2 ^ 8) (chunkCount bufferSize) with hcount | hcount
  · rw [submitBulkUrb, if_neg hpath, buildContinuous_eq_none d fresh endpoint hcount] at h
    cases h
  obtain ⟨d₀, hd₀, hbuilt⟩ := d.buildContinuous_built fresh endpoint hcount
  rw [submitBulkUrb_of_built hpath hd₀ answer] at h
  have hctx := hbuilt.usercontext hcount
  by_cases haccepted : ∀ k < chunkCount bufferSize, 0 ≤ answer (d₀.log.length + k)
  · obtain ⟨d₁, hd₁, htouched⟩ := submitBuilt_accepted answer hctx hcount haccepted
    rw [hd₁, Option.some_inj, Prod.mk.injEq] at h
    obtain ⟨rfl, rfl⟩ := h
    exact hbuilt.grown_accepted (not_le.mp fun hle => hpath (.inl hle)) hcount htouched
  rcases Nat.lt_or_ge (chunkCount bufferSize + 1) (2 ^ 8) with hlt | hge
  · obtain ⟨d₁, hd₁, htouched⟩ := submitBuilt_refused answer hctx hlt haccepted
    rw [hd₁, Option.some_inj, Prod.mk.injEq] at h
    obtain ⟨rfl, rfl⟩ := h
    exact hbuilt.grown_refused _ htouched
  · rw [submitBuilt_eq_none answer hctx hcount hge haccepted] at h
    cases h

/-! ## The invariants of a run -/

/-- What only touches the URBs keeps the pool well formed. -/
lemma WellFormed.of_touched {d d' : BulkDevice} {requests : List Ioctl} {blocks : List Block}
    {visits : List Visit} (hw : d.WellFormed) (h : Touched d d' requests blocks visits) :
    d'.WellFormed := by
  refine ⟨?_, fun u hu => ?_, fun u hu => ?_, fun u hu => ?_⟩
  · rw [h.bulkUrbPool]
    exact hw.nodup
  all_goals rw [h.bulkUrbPool] at hu
  · exact (h.sameShape u).shaped (hw.shaped u hu)
  · rw [h.allocated]
    exact hw.lt u hu
  · rw [h.allocated, (h.sameShape u).parts]
    exact hw.parts_lt u hu

/-- `submitBulkUrb` keeps the pool well formed. -/
lemma WellFormed.of_grown {d d' : BulkDevice} {success : Bool} (hw : d.WellFormed)
    (h : Grown d d' success) : d'.WellFormed := by
  have hold : ∀ u ∈ d.bulkUrbPool, d'.Shaped u ∧ u < d'.allocated ∧
      ∀ v ∈ d'.parts u, v < d'.allocated := by
    intro u hu
    have hsame := h.old u (hw.lt u hu)
    refine ⟨hsame.shaped (hw.shaped u hu), (hw.lt u hu).trans h.lt, fun v hv => ?_⟩
    rw [hsame.parts] at hv
    exact (hw.parts_lt u hu v hv).trans h.lt
  cases success with
  | false =>
    obtain ⟨hpool, -⟩ := h.refused rfl
    refine ⟨by rw [hpool]; exact hw.nodup, ?_, ?_, ?_⟩ <;> intro u hu <;> rw [hpool] at hu
    · exact (hold u hu).1
    · exact (hold u hu).2.1
    · exact (hold u hu).2.2
  | true =>
    obtain ⟨hpool, -, hshaped, hparts⟩ := h.accepted rfl
    refine ⟨?_, ?_, ?_, ?_⟩
    · rw [hpool, List.nodup_append]
      refine ⟨hw.nodup, List.pairwise_singleton _ _, fun u hu v hv => ?_⟩
      rw [List.mem_singleton.mp hv]
      exact (hw.lt u hu).ne
    all_goals
      intro u hu
      rw [hpool, List.mem_append, List.mem_singleton] at hu
      rcases hu with hu | rfl
    · exact (hold u hu).1
    · exact hshaped
    · exact (hold u hu).2.1
    · exact h.lt
    · exact (hold u hu).2.2
    · exact hparts

/-- Killing and resubmitting a URB of the pool, and discarding the pool, only touch the URBs,
unless the counter is set to 0. -/
lemma perform_touched {d d' : BulkDevice} {call : BulkCall} {success : Bool} (hw : d.WellFormed)
    (hpossible : d.Possible call) (hcall : ∀ endpoint bufferSize,
      call ≠ .submitBulkUrb endpoint bufferSize)
    (h : d.perform answer fresh call = some (success, d')) :
    ∃ d₁ requests visits, Touched d d₁ requests [] visits ∧
      (d' = d₁ ∨ d' = { d₁ with bulkUrbsSubmitted := 0 }) := by
  cases call with
  | submitBulkUrb endpoint bufferSize => exact absurd rfl (hcall endpoint bufferSize)
  | killUrb urb =>
    rcases hw.shaped urb hpossible with hs | ⟨n, subUrbs, hs⟩
    · rw [perform, killUrb, if_pos hs.flags, Option.some_inj, Prod.mk.injEq] at h
      exact ⟨_, _, _, .ioctl d answer (.discardUrb urb), .inl h.2.symm⟩
    · obtain ⟨r, hr, htouched⟩ := killUrb_spec answer hs.flags hs.usercontext hs.lt
      rw [perform, hr, Option.some_inj] at h
      exact ⟨_, _, _, htouched, .inl (by rw [h])⟩
  | resubmitUrb urb =>
    rcases hw.shaped urb hpossible with hs | ⟨n, subUrbs, hs⟩
    · have hreset := Touched.reset d urb
      have hflags :
          ¬ ((d.modify urb .reset).urbs urb).flags &&& usbdevfsUrbBulkContinuation > 0 := by
        rw [hreset.continuation, hs.flags]
        exact lt_irrefl 0
      rw [perform, resubmitUrb, if_neg hflags, Option.some_inj] at h
      have htouched := hreset.trans (.submitUrb _ answer urb)
      exact ⟨_, _, _, htouched, .inl (by rw [h])⟩
    · obtain ⟨r, hr, htouched⟩ := resubmitUrb_spec answer hs.flags hs.usercontext hs.lt
      rw [perform, hr, Option.some_inj] at h
      exact ⟨_, _, _, htouched, .inl (by rw [h])⟩
  | discardBulkUrbs =>
    obtain ⟨success', d₁, d'', hd'', htouched, heq⟩ :=
      discardBulkUrbs_spec answer hw.shaped
    rw [perform, hd'', Option.some_inj, Prod.mk.injEq] at h
    refine ⟨d₁, _, _, htouched, ?_⟩
    rw [← h.2, heq]
    split_ifs
    · exact .inl rfl
    · exact .inr rfl
  | deleteContinuousBulkUrb urb => exact hpossible.elim

/-- A step of a run. -/
lemma bulkCalls_step {d d' : BulkDevice} {call : BulkCall}
    (h : (bulkCalls answer fresh scatterGather).step d call = some d') :
    d.Possible call ∧ ∃ success, d.perform answer fresh call = some (success, d') := by
  unfold bulkCalls at h
  dsimp only at h
  split_ifs at h with hpossible
  obtain ⟨⟨success, d''⟩, hperform, rfl⟩ := Option.map_eq_some_iff.mp h
  exact ⟨hpossible, success, hperform⟩

lemma bulkCalls_step_of_perform {d d' : BulkDevice} {call : BulkCall} {success : Bool}
    (hpossible : d.Possible call) (h : d.perform answer fresh call = some (success, d')) :
    (bulkCalls answer fresh scatterGather).step d call = some d' := by
  unfold bulkCalls
  dsimp only
  rw [if_pos hpossible, h, Option.map_some]

/-- **The pool is well formed** in every state of a run. -/
theorem wellFormed {d : BulkDevice} (h : (bulkCalls answer fresh scatterGather).Reachable d) :
    d.WellFormed := by
  refine StepSystem.ReachableUnder.invariant (fun d hd => ?_) (fun d call d' _ hw _ hstep => ?_) h
  · obtain rfl : d = new scatterGather := hd
    exact ⟨List.nodup_nil, by simp [new], by simp [new], by simp [new]⟩
  · obtain ⟨hpossible, success, hperform⟩ := bulkCalls_step hstep
    by_cases hcall : ∀ endpoint bufferSize, call ≠ .submitBulkUrb endpoint bufferSize
    · obtain ⟨d₁, _, _, htouched, rfl | rfl⟩ := perform_touched hw hpossible hcall hperform
      · exact hw.of_touched htouched
      · have hw₁ := hw.of_touched htouched
        exact ⟨hw₁.nodup, fun u hu => (hw₁.shaped u hu).imp (fun hs => ⟨hs.1, hs.2⟩)
          fun ⟨n, subUrbs, hs⟩ => ⟨n, subUrbs, hs.1, hs.2, hs.3, hs.4⟩, hw₁.lt, hw₁.parts_lt⟩
    · push Not at hcall
      obtain ⟨endpoint, bufferSize, rfl⟩ := hcall
      exact hw.of_grown (submitBulkUrb_grown hperform)

/-! ## Discarding -/

/-- A discard of the URB was attempted, and the URB has not been submitted since. -/
def DiscardedSince (log : List Ioctl) (urb : ℕ) : Prop :=
  ∃ before after, log = before ++ .discardUrb urb :: after ∧ .submitUrb urb ∉ after

/-- Requests that do not submit the URB leave that as it is. -/
lemma DiscardedSince.append {log requests : List Ioctl} {urb : ℕ} (h : DiscardedSince log urb)
    (hnot : .submitUrb urb ∉ requests) : DiscardedSince (log ++ requests) urb := by
  obtain ⟨before, after, rfl, hafter⟩ := h
  refine ⟨before, after ++ requests, by simp, fun hmem => ?_⟩
  rcases List.mem_append.mp hmem with hmem | hmem
  · exact hafter hmem
  · exact hnot hmem

/-- A discard among requests that do not submit the URB. -/
lemma discardedSince_append {log requests : List Ioctl} {urb : ℕ}
    (hmem : .discardUrb urb ∈ requests) (hnot : .submitUrb urb ∉ requests) :
    DiscardedSince (log ++ requests) urb := by
  obtain ⟨before, after, rfl⟩ := List.append_of_mem hmem
  exact ⟨log ++ before, after, by simp, fun h => hnot (by simp [h])⟩

/-- A discard of every part of the URB was attempted since its submission. -/
def Discarded (d : BulkDevice) (urb : ℕ) : Prop := ∀ v ∈ d.parts urb, DiscardedSince d.log v

/-- The pool consists of URBs that were discarded, and of those that came afterwards, which the
counter counts with 8 bits. -/
def Counted (d : BulkDevice) : Prop :=
  ∃ earlier later, d.bulkUrbPool = earlier ++ later ∧ (∀ u ∈ earlier, d.Discarded u) ∧
    d.bulkUrbsSubmitted = later.length % 2 ^ 8

/-- `discardBulkUrbs` discards the whole pool. -/
lemma discarded_of_touched {d d' : BulkDevice} {visits : List Visit}
    (h : Touched d d' (d.bulkUrbPool.flatMap fun u => (d.parts u).map .discardUrb) [] visits) :
    ∀ u ∈ d.bulkUrbPool, d'.Discarded u := by
  intro u hu v hv
  rw [(h.sameShape u).parts] at hv
  rw [h.log]
  apply discardedSince_append
  · exact List.mem_flatMap.mpr ⟨u, hu, List.mem_map_of_mem hv⟩
  · intro hmem
    obtain ⟨w, -, hw⟩ := List.mem_flatMap.mp hmem
    obtain ⟨x, -, hx⟩ := List.mem_map.mp hw
    cases hx

/-- `submitBulkUrb` leaves the URBs of the pool discarded. -/
lemma Grown.discarded {d d' : BulkDevice} {success : Bool} (h : Grown d d' success)
    (hw : d.WellFormed) {u : ℕ} (hu : u ∈ d.bulkUrbPool) (hdiscarded : d.Discarded u) :
    d'.Discarded u := by
  intro v hv
  rw [(h.old u (hw.lt u hu)).parts] at hv
  obtain ⟨requests, hlog, hnot⟩ := h.log
  rw [hlog]
  exact (hdiscarded v hv).append (hnot v (hw.parts_lt u hu v hv))

/-- The calls that fill and discard the pool. -/
def FillsOrDiscards : BulkCall → Prop
  | .submitBulkUrb .. => True
  | .discardBulkUrbs => True
  | _ => False

/-- **The counter counts** with 8 bits what has come into the pool since it was last discarded, in
every run of `submitBulkUrb` and `discardBulkUrbs`.

**Proof sketch.** A URB that is submitted comes behind the others, and counts. Its requests are
about new URBs, so that the discarded ones stay discarded. A discard is attempted for all parts of
the pool. -/
theorem counted {d : BulkDevice}
    (h : (bulkCalls answer fresh scatterGather).ReachableUnder (fun _ call => FillsOrDiscards call)
      d) : d.Counted := by
  refine StepSystem.ReachableUnder.invariant (fun d hd => ?_)
    (fun d call d' hreach hcounted hcall hstep => ?_) h
  · obtain rfl : d = new scatterGather := hd
    exact ⟨[], [], rfl, by simp, rfl⟩
  obtain ⟨earlier, later, hpool, hearlier, hcount⟩ := hcounted
  have hw := wellFormed hreach.reachable
  obtain ⟨-, success, hperform⟩ := bulkCalls_step hstep
  cases call with
  | submitBulkUrb endpoint bufferSize =>
    have hgrown := submitBulkUrb_grown hperform
    have hstays : ∀ u ∈ earlier, d'.Discarded u := fun u hu =>
      hgrown.discarded hw (by rw [hpool]; exact List.mem_append_left _ hu) (hearlier u hu)
    cases success with
    | false =>
      obtain ⟨hpool', hcount'⟩ := hgrown.refused rfl
      exact ⟨earlier, later, hpool'.trans hpool, hstays, hcount'.trans hcount⟩
    | true =>
      obtain ⟨hpool', hcount', -, -⟩ := hgrown.accepted rfl
      refine ⟨earlier, later ++ [d.allocated], ?_, hstays, ?_⟩
      · rw [hpool', hpool, List.append_assoc]
      · rw [hcount', hcount, List.length_append, List.length_singleton, Nat.mod_add_mod]
  | discardBulkUrbs =>
    obtain ⟨success', d₁, d'', hd'', htouched, heq⟩ :=
      discardBulkUrbs_spec answer hw.shaped
    rw [perform, hd'', Option.some_inj, Prod.mk.injEq] at hperform
    obtain ⟨rfl, rfl⟩ := hperform
    by_cases hnil : d.bulkUrbPool = []
    · have hlater : later = [] := (List.append_eq_nil_iff.mp (hpool.symm.trans hnil)).2
      rw [heq, if_pos hnil]
      refine ⟨[], [], htouched.bulkUrbPool.trans hnil, by simp, ?_⟩
      rw [htouched.bulkUrbsSubmitted, hcount, hlater]
    · rw [heq, if_neg hnil]
      exact ⟨d.bulkUrbPool, [], by simp [htouched.bulkUrbPool],
        fun u hu => discarded_of_touched htouched u hu, rfl⟩
  | killUrb urb => exact hcall.elim
  | resubmitUrb urb => exact hcall.elim
  | deleteContinuousBulkUrb urb => exact hcall.elim

/-! ## Freeing -/

/-- What belongs to a URB of the pool. -/
def blocksOf (d : BulkDevice) (urb : ℕ) : List Block :=
  match (d.urbs urb).usercontext with
  | .urb .. => [.context urb, .buffer (d.urbs urb).buffer.block, .urb urb]
  | .continuous subUrbCount subUrbs =>
    continuousBlocks urb (d.urbs urb).buffer.block subUrbCount subUrbs

/-- What is asked of the counter and of `freeBulkUrbs`: the counter is 0 only if the pool has been
discarded, `freeBulkUrbs` sees to that first, and then it gives back all that belongs to the pool,
once, and empties it. -/
structure ReleasesPool (answer : ℕ → ℤ) (d : BulkDevice) : Prop where
  counter : d.bulkUrbsSubmitted = 0 → ∀ u ∈ d.bulkUrbPool, d.Discarded u
  discards : ∃ d₁, d.discardSubmitted answer = some d₁ ∧ d₁.freed = d.freed ∧
    ∀ u ∈ d.bulkUrbPool, d₁.Discarded u
  frees : ∃ d', d.freeBulkUrbs answer = some d' ∧ d'.bulkUrbPool = [] ∧
    d'.freed.Perm (d.freed ++ d.bulkUrbPool.flatMap d.blocksOf)

variable (answer) in
/-- The first statement of `freeBulkUrbs` gives nothing back, and if the counter is not 0 it
discards the pool. -/
lemma discardSubmitted_spec {d : BulkDevice} (h : ∀ u ∈ d.bulkUrbPool, d.Shaped u) :
    ∃ d₁, d.discardSubmitted answer = some d₁ ∧ d₁.freed = d.freed ∧
      (d.bulkUrbsSubmitted ≠ 0 → ∀ u ∈ d.bulkUrbPool, d₁.Discarded u) ∧
      (d.bulkUrbsSubmitted = 0 → d₁ = d) := by
  unfold discardSubmitted
  by_cases hcount : d.bulkUrbsSubmitted = 0
  · exact ⟨d, by rw [if_neg (by omega)], rfl, fun hne => absurd hcount hne, fun _ => rfl⟩
  · obtain ⟨success, d₁, d', hd', htouched, heq⟩ := discardBulkUrbs_spec answer h
    refine ⟨d', by rw [if_pos (by omega), hd', Option.map_some], ?_, fun _ u hu => ?_,
      fun hzero => absurd hzero hcount⟩
    · rw [heq, ← List.append_nil d.freed, ← htouched.freed]
      split_ifs <;> rfl
    · have hdiscarded := discarded_of_touched htouched u hu
      rw [heq]
      split_ifs
      · exact hdiscarded
      · exact fun v hv => hdiscarded v hv

/-- **The loop of `freeBulkUrbs` never runs**: the pool is emptied, and nothing of it is given
back. -/
lemma freeBulkUrbs_eq (d : BulkDevice) (answer : ℕ → ℤ) :
    d.freeBulkUrbs answer =
      (d.discardSubmitted answer).map fun d => { d with bulkUrbPool := [] } := by
  unfold freeBulkUrbs
  cases d.discardSubmitted answer with
  | none => rfl
  | some d₁ =>
    have hloop : forLoop (2 ^ 31) (fun i => decide (i > d₁.bulkUrbPool.length))
        (fun (d : Option BulkDevice) i => d.bind fun d => d.deletePooled i) (some d₁) =
          some (some d₁) :=
      forLoop_of_not (by decide) (by simp) _
    rw [Option.bind_some, hloop]
    rfl

/-- Every URB has something to give back. -/
lemma blocksOf_ne_nil (d : BulkDevice) (urb : ℕ) : d.blocksOf urb ≠ [] := by
  unfold blocksOf continuousBlocks
  split <;> simp

/-- Where the pool is released, it was empty. -/
lemma ReleasesPool.pool_eq_nil {d : BulkDevice} (hshaped : ∀ u ∈ d.bulkUrbPool, d.Shaped u)
    (h : ReleasesPool answer d) : d.bulkUrbPool = [] := by
  obtain ⟨d', hd', -, hfreed⟩ := h.frees
  obtain ⟨d₁, hd₁, hsame, -, -⟩ := discardSubmitted_spec answer hshaped
  rw [freeBulkUrbs_eq, hd₁, Option.map_some, Option.some_inj] at hd'
  rw [← hd'] at hfreed
  have hlength := hfreed.length_eq
  rw [hsame, List.length_append, Nat.left_eq_add, List.length_eq_zero_iff,
    List.flatMap_eq_nil_iff] at hlength
  by_contra hne
  obtain ⟨u, hu⟩ := List.exists_mem_of_ne_nil _ hne
  exact d.blocksOf_ne_nil u (hlength u hu)

/-- **The pool is released exactly if it is empty**, that is, if no `submitBulkUrb` was accepted:
`freeBulkUrbs` returns and empties the pool, but gives nothing back. The counter is right as long
as the pool has fewer than 256 URBs.

**Proof sketch.** The loop runs while `i > _bulkUrbPool.size()`, which fails for 0. The counter
counts with 8 bits what came into the pool since it was last discarded. -/
theorem releasesPool_iff {d : BulkDevice}
    (h : (bulkCalls answer fresh scatterGather).ReachableUnder (fun _ call => FillsOrDiscards call)
      d) :
    (ReleasesPool answer d ↔ d.bulkUrbPool = []) ∧
      (d.bulkUrbPool.length < 2 ^ 8 → d.bulkUrbsSubmitted = 0 →
        ∀ u ∈ d.bulkUrbPool, d.Discarded u) ∧
      ∃ d', d.freeBulkUrbs answer = some d' ∧ d'.bulkUrbPool = [] ∧ d'.freed = d.freed := by
  have hw := wellFormed h.reachable
  obtain ⟨d₁, hd₁, hsame, hdiscards, -⟩ := discardSubmitted_spec answer hw.shaped
  have hfree : d.freeBulkUrbs answer = some { d₁ with bulkUrbPool := [] } := by
    rw [freeBulkUrbs_eq, hd₁, Option.map_some]
  refine ⟨⟨fun hrel => hrel.pool_eq_nil hw.shaped, fun hnil => ?_⟩, fun hlength hzero u hu => ?_,
    _, hfree, rfl, hsame⟩
  · refine ⟨?_, ⟨d₁, hd₁, hsame, ?_⟩, _, hfree, rfl, ?_⟩
    · simp [hnil]
    · simp [hnil]
    · rw [hnil, List.flatMap_nil, List.append_nil]
      exact List.Perm.of_eq hsame
  · obtain ⟨earlier, later, hpool, hearlier, hcount⟩ := counted h
    have hlater : later = [] := by
      rw [hpool, List.length_append] at hlength
      rw [hzero, eq_comm, Nat.mod_eq_of_lt (by omega)] at hcount
      exact List.length_eq_zero_iff.mp hcount
    rw [hpool, hlater, List.append_nil] at hu
    exact hearlier u hu

/-- A URB has a part. -/
lemma Shaped.parts_ne_nil {d : BulkDevice} {urb : ℕ} (h : d.Shaped urb) : d.parts urb ≠ [] := by
  rcases h with h | ⟨n, subUrbs, h⟩
  · rw [h.parts]
    exact List.cons_ne_nil _ _
  · have htwo := h.two_le
    rw [h.parts, Ne, List.map_eq_nil_iff, List.range_eq_nil]
    omega

/-- After `k` small buffers that usbfs has accepted, the counter is `k` modulo 256, and nothing was
discarded. -/
lemma exists_submitted (scatterGather : Bool) (fresh : ℕ → ℕ → ℕ) (k : ℕ) :
    ∃ d, (bulkCalls (fun _ => 0) fresh scatterGather).ReachableUnder
        (fun _ call => FillsOrDiscards call) d ∧
      d.bulkUrbPool.length = k ∧ d.bulkUrbsSubmitted = k % 2 ^ 8 ∧
      ∀ r ∈ d.log, ∃ u, r = .submitUrb u := by
  induction k with
  | zero => exact ⟨new scatterGather, .init rfl, rfl, rfl, by simp [new]⟩
  | succ k ih =>
    obtain ⟨d, hreach, hlength, hcount, hlog⟩ := ih
    have hcall : d.submitBulkUrb (fun _ => 0) fresh 0x82 0 =
        some (true, (d.simpleSubmitted 0x82 0).addToPool d.allocated) := by
      rw [submitBulkUrb, if_pos (.inl (Nat.zero_le _)), submitSimple_eq, if_pos le_rfl]
    refine ⟨_, hreach.step (e := .submitBulkUrb 0x82 0) trivial
      (bulkCalls_step_of_perform (Nat.two_pow_pos 32) hcall), ?_, ?_, fun r hr => ?_⟩
    · show (d.bulkUrbPool ++ [d.allocated]).length = k + 1
      rw [List.length_append, hlength, List.length_singleton]
    · show (d.bulkUrbsSubmitted + 1) % 2 ^ 8 = (k + 1) % 2 ^ 8
      rw [hcount, Nat.mod_add_mod]
    · rcases List.mem_append.mp hr with hr | hr
      · exact hlog r hr
      · exact ⟨d.allocated, List.mem_singleton.mp hr⟩

/-- **The counter wraps**: after 256 submissions it is 0, and no URB of the pool was discarded. -/
theorem counter_wraps (fresh : ℕ → ℕ → ℕ) :
    ∃ d, (bulkCalls (fun _ => 0) fresh scatterGather).ReachableUnder
        (fun _ call => FillsOrDiscards call) d ∧
      d.bulkUrbPool.length = 2 ^ 8 ∧ d.bulkUrbsSubmitted = 0 ∧
      ∀ u ∈ d.bulkUrbPool, ¬ d.Discarded u := by
  obtain ⟨d, hreach, hlength, hcount, hlog⟩ :=
    exists_submitted scatterGather fresh (2 ^ 8)
  refine ⟨d, hreach, hlength, hcount, fun u hu hdiscarded => ?_⟩
  have hshaped := (wellFormed hreach.reachable).shaped u hu
  obtain ⟨v, hv⟩ := List.exists_mem_of_ne_nil _ hshaped.parts_ne_nil
  obtain ⟨before, after, heq, -⟩ := hdiscarded v hv
  obtain ⟨w, hw⟩ := hlog (.discardUrb v) (by rw [heq]; simp)
  cases hw

/-- A device that has submitted a buffer of one thousand bytes. -/
def onePooled : BulkDevice := ((new true).simpleSubmitted 0x82 1000).addToPool 0

lemma onePooled_reachable :
    (bulkCalls (fun _ => 0) (fun _ _ => 0) true).ReachableUnder
      (fun _ call => FillsOrDiscards call) onePooled := by
  have hcall : (new true).submitBulkUrb (fun _ => 0) (fun _ _ => 0) 0x82 1000 =
      some (true, onePooled) := by
    rw [submitBulkUrb, if_pos (by decide), submitSimple_eq, if_pos le_rfl]
    rfl
  exact .step (e := .submitBulkUrb 0x82 1000) (.init rfl) trivial
    (bulkCalls_step_of_perform (by decide) hcall)

/-- The pool of a device that has submitted a buffer of one thousand bytes. -/
theorem releasesPool_iff_onePooled :
    ReleasesPool (fun _ => 0) onePooled ↔ onePooled.bulkUrbPool = [] :=
  (releasesPool_iff onePooled_reachable).1

/-- A URB that was submitted is not given back when the device is destroyed. -/
theorem not_releasesPool_onePooled : ¬ ReleasesPool (fun _ => 0) onePooled := by
  intro h
  have hnil := h.pool_eq_nil (wellFormed onePooled_reachable.reachable).shaped
  exact absurd hnil (by decide)

end BulkDevice

end UsbTv
