import UsbTv.Device.BulkUrbs

set_option relaxedAutoImplicit false
set_option autoImplicit false

/-!
# Continuous bulk URBs

What `submitBulkUrb` makes of a buffer that does not fit into one URB. Its number of chunks is a
32-bit count, but the indices of its loops and the count it records have 8 bits; and every sub-URB
gets the same pointer, which lies behind the chunks.

## Main definitions

* `UsbTv.BulkDevice.subUrbsOf` — the sub-URBs of a URB.
* `UsbTv.Partitions` — URBs that share out a buffer.
* `UsbTv.Marked` — URBs that have the lengths and flags of a series.
* `UsbTv.BulkDevice.HandlesSize` — what is asked of `submitBulkUrb` for a buffer.

## Main results

* `UsbTv.BulkDevice.not_partitions_subUrbsOf` — the sub-URBs are well marked, and lie outside the
  buffer.
* `UsbTv.BulkDevice.handlesSize_iff` — for which buffers `submitBulkUrb` returns.
-/

namespace UsbTv

/-! ## The shares of the buffer -/

/-- The byte at the address `p` belongs to the buffer of the URB. -/
def BulkUrb.Covers (u : BulkUrb) (p : Pointer) : Prop :=
  p.block = u.buffer.block ∧ u.buffer.offset ≤ p.offset ∧
    (p.offset : ℤ) < u.buffer.offset + u.bufferLength

/-- The URB is the last of its series. -/
def BulkContext.IsLast : BulkContext → Prop
  | .urb _ _ isLast => isLast = true
  | .continuous .. => False

/-- The URBs share out the buffer: URB `i` has the bytes from chunk `i` on. -/
structure Partitions (buffer : Pointer) (bufferSize : ℕ) (urbs : List BulkUrb) : Prop where
  start : ∀ (i : ℕ) (u : BulkUrb), urbs[i]? = some u →
    u.buffer = ⟨buffer.block, buffer.offset + maxUsbfsBulkSize * i⟩
  covers : ∀ b < bufferSize, ∃ u ∈ urbs, u.Covers ⟨buffer.block, buffer.offset + b⟩
  disjoint : urbs.Pairwise fun u u' => ∀ p, u.Covers p → ¬ u'.Covers p
  inside : ∀ u ∈ urbs, ∀ p, u.Covers p →
    p.block = buffer.block ∧ buffer.offset ≤ p.offset ∧ p.offset < buffer.offset + bufferSize

/-- The URBs have the lengths, the contexts and the flags of a series. -/
structure Marked (urbs : List BulkUrb) : Prop where
  length : ∀ (i : ℕ) (u : BulkUrb), urbs[i]? = some u → i + 1 < urbs.length →
    u.bufferLength = maxUsbfsBulkSize
  length_last : ∀ (i : ℕ) (u : BulkUrb), urbs[i]? = some u → i + 1 = urbs.length →
    1 ≤ u.bufferLength ∧ u.bufferLength ≤ maxUsbfsBulkSize
  isLast : ∀ (i : ℕ) (u : BulkUrb), urbs[i]? = some u →
    (u.usercontext.IsLast ↔ i + 1 = urbs.length)
  continuation : ∀ (i : ℕ) (u : BulkUrb), urbs[i]? = some u →
    (u.flags &&& usbdevfsUrbBulkContinuation ≠ 0 ↔ i ≠ 0)
  shortNotOk : ∀ (i : ℕ) (u : BulkUrb), urbs[i]? = some u →
    (u.flags &&& usbdevfsUrbShortNotOk ≠ 0 ↔ i + 1 ≠ urbs.length)

namespace BulkDevice

/-- The sub-URBs of a URB. -/
def subUrbsOf (d : BulkDevice) (urb : ℕ) : List BulkUrb :=
  match (d.urbs urb).usercontext with
  | .urb .. => []
  | .continuous subUrbCount subUrbs => (List.range subUrbCount).map fun i => d.urbs (subUrbs i)

variable {d d' : BulkDevice} {fresh : ℕ → ℕ → ℕ} {endpoint bufferSize : ℕ}

/-- The sub-URBs of a URB that is built. -/
lemma Built.subUrbsOf (h : Built fresh d d' endpoint bufferSize (chunkCount bufferSize))
    (hcount : chunkCount bufferSize < 2 ^ 8) :
    d'.subUrbsOf d.allocated = (List.range (chunkCount bufferSize)).map
      (BulkDevice.subUrb endpoint bufferSize d.allocated ⟨d.allocated, 0⟩) := by
  unfold BulkDevice.subUrbsOf
  rw [h.usercontext hcount]
  refine List.map_congr_left fun i hi => ?_
  have hlt := List.mem_range.mp hi
  rw [builtSubUrbs, if_pos hlt, h.subUrb i hlt]

/-- Where sub-URB `i` stands in the series. -/
lemma getElem?_map_range {n i : ℕ} {f : ℕ → BulkUrb} {u : BulkUrb}
    (h : ((List.range n).map f)[i]? = some u) : i < n ∧ u = f i := by
  rw [List.getElem?_map, Option.map_eq_some_iff] at h
  obtain ⟨j, hj, rfl⟩ := h
  obtain ⟨hlt, rfl⟩ := List.getElem?_eq_some_iff.mp hj
  rw [List.length_range] at hlt
  exact ⟨hlt, by rw [List.getElem_range]⟩

/-- **The sub-URBs are well marked**: their lengths, the last one and the flags are right. -/
lemma marked_subUrbs (hsize : maxUsbfsBulkSize < bufferSize) (main : ℕ) (buffer : Pointer) :
    Marked ((List.range (chunkCount bufferSize)).map
      (subUrb endpoint bufferSize main buffer)) := by
  have htwo := two_le_chunkCount hsize
  have hcount := urbCount_eq_chunkCount bufferSize
  have hlast : 1 ≤ lastUrbSize bufferSize ∧ lastUrbSize bufferSize ≤ maxUsbfsBulkSize := by
    unfold lastUrbSize maxUsbfsBulkSize
    split_ifs <;> omega
  refine ⟨fun i u hu hlt => ?_, fun i u hu heq => ?_, fun i u hu => ?_, fun i u hu => ?_,
    fun i u hu => ?_⟩ <;> obtain ⟨hi, rfl⟩ := getElem?_map_range hu
  · rw [List.length_map, List.length_range] at hlt
    simp only [subUrb, hcount]
    rw [if_neg (by omega : ¬ i = chunkCount bufferSize - 1), ite_self]
  · rw [List.length_map, List.length_range] at heq
    simp only [subUrb, hcount]
    rw [if_neg (by omega), if_pos (by omega)]
    exact ⟨by exact_mod_cast hlast.1, by exact_mod_cast hlast.2⟩
  · rw [List.length_map, List.length_range]
    simp only [subUrb, hcount, BulkContext.IsLast]
    split_ifs with hzero
    · exact iff_of_false not_false (by omega)
    · rw [decide_eq_true_iff]
      omega
  · simp only [subUrb, hcount]
    split_ifs with hzero hend
    · exact iff_of_false (by decide) (not_not.mpr hzero)
    · exact iff_of_true (by decide) hzero
    · exact iff_of_true (by decide) hzero
  · rw [List.length_map, List.length_range]
    simp only [subUrb, hcount]
    split_ifs with hzero hend
    · exact iff_of_true (by decide) (by omega)
    · exact iff_of_false (by decide) (by omega)
    · exact iff_of_true (by decide) (by omega)

/-- All sub-URBs have the same pointer, which lies behind the last chunk. -/
lemma Built.buffer_eq (h : Built fresh d d' endpoint bufferSize (chunkCount bufferSize))
    (hcount : chunkCount bufferSize ≤ 255) :
    ∀ u ∈ d'.subUrbsOf d.allocated,
      u.buffer = ⟨d.allocated, maxUsbfsBulkSize * chunkCount bufferSize⟩ := by
  intro u hu
  rw [h.subUrbsOf (by omega), List.mem_map] at hu
  obtain ⟨i, -, rfl⟩ := hu
  have hmod : maxUsbfsBulkSize * chunkCount bufferSize % 2 ^ 32 =
      maxUsbfsBulkSize * chunkCount bufferSize := by
    unfold maxUsbfsBulkSize
    omega
  rw [BulkDevice.subUrb, urbCount_eq_chunkCount, Nat.mul_comm, hmod, Nat.zero_add]

/-- No sub-URB has the first byte of the buffer. -/
lemma Built.not_partitions (h : Built fresh d d' endpoint bufferSize (chunkCount bufferSize))
    (hsize : maxUsbfsBulkSize < bufferSize) (hcount : chunkCount bufferSize ≤ 255) :
    ¬ Partitions (d'.urbs d.allocated).buffer bufferSize (d'.subUrbsOf d.allocated) := by
  intro hpart
  obtain ⟨u, hu, -, hle, -⟩ := hpart.covers 0 (by omega)
  rw [h.buffer_eq hcount u hu, h.main] at hle
  have hend := (chunkCount_spec bufferSize).1
  simp only at hle
  omega

/-- **The sub-URBs do not share out the buffer**: they all have the same pointer, which lies
behind the last chunk. Their number, their lengths and their flags are right.

**Proof sketch.** The construction computes `curBuf` from `urbCount` where it means `i`. There are
at most 255 chunks, so the product does not wrap and is at least the size of the buffer. The first
byte would have to belong to some sub-URB. -/
theorem not_partitions_subUrbsOf (answer : ℕ → ℤ) (hgather : d.scatterGatherEnabled = false)
    (hsize : maxUsbfsBulkSize < bufferSize) (hcount : chunkCount bufferSize ≤ 255) :
    ∃ d', d.buildContinuous fresh endpoint bufferSize = some d' ∧
      d.submitBulkUrb answer fresh endpoint bufferSize = d'.submitBuilt answer d.allocated ∧
      (d'.subUrbsOf d.allocated).length = chunkCount bufferSize ∧
      Marked (d'.subUrbsOf d.allocated) ∧
      (∀ u ∈ d'.subUrbsOf d.allocated, u.buffer =
        ⟨d.allocated, maxUsbfsBulkSize * chunkCount bufferSize⟩) ∧
      ¬ Partitions (d'.urbs d.allocated).buffer bufferSize (d'.subUrbsOf d.allocated) := by
  have hlt : chunkCount bufferSize < 2 ^ 8 := by omega
  obtain ⟨d', hd', hbuilt⟩ := d.buildContinuous_built fresh endpoint hlt
  have hsubs := hbuilt.subUrbsOf hlt
  refine ⟨d', hd', ?_, by rw [hsubs]; simp, by rw [hsubs]; exact marked_subUrbs hsize _ _,
    hbuilt.buffer_eq hcount, hbuilt.not_partitions hsize hcount⟩
  exact submitBulkUrb_of_built (by simp [hgather, hsize]) hd' answer

/-- A buffer of twenty thousand bytes. -/
theorem not_partitions_twentyThousand :
    ∃ d', (new false).buildContinuous (fun _ _ => 0) 0x82 20000 = some d' ∧
      ¬ Partitions (d'.urbs 0).buffer 20000 (d'.subUrbsOf 0) := by
  obtain ⟨d', hd', -, -, -, -, hpart⟩ :=
    @not_partitions_subUrbsOf (new false) (fun _ _ => 0) 0x82 20000 (fun _ => 0) rfl (by decide)
      (by decide)
  exact ⟨d', hd', hpart⟩

/-- The sub-URBs of a buffer of twenty thousand bytes do not share it out. -/
theorem not_shared_twentyThousand :
    ¬ ∃ d', (new false).buildContinuous (fun _ _ => 0) 0x82 20000 = some d' ∧
      Partitions (d'.urbs 0).buffer 20000 (d'.subUrbsOf 0) ∧ Marked (d'.subUrbsOf 0) := by
  rintro ⟨d', hd', hpart, -⟩
  have hlt : chunkCount 20000 < 2 ^ 8 := by decide
  obtain ⟨d'', hd'', hbuilt⟩ := (new false).buildContinuous_built (fun _ _ => 0) 0x82 hlt
  rw [hd', Option.some_inj] at hd''
  subst hd''
  exact hbuilt.not_partitions (by decide) (by decide) hpart

/-! ## The size of the buffer -/

/-- What is asked of `submitBulkUrb`: it returns, and a continuous URB has as many sub-URBs as it
has recorded, one for each chunk, so that the loops over them get to all of them. -/
def HandlesSize (d : BulkDevice) (answer : ℕ → ℤ) (fresh : ℕ → ℕ → ℕ)
    (endpoint bufferSize : ℕ) : Prop :=
  ∃ success d', d.submitBulkUrb answer fresh endpoint bufferSize = some (success, d') ∧
    (¬ (bufferSize ≤ maxUsbfsBulkSize ∨ d.scatterGatherEnabled = true) →
      ∃ subUrbCount subUrbs,
        (d'.urbs d.allocated).usercontext = .continuous subUrbCount subUrbs ∧
        subUrbCount = chunkCount bufferSize ∧ d'.allocated = d.allocated + 1 + subUrbCount ∧
        CountedLoop.visited (2 ^ 8) (fun i => i < subUrbCount) = some (List.range subUrbCount) ∧
        CountedLoop.visited (2 ^ 31) (fun i => i < subUrbCount) = some (List.range subUrbCount))

/-- The buffers that `submitBulkUrb` can handle: the 8-bit indices get past the last chunk, and
past the end of the array when a sub-URB is refused. -/
def SizeFits (d : BulkDevice) (answer : ℕ → ℤ) (bufferSize : ℕ) : Prop :=
  bufferSize ≤ maxUsbfsBulkSize ∨ d.scatterGatherEnabled = true ∨ chunkCount bufferSize ≤ 254 ∨
    chunkCount bufferSize = 255 ∧ ∀ k < 255, 0 ≤ answer (d.log.length + k)

/-- A loop over at most 255 sub-URBs gets to all of them. -/
lemma visited_subUrbs {m n : ℕ} (hn : n < m) :
    CountedLoop.visited m (fun i => i < n) = some (List.range n) := by
  rw [CountedLoop.visited, forLoop_lt hn, CountedLoop.foldl_append_singleton, List.nil_append]

/-- Nothing that is done with a continuous URB afterwards changes what it has recorded. -/
lemma Built.handled {d'' : BulkDevice}
    (h : Built fresh d d' endpoint bufferSize (chunkCount bufferSize))
    (hcount : chunkCount bufferSize ≤ 255)
    (hctx : (d''.urbs d.allocated).usercontext = (d'.urbs d.allocated).usercontext)
    (hallocated : d''.allocated = d'.allocated) :
    ∃ subUrbCount subUrbs,
      (d''.urbs d.allocated).usercontext = .continuous subUrbCount subUrbs ∧
      subUrbCount = chunkCount bufferSize ∧ d''.allocated = d.allocated + 1 + subUrbCount ∧
      CountedLoop.visited (2 ^ 8) (fun i => i < subUrbCount) = some (List.range subUrbCount) ∧
      CountedLoop.visited (2 ^ 31) (fun i => i < subUrbCount) = some (List.range subUrbCount) :=
  ⟨_, _, hctx.trans (h.usercontext (by omega)), rfl, hallocated.trans h.allocated,
    visited_subUrbs (by omega), visited_subUrbs (by omega)⟩

/-- A call that does not return handles nothing. -/
lemma not_handlesSize_of_none {answer : ℕ → ℤ}
    (h : d.submitBulkUrb answer fresh endpoint bufferSize = none) :
    ¬ HandlesSize d answer fresh endpoint bufferSize := by
  rintro ⟨success, d', hsome, -⟩
  rw [h] at hsome
  cases hsome

/-- Up to 255 chunks, `submitBulkUrb` returns unless there are 255 and one of them is refused. -/
lemma handlesSize_continuous_iff (answer : ℕ → ℤ)
    (hpath : ¬ (bufferSize ≤ maxUsbfsBulkSize ∨ d.scatterGatherEnabled = true))
    (hcount : chunkCount bufferSize ≤ 255) :
    HandlesSize d answer fresh endpoint bufferSize ↔
      chunkCount bufferSize ≤ 254 ∨
        ∀ k < chunkCount bufferSize, 0 ≤ answer (d.log.length + k) := by
  have hlt : chunkCount bufferSize < 2 ^ 8 := by omega
  obtain ⟨d', hd', hbuilt⟩ := d.buildContinuous_built fresh endpoint hlt
  have hcall := submitBulkUrb_of_built hpath hd' answer
  have hctx := hbuilt.usercontext (by omega)
  rw [← hbuilt.log]
  by_cases haccepted : ∀ k < chunkCount bufferSize, 0 ≤ answer (d'.log.length + k)
  · obtain ⟨d'', hd'', htouched⟩ := submitBuilt_accepted answer hctx (by omega) haccepted
    exact iff_of_true ⟨true, _, hcall.trans hd'', fun _ =>
      hbuilt.handled hcount (htouched.usercontext _) htouched.allocated⟩ (.inr haccepted)
  rcases hcount.lt_or_eq with hlt | heq
  · obtain ⟨d'', hd'', htouched⟩ := submitBuilt_refused answer hctx (by omega) haccepted
    exact iff_of_true ⟨false, d'', hcall.trans hd'', fun _ =>
      hbuilt.handled hcount (htouched.usercontext _) htouched.allocated⟩ (.inl (by omega))
  · have hnone := submitBuilt_eq_none answer hctx (by omega) (by omega) haccepted
    exact iff_of_false (not_handlesSize_of_none (hcall.trans hnone)) fun h =>
      h.elim (by omega) haccepted

/-- **`submitBulkUrb` can handle a buffer** if its chunks can be counted in 8 bits, and if the
index of its cleanup can get past their number, should that be needed.

**Proof sketch.** With 256 chunks or more the index of the construction never gets to their
number. With 255 chunks the index of the cleanup never gets past it, but there is no cleanup if all
requests are accepted. With fewer chunks all loops end. -/
theorem handlesSize_iff (d : BulkDevice) (answer : ℕ → ℤ) (fresh : ℕ → ℕ → ℕ)
    (endpoint bufferSize : ℕ) :
    HandlesSize d answer fresh endpoint bufferSize ↔ SizeFits d answer bufferSize := by
  unfold SizeFits
  rw [← or_assoc]
  by_cases hpath : bufferSize ≤ maxUsbfsBulkSize ∨ d.scatterGatherEnabled = true
  · refine iff_of_true ⟨(d.submitSimple answer endpoint bufferSize).1,
      (d.submitSimple answer endpoint bufferSize).2, ?_, fun h => absurd hpath h⟩ (.inl hpath)
    rw [submitBulkUrb, if_pos hpath]
  rw [or_iff_right hpath]
  rcases lt_trichotomy (chunkCount bufferSize) 255 with hlt | heq | hlt
  · rw [handlesSize_continuous_iff answer hpath hlt.le]
    exact iff_of_true (.inl (by omega)) (.inl (by omega))
  · rw [handlesSize_continuous_iff answer hpath heq.le, heq]
    simp
  · refine iff_of_false (not_handlesSize_of_none ?_) (by omega)
    rw [submitBulkUrb, if_neg hpath, d.buildContinuous_eq_none fresh endpoint hlt,
      Option.bind_none]

/-- A buffer of 256 chunks, without scatter-gather: `submitBulkUrb` never returns. -/
theorem not_handlesSize_256 :
    ¬ HandlesSize (new false) (fun _ => 0) (fun _ _ => 0) 0x82 (256 * 16384) := by
  apply not_handlesSize_of_none
  rw [submitBulkUrb, if_neg (by decide), buildContinuous_eq_none _ _ _ (by decide),
    Option.bind_none]

end BulkDevice

end UsbTv
