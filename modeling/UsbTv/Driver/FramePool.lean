import Mathlib.Data.List.Nodup
import UsbTv.Lib.CountedLoop
import UsbTv.Driver.Streaming

set_option relaxedAutoImplicit false
set_option autoImplicit false

/-!
# Frame pools of every size

The size of the frame pool is any `int` that the user gives to the builder. The driver casts it to
`uint16_t`, and counts the frames with a `uint8_t`: `allocateFramePool` when it fills the pool, and
`fetchFrameFromPool` when it looks for a free frame while other threads lock and unlock frames.

## Main definitions

* `UsbTv.UsbTvDriver.probeIndex` — the frame that a probe of `fetchFrameFromPool` tests.
* `UsbTv.UsbTvDriver.fetchFrameFromPool` — the search, with other threads at work.
* `UsbTv.UsbTvDriver.PoolWorks` — what is asked of the two.

## Main results

* `UsbTv.UsbTvDriver.allocateFramePool_eq_filled` — the entries that the loop fills.
* `UsbTv.UsbTvDriver.fetchFrameFromPool_eq_searchFrame` — the two models of the search agree.
* `UsbTv.UsbTvDriver.probeIndex_eq` — the probes go round the pool.
* `UsbTv.UsbTvDriver.poolWorks_iff` — a pool works exactly if the cast leaves 1 to 255 frames.
-/

namespace UsbTv

namespace UsbTvDriver

/-! ## Allocating -/

/-- The entries that the loop of `allocateFramePool` fills, in order. -/
def entriesFilled (framePoolSize : ℕ) : Option (List ℕ) :=
  CountedLoop.visited (2 ^ 8) fun i => decide (i < framePoolSize)

/-- The loop of `allocateFramePool` is a loop with a counter of 256 values. -/
lemma allocateFrames_eq_run (bufferSize framePoolSize fuel i : ℕ) (pool : ℕ → UsbTvFrame) :
    allocateFrames bufferSize framePoolSize fuel i pool =
      CountedLoop.run (2 ^ 8) (fun i => decide (i < framePoolSize))
        (fun pool i => Function.update pool i (UsbTvFrame.new bufferSize)) fuel i pool := by
  induction fuel generalizing i pool with
  | zero => rfl
  | succ fuel ih => simp only [allocateFrames, CountedLoop.run, decide_eq_true_eq, ih]

/-- A new pool with some entries filled. -/
def filledPool (bufferSize : ℕ) (entries : List ℕ) : ℕ → UsbTvFrame :=
  entries.foldl (fun pool i => Function.update pool i (UsbTvFrame.new bufferSize))
    fun _ => .absent

/-- **What `allocateFramePool` fills**, where there is no pool yet. -/
lemma allocateFramePool_eq_filled {d : UsbTvDriver} (hpool : d.framePool = none) :
    d.allocateFramePool = (entriesFilled d.framePoolSize).map fun entries =>
      { d with framePool := some (filledPool d.frameParams.bufferSize entries) } := by
  have hloop := forLoop_eq_visited (m := 2 ^ 8) (by decide)
    (fun i => decide (i < d.framePoolSize))
    (fun pool i => Function.update pool i (UsbTvFrame.new d.frameParams.bufferSize))
    (fun _ => .absent)
  unfold allocateFramePool
  rw [hpool]
  simp only [allocateFrames_eq_run, CountedLoop.run_eq_forLoop (by decide : 0 < 2 ^ 8)
    (by decide : 2 ^ 8 ≤ 257), hloop, Option.map_map]
  rfl

/-! ## Fetching -/

/-- The frame that `fetchFrameFromPool` tests after frame `index`. -/
def nextIndex (framePoolSize index : ℕ) : ℕ :=
  let next := (index + 1) % 2 ^ 8
  if next ≥ framePoolSize then 0 else next

/-- The frame that probe `t` of `fetchFrameFromPool` tests. -/
def probeIndex (framePoolSize : ℕ) : ℕ → ℕ
  | 0 => 0
  | t + 1 => nextIndex framePoolSize (probeIndex framePoolSize t)

/-- What a probe finds, while other threads are at work. -/
structure Meanwhile where
  /-- `_streamActive` at probe `t`. -/
  streamActive : ℕ → Bool
  /-- The lock of a frame at probe `t`. -/
  lock : ℕ → ℕ → Bool

/-- How `fetchFrameFromPool` ends. -/
inductive Fetched
  /-- Probe `t` has found a frame that was not locked. -/
  | unlocked (t index : ℕ)
  /-- The stream is not active any more, and the first frame is returned. -/
  | inactive
  deriving DecidableEq, Repr

/-- `fetchFrameFromPool` from probe `t` on, for at most `fuel` probes. -/
def fetchFrameFromPool (framePoolSize : ℕ) (found : Meanwhile) : ℕ → ℕ → ℕ → Option Fetched
  | 0, _, _ => none
  | fuel + 1, t, index =>
    if found.streamActive t then
      if found.lock t index = false then some (.unlocked t index)
      else fetchFrameFromPool framePoolSize found fuel (t + 1) (nextIndex framePoolSize index)
    else some .inactive

/-- **With no other thread at work**, this is the search on the handler thread. -/
theorem fetchFrameFromPool_eq_searchFrame (framePoolSize : ℕ) (pool : ℕ → UsbTvFrame)
    (fuel t index : ℕ) :
    (fetchFrameFromPool framePoolSize ⟨fun _ => true, fun _ i => (pool i).lock⟩ fuel t index).map
        (fun | .unlocked _ i => i | .inactive => 0) =
      searchFrame framePoolSize pool fuel index := by
  induction fuel generalizing t index with
  | zero => rfl
  | succ fuel ih =>
    by_cases hlock : (pool index).lock = false
    · simp only [fetchFrameFromPool, searchFrame, if_true, if_pos hlock, Option.map_some]
    · simp only [fetchFrameFromPool, searchFrame, if_true, if_neg hlock]
      exact ih (t + 1) _

/-- **The probes go round the pool**. -/
lemma probeIndex_eq {framePoolSize : ℕ} (hpos : 0 < framePoolSize)
    (hlt : framePoolSize < 2 ^ 8) (t : ℕ) : probeIndex framePoolSize t = t % framePoolSize := by
  induction t with
  | zero => simp [probeIndex]
  | succ t ih =>
    have hmod := Nat.mod_lt t hpos
    have hwrap : (t % framePoolSize + 1) % 2 ^ 8 = t % framePoolSize + 1 :=
      Nat.mod_eq_of_lt (by omega)
    have hnext : (t % framePoolSize + 1) % framePoolSize = (t + 1) % framePoolSize :=
      Nat.mod_add_mod t framePoolSize 1
    rw [probeIndex, ih, nextIndex, hwrap, ← hnext]
    by_cases hlast : t % framePoolSize + 1 = framePoolSize
    · rw [if_pos hlast.ge, hlast, Nat.mod_self]
    · have hlt' : t % framePoolSize + 1 < framePoolSize := by omega
      rw [if_neg (not_le.mpr hlt'), Nat.mod_eq_of_lt hlt']

/-- **A frame that stays unlocked ends the search**, whichever probe is the first to matter. -/
lemma fetchFrameFromPool_unlocked {framePoolSize : ℕ} {found : Meanwhile} {fuel t k : ℕ}
    (hactive : ∀ u, t ≤ u → found.streamActive u = true) (hk : t ≤ k) (hfuel : k < t + fuel)
    (hfree : found.lock k (probeIndex framePoolSize k) = false) :
    ∃ u, t ≤ u ∧ u ≤ k ∧ found.lock u (probeIndex framePoolSize u) = false ∧
      fetchFrameFromPool framePoolSize found fuel t (probeIndex framePoolSize t) =
        some (.unlocked u (probeIndex framePoolSize u)) := by
  induction fuel generalizing t with
  | zero => omega
  | succ fuel ih =>
    rw [fetchFrameFromPool, if_pos (hactive t le_rfl)]
    by_cases hlock : found.lock t (probeIndex framePoolSize t) = false
    · rw [if_pos hlock]
      exact ⟨t, le_rfl, hk, hlock, rfl⟩
    · rw [if_neg hlock]
      have hne : t ≠ k := by
        rintro rfl
        exact hlock hfree
      obtain ⟨u, htu, huk, hu, heq⟩ :=
        ih (t := t + 1) (fun u hu => hactive u (by omega)) (by omega) (by omega)
      exact ⟨u, by omega, huk, hu, heq⟩

/-! ## Pools that work -/

/-- What is asked of a pool of this size: it is allocated, each entry is filled once, and the
search for a free frame stays in the pool, tests all of it, and finds a frame that stays
unlocked. -/
structure PoolWorks (framePoolSize : ℕ) : Prop where
  allocates : ∀ d : UsbTvDriver, d.framePoolSize = framePoolSize → d.framePool = none →
    ∃ entries, entriesFilled framePoolSize = some entries ∧
      d.allocateFramePool =
        some { d with framePool := some (filledPool d.frameParams.bufferSize entries) } ∧
      ∀ i, entries.count i = if i < framePoolSize then 1 else 0
  reads : ∀ t, probeIndex framePoolSize t < framePoolSize
  covers : ∀ t, ∀ i < framePoolSize, ∃ k, t ≤ k ∧ k < t + framePoolSize ∧
    probeIndex framePoolSize k = i
  returns : ∀ (found : Meanwhile) (t : ℕ), ∀ i < framePoolSize,
    (∀ u, t ≤ u → found.streamActive u = true) → (∀ u, t ≤ u → found.lock u i = false) →
    ∃ u index, u < t + framePoolSize ∧ found.lock u index = false ∧
      fetchFrameFromPool framePoolSize found framePoolSize t (probeIndex framePoolSize t) =
        some (.unlocked u index)

/-- **When a frame pool works**: exactly if the size that reaches the driver is 1 to 255 after the
cast to `uint16_t`. With none, the search reads an entry that does not exist; with 256 or more,
`allocateFramePool` does not end.

**Proof sketch.** The counter of `allocateFramePool` has 256 values, so the loop ends exactly for
sizes below 256, and it fills the entries in order. Probe `t` tests frame `t` modulo the size, and
among as many consecutive numbers as the pool has frames each residue occurs. -/
theorem poolWorks_iff (b : Java.Builder) (poolSize : ℤ) (frameParams : FrameParams)
    (input : TvInput) (dropped incomplete : ℕ) :
    PoolWorks (new (b.setFramePoolSize poolSize).build frameParams input dropped
        incomplete).framePoolSize ↔
      0 < toUint16 poolSize ∧ toUint16 poolSize < 2 ^ 8 := by
  show PoolWorks (toUint16 poolSize) ↔ _
  generalize toUint16 poolSize = n
  constructor
  · intro h
    refine ⟨(Nat.zero_le _).trans_lt (h.reads 0), ?_⟩
    by_contra hge
    obtain ⟨entries, hentries, -⟩ := h.allocates { firstDriver with framePoolSize := n } rfl rfl
    rw [entriesFilled, CountedLoop.visited, forLoop_lt_eq_none (by decide) (by omega)] at hentries
    cases hentries
  · rintro ⟨hpos, hlt⟩
    have hprobe := probeIndex_eq hpos hlt
    have hcovers : ∀ t, ∀ i < n, ∃ k, t ≤ k ∧ k < t + n ∧ probeIndex n k = i := by
      intro t i hi
      have ht := Nat.div_add_mod t n
      have hmod := Nat.mod_lt t hpos
      -- the next number with remainder `i` lies in this round or in the next one
      by_cases hle : t % n ≤ i
      · refine ⟨n * (t / n) + i, by omega, by omega, ?_⟩
        rw [hprobe, Nat.mul_add_mod, Nat.mod_eq_of_lt hi]
      · refine ⟨n * (t / n + 1) + i, ?_, ?_, ?_⟩
        · rw [Nat.mul_add, Nat.mul_one]
          omega
        · rw [Nat.mul_add, Nat.mul_one]
          omega
        · rw [hprobe, Nat.mul_add_mod, Nat.mod_eq_of_lt hi]
    refine ⟨fun d hsize hpool => ?_, fun t => ?_, hcovers, fun found t i hi hactive hfree => ?_⟩
    · have hentries : entriesFilled n = some (List.range n) := by
        rw [entriesFilled, CountedLoop.visited, forLoop_lt hlt,
          CountedLoop.foldl_append_singleton, List.nil_append]
      refine ⟨List.range n, hentries, ?_, fun i => ?_⟩
      · rw [allocateFramePool_eq_filled hpool, hsize, hentries, Option.map_some]
      · split_ifs with hi
        · exact List.count_eq_one_of_mem List.nodup_range (List.mem_range.mpr hi)
        · exact List.count_eq_zero_of_not_mem fun hmem => hi (List.mem_range.mp hmem)
    · rw [hprobe]
      exact Nat.mod_lt t hpos
    · obtain ⟨k, htk, hk, hki⟩ := hcovers t i hi
      obtain ⟨u, -, huk, hu, heq⟩ := fetchFrameFromPool_unlocked hactive htk hk
        (by rw [hki]; exact hfree k htk)
      exact ⟨u, _, by omega, hu, heq⟩

/-- The user asks for 256 frames, and `allocateFramePool` never ends. -/
theorem not_poolWorks_256 :
    ¬ PoolWorks (new (Java.Builder.new.setFramePoolSize 256).build
        (nativeFrameParams Java.Builder.new.build) .usbtvCompositeInput 0 0).framePoolSize := by
  intro h
  obtain ⟨entries, hentries, -⟩ := h.allocates { firstDriver with framePoolSize := 256 } rfl rfl
  have hnever : entriesFilled 256 = none := forLoop_lt_eq_none (by decide) le_rfl _
  exact absurd (hnever.symm.trans hentries) (by simp)

end UsbTvDriver

end UsbTv
