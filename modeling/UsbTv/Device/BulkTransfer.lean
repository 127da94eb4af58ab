import Mathlib.Data.List.Basic
import Mathlib.Data.Nat.Find
import UsbTv.Definitions

set_option relaxedAutoImplicit false
set_option autoImplicit false

/-!
# Synchronous bulk transfers

`AndroidUsbDevice::bulkRead` and `bulkWrite`: a buffer goes to or comes from an endpoint in chunks
that usbfs can take. What `USBDEVFS_BULK` returns is an answer of the environment. For a read it is
numbered by the chunk and the attempt at it, and a failed one leaves the buffer alone; for a write
it is numbered by the request.

## Main definitions

* `UsbTv.BulkAnswers` — the answers to the requests of a read.
* `UsbTv.bulkRead`, `UsbTv.bulkWrite` — the two calls.
* `UsbTv.BulkAnswers.Reads` — what is asked of a read.
* `UsbTv.Sends` — what is asked of a write.

## Main results

* `UsbTv.BulkAnswers.reads_iff` — when a read reports what it has read.
* `UsbTv.sends` — a write sends the buffer once and in order.
-/

namespace UsbTv

/-- `MAX_USBFS_BULK_SIZE`. -/
def maxUsbfsBulkSize : ℕ := 16384

/-- `MAX_USBFS_BULK_RETRIES`. -/
def maxUsbfsBulkRetries : ℕ := 5

/-- The size of the next transfer, when `length` bytes are left. -/
def xferSize (length : ℕ) : ℕ := if length > maxUsbfsBulkSize then maxUsbfsBulkSize else length

/-- The length of chunk `k` of a buffer. -/
def chunkSize (length k : ℕ) : ℕ := min maxUsbfsBulkSize (length - maxUsbfsBulkSize * k)

lemma xferSize_pos {length : ℕ} (h : 0 < length) : 0 < xferSize length := by
  unfold xferSize maxUsbfsBulkSize
  split_ifs <;> omega

/-- The next transfer, when the chunks before chunk `k` are done. -/
lemma xferSize_eq_chunkSize {length k : ℕ} :
    xferSize (length - maxUsbfsBulkSize * k) = chunkSize length k := by
  unfold xferSize chunkSize
  split_ifs <;> omega

/-! ## Reading -/

/-- What `USBDEVFS_BULK` brings at each attempt at each chunk of a buffer: some bytes, no more than
were asked for, or nothing if it fails. -/
structure BulkAnswers (length : ℕ) where
  result : ℕ → ℕ → Option (List UInt8)
  le : ∀ k attempt bytes, result k attempt = some bytes → bytes.length ≤ chunkSize length k

/-- The attempts at one chunk, from number `retry` on, and what the last one has brought, unless
there were too many. The number of attempts is tested before the result. -/
def readChunk (result : ℕ → Option (List UInt8)) (retry : ℕ) :
    List (Option (List UInt8)) × Option (List UInt8) :=
  let ret := result retry
  if retry + 1 > maxUsbfsBulkRetries then ([ret], none)
  else
    match ret with
    | some bytes => ([ret], some bytes)
    | none =>
      let rest := readChunk result (retry + 1)
      (ret :: rest.1, rest.2)
termination_by maxUsbfsBulkRetries - retry

/-- What has become of a read: what it returns, its attempts, and where the kernel has put how many
bytes. -/
structure BulkRead where
  ret : ℤ
  attempts : List (Option (List UInt8))
  transfers : List (ℕ × List UInt8)
  deriving DecidableEq, Repr

/-- The kernel puts the bytes of each attempt that succeeds at the same place. -/
def placed (outBuf : ℕ) (attempts : List (Option (List UInt8))) : List (ℕ × List UInt8) :=
  attempts.filterMap fun ret => ret.map fun bytes => (outBuf, bytes)

/-- The loop of `bulkRead`, from chunk `k` on. -/
def readLoop (result : ℕ → ℕ → Option (List UInt8)) (k length count outBuf : ℕ) : BulkRead :=
  if length > 0 then
    let chunk := readChunk (result k) 0
    match chunk.2 with
    | none => ⟨-1, chunk.1, placed outBuf chunk.1⟩
    | some bytes =>
      if bytes.length < xferSize length then
        ⟨cInt ((count + bytes.length) % 2 ^ 32), chunk.1, placed outBuf chunk.1⟩
      else
        let rest := readLoop result (k + 1) (length - bytes.length)
          ((count + bytes.length) % 2 ^ 32) (outBuf + bytes.length)
        ⟨rest.ret, chunk.1 ++ rest.attempts, placed outBuf chunk.1 ++ rest.transfers⟩
  else ⟨cInt count, [], []⟩
termination_by length
decreasing_by
  have hpos : 0 < xferSize length := xferSize_pos (by assumption)
  omega

/-- `bulkRead` into a buffer that is not null. -/
def bulkRead {length : ℕ} (answers : BulkAnswers length) : BulkRead :=
  readLoop answers.result 0 length 0 0

/-- Chunk `k` is read in full, at one of the first five attempts. -/
def FullyRead (result : ℕ → ℕ → Option (List UInt8)) (k : ℕ) : Prop :=
  ∃ attempt < maxUsbfsBulkRetries, (∀ a < attempt, result k a = none) ∧
    ∃ bytes, result k attempt = some bytes ∧ bytes.length = maxUsbfsBulkSize

/-- The first five attempts at chunk `k` fail. -/
def Exhausted (result : ℕ → ℕ → Option (List UInt8)) (k : ℕ) : Prop :=
  ∀ attempt < maxUsbfsBulkRetries, result k attempt = none

/-- A read that starts with chunk `k` comes to chunk `j`. -/
def Comes (result : ℕ → ℕ → Option (List UInt8)) (length k j : ℕ) : Prop :=
  k ≤ j ∧ maxUsbfsBulkSize * j < length ∧ ∀ i, k ≤ i → i < j → FullyRead result i

/-- Transfers that lie one behind the other, from `start` on. -/
def Contiguous : ℕ → List (ℕ × List UInt8) → Prop
  | _, [] => True
  | start, t :: ts => t.1 = start ∧ Contiguous (start + t.2.length) ts

/-- The bytes of some transfers. -/
def transferred (ts : List (ℕ × List UInt8)) : ℕ := (ts.map fun t => t.2.length).sum

@[simp] lemma transferred_cons (t : ℕ × List UInt8) (ts : List (ℕ × List UInt8)) :
    transferred (t :: ts) = t.2.length + transferred ts := rfl

/-! ### The attempts at one chunk -/

/-- Failed attempts are repeated. -/
lemma readChunk_skip {result : ℕ → Option (List UInt8)} {a : ℕ} (ha : a ≤ maxUsbfsBulkRetries)
    (hfail : ∀ b < a, result b = none) :
    readChunk result 0 = (List.replicate a none ++ (readChunk result a).1,
      (readChunk result a).2) := by
  induction a with
  | zero => simp
  | succ a ih =>
    have hlast : ¬ a + 1 > maxUsbfsBulkRetries := by omega
    rw [ih (by omega) fun b hb => hfail b (by omega), readChunk, if_neg hlast,
      hfail a (by omega), List.replicate_succ']
    simp

/-- The sixth attempt counts for nothing. -/
lemma readChunk_exhausted {result : ℕ → Option (List UInt8)}
    (hfail : ∀ a < maxUsbfsBulkRetries, result a = none) :
    readChunk result 0 = (List.replicate maxUsbfsBulkRetries none ++
      [result maxUsbfsBulkRetries], none) := by
  rw [readChunk_skip le_rfl hfail, readChunk, if_pos (by omega)]

/-- The first attempt that succeeds is the last. -/
lemma readChunk_received {result : ℕ → Option (List UInt8)} {a : ℕ} {bytes : List UInt8}
    (ha : a < maxUsbfsBulkRetries) (hfail : ∀ b < a, result b = none)
    (hret : result a = some bytes) :
    readChunk result 0 = (List.replicate a none ++ [some bytes], some bytes) := by
  rw [readChunk_skip ha.le hfail, readChunk, if_neg (by omega), hret]

/-- The two ways a chunk can go. -/
lemma exhausted_or_received (result : ℕ → Option (List UInt8)) :
    (∀ a < maxUsbfsBulkRetries, result a = none) ∨
      ∃ a < maxUsbfsBulkRetries, (∀ b < a, result b = none) ∧ ∃ bytes, result a = some bytes := by
  by_cases h : ∃ a, a < maxUsbfsBulkRetries ∧ result a ≠ none
  · right
    obtain ⟨ha, hret⟩ := Nat.find_spec h
    refine ⟨Nat.find h, ha, fun b hb => ?_, Option.ne_none_iff_exists'.mp hret⟩
    by_contra hb'
    exact Nat.find_min h hb ⟨hb.trans ha, hb'⟩
  · left
    intro a ha
    by_contra hret
    exact h ⟨a, ha, hret⟩

lemma placed_append (outBuf : ℕ) (as bs : List (Option (List UInt8))) :
    placed outBuf (as ++ bs) = placed outBuf as ++ placed outBuf bs := List.filterMap_append

@[simp] lemma placed_replicate_none (outBuf n : ℕ) :
    placed outBuf (List.replicate n none) = [] := by
  simp [placed]

@[simp] lemma placed_some (outBuf : ℕ) (bytes : List UInt8) :
    placed outBuf [some bytes] = [(outBuf, bytes)] := rfl

/-! ### The loop -/

/-- What has become of a read that starts with chunk `k`, when `done` bytes have been read. -/
structure ReadFrom (result : ℕ → ℕ → Option (List UInt8)) (length k : ℕ) (r : BulkRead) :
    Prop where
  contiguous : Contiguous (maxUsbfsBulkSize * k) r.transfers
  inside : maxUsbfsBulkSize * k + transferred r.transfers ≤ length
  /-- It returns the number of bytes, or -1 where a chunk is exhausted. -/
  ret : (r.ret = (maxUsbfsBulkSize * k + transferred r.transfers : ℕ) ∧
      (∀ j, Comes result length k j → ¬ Exhausted result j) ∧
      (r.attempts = [] ∨ ∃ bytes, some bytes ∈ r.attempts)) ∨
    r.ret = -1 ∧ ∃ j, Comes result length k j ∧ Exhausted result j ∧
      ((∃ bytes, some bytes ∈ r.attempts) ↔ k < j ∨ result k maxUsbfsBulkRetries ≠ none) ∧
      r.attempts ≠ []

variable {result : ℕ → ℕ → Option (List UInt8)} {length k : ℕ}

/-- What is read first is not exhausted. -/
lemma not_exhausted {a : ℕ} {bytes : List UInt8} (ha : a < maxUsbfsBulkRetries)
    (hret : result k a = some bytes) : ¬ Exhausted result k := by
  intro h
  rw [h a ha] at hret
  cases hret

/-- A chunk is read in full if the first attempt that succeeds brings all of it. -/
lemma fullyRead_iff {a : ℕ} {bytes : List UInt8} (ha : a < maxUsbfsBulkRetries)
    (hfail : ∀ b < a, result k b = none) (hret : result k a = some bytes) :
    FullyRead result k ↔ bytes.length = maxUsbfsBulkSize := by
  constructor
  · rintro ⟨a', -, hfail', bytes', hret', hfull⟩
    have haa : a' = a := by
      rcases lt_trichotomy a' a with hlt | heq | hlt
      · rw [hfail a' hlt] at hret'
        cases hret'
      · exact heq
      · rw [hfail' a hlt] at hret
        cases hret
    subst haa
    rw [hret, Option.some_inj] at hret'
    rw [hret', hfull]
  · exact fun hfull => ⟨a, ha, hfail, bytes, hret, hfull⟩

/-- A read comes to no more than one exhausted chunk. -/
lemma comes_unique {i j : ℕ} (hi : Comes result length k i) (hj : Comes result length k j)
    (hi' : Exhausted result i) (hj' : Exhausted result j) : i = j := by
  have hread : ∀ {i}, FullyRead result i → ¬ Exhausted result i := by
    rintro i ⟨a, ha, -, bytes, hret, -⟩
    exact not_exhausted ha hret
  rcases lt_trichotomy i j with hlt | heq | hlt
  · exact absurd hi' (hread (hj.2.2 i hi.1 hlt))
  · exact heq
  · exact absurd hj' (hread (hi.2.2 j hj.1 hlt))

/-- An exhausted chunk ends the read. -/
lemma ReadFrom.exhausted (hk : maxUsbfsBulkSize * k < length) (hexhausted : Exhausted result k)
    (hle : ∀ bytes, result k maxUsbfsBulkRetries = some bytes →
      maxUsbfsBulkSize * k + bytes.length ≤ length) :
    ReadFrom result length k ⟨-1, List.replicate maxUsbfsBulkRetries none ++
        [result k maxUsbfsBulkRetries],
      placed (maxUsbfsBulkSize * k) (List.replicate maxUsbfsBulkRetries none ++
        [result k maxUsbfsBulkRetries])⟩ := by
  have hcomes : Comes result length k k := ⟨le_rfl, hk, fun i hi hlt => by omega⟩
  rw [placed_append, placed_replicate_none, List.nil_append]
  cases hlast : result k maxUsbfsBulkRetries with
  | none =>
    refine ⟨trivial, hk.le, .inr ⟨rfl, k, hcomes, hexhausted, ?_, by simp⟩⟩
    simp [hlast]
  | some bytes =>
    refine ⟨⟨rfl, trivial⟩, hle bytes hlast, .inr ⟨rfl, k, hcomes, hexhausted, ?_, by simp⟩⟩
    simp [hlast]

/-- A chunk that is not read in full ends the read. -/
lemma ReadFrom.last {a : ℕ} {bytes : List UInt8} (ha : a < maxUsbfsBulkRetries)
    (hfail : ∀ b < a, result k b = none) (hret : result k a = some bytes)
    (hshort : bytes.length < maxUsbfsBulkSize)
    (hle : maxUsbfsBulkSize * k + bytes.length ≤ length) :
    ReadFrom result length k ⟨(maxUsbfsBulkSize * k + bytes.length : ℕ),
      List.replicate a none ++ [some bytes], [(maxUsbfsBulkSize * k, bytes)]⟩ := by
  refine ⟨⟨rfl, trivial⟩, hle, .inl ⟨rfl, fun j hj => ?_, .inr ⟨bytes, by simp⟩⟩⟩
  obtain ⟨hkj, -, hfull⟩ := hj
  rcases hkj.eq_or_lt with rfl | hlt
  · exact not_exhausted ha hret
  · have := (fullyRead_iff ha hfail hret).mp (hfull k le_rfl hlt)
    omega

/-- A chunk that is read in full comes before the others. -/
lemma ReadFrom.cons {a : ℕ} {bytes : List UInt8} {r : BulkRead}
    (h : ReadFrom result length (k + 1) r) (ha : a < maxUsbfsBulkRetries)
    (hfail : ∀ b < a, result k b = none) (hret : result k a = some bytes)
    (hfull : bytes.length = maxUsbfsBulkSize) :
    ReadFrom result length k ⟨r.ret, List.replicate a none ++ [some bytes] ++ r.attempts,
      (maxUsbfsBulkSize * k, bytes) :: r.transfers⟩ := by
  have hread : FullyRead result k := (fullyRead_iff ha hfail hret).mpr hfull
  have hnext : maxUsbfsBulkSize * (k + 1) = maxUsbfsBulkSize * k + bytes.length := by
    rw [hfull, Nat.mul_add_one]
  have hcomes : ∀ j, k < j → (Comes result length k j ↔ Comes result length (k + 1) j) := by
    intro j hj
    constructor
    · exact fun ⟨_, hlt, hi⟩ => ⟨hj, hlt, fun i hki hij => hi i (by omega) hij⟩
    · rintro ⟨-, hlt, hi⟩
      refine ⟨hj.le, hlt, fun i hki hij => ?_⟩
      rcases hki.eq_or_lt with rfl | hki
      · exact hread
      · exact hi i hki hij
  have hbytes : ∃ b, some b ∈ List.replicate a none ++ [some bytes] ++ r.attempts :=
    ⟨bytes, by simp⟩
  refine ⟨⟨rfl, hnext ▸ h.contiguous⟩, ?_, ?_⟩
  · have hin := h.inside
    rw [hnext] at hin
    show maxUsbfsBulkSize * k + (bytes.length + transferred r.transfers) ≤ length
    omega
  · rcases h.ret with ⟨hok, hnone, -⟩ | ⟨herr, j, hj, hexhausted, -, -⟩
    · left
      refine ⟨?_, fun j hj => ?_, .inr hbytes⟩
      · rw [hok, hnext, transferred_cons, Nat.add_assoc]
      · rcases hj.1.eq_or_lt with rfl | hlt
        · exact not_exhausted ha hret
        · exact hnone j ((hcomes j hlt).mp hj)
    · right
      have hlt : k < j := hj.1
      exact ⟨herr, j, (hcomes j hlt).mpr hj, hexhausted, iff_of_true hbytes (.inl hlt), by simp⟩

/-- With nothing left, the loop ends. -/
lemma readLoop_zero (result : ℕ → ℕ → Option (List UInt8)) (k count outBuf : ℕ) :
    readLoop result k 0 count outBuf = ⟨cInt count, [], []⟩ := by
  rw [readLoop, if_neg (lt_irrefl 0)]

/-- **The loop of `bulkRead`**.

**Proof sketch.** Induction on what is left. At an exhausted chunk the loop returns -1. A chunk that
is received in part, or up to the end of the buffer, is the last. After a full chunk the loop is in
the same situation one chunk later. -/
lemma readFrom (hlength : length < 2 ^ 31) (answers : BulkAnswers length)
    (hk : maxUsbfsBulkSize * k ≤ length) :
    ReadFrom answers.result length k (readLoop answers.result k (length - maxUsbfsBulkSize * k)
      (maxUsbfsBulkSize * k) (maxUsbfsBulkSize * k)) := by
  obtain ⟨left, hleft⟩ : ∃ left, length - maxUsbfsBulkSize * k = left := ⟨_, rfl⟩
  induction left using Nat.strong_induction_on generalizing k with
  | _ left ih =>
    have hle : ∀ attempt bytes, answers.result k attempt = some bytes →
        bytes.length ≤ maxUsbfsBulkSize ∧ maxUsbfsBulkSize * k + bytes.length ≤ length := by
      intro attempt bytes hret
      have hchunk := answers.le k attempt bytes hret
      unfold chunkSize at hchunk
      omega
    by_cases hpos : length - maxUsbfsBulkSize * k > 0
    · rw [readLoop, if_pos hpos, xferSize_eq_chunkSize]
      rcases exhausted_or_received (answers.result k) with hfail | ⟨a, ha, hfail, bytes, hret⟩
      · rw [readChunk_exhausted hfail]
        exact ReadFrom.exhausted (by omega) hfail fun bytes hret => (hle _ bytes hret).2
      · obtain ⟨hmax, hin⟩ := hle a bytes hret
        have hcount : (maxUsbfsBulkSize * k + bytes.length) % 2 ^ 32 =
            maxUsbfsBulkSize * k + bytes.length := Nat.mod_eq_of_lt (by omega)
        have hint : cInt (maxUsbfsBulkSize * k + bytes.length) =
            (maxUsbfsBulkSize * k + bytes.length : ℕ) := cInt_of_lt (by omega)
        rw [readChunk_received ha hfail hret]
        simp only [placed_append, placed_replicate_none, List.nil_append, placed_some, hcount]
        by_cases hfull : bytes.length = maxUsbfsBulkSize
        · have hnext : maxUsbfsBulkSize * (k + 1) = maxUsbfsBulkSize * k + bytes.length := by
            rw [hfull, Nat.mul_add_one]
          have hrest : length - maxUsbfsBulkSize * k - bytes.length =
              length - maxUsbfsBulkSize * (k + 1) := by omega
          have hchunk : ¬ bytes.length < chunkSize length k := by
            unfold chunkSize
            omega
          rw [if_neg hchunk, hrest, ← hnext, List.singleton_append]
          have hless : length - maxUsbfsBulkSize * (k + 1) < left := by
            have : 0 < maxUsbfsBulkSize := by decide
            omega
          exact ReadFrom.cons (ih _ hless (by omega) rfl) ha hfail hret hfull
        · have hlast := ReadFrom.last ha hfail hret (by omega) hin
          rw [← hint] at hlast
          split_ifs with hchunk
          · exact hlast
          · -- the chunk reaches the end of the buffer
            have hend : length - maxUsbfsBulkSize * k - bytes.length = 0 := by
              unfold chunkSize at hchunk
              omega
            rw [hend, readLoop_zero]
            simpa using hlast
    · have hend : length - maxUsbfsBulkSize * k = 0 := by omega
      rw [hend, readLoop_zero, cInt_of_lt (by omega)]
      refine ⟨trivial, hk, .inl ⟨rfl, fun j hj => ?_, .inl rfl⟩⟩
      obtain ⟨hkj, hlt, -⟩ := hj
      have := Nat.mul_le_mul_left maxUsbfsBulkSize hkj
      omega

/-! ### What a read reports -/

namespace BulkAnswers

variable {length : ℕ} (answers : BulkAnswers length)

/-- What is asked of a read: the bytes land one behind the other from the start of the buffer and
stay in it, and it returns how many they are, or -1 if it has made attempts and all of them
failed. -/
structure Reads : Prop where
  contiguous : Contiguous 0 (bulkRead answers).transfers
  inside : transferred (bulkRead answers).transfers ≤ length
  ret : ((bulkRead answers).attempts = [] ∨ ∃ bytes, some bytes ∈ (bulkRead answers).attempts) →
    (bulkRead answers).ret = transferred (bulkRead answers).transfers
  failed : (bulkRead answers).ret = -1 →
    (bulkRead answers).attempts ≠ [] ∧ ∀ a ∈ (bulkRead answers).attempts, a = none

/-- Where the first five attempts at a chunk fail, it is the first chunk, and the sixth attempt
fails too. -/
def RetriesSuffice : Prop :=
  ∀ k, Comes answers.result length 0 k → Exhausted answers.result k →
    k = 0 ∧ answers.result 0 maxUsbfsBulkRetries = none

/-- The loop of a read starts with its first chunk. -/
lemma bulkRead_readFrom (hlength : length < 2 ^ 31) :
    ReadFrom answers.result length 0 (bulkRead answers) := by
  have h := readFrom hlength answers (k := 0) (Nat.zero_le _)
  rwa [Nat.mul_zero, Nat.sub_zero] at h

variable {answers} in
/-- A read that reports what it has read has not come to a chunk where it gives up too early. -/
lemma Reads.retriesSuffice (h : answers.Reads) (hlength : length < 2 ^ 31) :
    answers.RetriesSuffice := by
  intro k hk hexhausted
  rcases (answers.bulkRead_readFrom hlength).ret with
    ⟨-, hnone, -⟩ | ⟨herr, j, hj, hexhausted', hbytes, -⟩
  · exact absurd hexhausted (hnone k hk)
  · obtain rfl := comes_unique hk hj hexhausted hexhausted'
    have hall := (h.failed herr).2
    have hnone : ¬ ∃ bytes, some bytes ∈ (bulkRead answers).attempts :=
      fun ⟨bytes, hmem⟩ => absurd (hall _ hmem) (by simp)
    rw [hbytes, not_or, not_not] at hnone
    exact ⟨Nat.eq_zero_of_not_pos hnone.1, hnone.2⟩

/-- **When a read reports what it has read**: exactly if no chunk behind the first has five failed
attempts, and the sixth attempt at the first chunk does not succeed. At such a chunk the number of
attempts is tested before the result, and -1 is returned whatever was read. -/
theorem reads_iff (hlength : length < 2 ^ 31) : answers.Reads ↔ answers.RetriesSuffice := by
  refine ⟨fun h => h.retriesSuffice hlength, fun hsuffice => ?_⟩
  have h := answers.bulkRead_readFrom hlength
  have hcontiguous : Contiguous 0 (bulkRead answers).transfers := by simpa using h.contiguous
  have hinside : transferred (bulkRead answers).transfers ≤ length := by simpa using h.inside
  rcases h.ret with ⟨hok, -, -⟩ | ⟨-, j, hj, hexhausted, hbytes, hne⟩
  · rw [Nat.mul_zero, Nat.zero_add] at hok
    exact ⟨hcontiguous, hinside, fun _ => hok, fun herr => by omega⟩
  · obtain ⟨rfl, hlast⟩ := hsuffice j hj hexhausted
    have hnone : ¬ ∃ bytes, some bytes ∈ (bulkRead answers).attempts := by
      rw [hbytes, not_or, not_not]
      exact ⟨lt_irrefl 0, hlast⟩
    refine ⟨hcontiguous, hinside, fun hsome => absurd hsome (not_or.mpr ⟨hne, hnone⟩),
      fun _ => ⟨hne, fun a ha => ?_⟩⟩
    by_contra hsome
    obtain ⟨bytes, rfl⟩ := Option.ne_none_iff_exists'.mp hsome
    exact hnone ⟨bytes, ha⟩

/-- Chunk `k` arrives in full after `3 - k` failed attempts. -/
def arrivesLate (length : ℕ) : BulkAnswers length where
  result k attempt :=
    if attempt < 3 - k then none else some (List.replicate (chunkSize length k) 0)
  le k attempt bytes h := by
    split_ifs at h
    obtain rfl := Option.some_inj.mp h
    rw [List.length_replicate]

/-- A read of three chunks, of which the first two need more than one attempt. -/
theorem reads_iff_arrivesLate :
    ((arrivesLate 40000).Reads ↔ (arrivesLate 40000).RetriesSuffice) ∧
      (arrivesLate 40000).RetriesSuffice := by
  refine ⟨reads_iff (arrivesLate 40000) (by decide), fun k _ hexhausted => ?_⟩
  have hlast : (arrivesLate 40000).result k 4 = none := hexhausted 4 (by decide)
  dsimp only [arrivesLate] at hlast
  rw [if_neg (by omega)] at hlast
  cases hlast

/-- The first chunk arrives at once, and nothing after it. -/
def firstArrives (length : ℕ) : BulkAnswers length where
  result k _ := if k = 0 then some (List.replicate (chunkSize length 0) 0) else none
  le k attempt bytes h := by
    split_ifs at h with hk
    obtain rfl := Option.some_inj.mp h
    rw [hk, List.length_replicate]

/-- The first of two chunks arrives, every attempt at the second fails, and -1 is returned. -/
theorem not_reads_secondFails : ¬ (firstArrives (2 * maxUsbfsBulkSize)).Reads := by
  intro h
  have hread : FullyRead (firstArrives (2 * maxUsbfsBulkSize)).result 0 :=
    ⟨0, by decide, fun a ha => by omega, _, rfl, by rw [List.length_replicate]; decide⟩
  have hcomes : Comes (firstArrives (2 * maxUsbfsBulkSize)).result (2 * maxUsbfsBulkSize) 0 1 := by
    refine ⟨by decide, by decide, fun i _ hi => ?_⟩
    obtain rfl : i = 0 := by omega
    exact hread
  obtain ⟨hzero, -⟩ := h.retriesSuffice (by decide) 1 hcomes fun a _ => rfl
  exact absurd hzero (by decide)

end BulkAnswers

/-! ## Writing -/

/-- What has become of a write: what it returns, and its requests, each with the pointer to its
bytes and their number. -/
structure BulkWrite where
  ret : ℤ
  requests : List (Option ℕ × ℕ)
  deriving DecidableEq, Repr

/-- A request that comes before the others. -/
def BulkWrite.after (rest : BulkWrite) (request : Option ℕ × ℕ) : BulkWrite :=
  ⟨rest.ret, request :: rest.requests⟩

@[simp] lemma BulkWrite.after_ret (rest : BulkWrite) (request : Option ℕ × ℕ) :
    (rest.after request).ret = rest.ret := rfl

@[simp] lemma BulkWrite.after_requests (rest : BulkWrite) (request : Option ℕ × ℕ) :
    (rest.after request).requests = request :: rest.requests := rfl

/-- The loop of `bulkWrite`, from request `n` on. -/
def writeLoop (result : ℕ → ℤ) (n length count outBuf : ℕ) : BulkWrite :=
  if length > 0 then
    if result n ≠ xferSize length then ⟨-1, [(some outBuf, xferSize length)]⟩
    else
      (writeLoop result (n + 1) (length - xferSize length)
        ((count + xferSize length) % 2 ^ 32) (outBuf + xferSize length)).after
          (some outBuf, xferSize length)
  else ⟨cInt count, []⟩
termination_by length
decreasing_by
  have hpos : 0 < xferSize length := xferSize_pos (by assumption)
  omega

/-- `bulkWrite`. A zero length packet is sent without a look at the pointer. -/
def bulkWrite (result : ℕ → ℤ) (length : ℕ) (data : Option ℕ) : BulkWrite :=
  if length = 0 then ⟨if result 0 = 0 then 0 else -1, [(data, length)]⟩
  else
    match data with
    | none => ⟨-1, []⟩
    | some outBuf => writeLoop result 0 length 0 outBuf

/-- The number of chunks of a buffer. -/
def chunkCount (length : ℕ) : ℕ := (length + maxUsbfsBulkSize - 1) / maxUsbfsBulkSize

/-- The chunks of a buffer: the pointer to each, and its length. -/
def chunks (length : ℕ) (data : Option ℕ) : List (Option ℕ × ℕ) :=
  if length = 0 then [(data, 0)]
  else
    match data with
    | none => []
    | some outBuf => (List.range (chunkCount length)).map fun k =>
        (some (outBuf + maxUsbfsBulkSize * k), chunkSize length k)

/-- The bytes of some requests, by their addresses. -/
def sentBytes (requests : List (Option ℕ × ℕ)) : List ℕ :=
  requests.flatMap fun r => List.range' (r.1.getD 0) r.2

/-- What is asked of a write: its requests are the chunks in order up to the first that is not sent
in full, and it returns the length if all of them are sent in full. -/
structure Sends (result : ℕ → ℤ) (length : ℕ) (data : Option ℕ) : Prop where
  inOrder : (bulkWrite result length data).requests <+: chunks length data
  stops : ∀ k < (chunks length data).length,
    (k < (bulkWrite result length data).requests.length ↔
      ∀ j < k, result j = chunkSize length j)
  ret : (bulkWrite result length data).ret =
    if (data ≠ none ∨ length = 0) ∧
      ∀ j < (bulkWrite result length data).requests.length, result j = chunkSize length j
    then (length : ℤ) else -1
  once : (bulkWrite result length data).ret = length →
    sentBytes (bulkWrite result length data).requests = List.range' (data.getD 0) length

/-- The bytes up to chunk `k + 1` are those up to chunk `k` and those of chunk `k`. -/
lemma min_add_chunkSize (length k : ℕ) :
    min (maxUsbfsBulkSize * k) length + chunkSize length k =
      min (maxUsbfsBulkSize * (k + 1)) length := by
  rw [chunkSize, Nat.mul_add_one]
  omega

/-- The chunks reach the end of the buffer, and none of them lies behind it. -/
lemma chunkCount_spec (length : ℕ) : length ≤ maxUsbfsBulkSize * chunkCount length ∧
    maxUsbfsBulkSize * chunkCount length < length + maxUsbfsBulkSize := by
  unfold chunkCount maxUsbfsBulkSize
  omega

/-- The chunks of a buffer start inside it. -/
lemma lt_of_lt_chunkCount {length k : ℕ} (hk : k < chunkCount length) :
    maxUsbfsBulkSize * k < length := by
  have hcount := (chunkCount_spec length).2
  have hle := Nat.mul_le_mul_left maxUsbfsBulkSize (Nat.succ_le_of_lt hk)
  rw [Nat.mul_succ] at hle
  omega

/-- The chunks of a buffer lie one behind the other and make up the buffer. -/
lemma sentBytes_chunks (outBuf length m : ℕ) :
    sentBytes ((List.range m).map fun k =>
        (some (outBuf + maxUsbfsBulkSize * k), chunkSize length k)) =
      List.range' outBuf (min (maxUsbfsBulkSize * m) length) := by
  induction m with
  | zero => simp [sentBytes]
  | succ m ih =>
    unfold sentBytes at ih ⊢
    rw [List.range_succ, List.map_append, List.flatMap_append, ih, ← min_add_chunkSize]
    by_cases hm : maxUsbfsBulkSize * m ≤ length
    · rw [min_eq_left hm, ← List.range'_append_1]
      simp
    · have hnone : chunkSize length m = 0 := by
        unfold chunkSize
        omega
      simp [hnone]

/-- With nothing left, the loop ends. -/
lemma writeLoop_zero (result : ℕ → ℤ) (n count outBuf : ℕ) :
    writeLoop result n 0 count outBuf = ⟨cInt count, []⟩ := by
  rw [writeLoop, if_neg (lt_irrefl 0)]

/-- The loop of `bulkWrite` when the chunks before chunk `n` have been sent. -/
def writeFrom (result : ℕ → ℤ) (length outBuf n : ℕ) : BulkWrite :=
  writeLoop result n (length - maxUsbfsBulkSize * n) (min (maxUsbfsBulkSize * n) length)
    (outBuf + min (maxUsbfsBulkSize * n) length)

variable (result : ℕ → ℤ) {length : ℕ} (outBuf : ℕ) {n : ℕ}

lemma writeFrom_zero : writeFrom result length outBuf 0 = writeLoop result 0 length 0 outBuf := by
  rw [writeFrom, Nat.mul_zero, Nat.zero_min, Nat.sub_zero, Nat.add_zero]

/-- When all chunks have been sent, the loop returns the length. -/
lemma writeFrom_done (hlength : length < 2 ^ 31) (hn : chunkCount length ≤ n) :
    writeFrom result length outBuf n = ⟨length, []⟩ := by
  have hend : length ≤ maxUsbfsBulkSize * n :=
    (chunkCount_spec length).1.trans (Nat.mul_le_mul_left _ hn)
  rw [writeFrom, Nat.sub_eq_zero_of_le hend, writeLoop_zero, min_eq_right hend,
    cInt_of_lt hlength]

/-- A chunk that is not sent in full is the last request. -/
lemma writeFrom_short (hn : n < chunkCount length) (hshort : result n ≠ chunkSize length n) :
    writeFrom result length outBuf n =
      ⟨-1, [(some (outBuf + maxUsbfsBulkSize * n), chunkSize length n)]⟩ := by
  have hstart := lt_of_lt_chunkCount hn
  rw [writeFrom, writeLoop, if_pos (by omega), xferSize_eq_chunkSize, min_eq_left hstart.le,
    if_pos hshort]

/-- After a chunk that is sent in full comes the next one. -/
lemma writeFrom_full (hlength : length < 2 ^ 31) (hn : n < chunkCount length)
    (hfull : result n = chunkSize length n) :
    writeFrom result length outBuf n =
      (writeFrom result length outBuf (n + 1)).after
        (some (outBuf + maxUsbfsBulkSize * n), chunkSize length n) := by
  have hstart := lt_of_lt_chunkCount hn
  have hnext := min_add_chunkSize length n
  rw [min_eq_left hstart.le] at hnext
  have hcount : (maxUsbfsBulkSize * n + chunkSize length n) % 2 ^ 32 =
      maxUsbfsBulkSize * n + chunkSize length n := Nat.mod_eq_of_lt (by omega)
  have hleft : length - maxUsbfsBulkSize * n - chunkSize length n =
      length - maxUsbfsBulkSize * (n + 1) := by
    rw [chunkSize, Nat.mul_add_one]
    omega
  rw [writeFrom, writeLoop, if_pos (by omega), xferSize_eq_chunkSize, min_eq_left hstart.le,
    if_neg (not_not.mpr hfull), hcount, hleft, Nat.add_assoc, hnext, writeFrom]

/-- What has become of a write of the chunks from chunk `n` of `n + m` on. -/
structure SentFrom (result : ℕ → ℤ) (length outBuf n m : ℕ) (r : BulkWrite) : Prop where
  inOrder : r.requests <+: (List.range' n m).map fun k =>
    (some (outBuf + maxUsbfsBulkSize * k), chunkSize length k)
  stops : ∀ k < m,
    (k < r.requests.length ↔ ∀ j < k, result (n + j) = chunkSize length (n + j))
  ret : r.ret = if ∀ j < m, result (n + j) = chunkSize length (n + j) then (length : ℤ) else -1

/-- The chunks from chunk `n` on are sent in full if it is and those behind it are. -/
lemma forall_sent_succ (n k : ℕ) : (∀ j < k + 1, result (n + j) = chunkSize length (n + j)) ↔
    result n = chunkSize length n ∧
      ∀ j < k, result (n + 1 + j) = chunkSize length (n + 1 + j) := by
  rw [Nat.forall_lt_succ_left]
  simp only [Nat.add_zero, Nat.add_right_comm n 1, Nat.add_assoc]

/-- A chunk that is not sent in full ends the write. -/
lemma SentFrom.short (m : ℕ) (hshort : result n ≠ chunkSize length n) :
    SentFrom result length outBuf n (m + 1)
      ⟨-1, [(some (outBuf + maxUsbfsBulkSize * n), chunkSize length n)]⟩ := by
  refine ⟨?_, fun k hk => ?_, ?_⟩
  · rw [List.range'_succ, List.map_cons]
    exact List.cons_prefix_cons.mpr ⟨rfl, List.nil_prefix⟩
  · cases k with
    | zero => simp
    | succ k =>
      exact iff_of_false (by simp) fun h => hshort ((forall_sent_succ result n k).mp h).1
  · rw [if_neg fun h => hshort ((forall_sent_succ result n m).mp h).1]

variable {result outBuf} in
/-- A chunk that is sent in full comes before the others. -/
lemma SentFrom.after {m : ℕ} {r : BulkWrite} (h : SentFrom result length outBuf (n + 1) m r)
    (hfull : result n = chunkSize length n) :
    SentFrom result length outBuf n (m + 1)
      (r.after (some (outBuf + maxUsbfsBulkSize * n), chunkSize length n)) := by
  refine ⟨?_, fun k hk => ?_, ?_⟩
  · rw [List.range'_succ, List.map_cons]
    exact List.cons_prefix_cons.mpr ⟨rfl, h.inOrder⟩
  · cases k with
    | zero => simp
    | succ k =>
      rw [forall_sent_succ, and_iff_right hfull, BulkWrite.after_requests, List.length_cons,
        Nat.add_lt_add_iff_right]
      exact h.stops k (by omega)
  · simp only [BulkWrite.after_ret, h.ret, forall_sent_succ, and_iff_right hfull]

/-- **The loop of `bulkWrite`**, from chunk `n` of `n + m` on.

**Proof sketch.** Induction on the chunks that are left. A chunk that is not sent in full is the
last request; after one that is, the loop is in the same situation one chunk later. -/
lemma sentFrom (hlength : length < 2 ^ 31) {m : ℕ} (hm : chunkCount length = n + m) :
    SentFrom result length outBuf n m (writeFrom result length outBuf n) := by
  induction m generalizing n with
  | zero =>
    rw [writeFrom_done result outBuf hlength (by omega)]
    exact ⟨by simp, by simp, by simp⟩
  | succ m ih =>
    by_cases hfull : result n = chunkSize length n
    · rw [writeFrom_full result outBuf hlength (by omega) hfull]
      exact (ih (by omega)).after hfull
    · rw [writeFrom_short result outBuf (by omega) hfull]
      exact SentFrom.short result outBuf m hfull

/-- A write of no bytes. -/
lemma sends_zero (data : Option ℕ) : Sends result 0 data := by
  have hzero : ∀ j, chunkSize 0 j = 0 := fun j => by
    unfold chunkSize
    omega
  refine ⟨?_, fun k hk => ?_, ?_, fun _ => ?_⟩
  · simp [bulkWrite, chunks]
  · obtain rfl : k = 0 := by simpa [chunks] using hk
    simp [bulkWrite]
  · simp [bulkWrite, hzero]
  · simp [bulkWrite, sentBytes]

/-- A write from a null pointer. -/
lemma sends_null (hlength : 0 < length) : Sends result length none := by
  have hne : length ≠ 0 := hlength.ne'
  refine ⟨?_, ?_, ?_, fun hret => ?_⟩
  · simp [bulkWrite, chunks, hne]
  · simp [chunks, hne]
  · simp [bulkWrite, hne]
  · have hneg : (bulkWrite result length none).ret = -1 := by simp [bulkWrite, hne]
    omega

/-- **A write sends the buffer once and in order**, whatever `USBDEVFS_BULK` returns: its requests
are the chunks up to the first that is not sent in full, and it returns the length exactly if all
of them are.

**Proof sketch.** By induction on the chunks that are left, the requests are a prefix of the
chunks, and chunk `k` is asked for exactly if the earlier ones are sent in full. If all requests
were full, none is missing, and the chunks lie one behind the other in the buffer. -/
theorem sends (hlength : length < 2 ^ 31) (data : Option ℕ) : Sends result length data := by
  rcases Nat.eq_zero_or_pos length with rfl | hpos
  · exact sends_zero result data
  cases data with
  | none => exact sends_null result hpos
  | some outBuf =>
    have h := sentFrom result outBuf hlength (Nat.zero_add (chunkCount length)).symm
    have hwrite : bulkWrite result length (some outBuf) = writeFrom result length outBuf 0 := by
      rw [writeFrom_zero, bulkWrite, if_neg hpos.ne']
    have hchunks : chunks length (some outBuf) = (List.range (chunkCount length)).map fun k =>
        (some (outBuf + maxUsbfsBulkSize * k), chunkSize length k) := by
      rw [chunks, if_neg hpos.ne']
    have hlen : (chunks length (some outBuf)).length = chunkCount length := by simp [hchunks]
    rw [← hwrite] at h
    generalize hr : bulkWrite result length (some outBuf) = r at h
    obtain ⟨hfirst, hstops, hret⟩ := h
    simp only [Nat.zero_add] at hstops hret
    rw [← List.range_eq_range', ← hchunks] at hfirst
    -- if the requests made were all full, all chunks were asked for
    have hmade : (∀ j < r.requests.length, result j = chunkSize length j) →
        chunkCount length ≤ r.requests.length := by
      intro hfull
      by_contra hlt
      exact lt_irrefl _ ((hstops r.requests.length (not_le.mp hlt)).mpr hfull)
    have hall : (∀ j < chunkCount length, result j = chunkSize length j) ↔
        ∀ j < r.requests.length, result j = chunkSize length j := by
      have hle := hfirst.length_le
      rw [hlen] at hle
      exact ⟨fun hfull j hj => hfull j (hj.trans_le hle),
        fun hfull j hj => hfull j (hj.trans_le (hmade hfull))⟩
    refine ⟨?_, ?_, ?_, fun hsent => ?_⟩
    · rw [hr]
      exact hfirst
    · rw [hr, hlen]
      exact hstops
    · rw [hr, hret, if_congr hall rfl rfl]
      simp
    · rw [hr] at hsent ⊢
      have hfull : ∀ j < r.requests.length, result j = chunkSize length j := by
        by_contra hnot
        rw [hret, if_neg (mt hall.mp hnot)] at hsent
        omega
      rw [hfirst.eq_of_length_le (hlen.le.trans (hmade hfull)), hchunks, sentBytes_chunks,
        min_eq_right (chunkCount_spec length).1]
      rfl

/-- A write of twenty thousand bytes, of which the kernel takes what it is given. -/
theorem sends_twentyThousand :
    Sends (fun n => if n = 0 then 16384 else 3616) 20000 (some 0) :=
  sends _ (by decide) (some 0)

end UsbTv
