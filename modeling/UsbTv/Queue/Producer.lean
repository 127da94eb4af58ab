import Mathlib.Data.List.Induction
import UsbTv.Lib.Crew

set_option relaxedAutoImplicit false
set_option autoImplicit false

/-!
# The counters of a producer

`ImplicitProducer` of `concurrentqueue.h` keeps the elements of one thread in the order in which
it enqueued them. Any number of threads dequeue, without locks and without a compare-and-swap
loop: a consumer first takes a number from `dequeueOptimisticCount`, then finds out whether there
is an element for it. If not, it makes up for its number in `dequeueOvercommit`. If so, it takes an
index from `headIndex`, which need not be the number it took.

A consumer compares with values of `dequeueOvercommit` that may be out of date. That what it gets
from `headIndex` is below `tailIndex` all the same is the point of the counters.

The counters are natural numbers here; the code has them modulo `2 ^ w`, where `w` is the width of
`index_t`, and compares them with `circular_less_than`. That is right as long as the values
compared are less than half the range apart. Memory is sequentially consistent, and the blocks
that hold the elements have no part in this.

## Main definitions

* `UsbTv.circularLessThan` — the comparison of two indices.
* `UsbTv.ImplicitProducer`, `UsbTv.ImplicitProducer.move` — the counters, and the next move of a
  consumer.
* `UsbTv.producerCrew` — all interleavings.
* `UsbTv.ImplicitProducer.Compares` — the moves whose comparison is right.

## Main results

* `UsbTv.circularLessThan_iff` — when the comparison is right.
* `UsbTv.Attempt.Ranked.countP_le` — there are no more successes than elements.
* `UsbTv.ImplicitProducer.sound_of_reachable` — what the counters keep.
* `UsbTv.ImplicitProducer.Sound.head_add_le` — no consumer gets an index that has no element.
-/

namespace UsbTv

/-- `circular_less_than` for indices of `w` bits. -/
def circularLessThan (w a b : ℕ) : Bool := ((a : ℤ) - b) % 2 ^ w > 2 ^ (w - 1)

/-- The indices are less than half the range apart. -/
def Near (w a b : ℕ) : Prop := a < b + 2 ^ (w - 1) ∧ b < a + 2 ^ (w - 1)

instance (w a b : ℕ) : Decidable (Near w a b) := inferInstanceAs (Decidable (_ ∧ _))

/-- **The comparison is right** for indices that are less than half the range apart. -/
lemma circularLessThan_iff {w a b : ℕ} (hw : 0 < w) (h : Near w a b) :
    circularLessThan w a b = true ↔ a < b := by
  obtain ⟨w, rfl⟩ : ∃ k, w = k + 1 := ⟨w - 1, by omega⟩
  obtain ⟨hab, hba⟩ := h
  unfold circularLessThan
  rw [decide_eq_true_iff, Nat.add_sub_cancel, pow_succ]
  rw [Nat.add_sub_cancel] at hab hba
  have hcast : ((2 ^ w : ℕ) : ℤ) = 2 ^ w := Int.natCast_pow 2 w
  rw [← hcast]
  generalize 2 ^ w = half at *
  rcases Nat.lt_or_ge a b with hlt | hge
  · have hmod : ((a : ℤ) - b) % (half * 2) = a - b + half * 2 := by
      rw [← Int.add_emod_right]
      exact Int.emod_eq_of_lt (by omega) (by omega)
    rw [hmod]
    constructor <;> omega
  · have hmod : ((a : ℤ) - b) % (half * 2) = a - b :=
      Int.emod_eq_of_lt (by omega) (by omega)
    rw [hmod]
    constructor <;> omega

/-! ## State and moves -/

/-- What became of a number of `dequeueOptimisticCount`. -/
inductive Attempt (τ : Type*)
  /-- The thread that took it has not compared yet. -/
  | pending (t : τ)
  /-- There is an element for it. -/
  | success
  | failure
  deriving DecidableEq, Repr

/-- Whether a thread has still to compare. -/
def Attempt.isPending {τ : Type*} : Attempt τ → Bool
  | pending _ => true
  | success | failure => false

/-- Whether there is an element. -/
def Attempt.isSuccess {τ : Type*} : Attempt τ → Bool
  | success => true
  | pending _ | failure => false

/-- Whether there is none. -/
def Attempt.isFailure {τ : Type*} : Attempt τ → Bool
  | failure => true
  | pending _ | success => false

/-- `ImplicitProducer`: what was enqueued so far, and the counters. The attempts are on record. -/
structure ImplicitProducer (τ α : Type*) where
  elements : List α
  headIndex : ℕ
  dequeueOptimisticCount : ℕ
  dequeueOvercommit : ℕ
  /-- What became of the numbers of `dequeueOptimisticCount`. -/
  attempts : List (Attempt τ)

/-- Where a thread stands in `dequeue`. -/
inductive DequeuePc
  | out
  /-- At the first load of `tailIndex`. -/
  | loadTail
  /-- At the load of `dequeueOvercommit`. -/
  | loadOvercommit (tail : ℕ)
  /-- At the load of `dequeueOptimisticCount`, and the first comparison. -/
  | compare (tail overcommit : ℕ)
  /-- At `dequeueOptimisticCount.fetch_add`. -/
  | fetchOptimistic (overcommit : ℕ)
  /-- At the second load of `tailIndex`, and the second comparison. -/
  | recompare (overcommit myDequeueCount : ℕ)
  /-- At `headIndex.fetch_add`. -/
  | fetchHead
  /-- At `dequeueOvercommit.fetch_add`. -/
  | fetchOvercommit
  /-- The thread has got an index. -/
  | claimed (index : ℕ)
  /-- `dequeue` returns `false`. -/
  | failed
  deriving DecidableEq, Repr

/-- What can happen to a producer and its consumers. -/
inductive ProducerEvent (α : Type*)
  /-- An element is published: `tailIndex.store`. -/
  | enqueue (element : α)
  /-- `dequeue` is called. -/
  | call
  /-- The consumer goes on. -/
  | next
  | ret

namespace ImplicitProducer

variable {τ α : Type*}

/-- A producer without elements. -/
def new : ImplicitProducer τ α where
  elements := []
  headIndex := 0
  dequeueOptimisticCount := 0
  dequeueOvercommit := 0
  attempts := []

/-- `tailIndex`. -/
def tailIndex (p : ImplicitProducer τ α) : ℕ := p.elements.length

/-- The comparison of `myDequeueCount` settles an attempt. -/
def settle (p : ImplicitProducer τ α) (myDequeueCount : ℕ) (a : Attempt τ) :
    ImplicitProducer τ α :=
  { p with attempts := p.attempts.set myDequeueCount a }

/-- The next move of a thread in `dequeue`, with indices of `w` bits. -/
def dequeue (w : ℕ) (t : τ) (p : ImplicitProducer τ α) :
    DequeuePc → Option (ImplicitProducer τ α × DequeuePc)
  | .loadTail => some (p, .loadOvercommit p.tailIndex)
  | .loadOvercommit tail => some (p, .compare tail p.dequeueOvercommit)
  | .compare tail overcommit =>
    some (p, if circularLessThan w (p.dequeueOptimisticCount - overcommit) tail
      then .fetchOptimistic overcommit else .failed)
  | .fetchOptimistic overcommit =>
    some ({ p with
      dequeueOptimisticCount := p.dequeueOptimisticCount + 1
      attempts := p.attempts ++ [.pending t] }, .recompare overcommit p.dequeueOptimisticCount)
  | .recompare overcommit myDequeueCount =>
    if circularLessThan w (myDequeueCount - overcommit) p.tailIndex then
      some (p.settle myDequeueCount .success, .fetchHead)
    else some (p.settle myDequeueCount .failure, .fetchOvercommit)
  | .fetchHead => some ({ p with headIndex := p.headIndex + 1 }, .claimed p.headIndex)
  | .fetchOvercommit => some ({ p with dequeueOvercommit := p.dequeueOvercommit + 1 }, .failed)
  | .out | .claimed _ | .failed => none

/-- An element is published. -/
def enqueue (p : ImplicitProducer τ α) (element : α) : ImplicitProducer τ α :=
  { p with elements := p.elements ++ [element] }

/-- The next move of a thread. -/
def move (w : ℕ) (t : τ) (p : ImplicitProducer τ α) :
    DequeuePc → ProducerEvent α → Option (ImplicitProducer τ α × DequeuePc)
  | .out, .enqueue element => some (p.enqueue element, .out)
  | .out, .call => some (p, .loadTail)
  | .claimed _, .ret => some (p, .out)
  | .failed, .ret => some (p, .out)
  | pc, .next => p.dequeue w t pc
  | _, _ => none

/-- The comparisons of the next move are of indices that are less than half the range apart. -/
def Compares (w : ℕ) (p : ImplicitProducer τ α) : DequeuePc → Prop
  | .compare tail overcommit => Near w (p.dequeueOptimisticCount - overcommit) tail
  | .recompare overcommit myDequeueCount => Near w (myDequeueCount - overcommit) p.tailIndex
  | _ => True

end ImplicitProducer

instance {τ α : Type*} (w : ℕ) (p : ImplicitProducer τ α) :
    DecidablePred (p.Compares w) := fun pc =>
  match pc with
  | .compare _ _ | .recompare _ _ => inferInstanceAs (Decidable (Near _ _ _))
  | .out | .loadTail | .loadOvercommit _ | .fetchOptimistic _ | .fetchHead | .fetchOvercommit
  | .claimed _ | .failed => .isTrue trivial

/-- All interleavings of a producer and its consumers. -/
def producerCrew (τ α : Type*) [DecidableEq τ] (w : ℕ) :
    StepSystem (Crew (ImplicitProducer τ α) DequeuePc τ) (τ × ProducerEvent α) :=
  crew (fun c => c.shared = .new ∧ ∀ t, c.place t = .out) (ImplicitProducer.move w)

/-! ## The attempts -/

namespace Attempt

variable {τ : Type*}

/-- Settling an attempt changes the counts by what it was and what it is. -/
lemma countP_set {l : List (Attempt τ)} {m : ℕ} {a b : Attempt τ} (h : l[m]? = some a)
    (p : Attempt τ → Bool) :
    (l.set m b).countP p + (p a).toNat = l.countP p + (p b).toNat := by
  induction l generalizing m with
  | nil => cases h
  | cons x l ih =>
    cases m with
    | zero =>
      obtain rfl : x = a := by simpa using h
      simp only [List.set_cons_zero, List.countP_cons]
      cases p x <;> cases p b <;> simp
    | succ m =>
      have hset := ih (m := m) (by simpa using h)
      simp only [List.set_cons_succ, List.countP_cons]
      omega

/-- Every attempt is pending, a success or a failure. -/
lemma countP_add (l : List (Attempt τ)) :
    l.countP isPending + l.countP isSuccess + l.countP isFailure = l.length := by
  induction l with
  | nil => rfl
  | cons a l ih =>
    simp only [List.countP_cons, List.length_cons]
    cases a <;> simp [isPending, isSuccess, isFailure] <;> omega

/-- Settling an attempt that is pending takes no failure away. -/
lemma countP_take_le {l : List (Attempt τ)} {m : ℕ} {t : τ} (h : l[m]? = some (.pending t))
    (b : Attempt τ) (k : ℕ) :
    (l.take k).countP isFailure ≤ ((l.set m b).take k).countP isFailure := by
  rw [List.take_set]
  by_cases hk : m < k
  · have hset := countP_set (b := b) (show (l.take k)[m]? = some (.pending t) by
      rw [List.getElem?_take, if_pos hk, h]) isFailure
    simp only [isFailure, Bool.toNat_false, Nat.add_zero] at hset
    omega
  · rw [List.set_eq_of_length_le (by rw [List.length_take]; omega)]

/-- Each success is of a number that is, with the failures before it made up for, below `tail`. -/
def Ranked (tail : ℕ) (l : List (Attempt τ)) : Prop :=
  ∀ m, l[m]? = some .success → m + 1 ≤ tail + (l.take m).countP isFailure

namespace Ranked

variable {tail : ℕ} {l : List (Attempt τ)}

/-- **There are no more successes than elements.**

**Proof sketch.** The number of the last success counts the successes, the failures and the pending
attempts before it, and the failures are made up for. -/
lemma countP_le (h : Ranked tail l) : l.countP isSuccess ≤ tail := by
  induction l using List.reverseRecOn with
  | nil => exact Nat.zero_le _
  | append_singleton l a ih =>
    rw [List.countP_append, List.countP_singleton]
    by_cases ha : a = .success
    · subst ha
      have hlast := h l.length (by simp)
      rw [List.take_left' rfl] at hlast
      have hadd := countP_add l
      simp only [isSuccess, if_true]
      omega
    · have hrest : Ranked tail l := by
        intro m hm
        have hlt := (List.getElem?_eq_some_iff.mp hm).1
        have hm' := h m (by rw [List.getElem?_append_left hlt]; exact hm)
        rwa [List.take_append_of_le_length hlt.le] at hm'
      have hnot : a.isSuccess = false := by
        cases a with
        | success => exact absurd rfl ha
        | pending t => rfl
        | failure => rfl
      rw [hnot]
      exact ih hrest

/-- More elements. -/
lemma mono {tail' : ℕ} (h : Ranked tail l) (hle : tail ≤ tail') : Ranked tail' l :=
  fun m hm => (h m hm).trans (Nat.add_le_add_right hle _)

/-- A new attempt. -/
lemma append (h : Ranked tail l) (t : τ) : Ranked tail (l ++ [.pending t]) := by
  intro m hm
  by_cases hlt : m < l.length
  · rw [List.getElem?_append_left hlt] at hm
    rw [List.take_append_of_le_length hlt.le]
    exact h m hm
  · rw [List.getElem?_append_right (by omega)] at hm
    cases hk : m - l.length with
    | zero =>
      rw [hk] at hm
      cases hm
    | succ k =>
      rw [hk] at hm
      cases hm

/-- An attempt is settled. -/
lemma set {m : ℕ} {t : τ} {b : Attempt τ} (h : Ranked tail l) (hm : l[m]? = some (.pending t))
    (hb : b = .success → m + 1 ≤ tail + (l.take m).countP isFailure) : Ranked tail (l.set m b) := by
  intro k hk
  have hle := countP_take_le hm b k
  by_cases hkm : k = m
  · subst hkm
    have hlt := (List.getElem?_eq_some_iff.mp hm).1
    rw [List.getElem?_set_self hlt, Option.some_inj] at hk
    exact (hb hk).trans (Nat.add_le_add_left hle _)
  · rw [List.getElem?_set_ne (Ne.symm hkm)] at hk
    exact (h k hk).trans (Nat.add_le_add_left hle _)

end Ranked

end Attempt

/-! ## The invariant -/

namespace DequeuePc

/-- The thread has a number and has not compared it. -/
def comparing : DequeuePc → ℕ
  | recompare _ _ => 1
  | _ => 0

/-- There is an element for the thread, and it has no index. -/
def claiming : DequeuePc → ℕ
  | fetchHead => 1
  | _ => 0

/-- The thread has an index. -/
def isClaimed : DequeuePc → Bool
  | claimed _ => true
  | _ => false

/-- There is no element for the number that the thread has, and it has not made up for it. -/
def failing : DequeuePc → ℕ
  | fetchOvercommit => 1
  | _ => 0

end DequeuePc

namespace ImplicitProducer

variable {τ α : Type*} {w : ℕ}

/-- A thread that moves in `dequeue` has no index yet. -/
lemma not_isClaimed_of_dequeue {p p' : ImplicitProducer τ α} {t : τ} {pc pc' : DequeuePc}
    (h : p.dequeue w t pc = some (p', pc')) : pc.isClaimed = false := by
  cases pc with
  | claimed index => cases h
  | _ => rfl

/-- A move in `dequeue` takes the next index, or takes none. -/
lemma dequeue_head {p p' : ImplicitProducer τ α} {t : τ} {pc pc' : DequeuePc}
    (h : p.dequeue w t pc = some (p', pc')) :
    p'.elements = p.elements ∧
      ((pc = .fetchHead ∧ pc' = .claimed p.headIndex ∧ p'.headIndex = p.headIndex + 1) ∨
        (pc'.isClaimed = false ∧ p'.headIndex = p.headIndex)) := by
  cases pc with
  | compare tail overcommit =>
    cases h
    refine ⟨rfl, .inr ⟨?_, rfl⟩⟩
    split_ifs <;> rfl
  | recompare overcommit myDequeueCount =>
    simp only [dequeue] at h
    split_ifs at h <;> cases h <;> exact ⟨rfl, .inr ⟨rfl, rfl⟩⟩
  | fetchHead =>
    cases h
    exact ⟨rfl, .inl ⟨rfl, rfl, rfl⟩⟩
  | loadTail =>
    cases h
    exact ⟨rfl, .inr ⟨rfl, rfl⟩⟩
  | loadOvercommit tail =>
    cases h
    exact ⟨rfl, .inr ⟨rfl, rfl⟩⟩
  | fetchOptimistic overcommit =>
    cases h
    exact ⟨rfl, .inr ⟨rfl, rfl⟩⟩
  | fetchOvercommit =>
    cases h
    exact ⟨rfl, .inr ⟨rfl, rfl⟩⟩
  | out => cases h
  | claimed index => cases h
  | failed => cases h

/-- A thread in `dequeue` goes on, unless it returns. -/
lemma exists_dequeue {p : ImplicitProducer τ α} {t : τ} {pc : DequeuePc} (hin : pc ≠ .out)
    (hclaimed : ∀ index, pc ≠ .claimed index) (hfailed : pc ≠ .failed) :
    ∃ r, p.dequeue w t pc = some r := by
  cases pc with
  | out => exact absurd rfl hin
  | claimed index => exact absurd rfl (hclaimed index)
  | failed => exact absurd rfl hfailed
  | recompare overcommit myDequeueCount =>
    simp only [dequeue]
    split_ifs <;> exact ⟨_, rfl⟩
  | _ => exact ⟨_, rfl⟩

/-- What is known of a thread from the place where it stands. -/
def PlaceOk (p : ImplicitProducer τ α) (t : τ) : DequeuePc → Prop
  | .compare _ overcommit | .fetchOptimistic overcommit => overcommit ≤ p.dequeueOvercommit
  | .recompare overcommit myDequeueCount =>
    p.attempts[myDequeueCount]? = some (.pending t) ∧
      overcommit ≤ (p.attempts.take myDequeueCount).countP Attempt.isFailure
  | .claimed index => index < p.headIndex
  | _ => True

variable [DecidableEq τ] [Fintype τ]

/-- What the counters keep. -/
structure Sound (c : Crew (ImplicitProducer τ α) DequeuePc τ) : Prop where
  length : c.shared.attempts.length = c.shared.dequeueOptimisticCount
  pending : c.shared.attempts.countP Attempt.isPending = c.total DequeuePc.comparing
  success : c.shared.attempts.countP Attempt.isSuccess =
    c.shared.headIndex + c.total DequeuePc.claiming
  failure : c.shared.attempts.countP Attempt.isFailure =
    c.shared.dequeueOvercommit + c.total DequeuePc.failing
  ranked : Attempt.Ranked c.shared.tailIndex c.shared.attempts
  place : ∀ t, c.shared.PlaceOk t (c.place t)

section Step

variable {c : Crew (ImplicitProducer τ α) DequeuePc τ} {p : ImplicitProducer τ α} {t : τ}
  {pc : DequeuePc}

omit [DecidableEq τ] [Fintype τ] in
/-- A place stays as it was when attempts are made, and failures made up for. -/
lemma PlaceOk.mono {p p' : ImplicitProducer τ α} (h : p.PlaceOk t pc)
    (hhead : p.headIndex ≤ p'.headIndex) (hle : p.dequeueOvercommit ≤ p'.dequeueOvercommit)
    (hattempts : ∀ m, p.attempts[m]? = some (.pending t) → p'.attempts[m]? = some (.pending t) ∧
      (p.attempts.take m).countP Attempt.isFailure ≤
        (p'.attempts.take m).countP Attempt.isFailure) : p'.PlaceOk t pc := by
  cases pc with
  | compare tail overcommit => exact le_trans h hle
  | fetchOptimistic overcommit => exact le_trans h hle
  | recompare overcommit myDequeueCount =>
    obtain ⟨hpending, hcount⟩ := h
    obtain ⟨hpending', hcount'⟩ := hattempts _ hpending
    exact ⟨hpending', hcount.trans hcount'⟩
  | out => trivial
  | loadTail => trivial
  | loadOvercommit tail => trivial
  | fetchHead => trivial
  | fetchOvercommit => trivial
  | claimed index => exact lt_of_lt_of_le h hhead
  | failed => trivial

omit [Fintype τ] in
/-- The thread that moves is fine in its new place, and so are the others. -/
lemma forall_placeOk (hpc : p.PlaceOk t pc)
    (hothers : ∀ u ≠ t, p.PlaceOk u (c.place u)) (u : τ) :
    p.PlaceOk u (Function.update c.place t pc u) := by
  by_cases hu : u = t
  · subst hu
    rw [Function.update_self]
    exact hpc
  · rw [Function.update_of_ne hu]
    exact hothers u hu

/-- A move that settles no attempt and changes no counter. -/
lemma Sound.of_same (h : Sound c) (hattempts : p.attempts = c.shared.attempts)
    (hhead : p.headIndex = c.shared.headIndex)
    (hoptimistic : p.dequeueOptimisticCount = c.shared.dequeueOptimisticCount)
    (hovercommit : p.dequeueOvercommit = c.shared.dequeueOvercommit)
    (htail : c.shared.tailIndex ≤ p.tailIndex)
    (hcomparing : pc.comparing = (c.place t).comparing)
    (hclaiming : pc.claiming = (c.place t).claiming)
    (hfailing : pc.failing = (c.place t).failing) (hpc : p.PlaceOk t pc) :
    Sound ⟨p, Function.update c.place t pc⟩ := by
  have hplace : ∀ u ≠ t, p.PlaceOk u (c.place u) := fun u _ =>
    (h.place u).mono hhead.ge hovercommit.ge fun m hm => by rw [hattempts]; exact ⟨hm, le_rfl⟩
  have hcomparing' := c.total_move DequeuePc.comparing p t pc
  have hclaiming' := c.total_move DequeuePc.claiming p t pc
  have hfailing' := c.total_move DequeuePc.failing p t pc
  refine ⟨?_, ?_, ?_, ?_, ?_, forall_placeOk hpc hplace⟩
  · rw [hattempts, hoptimistic]
    exact h.length
  · dsimp only
    rw [hattempts, h.pending]
    omega
  · dsimp only
    rw [hattempts, hhead, h.success]
    omega
  · dsimp only
    rw [hattempts, hovercommit, h.failure]
    omega
  · dsimp only
    rw [hattempts]
    exact h.ranked.mono htail

/-- A consumer takes a number. -/
lemma Sound.fetchOptimistic (h : Sound c) {overcommit : ℕ}
    (ht : c.place t = .fetchOptimistic overcommit) :
    Sound ⟨{ c.shared with
      dequeueOptimisticCount := c.shared.dequeueOptimisticCount + 1
      attempts := c.shared.attempts ++ [.pending t] }, Function.update c.place t
        (.recompare overcommit c.shared.dequeueOptimisticCount)⟩ := by
  have hover : overcommit ≤ c.shared.dequeueOvercommit := by
    have hplace := h.place t
    rwa [ht] at hplace
  have hnew : (c.shared.attempts ++ [.pending t])[c.shared.dequeueOptimisticCount]? =
      some (.pending t) := by
    rw [← h.length, List.getElem?_concat_length]
  have hold : ∀ m a, c.shared.attempts[m]? = some a →
      (c.shared.attempts ++ [.pending t])[m]? = some a ∧
        (c.shared.attempts ++ [Attempt.pending t]).take m = c.shared.attempts.take m := by
    intro m a hm
    have hlt := (List.getElem?_eq_some_iff.mp hm).1
    exact ⟨by rw [List.getElem?_append_left hlt, hm], List.take_append_of_le_length hlt.le⟩
  have hcomparing := c.total_move DequeuePc.comparing { c.shared with
    dequeueOptimisticCount := c.shared.dequeueOptimisticCount + 1
    attempts := c.shared.attempts ++ [.pending t] } t
    (.recompare overcommit c.shared.dequeueOptimisticCount)
  have hclaiming := c.total_move DequeuePc.claiming { c.shared with
    dequeueOptimisticCount := c.shared.dequeueOptimisticCount + 1
    attempts := c.shared.attempts ++ [.pending t] } t
    (.recompare overcommit c.shared.dequeueOptimisticCount)
  have hfailing := c.total_move DequeuePc.failing { c.shared with
    dequeueOptimisticCount := c.shared.dequeueOptimisticCount + 1
    attempts := c.shared.attempts ++ [.pending t] } t
    (.recompare overcommit c.shared.dequeueOptimisticCount)
  rw [ht] at hcomparing hclaiming hfailing
  refine ⟨?_, ?_, ?_, ?_, h.ranked.append t, forall_placeOk ⟨hnew, ?_⟩ fun u _ => ?_⟩
  · dsimp only
    rw [List.length_append, h.length, List.length_singleton]
  · dsimp only
    rw [List.countP_append, h.pending, List.countP_singleton]
    simp only [Attempt.isPending, if_true]
    simp only [DequeuePc.comparing] at hcomparing ⊢
    omega
  · dsimp only
    rw [List.countP_append, h.success, List.countP_singleton]
    simp only [Attempt.isSuccess, Bool.false_eq_true, if_false]
    simp only [DequeuePc.claiming] at hclaiming ⊢
    omega
  · dsimp only
    rw [List.countP_append, h.failure, List.countP_singleton]
    simp only [Attempt.isFailure, Bool.false_eq_true, if_false]
    simp only [DequeuePc.failing] at hfailing ⊢
    omega
  · dsimp only
    rw [← h.length, List.take_left' rfl, h.failure]
    omega
  · refine (h.place u).mono le_rfl le_rfl fun m hm => ?_
    obtain ⟨hm', htake⟩ := hold m _ hm
    exact ⟨hm', by dsimp only; rw [htake]⟩

/-- A consumer compares its number: `success` says whether there is an element for it. -/
lemma Sound.recompare (h : Sound c) {overcommit myDequeueCount : ℕ}
    (ht : c.place t = .recompare overcommit myDequeueCount) (success : Bool)
    (hsuccess : success = true → myDequeueCount < c.shared.tailIndex + overcommit) :
    Sound ⟨c.shared.settle myDequeueCount (if success then .success else .failure),
      Function.update c.place t (if success then .fetchHead else .fetchOvercommit)⟩ := by
  obtain ⟨hpending, hover⟩ : c.shared.attempts[myDequeueCount]? = some (.pending t) ∧
      overcommit ≤ (c.shared.attempts.take myDequeueCount).countP Attempt.isFailure := by
    have hplace := h.place t
    rwa [ht] at hplace
  generalize ha : (if success then Attempt.success else .failure : Attempt τ) = a
  generalize hpc : (if success then DequeuePc.fetchHead else .fetchOvercommit) = pc
  have hpending' := Attempt.countP_set (b := a) hpending Attempt.isPending
  have hsuccess' := Attempt.countP_set (b := a) hpending Attempt.isSuccess
  have hfailure' := Attempt.countP_set (b := a) hpending Attempt.isFailure
  have hcomparing := c.total_move DequeuePc.comparing (c.shared.settle myDequeueCount a) t pc
  have hclaiming := c.total_move DequeuePc.claiming (c.shared.settle myDequeueCount a) t pc
  have hfailing := c.total_move DequeuePc.failing (c.shared.settle myDequeueCount a) t pc
  rw [ht] at hcomparing hclaiming hfailing
  have hcounts : a.isPending.toNat = pc.comparing ∧ a.isSuccess.toNat = pc.claiming ∧
      a.isFailure.toNat = pc.failing := by
    subst ha hpc
    cases success <;> exact ⟨rfl, rfl, rfl⟩
  obtain ⟨hcomparing', hclaiming', hfailing''⟩ := hcounts
  rw [h.pending, hcomparing'] at hpending'
  rw [h.success, hclaiming'] at hsuccess'
  rw [h.failure, hfailing''] at hfailure'
  simp only [DequeuePc.comparing, DequeuePc.claiming, DequeuePc.failing, Attempt.isPending,
    Attempt.isSuccess, Attempt.isFailure, Bool.toNat_true, Bool.toNat_false] at *
  refine ⟨?_, ?_, ?_, ?_, ?_, forall_placeOk ?_ fun u hu => ?_⟩
  · show (c.shared.attempts.set myDequeueCount a).length = _
    rw [List.length_set]
    exact h.length
  · show (c.shared.attempts.set myDequeueCount a).countP _ = _
    omega
  · show (c.shared.attempts.set myDequeueCount a).countP _ = c.shared.headIndex + _
    omega
  · show (c.shared.attempts.set myDequeueCount a).countP _ = c.shared.dequeueOvercommit + _
    omega
  · refine h.ranked.set hpending fun hb => ?_
    have htrue : success = true := by
      by_contra hfalse
      rw [if_neg hfalse] at ha
      rw [← ha] at hb
      cases hb
    have hlt := hsuccess htrue
    omega
  · subst hpc
    cases success <;> trivial
  · refine (h.place u).mono le_rfl le_rfl fun m hm =>
      ⟨?_, Attempt.countP_take_le hpending a m⟩
    have hne : myDequeueCount ≠ m := by
      rintro rfl
      rw [hpending, Option.some_inj, Attempt.pending.injEq] at hm
      exact hu hm.symm
    show (c.shared.attempts.set myDequeueCount a)[m]? = _
    rw [List.getElem?_set_ne hne]
    exact hm

/-- A consumer takes an index. -/
lemma Sound.fetchHead (h : Sound c) (ht : c.place t = .fetchHead) :
    Sound ⟨{ c.shared with headIndex := c.shared.headIndex + 1 },
      Function.update c.place t (.claimed c.shared.headIndex)⟩ := by
  have hcomparing := c.total_move DequeuePc.comparing
    { c.shared with headIndex := c.shared.headIndex + 1 } t (.claimed c.shared.headIndex)
  have hclaiming := c.total_move DequeuePc.claiming
    { c.shared with headIndex := c.shared.headIndex + 1 } t (.claimed c.shared.headIndex)
  have hfailing := c.total_move DequeuePc.failing
    { c.shared with headIndex := c.shared.headIndex + 1 } t (.claimed c.shared.headIndex)
  rw [ht] at hcomparing hclaiming hfailing
  simp only [DequeuePc.comparing, DequeuePc.claiming, DequeuePc.failing] at *
  refine ⟨h.length, ?_, ?_, ?_, h.ranked, forall_placeOk (Nat.lt_succ_self _) fun u _ => ?_⟩
  · exact h.pending.trans (by omega)
  · exact h.success.trans (by dsimp only; omega)
  · exact h.failure.trans (by dsimp only; omega)
  · exact (h.place u).mono (Nat.le_succ _) le_rfl fun m hm => ⟨hm, le_rfl⟩

/-- A consumer makes up for its number. -/
lemma Sound.fetchOvercommit (h : Sound c) (ht : c.place t = .fetchOvercommit) :
    Sound ⟨{ c.shared with dequeueOvercommit := c.shared.dequeueOvercommit + 1 },
      Function.update c.place t .failed⟩ := by
  have hcomparing := c.total_move DequeuePc.comparing
    { c.shared with dequeueOvercommit := c.shared.dequeueOvercommit + 1 } t .failed
  have hclaiming := c.total_move DequeuePc.claiming
    { c.shared with dequeueOvercommit := c.shared.dequeueOvercommit + 1 } t .failed
  have hfailing := c.total_move DequeuePc.failing
    { c.shared with dequeueOvercommit := c.shared.dequeueOvercommit + 1 } t .failed
  rw [ht] at hcomparing hclaiming hfailing
  simp only [DequeuePc.comparing, DequeuePc.claiming, DequeuePc.failing] at *
  refine ⟨h.length, ?_, ?_, ?_, h.ranked, forall_placeOk trivial fun u _ => ?_⟩
  · exact h.pending.trans (by omega)
  · exact h.success.trans (by dsimp only; omega)
  · exact h.failure.trans (by dsimp only; omega)
  · exact (h.place u).mono le_rfl (Nat.le_succ _) fun m hm => ⟨hm, le_rfl⟩

/-- The next move in `dequeue` keeps the counters sound, if its comparison is right. -/
lemma Sound.dequeue (hw : 0 < w) (h : Sound c) (hnear : c.shared.Compares w (c.place t))
    (hmove : c.shared.dequeue w t (c.place t) = some (p, pc)) :
    Sound ⟨p, Function.update c.place t pc⟩ := by
  have hplace := h.place t
  cases ht : c.place t with
  | loadTail =>
    rw [ht] at hmove
    cases hmove
    exact h.of_same rfl rfl rfl rfl le_rfl (by rw [ht]; rfl) (by rw [ht]; rfl) (by rw [ht]; rfl)
      trivial
  | loadOvercommit tail =>
    rw [ht] at hmove
    cases hmove
    exact h.of_same rfl rfl rfl rfl le_rfl (by rw [ht]; rfl) (by rw [ht]; rfl) (by rw [ht]; rfl)
      (le_refl c.shared.dequeueOvercommit)
  | compare tail overcommit =>
    rw [ht] at hmove hplace
    cases hmove
    split_ifs
    · exact h.of_same rfl rfl rfl rfl le_rfl (by rw [ht]; rfl) (by rw [ht]; rfl) (by rw [ht]; rfl)
        hplace
    · exact h.of_same rfl rfl rfl rfl le_rfl (by rw [ht]; rfl) (by rw [ht]; rfl) (by rw [ht]; rfl)
        trivial
  | fetchOptimistic overcommit =>
    rw [ht] at hmove
    cases hmove
    exact h.fetchOptimistic ht
  | recompare overcommit myDequeueCount =>
    rw [ht] at hmove hnear
    simp only [ImplicitProducer.dequeue] at hmove
    split_ifs at hmove with hlt
    · cases hmove
      have hlt' := (circularLessThan_iff hw hnear).mp hlt
      exact h.recompare ht true fun _ => by omega
    · cases hmove
      exact h.recompare ht false nofun
  | fetchHead =>
    rw [ht] at hmove
    cases hmove
    exact h.fetchHead ht
  | fetchOvercommit =>
    rw [ht] at hmove
    cases hmove
    exact h.fetchOvercommit ht
  | out =>
    rw [ht] at hmove
    cases hmove
  | claimed index =>
    rw [ht] at hmove
    cases hmove
  | failed =>
    rw [ht] at hmove
    cases hmove

/-- Every move keeps the counters sound, if its comparison is right. -/
lemma Sound.move (hw : 0 < w) {e : ProducerEvent α} (h : Sound c)
    (hnear : c.shared.Compares w (c.place t))
    (hmove : c.shared.move w t (c.place t) e = some (p, pc)) :
    Sound ⟨p, Function.update c.place t pc⟩ := by
  unfold ImplicitProducer.move at hmove
  split at hmove
  · rename_i element ht
    cases hmove
    exact h.of_same rfl rfl rfl rfl (by simp [tailIndex, enqueue]) (by rw [ht]) (by rw [ht])
      (by rw [ht]) trivial
  · rename_i ht
    cases hmove
    exact h.of_same rfl rfl rfl rfl le_rfl (by rw [ht]; rfl) (by rw [ht]; rfl) (by rw [ht]; rfl)
      trivial
  · rename_i ht
    cases hmove
    exact h.of_same rfl rfl rfl rfl le_rfl (by rw [ht]; rfl) (by rw [ht]; rfl) (by rw [ht]; rfl)
      trivial
  · rename_i ht
    cases hmove
    exact h.of_same rfl rfl rfl rfl le_rfl (by rw [ht]; rfl) (by rw [ht]; rfl) (by rw [ht]; rfl)
      trivial
  · exact h.dequeue hw hnear hmove
  · cases hmove

end Step

/-! ## Runs -/

section Runs

variable {c : Crew (ImplicitProducer τ α) DequeuePc τ}

/-- **The counters are sound** in every run whose comparisons are right. -/
theorem sound_of_reachable (hw : 0 < w)
    (h : (producerCrew τ α w).ReachableUnder
      (fun c e => c.shared.Compares w (c.place e.1)) c) : Sound c := by
  refine StepSystem.ReachableUnder.invariant (fun c hinit => ?_)
    (fun c e c' _ hI hnear hstep => ?_) h
  · obtain ⟨hshared, hout⟩ := hinit
    have hzero : ∀ f : DequeuePc → ℕ, f .out = 0 → c.total f = 0 := fun f hf =>
      Crew.total_eq_zero fun t => by rw [hout t, hf]
    refine ⟨?_, ?_, ?_, ?_, ?_, fun t => ?_⟩
    · rw [hshared]
      rfl
    · rw [hshared, hzero _ rfl]
      rfl
    · rw [hshared, hzero _ rfl]
      rfl
    · rw [hshared, hzero _ rfl]
      rfl
    · rw [hshared]
      exact nofun
    · rw [hout t]
      trivial
  · obtain ⟨t, e⟩ := e
    obtain ⟨p, pc, hmove, rfl⟩ := Crew.step_eq_some.mp hstep
    exact hI.move hw hnear hmove

omit [DecidableEq τ] in
/-- The number of elements covers the indices that were given out, and those that are going to
be. -/
lemma Sound.head_add_le (h : Sound c) :
    c.shared.headIndex + c.total DequeuePc.claiming ≤ c.shared.tailIndex := by
  rw [← h.success]
  exact h.ranked.countP_le

omit [DecidableEq τ] in
/-- `dequeueOptimisticCount` counts the indices given out, the numbers made up for, and the
consumers on their way to one of the two. -/
lemma Sound.dequeueOptimisticCount_eq (h : Sound c) :
    c.shared.dequeueOptimisticCount = c.shared.headIndex + c.shared.dequeueOvercommit +
      (c.total DequeuePc.comparing + c.total DequeuePc.claiming + c.total DequeuePc.failing) := by
  have hadd := Attempt.countP_add c.shared.attempts
  rw [h.pending, h.success, h.failure, h.length] at hadd
  omega

end Runs

end ImplicitProducer

end UsbTv
