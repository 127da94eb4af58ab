import Mathlib.Algebra.BigOperators.Pi
import Mathlib.Algebra.Order.BigOperators.Group.Finset
import Mathlib.Data.Fintype.Card
import UsbTv.Lib.Crew

set_option relaxedAutoImplicit false
set_option autoImplicit false

/-!
# The semaphore of the process queue

`LightweightSemaphore` of `blockingconcurrentqueue.h`. It counts its permits in `m_count`, and
goes to a semaphore of the kernel only when a thread has to block: a negative count is the number
of threads that wait there. A thread that finds no permit spins for a while before it counts
itself in. One whose wait has timed out has to count itself out again, unless a permit has been
posted to it in the meantime.

Any number of threads call it. Memory is sequentially consistent, and the counts stay within the
limits of their types. The greedy calls `tryWaitMany` and `waitMany` have no part in this.

## Main definitions

* `UsbTv.LightweightSemaphore` — the two counts.
* `UsbTv.SemaphorePc`, `UsbTv.LightweightSemaphore.move` — where a thread stands, and its next
  move.
* `UsbTv.semaphoreCrew` — all interleavings.

## Main results

* `UsbTv.LightweightSemaphore.move_effect` — what a move does.
* `UsbTv.LightweightSemaphore.permits_conserved` — no permit is lost or doubled.
* `UsbTv.LightweightSemaphore.allTaken_of_stuck` — no thread is left blocked while there is a
  permit.
* `UsbTv.LightweightSemaphore.mCount_bounds` — the range of `m_count`.
-/

namespace UsbTv

/-- `LightweightSemaphore`, and on record what it has given and what was taken. -/
structure LightweightSemaphore where
  mCount : ℤ
  /-- The count of the kernel's semaphore. -/
  mSema : ℕ
  /-- The permits there have been so far. -/
  signalled : ℕ
  /-- The permits taken so far. -/
  acquired : ℕ

/-- The calls that take a permit: `tryWait()`, `wait()`, and `wait(timeout_usecs)`. -/
inductive WaitCall
  | tryWait
  | wait
  | timedWait
  deriving DecidableEq, Repr

/-- Where a thread stands. -/
inductive SemaphorePc
  | out
  /-- In `tryWait`, at `m_count.load`. -/
  | tryLoad (call : WaitCall)
  /-- In `tryWait`, at its loop. -/
  | tryExchange (call : WaitCall) (oldCount : ℤ)
  /-- In `waitWithPartialSpinning`, at its loop, with `left` rounds to go. -/
  | spin (timed : Bool) (left : ℕ)
  /-- In a round of that loop, at the test of the count that was loaded. -/
  | spinExchange (timed : Bool) (left : ℕ) (oldCount : ℤ)
  /-- At `m_count.fetch_sub`. -/
  | fetchSub (timed : Bool)
  /-- In `m_sema.wait()`. -/
  | semaWait
  /-- In `m_sema.timed_wait`. -/
  | semaTimedWait
  /-- The wait has timed out; at `m_count.load`. -/
  | reload
  /-- The wait has timed out; at the tests of the count that was loaded. -/
  | readjust (oldCount : ℤ)
  /-- In `m_sema.signal`, at a `sem_post`, with so many more to come. -/
  | post (more : ℕ)
  /-- `signal` returns. -/
  | posted
  /-- `tryWait` or `wait` returns. -/
  | done (success : Bool)
  deriving DecidableEq, Repr

/-- What can happen to a thread. -/
inductive SemaphoreEvent
  | call (c : WaitCall)
  /-- `signal(count)` is called, and adds to `m_count`. -/
  | signal (count : ℕ)
  /-- The thread goes on. -/
  | next
  /-- A weak exchange fails though it need not, or a wait times out. -/
  | fail
  | ret
  deriving DecidableEq, Repr

namespace LightweightSemaphore

/-- `LightweightSemaphore(initialCount)`. -/
def new (initialCount : ℕ) : LightweightSemaphore where
  mCount := initialCount
  mSema := 0
  signalled := initialCount
  acquired := 0

/-- A permit is taken from `m_count`. -/
def take (s : LightweightSemaphore) : LightweightSemaphore :=
  { s with mCount := s.mCount - 1, acquired := s.acquired + 1 }

/-- A permit is taken from the kernel's semaphore. -/
def takeSema (s : LightweightSemaphore) : LightweightSemaphore :=
  { s with mSema := s.mSema - 1, acquired := s.acquired + 1 }

/-- How often `signal(count)` posts: the threads that wait, but not more than `count`. -/
def toRelease (s : LightweightSemaphore) (count : ℕ) : ℤ :=
  if -s.mCount < count then -s.mCount else count

/-- The next move of a thread. -/
def move (s : LightweightSemaphore) :
    SemaphorePc → SemaphoreEvent → Option (LightweightSemaphore × SemaphorePc)
  | .out, .call c => some (s, .tryLoad c)
  | .out, .signal count =>
    some ({ s with mCount := s.mCount + count, signalled := s.signalled + count },
      if s.toRelease count > 0 then .post ((s.toRelease count).toNat - 1) else .posted)
  | .tryLoad c, .next => some (s, .tryExchange c s.mCount)
  | .tryExchange c oldCount, .next =>
    if oldCount > 0 then
      if s.mCount = oldCount then some (s.take, .done true)
      else some (s, .tryExchange c s.mCount)
    else
      match c with
      | .tryWait => some (s, .done false)
      | .wait => some (s, .spin false 10000)
      | .timedWait => some (s, .spin true 10000)
  | .tryExchange c oldCount, .fail =>
    if oldCount > 0 then some (s, .tryExchange c s.mCount) else none
  | .spin timed 0, .next => some (s, .fetchSub timed)
  | .spin timed (left + 1), .next => some (s, .spinExchange timed left s.mCount)
  | .spinExchange timed left oldCount, .next =>
    if oldCount > 0 ∧ s.mCount = oldCount then some (s.take, .done true)
    else some (s, .spin timed left)
  | .fetchSub timed, .next =>
    if s.mCount > 0 then some (s.take, .done true)
    else
      some ({ s with mCount := s.mCount - 1 }, if timed then .semaTimedWait else .semaWait)
  | .semaWait, .next => if 0 < s.mSema then some (s.takeSema, .done true) else none
  | .semaTimedWait, .next => if 0 < s.mSema then some (s.takeSema, .done true) else none
  | .semaTimedWait, .fail => some (s, .reload)
  | .reload, .next => some (s, .readjust s.mCount)
  | .readjust oldCount, .next =>
    if oldCount ≥ 0 then
      if 0 < s.mSema then some (s.takeSema, .done true) else some (s, .reload)
    else
      if s.mCount = oldCount then some ({ s with mCount := s.mCount + 1 }, .done false)
      else some (s, .reload)
  | .post 0, .next => some ({ s with mSema := s.mSema + 1 }, .posted)
  | .post (more + 1), .next => some ({ s with mSema := s.mSema + 1 }, .post more)
  | .posted, .ret => some (s, .out)
  | .done _, .ret => some (s, .out)
  | _, _ => none

end LightweightSemaphore

/-- All interleavings of threads that call a semaphore. -/
def semaphoreCrew (τ : Type*) [DecidableEq τ] (initialCount : ℕ) :
    StepSystem (Crew LightweightSemaphore SemaphorePc τ) (τ × SemaphoreEvent) :=
  crew (fun c => c.shared = .new initialCount ∧ ∀ t, c.place t = .out)
    fun _ => LightweightSemaphore.move

namespace SemaphorePc

/-- The thread has counted itself in, and has no permit. -/
def waiting : SemaphorePc → ℕ
  | semaWait | semaTimedWait | reload | readjust _ => 1
  | _ => 0

/-- What the thread has still to post. -/
def posting : SemaphorePc → ℕ
  | post more => more + 1
  | _ => 0

/-- The call returns with a permit. -/
def granted : SemaphorePc → ℕ
  | done true => 1
  | _ => 0

/-- The places of a call. `wait()` returns with a permit only. -/
def During (call : SemaphoreEvent) : SemaphorePc → Prop
  | out => True
  | post _ | posted => ∃ count, call = .signal count
  | tryLoad c | tryExchange c _ => call = .call c
  | spin timed _ | spinExchange timed _ _ | fetchSub timed =>
    call = .call (if timed then .timedWait else .wait)
  | semaWait => call = .call .wait
  | semaTimedWait | reload | readjust _ => call = .call .timedWait
  | done success => ∃ c, call = .call c ∧ (c = .wait → success = true)

/-- What the thread has in the balance of the semaphore. -/
def weight (pc : SemaphorePc) : ℕ × ℕ := (pc.waiting, pc.posting)

end SemaphorePc

/-- What `signal` gives. -/
def SemaphoreEvent.given : SemaphoreEvent → ℕ
  | signal count => count
  | _ => 0

namespace LightweightSemaphore

variable {s s' : LightweightSemaphore} {pc pc' : SemaphorePc} {e : SemaphoreEvent}

/-- What a move does to the semaphore, from one place to another. -/
inductive Effect (s : LightweightSemaphore) (pc pc' : SemaphorePc) : LightweightSemaphore → Prop
  /-- Nothing. -/
  | none (hpc : pc'.weight = pc.weight) : Effect s pc pc' s
  /-- There is a permit, and the thread takes it. -/
  | take (hcount : 0 < s.mCount) (hpc : pc'.weight = pc.weight) : Effect s pc pc' s.take
  /-- There is none, and the thread counts itself in. -/
  | enter (hcount : s.mCount ≤ 0) (hpc : pc'.weight = pc.weight + (1, 0)) :
      Effect s pc pc' { s with mCount := s.mCount - 1 }
  /-- The thread takes a permit that was posted. -/
  | wake (hsema : 0 < s.mSema) (hpc : pc.weight = pc'.weight + (1, 0)) : Effect s pc pc' s.takeSema
  /-- The thread counts itself out without a permit. -/
  | leave (hcount : s.mCount < 0) (hpc : pc.weight = pc'.weight + (1, 0)) :
      Effect s pc pc' { s with mCount := s.mCount + 1 }
  /-- Permits are given, and those that wait will be posted to. -/
  | signal (count : ℕ) (hpc : pc'.weight = pc.weight + (0, (s.toRelease count).toNat)) :
      Effect s pc pc' { s with mCount := s.mCount + count, signalled := s.signalled + count }
  /-- A permit is posted. -/
  | post (hpc : pc.weight = pc'.weight + (0, 1)) : Effect s pc pc' { s with mSema := s.mSema + 1 }

/-- **What a move does.** -/
lemma move_effect (h : s.move pc e = some (s', pc')) : s.Effect pc pc' s' := by
  unfold move at h
  split at h
  · -- `tryWait()`, `wait()` and the like are called
    cases h
    exact .none rfl
  · -- `signal(count)`
    rename_i count
    cases h
    apply Effect.signal
    split_ifs with hrelease
    · simp [SemaphorePc.weight, SemaphorePc.waiting, SemaphorePc.posting]
      omega
    · simp [SemaphorePc.weight, SemaphorePc.waiting, SemaphorePc.posting]
      omega
  · cases h
    exact .none rfl
  · -- the loop of `tryWait`
    split_ifs at h with hpos heq
    · cases h
      exact .take (by omega) rfl
    · cases h
      exact .none rfl
    · split at h
      all_goals
        cases h
        exact .none rfl
  · split_ifs at h
    cases h
    exact .none rfl
  · cases h
    exact .none rfl
  · cases h
    exact .none rfl
  · -- a round of the loop of `waitWithPartialSpinning`
    split_ifs at h with hpos
    · cases h
      exact .take (by omega) rfl
    · cases h
      exact .none rfl
  · -- `fetch_sub`
    split_ifs at h with hpos htimed
    · cases h
      exact .take hpos rfl
    · cases h
      exact .enter (by omega) rfl
    · cases h
      exact .enter (by omega) rfl
  · split_ifs at h with hsema
    cases h
    exact .wake hsema rfl
  · split_ifs at h with hsema
    cases h
    exact .wake hsema rfl
  · cases h
    exact .none rfl
  · cases h
    exact .none rfl
  · -- the tests after the wait has timed out
    split_ifs at h with hnonneg hsema heq
    · cases h
      exact .wake hsema rfl
    · cases h
      exact .none rfl
    · cases h
      exact .leave (by omega) rfl
    · cases h
      exact .none rfl
  · cases h
    exact .post rfl
  · cases h
    exact .post rfl
  · cases h
    exact .none rfl
  · cases h
    exact .none rfl
  · cases h

/-- What a move takes and gives: the thread whose call returns with a permit has taken one, and
only `signal` gives any. -/
lemma move_record (h : s.move pc e = some (s', pc')) (hret : e ≠ .ret) :
    s'.acquired + pc.granted = s.acquired + pc'.granted ∧
      s'.signalled = s.signalled + e.given ∧ pc' ≠ .out := by
  unfold move at h
  split at h
  · cases h
    exact ⟨rfl, rfl, nofun⟩
  · cases h
    split_ifs <;> exact ⟨rfl, rfl, nofun⟩
  · cases h
    exact ⟨rfl, rfl, nofun⟩
  · split_ifs at h
    · cases h
      exact ⟨rfl, rfl, nofun⟩
    · cases h
      exact ⟨rfl, rfl, nofun⟩
    · split at h
      all_goals
        cases h
        exact ⟨rfl, rfl, nofun⟩
  · split_ifs at h
    cases h
    exact ⟨rfl, rfl, nofun⟩
  · cases h
    exact ⟨rfl, rfl, nofun⟩
  · cases h
    exact ⟨rfl, rfl, nofun⟩
  · split_ifs at h
    all_goals
      cases h
      exact ⟨rfl, rfl, nofun⟩
  · split_ifs at h
    all_goals
      cases h
      exact ⟨rfl, rfl, nofun⟩
  · split_ifs at h
    cases h
    exact ⟨rfl, rfl, nofun⟩
  · split_ifs at h
    cases h
    exact ⟨rfl, rfl, nofun⟩
  · cases h
    exact ⟨rfl, rfl, nofun⟩
  · cases h
    exact ⟨rfl, rfl, nofun⟩
  · split_ifs at h
    all_goals
      cases h
      exact ⟨rfl, rfl, nofun⟩
  · cases h
    exact ⟨rfl, rfl, nofun⟩
  · cases h
    exact ⟨rfl, rfl, nofun⟩
  · exact absurd rfl hret
  · exact absurd rfl hret
  · cases h

/-- The moves of a call stay in it. -/
lemma during_of_move {call : SemaphoreEvent} (h : s.move pc e = some (s', pc'))
    (hpc : pc.During call) (he : e = call ∨ e = .next ∨ e = .fail) : pc'.During call := by
  unfold move at h
  split at h
  · -- `tryWait()`, `wait()` and the like are called
    cases h
    obtain rfl | he | he := he
    · rfl
    · cases he
    · cases he
  · -- `signal(count)` is called
    cases h
    obtain rfl | he | he := he
    · split_ifs <;> exact ⟨_, rfl⟩
    · cases he
    · cases he
  · cases h
    exact hpc
  · -- the loop of `tryWait`
    obtain rfl : call = _ := hpc
    split_ifs at h
    · cases h
      exact ⟨_, rfl, fun _ => rfl⟩
    · cases h
      rfl
    · split at h
      · cases h
        exact ⟨_, rfl, nofun⟩
      · cases h
        rfl
      · cases h
        rfl
  · split_ifs at h
    cases h
    exact hpc
  · cases h
    exact hpc
  · cases h
    exact hpc
  · -- a round of the loop of `waitWithPartialSpinning`
    split_ifs at h
    · cases h
      exact ⟨_, hpc, fun _ => rfl⟩
    · cases h
      exact hpc
  · -- `fetch_sub`
    split_ifs at h with hpos htimed
    · cases h
      exact ⟨_, hpc, fun _ => rfl⟩
    · cases h
      exact hpc.trans (by rw [htimed]; rfl)
    · cases h
      exact hpc.trans (by rw [if_neg htimed])
  · split_ifs at h
    cases h
    exact ⟨_, hpc, fun _ => rfl⟩
  · split_ifs at h
    cases h
    exact ⟨_, hpc, fun _ => rfl⟩
  · cases h
    exact hpc
  · cases h
    exact hpc
  · -- the tests after the wait has timed out
    split_ifs at h
    · cases h
      exact ⟨_, hpc, fun _ => rfl⟩
    · cases h
      exact hpc
    · cases h
      exact ⟨_, hpc, nofun⟩
    · cases h
      exact hpc
  · cases h
    exact hpc
  · cases h
    exact hpc
  · cases h
    trivial
  · cases h
    trivial
  · cases h

/-! ## The balance -/

/-- The permits are where they should be, when so many threads wait and so many posts are under
way. -/
structure Balanced (s : LightweightSemaphore) (w : ℕ × ℕ) : Prop where
  /-- A thread that waits has taken one from `m_count` in advance. -/
  granted : s.mCount + s.acquired + w.1 = s.signalled
  /-- Those that wait are the ones the count is short of, and the ones that a permit was or will
  be posted to. -/
  waiting : (w.1 : ℤ) = max (-s.mCount) 0 + s.mSema + w.2

/-- A move keeps the balance, whatever the others have in it. -/
lemma Balanced.of_effect {others : ℕ × ℕ} (h : s.Balanced (pc.weight + others))
    (heffect : s.Effect pc pc' s') : s'.Balanced (pc'.weight + others) := by
  obtain ⟨hgranted, hwaiting⟩ := h
  obtain ⟨w, p⟩ := others
  cases heffect with
  | none hpc =>
    rw [hpc]
    exact ⟨hgranted, hwaiting⟩
  | take hcount hpc =>
    rw [hpc]
    simp only [Prod.fst_add, Prod.snd_add] at hgranted hwaiting
    constructor <;> simp only [take, Prod.fst_add, Prod.snd_add] <;> omega
  | enter hcount hpc =>
    rw [hpc]
    simp only [Prod.fst_add, Prod.snd_add] at hgranted hwaiting
    constructor <;> simp only [Prod.fst_add, Prod.snd_add] <;> omega
  | wake hsema hpc =>
    rw [hpc] at hgranted hwaiting
    simp only [Prod.fst_add, Prod.snd_add] at hgranted hwaiting
    constructor <;> simp only [takeSema, Prod.fst_add, Prod.snd_add] <;> omega
  | leave hcount hpc =>
    rw [hpc] at hgranted hwaiting
    simp only [Prod.fst_add, Prod.snd_add] at hgranted hwaiting
    constructor <;> simp only [Prod.fst_add, Prod.snd_add] <;> omega
  | signal count hpc =>
    rw [hpc]
    simp only [Prod.fst_add, Prod.snd_add] at hgranted hwaiting
    have hrelease : s.toRelease count = min (-s.mCount) count := by
      unfold toRelease
      split_ifs <;> omega
    constructor <;> simp only [Prod.fst_add, Prod.snd_add, hrelease] <;> omega
  | post hpc =>
    rw [hpc] at hgranted hwaiting
    simp only [Prod.fst_add, Prod.snd_add] at hgranted hwaiting
    constructor <;> simp only [Prod.fst_add, Prod.snd_add] <;> omega

/-! ## Runs -/

section Runs

variable {τ : Type*} [DecidableEq τ] [Fintype τ] {initialCount : ℕ}
  {c : Crew LightweightSemaphore SemaphorePc τ}

omit [DecidableEq τ] in
/-- The weight of a crew. -/
lemma total_weight (c : Crew LightweightSemaphore SemaphorePc τ) :
    c.total SemaphorePc.weight = (c.total SemaphorePc.waiting, c.total SemaphorePc.posting) := by
  unfold Crew.total SemaphorePc.weight
  exact (prod_mk_sum _ _ _).symm

/-- **The semaphore is balanced** in every state of a run. -/
lemma balanced (h : (semaphoreCrew τ initialCount).Reachable c) :
    c.shared.Balanced (c.total SemaphorePc.waiting, c.total SemaphorePc.posting) := by
  rw [← total_weight]
  refine Crew.balance SemaphorePc.weight (I := Balanced) (fun c hinit => ?_)
    (fun c t e s l others _ _ hI hmove => ?_) h
  · obtain ⟨hshared, hout⟩ := hinit
    rw [hshared, Crew.total_eq_zero fun t => by rw [hout t]; rfl]
    constructor <;> simp [new]
  · exact hI.of_effect (move_effect hmove)

/-- **No permit is lost or doubled**: in every interleaving each permit that was given has been
taken, is in `m_count` or in the kernel's semaphore, or is about to be posted. And the threads that
wait are as many as the count is short of, together with those whose permit was or will be posted.

**Proof sketch.** A thread counts itself in by taking one from `m_count`, so that the count and the
permits taken add up to what was given, but for the threads that wait. `signal` posts to as many
of them as it makes up for. -/
lemma permits_conserved (h : (semaphoreCrew τ initialCount).Reachable c) :
    c.shared.acquired + c.shared.mCount.toNat + c.shared.mSema + c.total SemaphorePc.posting =
        c.shared.signalled ∧
      c.total SemaphorePc.waiting =
        (-c.shared.mCount).toNat + c.shared.mSema + c.total SemaphorePc.posting := by
  obtain ⟨hgranted, hwaiting⟩ := balanced h
  dsimp only at hgranted hwaiting
  constructor <;> omega

/-- A thread in a call goes on, unless the call returns, or has to wait for the kernel's semaphore
and that is empty. -/
lemma exists_next {s : LightweightSemaphore} {pc : SemaphorePc} (hin : pc ≠ .out)
    (hposted : pc ≠ .posted) (hdone : ∀ success, pc ≠ .done success) (htimed : pc ≠ .semaTimedWait)
    (hblocked : pc = .semaWait → 0 < s.mSema) : ∃ r, s.move pc .next = some r := by
  cases pc with
  | out => exact absurd rfl hin
  | tryLoad call => exact ⟨_, rfl⟩
  | tryExchange call oldCount =>
    simp only [move]
    split_ifs
    · exact ⟨_, rfl⟩
    · exact ⟨_, rfl⟩
    · cases call <;> exact ⟨_, rfl⟩
  | spin timed left => cases left <;> exact ⟨_, rfl⟩
  | spinExchange timed left oldCount =>
    simp only [move]
    split_ifs <;> exact ⟨_, rfl⟩
  | fetchSub timed =>
    simp only [move]
    split_ifs <;> exact ⟨_, rfl⟩
  | semaWait => exact ⟨_, if_pos (hblocked rfl)⟩
  | semaTimedWait => exact absurd rfl htimed
  | reload => exact ⟨_, rfl⟩
  | readjust oldCount =>
    simp only [move]
    split_ifs <;> exact ⟨_, rfl⟩
  | post more => cases more <;> exact ⟨_, rfl⟩
  | posted => exact absurd rfl hposted
  | done success => exact absurd rfl (hdone success)

/-- A thread in a call can go on, unless it waits for the kernel's semaphore and that is empty. -/
lemma exists_move {s : LightweightSemaphore} {pc : SemaphorePc} (hin : pc ≠ .out)
    (hblocked : pc = .semaWait → 0 < s.mSema) : ∃ e r, s.move pc e = some r := by
  by_cases hposted : pc = .posted
  · rw [hposted]
    exact ⟨.ret, _, rfl⟩
  by_cases hdone : ∃ success, pc = .done success
  · obtain ⟨success, rfl⟩ := hdone
    exact ⟨.ret, _, rfl⟩
  by_cases htimed : pc = .semaTimedWait
  · rw [htimed]
    exact ⟨.fail, _, rfl⟩
  · exact ⟨.next, exists_next hin hposted (fun success h => hdone ⟨success, h⟩) htimed hblocked⟩

omit [DecidableEq τ] in
/-- The threads that wait are among all. -/
lemma total_waiting_le (c : Crew LightweightSemaphore SemaphorePc τ) :
    c.total SemaphorePc.waiting ≤ Fintype.card τ := by
  have hone : ∀ pc : SemaphorePc, pc.waiting ≤ 1 := by
    intro pc
    cases pc <;> exact Nat.le_of_ble_eq_true rfl
  have hle := Finset.sum_le_card_nsmul Finset.univ (fun t => (c.place t).waiting) 1
    fun t _ => hone (c.place t)
  rwa [smul_eq_mul, mul_one] at hle

/-- **The range of `m_count`**: it is an `ssize_t`, and here an integer, so the threads and the
permits given are assumed to be no more than an `ssize_t` can count. -/
lemma mCount_bounds (h : (semaphoreCrew τ initialCount).Reachable c) :
    -(Fintype.card τ : ℤ) ≤ c.shared.mCount ∧ c.shared.mCount ≤ c.shared.signalled := by
  obtain ⟨hgranted, hwaiting⟩ := permits_conserved h
  have hle := total_waiting_le c
  constructor <;> omega

/-- **No thread is left blocked while there is a permit**: where no call can go on, all threads in
one are blocked in the kernel, and if there is such a thread, all permits are taken and the count
says how many threads wait. The count is within the range that the threads and the permits give
it. -/
theorem allTaken_of_stuck (h : (semaphoreCrew τ initialCount).Reachable c)
    (hstuck : ∀ t, c.place t ≠ .out → ∀ e, c.shared.move (c.place t) e = none) :
    (∀ t, c.place t ≠ .out → c.place t = .semaWait) ∧
      (∀ t, c.place t = .semaWait →
        c.shared.acquired = c.shared.signalled ∧
          c.shared.mCount = -((c.total SemaphorePc.waiting : ℕ) : ℤ)) ∧
      -(Fintype.card τ : ℤ) ≤ c.shared.mCount ∧ c.shared.mCount ≤ c.shared.signalled := by
  have hblocked : ∀ t, c.place t ≠ .out → c.place t = .semaWait ∧ c.shared.mSema = 0 := by
    intro t ht
    by_contra hnot
    obtain ⟨e, r, hr⟩ := exists_move (s := c.shared) ht fun hwait =>
      Nat.pos_of_ne_zero fun hzero => hnot ⟨hwait, hzero⟩
    rw [hstuck t ht e] at hr
    cases hr
  refine ⟨fun t ht => (hblocked t ht).1, fun t ht => ?_, mCount_bounds h⟩
  have hsema : c.shared.mSema = 0 := (hblocked t (by rw [ht]; exact nofun)).2
  have hposting : c.total SemaphorePc.posting = 0 := by
    apply Crew.total_eq_zero
    intro u
    by_cases hu : c.place u = .out
    · rw [hu]
      rfl
    · rw [(hblocked u hu).1]
      rfl
  have hone : 1 ≤ c.total SemaphorePc.waiting := by
    have hle := Crew.le_total SemaphorePc.waiting c t
    rwa [ht] at hle
  obtain ⟨hgranted, hwaiting⟩ := balanced h
  dsimp only at hgranted hwaiting
  constructor <;> omega

omit [Fintype τ] in
/-- A thread that finds no permit spins in vain. -/
lemma solo_spin {s : LightweightSemaphore} (hcount : s.mCount ≤ 0) (timed : Bool) (left : ℕ) :
    Crew.solo move s (.spin timed left) (List.replicate (2 * left) .next) =
      some (s, .spin timed 0) := by
  induction left with
  | zero => rfl
  | succ left ih =>
    rw [show 2 * (left + 1) = 2 * left + 1 + 1 by omega, List.replicate_succ,
      List.replicate_succ]
    have hround : s.move (.spinExchange timed left s.mCount) .next = some (s, .spin timed left) :=
      if_neg fun h => by omega
    show ((s.move (.spinExchange timed left s.mCount) .next).bind _) = _
    rw [hround]
    exact ih

omit [Fintype τ] in
/-- A thread that finds no permit blocks in `wait()`. -/
lemma solo_wait {s : LightweightSemaphore} (hcount : s.mCount ≤ 0) :
    Crew.solo move s .out ([.call .wait, .next, .next] ++
        (List.replicate (2 * 10000) .next ++ [.next, .next])) =
      some ({ s with mCount := s.mCount - 1 }, .semaWait) := by
  have hcall : Crew.solo move s .out [.call .wait, .next, .next] = some (s, .spin false 10000) := by
    have hnone : s.move (.tryExchange .wait s.mCount) .next = some (s, .spin false 10000) :=
      if_neg (by omega)
    show ((s.move (.tryExchange .wait s.mCount) .next).bind fun r => some (r.1, r.2)) = _
    rw [hnone]
    rfl
  have hblock : Crew.solo move s (.spin false 0) [.next, .next] =
      some ({ s with mCount := s.mCount - 1 }, .semaWait) := by
    have hnone : s.move (.fetchSub false) .next =
        some ({ s with mCount := s.mCount - 1 }, .semaWait) := if_neg (by omega)
    show ((s.move (.fetchSub false) .next).bind fun r => some (r.1, r.2)) = _
    rw [hnone]
    rfl
  rw [Crew.solo_append, hcall, Option.bind_some, Crew.solo_append, solo_spin hcount,
    Option.bind_some, hblock]

omit [Fintype τ] in
/-- A thread of a crew blocks in `wait()`. -/
lemma reachable_wait (t : τ) (h : (semaphoreCrew τ initialCount).Reachable c)
    (ht : c.place t = .out) (hcount : c.shared.mCount ≤ 0) :
    (semaphoreCrew τ initialCount).Reachable
      ⟨{ c.shared with mCount := c.shared.mCount - 1 }, Function.update c.place t .semaWait⟩ := by
  have hsolo := solo_wait hcount
  rw [← ht] at hsolo
  exact h.run (Crew.run_solo _ (fun _ => move) hsolo)

/-- One thread gives a permit, which another takes, and then both block in `wait()`. -/
theorem allTaken_of_stuck_wait :
    ∃ c, (semaphoreCrew (Fin 2) 0).Reachable c ∧ c.shared.signalled = 1 ∧
      c.place 0 = .semaWait ∧ c.place 1 = .semaWait ∧ c.shared.acquired = c.shared.signalled ∧
        c.shared.mCount = -((c.total SemaphorePc.waiting : ℕ) : ℤ) := by
  have h : ((semaphoreCrew (Fin 2) 0).run ⟨.new 0, fun _ => .out⟩
      [(0, .signal 1), (0, .ret), (1, .call .wait), (1, .next), (1, .next),
        (1, .ret)]).map (fun c => ((c.shared.mCount, c.shared.mSema, c.shared.signalled),
          c.place 0, c.place 1)) = some ((0, 0, 1), .out, .out) := by
    decide +kernel
  obtain ⟨c, hrun, heq⟩ := Option.map_eq_some_iff.mp h
  obtain ⟨hshared, hplace⟩ := Prod.mk.inj heq
  obtain ⟨hcount, hshared⟩ := Prod.mk.inj hshared
  obtain ⟨hsema, hsignalled⟩ := Prod.mk.inj hshared
  obtain ⟨h0, h1⟩ := Prod.mk.inj hplace
  have hreach : (semaphoreCrew (Fin 2) 0).Reachable c :=
    StepSystem.Reachable.run (.init ⟨rfl, fun _ => rfl⟩) hrun
  have hone := reachable_wait 1 hreach h1 hcount.le
  have hout : Function.update c.place 1 .semaWait 0 = .out :=
    (Function.update_of_ne Fin.zero_ne_one _ _).trans h0
  have hboth := reachable_wait 0 hone hout (by dsimp only; omega)
  have hplaces : ∀ t : Fin 2,
      Function.update (Function.update c.place 1 .semaWait) 0 .semaWait t = .semaWait :=
    Fin.forall_fin_two.mpr ⟨Function.update_self ..,
      (Function.update_of_ne (Ne.symm Fin.zero_ne_one) _ _).trans (Function.update_self ..)⟩
  refine ⟨_, hboth, hsignalled, hplaces 0, hplaces 1,
    (allTaken_of_stuck hboth fun t _ e => ?_).2.1 0 (hplaces 0)⟩
  dsimp only
  rw [hplaces t]
  cases e with
  | next => exact if_neg (by dsimp only; omega)
  | _ => rfl

end Runs

end LightweightSemaphore

end UsbTv
