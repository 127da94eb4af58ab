import Mathlib.Data.List.Basic
import UsbTv.Lib.StepSystem

set_option relaxedAutoImplicit false
set_option autoImplicit false

/-!
# Shutting a worker down

A worker tests a running flag, waits for the next entry of a queue, works on it, and tests the
flag again. Another thread shuts it down: it clears the flag, enqueues an empty entry so that the
worker does not wait for ever, joins it, and empties the queue. The test of the flag and the wait
are separate steps, and the empty entry may be consumed before, after or never.

The entries are of any type. The worker may take any entry of the queue, so that nothing depends
on the order in which they come.

## Main definitions

* `Shutdown` — the flag, the queue, and where the two threads stand.
* `shutdown` — all interleavings.
* `Shutdown.Sound` — what holds between any two steps.

## Main results

* `Shutdown.sound_of_reachable` — the handshake is sound.
* `Shutdown.exists_step_of_join` — the join never waits for a worker that cannot go on.
-/

/-- Where the worker stands. -/
inductive Worker
  /-- At the test of the flag. -/
  | test
  /-- In the dequeue, which blocks on an empty queue. -/
  | waiting
  /-- At work on an entry. -/
  | working
  | ended
  deriving DecidableEq, Repr

/-- Where the thread stands that shuts the worker down. -/
inductive Stopper
  /-- It is to clear the flag. -/
  | clear
  /-- It is to enqueue an empty entry. -/
  | enqueue
  /-- It joins the worker. -/
  | join
  /-- It is to empty the queue. -/
  | drain
  | returned
  deriving DecidableEq, Repr

/-- The two threads and what they share. -/
structure Shutdown (ι : Type*) where
  running : Bool
  queue : List (Option ι)
  worker : Worker
  stopper : Stopper
  /-- How many entries the worker has dequeued since the flag was cleared. -/
  taken : ℕ

/-- What can happen to them. -/
inductive ShutdownEvent
  /-- The next step of the thread that shuts the worker down. -/
  | stop
  /-- The worker tests the flag. -/
  | test
  /-- The worker dequeues the entry in place `k`. -/
  | take (k : ℕ)
  /-- The worker is done with its entry. -/
  | work

namespace Shutdown

variable {ι : Type*}

/-- The next step of the thread that shuts the worker down. -/
def stopStep (s : Shutdown ι) : Option (Shutdown ι) :=
  match s.stopper with
  | .clear => some { s with running := false, stopper := .enqueue }
  | .enqueue => some { s with queue := s.queue ++ [none], stopper := .join }
  | .join => if s.worker = .ended then some { s with stopper := .drain } else none
  | .drain => some { s with queue := [], stopper := .returned }
  | .returned => none

/-- One event. An empty entry is passed over. -/
def step (s : Shutdown ι) : ShutdownEvent → Option (Shutdown ι)
  | .stop => s.stopStep
  | .test =>
    if s.worker = .test then
      some { s with worker := if s.running then .waiting else .ended }
    else none
  | .take k =>
    if s.worker = .waiting then
      s.queue[k]?.map fun entry =>
        { s with
          queue := s.queue.eraseIdx k
          worker := if entry.isSome then .working else .test
          taken := if s.running then s.taken else s.taken + 1 }
    else none
  | .work => if s.worker = .working then some { s with worker := .test } else none

end Shutdown

/-- All interleavings of a shutdown that finds the worker running, with any queue. -/
def shutdown (ι : Type*) : StepSystem (Shutdown ι) ShutdownEvent where
  Init s := s.running = true ∧ s.worker ≠ .ended ∧ s.stopper = .clear ∧ s.taken = 0
  step := Shutdown.step

namespace Shutdown

variable {ι : Type*}

/-- What each event does. -/
lemma step_cases {s s' : Shutdown ι} {e : ShutdownEvent} (h : s.step e = some s') :
    s.stopStep = some s' ∨
      (s.worker = .test ∧ s' = { s with worker := if s.running then .waiting else .ended }) ∨
      (s.worker = .waiting ∧ ∃ k pc, (pc = .test ∨ pc = .working) ∧ s' = { s with
        queue := s.queue.eraseIdx k
        worker := pc
        taken := if s.running then s.taken else s.taken + 1 }) ∨
      s.worker = .working ∧ s' = { s with worker := .test } := by
  cases e with
  | stop => exact .inl h
  | test =>
    by_cases hpc : s.worker = .test
    · rw [step, if_pos hpc] at h
      exact .inr (.inl ⟨hpc, (Option.some_inj.mp h).symm⟩)
    · rw [step, if_neg hpc] at h
      exact absurd h (by simp)
  | take k =>
    by_cases hpc : s.worker = .waiting
    · rw [step, if_pos hpc] at h
      obtain ⟨entry, -, rfl⟩ := Option.map_eq_some_iff.mp h
      refine .inr (.inr (.inl ⟨hpc, k, _, ?_, rfl⟩))
      cases entry
      · exact .inl rfl
      · exact .inr rfl
    · rw [step, if_neg hpc] at h
      exact absurd h (by simp)
  | work =>
    by_cases hpc : s.worker = .working
    · rw [step, if_pos hpc] at h
      exact .inr (.inr (.inr ⟨hpc, (Option.some_inj.mp h).symm⟩))
    · rw [step, if_neg hpc] at h
      exact absurd h (by simp)

/-- How many entries the worker can still dequeue once the flag is cleared: one if it waits for it
already. -/
def budget (s : Shutdown ι) : ℕ := if s.worker = .waiting then 1 else 0

lemma budget_le_one (s : Shutdown ι) : s.budget ≤ 1 := by
  unfold budget
  split_ifs <;> omega

/-- What the handshake keeps between any two steps. -/
structure Sound (s : Shutdown ι) : Prop where
  running : s.stopper = .clear → s.running = true ∧ s.worker ≠ .ended ∧ s.taken = 0
  cleared : s.stopper ≠ .clear → s.running = false
  /-- A worker that waits while it is joined has an empty entry to take. -/
  woken : s.stopper = .join → s.worker = .waiting → none ∈ s.queue
  /-- After the flag is cleared the worker dequeues at most one entry. -/
  taken_le : s.stopper ≠ .clear → s.taken + s.budget ≤ 1
  joined : s.stopper = .drain ∨ s.stopper = .returned → s.worker = .ended
  drained : s.stopper = .returned → s.queue = []

/-- The steps of the thread that shuts the worker down. -/
lemma sound_stopStep {s s' : Shutdown ι} (hs : Sound s) (h : s.stopStep = some s') : Sound s' := by
  unfold stopStep at h
  split at h
  · next hpc =>
    obtain rfl := Option.some_inj.mp h
    obtain ⟨-, -, htaken⟩ := hs.running hpc
    refine ⟨by simp, fun _ => rfl, by simp, fun _ => ?_, by simp, by simp⟩
    show s.taken + s.budget ≤ 1
    rw [htaken, Nat.zero_add]
    exact s.budget_le_one
  · next hpc =>
    obtain rfl := Option.some_inj.mp h
    have hne : s.stopper ≠ .clear := by simp [hpc]
    exact ⟨by simp, fun _ => hs.cleared hne, by simp, fun _ => hs.taken_le hne, by simp, by simp⟩
  · next hpc =>
    split_ifs at h with hended
    obtain rfl := Option.some_inj.mp h
    have hne : s.stopper ≠ .clear := by simp [hpc]
    exact ⟨by simp, fun _ => hs.cleared hne, by simp, fun _ => hs.taken_le hne, fun _ => hended,
      by simp⟩
  · next hpc =>
    obtain rfl := Option.some_inj.mp h
    have hne : s.stopper ≠ .clear := by simp [hpc]
    exact ⟨by simp, fun _ => hs.cleared hne, by simp, fun _ => hs.taken_le hne,
      fun _ => hs.joined (.inl hpc), fun _ => rfl⟩
  · exact absurd h (by simp)

/-- A worker that moves keeps the handshake sound, if it comes to wait only while the flag is set,
and to its end only while it is not, and takes no more than it may. -/
lemma Sound.withWorker {s : Shutdown ι} (hs : Sound s) (hwork : s.worker ≠ .ended)
    {queue : List (Option ι)} {pc : Worker} {taken : ℕ}
    (hwaiting : pc = .waiting → s.running = true) (hended : pc = .ended → s.running = false)
    (hrun : s.running = true → taken = s.taken)
    (htaken : s.running = false → taken ≤ s.taken + s.budget) :
    Sound { s with queue := queue, worker := pc, taken := taken } := by
  have hnot : ¬ (s.stopper = .drain ∨ s.stopper = .returned) := fun hpc => hwork (hs.joined hpc)
  refine ⟨fun hpc => ?_, hs.cleared, fun hpc hwait => ?_, fun hpc => ?_, fun hpc => absurd hpc hnot,
    fun hpc => absurd (.inr hpc) hnot⟩
  · obtain ⟨hrunning, -, hzero⟩ := hs.running hpc
    refine ⟨hrunning, fun hend => ?_, (hrun hrunning).trans hzero⟩
    exact absurd (hrunning.symm.trans (hended hend)) (by simp)
  · have hcleared := hs.cleared (by rw [show s.stopper = .join from hpc]; simp)
    exact absurd ((hwaiting hwait).symm.trans hcleared) (by simp)
  · have hcleared := hs.cleared hpc
    have hle := hs.taken_le hpc
    have htake := htaken hcleared
    have hpc' : pc ≠ .waiting := fun hwait =>
      absurd ((hwaiting hwait).symm.trans hcleared) (by simp)
    simp only [budget, hpc', if_false]
    omega

/-- **Each step keeps the handshake sound.**

**Proof sketch.** Once the flag is cleared the worker does not come to wait again, because it tests
the flag first. So it dequeues at most the entry that it waits for, and if it still waits when it is
joined, it has not taken the empty entry. -/
lemma sound_step {s s' : Shutdown ι} {e : ShutdownEvent} (hs : Sound s)
    (h : s.step e = some s') : Sound s' := by
  rcases step_cases h with hstop | ⟨hpc, rfl⟩ | ⟨hpc, k, pc, hmoved, rfl⟩ | ⟨hpc, rfl⟩
  · exact sound_stopStep hs hstop
  · refine hs.withWorker (by simp [hpc]) ?_ ?_ (fun _ => rfl) (fun _ => Nat.le_add_right _ _)
    · split_ifs with hrun
      · exact fun _ => hrun
      · simp
    · split_ifs with hrun
      · simp
      · exact fun _ => by simpa using hrun
  · refine hs.withWorker (by simp [hpc]) ?_ ?_ (fun hrun => if_pos hrun) (fun hrun => ?_)
    · rcases hmoved with rfl | rfl <;> simp
    · rcases hmoved with rfl | rfl <;> simp
    · simp [budget, hpc, hrun]
  · exact hs.withWorker (by simp [hpc]) (by simp) (by simp) (fun _ => rfl)
      (fun _ => Nat.le_add_right _ _)

/-- **The handshake is sound** between any two steps. -/
theorem sound_of_reachable {s : Shutdown ι} (h : (shutdown ι).Reachable s) : Sound s := by
  refine StepSystem.ReachableUnder.invariant (I := Sound) ?_
    (fun s e s' _ hs _ hstep => sound_step hs hstep) h
  rintro s ⟨hrun, hended, hclear, htaken⟩
  exact ⟨fun _ => ⟨hrun, hended, htaken⟩, fun hne => absurd hclear hne, by simp [hclear],
    fun hne => absurd hclear hne, by simp [hclear], by simp [hclear]⟩

/-- **The join never waits for a worker that cannot go on**: unless the worker has ended it can take
a step, and if it waits for an entry, the first one is there. -/
theorem exists_step_of_join {s : Shutdown ι} (hs : Sound s) (hjoin : s.stopper = .join)
    (hended : s.worker ≠ .ended) :
    ∃ e s', (e = .test ∨ e = .take 0 ∨ e = .work) ∧ s.step e = some s' := by
  cases hpc : s.worker with
  | test => exact ⟨.test, _, .inl rfl, by simp only [step, hpc, if_true]; rfl⟩
  | waiting =>
    cases hqueue : s.queue with
    | nil =>
      have hmem := hs.woken hjoin hpc
      simp [hqueue] at hmem
    | cons entry queue =>
      exact ⟨.take 0, _, .inr (.inl rfl), by rw [step, if_pos hpc, hqueue]; rfl⟩
  | working => exact ⟨.work, _, .inr (.inr rfl), by simp only [step, hpc, if_true]; rfl⟩
  | ended => exact absurd hpc hended

end Shutdown
