import Mathlib.Algebra.BigOperators.Group.Multiset.Basic
import Mathlib.Data.Multiset.AddSub
import Mathlib.Tactic.Abel
import UsbTv.Queue.Calls

set_option relaxedAutoImplicit false
set_option autoImplicit false

/-!
# Calls and answers

The history of a queue is what its callers know of it: which calls were made, and what they have
returned, in their order. Every history of `BlockingConcurrentQueue` is one of a list to which its
threads append, and from which they take the oldest entry of some producer.

## Main definitions

* `UsbTv.CallLabel` — a call, or what it returns.
* `UsbTv.queueLabel`, `UsbTv.callLabel` — what is seen of a step of the queue, and of the list.
* `UsbTv.called`, `UsbTv.returned`, `UsbTv.refusals` — the elements that `enqueue` was called with,
  those that were returned, and how many were refused.

## Main results

* `UsbTv.BlockingConcurrentQueue.history_eq` — the histories of the queue.
* `UsbTv.BlockingConcurrentQueue.drained_of_failed` — what a thread gets that is alone and calls
  `try_dequeue` until it fails.
-/

namespace UsbTv

/-! ## Labels -/

/-- A call, or what it returns. -/
inductive CallLabel (α : Type*)
  /-- `enqueue` or `try_enqueue` is called. -/
  | enqueue (item : α)
  | enqueued (success : Bool)
  /-- `wait_dequeue` or `try_dequeue` is called. -/
  | dequeue (blocking : Bool)
  | dequeued (result : Option α)
  deriving DecidableEq

/-- What a thread that leaves the list returns. -/
def CallPc.answer {α : Type*} : CallPc α → List (CallLabel α)
  | .enqueued success => [.enqueued success]
  | .dequeued result => [.dequeued result]
  | .out | .enqueuing _ | .dequeuing _ => []

/-- What a thread that leaves the queue returns. -/
def QueuePc.answer {τ α : Type*} : QueuePc τ α → List (CallLabel α)
  | .enqueued success => [.enqueued success]
  | .done result => [.dequeued result]
  | _ => []

/-- What is seen of a thread that moves in the list. -/
def callLabel {τ α : Type*} (t : τ) : CallPc α → CallEvent τ α → List (τ × CallLabel α)
  | _, .enqueue item => [(t, .enqueue item)]
  | _, .dequeue blocking => [(t, .dequeue blocking)]
  | pc, .ret => pc.answer.map fun l => (t, l)
  | _, .append | _, .refuse | _, .commit | _, .take _ | _, .fail => []

/-- What is seen of a thread that moves in the queue. -/
def queueLabel {τ α : Type*} (t : τ) : QueuePc τ α → QueueEvent α → List (τ × CallLabel α)
  | _, .enqueue item => [(t, .enqueue item)]
  | _, .dequeue blocking => [(t, .dequeue blocking)]
  | pc, .ret => pc.answer.map fun l => (t, l)
  | _, .next | _, .refuse | _, .fail => []

section Histories

variable {τ α : Type*}

/-- The elements that `enqueue` was called with. -/
def called (tr : List (τ × CallLabel α)) : Multiset α :=
  (tr.filterMap fun x => match x.2 with
    | .enqueue item => some item
    | _ => none : List α)

/-- The elements that `enqueue` was called with by a thread, in their order. -/
def calledBy [DecidableEq τ] (p : τ) (tr : List (τ × CallLabel α)) : List α :=
  tr.filterMap fun x => match x.2 with
    | .enqueue item => if x.1 = p then some item else none
    | _ => none

/-- The elements that were returned. -/
def returned (tr : List (τ × CallLabel α)) : Multiset α :=
  (tr.filterMap fun x => match x.2 with
    | .dequeued result => result
    | _ => none : List α)

/-- How many calls of `enqueue` have returned `false`. -/
def refusals (tr : List (τ × CallLabel α)) : ℕ :=
  tr.countP fun x => match x.2 with
    | .enqueued success => !success
    | _ => false

/-- The last that is seen of a thread. -/
def LastOf (tr : List (τ × CallLabel α)) (t : τ) (l : CallLabel α) : Prop :=
  ∃ before after, tr = before ++ (t, l) :: after ∧ ∀ x ∈ after, x.1 ≠ t

lemma called_append (tr tr' : List (τ × CallLabel α)) :
    called (tr ++ tr') = called tr + called tr' := by
  simp [called]

lemma calledBy_append [DecidableEq τ] (p : τ) (tr tr' : List (τ × CallLabel α)) :
    calledBy p (tr ++ tr') = calledBy p tr ++ calledBy p tr' := List.filterMap_append ..

lemma returned_append (tr tr' : List (τ × CallLabel α)) :
    returned (tr ++ tr') = returned tr + returned tr' := by
  simp [returned]

lemma refusals_append (tr tr' : List (τ × CallLabel α)) :
    refusals (tr ++ tr') = refusals tr + refusals tr' := List.countP_append

/-- What is seen of a thread is the last of it. -/
lemma LastOf.concat (tr : List (τ × CallLabel α)) (t : τ) (l : CallLabel α) :
    LastOf (tr ++ [(t, l)]) t l := ⟨tr, [], rfl, nofun⟩

/-- What is seen of the others does not matter. -/
lemma LastOf.append {tr tr' : List (τ × CallLabel α)} {t : τ} {l : CallLabel α}
    (h : LastOf tr t l) (htr : ∀ x ∈ tr', x.1 ≠ t) : LastOf (tr ++ tr') t l := by
  obtain ⟨before, after, rfl, hafter⟩ := h
  refine ⟨before, after ++ tr', by simp, fun x hx => ?_⟩
  rcases List.mem_append.mp hx with hx | hx
  · exact hafter x hx
  · exact htr x hx

end Histories

/-! ## Histories of the list -/

namespace CallPc

variable {α : Type*}

/-- The element that a thread is about to append. -/
def pending : CallPc α → List α
  | enqueuing item => [item]
  | out | enqueued _ | dequeuing _ | dequeued _ => []

/-- The element that a thread has taken, and not returned with. -/
def taken : CallPc α → List α
  | dequeued (some item) => [item]
  | out | enqueuing _ | enqueued _ | dequeuing _ | dequeued none => []

/-- The thread was refused, and has not returned. -/
def refused : CallPc α → ℕ
  | enqueued false => 1
  | out | enqueuing _ | enqueued true | dequeuing _ | dequeued _ => 0

end CallPc

section CallMove

variable {τ α : Type*} [DecidableEq τ] {t : τ} {entries entries' : List (τ × α)}
  {pc pc' : CallPc α} {e : CallEvent τ α}

/-- **What a move does to the elements**: each that `enqueue` is called with is about to be
appended, in the list, taken, returned, or refused. -/
lemma callMove_elements (h : callMove t entries pc e = some (entries', pc')) :
    ∃ m : Multiset α,
      called (callLabel t pc e) +
          ((entries.map Prod.snd : List α) + pc.pending + pc.taken) =
        returned (callLabel t pc e) +
          ((entries'.map Prod.snd : List α) + pc'.pending + pc'.taken) + m ∧
      m.card + pc.refused = refusals (callLabel t pc e) + pc'.refused := by
  unfold callMove at h
  split at h
  · cases h
    refine ⟨0, ?_, rfl⟩
    simp [callLabel, called, returned, CallPc.pending, CallPc.taken, add_comm]
  · cases h
    refine ⟨0, ?_, rfl⟩
    simp [callLabel, called, returned, CallPc.pending, CallPc.taken, ← Multiset.coe_add]
  · -- the element is refused
    rename_i item
    cases h
    refine ⟨{item}, ?_, rfl⟩
    simp [callLabel, called, returned, CallPc.pending, CallPc.taken]
  · rename_i success
    cases h
    refine ⟨0, ?_, ?_⟩
    · simp [callLabel, CallPc.answer, called, returned, CallPc.pending, CallPc.taken]
    · cases success <;> rfl
  · cases h
    refine ⟨0, ?_, rfl⟩
    simp [callLabel, called, returned, CallPc.pending, CallPc.taken]
  · cases h
    refine ⟨0, ?_, rfl⟩
    simp [callLabel, called, returned, CallPc.pending, CallPc.taken]
  · -- the oldest entry of a producer
    obtain ⟨x, hfind, heq⟩ := Option.map_eq_some_iff.mp h
    obtain ⟨rfl, rfl⟩ := Prod.mk.inj heq
    refine ⟨0, ?_, rfl⟩
    have hperm := (BlockingConcurrentQueue.perm_cons_eraseP hfind).map Prod.snd
    rw [← Multiset.coe_eq_coe, List.map_cons, ← Multiset.cons_coe,
      ← Multiset.singleton_add] at hperm
    simp [callLabel, called, returned, CallPc.pending, CallPc.taken, hperm, add_comm]
  · cases h
    refine ⟨0, ?_, rfl⟩
    simp [callLabel, called, returned, CallPc.pending, CallPc.taken]
  · rename_i result
    cases h
    refine ⟨0, ?_, rfl⟩
    cases result <;>
      simp [callLabel, CallPc.answer, called, returned, CallPc.pending, CallPc.taken, add_comm]
  · cases h

/-- An entry that leaves the list is taken, and what was taken is returned. -/
lemma taken_of_callMove (h : callMove t entries pc e = some (entries', pc')) :
    (∃ item, entries' = entries ++ [(t, item)] ∧ pc.taken = [] ∧ pc'.taken = [] ∧
      callLabel t pc e = []) ∨
    ((entries.map Prod.snd : List α) + pc.taken : Multiset α) =
      (entries'.map Prod.snd : List α) + pc'.taken + returned (callLabel t pc e) := by
  unfold callMove at h
  split at h
  · cases h
    exact .inr (add_zero _).symm
  · rename_i item
    cases h
    exact .inl ⟨item, rfl, rfl, rfl, rfl⟩
  · cases h
    exact .inr (add_zero _).symm
  · cases h
    exact .inr (add_zero _).symm
  · cases h
    exact .inr (add_zero _).symm
  · cases h
    exact .inr (add_zero _).symm
  · -- the oldest entry of a producer
    right
    obtain ⟨x, hfind, heq⟩ := Option.map_eq_some_iff.mp h
    obtain ⟨rfl, rfl⟩ := Prod.mk.inj heq
    have hperm := (BlockingConcurrentQueue.perm_cons_eraseP hfind).map Prod.snd
    rw [← Multiset.coe_eq_coe, List.map_cons, ← Multiset.cons_coe,
      ← Multiset.singleton_add] at hperm
    simp [callLabel, returned, CallPc.taken, hperm, add_comm]
  · cases h
    exact .inr (add_zero _).symm
  · rename_i result
    cases h
    right
    cases result <;> simp [callLabel, CallPc.answer, returned, CallPc.taken]
  · cases h

/-- A thread that is about to append an element was called with it. -/
lemma pending_of_callMove (h : callMove t entries pc e = some (entries', pc')) :
    pc'.pending.Sublist (pc.pending ++ calledBy t (callLabel t pc e)) := by
  unfold callMove at h
  split at h
  · -- the call
    rename_i item
    cases h
    have hcalled : calledBy t (callLabel t (.out : CallPc α) (.enqueue item)) = [item] := by
      simp [calledBy, callLabel]
    rw [hcalled]
    exact .refl _
  · cases h
    exact List.nil_sublist _
  · cases h
    exact List.nil_sublist _
  · cases h
    exact List.nil_sublist _
  · cases h
    exact List.nil_sublist _
  · cases h
    exact List.nil_sublist _
  · obtain ⟨x, -, heq⟩ := Option.map_eq_some_iff.mp h
    cases heq
    exact List.nil_sublist _
  · cases h
    exact List.nil_sublist _
  · cases h
    exact List.nil_sublist _
  · cases h

omit [DecidableEq τ] in
/-- What is seen of a move is seen of the thread that moves. -/
lemma fst_of_mem_callLabel {x : τ × CallLabel α} (hx : x ∈ callLabel t pc e) : x.1 = t := by
  cases e with
  | enqueue item => rw [List.mem_singleton.mp hx]
  | dequeue blocking => rw [List.mem_singleton.mp hx]
  | ret =>
    obtain ⟨l, -, rfl⟩ := List.mem_map.mp hx
    rfl
  | append | refuse | commit | take _ | fail => cases hx

/-- Nothing is seen of a move within a call. -/
lemma callLabel_eq_nil (h : callMove t entries pc e = some (entries', pc')) (hpc : pc ≠ .out)
    (hpc' : pc' ≠ .out) : callLabel t pc e = [] := by
  unfold callMove at h
  split at h
  · exact absurd rfl hpc
  · rfl
  · rfl
  · exact absurd (Prod.mk.inj (Option.some_inj.mp h)).2.symm hpc'
  · exact absurd rfl hpc
  · rfl
  · rfl
  · rfl
  · exact absurd (Prod.mk.inj (Option.some_inj.mp h)).2.symm hpc'
  · cases h

/-- A thread that may fail, or has failed, was called by `try_dequeue`. -/
lemma callMove_mayFail {tr : List (τ × CallLabel α)}
    (h : callMove t entries pc e = some (entries', pc'))
    (hpc : pc = .dequeuing true ∨ pc = .dequeued none → LastOf tr t (.dequeue false))
    (hpc' : pc' = .dequeuing true ∨ pc' = .dequeued none) :
    LastOf (tr ++ callLabel t pc e) t (.dequeue false) := by
  unfold callMove at h
  split at h
  · cases h
    rcases hpc' with hpc' | hpc' <;> cases hpc'
  · cases h
    rcases hpc' with hpc' | hpc' <;> cases hpc'
  · cases h
    rcases hpc' with hpc' | hpc' <;> cases hpc'
  · cases h
    rcases hpc' with hpc' | hpc' <;> cases hpc'
  · -- the call
    rename_i blocking
    cases h
    cases blocking with
    | true => rcases hpc' with hpc' | hpc' <;> cases hpc'
    | false => exact .concat tr t _
  · cases h
    rcases hpc' with hpc' | hpc' <;> cases hpc'
  · obtain ⟨x, -, heq⟩ := Option.map_eq_some_iff.mp h
    cases heq
    rcases hpc' with hpc' | hpc' <;> cases hpc'
  · -- the failure
    cases h
    exact (hpc (.inl rfl)).append nofun
  · cases h
    rcases hpc' with hpc' | hpc' <;> cases hpc'
  · cases h

end CallMove

section EntryTraces

variable {τ α : Type*} [DecidableEq τ] {tr : List (τ × CallLabel α)}
  {C : Crew (List (τ × α)) (CallPc α) τ → τ × CallEvent τ α → Prop}
  {c : Crew (List (τ × α)) (CallPc α) τ}

/-- The histories of the list. -/
abbrev EntryTraces (C : Crew (List (τ × α)) (CallPc α) τ → τ × CallEvent τ α → Prop) :
    List (τ × CallLabel α) → Crew (List (τ × α)) (CallPc α) τ → Prop :=
  (entryCrew τ α).Traces (fun c e => callLabel e.1 (c.place e.1) e.2) C

/-- The elements that are about to be appended. -/
def pendingElements [Fintype τ] (c : Crew (List (τ × α)) (CallPc α) τ) : Multiset α :=
  c.total fun pc => (pc.pending : Multiset α)

/-- The elements that were taken, and not returned. -/
def takenElements [Fintype τ] (c : Crew (List (τ × α)) (CallPc α) τ) : Multiset α :=
  c.total fun pc => (pc.taken : Multiset α)

/-- Each element that `enqueue` was called with is about to be appended, in the list, taken,
returned, or refused. -/
def AllThere [Fintype τ] (tr : List (τ × CallLabel α)) (c : Crew (List (τ × α)) (CallPc α) τ) :
    Prop :=
  ∃ m : Multiset α,
    called tr =
      returned tr + ((c.shared.map Prod.snd : List α) + pendingElements c + takenElements c) + m ∧
    m.card = refusals tr + c.total CallPc.refused

/-- **Nothing is lost, doubled or changed** in the histories of the list. -/
theorem allThere [Fintype τ] (h : EntryTraces C tr c) : AllThere tr c := by
  refine StepSystem.Traces.invariant (I := AllThere) (fun c hinit => ?_)
    (fun tr c e c' _ hI _ hstep => ?_) h
  · obtain ⟨hshared, hout⟩ := hinit
    have hpending : pendingElements c = 0 := Crew.total_eq_zero fun t => by rw [hout t]; rfl
    have htaken : takenElements c = 0 := Crew.total_eq_zero fun t => by rw [hout t]; rfl
    refine ⟨0, ?_, ?_⟩
    · rw [hshared, hpending, htaken]
      rfl
    · rw [Crew.total_eq_zero fun t => by rw [hout t]; rfl]
      rfl
  · obtain ⟨t, e⟩ := e
    obtain ⟨entries, pc, hmove, rfl⟩ := Crew.step_eq_some.mp hstep
    obtain ⟨m, hm, hcard⟩ := hI
    obtain ⟨m', hm', hcard'⟩ := callMove_elements hmove
    refine ⟨m + m', ?_, ?_⟩
    · unfold pendingElements takenElements at hm ⊢
      rw [Crew.total_eq _ c t, Crew.total_eq (fun pc => (pc.taken : Multiset α)) c t] at hm
      rw [called_append, returned_append, Crew.total_update, Crew.total_update, hm]
      generalize ∑ u ∈ Finset.univ.erase t, ((c.place u).pending : Multiset α) = pending
      generalize ∑ u ∈ Finset.univ.erase t, ((c.place u).taken : Multiset α) = taken
      dsimp only at hm' ⊢
      generalize ((c.shared.map Prod.snd : List α) : Multiset α) = before at hm' ⊢
      generalize ((entries.map Prod.snd : List α) : Multiset α) = after at hm' ⊢
      calc returned tr + (before + ((c.place t).pending + pending) +
            ((c.place t).taken + taken)) + m + called (callLabel t (c.place t) e)
          = called (callLabel t (c.place t) e) + (before + (c.place t).pending +
              (c.place t).taken) + (returned tr + pending + taken + m) := by
            abel
        _ = returned (callLabel t (c.place t) e) + (after + pc.pending + pc.taken) + m' +
              (returned tr + pending + taken + m) := by
            rw [hm']
        _ = _ := by
            abel
    · dsimp only
      rw [refusals_append, Crew.total_update, Multiset.card_add, hcard,
        Crew.total_eq CallPc.refused c t]
      omega

/-- **`wait_dequeue` does not fail**: a thread that is about to return without an element has called
`try_dequeue`. -/
theorem lastOf_failed (h : EntryTraces C tr c) (t : τ)
    (ht : c.place t = .dequeuing true ∨ c.place t = .dequeued none) :
    LastOf tr t (.dequeue false) := by
  suffices hall : ∀ t, c.place t = .dequeuing true ∨ c.place t = .dequeued none →
      LastOf tr t (.dequeue false) from hall t ht
  refine StepSystem.Traces.invariant
    (I := fun (tr : List (τ × CallLabel α)) (c : Crew (List (τ × α)) (CallPc α) τ) =>
      ∀ t, c.place t = .dequeuing true ∨ c.place t = .dequeued none →
        LastOf tr t (.dequeue false))
    (fun c hinit u hu => ?_) (fun tr c e c' _ hI _ hstep u hu => ?_) h
  · rw [hinit.2 u] at hu
    rcases hu with hu | hu <;> cases hu
  · obtain ⟨t, e⟩ := e
    obtain ⟨entries, pc, hmove, rfl⟩ := Crew.step_eq_some.mp hstep
    by_cases hut : u = t
    · subst hut
      dsimp only at hu
      rw [Function.update_self] at hu
      exact callMove_mayFail hmove (hI u) hu
    · dsimp only at hu
      rw [Function.update_of_ne hut] at hu
      exact (hI u hu).append fun x hx hxu => hut (hxu.symm.trans (fst_of_mem_callLabel hx))

end EntryTraces

/-! ## Histories of the queue -/

namespace BlockingConcurrentQueue

variable {τ α : Type*} [DecidableEq τ] {w : ℕ} {t : τ} {q q' : BlockingConcurrentQueue τ α}
  {pc pc' : QueuePc τ α} {e : QueueEvent α} {tr : List (τ × CallLabel α)}
  {C : Crew (BlockingConcurrentQueue τ α) (QueuePc τ α) τ → τ × QueueEvent α → Prop}
  {c c' : Crew (BlockingConcurrentQueue τ α) (QueuePc τ α) τ}

/-- The histories of the queue. -/
abbrev QueueTraces (w : ℕ)
    (C : Crew (BlockingConcurrentQueue τ α) (QueuePc τ α) τ → τ × QueueEvent α → Prop) :
    List (τ × CallLabel α) → Crew (BlockingConcurrentQueue τ α) (QueuePc τ α) τ → Prop :=
  (queueCrew τ α w).Traces (fun c e => queueLabel e.1 (c.place e.1) e.2) C

/-- **The callers see the same of a move** of the queue and of the list. -/
lemma label_of_move (h : q.move w t pc e = some (q', pc')) (hseen : Seen t q pc q' pc') :
    (q'.entries = q.entries ∧ pc'.seen q' = pc.seen q ∧ queueLabel t pc e = []) ∨
      ∃ e', callMove t q.entries (pc.seen q) e' = some (q'.entries, pc'.seen q') ∧
        callLabel t (pc.seen q) e' = queueLabel t pc e := by
  have hwithin : e = .next ∨ e = .refuse ∨ e = .fail →
      (q'.entries = q.entries ∧ pc'.seen q' = pc.seen q ∧ queueLabel t pc e = []) ∨
        ∃ e', callMove t q.entries (pc.seen q) e' = some (q'.entries, pc'.seen q') ∧
          callLabel t (pc.seen q) e' = queueLabel t pc e := by
    intro he
    have hnone : queueLabel t pc e = [] := by
      rcases he with rfl | rfl | rfl <;> rfl
    have hin : pc.seen q ≠ .out := fun hout => ne_out_of_move h he (QueuePc.seen_eq_out.mp hout)
    have hin' : pc'.seen q' ≠ .out := by
      intro hout
      rw [QueuePc.seen_eq_out.mp hout] at h
      obtain rfl := eq_ret_of_move h
      rcases he with he | he | he <;> cases he
    rcases hseen with ⟨hentries, hsame⟩ | ⟨e', hcall⟩
    · exact .inl ⟨hentries, hsame, hnone⟩
    · refine .inr ⟨e', hcall, ?_⟩
      rw [hnone, callLabel_eq_nil hcall hin hin']
  cases e with
  | enqueue item =>
    obtain ⟨rfl, rfl, hpc'⟩ := move_enqueue h
    exact .inr ⟨.enqueue item, by rw [hpc']; rfl, rfl⟩
  | dequeue blocking =>
    right
    refine ⟨.dequeue blocking, ?_, rfl⟩
    cases pc with
    | out =>
      cases h
      rfl
    | _ => cases (move_dequeue h rfl).1
  | ret =>
    obtain ⟨⟨success, rfl⟩ | ⟨result, rfl⟩, rfl, rfl⟩ := move_ret h
    · exact .inr ⟨.ret, rfl, rfl⟩
    · exact .inr ⟨.ret, rfl, rfl⟩
  | next => exact hwithin (.inl rfl)
  | refuse => exact hwithin (.inr (.inl rfl))
  | fail => exact hwithin (.inr (.inr rfl))

/-- **What is on record as dequeued** was taken, or returned. -/
lemma dequeued_of_move (h : q.move w t pc e = some (q', pc')) (hseen : Seen t q pc q' pc') :
    ((q'.dequeued.map Prod.snd : List α) + (pc.seen q).taken : Multiset α) =
      (q.dequeued.map Prod.snd : List α) + (pc'.seen q').taken + returned (queueLabel t pc e) := by
  have hlist : (∃ item, q'.entries = q.entries ++ [(t, item)] ∧ (pc.seen q).taken = [] ∧
      (pc'.seen q').taken = [] ∧ queueLabel t pc e = []) ∨
      ((q.entries.map Prod.snd : List α) + (pc.seen q).taken : Multiset α) =
        (q'.entries.map Prod.snd : List α) + (pc'.seen q').taken +
          returned (queueLabel t pc e) := by
    rcases label_of_move h hseen with ⟨hentries, hsame, hnone⟩ | ⟨e', hcall, hlabel⟩
    · rw [hentries, hsame, hnone]
      exact .inr (add_zero _).symm
    · rw [← hlabel]
      exact taken_of_callMove hcall
  rcases perm_of_effect (move_effect h) with ⟨item, rfl, hdequeued, hentries⟩ | ⟨hperm, hle⟩
  · -- an entry is appended
    rcases hlist with ⟨item', -, htaken, htaken', hnone⟩ | hlist
    · rw [hdequeued, htaken, htaken', hnone]
      exact (add_zero _).symm
    · have hcard := congrArg Multiset.card hlist
      simp only [hentries, List.map_append, Multiset.card_add, Multiset.coe_card,
        List.length_append, List.length_map, List.length_singleton, QueuePc.seen, CallPc.taken,
        List.length_nil] at hcard
      omega
  · rcases hlist with ⟨item, hentries, -, -, -⟩ | hlist
    · rw [hentries, List.length_append, List.length_singleton] at hle
      omega
    · have hrecord := Multiset.coe_eq_coe.mpr (hperm.map Prod.snd)
      rw [List.map_append, List.map_append, ← Multiset.coe_add, ← Multiset.coe_add] at hrecord
      refine add_right_cancel (b := ((q'.entries.map Prod.snd : List α) : Multiset α)) ?_
      rw [add_right_comm, hrecord, add_assoc, hlist]
      abel

variable [Fintype τ]

/-- **The histories of the queue are histories of the list.** -/
theorem entryTraces_of_queueTraces (hw : 0 < w) (h : QueueTraces w (ComparesStep w) tr c) :
    EntryTraces (fun _ _ => True) tr (seenBy c) := by
  refine h.map (fun c hinit => ?_) (fun c e c' hreach _ hstep => ?_)
  · obtain ⟨hshared, hout⟩ := hinit
    refine ⟨?_, fun t => ?_⟩
    · show c.shared.entries = _
      rw [hshared]
      rfl
    · show (c.place t).seen c.shared = _
      rw [hout t]
      rfl
  · obtain ⟨t, e⟩ := e
    obtain ⟨q, pc, hmove, rfl⟩ := Crew.step_eq_some.mp hstep
    have hrest : ∀ u ≠ t, (c.place u).seen q = (c.place u).seen c.shared := fun u _ =>
      seen_of_others hw hreach hmove u
    have hseen := seen_of_move hmove (place_ok hreach t) (recorded hw hreach) fun p hp =>
      head_lt_tail hw hreach hp
    rcases label_of_move hmove hseen with ⟨hentries, hsame, hnone⟩ | ⟨e', hcall, hlabel⟩
    · exact .inl ⟨Crew.view_update_of_eq hentries hsame hrest, hnone⟩
    · exact .inr ⟨(t, e'), trivial, Crew.view_step hcall hrest, hlabel⟩

/-- What was dequeued is about to be returned, or was. -/
lemma dequeued_eq (hw : 0 < w) (h : QueueTraces w (ComparesStep w) tr c) :
    ((c.shared.dequeued.map Prod.snd : List α) : Multiset α) =
      returned tr + takenElements (seenBy c) := by
  refine StepSystem.Traces.invariant
    (I := fun (tr : List (τ × CallLabel α))
      (c : Crew (BlockingConcurrentQueue τ α) (QueuePc τ α) τ) =>
        ((c.shared.dequeued.map Prod.snd : List α) : Multiset α) =
          returned tr + takenElements (seenBy c))
    (fun c hinit => ?_) (fun tr c e c' htr hI _ hstep => ?_) h
  · obtain ⟨hshared, hout⟩ := hinit
    have htaken : takenElements (seenBy c) = 0 := Crew.total_eq_zero fun t => by
      show (((c.place t).seen c.shared).taken : Multiset α) = 0
      rw [hout t]
      rfl
    rw [hshared, htaken]
    rfl
  · obtain ⟨t, e⟩ := e
    obtain ⟨q, pc, hmove, rfl⟩ := Crew.step_eq_some.mp hstep
    have hseen := seen_of_move hmove (place_ok htr.reachable t) (recorded hw htr.reachable)
      fun p hp => head_lt_tail hw htr.reachable hp
    have hmoved := dequeued_of_move hmove hseen
    have hview : seenBy ⟨q, Function.update c.place t pc⟩ =
        ⟨q.entries, Function.update (seenBy c).place t (pc.seen q)⟩ :=
      Crew.view_update fun u _ => seen_of_others hw htr.reachable hmove u
    unfold takenElements at hI ⊢
    rw [hview, Crew.total_update, returned_append]
    rw [Crew.total_eq (fun pc => (pc.taken : Multiset α)) (seenBy c) t] at hI
    generalize ∑ u ∈ Finset.univ.erase t, (((seenBy c).place u).taken : Multiset α) = taken at hI ⊢
    have hplace : (seenBy c).place t = (c.place t).seen c.shared := rfl
    rw [hplace] at hI
    dsimp only
    refine add_right_cancel (b := (((c.place t).seen c.shared).taken : Multiset α)) ?_
    rw [hmoved, hI]
    abel

/-- **Each producer has what its thread enqueued, in that order.** -/
lemma elements_sublist (hw : 0 < w) (h : QueueTraces w (ComparesStep w) tr c) (p : τ) :
    ((c.shared.producer p).elements ++ ((c.place p).seen c.shared).pending).Sublist
      (calledBy p tr) := by
  refine StepSystem.Traces.invariant
    (I := fun (tr : List (τ × CallLabel α))
      (c : Crew (BlockingConcurrentQueue τ α) (QueuePc τ α) τ) =>
        ((c.shared.producer p).elements ++ ((c.place p).seen c.shared).pending).Sublist
          (calledBy p tr))
    (fun c hinit => ?_) (fun tr c e c' htr hI _ hstep => ?_) h
  · obtain ⟨hshared, hout⟩ := hinit
    rw [hshared, hout p]
    exact List.Sublist.refl _
  · obtain ⟨t, e⟩ := e
    obtain ⟨q, pc, hmove, rfl⟩ := Crew.step_eq_some.mp hstep
    dsimp only
    rw [calledBy_append]
    by_cases hp : p = t
    · subst hp
      rw [Function.update_self]
      have hseen := seen_of_move hmove (place_ok htr.reachable p) (recorded hw htr.reachable)
        fun u hu => head_lt_tail hw htr.reachable hu
      rcases elements_of_effect (move_effect hmove) p with hsame | ⟨item, -, hpc, hpc', happend⟩
      · have hpending : (pc.seen q).pending.Sublist
            (((c.place p).seen c.shared).pending ++ calledBy p (queueLabel p (c.place p) e)) := by
          rcases label_of_move hmove hseen with ⟨-, hseen, -⟩ | ⟨e', hcall, hlabel⟩
          · rw [hseen]
            exact List.sublist_append_left _ _
          · rw [← hlabel]
            exact pending_of_callMove hcall
        rw [hsame]
        refine ((List.Sublist.refl _).append hpending).trans ?_
        rw [← List.append_assoc]
        exact hI.append (.refl _)
      · -- the element is published
        rw [hpc] at hI
        rw [happend, hpc', List.append_assoc]
        exact hI.trans (List.sublist_append_left _ _)
    · have hsame : (q.producer p).elements = (c.shared.producer p).elements :=
        (elements_of_effect (move_effect hmove) p).resolve_right fun ⟨_, ht, _⟩ => hp ht
      rw [Function.update_of_ne hp, hsame, seen_of_others hw htr.reachable hmove]
      exact hI.trans (List.sublist_append_left _ _)

/-- **The histories of the queue**: to its callers the queue is a list to which its threads append,
and from which they take the oldest entry of some producer. Each element that `enqueue` was called
with is about to be appended, in the queue, taken, returned, or refused. Those that were taken or
returned are the ones on record as dequeued. What a producer gave out, and then what it still has,
are in the order in which its thread enqueued them. Without an element only `try_dequeue` returns.

**Proof sketch.** A producer's moves are seen as moves of the list, and the callers see the same of
both. The rest holds of the list, but for the order: a producer appends, and gives out by index. -/
theorem history_eq (hw : 0 < w) (h : QueueTraces w (ComparesStep w) tr c) :
    EntryTraces (fun _ _ => True) tr (seenBy c) ∧ AllThere tr (seenBy c) ∧
      ((c.shared.dequeued.map Prod.snd : List α) : Multiset α) =
        returned tr + takenElements (seenBy c) ∧
      (∀ p, (elementsOf p c.shared.dequeued ++ elementsOf p c.shared.entries).Sublist
        (calledBy p tr)) ∧
      ∀ t, c.place t = .done none → LastOf tr t (.dequeue false) := by
  have hlist := entryTraces_of_queueTraces hw h
  refine ⟨hlist, allThere hlist, dequeued_eq hw h, fun p => ?_, fun t ht => ?_⟩
  · have hrecorded := recorded hw h.reachable
    rw [hrecorded.dequeued, hrecorded.entries, List.take_append_drop]
    exact (List.sublist_append_left _ _).trans (elements_sublist hw h p)
  · refine lastOf_failed hlist t (.inr ?_)
    show (c.place t).seen c.shared = _
    rw [ht]
    rfl

omit [DecidableEq τ] [Fintype τ] in
/-- The history that has just begun. -/
lemma queueTraces_new [DecidableEq τ] :
    QueueTraces w C []
      (⟨.new, fun _ => .out⟩ : Crew (BlockingConcurrentQueue τ α) (QueuePc τ α) τ) :=
  .init ⟨rfl, fun _ => rfl⟩

/-- A thread gets what another has enqueued, and nothing when it tries again. -/
theorem history_eq_tryAgain :
    ∃ tr c, QueueTraces 32 (ComparesStep 32) tr c ∧
      tr = [((0 : Fin 2), .enqueue 7), (0, .enqueued true), (1, .dequeue true),
        (1, .dequeued (some 7)), (1, .dequeue false)] ∧
      c.place 1 = .done none ∧
      EntryTraces (fun _ _ => True) tr (seenBy c) ∧ AllThere tr (seenBy c) ∧
        ((c.shared.dequeued.map Prod.snd : List ℕ) : Multiset ℕ) =
          returned tr + takenElements (seenBy c) ∧
        (∀ p, (elementsOf p c.shared.dequeued ++ elementsOf p c.shared.entries).Sublist
          (calledBy p tr)) ∧
        ∀ t, c.place t = .done none → LastOf tr t (.dequeue false) := by
  have h : ((queueCrew (Fin 2) ℕ 32).trace (fun c e => queueLabel e.1 (c.place e.1) e.2)
      (ComparesStep 32) [] ⟨.new, fun _ => .out⟩
      (enqueueEvents 0 7 ++ dequeueEvents 1 15 ++
        [(1, .ret), (1, .dequeue false), (1, .next), (1, .next), (1, .next), (1, .next)])).map
        (fun r => (r.1, r.2.place 1)) =
      some ([((0 : Fin 2), .enqueue 7), (0, .enqueued true), (1, .dequeue true),
        (1, .dequeued (some 7)), (1, .dequeue false)], .done none) := by
    decide +kernel
  obtain ⟨⟨tr, c⟩, hrun, heq⟩ := Option.map_eq_some_iff.mp h
  obtain ⟨hlabels, hplace⟩ := Prod.mk.inj heq
  have htr := queueTraces_new.trace hrun
  exact ⟨tr, c, htr, hlabels, hplace, history_eq (by decide) htr⟩

/-! ## Emptying the queue -/

/-- The histories of a thread that calls no `enqueue`, while no other moves. -/
abbrev DrainTraces (w : ℕ) (t : τ) (c : Crew (BlockingConcurrentQueue τ α) (QueuePc τ α) τ) :
    List (τ × CallLabel α) → Crew (BlockingConcurrentQueue τ α) (QueuePc τ α) τ → Prop :=
  ((queueCrew τ α w).startingAt c).Traces (fun c e => queueLabel e.1 (c.place e.1) e.2)
    fun _ e => e.1 = t ∧ e.2.isEnqueue = false

/-- What such a history keeps of the state `c` that it starts in. -/
structure Drains (w : ℕ) (t : τ) (c : Crew (BlockingConcurrentQueue τ α) (QueuePc τ α) τ)
    (tr : List (τ × CallLabel α)) (c' : Crew (BlockingConcurrentQueue τ α) (QueuePc τ α) τ) :
    Prop where
  reachable : (queueCrew τ α w).ReachableUnder (LoneStep w) c'
  out : ∀ u ≠ t, c'.place u = .out
  pending : ((c'.place t).seen c'.shared).pending = []
  knows : c'.shared.Knows (c'.place t)
  few : c'.shared.entries.length < 2 ^ (w - 1)
  perm : (c'.shared.dequeued ++ c'.shared.entries).Perm (c.shared.dequeued ++ c.shared.entries)
  dequeued : ((c'.shared.dequeued.map Prod.snd : List α) : Multiset α) =
    (c.shared.dequeued.map Prod.snd : List α) + returned tr +
      ((c'.place t).seen c'.shared).taken

omit [Fintype τ] in
/-- Of a move that does not call `enqueue` no call of it is seen. -/
lemma calledBy_queueLabel (he : e.isEnqueue = false) (p : τ) :
    calledBy p (queueLabel t pc e) = [] := by
  cases e with
  | enqueue item => cases he
  | ret => cases pc <;> rfl
  | dequeue blocking => rfl
  | next | refuse | fail => rfl

/-- A move of the thread. -/
lemma Drains.step (hw : 0 < w) {c₀ : Crew (BlockingConcurrentQueue τ α) (QueuePc τ α) τ}
    (h : Drains w t c₀ tr c) (he : e.isEnqueue = false)
    (hmove : c.shared.move w t (c.place t) e = some (q, pc)) :
    Drains w t c₀ (tr ++ queueLabel t (c.place t) e) ⟨q, Function.update c.place t pc⟩ := by
  have hreach := (lone_of_reachable hw h.reachable).reachable
  have hlone : LoneStep w c (t, e) := by
    refine ⟨h.few, fun hdequeue u => ?_⟩
    by_cases hu : u = t
    · rw [hu, (move_dequeue hmove hdequeue).1]
      rfl
    · rw [h.out u hu]
      rfl
  have hseen := seen_of_move hmove (place_ok hreach t) (recorded hw hreach)
    fun p hp => head_lt_tail hw hreach hp
  have hplace : Function.update c.place t pc t = pc := Function.update_self ..
  -- nothing is appended
  have hpending := h.pending
  obtain ⟨hperm, hle⟩ := (perm_of_effect (move_effect hmove)).resolve_left
    fun ⟨item, hstore, _⟩ => by
      rw [hstore] at hpending
      cases hpending
  refine ⟨h.reachable.step hlone (Crew.step_eq_some.mpr ⟨q, pc, hmove, rfl⟩), fun u hu => ?_, ?_,
    ?_, lt_of_le_of_lt hle h.few, hperm.trans h.perm, ?_⟩
  · exact (Function.update_of_ne hu _ _).trans (h.out u hu)
  · dsimp only
    rw [hplace]
    rcases label_of_move hmove hseen with ⟨-, hsame, -⟩ | ⟨e', hcall, hlabel⟩
    · rw [hsame, hpending]
    · have hsub := pending_of_callMove hcall
      rw [hlabel, calledBy_queueLabel he, hpending] at hsub
      exact List.sublist_nil.mp hsub
  · dsimp only
    rw [hplace]
    exact knows_of_move hmove (place_ok hreach t) h.knows
  · have hmoved := dequeued_of_move hmove hseen
    dsimp only
    rw [hplace, returned_append]
    refine add_right_cancel (b := (((c.place t).seen c.shared).taken : Multiset α)) ?_
    rw [hmoved, h.dequeued]
    abel

/-- What such a history keeps. -/
lemma drains (hw : 0 < w) {c₀ : Crew (BlockingConcurrentQueue τ α) (QueuePc τ α) τ}
    (h₀ : (queueCrew τ α w).ReachableUnder (LoneStep w) c₀)
    (hfew : c₀.shared.entries.length < 2 ^ (w - 1)) (hout : ∀ u, c₀.place u = .out)
    (h : DrainTraces w t c₀ tr c) : Drains w t c₀ tr c := by
  refine StepSystem.Traces.invariant (I := Drains w t c₀) (fun c hinit => ?_)
    (fun tr c e c' _ hI hC hstep => ?_) h
  · obtain rfl : c = c₀ := hinit
    refine ⟨h₀, fun u _ => hout u, ?_, ?_, hfew, .refl _, ?_⟩
    · rw [hout t]
      rfl
    · rw [hout t]
      trivial
    · rw [hout t]
      show _ = _ + (0 : Multiset α) + 0
      rw [add_zero, add_zero]
  · obtain ⟨t', e⟩ := e
    obtain ⟨rfl, he⟩ := hC
    obtain ⟨q, pc, hmove, rfl⟩ := Crew.step_eq_some.mp hstep
    exact hI.step hw he hmove

/-- **A thread that is alone empties the queue**: when no other thread is in a call, and there are
fewer entries than half the range of an index, a thread that calls `try_dequeue` until it fails is
returned all entries, and each once. It can do so.

**Proof sketch.** With no other thread on its way the thread fails only where the count of the
semaphore is not positive, and that is the number of the entries. What has left the queue by then
was returned. -/
theorem drained_of_failed (hw : 0 < w) (t : τ)
    (h : (queueCrew τ α w).ReachableUnder (LoneStep w) c)
    (hfew : c.shared.entries.length < 2 ^ (w - 1)) (hout : ∀ u, c.place u = .out) :
    (∀ tr c', DrainTraces w t c tr c' → c'.place t = .done none →
      c'.shared.entries = [] ∧
        returned tr = ((c.shared.entries.map Prod.snd : List α) : Multiset α)) ∧
      ∃ tr c', DrainTraces w t c tr c' ∧ c'.place t = .done none := by
  refine ⟨fun tr c' htr ht => ?_, ?_⟩
  · have hdrains := drains hw h hfew hout htr
    have hrest : ∀ u, c'.place u = .out ∨ ∃ result, c'.place u = .done result := by
      intro u
      by_cases hu : u = t
      · exact .inr ⟨none, hu ▸ ht⟩
      · exact .inl (hdrains.out u hu)
    have hcount := mCount_of_rest hw (lone_of_reachable hw hdrains.reachable).reachable hrest
    have hnone : c'.shared.sema.mCount ≤ 0 := by
      have hknows := hdrains.knows
      rwa [ht] at hknows
    have hnil : c'.shared.entries = [] := List.length_eq_zero_iff.mp (by omega)
    refine ⟨hnil, ?_⟩
    have hperm := Multiset.coe_eq_coe.mpr (hdrains.perm.map Prod.snd)
    have hdequeued := hdrains.dequeued
    rw [ht] at hdequeued
    rw [hnil, List.append_nil, hdequeued, List.map_append, ← Multiset.coe_add, add_assoc] at hperm
    exact (add_zero _).symm.trans (add_left_cancel hperm)
  · obtain ⟨q, halone⟩ := exists_alone_failed hw t h hfew hout
    obtain ⟨es, hes, hrun⟩ := halone.exists_run.1
    have hstart : DrainTraces w t c [] c := .init rfl
    rw [← StepSystem.startingAt_run c] at hrun
    obtain ⟨tr, htr⟩ := hstart.run (fun e he _ => hes e he) hrun
    exact ⟨tr, _, htr, Function.update_self ..⟩

/-- A thread takes out what another has enqueued. -/
theorem drained_of_failed_enqueued :
    ∃ c, (queueCrew (Fin 2) ℕ 32).ReachableUnder (LoneStep 32) c ∧
      c.shared.entries = [((0 : Fin 2), 7), (0, 8)] ∧
      (∀ tr c', DrainTraces 32 1 c tr c' → c'.place 1 = .done none →
        c'.shared.entries = [] ∧
          returned tr = ((c.shared.entries.map Prod.snd : List ℕ) : Multiset ℕ)) ∧
      ∃ tr c', DrainTraces 32 1 c tr c' ∧ c'.place 1 = .done none := by
  have h : ((queueCrew (Fin 2) ℕ 32).runUnder (LoneStep 32) ⟨.new, fun _ => .out⟩
      (enqueueEvents 0 7 ++ [(0, .enqueue 8), (0, .next), (0, .next), (0, .next), (0, .ret)])).map
        (fun c => (c.shared.entries, c.place 0, c.place 1)) =
          some ([((0 : Fin 2), 7), (0, 8)], .out, .out) := by
    decide +kernel
  obtain ⟨c, hrun, heq⟩ := Option.map_eq_some_iff.mp h
  obtain ⟨hentries, hplace⟩ := Prod.mk.inj heq
  obtain ⟨h0, h1⟩ := Prod.mk.inj hplace
  have hreach := StepSystem.ReachableUnder.runUnder reachable_new hrun
  exact ⟨c, hreach, hentries, drained_of_failed (by decide) 1 hreach (by rw [hentries]; decide)
    (Fin.forall_fin_two.mpr ⟨h0, h1⟩)⟩

end BlockingConcurrentQueue

end UsbTv
