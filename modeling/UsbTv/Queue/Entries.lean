import UsbTv.Queue.Blocking

set_option relaxedAutoImplicit false
set_option autoImplicit false

/-!
# What is in the process queue

To its callers the queue is a list of what was enqueued and not dequeued. A consumer gets the
oldest entry of some producer, which need not be the oldest of all. Nothing is lost on the way,
and nothing is given out twice.

The semaphore is to count the entries. It need not be exact at any time: an entry that was
published is signalled a moment later, and a consumer that has its permit has still to find an
entry for it. What is missing in the count is accounted for by the threads that are on their way.

## Main definitions

* `UsbTv.elementsOf` — the elements of one producer.
* `UsbTv.BlockingConcurrentQueue.Recorded` — the entries are what the producers hold.
* `UsbTv.CallPc`, `UsbTv.entryCrew` — the queue as its callers see it.

## Main results

* `UsbTv.BlockingConcurrentQueue.recorded` — the entries are what the producers hold.
* `UsbTv.BlockingConcurrentQueue.accounted` — each entry has a permit, or a thread on its way.
* `UsbTv.BlockingConcurrentQueue.seen_of_move` — what the callers see of a move.
* `UsbTv.BlockingConcurrentQueue.entries_length_eq` — what the semaphore counts of the entries.
* `UsbTv.BlockingConcurrentQueue.entries_eq_nil_of_stuck` — no consumer is left blocked while there
  is an entry.
-/

namespace UsbTv

/-! ## The elements of a producer -/

section ElementsOf

variable {τ α : Type*} [DecidableEq τ]

/-- The elements of one producer, in their order. -/
def elementsOf (p : τ) (l : List (τ × α)) : List α := (l.filter fun x => x.1 = p).map Prod.snd

/-- An entry at the end. -/
lemma elementsOf_append (p t : τ) (item : α) (l : List (τ × α)) :
    elementsOf p (l ++ [(t, item)]) =
      elementsOf p l ++ if t = p then [item] else [] := by
  unfold elementsOf
  rw [List.filter_append, List.map_append]
  split_ifs with h
  · simp [h]
  · simp [h]

/-- The first entry of a producer is its first element. -/
lemma map_find?_eq (p : τ) (l : List (τ × α)) :
    (l.find? fun x => x.1 = p).map Prod.snd = (elementsOf p l).head? := by
  unfold elementsOf
  rw [List.head?_map, List.head?_filter]

/-- Without its first entry a producer has the elements after the first. -/
lemma elementsOf_eraseP_self (p : τ) (l : List (τ × α)) :
    elementsOf p (l.eraseP fun x => x.1 = p) = (elementsOf p l).tail := by
  induction l with
  | nil => rfl
  | cons x l ih =>
    by_cases hx : x.1 = p
    · rw [List.eraseP_cons_of_pos (by simpa using hx)]
      simp [elementsOf, hx]
    · rw [List.eraseP_cons_of_neg (by simpa using hx)]
      simpa [elementsOf, hx] using ih

/-- The other producers have what they had. -/
lemma elementsOf_eraseP_of_ne {p u : τ} (hu : u ≠ p) (l : List (τ × α)) :
    elementsOf u (l.eraseP fun x => x.1 = p) = elementsOf u l := by
  induction l with
  | nil => rfl
  | cons x l ih =>
    by_cases hx : x.1 = p
    · rw [List.eraseP_cons_of_pos (by simpa using hx)]
      have hxu : x.1 ≠ u := fun h => hu (h.symm.trans hx)
      simp [elementsOf, hxu]
    · rw [List.eraseP_cons_of_neg (by simpa using hx)]
      by_cases hxu : x.1 = u
      · simpa [elementsOf, hxu] using ih
      · simpa [elementsOf, hxu] using ih

end ElementsOf

namespace BlockingConcurrentQueue

variable {τ α : Type*} [DecidableEq τ] {w : ℕ} {t : τ} {q q' : BlockingConcurrentQueue τ α}
  {pc pc' : QueuePc τ α}

/-! ## Entries and producers -/

/-- The entries are what the producers hold, and what was dequeued is what they gave out. -/
structure Recorded (q : BlockingConcurrentQueue τ α) : Prop where
  entries : ∀ p, elementsOf p q.entries = (q.producer p).elements.drop (q.producer p).headIndex
  dequeued : ∀ p, elementsOf p q.dequeued = (q.producer p).elements.take (q.producer p).headIndex

/-- The entry that goes with the next index of a producer. -/
lemma Recorded.find?_eq (h : q.Recorded) {p : τ}
    (hlt : (q.producer p).headIndex < (q.producer p).tailIndex) :
    ∃ item, q.entries.find? (fun x => x.1 = p) = some (p, item) ∧
      (q.producer p).elements[(q.producer p).headIndex]? = some item := by
  have hhead : (elementsOf p q.entries).head? =
      (q.producer p).elements[(q.producer p).headIndex]? := by
    rw [h.entries, List.head?_drop]
  rw [← map_find?_eq, List.getElem?_eq_getElem hlt, Option.map_eq_some_iff] at hhead
  obtain ⟨⟨p', item⟩, hfind, heq⟩ := hhead
  obtain rfl : p' = p := by simpa using List.find?_some hfind
  exact ⟨item, hfind, by rw [List.getElem?_eq_getElem hlt, ← heq]⟩

/-- A move of `dequeue` in a producer keeps the record, if an index it takes has an element. -/
lemma Recorded.dequeueFrom (h : q.Recorded) {ptr : τ} {p : ImplicitProducer τ α}
    {at₁ at₂ : DequeuePc} (hmove : (q.producer ptr).dequeue w t at₁ = some (p, at₂))
    (hlt : at₁ = .fetchHead → (q.producer ptr).headIndex < (q.producer ptr).tailIndex) :
    (q.dequeueFrom ptr p at₂).Recorded := by
  obtain ⟨helements, hclaim⟩ := ImplicitProducer.dequeue_head hmove
  rcases hclaim with ⟨hat, rfl, hhead⟩ | ⟨hclaimed, hhead⟩
  · obtain ⟨item, hfind, hitem⟩ := h.find?_eq (hlt hat)
    have hproducer : ∀ u, u ≠ ptr → Function.update q.producer ptr p u = q.producer u :=
      fun u hu => Function.update_of_ne hu _ _
    constructor
    · intro u
      show elementsOf u (q.entries.eraseP _) = ((Function.update q.producer ptr p) u).elements.drop
        ((Function.update q.producer ptr p) u).headIndex
      by_cases hu : u = ptr
      · subst hu
        rw [elementsOf_eraseP_self, h.entries, Function.update_self, helements, hhead,
          List.tail_drop]
      · rw [elementsOf_eraseP_of_ne hu, h.entries, hproducer u hu]
    · intro u
      show elementsOf u (q.dequeued ++ (q.entries.find? _).toList) =
        ((Function.update q.producer ptr p) u).elements.take
          ((Function.update q.producer ptr p) u).headIndex
      rw [hfind, Option.toList_some, elementsOf_append, h.dequeued]
      by_cases hu : u = ptr
      · subst hu
        rw [if_pos rfl, Function.update_self, helements, hhead, List.take_add_one, hitem,
          Option.toList_some]
      · rw [if_neg (Ne.symm hu), List.append_nil, hproducer u hu]
  · rw [dequeueFrom_of_not_isClaimed q ptr p hclaimed]
    have hproducer : ∀ u, (Function.update q.producer ptr p u).elements = (q.producer u).elements ∧
        (Function.update q.producer ptr p u).headIndex = (q.producer u).headIndex := by
      intro u
      by_cases hu : u = ptr
      · subst hu
        rw [Function.update_self]
        exact ⟨helements, hhead⟩
      · rw [Function.update_of_ne hu]
        exact ⟨rfl, rfl⟩
    constructor
    · intro u
      dsimp only
      rw [(hproducer u).1, (hproducer u).2]
      exact h.entries u
    · intro u
      dsimp only
      rw [(hproducer u).1, (hproducer u).2]
      exact h.dequeued u

/-- An element that is published is on record. -/
lemma Recorded.publish (h : q.Recorded)
    (hle : (q.producer t).headIndex ≤ (q.producer t).tailIndex) (item : α) :
    (q.publish t item).Recorded := by
  constructor
  · intro u
    show elementsOf u (q.entries ++ [(t, item)]) =
      ((Function.update q.producer t ((q.producer t).enqueue item)) u).elements.drop
        ((Function.update q.producer t ((q.producer t).enqueue item)) u).headIndex
    rw [elementsOf_append, h.entries]
    by_cases hu : u = t
    · subst hu
      rw [Function.update_self, if_pos rfl]
      exact (List.drop_append_of_le_length hle).symm
    · rw [Function.update_of_ne hu, if_neg (Ne.symm hu), List.append_nil]
  · intro u
    show elementsOf u q.dequeued =
      ((Function.update q.producer t ((q.producer t).enqueue item)) u).elements.take
        ((Function.update q.producer t ((q.producer t).enqueue item)) u).headIndex
    rw [h.dequeued]
    by_cases hu : u = t
    · subst hu
      rw [Function.update_self]
      exact (List.take_append_of_le_length hle).symm
    · rw [Function.update_of_ne hu]

section Runs

variable [Fintype τ] {c : Crew (BlockingConcurrentQueue τ α) (QueuePc τ α) τ}

/-- The counters of each producer are sound. -/
lemma sound (hw : 0 < w) (p : τ) (h : (queueCrew τ α w).ReachableUnder (ComparesStep w) c) :
    ImplicitProducer.Sound (producerOf p c) :=
  ImplicitProducer.sound_of_reachable hw (producer_reachable p h)

/-- A consumer that is about to take an index has an element for it. -/
lemma head_lt_tail (hw : 0 < w) {p : τ}
    (h : (queueCrew τ α w).ReachableUnder (ComparesStep w) c)
    (ht : (c.place t).inDequeue p = .fetchHead) :
    (c.shared.producer p).headIndex < (c.shared.producer p).tailIndex := by
  have hclaiming : 1 ≤ (producerOf p c).total DequeuePc.claiming := by
    refine le_trans ?_ (Crew.le_total DequeuePc.claiming (producerOf p c) t)
    show 1 ≤ ((c.place t).inDequeue p).claiming
    rw [ht]
    exact le_rfl
  have hle := (sound hw p h).head_add_le
  exact lt_of_lt_of_le (Nat.lt_add_of_pos_right hclaiming) hle

/-- **The entries are what the producers hold** in every run whose comparisons are right. -/
theorem recorded (hw : 0 < w) (h : (queueCrew τ α w).ReachableUnder (ComparesStep w) c) :
    c.shared.Recorded := by
  refine StepSystem.ReachableUnder.invariant
    (I := fun c : Crew (BlockingConcurrentQueue τ α) (QueuePc τ α) τ => c.shared.Recorded)
    (fun c hinit => ?_) (fun c e c' hreach hI _ hstep => ?_) h
  · obtain ⟨hshared, -⟩ := hinit
    rw [hshared]
    exact ⟨fun _ => rfl, fun _ => rfl⟩
  · obtain ⟨t, e⟩ := e
    obtain ⟨q, pc, hmove, rfl⟩ := Crew.step_eq_some.mp hstep
    dsimp only
    cases move_effect hmove with
    | idle _ => exact hI
    | addProducer _ => exact ⟨hI.entries, hI.dequeued⟩
    | publish item _ _ =>
      have hle := (sound hw t hreach).head_add_le
      exact hI.publish (le_trans (Nat.le_add_right _ _) hle) item
    | sema s e _ _ _ _ _ _ _ => exact ⟨hI.entries, hI.dequeued⟩
    | dequeue ptr at₁ at₂ p hdequeued _ _ hdequeue _ _ _ _ _ =>
      refine hI.dequeueFrom hdequeued fun hat => head_lt_tail (t := t) hw hreach ?_
      rw [hdequeue, if_pos rfl, hat]

/-- What a thread has in the account of the entries. -/
def weight (pc : QueuePc τ α) : ℕ × ℕ := (pc.toSignal, pc.inLoop)

/-- **Each entry has a permit, or a thread on its way**: those that were signalled and whose permit
was not taken, those that are not signalled yet, and those that a consumer has the permit for. -/
theorem accounted (hw : 0 < w) (h : (queueCrew τ α w).ReachableUnder (ComparesStep w) c) :
    c.shared.entries.length + c.shared.sema.acquired =
      c.shared.sema.signalled + c.total QueuePc.toSignal + c.total QueuePc.inLoop := by
  have hweight : c.total weight = (c.total QueuePc.toSignal, c.total QueuePc.inLoop) :=
    (prod_mk_sum _ _ _).symm
  suffices hbalance : c.shared.entries.length + c.shared.sema.acquired =
      c.shared.sema.signalled + (c.total weight).1 + (c.total weight).2 by
    rwa [hweight] at hbalance
  refine Crew.balance weight (I := fun (q : BlockingConcurrentQueue τ α) (x : ℕ × ℕ) =>
    q.entries.length + q.sema.acquired = q.sema.signalled + x.1 + x.2) (fun c hinit => ?_)
    (fun c t e q pc others hreach _ hI hmove => ?_) h
  · obtain ⟨hshared, hout⟩ := hinit
    rw [hshared, Crew.total_eq_zero fun t => by rw [hout t]; rfl]
    rfl
  · dsimp only [weight, Prod.fst_add, Prod.snd_add] at hI ⊢
    cases move_effect hmove with
    | idle hidle =>
      rw [hidle.toSignal, hidle.inLoop]
      exact hI
    | addProducer hidle =>
      rw [hidle.toSignal, hidle.inLoop]
      exact hI
    | publish item hpc hpc' =>
      rw [hpc] at hI
      subst hpc'
      have hlength : (c.shared.publish t item).entries.length = c.shared.entries.length + 1 :=
        List.length_append
      rw [hlength]
      simp only [publish, QueuePc.toSignal, QueuePc.inLoop, SemaphorePc.granted] at hI ⊢
      omega
    | sema s e hsema he _ hloop hloop' hsignal hsignal' =>
      obtain ⟨hacquired, hsignalled, -⟩ := LightweightSemaphore.move_record hsema he
      dsimp only
      omega
    | dequeue ptr at₁ at₂ p hdequeued _ _ hdequeue _ hloop hloop' hsignal hsignal' =>
      rw [hloop, hsignal] at hI
      rw [hloop', hsignal']
      obtain ⟨-, hclaim⟩ := ImplicitProducer.dequeue_head hdequeued
      rcases hclaim with ⟨hat, rfl, -⟩ | ⟨hclaimed, -⟩
      · have hlt := head_lt_tail (t := t) (p := ptr) hw hreach (by rw [hdequeue, if_pos rfl, hat])
        obtain ⟨item, hfind, -⟩ := (recorded hw hreach).find?_eq hlt
        have hmem : (ptr, item) ∈ c.shared.entries := List.mem_of_find?_eq_some hfind
        have hlength : (c.shared.entries.eraseP fun x => x.1 = ptr).length =
            c.shared.entries.length - 1 :=
          List.length_eraseP_of_mem hmem (by simp)
        have hpos : 0 < c.shared.entries.length := List.length_pos_of_mem hmem
        simp only [dequeueFrom, claim, DequeuePc.isClaimed, if_true, hlength]
        omega
      · rw [dequeueFrom_of_not_isClaimed c.shared ptr p hclaimed, hclaimed]
        exact hI

end Runs

end BlockingConcurrentQueue

/-! ## The queue as its callers see it -/

/-- Where a thread stands, as far as its calls go. -/
inductive CallPc (α : Type*)
  | out
  /-- `enqueue` or `try_enqueue` is called. -/
  | enqueuing (item : α)
  | enqueued (success : Bool)
  /-- `wait_dequeue` or `try_dequeue` is called. -/
  | dequeuing (mayFail : Bool)
  | dequeued (result : Option α)

/-- What can happen to a thread, as far as its calls go. -/
inductive CallEvent (τ α : Type*)
  | enqueue (item : α)
  /-- The element is appended. -/
  | append
  /-- The element is refused. -/
  | refuse
  | dequeue (blocking : Bool)
  /-- A call that might have failed will not. -/
  | commit
  /-- The oldest entry of a producer is taken. -/
  | take (producer : τ)
  /-- The call fails. -/
  | fail
  | ret

/-- The next move of a thread, as far as its calls go. -/
def callMove {τ α : Type*} [DecidableEq τ] (t : τ) (entries : List (τ × α)) :
    CallPc α → CallEvent τ α → Option (List (τ × α) × CallPc α)
  | .out, .enqueue item => some (entries, .enqueuing item)
  | .enqueuing item, .append => some (entries ++ [(t, item)], .enqueued true)
  | .enqueuing _, .refuse => some (entries, .enqueued false)
  | .enqueued _, .ret => some (entries, .out)
  | .out, .dequeue blocking => some (entries, .dequeuing !blocking)
  | .dequeuing true, .commit => some (entries, .dequeuing false)
  | .dequeuing false, .take producer =>
    (entries.find? fun x => x.1 = producer).map fun x =>
      (entries.eraseP fun x => x.1 = producer, .dequeued (some x.2))
  | .dequeuing true, .fail => some (entries, .dequeued none)
  | .dequeued _, .ret => some (entries, .out)
  | _, _ => none

/-- All interleavings of calls of a queue that is a list of entries. -/
def entryCrew (τ α : Type*) [DecidableEq τ] :
    StepSystem (Crew (List (τ × α)) (CallPc α) τ) (τ × CallEvent τ α) :=
  crew (fun c => c.shared = [] ∧ ∀ t, c.place t = .out) callMove

namespace QueuePc

variable {τ α : Type*}

/-- The thread is where the code can be. -/
def Ok : QueuePc τ α → Prop
  | signal pc => pc.During (.signal 1)
  | acquire blocking pc => pc.During (.call (if blocking then .wait else .tryWait))
  | best _ pc | other _ _ _ pc => pc ≠ .out
  | _ => True

/-- Where a thread stands, as far as its calls go: an index that was taken is as good as the
element. -/
def seen (q : BlockingConcurrentQueue τ α) : QueuePc τ α → CallPc α
  | out => .out
  | addProducer item | store item => .enqueuing item
  | signal _ => .enqueued true
  | enqueued success => .enqueued success
  | acquire blocking _ => .dequeuing !blocking
  | best ptr (.claimed index) | other _ _ ptr (.claimed index) =>
    .dequeued (q.producer ptr).elements[index]?
  | load | scan _ _ | scanHead _ _ _ _ | best _ _ | reload _ | others _ _ | other _ _ _ _ =>
    .dequeuing false
  | done result => .dequeued result

end QueuePc

namespace BlockingConcurrentQueue

variable {τ α : Type*} [DecidableEq τ] {w : ℕ} {t : τ} {q q' : BlockingConcurrentQueue τ α}
  {pc pc' : QueuePc τ α} {e : QueueEvent α}

omit [DecidableEq τ] in
/-- A move in `dequeue` does not leave it. -/
lemma dequeue_ne_out {p p' : ImplicitProducer τ α} {at₁ at₂ : DequeuePc}
    (h : p.dequeue w t at₁ = some (p', at₂)) : at₂ ≠ .out := by
  obtain ⟨-, ⟨-, rfl, -⟩ | -⟩ := ImplicitProducer.dequeue_head h
  · exact nofun
  · rintro rfl
    cases at₁ with
    | compare tail overcommit =>
      obtain ⟨-, hat⟩ := Prod.mk.inj (Option.some_inj.mp h)
      split_ifs at hat
    | recompare overcommit myDequeueCount =>
      simp only [ImplicitProducer.dequeue] at h
      split_ifs at h <;> cases h
    | _ => cases h

/-- The moves of a thread are those of the code. -/
lemma ok_of_move (h : q.move w t pc e = some (q', pc')) (hpc : pc.Ok) : pc'.Ok := by
  have hsema : ∀ (f : SemaphorePc → QueuePc τ α) (call : SemaphoreEvent) {e : SemaphoreEvent}
      {at₁ : SemaphorePc}, (∀ at₂, at₂.During call → (f at₂).Ok) → at₁.During call →
      (e = call ∨ e = .next ∨ e = .fail) →
      ((q.sema.move at₁ e).map fun r =>
        (({ q with sema := r.1 } : BlockingConcurrentQueue τ α), f r.2)) = some (q', pc') →
      pc'.Ok := by
    intro f call e at₁ hf hat he h
    obtain ⟨⟨s, at₂⟩, hmove, heq⟩ := Option.map_eq_some_iff.mp h
    obtain ⟨-, rfl⟩ := Prod.mk.inj heq
    exact hf _ (LightweightSemaphore.during_of_move hmove hat he)
  have hscan : ∀ scan : Scan τ, (QueuePc.scanned scan : QueuePc τ α).Ok := by
    intro scan
    rcases QueuePc.scanned_cases (α := α) scan with ⟨best, hscanned⟩ | hscanned
    · rw [hscanned]
      exact nofun
    · rw [hscanned]
      trivial
  unfold move at h
  split at h
  · cases h
    split_ifs <;> trivial
  · cases h
    trivial
  · cases h
    trivial
  · cases h
    trivial
  · cases h
    trivial
  · cases h
    trivial
  · -- `sema->signal()`
    exact hsema .signal (.signal 1) (fun _ h => h) (show SemaphorePc.out.During _ from trivial)
      (.inl rfl) h
  · cases h
    trivial
  · exact hsema .signal (.signal 1) (fun _ h => h) hpc (.inr (.inl rfl)) h
  · cases h
    trivial
  · -- `sema->wait()` or `sema->tryWait()`
    exact hsema (.acquire _) _ (fun _ h => h) (show SemaphorePc.out.During _ from trivial)
      (.inl rfl) h
  · cases h
    trivial
  · cases h
    trivial
  · exact hsema (.acquire _) _ (fun _ h => h) hpc (.inr (.inl rfl)) h
  · exact hsema (.acquire _) _ (fun _ h => h) hpc (.inr (.inr rfl)) h
  · cases h
    trivial
  · -- the loop that looks for the best producer
    split at h
    · split_ifs at h
      · cases h
        trivial
      · cases h
        exact hscan _
    · cases h
      exact hscan _
  · cases h
    trivial
  · obtain ⟨item, -, heq⟩ := Option.map_eq_some_iff.mp h
    cases heq
    trivial
  · cases h
    trivial
  · -- `best->dequeue`
    obtain ⟨⟨p, at₂⟩, hmove, heq⟩ := Option.map_eq_some_iff.mp h
    cases heq
    exact dequeue_ne_out hmove
  · cases h
    trivial
  · cases h
    trivial
  · cases h
    split_ifs
    · exact nofun
    · trivial
  · obtain ⟨item, -, heq⟩ := Option.map_eq_some_iff.mp h
    cases heq
    trivial
  · cases h
    trivial
  · -- `ptr->dequeue`
    obtain ⟨⟨p, at₂⟩, hmove, heq⟩ := Option.map_eq_some_iff.mp h
    cases heq
    exact dequeue_ne_out hmove
  · cases h
    trivial
  · cases h

/-- The callers see a move, or see nothing of it. -/
def Seen (t : τ) (q : BlockingConcurrentQueue τ α) (pc : QueuePc τ α)
    (q' : BlockingConcurrentQueue τ α) (pc' : QueuePc τ α) : Prop :=
  (q'.entries = q.entries ∧ pc'.seen q' = pc.seen q) ∨
    ∃ e, callMove t q.entries (pc.seen q) e = some (q'.entries, pc'.seen q')

/-- The callers see a consumer that takes an index take an entry, and nothing else of `dequeue` of
a producer. -/
lemma seen_of_dequeue {ptr : τ} {f : DequeuePc → QueuePc τ α} {at₁ : DequeuePc}
    (hclaimed : ∀ (q : BlockingConcurrentQueue τ α) (index : ℕ),
      (f (.claimed index)).seen q = .dequeued (q.producer ptr).elements[index]?)
    (hnot : ∀ (q : BlockingConcurrentQueue τ α) (pc : DequeuePc), pc.isClaimed = false →
      (f pc).seen q = .dequeuing false)
    (hrecorded : q.Recorded)
    (hlt : at₁ = .fetchHead → (q.producer ptr).headIndex < (q.producer ptr).tailIndex)
    (h : ((q.producer ptr).dequeue w t at₁).map (fun r => (q.dequeueFrom ptr r.1 r.2, f r.2)) =
      some (q', pc')) : Seen t q (f at₁) q' pc' := by
  obtain ⟨⟨p, at₂⟩, hmove, heq⟩ := Option.map_eq_some_iff.mp h
  obtain ⟨rfl, rfl⟩ := Prod.mk.inj heq
  have hbefore : (f at₁).seen q = .dequeuing false :=
    hnot q at₁ (ImplicitProducer.not_isClaimed_of_dequeue hmove)
  obtain ⟨helements, ⟨hat, rfl, -⟩ | ⟨hclaim, -⟩⟩ := ImplicitProducer.dequeue_head hmove
  · -- an index is taken, and the first entry of the producer with it
    obtain ⟨item, hfind, hitem⟩ := hrecorded.find?_eq (hlt hat)
    right
    refine ⟨.take ptr, ?_⟩
    rw [hbefore, hclaimed, dequeueFrom_producer, Function.update_self, helements, hitem]
    simp only [callMove, hfind, Option.map_some, dequeueFrom, claim]
  · left
    rw [hbefore, hnot _ _ hclaim, dequeueFrom_of_not_isClaimed q ptr p hclaim]
    exact ⟨rfl, rfl⟩

/-- **What the callers see of a move.** -/
lemma seen_of_move (h : q.move w t pc e = some (q', pc')) (hok : pc.Ok) (hrecorded : q.Recorded)
    (hlt : ∀ p, pc.inDequeue p = .fetchHead →
      (q.producer p).headIndex < (q.producer p).tailIndex) : Seen t q pc q' pc' := by
  have hsema : ∀ (f : SemaphorePc → QueuePc τ α) {e : SemaphoreEvent} {at₁ : SemaphorePc},
      (∀ (q' : BlockingConcurrentQueue τ α) at₂, (f at₂).seen q' = (f at₁).seen q) →
      ((q.sema.move at₁ e).map fun r =>
        (({ q with sema := r.1 } : BlockingConcurrentQueue τ α), f r.2)) = some (q', pc') →
      Seen t q (f at₁) q' pc' := by
    intro f e at₁ hf h
    obtain ⟨⟨s, at₂⟩, hmove, heq⟩ := Option.map_eq_some_iff.mp h
    obtain ⟨rfl, rfl⟩ := Prod.mk.inj heq
    exact .inl ⟨rfl, hf _ _⟩
  have hscan : ∀ scan : Scan τ,
      (QueuePc.scanned scan : QueuePc τ α).seen q = .dequeuing false := by
    intro scan
    rcases QueuePc.scanned_cases (α := α) scan with ⟨best, hscanned⟩ | hscanned <;>
      rw [hscanned] <;> rfl
  unfold move at h
  split at h
  · -- `enqueue` is called
    rename_i item
    cases h
    refine .inr ⟨.enqueue item, ?_⟩
    split_ifs <;> rfl
  · -- `wait_dequeue` or `try_dequeue` is called
    cases h
    exact .inr ⟨.dequeue _, rfl⟩
  · cases h
    exact .inr ⟨.refuse, rfl⟩
  · cases h
    exact .inl ⟨rfl, rfl⟩
  · cases h
    exact .inr ⟨.refuse, rfl⟩
  · -- `tailIndex.store`
    cases h
    exact .inr ⟨.append, rfl⟩
  · exact hsema .signal (fun _ _ => rfl) h
  · cases h
    exact .inl ⟨rfl, rfl⟩
  · exact hsema .signal (fun _ _ => rfl) h
  · cases h
    exact .inr ⟨.ret, rfl⟩
  · exact hsema (.acquire _) (fun _ _ => rfl) h
  · -- there is a permit
    rename_i blocking
    cases h
    cases blocking with
    | true => exact .inl ⟨rfl, rfl⟩
    | false => exact .inr ⟨.commit, rfl⟩
  · -- there is none, and the call does not wait
    rename_i blocking
    cases h
    cases blocking with
    | true =>
      obtain ⟨c, hcall, hdone⟩ := hok
      cases hcall
      cases hdone rfl
    | false => exact .inr ⟨.fail, rfl⟩
  · exact hsema (.acquire _) (fun _ _ => rfl) h
  · exact hsema (.acquire _) (fun _ _ => rfl) h
  · cases h
    exact .inl ⟨rfl, rfl⟩
  · -- the loop that looks for the best producer
    split at h
    · split_ifs at h
      · cases h
        exact .inl ⟨rfl, rfl⟩
      · cases h
        exact .inl ⟨rfl, hscan _⟩
    · cases h
      exact .inl ⟨rfl, hscan _⟩
  · cases h
    exact .inl ⟨rfl, rfl⟩
  · -- the element of the index that was taken
    obtain ⟨item, hitem, heq⟩ := Option.map_eq_some_iff.mp h
    cases heq
    exact .inl ⟨rfl, congrArg CallPc.dequeued hitem.symm⟩
  · cases h
    exact .inl ⟨rfl, rfl⟩
  · rename_i ptr at₁ hclaimed hfailed
    refine seen_of_dequeue (f := .best ptr) (fun _ _ => rfl) (fun _ at₂ hat => ?_) hrecorded
      (fun hat => hlt _ (by rw [hat]; exact if_pos rfl)) h
    cases at₂ with
    | claimed index => cases hat
    | _ => rfl
  · cases h
    exact .inl ⟨rfl, rfl⟩
  · cases h
    exact .inl ⟨rfl, rfl⟩
  · cases h
    split_ifs <;> exact .inl ⟨rfl, rfl⟩
  · obtain ⟨item, hitem, heq⟩ := Option.map_eq_some_iff.mp h
    cases heq
    exact .inl ⟨rfl, congrArg CallPc.dequeued hitem.symm⟩
  · cases h
    exact .inl ⟨rfl, rfl⟩
  · rename_i best ptrs ptr at₁ hclaimed hfailed
    refine seen_of_dequeue (f := .other best ptrs ptr) (fun _ _ => rfl) (fun _ at₂ hat => ?_)
      hrecorded (fun hat => hlt _ (by rw [hat]; exact if_pos rfl)) h
    cases at₂ with
    | claimed index => cases hat
    | _ => rfl
  · cases h
    exact .inr ⟨.ret, rfl⟩
  · cases h

/-- Only the thread of a producer adds to its elements, and none are taken away. -/
lemma elements_of_effect (h : Effect w t q pc pc' q') (p : τ) :
    (q'.producer p).elements = (q.producer p).elements ∨
      ∃ item, p = t ∧ pc = .store item ∧ pc' = .signal .out ∧
        (q'.producer p).elements = (q.producer p).elements ++ [item] := by
  cases h with
  | idle _ => exact .inl rfl
  | addProducer _ => exact .inl rfl
  | publish item hpc hpc' =>
    by_cases hp : p = t
    · subst hp
      refine .inr ⟨item, rfl, hpc, hpc', ?_⟩
      show (Function.update q.producer p _ p).elements = _
      rw [Function.update_self]
      rfl
    · left
      show (Function.update q.producer t _ p).elements = _
      rw [Function.update_of_ne hp]
  | sema s e _ _ _ _ _ _ _ => exact .inl rfl
  | dequeue ptr at₁ at₂ p' hdequeued _ _ _ _ _ _ _ _ =>
    left
    rw [dequeueFrom_producer]
    by_cases hp : p = ptr
    · subst hp
      rw [Function.update_self, (ImplicitProducer.dequeue_head hdequeued).1]
    · rw [Function.update_of_ne hp]

/-- The elements that a producer has stay where they are. -/
lemma getElem?_of_effect (h : Effect w t q pc pc' q') (p : τ) {index : ℕ}
    (hindex : index < (q.producer p).tailIndex) :
    (q'.producer p).elements[index]? = (q.producer p).elements[index]? := by
  rcases elements_of_effect h p with hsame | ⟨item, -, -, -, happend⟩
  · rw [hsame]
  · rw [happend]
    exact List.getElem?_append_left hindex

/-- The list of producers only grows. -/
lemma producerList_of_effect (h : Effect w t q pc pc' q') : q.producerList <:+ q'.producerList := by
  cases h with
  | idle _ => exact List.suffix_refl _
  | addProducer _ => exact List.suffix_cons _ _
  | publish item _ _ => exact List.suffix_refl _
  | sema s e _ _ _ _ _ _ _ => exact List.suffix_refl _
  | dequeue ptr at₁ at₂ p _ _ _ _ _ _ _ _ _ =>
    rw [dequeueFrom_producerList]

omit [DecidableEq τ] in
/-- What a move that may be stuck leads to. -/
lemma snd_of_map_eq_some {σ β γ : Type*} {f : σ → β × γ} {o : Option σ} {b : β} {l : γ}
    (h : o.map f = some (b, l)) : ∃ r, (f r).2 = l := by
  obtain ⟨r, -, hr⟩ := Option.map_eq_some_iff.mp h
  exact ⟨r, congrArg Prod.snd hr⟩

/-- A thread publishes to a producer in the list only. -/
lemma mem_of_store {item : α} (h : q.move w t pc e = some (q', .store item)) :
    t ∈ q'.producerList := by
  unfold move at h
  split at h
  · split_ifs at h with hmem
    · cases h
      exact hmem
    · cases h
  · cases h
  · cases h
  · -- the producer is put into the list
    cases h
    exact List.mem_cons_self
  all_goals first | cases h | exact (snd_of_map_eq_some h).elim fun _ => nofun | skip
  · -- the loop that looks for the best producer
    rename_i ptrs scan
    have hbest : QueuePc.scanned scan ≠ (.store item : QueuePc τ α) := by
      rcases QueuePc.scanned_cases (α := α) scan with ⟨best, hscanned⟩ | hscanned <;>
        rw [hscanned] <;> exact nofun
    split at h
    · split_ifs at h
      · cases h
      · exact absurd (Prod.mk.inj (Option.some_inj.mp h)).2 hbest
    · exact absurd (Prod.mk.inj (Option.some_inj.mp h)).2 hbest
  · obtain ⟨-, hstore⟩ := Prod.mk.inj (Option.some_inj.mp h)
    split_ifs at hstore

section Calls

variable {c : Crew (BlockingConcurrentQueue τ α) (QueuePc τ α) τ}
  {C : Crew (BlockingConcurrentQueue τ α) (QueuePc τ α) τ → τ × QueueEvent α → Prop}

/-- All threads are where the code can be. -/
lemma place_ok (h : (queueCrew τ α w).ReachableUnder C c) (t : τ) : (c.place t).Ok :=
  Crew.places (J := fun _ _ pc => pc.Ok)
    (fun c hinit t => by rw [hinit.2 t]; trivial)
    (fun c t e q pc _ _ hJ hmove => ok_of_move hmove (hJ t))
    (fun c t e q pc _ _ hJ _ u _ => hJ u) h t

/-- A producer with elements is in the list. -/
lemma mem_producerList (h : (queueCrew τ α w).ReachableUnder C c)
    (ht : (c.shared.producer t).elements ≠ []) : t ∈ c.shared.producerList := by
  refine (Crew.places (J := fun (q : BlockingConcurrentQueue τ α) (t : τ) pc =>
    ((∃ item, pc = .store item) → t ∈ q.producerList) ∧
      ((q.producer t).elements ≠ [] → t ∈ q.producerList)) (fun c hinit t => ?_)
    (fun c t e q pc _ _ hJ hmove => ⟨?_, ?_⟩) (fun c t e q pc _ _ hJ hmove u hu => ?_) h t).2 ht
  · obtain ⟨hshared, hout⟩ := hinit
    rw [hshared, hout t]
    exact ⟨nofun, fun hne => absurd rfl hne⟩
  · rintro ⟨item, rfl⟩
    exact mem_of_store hmove
  · intro hne
    refine (producerList_of_effect (move_effect hmove)).subset ?_
    rcases elements_of_effect (move_effect hmove) t with hsame | ⟨item, -, hpc, -, -⟩
    · exact (hJ t).2 (hsame ▸ hne)
    · exact (hJ t).1 ⟨item, hpc⟩
  · have hsubset := (producerList_of_effect (move_effect hmove)).subset
    refine ⟨fun hstore => hsubset ((hJ u).1 hstore), fun hne => hsubset ((hJ u).2 ?_)⟩
    rcases elements_of_effect (move_effect hmove) u with hsame | ⟨item, hut, -, -, -⟩
    · exact hsame ▸ hne
    · exact absurd hut hu

variable [Fintype τ]

/-- An index that was taken has an element. -/
lemma index_lt_tail (hw : 0 < w) {p : τ} {index : ℕ}
    (h : (queueCrew τ α w).ReachableUnder (ComparesStep w) c)
    (ht : (c.place t).inDequeue p = .claimed index) : index < (c.shared.producer p).tailIndex := by
  have hsound := sound hw p h
  have hindex : index < (c.shared.producer p).headIndex := by
    have hplace : (c.shared.producer p).PlaceOk t ((c.place t).inDequeue p) := hsound.place t
    rwa [ht] at hplace
  exact lt_of_lt_of_le hindex (le_trans (Nat.le_add_right _ _) hsound.head_add_le)

/-- The threads that rest are seen to rest. -/
lemma seen_of_others (hw : 0 < w) (h : (queueCrew τ α w).ReachableUnder (ComparesStep w) c)
    (hmove : c.shared.move w t (c.place t) e = some (q, pc)) (u : τ) :
    (c.place u).seen q = (c.place u).seen c.shared := by
  have hstay := fun p index (hindex : (c.place u).inDequeue p = .claimed index) =>
    getElem?_of_effect (move_effect hmove) p (index_lt_tail hw h hindex)
  cases hu : c.place u with
  | best ptr at₁ =>
    cases at₁ with
    | claimed index =>
      exact congrArg CallPc.dequeued (hstay ptr index (by rw [hu]; exact if_pos rfl))
    | _ => rfl
  | other best ptrs ptr at₁ =>
    cases at₁ with
    | claimed index =>
      exact congrArg CallPc.dequeued (hstay ptr index (by rw [hu]; exact if_pos rfl))
    | _ => rfl
  | _ => rfl

/-- What the callers see of the queue. -/
def seenBy (c : Crew (BlockingConcurrentQueue τ α) (QueuePc τ α) τ) :
    Crew (List (τ × α)) (CallPc α) τ := c.view (fun q => q.entries) QueuePc.seen

/-- **The semaphore counts the entries, but for the threads on their way**: each entry has a permit
in the count or on its way from `signal` to a thread that waits, or is not signalled yet, or is set
apart for a consumer that has its permit.

**Proof sketch.** A permit is given for each entry a moment after it is published, and taken a
moment before the entry is. -/
theorem entries_length_eq (hw : 0 < w)
    (h : (queueCrew τ α w).ReachableUnder (ComparesStep w) c) :
    c.shared.entries.length =
      (c.shared.sema.mCount.toNat + c.shared.sema.mSema +
        (semaphoreOf c).total SemaphorePc.posting) +
        c.total QueuePc.toSignal + c.total QueuePc.inLoop := by
  have hpermits := (LightweightSemaphore.permits_conserved (semaphore_reachable h)).1
  have haccounted := accounted hw h
  have hsema : (semaphoreOf c).shared = c.shared.sema := rfl
  rw [hsema] at hpermits
  omega

/-- An entry is set apart for a consumer. -/
theorem entries_length_eq_load :
    ∃ c, (queueCrew (Fin 2) ℕ 32).ReachableUnder (ComparesStep 32) c ∧ c.place 1 = .load ∧
      c.shared.entries.length =
        (c.shared.sema.mCount.toNat + c.shared.sema.mSema +
          (semaphoreOf c).total SemaphorePc.posting) +
          c.total QueuePc.toSignal + c.total QueuePc.inLoop := by
  have h : ((queueCrew (Fin 2) ℕ 32).runUnder (ComparesStep 32) ⟨.new, fun _ => .out⟩
      (enqueueEvents 0 7 ++ dequeueEvents 1 4)).map (fun c => c.place 1) = some .load := by
    decide +kernel
  obtain ⟨c, hrun, hplace⟩ := Option.map_eq_some_iff.mp h
  have hreach := StepSystem.ReachableUnder.runUnder reachable_new hrun
  exact ⟨c, hreach, hplace, entries_length_eq (by decide) hreach⟩

/-! ## Blocked consumers -/

omit [Fintype τ] in
/-- A thread in a call can go on, unless it waits for the kernel's semaphore and that is empty. -/
lemma exists_move (hin : pc ≠ .out) (hok : pc.Ok)
    (hindex : ∀ p index, pc.inDequeue p = .claimed index → index < (q.producer p).tailIndex)
    (hblocked : pc = .acquire true .semaWait → 0 < q.sema.mSema) :
    ∃ e r, q.move w t pc e = some r := by
  have hdequeue : ∀ {ptr : τ} {at₁ : DequeuePc} (f : DequeuePc → QueuePc τ α),
      (∃ r, (q.producer ptr).dequeue w t at₁ = some r) →
      ∃ r, ((q.producer ptr).dequeue w t at₁).map (fun r => (q.dequeueFrom ptr r.1 r.2, f r.2)) =
        some r := by
    rintro ptr at₁ f ⟨r, hr⟩
    rw [hr]
    exact ⟨_, rfl⟩
  cases pc with
  | out => exact absurd rfl hin
  | addProducer item => exact ⟨.refuse, _, rfl⟩
  | store item => exact ⟨.refuse, _, rfl⟩
  | signal at₁ =>
    refine ⟨.next, ?_⟩
    cases at₁ with
    | out => exact ⟨_, rfl⟩
    | post more => cases more <;> exact ⟨_, rfl⟩
    | posted => exact ⟨_, rfl⟩
    | tryLoad c => cases hok
    | tryExchange c oldCount => cases hok
    | spin timed left => cases hok
    | spinExchange timed left oldCount => cases hok
    | fetchSub timed => cases hok
    | semaWait => cases hok
    | semaTimedWait => cases hok
    | reload => cases hok
    | readjust oldCount => cases hok
    | done success =>
      obtain ⟨c, hcall, -⟩ := hok
      cases hcall
  | enqueued success => exact ⟨.ret, _, rfl⟩
  | acquire blocking at₁ =>
    have hnext : (∃ r, q.sema.move at₁ .next = some r) → ∃ r, ((q.sema.move at₁ .next).map fun r =>
        (({ q with sema := r.1 } : BlockingConcurrentQueue τ α),
          (.acquire blocking r.2 : QueuePc τ α))) = some r := by
      rintro ⟨r, hr⟩
      rw [hr]
      exact ⟨_, rfl⟩
    refine ⟨.next, ?_⟩
    cases at₁ with
    | out => exact ⟨_, rfl⟩
    | done success => cases success <;> exact ⟨_, rfl⟩
    | post more =>
      obtain ⟨count, hcall⟩ := hok
      cases hcall
    | posted =>
      obtain ⟨count, hcall⟩ := hok
      cases hcall
    | semaTimedWait => cases blocking <;> cases hok
    | semaWait =>
      cases blocking with
      | true =>
        exact hnext (LightweightSemaphore.exists_next nofun nofun nofun nofun fun _ => hblocked rfl)
      | false => cases hok
    | _ => exact hnext (LightweightSemaphore.exists_next nofun nofun nofun nofun nofun)
  | load => exact ⟨.next, _, rfl⟩
  | scan ptrs scan =>
    refine ⟨.next, ?_⟩
    cases ptrs with
    | nil => exact ⟨_, rfl⟩
    | cons ptr ptrs =>
      simp only [move]
      split_ifs <;> exact ⟨_, rfl⟩
  | scanHead ptrs scan ptr tail => exact ⟨.next, _, rfl⟩
  | best ptr at₁ =>
    refine ⟨.next, ?_⟩
    cases at₁ with
    | out => exact absurd rfl hok
    | claimed index =>
      have hlt := hindex ptr index (if_pos rfl)
      exact ⟨_, Option.map_eq_some_iff.mpr ⟨_, List.getElem?_eq_getElem hlt, rfl⟩⟩
    | failed => exact ⟨_, rfl⟩
    | _ => exact hdequeue _ (ImplicitProducer.exists_dequeue hok nofun nofun)
  | reload ptr => exact ⟨.next, _, rfl⟩
  | others best ptrs => cases ptrs <;> exact ⟨.next, _, rfl⟩
  | other best ptrs ptr at₁ =>
    refine ⟨.next, ?_⟩
    cases at₁ with
    | out => exact absurd rfl hok
    | claimed index =>
      have hlt := hindex ptr index (if_pos rfl)
      exact ⟨_, Option.map_eq_some_iff.mpr ⟨_, List.getElem?_eq_getElem hlt, rfl⟩⟩
    | failed => exact ⟨_, rfl⟩
    | _ => exact hdequeue _ (ImplicitProducer.exists_dequeue hok nofun nofun)
  | done result => exact ⟨.ret, _, rfl⟩

/-- A thread whose call cannot go on waits for the kernel's semaphore, and that is empty. -/
lemma blocked_of_stuck (hw : 0 < w) (h : (queueCrew τ α w).ReachableUnder (ComparesStep w) c)
    (ht : c.place t ≠ .out) (hstuck : ∀ e, c.shared.move w t (c.place t) e = none) :
    c.place t = .acquire true .semaWait ∧ c.shared.sema.mSema = 0 := by
  by_contra hnot
  obtain ⟨e, r, hr⟩ := exists_move (w := w) (t := t) ht (place_ok h t)
    (fun p index hindex => index_lt_tail hw h hindex) fun hwait =>
      Nat.pos_of_ne_zero fun hzero => hnot ⟨hwait, hzero⟩
  rw [hstuck e] at hr
  cases hr

/-- Where all threads that are in a call wait for the kernel's semaphore, and that is empty, the
queue is empty. -/
lemma entries_eq_nil_of_blocked (hw : 0 < w)
    (h : (queueCrew τ α w).ReachableUnder (ComparesStep w) c) (ht : c.place t ≠ .out)
    (hblocked : ∀ t, c.place t ≠ .out →
      c.place t = .acquire true .semaWait ∧ c.shared.sema.mSema = 0) : c.shared.entries = [] := by
  have hzero : ∀ f : QueuePc τ α → ℕ, f .out = 0 → f (.acquire true .semaWait) = 0 →
      c.total f = 0 := by
    intro f hout hwait
    refine Crew.total_eq_zero fun t => ?_
    by_cases ht : c.place t = .out
    · rw [ht, hout]
    · rw [(hblocked t ht).1, hwait]
  obtain ⟨hpermits, hwaiting⟩ :=
    LightweightSemaphore.permits_conserved (semaphore_reachable h)
  have hposting : (semaphoreOf c).total SemaphorePc.posting = 0 :=
    hzero (fun pc => pc.sema.posting) rfl rfl
  have hwait : 1 ≤ (semaphoreOf c).total SemaphorePc.waiting := by
    refine le_trans ?_ (Crew.le_total SemaphorePc.waiting (semaphoreOf c) t)
    show 1 ≤ (c.place t).sema.waiting
    rw [(hblocked t ht).1]
    exact le_rfl
  have haccounted := accounted hw h
  have hsema : (semaphoreOf c).shared = c.shared.sema := rfl
  have hempty := (hblocked t ht).2
  rw [hzero QueuePc.toSignal rfl rfl, hzero QueuePc.inLoop rfl rfl] at haccounted
  rw [hsema] at hpermits hwaiting
  refine List.length_eq_zero_iff.mp ?_
  omega

/-- **No consumer is left blocked while there is an entry**: where no call can go on, all threads
in one are blocked in `wait_dequeue`, and if there is such a thread, the queue is empty.

**Proof sketch.** The threads that are blocked have taken no permit, and none is on its way to an
entry or a signal. So the permits that are left are the entries, and there are none. -/
theorem entries_eq_nil_of_stuck (hw : 0 < w)
    (h : (queueCrew τ α w).ReachableUnder (ComparesStep w) c)
    (hstuck : ∀ t, c.place t ≠ .out → ∀ e, c.shared.move w t (c.place t) e = none) :
    (∀ t, c.place t ≠ .out → c.place t = .acquire true .semaWait) ∧
      ∀ t, c.place t ≠ .out → c.shared.entries = [] := by
  have hblocked := fun t ht => blocked_of_stuck hw h ht (hstuck t ht)
  exact ⟨fun t ht => (hblocked t ht).1, fun t ht => entries_eq_nil_of_blocked hw h ht hblocked⟩

omit [Fintype τ] in
/-- A move of a thread outside the producers. -/
lemma reachable_outside (t : τ) (e : QueueEvent α)
    (h : (queueCrew τ α w).ReachableUnder (ComparesStep w) c) (ht : c.place t = pc)
    (hpc : ∀ p, pc.inDequeue p = .out) (hmove : c.shared.move w t pc e = some (q', pc')) :
    (queueCrew τ α w).ReachableUnder (ComparesStep w) ⟨q', Function.update c.place t pc'⟩ := by
  subst ht
  refine h.step (e := (t, e)) (fun p => ?_) (Crew.step_eq_some.mpr ⟨q', pc', hmove, rfl⟩)
  show (c.shared.producer p).Compares w ((c.place t).inDequeue p)
  rw [hpc p]
  trivial

omit [Fintype τ] in
/-- A thread that finds no permit goes from `spin` to the kernel's semaphore. -/
lemma reachable_blocked (t : τ) (h : (queueCrew τ α w).ReachableUnder (ComparesStep w) c)
    {left : ℕ} (ht : c.place t = .acquire true (.spin false left))
    (hcount : c.shared.sema.mCount ≤ 0) :
    (queueCrew τ α w).ReachableUnder (ComparesStep w)
      ⟨{ c.shared with sema := { c.shared.sema with mCount := c.shared.sema.mCount - 1 } },
        Function.update c.place t (.acquire true .semaWait)⟩ := by
  induction left generalizing c with
  | zero =>
    have hfetch : (queueCrew τ α w).ReachableUnder (ComparesStep w)
        ⟨c.shared, Function.update c.place t (.acquire true (.fetchSub false))⟩ :=
      reachable_outside t .next h ht (fun _ => rfl) rfl
    have hmove : c.shared.move w t (.acquire true (.fetchSub false)) .next =
        some ({ c.shared with
          sema := { c.shared.sema with mCount := c.shared.sema.mCount - 1 } },
          .acquire true .semaWait) := by
      simp only [move, LightweightSemaphore.move]
      rw [if_neg (by omega)]
      rfl
    have hwait := reachable_outside t .next hfetch (Function.update_self ..) (fun _ => rfl) hmove
    dsimp only at hwait
    rwa [Function.update_idem] at hwait
  | succ left ih =>
    have hload : (queueCrew τ α w).ReachableUnder (ComparesStep w)
        ⟨c.shared, Function.update c.place t
          (.acquire true (.spinExchange false left c.shared.sema.mCount))⟩ :=
      reachable_outside t .next h ht (fun _ => rfl) rfl
    have hmove : c.shared.move w t
        (.acquire true (.spinExchange false left c.shared.sema.mCount)) .next =
          some (c.shared, .acquire true (.spin false left)) := by
      simp only [move, LightweightSemaphore.move]
      rw [if_neg fun hpos => by omega]
      rfl
    have hspin := reachable_outside t .next hload (Function.update_self ..) (fun _ => rfl) hmove
    dsimp only at hspin
    rw [Function.update_idem] at hspin
    have hblocked := ih hspin (Function.update_self ..) hcount
    dsimp only at hblocked
    rwa [Function.update_idem] at hblocked

/-- A consumer has taken the one element there was, and is blocked when it comes again. -/
theorem entries_eq_nil_of_stuck_consumer :
    ∃ c, (queueCrew (Fin 2) ℕ 32).ReachableUnder (ComparesStep 32) c ∧
      c.shared.sema.signalled = 1 ∧ c.place 1 = .acquire true .semaWait ∧
      c.shared.entries = [] := by
  have h : ((queueCrew (Fin 2) ℕ 32).runUnder (ComparesStep 32) ⟨.new, fun _ => .out⟩
      (enqueueEvents 0 7 ++ dequeueEvents 1 15 ++ [(1, .ret)] ++ dequeueEvents 1 3)).map
        (fun c => ((c.shared.sema.mCount, c.shared.sema.mSema, c.shared.sema.signalled),
          c.place 0, c.place 1)) =
          some ((0, 0, 1), .out, .acquire true (.spin false 10000)) := by
    decide +kernel
  obtain ⟨c, hrun, heq⟩ := Option.map_eq_some_iff.mp h
  obtain ⟨hsema, hplace⟩ := Prod.mk.inj heq
  obtain ⟨hcount, hrest⟩ := Prod.mk.inj hsema
  obtain ⟨hempty, hsignalled⟩ := Prod.mk.inj hrest
  obtain ⟨h0, h1⟩ := Prod.mk.inj hplace
  have hreach := reachable_blocked 1 (StepSystem.ReachableUnder.runUnder reachable_new hrun) h1
    hcount.le
  have hplace : Function.update c.place 1 (.acquire true .semaWait) 1 = .acquire true .semaWait :=
    Function.update_self ..
  refine ⟨_, hreach, hsignalled, hplace,
    (entries_eq_nil_of_stuck (by decide) hreach fun t ht e => ?_).2 1
      fun hout => absurd (hplace.symm.trans hout) nofun⟩
  have hout : Function.update c.place 1 (.acquire true .semaWait) 0 = .out :=
    (Function.update_of_ne Fin.zero_ne_one _ _).trans h0
  obtain rfl : t = 1 := by
    by_contra hne
    obtain rfl : t = 0 := by omega
    exact ht hout
  dsimp only
  rw [hplace]
  cases e with
  | next =>
    show (LightweightSemaphore.move _ .semaWait .next).map _ = none
    rw [show LightweightSemaphore.move _ .semaWait .next = none from if_neg (by dsimp only; omega)]
    rfl
  | _ => rfl

end Calls

end BlockingConcurrentQueue

end UsbTv
