import UsbTv.Queue.Entries

set_option relaxedAutoImplicit false
set_option autoImplicit false

/-!
# One consumer at a time

The queue of the driver has one consumer at a time: the process thread, and the handler thread
once it has joined that. Then most of what the queue provides for is not needed. The first
producer that a consumer tries has an element, no number of `dequeueOptimisticCount` has to be
made up for, and the loop around `try_dequeue` is never gone through twice. The comparisons of
indices are right as long as there are fewer entries than half the range of an index.

Any number of threads enqueue at the same time.

## Main definitions

* `UsbTv.BlockingConcurrentQueue.LoneStep` — the runs with one consumer at a time.
* `UsbTv.BlockingConcurrentQueue.Lone` — what such runs keep.

## Main results

* `UsbTv.BlockingConcurrentQueue.lone_of_reachable` — what such runs keep.
* `UsbTv.BlockingConcurrentQueue.exists_done_of_moves` — a consumer that has a permit gets its
  element within a bound on its own moves.
* `UsbTv.BlockingConcurrentQueue.exists_alone_failed` — a thread that is alone can call
  `try_dequeue` until it fails.
-/

namespace UsbTv

namespace QueuePc

variable {τ α : Type*}

/-- The thread is in `wait_dequeue` or `try_dequeue`, and has no element yet. -/
def consumes : QueuePc τ α → Bool
  | acquire _ _ | load | scan _ _ | scanHead _ _ _ _ | best _ _ | reload _ | others _ _
  | other _ _ _ _ => true
  | out | addProducer _ | store _ | signal _ | enqueued _ | done _ => false

/-- A thread that is in `dequeue` of a producer consumes. -/
lemma inDequeue_eq_out [DecidableEq τ] {pc : QueuePc τ α} (h : pc.consumes = false) (p : τ) :
    pc.inDequeue p = .out := by
  cases pc with
  | best ptr at₁ => cases h
  | other best ptrs ptr at₁ => cases h
  | _ => rfl

end QueuePc

/-- Whether `wait_dequeue` or `try_dequeue` is called. -/
def QueueEvent.isDequeue {α : Type*} : QueueEvent α → Bool
  | dequeue _ => true
  | enqueue _ | next | refuse | fail | ret => false

/-- Whether `enqueue` or `try_enqueue` is called. -/
def QueueEvent.isEnqueue {α : Type*} : QueueEvent α → Bool
  | enqueue _ => true
  | dequeue _ | next | refuse | fail | ret => false

namespace BlockingConcurrentQueue

variable {τ α : Type*} [DecidableEq τ] {w : ℕ} {t : τ} {q q' : BlockingConcurrentQueue τ α}
  {pc pc' : QueuePc τ α} {e : QueueEvent α}
  {c c' : Crew (BlockingConcurrentQueue τ α) (QueuePc τ α) τ}

/-- A thread dequeues while no other does, and there are fewer entries than half the range of an
index. -/
def LoneStep (w : ℕ) (c : Crew (BlockingConcurrentQueue τ α) (QueuePc τ α) τ)
    (e : τ × QueueEvent α) : Prop :=
  c.shared.entries.length < 2 ^ (w - 1) ∧
    (e.2.isDequeue = true → ∀ t, (c.place t).consumes = false)

instance [Fintype τ] (w : ℕ) (c : Crew (BlockingConcurrentQueue τ α) (QueuePc τ α) τ)
    (e : τ × QueueEvent α) : Decidable (LoneStep w c e) :=
  inferInstanceAs (Decidable (_ ∧ (_ → ∀ t, (c.place t).consumes = false)))

/-! ## The threads that enqueue -/

/-- Consumers come from the calls of `wait_dequeue` and `try_dequeue`. -/
lemma consumes_of_move (h : q.move w t pc e = some (q', pc')) (hpc : pc.consumes = false)
    (he : e.isDequeue = false) : pc'.consumes = false := by
  unfold move at h
  split at h
  · cases h
    split_ifs <;> rfl
  · cases he
  · cases h
    rfl
  · cases h
    rfl
  · cases h
    rfl
  · cases h
    rfl
  · obtain ⟨r, -, heq⟩ := Option.map_eq_some_iff.mp h
    cases heq
    rfl
  · cases h
    rfl
  · obtain ⟨r, -, heq⟩ := Option.map_eq_some_iff.mp h
    cases heq
    rfl
  · cases h
    rfl
  all_goals try (cases hpc; done)
  · cases h
    rfl
  · cases h

/-- What a producer has left grows only, while no thread dequeues. -/
structure Grows (q q' : BlockingConcurrentQueue τ α) : Prop where
  headIndex : ∀ p, (q'.producer p).headIndex = (q.producer p).headIndex
  dequeueOvercommit : ∀ p, (q'.producer p).dequeueOvercommit = (q.producer p).dequeueOvercommit
  tailIndex : ∀ p, (q.producer p).tailIndex ≤ (q'.producer p).tailIndex

/-- A thread that does not consume takes nothing from a producer. -/
lemma grows_of_effect (h : Effect w t q pc pc' q') (hpc : pc.consumes = false) : Grows q q' := by
  cases h with
  | idle _ => exact ⟨fun _ => rfl, fun _ => rfl, fun _ => le_rfl⟩
  | addProducer _ => exact ⟨fun _ => rfl, fun _ => rfl, fun _ => le_rfl⟩
  | publish item _ _ =>
    have hproducer : ∀ p, (q.publish t item).producer p = q.producer p ∨
        (q.publish t item).producer p = (q.producer p).enqueue item := by
      intro p
      by_cases hp : p = t
      · subst hp
        exact .inr (Function.update_self ..)
      · exact .inl (Function.update_of_ne hp _ _)
    refine ⟨fun p => ?_, fun p => ?_, fun p => ?_⟩
    · rcases hproducer p with hp | hp
      · rw [hp]
      · rw [hp]
        rfl
    · rcases hproducer p with hp | hp
      · rw [hp]
      · rw [hp]
        rfl
    · rcases hproducer p with hp | hp
      · rw [hp]
      · rw [hp]
        simp [ImplicitProducer.enqueue, ImplicitProducer.tailIndex]
  | sema s e _ _ _ _ _ _ _ => exact ⟨fun _ => rfl, fun _ => rfl, fun _ => le_rfl⟩
  | dequeue ptr at₁ at₂ p hdequeued _ _ hdequeue _ _ _ _ _ =>
    have hat := hdequeue ptr
    rw [if_pos rfl, QueuePc.inDequeue_eq_out hpc] at hat
    rw [← hat] at hdequeued
    cases hdequeued

/-! ## The invariant -/

/-- The producer has an element left. -/
def Full (q : BlockingConcurrentQueue τ α) (p : τ) : Prop :=
  (q.producer p).headIndex < (q.producer p).tailIndex

/-- What the loop over the producers has found has an element. -/
structure FoundOk (q : BlockingConcurrentQueue τ α) (scan : Scan τ) : Prop where
  empty : scan.best = none → scan.nonEmptyCount = 0 ∧ scan.bestSize = 0
  full : ∀ p, scan.best = some p → q.Full p

/-- What is known of a consumer that is alone in `dequeue` of a producer. -/
def DequeueOk (p : ImplicitProducer τ α) : DequeuePc → Prop
  | .loadTail => p.headIndex < p.tailIndex
  | .loadOvercommit tail => p.headIndex < tail ∧ tail ≤ p.tailIndex
  | .compare tail overcommit => overcommit = 0 ∧ p.headIndex < tail ∧ tail ≤ p.tailIndex
  | .fetchOptimistic overcommit => overcommit = 0 ∧ p.headIndex < p.tailIndex
  | .recompare overcommit myDequeueCount =>
    overcommit = 0 ∧ myDequeueCount = p.headIndex ∧ p.headIndex < p.tailIndex
  | .fetchHead | .claimed _ => True
  | .out | .fetchOvercommit | .failed => False

/-- What is known of a thread from the place where it stands: a consumer finds an element at the
first producer it tries. -/
def LoneOk (q : BlockingConcurrentQueue τ α) : QueuePc τ α → Prop
  | .scan ptrs scan => q.FoundOk scan ∧ (scan.best = none → ∃ p ∈ ptrs, q.Full p)
  | .scanHead ptrs scan ptr tail =>
    q.FoundOk scan ∧ (q.producer ptr).headIndex ≤ tail ∧ tail ≤ (q.producer ptr).tailIndex ∧
      (scan.best = none → (q.producer ptr).headIndex < tail ∨ ∃ p ∈ ptrs, q.Full p)
  | .best ptr pc => DequeueOk (q.producer ptr) pc
  | .reload _ | .others _ _ | .other _ _ _ _ => False
  | .out | .addProducer _ | .store _ | .signal _ | .enqueued _ | .acquire _ _ | .load
  | .done _ => True

/-- What a run with one consumer at a time keeps. -/
structure Lone (w : ℕ) (c : Crew (BlockingConcurrentQueue τ α) (QueuePc τ α) τ) : Prop where
  /-- All comparisons were right. -/
  reachable : (queueCrew τ α w).ReachableUnder (ComparesStep w) c
  single : ∀ t u, (c.place t).consumes = true → (c.place u).consumes = true → t = u
  /-- Nothing had to be made up for. -/
  overcommit : ∀ p, (c.shared.producer p).dequeueOvercommit = 0
  place : ∀ t, c.shared.LoneOk (c.place t)

omit [DecidableEq τ] in
/-- What was found stays, while no other thread dequeues. -/
lemma Full.mono {p : τ} (h : q.Full p) (hgrows : Grows q q') : q'.Full p := by
  unfold Full
  rw [hgrows.headIndex]
  exact lt_of_lt_of_le h (hgrows.tailIndex p)

omit [DecidableEq τ] in
/-- A consumer stays as it is, while no other thread dequeues. -/
lemma LoneOk.mono (h : q.LoneOk pc) (hgrows : Grows q q') : q'.LoneOk pc := by
  have hfound : ∀ {scan : Scan τ}, q.FoundOk scan → q'.FoundOk scan := fun hscan =>
    ⟨hscan.empty, fun p hp => (hscan.full p hp).mono hgrows⟩
  have hrest : ∀ {ptrs : List τ}, (∃ p ∈ ptrs, q.Full p) → ∃ p ∈ ptrs, q'.Full p :=
    fun ⟨p, hp, hfull⟩ => ⟨p, hp, hfull.mono hgrows⟩
  cases pc with
  | scan ptrs scan => exact ⟨hfound h.1, fun hnone => hrest (h.2 hnone)⟩
  | scanHead ptrs scan ptr tail =>
    obtain ⟨hscan, hhead, htail, hnone⟩ := h
    refine ⟨hfound hscan, ?_, htail.trans (hgrows.tailIndex ptr), ?_⟩
    · rw [hgrows.headIndex]
      exact hhead
    · rw [hgrows.headIndex]
      exact fun hbest => (hnone hbest).imp_right hrest
  | best ptr at₁ =>
    have hle := hgrows.tailIndex ptr
    show DequeueOk (q'.producer ptr) at₁
    cases at₁ with
    | loadTail => exact Full.mono h hgrows
    | loadOvercommit tail =>
      refine ⟨?_, h.2.trans hle⟩
      rw [hgrows.headIndex]
      exact h.1
    | compare tail overcommit =>
      refine ⟨h.1, ?_, h.2.2.trans hle⟩
      rw [hgrows.headIndex]
      exact h.2.1
    | fetchOptimistic overcommit => exact ⟨h.1, Full.mono h.2 hgrows⟩
    | recompare overcommit myDequeueCount =>
      refine ⟨h.1, ?_, Full.mono h.2.2 hgrows⟩
      rw [hgrows.headIndex]
      exact h.2.1
    | fetchHead => trivial
    | claimed index => trivial
    | out => exact h.elim
    | fetchOvercommit => exact h.elim
    | failed => exact h.elim
  | reload ptr => exact h.elim
  | others best ptrs => exact h.elim
  | other best ptrs ptr at₁ => exact h.elim
  | _ => trivial

section Step

variable [Fintype τ]

omit [Fintype τ] in
/-- A producer has no more elements left than there are entries. -/
lemma tail_le_head_add (h : q.Recorded) (p : τ) :
    (q.producer p).tailIndex ≤ (q.producer p).headIndex + q.entries.length := by
  have hlength : (elementsOf p q.entries).length =
      (q.producer p).tailIndex - (q.producer p).headIndex := by
    rw [h.entries, List.length_drop]
    rfl
  have hle : (elementsOf p q.entries).length ≤ q.entries.length := by
    unfold elementsOf
    rw [List.length_map]
    exact List.length_filter_le _ _
  omega

/-- A consumer that is alone finds the numbers of `dequeueOptimisticCount` in step with the
indices. -/
lemma Lone.dequeueOptimisticCount_eq (hw : 0 < w) (h : Lone w c) (p : τ)
    (ht : (c.place t).consumes = true) (hcomparing : ((c.place t).inDequeue p).comparing = 0)
    (hclaiming : ((c.place t).inDequeue p).claiming = 0)
    (hfailing : ((c.place t).inDequeue p).failing = 0) :
    (c.shared.producer p).dequeueOptimisticCount = (c.shared.producer p).headIndex := by
  have hzero : ∀ f : DequeuePc → ℕ, f .out = 0 → f ((c.place t).inDequeue p) = 0 →
      (producerOf p c).total f = 0 := by
    intro f hout hf
    refine Crew.total_eq_zero fun u => ?_
    show f ((c.place u).inDequeue p) = 0
    by_cases hu : (c.place u).consumes = true
    · rw [h.single u t hu ht]
      exact hf
    · rw [QueuePc.inDequeue_eq_out (Bool.eq_false_iff.mpr hu), hout]
  have hcount := (sound hw p h.reachable).dequeueOptimisticCount_eq
  rw [hzero _ rfl hcomparing, hzero _ rfl hclaiming, hzero _ rfl hfailing] at hcount
  have hover : (producerOf p c).shared.dequeueOvercommit = 0 := h.overcommit p
  rw [hover] at hcount
  exact hcount

/-- The comparisons of the next move are right. -/
lemma Lone.compares (hw : 0 < w) (h : Lone w c) (t : τ)
    (hfew : c.shared.entries.length < 2 ^ (w - 1)) : c.shared.Compares w (c.place t) := by
  intro p
  have hle := tail_le_head_add (recorded hw h.reachable) p
  have hplace := h.place t
  cases ht : c.place t with
  | best ptr at₁ =>
    have hin : (QueuePc.best ptr at₁ : QueuePc τ α).inDequeue p = if ptr = p then at₁ else .out :=
      rfl
    rw [hin]
    split_ifs with hp
    · subst hp
      rw [ht] at hplace
      cases at₁ with
      | compare tail overcommit =>
        obtain ⟨rfl, hlt, htail⟩ := hplace
        have hin' : (c.place t).inDequeue ptr = .compare tail 0 := by
          rw [ht]
          exact if_pos rfl
        have hcount := h.dequeueOptimisticCount_eq hw (t := t) ptr (by rw [ht]; rfl)
          (by rw [hin']; rfl) (by rw [hin']; rfl) (by rw [hin']; rfl)
        show Near w ((c.shared.producer ptr).dequeueOptimisticCount - 0) tail
        rw [hcount, Nat.sub_zero]
        constructor <;> omega
      | recompare overcommit myDequeueCount =>
        obtain ⟨rfl, rfl, hlt⟩ := hplace
        show Near w ((c.shared.producer ptr).headIndex - 0) (c.shared.producer ptr).tailIndex
        rw [Nat.sub_zero]
        constructor <;> omega
      | _ => trivial
    · trivial
  | other best ptrs ptr at₁ =>
    rw [ht] at hplace
    exact hplace.elim
  | _ => trivial

/-- The consumer that has a permit has a producer with an element for it. -/
lemma Lone.exists_full (hw : 0 < w) (h : Lone w c) (ht : (c.place t).inLoop = 1) :
    ∃ p ∈ c.shared.producerList, c.shared.Full p := by
  have hpermits := (LightweightSemaphore.permits_conserved (semaphore_reachable h.reachable)).1
  have haccounted := accounted hw h.reachable
  have hloop : 1 ≤ c.total QueuePc.inLoop := ht ▸ Crew.le_total QueuePc.inLoop c t
  have hsema : (semaphoreOf c).shared = c.shared.sema := rfl
  rw [hsema] at hpermits
  obtain ⟨⟨p, item⟩, hmem⟩ : ∃ x, x ∈ c.shared.entries :=
    List.exists_mem_of_length_pos (by omega)
  have hentries := (recorded hw h.reachable).entries p
  have hne : elementsOf p c.shared.entries ≠ [] := by
    refine List.ne_nil_of_mem (a := item) ?_
    unfold elementsOf
    exact List.mem_map.mpr ⟨(p, item), List.mem_filter.mpr ⟨hmem, by simp⟩, rfl⟩
  rw [hentries, Ne, List.drop_eq_nil_iff, not_le] at hne
  have hpos : (c.shared.producer p).elements ≠ [] := by
    intro hnil
    rw [hnil] at hne
    exact absurd hne (Nat.not_lt_zero _)
  exact ⟨p, mem_producerList h.reachable hpos, hne⟩

omit [DecidableEq τ] [Fintype τ] in
/-- A producer that was found to have elements, or none. -/
lemma FoundOk.find {scan : Scan τ} {ptr : τ} {size : ℕ} (h : q.FoundOk scan)
    (hfull : 0 < size → q.Full ptr) :
    q.FoundOk (scan.find ptr size) ∧
      ((scan.find ptr size).best = none → scan.best = none ∧ size = 0) := by
  unfold Scan.find
  split_ifs with hpos hbest
  · refine ⟨⟨nofun, fun p hp => ?_⟩, nofun⟩
    obtain rfl := Option.some_inj.mp hp
    exact hfull hpos
  · have hsome : scan.best ≠ none := by
      intro hnone
      have hsize := (h.empty hnone).2
      omega
    exact ⟨⟨fun hnone => absurd hnone hsome, h.full⟩, fun hnone => absurd hnone hsome⟩
  · exact ⟨h, fun hnone => ⟨hnone, by omega⟩⟩

/-- The next move in `dequeue` of a producer does not fail. -/
lemma Lone.dequeueOk (hw : 0 < w) (h : Lone w c) {ptr : τ} {at₁ at₂ : DequeuePc}
    {p : ImplicitProducer τ α} (ht : c.place t = .best ptr at₁)
    (hfew : c.shared.entries.length < 2 ^ (w - 1))
    (hmove : (c.shared.producer ptr).dequeue w t at₁ = some (p, at₂)) :
    DequeueOk p at₂ ∧ p.dequeueOvercommit = 0 := by
  have hplace : DequeueOk (c.shared.producer ptr) at₁ := by
    have hplace := h.place t
    rwa [ht] at hplace
  have hover := h.overcommit ptr
  have hin : (c.place t).inDequeue ptr = at₁ := by
    rw [ht]
    exact if_pos rfl
  have hconsumes : (c.place t).consumes = true := by
    rw [ht]
    rfl
  have hnear : (c.shared.producer ptr).Compares w at₁ := by
    have hcompares := h.compares hw t hfew ptr
    rwa [hin] at hcompares
  cases at₁ with
  | loadTail =>
    cases hmove
    exact ⟨⟨hplace, le_rfl⟩, hover⟩
  | loadOvercommit tail =>
    cases hmove
    exact ⟨⟨hover, hplace.1, hplace.2⟩, hover⟩
  | compare tail overcommit =>
    obtain ⟨rfl, hlt, htail⟩ := hplace
    have hcount := h.dequeueOptimisticCount_eq hw ptr hconsumes (by rw [hin]; rfl)
      (by rw [hin]; rfl) (by rw [hin]; rfl)
    have hless : circularLessThan w ((c.shared.producer ptr).dequeueOptimisticCount - 0) tail =
        true := by
      rw [circularLessThan_iff hw hnear, hcount]
      exact hlt
    simp only [ImplicitProducer.dequeue, hless, if_true] at hmove
    cases hmove
    exact ⟨⟨rfl, lt_of_lt_of_le hlt htail⟩, hover⟩
  | fetchOptimistic overcommit =>
    obtain ⟨rfl, hlt⟩ := hplace
    have hcount := h.dequeueOptimisticCount_eq hw ptr hconsumes (by rw [hin]; rfl)
      (by rw [hin]; rfl) (by rw [hin]; rfl)
    cases hmove
    exact ⟨⟨rfl, hcount, hlt⟩, hover⟩
  | recompare overcommit myDequeueCount =>
    obtain ⟨rfl, rfl, hlt⟩ := hplace
    have hless : circularLessThan w ((c.shared.producer ptr).headIndex - 0)
        (c.shared.producer ptr).tailIndex = true := by
      rw [circularLessThan_iff hw hnear]
      exact hlt
    simp only [ImplicitProducer.dequeue, hless, if_true] at hmove
    cases hmove
    exact ⟨trivial, hover⟩
  | fetchHead =>
    cases hmove
    exact ⟨trivial, hover⟩
  | out => exact hplace.elim
  | fetchOvercommit => exact hplace.elim
  | claimed index => cases hmove
  | failed => exact hplace.elim

omit [DecidableEq τ] [Fintype τ] in
/-- The consumer goes on to the best producer it has found. -/
lemma FoundOk.loneOk {scan : Scan τ} (h : q.FoundOk scan) :
    q.LoneOk (.scanned scan) := by
  unfold QueuePc.scanned
  cases hbest : scan.best with
  | some best => exact h.full best hbest
  | none => trivial

omit [Fintype τ] in
/-- What a move of the consumer leaves. -/
lemma loneOk_of_move (hw : 0 < w) (h : q.move w t pc e = some (q', pc')) (hpc : q.LoneOk pc)
    (hconsumes : pc.consumes = true) (hover : ∀ p, (q.producer p).dequeueOvercommit = 0)
    (hfull : pc.inLoop = 1 → ∃ p ∈ q.producerList, q.Full p)
    (hfew : ∀ p, (q.producer p).headIndex ≤ (q.producer p).tailIndex ∧
      (q.producer p).tailIndex < (q.producer p).headIndex + 2 ^ (w - 1))
    (hdequeue : ∀ ptr at₁ at₂ p, pc = .best ptr at₁ →
      (q.producer ptr).dequeue w t at₁ = some (p, at₂) →
        DequeueOk p at₂ ∧ p.dequeueOvercommit = 0) :
    q'.LoneOk pc' ∧ ∀ p, (q'.producer p).dequeueOvercommit = 0 := by
  have hsema : ∀ (f : SemaphorePc → QueuePc τ α) {e : SemaphoreEvent} {at₁ : SemaphorePc},
      (∀ (q' : BlockingConcurrentQueue τ α) at₂, q'.LoneOk (f at₂)) →
      ((q.sema.move at₁ e).map fun r =>
        (({ q with sema := r.1 } : BlockingConcurrentQueue τ α), f r.2)) = some (q', pc') →
      q'.LoneOk pc' ∧ ∀ p, (q'.producer p).dequeueOvercommit = 0 := by
    intro f e at₁ hf h
    obtain ⟨⟨s, at₂⟩, -, heq⟩ := Option.map_eq_some_iff.mp h
    obtain ⟨rfl, rfl⟩ := Prod.mk.inj heq
    exact ⟨hf _ _, hover⟩
  unfold move at h
  split at h
  · cases hconsumes
  · cases hconsumes
  · cases hconsumes
  · cases hconsumes
  · cases hconsumes
  · cases hconsumes
  · cases hconsumes
  · cases hconsumes
  · cases hconsumes
  · cases hconsumes
  · exact hsema (.acquire _) (fun _ _ => trivial) h
  · cases h
    exact ⟨trivial, hover⟩
  · cases h
    exact ⟨trivial, hover⟩
  · exact hsema (.acquire _) (fun _ _ => trivial) h
  · exact hsema (.acquire _) (fun _ _ => trivial) h
  · -- the list of producers has one with an element
    cases h
    exact ⟨⟨⟨fun _ => ⟨rfl, rfl⟩, nofun⟩, fun _ => hfull rfl⟩, hover⟩
  · -- the loop that looks for the best producer
    rename_i ptrs scan
    obtain ⟨hfound, hrest⟩ := hpc
    split at h
    · rename_i ptr ptrs
      split_ifs at h with hcount
      · cases h
        refine ⟨⟨hfound, (hfew ptr).1, le_rfl, fun hnone => ?_⟩, hover⟩
        obtain ⟨p, hmem, hp⟩ := hrest hnone
        rcases List.mem_cons.mp hmem with rfl | hmem
        · exact .inl hp
        · exact .inr ⟨p, hmem, hp⟩
      · cases h
        exact ⟨hfound.loneOk, hover⟩
    · cases h
      exact ⟨hfound.loneOk, hover⟩
  · -- `size_approx` of a producer
    rename_i ptrs scan ptr tail
    obtain ⟨hfound, hhead, htail, hrest⟩ := hpc
    cases h
    have hnear : Near w (q.producer ptr).headIndex tail := by
      have hfew' := hfew ptr
      have hpos : 0 < 2 ^ (w - 1) := Nat.two_pow_pos _
      constructor <;> omega
    have hless := circularLessThan_iff hw hnear
    have hsize : 0 < (if circularLessThan w (q.producer ptr).headIndex tail
        then tail - (q.producer ptr).headIndex else 0) →
          (q.producer ptr).headIndex < (q.producer ptr).tailIndex := by
      intro hpos
      split_ifs at hpos with hlt
      · exact lt_of_lt_of_le (hless.mp hlt) htail
      · cases hpos
    obtain ⟨hfound', hnone'⟩ := hfound.find hsize
    refine ⟨⟨hfound', fun hnone => ?_⟩, hover⟩
    obtain ⟨hnone, hsize⟩ := hnone' hnone
    refine (hrest hnone).resolve_left fun hlt => ?_
    rw [if_pos (hless.mpr hlt)] at hsize
    omega
  · obtain ⟨item, -, heq⟩ := Option.map_eq_some_iff.mp h
    cases heq
    exact ⟨trivial, hover⟩
  · exact hpc.elim
  · -- `best->dequeue`
    rename_i ptr at₁ _ _
    obtain ⟨⟨p, at₂⟩, hmove, heq⟩ := Option.map_eq_some_iff.mp h
    cases heq
    obtain ⟨hok, hover'⟩ := hdequeue ptr at₁ at₂ p rfl hmove
    constructor
    · show DequeueOk ((q.dequeueFrom ptr p at₂).producer ptr) at₂
      rw [dequeueFrom_producer, Function.update_self]
      exact hok
    · intro u
      rw [dequeueFrom_producer]
      by_cases hu : u = ptr
      · subst hu
        rw [Function.update_self]
        exact hover'
      · rw [Function.update_of_ne hu]
        exact hover u
  · exact hpc.elim
  · exact hpc.elim
  · exact hpc.elim
  · exact hpc.elim
  · exact hpc.elim
  · exact hpc.elim
  · cases hconsumes
  · cases h

omit [Fintype τ] [DecidableEq τ] in
/-- Of a thread that does not consume there is nothing to know. -/
lemma loneOk_of_not_consumes (h : pc.consumes = false) : q.LoneOk pc := by
  cases pc with
  | scan ptrs scan => cases h
  | scanHead ptrs scan ptr tail => cases h
  | best ptr at₁ => cases h
  | reload ptr => cases h
  | others best ptrs => cases h
  | other best ptrs ptr at₁ => cases h
  | _ => trivial

omit [Fintype τ] in
/-- The move that calls `wait_dequeue` or `try_dequeue`. -/
lemma move_dequeue (h : q.move w t pc e = some (q', pc')) (he : e.isDequeue = true) :
    pc = .out ∧ q' = q ∧ ∃ blocking, pc' = .acquire blocking .out := by
  unfold move at h
  split at h
  all_goals try (cases he; done)
  · cases h
    exact ⟨rfl, rfl, _, rfl⟩
  · cases h

omit [Fintype τ] in
/-- `enqueue` or `try_enqueue` is called. -/
lemma move_enqueue {item : α} (h : q.move w t pc (.enqueue item) = some (q', pc')) :
    pc = .out ∧ q' = q ∧ pc'.seen q' = .enqueuing item := by
  generalize he : QueueEvent.enqueue item = e at h
  unfold move at h
  split at h
  all_goals try (cases he; done)
  · cases he
    cases h
    refine ⟨rfl, rfl, ?_⟩
    split_ifs <;> rfl
  · cases h

/-- A move in a run with one consumer at a time. -/
lemma Lone.move (hw : 0 < w) (h : Lone w c) (hlone : LoneStep w c (t, e))
    (hmove : c.shared.move w t (c.place t) e = some (q, pc)) :
    (∀ p, (q.producer p).dequeueOvercommit = 0) ∧ q.LoneOk pc ∧
      ∀ u ≠ t, q.LoneOk (c.place u) := by
  obtain ⟨hfew, hcall⟩ := hlone
  by_cases hconsumes : (c.place t).consumes = true
  · -- the others do not consume
    have hrest : ∀ u ≠ t, q.LoneOk (c.place u) := fun u hu =>
      loneOk_of_not_consumes (Bool.eq_false_iff.mpr fun hu' => hu (h.single u t hu' hconsumes))
    have hbounds : ∀ p, (c.shared.producer p).headIndex ≤ (c.shared.producer p).tailIndex ∧
        (c.shared.producer p).tailIndex < (c.shared.producer p).headIndex + 2 ^ (w - 1) := fun p =>
      ⟨le_trans (Nat.le_add_right _ _) (sound hw p h.reachable).head_add_le,
        lt_of_le_of_lt (tail_le_head_add (recorded hw h.reachable) p)
          (Nat.add_lt_add_left hfew _)⟩
    obtain ⟨hok, hover⟩ := loneOk_of_move hw hmove (h.place t) hconsumes h.overcommit
      (h.exists_full hw) hbounds fun ptr at₁ at₂ p ht hdequeued =>
        h.dequeueOk hw ht hfew hdequeued
    exact ⟨hover, hok, hrest⟩
  · have hfalse := Bool.eq_false_iff.mpr hconsumes
    have hgrows := grows_of_effect (move_effect hmove) hfalse
    refine ⟨fun p => (hgrows.dequeueOvercommit p).trans (h.overcommit p), ?_, fun u _ =>
      (h.place u).mono hgrows⟩
    by_cases he : e.isDequeue = true
    · obtain ⟨-, -, blocking, rfl⟩ := move_dequeue hmove he
      trivial
    · exact loneOk_of_not_consumes
        (consumes_of_move hmove hfalse (Bool.eq_false_iff.mpr he))

/-- **What a run with one consumer at a time keeps.** -/
theorem lone_of_reachable (hw : 0 < w) (h : (queueCrew τ α w).ReachableUnder (LoneStep w) c) :
    Lone w c := by
  refine StepSystem.ReachableUnder.invariant (I := Lone w) (fun c hinit => ?_)
    (fun c e c' _ hI hlone hstep => ?_) h
  · obtain ⟨hshared, hout⟩ := hinit
    refine ⟨.init ⟨hshared, hout⟩, fun t u ht => ?_, fun p => ?_, fun t => ?_⟩
    · rw [hout t] at ht
      cases ht
    · rw [hshared]
      rfl
    · rw [hout t]
      trivial
  · obtain ⟨t, e⟩ := e
    have hreach := hI.reachable.step (hI.compares hw t hlone.1) hstep
    obtain ⟨q, pc, hmove, rfl⟩ := Crew.step_eq_some.mp hstep
    obtain ⟨hover, hok, hrest⟩ := hI.move hw hlone hmove
    -- a thread that consumes after the move did so before, or is the first one
    have hbefore : ∀ u, (Function.update c.place t pc u).consumes = true →
        (c.place u).consumes = true ∨ u = t ∧ ∀ v, (c.place v).consumes = false := by
      intro u hu
      by_cases hut : u = t
      · subst hut
        by_cases hu' : (c.place u).consumes = true
        · exact .inl hu'
        · refine .inr ⟨rfl, hlone.2 ?_⟩
          by_contra hcall
          rw [Function.update_self, consumes_of_move hmove (Bool.eq_false_iff.mpr hu')
            (Bool.eq_false_iff.mpr hcall)] at hu
          cases hu
      · rw [Function.update_of_ne hut] at hu
        exact .inl hu
    refine ⟨hreach, fun u v hu hv => ?_, hover, fun u => ?_⟩
    · rcases hbefore u hu with hu' | ⟨rfl, hnone⟩
      · rcases hbefore v hv with hv' | ⟨rfl, hnone⟩
        · exact hI.single u v hu' hv'
        · rw [hnone u] at hu'
          cases hu'
      · rcases hbefore v hv with hv' | ⟨rfl, -⟩
        · rw [hnone v] at hv'
          cases hv'
        · rfl
    · by_cases hu : u = t
      · subst hu
        dsimp only
        rw [Function.update_self]
        exact hok
      · dsimp only
        rw [Function.update_of_ne hu]
        exact hrest u hu

end Step

/-! ## A bound on the moves -/

end BlockingConcurrentQueue

/-- How many moves a consumer that is alone has still to make in `dequeue` of a producer, the one
that returns among them. -/
def DequeuePc.togo : DequeuePc → ℕ
  | loadTail => 7
  | loadOvercommit _ => 6
  | compare _ _ => 5
  | fetchOptimistic _ => 4
  | recompare _ _ => 3
  | fetchHead => 2
  | claimed _ => 1
  | out | fetchOvercommit | failed => 0

/-- How many moves a consumer that is alone has still to make until it has its element, with the
list of producers loaded. -/
def QueuePc.togo {τ α : Type*} : QueuePc τ α → ℕ
  | scan ptrs _ => 2 * ptrs.length + 8
  | scanHead ptrs _ _ _ => 2 * ptrs.length + 9
  | best _ pc => pc.togo
  | _ => 0

namespace BlockingConcurrentQueue

variable {τ α : Type*} [DecidableEq τ] {w : ℕ} {t : τ} {q q' : BlockingConcurrentQueue τ α}
  {pc pc' : QueuePc τ α} {e : QueueEvent α}
  {c c' : Crew (BlockingConcurrentQueue τ α) (QueuePc τ α) τ}

omit [DecidableEq τ] in
/-- A move in `dequeue` of a producer brings the consumer closer. -/
lemma togo_of_dequeue {p p' : ImplicitProducer τ α} {at₁ at₂ : DequeuePc}
    (h : p.dequeue w t at₁ = some (p', at₂)) (hok : DequeueOk p' at₂) :
    0 < at₂.togo ∧ at₂.togo < at₁.togo := by
  cases at₁ with
  | compare tail overcommit =>
    obtain ⟨-, hat⟩ := Prod.mk.inj (Option.some_inj.mp h)
    split_ifs at hat
    · subst hat
      simp [DequeuePc.togo]
    · subst hat
      exact hok.elim
  | recompare overcommit myDequeueCount =>
    simp only [ImplicitProducer.dequeue] at h
    split_ifs at h
    · cases h
      simp [DequeuePc.togo]
    · cases h
      exact hok.elim
  | fetchOvercommit =>
    cases h
    exact hok.elim
  | loadTail =>
    cases h
    simp [DequeuePc.togo]
  | loadOvercommit tail =>
    cases h
    simp [DequeuePc.togo]
  | fetchOptimistic overcommit =>
    cases h
    simp [DequeuePc.togo]
  | fetchHead =>
    cases h
    simp [DequeuePc.togo]
  | out => cases h
  | claimed index => cases h
  | failed => cases h

/-- Each move brings the consumer closer to its element. -/
lemma togo_of_move (h : q.move w t pc e = some (q', pc')) (hpc : q.LoneOk pc)
    (hpc' : q'.LoneOk pc') (hpos : 0 < pc.togo) :
    (∃ item, pc' = .done (some item)) ∨ (0 < pc'.togo ∧ pc'.togo < pc.togo) := by
  have hbest : ∀ {ptrs : List τ} {scan : Scan τ}, scan.best ≠ none →
      pc' = .scanned scan →
        0 < pc'.togo ∧ pc'.togo < (QueuePc.scan ptrs scan : QueuePc τ α).togo := by
    rintro ptrs scan hsome rfl
    obtain ⟨best, hbest⟩ := Option.ne_none_iff_exists'.mp hsome
    rw [QueuePc.scanned, hbest]
    simp only [QueuePc.togo, DequeuePc.togo]
    omega
  unfold move at h
  split at h
  all_goals try (cases hpos; done)
  · -- the loop that looks for the best producer
    rename_i ptrs scan
    obtain ⟨hfound, hrest⟩ := hpc
    split at h
    · split_ifs at h with hcount
      · cases h
        right
        simp only [QueuePc.togo, List.length_cons]
        omega
      · cases h
        refine .inr (hbest (fun hnone => ?_) rfl)
        rw [(hfound.empty hnone).1] at hcount
        exact hcount (by omega)
    · cases h
      refine .inr (hbest (fun hnone => ?_) rfl)
      obtain ⟨p, hmem, -⟩ := hrest hnone
      cases hmem
  · cases h
    right
    simp only [QueuePc.togo]
    omega
  · -- the element of the index that was taken
    obtain ⟨item, -, heq⟩ := Option.map_eq_some_iff.mp h
    cases heq
    exact .inl ⟨item, rfl⟩
  · -- `best->dequeue`
    rename_i ptr at₁ _ _
    obtain ⟨⟨p, at₂⟩, hmove, heq⟩ := Option.map_eq_some_iff.mp h
    cases heq
    have hok : DequeueOk ((q.dequeueFrom ptr p at₂).producer ptr) at₂ := hpc'
    rw [dequeueFrom_producer, Function.update_self] at hok
    exact .inr (togo_of_dequeue hmove hok)
  · cases h

section Progress

variable [Fintype τ]

omit [Fintype τ] in
/-- The list of producers only grows. -/
lemma producerList_of_run [∀ c (e : τ × QueueEvent α), Decidable (LoneStep w c e)]
    {es : List (τ × QueueEvent α)}
    (h : (queueCrew τ α w).runUnder (LoneStep w) c es = some c') :
    c.shared.producerList.length ≤ c'.shared.producerList.length := by
  induction es generalizing c with
  | nil =>
    obtain rfl := Option.some_inj.mp h
    exact le_rfl
  | cons e es ih =>
    rw [StepSystem.runUnder] at h
    split_ifs at h
    obtain ⟨c₁, hstep, hrun⟩ := Option.bind_eq_some_iff.mp h
    obtain ⟨q, pc, hmove, rfl⟩ := Crew.step_eq_some.mp hstep
    exact (producerList_of_effect (move_effect hmove)).length_le.trans (ih hrun)

/-- How many moves a consumer that is alone has still to make, in a run that ends with `n`
producers. -/
def bound (n : ℕ) (pc : QueuePc τ α) : ℕ :=
  match pc with
  | .load => 2 * n + 9
  | pc => pc.togo

/-- A consumer that makes as many moves as it has to gets its element. -/
lemma exists_done_of_bound (hw : 0 < w) (h : (queueCrew τ α w).ReachableUnder (LoneStep w) c)
    {es : List (τ × QueueEvent α)}
    (hrun : (queueCrew τ α w).runUnder (LoneStep w) c es = some c')
    (hpos : 0 < bound c'.shared.producerList.length (c.place t))
    (hmoves : bound c'.shared.producerList.length (c.place t) ≤ es.countP fun e => e.1 = t) :
    ∃ es₁ es₂ c₁ item, es = es₁ ++ es₂ ∧ (queueCrew τ α w).run c es₁ = some c₁ ∧
      c₁.place t = .done (some item) := by
  induction es generalizing c with
  | nil =>
    rw [List.countP_nil] at hmoves
    omega
  | cons e es ih =>
    have hlist := producerList_of_run hrun
    rw [StepSystem.runUnder] at hrun
    split_ifs at hrun with hlone
    obtain ⟨c₁, hstep, hrun⟩ := Option.bind_eq_some_iff.mp hrun
    have hreach := h.step hlone hstep
    obtain ⟨u, e⟩ := e
    obtain ⟨q, pc, hmove, rfl⟩ := Crew.step_eq_some.mp hstep
    -- the rest of the run, if the consumer is not done yet
    have hnext : 0 < bound c'.shared.producerList.length (Function.update c.place u pc t) →
        bound c'.shared.producerList.length (Function.update c.place u pc t) ≤
          es.countP (fun e => e.1 = t) →
        ∃ es₁ es₂ c₁ item, (u, e) :: es = es₁ ++ es₂ ∧
          (queueCrew τ α w).run c es₁ = some c₁ ∧ c₁.place t = .done (some item) := by
      intro hpos hmoves
      obtain ⟨es₁, es₂, c₁, item, rfl, hrun₁, hdone⟩ := ih hreach hrun hpos hmoves
      refine ⟨(u, e) :: es₁, es₂, c₁, item, rfl, ?_, hdone⟩
      rw [StepSystem.run_cons, hstep, Option.bind_some]
      exact hrun₁
    by_cases hu : u = t
    · subst hu
      rw [List.countP_cons_of_pos (by simp)] at hmoves
      rw [Function.update_self] at hnext
      have hok : q.LoneOk pc := by
        have hplace : q.LoneOk (Function.update c.place u pc u) :=
          (lone_of_reachable hw hreach).place u
        rwa [Function.update_self] at hplace
      by_cases hload : c.place u = .load
      · -- the list is loaded
        rw [hload] at hmove hmoves
        cases e with
        | next =>
          cases hmove
          dsimp only [bound, QueuePc.togo] at hmoves hnext
          exact hnext (by omega) (by omega)
        | enqueue item => cases hmove
        | dequeue blocking => cases hmove
        | refuse => cases hmove
        | fail => cases hmove
        | ret => cases hmove
      · have hbound : ∀ n, bound n (c.place u) = (c.place u).togo := by
          intro n
          cases hc : c.place u with
          | load => exact absurd hc hload
          | _ => rfl
        rw [hbound] at hpos hmoves
        rcases togo_of_move hmove ((lone_of_reachable hw h).place u) hok hpos with
          ⟨item, rfl⟩ | ⟨hpos', hless⟩
        · refine ⟨[(u, e)], es, ⟨q, Function.update c.place u (.done (some item))⟩, item, rfl, ?_,
            Function.update_self ..⟩
          rw [StepSystem.run_cons, hstep, Option.bind_some, StepSystem.run_nil]
        · have hbound' : ∀ n, bound n pc = pc.togo := by
            intro n
            cases pc with
            | load => cases hpos'
            | _ => rfl
          rw [hbound'] at hnext
          exact hnext hpos' (by omega)
    · rw [List.countP_cons_of_neg (by simpa using hu)] at hmoves
      rw [Function.update_of_ne (Ne.symm hu)] at hnext
      exact hnext hpos hmoves

/-- **A consumer that is alone gets its element**: once it has its permit, it makes no more than
`2 * n + 9` moves until it returns with an element, where `n` is the number of producers, whatever
the threads that enqueue do in the meantime.

**Proof sketch.** An entry is set apart for the consumer, so that one of the producers in the list
has an element. As no other thread dequeues, the first producer that the consumer tries still has
it then, and the counters of that producer are in step. Each move of the consumer lessens the
number of those that are left, and those of the others do not change it. -/
theorem exists_done_of_moves (hw : 0 < w)
    (h : (queueCrew τ α w).ReachableUnder (LoneStep w) c) (ht : c.place t = .load)
    {es : List (τ × QueueEvent α)}
    (hrun : (queueCrew τ α w).runUnder (LoneStep w) c es = some c')
    (hmoves : 2 * c'.shared.producerList.length + 9 ≤ es.countP fun e => e.1 = t) :
    ∃ es₁ es₂ c₁ item, es = es₁ ++ es₂ ∧ (queueCrew τ α w).run c es₁ = some c₁ ∧
      c₁.place t = .done (some item) := by
  have hbound : bound c'.shared.producerList.length (c.place t) =
      2 * c'.shared.producerList.length + 9 := by
    rw [ht]
    rfl
  exact exists_done_of_bound hw h hrun (by rw [hbound]; omega) (hbound ▸ hmoves)

/-- A consumer that has its permit while another thread enqueues. -/
theorem exists_done_of_moves_enqueue :
    ∃ c, (queueCrew (Fin 2) ℕ 32).ReachableUnder (LoneStep 32) c ∧ c.place 1 = .load ∧
      ∃ es₁ es₂ c₁ item,
        List.replicate 11 (1, .next) ++ [(0, .enqueue 8), (0, .next)] = es₁ ++ es₂ ∧
          (queueCrew (Fin 2) ℕ 32).run c es₁ = some c₁ ∧ c₁.place 1 = .done (some item) := by
  have h : ((queueCrew (Fin 2) ℕ 32).runUnder (LoneStep 32) ⟨.new, fun _ => .out⟩
      (enqueueEvents 0 7 ++ dequeueEvents 1 4)).bind (fun c =>
        ((queueCrew (Fin 2) ℕ 32).runUnder (LoneStep 32) c
          (List.replicate 11 (1, .next) ++ [(0, .enqueue 8), (0, .next)])).map fun c' =>
            (c.place 1, c'.shared.producerList.length)) = some (.load, 1) := by
    decide +kernel
  obtain ⟨c, hrun, hrest⟩ := Option.bind_eq_some_iff.mp h
  obtain ⟨c', hrun', heq⟩ := Option.map_eq_some_iff.mp hrest
  obtain ⟨hplace, hlength⟩ := Prod.mk.inj heq
  have hreach := StepSystem.ReachableUnder.runUnder reachable_new hrun
  exact ⟨c, hreach, hplace,
    exists_done_of_moves (by decide) hreach hplace hrun' (by rw [hlength]; decide)⟩

/-! ## Emptying the queue -/

omit [Fintype τ] [DecidableEq τ] in
/-- The entry that is found is the one that is erased. -/
lemma perm_cons_eraseP {l : List (τ × α)} {f : τ × α → Bool} {x : τ × α}
    (h : l.find? f = some x) : l.Perm (x :: l.eraseP f) := by
  induction l with
  | nil => cases h
  | cons y l ih =>
    by_cases hy : f y = true
    · rw [List.find?_cons_of_pos hy, Option.some_inj] at h
      rw [List.eraseP_cons_of_pos hy, h]
    · rw [List.find?_cons_of_neg hy] at h
      rw [List.eraseP_cons_of_neg hy]
      exact ((ih h).cons y).trans (.swap x y _)

omit [Fintype τ] in
/-- A move publishes an element, or what it takes out of the queue is on record. -/
lemma perm_of_effect (h : Effect w t q pc pc' q') :
    (∃ item, pc = .store item ∧ q'.dequeued = q.dequeued ∧ q'.entries = q.entries ++ [(t, item)]) ∨
      ((q'.dequeued ++ q'.entries).Perm (q.dequeued ++ q.entries) ∧
        q'.entries.length ≤ q.entries.length) := by
  cases h with
  | idle _ => exact .inr ⟨.refl _, le_rfl⟩
  | addProducer _ => exact .inr ⟨.refl _, le_rfl⟩
  | publish item hstore _ => exact .inl ⟨item, hstore, rfl, rfl⟩
  | sema s e _ _ _ _ _ _ _ => exact .inr ⟨.refl _, le_rfl⟩
  | dequeue ptr at₁ at₂ p _ _ _ _ _ _ _ _ _ =>
    right
    cases hclaim : at₂.isClaimed with
    | false =>
      rw [dequeueFrom_of_not_isClaimed q ptr p hclaim]
      exact ⟨.refl _, le_rfl⟩
    | true =>
      cases at₂ with
      | claimed index =>
        refine ⟨?_, List.length_eraseP_le⟩
        show ((q.dequeued ++ (q.entries.find? fun x => x.1 = ptr).toList) ++
          q.entries.eraseP fun x => x.1 = ptr).Perm _
        rw [List.append_assoc]
        refine List.Perm.append_left _ ?_
        cases hfind : q.entries.find? fun x => x.1 = ptr with
        | none =>
          rw [List.eraseP_of_forall_not (by simpa using List.find?_eq_none.mp hfind)]
          exact .refl _
        | some x => exact (perm_cons_eraseP hfind).symm
      | _ => cases hclaim

omit [Fintype τ] in
/-- A consumer on its way to an element leaves the semaphore, and puts nothing into the queue. -/
lemma sema_of_move (h : q.move w t pc e = some (q', pc')) (hpc : pc = .load ∨ 0 < pc.togo)
    (hpc' : (∃ item, pc' = .done (some item)) ∨ 0 < pc'.togo) :
    q'.sema = q.sema ∧ q'.entries.length ≤ q.entries.length := by
  have hperm := (perm_of_effect (move_effect h)).resolve_left fun ⟨item, hstore, _⟩ => by
    subst hstore
    rcases hpc with hpc | hpc <;> cases hpc
  refine ⟨?_, hperm.2⟩
  cases move_effect h with
  | idle _ => rfl
  | addProducer _ => rfl
  | publish item _ _ => rfl
  | sema s e hsema he _ _ _ _ _ =>
    obtain ⟨-, -, hne⟩ := LightweightSemaphore.move_record hsema he
    refine absurd ?_ hne
    rcases hpc' with ⟨item, rfl⟩ | hpos
    · rfl
    · cases pc' with
      | signal at₁ => cases hpos
      | acquire blocking at₁ => cases hpos
      | _ => rfl
  | dequeue ptr at₁ at₂ p _ _ _ _ _ _ _ _ _ => exact dequeueFrom_sema _ _ _ _

/-- What a thread gets to that calls no `enqueue`, while the others rest. -/
inductive Alone (w : ℕ) (t : τ) : Crew (BlockingConcurrentQueue τ α) (QueuePc τ α) τ →
    Crew (BlockingConcurrentQueue τ α) (QueuePc τ α) τ → Prop
  | refl (c : Crew (BlockingConcurrentQueue τ α) (QueuePc τ α) τ) : Alone w t c c
  | step {c c' : Crew (BlockingConcurrentQueue τ α) (QueuePc τ α) τ} {e : QueueEvent α}
      {q : BlockingConcurrentQueue τ α} {pc : QueuePc τ α} (hlone : LoneStep w c (t, e))
      (he : e.isEnqueue = false) (hmove : c.shared.move w t (c.place t) e = some (q, pc))
      (h : Alone w t ⟨q, Function.update c.place t pc⟩ c') : Alone w t c c'

omit [Fintype τ] in
/-- One after the other. -/
lemma Alone.trans {c₁ c₂ c₃ : Crew (BlockingConcurrentQueue τ α) (QueuePc τ α) τ}
    (h₁ : Alone w t c₁ c₂) (h₂ : Alone w t c₂ c₃) : Alone w t c₁ c₃ := by
  induction h₁ with
  | refl c => exact h₂
  | step hlone he hmove _ ih => exact .step hlone he hmove (ih h₂)

omit [Fintype τ] in
/-- The moves of a thread that is alone are a run with one consumer. -/
lemma Alone.exists_run (h : Alone w t c c') :
    (∃ es : List (τ × QueueEvent α), (∀ e ∈ es, e.1 = t ∧ e.2.isEnqueue = false) ∧
      (queueCrew τ α w).run c es = some c') ∧
    ((queueCrew τ α w).ReachableUnder (LoneStep w) c →
      (queueCrew τ α w).ReachableUnder (LoneStep w) c') := by
  induction h with
  | refl c => exact ⟨⟨[], nofun, rfl⟩, id⟩
  | @step c c' e q pc hlone he hmove _ ih =>
    obtain ⟨⟨es, hes, hrun⟩, hreach⟩ := ih
    have hstep : (queueCrew τ α w).step c (t, e) = some ⟨q, Function.update c.place t pc⟩ :=
      Crew.step_eq_some.mpr ⟨q, pc, hmove, rfl⟩
    refine ⟨⟨(t, e) :: es, ?_, ?_⟩, fun hc => hreach (hc.step hlone hstep)⟩
    · intro x hx
      rcases List.mem_cons.mp hx with rfl | hx
      · exact ⟨rfl, he⟩
      · exact hes x hx
    · rw [StepSystem.run_cons, hstep, Option.bind_some, hrun]

/-- A consumer on its way to an element can make a move, and each takes it closer. -/
lemma exists_move_togo (hw : 0 < w) (h : (queueCrew τ α w).ReachableUnder (LoneStep w) c)
    (hfew : c.shared.entries.length < 2 ^ (w - 1))
    (ht : c.place t = .load ∨ 0 < (c.place t).togo) :
    ∃ e q pc, LoneStep w c (t, e) ∧ e.isEnqueue = false ∧
      c.shared.move w t (c.place t) e = some (q, pc) ∧
      ((∃ item, pc = .done (some item)) ∨
        (0 < pc.togo ∧ pc.togo < bound c.shared.producerList.length (c.place t))) := by
  have hlone := lone_of_reachable hw h
  have hin : c.place t ≠ .out := by
    intro hout
    rw [hout] at ht
    rcases ht with ht | ht <;> cases ht
  obtain ⟨e, ⟨q, pc⟩, hmove⟩ := exists_move (w := w) (t := t) hin
    (place_ok hlone.reachable t) (fun p index hindex => index_lt_tail hw hlone.reachable hindex)
    (fun hwait => by
      rw [hwait] at ht
      rcases ht with ht | ht <;> cases ht)
  have hstep : LoneStep w c (t, e) := ⟨hfew, fun he => absurd (move_dequeue hmove he).1 hin⟩
  have he : e.isEnqueue = false := by
    cases e with
    | enqueue item => exact absurd (move_enqueue hmove).1 hin
    | _ => rfl
  refine ⟨e, q, pc, hstep, he, hmove, ?_⟩
  rcases ht with ht | ht
  · rw [ht] at hmove ⊢
    right
    cases e with
    | next =>
      cases hmove
      dsimp only [bound, QueuePc.togo]
      exact ⟨by omega, by omega⟩
    | enqueue item => cases hmove
    | dequeue blocking => cases hmove
    | refuse => cases hmove
    | fail => cases hmove
    | ret => cases hmove
  · have hbound : bound c.shared.producerList.length (c.place t) = (c.place t).togo := by
      cases hc : c.place t with
      | load =>
        rw [hc] at ht
        cases ht
      | _ => rfl
    rw [hbound]
    exact togo_of_move hmove (hlone.place t) (hlone.move hw hstep hmove).2.1 ht

/-- A consumer that is alone gets its element by its own moves. -/
lemma exists_alone_done (hw : 0 < w) (h : (queueCrew τ α w).ReachableUnder (LoneStep w) c)
    (hfew : c.shared.entries.length < 2 ^ (w - 1))
    (ht : c.place t = .load ∨ 0 < (c.place t).togo) :
    ∃ q item, Alone w t c ⟨q, Function.update c.place t (.done (some item))⟩ ∧
      q.sema = c.shared.sema ∧ q.entries.length ≤ c.shared.entries.length := by
  induction hn : bound c.shared.producerList.length (c.place t) using Nat.strong_induction_on
    generalizing c with
  | _ n ih =>
    obtain ⟨e, q, pc, hstep, he, hmove, hpc⟩ := exists_move_togo hw h hfew ht
    obtain ⟨hsema, hle⟩ := sema_of_move hmove ht (hpc.imp_right fun hpos => hpos.1)
    rcases hpc with ⟨item, rfl⟩ | ⟨hpos, hless⟩
    · exact ⟨q, item, .step hstep he hmove (.refl _), hsema, hle⟩
    · have hreach : (queueCrew τ α w).ReachableUnder (LoneStep w)
          ⟨q, Function.update c.place t pc⟩ :=
        h.step hstep (Crew.step_eq_some.mpr ⟨q, pc, hmove, rfl⟩)
      have hplace : Function.update c.place t pc t = pc := Function.update_self ..
      have hbound : bound q.producerList.length pc = pc.togo := by
        cases pc with
        | load => cases hpos
        | _ => rfl
      obtain ⟨q', item, halone, hsema', hle'⟩ := ih (bound q.producerList.length pc)
        (by rw [hbound]; omega) hreach (lt_of_le_of_lt hle hfew)
        (.inr (by dsimp only; rw [hplace]; exact hpos)) (by dsimp only; rw [hplace])
      dsimp only at halone
      rw [Function.update_idem] at halone
      exact ⟨q', item, .step hstep he hmove halone, hsema'.trans hsema, hle'.trans hle⟩

omit [Fintype τ] in
/-- The next move of a call. -/
lemma Alone.next (e : QueueEvent α) (q' : BlockingConcurrentQueue τ α) (pc' : QueuePc τ α)
    {f : τ → QueuePc τ α} (hfew : q.entries.length < 2 ^ (w - 1))
    (hdequeue : e.isDequeue = false) (henqueue : e.isEnqueue = false)
    (hmove : q.move w t pc e = some (q', pc')) (h : Alone w t ⟨q', Function.update f t pc'⟩ c') :
    Alone w t ⟨q, Function.update f t pc⟩ c' := by
  have hlone : LoneStep w ⟨q, Function.update f t pc⟩ (t, e) :=
    ⟨hfew, fun hcall => absurd (hdequeue.symm.trans hcall) nofun⟩
  have hmove' : q.move w t (Function.update f t pc t) e = some (q', pc') := by
    rw [Function.update_self]
    exact hmove
  refine .step hlone henqueue hmove' ?_
  dsimp only
  rw [Function.update_idem]
  exact h

/-- Where no thread is within a call, the count of the semaphore is that of the entries. -/
lemma mCount_of_rest (hw : 0 < w) (h : (queueCrew τ α w).ReachableUnder (ComparesStep w) c)
    (hrest : ∀ u, c.place u = .out ∨ ∃ result, c.place u = .done result) :
    c.shared.sema.mCount = c.shared.entries.length := by
  have hzero : ∀ f : QueuePc τ α → ℕ, f .out = 0 → (∀ result, f (.done result) = 0) →
      c.total f = 0 := by
    intro f hout hdone
    refine Crew.total_eq_zero fun u => ?_
    rcases hrest u with hu | ⟨result, hu⟩
    · rw [hu, hout]
    · rw [hu, hdone]
  obtain ⟨hpermits, hwaiting⟩ := LightweightSemaphore.permits_conserved (semaphore_reachable h)
  have hposting : (semaphoreOf c).total SemaphorePc.posting = 0 :=
    hzero (fun pc => pc.sema.posting) rfl fun _ => rfl
  have hwait : (semaphoreOf c).total SemaphorePc.waiting = 0 :=
    hzero (fun pc => pc.sema.waiting) rfl fun _ => rfl
  have haccounted := accounted hw h
  have hsema : (semaphoreOf c).shared = c.shared.sema := rfl
  rw [hzero _ rfl fun _ => rfl, hzero _ rfl fun _ => rfl] at haccounted
  rw [hsema] at hpermits hwaiting
  omega

omit [Fintype τ] in
/-- `try_dequeue` of a thread that is alone, up to the loop or to its end. -/
lemma alone_tryWait (hfew : c.shared.entries.length < 2 ^ (w - 1))
    (hout : ∀ u, c.place u = .out) :
    Alone w t c (if 0 < c.shared.sema.mCount then
      ⟨{ c.shared with sema := c.shared.sema.take }, Function.update c.place t .load⟩
      else ⟨c.shared, Function.update c.place t (.done none)⟩) := by
  have hlone : LoneStep w c (t, .dequeue false) :=
    ⟨hfew, fun _ u => by rw [hout u]; rfl⟩
  have hcall : c.shared.move w t (c.place t) (.dequeue false) =
      some (c.shared, .acquire false .out) := by
    rw [hout t]
    rfl
  refine .step hlone rfl hcall ?_
  refine .next .next c.shared (.acquire false (.tryLoad .tryWait)) hfew rfl rfl rfl ?_
  refine .next .next c.shared (.acquire false (.tryExchange .tryWait c.shared.sema.mCount)) hfew
    rfl rfl rfl ?_
  split_ifs with hpos
  · -- there is a permit
    have hmove : c.shared.move w t (.acquire false (.tryExchange .tryWait c.shared.sema.mCount))
        .next =
          some ({ c.shared with sema := c.shared.sema.take }, .acquire false (.done true)) := by
      simp only [move, LightweightSemaphore.move]
      rw [if_pos hpos, if_true]
      rfl
    refine .next .next _ _ hfew rfl rfl hmove ?_
    exact .next .next { c.shared with sema := c.shared.sema.take } .load hfew rfl rfl rfl (.refl _)
  · have hmove : c.shared.move w t (.acquire false (.tryExchange .tryWait c.shared.sema.mCount))
        .next = some (c.shared, .acquire false (.done false)) := by
      simp only [move, LightweightSemaphore.move]
      rw [if_neg hpos]
      rfl
    refine .next .next _ _ hfew rfl rfl hmove ?_
    exact .next .next c.shared (.done none) hfew rfl rfl rfl (.refl _)

/-- **A thread that is alone can call `try_dequeue` until it fails.**

**Proof sketch.** With no thread on its way the count of the semaphore is that of the entries. While
it is positive, `try_dequeue` finds a permit, and then an element for it. -/
theorem exists_alone_failed (hw : 0 < w) (t : τ)
    (h : (queueCrew τ α w).ReachableUnder (LoneStep w) c)
    (hfew : c.shared.entries.length < 2 ^ (w - 1)) (hout : ∀ u, c.place u = .out) :
    ∃ q, Alone w t c ⟨q, Function.update c.place t (.done none)⟩ := by
  have hcount := mCount_of_rest hw (lone_of_reachable hw h).reachable fun u => .inl (hout u)
  induction hn : c.shared.entries.length generalizing c with
  | zero =>
    have hcall := alone_tryWait (t := t) hfew hout
    rw [if_neg (by omega)] at hcall
    exact ⟨c.shared, hcall⟩
  | succ n ih =>
    have hcall := alone_tryWait (t := t) hfew hout
    rw [if_pos (by omega)] at hcall
    -- the loop
    obtain ⟨q, item, hdone, hsema, hle⟩ := exists_alone_done (t := t) hw
      (hcall.exists_run.2 h) hfew (.inl (Function.update_self ..))
    dsimp only at hdone hsema hle
    rw [Function.update_idem] at hdone
    have hfew' : q.entries.length < 2 ^ (w - 1) := lt_of_le_of_lt hle hfew
    -- the call returns
    have hret : Alone w t c ⟨q, Function.update c.place t .out⟩ :=
      hcall.trans (hdone.trans (.next .ret q .out hfew' rfl rfl rfl (.refl _)))
    have hout' : ∀ u, Function.update c.place t .out u = .out := by
      intro u
      by_cases hu : u = t
      · subst hu
        exact Function.update_self ..
      · rw [Function.update_of_ne hu, hout u]
    have hreach := hret.exists_run.2 h
    have hcount' : q.sema.mCount = q.entries.length :=
      mCount_of_rest hw (lone_of_reachable hw hreach).reachable fun u => .inl (hout' u)
    have hlength : q.entries.length = n := by
      rw [hsema] at hcount'
      simp only [LightweightSemaphore.take] at hcount'
      omega
    obtain ⟨q', hdrain⟩ := ih hreach hfew' hout' hcount' hlength
    dsimp only at hdrain
    rw [Function.update_idem] at hdrain
    exact ⟨q', hret.trans hdrain⟩

end Progress

end BlockingConcurrentQueue

end UsbTv
