import UsbTv.Queue.Semaphore
import UsbTv.Queue.Producer

set_option relaxedAutoImplicit false
set_option autoImplicit false

/-!
# The process queue

`BlockingConcurrentQueue` is a `ConcurrentQueue` and a `LightweightSemaphore`. Each thread that
enqueues has a producer of its own, which is put into a list that only grows. A thread that has a
permit of the semaphore goes over the producers, takes the one with the most elements among the
first three that have any, and dequeues from it. Another consumer may have been faster; then it
tries all the others, and then starts again.

Any number of threads enqueue and dequeue. An `enqueue` that gets no memory is refused. The bulk
calls, the calls with tokens and the calls with a timeout have no part in this.

## Main definitions

* `UsbTv.BlockingConcurrentQueue` — the semaphore and the producers.
* `UsbTv.QueuePc`, `UsbTv.BlockingConcurrentQueue.move` — where a thread stands, and its next
  move.
* `UsbTv.queueCrew` — all interleavings.

## Main results

* `UsbTv.BlockingConcurrentQueue.semaphore_reachable`,
  `UsbTv.BlockingConcurrentQueue.producer_reachable` — the semaphore and the producers are those of
  `UsbTv.semaphoreCrew` and `UsbTv.producerCrew`.
-/

namespace UsbTv

/-- The first producers that have elements: how many were found, and the largest. -/
structure Scan (τ : Type*) where
  nonEmptyCount : ℕ
  best : Option τ
  bestSize : ℕ
  deriving DecidableEq

/-- Nothing was found yet. -/
def Scan.new {τ : Type*} : Scan τ := ⟨0, none, 0⟩

/-- A producer is found to have `size` elements. -/
def Scan.find {τ : Type*} (scan : Scan τ) (ptr : τ) (size : ℕ) : Scan τ :=
  if size > 0 then
    { nonEmptyCount := scan.nonEmptyCount + 1
      best := if size > scan.bestSize then some ptr else scan.best
      bestSize := if size > scan.bestSize then size else scan.bestSize }
  else scan

/-- `BlockingConcurrentQueue`, with a producer for each thread. What is in it, and what was taken
out of it, is on record in its order. -/
structure BlockingConcurrentQueue (τ α : Type*) where
  sema : LightweightSemaphore
  /-- The producers, from `producerListTail` on. -/
  producerList : List τ
  producer : τ → ImplicitProducer τ α
  /-- The elements that were enqueued and not dequeued, each with its producer. -/
  entries : List (τ × α)
  /-- The elements that were dequeued, each with its producer. -/
  dequeued : List (τ × α)

/-- Where a thread stands. -/
inductive QueuePc (τ α : Type*)
  | out
  /-- In `get_or_add_implicit_producer`, at the exchange of `producerListTail`. -/
  | addProducer (item : α)
  /-- In `ImplicitProducer::enqueue`, at `tailIndex.store`. -/
  | store (item : α)
  /-- In `sema->signal()`. -/
  | signal (pc : SemaphorePc)
  /-- `enqueue` returns. -/
  | enqueued (success : Bool)
  /-- In `sema->wait()` of `wait_dequeue`, or in `sema->tryWait()` of `try_dequeue`. -/
  | acquire (blocking : Bool) (pc : SemaphorePc)
  /-- In `inner.try_dequeue`, at the first load of `producerListTail`. -/
  | load
  /-- At the loop that looks for the best producer. -/
  | scan (ptrs : List τ) (scan : Scan τ)
  /-- In that loop, in `size_approx` of a producer, at the load of `headIndex`. -/
  | scanHead (ptrs : List τ) (scan : Scan τ) (ptr : τ) (tail : ℕ)
  /-- In `best->dequeue`. -/
  | best (best : τ) (pc : DequeuePc)
  /-- At the second load of `producerListTail`. -/
  | reload (best : τ)
  /-- At the loop over the other producers. -/
  | others (best : τ) (ptrs : List τ)
  /-- In that loop, in `dequeue` of a producer. -/
  | other (best : τ) (ptrs : List τ) (ptr : τ) (pc : DequeuePc)
  /-- `wait_dequeue` or `try_dequeue` returns. -/
  | done (result : Option α)
  deriving DecidableEq

/-- Where a consumer goes that has looked at the producers: to the best one, or, as there was none
with an element, through the loop again. -/
def QueuePc.scanned {τ α : Type*} (scan : Scan τ) : QueuePc τ α :=
  match scan.best with
  | some ptr => best ptr .loadTail
  | none => load

/-- The two ways. -/
lemma QueuePc.scanned_cases {τ α : Type*} (scan : Scan τ) :
    (∃ ptr, (scanned scan : QueuePc τ α) = best ptr .loadTail) ∨
      (scanned scan : QueuePc τ α) = load := by
  unfold scanned
  cases scan.best with
  | some ptr => exact .inl ⟨ptr, rfl⟩
  | none => exact .inr rfl

/-- What can happen to a thread. -/
inductive QueueEvent (α : Type*)
  /-- `enqueue` or `try_enqueue` is called. -/
  | enqueue (item : α)
  /-- `wait_dequeue` or `try_dequeue` is called. -/
  | dequeue (blocking : Bool)
  /-- The thread goes on. -/
  | next
  /-- There is no memory for the element. -/
  | refuse
  /-- A weak exchange in the semaphore fails though it need not. -/
  | fail
  | ret

namespace BlockingConcurrentQueue

variable {τ α : Type*} [DecidableEq τ]

/-- A queue that was just constructed. -/
def new : BlockingConcurrentQueue τ α where
  sema := .new 0
  producerList := []
  producer _ := .new
  entries := []
  dequeued := []

/-- The producer of `t` publishes an element. -/
def publish (q : BlockingConcurrentQueue τ α) (t : τ) (item : α) : BlockingConcurrentQueue τ α :=
  { q with
    producer := Function.update q.producer t ((q.producer t).enqueue item)
    entries := q.entries ++ [(t, item)] }

/-- The first element of a producer goes from what is in the queue to what was taken out. -/
def claim (q : BlockingConcurrentQueue τ α) (ptr : τ) : BlockingConcurrentQueue τ α :=
  { q with
    entries := q.entries.eraseP fun x => x.1 = ptr
    dequeued := q.dequeued ++ (q.entries.find? fun x => x.1 = ptr).toList }

/-- A producer after a move in its `dequeue` that leads to `pc`: `claimed` says that an index was
taken. -/
def dequeueFrom (q : BlockingConcurrentQueue τ α) (ptr : τ) (p : ImplicitProducer τ α)
    (pc : DequeuePc) : BlockingConcurrentQueue τ α :=
  match pc with
  | .claimed _ => { q.claim ptr with producer := Function.update q.producer ptr p }
  | _ => { q with producer := Function.update q.producer ptr p }

@[simp] lemma dequeueFrom_producer (q : BlockingConcurrentQueue τ α) (ptr : τ)
    (p : ImplicitProducer τ α) (pc : DequeuePc) :
    (q.dequeueFrom ptr p pc).producer = Function.update q.producer ptr p := by
  cases pc <;> rfl

@[simp] lemma dequeueFrom_producerList (q : BlockingConcurrentQueue τ α) (ptr : τ)
    (p : ImplicitProducer τ α) (pc : DequeuePc) :
    (q.dequeueFrom ptr p pc).producerList = q.producerList := by
  cases pc <;> rfl

@[simp] lemma dequeueFrom_sema (q : BlockingConcurrentQueue τ α) (ptr : τ)
    (p : ImplicitProducer τ α) (pc : DequeuePc) : (q.dequeueFrom ptr p pc).sema = q.sema := by
  cases pc <;> rfl

/-- Where no index is taken, only the producer changes. -/
lemma dequeueFrom_of_not_isClaimed (q : BlockingConcurrentQueue τ α) (ptr : τ)
    (p : ImplicitProducer τ α) {pc : DequeuePc} (h : pc.isClaimed = false) :
    q.dequeueFrom ptr p pc = { q with producer := Function.update q.producer ptr p } := by
  cases pc with
  | claimed index => cases h
  | _ => rfl

/-- The next move of a thread, with indices of `w` bits. -/
def move (w : ℕ) (t : τ) (q : BlockingConcurrentQueue τ α) :
    QueuePc τ α → QueueEvent α → Option (BlockingConcurrentQueue τ α × QueuePc τ α)
  | .out, .enqueue item => some (q, if t ∈ q.producerList then .store item else .addProducer item)
  | .out, .dequeue blocking => some (q, .acquire blocking .out)
  | .addProducer _, .refuse => some (q, .enqueued false)
  | .addProducer item, .next => some ({ q with producerList := t :: q.producerList }, .store item)
  | .store _, .refuse => some (q, .enqueued false)
  | .store item, .next => some (q.publish t item, .signal .out)
  | .signal .out, .next =>
    (q.sema.move .out (.signal 1)).map fun r => ({ q with sema := r.1 }, .signal r.2)
  | .signal .posted, .next => some (q, .enqueued true)
  | .signal pc, .next => (q.sema.move pc .next).map fun r => ({ q with sema := r.1 }, .signal r.2)
  | .enqueued _, .ret => some (q, .out)
  | .acquire blocking .out, .next =>
    (q.sema.move .out (.call (if blocking then .wait else .tryWait))).map fun r =>
      ({ q with sema := r.1 }, .acquire blocking r.2)
  | .acquire _ (.done true), .next => some (q, .load)
  | .acquire _ (.done false), .next => some (q, .done none)
  | .acquire blocking pc, .next =>
    (q.sema.move pc .next).map fun r => ({ q with sema := r.1 }, .acquire blocking r.2)
  | .acquire blocking pc, .fail =>
    (q.sema.move pc .fail).map fun r => ({ q with sema := r.1 }, .acquire blocking r.2)
  | .load, .next => some (q, .scan q.producerList .new)
  | .scan ptrs scan, .next =>
    match ptrs with
    | ptr :: ptrs =>
      if scan.nonEmptyCount < 3 then
        some (q, .scanHead ptrs scan ptr (q.producer ptr).tailIndex)
      else some (q, .scanned scan)
    | [] => some (q, .scanned scan)
  | .scanHead ptrs scan ptr tail, .next =>
    some (q, .scan ptrs (scan.find ptr
      (if circularLessThan w (q.producer ptr).headIndex tail
        then tail - (q.producer ptr).headIndex else 0)))
  | .best best (.claimed index), .next =>
    (q.producer best).elements[index]?.map fun item => (q, .done (some item))
  | .best best .failed, .next => some (q, .reload best)
  | .best best pc, .next =>
    ((q.producer best).dequeue w t pc).map fun r => (q.dequeueFrom best r.1 r.2, .best best r.2)
  | .reload best, .next => some (q, .others best q.producerList)
  | .others _ [], .next => some (q, .load)
  | .others best (ptr :: ptrs), .next =>
    some (q, if ptr ≠ best then .other best ptrs ptr .loadTail else .others best ptrs)
  | .other _ _ ptr (.claimed index), .next =>
    (q.producer ptr).elements[index]?.map fun item => (q, .done (some item))
  | .other best ptrs _ .failed, .next => some (q, .others best ptrs)
  | .other best ptrs ptr pc, .next =>
    ((q.producer ptr).dequeue w t pc).map fun r =>
      (q.dequeueFrom ptr r.1 r.2, .other best ptrs ptr r.2)
  | .done _, .ret => some (q, .out)
  | _, _ => none

end BlockingConcurrentQueue

/-- All interleavings of threads that enqueue and dequeue. -/
def queueCrew (τ α : Type*) [DecidableEq τ] (w : ℕ) :
    StepSystem (Crew (BlockingConcurrentQueue τ α) (QueuePc τ α) τ) (τ × QueueEvent α) :=
  crew (fun c => c.shared = .new ∧ ∀ t, c.place t = .out) (BlockingConcurrentQueue.move w)

/-! ## What a move does -/

namespace QueuePc

variable {τ α : Type*}

/-- Where the thread stands in the semaphore. -/
def sema : QueuePc τ α → SemaphorePc
  | signal pc | acquire _ pc => pc
  | _ => .out

/-- Where the thread stands in `dequeue` of a producer. -/
def inDequeue [DecidableEq τ] (p : τ) : QueuePc τ α → DequeuePc
  | best ptr pc | other _ _ ptr pc => if ptr = p then pc else .out
  | _ => .out

/-- The thread has a permit, and no element for it yet. -/
def inLoop : QueuePc τ α → ℕ
  | signal pc | acquire _ pc => pc.granted
  | load | scan _ _ | scanHead _ _ _ _ | reload _ | others _ _ => 1
  | best _ pc | other _ _ _ pc => if pc.isClaimed then 0 else 1
  | _ => 0

/-- The thread has enqueued an element, and has not signalled it yet. -/
def toSignal : QueuePc τ α → ℕ
  | signal .out => 1
  | _ => 0

end QueuePc

namespace BlockingConcurrentQueue

variable {τ α : Type*} [DecidableEq τ] {w : ℕ} {t : τ} {q q' : BlockingConcurrentQueue τ α}
  {pc pc' : QueuePc τ α} {e : QueueEvent α}

/-- A move that is seen neither in the semaphore nor in a producer. -/
structure Idle (w : ℕ) (t : τ) (q : BlockingConcurrentQueue τ α) (pc pc' : QueuePc τ α) :
    Prop where
  sema : pc'.sema = pc.sema ∨ q.sema.move pc.sema .ret = some (q.sema, pc'.sema)
  inDequeue : ∀ p, pc'.inDequeue p = pc.inDequeue p ∨
    ∃ e, (q.producer p).move w t (pc.inDequeue p) e = some (q.producer p, pc'.inDequeue p)
  inLoop : pc'.inLoop = pc.inLoop
  toSignal : pc'.toSignal = pc.toSignal

/-- What a move does to the queue, from one place to another. -/
inductive Effect (w : ℕ) (t : τ) (q : BlockingConcurrentQueue τ α) (pc pc' : QueuePc τ α) :
    BlockingConcurrentQueue τ α → Prop
  /-- Nothing. -/
  | idle (h : Idle w t q pc pc') : Effect w t q pc pc' q
  /-- The thread gets a producer. -/
  | addProducer (h : Idle w t q pc pc') :
      Effect w t q pc pc' { q with producerList := t :: q.producerList }
  /-- The thread publishes an element. -/
  | publish (item : α) (hpc : pc = .store item) (hpc' : pc' = .signal .out) :
      Effect w t q pc pc' (q.publish t item)
  /-- The thread moves in the semaphore. -/
  | sema (s : LightweightSemaphore) (e : SemaphoreEvent)
      (hmove : q.sema.move pc.sema e = some (s, pc'.sema)) (he : e ≠ .ret)
      (hdequeue : ∀ p, pc'.inDequeue p = pc.inDequeue p) (hloop : pc.inLoop = pc.sema.granted)
      (hloop' : pc'.inLoop = pc'.sema.granted) (hsignal : pc.toSignal = e.given)
      (hsignal' : pc'.toSignal = 0) : Effect w t q pc pc' { q with sema := s }
  /-- The thread moves in `dequeue` of a producer. -/
  | dequeue (ptr : τ) (at₁ at₂ : DequeuePc) (p : ImplicitProducer τ α)
      (hmove : (q.producer ptr).dequeue w t at₁ = some (p, at₂))
      (hsema : pc.sema = .out) (hsema' : pc'.sema = .out)
      (hdequeue : ∀ u, pc.inDequeue u = if ptr = u then at₁ else .out)
      (hdequeue' : ∀ u, pc'.inDequeue u = if ptr = u then at₂ else .out) (hloop : pc.inLoop = 1)
      (hloop' : pc'.inLoop = if at₂.isClaimed then 0 else 1) (hsignal : pc.toSignal = 0)
      (hsignal' : pc'.toSignal = 0) : Effect w t q pc pc' (q.dequeueFrom ptr p at₂)

/-- A move that stays out of the semaphore and the producers. -/
lemma Idle.of_out (hsema : pc.sema = .out) (hsema' : pc'.sema = .out)
    (hdequeue : ∀ p, pc.inDequeue p = .out) (hdequeue' : ∀ p, pc'.inDequeue p = .out)
    (hloop : pc'.inLoop = pc.inLoop) (hsignal : pc'.toSignal = pc.toSignal) :
    Idle w t q pc pc' :=
  ⟨.inl (hsema'.trans hsema.symm), fun p => .inl ((hdequeue' p).trans (hdequeue p).symm), hloop,
    hsignal⟩

/-- A move within the semaphore. -/
lemma Effect.of_sema {e : SemaphoreEvent} {f : SemaphorePc → QueuePc τ α}
    (hf : ∀ pc, (f pc).sema = pc ∧ (f pc).inLoop = pc.granted ∧ (∀ p, (f pc).inDequeue p = .out) ∧
      (pc ≠ .out → (f pc).toSignal = 0))
    {at₁ : SemaphorePc} (hpc : pc = f at₁) (he : e ≠ .ret) (hsignal : pc.toSignal = e.given)
    (h : ((q.sema.move at₁ e).map fun r =>
      (({ q with sema := r.1 } : BlockingConcurrentQueue τ α), f r.2)) = some (q', pc')) :
    Effect w t q pc pc' q' := by
  obtain ⟨⟨s, at₂⟩, hmove, heq⟩ := Option.map_eq_some_iff.mp h
  obtain ⟨rfl, rfl⟩ := Prod.mk.inj heq
  subst hpc
  obtain ⟨-, -, hne⟩ := LightweightSemaphore.move_record hmove he
  refine .sema s e ?_ he (fun p => ?_) ?_ ?_ hsignal ((hf at₂).2.2.2 hne)
  · rw [(hf at₁).1, (hf at₂).1]
    exact hmove
  · rw [(hf at₁).2.2.1, (hf at₂).2.2.1]
  · rw [(hf at₁).1, (hf at₁).2.1]
  · rw [(hf at₂).1, (hf at₂).2.1]

/-- A move within `dequeue` of a producer. -/
lemma Effect.of_dequeue {ptr : τ} {f : DequeuePc → QueuePc τ α}
    (hf : ∀ pc, (f pc).sema = .out ∧ (f pc).inLoop = (if pc.isClaimed then 0 else 1) ∧
      (∀ u, (f pc).inDequeue u = if ptr = u then pc else .out) ∧ (f pc).toSignal = 0)
    {at₁ : DequeuePc} (hpc : pc = f at₁)
    (h : (((q.producer ptr).dequeue w t at₁).map fun r => (q.dequeueFrom ptr r.1 r.2, f r.2)) =
      some (q', pc')) : Effect w t q pc pc' q' := by
  obtain ⟨⟨p, at₂⟩, hmove, heq⟩ := Option.map_eq_some_iff.mp h
  obtain ⟨rfl, rfl⟩ := Prod.mk.inj heq
  subst hpc
  refine .dequeue ptr at₁ at₂ p hmove (hf at₁).1 (hf at₂).1 (hf at₁).2.2.1 (hf at₂).2.2.1 ?_
    (hf at₂).2.1 (hf at₁).2.2.2 (hf at₂).2.2.2
  rw [(hf at₁).2.1, ImplicitProducer.not_isClaimed_of_dequeue hmove]
  rfl

/-- A thread calls `dequeue` of a producer. -/
lemma Idle.of_call {ptr : τ} {f : DequeuePc → QueuePc τ α}
    (hf : ∀ pc, (f pc).sema = .out ∧ (f pc).inLoop = (if pc.isClaimed then 0 else 1) ∧
      (∀ u, (f pc).inDequeue u = if ptr = u then pc else .out) ∧ (f pc).toSignal = 0)
    (hsema : pc.sema = .out) (hdequeue : ∀ p, pc.inDequeue p = .out) (hloop : pc.inLoop = 1)
    (hsignal : pc.toSignal = 0) : Idle w t q pc (f .loadTail) := by
  refine ⟨.inl ((hf _).1.trans hsema.symm), fun p => ?_, (hf _).2.1.trans hloop.symm,
    (hf _).2.2.2.trans hsignal.symm⟩
  rw [(hf _).2.2.1, hdequeue]
  split_ifs
  · exact .inr ⟨.call, rfl⟩
  · exact .inl rfl

/-- `dequeue` of a producer returns. -/
lemma Idle.of_ret {ptr : τ} {f : DequeuePc → QueuePc τ α}
    (hf : ∀ pc, (f pc).sema = .out ∧ (f pc).inLoop = (if pc.isClaimed then 0 else 1) ∧
      (∀ u, (f pc).inDequeue u = if ptr = u then pc else .out) ∧ (f pc).toSignal = 0)
    {at₁ : DequeuePc} (hat : (∃ index, at₁ = .claimed index) ∨ at₁ = .failed)
    (hsema : pc.sema = .out) (hdequeue : ∀ p, pc.inDequeue p = .out)
    (hloop : pc.inLoop = if at₁.isClaimed then 0 else 1) (hsignal : pc.toSignal = 0) :
    Idle w t q (f at₁) pc := by
  refine ⟨.inl (hsema.trans (hf _).1.symm), fun p => ?_, hloop.trans (hf _).2.1.symm,
    hsignal.trans (hf _).2.2.2.symm⟩
  rw [(hf _).2.2.1, hdequeue]
  split_ifs
  · right
    rcases hat with ⟨index, rfl⟩ | rfl
    · exact ⟨.ret, rfl⟩
    · exact ⟨.ret, rfl⟩
  · exact .inl rfl

omit [DecidableEq τ] in
/-- The place in `sema->signal()`. -/
lemma signal_spec (pc : SemaphorePc) : (QueuePc.signal pc : QueuePc τ α).sema = pc ∧
    (QueuePc.signal pc : QueuePc τ α).inLoop = pc.granted ∧
    (pc ≠ .out → (QueuePc.signal pc : QueuePc τ α).toSignal = 0) := by
  refine ⟨rfl, rfl, fun h => ?_⟩
  cases pc with
  | out => exact absurd rfl h
  | _ => rfl

/-- **What a move does.** -/
lemma move_effect (h : q.move w t pc e = some (q', pc')) : Effect w t q pc pc' q' := by
  have hsignal : ∀ at₁ : SemaphorePc, (QueuePc.signal at₁ : QueuePc τ α).sema = at₁ ∧
      (QueuePc.signal at₁ : QueuePc τ α).inLoop = at₁.granted ∧
      (∀ p, (QueuePc.signal at₁ : QueuePc τ α).inDequeue p = .out) ∧
      (at₁ ≠ .out → (QueuePc.signal at₁ : QueuePc τ α).toSignal = 0) := fun at₁ =>
    ⟨rfl, rfl, fun _ => rfl, (signal_spec at₁).2.2⟩
  have hacquire : ∀ (blocking : Bool) (at₁ : SemaphorePc),
      (QueuePc.acquire blocking at₁ : QueuePc τ α).sema = at₁ ∧
      (QueuePc.acquire blocking at₁ : QueuePc τ α).inLoop = at₁.granted ∧
      (∀ p, (QueuePc.acquire blocking at₁ : QueuePc τ α).inDequeue p = .out) ∧
      (at₁ ≠ .out → (QueuePc.acquire blocking at₁ : QueuePc τ α).toSignal = 0) := fun _ _ =>
    ⟨rfl, rfl, fun _ => rfl, fun _ => rfl⟩
  have hbest : ∀ (ptr : τ) (at₁ : DequeuePc), (QueuePc.best ptr at₁ : QueuePc τ α).sema = .out ∧
      (QueuePc.best ptr at₁ : QueuePc τ α).inLoop = (if at₁.isClaimed then 0 else 1) ∧
      (∀ u, (QueuePc.best ptr at₁ : QueuePc τ α).inDequeue u = if ptr = u then at₁ else .out) ∧
      (QueuePc.best ptr at₁ : QueuePc τ α).toSignal = 0 := fun _ _ =>
    ⟨rfl, rfl, fun _ => rfl, rfl⟩
  have hother : ∀ (best : τ) (ptrs : List τ) (ptr : τ) (at₁ : DequeuePc),
      (QueuePc.other best ptrs ptr at₁ : QueuePc τ α).sema = .out ∧
      (QueuePc.other best ptrs ptr at₁ : QueuePc τ α).inLoop = (if at₁.isClaimed then 0 else 1) ∧
      (∀ u, (QueuePc.other best ptrs ptr at₁ : QueuePc τ α).inDequeue u =
        if ptr = u then at₁ else .out) ∧
      (QueuePc.other best ptrs ptr at₁ : QueuePc τ α).toSignal = 0 := fun _ _ _ _ =>
    ⟨rfl, rfl, fun _ => rfl, rfl⟩
  have hstart : ∀ (pc : QueuePc τ α) (scan : Scan τ), pc.sema = .out →
      (∀ p, pc.inDequeue p = .out) → pc.inLoop = 1 → pc.toSignal = 0 →
        Effect w t q pc (.scanned scan) q := by
    intro pc scan hsema hdequeue hloop hsig
    rcases QueuePc.scanned_cases (α := α) scan with ⟨best, hscanned⟩ | hscanned
    · rw [hscanned]
      exact .idle (.of_call (hbest best) hsema hdequeue hloop hsig)
    · rw [hscanned]
      exact .idle (.of_out hsema rfl hdequeue (fun _ => rfl) hloop.symm hsig.symm)
  unfold move at h
  split at h
  · -- `enqueue`
    cases h
    split_ifs
    · exact .idle (.of_out rfl rfl (fun _ => rfl) (fun _ => rfl) rfl rfl)
    · exact .idle (.of_out rfl rfl (fun _ => rfl) (fun _ => rfl) rfl rfl)
  · -- `wait_dequeue` or `try_dequeue`
    cases h
    exact .idle (.of_out rfl rfl (fun _ => rfl) (fun _ => rfl) rfl rfl)
  · cases h
    exact .idle (.of_out rfl rfl (fun _ => rfl) (fun _ => rfl) rfl rfl)
  · cases h
    exact .addProducer (.of_out rfl rfl (fun _ => rfl) (fun _ => rfl) rfl rfl)
  · cases h
    exact .idle (.of_out rfl rfl (fun _ => rfl) (fun _ => rfl) rfl rfl)
  · -- `tailIndex.store`
    cases h
    exact .publish _ rfl rfl
  · -- `sema->signal()`
    exact .of_sema (e := .signal 1) hsignal rfl nofun rfl h
  · cases h
    exact .idle ⟨.inr rfl, fun _ => .inl rfl, rfl, rfl⟩
  · rename_i at₁ hne hposted
    exact .of_sema (e := .next) hsignal rfl nofun ((signal_spec at₁).2.2 hne) h
  · cases h
    exact .idle (.of_out rfl rfl (fun _ => rfl) (fun _ => rfl) rfl rfl)
  · -- `sema->wait()` or `sema->tryWait()`
    exact .of_sema (e := .call _) (hacquire _) rfl nofun rfl h
  · cases h
    exact .idle ⟨.inr rfl, fun _ => .inl rfl, rfl, rfl⟩
  · cases h
    exact .idle ⟨.inr rfl, fun _ => .inl rfl, rfl, rfl⟩
  · exact .of_sema (e := .next) (hacquire _) rfl nofun rfl h
  · exact .of_sema (e := .fail) (hacquire _) rfl nofun rfl h
  · cases h
    exact .idle (.of_out rfl rfl (fun _ => rfl) (fun _ => rfl) rfl rfl)
  · -- the loop that looks for the best producer
    split at h
    · split_ifs at h
      · cases h
        exact .idle (.of_out rfl rfl (fun _ => rfl) (fun _ => rfl) rfl rfl)
      · cases h
        exact hstart _ _ rfl (fun _ => rfl) rfl rfl
    · cases h
      exact hstart _ _ rfl (fun _ => rfl) rfl rfl
  · cases h
    exact .idle (.of_out rfl rfl (fun _ => rfl) (fun _ => rfl) rfl rfl)
  · -- `best->dequeue` has got an element
    obtain ⟨item, -, heq⟩ := Option.map_eq_some_iff.mp h
    cases heq
    exact .idle (.of_ret (hbest _) (.inl ⟨_, rfl⟩) rfl (fun _ => rfl) rfl rfl)
  · cases h
    exact .idle (.of_ret (hbest _) (.inr rfl) rfl (fun _ => rfl) rfl rfl)
  · exact .of_dequeue (hbest _) rfl h
  · cases h
    exact .idle (.of_out rfl rfl (fun _ => rfl) (fun _ => rfl) rfl rfl)
  · cases h
    exact .idle (.of_out rfl rfl (fun _ => rfl) (fun _ => rfl) rfl rfl)
  · -- the loop over the other producers
    cases h
    split_ifs
    · exact .idle (.of_call (hother _ _ _) rfl (fun _ => rfl) rfl rfl)
    · exact .idle (.of_out rfl rfl (fun _ => rfl) (fun _ => rfl) rfl rfl)
  · obtain ⟨item, -, heq⟩ := Option.map_eq_some_iff.mp h
    cases heq
    exact .idle (.of_ret (hother _ _ _) (.inl ⟨_, rfl⟩) rfl (fun _ => rfl) rfl rfl)
  · cases h
    exact .idle (.of_ret (hother _ _ _) (.inr rfl) rfl (fun _ => rfl) rfl rfl)
  · exact .of_dequeue (hother _ _ _) rfl h
  · cases h
    exact .idle (.of_out rfl rfl (fun _ => rfl) (fun _ => rfl) rfl rfl)
  · cases h

/-! ## The semaphore and the producers -/

/-- The comparisons of the next move are of indices that are less than half the range apart. -/
def Compares (w : ℕ) (q : BlockingConcurrentQueue τ α) (pc : QueuePc τ α) : Prop :=
  ∀ p, (q.producer p).Compares w (pc.inDequeue p)

/-- The runs whose comparisons are right. -/
abbrev ComparesStep (w : ℕ) (c : Crew (BlockingConcurrentQueue τ α) (QueuePc τ α) τ)
    (e : τ × QueueEvent α) : Prop := c.shared.Compares w (c.place e.1)

instance [Fintype τ] (w : ℕ) (c : Crew (BlockingConcurrentQueue τ α) (QueuePc τ α) τ)
    (e : τ × QueueEvent α) : Decidable (ComparesStep w c e) :=
  inferInstanceAs (Decidable (∀ p, (c.shared.producer p).Compares w ((c.place e.1).inDequeue p)))

section Parts

variable {c : Crew (BlockingConcurrentQueue τ α) (QueuePc τ α) τ}
  {C : Crew (BlockingConcurrentQueue τ α) (QueuePc τ α) τ → τ × QueueEvent α → Prop}

/-- The semaphore, and the threads in it. -/
def semaphoreOf (c : Crew (BlockingConcurrentQueue τ α) (QueuePc τ α) τ) :
    Crew LightweightSemaphore SemaphorePc τ := c.map (fun q => q.sema) QueuePc.sema

/-- A producer, and the consumers in it. -/
def producerOf (p : τ) (c : Crew (BlockingConcurrentQueue τ α) (QueuePc τ α) τ) :
    Crew (ImplicitProducer τ α) DequeuePc τ :=
  c.map (fun q => q.producer p) (QueuePc.inDequeue p)

/-- **The semaphore of the queue is a semaphore**: what its threads do there, threads that call a
semaphore can do. -/
theorem semaphore_reachable (h : (queueCrew τ α w).ReachableUnder C c) :
    (semaphoreCrew τ 0).Reachable (semaphoreOf c) := by
  refine Crew.map_reachableUnder _ _ (fun c hinit => ?_) (fun c t e q pc _ hmove => ?_) h
  · obtain ⟨hshared, hout⟩ := hinit
    refine ⟨?_, fun t => ?_⟩
    · show c.shared.sema = _
      rw [hshared]
      rfl
    · show (c.place t).sema = _
      rw [hout t]
      rfl
  · have hidle : Idle w t c.shared (c.place t) pc → pc.sema = (c.place t).sema ∨
        ∃ e, c.shared.sema.move (c.place t).sema e = some (c.shared.sema, pc.sema) := fun hidle =>
      hidle.sema.imp_right fun h => ⟨_, h⟩
    cases move_effect hmove with
    | idle hidle' =>
      exact (hidle hidle').imp (fun h => ⟨rfl, h⟩) fun ⟨e, h⟩ => ⟨e, trivial, h⟩
    | addProducer hidle' =>
      exact (hidle hidle').imp (fun h => ⟨rfl, h⟩) fun ⟨e, h⟩ => ⟨e, trivial, h⟩
    | publish item hpc hpc' =>
      left
      rw [hpc, hpc']
      exact ⟨rfl, rfl⟩
    | sema s e hsema _ _ _ _ _ _ => exact .inr ⟨e, trivial, hsema⟩
    | dequeue ptr at₁ at₂ p _ hsema hsema' _ _ _ _ _ _ =>
      exact .inl ⟨dequeueFrom_sema _ _ _ _, hsema'.trans hsema.symm⟩

/-- **Each producer of the queue is a producer**: what the threads do there, threads that call a
producer can do. -/
theorem producer_reachable (p : τ) (h : (queueCrew τ α w).ReachableUnder (ComparesStep w) c) :
    (producerCrew τ α w).ReachableUnder (fun c e => c.shared.Compares w (c.place e.1))
      (producerOf p c) := by
  refine Crew.map_reachableUnder _ _ (fun c hinit => ?_) (fun c t e q pc hC hmove => ?_) h
  · obtain ⟨hshared, hout⟩ := hinit
    refine ⟨?_, fun t => ?_⟩
    · show c.shared.producer p = _
      rw [hshared]
      rfl
    · show (c.place t).inDequeue p = _
      rw [hout t]
      rfl
  · have hidle : Idle w t c.shared (c.place t) pc →
        (c.shared.producer p = c.shared.producer p ∧
          pc.inDequeue p = (c.place t).inDequeue p) ∨
        ∃ e, (c.shared.producer p).Compares w ((c.place t).inDequeue p) ∧
          (c.shared.producer p).move w t ((c.place t).inDequeue p) e =
            some (c.shared.producer p, pc.inDequeue p) := fun hidle =>
      (hidle.inDequeue p).imp (fun h => ⟨rfl, h⟩) fun ⟨e, h⟩ => ⟨e, hC p, h⟩
    cases move_effect hmove with
    | idle hidle' => exact hidle hidle'
    | addProducer hidle' => exact hidle hidle'
    | publish item hpc hpc' =>
      by_cases hp : p = t
      · subst hp
        right
        refine ⟨.enqueue item, hC p, ?_⟩
        have hproducer : (c.shared.publish p item).producer p =
            (c.shared.producer p).enqueue item := Function.update_self ..
        rw [hpc, hpc', hproducer]
        rfl
      · left
        rw [hpc, hpc']
        exact ⟨Function.update_of_ne hp _ _, rfl⟩
    | sema s e _ _ hdequeue _ _ _ _ => exact .inl ⟨rfl, hdequeue p⟩
    | dequeue ptr at₁ at₂ p' hdequeued _ _ hdequeue hdequeue' _ _ _ _ =>
      dsimp only
      rw [dequeueFrom_producer, hdequeue', hdequeue]
      by_cases hp : ptr = p
      · subst hp
        right
        refine ⟨.next, hC ptr, ?_⟩
        rw [if_pos rfl, if_pos rfl, Function.update_self, ← hdequeued]
        cases at₁ <;> rfl
      · left
        rw [if_neg hp, if_neg hp, Function.update_of_ne (Ne.symm hp)]
        exact ⟨rfl, rfl⟩

end Parts

/-! ## An element is handed over

Parts of runs, from which the examples of the following modules are put together. -/

/-- Before the first call. -/
lemma reachable_new
    {C : Crew (BlockingConcurrentQueue τ α) (QueuePc τ α) τ → τ × QueueEvent α → Prop} :
    (queueCrew τ α w).ReachableUnder C ⟨.new, fun _ => .out⟩ := .init ⟨rfl, fun _ => rfl⟩

/-- A thread enqueues its first element. -/
def enqueueEvents {τ α : Type*} (t : τ) (item : α) : List (τ × QueueEvent α) :=
  [(t, .enqueue item), (t, .next), (t, .next), (t, .next), (t, .next), (t, .ret)]

/-- Another thread calls `wait_dequeue`, and makes so many moves. -/
def dequeueEvents {τ α : Type*} (t : τ) (moves : ℕ) : List (τ × QueueEvent α) :=
  (t, .dequeue true) :: List.replicate moves (t, .next)

end BlockingConcurrentQueue

end UsbTv
