import UsbTv.Flow.Pointers
import UsbTv.Queue.Calls

set_option relaxedAutoImplicit false
set_option autoImplicit false

/-!
# The driver with its queue

In `UsbTv.frameFlow` the process queue is a list, and a thread puts an entry in or takes one out
in one step. Here the threads call the queue as it is written: between the call and its return the
other threads go on, and what is in the queue is spread over its producers and its semaphore.

Each of the three threads has a number by which the queue tells its producer. A new reap thread or
process thread has a new number, or that of a thread that is gone.

## Main definitions

* `UsbTv.Caller` — the threads that call the queue.
* `UsbTv.QueuedFlow` — the state of the driver, with the queue.
* `UsbTv.FrameFlow.calls`, `UsbTv.FrameFlow.returns` — when a thread calls the queue, and what it
  does when the call returns.
* `UsbTv.queuedFlow` — all interleavings.
* `UsbTv.QueuedFlow.Provided` — there is memory for the null frame, and there are fewer entries
  than half the range of an index.
* `UsbTv.QueuedFlow.Sound` — what a run keeps.
* `UsbTv.FrameFlow.MatchedBy`, `UsbTv.QueuedFlow.Matches` — what the driver with a list for its
  queue has to do with it.
-/

namespace UsbTv

/-- The threads that call the queue. -/
inductive Caller
  | handler
  | reap
  | process
  deriving DecidableEq, Repr

instance : Fintype Caller where
  elems := {.handler, .reap, .process}
  complete caller := by cases caller <;> decide

/-- Whether an element finds no memory. -/
def QueueEvent.isRefuse {α : Type*} : QueueEvent α → Bool
  | refuse => true
  | enqueue _ | dequeue _ | next | fail | ret => false

/-- The thread that makes a step at the USB device. -/
def UsbEvent.caller : UsbEvent → Option Caller
  | initIsoUrbs _ | startUrbAsyncRead | stop | handler => some .handler
  | reap _ | reapUrb _ | reapError _ => some .reap
  | complete _ => none

/-- The thread that makes a step. -/
def FlowEvent.caller : FlowEvent → Option Caller
  | usbtvInitialize _ | dispose | setFrameListener _ | startStreaming _ | stopStreaming | stop =>
    some .handler
  | usb e => e.caller
  | addCompleteFrameToQueue _ | fetch => some .reap
  | dequeue _ | process => some .process
  | returnFrame _ | returnFrameToPool _ => none

/-- Where the process thread goes on with an entry: a null frame sends it back to its test. -/
def ProcessPc.ofEntry : Option FrameRef → ProcessPc
  | none => test
  | some r => invoke r

namespace FrameFlow

/-- The events that stand for calls of the queue. -/
def isQueued (s : FrameFlow) : FlowEvent → Bool
  | .addCompleteFrameToQueue _ | .dequeue _ => true
  | .stop => s.call = .stopEnqueue ∨ s.call = .stopDrain
  | _ => false

/-- Whether the thread comes to such a call of the queue: `try_enqueue` in
`addCompleteFrameToQueue`, `wait_dequeue` in `getFrame`, and `enqueue` and `try_dequeue` in
`stopStreaming`. -/
def calls (s : FrameFlow) : Caller → QueueEvent (Option FrameRef) → Bool
  | .reap, .enqueue (some r) =>
    s.usb.reap.isCallback = true ∧ s.fetching = none ∧ s.usbInputFrame = .frame r
  | .handler, .enqueue none => s.call = .stopEnqueue
  | .process, .dequeue true => s.process = .dequeue
  | .handler, .dequeue false => s.call = .stopDrain
  | _, .enqueue _ | _, .dequeue _ => false
  | _, .next | _, .refuse | _, .fail | _, .ret => true

/-- The lock of a dequeued frame is cleared. -/
def clearLock (s : FrameFlow) : Option FrameRef → FrameFlow
  | none => s
  | some r => { s with lock := Function.update s.lock r false }

/-- What a thread does when its call returns. The reap thread goes on to `fetchFrameFromPool` if its
frame was enqueued, and the loop of `stopStreaming` ends when there is no entry left. -/
def returns {τ : Type*} (s : FrameFlow) :
    Caller → QueuePc τ (Option FrameRef) → Option FrameFlow
  | .reap, .enqueued true => some { s with fetching := some 0 }
  | .handler, .enqueued _ => some { s with call := .stopJoin }
  | .process, .done (some entry) => some { s with process := .ofEntry entry }
  | .handler, .done (some entry) => some (s.clearLock entry)
  | .handler, .done none => s.stopStep
  | _, _ => some s

end FrameFlow

/-- The driver with its queue. The list `frameProcessQueue` of `flow` is not used. -/
structure QueuedFlow (τ : Type*) where
  flow : FrameFlow
  queue : Crew (BlockingConcurrentQueue τ (Option FrameRef)) (QueuePc τ (Option FrameRef)) τ
  /-- The numbers of the threads. -/
  thread : Caller → τ

/-- What can happen. -/
inductive QueuedEvent (τ : Type*)
  /-- A step outside the queue. -/
  | flow (e : FlowEvent)
  /-- A thread that is yet to be made gets a number. -/
  | newThread (caller : Caller) (t : τ)
  /-- A thread calls the queue, goes on within a call, or returns. -/
  | queue (caller : Caller) (e : QueueEvent (Option FrameRef))

namespace QueuedFlow

variable {τ : Type*} (c : QueuedFlow τ)

/-- Where a thread stands in the queue. -/
def place (caller : Caller) : QueuePc τ (Option FrameRef) := c.queue.place (c.thread caller)

/-- There is no such thread, or it is in no call of the driver. -/
def absent : Caller → Bool
  | .handler => c.flow.call = .idle
  | .reap => c.flow.usb.reap = .absent
  | .process => c.flow.process = .absent

/-- The queue after a step outside: `initialize` makes a new one. -/
def queueAfter [DecidableEq τ] : FlowEvent →
    Crew (BlockingConcurrentQueue τ (Option FrameRef)) (QueuePc τ (Option FrameRef)) τ
  | .usbtvInitialize _ => ⟨.new, fun _ => .out⟩
  | _ => c.queue

/-- A thread calls the queue, goes on within a call, or returns. -/
def queueStep [DecidableEq τ] (w : ℕ) (caller : Caller) (e : QueueEvent (Option FrameRef)) :
    Option (QueuedFlow τ) :=
  if c.flow.calls caller e then
    ((queueCrew τ (Option FrameRef) w).step c.queue (c.thread caller, e)).bind fun queue =>
      (match e with
        | .ret => c.flow.returns caller (c.place caller)
        | _ => some c.flow).map fun flow => { c with flow := flow, queue := queue }
  else none

/-- One event. A thread that is in a call of the queue does nothing else. -/
def step [DecidableEq τ] (w : ℕ) : QueuedEvent τ → Option (QueuedFlow τ)
  | .flow e =>
    if c.flow.isQueued e = false ∧ ∀ caller ∈ e.caller, c.place caller = .out then
      (c.flow.step e).map fun flow => { c with flow := flow, queue := c.queueAfter e }
    else none
  | .newThread caller t =>
    if c.absent caller = true ∧ ∀ other, c.thread other ≠ t then
      some { c with thread := Function.update c.thread caller t }
    else none
  | .queue caller e => c.queueStep w caller e

/-- There is memory for the null frame, and there are fewer entries than half the range of an
index. -/
def Provided (w : ℕ) (c : QueuedFlow τ) : QueuedEvent τ → Prop
  | .queue caller e =>
    c.queue.shared.entries.length < 2 ^ (w - 1) ∧ ¬ (caller = .handler ∧ e.isRefuse = true)
  | .flow _ | .newThread _ _ => True

instance (w : ℕ) (c : QueuedFlow τ) (e : QueuedEvent τ) : Decidable (Provided w c e) :=
  match e with
  | .queue caller e =>
    inferInstanceAs (Decidable (_ ∧ ¬ (caller = .handler ∧ e.isRefuse = true)))
  | .flow _ | .newThread _ _ => inferInstanceAs (Decidable True)

end QueuedFlow

/-- All interleavings of the threads of the driver, with indices of `w` bits in the queue. -/
def queuedFlow (τ : Type*) [DecidableEq τ] (w : ℕ) :
    StepSystem (QueuedFlow τ) (QueuedEvent τ) where
  Init c := c.flow = .new ∧ c.queue = ⟨.new, fun _ => .out⟩ ∧ Function.Injective c.thread
  step c := c.step w

/-! ## What is seen of the queue -/

namespace CallPc

/-- The reap thread is on its way to `fetchFrameFromPool` once its frame is published. -/
def fetching : CallPc (Option FrameRef) → Option ℕ → Option ℕ
  | enqueued true, _ => some 0
  | _, own => own

/-- The process thread is past `getFrame` once it has taken an index. -/
def process : CallPc (Option FrameRef) → ProcessPc → ProcessPc
  | dequeued (some entry), _ => .ofEntry entry
  | _, own => own

/-- `stopStreaming` is past `enqueue` once the null frame is published. -/
def call : CallPc (Option FrameRef) → DriverCall → DriverCall
  | enqueued _, _ => .stopJoin
  | _, own => own

/-- What was dequeued, and was not seen to yet. -/
def inHand : CallPc (Option FrameRef) → List (Option FrameRef)
  | dequeued (some entry) => [entry]
  | _ => []

@[simp] lemma fetching_out (own : Option ℕ) : out.fetching own = own := rfl

@[simp] lemma process_out (own : ProcessPc) : out.process own = own := rfl

@[simp] lemma call_out (own : DriverCall) : out.call own = own := rfl

end CallPc

namespace FrameFlow

/-- What holds of a thread that is in a call of the queue: it stands where it calls it. -/
def InCall (s : FrameFlow) : Caller → CallPc (Option FrameRef) → Prop
  | _, .out => True
  | .reap, .enqueuing item =>
    s.usb.reap.isCallback = true ∧ s.fetching = none ∧
      ∃ r, item = some r ∧ s.usbInputFrame = .frame r
  | .reap, .enqueued _ => s.usb.reap.isCallback = true ∧ s.fetching = none
  | .handler, .enqueuing item => s.call = .stopEnqueue ∧ item = none
  | .handler, .enqueued success => s.call = .stopEnqueue ∧ success = true
  | .process, .dequeuing mayFail => s.process = .dequeue ∧ mayFail = false
  | .process, .dequeued result => s.process = .dequeue ∧ result ≠ none
  | .handler, .dequeuing _ | .handler, .dequeued _ => s.call = .stopDrain
  | .reap, .dequeuing _ | .reap, .dequeued _ => False
  | .process, .enqueuing _ | .process, .enqueued _ => False

/-- The driver with a list for the queue, from where its threads are seen in the queue: there an
entry is enqueued when it is published, and dequeued when its index is taken. -/
@[simps]
def ahead (s : FrameFlow) (seen : Caller → CallPc (Option FrameRef)) (lock : FrameRef → Bool)
    (queue : List (Option FrameRef)) : FrameFlow :=
  { s with
    lock := lock
    frameProcessQueue := queue
    fetching := (seen .reap).fetching s.fetching
    process := (seen .process).process s.process
    call := (seen .handler).call s.call }

/-- What the list and the locks have to do with the entries and with what the loop of
`stopStreaming` has in hand: they are the same, but while that loop empties the queue the list keeps
what was taken out of it, and the locks what was cleared. -/
structure Drains (s : FrameFlow) (hand entries : List (Option FrameRef)) (lock : FrameRef → Bool)
    (queue drained : List (Option FrameRef)) : Prop where
  perm : queue.Perm (drained ++ (hand ++ entries))
  cleared : ∀ r, s.lock r = (lock r && !drained.contains (some r))
  same : s.call ≠ .stopDrain → s.lock = lock ∧ entries = queue

/-- The driver with a list for its queue is where the driver is that has the queue. -/
def MatchedBy (s : FrameFlow) (seen : Caller → CallPc (Option FrameRef))
    (entries : List (Option FrameRef)) (t : FrameFlow) : Prop :=
  ∃ lock queue drained, t = s.ahead seen lock queue ∧
    s.Drains (seen .handler).inHand entries lock queue drained

end FrameFlow

namespace QueuedFlow

variable {τ : Type*} (c : QueuedFlow τ)

/-- Where a thread is seen in the queue. -/
def seen (caller : Caller) : CallPc (Option FrameRef) := (c.place caller).seen c.queue.shared

/-- What is in the queue. -/
def entries : List (Option FrameRef) := c.queue.shared.entries.map Prod.snd

/-- What a run of the driver with its queue keeps. -/
structure Sound [DecidableEq τ] (w : ℕ) (c : QueuedFlow τ) : Prop where
  /-- The queue is used as it is made for. -/
  reachable :
    (queueCrew τ (Option FrameRef) w).ReachableUnder (BlockingConcurrentQueue.TryStep w) c.queue
  injective : Function.Injective c.thread
  /-- No other thread calls the queue. -/
  rest : ∀ t, (∀ caller, c.thread caller ≠ t) → c.queue.place t = .out
  inCall : ∀ caller, c.flow.InCall caller (c.seen caller)
  unused : c.flow.frameProcessQueue = []

/-- The driver with a list for its queue is where this one is. -/
def Matches (s : FrameFlow) : Prop := c.flow.MatchedBy c.seen c.entries s

end QueuedFlow

end UsbTv
