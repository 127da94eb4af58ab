import UsbTv.Flow.Ahead

set_option relaxedAutoImplicit false
set_option autoImplicit false

/-!
# The queue as a list

What is known of `UsbTv.frameFlow`, where the process queue is a list, is known of the driver with
the queue as it is written.

## Main results

* `UsbTv.QueuedFlow.exists_matches_under` — every state of the driver with its queue is matched by
  a state of the driver with a list.
-/

namespace UsbTv

open BlockingConcurrentQueue

namespace QueuedFlow

variable {τ : Type*} [DecidableEq τ] {w : ℕ} {c c' : QueuedFlow τ} {caller : Caller}
  {e : QueueEvent (Option FrameRef)} {s : FrameFlow}

/-- The driver after a move of a thread in the queue. -/
def moved (c : QueuedFlow τ) (flow : FrameFlow) (caller : Caller)
    (q : BlockingConcurrentQueue τ (Option FrameRef)) (pc : QueuePc τ (Option FrameRef)) :
    QueuedFlow τ :=
  ⟨flow, ⟨q, Function.update c.queue.place (c.thread caller) pc⟩, c.thread⟩

/-- What a call of the queue, a step within it, or a return can do. -/
lemma queueStep_cases (h : c.queueStep w caller e = some c') :
    c.flow.calls caller e = true ∧ ∃ q pc flow,
      c.queue.shared.move w (c.thread caller) (c.place caller) e = some (q, pc) ∧
      (e = .ret ∧ c.flow.returns caller (c.place caller) = some flow ∨ e ≠ .ret ∧ flow = c.flow) ∧
      c' = c.moved flow caller q pc := by
  unfold queueStep at h
  split_ifs at h with hcalls
  obtain ⟨queue, hstep, h⟩ := Option.bind_eq_some_iff.mp h
  obtain ⟨q, pc, hmove, rfl⟩ := Crew.step_eq_some.mp hstep
  obtain ⟨flow, hflow, rfl⟩ := Option.map_eq_some_iff.mp h
  refine ⟨hcalls, q, pc, flow, hmove, ?_, rfl⟩
  cases e with
  | ret => exact .inl ⟨rfl, hflow⟩
  | enqueue item => exact .inr ⟨nofun, (Option.some_inj.mp hflow).symm⟩
  | dequeue blocking => exact .inr ⟨nofun, (Option.some_inj.mp hflow).symm⟩
  | next => exact .inr ⟨nofun, (Option.some_inj.mp hflow).symm⟩
  | refuse => exact .inr ⟨nofun, (Option.some_inj.mp hflow).symm⟩
  | fail => exact .inr ⟨nofun, (Option.some_inj.mp hflow).symm⟩

variable [Fintype τ]

/-- All comparisons of the queue are right. -/
lemma Sound.compares (hs : c.Sound w) (hw : 0 < w) :
    (queueCrew τ (Option FrameRef) w).ReachableUnder (ComparesStep w) c.queue :=
  (lone_of_reachable hw (lone_of_try hs.reachable)).reachable

/-- The other threads are seen to rest. -/
lemma Sound.seen_moved (hs : c.Sound w) (hw : 0 < w) (flow : FrameFlow)
    {q : BlockingConcurrentQueue τ (Option FrameRef)} {pc : QueuePc τ (Option FrameRef)}
    (hmove : c.queue.shared.move w (c.thread caller) (c.place caller) e = some (q, pc)) :
    (c.moved flow caller q pc).seen = Function.update c.seen caller (pc.seen q) := by
  funext other
  show (Function.update c.queue.place (c.thread caller) pc (c.thread other)).seen q = _
  by_cases hother : other = caller
  · rw [hother, Function.update_self, Function.update_self]
  · rw [Function.update_of_ne hother, Function.update_of_ne (hs.injective.ne hother)]
    exact seen_of_others hw (hs.compares hw) hmove (c.thread other)

omit [Fintype τ] in
/-- A thread in the queue is one of the driver's. -/
lemma Sound.exists_caller (hs : c.Sound w) {t : τ} (h : c.queue.place t ≠ .out) :
    ∃ caller, c.thread caller = t := by
  by_contra hnone
  exact h (hs.rest t fun caller hcaller => hnone ⟨caller, hcaller⟩)

omit [DecidableEq τ] [Fintype τ] in
/-- A thread that dequeues is the process thread in `getFrame`, or the handler thread in the loop of
`stopStreaming`. -/
lemma dequeues_of_inCall {pc : CallPc (Option FrameRef)} (hin : c.flow.InCall caller pc)
    (h : (∃ mayFail, pc = .dequeuing mayFail) ∨ ∃ result, pc = .dequeued result) :
    caller = .process ∧ c.flow.process = .dequeue ∨
      caller = .handler ∧ c.flow.call = .stopDrain := by
  rcases h with ⟨mayFail, rfl⟩ | ⟨result, rfl⟩
  · cases caller with
    | handler => exact .inr ⟨rfl, hin⟩
    | reap => exact hin.elim
    | process => exact .inl ⟨rfl, hin.1⟩
  · cases caller with
    | handler => exact .inr ⟨rfl, hin⟩
    | reap => exact hin.elim
    | process => exact .inl ⟨rfl, hin.1⟩

omit [Fintype τ] in
/-- Another thread than the handler thread moves from where it calls the queue. -/
lemma not_drained_of_move (hin : c.flow.InCall caller (c.seen caller))
    (hcalls : c.flow.calls caller e = true) (hcaller : caller ≠ .handler)
    {q : BlockingConcurrentQueue τ (Option FrameRef)} {pc : QueuePc τ (Option FrameRef)}
    (hmove : c.queue.shared.move w (c.thread caller) (c.place caller) e = some (q, pc)) :
    c.flow.process = .dequeue ∨ c.flow.usb.reap.isCallback = true := by
  by_cases hout : c.place caller = .out
  · rw [hout] at hmove
    cases e with
    | enqueue item =>
      cases caller with
      | handler => exact absurd rfl hcaller
      | reap =>
        cases item with
        | none => cases hcalls
        | some r =>
          simp only [FrameFlow.calls, decide_eq_true_eq] at hcalls
          exact .inr hcalls.1
      | process => cases hcalls
    | dequeue blocking =>
      rcases FrameFlow.dequeues_of_calls hcalls with ⟨-, -, hprocess⟩ | ⟨rfl, -⟩
      · exact .inl hprocess
      · exact absurd rfl hcaller
    | next => cases hmove
    | refuse => cases hmove
    | fail => cases hmove
    | ret => cases hmove
  · have hseen : c.seen caller ≠ .out := fun h => hout (QueuePc.seen_eq_out.mp h)
    by_contra hnone
    rw [not_or] at hnone
    cases caller with
    | handler => exact hcaller rfl
    | reap => exact hseen (hin.reap_out hnone.2)
    | process => exact hseen (hin.process_out hnone.1)

omit [Fintype τ] in
/-- **The queue is used as it is made for**: one consumer at a time, and none moves while another
thread may fail. -/
lemma Sound.tryStep (hs : c.Sound w) (hm : c.Matches s) (ht : frameFlow.Reachable s)
    (hcalls : c.flow.calls caller e = true) {q : BlockingConcurrentQueue τ (Option FrameRef)}
    {pc : QueuePc τ (Option FrameRef)}
    (hmove : c.queue.shared.move w (c.thread caller) (c.place caller) e = some (q, pc))
    (hlen : c.queue.shared.entries.length < 2 ^ (w - 1)) :
    TryStep w c.queue (c.thread caller, e) := by
  obtain ⟨lock, queue, drained, rfl, -⟩ := hm
  have hdrain := FrameFlow.not_dequeue_of_stopDrain hs.inCall ht
  refine ⟨⟨hlen, fun hdequeue t => Bool.eq_false_iff.mpr fun hconsumes => ?_⟩,
    fun t hother => Bool.eq_false_iff.mpr fun htries => ?_⟩
  · -- another consumer would be the handler thread beside the process thread
    obtain ⟨other, rfl⟩ := hs.exists_caller fun hout => by
      rw [hout] at hconsumes
      cases hconsumes
    have hin := dequeues_of_inCall (hs.inCall other)
      (QueuePc.seen_of_consumes (q := c.queue.shared) hconsumes)
    obtain ⟨hout, -, -⟩ := move_dequeue hmove hdequeue
    obtain ⟨blocking, rfl⟩ : ∃ blocking, e = .dequeue blocking := by
      cases e with
      | dequeue blocking => exact ⟨blocking, rfl⟩
      | _ => cases hdequeue
    rcases FrameFlow.dequeues_of_calls hcalls with ⟨rfl, -, hprocess⟩ | ⟨rfl, -, hcall⟩
    · rcases hin with ⟨rfl, -⟩ | ⟨-, hcall⟩
      · rw [place] at hout
        rw [hout] at hconsumes
        cases hconsumes
      · exact (hdrain hcall).1 hprocess
    · rcases hin with ⟨-, hprocess⟩ | ⟨rfl, -⟩
      · exact (hdrain hcall).1 hprocess
      · rw [place] at hout
        rw [hout] at hconsumes
        cases hconsumes
  · -- it is the handler thread that may fail, and no other thread comes to the queue
    obtain ⟨other, rfl⟩ := hs.exists_caller fun hout => by
      rw [hout] at htries
      cases htries
    have hin := hs.inCall other
    have hcall : other = .handler ∧ c.flow.call = .stopDrain := by
      rcases QueuePc.seen_of_tries (q := c.queue.shared) htries with hseen | hseen
      · rw [seen, place, hseen] at hin
        cases other with
        | handler => exact ⟨rfl, hin⟩
        | reap => exact hin.elim
        | process => cases hin.2
      · rw [seen, place, hseen] at hin
        cases other with
        | handler => exact ⟨rfl, hin⟩
        | reap => exact hin.elim
        | process => exact absurd rfl hin.2
    obtain ⟨rfl, hcall⟩ := hcall
    have hcaller : caller ≠ .handler := by
      rintro rfl
      exact hother rfl
    rcases not_drained_of_move (hs.inCall caller) hcalls hcaller hmove with hprocess | hcallback
    · exact (hdrain hcall).1 hprocess
    · exact (hdrain hcall).2 hcallback

omit [Fintype τ] in
/-- A move in the queue keeps what a run keeps, if its thread stands where it should. -/
lemma Sound.moved (hs : c.Sound w) {q : BlockingConcurrentQueue τ (Option FrameRef)}
    {pc : QueuePc τ (Option FrameRef)} {flow : FrameFlow}
    (htry : TryStep w c.queue (c.thread caller, e))
    (hmove : c.queue.shared.move w (c.thread caller) (c.place caller) e = some (q, pc))
    (hin : ∀ other, flow.InCall other ((c.moved flow caller q pc).seen other))
    (hunused : flow.frameProcessQueue = []) : (c.moved flow caller q pc).Sound w where
  reachable := hs.reachable.step htry (Crew.step_eq_some.mpr ⟨q, pc, hmove, rfl⟩)
  injective := hs.injective
  rest t ht := by
    show Function.update c.queue.place (c.thread caller) pc t = .out
    have hne : t ≠ c.thread caller := fun h => ht caller h.symm
    rw [Function.update_of_ne hne]
    exact hs.rest t ht
  inCall := hin
  unused := hunused

/-- A thread goes on within its call of the queue. -/
lemma within_matches (hw : 0 < w) (hs : c.Sound w) (hm : c.Matches s)
    (ht : frameFlow.Reachable s) (htry : TryStep w c.queue (c.thread caller, e))
    {q : BlockingConcurrentQueue τ (Option FrameRef)} {pc : QueuePc τ (Option FrameRef)}
    (hmove : c.queue.shared.move w (c.thread caller) (c.place caller) e = some (q, pc))
    (he : e = .next ∨ e = .refuse ∨ e = .fail)
    (hrefuse : ¬ (caller = .handler ∧ e.isRefuse = true)) :
    (c.moved c.flow caller q pc).Sound w ∧ ((c.moved c.flow caller q pc).Matches s ∨
      ∃ e' s', s.isQueued e' = true ∧ s.step e' = some s' ∧
        (c.moved c.flow caller q pc).Matches s') := by
  have hwithin : Within (c.thread caller) c.queue.shared.entries (c.seen caller) q.entries
      (pc.seen q) := within_of_move hw (hs.compares hw) hmove he
  have hnull : ¬ (caller = .handler ∧ pc.seen q = .enqueued false) := by
    rintro ⟨hcaller, hseen⟩
    rw [QueuePc.eq_enqueued_of_seen hseen] at hmove
    exact hrefuse ⟨hcaller, by rw [eq_refuse_of_move hmove]; rfl⟩
  have hseen := hs.seen_moved hw c.flow hmove
  refine ⟨hs.moved htry hmove (fun other => ?_) hs.unused, ?_⟩
  · rw [hseen]
    by_cases hother : other = caller
    · rw [hother, Function.update_self]
      exact (hs.inCall caller).within hwithin hnull
    · rw [Function.update_of_ne hother]
      exact hs.inCall other
  · unfold Matches
    rw [hseen]
    exact FrameFlow.matchedBy_within hs.inCall ht hm hwithin hnull

/-- A thread calls the queue. -/
lemma start_matches (hw : 0 < w) (hs : c.Sound w) (hm : c.Matches s)
    (htry : TryStep w c.queue (c.thread caller, e)) {pc : QueuePc τ (Option FrameRef)}
    (hmove : c.queue.shared.move w (c.thread caller) (c.place caller) e = some (c.queue.shared, pc))
    (hout : c.place caller = .out) (hin : c.flow.InCall caller (pc.seen c.queue.shared))
    (hstart : (∃ item, pc.seen c.queue.shared = .enqueuing item) ∨
      ∃ mayFail, pc.seen c.queue.shared = .dequeuing mayFail) :
    (c.moved c.flow caller c.queue.shared pc).Sound w ∧
      (c.moved c.flow caller c.queue.shared pc).Matches s := by
  have hseen := hs.seen_moved hw c.flow hmove
  refine ⟨hs.moved htry hmove (fun other => ?_) hs.unused, ?_⟩
  · rw [hseen]
    by_cases hother : other = caller
    · rw [hother, Function.update_self]
      exact hin
    · rw [Function.update_of_ne hother]
      exact hs.inCall other
  · unfold Matches
    rw [hseen]
    exact FrameFlow.MatchedBy.start hm (QueuePc.seen_eq_out.mpr hout) hstart

/-- A call of the queue returns. -/
lemma returns_matches (hw : 0 < w) (hs : c.Sound w) (hm : c.Matches s)
    (ht : frameFlow.Reachable s) (htry : TryStep w c.queue (c.thread caller, .ret))
    (hmove : c.queue.shared.move w (c.thread caller) (c.place caller) .ret =
      some (c.queue.shared, .out))
    (hplace : (∃ success, c.place caller = .enqueued success) ∨
      ∃ result, c.place caller = .done result) {flow : FrameFlow}
    (hflow : c.flow.returns caller (c.place caller) = some flow) :
    (c.moved flow caller c.queue.shared .out).Sound w ∧
      ((c.moved flow caller c.queue.shared .out).Matches s ∨
        ∃ e' s', s.isQueued e' = true ∧ s.step e' = some s' ∧
          (c.moved flow caller c.queue.shared .out).Matches s') := by
  have hreturned := FrameFlow.returned_of_returns (hs.inCall caller) hplace hflow
  have hseen := hs.seen_moved hw flow hmove
  -- the loop of `stopStreaming` ends with an empty queue
  have hnil : caller = .handler → c.seen caller = .dequeued none → c.entries = [] := by
    rintro rfl hdequeued
    have hcall : c.flow.call = .stopDrain := by
      have hin := hs.inCall .handler
      rwa [hdequeued] at hin
    obtain ⟨lock, queue, drained, rfl, -⟩ := hm
    obtain ⟨hprocess, hreap⟩ := FrameFlow.not_dequeue_of_stopDrain hs.inCall ht hcall
    have hdone : c.place .handler = .done none := by
      rcases hplace with ⟨success, hplace⟩ | ⟨result, hplace⟩
      · rw [seen, hplace] at hdequeued
        cases hdequeued
      · rw [seen, hplace] at hdequeued
        cases hdequeued
        exact hplace
    have hrest : ∀ u ≠ c.thread .handler, c.queue.place u = .out := by
      intro u hu
      by_contra hne
      obtain ⟨other, rfl⟩ := hs.exists_caller hne
      cases other with
      | handler => exact hu rfl
      | reap => exact hne (QueuePc.seen_eq_out.mp ((hs.inCall .reap).reap_out hreap))
      | process => exact hne (QueuePc.seen_eq_out.mp ((hs.inCall .process).process_out hprocess))
    rw [entries, entries_eq_nil_of_failed hw hs.reachable hdone hrest]
    rfl
  obtain ⟨lock, queue, drained, rfl, hd⟩ := hm
  obtain ⟨hin, hunused⟩ := hreturned.inCall hs.inCall ht rfl hs.unused
  refine ⟨hs.moved htry hmove (fun other => ?_) hunused, ?_⟩
  · rw [hseen]
    exact hin other
  · unfold Matches
    rw [hseen]
    exact hreturned.matchedBy hs.inCall ht ⟨lock, queue, drained, rfl, hd⟩ rfl hs.unused hnil

/-- **A step of a thread in the queue.** -/
lemma queueStep_matches (hw : 0 < w) (hs : c.Sound w) (hm : c.Matches s)
    (ht : frameFlow.Reachable s) (hprovided : c.Provided w (.queue caller e))
    (h : c.queueStep w caller e = some c') :
    c'.Sound w ∧ (c'.Matches s ∨
      ∃ e' s', s.isQueued e' = true ∧ s.step e' = some s' ∧ c'.Matches s') := by
  obtain ⟨hcalls, q, pc, flow, hmove, hflow, rfl⟩ := queueStep_cases h
  have htry := hs.tryStep hm ht hcalls hmove hprovided.1
  rcases hflow with ⟨rfl, hreturns⟩ | ⟨hne, rfl⟩
  · obtain ⟨hplace, rfl, rfl⟩ := move_ret hmove
    exact returns_matches hw hs hm ht htry hmove hplace hreturns
  · cases e with
    | enqueue item =>
      obtain ⟨hout, rfl, hseen⟩ := move_enqueue hmove
      have hin : c.flow.InCall caller (pc.seen c.queue.shared) := by
        rw [hseen]
        exact FrameFlow.inCall_of_enqueue hcalls
      exact (start_matches hw hs hm htry hmove hout hin (.inl ⟨item, hseen⟩)).imp_right .inl
    | dequeue blocking =>
      obtain ⟨hout, rfl, at₁, rfl⟩ := move_dequeue hmove rfl
      have hat : at₁ = blocking := by
        rw [hout] at hmove
        cases hmove
        rfl
      have hin : c.flow.InCall caller (.dequeuing !at₁) := by
        rw [hat]
        exact FrameFlow.inCall_of_dequeue hcalls
      exact (start_matches hw hs hm htry hmove hout hin (.inr ⟨_, rfl⟩)).imp_right .inl
    | next => exact within_matches hw hs hm ht htry hmove (.inl rfl) hprovided.2
    | refuse => exact within_matches hw hs hm ht htry hmove (.inr (.inl rfl)) hprovided.2
    | fail => exact within_matches hw hs hm ht htry hmove (.inr (.inr rfl)) hprovided.2
    | ret => exact absurd rfl hne

/-! ## Steps outside the queue -/

omit [Fintype τ] in
/-- **A step outside the queue.** -/
lemma flowStep_matches {e : FlowEvent} (hs : c.Sound w) (hm : c.Matches s)
    (ht : frameFlow.Reachable s) (h : c.step w (.flow e) = some c') :
    c'.Sound w ∧ ∃ s', s.step e = some s' ∧ c'.Matches s' := by
  simp only [step] at h
  split_ifs at h with hguard
  obtain ⟨hqueued, hplace⟩ := hguard
  obtain ⟨flow, hstep, rfl⟩ := Option.map_eq_some_iff.mp h
  obtain ⟨lock, queue, drained, rfl, hd⟩ := hm
  have hout : ∀ caller ∈ e.caller, c.seen caller = .out := fun caller hcaller =>
    QueuePc.seen_eq_out.mpr (hplace caller hcaller)
  obtain ⟨lock', queue', drained', hahead, hd'⟩ :=
    FrameFlow.ahead_step hs.inCall hs.unused ht hd hqueued hout hstep
  have hunused := FrameFlow.step_frameProcessQueue hstep hqueued hs.unused
  by_cases hinit : ∃ size, e = .usbtvInitialize size
  · -- a new queue, in which no thread is in a call, and none was in the old one
    obtain ⟨size, rfl⟩ := hinit
    obtain ⟨hgone, -⟩ := FrameFlow.usbtvInitialize_cases hstep
    obtain ⟨hquiet, -, hentries, hnil⟩ :=
      FrameFlow.quiet_of_disposed hs.inCall ht hd (hout .handler rfl) hgone
    have hseen : c.seen = fun _ => .out := funext hquiet
    rw [hentries, hnil] at hd'
    rw [hseen] at hahead hd'
    refine ⟨⟨.init ⟨rfl, fun _ => rfl⟩, hs.injective, fun _ _ => rfl,
      fun _ => FrameFlow.inCall_out, hunused⟩, _, ?_, lock', queue', drained', rfl, hd'⟩
    rw [hseen]
    exact hahead
  · have hqueue : c.queueAfter e = c.queue := by
      cases e with
      | usbtvInitialize size => exact absurd ⟨size, rfl⟩ hinit
      | _ => rfl
    rw [hqueue]
    exact ⟨⟨hs.reachable, hs.injective, hs.rest,
      FrameFlow.inCall_step hs.inCall ht hqueued hout (fun size he => hinit ⟨size, he⟩) hstep,
      hunused⟩, _, hahead, lock', queue', drained', rfl, hd'⟩

omit [DecidableEq τ] [Fintype τ] in
/-- A new number does not make two threads alike. -/
lemma injective_update {f : Caller → τ} {t : τ} (hf : Function.Injective f)
    (hnew : ∀ other, f other ≠ t) : Function.Injective (Function.update f caller t) := by
  intro a b hab
  by_cases ha : a = caller
  · by_cases hb : b = caller
    · rw [ha, hb]
    · rw [ha, Function.update_self, Function.update_of_ne hb] at hab
      exact absurd hab.symm (hnew b)
  · by_cases hb : b = caller
    · rw [hb, Function.update_self, Function.update_of_ne ha] at hab
      exact absurd hab (hnew a)
    · rw [Function.update_of_ne ha, Function.update_of_ne hb] at hab
      exact hf hab

omit [Fintype τ] in
/-- A thread that is yet to be made gets a number. -/
lemma newThread_matches {t : τ} (hs : c.Sound w) (hm : c.Matches s)
    (h : c.step w (.newThread caller t) = some c') : c'.Sound w ∧ c'.Matches s := by
  simp only [step] at h
  split_ifs at h with hguard
  obtain ⟨habsent, hnew⟩ := hguard
  obtain rfl := Option.some_inj.mp h
  have hout : c.place caller = .out := by
    refine (QueuePc.seen_eq_out (q := c.queue.shared)).mp ?_
    cases caller with
    | handler =>
      have hcall : c.flow.call = .idle := by simpa [absent] using habsent
      exact (hs.inCall .handler).handler_out (by rw [hcall]; exact nofun)
        (by rw [hcall]; exact nofun)
    | reap =>
      have hreap : c.flow.usb.reap = .absent := by simpa [absent] using habsent
      exact (hs.inCall .reap).reap_out (by rw [hreap]; exact nofun)
    | process =>
      have hprocess : c.flow.process = .absent := by simpa [absent] using habsent
      exact (hs.inCall .process).process_out (by rw [hprocess]; exact nofun)
  have hseen : ({ c with thread := Function.update c.thread caller t } : QueuedFlow τ).seen =
      c.seen := by
    funext other
    show (c.queue.place (Function.update c.thread caller t other)).seen c.queue.shared = _
    by_cases hother : other = caller
    · rw [hother, Function.update_self, hs.rest t hnew]
      exact (QueuePc.seen_eq_out.mpr hout).symm
    · rw [Function.update_of_ne hother]
      rfl
  refine ⟨⟨hs.reachable, ?_, fun u hu => ?_, ?_, hs.unused⟩, ?_⟩
  · exact injective_update hs.injective hnew
  · by_cases hold : u = c.thread caller
    · rw [hold]
      exact hout
    · refine hs.rest u fun other hother => ?_
      by_cases hcaller : other = caller
      · rw [hcaller] at hother
        exact hold hother.symm
      · refine hu other ?_
        show Function.update c.thread caller t other = u
        rw [Function.update_of_ne hcaller]
        exact hother
  · rw [hseen]
    exact hs.inCall
  · unfold Matches
    rw [hseen]
    exact hm

/-! ## Runs -/

/-- Every state of the driver with its queue is matched by one that is reached under a condition, if
the steps outside the queue meet it, and there is none on the others. -/
lemma exists_matches_under {C : QueuedFlow τ → QueuedEvent τ → Prop}
    {D : FrameFlow → FlowEvent → Prop} (hw : 0 < w) (hprovided : ∀ c e, C c e → c.Provided w e)
    (hflow : ∀ c s e, c.Matches s → C c (.flow e) → D s e)
    (hqueue : ∀ s e, s.isQueued e = true → D s e) (h : (queuedFlow τ w).ReachableUnder C c) :
    ∃ s, frameFlow.ReachableUnder D s ∧ c.Sound w ∧ c.Matches s := by
  refine StepSystem.ReachableUnder.simulation (R := fun c s => c.Sound w ∧ c.Matches s)
    (fun c hinit => ?_) (fun c e c' s _ ht hrel hC hstep => ?_) h
  · obtain ⟨hflow, hqueue, hinjective⟩ := hinit
    have hseen : c.seen = fun _ => .out := by
      funext caller
      rw [seen, place, hqueue]
      rfl
    refine ⟨.new, rfl, ⟨.init ?_, hinjective, fun t _ => ?_, fun caller => ?_, ?_⟩, ?_⟩
    · rw [hqueue]
      exact ⟨rfl, fun _ => rfl⟩
    · rw [hqueue]
    · rw [hseen]
      exact FrameFlow.inCall_out
    · rw [hflow]
      rfl
    · have hentries : c.entries = [] := by
        rw [entries, hqueue]
        rfl
      rw [Matches, hseen, hentries, hflow]
      exact ⟨FrameFlow.new.lock, [], [], rfl, FrameFlow.drains_self _ _⟩
  · obtain ⟨hs, hm⟩ := hrel
    cases e with
    | flow e =>
      obtain ⟨hs', s', hstep', hm'⟩ := flowStep_matches hs hm ht.reachable hstep
      exact .inr ⟨e, s', hflow c s e hm hC, hstep', hs', hm'⟩
    | newThread caller t => exact .inl (newThread_matches hs hm hstep)
    | queue caller e =>
      obtain ⟨hs', hm' | ⟨e', s', hqueued, hstep', hm'⟩⟩ :=
        queueStep_matches hw hs hm ht.reachable (hprovided c _ hC) hstep
      · exact .inl ⟨hs', hm'⟩
      · exact .inr ⟨e', s', hqueue s e' hqueued, hstep', hs', hm'⟩

/-- What a run keeps, and what matches its states. -/
lemma sound_of_reachable (hw : 0 < w) (h : (queuedFlow τ w).ReachableUnder (Provided w) c) :
    ∃ s, frameFlow.Reachable s ∧ c.Sound w ∧ c.Matches s :=
  exists_matches_under hw (fun _ _ => id) (fun _ _ _ _ _ => trivial) (fun _ _ _ => trivial) h

end QueuedFlow

end UsbTv
