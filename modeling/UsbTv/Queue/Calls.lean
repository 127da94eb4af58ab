import UsbTv.Queue.Consumer

set_option relaxedAutoImplicit false
set_option autoImplicit false

/-!
# The calls of the queue

What a program has to know that uses the queue: how a call starts and how it returns, what its
callers see in between, and that a `try_dequeue` which no other thread interferes with fails for no
other reason than that the queue is empty.

## Main definitions

* `UsbTv.Within` — what is seen of a thread that is within a call.
* `UsbTv.QueuePc.tries` — the thread is in `try_dequeue` without a permit, or has failed.
* `UsbTv.BlockingConcurrentQueue.TryStep` — one consumer at a time, and no other thread moves
  while one tries.

## Main results

* `UsbTv.BlockingConcurrentQueue.within_of_move` — what is seen of a thread that is within a call.
* `UsbTv.BlockingConcurrentQueue.entries_eq_nil_of_failed` — why `try_dequeue` fails.
-/

namespace UsbTv

namespace QueuePc

variable {τ α : Type*} {q : BlockingConcurrentQueue τ α} {pc : QueuePc τ α}

/-- A thread is seen in no call if it is in none. -/
lemma seen_eq_out : pc.seen q = .out ↔ pc = .out := by
  constructor
  · intro h
    cases pc with
    | out => rfl
    | best ptr at₁ => cases at₁ <;> cases h
    | other best ptrs ptr at₁ => cases at₁ <;> cases h
    | _ => cases h
  · rintro rfl
    rfl

/-- A thread that consumes is seen in `wait_dequeue` or `try_dequeue`. -/
lemma seen_of_consumes (h : pc.consumes = true) :
    (∃ mayFail, pc.seen q = .dequeuing mayFail) ∨ ∃ result, pc.seen q = .dequeued result := by
  cases pc with
  | out | addProducer _ | store _ | signal _ | enqueued _ | done _ => cases h
  | acquire blocking at₁ => exact .inl ⟨_, rfl⟩
  | load | scan _ _ | scanHead _ _ _ _ | reload _ | others _ _ => exact .inl ⟨_, rfl⟩
  | best ptr at₁ =>
    cases at₁ with
    | claimed index => exact .inr ⟨_, rfl⟩
    | _ => exact .inl ⟨_, rfl⟩
  | other best ptrs ptr at₁ =>
    cases at₁ with
    | claimed index => exact .inr ⟨_, rfl⟩
    | _ => exact .inl ⟨_, rfl⟩

/-- A thread is seen to be refused its element if it is. -/
lemma eq_enqueued_of_seen (h : pc.seen q = .enqueued false) : pc = .enqueued false := by
  cases pc with
  | enqueued success =>
    cases success with
    | false => rfl
    | true => cases h
  | best ptr at₁ => cases at₁ <;> cases h
  | other best ptrs ptr at₁ => cases at₁ <;> cases h
  | _ => cases h

/-- The thread is in `try_dequeue` and has no permit, or has failed. -/
def tries : QueuePc τ α → Bool
  | acquire false _ | done none => true
  | _ => false

/-- A thread that may fail is seen so. -/
lemma seen_of_tries (h : pc.tries = true) :
    pc.seen q = .dequeuing true ∨ pc.seen q = .dequeued none := by
  cases pc with
  | acquire blocking at₁ =>
    cases blocking with
    | true => cases h
    | false => exact .inl rfl
  | done result =>
    cases result with
    | none => exact .inr rfl
    | some item => cases h
  | _ => cases h

end QueuePc

/-- What is seen of a thread that goes on within a call: the entries and where the thread stands,
before and after. -/
inductive Within {τ α : Type*} (t : τ) (entries : List (τ × α)) :
    CallPc α → List (τ × α) → CallPc α → Prop
  | stay (pc : CallPc α) : Within t entries pc entries pc
  | append (item : α) : Within t entries (.enqueuing item) (entries ++ [(t, item)]) (.enqueued true)
  | refuse (item : α) : Within t entries (.enqueuing item) entries (.enqueued false)
  | commit : Within t entries (.dequeuing true) entries (.dequeuing false)
  | take (k : ℕ) (x : τ × α) (h : entries[k]? = some x) :
    Within t entries (.dequeuing false) (entries.eraseIdx k) (.dequeued (some x.2))
  | fail : Within t entries (.dequeuing true) entries (.dequeued none)

/-- The places of `tryWait`. -/
lemma SemaphorePc.During.tryWait_cases {pc : SemaphorePc} (h : pc.During (.call .tryWait)) :
    pc = .out ∨ pc = .tryLoad .tryWait ∨ (∃ oldCount, pc = .tryExchange .tryWait oldCount) ∨
      ∃ success, pc = .done success := by
  cases pc with
  | out => exact .inl rfl
  | tryLoad c =>
    cases h
    exact .inr (.inl rfl)
  | tryExchange c oldCount =>
    cases h
    exact .inr (.inr (.inl ⟨_, rfl⟩))
  | done success => exact .inr (.inr (.inr ⟨_, rfl⟩))
  | spin timed left => cases timed <;> cases h
  | spinExchange timed left oldCount => cases timed <;> cases h
  | fetchSub timed => cases timed <;> cases h
  | post more =>
    obtain ⟨count, hcall⟩ := h
    cases hcall
  | posted =>
    obtain ⟨count, hcall⟩ := h
    cases hcall
  | semaWait | semaTimedWait | reload | readjust _ => cases h

namespace LightweightSemaphore

variable {s s' : LightweightSemaphore} {pc pc' : SemaphorePc} {e : SemaphoreEvent}

/-- What a thread in `tryWait` knows of the count, while no other thread moves: it is the one that
was loaded, and there is no permit once the thread has failed. -/
def Knows (s : LightweightSemaphore) : SemaphorePc → Prop
  | .tryExchange _ oldCount => oldCount = s.mCount
  | .done false => s.mCount ≤ 0
  | _ => True

/-- A thread in `tryWait` keeps to what it knows. -/
lemma knows_of_move (h : s.move pc e = some (s', pc')) (hpc : pc.During (.call .tryWait))
    (he : e = .call .tryWait ∨ e = .next ∨ e = .fail) (hknows : s.Knows pc) : s'.Knows pc' := by
  rcases hpc.tryWait_cases with rfl | rfl | ⟨oldCount, rfl⟩ | ⟨success, rfl⟩
  · rcases he with rfl | rfl | rfl <;> cases h
    trivial
  · rcases he with rfl | rfl | rfl <;> cases h
    rfl
  · have hcount : oldCount = s.mCount := hknows
    rcases he with rfl | rfl | rfl
    · cases h
    · -- the exchange fails for want of a permit only
      simp only [move] at h
      split_ifs at h with hpos
      · cases h
        trivial
      · cases h
        rfl
      · cases h
        show s.mCount ≤ 0
        omega
    · simp only [move] at h
      split_ifs at h
      cases h
      rfl
  · rcases he with rfl | rfl | rfl <;> cases h

end LightweightSemaphore

namespace BlockingConcurrentQueue

variable {τ α : Type*} [DecidableEq τ] {w : ℕ} {t : τ} {q q' : BlockingConcurrentQueue τ α}
  {pc pc' : QueuePc τ α} {e : QueueEvent α}
  {c : Crew (BlockingConcurrentQueue τ α) (QueuePc τ α) τ}

/-! ## Calls and returns -/

/-- A call returns. -/
lemma move_ret (h : q.move w t pc .ret = some (q', pc')) :
    ((∃ success, pc = .enqueued success) ∨ ∃ result, pc = .done result) ∧ q' = q ∧ pc' = .out := by
  generalize he : QueueEvent.ret = e at h
  unfold move at h
  split at h
  all_goals try (cases he; done)
  · cases h
    exact ⟨.inl ⟨_, rfl⟩, rfl, rfl⟩
  · cases h
    exact ⟨.inr ⟨_, rfl⟩, rfl, rfl⟩
  · cases h

/-- A thread that goes on is in a call. -/
lemma ne_out_of_move (h : q.move w t pc e = some (q', pc'))
    (he : e = .next ∨ e = .refuse ∨ e = .fail) : pc ≠ .out := by
  rintro rfl
  rcases he with rfl | rfl | rfl <;> cases h

/-- A thread leaves a call by its return only. -/
lemma eq_ret_of_move (h : q.move w t pc e = some (q', .out)) : e = .ret := by
  have hbest : ∀ scan : Scan τ, QueuePc.scanned scan ≠ (.out : QueuePc τ α) := by
    intro scan
    rcases QueuePc.scanned_cases (α := α) scan with ⟨best, hscanned⟩ | hscanned <;>
      rw [hscanned] <;> exact nofun
  unfold move at h
  split at h
  all_goals first | rfl | cases h | exact (snd_of_map_eq_some h).elim fun _ => nofun | skip
  · obtain ⟨-, hout⟩ := Prod.mk.inj (Option.some_inj.mp h)
    split_ifs at hout
  · -- the loop that looks for the best producer
    rename_i ptrs scan
    split at h
    · split_ifs at h
      · cases h
      · exact absurd (Prod.mk.inj (Option.some_inj.mp h)).2 (hbest scan)
    · exact absurd (Prod.mk.inj (Option.some_inj.mp h)).2 (hbest scan)
  · obtain ⟨-, hout⟩ := Prod.mk.inj (Option.some_inj.mp h)
    split_ifs at hout

/-- An element is refused for want of memory only. -/
lemma eq_refuse_of_move (h : q.move w t pc e = some (q', .enqueued false)) : e = .refuse := by
  have hbest : ∀ scan : Scan τ, QueuePc.scanned scan ≠ (.enqueued false : QueuePc τ α) := by
    intro scan
    rcases QueuePc.scanned_cases (α := α) scan with ⟨best, hscanned⟩ | hscanned <;>
      rw [hscanned] <;> exact nofun
  unfold move at h
  split at h
  all_goals first | rfl | cases h | exact (snd_of_map_eq_some h).elim fun _ => nofun | skip
  · obtain ⟨-, hout⟩ := Prod.mk.inj (Option.some_inj.mp h)
    split_ifs at hout
  · -- the loop that looks for the best producer
    rename_i ptrs scan
    split at h
    · split_ifs at h
      · cases h
      · exact absurd (Prod.mk.inj (Option.some_inj.mp h)).2 (hbest scan)
    · exact absurd (Prod.mk.inj (Option.some_inj.mp h)).2 (hbest scan)
  · obtain ⟨-, hout⟩ := Prod.mk.inj (Option.some_inj.mp h)
    split_ifs at hout

omit [DecidableEq τ] in
/-- The first of the entries that satisfy a test is at the place where it is erased. -/
lemma eraseP_of_find? {l : List (τ × α)} {f : τ × α → Bool} {x : τ × α} (h : l.find? f = some x) :
    l[l.findIdx f]? = some x ∧ l.eraseP f = l.eraseIdx (l.findIdx f) := by
  have hmem : ∃ y, y ∈ l ∧ f y = true := ⟨x, List.mem_of_find?_eq_some h, List.find?_some h⟩
  refine ⟨List.find?_eq_getElem?_findIdx.symm.trans h, ?_⟩
  rw [List.eraseP_eq_eraseIdx, List.findIdx?_eq_some_of_exists hmem]

/-- A move of the callers that neither starts a call nor ends one. -/
lemma within_of_callMove {entries entries' : List (τ × α)} {pc pc' : CallPc α} {e : CallEvent τ α}
    (h : callMove t entries pc e = some (entries', pc')) (hpc : pc ≠ .out) (hpc' : pc' ≠ .out) :
    Within t entries pc entries' pc' := by
  unfold callMove at h
  split at h
  · exact absurd rfl hpc
  · cases h
    exact .append _
  · cases h
    exact .refuse _
  · cases h
    exact absurd rfl hpc'
  · exact absurd rfl hpc
  · cases h
    exact .commit
  · -- the oldest entry of a producer
    obtain ⟨x, hfind, heq⟩ := Option.map_eq_some_iff.mp h
    obtain ⟨rfl, rfl⟩ := Prod.mk.inj heq
    obtain ⟨hget, herase⟩ := eraseP_of_find? hfind
    rw [herase]
    exact .take _ x hget
  · cases h
    exact .fail
  · cases h
    exact absurd rfl hpc'
  · cases h

/-- **What is seen of a thread that goes on within a call.** -/
lemma within_of_move [Fintype τ] (hw : 0 < w)
    (h : (queueCrew τ α w).ReachableUnder (ComparesStep w) c)
    (hmove : c.shared.move w t (c.place t) e = some (q, pc))
    (he : e = .next ∨ e = .refuse ∨ e = .fail) :
    Within t c.shared.entries ((c.place t).seen c.shared) q.entries (pc.seen q) := by
  have hin : (c.place t).seen c.shared ≠ .out := fun hout =>
    ne_out_of_move hmove he (QueuePc.seen_eq_out.mp hout)
  have hin' : pc.seen q ≠ .out := by
    intro hout
    rw [QueuePc.seen_eq_out.mp hout] at hmove
    obtain rfl := eq_ret_of_move hmove
    rcases he with he | he | he <;> cases he
  rcases seen_of_move hmove (place_ok h t) (recorded hw h) fun p hp => head_lt_tail hw h hp with
    ⟨hentries, hseen⟩ | ⟨e', hcall⟩
  · rw [hentries, hseen]
    exact .stay _
  · exact within_of_callMove hcall hin hin'

/-! ## Why `try_dequeue` fails -/

/-- One consumer at a time, and while a thread is in `try_dequeue` without a permit, or has failed,
no other thread moves. -/
def TryStep (w : ℕ) (c : Crew (BlockingConcurrentQueue τ α) (QueuePc τ α) τ)
    (e : τ × QueueEvent α) : Prop :=
  LoneStep w c e ∧ ∀ t ≠ e.1, (c.place t).tries = false

instance [Fintype τ] (w : ℕ) (c : Crew (BlockingConcurrentQueue τ α) (QueuePc τ α) τ)
    (e : τ × QueueEvent α) : Decidable (TryStep w c e) :=
  inferInstanceAs (Decidable (_ ∧ ∀ t, t ≠ e.1 → (c.place t).tries = false))

/-- What a thread that tries knows of the count. -/
def Knows (q : BlockingConcurrentQueue τ α) : QueuePc τ α → Prop
  | .acquire false pc => q.sema.Knows pc
  | .done none => q.sema.mCount ≤ 0
  | _ => True

omit [DecidableEq τ] in
/-- A thread that does not try knows nothing. -/
lemma knows_of_not_tries (h : pc.tries = false) : q.Knows pc := by
  cases pc with
  | acquire blocking at₁ =>
    cases blocking with
    | true => trivial
    | false => cases h
  | done result =>
    cases result with
    | none => cases h
    | some item => trivial
  | _ => trivial

/-- A thread that tries keeps to what it knows. -/
lemma knows_of_move (h : q.move w t pc e = some (q', pc')) (hok : pc.Ok) (hknows : q.Knows pc) :
    q'.Knows pc' := by
  have hsema : ∀ {blocking : Bool} {e : SemaphoreEvent} {at₁ : SemaphorePc},
      at₁.During (.call (if blocking then .wait else .tryWait)) →
      (e = .call (if blocking then .wait else .tryWait) ∨ e = .next ∨ e = .fail) →
      q.Knows (.acquire blocking at₁) →
      ((q.sema.move at₁ e).map fun r =>
        (({ q with sema := r.1 } : BlockingConcurrentQueue τ α), QueuePc.acquire blocking r.2)) =
        some (q', pc') → q'.Knows pc' := by
    intro blocking e at₁ hat he hknows h
    obtain ⟨⟨s, at₂⟩, hmove, heq⟩ := Option.map_eq_some_iff.mp h
    obtain ⟨rfl, rfl⟩ := Prod.mk.inj heq
    cases blocking with
    | true => trivial
    | false => exact LightweightSemaphore.knows_of_move hmove hat he hknows
  have hrest : pc'.tries = false → q'.Knows pc' := knows_of_not_tries
  unfold move at h
  split at h
  · cases h
    exact hrest (by split_ifs <;> rfl)
  · rename_i blocking
    cases h
    cases blocking <;> trivial
  · cases h
    trivial
  · cases h
    trivial
  · cases h
    trivial
  · cases h
    trivial
  · exact (snd_of_map_eq_some h).elim fun r hr => hrest (hr ▸ rfl)
  · cases h
    trivial
  · exact (snd_of_map_eq_some h).elim fun r hr => hrest (hr ▸ rfl)
  · cases h
    trivial
  · exact hsema (show SemaphorePc.out.During _ from trivial) (.inl rfl) hknows h
  · cases h
    trivial
  · -- the call fails
    rename_i blocking
    cases h
    cases blocking with
    | true =>
      obtain ⟨c, hcall, hdone⟩ := hok
      cases hcall
      cases hdone rfl
    | false => exact hknows
  · exact hsema hok (.inr (.inl rfl)) hknows h
  · exact hsema hok (.inr (.inr rfl)) hknows h
  · cases h
    trivial
  · -- the loop that looks for the best producer
    rename_i ptrs scan
    have hscan : (QueuePc.scanned scan : QueuePc τ α).tries = false := by
      rcases QueuePc.scanned_cases (α := α) scan with ⟨best, hscanned⟩ | hscanned <;>
        rw [hscanned] <;> rfl
    split at h
    · split_ifs at h
      · cases h
        trivial
      · cases h
        exact hrest hscan
    · cases h
      exact hrest hscan
  · cases h
    trivial
  · exact (snd_of_map_eq_some h).elim fun r hr => hrest (hr ▸ rfl)
  · cases h
    trivial
  · exact (snd_of_map_eq_some h).elim fun r hr => hrest (hr ▸ rfl)
  · cases h
    trivial
  · cases h
    trivial
  · cases h
    exact hrest (by split_ifs <;> rfl)
  · exact (snd_of_map_eq_some h).elim fun r hr => hrest (hr ▸ rfl)
  · cases h
    trivial
  · exact (snd_of_map_eq_some h).elim fun r hr => hrest (hr ▸ rfl)
  · cases h
    trivial
  · cases h

/-- What a thread that tries knows is true in every run. -/
lemma knows_of_reachable (h : (queueCrew τ α w).ReachableUnder (TryStep w) c) (t : τ) :
    c.shared.Knows (c.place t) := by
  refine Crew.places (J := fun q _ pc => q.Knows pc) (fun c hinit t => ?_)
    (fun c t e q pc hreach _ hknows hmove => ?_)
    (fun c t e q pc hreach htry hknows hmove u hu => ?_) h t
  · obtain ⟨-, hout⟩ := hinit
    rw [hout t]
    trivial
  · exact knows_of_move hmove (place_ok hreach t) (hknows t)
  · exact knows_of_not_tries (htry.2 u hu)

/-- What is reached while no thread interferes with a `try_dequeue` is reached with one consumer at
a time. -/
lemma lone_of_try (h : (queueCrew τ α w).ReachableUnder (TryStep w) c) :
    (queueCrew τ α w).ReachableUnder (LoneStep w) c :=
  h.mono fun _ _ _ _ htry _ => htry.1

/-- **Why `try_dequeue` fails**: a thread that has failed while no other was in a call leaves an
empty queue behind. -/
lemma entries_eq_nil_of_failed [Fintype τ] (hw : 0 < w)
    (h : (queueCrew τ α w).ReachableUnder (TryStep w) c)
    (ht : c.place t = .done none) (hout : ∀ u ≠ t, c.place u = .out) : c.shared.entries = [] := by
  have hcount : c.shared.sema.mCount ≤ 0 := by
    have hknows := knows_of_reachable h t
    rwa [ht] at hknows
  have hrest : ∀ u, c.place u = .out ∨ ∃ result, c.place u = .done result := by
    intro u
    by_cases hu : u = t
    · rw [hu]
      exact .inr ⟨none, ht⟩
    · exact .inl (hout u hu)
  have heq := mCount_of_rest hw (lone_of_reachable hw (lone_of_try h)).reachable hrest
  exact List.length_eq_zero_iff.mp (by omega)

end BlockingConcurrentQueue

end UsbTv
