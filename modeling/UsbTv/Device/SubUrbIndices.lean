import UsbTv.Device.BulkPool

set_option relaxedAutoImplicit false
set_option autoImplicit false

/-!
# The indices of the sub-URBs

Which indices the calls on bulk URBs use on an array of sub-URBs. Two of the seven loops over such
an array run while `i <= subUrbCount`: the cleanup of `submitBulkUrb`, and the loop of `killUrb`.

## Main definitions

* `UsbTv.BulkDevice.indices` — the indices that a loop has used.
* `UsbTv.BulkDevice.dueLoops` — the loops that a call owes to the sub-URBs.
* `UsbTv.BulkDevice.IndexSafe` — what is asked of a call.
* `UsbTv.BulkDevice.Bounded` — the calls that do not run into one of the two loops.

## Main results

* `UsbTv.BulkDevice.indexSafe_iff` — these are the calls that stay in the array.
-/

namespace UsbTv

namespace BulkDevice

variable {answer : ℕ → ℤ} {fresh : ℕ → ℕ → ℕ} {scatterGather : Bool}

/-- The number of sub-URBs that a URB has recorded. -/
def subUrbCountOf (d : BulkDevice) (urb : ℕ) : ℕ :=
  match (d.urbs urb).usercontext with
  | .urb .. => 0
  | .continuous subUrbCount _ => subUrbCount

/-- The indices that a loop has used on the sub-URBs of a URB. -/
def indices (visits : List Visit) (loop : SubUrbLoop) (urb : ℕ) : List ℕ :=
  (visits.filter fun v => v.loop = loop ∧ v.urb = urb).map (·.index)

/-- The loops that have to get to all sub-URBs of a URB, in a call that returns `success`. -/
def dueLoops (d : BulkDevice) (call : BulkCall) (success : Bool) : List (SubUrbLoop × ℕ) :=
  match call with
  | .submitBulkUrb _ bufferSize =>
    if bufferSize ≤ maxUsbfsBulkSize ∨ d.scatterGatherEnabled = true then []
    else if success = true then [(.build, d.allocated), (.submit, d.allocated)]
    else [(.build, d.allocated), (.submit, d.allocated), (.cleanUp, d.allocated),
      (.delete, d.allocated)]
  | .killUrb urb =>
    if (d.urbs urb).flags &&& usbdevfsUrbBulkContinuation = 0 then [] else [(.kill, urb)]
  | .resubmitUrb urb =>
    if (d.urbs urb).flags &&& usbdevfsUrbBulkContinuation = 0 then [] else [(.resubmit, urb)]
  | .discardBulkUrbs =>
    (d.bulkUrbPool.filter fun urb =>
      (d.urbs urb).flags &&& usbdevfsUrbBulkContinuation ≠ 0).map fun urb => (.discard, urb)
  | .deleteContinuousBulkUrb urb => [(.delete, urb)]

/-- The new visits stay in their arrays, and the loops that are due get to every index once. -/
structure VisitsSafe (d' : BulkDevice) (visits : List Visit) (due : List (SubUrbLoop × ℕ)) :
    Prop where
  lt : ∀ v ∈ visits, v.index < d'.subUrbCountOf v.urb
  once : ∀ p ∈ due, (indices visits p.1 p.2).Perm (List.range (d'.subUrbCountOf p.2))

/-- What is asked of a call: it returns, all indices it uses on sub-URBs are in the array, and its
loops get to every sub-URB once. -/
def IndexSafe (answer : ℕ → ℤ) (fresh : ℕ → ℕ → ℕ) (d : BulkDevice) (call : BulkCall) : Prop :=
  ∃ success d' visits, d.perform answer fresh call = some (success, d') ∧
    d'.visits = d.visits ++ visits ∧ VisitsSafe d' visits (d.dueLoops call success)

/-- The calls in question: a continuous URB that is submitted has at most 255 sub-URBs, and the
others are in the pool. -/
def InRange (d : BulkDevice) : BulkCall → Prop
  | .submitBulkUrb _ bufferSize =>
    bufferSize ≤ maxUsbfsBulkSize ∨ d.scatterGatherEnabled = true ∨ chunkCount bufferSize ≤ 255
  | .killUrb urb => urb ∈ d.bulkUrbPool
  | .resubmitUrb urb => urb ∈ d.bulkUrbPool
  | .discardBulkUrbs => True
  | .deleteContinuousBulkUrb urb =>
    urb ∈ d.bulkUrbPool ∧ (d.urbs urb).flags &&& usbdevfsUrbBulkContinuation ≠ 0

/-- The calls that do not run into a loop that goes too far: `submitBulkUrb` has nothing to clean
up, and `killUrb` is called for a simple URB. -/
def Bounded (answer : ℕ → ℤ) (d : BulkDevice) : BulkCall → Prop
  | .submitBulkUrb _ bufferSize =>
    bufferSize ≤ maxUsbfsBulkSize ∨ d.scatterGatherEnabled = true ∨
      ∀ k < chunkCount bufferSize, 0 ≤ answer (d.log.length + k)
  | .killUrb urb => (d.urbs urb).flags &&& usbdevfsUrbBulkContinuation = 0
  | _ => True

/-! ## Visits -/

lemma Continuous.subUrbCountOf {d : BulkDevice} {urb n : ℕ} {subUrbs : ℕ → ℕ}
    (h : d.Continuous urb n subUrbs) : d.subUrbCountOf urb = n := by
  unfold BulkDevice.subUrbCountOf
  rw [h.usercontext]

lemma Touched.subUrbCountOf {d d' : BulkDevice} {requests : List Ioctl} {blocks : List Block}
    {visits : List Visit} (h : Touched d d' requests blocks visits) (urb : ℕ) :
    d'.subUrbCountOf urb = d.subUrbCountOf urb := by
  unfold BulkDevice.subUrbCountOf
  rw [h.usercontext]

lemma indices_append (visits visits' : List Visit) (loop : SubUrbLoop) (urb : ℕ) :
    indices (visits ++ visits') loop urb = indices visits loop urb ++ indices visits' loop urb := by
  simp [indices]

/-- The visits of a loop are its own. -/
lemma indices_range (n : ℕ) (loop loop' : SubUrbLoop) (urb urb' : ℕ) :
    indices ((List.range n).map fun i => ⟨loop, urb, i⟩) loop' urb' =
      if loop = loop' ∧ urb = urb' then List.range n else [] := by
  unfold indices
  rw [List.filter_map, List.map_map]
  split_ifs with h
  · rw [List.filter_eq_self.mpr (by simpa using fun _ _ => h)]
    exact List.map_id _
  · rw [List.filter_eq_nil_iff.mpr (by simpa using fun _ _ => not_and.mp h), List.map_nil]

/-- A call without visits. -/
lemma visitsSafe_nil (d : BulkDevice) : VisitsSafe d [] [] := ⟨by simp, by simp⟩

/-- One loop over all sub-URBs. -/
lemma visitsSafe_range {d : BulkDevice} {urb n : ℕ} (h : d.subUrbCountOf urb = n)
    (loop : SubUrbLoop) :
    VisitsSafe d ((List.range n).map fun i => ⟨loop, urb, i⟩) [(loop, urb)] := by
  refine ⟨fun v hv => ?_, fun p hp => ?_⟩
  · obtain ⟨i, hi, rfl⟩ := List.mem_map.mp hv
    rw [h]
    exact List.mem_range.mp hi
  · obtain rfl := List.mem_singleton.mp hp
    rw [indices_range, if_pos ⟨rfl, rfl⟩, h]

/-- Two different loops over all sub-URBs. -/
lemma visitsSafe_two {d : BulkDevice} {urb n : ℕ} (h : d.subUrbCountOf urb = n)
    {loop loop' : SubUrbLoop} (hne : loop ≠ loop') :
    VisitsSafe d (((List.range n).map fun i => ⟨loop, urb, i⟩) ++
      (List.range n).map fun i => ⟨loop', urb, i⟩) [(loop, urb), (loop', urb)] := by
  refine ⟨fun v hv => ?_, fun p hp => ?_⟩
  · rcases List.mem_append.mp hv with hv | hv
    · exact (visitsSafe_range h loop).lt v hv
    · exact (visitsSafe_range h loop').lt v hv
  · rw [indices_append, indices_range, indices_range]
    rcases List.mem_cons.mp hp with rfl | hp
    · rw [if_pos ⟨rfl, rfl⟩, if_neg fun h => hne h.1.symm, List.append_nil, h]
    · obtain rfl := List.mem_singleton.mp hp
      rw [if_neg fun h => hne h.1, if_pos ⟨rfl, rfl⟩, List.nil_append, h]

/-- A visit of what lies behind the array. -/
lemma not_visitsSafe {d : BulkDevice} {urb n : ℕ} (h : d.subUrbCountOf urb = n)
    {loop : SubUrbLoop} {visits : List Visit} (hmem : ⟨loop, urb, n⟩ ∈ visits)
    (due : List (SubUrbLoop × ℕ)) : ¬ VisitsSafe d visits due := by
  intro hsafe
  have hlt := hsafe.lt _ hmem
  rw [h] at hlt
  exact lt_irrefl n hlt

/-- A loop while `i <= subUrbCount` visits what lies behind the array. -/
lemma last_mem (loop : SubUrbLoop) (urb n : ℕ) :
    ⟨loop, urb, n⟩ ∈ (List.range (n + 1)).map fun i => (⟨loop, urb, i⟩ : Visit) :=
  List.mem_map_of_mem (List.mem_range.mpr (Nat.lt_succ_self n))

/-- The result of a call decides whether it is safe. -/
lemma indexSafe_iff_visitsSafe {d d' : BulkDevice} {call : BulkCall} {success : Bool}
    {visits : List Visit} (h : d.perform answer fresh call = some (success, d'))
    (hvisits : d'.visits = d.visits ++ visits) :
    IndexSafe answer fresh d call ↔ VisitsSafe d' visits (d.dueLoops call success) := by
  constructor
  · rintro ⟨success', d'', visits', h', hvisits', hsafe⟩
    rw [h, Option.some_inj, Prod.mk.injEq] at h'
    obtain ⟨rfl, rfl⟩ := h'
    rwa [List.append_cancel_left (hvisits.symm.trans hvisits')]
  · exact fun hsafe => ⟨success, d', visits, h, hvisits, hsafe⟩

lemma not_indexSafe_of_none {d : BulkDevice} {call : BulkCall}
    (h : d.perform answer fresh call = none) : ¬ IndexSafe answer fresh d call := by
  rintro ⟨success, d', visits, hsome, -⟩
  rw [h] at hsome
  cases hsome

/-! ## The calls -/

section Calls

variable {d : BulkDevice} {urb : ℕ}

/-- `killUrb` stays in the array exactly if there is none. -/
lemma indexSafe_killUrb_iff (h : d.Shaped urb) :
    IndexSafe answer fresh d (.killUrb urb) ↔
      (d.urbs urb).flags &&& usbdevfsUrbBulkContinuation = 0 := by
  rcases h with h | ⟨n, subUrbs, h⟩
  · refine iff_of_true ?_ h.flags
    refine ⟨(d.ioctl answer (.discardUrb urb)).1 == 0, (d.ioctl answer (.discardUrb urb)).2, [],
      by rw [perform, killUrb, if_pos h.flags], (List.append_nil _).symm, ?_⟩
    rw [dueLoops, if_pos h.flags]
    exact visitsSafe_nil _
  · obtain ⟨r, hr, htouched⟩ := killUrb_spec answer h.flags h.usercontext h.lt
    refine iff_of_false ?_ h.flags
    rw [indexSafe_iff_visitsSafe (by rw [perform, hr]) htouched.visits]
    exact not_visitsSafe ((htouched.subUrbCountOf urb).trans h.subUrbCountOf)
      (last_mem .kill urb n) _

/-- `resubmitUrb` stays in the array. -/
lemma indexSafe_resubmitUrb (h : d.Shaped urb) : IndexSafe answer fresh d (.resubmitUrb urb) := by
  rcases h with h | ⟨n, subUrbs, h⟩
  · have htouched := (Touched.reset d urb).trans (.submitUrb (d.modify urb .reset) answer urb)
    have hflags : ¬ ((d.modify urb .reset).urbs urb).flags &&& usbdevfsUrbBulkContinuation > 0 := by
      rw [(Touched.reset d urb).continuation, h.flags]
      exact lt_irrefl 0
    refine ⟨_, _, [], by rw [perform, resubmitUrb, if_neg hflags], htouched.visits, ?_⟩
    rw [dueLoops, if_pos h.flags]
    exact visitsSafe_nil _
  · obtain ⟨r, hr, htouched⟩ := resubmitUrb_spec answer h.flags h.usercontext h.lt
    refine ⟨r.1, r.2, _, by rw [perform, hr], htouched.visits, ?_⟩
    rw [dueLoops, if_neg h.flags]
    exact visitsSafe_range ((htouched.subUrbCountOf urb).trans h.subUrbCountOf) .resubmit

/-- `deleteContinuousBulkUrb` stays in the array. -/
lemma indexSafe_deleteContinuousBulkUrb {n : ℕ} {subUrbs : ℕ → ℕ}
    (h : d.Continuous urb n subUrbs) :
    IndexSafe answer fresh d (.deleteContinuousBulkUrb urb) := by
  obtain ⟨d', hd', htouched⟩ := deleteContinuousBulkUrb_spec h.usercontext h.lt
  refine ⟨true, d', _, by rw [perform, hd', Option.map_some], htouched.visits, ?_⟩
  exact visitsSafe_range ((htouched.subUrbCountOf urb).trans h.subUrbCountOf) .delete

/-- The inner loop of `discardBulkUrbs` goes over the sub-URBs that are recorded. -/
lemma discardVisits_eq (d : BulkDevice) (urb : ℕ) :
    d.discardVisits urb =
      (List.range (d.subUrbCountOf urb)).map fun i => ⟨.discard, urb, i⟩ := by
  unfold discardVisits BulkDevice.subUrbCountOf
  generalize (d.urbs urb).usercontext = context
  cases context <;> rfl

/-- In a pool of different URBs, each has its visits once. -/
lemma indices_discard {urbs : List ℕ} (hnodup : urbs.Nodup) (urb : ℕ) :
    indices (urbs.flatMap d.discardVisits) .discard urb =
      if urb ∈ urbs then List.range (d.subUrbCountOf urb) else [] := by
  induction urbs with
  | nil => rfl
  | cons u urbs ih =>
    rw [List.nodup_cons] at hnodup
    rw [List.flatMap_cons, indices_append, ih hnodup.2, discardVisits_eq, indices_range]
    by_cases hu : u = urb
    · subst hu
      rw [if_pos ⟨rfl, rfl⟩, if_neg hnodup.1, if_pos List.mem_cons_self, List.append_nil]
    · rw [if_neg fun h => hu h.2, List.nil_append]
      exact if_congr (by simp [Ne.symm hu]) rfl rfl

/-- `discardBulkUrbs` stays in the arrays. -/
lemma indexSafe_discardBulkUrbs (hw : d.WellFormed) :
    IndexSafe answer fresh d .discardBulkUrbs := by
  obtain ⟨success, d₁, d', hd', htouched, heq⟩ :=
    discardBulkUrbs_spec answer hw.shaped
  have hcount : ∀ u, d'.subUrbCountOf u = d.subUrbCountOf u := by
    intro u
    rw [heq, ← htouched.subUrbCountOf]
    split_ifs <;> rfl
  refine ⟨success, d', d.bulkUrbPool.flatMap d.discardVisits, by rw [perform, hd'], ?_,
    fun v hv => ?_, fun p hp => ?_⟩
  · rw [heq, ← htouched.visits]
    split_ifs <;> rfl
  · obtain ⟨u, -, hv⟩ := List.mem_flatMap.mp hv
    rw [discardVisits_eq] at hv
    exact (visitsSafe_range (hcount u) .discard).lt v hv
  · obtain ⟨u, hu, rfl⟩ := List.mem_map.mp hp
    rw [indices_discard hw.nodup, if_pos (List.mem_of_mem_filter hu), hcount]

/-- A refused sub-URB makes `submitBulkUrb` leave the array, or go round for ever. -/
lemma indexSafe_submitBulkUrb_iff {endpoint bufferSize : ℕ}
    (hrange : d.InRange (.submitBulkUrb endpoint bufferSize)) :
    IndexSafe answer fresh d (.submitBulkUrb endpoint bufferSize) ↔
      Bounded answer d (.submitBulkUrb endpoint bufferSize) := by
  rw [InRange, ← or_assoc] at hrange
  rw [Bounded, ← or_assoc]
  by_cases hpath : bufferSize ≤ maxUsbfsBulkSize ∨ d.scatterGatherEnabled = true
  · refine iff_of_true ?_ (.inl hpath)
    refine ⟨_, _, [], by rw [perform, submitBulkUrb, if_pos hpath], ?_, ?_⟩
    · rw [submitSimple_eq, List.append_nil]
      split_ifs <;> rfl
    · rw [dueLoops, if_pos hpath]
      exact visitsSafe_nil _
  replace hrange := hrange.resolve_left hpath
  rw [or_iff_right hpath]
  have hlt : chunkCount bufferSize < 2 ^ 8 := by omega
  obtain ⟨d₀, hd₀, hbuilt⟩ := d.buildContinuous_built fresh endpoint hlt
  have hcall := submitBulkUrb_of_built hpath hd₀ answer
  have hctx := hbuilt.usercontext (by omega)
  have hcount : d₀.subUrbCountOf d.allocated = chunkCount bufferSize := by
    unfold BulkDevice.subUrbCountOf
    rw [hctx]
  rw [← hbuilt.log]
  by_cases haccepted : ∀ k < chunkCount bufferSize, 0 ≤ answer (d₀.log.length + k)
  · obtain ⟨d₁, hd₁, htouched⟩ := submitBuilt_accepted answer hctx (by omega) haccepted
    have hvisits := htouched.visits
    rw [hbuilt.visits, List.append_assoc] at hvisits
    refine iff_of_true ⟨true, d₁.addToPool d.allocated, _, by rw [perform, hcall, hd₁], hvisits,
      ?_⟩ haccepted
    rw [dueLoops, if_neg hpath, if_pos rfl]
    have hne : SubUrbLoop.build ≠ .submit := by decide
    have hcount₁ : (d₁.addToPool d.allocated).subUrbCountOf d.allocated = chunkCount bufferSize :=
      (htouched.subUrbCountOf _).trans hcount
    exact visitsSafe_two hcount₁ hne
  · refine iff_of_false ?_ haccepted
    rcases hrange.lt_or_eq with hlt | heq
    · obtain ⟨d₁, hd₁, htouched⟩ := submitBuilt_refused answer hctx (by omega) haccepted
      have hvisits := htouched.visits
      rw [hbuilt.visits, List.append_assoc] at hvisits
      rw [indexSafe_iff_visitsSafe (by rw [perform, hcall, hd₁]) hvisits]
      apply not_visitsSafe ((htouched.subUrbCountOf _).trans hcount)
      rw [List.mem_append, List.mem_append, List.mem_append]
      exact .inr (.inr (.inl (last_mem .cleanUp d.allocated _)))
    · apply not_indexSafe_of_none
      rw [perform, hcall, submitBuilt_eq_none answer hctx (by omega) (by omega) haccepted]

end Calls

/-- **The calls that stay in the arrays of the sub-URBs** are those that do not run into one of
the two loops that go too far.

**Proof sketch.** The pool is well formed in every state of a run, so that each of its URBs is
simple or has an array of 2 to 255 sub-URBs. The loops while `i < subUrbCount` go over the array
once. Those while `i <= subUrbCount` read what lies behind it, or never end. -/
theorem indexSafe_iff {d : BulkDevice} (h : (bulkCalls answer fresh scatterGather).Reachable d)
    {call : BulkCall} (hrange : d.InRange call) :
    IndexSafe answer fresh d call ↔ Bounded answer d call := by
  have hw := wellFormed h
  cases call with
  | submitBulkUrb endpoint bufferSize => exact indexSafe_submitBulkUrb_iff hrange
  | killUrb urb => exact indexSafe_killUrb_iff (hw.shaped urb hrange)
  | resubmitUrb urb => exact iff_of_true (indexSafe_resubmitUrb (hw.shaped urb hrange)) trivial
  | discardBulkUrbs => exact iff_of_true (indexSafe_discardBulkUrbs hw) trivial
  | deleteContinuousBulkUrb urb =>
    rcases hw.shaped urb hrange.1 with hs | ⟨n, subUrbs, hs⟩
    · exact absurd hs.flags hrange.2
    · exact iff_of_true (indexSafe_deleteContinuousBulkUrb hs) trivial

/-- A buffer of twenty thousand bytes, of which usbfs refuses the second part. -/
theorem indexSafe_iff_twentyThousand :
    IndexSafe (fun n => if n = 0 then 0 else -1) (fun _ _ => 0) (new false)
        (.submitBulkUrb 0x82 20000) ↔
      Bounded (fun n => if n = 0 then 0 else -1) (new false) (.submitBulkUrb 0x82 20000) := by
  have hreach : (bulkCalls (fun n => if n = 0 then 0 else -1) (fun _ _ => 0) false).Reachable
      (new false) := .init rfl
  exact indexSafe_iff hreach (.inr (.inr (by decide)))

/-- The cleanup reads what lies behind the array of the two sub-URBs. -/
theorem not_indexSafe_twentyThousand :
    ¬ IndexSafe (fun n => if n = 0 then 0 else -1) (fun _ _ => 0) (new false)
        (.submitBulkUrb 0x82 20000) := by
  rw [indexSafe_submitBulkUrb_iff (.inr (.inr (by decide)))]
  rintro (h | h | h)
  · exact absurd h (by decide)
  · cases h
  · exact absurd (h 1 (by decide)) (by decide)

end BulkDevice

end UsbTv
