import UsbTv.Driver.FieldFlags
import UsbTv.Driver.FieldEffects
import UsbTv.Driver.DueFrames

set_option relaxedAutoImplicit false
set_option autoImplicit false

/-!
# The loss counters

`_droppedFrameCounter` and `_incompleteFrameCounter` are bumped on flags of the input frame, and
every field sets these flags, also one that is discarded or only half of a frame. They agree with
the ledger of due frames as long as each field may follow those before it: which may is told by a
tracker that sees the fields alone.

## Main definitions

* `UsbTv.Arrival` — what arrives of a field.
* `UsbTv.Tracker` — how far the frame of the last field has come, and which fields may follow.
* `UsbTv.Assembler.ledger` — the due frames of a stream.
* `UsbTv.Assembler.Balanced` — the loss counters count the frames of the ledger.
* `UsbTv.Assembler.CountsRight` — the condition on the lost packets.

## Main results

* `UsbTv.Assembler.countsAlike_record` — the ledger changes as the counters do.
* `UsbTv.Assembler.Tracks.step`, `Tracks.run` — the invariant of a stream.
* `UsbTv.Assembler.balanced_of_countsRight` — the counters of a stream, at every point.
-/

namespace UsbTv

/-! ## Which fields may follow -/

/-- What arrives of a field. -/
inductive Arrival
  /-- No packet. -/
  | lost
  /-- Some packets, but not the last one. -/
  | cut
  /-- The last packet, but not all. -/
  | damaged
  /-- All packets. -/
  | whole
  deriving DecidableEq, Repr

namespace VideoField

variable {N : ℕ} (f : VideoField N)

/-- What arrives of the field. -/
def arrival : Arrival :=
  if ¬ f.Survives then .lost
  else if ¬ f.Finishes then .cut
  else if f.Whole then .whole
  else .damaged

lemma arrival_of_not_survives (h : ¬ f.Survives) : f.arrival = .lost := if_pos h

lemma arrival_of_survives (hs : f.Survives) :
    f.arrival = if f.Finishes then (if f.Whole then .whole else .damaged) else .cut := by
  rw [arrival, if_neg (not_not.mpr hs), ite_not]

end VideoField

/-- How far the due frame of the last field has come. -/
inductive Stage
  /-- Its fields are over. -/
  | between
  /-- Its odd field was lost. -/
  | begun
  /-- Its odd field was cut. -/
  | cut
  /-- Its odd field arrived. -/
  | half
  /-- The counters stay right only as long as no packet arrives. -/
  | spent
  deriving DecidableEq, Repr

/-- The stage after one more field, if it may follow. With `DISCARD` an even field may not be
damaged, and nothing may arrive after one that is cut. With `INTERLEAVED` an odd field that is
finished has to be whole and to find `_secondFrame` clear. The even field after it may not be lost
before further packets arrive; the one after a cut odd field has to be lost; and the one after a
lost odd field, if it is finished, has to be damaged and to find `_secondFrame` set, or to be whole
and to find it clear, and then nothing may arrive any more. An even field that follows no odd one is
treated as with `DISCARD`, and has to find `_secondFrame` clear. -/
def Stage.next : ScanType → (second isOdd : Bool) → Stage → Arrival → Option Stage
  | .progressive, _, _, .between, _ => some .between
  | .discard, _, true, .between, _ => some .between
  | .discard, _, false, .between, .lost => some .between
  | .discard, _, false, .between, .cut => some .spent
  | .discard, _, false, .between, .whole => some .between
  | .interleaved, _, true, .between, .lost => some .begun
  | .interleaved, _, true, .between, .cut => some .cut
  | .interleaved, false, true, .between, .whole => some .half
  | .interleaved, _, false, .between, .lost => some .between
  | .interleaved, _, false, .between, .cut => some .spent
  | .interleaved, false, false, .between, .whole => some .between
  | .interleaved, _, false, .begun, .lost => some .between
  | .interleaved, _, false, .begun, .cut => some .between
  | .interleaved, true, false, .begun, .damaged => some .between
  | .interleaved, false, false, .begun, .whole => some .spent
  | .interleaved, _, false, .cut, .lost => some .between
  | .interleaved, _, false, .half, .lost => some .spent
  | .interleaved, _, false, .half, .cut => some .between
  | .interleaved, true, false, .half, .damaged => some .between
  | .interleaved, true, false, .half, .whole => some .between
  | _, _, _, .spent, .lost => some .spent
  | _, _, _, _, _ => none

/-- **What may follow**: the fields of which a packet arrives, by the stage at which they come. -/
lemma Stage.next_cases {N : ℕ} {f : VideoField N} {scanType : ScanType} {second : Bool}
    {stage stage' : Stage} (hs : f.Survives)
    (h : stage.next scanType second f.odd f.arrival = some stage') :
    (stage = .between ∧ scanType ≠ .interleaved ∧ (scanType = .discard → f.odd = true) ∧
        stage' = .between) ∨
      (stage = .between ∧ scanType = .discard ∧ f.odd = false ∧ (f.Finishes → f.Whole) ∧
        stage' = if f.Finishes then .between else .spent) ∨
      (stage = .between ∧ scanType = .interleaved ∧ (f.Finishes → f.Whole ∧ second = false) ∧
        stage' = if f.odd then (if f.Finishes then .half else .cut)
          else if f.Finishes then .between else .spent) ∨
      (stage = .begun ∧ scanType = .interleaved ∧ f.odd = false ∧
        (f.Finishes → ¬ f.Whole ∧ second = true) ∧ stage' = .between) ∨
      (stage = .begun ∧ scanType = .interleaved ∧ f.odd = false ∧ f.Finishes ∧ f.Whole ∧
        second = false ∧ stage' = .spent) ∨
      (stage = .half ∧ scanType = .interleaved ∧ f.odd = false ∧
        (f.Finishes → second = true) ∧ stage' = .between) := by
  rw [f.arrival_of_survives hs] at h
  by_cases hf : f.Finishes <;> by_cases hw : f.Whole <;> cases hodd : f.odd <;> cases second <;>
    cases scanType <;> cases stage <;> simp [hf, hw, hodd, Stage.next] at h ⊢ <;> exact h.symm

/-- **What may be lost**: anything, at any stage, as long as the parities alternate. -/
lemma Stage.next_lost_cases {scanType : ScanType} {second isOdd : Bool} {stage stage' : Stage}
    (h : stage.next scanType second isOdd .lost = some stage') :
    (stage = .between ∧ scanType ≠ .interleaved ∧ stage' = .between) ∨
      (stage = .between ∧ scanType = .interleaved ∧
        stage' = if isOdd then .begun else .between) ∨
      (stage = .begun ∧ scanType = .interleaved ∧ isOdd = false ∧ stage' = .between) ∨
      (stage = .cut ∧ scanType = .interleaved ∧ isOdd = false ∧ stage' = .between) ∨
      (stage = .half ∧ stage' = .spent) ∨ (stage = .spent ∧ stage' = .spent) := by
  cases scanType <;> cases second <;> cases isOdd <;> cases stage <;>
    simp [Stage.next] at h ⊢ <;> exact h.symm

/-- What has to be known of the fields before to tell which fields may follow: the id of the last
one of which a packet arrived, `_secondFrame`, and the stage of the due frame. -/
structure Tracker where
  currentFrameId : ℕ
  secondFrame : Bool
  stage : Stage
  deriving DecidableEq, Repr

namespace Tracker

variable {N : ℕ}

/-- One more field. A field of which a packet arrives has to be recognised as a new one. -/
def step (scanType : ScanType) (t : Tracker) (f : VideoField N) : Option Tracker :=
  if f.Survives ∧ ¬ f.Recognised t.currentFrameId then none
  else (t.stage.next scanType t.secondFrame f.odd f.arrival).map fun stage =>
    { currentFrameId := if f.Survives then f.id else t.currentFrameId
      secondFrame :=
        if f.Finishes then secondAfter scanType t.secondFrame f.odd else t.secondFrame
      stage := stage }

/-- The fields of a stream one after the other. -/
def run (scanType : ScanType) (t : Tracker) (stream : List (VideoField N)) : Option Tracker :=
  stream.foldlM (step scanType) t

/-- **What a step needs.** -/
lemma step_eq_some {scanType : ScanType} {t t' : Tracker} {f : VideoField N}
    (h : t.step scanType f = some t') :
    (f.Survives → f.Recognised t.currentFrameId) ∧
      t.stage.next scanType t.secondFrame f.odd f.arrival = some t'.stage ∧
      t'.currentFrameId = (if f.Survives then f.id else t.currentFrameId) ∧
      t'.secondFrame =
        if f.Finishes then secondAfter scanType t.secondFrame f.odd else t.secondFrame := by
  by_cases hnew : f.Survives ∧ ¬ f.Recognised t.currentFrameId
  · rw [step, if_pos hnew] at h
    exact absurd h (by simp)
  · rw [step, if_neg hnew] at h
    obtain ⟨stage, hstage, rfl⟩ := Option.map_eq_some_iff.mp h
    rw [not_and, not_not] at hnew
    exact ⟨hnew, hstage, rfl, rfl⟩

end Tracker

/-! ## The counters and the ledger -/

/-- What the ledger says at a stage, and the flag of the input frame with it. -/
def Stage.Holds {N : ℕ} (scanType : ScanType) (a : Assembler) (l : Ledger N) : Stage → Prop
  | .between => (scanType = .interleaved → l.Closed) ∧
      l.inProgress = if a.inputFrame.InProgress then 1 else 0
  | .begun => ∃ f, ∃ l' : Ledger N, l = ⟨[f], .pending⟩ :: l' ∧ ¬ f.Survives ∧
      l'.inProgress = if a.inputFrame.InProgress then 1 else 0
  | .cut => (∃ f, ∃ l' : Ledger N, l = ⟨[f], .pending⟩ :: l') ∧ l.inProgress = 1 ∧
      a.inputFrame.InProgress
  | .half => ∃ f, ∃ l' : Ledger N, l = ⟨[f], .pending⟩ :: l' ∧ f.Survives ∧ f.Whole ∧
      l'.inProgress = 0 ∧ ¬ a.inputFrame.InProgress
  | .spent => l.inProgress ≤ 1

namespace Assembler

variable {N : ℕ}

/-- The due frames of a stream, after those of `l`. -/
def ledger (answer : ℕ → Answer) : Assembler → List (VideoField N) → Ledger N → Ledger N
  | _, [], l => l
  | a, x :: xs, l => ledger answer (a.feed answer x.packets) xs
      (l.record a.frameParams.scanType x (a.handover answer x))

/-- **The loss counters count due frames.** -/
structure Balanced (a : Assembler) (l : Ledger N) : Prop where
  /-- Started frames that were abandoned or refused; the counter has 32 bits. -/
  dropped : a.droppedFrameCounter = l.dropped % 2 ^ 32
  /-- Frames that reached the queue step with a packet missing. -/
  incomplete : a.incompleteFrameCounter = l.incomplete % 2 ^ 32
  /-- Any other started frame was delivered, except the one in progress. -/
  started : l.started = l.delivered + l.dropped + l.inProgress
  inProgress : l.inProgress ≤ 1

/-- The invariant of a stream: the counters, and what the tracker says of state and ledger. -/
structure Tracks (t : Tracker) (a : Assembler) (l : Ledger N) : Prop where
  dropped : a.droppedFrameCounter = l.dropped % 2 ^ 32
  incomplete : a.incompleteFrameCounter = l.incomplete % 2 ^ 32
  currentFrameId : a.currentFrameId = t.currentFrameId
  secondFrame : a.secondFrame = t.secondFrame
  idle : a.OthersIdle
  holds : t.stage.Holds a.frameParams.scanType a l

/-! ## The ledger after one field -/

section Record

variable {scanType : ScanType} {stage stage' : Stage} {second : Bool} {a b : Assembler}
variable {x : VideoField N} {l : Ledger N} {handover : Option Answer}

/-- **A lost field** changes the stage, and no count. -/
lemma holds_of_not_survives (hs : ¬ x.Survives) (h : stage.Holds scanType a l)
    (hnext : stage.next scanType second x.odd .lost = some stage') :
    stage'.Holds scanType a (l.record scanType x none) := by
  obtain ⟨-, -, hcount⟩ := Ledger.record_of_not_survives l scanType hs
  have hpass : ∀ l : Ledger N, l.pass x = l := fun _ => if_neg hs
  rcases Stage.next_lost_cases hnext with ⟨rfl, hscan, rfl⟩ | ⟨rfl, rfl, rfl⟩ |
    ⟨rfl, rfl, hodd, rfl⟩ | ⟨rfl, rfl, hodd, rfl⟩ | ⟨rfl, rfl⟩ | ⟨rfl, rfl⟩
  · exact ⟨fun h => absurd h hscan, hcount.trans h.2⟩
  · cases hodd : x.odd with
    | true => exact ⟨x, l, by rw [Ledger.record_odd l hodd, hpass], hs, h.2⟩
    | false =>
      rw [Ledger.record_even_of_closed l hodd (h.1 rfl), hpass]
      exact h
  · obtain ⟨f, l', rfl, hf, hin⟩ := h
    refine ⟨fun _ => ?_, ?_⟩
    · rw [Ledger.record_even l' hodd]
      exact Ledger.closed_pair _ _ _ _
    · rw [hcount, Ledger.inProgress_cons_pending, if_neg (by simpa using hf), hin, Nat.add_zero]
  · obtain ⟨⟨f, l', rfl⟩, hone, hin⟩ := h
    refine ⟨fun _ => ?_, ?_⟩
    · rw [Ledger.record_even l' hodd]
      exact Ledger.closed_pair _ _ _ _
    · rw [hcount, hone, if_pos hin]
  · obtain ⟨f, l', rfl, -, -, hzero, -⟩ := h
    show Ledger.inProgress _ ≤ 1
    rw [hcount, Ledger.inProgress_cons_pending, hzero]
    split_ifs <;> omega
  · exact hcount.trans_le h

/-- From `l` to `l'` the ledger changes as the counters do from `a` on while field `x` arrives, and
ends at the given stage with the state `b`. -/
structure CountsAlike (scanType : ScanType) (stage' : Stage) (a b : Assembler) (x : VideoField N)
    (handover : Option Answer) (l l' : Ledger N) : Prop where
  dropped : l'.dropped = l.dropped + (if a.inputFrame.InProgress then 1 else 0) +
    if handover = some .refused then 1 else 0
  incomplete : l'.incomplete = l.incomplete + if x.Finishes ∧ ¬ x.Whole then 1 else 0
  holds : stage'.Holds scanType b l'

/-- A field that is a frame of its own. -/
lemma countsAlike_alone (hs : x.Survives) (hin : b.inputFrame.InProgress ↔ ¬ x.Finishes)
    (hscan : scanType ≠ .interleaved) (hcall : handover ≠ none ↔ x.Finishes)
    (hl : l.inProgress = if a.inputFrame.InProgress then 1 else 0) :
    CountsAlike scanType .between a b x handover l (⟨[x], Fate.of handover⟩ :: l.abandon) := by
  have hmem : ∃ f ∈ [x], f.Survives := ⟨x, List.mem_singleton_self x, hs⟩
  refine ⟨?_, ?_, fun h => absurd h hscan, ?_⟩
  · rw [Ledger.dropped_cons_abandon l hmem, hl]
  · rw [Ledger.incomplete_cons_abandon]
    simp [hcall]
  · rw [Ledger.inProgress_cons_abandon l hmem]
    simp only [hin, ← hcall, not_not]

/-- An odd field of an interleaved frame that does not complete an earlier one. -/
lemma countsAlike_odd (hs : x.Survives) (hin : b.inputFrame.InProgress ↔ ¬ x.Finishes)
    (hcall : handover = none) (hwhole : x.Finishes → x.Whole)
    (hl : l.inProgress = if a.inputFrame.InProgress then 1 else 0) :
    CountsAlike .interleaved (if x.Finishes then .half else .cut) a b x handover l
      (⟨[x], .pending⟩ :: l.abandon) := by
  have hmem : ∃ f ∈ [x], f.Survives := ⟨x, List.mem_singleton_self x, hs⟩
  refine ⟨?_, ?_, ?_⟩
  · rw [Ledger.dropped_cons_pending, Ledger.dropped_abandon, hl, hcall]
    simp
  · rw [Ledger.incomplete_cons_pending, Ledger.incomplete_abandon,
      if_neg fun h => h.2 (hwhole h.1), Nat.add_zero]
  · split_ifs with hf
    · exact ⟨x, _, rfl, hs, hwhole hf, l.inProgress_abandon, fun h => hin.mp h hf⟩
    · refine ⟨⟨x, _, rfl⟩, ?_, hin.mpr hf⟩
      rw [Ledger.inProgress_cons_pending, Ledger.inProgress_abandon, if_pos hmem]

/-- A field that is no frame and no part of one, and is whole if it is finished. -/
lemma countsAlike_discarded (hin : b.inputFrame.InProgress ↔ ¬ x.Finishes)
    (hclosed : scanType = .interleaved → l.Closed) (hcall : handover = none)
    (hwhole : x.Finishes → x.Whole)
    (hl : l.inProgress = if a.inputFrame.InProgress then 1 else 0) :
    CountsAlike scanType (if x.Finishes then .between else .spent) a b x handover l l.abandon := by
  refine ⟨?_, ?_, ?_⟩
  · rw [Ledger.dropped_abandon, hl, hcall]
    simp
  · rw [Ledger.incomplete_abandon, if_neg fun h => h.2 (hwhole h.1), Nat.add_zero]
  · split_ifs with hf
    · refine ⟨fun h => l.closed_abandon (hclosed h), ?_⟩
      rw [Ledger.inProgress_abandon, if_neg fun h => hin.mp h hf]
    · exact (Ledger.inProgress_abandon l).trans_le (Nat.zero_le 1)

/-- The even field of an interleaved frame, which completes the frame if it is finished. -/
lemma countsAlike_even {f : VideoField N} (hs : x.Survives)
    (hin : b.inputFrame.InProgress ↔ ¬ x.Finishes) (hcall : handover ≠ none ↔ x.Finishes)
    (hdamaged : x.Finishes → (¬ f.Whole ∨ ¬ x.Whole ↔ ¬ x.Whole))
    (hl : l.inProgress = if a.inputFrame.InProgress then 1 else 0) :
    CountsAlike .interleaved .between a b x handover (⟨[f], .pending⟩ :: l)
      (⟨[f, x], Fate.of handover⟩ :: l.abandon) := by
  have hmem : ∃ g ∈ [f, x], g.Survives := ⟨x, by simp, hs⟩
  refine ⟨?_, ?_, fun _ => Ledger.closed_pair _ _ _ _, ?_⟩
  · rw [Ledger.dropped_cons_abandon l hmem, hl, Ledger.dropped_cons_pending]
  · rw [Ledger.incomplete_cons_abandon, Ledger.incomplete_cons_pending]
    have hiff : (handover ≠ none ∧ ∃ g ∈ [f, x], ¬ g.Whole) ↔ x.Finishes ∧ ¬ x.Whole := by
      rw [hcall]
      apply and_congr_right
      intro hf
      rw [← hdamaged hf]
      simp
    simp only [hiff]
  · rw [Ledger.inProgress_cons_abandon l hmem]
    simp only [hin, ← hcall, not_not]

/-- The even field of an interleaved frame with which the queue is not called, though it is whole:
the frame is in progress, and the counters do not know of it. -/
lemma countsAlike_kept {f : VideoField N} (hs : x.Survives) (hcall : handover = none)
    (hwhole : x.Whole) (hl : l.inProgress = if a.inputFrame.InProgress then 1 else 0) :
    CountsAlike .interleaved .spent a b x handover (⟨[f], .pending⟩ :: l)
      (⟨[f, x], Fate.of handover⟩ :: l.abandon) := by
  have hmem : ∃ g ∈ [f, x], g.Survives := ⟨x, by simp, hs⟩
  refine ⟨?_, ?_, ?_⟩
  · rw [Ledger.dropped_cons_abandon l hmem, hl, Ledger.dropped_cons_pending]
  · rw [Ledger.incomplete_cons_abandon, Ledger.incomplete_cons_pending,
      if_neg fun h => h.1 hcall, if_neg fun h => h.2 hwhole]
  · show Ledger.inProgress _ ≤ 1
    rw [Ledger.inProgress_cons_abandon l hmem, if_pos hcall]

/-- **A field of which a packet arrives** changes the ledger as it changes the counters, if the
stage lets it follow. -/
lemma countsAlike_record (hs : x.Survives) (h : stage.Holds scanType a l)
    (hin : b.inputFrame.InProgress ↔ ¬ x.Finishes) {answered : Answer}
    (hover : handover = if x.Finishes ∧ finishHandsOver scanType second x.odd = true then
      some answered else none)
    (hnext : stage.next scanType second x.odd x.arrival = some stage') :
    CountsAlike scanType stage' a b x handover l (l.record scanType x handover) := by
  have hpass : ∀ l : Ledger N, l.pass x = l.abandon := fun _ => if_pos hs
  -- the queue is called if a finished field hands over, and not if none does
  have hcalled : (x.Finishes → finishHandsOver scanType second x.odd = true) →
      (handover ≠ none ↔ x.Finishes) := by
    intro hyes
    by_cases hf : x.Finishes <;> simp [hover, hf, hyes]
  have hnone : (x.Finishes → finishHandsOver scanType second x.odd = false) →
      handover = none := by
    intro hno
    by_cases hf : x.Finishes <;> simp [hover, hf, hno]
  rcases Stage.next_cases hs hnext with ⟨rfl, hscan, hodd, rfl⟩ | ⟨rfl, rfl, hodd, hfin, rfl⟩ |
    ⟨rfl, rfl, hfin, rfl⟩ | ⟨rfl, rfl, hodd, hfin, rfl⟩ | ⟨rfl, rfl, hodd, -, hwhole, rfl, rfl⟩ |
    ⟨rfl, rfl, hodd, hfin, rfl⟩
  · have hrec : l.record scanType x handover = ⟨[x], Fate.of handover⟩ :: l.abandon := by
      cases scanType with
      | progressive => exact congrArg _ (hpass l)
      | discard => simp only [Ledger.record, hodd rfl, hpass]
      | interleaved => exact absurd rfl hscan
    have hcall := hcalled fun _ => by
      cases scanType with
      | progressive => rfl
      | discard => exact hodd rfl
      | interleaved => exact absurd rfl hscan
    rw [hrec]
    exact countsAlike_alone hs hin hscan hcall h.2
  · have hrec : l.record .discard x handover = l.abandon := by
      simp only [Ledger.record, hodd, hpass]
    rw [hrec]
    exact countsAlike_discarded hin (by simp) (hnone fun _ => hodd) hfin h.2
  · have hcall := hnone fun hf => (hfin hf).2
    cases hodd : x.odd with
    | true =>
      rw [Ledger.record_odd l hodd, hpass]
      exact countsAlike_odd hs hin hcall (fun hf => (hfin hf).1) h.2
    | false =>
      rw [Ledger.record_even_of_closed l hodd (h.1 rfl), hpass]
      exact countsAlike_discarded hin h.1 hcall (fun hf => (hfin hf).1) h.2
  · obtain ⟨f, l', rfl, -, hl⟩ := h
    rw [Ledger.record_even l' hodd, hpass]
    refine countsAlike_even hs hin (hcalled fun hf => (hfin hf).2) (fun hf => ?_) hl
    exact or_iff_right_of_imp fun _ => (hfin hf).1
  · obtain ⟨f, l', rfl, -, hl⟩ := h
    rw [Ledger.record_even l' hodd, hpass]
    exact countsAlike_kept hs (hnone fun _ => rfl) hwhole hl
  · obtain ⟨f, l', rfl, -, hwhole, hzero, hidle⟩ := h
    rw [Ledger.record_even l' hodd, hpass]
    refine countsAlike_even hs hin (hcalled hfin) (fun _ => ?_) (by rw [hzero, if_neg hidle])
    exact or_iff_right (not_not.mpr hwhole)

end Record

namespace Tracks

/-- At every stage at most one frame is in progress. -/
lemma balanced {t : Tracker} {a : Assembler} {l : Ledger N} (h : Tracks t a l) : a.Balanced l := by
  refine ⟨h.dropped, h.incomplete, l.started_eq, ?_⟩
  have hholds := h.holds
  cases hstage : t.stage with
  | between =>
    rw [hstage] at hholds
    rw [hholds.2]
    split_ifs <;> omega
  | begun =>
    rw [hstage] at hholds
    obtain ⟨f, l', rfl, hs, hl⟩ := hholds
    rw [Ledger.inProgress_cons_pending, if_neg (by simpa using hs), hl]
    split_ifs <;> omega
  | cut =>
    rw [hstage] at hholds
    exact hholds.2.1.le
  | half =>
    rw [hstage] at hholds
    obtain ⟨f, l', rfl, -, -, hl, -⟩ := hholds
    rw [Ledger.inProgress_cons, hl]
    split_ifs <;> omega
  | spent =>
    rw [hstage] at hholds
    exact hholds

variable {t t' : Tracker} {a : Assembler} {l : Ledger N} {f : VideoField N}

/-- **One field** that the tracker accepts. -/
lemma step (h : Tracks t a l) (answer : ℕ → Answer) (hp : a.packetsPerField = N) (h0 : 0 < N)
    (ht : t.step a.frameParams.scanType f = some t') :
    Tracks t' (a.feed answer f.packets)
      (l.record a.frameParams.scanType f (a.handover answer f)) := by
  obtain ⟨hrec, hnext, hcur, hsecond⟩ := Tracker.step_eq_some ht
  by_cases hs : f.Survives
  · have hnew : f.Recognised a.currentFrameId := by
      rw [h.currentFrameId]
      exact hrec hs
    obtain ⟨hidle, hin⟩ := feed_field_inProgress a answer f hp h0 hs hnew h.idle
    have hover := handover_eq a answer f hp h0 hs hnew
    rw [h.secondFrame] at hover
    obtain ⟨hdrop, hinc, hholds⟩ := countsAlike_record hs h.holds hin hover hnext
    refine ⟨?_, ?_, ?_, ?_, hidle, ?_⟩
    · rw [hdrop]
      exact feed_field_droppedFrameCounter a answer f hp h0 hs hnew h.dropped
    · rw [hinc]
      exact feed_field_incompleteFrameCounter a answer f hp h0 hs hnew h.incomplete
    · rw [feed_field_currentFrameId a answer f hp h0 hs hnew, hcur, if_pos hs]
    · rw [feed_field_secondFrame a answer f hp h0 hs hnew, hsecond, h.secondFrame]
    · rw [(a.feed_config answer f.packets).frameParams]
      exact hholds
  · have hfin : ¬ f.Finishes := fun hf => hs (hf.survives h0)
    obtain ⟨hdrop, hinc, -⟩ := Ledger.record_of_not_survives l a.frameParams.scanType hs
    rw [f.arrival_of_not_survives hs] at hnext
    rw [if_neg hs] at hcur
    rw [if_neg hfin] at hsecond
    rw [handover_of_not_survives a answer f hs, feed_field_of_not_survives a answer f hs]
    exact ⟨h.dropped.trans (by rw [hdrop]), h.incomplete.trans (by rw [hinc]),
      h.currentFrameId.trans hcur.symm, h.secondFrame.trans hsecond.symm, h.idle,
      holds_of_not_survives hs h.holds hnext⟩

/-- **A stream** that the tracker accepts. -/
lemma run {stream : List (VideoField N)} (h : Tracks t a l) (answer : ℕ → Answer)
    (hp : a.packetsPerField = N) (h0 : 0 < N)
    (ht : t.run a.frameParams.scanType stream = some t') :
    Tracks t' (a.feed answer (stream.flatMap VideoField.packets))
      (ledger answer a stream l) := by
  induction stream generalizing t a l with
  | nil =>
    obtain rfl : t = t' := Option.some_inj.mp ht
    exact h
  | cons f stream ih =>
    rw [Tracker.run, List.foldlM_cons] at ht
    obtain ⟨t₁, hstep, ht⟩ := Option.bind_eq_some_iff.mp ht
    have hcfg := a.feed_config answer f.packets
    rw [List.flatMap_cons, feed_append]
    apply ih (h.step answer hp h0 hstep) (hcfg.packetsPerField.trans hp)
    rw [hcfg.frameParams]
    exact ht

end Tracks

end Assembler

/-! ## At every point of a stream -/

namespace VideoField

variable {N : ℕ} (f : VideoField N)

/-- The field when no packet from number `k` on has come yet. -/
def upTo (k : ℕ) : VideoField N := { f with received := fun i => decide (i < k) && f.received i }

lemma numbers_upTo (k m : ℕ) : (f.upTo k).numbers m = f.numbers (min m k) := by
  induction m with
  | zero => rw [Nat.zero_min, numbers_zero, numbers_zero]
  | succ m ih =>
    by_cases hk : m < k
    · have hreceived : (f.upTo k).received m = f.received m := by simp [upTo, hk]
      rw [min_eq_left hk.le] at ih
      rw [min_eq_left hk]
      cases hr : f.received m with
      | false => rw [numbers_succ_of_lost _ (hreceived.trans hr), ih, numbers_succ_of_lost _ hr]
      | true =>
        rw [numbers_succ_of_received _ (hreceived.trans hr), ih, numbers_succ_of_received _ hr]
    · have hlost : (f.upTo k).received m = false := by simp [upTo, hk]
      rw [numbers_succ_of_lost _ hlost, ih, min_eq_right (by omega), min_eq_right (by omega)]

/-- The packets that have come. -/
lemma packets_upTo {k : ℕ} (hk : k ≤ N) : (f.upTo k).packets = f.packetsBelow k := by
  show ((f.upTo k).numbers N).map f.packet = _
  rw [numbers_upTo, min_eq_right hk]
  rfl

/-- A field of which a packet has come by then leaves a trace and has the same start. -/
lemma Survives.of_upTo {f : VideoField N} {k : ℕ} (h : (f.upTo k).Survives) :
    f.Survives ∧ ∀ current, f.Recognised current → (f.upTo k).Recognised current := by
  obtain ⟨i, hi⟩ := List.exists_mem_of_ne_nil _ h
  obtain ⟨hiN, hr⟩ := (mem_numbers _).mp hi
  simp only [upTo, Bool.and_eq_true, decide_eq_true_eq] at hr
  refine ⟨fun hnil => ?_, fun current hnew => hnew.imp_right fun hzero => ?_⟩
  · have hmem : i ∈ f.numbers N := f.mem_numbers.mpr ⟨hiN, hr.2⟩
    rw [hnil] at hmem
    exact List.not_mem_nil hmem
  · have hk : 0 < k := by omega
    simp [upTo, hk, hzero]

/-- Before its last packet a field is lost or cut. -/
lemma arrival_upTo_of_lt {k : ℕ} (h0 : 0 < N) (hk : k < N) :
    (f.upTo k).arrival = .lost ∨ (f.upTo k).arrival = .cut ∧ f.arrival ≠ .lost := by
  have hfin : ¬ (f.upTo k).Finishes := by
    have hlast : ¬ N - 1 < k := by omega
    simp [Finishes, upTo, hlast]
  by_cases hs : (f.upTo k).Survives
  · right
    refine ⟨by rw [arrival_of_survives _ hs, if_neg hfin], ?_⟩
    rw [arrival_of_survives _ hs.of_upTo.1]
    split_ifs <;> simp
  · exact .inl (arrival_of_not_survives _ hs)

/-- After its last packet the field is what arrives of it. -/
lemma arrival_upTo_self (h0 : 0 < N) : (f.upTo N).arrival = f.arrival := by
  have hs : (f.upTo N).Survives ↔ f.Survives := by
    rw [Survives, Survives, numbers_upTo, min_self]
  have hf : (f.upTo N).Finishes ↔ f.Finishes := by
    have hlast : N - 1 < N := by omega
    simp [Finishes, upTo, hlast]
  have hw : (f.upTo N).Whole ↔ f.Whole := by
    rw [← length_numbers_eq_iff, ← length_numbers_eq_iff, numbers_upTo, min_self]
  simp only [arrival, hs, hf, hw]

end VideoField

/-- A field may be lost, or cut if it was not, where it may come at all. -/
lemma Stage.next_upTo {N : ℕ} {f : VideoField N} {scanType : ScanType} {second : Bool}
    {stage stage' : Stage} (h0 : 0 < N) {k : ℕ} (hk : k ≤ N)
    (h : stage.next scanType second f.odd f.arrival = some stage') :
    ∃ stage'', stage.next scanType second f.odd (f.upTo k).arrival = some stage'' := by
  rcases Nat.lt_or_eq_of_le hk with hk | rfl
  · rcases f.arrival_upTo_of_lt h0 hk with harr | ⟨harr, hne⟩
    · rw [harr]
      generalize f.arrival = arrival at h
      generalize f.odd = isOdd at h ⊢
      cases scanType <;> cases isOdd <;> cases second <;> cases stage <;> cases arrival <;>
        simp [Stage.next] at h ⊢
    · rw [harr]
      generalize f.arrival = arrival at h hne
      generalize f.odd = isOdd at h ⊢
      cases scanType <;> cases isOdd <;> cases second <;> cases stage <;> cases arrival <;>
        simp [Stage.next] at h hne ⊢
  · exact ⟨stage', by rw [f.arrival_upTo_self h0, h]⟩

/-- **A part of a field** may follow where the field may. -/
lemma Tracker.step_upTo {N : ℕ} {f : VideoField N} {scanType : ScanType} {t t' : Tracker}
    (h0 : 0 < N) {k : ℕ} (hk : k ≤ N) (h : t.step scanType f = some t') :
    ∃ t'', t.step scanType (f.upTo k) = some t'' := by
  obtain ⟨hrec, hnext, -, -⟩ := Tracker.step_eq_some h
  obtain ⟨stage, hstage⟩ := Stage.next_upTo h0 hk hnext
  have hnew : ¬ ((f.upTo k).Survives ∧ ¬ (f.upTo k).Recognised t.currentFrameId) := by
    rintro ⟨hs, hno⟩
    exact hno (hs.of_upTo.2 _ (hrec hs.of_upTo.1))
  have hodd : (f.upTo k).odd = f.odd := rfl
  rw [step, if_neg hnew, hodd, hstage]
  exact ⟨_, rfl⟩

namespace Assembler

variable {N : ℕ} (a : Assembler) (answer : ℕ → Answer) (stream : List (VideoField N))

/-- The state that `startStreaming` leaves to the packets: the counters are zero, and no frame of
the pool is flagged as in progress. What is left of the last stream is its id and
`_secondFrame`. -/
structure AtStart (N : ℕ) : Prop where
  packetsPerField : a.packetsPerField = N
  dropped : a.droppedFrameCounter = 0
  incomplete : a.incompleteFrameCounter = 0
  idle : ∀ i, ¬ (a.frames i).InProgress

/-- The condition on the lost packets: every field may follow those before it. -/
def CountsRight : Prop :=
  (Tracker.run a.frameParams.scanType ⟨a.currentFrameId, a.secondFrame, .between⟩
    stream).isSome = true

instance : Decidable (a.CountsRight stream) := inferInstanceAs (Decidable (_ = _))

lemma AtStart.tracks {a : Assembler} (h : a.AtStart N) :
    Tracks ⟨a.currentFrameId, a.secondFrame, .between⟩ a ([] : Ledger N) where
  dropped := h.dropped
  incomplete := h.incomplete
  currentFrameId := rfl
  secondFrame := rfl
  idle i _ := h.idle i
  holds := by
    have hin : ¬ a.inputFrame.InProgress := h.idle _
    exact ⟨fun _ => Ledger.closed_nil, by rw [if_neg hin]; rfl⟩

/-- **When the loss counters count due frames**: from the start of a stream all of whose fields
may follow one another, at every point of it, whatever the queue answers.

**Proof sketch.** A part of a stream is a stream that the tracker accepts too, as a field may be
cut where it may come. The tracker keeps the invariant from field to field. -/
theorem balanced_of_countsRight (hstart : a.AtStart N) (h0 : 0 < N)
    (hright : a.CountsRight stream) {j : ℕ} {g : VideoField N} (hg : stream[j]? = some g) {k : ℕ}
    (hk : k ≤ N) :
    Balanced ((a.before answer stream j).feed answer (g.packetsBelow k))
      (ledger answer a (stream.take j ++ [g.upTo k]) []) := by
  obtain ⟨hj, hgj⟩ := List.getElem?_eq_some_iff.mp hg
  have hsplit : stream = stream.take j ++ g :: stream.drop (j + 1) := by
    rw [← hgj, ← List.drop_eq_getElem_cons hj, List.take_append_drop]
  obtain ⟨t', hrun⟩ := Option.isSome_iff_exists.mp hright
  rw [Tracker.run, hsplit, List.foldlM_append] at hrun
  obtain ⟨t₁, htake, hrun⟩ := Option.bind_eq_some_iff.mp hrun
  rw [List.foldlM_cons] at hrun
  obtain ⟨t₂, hstep, -⟩ := Option.bind_eq_some_iff.mp hrun
  obtain ⟨t₃, hcut⟩ := Tracker.step_upTo h0 hk hstep
  have hpart : Tracker.run a.frameParams.scanType ⟨a.currentFrameId, a.secondFrame, .between⟩
      (stream.take j ++ [g.upTo k]) = some t₃ := by
    rw [Tracker.run, List.foldlM_append, htake]
    show (t₁.step _ _).bind some = _
    rw [hcut]
    rfl
  have h := (hstart.tracks.run answer hstart.packetsPerField h0 hpart).balanced
  rw [List.flatMap_append, List.flatMap_singleton, g.packets_upTo hk, feed_append] at h
  exact h

/-- A driver at the start of its first stream, discarding NTSC. -/
def firstDiscarding : Assembler :=
  fresh (nativeFrameParams (Java.Builder.new.setScanType .discard).build) 360
    fun _ => ⟨345600, fun _ => none, 0, 0, false⟩

lemma firstDiscarding_atStart : firstDiscarding.AtStart 360 :=
  ⟨rfl, rfl, rfl, fun _ => by show ¬ 0 &&& frameInProgress > 0; decide⟩

/-- An odd field without its first packet, and the whole even field after it. -/
theorem balanced_of_countsRight_oddAndEven :
    let g := VideoField.ofPayload (N := 360) (by decide) 2 (by decide) false (fun _ _ => 0)
      fun _ => true
    Balanced ((firstDiscarding.before (fun _ => .refused) (oddAndEven (· != 0)) 1).feed
        (fun _ => .refused) (g.packetsBelow 360))
      (ledger (fun _ => .refused) firstDiscarding
        ((oddAndEven (· != 0)).take 1 ++ [g.upTo 360]) []) := by
  intro g
  exact balanced_of_countsRight firstDiscarding (fun _ => .refused) (oddAndEven (· != 0))
    firstDiscarding_atStart (by norm_num) (by decide +kernel) (j := 1) rfl le_rfl

/-- An even field of an NTSC stream that loses its first packet. -/
def damagedEven : VideoField 360 :=
  VideoField.ofPayload (by decide) 1 (by decide) false (fun _ _ => 0) (· != 0)

/-- **A discarded field is counted as an incomplete frame**: the stream has no due frame. -/
theorem not_balanced_damagedEven :
    firstDiscarding.AtStart 360 ∧ damagedEven.id ≠ firstDiscarding.currentFrameId ∧
      ([damagedEven].IsChain fun f g => f.id ≠ g.id) ∧
      ([damagedEven].IsChain fun f g => g.odd = !f.odd) ∧
      ¬ Balanced (firstDiscarding.feed (fun _ => .accepted 1) damagedEven.packets)
        (ledger (fun _ => .accepted 1) firstDiscarding [damagedEven] []) := by
  have hne : damagedEven.id ≠ firstDiscarding.currentFrameId := by decide
  have hfin : damagedEven.Finishes := by decide
  have hlost : ¬ damagedEven.Whole := fun hwhole => absurd (hwhole 0 (by norm_num)) (by decide)
  refine ⟨firstDiscarding_atStart, hne, .singleton _, .singleton _, fun hbal => ?_⟩
  have hinc := feed_field_incompleteFrameCounter firstDiscarding (fun _ => .accepted 1)
    damagedEven rfl (by norm_num) (hfin.survives (by norm_num)) (.inl hne) (n := 0) rfl
  have hledger : ledger (fun _ => .accepted 1) firstDiscarding [damagedEven] [] = [] := by
    show Ledger.pass [] damagedEven = []
    unfold Ledger.pass
    split_ifs <;> rfl
  rw [hbal.incomplete, hledger, if_pos ⟨hfin, hlost⟩] at hinc
  exact absurd hinc (by decide)

end Assembler

end UsbTv
