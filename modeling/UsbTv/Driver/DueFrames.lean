import UsbTv.Driver.Fields

set_option relaxedAutoImplicit false
set_option autoImplicit false

/-!
# Due frames

The frames that a stream of fields should make with a scan type, and what became of each: with
`PROGRESSIVE` every field is a frame, with `DISCARD` every odd field, and with `INTERLEAVED` an
odd field and the even field right after it. A frame stays pending until it is handed over; when a
packet of a field that is not its own arrives before that, it is abandoned.

Nothing here looks at a member of the driver. The ledger of a stream is what the loss counters
are to be compared with.

## Main definitions

* `UsbTv.DueFrame` — the fields of a due frame, and its fate.
* `UsbTv.Ledger` — the due frames of a stream, the last one first.
* `UsbTv.Ledger.started`, `delivered`, `dropped`, `incomplete`, `inProgress` — its counts.
* `UsbTv.Ledger.record` — the ledger after one more field.

## Main results

* `UsbTv.Ledger.dropped_abandon` — the frames that are abandoned were in progress.
* `UsbTv.Ledger.started_eq` — what became of the frames that were started.
-/

namespace UsbTv

/-- What became of a due frame. -/
inductive Fate
  /-- It has not been handed over, and no packet of a later frame has come. -/
  | pending
  /-- A field that is not its own came before it was handed over. -/
  | abandoned
  /-- It was handed over, and the queue took it. -/
  | delivered
  /-- It was handed over, and the queue had no room. -/
  | refused
  deriving DecidableEq, Repr

/-- The fate of a frame with which the queue was called, or not yet. -/
def Fate.of : Option Answer → Fate
  | none => .pending
  | some .refused => .refused
  | some _ => .delivered

/-- A due frame: its fields so far and its fate. -/
structure DueFrame (N : ℕ) where
  fields : List (VideoField N)
  fate : Fate

namespace DueFrame

variable {N : ℕ} (d : DueFrame N)

/-- At least one packet of the frame was received. -/
def Started : Prop := ∃ f ∈ d.fields, f.Survives

/-- The frame was started, and its fate is open. -/
def InProgress : Prop := d.fate = .pending ∧ d.Started

/-- The frame was started, and abandoned before delivery or refused by the queue. -/
def Dropped : Prop := (d.fate = .abandoned ∨ d.fate = .refused) ∧ d.Started

/-- The queue took the frame. -/
def Delivered : Prop := d.fate = .delivered ∧ d.Started

/-- The frame reached the queue step with a packet missing. -/
def Incomplete : Prop :=
  (d.fate = .delivered ∨ d.fate = .refused) ∧ ∃ f ∈ d.fields, ¬ f.Whole

instance : Decidable d.Started := inferInstanceAs (Decidable (∃ f ∈ d.fields, f.Survives))

instance : Decidable d.InProgress := inferInstanceAs (Decidable (_ ∧ _))

instance : Decidable d.Dropped := inferInstanceAs (Decidable (_ ∧ _))

instance : Decidable d.Delivered := inferInstanceAs (Decidable (_ ∧ _))

instance : Decidable d.Incomplete :=
  inferInstanceAs (Decidable ((_ ∨ _) ∧ ∃ f ∈ d.fields, ¬ f.Whole))

/-- A frame of which a packet arrived is in progress as long as the queue was not called. -/
lemma inProgress_of_iff {fields : List (VideoField N)} {handover : Option Answer}
    (hs : ∃ f ∈ fields, f.Survives) : InProgress ⟨fields, Fate.of handover⟩ ↔ handover = none := by
  have hstarted : Started ⟨fields, Fate.of handover⟩ := hs
  rw [InProgress, and_iff_left hstarted]
  rcases handover with _ | answer
  · simp [Fate.of]
  · cases answer <;> simp [Fate.of]

/-- A frame of which a packet arrived and with which the queue was called is dropped if it is
refused. -/
lemma dropped_of_iff {fields : List (VideoField N)} {handover : Option Answer}
    (hs : ∃ f ∈ fields, f.Survives) :
    Dropped ⟨fields, Fate.of handover⟩ ↔ handover = some .refused := by
  have hstarted : Started ⟨fields, Fate.of handover⟩ := hs
  rw [Dropped, and_iff_left hstarted]
  rcases handover with _ | answer
  · simp [Fate.of]
  · cases answer <;> simp [Fate.of]

/-- The queue was called with the frame, and a packet is missing. -/
lemma incomplete_of_iff {fields : List (VideoField N)} {handover : Option Answer} :
    Incomplete ⟨fields, Fate.of handover⟩ ↔ handover ≠ none ∧ ∃ f ∈ fields, ¬ f.Whole := by
  rcases handover with _ | answer
  · simp [Incomplete, Fate.of]
  · cases answer <;> simp [Incomplete, Fate.of]

/-- A packet of another frame arrives. -/
def abandon : DueFrame N := if d.InProgress then { d with fate := .abandoned } else d

/-- A frame that was started is delivered, dropped or in progress, and one of them only. -/
lemma started_indicator :
    (if d.Started then 1 else 0) = (if d.Delivered then 1 else 0) +
      (if d.Dropped then 1 else 0) + if d.InProgress then 1 else 0 := by
  obtain ⟨fields, fate⟩ := d
  by_cases hs : Started ⟨fields, fate⟩
  · cases fate <;> simp [Delivered, Dropped, InProgress, hs]
  · simp [Delivered, Dropped, InProgress, hs]

lemma not_inProgress_abandon : ¬ d.abandon.InProgress := by
  by_cases h : d.InProgress
  · rw [abandon, if_pos h]
    exact fun h' => absurd h'.1 (by simp)
  · rwa [abandon, if_neg h]

lemma abandon_incomplete : d.abandon.Incomplete ↔ d.Incomplete := by
  by_cases h : d.InProgress
  · rw [abandon, if_pos h, Incomplete, Incomplete, h.1]
    simp
  · rw [abandon, if_neg h]

/-- A frame is dropped after it was abandoned if it was so before, or in progress. -/
lemma abandon_dropped_indicator :
    (if d.abandon.Dropped then 1 else 0) =
      (if d.Dropped then 1 else 0) + if d.InProgress then 1 else 0 := by
  by_cases h : d.InProgress
  · have hno : ¬ d.Dropped := by
      rintro ⟨hfate, -⟩
      simp [h.1] at hfate
    rw [abandon, if_pos h, if_pos h, if_neg hno, if_pos ⟨.inl rfl, h.2⟩]
  · rw [abandon, if_neg h, if_neg h, Nat.add_zero]

end DueFrame

/-- The due frames of a stream, the last one first. -/
abbrev Ledger (N : ℕ) := List (DueFrame N)

namespace Ledger

variable {N : ℕ} (l : Ledger N)

/-- The number of frames of which a packet was received. -/
def started : ℕ := l.countP (·.Started)

/-- The number of frames that the queue took. -/
def delivered : ℕ := l.countP (·.Delivered)

/-- The number of frames that were started, and abandoned or refused. -/
def dropped : ℕ := l.countP (·.Dropped)

/-- The number of frames that reached the queue step with a packet missing. -/
def incomplete : ℕ := l.countP (·.Incomplete)

/-- The number of frames that were started and whose fate is open. -/
def inProgress : ℕ := l.countP (·.InProgress)

/-- A packet of a new frame arrives. -/
def abandon : Ledger N := l.map DueFrame.abandon

/-- A field that is no part of the last frames arrives, or is lost. -/
def pass (x : VideoField N) : Ledger N := if x.Survives then abandon l else l

/-- The ledger after field `x`, during which the queue was called with the given answer, or not
called. -/
def record (scanType : ScanType) (x : VideoField N) (handover : Option Answer) : Ledger N :=
  match scanType, x.odd with
  | .progressive, _ => ⟨[x], Fate.of handover⟩ :: pass l x
  | .discard, true => ⟨[x], Fate.of handover⟩ :: pass l x
  | .discard, false => pass l x
  | .interleaved, true => ⟨[x], .pending⟩ :: pass l x
  | .interleaved, false =>
    match l with
    | ⟨[f], .pending⟩ :: l => ⟨[f, x], Fate.of handover⟩ :: pass l x
    | l => pass l x

/-! ## Counting -/

lemma started_cons (d : DueFrame N) :
    started (d :: l) = started l + if d.Started then 1 else 0 := by
  simp [started, List.countP_cons]

lemma delivered_cons (d : DueFrame N) :
    delivered (d :: l) = delivered l + if d.Delivered then 1 else 0 := by
  simp [delivered, List.countP_cons]

lemma dropped_cons (d : DueFrame N) :
    dropped (d :: l) = dropped l + if d.Dropped then 1 else 0 := by
  simp [dropped, List.countP_cons]

lemma incomplete_cons (d : DueFrame N) :
    incomplete (d :: l) = incomplete l + if d.Incomplete then 1 else 0 := by
  simp [incomplete, List.countP_cons]

lemma inProgress_cons (d : DueFrame N) :
    inProgress (d :: l) = inProgress l + if d.InProgress then 1 else 0 := by
  simp [inProgress, List.countP_cons]

/-- **What became of the frames that were started**: they were delivered or dropped, or are in
progress. -/
lemma started_eq : started l = delivered l + dropped l + inProgress l := by
  induction l with
  | nil => rfl
  | cons d l ih =>
    have h := d.started_indicator
    rw [started_cons, delivered_cons, dropped_cons, inProgress_cons]
    omega

@[simp] lemma abandon_cons (d : DueFrame N) : abandon (d :: l) = d.abandon :: abandon l := rfl

/-- **The frames that are abandoned were in progress.** -/
lemma dropped_abandon : dropped (abandon l) = dropped l + inProgress l := by
  induction l with
  | nil => rfl
  | cons d l ih =>
    rw [abandon_cons, dropped_cons, dropped_cons, inProgress_cons, ih,
      d.abandon_dropped_indicator]
    omega

lemma inProgress_abandon : inProgress (abandon l) = 0 := by
  rw [inProgress, abandon, List.countP_eq_zero]
  intro d hd
  obtain ⟨d, -, rfl⟩ := List.mem_map.mp hd
  simpa using d.not_inProgress_abandon

lemma incomplete_abandon : incomplete (abandon l) = incomplete l := by
  induction l with
  | nil => rfl
  | cons d l ih =>
    rw [abandon_cons, incomplete_cons, incomplete_cons, ih]
    simp only [d.abandon_incomplete]

/-- A frame with which the queue was not called is neither dropped nor incomplete. -/
lemma dropped_cons_pending (fields : List (VideoField N)) :
    dropped (⟨fields, .pending⟩ :: l) = dropped l := by
  simp [dropped_cons, DueFrame.Dropped]

lemma incomplete_cons_pending (fields : List (VideoField N)) :
    incomplete (⟨fields, .pending⟩ :: l) = incomplete l := by
  simp [incomplete_cons, DueFrame.Incomplete]

lemma inProgress_cons_pending (fields : List (VideoField N)) :
    inProgress (⟨fields, .pending⟩ :: l) =
      inProgress l + if ∃ f ∈ fields, f.Survives then 1 else 0 := by
  simp [inProgress_cons, DueFrame.InProgress, DueFrame.Started]

/-- A frame to which a field of it came last, when packets of it arrived: what was in progress
before it is dropped. -/
lemma dropped_cons_abandon {fields : List (VideoField N)} {handover : Option Answer}
    (hs : ∃ f ∈ fields, f.Survives) :
    dropped (⟨fields, Fate.of handover⟩ :: abandon l) =
      dropped l + inProgress l + if handover = some .refused then 1 else 0 := by
  rw [dropped_cons, dropped_abandon]
  simp only [DueFrame.dropped_of_iff hs]

lemma inProgress_cons_abandon {fields : List (VideoField N)} {handover : Option Answer}
    (hs : ∃ f ∈ fields, f.Survives) :
    inProgress (⟨fields, Fate.of handover⟩ :: abandon l) = if handover = none then 1 else 0 := by
  rw [inProgress_cons, inProgress_abandon, Nat.zero_add]
  simp only [DueFrame.inProgress_of_iff hs]

lemma incomplete_cons_abandon {fields : List (VideoField N)} {handover : Option Answer} :
    incomplete (⟨fields, Fate.of handover⟩ :: abandon l) =
      incomplete l + if handover ≠ none ∧ ∃ f ∈ fields, ¬ f.Whole then 1 else 0 := by
  rw [incomplete_cons, incomplete_abandon]
  simp only [DueFrame.incomplete_of_iff]

/-! ## One field -/

/-- The last frame is no odd field that waits for its even field. -/
def Closed : Prop := ∀ f l', l ≠ ⟨[f], .pending⟩ :: l'

lemma closed_nil : Closed ([] : Ledger N) := fun _ _ => (List.cons_ne_nil _ _).symm

lemma closed_abandon (h : Closed l) : Closed (abandon l) := by
  intro f l' heq
  cases l with
  | nil => exact absurd heq (List.cons_ne_nil _ _).symm
  | cons d l =>
    obtain ⟨hd, -⟩ := List.cons_eq_cons.mp heq
    have hno : ¬ d.InProgress := by
      intro hin
      rw [DueFrame.abandon, if_pos hin] at hd
      exact absurd (congrArg DueFrame.fate hd) (by simp)
    rw [DueFrame.abandon, if_neg hno] at hd
    exact h f l (by rw [hd])

/-- A frame of two fields is closed. -/
lemma closed_pair (f g : VideoField N) (fate : Fate) : Closed (⟨[f, g], fate⟩ :: l) := by
  intro f' l' heq
  simp at heq

lemma record_odd {x : VideoField N} (hodd : x.odd = true) (handover : Option Answer) :
    record l .interleaved x handover = ⟨[x], .pending⟩ :: pass l x := by
  simp only [record, hodd]

/-- The even field of the frame that waits for it. -/
lemma record_even {x : VideoField N} (hodd : x.odd = false) (f : VideoField N)
    (handover : Option Answer) :
    record (⟨[f], .pending⟩ :: l) .interleaved x handover =
      ⟨[f, x], Fate.of handover⟩ :: pass l x := by
  simp only [record, hodd]

/-- An even field that no frame waits for. -/
lemma record_even_of_closed {x : VideoField N} (hodd : x.odd = false) (h : Closed l)
    (handover : Option Answer) : record l .interleaved x handover = pass l x := by
  simp only [record, hodd]
  split
  · exact absurd rfl (h _ _)
  · rfl

/-- **A field of which nothing arrives** counts for nothing. -/
lemma record_of_not_survives (scanType : ScanType) {x : VideoField N} (hs : ¬ x.Survives) :
    dropped (record l scanType x none) = dropped l ∧
      incomplete (record l scanType x none) = incomplete l ∧
      inProgress (record l scanType x none) = inProgress l := by
  have hpass : ∀ l : Ledger N, pass l x = l := fun _ => if_neg hs
  have hnew : ∀ l : Ledger N, dropped (⟨[x], .pending⟩ :: l) = dropped l ∧
      incomplete (⟨[x], .pending⟩ :: l) = incomplete l ∧
      inProgress (⟨[x], .pending⟩ :: l) = inProgress l := by
    intro l
    simp [dropped_cons_pending, incomplete_cons_pending, inProgress_cons_pending, hs]
  have hpair : ∀ (f : VideoField N) (l : Ledger N),
      dropped (⟨[f, x], .pending⟩ :: l) = dropped (⟨[f], .pending⟩ :: l) ∧
      incomplete (⟨[f, x], .pending⟩ :: l) = incomplete (⟨[f], .pending⟩ :: l) ∧
      inProgress (⟨[f, x], .pending⟩ :: l) = inProgress (⟨[f], .pending⟩ :: l) := by
    intro f l
    simp [dropped_cons_pending, incomplete_cons_pending, inProgress_cons_pending, hs]
  unfold record
  split
  · rw [hpass]
    exact hnew l
  · rw [hpass]
    exact hnew l
  · rw [hpass]
    exact ⟨rfl, rfl, rfl⟩
  · rw [hpass]
    exact hnew l
  · split
    · rw [hpass]
      exact hpair _ _
    · rw [hpass]
      exact ⟨rfl, rfl, rfl⟩

end Ledger

end UsbTv
