import UsbTv.Driver.Steps
import UsbTv.Driver.Interleaved

set_option relaxedAutoImplicit false
set_option autoImplicit false

/-!
# What one field changes

The effect of a field that is recognised as new on the flags of the pool, on `_secondFrame` and on
the loss counters. Between fields no frame but the input frame is flagged as in progress, and a
finished field leaves none.

## Main definitions

* `UsbTv.UsbTvFrame.InProgress` — the frame is flagged as in progress.
* `UsbTv.Assembler.OthersIdle` — no frame but the input frame is.
* `UsbTv.Assembler.handover` — the answer of the queue while a field arrives.

## Main results

* `UsbTv.Assembler.feed_field_inProgress` — whether a frame is in progress after a field.
* `UsbTv.Assembler.handover_eq` — when the queue is called.
* `UsbTv.Assembler.feed_field_droppedFrameCounter`, `feed_field_incompleteFrameCounter` — what a
  field counts.
-/

namespace UsbTv

/-- The frame is flagged as in progress. -/
def UsbTvFrame.InProgress (f : UsbTvFrame) : Prop := f.flags &&& frameInProgress > 0

instance (f : UsbTvFrame) : Decidable f.InProgress := inferInstanceAs (Decidable (_ > _))

namespace Assembler

variable (a : Assembler) (answer : ℕ → Answer)

/-! ## Flags in the pool -/

/-- No frame but the input frame is flagged as in progress. -/
def OthersIdle : Prop := ∀ i ≠ a.usbInputFrame, ¬ (a.frames i).InProgress

lemma setInputFrame_othersIdle (f : UsbTvFrame) (h : a.OthersIdle) :
    (a.setInputFrame f).OthersIdle := by
  intro i hi
  have hne : i ≠ a.usbInputFrame := hi
  show ¬ (Function.update a.frames a.usbInputFrame f i).InProgress
  rw [Function.update_of_ne hne]
  exact h i hne

/-- No frame is flagged as in progress once the input frame is not. -/
lemma setInputFrame_idle {f : UsbTvFrame} (h : a.OthersIdle) (hf : ¬ f.InProgress) (i : ℕ) :
    ¬ ((a.setInputFrame f).frames i).InProgress := by
  show ¬ (Function.update a.frames a.usbInputFrame f i).InProgress
  by_cases hi : i = a.usbInputFrame
  · rw [hi, Function.update_self]
    exact hf
  · rw [Function.update_of_ne hi]
    exact h i hi

lemma startField_othersIdle (frameId : ℕ) (isOdd : Bool) (h : a.OthersIdle) :
    (a.startField frameId isOdd).OthersIdle := by
  unfold startField
  split_ifs <;> exact setInputFrame_othersIdle _ _ h

/-- A field that is finished is not in progress. -/
lemma flagFinished_idle (h : a.OthersIdle) (i : ℕ) : ¬ (a.flagFinished.frames i).InProgress := by
  have hpartial : ¬ framePartial &&& frameInProgress > 0 := by decide
  have hcomplete : ¬ frameComplete &&& frameInProgress > 0 := by decide
  unfold flagFinished
  split_ifs
  · exact setInputFrame_idle a (f := { a.inputFrame with flags := framePartial }) h hpartial i
  · exact setInputFrame_idle a (f := { a.inputFrame with flags := frameComplete }) h hcomplete i

/-- Whatever the queue answers, no frame is in progress after a frame was handed over. -/
lemma addCompleteFrameToQueue_idle (h : ∀ i, ¬ (a.frames i).InProgress) (i : ℕ) :
    ¬ ((a.addCompleteFrameToQueue answer).frames i).InProgress := by
  have hstart : ¬ frameStart &&& frameInProgress > 0 := by decide
  unfold addCompleteFrameToQueue
  cases answer a.handed.length with
  | refused =>
    exact setInputFrame_idle a.recordHandover.countDropped
      (f := { a.inputFrame with flags := frameStart }) (fun i _ => h i) hstart i
  | accepted next =>
    exact setInputFrame_idle { a.recordHandover with usbInputFrame := next }
      (f := { a.frames next with lock := true, flags := frameStart }) (fun i _ => h i) hstart i
  | stopped => exact h i

/-- **No frame is in progress after a field is finished.** -/
lemma checkFinishedFrame_idle (isOdd : Bool) (h : a.OthersIdle) (i : ℕ) :
    ¬ ((a.checkFinishedFrame answer isOdd).frames i).InProgress := by
  have hidle := a.flagFinished_idle h
  obtain ⟨second, heq | heq⟩ := a.checkFinishedFrame_cases answer isOdd
  · rw [heq]
    exact hidle i
  · rw [heq]
    exact addCompleteFrameToQueue_idle _ answer hidle i

/-- A frame that the queue refuses is counted as dropped. -/
lemma checkFinishedFrame_droppedFrameCounter (isOdd : Bool) :
    (a.checkFinishedFrame answer isOdd).droppedFrameCounter =
      if finishHandsOver a.frameParams.scanType a.secondFrame isOdd = true ∧
          answer a.handed.length = .refused then (a.droppedFrameCounter + 1) % 2 ^ 32
      else a.droppedFrameCounter := by
  have hflag : a.flagFinished.droppedFrameCounter = a.droppedFrameCounter := by
    unfold flagFinished
    split_ifs <;> rfl
  have hadd : (a.flagFinished.addCompleteFrameToQueue answer).droppedFrameCounter =
      if answer a.handed.length = .refused then (a.droppedFrameCounter + 1) % 2 ^ 32
      else a.droppedFrameCounter := by
    rw [← hflag, ← a.flagFinished_handed]
    unfold addCompleteFrameToQueue
    cases h : answer a.flagFinished.handed.length <;> rfl
  unfold checkFinishedFrame finishHandsOver
  cases a.frameParams.scanType with
  | progressive => simpa using hadd
  | discard =>
    cases isOdd with
    | true => simpa using hadd
    | false => simpa using hflag
  | interleaved =>
    cases a.secondFrame with
    | true => simpa [setSecondFrame] using hadd
    | false => cases isOdd <;> simpa [setSecondFrame] using hflag

/-! ## One field -/

variable {N : ℕ} (f : VideoField N)

lemma filled_secondFrame : (f.filled a).secondFrame = a.secondFrame :=
  a.startField_secondFrame f.id f.odd

lemma filled_incompleteFrameCounter :
    (f.filled a).incompleteFrameCounter = a.incompleteFrameCounter := by
  show (a.startField f.id f.odd).incompleteFrameCounter = _
  unfold startField
  split_ifs <;> rfl

/-- A frame that is in progress when a field starts is counted as dropped. -/
lemma filled_droppedFrameCounter :
    (f.filled a).droppedFrameCounter =
      if a.inputFrame.InProgress then (a.droppedFrameCounter + 1) % 2 ^ 32
      else a.droppedFrameCounter := by
  show (a.startField f.id f.odd).droppedFrameCounter = _
  by_cases h : a.inputFrame.InProgress
  · have hflags : a.inputFrame.flags &&& frameInProgress > 0 := h
    rw [if_pos h, startField, if_pos hflags]
    rfl
  · have hflags : ¬ a.inputFrame.flags &&& frameInProgress > 0 := h
    rw [if_neg h, startField, if_neg hflags]
    rfl

lemma filled_othersIdle (h : a.OthersIdle) : (f.filled a).OthersIdle :=
  setInputFrame_othersIdle _ _ (a.startField_othersIdle f.id f.odd h)

/-- The frame is in progress once a field has started. -/
lemma filled_inProgress : (f.filled a).inputFrame.InProgress := by
  have h := (a.startField f.id f.odd).memcpy_inputFrame (f.copies a.frameParams)
  rw [startField_inputFrame] at h
  show ((a.startField f.id f.odd).memcpy (f.copies a.frameParams)).inputFrame.InProgress
  rw [h]
  show frameInProgress &&& frameInProgress > 0
  decide

/-- The answer of the queue while a field arrives, if it is called. -/
def handover : Option Answer :=
  if (a.feed answer f.packets).handed.length = a.handed.length then none
  else some (answer a.handed.length)

lemma handover_of_not_survives (hs : ¬ f.Survives) : a.handover answer f = none := by
  rw [handover, feed_field_of_not_survives a answer f hs, if_pos rfl]

section Field

variable (hp : a.packetsPerField = N) (h0 : 0 < N) (hs : f.Survives)
  (hnew : f.Recognised a.currentFrameId)

include hp h0 hs hnew

/-- A field that leaves a trace and is recognised fills the input frame, and is finished if its
last packet arrives. -/
lemma feed_field_eq : a.feed answer f.packets =
    if f.Finishes then (f.filled a).checkFinishedFrame answer f.odd else f.filled a := by
  have hN := f.le_of_valid
  split_ifs with hf
  · exact feed_field_of_finishes f a answer hp h0 (by omega) hnew hf
  · rw [feed_field_of_not_finishes f a answer hp h0 (by omega) hnew hf, if_pos hs]

lemma feed_field_currentFrameId : (a.feed answer f.packets).currentFrameId = f.id := by
  rw [feed_field_eq a answer f hp h0 hs hnew]
  split_ifs
  · rw [checkFinishedFrame_currentFrameId, filled_currentFrameId]
  · exact filled_currentFrameId a f

lemma feed_field_secondFrame : (a.feed answer f.packets).secondFrame =
    if f.Finishes then secondAfter a.frameParams.scanType a.secondFrame f.odd
    else a.secondFrame := by
  rw [feed_field_eq a answer f hp h0 hs hnew]
  split_ifs
  · rw [checkFinishedFrame_secondFrame, filled_frameParams, filled_secondFrame]
  · exact filled_secondFrame a f

/-- **A frame is in progress after a field** if it is the frame of that field, and the field was
not finished. -/
lemma feed_field_inProgress (hidle : a.OthersIdle) :
    (a.feed answer f.packets).OthersIdle ∧
      ((a.feed answer f.packets).inputFrame.InProgress ↔ ¬ f.Finishes) := by
  rw [feed_field_eq a answer f hp h0 hs hnew]
  have hothers := filled_othersIdle a f hidle
  split_ifs with hf
  · have h := checkFinishedFrame_idle (f.filled a) answer f.odd hothers
    exact ⟨fun i _ => h i, iff_of_false (h _) (not_not.mpr hf)⟩
  · exact ⟨hothers, iff_of_true (filled_inProgress a f) hf⟩

/-- **When the queue is called** while a field arrives. -/
lemma handover_eq : a.handover answer f =
    if f.Finishes ∧ finishHandsOver a.frameParams.scanType a.secondFrame f.odd = true then
      some (answer a.handed.length)
    else none := by
  rw [handover, feed_field_eq a answer f hp h0 hs hnew]
  by_cases hf : f.Finishes
  · rw [if_pos hf, checkFinishedFrame_handed, filled_frameParams, filled_secondFrame,
      filled_handed]
    simp only [hf, true_and]
    split_ifs <;> simp_all
  · simp only [hf, false_and, if_false, filled_handed, if_true]

/-- **What a field adds to `_droppedFrameCounter`**: the frame in progress that it finds, and the
frame that the queue refuses. -/
lemma feed_field_droppedFrameCounter {n : ℕ} (hn : a.droppedFrameCounter = n % 2 ^ 32) :
    (a.feed answer f.packets).droppedFrameCounter =
      (n + (if a.inputFrame.InProgress then 1 else 0) +
        if a.handover answer f = some .refused then 1 else 0) % 2 ^ 32 := by
  have hfilled : (f.filled a).droppedFrameCounter =
      (n + if a.inputFrame.InProgress then 1 else 0) % 2 ^ 32 := by
    rw [filled_droppedFrameCounter, hn]
    split_ifs
    · rw [Nat.mod_add_mod]
    · rfl
  rw [handover_eq a answer f hp h0 hs hnew, feed_field_eq a answer f hp h0 hs hnew]
  by_cases hf : f.Finishes
  · rw [if_pos hf, checkFinishedFrame_droppedFrameCounter, filled_frameParams,
      filled_secondFrame, filled_handed, hfilled]
    by_cases hover : finishHandsOver a.frameParams.scanType a.secondFrame f.odd = true
    · simp only [hf, hover, and_self, true_and, if_true, Option.some_inj]
      split_ifs <;> simp
    · simp [hf, hover]
  · simp only [hf, false_and, if_false, reduceCtorEq, hfilled, Nat.add_zero]

/-- **What a field adds to `_incompleteFrameCounter`**: one if it is finished with a packet
missing. -/
lemma feed_field_incompleteFrameCounter {n : ℕ} (hn : a.incompleteFrameCounter = n % 2 ^ 32) :
    (a.feed answer f.packets).incompleteFrameCounter =
      (n + if f.Finishes ∧ ¬ f.Whole then 1 else 0) % 2 ^ 32 := by
  rw [feed_field_eq a answer f hp h0 hs hnew]
  by_cases hf : f.Finishes
  · rw [if_pos hf, checkFinishedFrame_incompleteFrameCounter, filled_incompleteFrameCounter,
      filled_packetsDone, filled_packetsPerField, hp, hn]
    simp only [hf, true_and, ne_eq, f.length_numbers_eq_iff]
    split_ifs
    · rfl
    · rw [Nat.mod_add_mod]
  · rw [if_neg hf, filled_incompleteFrameCounter, hn]
    simp [hf]

end Field

end Assembler

end UsbTv
