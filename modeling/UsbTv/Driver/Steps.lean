import UsbTv.Driver.Progressive

set_option relaxedAutoImplicit false
set_option autoImplicit false

/-!
# What one packet changes

Member by member, the effect of receiving a packet and of finishing a field. Whether a packet
hands a frame over is decided by its header and by `_secondFrame`, so the packets of a sequence
that complete a frame can be told from the sequence alone.

## Main definitions

* `UsbTv.Assembler.HandsOver` — the packet completes a frame.
* `UsbTv.completing` — the packets of a sequence that complete a frame.
* `UsbTv.Assembler.submissions` — the frames handed over, each with the packet that completed it.

## Main results

* `UsbTv.Assembler.processPacket_handed` — a packet that completes a frame hands it over.
* `UsbTv.Assembler.submissions_fst` — the frames handed over belong to the completing packets.
* `UsbTv.Assembler.feed_handed` — they are all that is handed over.
-/

namespace UsbTv

/-- The packet has a valid header and a number of this norm. -/
def Packet.Accepted (N : ℕ) (packet : Packet) : Prop :=
  usbtvFrameOk packet.header = true ∧ usbtvPacketNo packet.header < N

instance (N : ℕ) (packet : Packet) : Decidable (packet.Accepted N) :=
  inferInstanceAs (Decidable (_ ∧ _))

/-- The packet is the last one of its field. -/
def Packet.IsLast (N : ℕ) (packet : Packet) : Prop :=
  packet.Accepted N ∧ usbtvPacketNo packet.header + 1 = N

instance (N : ℕ) (packet : Packet) : Decidable (packet.IsLast N) :=
  inferInstanceAs (Decidable (_ ∧ _))

/-- Whether finishing a field of the given parity hands the frame over: with `DISCARD` an odd
one does, and with `INTERLEAVED` one that finds `_secondFrame` set. -/
def finishHandsOver : ScanType → (second isOdd : Bool) → Bool
  | .progressive, _, _ => true
  | .discard, _, isOdd => isOdd
  | .interleaved, second, _ => second

/-- `_secondFrame` after a field of the given parity is finished. -/
def secondAfter : ScanType → (second isOdd : Bool) → Bool
  | .interleaved, second, isOdd => !second && isOdd
  | _, second, _ => second

/-- The packets of a sequence that complete a frame, from the value of `_secondFrame` on. -/
def completing (scanType : ScanType) (N : ℕ) : Bool → List Packet → List Packet
  | _, [] => []
  | second, p :: ps =>
    if p.IsLast N then
      (if finishHandsOver scanType second (usbtvOdd p.header) then [p] else []) ++
        completing scanType N (secondAfter scanType second (usbtvOdd p.header)) ps
    else completing scanType N second ps

namespace Assembler

variable (a : Assembler) (answer : ℕ → Answer)

/-! ## Receiving a packet -/

lemma ignored_iff (packet : Packet) :
    a.Ignored packet ↔ ¬ packet.Accepted a.packetsPerField := by
  simp only [Ignored, Packet.Accepted, not_and_or, Bool.not_eq_true, not_lt]

lemma receive_frameParams (packet : Packet) :
    (a.receive packet).frameParams = a.frameParams :=
  ((SameConfig.refl a).receive packet).frameParams

lemma receive_packetsPerField (packet : Packet) :
    (a.receive packet).packetsPerField = a.packetsPerField :=
  ((SameConfig.refl a).receive packet).packetsPerField

lemma receive_incompleteFrameCounter (packet : Packet) :
    (a.receive packet).incompleteFrameCounter = a.incompleteFrameCounter := by
  unfold receive startField
  split_ifs <;> rfl

lemma receive_handed (packet : Packet) : (a.receive packet).handed = a.handed := by
  unfold receive startField
  split_ifs <;> rfl

lemma receive_secondFrame (packet : Packet) : (a.receive packet).secondFrame = a.secondFrame := by
  unfold receive startField
  split_ifs <;> rfl

lemma receive_usbInputFrame (packet : Packet) :
    (a.receive packet).usbInputFrame = a.usbInputFrame := by
  unfold receive startField
  split_ifs <;> rfl

/-- Whether it starts a field or goes on with one, a packet leaves its id behind. -/
lemma receive_currentFrameId (packet : Packet) :
    (a.receive packet).currentFrameId = usbtvFrameId packet.header := by
  by_cases hs : a.Starts packet
  · rw [receive, if_pos hs]
    exact a.startField_currentFrameId _ _
  · rw [receive, if_neg hs]
    simp only [Starts, not_or, ne_eq, not_not] at hs
    exact hs.2.symm

/-- A packet that starts a field is its first one, any other one adds to those before it. -/
lemma receive_packetsDone (packet : Packet) :
    (a.receive packet).packetsDone =
      ((if a.Starts packet then 0 else a.packetsDone) + 1) % 2 ^ 16 := by
  by_cases hs : a.Starts packet
  · rw [receive, if_pos hs, if_pos hs]
    show ((a.startField _ _).packetsDone + 1) % 2 ^ 16 = _
    rw [startField_packetsDone]
  · rw [receive, if_neg hs, if_neg hs]
    rfl

/-- A field that starts while another one is in progress drops a frame. -/
lemma receive_droppedFrameCounter (packet : Packet) :
    (a.receive packet).droppedFrameCounter =
      if a.Starts packet ∧ a.inputFrame.flags &&& frameInProgress > 0 then
        (a.droppedFrameCounter + 1) % 2 ^ 32
      else a.droppedFrameCounter := by
  unfold receive startField
  by_cases hs : a.Starts packet <;>
    by_cases hf : a.inputFrame.flags &&& frameInProgress > 0 <;> simp only [hs, hf] <;> rfl

/-- The frame is in progress once a field has started. -/
lemma receive_flags (packet : Packet) :
    (a.receive packet).inputFrame.flags =
      if a.Starts packet then frameInProgress else a.inputFrame.flags := by
  by_cases hs : a.Starts packet
  · rw [receive, if_pos hs, if_pos hs]
    show (memcpy _ _).inputFrame.flags = _
    rw [memcpy_inputFrame, startField_inputFrame]
  · rw [receive, if_neg hs, if_neg hs]
    show (memcpy _ _).inputFrame.flags = _
    rw [memcpy_inputFrame]

/-! ## Finishing a field -/

/-- A field counts as incomplete when the packets counted are not as many as it should have. -/
lemma checkFinishedFrame_incompleteFrameCounter (isOdd : Bool) :
    (a.checkFinishedFrame answer isOdd).incompleteFrameCounter =
      if a.packetsDone ≠ a.packetsPerField then (a.incompleteFrameCounter + 1) % 2 ^ 32
      else a.incompleteFrameCounter := by
  have hflag : a.flagFinished.incompleteFrameCounter =
      if a.packetsDone ≠ a.packetsPerField then (a.incompleteFrameCounter + 1) % 2 ^ 32
      else a.incompleteFrameCounter := by
    unfold flagFinished
    split_ifs <;> rfl
  have hadd : (a.flagFinished.addCompleteFrameToQueue answer).incompleteFrameCounter =
      a.flagFinished.incompleteFrameCounter := by
    unfold addCompleteFrameToQueue
    split <;> rfl
  rw [← hflag]
  obtain ⟨second, heq | heq⟩ := a.checkFinishedFrame_cases answer isOdd
  · rw [heq]
    rfl
  · rw [heq]
    exact hadd

/-- What finishing a field puts on record. -/
lemma checkFinishedFrame_handed (isOdd : Bool) :
    (a.checkFinishedFrame answer isOdd).handed =
      if finishHandsOver a.frameParams.scanType a.secondFrame isOdd then
        a.handed ++ [⟨a.usbInputFrame, a.flagFinished.inputFrame⟩]
      else a.handed := by
  have hadd : (a.flagFinished.addCompleteFrameToQueue answer).handed =
      a.handed ++ [⟨a.usbInputFrame, a.flagFinished.inputFrame⟩] := by
    rw [addCompleteFrameToQueue_handed, flagFinished_handed, flagFinished_usbInputFrame]
  have hflag := a.flagFinished_handed
  unfold checkFinishedFrame
  cases a.frameParams.scanType with
  | progressive => exact hadd
  | discard =>
    cases isOdd with
    | true => exact hadd
    | false => exact hflag
  | interleaved =>
    cases a.secondFrame with
    | true => exact hadd
    | false => cases isOdd <;> exact hflag

/-- What finishing a field makes of `_secondFrame`. -/
lemma checkFinishedFrame_secondFrame (isOdd : Bool) :
    (a.checkFinishedFrame answer isOdd).secondFrame =
      secondAfter a.frameParams.scanType a.secondFrame isOdd := by
  have hflag := a.flagFinished_secondFrame
  have hadd : (a.flagFinished.addCompleteFrameToQueue answer).secondFrame = a.secondFrame := by
    rw [← hflag]
    unfold addCompleteFrameToQueue
    split <;> rfl
  unfold checkFinishedFrame
  cases a.frameParams.scanType with
  | progressive => exact hadd
  | discard => cases isOdd <;> simp [secondAfter, hadd]
  | interleaved =>
    cases hs : a.secondFrame with
    | true => simp [secondAfter, setSecondFrame]
    | false => cases isOdd <;> simp [secondAfter, setSecondFrame, hs]

/-! ## One packet -/

/-- The packet completes a frame. -/
def HandsOver (packet : Packet) : Prop :=
  packet.IsLast a.packetsPerField ∧
    finishHandsOver a.frameParams.scanType a.secondFrame (usbtvOdd packet.header) = true

instance (packet : Packet) : Decidable (a.HandsOver packet) :=
  inferInstanceAs (Decidable (_ ∧ _))

/-- An accepted packet is received, and the last one of a field finishes it. -/
lemma processPacket_eq (packet : Packet) (hN : a.packetsPerField < 2 ^ 16) :
    a.processPacket answer packet =
      if packet.IsLast a.packetsPerField then
        (a.receive packet).checkFinishedFrame answer (usbtvOdd packet.header)
      else if packet.Accepted a.packetsPerField then a.receive packet else a := by
  by_cases hacc : packet.Accepted a.packetsPerField
  · have hign : ¬ a.Ignored packet := by rw [ignored_iff, not_not]; exact hacc
    have hlast : packet.IsLast a.packetsPerField ↔
        usbtvPacketNo packet.header + 1 = a.packetsPerField := and_iff_right hacc
    rw [processPacket_of_accepted a answer hign (by omega), if_pos hacc]
    simp only [hlast]
  · have hlast : ¬ packet.IsLast a.packetsPerField := fun h => hacc h.1
    rw [processPacket, if_pos ((a.ignored_iff packet).mpr hacc), if_neg hlast, if_neg hacc]

/-- **A packet that completes a frame hands it over**, and no other packet does. -/
lemma processPacket_handed (packet : Packet) (hN : a.packetsPerField < 2 ^ 16) :
    (a.processPacket answer packet).handed =
      if a.HandsOver packet then
        a.handed ++ [⟨a.usbInputFrame, (a.receive packet).flagFinished.inputFrame⟩]
      else a.handed := by
  rw [a.processPacket_eq answer packet hN]
  by_cases hlast : packet.IsLast a.packetsPerField
  · rw [if_pos hlast, checkFinishedFrame_handed, receive_handed, receive_usbInputFrame,
      receive_frameParams, receive_secondFrame]
    simp only [HandsOver, hlast, true_and]
  · have hno : ¬ a.HandsOver packet := fun h => hlast h.1
    rw [if_neg hlast, if_neg hno]
    split_ifs
    · exact a.receive_handed packet
    · rfl

/-- What a packet makes of `_secondFrame`. -/
lemma processPacket_secondFrame (packet : Packet) (hN : a.packetsPerField < 2 ^ 16) :
    (a.processPacket answer packet).secondFrame =
      if packet.IsLast a.packetsPerField then
        secondAfter a.frameParams.scanType a.secondFrame (usbtvOdd packet.header)
      else a.secondFrame := by
  rw [a.processPacket_eq answer packet hN]
  by_cases hlast : packet.IsLast a.packetsPerField
  · rw [if_pos hlast, if_pos hlast, checkFinishedFrame_secondFrame, receive_frameParams,
      receive_secondFrame]
  · rw [if_neg hlast, if_neg hlast]
    split_ifs
    · exact a.receive_secondFrame packet
    · rfl

/-- The packets are counted one by one from the start of a field on. -/
lemma processPacket_packetsDone {packet : Packet} (hacc : packet.Accepted a.packetsPerField)
    (hN : a.packetsPerField < 2 ^ 16) :
    (a.processPacket answer packet).packetsDone =
      ((if a.Starts packet then 0 else a.packetsDone) + 1) % 2 ^ 16 := by
  rw [a.processPacket_eq answer packet hN, if_pos hacc, ← receive_packetsDone]
  split_ifs
  · exact checkFinishedFrame_packetsDone _ answer _
  · rfl

/-- An accepted packet leaves its id behind. -/
lemma processPacket_currentFrameId {packet : Packet} (hacc : packet.Accepted a.packetsPerField)
    (hN : a.packetsPerField < 2 ^ 16) :
    (a.processPacket answer packet).currentFrameId = usbtvFrameId packet.header := by
  rw [a.processPacket_eq answer packet hN, if_pos hacc, ← a.receive_currentFrameId packet]
  split_ifs
  · exact checkFinishedFrame_currentFrameId _ answer _
  · rfl

/-! ## The pool -/

/-- The frames of the pool without their flags and locks. -/
def contents : ℕ → UsbTvFrame := fun i => { a.frames i with flags := 0, lock := false }

lemma setInputFrame_contents (f : UsbTvFrame) :
    (a.setInputFrame f).contents =
      Function.update a.contents a.usbInputFrame { f with flags := 0, lock := false } := by
  funext i
  show { Function.update a.frames a.usbInputFrame f i with flags := 0, lock := false } = _
  by_cases hi : i = a.usbInputFrame
  · rw [hi, Function.update_self, Function.update_self]
  · rw [Function.update_of_ne hi, Function.update_of_ne hi]
    rfl

/-- Other flags and locks are no other contents. -/
lemma setInputFrame_contents_of_eq {f : UsbTvFrame}
    (hf : { f with flags := 0, lock := false } = a.contents a.usbInputFrame) :
    (a.setInputFrame f).contents = a.contents := by
  rw [setInputFrame_contents, hf, Function.update_eq_self]

lemma startField_contents (frameId : ℕ) (isOdd : Bool) :
    (a.startField frameId isOdd).contents = a.contents := by
  unfold startField
  split_ifs <;> exact setInputFrame_contents_of_eq _ rfl

lemma flagFinished_contents : a.flagFinished.contents = a.contents := by
  unfold flagFinished
  split_ifs <;> exact setInputFrame_contents_of_eq _ rfl

lemma addCompleteFrameToQueue_contents :
    (a.addCompleteFrameToQueue answer).contents = a.contents := by
  unfold addCompleteFrameToQueue
  split
  · exact setInputFrame_contents_of_eq _ rfl
  · rfl
  · exact setInputFrame_contents_of_eq _ rfl

lemma checkFinishedFrame_contents (isOdd : Bool) :
    (a.checkFinishedFrame answer isOdd).contents = a.contents := by
  obtain ⟨second, heq | heq⟩ := a.checkFinishedFrame_cases answer isOdd
  · rw [heq]
    exact a.flagFinished_contents
  · rw [heq]
    exact (addCompleteFrameToQueue_contents _ answer).trans a.flagFinished_contents

/-- Receiving a packet copies it into the input frame. -/
lemma receive_contents (packet : Packet) :
    (a.receive packet).contents = Function.update a.contents a.usbInputFrame
      { a.contents a.usbInputFrame with
        buffer := (a.contents a.usbInputFrame).buffer.copies (placePacket a.frameParams
          packet.payload (usbtvPacketNo packet.header) (usbtvOdd packet.header)) } := by
  have hplace : ∀ (b : Assembler) cs, b.contents = a.contents →
      b.usbInputFrame = a.usbInputFrame →
      ((b.memcpy cs).countPacket).contents = Function.update a.contents a.usbInputFrame
        { a.contents a.usbInputFrame with
          buffer := (a.contents a.usbInputFrame).buffer.copies cs } := by
    intro b cs hb hi
    have h := b.setInputFrame_contents
      { b.inputFrame with buffer := b.inputFrame.buffer.copies cs }
    rw [← hb, ← hi]
    exact h
  unfold receive
  split_ifs
  · rw [hplace _ _ (a.startField_contents _ _) (a.startField_usbInputFrame _ _),
      startField_frameParams]
  · exact hplace _ _ rfl rfl

/-- **What a packet does to the pool**: an accepted one is copied into the input frame. -/
lemma processPacket_contents (packet : Packet) (hN : a.packetsPerField < 2 ^ 16) :
    (a.processPacket answer packet).contents =
      if packet.Accepted a.packetsPerField then
        Function.update a.contents a.usbInputFrame
          { a.contents a.usbInputFrame with
            buffer := (a.contents a.usbInputFrame).buffer.copies (placePacket a.frameParams
              packet.payload (usbtvPacketNo packet.header) (usbtvOdd packet.header)) }
      else a.contents := by
  rw [a.processPacket_eq answer packet hN, ← receive_contents]
  by_cases hlast : packet.IsLast a.packetsPerField
  · rw [if_pos hlast, if_pos hlast.1, checkFinishedFrame_contents]
  · rw [if_neg hlast]
    split_ifs <;> rfl

/-- A packet that is not the last of its field goes to the same frame as the next one. -/
lemma processPacket_usbInputFrame {packet : Packet} (h : ¬ packet.IsLast a.packetsPerField)
    (hN : a.packetsPerField < 2 ^ 16) :
    (a.processPacket answer packet).usbInputFrame = a.usbInputFrame := by
  rw [a.processPacket_eq answer packet hN, if_neg h]
  split_ifs
  · exact a.receive_usbInputFrame packet
  · rfl

/-! ## Packet sequences -/

/-- The frames handed over by a packet sequence, each with the packet that completed it. -/
def submissions (a : Assembler) (answer : ℕ → Answer) : List Packet → List (Packet × Handover)
  | [] => []
  | p :: ps => ((a.processPacket answer p).handed.drop a.handed.length).map (p, ·) ++
      submissions (a.processPacket answer p) answer ps

/-- What one packet submits. -/
lemma processPacket_drop_handed (packet : Packet) (hN : a.packetsPerField < 2 ^ 16) :
    (a.processPacket answer packet).handed.drop a.handed.length =
      if a.HandsOver packet then
        [⟨a.usbInputFrame, (a.receive packet).flagFinished.inputFrame⟩]
      else [] := by
  rw [a.processPacket_handed answer packet hN]
  split_ifs
  · exact List.drop_left
  · exact List.drop_length

/-- **All that is handed over** are the submissions. -/
theorem feed_handed (packets : List Packet) (hN : a.packetsPerField < 2 ^ 16) :
    (a.feed answer packets).handed =
      a.handed ++ (a.submissions answer packets).map Prod.snd := by
  induction packets generalizing a with
  | nil => exact (List.append_nil _).symm
  | cons p ps ih =>
    have hcfg := (a.processPacket_config answer p).packetsPerField
    rw [feed_cons, ih _ (by rw [hcfg]; exact hN), submissions, List.map_append, List.map_map,
      a.processPacket_drop_handed answer p hN, a.processPacket_handed answer p hN]
    split_ifs <;> simp

/-- **The completing packets submit the frames.** -/
lemma submissions_fst (packets : List Packet) (hN : a.packetsPerField < 2 ^ 16) :
    (a.submissions answer packets).map Prod.fst =
      completing a.frameParams.scanType a.packetsPerField a.secondFrame packets := by
  induction packets generalizing a with
  | nil => rfl
  | cons p ps ih =>
    have hcfg := a.processPacket_config answer p
    have hsecond := a.processPacket_secondFrame answer p hN
    have ih := ih (a.processPacket answer p) (by rw [hcfg.packetsPerField]; exact hN)
    rw [hcfg.packetsPerField, hcfg.frameParams] at ih
    rw [submissions, List.map_append, List.map_map, ih, hsecond,
      a.processPacket_drop_handed answer p hN]
    by_cases hlast : p.IsLast a.packetsPerField
    · simp only [completing, HandsOver, hlast, true_and, if_true]
      split_ifs <;> rfl
    · simp only [completing, HandsOver, hlast, false_and, if_false, List.map_nil, List.nil_append]

end Assembler

end UsbTv
