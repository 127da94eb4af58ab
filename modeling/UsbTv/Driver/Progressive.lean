import UsbTv.Driver.Fields

set_option relaxedAutoImplicit false
set_option autoImplicit false

/-!
# Frame assembly without interleaving

With scan type `PROGRESSIVE` every field is a frame, with `DISCARD` every odd field. A stream
with losses is a list of fields of which some packets arrive. As long as two consecutive fields
that leave a trace have different ids, the frames handed over are exactly the fields whose last
packet arrives, flagged by what was lost of them, and every packet that arrives is found at its
place in the buffer.

## Main definitions

* `UsbTv.VideoField.Due` — the field has to reach `addCompleteFrameToQueue`.
* `UsbTv.VideoField.CarriedBy` — a frame that was handed over carries the field.

## Main results

* `UsbTv.Assembler.feed_field_handed` — one field.
* `UsbTv.Assembler.feed_stream_handed` — a stream of fields.
-/

namespace UsbTv

namespace VideoField

variable {N : ℕ}

/-- The field has to reach `addCompleteFrameToQueue`: its last packet arrives, and with scan type
`DISCARD` it is odd. -/
def Due (scanType : ScanType) (f : VideoField N) : Prop :=
  f.Finishes ∧ (scanType = .discard → f.odd = true)

instance (scanType : ScanType) (f : VideoField N) : Decidable (f.Due scanType) :=
  inferInstanceAs (Decidable (_ ∧ _))

/-- The frame, as it was handed over, carries the field: it is flagged by whether a packet was
lost, and every packet that arrived is at its place. -/
structure CarriedBy (f : VideoField N) (h : Handover) : Prop where
  flags : h.frame.flags = if f.Whole then frameComplete else framePartial
  buffer : ∀ k < N, f.received k = true → ∀ b < usbtvPayloadSize,
    h.frame.buffer (usbtvPayloadSize * k + b) = some ((f.packet k).payload b)

/-- Without interleaving, packet `k` of a field is copied to offset `960 * k`. -/
lemma copies_eq (f : VideoField N) (hN : N ≤ 4096) {params : FrameParams}
    (hparams : params.scanType = .progressive ∨ params.scanType = .discard ∧ f.odd = true) :
    f.copies params = (f.numbers N).map fun k =>
      ⟨usbtvPayloadSize * k, usbtvPayloadSize, (f.packet k).payload⟩ := by
  have hplace : ∀ k ∈ f.numbers N, Assembler.placePacket params (f.packet k).payload k f.odd =
      [⟨usbtvPayloadSize * k, usbtvPayloadSize, (f.packet k).payload⟩] := by
    intro k hk
    have hk' := (f.mem_numbers.mp hk).1
    have hoff : Assembler.progressiveOffset k = usbtvPayloadSize * k :=
      Assembler.progressiveOffset_eq (by omega)
    rcases hparams with hs | ⟨hs, hodd⟩
    · simp only [Assembler.placePacket, hs, Assembler.packetToProgressiveFrame, hoff]
    · simp only [Assembler.placePacket, hs, hodd, if_true, Assembler.packetToProgressiveFrame,
        hoff]
  rw [copies, copiesBelow, List.flatMap_congr hplace, List.map_eq_flatMap]

/-- Every packet of the field that arrived can be read back at its place. -/
lemma copies_apply (f : VideoField N) (hN : N ≤ 4096) {params : FrameParams}
    (hparams : params.scanType = .progressive ∨ params.scanType = .discard ∧ f.odd = true)
    (m : Mem UInt8) {k : ℕ} (hk : k < N) (hr : f.received k = true) {b : ℕ}
    (hb : b < usbtvPayloadSize) :
    m.copies (f.copies params) (usbtvPayloadSize * k + b) = some ((f.packet k).payload b) := by
  rw [f.copies_eq hN hparams]
  have hdisjoint : ((f.numbers N).map fun k => (⟨usbtvPayloadSize * k, usbtvPayloadSize,
      (f.packet k).payload⟩ : Copy UInt8)).Pairwise fun c c' => ∀ i, c.Covers i →
      ¬ c'.Covers i := by
    rw [List.pairwise_map]
    refine (f.pairwise_numbers N).imp fun {j k} hjk i hj hk => ?_
    -- packets of ascending numbers lie one after the other
    simp only [Copy.Covers, usbtvPayloadSize] at hj hk
    omega
  exact Mem.copies_apply_of_mem hdisjoint
    (List.mem_map.mpr ⟨k, f.mem_numbers.mpr ⟨hk, hr⟩, rfl⟩) m hb

end VideoField

namespace Assembler

variable (a : Assembler) (answer : ℕ → Answer)

/-! ## Handing a frame over -/

/-- Whatever the queue answers, the frame is on record as it was. -/
@[simp] lemma addCompleteFrameToQueue_handed :
    (a.addCompleteFrameToQueue answer).handed = a.handed ++ [⟨a.usbInputFrame, a.inputFrame⟩] := by
  unfold addCompleteFrameToQueue
  split <;> rfl

@[simp] lemma addCompleteFrameToQueue_currentFrameId :
    (a.addCompleteFrameToQueue answer).currentFrameId = a.currentFrameId := by
  unfold addCompleteFrameToQueue
  split <;> rfl

@[simp] lemma flagFinished_handed : a.flagFinished.handed = a.handed := by
  unfold flagFinished
  split_ifs <;> rfl

@[simp] lemma flagFinished_currentFrameId :
    a.flagFinished.currentFrameId = a.currentFrameId := by
  unfold flagFinished
  split_ifs <;> rfl

@[simp] lemma flagFinished_usbInputFrame : a.flagFinished.usbInputFrame = a.usbInputFrame := by
  unfold flagFinished
  split_ifs <;> rfl

@[simp] lemma flagFinished_secondFrame : a.flagFinished.secondFrame = a.secondFrame := by
  unfold flagFinished
  split_ifs <;> rfl

lemma setSecondFrame_self {a : Assembler} {second : Bool} (h : a.secondFrame = second) :
    a.setSecondFrame second = a := by
  subst h
  rfl

@[simp] lemma flagFinished_inputFrame :
    a.flagFinished.inputFrame = { a.inputFrame with
      flags := if a.packetsDone = a.packetsPerField then frameComplete else framePartial } := by
  unfold flagFinished
  by_cases h : a.packetsDone = a.packetsPerField
  · rw [if_neg (not_not.mpr h), if_pos h]
    exact a.setFlags_inputFrame frameComplete
  · rw [if_pos h, if_neg h]
    exact a.setFlags_inputFrame framePartial

@[simp] lemma checkFinishedFrame_currentFrameId (isOdd : Bool) :
    (a.checkFinishedFrame answer isOdd).currentFrameId = a.currentFrameId := by
  obtain ⟨second, heq | heq⟩ := a.checkFinishedFrame_cases answer isOdd
  · rw [heq]
    exact a.flagFinished_currentFrameId
  · rw [heq]
    exact (addCompleteFrameToQueue_currentFrameId _ answer).trans a.flagFinished_currentFrameId

@[simp] lemma checkFinishedFrame_packetsDone (isOdd : Bool) :
    (a.checkFinishedFrame answer isOdd).packetsDone = a.packetsDone := by
  have hflag : a.flagFinished.packetsDone = a.packetsDone := by
    unfold flagFinished
    split_ifs <;> rfl
  have hadd : (a.flagFinished.addCompleteFrameToQueue answer).packetsDone = a.packetsDone := by
    rw [← hflag]
    unfold addCompleteFrameToQueue
    split <;> rfl
  obtain ⟨second, heq | heq⟩ := a.checkFinishedFrame_cases answer isOdd
  · rw [heq]
    exact hflag
  · rw [heq]
    exact hadd

/-! ## Fields -/

variable {N : ℕ} (f : VideoField N)

@[simp] lemma filled_currentFrameId : (f.filled a).currentFrameId = f.id :=
  a.startField_currentFrameId f.id f.odd

@[simp] lemma filled_handed : (f.filled a).handed = a.handed :=
  a.startField_handed f.id f.odd

@[simp] lemma filled_frameParams : (f.filled a).frameParams = a.frameParams :=
  a.startField_frameParams f.id f.odd

@[simp] lemma filled_packetsPerField : (f.filled a).packetsPerField = a.packetsPerField :=
  a.startField_packetsPerField f.id f.odd

lemma filled_packetsDone : (f.filled a).packetsDone = (f.numbers N).length := rfl

lemma filled_inputFrame_buffer :
    (f.filled a).inputFrame.buffer = a.inputFrame.buffer.copies (f.copies a.frameParams) := by
  have h := (a.startField f.id f.odd).memcpy_inputFrame (f.copies a.frameParams)
  rw [startField_inputFrame] at h
  exact congrArg UsbTvFrame.buffer h

/-- A field that is finished as it has to be is carried by the frame that is handed over. -/
lemma carriedBy_filled (hp : a.packetsPerField = N) (hN : N ≤ 4096)
    (hparams : a.frameParams.scanType = .progressive ∨
      a.frameParams.scanType = .discard ∧ f.odd = true) :
    f.CarriedBy ⟨(f.filled a).flagFinished.usbInputFrame,
      (f.filled a).flagFinished.inputFrame⟩ where
  flags := by
    rw [flagFinished_inputFrame]
    simp only [filled_packetsDone, filled_packetsPerField, hp, f.length_numbers_eq_iff]
  buffer k hk hr b hb := by
    rw [flagFinished_inputFrame]
    show (f.filled a).inputFrame.buffer _ = _
    rw [filled_inputFrame_buffer]
    exact f.copies_apply hN hparams _ hk hr hb

/-- **One field without interleaving**: if its id is new, it is handed over exactly when it is
due, and the frame carries it. -/
lemma feed_field_handed (hp : a.packetsPerField = N) (h0 : 1 ≤ N) (hN : N ≤ 4096)
    (hscan : a.frameParams.scanType = .progressive ∨ a.frameParams.scanType = .discard)
    (hs : f.Survives) (hid : f.id ≠ a.currentFrameId) :
    (a.feed answer f.packets).currentFrameId = f.id ∧
      if f.Due a.frameParams.scanType then
        ∃ h, (a.feed answer f.packets).handed = a.handed ++ [h] ∧ f.CarriedBy h
      else (a.feed answer f.packets).handed = a.handed := by
  by_cases hf : f.Finishes
  · rw [feed_field_of_finishes f a answer hp h0 (by omega) (.inl hid) hf]
    refine ⟨by simp, ?_⟩
    rcases hscan with hscan | hscan
    · have hdue : f.Due a.frameParams.scanType := ⟨hf, by simp [hscan]⟩
      rw [if_pos hdue]
      refine ⟨_, ?_, carriedBy_filled a f hp hN (.inl hscan)⟩
      simp [checkFinishedFrame, hscan]
    · cases hodd : f.odd with
      | true =>
        have hdue : f.Due a.frameParams.scanType := ⟨hf, fun _ => hodd⟩
        rw [if_pos hdue]
        refine ⟨_, ?_, carriedBy_filled a f hp hN (.inr ⟨hscan, hodd⟩)⟩
        simp [checkFinishedFrame, hscan]
      | false =>
        have hdue : ¬ f.Due a.frameParams.scanType := fun h => by
          simpa [hodd] using h.2 hscan
        rw [if_neg hdue]
        simp [checkFinishedFrame, hscan]
  · have hdue : ¬ f.Due a.frameParams.scanType := fun h => hf h.1
    rw [feed_field_of_not_finishes f a answer hp h0 (by omega) (.inl hid) hf, if_pos hs,
      if_neg hdue]
    exact ⟨filled_currentFrameId a f, filled_handed a f⟩

/-- A field of which nothing arrives leaves no trace. -/
lemma feed_field_of_not_survives (hs : ¬ f.Survives) : a.feed answer f.packets = a := by
  have hnil : f.numbers N = [] := not_not.mp hs
  rw [VideoField.packets, VideoField.packetsBelow, hnil, List.map_nil, feed_nil]

/-- **Frame assembly without interleaving is exact under packet loss**: of a stream of fields in
which consecutive surviving fields have different ids, exactly those that are due are handed
over, once each and in order, and each frame carries its field.

**Proof sketch.** Induction on the stream; a field without survivors changes nothing, any other
one starts with a new id and leaves that id behind, which is the one the next survivor must
differ from. -/
theorem feed_stream_handed (stream : List (VideoField N)) (h0 : 1 ≤ N) (hN : N ≤ 4096)
    (hp : a.packetsPerField = N)
    (hscan : a.frameParams.scanType = .progressive ∨ a.frameParams.scanType = .discard)
    (hids : List.IsChain (· ≠ ·)
      (a.currentFrameId :: (stream.filter (·.Survives)).map VideoField.id)) :
    ∃ hs, (a.feed answer (stream.flatMap VideoField.packets)).handed = a.handed ++ hs ∧
      List.Forall₂ VideoField.CarriedBy
        (stream.filter (·.Due a.frameParams.scanType)) hs := by
  induction stream generalizing a with
  | nil => exact ⟨[], by simp⟩
  | cons f stream ih =>
    rw [List.flatMap_cons, feed_append]
    by_cases hs : f.Survives
    · rw [List.filter_cons_of_pos (by simpa using hs), List.map_cons,
        List.isChain_cons_cons] at hids
      obtain ⟨hne, hids⟩ := hids
      obtain ⟨hid, hhanded⟩ := feed_field_handed a answer f hp h0 hN hscan hs hne.symm
      have hcfg := a.feed_config answer f.packets
      obtain ⟨hs', hhs', hall⟩ := ih (a.feed answer f.packets) (hcfg.packetsPerField.trans hp)
        (by rw [hcfg.frameParams]; exact hscan) (by rw [hid]; exact hids)
      rw [hcfg.frameParams] at hall
      by_cases hdue : f.Due a.frameParams.scanType
      · rw [if_pos hdue] at hhanded
        obtain ⟨h, hh, hcar⟩ := hhanded
        refine ⟨h :: hs', by rw [hhs', hh, List.append_assoc]; rfl, ?_⟩
        rw [List.filter_cons_of_pos (by simpa using hdue)]
        exact .cons hcar hall
      · rw [if_neg hdue] at hhanded
        refine ⟨hs', by rw [hhs', hhanded], ?_⟩
        rw [List.filter_cons_of_neg (by simpa using hdue)]
        exact hall
    · have hdue : ¬ f.Due a.frameParams.scanType := fun h => hs (h.1.survives (by omega))
      rw [List.filter_cons_of_neg (by simpa using hs)] at hids
      rw [feed_field_of_not_survives a answer f hs,
        List.filter_cons_of_neg (by simpa using hdue)]
      exact ih a hp hscan hids

/-- A stream of three fields of two packets with `DISCARD`: the first one loses a packet, the
second is even, the third is whole. The first and the third are handed over. -/
theorem feed_stream_handed_discard :
    let field := fun id (hid : id < 256) odd received =>
      VideoField.ofPayload (N := 2) (by decide) id hid odd (fun _ _ => 0) received
    let stream := [field 1 (by decide) true (· == 1), field 2 (by decide) false (· == 0),
      field 3 (by decide) true fun _ => true]
    let a := fresh ⟨720, 240, .ntsc, .discard, 1920⟩ 2 fun _ => ⟨1920, fun _ => none, 0, 1, false⟩
    ∃ hs, (a.feed (fun _ => .refused) (stream.flatMap VideoField.packets)).handed = [] ++ hs ∧
      List.Forall₂ VideoField.CarriedBy (stream.filter (·.Due .discard)) hs := by
  intro field stream a
  exact feed_stream_handed a (fun _ => .refused) stream (by norm_num) (by norm_num) rfl
    (.inr rfl) (by decide)

end Assembler

end UsbTv
