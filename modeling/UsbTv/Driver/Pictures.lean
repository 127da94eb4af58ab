import UsbTv.DeviceParams
import UsbTv.Driver.FieldEffects
import UsbTv.Driver.Weave
import UsbTv.Driver.Wire

set_option relaxedAutoImplicit false
set_option autoImplicit false

/-!
# Pictures

The device cuts a picture into two fields, the odd one with the lines `0, 2, 4, …` and the even one
with the lines between, and each field into packets of 960 bytes. Here the device is written down
as the inverse of the driver: what it sends of a picture, and what the frames of each scan type are
to show of it. As long as nothing is lost, the frames that the driver hands over are the pictures
that were sent.

The ids of the fields do not matter, since packet `0` tells where a field starts.

## Main definitions

* `UsbTv.Picture` — a picture, and the ids of its fields.
* `UsbTv.Picture.packets` — what the device sends of it.
* `UsbTv.Picture.frames` — what is to be seen of it.
* `UsbTv.Handover.Shows` — a frame that was handed over is complete and shows given bytes.

## Main results

* `UsbTv.Assembler.feed_picture` — one picture.
* `UsbTv.UrbMemory.receiveUrbs_pictures` — from the bytes of the URBs to the frames.
-/

namespace UsbTv

/-- A picture, line by line, and the ids with which its fields are sent. -/
structure Picture where
  byte : ℕ → UInt8
  /-- The id of the field of the given parity. -/
  id : Bool → Fin 256

namespace Picture

variable {N : ℕ} (picture : Picture)

/-- Byte `i` of the field of the given parity: its lines are every other line of the picture. -/
def fieldByte (isOdd : Bool) (i : ℕ) : UInt8 :=
  picture.byte ((2 * (i / 1440) + if isOdd then 0 else 1) * 1440 + i % 1440)

/-- The field of the given parity, cut into packets. -/
def field (hN : N ≤ 4096) (isOdd : Bool) : VideoField N :=
  .ofPayload hN (picture.id isOdd) (picture.id isOdd).isLt isOdd
    (fun k b => picture.fieldByte isOdd (usbtvPayloadSize * k + b)) fun _ => true

/-- What the device sends of a picture. -/
def packets (hN : N ≤ 4096) : List Packet :=
  (picture.field hN true).packets ++ (picture.field hN false).packets

/-- What the frames are to show of a picture: a frame for each field, for the odd field only, or
for both. -/
def frames (scanType : ScanType) : List (ℕ → UInt8) :=
  match scanType with
  | .progressive => [picture.fieldByte true, picture.fieldByte false]
  | .discard => [picture.fieldByte true]
  | .interleaved => [picture.byte]

/-- A half packet of a field as a part of its picture. -/
lemma field_payload_half (isOdd : Bool) (k : ℕ) {x : ℕ} (hx : x < 1440) :
    picture.fieldByte isOdd (usbtvPayloadSize * ((3 * k + x / 480) / 2) +
      (480 * ((3 * k + x / 480) % 2) + x % 480)) =
      picture.byte ((2 * k + if isOdd then 0 else 1) * 1440 + x) := by
  have hbyte : usbtvPayloadSize * ((3 * k + x / 480) / 2) +
      (480 * ((3 * k + x / 480) % 2) + x % 480) = 1440 * k + x := by
    simp only [usbtvPayloadSize]
    omega
  have hline : (1440 * k + x) / 1440 = k := by omega
  have hcolumn : (1440 * k + x) % 1440 = x := by omega
  rw [hbyte, fieldByte, hline, hcolumn]

/-- No packet of a picture is lost. -/
lemma whole_field (hN : N ≤ 4096) (isOdd : Bool) : (picture.field hN isOdd).Whole :=
  fun _ _ => rfl

/-- All packets of a field arrive. -/
lemma numbers_field (hN : N ≤ 4096) (isOdd : Bool) :
    (picture.field hN isOdd).numbers N = List.range N :=
  List.filter_eq_self.mpr fun _ _ => rfl

/-- The driver accepts what the device sends. -/
lemma accepted_of_mem_packets (hN : N ≤ 4096) {p : Packet} (h : p ∈ picture.packets hN) :
    p.Accepted N := by
  have hfield : ∀ isOdd, p ∈ (picture.field hN isOdd).packets → p.Accepted N := by
    intro isOdd h
    obtain ⟨k, hk, rfl⟩ := List.mem_map.mp h
    have hlt := ((picture.field hN isOdd).mem_numbers.mp hk).1
    obtain ⟨hok, -, -, hno⟩ := (picture.field hN isOdd).valid k hlt
    exact ⟨hok, by rwa [hno]⟩
  rcases List.mem_append.mp h with h | h
  · exact hfield true h
  · exact hfield false h

/-- The copies of both fields are those of a woven frame. -/
lemma copies_append_copies (hN : N ≤ 4096) {params : FrameParams}
    (hscan : params.scanType = .interleaved) :
    (picture.field hN true).copies params ++ (picture.field hN false).copies params =
      weave params.frameWidth (fun isOdd k b => picture.fieldByte isOdd (usbtvPayloadSize * k + b))
        (bothFields N) := by
  have hcopies : ∀ isOdd, (picture.field hN isOdd).copies params =
      (List.range N).flatMap fun k => Assembler.packetToInterleavedFrame params.frameWidth
        (fun b => picture.fieldByte isOdd (usbtvPayloadSize * k + b)) k isOdd := by
    intro isOdd
    rw [VideoField.copies, VideoField.copiesBelow, numbers_field]
    refine List.flatMap_congr fun k _ => ?_
    simp only [Assembler.placePacket, hscan]
    rfl
  rw [hcopies, hcopies, weave, bothFields, List.flatMap_append, List.flatMap_map, List.flatMap_map]

end Picture

/-- The frame was complete when it was handed over, and its first `size` bytes are the given
ones. -/
structure Handover.Shows (size : ℕ) (bytes : ℕ → UInt8) (h : Handover) : Prop where
  flags : h.frame.flags = frameComplete
  buffer : ∀ i < size, h.frame.buffer i = some (bytes i)

namespace Assembler

variable {N : ℕ} (a : Assembler) (answer : ℕ → Answer) (picture : Picture)

/-! ## Whole fields -/

/-- A whole field is recognised by its packet `0`, and finished. -/
lemma feed_whole_field (hp : a.packetsPerField = N) (h0 : 0 < N) (hN : N ≤ 4096) (isOdd : Bool) :
    a.feed answer (picture.field hN isOdd).packets =
      ((picture.field hN isOdd).filled a).checkFinishedFrame answer isOdd :=
  feed_field_of_finishes _ a answer hp h0 (by omega) (.inr rfl) rfl

/-- Without interleaving, a frame into which a whole field was filled shows the field. -/
lemma shows_filled (hp : a.packetsPerField = N) (hN : N ≤ 4096) {isOdd : Bool}
    (hparams : a.frameParams.scanType = .progressive ∨
      a.frameParams.scanType = .discard ∧ isOdd = true) :
    Handover.Shows (N * usbtvPayloadSize) (picture.fieldByte isOdd)
      ⟨((picture.field hN isOdd).filled a).flagFinished.usbInputFrame,
        ((picture.field hN isOdd).filled a).flagFinished.inputFrame⟩ := by
  have hcarried := carriedBy_filled a (picture.field hN isOdd) hp hN hparams
  constructor
  · rw [hcarried.flags, if_pos (picture.whole_field hN isOdd)]
  · intro i hi
    simp only [usbtvPayloadSize] at hi
    have hk : i / usbtvPayloadSize < N := by
      simp only [usbtvPayloadSize]
      omega
    have hbyte := hcarried.buffer (i / usbtvPayloadSize) hk rfl (i % usbtvPayloadSize)
      (Nat.mod_lt _ (by decide))
    rw [Nat.div_add_mod] at hbyte
    rw [hbyte]
    show some (picture.fieldByte isOdd (usbtvPayloadSize * (i / usbtvPayloadSize) +
      i % usbtvPayloadSize)) = _
    rw [Nat.div_add_mod]

/-- A field that is handed over at once. -/
lemma handed_of_field (hp : a.packetsPerField = N) (h0 : 0 < N) (hN : N ≤ 4096) (isOdd : Bool)
    (hparams : a.frameParams.scanType = .progressive ∨
      a.frameParams.scanType = .discard ∧ isOdd = true) :
    ∃ h, (a.feed answer (picture.field hN isOdd).packets).handed = a.handed ++ [h] ∧
      Handover.Shows (N * usbtvPayloadSize) (picture.fieldByte isOdd) h := by
  have hscan : finishHandsOver a.frameParams.scanType a.secondFrame isOdd = true := by
    rcases hparams with hscan | ⟨hscan, hodd⟩
    · rw [hscan]
      rfl
    · rw [hscan]
      exact hodd
  have hshows := a.shows_filled picture hp hN hparams
  rw [flagFinished_usbInputFrame] at hshows
  refine ⟨_, ?_, hshows⟩
  rw [a.feed_whole_field answer picture hp h0 hN isOdd, checkFinishedFrame_handed,
    filled_frameParams, filled_secondFrame, if_pos hscan, filled_handed]

/-- With interleaving, the frame into which both fields were filled shows the picture. -/
lemma shows_pair (hp : a.packetsPerField = N) (h0 : 0 < N) (hN : N ≤ 4096) (hthree : 3 ∣ N)
    (hwidth : a.frameParams.frameWidth = 720) (hscan : a.frameParams.scanType = .interleaved)
    (hsecond : a.secondFrame = false) (index : ℕ) :
    Handover.Shows (N * usbtvPayloadSize * 2) picture.byte
      ⟨index, ((picture.field hN false).filled
        (a.feed answer (picture.field hN true).packets)).flagFinished.inputFrame⟩ := by
  set b := a.feed answer (picture.field hN true).packets
  have hcfg := a.feed_config answer (picture.field hN true).packets
  obtain ⟨-, -, -, hodd⟩ :=
    a.feed_field_first answer (picture.field hN true) hp h0 hscan rfl hsecond
  constructor
  · rw [flagFinished_inputFrame, filled_packetsDone, picture.numbers_field, filled_packetsPerField,
      hcfg.packetsPerField, hp, List.length_range, if_pos rfl]
  · intro i hi
    -- byte `i` lies on line `i / 1440`, which is one of the odd field if it is even
    set isOdd := decide (i / 1440 % 2 = 0) with hisOdd
    have hline : i = (2 * (i / 1440 / 2) + if isOdd then 0 else 1) * 1440 + i % 1440 := by
      rw [hisOdd]
      simp only [decide_eq_true_eq]
      split_ifs <;> omega
    have hx : i % 1440 < 1440 := Nat.mod_lt _ (by norm_num)
    have hpart : 3 * (i / 1440 / 2) + i % 1440 / 480 < 2 * N := by
      obtain ⟨n, rfl⟩ := hthree
      simp only [usbtvPayloadSize] at hi
      omega
    have hbuffer : ((picture.field hN false).filled b).flagFinished.inputFrame.buffer =
        a.inputFrame.buffer.copies (weave a.frameParams.frameWidth
          (fun isOdd k b => picture.fieldByte isOdd (usbtvPayloadSize * k + b))
            (bothFields N)) := by
      rw [flagFinished_inputFrame, ← picture.copies_append_copies hN hscan, Mem.copies_append,
        ← hodd]
      exact (filled_inputFrame_buffer b _).trans (by rw [hcfg.frameParams])
    show ((picture.field hN false).filled b).flagFinished.inputFrame.buffer i = _
    rw [hbuffer, hwidth]
    conv_lhs => rw [hline]
    rw [line_eq_partOffset isOdd _ hx, weave_apply (by omega) _ (List.Perm.refl _) _ isOdd hpart
      (Nat.mod_lt _ (by norm_num)), picture.field_payload_half isOdd _ hx, ← hline]

/-- With interleaving, both fields are handed over as one frame. -/
lemma handed_of_pair (hp : a.packetsPerField = N) (h0 : 0 < N) (hN : N ≤ 4096) (hthree : 3 ∣ N)
    (hwidth : a.frameParams.frameWidth = 720) (hscan : a.frameParams.scanType = .interleaved)
    (hsecond : a.secondFrame = false) :
    ∃ h, (a.feed answer (picture.packets hN)).handed = a.handed ++ [h] ∧
      Handover.Shows (N * usbtvPayloadSize * 2) picture.byte h := by
  obtain ⟨hsecond', hhanded, -, -⟩ :=
    a.feed_field_first answer (picture.field hN true) hp h0 hscan rfl hsecond
  have hcfg := a.feed_config answer (picture.field hN true).packets
  have hover : finishHandsOver .interleaved (picture.field hN true).odd false = true := rfl
  refine ⟨_, ?_, a.shows_pair answer picture hp h0 hN hthree hwidth hscan hsecond
    ((picture.field hN false).filled
      (a.feed answer (picture.field hN true).packets)).usbInputFrame⟩
  rw [Picture.packets, feed_append, feed_whole_field _ answer picture
    (hcfg.packetsPerField.trans hp) h0 hN false, checkFinishedFrame_handed, filled_frameParams,
    filled_secondFrame, hsecond', hcfg.frameParams, hscan, if_pos hover, filled_handed, hhanded]

/-! ## Pictures -/

/-- `_secondFrame` after a picture is as it was before. -/
lemma feed_picture_secondFrame (hp : a.packetsPerField = N) (h0 : 0 < N) (hN : N ≤ 4096)
    (hsecond : a.secondFrame = false) :
    (a.feed answer (picture.packets hN)).secondFrame = false := by
  have hfield : ∀ (c : Assembler) (isOdd : Bool), c.packetsPerField = N →
      (c.feed answer (picture.field hN isOdd).packets).secondFrame =
        secondAfter c.frameParams.scanType c.secondFrame isOdd := by
    intro c isOdd hc
    rw [c.feed_whole_field answer picture hc h0 hN isOdd, checkFinishedFrame_secondFrame,
      filled_frameParams, filled_secondFrame]
  have hcfg := a.feed_config answer (picture.field hN true).packets
  rw [Picture.packets, feed_append, hfield _ false (hcfg.packetsPerField.trans hp),
    hfield a true hp, hcfg.frameParams, hsecond]
  cases a.frameParams.scanType <;> rfl

/-- **One picture**: as long as nothing is lost, the frames that are handed over show it. -/
lemma feed_picture {params : Java.DeviceParams}
    (hparams : a.frameParams = nativeFrameParams params)
    (hp : a.packetsPerField = nativePacketsPerField params) (hsecond : a.secondFrame = false)
    (hN : nativePacketsPerField params ≤ 4096) :
    ∃ hs, (a.feed answer (picture.packets hN)).handed = a.handed ++ hs ∧
      List.Forall₂ (Handover.Shows (nativeFrameParams params).bufferSize)
        (picture.frames (nativeFrameParams params).scanType) hs := by
  have h0 : 0 < nativePacketsPerField params := by
    rcases nativePacketsPerField_cases params with h | h <;> omega
  have hthree : 3 ∣ nativePacketsPerField params := by
    rcases nativePacketsPerField_cases params with h | h <;> rw [h] <;> decide
  have hcfg := a.feed_config answer (picture.field hN true).packets
  have hwidth : a.frameParams.frameWidth = 720 := by
    rw [hparams, nativeFrameParams_frameWidth]
  rw [nativeFrameParams_bufferSize, ← hparams]
  cases hscan : a.frameParams.scanType with
  | progressive =>
    rw [if_neg nofun, mul_one]
    obtain ⟨h₁, hhanded₁, hshows₁⟩ := a.handed_of_field answer picture hp h0 hN true (.inl hscan)
    obtain ⟨h₂, hhanded₂, hshows₂⟩ := handed_of_field
      (a.feed answer (picture.field hN true).packets) answer picture
      (hcfg.packetsPerField.trans hp) h0 hN false (.inl (by rw [hcfg.frameParams, hscan]))
    refine ⟨[h₁, h₂], ?_, .cons hshows₁ (.cons hshows₂ .nil)⟩
    rw [Picture.packets, feed_append, hhanded₂, hhanded₁, List.append_assoc]
    rfl
  | discard =>
    rw [if_neg nofun, mul_one]
    obtain ⟨h, hhanded, hshows⟩ :=
      a.handed_of_field answer picture hp h0 hN true (.inr ⟨hscan, rfl⟩)
    refine ⟨[h], ?_, .cons hshows .nil⟩
    rw [Picture.packets, feed_append, feed_whole_field _ answer picture
      (hcfg.packetsPerField.trans hp) h0 hN false, checkFinishedFrame_handed, filled_frameParams,
      hcfg.frameParams, hscan, if_neg (by simp [finishHandsOver]), filled_handed, hhanded]
  | interleaved =>
    obtain ⟨h, hhanded, hshows⟩ :=
      a.handed_of_pair answer picture hp h0 hN hthree hwidth hscan hsecond
    exact ⟨[h], hhanded, .cons hshows .nil⟩

/-- **A stream of pictures.** -/
lemma feed_pictures {params : Java.DeviceParams}
    (hparams : a.frameParams = nativeFrameParams params)
    (hp : a.packetsPerField = nativePacketsPerField params) (hsecond : a.secondFrame = false)
    (hN : nativePacketsPerField params ≤ 4096) (pictures : List Picture) :
    ∃ hs, (a.feed answer (pictures.flatMap fun picture => picture.packets hN)).handed =
        a.handed ++ hs ∧
      List.Forall₂ (Handover.Shows (nativeFrameParams params).bufferSize)
        (pictures.flatMap fun picture => picture.frames (nativeFrameParams params).scanType)
        hs := by
  induction pictures generalizing a with
  | nil => exact ⟨[], (List.append_nil _).symm, .nil⟩
  | cons picture pictures ih =>
    have h0 : 0 < nativePacketsPerField params := by
      rcases nativePacketsPerField_cases params with h | h <;> omega
    have hcfg := a.feed_config answer (picture.packets hN)
    obtain ⟨hs₁, hhanded₁, hshows₁⟩ := a.feed_picture answer picture hparams hp hsecond hN
    obtain ⟨hs₂, hhanded₂, hshows₂⟩ := ih (a.feed answer (picture.packets hN))
      (hcfg.frameParams.trans hparams) (hcfg.packetsPerField.trans hp)
      (a.feed_picture_secondFrame answer picture hp h0 hN hsecond)
    refine ⟨hs₁ ++ hs₂, ?_, ?_⟩
    · rw [List.flatMap_cons, feed_append, hhanded₂, hhanded₁, List.append_assoc]
    · rw [List.flatMap_cons]
      exact List.rel_append hshows₁ hshows₂

end Assembler

/-! ## From the bytes to the frames -/

namespace UrbMemory

/-- A field has fewer packets than numbers. -/
lemma nativePacketsPerField_le (params : Java.DeviceParams) :
    nativePacketsPerField params ≤ 4096 := by
  rcases nativePacketsPerField_cases params with h | h <;> omega

/-- **What is sent is seen**: if the packets of a list of pictures arrive in URBs of any shape,
with any packets between them that are not accepted, then the frames that are handed over show the
pictures, in order and each once, byte by byte over the whole of their buffers: a frame for each
field with `PROGRESSIVE`, for each odd field with `DISCARD`, and one for both fields with
`INTERLEAVED`. -/
theorem receiveUrbs_pictures (queue : ℕ → Answer) (answer : ℕ → ℤ) {a : Assembler}
    {params : Java.DeviceParams} (hparams : a.frameParams = nativeFrameParams params)
    (hp : a.packetsPerField = nativePacketsPerField params) (hsecond : a.secondFrame = false)
    (pictures : List Picture) {urbs : List (UrbMemory × ℕ)} {packets : List Packet}
    (hfitting : Fitting urbs) (hcarry : Carry urbs packets)
    (hpackets : packets.filter (·.Accepted (nativePacketsPerField params)) =
      pictures.flatMap fun picture => picture.packets (nativePacketsPerField_le params)) :
    ∃ hs, (receiveUrbs queue answer a urbs).handed = a.handed ++ hs ∧
      List.Forall₂ (Handover.Shows (nativeFrameParams params).bufferSize)
        (pictures.flatMap fun picture => picture.frames (nativeFrameParams params).scanType)
        hs := by
  rw [receiveUrbs_eq_feed queue answer a hfitting hcarry, ← a.feed_filter queue packets, hp,
    hpackets]
  exact a.feed_pictures queue hparams hp hsecond (nativePacketsPerField_le params) pictures

/-- Two pictures after the first start of a stream of the default parameters, in a URB for each
packet. -/
theorem receiveUrbs_pictures_default :
    let params := Java.Builder.new.build
    let a := Assembler.fresh (nativeFrameParams params) (nativePacketsPerField params)
      fun _ => ⟨691200, fun _ => none, 0, 1, false⟩
    let pictures : List Picture := [⟨fun i => UInt8.ofNat i, fun _ => 1⟩, ⟨fun _ => 16, fun _ => 2⟩]
    let packets := pictures.flatMap fun picture =>
      picture.packets (nativePacketsPerField_le params)
    ∃ hs, (receiveUrbs (fun _ => .accepted 1) (fun _ => 0) a (packets.map memoryOfPacket)).handed =
        [] ++ hs ∧
      List.Forall₂ (Handover.Shows (nativeFrameParams params).bufferSize)
        (pictures.flatMap fun picture => picture.frames (nativeFrameParams params).scanType)
        hs := by
  intro params a pictures packets
  refine receiveUrbs_pictures (fun _ => .accepted 1) (fun _ => 0) rfl rfl rfl pictures
    (fitting_map_memoryOfPacket packets) (carry_map_memoryOfPacket packets)
    (List.filter_eq_self.mpr fun p hp => ?_)
  obtain ⟨picture, -, hp⟩ := List.mem_flatMap.mp hp
  exact decide_eq_true (picture.accepted_of_mem_packets _ hp)

end UrbMemory

end UsbTv
