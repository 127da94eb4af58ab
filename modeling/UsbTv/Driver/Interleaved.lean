import UsbTv.DeviceParams
import UsbTv.Driver.Progressive

set_option relaxedAutoImplicit false
set_option autoImplicit false

/-!
# Frame assembly with interleaving

With scan type `INTERLEAVED` a frame is an odd field, whose lines are every other line from the
first on, and the even field right after it. `_secondFrame` remembers that an odd field has been
finished; it is kept until the next field that is finished, whichever that is. So the fields of a
frame belong together exactly when, after every odd field that is finished, the next field is
finished too, or none is any more.

## Main definitions

* `UsbTv.OnOddLine` — the address is on a line of the odd field.
* `UsbTv.Assembler.before`, `handedDuring` — a stream field by field.
* `UsbTv.Assembler.PairsFields` — every frame is an odd field and the even field after it.
* `UsbTv.EvenFollows` — the condition on the lost packets.

## Main results

* `UsbTv.VideoField.onOddLine_of_covers` — a field writes its own lines only.
* `UsbTv.Assembler.exists_first_of_secondFrame` — what `_secondFrame` means.
* `UsbTv.Assembler.pairsFields_iff_evenFollows` — when frames are paired.
-/

namespace UsbTv

/-! ## Lines -/

/-- The address is on one of the lines that odd fields are written to. -/
def OnOddLine (params : FrameParams) (x : ℕ) : Prop := x / (params.frameWidth * 2) % 2 = 0

/-- A half of a packet is written to a line of the parity of its field. -/
lemma onOddLine_of_covers_packet {params : FrameParams} (hwidth : params.frameWidth = 720)
    {payload : ℕ → UInt8} {k : ℕ} (hk : k < 4096) {isOdd : Bool} {c : Copy UInt8}
    (hc : c ∈ Assembler.packetToInterleavedFrame params.frameWidth payload k isOdd) {x : ℕ}
    (hx : c.Covers x) : OnOddLine params x ↔ isOdd = true := by
  have hhalf : ∀ half < 2, ∀ y, Assembler.interleavedOffset 720 k half isOdd ≤ y →
      y < Assembler.interleavedOffset 720 k half isOdd + usbtvPayloadSize / 2 →
      (y / (720 * 2) % 2 = 0 ↔ isOdd = true) := by
    intro half hhalf y hle hlt
    rw [Assembler.interleavedOffset_eq (by omega) hhalf] at hle hlt
    simp only [usbtvPayloadSize] at hlt
    generalize k * 2 + half = part at hle hlt
    cases isOdd
    · simp only [Bool.false_eq_true, if_false, iff_false] at hle hlt ⊢
      omega
    · simp only [if_true, iff_true] at hle hlt ⊢
      omega
  unfold OnOddLine
  rw [hwidth] at hc ⊢
  simp only [Assembler.packetToInterleavedFrame, List.mem_cons, List.not_mem_nil, or_false] at hc
  rcases hc with rfl | rfl
  · exact hhalf 0 (by norm_num) x hx.1 hx.2
  · exact hhalf 1 (by norm_num) x hx.1 hx.2

namespace VideoField

variable {N : ℕ}

/-- A packet number is less than `4096`, so a field has at most so many packets. -/
lemma le_of_valid (f : VideoField N) : N ≤ 4096 := by
  by_contra h
  have hno := (f.valid 4096 (by omega)).2.2.2
  have hlt := usbtvPacketNo_lt (f.packet 4096).header
  omega

/-- **A field writes its own lines only.** -/
lemma onOddLine_of_covers (f : VideoField N) {params : FrameParams}
    (hscan : params.scanType = .interleaved) (hwidth : params.frameWidth = 720)
    {c : Copy UInt8} (hc : c ∈ f.copies params) {x : ℕ} (hx : c.Covers x) :
    OnOddLine params x ↔ f.odd = true := by
  obtain ⟨k, hk, hc⟩ := List.mem_flatMap.mp hc
  have hkN := (f.mem_numbers.mp hk).1
  have hN := f.le_of_valid
  simp only [Assembler.placePacket, hscan] at hc
  exact onOddLine_of_covers_packet hwidth (by omega) hc hx

/-- A field leaves the lines of the other parity alone. -/
lemma copies_apply_of_otherLine (f : VideoField N) {params : FrameParams}
    (hscan : params.scanType = .interleaved) (hwidth : params.frameWidth = 720)
    (m : Mem UInt8) {x : ℕ} (hx : ¬ (OnOddLine params x ↔ f.odd = true)) :
    m.copies (f.copies params) x = m x :=
  Mem.copies_apply_of_forall_not_covers
    (fun _ hc hcov => hx (f.onOddLine_of_covers hscan hwidth hc hcov)) m

end VideoField

/-! ## One field -/

namespace Assembler

variable {N : ℕ} (a : Assembler) (answer : ℕ → Answer)

/-- A field that is finished while `_secondFrame` is set hands the frame over. -/
lemma feed_field_second (f : VideoField N) (hp : a.packetsPerField = N) (h0 : 0 < N)
    (hscan : a.frameParams.scanType = .interleaved) (hf : f.Finishes)
    (hsecond : a.secondFrame = true) :
    (a.feed answer f.packets).secondFrame = false ∧
      ∃ h, (a.feed answer f.packets).handed = a.handed ++ [h] ∧ h.index = a.usbInputFrame ∧
        h.frame.buffer = a.inputFrame.buffer.copies (f.copies a.frameParams) := by
  have hN := f.le_of_valid
  obtain ⟨b, hw, hfeed⟩ := feed_field_finish f a answer hp h0 (by omega) hf
  have hb : b.frameParams.scanType = .interleaved := by rw [hw.frameParams, hscan]
  have hb' : b.secondFrame = true := hw.secondFrame.trans hsecond
  have hcheck : b.checkFinishedFrame answer f.odd =
      (b.flagFinished.addCompleteFrameToQueue answer).setSecondFrame false := by
    simp only [checkFinishedFrame, hb, hb', if_true]
  rw [hfeed, hcheck]
  refine ⟨rfl, ⟨b.flagFinished.usbInputFrame, b.flagFinished.inputFrame⟩, ?_, ?_, ?_⟩
  · show (b.flagFinished.addCompleteFrameToQueue answer).handed = _
    rw [addCompleteFrameToQueue_handed, flagFinished_handed, hw.handed]
  · show b.flagFinished.usbInputFrame = _
    rw [flagFinished_usbInputFrame, hw.usbInputFrame]
  · rw [flagFinished_inputFrame]
    exact hw.buffer

/-- A field that is finished while `_secondFrame` is clear sets it if it is odd, and hands
nothing over. -/
lemma feed_field_first (f : VideoField N) (hp : a.packetsPerField = N) (h0 : 0 < N)
    (hscan : a.frameParams.scanType = .interleaved) (hf : f.Finishes)
    (hsecond : a.secondFrame = false) :
    (a.feed answer f.packets).secondFrame = f.odd ∧
      (a.feed answer f.packets).handed = a.handed ∧
      (a.feed answer f.packets).usbInputFrame = a.usbInputFrame ∧
      (a.feed answer f.packets).inputFrame.buffer =
        a.inputFrame.buffer.copies (f.copies a.frameParams) := by
  have hN := f.le_of_valid
  obtain ⟨b, hw, hfeed⟩ := feed_field_finish f a answer hp h0 (by omega) hf
  have hb : b.frameParams.scanType = .interleaved := by rw [hw.frameParams, hscan]
  have hb' : b.secondFrame = false := hw.secondFrame.trans hsecond
  have hcheck : b.checkFinishedFrame answer f.odd = b.flagFinished.setSecondFrame f.odd := by
    simp only [checkFinishedFrame, hb, hb', Bool.false_eq_true, if_false]
    cases f.odd with
    | true => rfl
    | false => exact (setSecondFrame_self (b.flagFinished_secondFrame.trans hb')).symm
  rw [hfeed, hcheck]
  refine ⟨rfl, ?_, ?_, ?_⟩
  · exact b.flagFinished_handed.trans hw.handed
  · exact b.flagFinished_usbInputFrame.trans hw.usbInputFrame
  · show b.flagFinished.inputFrame.buffer = _
    rw [flagFinished_inputFrame]
    exact hw.buffer

/-! ## Streams -/

variable (stream : List (VideoField N))

/-- The state before field `i` of a stream. -/
def before (i : ℕ) : Assembler := a.feed answer ((stream.take i).flatMap VideoField.packets)

/-- The frames handed over while field `j` of a stream arrives. -/
def handedDuring (j : ℕ) : List Handover :=
  (a.before answer stream (j + 1)).handed.drop (a.before answer stream j).handed.length

/-- **Every frame is an odd field and the even field right after it**: the field during which it
is handed over is even, the field just before is odd and set `_secondFrame`, and from the moment
that odd field began it alone wrote the odd lines of the frame, and the even field alone the
other lines. -/
def PairsFields : Prop :=
  ∀ j g, stream[j]? = some g → ∀ h ∈ a.handedDuring answer stream j,
    g.odd = false ∧ ∃ i f, j = i + 1 ∧ stream[i]? = some f ∧ f.odd = true ∧
      ((a.before answer stream i).secondFrame = false ∧
        (a.before answer stream (i + 1)).secondFrame = true) ∧
      h.index = (a.before answer stream i).usbInputFrame ∧
      (∀ x, OnOddLine a.frameParams x → h.frame.buffer x =
        (a.before answer stream i).inputFrame.buffer.copies (f.copies a.frameParams) x) ∧
      ∀ x, ¬ OnOddLine a.frameParams x → h.frame.buffer x =
        (a.before answer stream i).inputFrame.buffer.copies (g.copies a.frameParams) x

lemma before_succ {j : ℕ} {g : VideoField N} (hg : stream[j]? = some g) :
    a.before answer stream (j + 1) = (a.before answer stream j).feed answer g.packets := by
  rw [before, before, List.take_add_one, hg, List.flatMap_append, feed_append]
  rw [Option.toList_some, List.flatMap_singleton]

lemma before_succ_of_none {j : ℕ} (hg : stream[j]? = none) :
    a.before answer stream (j + 1) = a.before answer stream j := by
  rw [before, before, List.take_add_one, hg, Option.toList_none, List.append_nil]

lemma before_frameParams (i : ℕ) : (a.before answer stream i).frameParams = a.frameParams :=
  (a.feed_config answer _).frameParams

lemma before_packetsPerField (i : ℕ) :
    (a.before answer stream i).packetsPerField = a.packetsPerField :=
  (a.feed_config answer _).packetsPerField

end Assembler

/-- The condition on the lost packets: after every odd field whose last packet arrives, the last
packet of the next field arrives, or the last packet of no later field does. -/
def EvenFollows {N : ℕ} (stream : List (VideoField N)) : Prop :=
  ∀ i f, stream[i]? = some f → f.odd = true → f.Finishes →
    (∃ g, stream[i + 1]? = some g ∧ g.Finishes) ∨
      ∀ k g, i < k → stream[k]? = some g → ¬ g.Finishes

namespace Assembler

section Interleaved

variable {N : ℕ} (a : Assembler) (answer : ℕ → Answer) (stream : List (VideoField N))
variable (hp : a.packetsPerField = N) (h0 : 0 < N)
  (hscan : a.frameParams.scanType = .interleaved)

include hp h0

/-- A field that loses its last packet leaves `_secondFrame` as it is. -/
lemma before_secondFrame_of_not_finishes {j : ℕ} {g : VideoField N} (hg : stream[j]? = some g)
    (hf : ¬ g.Finishes) :
    (a.before answer stream (j + 1)).secondFrame = (a.before answer stream j).secondFrame := by
  have hN := g.le_of_valid
  rw [a.before_succ answer stream hg]
  exact (feed_field_writtenFrom g _ answer ((a.before_packetsPerField answer stream j).trans hp)
    h0 (by omega) hf).secondFrame

include hscan in
/-- **What `_secondFrame` means**: an odd field set it and no field was finished since.

**Proof sketch.** Induction on the number of fields. A field that is finished either clears
`_secondFrame` or is the odd field itself; any other field keeps it. -/
lemma exists_first_of_secondFrame (hfresh : a.secondFrame = false) {j : ℕ}
    (hj : (a.before answer stream j).secondFrame = true) :
    ∃ i < j, ∃ f, stream[i]? = some f ∧ f.odd = true ∧ f.Finishes ∧
      (a.before answer stream i).secondFrame = false ∧
      ∀ k g, i < k → k < j → stream[k]? = some g → ¬ g.Finishes := by
  induction j with
  | zero =>
    have hzero : a.before answer stream 0 = a := rfl
    rw [hzero, hfresh] at hj
    exact absurd hj (by simp)
  | succ j ih =>
    -- the field that set the flag stays the same as long as field `j` is not finished
    have hkeep : (a.before answer stream j).secondFrame = true →
        (∀ g, stream[j]? = some g → ¬ g.Finishes) →
        ∃ i < j + 1, ∃ f, stream[i]? = some f ∧ f.odd = true ∧ f.Finishes ∧
          (a.before answer stream i).secondFrame = false ∧
          ∀ k g, i < k → k < j + 1 → stream[k]? = some g → ¬ g.Finishes := by
      intro hsecond hlost
      obtain ⟨i, hi, f, hf, hodd, hfin, hclear, hnone⟩ := ih hsecond
      refine ⟨i, by omega, f, hf, hodd, hfin, hclear, fun k g hik hk hg => ?_⟩
      rcases Nat.lt_succ_iff_lt_or_eq.mp hk with hk | rfl
      · exact hnone k g hik hk hg
      · exact hlost g hg
    cases hg : stream[j]? with
    | none =>
      rw [a.before_succ_of_none answer stream hg] at hj
      exact hkeep hj fun g hg' => by simp [hg] at hg'
    | some g =>
      by_cases hfin : g.Finishes
      · have hp' := (a.before_packetsPerField answer stream j).trans hp
        have hscan' : (a.before answer stream j).frameParams.scanType = .interleaved := by
          rw [before_frameParams, hscan]
        rw [a.before_succ answer stream hg] at hj
        cases hsecond : (a.before answer stream j).secondFrame with
        | true =>
          rw [(feed_field_second _ answer g hp' h0 hscan' hfin hsecond).1] at hj
          exact absurd hj (by simp)
        | false =>
          rw [(feed_field_first _ answer g hp' h0 hscan' hfin hsecond).1] at hj
          exact ⟨j, by omega, g, hg, hj, hfin, hsecond, fun k _ hk hk' => by omega⟩
      · rw [before_secondFrame_of_not_finishes a answer stream hp h0 hg hfin] at hj
        apply hkeep hj
        intro g' hg'
        rw [hg, Option.some_inj] at hg'
        exact hg' ▸ hfin

/-- While no field is finished, `_secondFrame` stays set. -/
lemma before_secondFrame_of_forall_not_finishes {i j : ℕ} (hij : i ≤ j)
    (hi : (a.before answer stream i).secondFrame = true)
    (hnone : ∀ k g, i ≤ k → k < j → stream[k]? = some g → ¬ g.Finishes) :
    (a.before answer stream j).secondFrame = true := by
  induction j, hij using Nat.le_induction with
  | base => exact hi
  | succ j hij ih =>
    have h := ih fun k g hik hk => hnone k g hik (by omega)
    cases hg : stream[j]? with
    | none => rw [a.before_succ_of_none answer stream hg, h]
    | some g =>
      rw [before_secondFrame_of_not_finishes a answer stream hp h0 hg
          (hnone j g hij (by omega) hg), h]

include hscan

/-- A frame is handed over during a field exactly when the field is finished and `_secondFrame`
is set; it holds what the field added to the buffer. -/
lemma mem_handedDuring {j : ℕ} {g : VideoField N} (hg : stream[j]? = some g) {h : Handover}
    (hh : h ∈ a.handedDuring answer stream j) :
    g.Finishes ∧ (a.before answer stream j).secondFrame = true ∧
      h.index = (a.before answer stream j).usbInputFrame ∧
      h.frame.buffer =
        (a.before answer stream j).inputFrame.buffer.copies (g.copies a.frameParams) := by
  have hN := g.le_of_valid
  have hp' := (a.before_packetsPerField answer stream j).trans hp
  have hscan' : (a.before answer stream j).frameParams.scanType = .interleaved := by
    rw [before_frameParams, hscan]
  rw [handedDuring, a.before_succ answer stream hg] at hh
  by_cases hfin : g.Finishes
  · cases hsecond : (a.before answer stream j).secondFrame with
    | true =>
      obtain ⟨-, h', hhanded, hindex, hbuffer⟩ :=
        feed_field_second _ answer g hp' h0 hscan' hfin hsecond
      rw [hhanded, List.drop_left, List.mem_singleton] at hh
      subst hh
      rw [before_frameParams] at hbuffer
      exact ⟨hfin, rfl, hindex, hbuffer⟩
    | false =>
      rw [(feed_field_first _ answer g hp' h0 hscan' hfin hsecond).2.1, List.drop_length] at hh
      exact absurd hh List.not_mem_nil
  · rw [(feed_field_writtenFrom g _ answer hp' h0 (by omega) hfin).handed, List.drop_length] at hh
    exact absurd hh List.not_mem_nil

/-- A field that is finished while `_secondFrame` is set hands a frame over. -/
lemma exists_mem_handedDuring {j : ℕ} {g : VideoField N} (hg : stream[j]? = some g)
    (hfin : g.Finishes) (hsecond : (a.before answer stream j).secondFrame = true) :
    ∃ h, h ∈ a.handedDuring answer stream j := by
  have hscan' : (a.before answer stream j).frameParams.scanType = .interleaved := by
    rw [before_frameParams, hscan]
  obtain ⟨-, h, hhanded, -, -⟩ := feed_field_second _ answer g
    ((a.before_packetsPerField answer stream j).trans hp) h0 hscan' hfin hsecond
  refine ⟨h, ?_⟩
  rw [handedDuring, a.before_succ answer stream hg, hhanded, List.drop_left]
  exact List.mem_singleton_self h

/-- If after every finished odd field the next field is finished or none is, frames are made of
an odd field and the even field after it. -/
lemma pairsFields_of_evenFollows (hfresh : a.secondFrame = false)
    (hwidth : a.frameParams.frameWidth = 720)
    (halt : stream.IsChain fun f g => g.odd = !f.odd) (hfollows : EvenFollows stream) :
    a.PairsFields answer stream := by
  intro j g hg h hh
  obtain ⟨hfin, hsecond, hindex, hbuffer⟩ :=
    mem_handedDuring a answer stream hp h0 hscan hg hh
  obtain ⟨i, hij, f, hf, hodd, hffin, hclear, hnone⟩ :=
    exists_first_of_secondFrame a answer stream hp h0 hscan hfresh hsecond
  -- the field that set the flag is the one just before
  have hj : j = i + 1 := by
    rcases hfollows i f hf hodd hffin with ⟨g', hg', hfin'⟩ | hlater
    · by_contra hne
      exact hnone (i + 1) g' (by omega) (by omega) hg' hfin'
    · exact absurd hfin (hlater j g hij hg)
  subst hj
  have heven : g.odd = false := by
    obtain ⟨hi, hfi⟩ := List.getElem?_eq_some_iff.mp hf
    obtain ⟨hi', hgi⟩ := List.getElem?_eq_some_iff.mp hg
    have h := List.isChain_iff_getElem.mp halt i hi'
    rw [hfi, hgi, hodd] at h
    exact h
  -- what the odd field did
  have hscan' : (a.before answer stream i).frameParams.scanType = .interleaved := by
    rw [before_frameParams, hscan]
  obtain ⟨-, -, hinput, hbuf⟩ := feed_field_first _ answer f
    ((a.before_packetsPerField answer stream i).trans hp) h0 hscan' hffin hclear
  rw [← a.before_succ answer stream hf] at hinput hbuf
  rw [before_frameParams] at hbuf
  rw [hbuf] at hbuffer
  refine ⟨heven, i, f, rfl, hf, hodd, ⟨hclear, hsecond⟩, hindex.trans hinput, ?_, ?_⟩
  · intro x hx
    rw [hbuffer]
    exact g.copies_apply_of_otherLine hscan hwidth _ (by simp [hx, heven])
  · intro x hx
    rw [hbuffer]
    exact Mem.copies_congr _
      (f.copies_apply_of_otherLine hscan hwidth _ (by simp [hx, hodd]))

/-- If frames are made of an odd field and the even field after it, then after every finished odd
field the next field is finished or none is. -/
lemma evenFollows_of_pairsFields (hpairs : a.PairsFields answer stream) : EvenFollows stream := by
  classical
  intro i f hf hodd hfin
  have hscan' : (a.before answer stream i).frameParams.scanType = .interleaved := by
    rw [before_frameParams, hscan]
  -- field `i` found the flag clear: else a frame would have been handed over in an odd field
  have hclear : (a.before answer stream i).secondFrame = false := by
    by_contra hset
    rw [Bool.not_eq_false] at hset
    obtain ⟨h, hh⟩ := exists_mem_handedDuring a answer stream hp h0 hscan hf hfin hset
    have heven := (hpairs i f hf h hh).1
    rw [hodd] at heven
    exact absurd heven (by simp)
  have hset : (a.before answer stream (i + 1)).secondFrame = true := by
    rw [a.before_succ answer stream hf, (feed_field_first _ answer f
      ((a.before_packetsPerField answer stream i).trans hp) h0 hscan' hfin hclear).1, hodd]
  by_cases hlater : ∃ k, i < k ∧ ∃ g, stream[k]? = some g ∧ g.Finishes
  · left
    -- the first field after `i` that is finished hands the frame over
    obtain ⟨hij, g, hg, hgfin⟩ := Nat.find_spec hlater
    have hmin : ∀ k g, i < k → k < Nat.find hlater → stream[k]? = some g → ¬ g.Finishes :=
      fun k g hik hk hg hgf => Nat.find_min hlater hk ⟨hik, g, hg, hgf⟩
    generalize Nat.find hlater = j at hij hg hmin
    have hset' : ∀ k, i < k → k ≤ j → (a.before answer stream k).secondFrame = true :=
      fun k hik hkj => before_secondFrame_of_forall_not_finishes a answer stream hp h0
        hik hset fun k' g' hk' hk'' => hmin k' g' (by omega) (by omega)
    obtain ⟨h, hh⟩ := exists_mem_handedDuring a answer stream hp h0 hscan hg hgfin
      (hset' j hij le_rfl)
    obtain ⟨-, i', f', hj, -, -, ⟨hclear', -⟩, -⟩ := hpairs j g hg h hh
    have hi' : i' = i := by
      by_contra hne
      have h := hset' i' (by omega) (by omega)
      rw [hclear'] at h
      exact absurd h (by simp)
    rw [hi'] at hj
    exact ⟨g, hj ▸ hg, hgfin⟩
  · right
    intro k g hik hg hgfin
    exact hlater ⟨k, hik, g, hg, hgfin⟩

/-- **When interleaved frames are paired**: from a state with `_secondFrame` clear, every frame
of a stream of alternating fields is an odd field and the even field right after it if and only
if after every finished odd field the next field is finished or none is. -/
lemma pairsFields_iff_evenFollows (hfresh : a.secondFrame = false)
    (hwidth : a.frameParams.frameWidth = 720)
    (halt : stream.IsChain fun f g => g.odd = !f.odd) :
    a.PairsFields answer stream ↔ EvenFollows stream :=
  ⟨evenFollows_of_pairsFields a answer stream hp h0 hscan,
    pairsFields_of_evenFollows a answer stream hp h0 hscan hfresh hwidth halt⟩

end Interleaved

/-- **When a fresh driver pairs interleaved fields**: exactly when after every odd field whose
last packet arrives, the last packet of the next field arrives, or of no later field. -/
theorem fresh_pairsFields_iff (p : Java.DeviceParams) (hscan : p.mScanType = .interleaved)
    (frames : ℕ → UsbTvFrame) (answer : ℕ → Answer)
    (stream : List (VideoField (nativePacketsPerField p)))
    (halt : stream.IsChain fun f g => g.odd = !f.odd) :
    (fresh (nativeFrameParams p) (nativePacketsPerField p) frames).PairsFields answer stream ↔
      EvenFollows stream := by
  have h0 : 0 < nativePacketsPerField p := by
    rcases nativePacketsPerField_cases p with h | h <;> omega
  exact pairsFields_iff_evenFollows _ answer stream rfl h0
    ((nativeFrameParams_scanType p).mpr hscan) rfl (nativeFrameParams_frameWidth p) halt

/-- An NTSC stream of an odd and an even field. -/
theorem fresh_pairsFields_iff_ntsc :
    let p := (Java.Builder.new.setScanType .interleaved).build
    let field := fun id (hid : id < 256) odd => VideoField.ofPayload (N := nativePacketsPerField p)
      (by decide) id hid odd (fun _ _ => 0) fun _ => true
    let stream := [field 1 (by decide) true, field 2 (by decide) false]
    (fresh (nativeFrameParams p) (nativePacketsPerField p)
        fun _ => ⟨829440, fun _ => none, 0, 1, false⟩).PairsFields (fun _ => .accepted 1) stream ↔
      EvenFollows stream := by
  intro p field stream
  exact fresh_pairsFields_iff p rfl _ _ stream (by decide)

/-- **Two odd fields in one frame**: an even field without its last packet between two whole odd
fields is not finished, and the second odd field completes the frame of the first. -/
theorem not_pairsFields_of_lost_even :
    let p := (Java.Builder.new.setScanType .interleaved).build
    let field := fun id (hid : id < 256) odd lost =>
      VideoField.ofPayload (N := nativePacketsPerField p) (by decide) id hid odd (fun _ _ => 0)
        (fun k => k != lost)
    let stream := [field 1 (by decide) true 360, field 2 (by decide) false 359,
      field 3 (by decide) true 360]
    (stream.IsChain fun f g => g.odd = !f.odd) ∧ (stream.IsChain fun f g => f.id ≠ g.id) ∧
      ¬ (fresh (nativeFrameParams p) (nativePacketsPerField p)
        fun _ => ⟨829440, fun _ => none, 0, 1, false⟩).PairsFields (fun _ => .accepted 1)
          stream := by
  intro p field stream
  have halt : stream.IsChain fun f g => g.odd = !f.odd := by decide
  refine ⟨halt, by decide, ?_⟩
  rw [pairsFields_iff_evenFollows _ _ stream rfl (by decide) rfl rfl rfl halt]
  intro h
  rcases h 0 (field 1 (by decide) true 360) rfl rfl (by decide) with ⟨g, hg, hfin⟩ | hnone
  · obtain rfl : field 2 (by decide) false 359 = g := Option.some_inj.mp hg
    exact absurd hfin (by decide)
  · exact hnone 2 (field 3 (by decide) true 360) (by norm_num) rfl (by decide)

end Assembler

end UsbTv
