import UsbTv.Driver.Assembly

set_option relaxedAutoImplicit false
set_option autoImplicit false

/-!
# Fields and packet loss

The device sends a picture as fields, and a field as the packets `0, …, N - 1` with one id and
one parity. `VideoField N` is a field together with the packets of it that arrive, so a list of
fields is a stream with losses. The lemmas here say what `processPacket` makes of the arriving
packets of one field.

## Main definitions

* `UsbTv.VideoField` — a field and the packets of it that arrive.
* `UsbTv.VideoField.ofPayload` — a field of given payloads.
* `UsbTv.VideoField.packets` — the arriving packets in order.
* `UsbTv.VideoField.copies` — the block copies that placing them makes.
* `UsbTv.VideoField.Recognised` — the start of the field is noticed.
* `UsbTv.VideoField.filled` — the state after the field, before it is finished.
* `UsbTv.Assembler.WrittenFrom` — packets were placed, and no field was finished.

## Main results

* `UsbTv.Assembler.feed_field_of_finishes`, `feed_field_of_not_finishes` — a field that is
  recognised as new.
* `UsbTv.Assembler.feed_field_writtenFrom`, `feed_field_finish` — any field, as far as the
  buffer, the pool and `_secondFrame` are concerned.
-/

namespace UsbTv

/-- A field of `N` packets, and which of them arrive. -/
structure VideoField (N : ℕ) where
  id : ℕ
  odd : Bool
  packet : ℕ → Packet
  /-- The headers of the packets are valid and carry id, parity and number. -/
  valid : ∀ k < N, usbtvFrameOk (packet k).header = true ∧ usbtvFrameId (packet k).header = id ∧
    usbtvOdd (packet k).header = odd ∧ usbtvPacketNo (packet k).header = k
  /-- Packet `k` arrives. -/
  received : ℕ → Bool

namespace VideoField

variable {N : ℕ}

/-- The field with the given id, parity and payloads, some packets of which arrive. -/
def ofPayload (hN : N ≤ 4096) (id : ℕ) (hid : id < 256) (odd : Bool)
    (payload : ℕ → ℕ → UInt8) (received : ℕ → Bool) : VideoField N where
  id := id
  odd := odd
  packet k := ⟨packetHeader id odd k, payload k⟩
  valid _ hk := decode_packetHeader odd hid (hk.trans_le hN)
  received := received

variable (f : VideoField N)

/-- The numbers below `k` of the arriving packets. -/
def numbers (k : ℕ) : List ℕ := (List.range k).filter f.received

/-- The arriving packets with a number below `k`. -/
def packetsBelow (k : ℕ) : List Packet := (f.numbers k).map f.packet

/-- The arriving packets. -/
def packets : List Packet := f.packetsBelow N

/-- The copies that place the arriving packets with a number below `k`. -/
def copiesBelow (params : FrameParams) (k : ℕ) : List (Copy UInt8) :=
  (f.numbers k).flatMap fun j => Assembler.placePacket params (f.packet j).payload j f.odd

/-- The copies that place the arriving packets. -/
def copies (params : FrameParams) : List (Copy UInt8) := f.copiesBelow params N

/-- The last packet of the field arrives, so the field is finished. -/
def Finishes : Prop := f.received (N - 1) = true

instance : Decidable f.Finishes := inferInstanceAs (Decidable (_ = _))

/-- No packet of the field is lost. -/
def Whole : Prop := ∀ k < N, f.received k = true

instance : Decidable f.Whole := inferInstanceAs (Decidable (∀ k < N, _))

/-- After a field with the id `current` this one is recognised as new. -/
def Recognised (current : ℕ) : Prop := f.id ≠ current ∨ f.received 0 = true

instance (current : ℕ) : Decidable (f.Recognised current) := inferInstanceAs (Decidable (_ ∨ _))

/-- Some packet of the field arrives. -/
def Survives : Prop := f.numbers N ≠ []

instance : Decidable f.Survives := inferInstanceAs (Decidable (_ ≠ _))

@[simp] lemma numbers_zero : f.numbers 0 = [] := rfl

lemma numbers_succ_of_received {k : ℕ} (h : f.received k = true) :
    f.numbers (k + 1) = f.numbers k ++ [k] := by
  simp [numbers, List.range_succ, h]

lemma numbers_succ_of_lost {k : ℕ} (h : f.received k = false) :
    f.numbers (k + 1) = f.numbers k := by
  simp [numbers, List.range_succ, h]

lemma mem_numbers {j k : ℕ} : j ∈ f.numbers k ↔ j < k ∧ f.received j = true := by
  simp [numbers]

/-- At most `k` packets have a number below `k`. -/
lemma length_numbers_le (k : ℕ) : (f.numbers k).length ≤ k := by
  have h := List.length_filter_le f.received (List.range k)
  rwa [List.length_range] at h

/-- All packets arrive if and only if as many arrive as there are. -/
lemma length_numbers_eq_iff : (f.numbers N).length = N ↔ f.Whole := by
  have h := List.length_filter_eq_length_iff (p := f.received) (l := List.range N)
  rw [List.length_range] at h
  rw [numbers, h]
  simp [Whole]

/-- The packet numbers ascend. -/
lemma pairwise_numbers (k : ℕ) : (f.numbers k).Pairwise (· < ·) :=
  List.pairwise_lt_range.filter _

lemma packetsBelow_succ_of_received {k : ℕ} (h : f.received k = true) :
    f.packetsBelow (k + 1) = f.packetsBelow k ++ [f.packet k] := by
  simp [packetsBelow, f.numbers_succ_of_received h]

lemma packetsBelow_succ_of_lost {k : ℕ} (h : f.received k = false) :
    f.packetsBelow (k + 1) = f.packetsBelow k := by
  simp [packetsBelow, f.numbers_succ_of_lost h]

lemma copiesBelow_succ_of_received (params : FrameParams) {k : ℕ} (h : f.received k = true) :
    f.copiesBelow params (k + 1) = f.copiesBelow params k ++
      Assembler.placePacket params (f.packet k).payload k f.odd := by
  simp [copiesBelow, f.numbers_succ_of_received h]

lemma copiesBelow_succ_of_lost (params : FrameParams) {k : ℕ} (h : f.received k = false) :
    f.copiesBelow params (k + 1) = f.copiesBelow params k := by
  simp [copiesBelow, f.numbers_succ_of_lost h]

/-- A finished field survives. -/
lemma Finishes.survives {f : VideoField N} (h : f.Finishes) (hN : 0 < N) : f.Survives := by
  intro hn
  have hmem : N - 1 ∈ f.numbers N := f.mem_numbers.mpr ⟨by omega, h⟩
  rw [hn] at hmem
  exact List.not_mem_nil hmem

end VideoField

namespace Assembler

variable (a : Assembler) (answer : ℕ → Answer)

/-- `_packetsDone = done`. -/
def setPacketsDone (done : ℕ) : Assembler := { a with packetsDone := done }

lemma setPacketsDone_self {a : Assembler} {n : ℕ} (h : a.packetsDone = n) :
    a.setPacketsDone n = a := by
  subst h
  rfl

lemma setInputFrame_setInputFrame (f g : UsbTvFrame) :
    (a.setInputFrame f).setInputFrame g = a.setInputFrame g := by
  simp only [setInputFrame, Function.update_idem]

lemma memcpy_memcpy (cs cs' : List (Copy UInt8)) :
    (a.memcpy cs).memcpy cs' = a.memcpy (cs ++ cs') := by
  rw [memcpy, memcpy_inputFrame, memcpy, setInputFrame_setInputFrame, memcpy,
    Mem.copies_append]

/-- Placing one more packet in a field that has started. -/
lemma countPacket_memcpy_setPacketsDone (cs : List (Copy UInt8)) {n : ℕ} (hn : n + 1 < 2 ^ 16) :
    ((a.setPacketsDone n).memcpy cs).countPacket = (a.memcpy cs).setPacketsDone (n + 1) := by
  have h : ((a.setPacketsDone n).memcpy cs).countPacket =
      (a.memcpy cs).setPacketsDone ((n + 1) % 2 ^ 16) := rfl
  rw [h, Nat.mod_eq_of_lt hn]

@[simp] lemma startField_packetsDone (frameId : ℕ) (isOdd : Bool) :
    (a.startField frameId isOdd).packetsDone = 0 := by
  unfold startField; split_ifs <;> rfl

@[simp] lemma startField_currentFrameId (frameId : ℕ) (isOdd : Bool) :
    (a.startField frameId isOdd).currentFrameId = frameId := by
  unfold startField; split_ifs <;> rfl

@[simp] lemma startField_packetsPerField (frameId : ℕ) (isOdd : Bool) :
    (a.startField frameId isOdd).packetsPerField = a.packetsPerField := by
  unfold startField; split_ifs <;> rfl

@[simp] lemma startField_frameParams (frameId : ℕ) (isOdd : Bool) :
    (a.startField frameId isOdd).frameParams = a.frameParams := by
  unfold startField; split_ifs <;> rfl

@[simp] lemma startField_usbInputFrame (frameId : ℕ) (isOdd : Bool) :
    (a.startField frameId isOdd).usbInputFrame = a.usbInputFrame := by
  unfold startField; split_ifs <;> rfl

@[simp] lemma startField_handed (frameId : ℕ) (isOdd : Bool) :
    (a.startField frameId isOdd).handed = a.handed := by
  unfold startField; split_ifs <;> rfl

@[simp] lemma startField_secondFrame (frameId : ℕ) (isOdd : Bool) :
    (a.startField frameId isOdd).secondFrame = a.secondFrame := by
  unfold startField; split_ifs <;> rfl

@[simp] lemma startField_inputFrame (frameId : ℕ) (isOdd : Bool) :
    (a.startField frameId isOdd).inputFrame = { a.inputFrame with flags := frameInProgress } := by
  unfold startField; split_ifs <;> rw [setFlags_inputFrame] <;> rfl

end Assembler

namespace VideoField

variable {N : ℕ} (f : VideoField N)

/-- The state after the arriving packets with a number below `k`, when there is one and the
field was recognised as new. -/
def filledBelow (a : Assembler) (k : ℕ) : Assembler :=
  ((a.startField f.id f.odd).memcpy (f.copiesBelow a.frameParams k)).setPacketsDone
    (f.numbers k).length

/-- The state after all arriving packets of a new field, before it is finished. -/
def filled (a : Assembler) : Assembler := f.filledBelow a N

end VideoField

namespace Assembler

variable {N : ℕ} (f : VideoField N) (a : Assembler) (answer : ℕ → Answer)

/-- The packets of a field of this norm are not ignored. -/
lemma not_ignored_packet (hp : a.packetsPerField = N) {k : ℕ} (hk : k < N) :
    ¬ a.Ignored (f.packet k) := by
  obtain ⟨hok, -, -, hno⟩ := f.valid k hk
  simp only [Ignored, hok, hno, hp, not_or, not_le]
  exact ⟨by simp, hk⟩

/-- The first packet of a field that is recognised as new. -/
lemma receive_first {k : ℕ} (hk : k < N) (hstart : k = 0 ∨ f.id ≠ a.currentFrameId) :
    a.receive (f.packet k) = ((a.startField f.id f.odd).memcpy
      (placePacket a.frameParams (f.packet k).payload k f.odd)).setPacketsDone 1 := by
  obtain ⟨-, hfid, hodd, hno⟩ := f.valid k hk
  have hs : a.Starts (f.packet k) := by
    unfold Starts
    rw [hno, hfid]
    exact hstart
  have hz := setPacketsDone_self (a.startField_packetsDone f.id f.odd)
  have h := countPacket_memcpy_setPacketsDone (a.startField f.id f.odd)
    (placePacket a.frameParams (f.packet k).payload k f.odd) (n := 0) (by norm_num)
  rw [hz] at h
  simp only [receive, if_pos hs, hfid, hodd, hno, startField_frameParams, h]

/-- A later packet of a field that was recognised as new. -/
lemma receive_later {k : ℕ} (hk : k < N) (hk0 : k ≠ 0) {n : ℕ} (hn : n + 1 < 2 ^ 16)
    (cs : List (Copy UInt8)) :
    (((a.startField f.id f.odd).memcpy cs).setPacketsDone n).receive (f.packet k) =
      ((a.startField f.id f.odd).memcpy (cs ++
        placePacket a.frameParams (f.packet k).payload k f.odd)).setPacketsDone (n + 1) := by
  obtain ⟨-, hfid, hodd, hno⟩ := f.valid k hk
  set b := a.startField f.id f.odd with hb
  have hs : ¬ ((b.memcpy cs).setPacketsDone n).Starts (f.packet k) := by
    have hcur : ((b.memcpy cs).setPacketsDone n).currentFrameId = f.id :=
      a.startField_currentFrameId f.id f.odd
    simp only [Starts, hfid, hno, hcur, not_or]
    exact ⟨hk0, by simp⟩
  have hp : ((b.memcpy cs).setPacketsDone n).frameParams = a.frameParams :=
    a.startField_frameParams f.id f.odd
  have h := countPacket_memcpy_setPacketsDone (b.memcpy cs)
    (placePacket a.frameParams (f.packet k).payload k f.odd) hn
  rw [memcpy_memcpy] at h
  simp only [receive, if_neg hs, hodd, hno, hp, h]

/-- A packet other than the last of its field does not finish the field. -/
lemma processPacket_of_not_last (hp : a.packetsPerField = N) (hN : N < 2 ^ 16) {k : ℕ}
    (hk : k + 1 < N) : a.processPacket answer (f.packet k) = a.receive (f.packet k) := by
  obtain ⟨-, -, -, hno⟩ := f.valid k (by omega)
  rw [processPacket_of_accepted a answer (a.not_ignored_packet f hp (by omega)) (by omega),
    hno, hp, if_neg (by omega)]

/-- The last packet of a field finishes it. -/
lemma processPacket_of_last (hp : a.packetsPerField = N) (hN : N < 2 ^ 16) (h0 : 0 < N) :
    a.processPacket answer (f.packet (N - 1)) =
      (a.receive (f.packet (N - 1))).checkFinishedFrame answer f.odd := by
  obtain ⟨-, -, hodd, hno⟩ := f.valid (N - 1) (by omega)
  rw [processPacket_of_accepted a answer (a.not_ignored_packet f hp (by omega)) (by omega),
    hno, hp, hodd, if_pos (by omega)]

/-- Receiving packet `k` after the arriving packets below it. -/
lemma receive_filledBelow {k : ℕ} (hk : k < N) (hN : N < 2 ^ 16)
    (hnew : f.Recognised a.currentFrameId) (hr : f.received k = true) :
    (if f.numbers k = [] then a else f.filledBelow a k).receive (f.packet k) =
      f.filledBelow a (k + 1) := by
  have hlen := f.length_numbers_le k
  unfold VideoField.filledBelow
  rw [f.copiesBelow_succ_of_received _ hr, f.numbers_succ_of_received hr]
  by_cases hnil : f.numbers k = []
  · have hstart : k = 0 ∨ f.id ≠ a.currentFrameId := by
      apply hnew.symm.imp_left
      intro hzero
      by_contra hk0
      exact absurd (f.mem_numbers.mpr ⟨Nat.pos_of_ne_zero hk0, hzero⟩) (hnil ▸ List.not_mem_nil)
    rw [if_pos hnil, a.receive_first f hk hstart, VideoField.copiesBelow, hnil]
    rfl
  · have hk0 : k ≠ 0 := by
      rintro rfl
      exact hnil f.numbers_zero
    rw [if_neg hnil, a.receive_later f hk hk0 (by omega), List.length_append]
    rfl

/-- **The packets of a field, before the last one**: a field that is recognised as new and of
which no packet below `k` finishes anything has placed and counted what arrived. -/
lemma feed_packetsBelow (hp : a.packetsPerField = N) (hN : N < 2 ^ 16)
    (hnew : f.Recognised a.currentFrameId) {k : ℕ} (hk : k < N) :
    a.feed answer (f.packetsBelow k) =
      if f.numbers k = [] then a else f.filledBelow a k := by
  induction k with
  | zero => rfl
  | succ k ih =>
    cases hr : f.received k with
    | false =>
      rw [f.packetsBelow_succ_of_lost hr, ih (by omega), f.numbers_succ_of_lost hr]
      simp only [VideoField.filledBelow, f.numbers_succ_of_lost hr,
        f.copiesBelow_succ_of_lost _ hr]
    | true =>
      have hcfg := (a.feed_config answer (f.packetsBelow k)).packetsPerField.trans hp
      rw [f.packetsBelow_succ_of_received hr, feed_append, feed_cons, feed_nil,
        processPacket_of_not_last f _ _ hcfg hN hk, ih (by omega),
        a.receive_filledBelow f (by omega) hN hnew hr, f.numbers_succ_of_received hr,
        if_neg (by simp)]

/-- **A field that is recognised as new and is finished**: what arrived was placed and counted
when the last packet finished it. -/
theorem feed_field_of_finishes (hp : a.packetsPerField = N) (h0 : 0 < N) (hN : N < 2 ^ 16)
    (hnew : f.Recognised a.currentFrameId) (hf : f.Finishes) :
    a.feed answer f.packets = (f.filled a).checkFinishedFrame answer f.odd := by
  obtain ⟨n, rfl⟩ : ∃ n, N = n + 1 := ⟨N - 1, by omega⟩
  have hr : f.received n = true := hf
  have hcfg := (a.feed_config answer (f.packetsBelow n)).packetsPerField.trans hp
  have hlast := processPacket_of_last f (a.feed answer (f.packetsBelow n)) answer hcfg hN h0
  rw [Nat.add_sub_cancel, feed_packetsBelow f a answer hp hN hnew (Nat.lt_succ_self n),
    a.receive_filledBelow f (Nat.lt_succ_self n) hN hnew hr] at hlast
  rw [VideoField.packets, f.packetsBelow_succ_of_received hr, feed_append, feed_cons, feed_nil,
    feed_packetsBelow f a answer hp hN hnew (Nat.lt_succ_self n), hlast]
  rfl

/-- **A field that is recognised as new and loses its last packet**: what arrived was placed and
counted, and nothing more. -/
theorem feed_field_of_not_finishes (hp : a.packetsPerField = N) (h0 : 0 < N) (hN : N < 2 ^ 16)
    (hnew : f.Recognised a.currentFrameId) (hf : ¬ f.Finishes) :
    a.feed answer f.packets = if f.Survives then f.filled a else a := by
  obtain ⟨n, rfl⟩ : ∃ n, N = n + 1 := ⟨N - 1, by omega⟩
  have hr : f.received n = false := Bool.eq_false_iff.mpr hf
  have hbelow := feed_packetsBelow f a answer hp hN hnew (Nat.lt_succ_self n)
  rw [VideoField.packets, f.packetsBelow_succ_of_lost hr, hbelow]
  by_cases hnil : f.numbers n = []
  · have hs : ¬ f.Survives := by
      simp only [VideoField.Survives, f.numbers_succ_of_lost hr, hnil, ne_eq, not_true_eq_false,
        not_false_eq_true]
    rw [if_pos hnil, if_neg hs]
  · have hs : f.Survives := by
      simp only [VideoField.Survives, f.numbers_succ_of_lost hr]
      exact hnil
    rw [if_neg hnil, if_pos hs]
    simp only [VideoField.filled, VideoField.filledBelow, f.numbers_succ_of_lost hr,
      f.copiesBelow_succ_of_lost _ hr]

/-! ## Fields in general -/

/-- From `a` to `b` the copies `cs` were made into the input frame, and no field was finished. -/
structure WrittenFrom (a b : Assembler) (cs : List (Copy UInt8)) : Prop where
  frameParams : b.frameParams = a.frameParams
  packetsPerField : b.packetsPerField = a.packetsPerField
  usbInputFrame : b.usbInputFrame = a.usbInputFrame
  handed : b.handed = a.handed
  secondFrame : b.secondFrame = a.secondFrame
  buffer : b.inputFrame.buffer = a.inputFrame.buffer.copies cs

namespace WrittenFrom

lemma refl (a : Assembler) : WrittenFrom a a [] := ⟨rfl, rfl, rfl, rfl, rfl, rfl⟩

lemma trans {a b c : Assembler} {cs cs' : List (Copy UInt8)} (h : WrittenFrom a b cs)
    (h' : WrittenFrom b c cs') : WrittenFrom a c (cs ++ cs') :=
  ⟨h'.frameParams.trans h.frameParams, h'.packetsPerField.trans h.packetsPerField,
    h'.usbInputFrame.trans h.usbInputFrame, h'.handed.trans h.handed,
    h'.secondFrame.trans h.secondFrame, by rw [h'.buffer, h.buffer, Mem.copies_append]⟩

/-- A packet of the field that is received is placed. -/
lemma receive {k : ℕ} (hk : k < N) :
    WrittenFrom a (a.receive (f.packet k))
      (placePacket a.frameParams (f.packet k).payload k f.odd) := by
  obtain ⟨-, -, hodd, hno⟩ := f.valid k hk
  have hstart : WrittenFrom a (a.startField (usbtvFrameId (f.packet k).header) f.odd) [] := by
    refine ⟨?_, ?_, ?_, ?_, ?_, ?_⟩ <;> simp [Mem.copies]
  have hplace : ∀ b, WrittenFrom a b [] → WrittenFrom a
      ((b.memcpy (placePacket b.frameParams (f.packet k).payload k f.odd)).countPacket)
      (placePacket a.frameParams (f.packet k).payload k f.odd) := by
    intro b hb
    have hw : WrittenFrom b
        ((b.memcpy (placePacket b.frameParams (f.packet k).payload k f.odd)).countPacket)
        (placePacket b.frameParams (f.packet k).payload k f.odd) := by
      refine ⟨rfl, rfl, rfl, rfl, rfl, ?_⟩
      exact congrArg UsbTvFrame.buffer (b.memcpy_inputFrame _)
    rw [hb.frameParams] at hw ⊢
    exact hb.trans hw
  simp only [Assembler.receive, hodd, hno]
  split_ifs
  · exact hplace _ hstart
  · exact hplace _ (refl a)

/-- The packets of a field before the last one are placed. -/
lemma feed_packetsBelow (hp : a.packetsPerField = N) (hN : N < 2 ^ 16) {k : ℕ} (hk : k < N) :
    WrittenFrom a (a.feed answer (f.packetsBelow k)) (f.copiesBelow a.frameParams k) := by
  induction k with
  | zero => exact refl a
  | succ k ih =>
    have h := ih (by omega)
    cases hr : f.received k with
    | false =>
      rw [f.packetsBelow_succ_of_lost hr, f.copiesBelow_succ_of_lost _ hr]
      exact h
    | true =>
      have hcfg := h.packetsPerField.trans hp
      rw [f.packetsBelow_succ_of_received hr, f.copiesBelow_succ_of_received _ hr, feed_append,
        feed_cons, feed_nil, processPacket_of_not_last f _ _ hcfg hN hk]
      have hrec := receive f (a.feed answer (f.packetsBelow k)) (k := k) (by omega)
      rw [h.frameParams] at hrec
      exact h.trans hrec

end WrittenFrom

/-- **A field that loses its last packet** places what arrives and finishes nothing, whatever
its id. -/
theorem feed_field_writtenFrom (hp : a.packetsPerField = N) (h0 : 0 < N) (hN : N < 2 ^ 16)
    (hf : ¬ f.Finishes) :
    WrittenFrom a (a.feed answer f.packets) (f.copies a.frameParams) := by
  obtain ⟨n, rfl⟩ : ∃ n, N = n + 1 := ⟨N - 1, by omega⟩
  have hr : f.received n = false := Bool.eq_false_iff.mpr hf
  rw [VideoField.packets, VideoField.copies, f.packetsBelow_succ_of_lost hr,
    f.copiesBelow_succ_of_lost _ hr]
  exact WrittenFrom.feed_packetsBelow f a answer hp hN (Nat.lt_succ_self n)

/-- **A field whose last packet arrives** places what arrives and is then finished, whatever its
id. -/
theorem feed_field_finish (hp : a.packetsPerField = N) (h0 : 0 < N) (hN : N < 2 ^ 16)
    (hf : f.Finishes) :
    ∃ b, WrittenFrom a b (f.copies a.frameParams) ∧
      a.feed answer f.packets = b.checkFinishedFrame answer f.odd := by
  obtain ⟨n, rfl⟩ : ∃ n, N = n + 1 := ⟨N - 1, by omega⟩
  have hr : f.received n = true := hf
  have hbelow := WrittenFrom.feed_packetsBelow f a answer hp hN (Nat.lt_succ_self n)
  have hlast := processPacket_of_last f (a.feed answer (f.packetsBelow n)) answer
    (hbelow.packetsPerField.trans hp) hN h0
  rw [Nat.add_sub_cancel] at hlast
  have hrec := WrittenFrom.receive f (a.feed answer (f.packetsBelow n)) (Nat.lt_succ_self n)
  rw [hbelow.frameParams] at hrec
  refine ⟨(a.feed answer (f.packetsBelow n)).receive (f.packet n), ?_, ?_⟩
  · rw [VideoField.copies, f.copiesBelow_succ_of_received _ hr]
    exact hbelow.trans hrec
  · rw [VideoField.packets, f.packetsBelow_succ_of_received hr, feed_append, feed_cons, feed_nil,
      hlast]

end Assembler

end UsbTv
