import UsbTv.Driver.Steps
import UsbTv.Driver.Streaming

set_option relaxedAutoImplicit false
set_option autoImplicit false

/-!
# Restarting a stream

`startStreaming` resets the loss counters, the parameters and the pool, but not the tracking
variables `_currentFrameId`, `_packetsDone`, `_lastOdd` and `_secondFrame`, which keep what the
last stream left in them. `_lastOdd` is never read. The others decide whether the restarted
stream can be told from the first stream of a new driver.

## Main definitions

* `UsbTv.Assembler.Output` — the frames handed over and the counters.
* `UsbTv.Tracking.Clean` — nothing is left of the last stream that packets can bring to light.

## Main results

* `UsbTv.Assembler.outputs_eq_of_agrees` — what is never read makes no difference.
* `UsbTv.Assembler.outputs_eq_iff_clean` — otherwise some packets tell the two streams apart.
* `UsbTv.UsbTvDriver.restart_outputs_eq_iff` — a restarted stream against a first one.
-/

namespace UsbTv

/-- Nothing is left of the last stream that packets can bring to light. -/
def Tracking.Clean (t : Tracking) (scanType : ScanType) : Prop :=
  t.currentFrameId = 0 ∧ t.packetsDone = 0 ∧ (scanType = .interleaved → t.secondFrame = false)

namespace Assembler

/-- The frames handed over in a session, with their flags and the bytes written, and the loss
counters. -/
structure Output where
  frames : List (ℕ × Mem UInt8)
  dropped : ℕ
  incomplete : ℕ

/-- What a session has put out. -/
def outputs (a : Assembler) : Output where
  frames := a.handed.map fun h => (h.frame.flags, h.frame.buffer)
  dropped := a.droppedFrameCounter
  incomplete := a.incompleteFrameCounter

/-- The tracking variables that `startStreaming` keeps, set to what another stream left. -/
def inherit (a : Assembler) (t : Tracking) : Assembler :=
  { a with
    currentFrameId := t.currentFrameId
    packetsDone := t.packetsDone
    lastOdd := t.lastOdd
    secondFrame := t.secondFrame }

/-! ## What is never read -/

/-- The state with other values in `_lastOdd` and `_secondFrame`. -/
def withUnread (a : Assembler) (lastOdd secondFrame : Bool) : Assembler :=
  { a with lastOdd := lastOdd, secondFrame := secondFrame }

variable (a : Assembler) (answer : ℕ → Answer)

lemma withUnread_receive (lastOdd secondFrame : Bool) (packet : Packet) :
    ∃ lastOdd', (a.withUnread lastOdd secondFrame).receive packet =
      (a.receive packet).withUnread lastOdd' secondFrame := by
  by_cases hs : a.Starts packet
  · have hs' : (a.withUnread lastOdd secondFrame).Starts packet := hs
    refine ⟨usbtvOdd packet.header, ?_⟩
    simp only [receive, if_pos hs, if_pos hs', startField]
    by_cases hf : a.inputFrame.flags &&& frameInProgress > 0
    · have hf' : (a.withUnread lastOdd secondFrame).inputFrame.flags &&& frameInProgress > 0 := hf
      rw [if_pos hf, if_pos hf']
      rfl
    · have hf' : ¬ (a.withUnread lastOdd secondFrame).inputFrame.flags &&& frameInProgress > 0 :=
        hf
      rw [if_neg hf, if_neg hf']
      rfl
  · have hs' : ¬ (a.withUnread lastOdd secondFrame).Starts packet := hs
    refine ⟨lastOdd, ?_⟩
    simp only [receive, if_neg hs, if_neg hs']
    rfl

lemma withUnread_flagFinished (lastOdd secondFrame : Bool) :
    (a.withUnread lastOdd secondFrame).flagFinished =
      a.flagFinished.withUnread lastOdd secondFrame := by
  by_cases h : a.packetsDone ≠ a.packetsPerField
  · have h' : (a.withUnread lastOdd secondFrame).packetsDone ≠
      (a.withUnread lastOdd secondFrame).packetsPerField := h
    rw [flagFinished, flagFinished, if_pos h, if_pos h']
    rfl
  · have h' : ¬ (a.withUnread lastOdd secondFrame).packetsDone ≠
      (a.withUnread lastOdd secondFrame).packetsPerField := h
    rw [flagFinished, flagFinished, if_neg h, if_neg h']
    rfl

lemma withUnread_addCompleteFrameToQueue (lastOdd secondFrame : Bool) :
    (a.withUnread lastOdd secondFrame).addCompleteFrameToQueue answer =
      (a.addCompleteFrameToQueue answer).withUnread lastOdd secondFrame := by
  have hlen : (a.withUnread lastOdd secondFrame).handed.length = a.handed.length := rfl
  rw [addCompleteFrameToQueue, addCompleteFrameToQueue, hlen]
  cases answer a.handed.length <;> rfl

/-- The two states differ at most in what is never read: `_lastOdd`, and without interleaving
`_secondFrame`. -/
def Agrees (b : Assembler) : Prop :=
  ∃ lastOdd secondFrame, b = a.withUnread lastOdd secondFrame ∧
    (a.frameParams.scanType = .interleaved → secondFrame = a.secondFrame)

variable {a}

lemma Agrees.checkFinishedFrame {b : Assembler} (h : a.Agrees b) (isOdd : Bool) :
    (a.checkFinishedFrame answer isOdd).Agrees (b.checkFinishedFrame answer isOdd) := by
  obtain ⟨o, s, rfl, hs⟩ := h
  have hscan : (a.withUnread o s).frameParams.scanType = a.frameParams.scanType := rfl
  have hcfg := ((SameConfig.refl a).checkFinishedFrame answer isOdd).frameParams
  cases hty : a.frameParams.scanType with
  | progressive =>
    refine ⟨o, s, ?_, fun h => ?_⟩
    · simp only [Assembler.checkFinishedFrame, hscan, hty, withUnread_flagFinished,
        withUnread_addCompleteFrameToQueue]
    · rw [hcfg, hty] at h
      exact absurd h (by simp)
  | discard =>
    refine ⟨o, s, ?_, fun h => ?_⟩
    · simp only [Assembler.checkFinishedFrame, hscan, hty, withUnread_flagFinished,
        withUnread_addCompleteFrameToQueue]
      split_ifs <;> rfl
    · rw [hcfg, hty] at h
      exact absurd h (by simp)
  | interleaved =>
    obtain rfl := hs hty
    have hsecond : (a.withUnread o a.secondFrame).secondFrame = a.secondFrame := rfl
    refine ⟨o, (a.checkFinishedFrame answer isOdd).secondFrame, ?_, fun _ => rfl⟩
    simp only [Assembler.checkFinishedFrame, hscan, hty, withUnread_flagFinished,
      withUnread_addCompleteFrameToQueue, hsecond]
    cases h₁ : a.secondFrame with
    | true =>
      simp only [if_true]
      rfl
    | false =>
      cases isOdd with
      | true => rfl
      | false =>
        have h₂ : a.flagFinished.secondFrame = false := a.flagFinished_secondFrame.trans h₁
        simp only [Bool.false_eq_true, if_false, h₂]

/-- **A packet does not read what is never read.** -/
lemma Agrees.processPacket {b : Assembler} (h : a.Agrees b) (packet : Packet) :
    (a.processPacket answer packet).Agrees (b.processPacket answer packet) := by
  obtain ⟨o, s, rfl, hs⟩ := h
  have hrec : (a.receive packet).Agrees ((a.withUnread o s).receive packet) := by
    obtain ⟨o', heq⟩ := withUnread_receive a o s packet
    refine ⟨o', s, heq, fun h => ?_⟩
    rw [((SameConfig.refl a).receive packet).frameParams] at h
    rw [hs h]
    unfold receive
    split_ifs
    · exact (a.startField_secondFrame _ _).symm
    · rfl
  unfold Assembler.processPacket
  by_cases hign : a.Ignored packet
  · have hign' : (a.withUnread o s).Ignored packet := hign
    rw [if_pos hign, if_pos hign']
    exact ⟨o, s, rfl, hs⟩
  · have hign' : ¬ (a.withUnread o s).Ignored packet := hign
    have hN : (a.withUnread o s).packetsPerField = a.packetsPerField := rfl
    rw [if_neg hign, if_neg hign', hN]
    split_ifs
    · exact hrec.checkFinishedFrame answer _
    · exact hrec

/-- **What is never read makes no difference**: two sessions that agree put out the same. -/
theorem outputs_eq_of_agrees {b : Assembler} (h : a.Agrees b) (packets : List Packet) :
    (b.feed answer packets).outputs = (a.feed answer packets).outputs := by
  induction packets generalizing a b with
  | nil =>
    obtain ⟨o, s, rfl, -⟩ := h
    rfl
  | cons p ps ih => exact ih (h.processPacket answer p)

/-! ## Packets that tell two streams apart -/

variable (a)

/-- A packet with a valid header and an empty payload. -/
def blankPacket (id packetNo : ℕ) : Packet := ⟨packetHeader id true packetNo, fun _ => 0⟩

/-- After a packet its id is the current one, and it was counted: on top of the packets before it
if it goes on with the same field. -/
lemma receive_blankPacket {id packetNo : ℕ} (hid : id < 256) (hno : packetNo < 4096)
    (h0 : packetNo ≠ 0) :
    (a.receive (blankPacket id packetNo)).currentFrameId = id ∧
      (a.receive (blankPacket id packetNo)).packetsDone =
        ((if id = a.currentFrameId then a.packetsDone else 0) + 1) % 2 ^ 16 := by
  obtain ⟨-, hfid, -, hpno⟩ := decode_packetHeader true hid hno
  have hstarts : a.Starts (blankPacket id packetNo) ↔ id ≠ a.currentFrameId := by
    simp only [Starts, blankPacket, hfid, hpno, h0, false_or]
  by_cases hcur : id = a.currentFrameId
  · have hs : ¬ a.Starts (blankPacket id packetNo) := fun h => hstarts.mp h hcur
    rw [receive, if_neg hs, if_pos hcur]
    exact ⟨hcur.symm, rfl⟩
  · rw [receive, if_pos (hstarts.mpr hcur), if_neg hcur]
    refine ⟨?_, ?_⟩
    · show (a.startField _ _).currentFrameId = id
      rw [startField_currentFrameId]
      exact hfid
    · show ((a.startField _ _).packetsDone + 1) % 2 ^ 16 = _
      rw [startField_packetsDone]

/-- A packet before the last one is received and no more. -/
lemma processPacket_blankPacket {id packetNo : ℕ} (hid : id < 256) (hno : packetNo < 4096)
    (hlt : packetNo + 1 < a.packetsPerField) (hN : a.packetsPerField < 2 ^ 16) :
    a.processPacket answer (blankPacket id packetNo) = a.receive (blankPacket id packetNo) := by
  obtain ⟨hok, -, -, hpno⟩ := decode_packetHeader true hid hno
  have hign : ¬ a.Ignored (blankPacket id packetNo) := by
    simp only [Ignored, blankPacket, hok, hpno, not_or, not_le]
    exact ⟨by simp, by omega⟩
  have hpno' : usbtvPacketNo (blankPacket id packetNo).header = packetNo := hpno
  rw [a.processPacket_of_accepted answer hign (by omega), hpno', if_neg (by omega)]

/-- The last packet is received and finishes the field. -/
lemma processPacket_blankPacket_last {id packetNo : ℕ} (hid : id < 256) (hno : packetNo < 4096)
    (hlast : packetNo + 1 = a.packetsPerField) :
    a.processPacket answer (blankPacket id packetNo) =
      (a.receive (blankPacket id packetNo)).checkFinishedFrame answer true := by
  obtain ⟨hok, -, hodd, hpno⟩ := decode_packetHeader true hid hno
  have hign : ¬ a.Ignored (blankPacket id packetNo) := by
    simp only [Ignored, blankPacket, hok, hpno, not_or, not_le]
    exact ⟨by simp, by omega⟩
  have hpno' : usbtvPacketNo (blankPacket id packetNo).header = packetNo := hpno
  have hodd' : usbtvOdd (blankPacket id packetNo).header = true := hodd
  rw [a.processPacket_of_accepted answer hign (by omega), hpno', if_pos hlast, hodd']

/-- Packet `1` of a field over and over, and then its last packet: as many packets as a field
has. -/
def repeatedField (id packetsPerField : ℕ) : List Packet :=
  List.replicate (packetsPerField - 1) (blankPacket id 1) ++ [blankPacket id (packetsPerField - 1)]

/-- What packet `1` over and over leaves in the tracking variables. -/
lemma feed_replicate {id : ℕ} (hid : id < 256) (h3 : 3 ≤ a.packetsPerField)
    (hN : a.packetsPerField < 4096) {k : ℕ} {b : Assembler}
    (hb : a.feed answer (List.replicate (k + 1) (blankPacket id 1)) = b) :
    b.packetsPerField = a.packetsPerField ∧
      b.incompleteFrameCounter = a.incompleteFrameCounter ∧ b.currentFrameId = id ∧
      b.packetsDone =
        ((if id = a.currentFrameId then a.packetsDone else 0) + (k + 1)) % 2 ^ 16 := by
  induction k generalizing b with
  | zero =>
    rw [Nat.zero_add, List.replicate_one, feed_cons, feed_nil,
      a.processPacket_blankPacket answer hid (by norm_num) (by omega) (by omega)] at hb
    obtain ⟨hcur, hdone⟩ := a.receive_blankPacket hid (show 1 < 4096 by norm_num) one_ne_zero
    rw [← hb]
    exact ⟨a.receive_packetsPerField _, a.receive_incompleteFrameCounter _, hcur, hdone⟩
  | succ k ih =>
    obtain ⟨hppf, hinc, hcur, hdone⟩ := ih rfl
    rw [List.replicate_succ', feed_append, feed_cons, feed_nil] at hb
    generalize a.feed answer (List.replicate (k + 1) (blankPacket id 1)) = b₀ at *
    rw [b₀.processPacket_blankPacket answer hid (by norm_num) (by omega) (by omega)] at hb
    obtain ⟨hcur', hdone'⟩ :=
      b₀.receive_blankPacket hid (show 1 < 4096 by norm_num) one_ne_zero
    rw [← hb]
    refine ⟨(b₀.receive_packetsPerField _).trans hppf,
      (b₀.receive_incompleteFrameCounter _).trans hinc, hcur', ?_⟩
    rw [hdone', if_pos hcur.symm, hdone]
    omega

/-- **Leftover packets make a field incomplete**: after as many packets as a field has, it counts
as incomplete exactly when packets of an earlier field with its id were left over. -/
lemma feed_repeatedField_incomplete {id : ℕ} (hid : id < 256) (h3 : 3 ≤ a.packetsPerField)
    (hN : a.packetsPerField < 4096) (hdone : a.packetsDone < 2 ^ 16) :
    (a.feed answer (repeatedField id a.packetsPerField)).incompleteFrameCounter =
      if id = a.currentFrameId ∧ a.packetsDone ≠ 0 then (a.incompleteFrameCounter + 1) % 2 ^ 32
      else a.incompleteFrameCounter := by
  obtain ⟨k, hk⟩ : ∃ k, a.packetsPerField - 1 = k + 1 := ⟨a.packetsPerField - 2, by omega⟩
  obtain ⟨hppf, hinc, hcur, hcount⟩ := a.feed_replicate answer hid h3 hN (k := k) rfl
  rw [repeatedField, hk, feed_append, feed_cons, feed_nil]
  set b := a.feed answer (List.replicate (k + 1) (blankPacket id 1)) with hb
  rw [b.processPacket_blankPacket_last answer hid (by omega) (by omega),
    checkFinishedFrame_incompleteFrameCounter, receive_packetsPerField,
    receive_incompleteFrameCounter, hppf, hinc]
  obtain ⟨-, hdone'⟩ := b.receive_blankPacket hid (show k + 1 < 4096 by omega) (by omega)
  rw [if_pos hcur.symm, hcount] at hdone'
  have hiff : (b.receive (blankPacket id (k + 1))).packetsDone ≠ a.packetsPerField ↔
      (id = a.currentFrameId ∧ a.packetsDone ≠ 0) := by
    rw [hdone']
    split_ifs with hcur'
    · simp only [hcur', true_and]
      omega
    · simp only [hcur', false_and, iff_false, not_not]
      omega
  simp only [hiff]

/-- **A leftover id makes a drop**: packets `1` and `0` of the field with id `0` count as a
dropped frame exactly when another id was left over. -/
lemma feed_blankPackets_dropped (h3 : 3 ≤ a.packetsPerField) (hN : a.packetsPerField < 4096)
    (hflags : a.inputFrame.flags = frameStart) :
    (a.feed answer [blankPacket 0 1, blankPacket 0 0]).droppedFrameCounter =
      if a.currentFrameId = 0 then a.droppedFrameCounter
      else (a.droppedFrameCounter + 1) % 2 ^ 32 := by
  have hidle : ¬ frameStart &&& frameInProgress > 0 := by decide
  have hbusy : frameInProgress &&& frameInProgress > 0 := by decide
  have hid₁ : usbtvFrameId (blankPacket 0 1).header = 0 := by decide
  have hno₁ : usbtvPacketNo (blankPacket 0 1).header ≠ 0 := by decide
  have hstart₀ : (a.receive (blankPacket 0 1)).Starts (blankPacket 0 0) := .inl (by decide)
  have hstart₁ : a.Starts (blankPacket 0 1) ↔ a.currentFrameId ≠ 0 := by
    simp only [Starts, hid₁, hno₁, false_or, ne_eq, eq_comm]
  have hN' : (a.receive (blankPacket 0 1)).packetsPerField = a.packetsPerField :=
    a.receive_packetsPerField _
  rw [feed_cons, feed_cons, feed_nil,
    a.processPacket_blankPacket answer (by norm_num) (by norm_num) (by omega) (by omega),
    processPacket_blankPacket _ answer (by norm_num) (by norm_num) (by omega) (by omega),
    receive_droppedFrameCounter, receive_flags, receive_droppedFrameCounter, hflags]
  -- packet `0` finds a frame in progress if packet `1` started a field
  by_cases hcur : a.currentFrameId = 0
  · have hs : ¬ a.Starts (blankPacket 0 1) := fun h => hstart₁.mp h hcur
    simp only [hs, hstart₀, hidle, hcur, and_false, if_true, if_false]
  · have hs : a.Starts (blankPacket 0 1) := hstart₁.mpr hcur
    simp only [hs, hstart₀, hidle, hbusy, hcur, and_self, and_false, if_true, if_false]

/-- **A leftover `_secondFrame` makes a frame**: the last packet of one odd field hands a frame
over exactly when `_secondFrame` was left set. -/
lemma feed_blankPacket_handed (hscan : a.frameParams.scanType = .interleaved)
    (h3 : 3 ≤ a.packetsPerField) (hN : a.packetsPerField < 4096) :
    (a.feed answer [blankPacket 1 (a.packetsPerField - 1)]).handed.length =
      a.handed.length + if a.secondFrame then 1 else 0 := by
  have hscan' : (a.receive (blankPacket 1 (a.packetsPerField - 1))).frameParams.scanType =
      .interleaved := by
    rw [((SameConfig.refl a).receive _).frameParams, hscan]
  rw [feed_cons, feed_nil,
    a.processPacket_blankPacket_last answer (by norm_num) (by omega) (by omega)]
  simp only [checkFinishedFrame, hscan', receive_secondFrame, if_true]
  cases a.secondFrame with
  | true =>
    show (addCompleteFrameToQueue _ answer).handed.length = _
    rw [addCompleteFrameToQueue_handed, flagFinished_handed, receive_handed]
    simp
  | false =>
    show (flagFinished _).handed.length = _
    rw [flagFinished_handed, receive_handed]
    simp

/-! ## A restarted session against a first one -/

/-- **When leftover tracking variables show**: a session that starts with variables left by
another stream puts out the same as a first session, whatever the packets and the answers, if and
only if nothing is left that packets can bring to light. -/
theorem outputs_eq_iff_clean {params : FrameParams} {N : ℕ} {frames : ℕ → UsbTvFrame}
    (h3 : 3 ≤ N) (hN : N < 4096) (hflags : (frames 0).flags = frameStart) {t : Tracking}
    (hid : t.currentFrameId < 256) (hdone : t.packetsDone < 2 ^ 16) :
    (∀ answer packets, (((fresh params N frames).inherit t).feed answer packets).outputs =
        ((fresh params N frames).feed answer packets).outputs) ↔
      t.Clean params.scanType := by
  set a₀ := fresh params N frames
  set a₁ := a₀.inherit t
  constructor
  · intro h
    have hcount : t.packetsDone = 0 := by
      by_contra hne
      have heq := congrArg Output.incomplete
        (h (fun _ => .refused) (repeatedField t.currentFrameId N))
      have h₁ : (a₁.feed (fun _ => .refused)
          (repeatedField t.currentFrameId N)).incompleteFrameCounter =
            if t.currentFrameId = t.currentFrameId ∧ t.packetsDone ≠ 0 then (0 + 1) % 2 ^ 32
            else 0 :=
        a₁.feed_repeatedField_incomplete _ hid h3 hN hdone
      have h₀ : (a₀.feed (fun _ => .refused)
          (repeatedField t.currentFrameId N)).incompleteFrameCounter =
            if t.currentFrameId = 0 ∧ 0 ≠ 0 then (0 + 1) % 2 ^ 32 else 0 :=
        a₀.feed_repeatedField_incomplete _ hid h3 hN (Nat.two_pow_pos 16)
      rw [if_pos ⟨rfl, hne⟩] at h₁
      rw [if_neg (fun h => h.2 rfl)] at h₀
      exact absurd (h₁.symm.trans (heq.trans h₀)) (by decide)
    have hcur : t.currentFrameId = 0 := by
      by_contra hne
      have heq := congrArg Output.dropped (h (fun _ => .refused) [blankPacket 0 1, blankPacket 0 0])
      have h₁ : (a₁.feed (fun _ => .refused)
          [blankPacket 0 1, blankPacket 0 0]).droppedFrameCounter =
            if t.currentFrameId = 0 then 0 else (0 + 1) % 2 ^ 32 :=
        a₁.feed_blankPackets_dropped _ h3 hN hflags
      have h₀ : (a₀.feed (fun _ => .refused)
          [blankPacket 0 1, blankPacket 0 0]).droppedFrameCounter =
            if 0 = 0 then 0 else (0 + 1) % 2 ^ 32 :=
        a₀.feed_blankPackets_dropped _ h3 hN hflags
      rw [if_neg hne] at h₁
      rw [if_pos rfl] at h₀
      exact absurd (h₁.symm.trans (heq.trans h₀)) (by decide)
    refine ⟨hcur, hcount, fun hscan => ?_⟩
    by_contra hne
    have heq := congrArg (fun o => o.frames.length)
      (h (fun _ => .refused) [blankPacket 1 (N - 1)])
    simp only [outputs, List.length_map] at heq
    have h₁ : (a₁.feed (fun _ => .refused) [blankPacket 1 (N - 1)]).handed.length =
        0 + if t.secondFrame then 1 else 0 :=
      a₁.feed_blankPacket_handed _ hscan h3 hN
    have h₀ : (a₀.feed (fun _ => .refused) [blankPacket 1 (N - 1)]).handed.length =
        0 + if false then 1 else 0 :=
      a₀.feed_blankPacket_handed _ hscan h3 hN
    rw [if_pos (Bool.eq_true_of_not_eq_false hne)] at h₁
    exact absurd (h₁.symm.trans (heq.trans h₀)) (by decide)
  · rintro ⟨hcur, hcount, hsecond⟩ answer packets
    refine outputs_eq_of_agrees answer ⟨t.lastOdd, t.secondFrame, ?_, hsecond⟩ packets
    show a₀.inherit t = _
    simp only [inherit, withUnread, hcur, hcount]
    rfl

/-- A packet keeps the current id and the packet count within their types. -/
lemma processPacket_tracking_lt (packet : Packet)
    (h : a.currentFrameId < 256 ∧ a.packetsDone < 2 ^ 16) :
    (a.processPacket answer packet).currentFrameId < 256 ∧
      (a.processPacket answer packet).packetsDone < 2 ^ 16 := by
  have hr : (a.receive packet).currentFrameId < 256 ∧ (a.receive packet).packetsDone < 2 ^ 16 := by
    unfold receive startField
    split_ifs
    · exact ⟨usbtvFrameId_lt packet.header, Nat.mod_lt _ (Nat.two_pow_pos 16)⟩
    · exact ⟨usbtvFrameId_lt packet.header, Nat.mod_lt _ (Nat.two_pow_pos 16)⟩
    · exact ⟨h.1, Nat.mod_lt _ (Nat.two_pow_pos 16)⟩
  rcases a.processPacket_cases answer packet with heq | heq | heq
  · rw [heq]
    exact h
  · rw [heq]
    exact hr
  · rw [heq, checkFinishedFrame_currentFrameId, checkFinishedFrame_packetsDone]
    exact hr

end Assembler

namespace UsbTvDriver

/-- What a session puts out from here on, if there is a frame to write to. -/
def outputs (d : UsbTvDriver) (answer : ℕ → Answer) (packets : List Packet) :
    Option Assembler.Output :=
  d.assembler.map fun a => (a.feed answer packets).outputs

/-- In every run the tracking variables are within their types, and the pool size is that of the
constructor. -/
theorem tracking_lt_of_reachable {params : Java.DeviceParams} {s : Session}
    (hs : (sessions params).Reachable s) :
    (s.driver.currentFrameId < 256 ∧ s.driver.packetsDone < 2 ^ 16) ∧
      s.driver.framePoolSize = toUint16 params.mFramePoolSize := by
  refine StepSystem.ReachableUnder.invariant
    (I := fun s => (s.driver.currentFrameId < 256 ∧ s.driver.packetsDone < 2 ^ 16) ∧
      s.driver.framePoolSize = toUint16 params.mFramePoolSize) ?_ ?_ hs
  · rintro s ⟨frameParams, input, dropped, incomplete, rfl⟩
    exact ⟨⟨by simp [new], by simp [new]⟩, rfl⟩
  · intro s e s' hreach hlt _ hstep
    have hwf := wellFormed_of_reachable hreach
    change s.step e = some s' at hstep
    cases e with
    | startStreaming params' answer =>
      obtain ⟨-, rfl⟩ | ⟨-, hidle, ok, d', hd', rfl⟩ := hwf.step_cases hstep
      · exact hlt
      · rcases startStreaming_of_idle hwf.initialized hidle hd' with
          ⟨-, -, log, rfl⟩ | ⟨-, -, -, htrack, -, hsize⟩ | ⟨-, -, -, -, usb, -, rfl⟩
        · exact hlt
        · show (d'.toTracking.currentFrameId < 256 ∧ d'.toTracking.packetsDone < 2 ^ 16) ∧ _
          rw [htrack, hsize]
          exact hlt
        · exact hlt
    | beginStop =>
      obtain ⟨-, rfl⟩ := hwf.step_cases hstep
      exact hlt
    | endStop answer =>
      obtain ⟨usb, -, rfl⟩ := hwf.step_cases hstep
      exact hlt
    | packet packet answer =>
      obtain ⟨-, a, ha, rfl⟩ := hwf.step_cases hstep
      have htrack : a.toTracking = s.driver.toTracking := by
        unfold assembler at ha
        split at ha
        · obtain rfl := Option.some_inj.mp ha
          rfl
        · exact absurd ha (by simp)
      refine ⟨?_, hlt.2⟩
      apply Assembler.processPacket_tracking_lt a (fun _ => answer) packet
      rw [htrack]
      exact hlt.1

/-- What the reap thread works on after a successful start. -/
lemma assembler_of_start {d d' : UsbTvDriver} {params : Java.DeviceParams} {answer : ℕ → ℤ}
    (hinit : d.initialized = true) (hd : d.Idle)
    (h : d.startStreaming params answer = some (true, d')) :
    d'.assembler = some ((Assembler.fresh (nativeFrameParams params)
      (nativePacketsPerField params)
      (startedPool (nativeFrameParams params).bufferSize d.framePoolSize)).inherit
        d.toTracking) := by
  rcases startStreaming_of_idle hinit hd h with
    ⟨-, hok, -⟩ | ⟨-, hok, -⟩ | ⟨-, -, -, -, usb, -, rfl⟩
  · exact absurd hok (by simp)
  · exact absurd hok (by simp)
  · rfl

/-- **A restarted stream against a first one**, for any idle driver and a new one with the same
pool size. -/
lemma outputs_eq_iff_clean {d d₁ d₂ : UsbTvDriver} {params₀ params : Java.DeviceParams}
    (hinit : d.initialized = true) (hd : d.Idle)
    (hlt : d.currentFrameId < 256 ∧ d.packetsDone < 2 ^ 16)
    (hsize : d.framePoolSize = toUint16 params₀.mFramePoolSize) {answer₁ answer₂ : ℕ → ℤ}
    {frameParams : FrameParams} {input : TvInput} {dropped incomplete : ℕ}
    (h₁ : d.startStreaming params answer₁ = some (true, d₁))
    (h₂ : (new params₀ frameParams input dropped incomplete).startStreaming params answer₂ =
      some (true, d₂)) :
    (∀ answer packets, d₁.outputs answer packets = d₂.outputs answer packets) ↔
      d.toTracking.Clean (nativeFrameParams params).scanType := by
  have ha₁ := assembler_of_start hinit hd h₁
  have ha₂ := assembler_of_start rfl ⟨rfl, rfl, rfl, rfl, rfl, rfl, rfl⟩ h₂
  have hN := nativePacketsPerField_cases params
  have hflags : (startedPool (nativeFrameParams params).bufferSize d.framePoolSize 0).flags =
      frameStart := by
    simp [startedPool]
  have hiff : (∀ answer packets, (((Assembler.fresh (nativeFrameParams params)
        (nativePacketsPerField params) (startedPool (nativeFrameParams params).bufferSize
          d.framePoolSize)).inherit d.toTracking).feed answer packets).outputs =
      ((Assembler.fresh (nativeFrameParams params) (nativePacketsPerField params)
        (startedPool (nativeFrameParams params).bufferSize d.framePoolSize)).feed answer
          packets).outputs) ↔ d.toTracking.Clean (nativeFrameParams params).scanType :=
    Assembler.outputs_eq_iff_clean (by omega) (by omega) hflags hlt.1 hlt.2
  rw [← hiff]
  have hnew : (new params₀ frameParams input dropped incomplete).framePoolSize =
      d.framePoolSize := hsize.symm
  rw [hnew] at ha₂
  simp only [outputs, ha₁, ha₂, Option.map_some, Option.some_inj]
  exact Iff.rfl

/-- **When a restarted stream behaves like a first one.** After any history that ends with
`stopStreaming`, the restarted stream puts out the same as the first stream of a new driver,
whatever the packets and the answers, if and only if the history left `_currentFrameId` and
`_packetsDone` zero, and `_secondFrame` clear where the scan type is interleaved. -/
theorem restart_outputs_eq_iff {params₀ : Java.DeviceParams} {s₀ s : Session}
    (hs₀ : (sessions params₀).Reachable s₀) {answer₀ : ℕ → ℤ}
    (hstop : (sessions params₀).step s₀ (.endStop answer₀) = some s)
    {params : Java.DeviceParams} {answer₁ answer₂ : ℕ → ℤ} {d₁ d₂ : UsbTvDriver}
    {frameParams : FrameParams} {input : TvInput} {dropped incomplete : ℕ}
    (h₁ : s.driver.startStreaming params answer₁ = some (true, d₁))
    (h₂ : (new params₀ frameParams input dropped incomplete).startStreaming params answer₂ =
      some (true, d₂)) :
    (∀ answer packets, d₁.outputs answer packets = d₂.outputs answer packets) ↔
      s.driver.toTracking.Clean (nativeFrameParams params).scanType := by
  have hs : (sessions params₀).Reachable s := hs₀.step trivial hstop
  have hwf := wellFormed_of_reachable hs
  obtain ⟨hlt, hsize⟩ := tracking_lt_of_reachable hs
  exact outputs_eq_iff_clean hwf.initialized (idle_of_endStop hs₀ hstop) hlt hsize h₁ h₂

/-- A first session with one packet, the second one of a field with id `5`. -/
def interruptedField : List SessionEvent :=
  [.startStreaming Java.Builder.new.build fun _ => 0, .packet (Assembler.blankPacket 5 1) .refused,
    .beginStop]

/-- The state after that session and the stop that ends it. -/
lemma exists_interruptedField :
    ∃ s₀ s d₁ d₂, (sessions Java.Builder.new.build).Reachable s₀ ∧
      (sessions Java.Builder.new.build).step s₀ (.endStop fun _ => 0) = some s ∧
      s.driver.startStreaming Java.Builder.new.build (fun _ => 0) = some (true, d₁) ∧
      firstDriver.startStreaming Java.Builder.new.build (fun _ => 0) = some (true, d₂) ∧
      s.driver.currentFrameId = 5 := by
  have h : (((sessions Java.Builder.new.build).run ⟨firstDriver, false⟩
      (interruptedField ++ [.endStop fun _ => 0])).bind fun s =>
        (s.driver.startStreaming Java.Builder.new.build fun _ => 0).map fun r =>
          (r.1, s.driver.currentFrameId)) = some (true, 5) := by decide
  have h₂ : (firstDriver.startStreaming Java.Builder.new.build fun _ => 0).map Prod.fst =
      some true := by decide
  obtain ⟨s, hs, h⟩ := Option.bind_eq_some_iff.mp h
  obtain ⟨⟨ok, d₁⟩, h₁, heq⟩ := Option.map_eq_some_iff.mp h
  obtain ⟨⟨ok₂, d₂⟩, h₂, rfl⟩ := Option.map_eq_some_iff.mp h₂
  obtain ⟨rfl, hcur⟩ := Prod.mk.injEq .. ▸ heq
  rw [StepSystem.run_append] at hs
  obtain ⟨s₀, hs₀, hs⟩ := Option.bind_eq_some_iff.mp hs
  obtain ⟨s', hs', heq⟩ := Option.bind_eq_some_iff.mp hs
  obtain rfl := Option.some_inj.mp heq
  exact ⟨s₀, s', d₁, d₂,
    (reachable_new Java.Builder.new.build _ .usbtvCompositeInput 0 0).run hs₀, hs', h₁, h₂, hcur⟩

/-- A restart after that session. -/
theorem restart_outputs_eq_iff_interruptedField :
    ∃ s₀ s d₁ d₂, (sessions Java.Builder.new.build).Reachable s₀ ∧
      (sessions Java.Builder.new.build).step s₀ (.endStop fun _ => 0) = some s ∧
      s.driver.startStreaming Java.Builder.new.build (fun _ => 0) = some (true, d₁) ∧
      firstDriver.startStreaming Java.Builder.new.build (fun _ => 0) = some (true, d₂) ∧
      ((∀ answer packets, d₁.outputs answer packets = d₂.outputs answer packets) ↔
        s.driver.toTracking.Clean (nativeFrameParams Java.Builder.new.build).scanType) := by
  obtain ⟨s₀, s, d₁, d₂, hs₀, hstop, h₁, h₂, -⟩ := exists_interruptedField
  exact ⟨s₀, s, d₁, d₂, hs₀, hstop, h₁, h₂, restart_outputs_eq_iff hs₀ hstop h₁ h₂⟩

/-- **A restarted stream that differs from a first one**: after that session `_currentFrameId` is
`5`, and some packets bring it to light. -/
theorem interruptedField_outputs_ne :
    ∃ s₀ s d₁ d₂, (sessions Java.Builder.new.build).Reachable s₀ ∧
      (sessions Java.Builder.new.build).step s₀ (.endStop fun _ => 0) = some s ∧
      s.driver.startStreaming Java.Builder.new.build (fun _ => 0) = some (true, d₁) ∧
      firstDriver.startStreaming Java.Builder.new.build (fun _ => 0) = some (true, d₂) ∧
      ∃ answer packets, d₁.outputs answer packets ≠ d₂.outputs answer packets := by
  obtain ⟨s₀, s, d₁, d₂, hs₀, hstop, h₁, h₂, hcur⟩ := exists_interruptedField
  refine ⟨s₀, s, d₁, d₂, hs₀, hstop, h₁, h₂, ?_⟩
  have hs := hs₀.step trivial hstop
  have hwf := wellFormed_of_reachable hs
  obtain ⟨hlt, hsize⟩ := tracking_lt_of_reachable hs
  by_contra hall
  push Not at hall
  have hclean := (outputs_eq_iff_clean hwf.initialized (idle_of_endStop hs₀ hstop) hlt hsize h₁
    h₂).mp hall
  exact absurd (hcur.symm.trans hclean.1) (by decide)

end UsbTvDriver

end UsbTv
