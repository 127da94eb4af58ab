import UsbTv.Lib.Memory
import UsbTv.Definitions

set_option relaxedAutoImplicit false
set_option autoImplicit false

/-!
# Frame assembly

The packet side of `UsbTvDriver`: `processPacket`, `checkFinishedFrame`, the two placement
functions and `addCompleteFrameToQueue`. They run on the reap thread and share the tracking
members of the driver, the frame `_usbInputFrame` points to, and the two loss counters.

What the other threads decide is an answer of the environment: when a frame is handed over,
`try_enqueue` refuses it, or accepts it and `fetchFrameFromPool` returns another frame of the
pool. Machine integers are natural numbers with the wrap-around of their type written out.

## Main definitions

* `UsbTv.UsbTvFrame` — a native frame of the pool.
* `UsbTv.Tracking` — the packet and frame tracking variables and the loss counters.
* `UsbTv.Assembler` — the state `processPacket` works on.
* `UsbTv.Assembler.processPacket`, `UsbTv.Assembler.feed` — one packet, and a packet sequence.

## Main results

* `UsbTv.Assembler.processPacket_cases`, `processPacket_of_accepted` — what one packet does.
* `UsbTv.Assembler.processPacket_config` — packets never change the stream parameters.

The ghost member `handed` lists the frames as `addCompleteFrameToQueue` found them.
-/

namespace UsbTv

/-! ## State -/

/-- `UsbTvFrame`, the native frame: its buffer of `bufferSize` bytes, of which those not
written since `malloc` hold nothing, its id, flags and lock. -/
structure UsbTvFrame where
  bufferSize : ℕ
  buffer : Mem UInt8
  frameId : ℕ
  flags : ℕ
  lock : Bool

/-- The tracking variables of the driver and its loss counters. -/
structure Tracking where
  currentFrameId : ℕ
  packetsPerField : ℕ
  packetsDone : ℕ
  lastOdd : Bool
  secondFrame : Bool
  droppedFrameCounter : ℕ
  incompleteFrameCounter : ℕ

/-- A frame as `addCompleteFrameToQueue` found it, with its index in the pool. -/
structure Handover where
  index : ℕ
  frame : UsbTvFrame

/-- What the process queue and the frame pool answer to a frame that is handed over. -/
inductive Answer
  /-- `try_enqueue` has no room. -/
  | refused
  /-- The frame was queued and `fetchFrameFromPool` locked frame `next`. -/
  | accepted (next : ℕ)
  /-- The frame was queued, and the stream ended while `fetchFrameFromPool` was searching. -/
  | stopped
  deriving DecidableEq, Repr

/-- The members that `processPacket` and its callees read and write while a stream runs. -/
structure Assembler extends Tracking where
  frameParams : FrameParams
  /-- The pool index of the frame that `_usbInputFrame` points to. -/
  usbInputFrame : ℕ
  /-- The frames of the pool. -/
  frames : ℕ → UsbTvFrame
  /-- The frames handed over in this session, in order. -/
  handed : List Handover

namespace Assembler

/-- The state of a newly constructed driver when its first stream has started: the tracking
variables are as the constructor sets them. -/
def fresh (params : FrameParams) (packetsPerField : ℕ) (frames : ℕ → UsbTvFrame) : Assembler where
  currentFrameId := 0
  packetsPerField := packetsPerField
  packetsDone := 0
  lastOdd := true
  secondFrame := false
  droppedFrameCounter := 0
  incompleteFrameCounter := 0
  frameParams := params
  usbInputFrame := 0
  frames := frames
  handed := []

/-- The frame that `_usbInputFrame` points to. -/
def inputFrame (a : Assembler) : UsbTvFrame := a.frames a.usbInputFrame

/-- Change the frame that `_usbInputFrame` points to. -/
def setInputFrame (a : Assembler) (f : UsbTvFrame) : Assembler :=
  { a with frames := Function.update a.frames a.usbInputFrame f }

/-- `_usbInputFrame->flags = flags`. -/
def setFlags (a : Assembler) (flags : ℕ) : Assembler :=
  a.setInputFrame { a.inputFrame with flags := flags }

/-- Block copies into the buffer of `_usbInputFrame`. -/
def memcpy (a : Assembler) (cs : List (Copy UInt8)) : Assembler :=
  a.setInputFrame { a.inputFrame with buffer := a.inputFrame.buffer.copies cs }

/-- `_droppedFrameCounter++`. -/
def countDropped (a : Assembler) : Assembler :=
  { a with droppedFrameCounter := (a.droppedFrameCounter + 1) % 2 ^ 32 }

/-- `_incompleteFrameCounter++`. -/
def countIncomplete (a : Assembler) : Assembler :=
  { a with incompleteFrameCounter := (a.incompleteFrameCounter + 1) % 2 ^ 32 }

/-- `_packetsDone++`. -/
def countPacket (a : Assembler) : Assembler :=
  { a with packetsDone := (a.packetsDone + 1) % 2 ^ 16 }

/-- `_secondFrame = second`. -/
def setSecondFrame (a : Assembler) (second : Bool) : Assembler := { a with secondFrame := second }

/-- `_lastOdd = isOdd; _currentFrameId = frameId; _packetsDone = 0`. -/
def track (a : Assembler) (frameId : ℕ) (isOdd : Bool) : Assembler :=
  { a with lastOdd := isOdd, currentFrameId := frameId, packetsDone := 0 }

/-- The frame is put on record as handed over. -/
def recordHandover (a : Assembler) : Assembler :=
  { a with handed := a.handed ++ [⟨a.usbInputFrame, a.inputFrame⟩] }

/-- `_usbInputFrame = fetchFrameFromPool()`, where the search has found frame `next`, set its
lock and reset its flags. -/
def fetch (a : Assembler) (next : ℕ) : Assembler :=
  ({ a with usbInputFrame := next }).setInputFrame
    { a.frames next with lock := true, flags := frameStart }

/-- `_usbInputFrame = _framePool[0]`, where the search has ended with the stream. -/
def fetchStopped (a : Assembler) : Assembler := { a with usbInputFrame := 0 }

/-! ## Placement -/

/-- `bufOffset` of `packetToProgressiveFrame`. -/
def progressiveOffset (packetNo : ℕ) : ℕ := packetNo * usbtvPayloadSize % 2 ^ 32

/-- The `memcpy` of `packetToProgressiveFrame`. -/
def packetToProgressiveFrame (packet : ℕ → UInt8) (packetNo : ℕ) : List (Copy UInt8) :=
  [⟨progressiveOffset packetNo, usbtvPayloadSize, packet⟩]

/-- `bufferOffset` of `packetToInterleavedFrame` for one half of a packet: three halves make a
line, and the lines of a field are every other line of the frame. -/
def interleavedOffset (frameWidth packetNo packetHalf : ℕ) (isOdd : Bool) : ℕ :=
  let halfPayloadSize := usbtvPayloadSize / 2
  let oddFieldOffset := if isOdd then 0 else 1
  let lineSize := frameWidth * 2
  let partIndex := (packetNo * 2 + packetHalf) % 2 ^ 32
  let lineIndex := (partIndex / 3 * 2 + oddFieldOffset) % 2 ^ 32
  (lineIndex * lineSize + halfPayloadSize * (partIndex % 3)) % 2 ^ 32

/-- For packet numbers below a `_packetsPerField`, the offset into a progressive frame does not
wrap. -/
lemma progressiveOffset_eq {packetNo : ℕ} (h : packetNo < 2 ^ 16) :
    progressiveOffset packetNo = usbtvPayloadSize * packetNo := by
  simp only [progressiveOffset, usbtvPayloadSize]
  omega

/-- For packet numbers below a `_packetsPerField`, the offset into an interleaved frame does not
wrap: half `m` of a field goes to part `m % 3` of the field's line `m / 3`. -/
lemma interleavedOffset_eq {packetNo packetHalf : ℕ} (h : packetNo < 2 ^ 16)
    (hhalf : packetHalf < 2) (isOdd : Bool) :
    interleavedOffset 720 packetNo packetHalf isOdd =
      ((packetNo * 2 + packetHalf) / 3 * 2 + if isOdd then 0 else 1) * 1440 +
        480 * ((packetNo * 2 + packetHalf) % 3) := by
  have hlt : packetNo * 2 + packetHalf < 2 ^ 17 := by omega
  have hpart : (packetNo * 2 + packetHalf) % 2 ^ 32 = packetNo * 2 + packetHalf := by omega
  simp only [interleavedOffset, usbtvPayloadSize, hpart]
  generalize packetNo * 2 + packetHalf = part at *
  have hline : ∀ o < 2, (part / 3 * 2 + o) % 2 ^ 32 = part / 3 * 2 + o := by omega
  cases isOdd
  · rw [hline _ (by simp)]
    simp only [Bool.false_eq_true, if_false]
    omega
  · rw [hline _ (by simp)]
    simp only [if_true]
    omega

/-- The two `memcpy`s of `packetToInterleavedFrame`. -/
def packetToInterleavedFrame (frameWidth : ℕ) (packet : ℕ → UInt8) (packetNo : ℕ)
    (isOdd : Bool) : List (Copy UInt8) :=
  let halfPayloadSize := usbtvPayloadSize / 2
  [⟨interleavedOffset frameWidth packetNo 0 isOdd, halfPayloadSize, packet⟩,
    ⟨interleavedOffset frameWidth packetNo 1 isOdd, halfPayloadSize,
      fun i => packet (halfPayloadSize + i)⟩]

/-- The `memcpy`s that `processPacket` makes for a packet of the given number and parity. -/
def placePacket (params : FrameParams) (packet : ℕ → UInt8) (packetNo : ℕ) (isOdd : Bool) :
    List (Copy UInt8) :=
  match params.scanType with
  | .progressive => packetToProgressiveFrame packet packetNo
  | .discard => if isOdd then packetToProgressiveFrame packet packetNo else []
  | .interleaved => packetToInterleavedFrame params.frameWidth packet packetNo isOdd

/-! ## Handing a frame over -/

/-- `addCompleteFrameToQueue`. The answers are numbered by the calls of the session. -/
def addCompleteFrameToQueue (a : Assembler) (answer : ℕ → Answer) : Assembler :=
  match answer a.handed.length with
  | .accepted next => a.recordHandover.fetch next
  | .stopped => a.recordHandover.fetchStopped
  | .refused => (a.recordHandover.countDropped).setFlags frameStart

/-- The first half of `checkFinishedFrame`: the frame is flagged partial or complete. -/
def flagFinished (a : Assembler) : Assembler :=
  if a.packetsDone ≠ a.packetsPerField then (a.setFlags framePartial).countIncomplete
  else a.setFlags frameComplete

/-- `checkFinishedFrame`. -/
def checkFinishedFrame (a : Assembler) (answer : ℕ → Answer) (isOdd : Bool) : Assembler :=
  match a.frameParams.scanType with
  | .progressive => a.flagFinished.addCompleteFrameToQueue answer
  | .discard => if isOdd then a.flagFinished.addCompleteFrameToQueue answer else a.flagFinished
  | .interleaved =>
    if a.secondFrame then (a.flagFinished.addCompleteFrameToQueue answer).setSecondFrame false
    else if isOdd then a.flagFinished.setSecondFrame true
    else a.flagFinished

/-! ## Packets -/

/-- The start of a field: what `processPacket` does at packet `0` or at a new frame id. A frame
that was in progress is dropped. -/
def startField (a : Assembler) (frameId : ℕ) (isOdd : Bool) : Assembler :=
  if a.inputFrame.flags &&& frameInProgress > 0 then
    (a.countDropped.track frameId isOdd).setFlags frameInProgress
  else (a.track frameId isOdd).setFlags frameInProgress

/-- `processPacket` passes over the packet: it has no valid header, or its number is no number
of a packet of this norm. -/
def Ignored (a : Assembler) (packet : Packet) : Prop :=
  usbtvFrameOk packet.header = false ∨ a.packetsPerField ≤ usbtvPacketNo packet.header

instance (a : Assembler) (packet : Packet) : Decidable (a.Ignored packet) :=
  inferInstanceAs (Decidable (_ ∨ _))

/-- The packet starts a field. -/
def Starts (a : Assembler) (packet : Packet) : Prop :=
  usbtvPacketNo packet.header = 0 ∨ usbtvFrameId packet.header ≠ a.currentFrameId

instance (a : Assembler) (packet : Packet) : Decidable (a.Starts packet) :=
  inferInstanceAs (Decidable (_ ∨ _))

/-- What `processPacket` does with an accepted packet up to `_packetsDone++`. -/
def receive (a : Assembler) (packet : Packet) : Assembler :=
  let isOdd := usbtvOdd packet.header
  let packetNumber := usbtvPacketNo packet.header
  let a := if a.Starts packet then a.startField (usbtvFrameId packet.header) isOdd else a
  (a.memcpy (placePacket a.frameParams packet.payload packetNumber isOdd)).countPacket

/-- `processPacket`. The last packet is the one numbered `(uint32_t)(_packetsPerField - 1)`. -/
def processPacket (a : Assembler) (answer : ℕ → Answer) (packet : Packet) : Assembler :=
  if a.Ignored packet then a
  else if usbtvPacketNo packet.header = (a.packetsPerField + (2 ^ 32 - 1)) % 2 ^ 32 then
    (a.receive packet).checkFinishedFrame answer (usbtvOdd packet.header)
  else a.receive packet

/-- A sequence of packets. -/
def feed (a : Assembler) (answer : ℕ → Answer) (packets : List Packet) : Assembler :=
  packets.foldl (fun a p => a.processPacket answer p) a

variable (a : Assembler) (answer : ℕ → Answer)

/-! ## Field lemmas -/

@[simp] lemma setInputFrame_inputFrame (f : UsbTvFrame) :
    (a.setInputFrame f).inputFrame = f := by
  simp only [inputFrame, setInputFrame, Function.update_self]

@[simp] lemma setFlags_inputFrame (flags : ℕ) :
    (a.setFlags flags).inputFrame = { a.inputFrame with flags := flags } :=
  setInputFrame_inputFrame _ _

@[simp] lemma memcpy_inputFrame (cs : List (Copy UInt8)) :
    (a.memcpy cs).inputFrame =
      { a.inputFrame with buffer := a.inputFrame.buffer.copies cs } :=
  setInputFrame_inputFrame _ _

/-! ## One packet -/

/-- Whatever the scan type, finishing a field flags the frame; the frame may be handed over, and
`_secondFrame` may change. -/
lemma checkFinishedFrame_cases (isOdd : Bool) :
    ∃ second, a.checkFinishedFrame answer isOdd = a.flagFinished.setSecondFrame second ∨
      a.checkFinishedFrame answer isOdd =
        (a.flagFinished.addCompleteFrameToQueue answer).setSecondFrame second := by
  unfold checkFinishedFrame
  split
  · exact ⟨_, .inr rfl⟩
  · split_ifs
    · exact ⟨_, .inr rfl⟩
    · exact ⟨_, .inl rfl⟩
  · split_ifs
    · exact ⟨_, .inr rfl⟩
    · exact ⟨_, .inl rfl⟩
    · exact ⟨_, .inl rfl⟩

/-- **What a packet can do**: it is ignored, or received, or received and the last one of its
field. -/
lemma processPacket_cases (packet : Packet) :
    a.processPacket answer packet = a ∨ a.processPacket answer packet = a.receive packet ∨
      a.processPacket answer packet =
        (a.receive packet).checkFinishedFrame answer (usbtvOdd packet.header) := by
  unfold processPacket
  split_ifs
  · exact .inl rfl
  · exact .inr (.inr rfl)
  · exact .inr (.inl rfl)

/-- An accepted packet is received, and the last one of a field finishes it. -/
lemma processPacket_of_accepted {packet : Packet} (h : ¬ a.Ignored packet)
    (hN : a.packetsPerField < 2 ^ 32) :
    a.processPacket answer packet =
      if usbtvPacketNo packet.header + 1 = a.packetsPerField then
        (a.receive packet).checkFinishedFrame answer (usbtvOdd packet.header)
      else a.receive packet := by
  have hlt : usbtvPacketNo packet.header < a.packetsPerField := by
    simp only [Ignored, not_or, not_le] at h
    exact h.2
  have hlast : usbtvPacketNo packet.header = (a.packetsPerField + (2 ^ 32 - 1)) % 2 ^ 32 ↔
      usbtvPacketNo packet.header + 1 = a.packetsPerField := by omega
  simp only [processPacket, if_neg h, hlast]

/-- No packet. -/
@[simp] lemma feed_nil : a.feed answer [] = a := rfl

/-- The first packet, then the others. -/
lemma feed_cons (p : Packet) (ps : List Packet) :
    a.feed answer (p :: ps) = (a.processPacket answer p).feed answer ps := rfl

/-- Two packet sequences one after the other. -/
lemma feed_append (ps qs : List Packet) :
    a.feed answer (ps ++ qs) = (a.feed answer ps).feed answer qs := by
  simp only [feed, List.foldl_append]

/-! ## What packets leave alone -/

/-- The two states have the same stream parameters and buffers of the same sizes. -/
structure SameConfig (a b : Assembler) : Prop where
  frameParams : a.frameParams = b.frameParams
  packetsPerField : a.packetsPerField = b.packetsPerField
  bufferSize : ∀ i, (a.frames i).bufferSize = (b.frames i).bufferSize

namespace SameConfig

variable {a}

lemma refl (a : Assembler) : SameConfig a a := ⟨rfl, rfl, fun _ => rfl⟩

lemma trans {b c : Assembler} (h : SameConfig a b) (h' : SameConfig b c) : SameConfig a c :=
  ⟨h.frameParams.trans h'.frameParams, h.packetsPerField.trans h'.packetsPerField,
    fun i => (h.bufferSize i).trans (h'.bufferSize i)⟩

/-- The other members may change freely. -/
lemma of_frames_eq {b c : Assembler} (h : SameConfig a b) (hp : c.frameParams = a.frameParams)
    (hN : c.packetsPerField = a.packetsPerField) (hf : c.frames = a.frames) : SameConfig c b :=
  ⟨hp.trans h.frameParams, hN.trans h.packetsPerField, fun i => by rw [hf, h.bufferSize i]⟩

/-- The input frame may change as long as its buffer is not reallocated. -/
lemma setInputFrame {b : Assembler} (h : SameConfig a b) {f : UsbTvFrame}
    (hf : f.bufferSize = a.inputFrame.bufferSize) : SameConfig (a.setInputFrame f) b := by
  refine ⟨h.frameParams, h.packetsPerField, fun i => ?_⟩
  rw [← h.bufferSize i]
  show (Function.update a.frames a.usbInputFrame f i).bufferSize = _
  by_cases hi : i = a.usbInputFrame
  · rw [hi, Function.update_self, hf]
    rfl
  · rw [Function.update_of_ne hi]

lemma setFlags {b : Assembler} (h : SameConfig a b) (flags : ℕ) :
    SameConfig (a.setFlags flags) b :=
  h.setInputFrame rfl

lemma memcpy {b : Assembler} (h : SameConfig a b) (cs : List (Copy UInt8)) :
    SameConfig (a.memcpy cs) b :=
  h.setInputFrame rfl

lemma startField {b : Assembler} (h : SameConfig a b) (frameId : ℕ) (isOdd : Bool) :
    SameConfig (a.startField frameId isOdd) b := by
  unfold Assembler.startField
  split_ifs
  · refine SameConfig.setFlags ?_ _
    exact h.of_frames_eq rfl rfl rfl
  · refine SameConfig.setFlags ?_ _
    exact h.of_frames_eq rfl rfl rfl

lemma receive {b : Assembler} (h : SameConfig a b) (packet : Packet) :
    SameConfig (a.receive packet) b := by
  have hc : ∀ {c : Assembler} cs, SameConfig c b → SameConfig (c.memcpy cs).countPacket b :=
    fun cs hc => (hc.memcpy cs).of_frames_eq rfl rfl rfl
  unfold Assembler.receive
  split_ifs
  · exact hc _ (h.startField _ _)
  · exact hc _ h

lemma addCompleteFrameToQueue {b : Assembler} (h : SameConfig a b) (answer : ℕ → Answer) :
    SameConfig (a.addCompleteFrameToQueue answer) b := by
  unfold Assembler.addCompleteFrameToQueue
  split
  · refine SameConfig.setInputFrame ?_ rfl
    exact h.of_frames_eq rfl rfl rfl
  · exact h.of_frames_eq rfl rfl rfl
  · refine SameConfig.setFlags ?_ _
    exact h.of_frames_eq rfl rfl rfl

lemma flagFinished {b : Assembler} (h : SameConfig a b) : SameConfig a.flagFinished b := by
  unfold Assembler.flagFinished
  split_ifs
  · exact (h.setFlags framePartial).of_frames_eq rfl rfl rfl
  · exact h.setFlags _

lemma checkFinishedFrame {b : Assembler} (h : SameConfig a b) (answer : ℕ → Answer)
    (isOdd : Bool) : SameConfig (a.checkFinishedFrame answer isOdd) b := by
  obtain ⟨second, heq | heq⟩ := a.checkFinishedFrame_cases answer isOdd
  · rw [heq]
    exact h.flagFinished.of_frames_eq rfl rfl rfl
  · rw [heq]
    exact (h.flagFinished.addCompleteFrameToQueue answer).of_frames_eq rfl rfl rfl

end SameConfig

/-- **Packets never change the stream parameters** or the size of a buffer. -/
lemma processPacket_config (packet : Packet) : SameConfig (a.processPacket answer packet) a := by
  have hr := (SameConfig.refl a).receive packet
  rcases a.processPacket_cases answer packet with heq | heq | heq
  · rw [heq]
    exact SameConfig.refl a
  · rw [heq]
    exact hr
  · rw [heq]
    exact hr.checkFinishedFrame answer _

/-- A packet sequence never changes the stream parameters. -/
lemma feed_config (packets : List Packet) : SameConfig (a.feed answer packets) a := by
  induction packets generalizing a with
  | nil => exact SameConfig.refl a
  | cons p ps ih => exact (ih _).trans (a.processPacket_config answer p)

end Assembler

end UsbTv
