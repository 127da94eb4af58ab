import UsbTv.Driver.Streaming

set_option relaxedAutoImplicit false
set_option autoImplicit false

/-!
# Buffer bounds

The limit on packet numbers and the size of the buffers come from two formulas of the builder.
They fit each other, and the pool is rebuilt whenever they change, so in every run no packet,
whatever its header, is written outside the buffer of the frame it goes to.

## Main definitions

* `UsbTv.Assembler.packetCopies` — the block copies that `processPacket` makes.
* `UsbTv.OffsetsFit` — no `uint32_t` computation of an offset wraps.
* `UsbTv.UsbTvDriver.startedWith` — the parameters that a stream was started with.
* `UsbTv.UsbTvDriver.PoolFits` — the pool was made for the parameters in force.

## Main results

* `UsbTv.Assembler.processPacket_buffer` — a packet writes these copies and nothing else.
* `UsbTv.dst_add_len_le` — the placement arithmetic.
* `UsbTv.UsbTvDriver.packet_within_buffer` — packets stay within the buffer, over whole runs.
-/

namespace UsbTv

/-! ## What a packet writes -/

namespace Assembler

variable (a : Assembler) (answer : ℕ → Answer)

/-- The block copies that `processPacket` makes into the buffer of `_usbInputFrame`. -/
def packetCopies (packet : Packet) : List (Copy UInt8) :=
  if a.Ignored packet then []
  else placePacket a.frameParams packet.payload (usbtvPacketNo packet.header)
    (usbtvOdd packet.header)

/-- The buffers of `b` are those of `a` after copies into the input frame of `a`. -/
def BuffersFrom (b : Assembler) (cs : List (Copy UInt8)) : Prop :=
  ∀ i, (b.frames i).buffer =
    if i = a.usbInputFrame then (a.frames i).buffer.copies cs else (a.frames i).buffer

variable {a}

/-- The input frame may change in anything but its buffer. -/
lemma BuffersFrom.setInputFrame {b : Assembler} {cs : List (Copy UInt8)} (h : BuffersFrom a b cs)
    {f : UsbTvFrame} (hf : f.buffer = b.inputFrame.buffer) :
    BuffersFrom a (b.setInputFrame f) cs := by
  intro i
  rw [← h i]
  show (Function.update b.frames b.usbInputFrame f i).buffer = _
  by_cases hi : i = b.usbInputFrame
  · rw [hi, Function.update_self, hf]
    rfl
  · rw [Function.update_of_ne hi]

lemma BuffersFrom.of_frames_eq {b c : Assembler} {cs : List (Copy UInt8)}
    (h : BuffersFrom a b cs) (hf : c.frames = b.frames) : BuffersFrom a c cs := by
  intro i
  rw [hf]
  exact h i

lemma BuffersFrom.addCompleteFrameToQueue {b : Assembler} {cs : List (Copy UInt8)}
    (h : BuffersFrom a b cs) : BuffersFrom a (b.addCompleteFrameToQueue answer) cs := by
  unfold Assembler.addCompleteFrameToQueue
  split
  · refine BuffersFrom.setInputFrame ?_ rfl
    exact h.of_frames_eq rfl
  · exact h.of_frames_eq rfl
  · refine BuffersFrom.setInputFrame ?_ rfl
    exact h.of_frames_eq rfl

lemma BuffersFrom.flagFinished {b : Assembler} {cs : List (Copy UInt8)}
    (h : BuffersFrom a b cs) : BuffersFrom a b.flagFinished cs := by
  unfold Assembler.flagFinished
  split_ifs
  · refine BuffersFrom.of_frames_eq (b := b.setFlags framePartial) ?_ rfl
    exact h.setInputFrame rfl
  · exact h.setInputFrame rfl

/-- Finishing a field writes no buffer. -/
lemma BuffersFrom.checkFinishedFrame {b : Assembler} {cs : List (Copy UInt8)}
    (h : BuffersFrom a b cs) (isOdd : Bool) :
    BuffersFrom a (b.checkFinishedFrame answer isOdd) cs := by
  obtain ⟨second, heq | heq⟩ := b.checkFinishedFrame_cases answer isOdd
  · rw [heq]
    exact h.flagFinished.of_frames_eq rfl
  · rw [heq]
    exact (h.flagFinished.addCompleteFrameToQueue answer).of_frames_eq rfl

/-- An accepted packet is copied into the input frame. -/
lemma buffersFrom_receive (packet : Packet) :
    BuffersFrom a (a.receive packet) (placePacket a.frameParams packet.payload
      (usbtvPacketNo packet.header) (usbtvOdd packet.header)) := by
  have hcopy : ∀ b : Assembler, b.usbInputFrame = a.usbInputFrame →
      (∀ i, (b.frames i).buffer = (a.frames i).buffer) → ∀ cs,
      BuffersFrom a (b.memcpy cs).countPacket cs := by
    intro b hin hbuf cs i
    show (Function.update b.frames b.usbInputFrame _ i).buffer = _
    by_cases hi : i = a.usbInputFrame
    · rw [if_pos hi, hin, hi, Function.update_self]
      show (b.frames b.usbInputFrame).buffer.copies cs = _
      rw [hin, hbuf]
    · rw [if_neg hi, hin, Function.update_of_ne hi, hbuf]
  have hstart : ∀ id isOdd,
      (a.startField id isOdd).usbInputFrame = a.usbInputFrame ∧
        (a.startField id isOdd).frameParams = a.frameParams ∧
        ∀ i, ((a.startField id isOdd).frames i).buffer = (a.frames i).buffer := by
    intro id isOdd
    have hflags : ∀ (b : Assembler), b.usbInputFrame = a.usbInputFrame → b.frames = a.frames →
        ∀ i, ((b.setFlags frameInProgress).frames i).buffer = (a.frames i).buffer := by
      intro b hin hf i
      show (Function.update b.frames b.usbInputFrame _ i).buffer = _
      by_cases hi : i = b.usbInputFrame
      · rw [hi, Function.update_self, ← hf]
        rfl
      · rw [Function.update_of_ne hi, hf]
    unfold startField
    split_ifs
    · exact ⟨rfl, rfl, hflags (a.countDropped.track id isOdd) rfl rfl⟩
    · exact ⟨rfl, rfl, hflags (a.track id isOdd) rfl rfl⟩
  unfold receive
  split_ifs
  · obtain ⟨hin, hparams, hbuf⟩ := hstart (usbtvFrameId packet.header) (usbtvOdd packet.header)
    dsimp only
    rw [hparams]
    exact hcopy _ hin hbuf _
  · exact hcopy a rfl (fun _ => rfl) _

/-- **A packet writes its copies into the input frame and nothing else.** -/
theorem processPacket_buffer (packet : Packet) :
    BuffersFrom a (a.processPacket answer packet) (a.packetCopies packet) := by
  have hr := buffersFrom_receive (a := a) packet
  unfold processPacket packetCopies
  split_ifs
  · intro i
    simp
  · exact hr.checkFinishedFrame answer _
  · exact hr

/-! ## The frame written next -/

lemma addCompleteFrameToQueue_usbInputFrame_lt {n : ℕ} (h : a.usbInputFrame < n)
    (hnext : ∀ k next, answer k = .accepted next → next < n) :
    (a.addCompleteFrameToQueue answer).usbInputFrame < n := by
  unfold addCompleteFrameToQueue
  split
  · next next heq => exact hnext _ next heq
  · exact (Nat.zero_le _).trans_lt h
  · exact h

lemma flagFinished_usbInputFrame_lt {n : ℕ} (h : a.usbInputFrame < n) :
    a.flagFinished.usbInputFrame < n := by
  unfold flagFinished
  split_ifs <;> exact h

lemma checkFinishedFrame_usbInputFrame_lt {n : ℕ} (h : a.usbInputFrame < n)
    (hnext : ∀ k next, answer k = .accepted next → next < n) (isOdd : Bool) :
    (a.checkFinishedFrame answer isOdd).usbInputFrame < n := by
  have hflag := flagFinished_usbInputFrame_lt h
  obtain ⟨second, heq | heq⟩ := a.checkFinishedFrame_cases answer isOdd
  · rw [heq]
    exact hflag
  · rw [heq]
    exact addCompleteFrameToQueue_usbInputFrame_lt answer hflag hnext

/-- If `fetchFrameFromPool` returns frames of the pool, `_usbInputFrame` stays in the pool. -/
lemma processPacket_usbInputFrame_lt {n : ℕ} (h : a.usbInputFrame < n)
    (hnext : ∀ k next, answer k = .accepted next → next < n) (packet : Packet) :
    (a.processPacket answer packet).usbInputFrame < n := by
  have hr : (a.receive packet).usbInputFrame < n := by
    unfold receive startField
    split_ifs <;> exact h
  rcases a.processPacket_cases answer packet with heq | heq | heq
  · rw [heq]
    exact h
  · rw [heq]
    exact hr
  · rw [heq]
    exact checkFinishedFrame_usbInputFrame_lt answer hr hnext _

end Assembler

/-! ## Placement arithmetic -/

/-- No `uint32_t` computation of the offset of a packet wraps: the offset into a progressive
frame, and for either half of the packet and either parity the part, the line and the offset into
an interleaved frame. -/
structure OffsetsFit (params : FrameParams) (packetNo : ℕ) : Prop where
  progressive : packetNo * usbtvPayloadSize < 2 ^ 32
  part : ∀ half < 2, packetNo * 2 + half < 2 ^ 32
  line : ∀ half < 2, ∀ parity < 2, (packetNo * 2 + half) / 3 * 2 + parity < 2 ^ 32
  interleaved : ∀ half < 2, ∀ parity < 2,
    ((packetNo * 2 + half) / 3 * 2 + parity) * (params.frameWidth * 2) +
      usbtvPayloadSize / 2 * ((packetNo * 2 + half) % 3) < 2 ^ 32

/-- A packet number of 12 bits and a width of 720 pixels are small enough. -/
lemma offsetsFit {params : FrameParams} (hwidth : params.frameWidth = 720) {packetNo : ℕ}
    (h : packetNo < 4096) : OffsetsFit params packetNo := by
  refine ⟨?_, fun half hhalf => ?_, fun half hhalf parity hparity => ?_,
    fun half hhalf parity hparity => ?_⟩
  · simp only [usbtvPayloadSize]
    omega
  · omega
  · omega
  · simp only [hwidth, usbtvPayloadSize]
    omega

/-- **The placement arithmetic**: a packet whose number is below the packets of a field is placed
inside the buffer of its norm and scan type. -/
theorem dst_add_len_le (p : Java.DeviceParams) {payload : ℕ → UInt8} {packetNo : ℕ}
    (hno : packetNo < nativePacketsPerField p) {isOdd : Bool} {c : Copy UInt8}
    (hc : c ∈ Assembler.placePacket (nativeFrameParams p) payload packetNo isOdd) :
    c.dst + c.len ≤ (nativeFrameParams p).bufferSize := by
  have hN := nativePacketsPerField_cases p
  have hsmall : packetNo < 2 ^ 16 := by omega
  rw [nativeFrameParams_bufferSize]
  have hprogressive : c ∈ Assembler.packetToProgressiveFrame payload packetNo →
      c.dst + c.len ≤ nativePacketsPerField p * 960 := by
    intro hc
    obtain rfl := List.mem_singleton.mp hc
    simp only [Assembler.progressiveOffset_eq hsmall, usbtvPayloadSize]
    omega
  unfold Assembler.placePacket at hc
  cases hs : (nativeFrameParams p).scanType with
  | progressive =>
    rw [hs] at hc
    simpa using hprogressive hc
  | discard =>
    rw [hs] at hc
    cases isOdd with
    | true => simpa using hprogressive hc
    | false => exact absurd hc List.not_mem_nil
  | interleaved =>
    rw [hs] at hc
    simp only [Assembler.packetToInterleavedFrame, nativeFrameParams_frameWidth, List.mem_cons,
      List.not_mem_nil, or_false] at hc
    have hhalf : ∀ half < 2, Assembler.interleavedOffset 720 packetNo half isOdd +
        usbtvPayloadSize / 2 ≤ nativePacketsPerField p * 960 * 2 := by
      intro half hhalf
      rw [Assembler.interleavedOffset_eq hsmall hhalf]
      have hparity : (if isOdd then 0 else 1) ≤ 1 := by split_ifs <;> omega
      simp only [usbtvPayloadSize]
      -- both 360 and 432 are divisible by three, so the last part ends the last line
      rcases hN with hN | hN <;> omega
    simp only [if_true]
    rcases hc with rfl | rfl
    · exact hhalf 0 (by norm_num)
    · exact hhalf 1 (by norm_num)

/-! ## The pool in force -/

namespace UsbTvDriver

/-- The parameters of a call of `startStreaming` that finds no stream. -/
def startedWith (s : Session) : SessionEvent → List Java.DeviceParams
  | .startStreaming params _ => if s.driver.streamActive then [] else [params]
  | .beginStop | .endStop _ | .packet _ _ => []

/-- **The pool was made for the parameters in force**, those of the last start: every frame of the
pool has a buffer of the size they ask for, and `_usbInputFrame` is a frame of the pool. -/
structure PoolFits (starts : List Java.DeviceParams) (d : UsbTvDriver) (frames : ℕ → UsbTvFrame) :
    Prop where
  params : ∃ p, starts.getLast? = some p ∧ d.frameParams = nativeFrameParams p ∧
    d.packetsPerField = nativePacketsPerField p
  bufferSize : ∀ i < d.framePoolSize, (frames i).bufferSize = d.frameParams.bufferSize
  usbInputFrame : ∀ i, d.usbInputFrame = .frame i → i < d.framePoolSize

/-- A driver that was opened has a pool for its parameters. -/
lemma poolFits_opened (starts : List Java.DeviceParams) (d : UsbTvDriver)
    (params : Java.DeviceParams) (usb : AndroidUsbDevice) (hpos : 0 < d.framePoolSize)
    {frames : ℕ → UsbTvFrame} (h : ((d.beginStream params).opened usb).framePool = some frames) :
    PoolFits (starts ++ [params]) ((d.beginStream params).opened usb) frames := by
  obtain rfl := Option.some_inj.mp h
  refine ⟨⟨params, List.getLast?_concat, rfl, rfl⟩, fun i hi => startedPool_bufferSize hi,
    fun i hi => ?_⟩
  obtain rfl := FramePtr.frame.inj hi
  exact hpos

/-- A packet leaves the pool as it was made. -/
lemma PoolFits.processPacket {starts : List Java.DeviceParams} {d : UsbTvDriver}
    {frames : ℕ → UsbTvFrame} (h : PoolFits starts d frames)
    (hpool : d.framePool = some frames) {a : Assembler} (ha : d.assembler = some a)
    {answer : Answer} (hnext : ∀ next, answer = .accepted next → next < d.framePoolSize)
    (packet : Packet) {frames' : ℕ → UsbTvFrame}
    (h' : (d.withAssembler (a.processPacket (fun _ => answer) packet)).framePool =
      some frames') :
    PoolFits starts (d.withAssembler (a.processPacket (fun _ => answer) packet)) frames' := by
  cases hptr : d.usbInputFrame with
  | indeterminate => simp [assembler, hpool, hptr] at ha
  | null => simp [assembler, hpool, hptr] at ha
  | frame i =>
    simp only [assembler, hpool, hptr, Option.some_inj] at ha
    subst ha
    have hcfg := Assembler.processPacket_config ⟨d.toTracking, d.frameParams, i, frames, d.handed⟩
      (fun _ => answer) packet
    obtain rfl := Option.some_inj.mp h'
    refine ⟨?_, fun j hj => ?_, fun j hj => ?_⟩
    · obtain ⟨p, hlast, hp, hN⟩ := h.params
      exact ⟨p, hlast, hp, hcfg.packetsPerField.trans hN⟩
    · exact (hcfg.bufferSize j).trans (h.bufferSize j hj)
    · obtain rfl := FramePtr.frame.inj hj
      exact Assembler.processPacket_usbInputFrame_lt (fun _ => answer) (h.usbInputFrame i hptr)
        (fun _ => hnext) packet

/-- **In every run the pool was made for the parameters in force.** -/
theorem poolFits_of_traces {params : Java.DeviceParams} {starts : List Java.DeviceParams}
    {s : Session} (hs : (sessions params).Traces startedWith (fun _ _ => True) starts s) :
    ∀ frames, s.driver.framePool = some frames → PoolFits starts s.driver frames := by
  refine StepSystem.Traces.invariant
    (I := fun starts s => ∀ frames, s.driver.framePool = some frames →
      PoolFits starts s.driver frames) ?_ ?_ hs
  · rintro s ⟨frameParams, input, dropped, incomplete, rfl⟩ frames h
    exact absurd h (by simp [new])
  · intro starts s e s' htr hfits _ hstep frames' h'
    have hwf := wellFormed_of_reachable htr.reachable
    change s.step e = some s' at hstep
    cases e with
    | startStreaming params' answer =>
      obtain ⟨hactive, rfl⟩ | ⟨hactive, hidle, ok, d', hd', rfl⟩ := hwf.step_cases hstep
      · rw [startedWith, if_pos hactive, List.append_nil]
        exact hfits frames' h'
      · rw [startedWith, if_neg (by simp [hactive])]
        rcases startStreaming_of_idle hwf.initialized hidle hd' with
          ⟨-, -, log, rfl⟩ | ⟨-, -, hidle', -⟩ | ⟨-, -, hpos, -, usb, -, rfl⟩
        · have hnone : ((s.driver.beginStream params').withLog log).framePool = none :=
            hidle.framePool
          rw [hnone] at h'
          exact absurd h' (by simp)
        · rw [hidle'.framePool] at h'
          exact absurd h' (by simp)
        · exact poolFits_opened starts s.driver params' usb hpos h'
    | beginStop =>
      obtain ⟨-, rfl⟩ := hwf.step_cases hstep
      have h := hfits frames' h'
      rw [startedWith, List.append_nil]
      exact ⟨h.params, h.bufferSize, h.usbInputFrame⟩
    | endStop answer =>
      obtain ⟨usb, -, rfl⟩ := hwf.step_cases hstep
      exact absurd h' (by simp [stopped])
    | packet packet answer =>
      obtain ⟨hnext, a, ha, rfl⟩ := hwf.step_cases hstep
      cases hpool : s.driver.framePool with
      | none => simp [assembler, hpool] at ha
      | some frames =>
        rw [startedWith, List.append_nil]
        exact (hfits frames hpool).processPacket hpool ha hnext packet h'

/-- A pool is there only after a start. -/
lemma exists_params {params : Java.DeviceParams} {s : Session}
    (hs : (sessions params).Reachable s) {frames : ℕ → UsbTvFrame}
    (hpool : s.driver.framePool = some frames) : ∃ p, s.driver.frameParams = nativeFrameParams p ∧
      s.driver.packetsPerField = nativePacketsPerField p := by
  obtain ⟨starts, htr⟩ := StepSystem.Traces.exists_of_reachable startedWith hs
  obtain ⟨p, -, hp⟩ := (poolFits_of_traces htr frames hpool).params
  exact ⟨p, hp⟩

/-- **Packets stay within the buffer.** In every run of starts, stops and packets, whenever there
is a frame to write to, the pool is one for the norm and scan type in force, those of the last start
that found no stream; and whatever the header of the next packet, no offset computation wraps, and
what `processPacket` writes are copies that lie within the buffer of the input frame. -/
theorem packet_within_buffer {params : Java.DeviceParams} {starts : List Java.DeviceParams}
    {s : Session} (hs : (sessions params).Traces startedWith (fun _ _ => True) starts s)
    {a : Assembler} (ha : s.driver.assembler = some a) (packet : Packet) :
    ((∃ p, starts.getLast? = some p ∧ a.frameParams = nativeFrameParams p ∧
        a.packetsPerField = nativePacketsPerField p) ∧
        ∀ i < s.driver.framePoolSize, (a.frames i).bufferSize = a.frameParams.bufferSize) ∧
      OffsetsFit a.frameParams (usbtvPacketNo packet.header) ∧
      (∀ answer, a.BuffersFrom (a.processPacket answer packet) (a.packetCopies packet)) ∧
      ∀ c ∈ a.packetCopies packet, c.dst + c.len ≤ a.inputFrame.bufferSize := by
  cases hpool : s.driver.framePool with
  | none => simp [assembler, hpool] at ha
  | some frames =>
    have hfits := poolFits_of_traces hs frames hpool
    obtain ⟨p, hlast, hparams, hN⟩ := hfits.params
    cases hptr : s.driver.usbInputFrame with
    | indeterminate => simp [assembler, hpool, hptr] at ha
    | null => simp [assembler, hpool, hptr] at ha
    | frame i =>
      simp only [assembler, hpool, hptr, Option.some_inj] at ha
      subst ha
      refine ⟨⟨⟨p, hlast, hparams, hN⟩, hfits.bufferSize⟩, ?_,
        fun answer => Assembler.processPacket_buffer answer packet, fun c hc => ?_⟩
      · show OffsetsFit s.driver.frameParams _
        rw [hparams]
        exact offsetsFit (nativeFrameParams_frameWidth p) (usbtvPacketNo_lt packet.header)
      · show c.dst + c.len ≤ (frames i).bufferSize
        rw [hfits.bufferSize i (hfits.usbInputFrame i hptr), hparams]
        unfold Assembler.packetCopies at hc
        split_ifs at hc with hign
        · exact absurd hc List.not_mem_nil
        · simp only [Assembler.Ignored, not_or, not_le] at hign
          change c ∈ Assembler.placePacket s.driver.frameParams _ _ _ at hc
          rw [hparams] at hc
          exact dst_add_len_le p (hN ▸ hign.2) hc

/-- The last packet of a field in a first stream. -/
theorem packet_within_buffer_firstDriver :
    ∃ s a, (sessions Java.Builder.new.build).Traces startedWith (fun _ _ => True)
        [Java.Builder.new.build] s ∧ s.driver.assembler = some a ∧
      ((∃ p, [Java.Builder.new.build].getLast? = some p ∧ a.frameParams = nativeFrameParams p ∧
          a.packetsPerField = nativePacketsPerField p) ∧
        ∀ i < s.driver.framePoolSize, (a.frames i).bufferSize = a.frameParams.bufferSize) ∧
      OffsetsFit a.frameParams (usbtvPacketNo (packetHeader 1 true 359)) ∧
      (∀ answer, a.BuffersFrom (a.processPacket answer ⟨packetHeader 1 true 359, fun _ => 0⟩)
        (a.packetCopies ⟨packetHeader 1 true 359, fun _ => 0⟩)) ∧
      ∀ c ∈ a.packetCopies ⟨packetHeader 1 true 359, fun _ => 0⟩,
        c.dst + c.len ≤ a.inputFrame.bufferSize := by
  have h : ((firstDriver.startStreaming Java.Builder.new.build fun _ => 0).bind
      fun r => r.2.assembler).isSome = true := by decide
  obtain ⟨a, ha⟩ := Option.isSome_iff_exists.mp h
  obtain ⟨⟨ok, d'⟩, hd', ha⟩ := Option.bind_eq_some_iff.mp ha
  have hnew : (sessions Java.Builder.new.build).Traces startedWith (fun _ _ => True) []
      ⟨firstDriver, false⟩ := .init ⟨_, _, _, _, rfl⟩
  have hs : (sessions Java.Builder.new.build).Traces startedWith (fun _ _ => True)
      [Java.Builder.new.build] ⟨d', false⟩ := by
    apply hnew.step (e := .startStreaming Java.Builder.new.build fun _ => 0) trivial
    simp only [sessions, Session.step, hd', Bool.false_eq_true, if_false, Option.map_some]
  exact ⟨⟨d', false⟩, a, hs, ha, packet_within_buffer hs ha ⟨packetHeader 1 true 359, fun _ => 0⟩⟩

end UsbTvDriver

end UsbTv
