import UsbTv.Driver.Steps
import UsbTv.Driver.BufferBounds

set_option relaxedAutoImplicit false
set_option autoImplicit false

/-!
# The ids of delivered frames

`frame_process_thread` passes the id of a native frame on to `nativeFrameCallback`, which sets it
in the Java frame. `allocateFramePool` sets the ids of the pool to zero, and nothing writes them
afterwards: the id of the packets stays in `_currentFrameId`. So every frame is delivered with
the id `0`.

## Main definitions

* `UsbTv.JavaCallback.invoke` — the Java frame that a consumer gets.
* `UsbTv.CarriesId` — a frame is delivered with the id of the packet that completed it.

## Main results

* `UsbTv.Assembler.processPacket_frameIds` — packets never change the id of a frame.
* `UsbTv.UsbTvDriver.frameIds_of_reachable` — the frames of a pool have the id `0`.
* `UsbTv.UsbTvDriver.carriesId_iff` — which packets the delivered ids are right for.
-/

namespace UsbTv

/-! ## Delivery -/

/-- The conversion of a `uint32_t` to a `jint`. -/
def toJint (x : ℕ) : ℤ := if x < 2 ^ 31 then x else x - 2 ^ 32

/-- The Java `UsbTvFrame`: its id and its lock. -/
structure Java.UsbTvFrame where
  mFrameId : ℤ
  mLocked : Bool

/-- `nativeFrameCallback`: the frame that `onFrameReceived` gets, if there is a listener. -/
def Java.nativeFrameCallback (listener : Bool) (frame : Java.UsbTvFrame) (frameId _flags : ℤ) :
    Option Java.UsbTvFrame :=
  if listener then some { frame with mFrameId := frameId, mLocked := false } else none

/-- `JavaCallback::invoke` for a frame and its Java frame. -/
def JavaCallback.invoke (threadAttached listener : Bool) (frame : UsbTvFrame)
    (javaFrame : Java.UsbTvFrame) : Option Java.UsbTvFrame :=
  if threadAttached then
    Java.nativeFrameCallback listener javaFrame (toJint frame.frameId) (toJint frame.flags)
  else none

/-- The frame carries the id of the packet, and a consumer gets it with that id. -/
def CarriesId (packet : Packet) (h : Handover) : Prop :=
  h.frame.frameId = usbtvFrameId packet.header ∧
    ∀ threadAttached listener javaFrame frame,
      JavaCallback.invoke threadAttached listener h.frame javaFrame = some frame →
        frame.mFrameId = usbtvFrameId packet.header

/-- The consumer gets the id that the native frame has. -/
lemma JavaCallback.invoke_mFrameId {threadAttached listener : Bool} {f : UsbTvFrame}
    {javaFrame frame : Java.UsbTvFrame}
    (h : JavaCallback.invoke threadAttached listener f javaFrame = some frame) :
    frame.mFrameId = toJint f.frameId := by
  unfold JavaCallback.invoke Java.nativeFrameCallback at h
  split_ifs at h
  obtain rfl := Option.some_inj.mp h
  rfl

/-- For the ids that a header can carry, it is enough that the native frame has the right one. -/
lemma carriesId_iff_frameId {packet : Packet} {h : Handover} :
    CarriesId packet h ↔ h.frame.frameId = usbtvFrameId packet.header := by
  refine ⟨fun hc => hc.1, fun hid => ⟨hid, fun _ _ _ _ hinv => ?_⟩⟩
  have hlt := usbtvFrameId_lt packet.header
  rw [JavaCallback.invoke_mFrameId hinv, hid, toJint, if_pos (by omega)]

namespace Assembler

variable (a : Assembler) (answer : ℕ → Answer)

/-! ## Packets and the ids of the pool -/

/-- The ids of the frames of the pool. -/
def frameIds : ℕ → ℕ := fun i => (a.frames i).frameId

/-- **Packets never change the id of a frame.** -/
lemma processPacket_frameIds (packet : Packet) (hN : a.packetsPerField < 2 ^ 16) :
    (a.processPacket answer packet).frameIds = a.frameIds := by
  funext i
  have h := congrFun (a.processPacket_contents answer packet hN) i
  have hid := congrArg UsbTvFrame.frameId h
  apply hid.trans
  split_ifs
  · by_cases hi : i = a.usbInputFrame
    · rw [hi, Function.update_self]
      rfl
    · rw [Function.update_of_ne hi]
      rfl
  · rfl

/-- A frame is handed over with the id it has in the pool. -/
lemma submissions_frameId (packets : List Packet) (hN : a.packetsPerField < 2 ^ 16) :
    ∀ x ∈ a.submissions answer packets, ∃ i, x.2.frame.frameId = a.frameIds i := by
  induction packets generalizing a with
  | nil => simp [submissions]
  | cons p ps ih =>
    intro x hx
    have hcfg := (a.processPacket_config answer p).packetsPerField
    rw [submissions, a.processPacket_drop_handed answer p hN, List.mem_append] at hx
    rcases hx with hx | hx
    · split_ifs at hx
      · obtain rfl := List.mem_singleton.mp hx
        refine ⟨a.usbInputFrame, ?_⟩
        have h := congrFun (a.receive_contents p) a.usbInputFrame
        rw [Function.update_self] at h
        have hid := congrArg UsbTvFrame.frameId h
        show (a.receive p).flagFinished.inputFrame.frameId = _
        rw [flagFinished_inputFrame, inputFrame, receive_usbInputFrame]
        exact hid
      · exact absurd hx List.not_mem_nil
    · rw [← a.processPacket_frameIds answer p hN]
      exact ih _ (by rw [hcfg]; exact hN) x hx

/-- If all ids in the pool are `0`, the delivered ids are right for the packets with id `0`. -/
lemma carriesId_iff_of_frameIds (packets : List Packet) (hN : a.packetsPerField < 2 ^ 16)
    (hids : ∀ i, a.frameIds i = 0) :
    (∀ x ∈ a.submissions answer packets, CarriesId x.1 x.2) ↔
      ∀ p ∈ completing a.frameParams.scanType a.packetsPerField a.secondFrame packets,
        usbtvFrameId p.header = 0 := by
  have hzero : ∀ x ∈ a.submissions answer packets, x.2.frame.frameId = 0 := by
    intro x hx
    obtain ⟨i, hi⟩ := a.submissions_frameId answer packets hN x hx
    rw [hi, hids i]
  rw [← a.submissions_fst answer packets hN]
  constructor
  · intro h p hp
    obtain ⟨x, hx, rfl⟩ := List.mem_map.mp hp
    exact ((h x hx).1.symm).trans (hzero x hx)
  · intro h x hx
    rw [carriesId_iff_frameId, hzero x hx, h x.1 (List.mem_map_of_mem hx)]

end Assembler

/-! ## Runs -/

namespace UsbTvDriver

/-- A started pool has no ids yet. -/
lemma startedPool_frameId (bufferSize framePoolSize i : ℕ) :
    (startedPool bufferSize framePoolSize i).frameId = 0 := by
  have hnew : ∀ j, (newPool bufferSize framePoolSize j).frameId = 0 := by
    intro j
    unfold newPool
    split_ifs <;> rfl
  by_cases hi : i = 0
  · rw [startedPool, hi, Function.update_self]
    exact hnew 0
  · rw [startedPool, Function.update_of_ne hi]
    exact hnew i

/-- While there is a frame to write to, a field has 360 or 288 packets. -/
lemma packetsPerField_lt {params : Java.DeviceParams} {s : Session}
    (hs : (sessions params).Reachable s) {a : Assembler} (ha : s.driver.assembler = some a) :
    a.packetsPerField < 2 ^ 16 := by
  obtain ⟨hpool, -, htrack, -⟩ := assembler_eq_some ha
  obtain ⟨p, -, hp⟩ := exists_params hs hpool
  have hN := congrArg Tracking.packetsPerField htrack
  rw [hN, hp]
  rcases nativePacketsPerField_cases p with h | h <;> omega

/-- **In every run the frames of the pool have the id `0`.** -/
theorem frameIds_of_reachable {params : Java.DeviceParams} {s : Session}
    (hs : (sessions params).Reachable s) :
    ∀ frames, s.driver.framePool = some frames → ∀ i, (frames i).frameId = 0 := by
  refine StepSystem.ReachableUnder.invariant
    (I := fun s => ∀ frames, s.driver.framePool = some frames → ∀ i, (frames i).frameId = 0)
    ?_ ?_ hs
  · rintro s ⟨frameParams, input, dropped, incomplete, rfl⟩ frames h
    exact absurd h (by simp [new])
  · intro s e s' hreach hids _ hstep frames' h'
    have hwf := wellFormed_of_reachable hreach
    change s.step e = some s' at hstep
    cases e with
    | startStreaming params' answer =>
      obtain ⟨-, rfl⟩ | ⟨-, hidle, ok, d', hd', rfl⟩ := hwf.step_cases hstep
      · exact hids frames' h'
      · rcases startStreaming_of_idle hwf.initialized hidle hd' with
          ⟨-, -, log, rfl⟩ | ⟨-, -, hidle', -⟩ | ⟨-, -, -, -, usb, -, rfl⟩
        · have hnone : ((s.driver.beginStream params').withLog log).framePool = none :=
            hidle.framePool
          rw [hnone] at h'
          exact absurd h' (by simp)
        · rw [hidle'.framePool] at h'
          exact absurd h' (by simp)
        · obtain rfl := Option.some_inj.mp h'
          exact startedPool_frameId _ _
    | beginStop =>
      obtain ⟨-, rfl⟩ := hwf.step_cases hstep
      exact hids frames' h'
    | endStop answer =>
      obtain ⟨usb, -, rfl⟩ := hwf.step_cases hstep
      exact absurd h' (by simp [stopped])
    | packet packet answer =>
      obtain ⟨-, a, ha, rfl⟩ := hwf.step_cases hstep
      obtain rfl := Option.some_inj.mp h'
      intro i
      rw [← hids a.frames (assembler_eq_some ha).1 i]
      exact congrFun (a.processPacket_frameIds (fun _ => answer) packet
        (packetsPerField_lt hreach ha)) i

/-- **Which packets the delivered ids are right for**: whatever packets a stream goes on with, in
every run, each frame is delivered with the id of the packet that completed it if and only if
all packets that complete a frame have the id `0`. -/
theorem carriesId_iff {params : Java.DeviceParams} {s : Session}
    (hs : (sessions params).Reachable s) {a : Assembler} (ha : s.driver.assembler = some a)
    (answer : ℕ → Answer) (packets : List Packet) :
    (∀ x ∈ a.submissions answer packets, CarriesId x.1 x.2) ↔
      ∀ p ∈ completing a.frameParams.scanType a.packetsPerField a.secondFrame packets,
        usbtvFrameId p.header = 0 := by
  exact a.carriesId_iff_of_frameIds answer packets (packetsPerField_lt hs ha)
    (frameIds_of_reachable hs a.frames (assembler_eq_some ha).1)

/-- A first stream of progressive frames. -/
lemma exists_assembler_firstDriver :
    ∃ s a, (sessions Java.Builder.new.build).Reachable s ∧ s.driver.assembler = some a ∧
      a.frameParams.scanType = .progressive ∧ a.packetsPerField = 360 := by
  have h : ((firstDriver.startStreaming Java.Builder.new.build fun _ => 0).bind fun r =>
      r.2.assembler.map fun a => (a.frameParams.scanType, a.packetsPerField)) =
        some (.progressive, 360) := by decide
  obtain ⟨⟨ok, d'⟩, hd', ha⟩ := Option.bind_eq_some_iff.mp h
  obtain ⟨a, ha, heq⟩ := Option.map_eq_some_iff.mp ha
  have hs := reachable_startStreaming (reachable_new Java.Builder.new.build _ _ 0 0) hd'
  exact ⟨⟨d', false⟩, a, hs, ha, congrArg Prod.fst heq, congrArg Prod.snd heq⟩

/-- The last packet of a field with id `0` in a first stream. -/
theorem carriesId_iff_firstDriver :
    ∃ s a, (sessions Java.Builder.new.build).Reachable s ∧ s.driver.assembler = some a ∧
      ((∀ x ∈ a.submissions (fun _ => .refused) [⟨packetHeader 0 true 359, fun _ => 0⟩],
          CarriesId x.1 x.2) ↔
        ∀ p ∈ completing a.frameParams.scanType a.packetsPerField a.secondFrame
          [⟨packetHeader 0 true 359, fun _ => 0⟩], usbtvFrameId p.header = 0) := by
  obtain ⟨s, a, hs, ha, -, -⟩ := exists_assembler_firstDriver
  exact ⟨s, a, hs, ha, carriesId_iff hs ha _ _⟩

/-- **A frame with another id than its packets**: the last packet of a field with id `1` completes
a frame whose id is `0`. -/
theorem not_carriesId_firstDriver :
    ∃ s a, (sessions Java.Builder.new.build).Reachable s ∧ s.driver.assembler = some a ∧
      ¬ ∀ x ∈ a.submissions (fun _ => .refused) [⟨packetHeader 1 true 359, fun _ => 0⟩],
        CarriesId x.1 x.2 := by
  obtain ⟨s, a, hs, ha, hscan, hN⟩ := exists_assembler_firstDriver
  refine ⟨s, a, hs, ha, fun h => ?_⟩
  rw [a.carriesId_iff_of_frameIds _ _ (packetsPerField_lt hs ha)
    (frameIds_of_reachable hs a.frames (assembler_eq_some ha).1), hscan, hN] at h
  have hlast : (⟨packetHeader 1 true 359, fun _ => 0⟩ : Packet).IsLast 360 := by decide
  have hid := h ⟨packetHeader 1 true 359, fun _ => 0⟩ (by simp [completing, hlast, finishHandsOver])
  exact absurd hid (by decide)

end UsbTvDriver

end UsbTv
