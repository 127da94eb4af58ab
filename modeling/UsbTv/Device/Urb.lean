import Mathlib.Data.List.Basic
import Mathlib.Logic.Function.Basic
import Mathlib.Tactic.NormNum
import UsbTv.Device.Basic

set_option relaxedAutoImplicit false
set_option autoImplicit false

/-!
# The contents of a URB

`usbdevfs_urb` with its descriptors and its context, and the calls of `AndroidUsbDevice` that
read or write them while a stream runs: `resubmitUrb`, `killUrb` and `clearHalt`. A pointer to a
URB is the number of its allocation, or `none` where it is null.

The regions of the descriptors lie one after the other in the buffer, whose length is an `int`.
A URB carries this as a field: `initIsoUrbs` allocates the buffer for its descriptors, usbfs
refuses a URB that does not have it, and nothing changes a length afterwards.

## Main definitions

* `UsbTv.UsbdevfsUrb` — a URB.
* `UsbTv.UsbdevfsUrb.regionStart` — where the region of a descriptor starts.
* `UsbTv.UrbMemory` — the device and the URBs it allocated.
* `UsbTv.UrbMemory.resubmitUrb` — the URB is reset and submitted once more.
* `UsbTv.UrbCallback` — the callback of a URB, on any state.

## Main results

* `UsbTv.UsbdevfsUrb.regionStart_add_le` — the regions lie one behind the other in the buffer.
* `UsbTv.UrbMemory.resubmitUrb_iso` — what resubmitting an isochronous URB does.
-/

namespace UsbTv

/-- `usbdevfs_iso_packet_desc`. -/
structure UsbdevfsIsoPacketDesc where
  length : ℕ
  actualLength : ℕ
  status : ℕ
  deriving DecidableEq, Repr

/-- `USBDEVFS_URB_TYPE_ISO` and its siblings. -/
inductive UrbType
  | iso
  | interrupt
  | control
  | bulk
  deriving DecidableEq, Repr

/-- `USBDEVFS_URB_ISO_ASAP`. -/
def usbdevfsUrbIsoAsap : ℕ := 2

/-- `USBDEVFS_URB_BULK_CONTINUATION`. -/
def usbdevfsUrbBulkContinuation : ℕ := 4

/-- What `usercontext` points to, as far as the reap thread reads it: the members of `UrbContext`,
or the sub URBs of a `ContinuousBulkContext`. -/
structure UrbContext where
  contBulkUrb : Option ℕ
  isLast : Bool
  subUrbs : List ℕ
  deriving DecidableEq, Repr

/-- `usbdevfs_urb`. Its `number_of_packets` is the number of descriptors. -/
structure UsbdevfsUrb where
  type : UrbType
  endpoint : ℕ
  status : ℤ
  flags : ℕ
  /-- Byte `i` behind the address `buffer`. -/
  buffer : ℤ → UInt8
  bufferLength : ℕ
  actualLength : ℤ
  errorCount : ℤ
  usercontext : UrbContext
  isoFrameDesc : List UsbdevfsIsoPacketDesc
  /-- `buffer_length` is an `int`. -/
  bufferLength_lt : bufferLength < 2 ^ 31
  /-- The buffer has room for all descriptors. -/
  fits : (isoFrameDesc.map (·.length)).sum ≤ bufferLength

namespace UsbdevfsUrb

/-- `status`, `actual_length` and `error_count` are reset. -/
def reset (u : UsbdevfsUrb) : UsbdevfsUrb :=
  { u with status := 0, actualLength := 0, errorCount := 0 }

/-- `actual_length` and `status` of every descriptor are reset. -/
def resetDescs (u : UsbdevfsUrb) : UsbdevfsUrb :=
  { u with
    isoFrameDesc := u.isoFrameDesc.map fun desc => { desc with actualLength := 0, status := 0 }
    fits := by simpa [Function.comp_def] using u.fits }

/-- A URB as `initIsoUrbs` submits it, with the buffer `malloc` returned. -/
def newIso (endpoint packetLength numberOfPackets : ℕ) (buffer : ℤ → UInt8)
    (h : packetLength * numberOfPackets < 2 ^ 31) : UsbdevfsUrb where
  type := .iso
  endpoint := endpoint
  status := 0
  flags := usbdevfsUrbIsoAsap
  buffer := buffer
  bufferLength := packetLength * numberOfPackets
  actualLength := 0
  errorCount := 0
  usercontext := ⟨none, true, []⟩
  isoFrameDesc := List.replicate numberOfPackets ⟨packetLength, 0, 0⟩
  bufferLength_lt := h
  fits := by simp [mul_comm]

/-- Where the region of descriptor `i` starts in the buffer: behind the earlier ones. -/
def regionStart (u : UsbdevfsUrb) (i : ℕ) : ℕ := ((u.isoFrameDesc.take i).map (·.length)).sum

/-- Two regions do not overlap, and the later one lies behind the earlier one. -/
lemma regionStart_add_le_of_lt {u : UsbdevfsUrb} {i j : ℕ} {desc : UsbdevfsIsoPacketDesc}
    (hi : u.isoFrameDesc[i]? = some desc) (hij : i < j) :
    u.regionStart i + desc.length ≤ u.regionStart j := by
  obtain ⟨k, rfl⟩ : ∃ k, j = i + 1 + k := ⟨j - (i + 1), by omega⟩
  have hsplit : u.isoFrameDesc.take (i + 1 + k) =
      u.isoFrameDesc.take i ++ [desc] ++ (u.isoFrameDesc.drop (i + 1)).take k := by
    rw [List.take_add, List.take_add_one, hi]
    rfl
  rw [regionStart, regionStart, hsplit]
  simp only [List.map_append, List.map_cons, List.map_nil, List.sum_append, List.sum_cons,
    List.sum_nil]
  omega

/-- **Every region lies in the buffer**. -/
lemma regionStart_add_le {u : UsbdevfsUrb} {i : ℕ} {desc : UsbdevfsIsoPacketDesc}
    (hi : u.isoFrameDesc[i]? = some desc) : u.regionStart i + desc.length ≤ u.bufferLength := by
  have hlt : i < u.isoFrameDesc.length := (List.getElem?_eq_some_iff.mp hi).1
  have hle := regionStart_add_le_of_lt hi hlt
  have hall : u.regionStart u.isoFrameDesc.length = (u.isoFrameDesc.map (·.length)).sum := by
    rw [regionStart, List.take_length]
  rw [hall] at hle
  exact hle.trans u.fits

end UsbdevfsUrb

/-- The device, the URBs it allocated, and the endpoints of which a halt was cleared. -/
structure UrbMemory where
  device : AndroidUsbDevice
  urbs : ℕ → UsbdevfsUrb
  halts : List ℕ

namespace UrbMemory

/-- Change a URB. -/
def modify (m : UrbMemory) (urb : ℕ) (f : UsbdevfsUrb → UsbdevfsUrb) : UrbMemory :=
  { m with urbs := Function.update m.urbs urb (f (m.urbs urb)) }

/-- `submitUrb`. -/
def submitUrb (m : UrbMemory) (answer : ℕ → ℤ) (urb : ℕ) : Bool × UrbMemory :=
  let (success, device) := m.device.submitUrb answer urb
  (success, { m with device := device })

/-- The loop of `resubmitUrb` over the sub URBs: each is reset and submitted, whatever becomes of
the others. -/
def resubmitSubUrbs (answer : ℕ → ℤ) : List ℕ → UrbMemory → Bool × UrbMemory
  | [], m => (true, m)
  | urb :: urbs, m =>
    let (ok, m) := (m.modify urb .reset).submitUrb answer urb
    let (success, m) := resubmitSubUrbs answer urbs m
    (ok && success, m)

/-- `resubmitUrb`. -/
def resubmitUrb (m : UrbMemory) (answer : ℕ → ℤ) : Option ℕ → Bool × UrbMemory
  | none => (false, m)
  | some urb =>
    let m := m.modify urb .reset
    if (m.urbs urb).type = .iso then (m.modify urb .resetDescs).submitUrb answer urb
    else if (m.urbs urb).flags &&& usbdevfsUrbBulkContinuation > 0 then
      resubmitSubUrbs answer (m.urbs urb).usercontext.subUrbs m
    else m.submitUrb answer urb

/-- The `DISCARDURB` requests of `killUrb`. -/
def discardUrbs (m : UrbMemory) (urbs : List ℕ) : UrbMemory :=
  { m with device := urbs.foldl (fun d urb => (d.discardUrb urb).2) m.device }

/-- `killUrb`. Its loop over the sub URBs runs up to `i <= subUrbCount`, so that it ends with the
pointer that lies behind the array. -/
def killUrb (m : UrbMemory) (behind : ℕ) : Option ℕ → UrbMemory
  | none => m
  | some urb =>
    if (m.urbs urb).flags &&& usbdevfsUrbBulkContinuation = 0 then m.discardUrbs [urb]
    else m.discardUrbs ((m.urbs urb).usercontext.subUrbs ++ [behind])

/-- `clearHalt`. -/
def clearHalt (m : UrbMemory) (endpoint : ℕ) : UrbMemory :=
  { m with halts := m.halts ++ [endpoint] }

/-! ## Resubmitting -/

@[simp] lemma modify_device (m : UrbMemory) (urb : ℕ) (f : UsbdevfsUrb → UsbdevfsUrb) :
    (m.modify urb f).device = m.device := rfl

@[simp] lemma modify_urbs_self (m : UrbMemory) (urb : ℕ) (f : UsbdevfsUrb → UsbdevfsUrb) :
    (m.modify urb f).urbs urb = f (m.urbs urb) := Function.update_self ..

lemma modify_urbs_of_ne (m : UrbMemory) {urb u : ℕ} (h : u ≠ urb)
    (f : UsbdevfsUrb → UsbdevfsUrb) : (m.modify urb f).urbs u = m.urbs u :=
  Function.update_of_ne h ..

@[simp] lemma submitUrb_urbs (m : UrbMemory) (answer : ℕ → ℤ) (urb : ℕ) :
    (m.submitUrb answer urb).2.urbs = m.urbs := rfl

/-- A `SUBMITURB` is put on record, whatever usbfs answers. -/
@[simp] lemma submitUrb_log (m : UrbMemory) (answer : ℕ → ℤ) (urb : ℕ) :
    (m.submitUrb answer urb).2.device.log = m.device.log ++ [.submitUrb urb] := by
  unfold submitUrb AndroidUsbDevice.submitUrb AndroidUsbDevice.ioctl
  dsimp only
  split_ifs <;> rfl

/-- Submitting a URB leaves the reap thread alone. -/
@[simp] lemma submitUrb_urbThreadRunning (m : UrbMemory) (answer : ℕ → ℤ) (urb : ℕ) :
    (m.submitUrb answer urb).2.device.urbThreadRunning = m.device.urbThreadRunning := by
  unfold submitUrb AndroidUsbDevice.submitUrb AndroidUsbDevice.ioctl
  dsimp only
  split_ifs <;> rfl

/-- **Resubmitting an isochronous URB** resets it with its descriptors and submits it once. -/
lemma resubmitUrb_iso {m : UrbMemory} {urb : ℕ} (h : (m.urbs urb).type = .iso)
    (answer : ℕ → ℤ) :
    m.resubmitUrb answer (some urb) =
      ((m.modify urb .reset).modify urb .resetDescs).submitUrb answer urb := by
  have hiso : ((m.modify urb .reset).urbs urb).type = .iso := by
    rw [modify_urbs_self]
    exact h
  simp only [resubmitUrb, if_pos hiso]

lemma resubmitSubUrbs_urbThreadRunning (answer : ℕ → ℤ) (urbs : List ℕ) (m : UrbMemory) :
    (resubmitSubUrbs answer urbs m).2.device.urbThreadRunning = m.device.urbThreadRunning := by
  induction urbs generalizing m with
  | nil => rfl
  | cons urb urbs ih =>
    simp only [resubmitSubUrbs, ih, submitUrb_urbThreadRunning, modify_device]

/-- Resubmitting a URB leaves the reap thread alone. -/
lemma resubmitUrb_urbThreadRunning (m : UrbMemory) (answer : ℕ → ℤ) (urb : Option ℕ) :
    (m.resubmitUrb answer urb).2.device.urbThreadRunning = m.device.urbThreadRunning := by
  cases urb with
  | none => rfl
  | some urb =>
    simp only [resubmitUrb]
    split_ifs
    · rw [submitUrb_urbThreadRunning, modify_device, modify_device]
    · rw [resubmitSubUrbs_urbThreadRunning, modify_device]
    · rw [submitUrb_urbThreadRunning, modify_device]

end UrbMemory

/-- The callback of a URB: it works on the driver and on the URBs, and neither starts nor stops
the reap thread. -/
structure UrbCallback (σ : Type*) where
  run : σ → UrbMemory → ℕ → σ × UrbMemory
  urbThreadRunning : ∀ s m urb,
    (run s m urb).2.device.urbThreadRunning = m.device.urbThreadRunning

end UsbTv
