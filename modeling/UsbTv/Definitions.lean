import Mathlib.Data.Nat.Bits
import Mathlib.Tactic.NormNum

set_option relaxedAutoImplicit false
set_option autoImplicit false

/-!
# Constants, packet headers and register tables

The definitions of `usbtv_definitions.h`: sizes, the flags of a frame, the macros that take a
packet header apart, the enumerations the driver switches on, and the register tables that
`startStreaming` and `setTvInput` write.

## Main definitions

* `UsbTv.usbtvFrameOk`, `usbtvFrameId`, `usbtvOdd`, `usbtvPacketNo` — the header macros.
* `UsbTv.Packet` — a packet as `processPacket` sees it.
* `UsbTv.FrameParams` — the native copy of the frame parameters.

## Main results

* `UsbTv.usbtvFrameId_lt`, `UsbTv.usbtvPacketNo_lt` — the ranges of the header fields.
* `UsbTv.decode_packetHeader` — every combination of fields is the reading of some header.
-/

namespace UsbTv

/-! ## Sizes and flags -/

/-- `USBTV_BASE`. -/
def usbtvBase : ℕ := 0xc000

/-- `USBTV_ISOC_TRANSFERS`: the number of isochronous URBs of a stream. -/
def usbtvIsocTransfers : ℕ := 16

/-- `USBTV_PACKET_SIZE`, in bytes. -/
def usbtvPacketSize : ℕ := 1024

/-- `USBTV_PAYLOAD_SIZE`, in bytes. -/
def usbtvPayloadSize : ℕ := 960

/-- `FRAME_START`: the frame was taken from the pool, or dropped, and nothing was written yet. -/
def frameStart : ℕ := 1

/-- `FRAME_IN_PROGRESS`. -/
def frameInProgress : ℕ := 2

/-- `FRAME_COMPLETE`. -/
def frameComplete : ℕ := 4

/-- `FRAME_PARTIAL`. -/
def framePartial : ℕ := 8

/-! ## Integers -/

/-- A value as an `int`, which wraps around. -/
def cInt (n : ℕ) : ℤ := Int.bmod n (2 ^ 32)

lemma cInt_of_lt {n : ℕ} (h : n < 2 ^ 31) : cInt n = n := by
  unfold cInt
  rw [Int.bmod_eq_of_le] <;> omega

/-! ## Packet headers

A packet starts with one big-endian word. The macros read it after `__be32_to_cpu`. -/

/-- `USBTV_FRAME_OK`. -/
def usbtvFrameOk (header : UInt32) : Bool := header &&& 0xff000000 == 0x88000000

/-- `USBTV_FRAME_ID`. -/
def usbtvFrameId (header : UInt32) : ℕ := ((header &&& 0x00ff0000) >>> 16).toNat

/-- `USBTV_ODD`. -/
def usbtvOdd (header : UInt32) : Bool := (header &&& 0x0000f000) >>> 15 != 0

/-- `USBTV_PACKET_NO`. -/
def usbtvPacketNo (header : UInt32) : ℕ := (header &&& 0x00000fff).toNat

/-- A packet as `processPacket` sees it: the first word after `__be32_to_cpu`, and the bytes
behind it (the pointer after `packet++`). -/
structure Packet where
  /-- The first word, in the byte order of the processor. -/
  header : UInt32
  /-- Byte `i` behind the header. -/
  payload : ℕ → UInt8

/-- The frame id is the third byte of the header. -/
lemma usbtvFrameId_eq (h : UInt32) : usbtvFrameId h = h.toNat / 2 ^ 16 % 2 ^ 8 := by
  have hs : (h.toNat &&& 0x00ff0000) >>> 16 = (h.toNat >>> 16) &&& (2 ^ 8 - 1) := by
    rw [Nat.shiftRight_and_distrib]; rfl
  simp only [usbtvFrameId, UInt32.toNat_shiftRight, UInt32.toNat_and]
  show (h.toNat &&& 0x00ff0000) >>> 16 = _
  rw [hs, Nat.and_two_pow_sub_one_eq_mod, Nat.shiftRight_eq_div_pow]

/-- The packet number is the last twelve bits of the header. -/
lemma usbtvPacketNo_eq (h : UInt32) : usbtvPacketNo h = h.toNat % 2 ^ 12 := by
  simp only [usbtvPacketNo, UInt32.toNat_and]
  show h.toNat &&& (2 ^ 12 - 1) = _
  rw [Nat.and_two_pow_sub_one_eq_mod]

/-- The parity is bit 15 of the header. -/
lemma usbtvOdd_eq (h : UInt32) : usbtvOdd h = decide (h.toNat / 2 ^ 15 % 2 = 1) := by
  have hs : (h.toNat &&& 0x0000f000) >>> 15 = (h.toNat >>> 15) &&& (2 ^ 1 - 1) := by
    rw [Nat.shiftRight_and_distrib]; rfl
  have hv : ((h &&& 0x0000f000) >>> 15).toNat = h.toNat / 2 ^ 15 % 2 := by
    simp only [UInt32.toNat_shiftRight, UInt32.toNat_and]
    show (h.toNat &&& 0x0000f000) >>> 15 = _
    rw [hs, Nat.and_two_pow_sub_one_eq_mod, Nat.shiftRight_eq_div_pow, pow_one]
  have hz : ((h &&& 0x0000f000) >>> 15 = 0) ↔ h.toNat / 2 ^ 15 % 2 = 0 := by
    rw [← UInt32.toNat_inj, hv]; rfl
  simp only [usbtvOdd, bne, beq_eq_decide, hz, ← decide_not, decide_eq_decide]
  omega

/-- A header is accepted if its first byte is `0x88`. -/
lemma usbtvFrameOk_eq (h : UInt32) : usbtvFrameOk h = decide (h.toNat / 2 ^ 24 = 0x88) := by
  have hlt : h.toNat < 2 ^ 32 := h.toNat_lt
  have hdiv : (h.toNat &&& 0xff000000) / 2 ^ 24 = h.toNat / 2 ^ 24 := by
    have h1 : (h.toNat &&& 0xff000000) >>> 24 = (h.toNat >>> 24) &&& (2 ^ 8 - 1) := by
      rw [Nat.shiftRight_and_distrib]; rfl
    rw [Nat.and_two_pow_sub_one_eq_mod, Nat.shiftRight_eq_div_pow, Nat.shiftRight_eq_div_pow] at h1
    omega
  have hmod : (h.toNat &&& 0xff000000) % 2 ^ 24 = 0 := by
    rw [Nat.and_mod_two_pow]; simp
  have hz : (h &&& 0xff000000 = 0x88000000) ↔ h.toNat / 2 ^ 24 = 0x88 := by
    rw [← UInt32.toNat_inj, UInt32.toNat_and]
    show h.toNat &&& 0xff000000 = 0x88000000 ↔ _
    omega
  simp only [usbtvFrameOk, beq_eq_decide, hz]

/-- A frame id has eight bits. -/
lemma usbtvFrameId_lt (h : UInt32) : usbtvFrameId h < 256 := by
  rw [usbtvFrameId_eq]; omega

/-- A packet number has twelve bits. -/
lemma usbtvPacketNo_lt (h : UInt32) : usbtvPacketNo h < 4096 := by
  rw [usbtvPacketNo_eq]; omega

/-- The header with the given fields and bits 12 to 14 clear. -/
def packetHeader (id : ℕ) (odd : Bool) (packetNo : ℕ) : UInt32 :=
  UInt32.ofNat (0x88000000 + id * 0x10000 + (if odd then 0x8000 else 0) + packetNo)

/-- **Every combination of header fields occurs**: the fields of `packetHeader` are the given
ones. -/
lemma decode_packetHeader {id : ℕ} (odd : Bool) {packetNo : ℕ} (hid : id < 256)
    (hno : packetNo < 4096) :
    usbtvFrameOk (packetHeader id odd packetNo) = true ∧
      usbtvFrameId (packetHeader id odd packetNo) = id ∧
      usbtvOdd (packetHeader id odd packetNo) = odd ∧
      usbtvPacketNo (packetHeader id odd packetNo) = packetNo := by
  have hv : (packetHeader id odd packetNo).toNat =
      0x88000000 + id * 0x10000 + (if odd then 0x8000 else 0) + packetNo := by
    unfold packetHeader
    rw [UInt32.toNat_ofNat_of_lt']
    show _ < 2 ^ 32
    split_ifs <;> omega
  rw [usbtvFrameOk_eq, usbtvFrameId_eq, usbtvOdd_eq, usbtvPacketNo_eq, hv]
  cases odd <;> simp <;> omega

/-! ## Enumerations and frame parameters -/

/-- `TvInput`. -/
inductive TvInput
  | usbtvCompositeInput
  | usbtvSvideoInput
  deriving DecidableEq, Repr

/-- `TvNorm`. -/
inductive TvNorm
  | ntsc
  | pal
  deriving DecidableEq, Repr

/-- `ScanType`. -/
inductive ScanType
  | progressive
  | discard
  | interleaved
  deriving DecidableEq, Repr

/-- `FrameParams`. -/
structure FrameParams where
  frameWidth : ℕ
  frameHeight : ℕ
  norm : TvNorm
  scanType : ScanType
  bufferSize : ℕ
  deriving DecidableEq, Repr

/-! ## Register tables -/

/-- Register table `COMPOSITE_INPUT`: index and value of each write. -/
def compositeInput : List (ℕ × ℕ) :=
  [(usbtvBase + 0x0105, 0x0060), (usbtvBase + 0x011f, 0x00f2), (usbtvBase + 0x0127, 0x0060),
   (usbtvBase + 0x00ae, 0x0010), (usbtvBase + 0x0239, 0x0060)]

/-- Register table `SVIDEO_INPUT`. -/
def svideoInput : List (ℕ × ℕ) :=
  [(usbtvBase + 0x0105, 0x0010), (usbtvBase + 0x011f, 0x00ff), (usbtvBase + 0x0127, 0x0060),
   (usbtvBase + 0x00ae, 0x0030), (usbtvBase + 0x0239, 0x0060)]

/-- Register table `PAL_TV_NORM`. -/
def palTvNorm : List (ℕ × ℕ) :=
  [(usbtvBase + 0x001a, 0x0068), (usbtvBase + 0x010e, 0x0072), (usbtvBase + 0x010f, 0x00a2),
   (usbtvBase + 0x0112, 0x00b0), (usbtvBase + 0x0117, 0x0001), (usbtvBase + 0x0118, 0x002c),
   (usbtvBase + 0x012d, 0x0010), (usbtvBase + 0x012f, 0x0020), (usbtvBase + 0x024f, 0x0002),
   (usbtvBase + 0x0254, 0x0059), (usbtvBase + 0x025a, 0x0016), (usbtvBase + 0x025b, 0x0035),
   (usbtvBase + 0x0263, 0x0017), (usbtvBase + 0x0266, 0x0016), (usbtvBase + 0x0267, 0x0036)]

/-- Register table `NTSC_TV_NORM`. -/
def ntscTvNorm : List (ℕ × ℕ) :=
  [(usbtvBase + 0x001a, 0x0079), (usbtvBase + 0x010e, 0x0068), (usbtvBase + 0x010f, 0x009c),
   (usbtvBase + 0x0112, 0x00f0), (usbtvBase + 0x0117, 0x0000), (usbtvBase + 0x0118, 0x00fc),
   (usbtvBase + 0x012d, 0x0004), (usbtvBase + 0x012f, 0x0008), (usbtvBase + 0x024f, 0x0001),
   (usbtvBase + 0x0254, 0x005f), (usbtvBase + 0x025a, 0x0012), (usbtvBase + 0x025b, 0x0001),
   (usbtvBase + 0x0263, 0x001c), (usbtvBase + 0x0266, 0x0011), (usbtvBase + 0x0267, 0x0005)]

/-- Register table `VIDEO_INIT`, which enables the device and sets the colour parameters. -/
def videoInit : List (ℕ × ℕ) :=
  [(usbtvBase + 0x0008, 0x0001), (usbtvBase + 0x01d0, 0x00ff), (usbtvBase + 0x01d9, 0x0002),
   (usbtvBase + 0x0239, 0x0040), (usbtvBase + 0x0240, 0x0000), (usbtvBase + 0x0241, 0x0000),
   (usbtvBase + 0x0242, 0x0002), (usbtvBase + 0x0243, 0x0080), (usbtvBase + 0x0244, 0x0012),
   (usbtvBase + 0x0245, 0x0090), (usbtvBase + 0x0246, 0x0000), (usbtvBase + 0x0278, 0x002d),
   (usbtvBase + 0x0279, 0x000a), (usbtvBase + 0x027a, 0x0032), (0xf890, 0x000c),
   (0xf894, 0x0086), (usbtvBase + 0x00ac, 0x00c0), (usbtvBase + 0x00ad, 0x0000),
   (usbtvBase + 0x00a2, 0x0012), (usbtvBase + 0x00a3, 0x00e0), (usbtvBase + 0x00a4, 0x0028),
   (usbtvBase + 0x00a5, 0x0082), (usbtvBase + 0x00a7, 0x0080), (usbtvBase + 0x0000, 0x0014),
   (usbtvBase + 0x0006, 0x0003), (usbtvBase + 0x0090, 0x0099), (usbtvBase + 0x0091, 0x0090),
   (usbtvBase + 0x0094, 0x0068), (usbtvBase + 0x0095, 0x0070), (usbtvBase + 0x009c, 0x0030),
   (usbtvBase + 0x009d, 0x00c0), (usbtvBase + 0x009e, 0x00e0), (usbtvBase + 0x0019, 0x0006),
   (usbtvBase + 0x008c, 0x00ba), (usbtvBase + 0x0101, 0x00ff), (usbtvBase + 0x010c, 0x00b3),
   (usbtvBase + 0x01b2, 0x0080), (usbtvBase + 0x01b4, 0x00a0), (usbtvBase + 0x014c, 0x00ff),
   (usbtvBase + 0x014d, 0x00ca), (usbtvBase + 0x0113, 0x0053), (usbtvBase + 0x0119, 0x008a),
   (usbtvBase + 0x013c, 0x0003), (usbtvBase + 0x0150, 0x009c), (usbtvBase + 0x0151, 0x0071),
   (usbtvBase + 0x0152, 0x00c6), (usbtvBase + 0x0153, 0x0084), (usbtvBase + 0x0154, 0x00bc),
   (usbtvBase + 0x0155, 0x00a0), (usbtvBase + 0x0156, 0x00a0), (usbtvBase + 0x0157, 0x009c),
   (usbtvBase + 0x0158, 0x001f), (usbtvBase + 0x0159, 0x0006), (usbtvBase + 0x015d, 0x0000),
   (usbtvBase + 0x0003, 0x0004), (usbtvBase + 0x0100, 0x00d3), (usbtvBase + 0x0115, 0x0015),
   (usbtvBase + 0x0220, 0x002e), (usbtvBase + 0x0225, 0x0008), (usbtvBase + 0x024e, 0x0002),
   (usbtvBase + 0x024e, 0x0002), (usbtvBase + 0x024f, 0x0002)]

end UsbTv
