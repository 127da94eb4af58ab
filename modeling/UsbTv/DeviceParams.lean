import UsbTv.Definitions

set_option relaxedAutoImplicit false
set_option autoImplicit false

/-!
# Device parameters

`DeviceParams.java`: the parameters of a capture device and the builder that makes them. The
constructor of `DeviceParams` is private to the builder, and `build` recomputes the frame size
from the norm and the scan type every time, so a `DeviceParams` object whose sizes do not fit
its norm cannot be built. The structure `Java.DeviceParams` carries that fact as a field.

The second half is the way of the parameters through JNI: narrowing casts and ordinals
(`DeviceParamsHelper.h`, `UsbTvDriver::parseStreamingParams`).

## Main definitions

* `UsbTv.Java.Builder`, `UsbTv.Java.Builder.build` — the builder.
* `UsbTv.Java.DeviceParams` — parameters with the sizes of their norm and scan type.
* `UsbTv.nativeFrameParams` — what `parseStreamingParams` stores in `_frameParams`.

## Main results

* `UsbTv.Java.DeviceParams.packetsPerField_cases` — a field has 360 or 432 packets.
* `UsbTv.nativeFrameParams_bufferSize` — the native buffer holds exactly one field, or two when
  the scan type is interleaved.
-/

namespace UsbTv

namespace Java

/-! ## The Java enumerations -/

/-- `UsbTv.TvNorm`. -/
inductive TvNorm
  | ntsc
  | pal
  deriving DecidableEq, Repr

/-- `UsbTv.InputSelection`. -/
inductive InputSelection
  | composite
  | svideo
  deriving DecidableEq, Repr

/-- `UsbTv.ScanType`. -/
inductive ScanType
  | progressive
  | discard
  | interleaved
  deriving DecidableEq, Repr

/-- `TvNorm.ordinal()`. -/
def TvNorm.ordinal : TvNorm → ℕ
  | ntsc => 0
  | pal => 1

/-- `InputSelection.ordinal()`. -/
def InputSelection.ordinal : InputSelection → ℕ
  | composite => 0
  | svideo => 1

/-- `ScanType.ordinal()`. -/
def ScanType.ordinal : ScanType → ℕ
  | progressive => 0
  | discard => 1
  | interleaved => 2

/-! ## The builder -/

/-- `UsbTv.DriverCallbacks`: the no-op callbacks that `build` puts in place of missing ones, or
an object of the user. -/
inductive DriverCallbacks
  | noop
  | user (object : ℕ)
  deriving DecidableEq, Repr

/-- `DeviceParams.Builder`. Objects of the platform are known by a number. -/
structure Builder where
  device : Option ℕ
  fileDescriptor : ℤ
  videoEndpoint : ℤ
  audioEndpoint : ℤ
  videoUrbPacketSize : ℤ
  audioUrbPacketSize : ℤ
  videoPacketsPerField : ℤ
  captureAudio : Bool
  callbacks : Option DriverCallbacks
  framePoolSize : ℤ
  frameWidth : ℤ
  frameHeight : ℤ
  norm : TvNorm
  scanType : ScanType
  input : InputSelection
  deriving DecidableEq, Repr

/-- Width, height and packets per field that `setFrameSize` computes for a norm and a scan
type. -/
def frameSizeOf (norm : TvNorm) (scanType : ScanType) : ℤ × ℤ × ℤ :=
  let frameWidth : ℤ := 720
  let frameHeight : ℤ := match norm with
    | .ntsc => 480
    | .pal => 576
  let videoPacketsPerField := frameWidth * frameHeight / 960
  -- non-interleaved frames are half height
  (frameWidth, if scanType ≠ .interleaved then frameHeight / 2 else frameHeight,
    videoPacketsPerField)

/-- `DeviceParams`. Its constructor is private and is called by `build` only, right after
`setFrameSize`; the last two fields say what that leaves behind. -/
structure DeviceParams where
  mDevice : Option ℕ
  mFileDescriptor : ℤ
  mVideoEndpoint : ℤ
  mAudioEndpoint : ℤ
  mVideoUrbPacketSize : ℤ
  mAudioUrbPacketSize : ℤ
  mVideoPacketsPerField : ℤ
  mCaptureAudio : Bool
  mCallbacks : Option DriverCallbacks
  mFramePoolSize : ℤ
  mFrameWidth : ℤ
  mFrameHeight : ℤ
  mFrameSizeBytes : ℤ
  mNorm : TvNorm
  mScanType : ScanType
  mInput : InputSelection
  frameSize_eq : (mFrameWidth, mFrameHeight, mVideoPacketsPerField) = frameSizeOf mNorm mScanType
  frameSizeBytes_eq : mFrameSizeBytes = mFrameWidth * mFrameHeight * 2

namespace Builder

/-- `Builder()`. The frame size is that of a Java `int` without an initializer. -/
def new : Builder where
  device := none
  fileDescriptor := -1
  videoEndpoint := -1
  audioEndpoint := -1
  videoUrbPacketSize := 0
  audioUrbPacketSize := 0
  videoPacketsPerField := 0
  captureAudio := false
  callbacks := none
  framePoolSize := 4
  frameWidth := 0
  frameHeight := 0
  norm := .ntsc
  scanType := .progressive
  input := .composite

/-- `Builder(DeviceParams)`. -/
def ofParams (params : DeviceParams) : Builder where
  device := params.mDevice
  fileDescriptor := params.mFileDescriptor
  videoEndpoint := params.mVideoEndpoint
  audioEndpoint := params.mAudioEndpoint
  videoUrbPacketSize := params.mVideoUrbPacketSize
  audioUrbPacketSize := params.mAudioUrbPacketSize
  videoPacketsPerField := params.mVideoPacketsPerField
  captureAudio := params.mCaptureAudio
  callbacks := params.mCallbacks
  framePoolSize := params.mFramePoolSize
  frameWidth := params.mFrameWidth
  frameHeight := params.mFrameHeight
  norm := params.mNorm
  scanType := params.mScanType
  input := params.mInput

/-- `setUsbDevice`. -/
def setUsbDevice (b : Builder) (capDevice : ℕ) : Builder := { b with device := some capDevice }

/-- `setFramePoolSize`. Any `int` is accepted. -/
def setFramePoolSize (b : Builder) (poolSize : ℤ) : Builder := { b with framePoolSize := poolSize }

/-- `setTvNorm`. -/
def setTvNorm (b : Builder) (nrm : TvNorm) : Builder := { b with norm := nrm }

/-- `setScanType`. -/
def setScanType (b : Builder) (st : ScanType) : Builder := { b with scanType := st }

/-- `setInput`. -/
def setInput (b : Builder) (selection : InputSelection) : Builder := { b with input := selection }

/-- `setFileDescriptor`. -/
def setFileDescriptor (b : Builder) (fd : ℤ) : Builder := { b with fileDescriptor := fd }

/-- `setVideoEndpoint`. -/
def setVideoEndpoint (b : Builder) (vidEp : ℤ) : Builder := { b with videoEndpoint := vidEp }

/-- `setVideoUrbPacketSize`. -/
def setVideoUrbPacketSize (b : Builder) (packetSize : ℤ) : Builder :=
  { b with videoUrbPacketSize := packetSize }

/-- `setFrameSize`. -/
def setFrameSize (b : Builder) : Builder :=
  { b with
    frameWidth := (frameSizeOf b.norm b.scanType).1
    frameHeight := (frameSizeOf b.norm b.scanType).2.1
    videoPacketsPerField := (frameSizeOf b.norm b.scanType).2.2 }

/-- The object that `build` returns. -/
def build (b : Builder) : DeviceParams where
  mDevice := b.device
  mFileDescriptor := b.fileDescriptor
  mVideoEndpoint := b.videoEndpoint
  mAudioEndpoint := b.audioEndpoint
  mVideoUrbPacketSize := b.videoUrbPacketSize
  mAudioUrbPacketSize := b.audioUrbPacketSize
  mVideoPacketsPerField := b.setFrameSize.videoPacketsPerField
  mCaptureAudio := b.captureAudio
  mCallbacks := some (b.callbacks.getD .noop)
  mFramePoolSize := b.framePoolSize
  mFrameWidth := b.setFrameSize.frameWidth
  mFrameHeight := b.setFrameSize.frameHeight
  mFrameSizeBytes := b.setFrameSize.frameWidth * b.setFrameSize.frameHeight * 2
  mNorm := b.norm
  mScanType := b.scanType
  mInput := b.input
  frameSize_eq := rfl
  frameSizeBytes_eq := rfl

end Builder

namespace DeviceParams

variable (p : DeviceParams)

/-- Frames are 720 pixels wide. -/
lemma frameWidth_eq : p.mFrameWidth = 720 := by
  have h := congrArg Prod.fst p.frameSize_eq
  exact h

/-- A field has 360 packets in NTSC and 432 in PAL. -/
lemma packetsPerField_eq :
    p.mVideoPacketsPerField = match p.mNorm with | .ntsc => 360 | .pal => 432 := by
  have h := congrArg (fun x => x.2.2) p.frameSize_eq
  change p.mVideoPacketsPerField = _ at h
  rw [h]
  cases p.mNorm <;> rfl

/-- A field has 360 or 432 packets. -/
lemma packetsPerField_cases : p.mVideoPacketsPerField = 360 ∨ p.mVideoPacketsPerField = 432 := by
  rw [packetsPerField_eq]
  cases p.mNorm
  · exact .inl rfl
  · exact .inr rfl

/-- A frame has 240 or 480 lines in NTSC, and 288 or 576 in PAL. -/
lemma frameHeight_eq :
    p.mFrameHeight = (match p.mNorm with | .ntsc => 480 | .pal => 576) /
      (if p.mScanType = .interleaved then 1 else 2) := by
  have h := congrArg (fun x => x.2.1) p.frameSize_eq
  change p.mFrameHeight = _ at h
  rw [h]
  cases p.mNorm <;> cases p.mScanType <;> rfl

/-- The sizes of a frame are those of its norm and scan type. -/
lemma frameSize_congr {p q : DeviceParams} (hnorm : p.mNorm = q.mNorm)
    (hscan : p.mScanType = q.mScanType) :
    p.mFrameWidth = q.mFrameWidth ∧ p.mFrameHeight = q.mFrameHeight ∧
      p.mVideoPacketsPerField = q.mVideoPacketsPerField ∧
      p.mFrameSizeBytes = q.mFrameSizeBytes := by
  have hsize := p.frameSize_eq
  rw [hnorm, hscan, ← q.frameSize_eq] at hsize
  obtain ⟨hwidth, hrest⟩ := Prod.mk.inj hsize
  obtain ⟨hheight, hpackets⟩ := Prod.mk.inj hrest
  refine ⟨hwidth, hheight, hpackets, ?_⟩
  rw [p.frameSizeBytes_eq, q.frameSizeBytes_eq, hwidth, hheight]

/-- **A frame is as long as its fields**: the bytes of a frame are the payloads of one field, or
of two fields when the scan type is interleaved. -/
lemma frameSizeBytes_eq_payload :
    p.mFrameSizeBytes =
      p.mVideoPacketsPerField * 960 * (if p.mScanType = .interleaved then 2 else 1) := by
  have hh := congrArg (fun x => x.2.1) p.frameSize_eq
  change p.mFrameHeight = _ at hh
  rw [p.frameSizeBytes_eq, p.frameWidth_eq, p.packetsPerField_eq, hh]
  cases p.mNorm <;> cases p.mScanType <;> rfl

end DeviceParams

end Java

/-! ## The way through JNI -/

/-- The cast of an `int` to `uint16_t`. -/
def toUint16 (x : ℤ) : ℕ := (x % 2 ^ 16).toNat

/-- The cast of an `int` to `uint32_t`. -/
def toUint32 (x : ℤ) : ℕ := (x % 2 ^ 32).toNat

/-- `static_cast<TvNorm>(ord)`. -/
def TvNorm.cast (ord : ℕ) : TvNorm := if ord = 0 then .ntsc else .pal

/-- `static_cast<ScanType>(ord)`. -/
def ScanType.cast (ord : ℕ) : ScanType :=
  if ord = 0 then .progressive else if ord = 1 then .discard else .interleaved

/-- `static_cast<TvInput>(ord)`. -/
def TvInput.cast (ord : ℕ) : TvInput :=
  if ord = 0 then .usbtvCompositeInput else .usbtvSvideoInput

/-- What `parseStreamingParams` stores in `_frameParams`. -/
def nativeFrameParams (params : Java.DeviceParams) : FrameParams where
  frameWidth := toUint16 params.mFrameWidth
  frameHeight := toUint16 params.mFrameHeight
  norm := .cast params.mNorm.ordinal
  scanType := .cast params.mScanType.ordinal
  bufferSize := toUint32 params.mFrameSizeBytes

/-- What `parseStreamingParams` stores in `_packetsPerField`. -/
def nativePacketsPerField (params : Java.DeviceParams) : ℕ :=
  toUint16 params.mVideoPacketsPerField

/-- The packets of a field survive the cast. -/
lemma nativePacketsPerField_cases (p : Java.DeviceParams) :
    nativePacketsPerField p = 360 ∨ nativePacketsPerField p = 432 := by
  unfold nativePacketsPerField
  rcases p.packetsPerField_cases with h | h
  · left; rw [h]; rfl
  · right; rw [h]; rfl

/-- The width survives the cast. -/
lemma nativeFrameParams_frameWidth (p : Java.DeviceParams) :
    (nativeFrameParams p).frameWidth = 720 := by
  show toUint16 p.mFrameWidth = 720
  rw [p.frameWidth_eq]
  rfl

/-- **The sizes survive the casts.** -/
lemma nativeFrameParams_sizes (p : Java.DeviceParams) :
    ((nativeFrameParams p).frameWidth : ℤ) = p.mFrameWidth ∧
      ((nativeFrameParams p).frameHeight : ℤ) = p.mFrameHeight ∧
      ((nativeFrameParams p).bufferSize : ℤ) = p.mFrameSizeBytes ∧
      (nativePacketsPerField p : ℤ) = p.mVideoPacketsPerField := by
  show (toUint16 p.mFrameWidth : ℤ) = _ ∧ (toUint16 p.mFrameHeight : ℤ) = _ ∧
    (toUint32 p.mFrameSizeBytes : ℤ) = _ ∧ (toUint16 p.mVideoPacketsPerField : ℤ) = _
  rw [p.frameSizeBytes_eq, p.frameWidth_eq, p.frameHeight_eq, p.packetsPerField_eq]
  cases p.mNorm <;> cases p.mScanType <;> decide

/-- The scan type is interleaved natively if it is in Java. -/
lemma nativeFrameParams_scanType (p : Java.DeviceParams) :
    (nativeFrameParams p).scanType = .interleaved ↔ p.mScanType = .interleaved := by
  show ScanType.cast p.mScanType.ordinal = _ ↔ _
  cases p.mScanType <;> decide

/-- **The native buffer holds exactly the fields of a frame.** -/
lemma nativeFrameParams_bufferSize (p : Java.DeviceParams) :
    (nativeFrameParams p).bufferSize = nativePacketsPerField p * 960 *
      (if (nativeFrameParams p).scanType = .interleaved then 2 else 1) := by
  show toUint32 p.mFrameSizeBytes = _
  rw [p.frameSizeBytes_eq_payload]
  unfold nativePacketsPerField
  by_cases hs : p.mScanType = .interleaved
  · rw [if_pos hs, if_pos ((nativeFrameParams_scanType p).mpr hs)]
    rcases p.packetsPerField_cases with h | h <;> rw [h] <;> rfl
  · rw [if_neg hs, if_neg (mt (nativeFrameParams_scanType p).mp hs)]
    rcases p.packetsPerField_cases with h | h <;> rw [h] <;> rfl

end UsbTv
