import UsbTv.Driver.Pictures
import UsbTv.Lib.Stores

set_option relaxedAutoImplicit false
set_option autoImplicit false

/-!
# From frames to pixels

The frames are in YUYV: four bytes are two pixels of a line, which have a luma byte each and share
the two chroma bytes. `TestRenderer` of the first sample shows a frame on a surface. It copies the
frame into an allocation whose cells are four bytes each, and the kernel `convertFromYUYV` makes two
pixels of every cell. Cells are converted in any order, or at once.

What is known of frames and of the conversion is put together here: what the device sends of a
picture comes to be the pixels of the surface. The conversion of one pixel to RGBA is RenderScript's
`rsYuvToRGBA_uchar4`, a parameter.

## Main definitions

* `UsbTv.convertFromYUYV` — the kernel.
* `UsbTv.TestRenderer`, `UsbTv.TestRenderer.renderFrame` — the allocations, and the stores to the
  surface that a frame brings about.
* `UsbTv.yuyvPixel` — the pixels of a frame.
* `UsbTv.shownLines`, `UsbTv.Handover.Displays` — what is to be seen of a picture.

## Main results

* `UsbTv.stores_convertFromYUYV` — the pixels of a frame in YUYV.
* `UsbTv.TestRenderer.renderFrame_stores` — the surface shows the pixels of the frame.
* `UsbTv.UrbMemory.receiveUrbs_pixels` — from the bytes of the URBs to the pixels.
-/

namespace UsbTv

/-- `uchar4`. -/
structure UChar4 where
  x : UInt8
  y : UInt8
  z : UInt8
  w : UInt8
  deriving DecidableEq, Repr

/-- A store to the surface: where, and what. -/
abbrev PixelStore := (ℕ × ℕ) × UChar4

/-! ## The kernel -/

section Kernel

variable (rsYuvToRGBA : UInt8 → UInt8 → UInt8 → UChar4)

/-- `convertFromYUYV`: the calls of `rsSetElementAt_uchar4` for the cell `input` at index `x`. The
indices are of type `uint32_t`. -/
def convertFromYUYV (width : ℕ) (input : UChar4) (x : ℕ) : List PixelStore :=
  let outIndex := 2 * x % 2 ^ 32
  let outX := outIndex % width
  let outY := outIndex / width
  let first := rsYuvToRGBA input.x input.y input.w
  let second := rsYuvToRGBA input.z input.y input.w
  [((outX, outY), first), (((outX + 1) % 2 ^ 32, outY), second)]

/-- Pixel `i` of bytes in YUYV. -/
def yuyvPixel (bytes : ℕ → UInt8) (i : ℕ) : UChar4 :=
  rsYuvToRGBA (bytes (2 * i)) (bytes (4 * (i / 2) + 1)) (bytes (4 * (i / 2) + 3))

end Kernel

/-! ## The renderer -/

/-- `TestRenderer`, as far as a frame is concerned. -/
structure TestRenderer where
  /-- The length of `mRenderBuf`. -/
  renderBufLength : ℕ
  /-- The number of cells of `mInputAllocation`. -/
  inputSize : ℕ
  /-- The sizes of `mOutputAllocation`. -/
  outputX : ℕ
  outputY : ℕ
  /-- `width` of the kernel. -/
  width : ℕ

namespace TestRenderer

/-- `initAllocations`. -/
def initAllocations (params : Java.DeviceParams) : TestRenderer where
  renderBufLength := params.mFrameSizeBytes.toNat
  inputSize := (params.mFrameSizeBytes.tdiv 4).toNat
  outputX := params.mFrameWidth.toNat
  outputY := params.mFrameHeight.toNat
  width := params.mFrameWidth.toNat

/-- Cell `k` of `mInputAllocation` after `copyFromUnchecked`. -/
def inputCell (renderBuf : ℕ → UInt8) (k : ℕ) : UChar4 :=
  ⟨renderBuf (4 * k), renderBuf (4 * k + 1), renderBuf (4 * k + 2), renderBuf (4 * k + 3)⟩

variable (r : TestRenderer) (rsYuvToRGBA : UInt8 → UInt8 → UInt8 → UChar4)

/-- What is in `mRenderBuf` after `buf.get(mRenderBuf)`. Bytes of the frame that were never written
are zero here. -/
def renderBuf (frameBuf : Mem UInt8) (i : ℕ) : UInt8 := (frameBuf i).getD 0

/-- What the render thread does with a frame: the stores of all cells, or nothing if the sizes do
not match and the thread ends. -/
def renderFrame (frameBuf : Mem UInt8) : Option (List PixelStore) :=
  if r.renderBufLength ≠ 4 * r.inputSize then none
  else
    some ((List.range r.inputSize).flatMap fun k =>
      convertFromYUYV rsYuvToRGBA r.width (inputCell (renderBuf frameBuf) k) k)

end TestRenderer

/-! ## The stores of a frame -/

section Stores

variable (rsYuvToRGBA : UInt8 → UInt8 → UInt8 → UChar4) {width n : ℕ} (cell : ℕ → UChar4)

/-- A cell is two pixels side by side. -/
lemma convertFromYUYV_eq {k : ℕ} (input : UChar4) (hk : 2 * k + 1 < 2 ^ 32) :
    convertFromYUYV rsYuvToRGBA width input k =
      [((2 * k % width, 2 * k / width), rsYuvToRGBA input.x input.y input.w),
        ((2 * k % width + 1, 2 * k / width), rsYuvToRGBA input.z input.y input.w)] := by
  have hmod : 2 * k % width ≤ 2 * k := Nat.mod_le _ _
  have hindex : 2 * k % 2 ^ 32 = 2 * k := Nat.mod_eq_of_lt (by omega)
  have hnext : (2 * k % width + 1) % 2 ^ 32 = 2 * k % width + 1 := Nat.mod_eq_of_lt (by omega)
  unfold convertFromYUYV
  simp only [hindex, hnext]

/-- Line by line, the pixels are stored to one after the other. -/
lemma map_convertFromYUYV (hn : 2 * n ≤ 2 ^ 32) :
    (((List.range n).flatMap fun k => convertFromYUYV rsYuvToRGBA width (cell k) k).map
      Prod.fst).map (fun a => a.2 * width + a.1) = List.range (2 * n) := by
  induction n with
  | zero => rfl
  | succ n ih =>
    have hdiv : 2 * n / width * width + 2 * n % width = 2 * n := Nat.div_add_mod' _ _
    rw [List.range_succ, List.flatMap_append, List.map_append, List.map_append, ih (by omega),
      List.flatMap_singleton, convertFromYUYV_eq _ _ (by omega), Nat.mul_succ, List.range_succ,
      List.range_succ, List.append_assoc]
    simp only [List.map_cons, List.map_nil, ← Nat.add_assoc, hdiv]
    rfl

variable (width) in
/-- No pixel is stored to twice. -/
lemma nodup_convertFromYUYV (hn : 2 * n ≤ 2 ^ 32) :
    (((List.range n).flatMap fun k =>
      convertFromYUYV rsYuvToRGBA width (cell k) k).map Prod.fst).Nodup := by
  refine List.Nodup.of_map (fun a => a.2 * width + a.1) ?_
  rw [map_convertFromYUYV rsYuvToRGBA cell hn]
  exact List.nodup_range

/-- The stores stay within the lines. -/
lemma fst_lt_of_mem (heven : 2 ∣ width) (h0 : 0 < width) (hn : 2 * n ≤ 2 ^ 32) {a : ℕ × ℕ}
    (ha : a ∈ ((List.range n).flatMap fun k =>
      convertFromYUYV rsYuvToRGBA width (cell k) k).map Prod.fst) :
    a.1 < width ∧ a.2 * width + a.1 < 2 * n := by
  constructor
  · obtain ⟨w, hw, rfl⟩ := List.mem_map.mp ha
    obtain ⟨k, hk, hw⟩ := List.mem_flatMap.mp hw
    rw [List.mem_range] at hk
    rw [convertFromYUYV_eq _ _ (by omega)] at hw
    have hlt : 2 * k % width < width := Nat.mod_lt _ h0
    have hdvd : 2 ∣ 2 * k % width := (Nat.dvd_mod_iff heven).mpr (Nat.dvd_mul_right 2 k)
    rcases List.mem_cons.mp hw with rfl | hw
    · exact hlt
    · obtain rfl := List.mem_singleton.mp hw
      dsimp only
      omega
  · have hmem := List.mem_map_of_mem (f := fun a : ℕ × ℕ => a.2 * width + a.1) ha
    rw [map_convertFromYUYV rsYuvToRGBA cell hn] at hmem
    exact List.mem_range.mp hmem

/-- Each pixel of a frame is stored to. -/
lemma mem_convertFromYUYV (heven : 2 ∣ width) (hn : 2 * n ≤ 2 ^ 32) (bytes : ℕ → UInt8)
    {px py : ℕ} (hpx : px < width) (hpixel : py * width + px < 2 * n) :
    ((px, py), yuyvPixel rsYuvToRGBA bytes (py * width + px)) ∈
      (List.range n).flatMap fun k =>
        convertFromYUYV rsYuvToRGBA width (TestRenderer.inputCell bytes k) k := by
  obtain ⟨half, rfl⟩ := heven
  have hline : py * (2 * half) = 2 * (py * half) := Nat.mul_left_comm _ _ _
  have hcell : (py * (2 * half) + px) / 2 = py * half + px / 2 := by omega
  have hdouble : 2 * (py * half + px / 2) = 2 * (px / 2) + py * (2 * half) := by omega
  have hmod : (2 * (px / 2) + py * (2 * half)) % (2 * half) = 2 * (px / 2) := by
    rw [Nat.add_mul_mod_self_right, Nat.mod_eq_of_lt (by omega)]
  have hdiv : (2 * (px / 2) + py * (2 * half)) / (2 * half) = py := by
    rw [Nat.add_mul_div_right _ _ (by omega), Nat.div_eq_of_lt (by omega), Nat.zero_add]
  refine List.mem_flatMap.mpr ⟨py * half + px / 2, List.mem_range.mpr (by omega), ?_⟩
  rw [convertFromYUYV_eq _ _ (by omega), hdouble, hmod, hdiv, yuyvPixel, hcell]
  -- the first pixel of a cell is in an even column, the second one in an odd column
  rcases Nat.mod_two_eq_zero_or_one px with hpar | hpar
  · have hx : 2 * (px / 2) = px := by omega
    have hluma : 2 * (py * (2 * half) + px) = 4 * (py * half + px / 2) := by omega
    rw [hx, hluma]
    exact List.mem_cons_self
  · have hx : 2 * (px / 2) + 1 = px := by omega
    have hluma : 2 * (py * (2 * half) + px) = 4 * (py * half + px / 2) + 2 := by omega
    rw [hx, hluma]
    exact List.mem_cons_of_mem _ List.mem_cons_self

/-- **The pixels of a frame in YUYV**: for every even width, and in whatever order the stores are
done, each pixel that the cells reach is that of the bytes, and nothing else changes. -/
theorem stores_convertFromYUYV (heven : 2 ∣ width) (h0 : 0 < width) (hn : 2 * n ≤ 2 ^ 32)
    (bytes : ℕ → UInt8) {ws : List PixelStore}
    (hperm : ((List.range n).flatMap fun k =>
      convertFromYUYV rsYuvToRGBA width (TestRenderer.inputCell bytes k) k).Perm ws)
    (surface : ℕ × ℕ → UChar4) :
    (∀ px < width, ∀ py, py * width + px < 2 * n →
      stores surface ws (px, py) = yuyvPixel rsYuvToRGBA bytes (py * width + px)) ∧
    ∀ a : ℕ × ℕ, ¬(a.1 < width ∧ a.2 * width + a.1 < 2 * n) →
      stores surface ws a = surface a := by
  rw [← stores_perm hperm (nodup_convertFromYUYV rsYuvToRGBA width _ hn)]
  constructor
  · intro px hpx py hpixel
    exact stores_apply_of_mem (nodup_convertFromYUYV rsYuvToRGBA width _ hn)
      (mem_convertFromYUYV rsYuvToRGBA heven hn bytes hpx hpixel) surface
  · intro a ha
    exact stores_apply_of_notMem
      (fun hmem => ha (fst_lt_of_mem rsYuvToRGBA _ heven h0 hn hmem)) surface

/-- Two lines of four pixels, the last cell first. -/
theorem stores_convertFromYUYV_reverse :
    let yuv : UInt8 → UInt8 → UInt8 → UChar4 := fun y u v => ⟨y, u, v, 255⟩
    let bytes : ℕ → UInt8 := fun i => UInt8.ofNat (10 * i)
    let ws := ((List.range 4).flatMap fun k =>
      convertFromYUYV yuv 4 (TestRenderer.inputCell bytes k) k).reverse
    stores (fun _ => ⟨0, 0, 0, 0⟩) ws (3, 1) = ⟨140, 130, 150, 255⟩ ∧
      ((∀ px < 4, ∀ py, py * 4 + px < 2 * 4 →
        stores (fun _ => ⟨0, 0, 0, 0⟩) ws (px, py) = yuyvPixel yuv bytes (py * 4 + px)) ∧
      ∀ a : ℕ × ℕ, ¬(a.1 < 4 ∧ a.2 * 4 + a.1 < 2 * 4) →
        stores (fun _ => ⟨0, 0, 0, 0⟩) ws a = ⟨0, 0, 0, 0⟩) := by
  intro yuv bytes ws
  exact ⟨by decide, stores_convertFromYUYV yuv (by decide) (by decide) (by decide) bytes
    (List.reverse_perm _).symm fun _ => ⟨0, 0, 0, 0⟩⟩

end Stores

namespace TestRenderer

variable (params : Java.DeviceParams) (rsYuvToRGBA : UInt8 → UInt8 → UInt8 → UChar4)
  (frameBuf : Mem UInt8)

/-- The sizes of a renderer. -/
lemma initAllocations_sizes :
    (initAllocations params).width = 720 ∧ (initAllocations params).outputX = 720 ∧
      (initAllocations params).outputY ≤ 576 ∧
      2 * (initAllocations params).inputSize = (initAllocations params).outputY * 720 ∧
      (initAllocations params).renderBufLength = 4 * (initAllocations params).inputSize := by
  unfold initAllocations
  dsimp only
  rw [params.frameSizeBytes_eq, params.frameWidth_eq, params.frameHeight_eq]
  cases params.mNorm <;> cases params.mScanType <;> decide

/-- **The surface shows the pixels of the frame**: for all parameters the sizes match, and in
whatever order the stores are done, each pixel of the surface is stored to once, nothing else is,
and the pixel in column `px` of line `py` is that of the frame. -/
lemma renderFrame_stores :
    ∃ ws, (initAllocations params).renderFrame rsYuvToRGBA frameBuf = some ws ∧
      ∀ ws', ws.Perm ws' →
        (ws'.map Prod.fst).Nodup ∧
        (∀ a ∈ ws'.map Prod.fst,
          a.1 < (initAllocations params).outputX ∧ a.2 < (initAllocations params).outputY) ∧
        ∀ surface, ∀ px < (initAllocations params).outputX,
          ∀ py < (initAllocations params).outputY, stores surface ws' (px, py) =
            yuyvPixel rsYuvToRGBA (renderBuf frameBuf)
              (py * (initAllocations params).outputX + px) := by
  obtain ⟨hwidth, houtputX, houtputY, hinput, hlength⟩ := initAllocations_sizes params
  have hn : 2 * (initAllocations params).inputSize ≤ 2 ^ 32 := by omega
  have hnodup := nodup_convertFromYUYV rsYuvToRGBA 720 (inputCell (renderBuf frameBuf)) hn
  refine ⟨_, if_neg (not_not.mpr hlength), fun ws' hperm => ?_⟩
  rw [hwidth] at hperm
  have hnodup' := (hperm.map Prod.fst).nodup_iff.mp hnodup
  rw [houtputX]
  refine ⟨hnodup', fun a ha => ?_, fun surface px hpx py hpy => ?_⟩
  · obtain ⟨hx, hlinear⟩ := fst_lt_of_mem rsYuvToRGBA (inputCell (renderBuf frameBuf))
      (by decide) (by decide) hn ((hperm.map Prod.fst).mem_iff.mpr ha)
    exact ⟨hx, by omega⟩
  · refine stores_apply_of_mem hnodup' (hperm.mem_iff.mp ?_) surface
    exact mem_convertFromYUYV rsYuvToRGBA (by decide) hn _ hpx (by omega)

end TestRenderer

/-! ## From pictures to the surface -/

/-- The lines of a picture that a frame consists of: the odd field has the first of every two
lines, and the even field the second. -/
def shownLines : ScanType → List (ℕ → ℕ)
  | .progressive => [fun py => 2 * py, fun py => 2 * py + 1]
  | .discard => [fun py => 2 * py]
  | .interleaved => [fun py => py]

/-- A frame consists of whole lines of its picture. -/
lemma Picture.frames_eq (picture : Picture) (scanType : ScanType) :
    picture.frames scanType =
      (shownLines scanType).map fun line i => picture.byte (line (i / 1440) * 1440 + i % 1440) := by
  cases scanType with
  | progressive => rfl
  | discard => rfl
  | interleaved =>
    have hbyte : picture.byte = fun i => picture.byte (i / 1440 * 1440 + i % 1440) := by
      funext i
      rw [Nat.div_add_mod']
    exact congrArg (fun bytes => [bytes]) hbyte

/-- The renderer shows a frame that was handed over: in whatever order the stores are done, the
pixel in column `px` of line `py` is that of the picture in line `line py`. -/
def Handover.Displays (rsYuvToRGBA : UInt8 → UInt8 → UInt8 → UChar4) (params : Java.DeviceParams)
    (picture : Picture) (line : ℕ → ℕ) (h : Handover) : Prop :=
  ∃ ws, (TestRenderer.initAllocations params).renderFrame rsYuvToRGBA h.frame.buffer = some ws ∧
    ∀ ws', ws.Perm ws' → ∀ surface,
      ∀ px < (TestRenderer.initAllocations params).outputX,
      ∀ py < (TestRenderer.initAllocations params).outputY,
        stores surface ws' (px, py) =
          yuyvPixel rsYuvToRGBA picture.byte
            (line py * (TestRenderer.initAllocations params).outputX + px)

/-- A frame that shows lines of a picture is displayed as such. -/
lemma Handover.Shows.displays (rsYuvToRGBA : UInt8 → UInt8 → UInt8 → UChar4)
    {params : Java.DeviceParams} {picture : Picture} {line : ℕ → ℕ} {h : Handover}
    (hshows : h.Shows (nativeFrameParams params).bufferSize
      fun i => picture.byte (line (i / 1440) * 1440 + i % 1440)) :
    h.Displays rsYuvToRGBA params picture line := by
  obtain ⟨hwidth, houtputX, -, hinput, hlength⟩ := TestRenderer.initAllocations_sizes params
  obtain ⟨ws, hrender, hstores⟩ :=
    TestRenderer.renderFrame_stores params rsYuvToRGBA h.frame.buffer
  refine ⟨ws, hrender, fun ws' hperm surface px hpx py hpy => ?_⟩
  rw [(hstores ws' hperm).2.2 surface px hpx py hpy]
  rw [houtputX] at hpx ⊢
  have hsize : (nativeFrameParams params).bufferSize =
      1440 * (TestRenderer.initAllocations params).outputY := by
    have hbytes := (nativeFrameParams_sizes params).2.2.1
    have hlength' : (TestRenderer.initAllocations params).renderBufLength =
      params.mFrameSizeBytes.toNat := rfl
    omega
  -- a byte of line `py` of the frame is one of line `line py` of the picture
  have hbyte : ∀ x < 1440, TestRenderer.renderBuf h.frame.buffer (py * 1440 + x) =
      picture.byte (line py * 1440 + x) := by
    intro x hx
    have hdiv : (py * 1440 + x) / 1440 = py := by omega
    have hmod : (py * 1440 + x) % 1440 = x := by omega
    rw [TestRenderer.renderBuf, hshows.buffer _ (by omega), hdiv, hmod]
    rfl
  have hluma (y : ℕ) : 2 * (y * 720 + px) = y * 1440 + 2 * px := by omega
  have hchroma (y c : ℕ) : 4 * ((y * 720 + px) / 2) + c = y * 1440 + (4 * (px / 2) + c) := by omega
  unfold yuyvPixel
  rw [hluma, hluma, hchroma, hchroma, hchroma, hchroma, hbyte _ (by omega), hbyte _ (by omega),
    hbyte _ (by omega)]

namespace UrbMemory

/-- **From the bytes of the URBs to the pixels**: if the packets of a list of pictures arrive in
URBs of any shape, with any packets between them that are not accepted, then the frames that are
handed over, converted and stored in any order, are the pictures on the surface: one after the
other, pixel by pixel, in the lines that the scan type is to show. -/
theorem receiveUrbs_pixels (rsYuvToRGBA : UInt8 → UInt8 → UInt8 → UChar4) (queue : ℕ → Answer)
    (answer : ℕ → ℤ) {a : Assembler} {params : Java.DeviceParams}
    (hparams : a.frameParams = nativeFrameParams params)
    (hp : a.packetsPerField = nativePacketsPerField params) (hsecond : a.secondFrame = false)
    (pictures : List Picture) {urbs : List (UrbMemory × ℕ)} {packets : List Packet}
    (hfitting : Fitting urbs) (hcarry : Carry urbs packets)
    (hpackets : packets.filter (·.Accepted (nativePacketsPerField params)) =
      pictures.flatMap fun picture => picture.packets (nativePacketsPerField_le params)) :
    ∃ hs, (receiveUrbs queue answer a urbs).handed = a.handed ++ hs ∧
      List.Forall₂ (fun (view : Picture × (ℕ → ℕ)) h =>
          h.Displays rsYuvToRGBA params view.1 view.2)
        (pictures.flatMap fun picture =>
          (shownLines (nativeFrameParams params).scanType).map (Prod.mk picture))
        hs := by
  rw [receiveUrbs_eq_feed queue answer a hfitting hcarry, ← a.feed_filter queue packets, hp,
    hpackets]
  obtain ⟨hs, hhanded, hshows⟩ :=
    a.feed_pictures queue hparams hp hsecond (nativePacketsPerField_le params) pictures
  refine ⟨hs, hhanded, ?_⟩
  have hviews : (pictures.flatMap fun picture =>
        picture.frames (nativeFrameParams params).scanType) =
      (pictures.flatMap fun picture =>
        (shownLines (nativeFrameParams params).scanType).map (Prod.mk picture)).map
        fun view i => view.1.byte (view.2 (i / 1440) * 1440 + i % 1440) := by
    rw [List.map_flatMap]
    refine List.flatMap_congr fun picture _ => ?_
    rw [picture.frames_eq, List.map_map]
    rfl
  rw [hviews, List.forall₂_map_left_iff] at hshows
  exact hshows.imp fun _ _ hview => hview.displays rsYuvToRGBA

/-- Two pictures after the first start of a stream of the default parameters, in a URB for each
packet. -/
theorem receiveUrbs_pixels_default :
    let params := Java.Builder.new.build
    let yuv : UInt8 → UInt8 → UInt8 → UChar4 := fun y u v => ⟨y, u, v, 255⟩
    let a := Assembler.fresh (nativeFrameParams params) (nativePacketsPerField params)
      fun _ => ⟨691200, fun _ => none, 0, 1, false⟩
    let pictures : List Picture := [⟨fun i => UInt8.ofNat i, fun _ => 1⟩, ⟨fun _ => 16, fun _ => 2⟩]
    let packets := pictures.flatMap fun picture =>
      picture.packets (nativePacketsPerField_le params)
    ∃ hs, (receiveUrbs (fun _ => .accepted 1) (fun _ => 0) a (packets.map memoryOfPacket)).handed =
        [] ++ hs ∧
      List.Forall₂ (fun (view : Picture × (ℕ → ℕ)) h => h.Displays yuv params view.1 view.2)
        (pictures.flatMap fun picture =>
          (shownLines (nativeFrameParams params).scanType).map (Prod.mk picture))
        hs := by
  intro params yuv a pictures packets
  refine receiveUrbs_pixels yuv (fun _ => .accepted 1) (fun _ => 0) rfl rfl rfl pictures
    (fitting_map_memoryOfPacket packets) (carry_map_memoryOfPacket packets)
    (List.filter_eq_self.mpr fun p hp => ?_)
  obtain ⟨picture, -, hp⟩ := List.mem_flatMap.mp hp
  exact decide_eq_true (picture.accepted_of_mem_packets _ hp)

end UrbMemory

end UsbTv
