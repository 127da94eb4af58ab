import Mathlib.Data.List.Pairwise
import UsbTv.Device.Urb
import UsbTv.Driver.Assembly

set_option relaxedAutoImplicit false
set_option autoImplicit false

/-!
# Unpacking a URB

`UsbTvDriver::onUrbReceived`, the callback of the reap thread. The pointer into the buffer is
advanced at the start of each round by the `length` of the descriptor before, failed or not. An
address is its distance from `urb->buffer`; the product `j * USBTV_PACKET_SIZE` is an `int`.

What `processPacket` does with a packet does not matter here, so it is a parameter: the results
hold for every state it works on.

## Main definitions

* `UsbTv.UsbdevfsUrb.unpack` — the two loops.
* `UsbTv.UsbdevfsUrb.chunks` — where the received packets lie in the buffer.
* `UsbTv.UrbMemory.onUrbReceived` — the callback.
* `UsbTv.UrbMemory.assemble` — the callback with `processPacket` as the driver has it.

## Main results

* `UsbTv.UrbMemory.onUrbReceived_spec` — the callback visits the received chunks, and resubmits
  the URB.
* `UsbTv.UrbMemory.assemble_eq_feed` — the packets of a URB go through the assembly in order.
-/

namespace UsbTv

/-- The packet at an address: its first word after `__be32_to_cpu`, and the bytes behind it. -/
def Packet.read (buffer : ℤ → UInt8) (packet : ℤ) : Packet where
  header := UInt32.ofNat ((buffer packet).toNat * 2 ^ 24 + (buffer (packet + 1)).toNat * 2 ^ 16 +
    (buffer (packet + 2)).toNat * 2 ^ 8 + (buffer (packet + 3)).toNat)
  payload i := buffer (packet + 4 + i)

section Unpack

variable {σ : Type*} (processPacket : σ → ℤ → σ)

/-- The inner loop of `onUrbReceived`: `count` packets from `buffer` on. -/
def UsbdevfsIsoPacketDesc.unpack (buffer : ℤ) (count : ℕ) (s : σ) : σ :=
  (List.range count).foldl (fun s j => processPacket s (buffer + cInt (j * usbtvPacketSize))) s

namespace UsbdevfsUrb

/-- The outer loop of `onUrbReceived`, with `buffer` and `packetOffset` as the last round left
them. -/
def unpackDescs : List UsbdevfsIsoPacketDesc → ℤ → ℕ → σ → σ
  | [], _, _, s => s
  | desc :: descs, buffer, packetOffset, s =>
    let packetLength := desc.actualLength
    let buffer := buffer + packetOffset
    let s := if desc.status = 0 then
        UsbdevfsIsoPacketDesc.unpack processPacket buffer (packetLength / usbtvPacketSize) s
      else s
    unpackDescs descs buffer desc.length s

/-- The loops of `onUrbReceived`. -/
def unpack (u : UsbdevfsUrb) (s : σ) : σ := unpackDescs processPacket u.isoFrameDesc 0 0 s

/-! ## The received chunks -/

/-- Where the packets of a descriptor lie whose region starts at `start`. -/
def descChunks (start : ℕ) (desc : UsbdevfsIsoPacketDesc) : List ℕ :=
  if desc.status = 0 then
    (List.range (desc.actualLength / usbtvPacketSize)).map fun j => start + usbtvPacketSize * j
  else []

/-- Where the packets of descriptors lie whose regions start at `start`. -/
def chunksFrom : ℕ → List UsbdevfsIsoPacketDesc → List ℕ
  | _, [] => []
  | start, desc :: descs => descChunks start desc ++ chunksFrom (start + desc.length) descs

/-- Where the packets of a URB lie. -/
def chunks (u : UsbdevfsUrb) : List ℕ := chunksFrom 0 u.isoFrameDesc

lemma mem_descChunks {start off : ℕ} {desc : UsbdevfsIsoPacketDesc} :
    off ∈ descChunks start desc ↔ desc.status = 0 ∧
      ∃ j < desc.actualLength / usbtvPacketSize, off = start + usbtvPacketSize * j := by
  unfold descChunks
  split_ifs with hstatus
  · simp only [List.mem_map, List.mem_range, hstatus, true_and, eq_comm]
  · simp [hstatus]

lemma mem_chunksFrom {start off : ℕ} {descs : List UsbdevfsIsoPacketDesc} :
    off ∈ chunksFrom start descs ↔ ∃ i desc, descs[i]? = some desc ∧
      off ∈ descChunks (start + ((descs.take i).map (·.length)).sum) desc := by
  induction descs generalizing start with
  | nil => simp [chunksFrom]
  | cons desc descs ih =>
    rw [chunksFrom, List.mem_append, ih]
    constructor
    · rintro (hoff | ⟨i, desc', hdesc, hoff⟩)
      · exact ⟨0, desc, rfl, by simpa using hoff⟩
      · refine ⟨i + 1, desc', hdesc, ?_⟩
        rw [List.take_succ_cons, List.map_cons, List.sum_cons, ← Nat.add_assoc]
        exact hoff
    · rintro ⟨i, desc', hdesc, hoff⟩
      cases i with
      | zero =>
        obtain rfl : desc = desc' := by simpa using hdesc
        exact .inl (by simpa using hoff)
      | succ i =>
        rw [List.take_succ_cons, List.map_cons, List.sum_cons, ← Nat.add_assoc] at hoff
        exact .inr ⟨i, desc', hdesc, hoff⟩

/-- **The chunks of a URB** are the packets received for its descriptors with status 0. -/
lemma mem_chunks {u : UsbdevfsUrb} {off : ℕ} :
    off ∈ u.chunks ↔ ∃ i desc, u.isoFrameDesc[i]? = some desc ∧ desc.status = 0 ∧
      ∃ j < desc.actualLength / usbtvPacketSize,
        off = u.regionStart i + usbtvPacketSize * j := by
  simp only [chunks, mem_chunksFrom, mem_descChunks, Nat.zero_add, regionStart]

/-- A packet of a descriptor lies inside the region of the descriptor. -/
lemma descChunks_inside {start off : ℕ} {desc : UsbdevfsIsoPacketDesc}
    (hactual : desc.actualLength ≤ desc.length) (hoff : off ∈ descChunks start desc) :
    start ≤ off ∧ off + usbtvPacketSize ≤ start + desc.length := by
  obtain ⟨-, j, hj, rfl⟩ := mem_descChunks.mp hoff
  have hle : usbtvPacketSize * (j + 1) ≤ desc.actualLength :=
    (Nat.mul_le_mul_left _ hj).trans (Nat.mul_div_le _ _)
  rw [Nat.mul_add, Nat.mul_one] at hle
  omega

lemma descChunks_pairwise (start : ℕ) (desc : UsbdevfsIsoPacketDesc) :
    (descChunks start desc).Pairwise (· < ·) := by
  unfold descChunks
  split_ifs
  · rw [List.pairwise_map]
    refine List.Pairwise.imp (fun h => ?_) List.pairwise_lt_range
    have := Nat.mul_lt_mul_of_pos_left h (show 0 < usbtvPacketSize by decide)
    omega
  · exact List.Pairwise.nil

/-- The chunks come in increasing order, each once. -/
lemma chunksFrom_pairwise {start : ℕ} {descs : List UsbdevfsIsoPacketDesc}
    (hactual : ∀ desc ∈ descs, desc.actualLength ≤ desc.length) :
    (chunksFrom start descs).Pairwise (· < ·) := by
  induction descs generalizing start with
  | nil => exact List.Pairwise.nil
  | cons desc descs ih =>
    rw [chunksFrom, List.pairwise_append]
    refine ⟨descChunks_pairwise _ _, ih fun d hd => hactual d (List.mem_cons_of_mem _ hd),
      fun off hoff off' hoff' => ?_⟩
    -- a chunk of this descriptor ends where the later regions start
    have hin := descChunks_inside (hactual desc List.mem_cons_self) hoff
    obtain ⟨i, desc', -, hmem⟩ := mem_chunksFrom.mp hoff'
    obtain ⟨-, j, -, rfl⟩ := mem_descChunks.mp hmem
    have hpos : 0 < usbtvPacketSize := by decide
    omega

/-! ## The loops -/

/-- The inner loop visits the packets of its descriptor: the `int` product does not wrap. -/
lemma unpack_desc (start : ℕ) {desc : UsbdevfsIsoPacketDesc} (hactual : desc.actualLength < 2 ^ 31)
    (s : σ) :
    (if desc.status = 0 then
        UsbdevfsIsoPacketDesc.unpack processPacket start (desc.actualLength / usbtvPacketSize) s
      else s) =
      ((descChunks start desc).map (↑)).foldl processPacket s := by
  unfold UsbdevfsIsoPacketDesc.unpack descChunks
  split_ifs with hstatus
  · rw [List.map_map, List.foldl_map]
    apply List.foldl_ext _ _ s
    intro s j hj
    have hlt : usbtvPacketSize * j < 2 ^ 31 := by
      refine lt_of_le_of_lt ?_ hactual
      exact (Nat.mul_le_mul_left _ (List.mem_range.mp hj).le).trans (Nat.mul_div_le _ _)
    rw [Nat.mul_comm j, cInt_of_lt hlt, Function.comp_apply, Nat.cast_add]
  · rfl

/-- **The outer loop** visits the chunks of its descriptors. The induction carries the loop
invariant: `buffer + packetOffset` is where the next region starts. -/
lemma unpackDescs_eq {descs : List UsbdevfsIsoPacketDesc}
    (hactual : ∀ desc ∈ descs, desc.actualLength < 2 ^ 31) {buffer : ℤ} {packetOffset start : ℕ}
    (hinv : buffer + packetOffset = start) (s : σ) :
    unpackDescs processPacket descs buffer packetOffset s =
      ((chunksFrom start descs).map (↑)).foldl processPacket s := by
  induction descs generalizing buffer packetOffset start s with
  | nil => rfl
  | cons desc descs ih =>
    rw [unpackDescs, chunksFrom, List.map_append, List.foldl_append, hinv,
      unpack_desc processPacket start (hactual desc List.mem_cons_self)]
    refine ih (fun d hd => hactual d (List.mem_cons_of_mem _ hd)) ?_ _
    push_cast
    rfl

/-- The loops of `onUrbReceived` visit the chunks of the URB. -/
lemma unpack_eq {u : UsbdevfsUrb}
    (hactual : ∀ desc ∈ u.isoFrameDesc, desc.actualLength ≤ desc.length) (s : σ) :
    u.unpack processPacket s = (u.chunks.map (↑)).foldl processPacket s := by
  refine unpackDescs_eq processPacket (fun desc hdesc => ?_) (by simp) s
  obtain ⟨i, hi⟩ := List.getElem?_of_mem hdesc
  have hregion := regionStart_add_le hi
  have := hactual desc hdesc
  have := u.bufferLength_lt
  omega

/-- What a reset leaves of a URB: the lengths of its descriptors, and no result of a transfer. -/
structure IsReset (u u' : UsbdevfsUrb) : Prop where
  status : u'.status = 0
  actualLength : u'.actualLength = 0
  errorCount : u'.errorCount = 0
  descs : ∀ desc ∈ u'.isoFrameDesc, desc.actualLength = 0 ∧ desc.status = 0
  lengths : u'.isoFrameDesc.map (·.length) = u.isoFrameDesc.map (·.length)
  bufferLength : u'.bufferLength = u.bufferLength

lemma isReset_reset (u : UsbdevfsUrb) : u.IsReset u.reset.resetDescs where
  status := rfl
  actualLength := rfl
  errorCount := rfl
  descs := by simp [resetDescs]
  lengths := by simp [resetDescs, reset, Function.comp_def]
  bufferLength := rfl

end UsbdevfsUrb

namespace UrbMemory

/-- `onUrbReceived`: the packets of the URB are processed, and the URB is resubmitted. -/
def onUrbReceived (answer : ℕ → ℤ) (s : σ) (m : UrbMemory) (urb : ℕ) : σ × UrbMemory :=
  let s := (m.urbs urb).unpack processPacket s
  (s, (m.resubmitUrb answer (some urb)).2)

/-- **Unpacking a URB**: `processPacket` is called on the received chunks, in increasing order and
each once; every chunk lies inside the region of its own descriptor, and so in the buffer. Then the
URB is reset, with its lengths unchanged, and as it is then it is resubmitted, once. -/
theorem onUrbReceived_spec (answer : ℕ → ℤ) (s : σ) {m : UrbMemory} {urb : ℕ}
    (hiso : (m.urbs urb).type = .iso)
    (hactual : ∀ desc ∈ (m.urbs urb).isoFrameDesc, desc.actualLength ≤ desc.length) :
    (onUrbReceived processPacket answer s m urb).1 =
        ((m.urbs urb).chunks.map (↑)).foldl processPacket s ∧
      (m.urbs urb).chunks.Pairwise (· < ·) ∧
      (∀ off, off ∈ (m.urbs urb).chunks ↔
        ∃ i desc, (m.urbs urb).isoFrameDesc[i]? = some desc ∧ desc.status = 0 ∧
          ∃ j < desc.actualLength / usbtvPacketSize,
            off = (((m.urbs urb).isoFrameDesc.take i).map (·.length)).sum + usbtvPacketSize * j) ∧
      (∀ i desc, (m.urbs urb).isoFrameDesc[i]? = some desc →
        ∀ j < desc.actualLength / usbtvPacketSize,
          usbtvPacketSize * j + usbtvPacketSize ≤ desc.length ∧
            (m.urbs urb).regionStart i + desc.length ≤ (m.urbs urb).bufferLength) ∧
      (onUrbReceived processPacket answer s m urb).2 =
        (((m.modify urb .reset).modify urb .resetDescs).submitUrb answer urb).2 ∧
      (m.urbs urb).IsReset (((m.modify urb .reset).modify urb .resetDescs).urbs urb) ∧
      ((m.modify urb .reset).modify urb .resetDescs).device = m.device ∧
      (onUrbReceived processPacket answer s m urb).2.device.log =
        m.device.log ++ [.submitUrb urb] ∧
      (m.urbs urb).IsReset ((onUrbReceived processPacket answer s m urb).2.urbs urb) ∧
      ∀ u ≠ urb, (onUrbReceived processPacket answer s m urb).2.urbs u = m.urbs u := by
  have hresubmit : (onUrbReceived processPacket answer s m urb).2 =
      (((m.modify urb .reset).modify urb .resetDescs).submitUrb answer urb).2 := by
    rw [onUrbReceived, resubmitUrb_iso hiso]
  have hreset : (m.urbs urb).IsReset (((m.modify urb .reset).modify urb .resetDescs).urbs urb) := by
    rw [modify_urbs_self, modify_urbs_self]
    exact UsbdevfsUrb.isReset_reset _
  refine ⟨UsbdevfsUrb.unpack_eq processPacket hactual s,
    UsbdevfsUrb.chunksFrom_pairwise hactual, fun off => UsbdevfsUrb.mem_chunks,
    fun i desc hdesc j hj => ⟨?_, UsbdevfsUrb.regionStart_add_le hdesc⟩, hresubmit, hreset, rfl,
    ?_, ?_, fun u hu => ?_⟩
  · have hle : usbtvPacketSize * (j + 1) ≤ desc.actualLength :=
      (Nat.mul_le_mul_left _ hj).trans (Nat.mul_div_le _ _)
    rw [Nat.mul_add, Nat.mul_one] at hle
    exact hle.trans (hactual desc (List.mem_of_getElem? hdesc))
  · rw [hresubmit, submitUrb_log, modify_device, modify_device]
  · rw [hresubmit, submitUrb_urbs]
    exact hreset
  · rw [hresubmit, submitUrb_urbs, modify_urbs_of_ne _ hu, modify_urbs_of_ne _ hu]

/-- A URB of which the first transfer was short, the second one failed and the third one filled
its region. -/
def receivedUrb : UsbdevfsUrb :=
  { UsbdevfsUrb.newIso 0x81 3072 3 (fun _ => 0) (by decide) with
    isoFrameDesc := [⟨3072, 2048, 0⟩, ⟨3072, 1024, 71⟩, ⟨3072, 3072, 0⟩]
    fits := by decide }

/-- The callback visits five packets of that URB, and resubmits it. -/
theorem onUrbReceived_spec_receivedUrb :
    let r := onUrbReceived (fun calls off => calls ++ [off]) (fun _ => 0) []
      ⟨.new, fun _ => receivedUrb, []⟩ 7
    r.1 = [0, 1024, 6144, 7168, 8192] ∧ r.2.device.log = [.submitUrb 7] ∧
      receivedUrb.IsReset (r.2.urbs 7) := by
  have hiso : ((⟨.new, fun _ => receivedUrb, []⟩ : UrbMemory).urbs 7).type = .iso := rfl
  obtain ⟨hcalls, -, -, -, -, -, -, hlog, hreset, -⟩ :=
    onUrbReceived_spec (fun calls off => calls ++ [off]) (fun _ => 0) ([] : List ℤ) hiso (by decide)
  exact ⟨hcalls.trans (by decide), hlog, hreset⟩

/-- The callback as the driver has it. -/
def assemble (queue : ℕ → Answer) (answer : ℕ → ℤ) (a : Assembler) (m : UrbMemory) (urb : ℕ) :
    Assembler × UrbMemory :=
  onUrbReceived (fun a p => a.processPacket queue (Packet.read (m.urbs urb).buffer p)) answer a m
    urb

/-- **The packets of a URB go through the assembly in order**. -/
theorem assemble_eq_feed (queue : ℕ → Answer) (answer : ℕ → ℤ) (a : Assembler) {m : UrbMemory}
    {urb : ℕ} (hactual : ∀ desc ∈ (m.urbs urb).isoFrameDesc, desc.actualLength ≤ desc.length) :
    (assemble queue answer a m urb).1 =
      a.feed queue ((m.urbs urb).chunks.map fun off : ℕ =>
        Packet.read (m.urbs urb).buffer off) := by
  show (m.urbs urb).unpack _ a = _
  rw [UsbdevfsUrb.unpack_eq _ hactual, Assembler.feed, List.foldl_map, List.foldl_map]

/-- The callback that `startStreaming` gives to the device. -/
def videoCallback (queue : ℕ → Answer) (answer : ℕ → ℤ) : UrbCallback Assembler where
  run := assemble queue answer
  urbThreadRunning _ m urb := m.resubmitUrb_urbThreadRunning answer (some urb)

end UrbMemory

end Unpack

end UsbTv
