import UsbTv.Driver.Steps
import UsbTv.Driver.Unpacking

set_option relaxedAutoImplicit false
set_option autoImplicit false

/-!
# From the bytes of a URB to packets

A packet is a big-endian header and a payload of 960 bytes; the rest of its 1024 bytes is of no
use. The host may ask for the packets in URBs of any shape: with more or fewer descriptors, with
descriptors of different lengths, with transfers that fail or bring nothing. What the driver makes
of a stream depends on the packets only, in the order in which they come.

## Main definitions

* `UsbTv.Packet.byte` — the bytes of a packet.
* `UsbTv.Packet.At` — a packet lies in a buffer.
* `UsbTv.UrbMemory.receiveUrbs` — the callbacks of the URBs of a stream.
* `UsbTv.UrbMemory.Carry` — the URBs carry the packets.

## Main results

* `UsbTv.Assembler.feed_congr` — the assembly reads nothing of a packet but header and payload.
* `UsbTv.Assembler.feed_filter` — packets that are not accepted leave no trace.
* `UsbTv.UrbMemory.receiveUrbs_eq_feed` — a stream of URBs is the stream of its packets.
* `UsbTv.UrbMemory.receiveUrbs_eq_of_carry` — the division into URBs makes no difference.
-/

namespace UsbTv

/-! ## The bytes of a packet -/

namespace Packet

/-- Byte `i` of a packet: the header comes first, its highest byte in front. -/
def byte (p : Packet) (i : ℕ) : UInt8 :=
  if i < 4 then UInt8.ofNat (p.header.toNat / 2 ^ (8 * (3 - i))) else p.payload (i - 4)

/-- The packet lies at `off` in the buffer. -/
def At (p : Packet) (buffer : ℤ → UInt8) (off : ℕ) : Prop :=
  ∀ i < 4 + usbtvPayloadSize, buffer ((off + i : ℕ) : ℤ) = p.byte i

/-- The packets have the same header and payload. -/
def Same (p q : Packet) : Prop :=
  p.header = q.header ∧ ∀ b < usbtvPayloadSize, p.payload b = q.payload b

/-- **A packet is read as it was written.** -/
lemma At.read_same {p : Packet} {buffer : ℤ → UInt8} {off : ℕ} (h : p.At buffer off) :
    (Packet.read buffer off).Same p := by
  have hbyte : ∀ i < 4, (buffer ((off + i : ℕ) : ℤ)).toNat =
      p.header.toNat / 2 ^ (8 * (3 - i)) % 2 ^ 8 := by
    intro i hi
    rw [h i (by omega), byte, if_pos hi, UInt8.toNat_ofNat']
  have hlt : p.header.toNat < 2 ^ 32 := p.header.toNat_lt
  constructor
  · have h0 := hbyte 0 (by omega)
    have h1 := hbyte 1 (by omega)
    have h2 := hbyte 2 (by omega)
    have h3 := hbyte 3 (by omega)
    push_cast at h0 h1 h2 h3
    rw [add_zero] at h0
    rw [← UInt32.toNat_inj]
    unfold Packet.read
    dsimp only
    rw [h0, h1, h2, h3, UInt32.toNat_ofNat_of_lt']
    · omega
    · show _ < 2 ^ 32
      omega
  · intro b hb
    have h4 := h (4 + b) (by omega)
    rw [byte, if_neg (by omega), Nat.add_sub_cancel_left] at h4
    rw [← h4]
    show buffer ((off : ℤ) + 4 + b) = _
    congr 1
    omega

end Packet

/-! ## What the assembly reads of a packet -/

/-- Copies to the same places of the same cells do the same. -/
lemma copies_eq_of_forall₂ {β : Type*} {cs ds : List (Copy β)}
    (h : List.Forall₂ (fun c d : Copy β =>
      c.dst = d.dst ∧ c.len = d.len ∧ ∀ b < c.len, c.src b = d.src b) cs ds) (m : Mem β) :
    m.copies cs = m.copies ds := by
  induction h generalizing m with
  | nil => rfl
  | @cons c d cs ds hcd _ ih =>
    obtain ⟨hdst, hlen, hsrc⟩ := hcd
    have happly : c.apply m = d.apply m := by
      funext i
      have hcovers : d.Covers i ↔ c.Covers i := by
        simp only [Copy.Covers, hdst, hlen]
      by_cases hi : c.Covers i
      · have hlt : i - c.dst < c.len := by
          simp only [Copy.Covers] at hi
          omega
        rw [Copy.apply, Copy.apply, if_pos hi, if_pos (hcovers.mpr hi), hsrc _ hlt, hdst]
      · rw [c.apply_of_not_covers hi, d.apply_of_not_covers (mt hcovers.mp hi)]
    rw [Mem.copies_cons, Mem.copies_cons, happly, ih]

namespace Assembler

variable (a : Assembler) (answer : ℕ → Answer)

/-- A packet is placed by its payload. -/
lemma copies_placePacket_congr (params : FrameParams) {p q : ℕ → UInt8}
    (h : ∀ b < usbtvPayloadSize, p b = q b) (packetNo : ℕ) (isOdd : Bool) (m : Mem UInt8) :
    m.copies (placePacket params p packetNo isOdd) =
      m.copies (placePacket params q packetNo isOdd) := by
  have hprogressive : List.Forall₂ (fun c d : Copy UInt8 =>
      c.dst = d.dst ∧ c.len = d.len ∧ ∀ b < c.len, c.src b = d.src b)
      (packetToProgressiveFrame p packetNo) (packetToProgressiveFrame q packetNo) :=
    .cons ⟨rfl, rfl, h⟩ .nil
  have hhalf : usbtvPayloadSize / 2 + usbtvPayloadSize / 2 = usbtvPayloadSize := rfl
  unfold placePacket
  cases params.scanType with
  | progressive => exact copies_eq_of_forall₂ hprogressive m
  | discard =>
    cases isOdd with
    | true => exact copies_eq_of_forall₂ hprogressive m
    | false => rfl
  | interleaved =>
    have hsecond : ∀ b < usbtvPayloadSize / 2,
        p (usbtvPayloadSize / 2 + b) = q (usbtvPayloadSize / 2 + b) :=
      fun b hb => h _ (by omega)
    have hinterleaved : List.Forall₂ (fun c d : Copy UInt8 =>
        c.dst = d.dst ∧ c.len = d.len ∧ ∀ b < c.len, c.src b = d.src b)
        (packetToInterleavedFrame params.frameWidth p packetNo isOdd)
        (packetToInterleavedFrame params.frameWidth q packetNo isOdd) :=
      .cons ⟨rfl, rfl, fun b hb => h b (by change b < usbtvPayloadSize / 2 at hb; omega)⟩
        (.cons ⟨rfl, rfl, hsecond⟩ .nil)
    exact copies_eq_of_forall₂ hinterleaved m

/-- `processPacket` reads header and payload. -/
lemma processPacket_congr {p q : Packet} (h : p.Same q) :
    a.processPacket answer p = a.processPacket answer q := by
  obtain ⟨header, payload⟩ := p
  obtain ⟨header', payload'⟩ := q
  obtain ⟨rfl, hpayload⟩ : header = header' ∧ ∀ b < usbtvPayloadSize, payload b = payload' b := h
  have hmemcpy : ∀ b : Assembler,
      b.memcpy (placePacket b.frameParams payload (usbtvPacketNo header) (usbtvOdd header)) =
        b.memcpy (placePacket b.frameParams payload' (usbtvPacketNo header) (usbtvOdd header)) := by
    intro b
    rw [memcpy, memcpy, copies_placePacket_congr b.frameParams hpayload]
  have hreceive : a.receive ⟨header, payload⟩ = a.receive ⟨header, payload'⟩ :=
    congrArg countPacket (hmemcpy _)
  show (if a.Ignored ⟨header, payload⟩ then a else _) = _
  rw [hreceive]
  rfl

/-- **The assembly reads header and payload.** -/
lemma feed_congr {ps qs : List Packet} (h : List.Forall₂ Packet.Same ps qs) :
    a.feed answer ps = a.feed answer qs := by
  induction h generalizing a with
  | nil => rfl
  | cons hpq _ ih => rw [feed_cons, feed_cons, a.processPacket_congr answer hpq, ih]

/-- **Packets that are not accepted leave no trace.** -/
lemma feed_filter (ps : List Packet) :
    a.feed answer (ps.filter (·.Accepted a.packetsPerField)) = a.feed answer ps := by
  induction ps generalizing a with
  | nil => rfl
  | cons p ps ih =>
    by_cases hp : p.Accepted a.packetsPerField
    · have hcfg := (a.processPacket_config answer p).packetsPerField
      have hrest := ih (a.processPacket answer p)
      rw [hcfg] at hrest
      rw [List.filter_cons_of_pos (by simpa using hp), feed_cons, feed_cons, hrest]
    · have hsame : a.processPacket answer p = a := if_pos ((a.ignored_iff p).mpr hp)
      rw [List.filter_cons_of_neg (by simpa using hp), feed_cons, hsame, ih]

end Assembler

/-! ## Streams of URBs -/

namespace UrbMemory

variable (queue : ℕ → Answer) (answer : ℕ → ℤ) (a : Assembler)

/-- The callbacks of the URBs of a stream, one after the other. Each finds the memory as the kernel
has left it. -/
def receiveUrbs (urbs : List (UrbMemory × ℕ)) : Assembler :=
  urbs.foldl (fun a u => (assemble queue answer a u.1 u.2).1) a

/-- The chunks that the URBs have received: for each of them the buffer, and where it lies there. -/
def received (urbs : List (UrbMemory × ℕ)) : List ((ℤ → UInt8) × ℕ) :=
  urbs.flatMap fun u => (u.1.urbs u.2).chunks.map fun off => ((u.1.urbs u.2).buffer, off)

/-- The URBs carry the packets, chunk by chunk. -/
def Carry (urbs : List (UrbMemory × ℕ)) (packets : List Packet) : Prop :=
  List.Forall₂ (fun c p => Packet.At p c.1 c.2) (received urbs) packets

/-- The kernel reports no more than it was asked for. -/
def Fitting (urbs : List (UrbMemory × ℕ)) : Prop :=
  ∀ u ∈ urbs, ∀ desc ∈ (u.1.urbs u.2).isoFrameDesc, desc.actualLength ≤ desc.length

/-- The packets of all URBs go through the assembly in order. -/
lemma receiveUrbs_eq {urbs : List (UrbMemory × ℕ)} (h : Fitting urbs) :
    receiveUrbs queue answer a urbs =
      a.feed queue ((received urbs).map fun c => Packet.read c.1 c.2) := by
  induction urbs generalizing a with
  | nil => rfl
  | cons u urbs ih =>
    have hurb := assemble_eq_feed queue answer a (h u List.mem_cons_self)
    have hrest := ih (assemble queue answer a u.1 u.2).1 fun v hv => h v (List.mem_cons_of_mem _ hv)
    have hcons : receiveUrbs queue answer a (u :: urbs) =
        receiveUrbs queue answer (assemble queue answer a u.1 u.2).1 urbs := rfl
    have hreceived : received (u :: urbs) =
        (u.1.urbs u.2).chunks.map (fun off => ((u.1.urbs u.2).buffer, off)) ++ received urbs := rfl
    rw [hcons, hrest, hurb, hreceived, List.map_append, List.map_map, Assembler.feed_append]
    rfl

/-- **A stream of URBs is the stream of its packets.** -/
theorem receiveUrbs_eq_feed {urbs : List (UrbMemory × ℕ)} {packets : List Packet}
    (h : Fitting urbs) (hcarry : Carry urbs packets) :
    receiveUrbs queue answer a urbs = a.feed queue packets := by
  rw [receiveUrbs_eq queue answer a h]
  refine a.feed_congr queue ?_
  rw [List.forall₂_map_left_iff]
  exact hcarry.imp fun _ _ hat => hat.read_same

/-- **The division into URBs makes no difference**: if two streams of URBs carry the same packets
apart from such as are not accepted, then the assembly is the same after them, whatever the
descriptors, the transfers that failed and the bytes behind the payloads. -/
theorem receiveUrbs_eq_of_carry {urbs urbs' : List (UrbMemory × ℕ)} {packets packets' : List Packet}
    (h : Fitting urbs) (h' : Fitting urbs') (hcarry : Carry urbs packets)
    (hcarry' : Carry urbs' packets')
    (hsame : packets.filter (·.Accepted a.packetsPerField) =
      packets'.filter (·.Accepted a.packetsPerField)) (answer' : ℕ → ℤ) :
    receiveUrbs queue answer a urbs = receiveUrbs queue answer' a urbs' := by
  rw [receiveUrbs_eq_feed queue answer a h hcarry, receiveUrbs_eq_feed queue answer' a h' hcarry',
    ← a.feed_filter queue packets, ← a.feed_filter queue packets', hsame]

/-! ## A URB for each packet -/

/-- A URB with one descriptor, which has received the packet. -/
def urbOfPacket (p : Packet) : UsbdevfsUrb :=
  { UsbdevfsUrb.newIso 0x81 usbtvPacketSize 1 (fun i => p.byte i.toNat) (by decide) with
    isoFrameDesc := [⟨usbtvPacketSize, usbtvPacketSize, 0⟩]
    fits := le_rfl }

/-- The memory that its callback finds. -/
def memoryOfPacket (p : Packet) : UrbMemory × ℕ := (⟨.new, fun _ => urbOfPacket p, []⟩, 0)

/-- One URB for each packet. -/
lemma fitting_map_memoryOfPacket (packets : List Packet) :
    Fitting (packets.map memoryOfPacket) := by
  intro u hu desc hdesc
  obtain ⟨p, -, rfl⟩ := List.mem_map.mp hu
  obtain rfl := List.mem_singleton.mp hdesc
  exact le_rfl

/-- **Every stream of packets can be sent.** -/
lemma carry_map_memoryOfPacket (packets : List Packet) :
    Carry (packets.map memoryOfPacket) packets := by
  have hreceived : received (packets.map memoryOfPacket) =
      packets.map fun p => ((urbOfPacket p).buffer, 0) := by
    rw [received, List.flatMap_map, List.map_eq_flatMap]
    rfl
  rw [Carry, hreceived, List.forall₂_map_left_iff]
  refine List.forall₂_same.mpr fun p _ i _ => ?_
  show p.byte (((0 + i : ℕ) : ℤ).toNat) = _
  rw [Nat.zero_add, Int.toNat_natCast]

/-- A buffer with two packets in its first third, and one in its last. -/
def bufferOfThree (p q r : Packet) (i : ℤ) : UInt8 :=
  if i < 1024 then p.byte i.toNat
  else if i < 2048 then q.byte (i - 1024).toNat
  else if i < 4096 then 0
  else r.byte (i - 4096).toNat

/-- A URB of three descriptors. The first has received two packets, the transfer of the second has
failed, and the third has received one packet and a part of another. -/
def urbOfThree (p q r : Packet) : UsbdevfsUrb :=
  { UsbdevfsUrb.newIso 0x81 2048 3 (bufferOfThree p q r) (by decide) with
    isoFrameDesc := [⟨2048, 2048, 0⟩, ⟨2048, 1024, 71⟩, ⟨2048, 1500, 0⟩]
    fits := le_rfl }

/-- The memory that its callback finds. -/
def memoryOfThree (p q r : Packet) : UrbMemory × ℕ := (⟨.new, fun _ => urbOfThree p q r, []⟩, 0)

lemma fitting_memoryOfThree (p q r : Packet) : Fitting [memoryOfThree p q r] := by
  intro u hu desc hdesc
  obtain rfl := List.mem_singleton.mp hu
  have hle : ∀ desc ∈ (urbOfThree p q r).isoFrameDesc, desc.actualLength ≤ desc.length := by
    show ∀ desc ∈ [_, _, _], _
    decide
  exact hle desc hdesc

/-- The three packets are where the callback looks for them. -/
lemma carry_memoryOfThree (p q r : Packet) : Carry [memoryOfThree p q r] [p, q, r] := by
  have hreceived : received [memoryOfThree p q r] = [(bufferOfThree p q r, 0),
      (bufferOfThree p q r, 1024), (bufferOfThree p q r, 4096)] := rfl
  rw [Carry, hreceived]
  have hsize : 4 + usbtvPayloadSize = 964 := rfl
  refine .cons (fun i hi => ?_) (.cons (fun i hi => ?_) (.cons (fun i hi => ?_) .nil)) <;>
    dsimp only [bufferOfThree]
  · rw [if_pos (by omega)]
    congr 1
    omega
  · rw [if_neg (by omega), if_pos (by omega)]
    congr 1
    omega
  · rw [if_neg (by omega), if_neg (by omega), if_neg (by omega)]
    congr 1
    omega

/-- Two packets and one with a bad header in one URB with a short and a failed transfer, and the two
packets in a URB each. -/
theorem receiveUrbs_eq_of_carry_noise :
    let packet := fun header : UInt32 => (⟨header, fun _ => 0⟩ : Packet)
    let first := packet (packetHeader 1 true 0)
    let noise := packet 0
    let second := packet (packetHeader 1 true 1)
    let a := Assembler.fresh ⟨720, 240, .ntsc, .progressive, 1920⟩ 2
      fun _ => ⟨1920, fun _ => none, 0, 1, false⟩
    receiveUrbs (fun _ => .refused) (fun _ => 0) a [memoryOfThree first noise second] =
      receiveUrbs (fun _ => .refused) (fun _ => 0) a ([first, second].map memoryOfPacket) := by
  intro packet first noise second a
  exact receiveUrbs_eq_of_carry _ _ a (fitting_memoryOfThree _ _ _) (fitting_map_memoryOfPacket _)
    (carry_memoryOfThree _ _ _) (carry_map_memoryOfPacket _) (by
      have hnoise : ¬ noise.Accepted a.packetsPerField := by decide
      have hfirst : first.Accepted a.packetsPerField := by decide
      rw [List.filter_cons_of_pos (a := first) (by simpa using hfirst),
        List.filter_cons_of_neg (a := noise) (by simpa using hnoise),
        List.filter_cons_of_pos (a := first) (by simpa using hfirst)]) _

end UrbMemory

end UsbTv
