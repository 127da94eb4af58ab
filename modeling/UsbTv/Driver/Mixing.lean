import Mathlib.Data.List.Chain
import Mathlib.Data.List.Induction
import Mathlib.Data.List.Sort
import UsbTv.DeviceParams
import UsbTv.Driver.Steps

set_option relaxedAutoImplicit false
set_option autoImplicit false

/-!
# Complete frames of two fields

A field is recognised by packet `0` or by a new id. Where two fields share an id, their packets
are counted together as long as no packet `0` arrives, and the count may come to that of a whole
field: the frame is flagged complete and holds the packets of two fields, or what an earlier frame
left in the buffer. Here the packets are any sequence in which the numbers ascend as long as id
and parity stay the same.

## Main definitions

* `UsbTv.Packet.SameField` — id and parity are the same.
* `UsbTv.Assembler.writers` — for each slot of each frame, the packets since it was last written.
* `UsbTv.Assembler.CompleteUnmixed` — every complete frame was written by one field.
* `UsbTv.counted` — the packets that `_packetsDone` counts.
* `UsbTv.UnmixedCounts` — a count that comes to a whole field is of one parity.

## Main results

* `UsbTv.Assembler.writers_buffer`, `handed_writers_buffer` — the buffers, and the frames handed
  over, hold what the tracked packets carry.
* `UsbTv.Assembler.feed_counted` — `_packetsDone` counts the packets of `counted`.
* `UsbTv.Assembler.completeUnmixed_iff` — when complete frames are of one field.
-/

namespace UsbTv

/-- The packets are of the same field, as far as their headers tell. -/
def Packet.SameField (p q : Packet) : Prop :=
  usbtvFrameId p.header = usbtvFrameId q.header ∧ usbtvOdd p.header = usbtvOdd q.header

instance (p q : Packet) : Decidable (p.SameField q) := inferInstanceAs (Decidable (_ ∧ _))

lemma Packet.SameField.symm {p q : Packet} (h : p.SameField q) : q.SameField p :=
  ⟨h.1.symm, h.2.symm⟩

lemma Packet.SameField.trans {p q r : Packet} (h : p.SameField q) (h' : q.SameField r) :
    p.SameField r :=
  ⟨h.1.trans h'.1, h.2.trans h'.2⟩

/-- The numbers ascend as long as the packets are of the same field. -/
def NumbersAscend (packets : List Packet) : Prop :=
  packets.IsChain fun p q => p.SameField q → usbtvPacketNo p.header < usbtvPacketNo q.header

instance (packets : List Packet) : Decidable (NumbersAscend packets) :=
  inferInstanceAs (Decidable (List.IsChain _ _))

/-- The packet is written to the buffer: with `DISCARD` if it is odd. -/
def Packet.Placed (scanType : ScanType) (p : Packet) : Prop :=
  scanType = .discard → usbtvOdd p.header = true

instance (scanType : ScanType) (p : Packet) : Decidable (p.Placed scanType) :=
  inferInstanceAs (Decidable (_ → _))

/-! ## The packets that are counted -/

/-- One packet of `counted`: the id it leaves behind, and the packets that count with it. -/
def countStep (s : ℕ × List Packet) (p : Packet) : ℕ × List Packet :=
  (usbtvFrameId p.header,
    if usbtvPacketNo p.header = 0 ∨ usbtvFrameId p.header ≠ s.1 then [p] else s.2 ++ [p])

/-- The id of the last packet, and the packets from the last one on that has number `0` or another
id than the one before it. The id before the first packet counts as `0`. -/
def counted (packets : List Packet) : ℕ × List Packet := packets.foldl countStep (0, [])

/-- Whenever the packets counted at the end of a field that is handed over are as many as a field
has, up to the wrap-around of the count, they have one parity. -/
def UnmixedCounts (scanType : ScanType) (N : ℕ) (packets : List Packet) : Prop :=
  ∀ pre p post, packets = pre ++ p :: post → p.IsLast N → p.Placed scanType →
    (counted (pre ++ [p])).2.length % 2 ^ 16 = N →
      ∀ q ∈ (counted (pre ++ [p])).2, usbtvOdd q.header = usbtvOdd p.header

lemma counted_concat (ps : List Packet) (p : Packet) :
    counted (ps ++ [p]) = countStep (counted ps) p := by
  rw [counted, List.foldl_append]
  rfl

/-- The packets counted are the last ones. -/
lemma counted_suffix (ps : List Packet) : (counted ps).2 <:+ ps := by
  induction ps using List.reverseRecOn with
  | nil => exact List.suffix_rfl
  | append_singleton ps p ih =>
    rw [counted_concat, countStep]
    split_ifs
    · exact List.suffix_append ps [p]
    · obtain ⟨pre, hpre⟩ := ih
      exact ⟨pre, by rw [← List.append_assoc, hpre]⟩

/-- The packets counted have the id of the last one. -/
lemma id_of_mem_counted (ps : List Packet) :
    ∀ q ∈ (counted ps).2, usbtvFrameId q.header = (counted ps).1 := by
  induction ps using List.reverseRecOn with
  | nil => exact fun _ h => absurd h List.not_mem_nil
  | append_singleton ps p ih =>
    intro q hq
    rw [counted_concat, countStep] at hq ⊢
    split_ifs at hq with hs
    · rw [List.mem_singleton.mp hq]
    · rw [not_or, not_not] at hs
      rcases List.mem_append.mp hq with hq | hq
      · exact (ih q hq).trans hs.2.symm
      · rw [List.mem_singleton.mp hq]

/-- No packet before a packet `0` is counted. -/
lemma counted_suffix_of_zero (ps : List Packet) {q : Packet} (hq : usbtvPacketNo q.header = 0)
    (l : List Packet) : (counted (ps ++ q :: l)).2 <:+ q :: l := by
  induction l using List.reverseRecOn with
  | nil =>
    have heq : (counted (ps ++ [q])).2 = [q] := by
      rw [counted_concat, countStep, if_pos (.inl hq)]
    exact ⟨[], heq⟩
  | append_singleton l p ih =>
    rw [← List.cons_append, ← List.append_assoc, counted_concat, countStep]
    split_ifs
    · exact List.suffix_append (q :: l) [p]
    · obtain ⟨pre, hpre⟩ := ih
      exact ⟨pre, by rw [← List.append_assoc, hpre]⟩

/-- The last packet is counted. -/
lemma exists_counted_concat (ps : List Packet) (p : Packet) :
    ∃ l, (counted (ps ++ [p])).2 = l ++ [p] := by
  rw [counted_concat, countStep]
  split_ifs
  · exact ⟨[], rfl⟩
  · exact ⟨_, rfl⟩

/-- As many ascending numbers below `N` as there are, or more, are all of them. -/
lemma eq_range_of_ascending {l : List ℕ} {N : ℕ} (hl : l.Pairwise (· < ·)) (hlt : ∀ k ∈ l, k < N)
    (hlen : N ≤ l.length) : l = List.range N := by
  have hsub : l.Subperm (List.range N) :=
    List.subperm_of_subset (hl.imp fun h => Nat.ne_of_lt h) fun k hk =>
      List.mem_range.mpr (hlt k hk)
  have hsublist := List.sublist_of_subperm_of_pairwise hsub hl List.pairwise_lt_range
  exact hsublist.eq_of_length_le (by rw [List.length_range]; exact hlen)

/-- The numbers of ascending packets of one field ascend. -/
lemma numbers_pairwise {l : List Packet} (hasc : NumbersAscend l) {p : Packet}
    (hsame : ∀ q ∈ l, q.SameField p) :
    (l.map fun q => usbtvPacketNo q.header).Pairwise (· < ·) := by
  rw [← List.isChain_iff_pairwise, List.isChain_map]
  refine (List.isChain_iff_getElem.mpr fun i hi => ?_)
  have h := List.isChain_iff_getElem.mp hasc i hi
  exact h ((hsame _ (List.getElem_mem _)).trans (hsame _ (List.getElem_mem _)).symm)

namespace Assembler

variable (a : Assembler) (answer : ℕ → Answer)

/-- **`_packetsDone` counts the packets of `counted`.** -/
lemma feed_counted {params : FrameParams} {N : ℕ} (hN : N < 2 ^ 16) (frames : ℕ → UsbTvFrame)
    {ps : List Packet} (hacc : ∀ p ∈ ps, p.Accepted N) :
    ((fresh params N frames).feed answer ps).currentFrameId = (counted ps).1 ∧
      ((fresh params N frames).feed answer ps).packetsDone = (counted ps).2.length % 2 ^ 16 := by
  induction ps using List.reverseRecOn with
  | nil => exact ⟨rfl, rfl⟩
  | append_singleton ps p ih =>
    obtain ⟨hcur, hdone⟩ := ih fun q hq => hacc q (List.mem_append_left _ hq)
    have hcfg := ((fresh params N frames).feed_config answer ps).packetsPerField
    have hp : p.Accepted ((fresh params N frames).feed answer ps).packetsPerField := by
      rw [hcfg]
      exact hacc p (List.mem_append_right _ (List.mem_singleton_self p))
    have hN' : ((fresh params N frames).feed answer ps).packetsPerField < 2 ^ 16 := by
      rw [hcfg]
      exact hN
    rw [feed_append, feed_cons, feed_nil, processPacket_currentFrameId _ answer hp hN',
      processPacket_packetsDone _ answer hp hN', counted_concat, countStep]
    refine ⟨rfl, ?_⟩
    simp only [Starts, hcur]
    split_ifs
    · rfl
    · rw [List.length_append, List.length_singleton, hdone, Nat.mod_add_mod]

/-! ## Who wrote a slot -/

/-- For slot `k` of frame `f`, the packets since it was last written, first the one that did. -/
abbrev Writers := ℕ → ℕ → Option (List Packet)

/-- One more packet. -/
def noteWrite (a : Assembler) (w : Writers) (p : Packet) : Writers := fun f k =>
  if a.usbInputFrame = f ∧ usbtvPacketNo p.header = k ∧ p.Accepted a.packetsPerField ∧
      p.Placed a.frameParams.scanType then some [p]
  else (w f k).map (· ++ [p])

/-- The writers after a packet sequence. -/
def writers (a : Assembler) (answer : ℕ → Answer) (w : Writers) : List Packet → Writers
  | [] => w
  | p :: ps => writers (a.processPacket answer p) answer (a.noteWrite w p) ps

lemma writers_append (w : Writers) (ps qs : List Packet) :
    a.writers answer w (ps ++ qs) =
      (a.feed answer ps).writers answer (a.writers answer w ps) qs := by
  induction ps generalizing a w with
  | nil => rfl
  | cons p ps ih => exact ih _ _

lemma writers_concat (w : Writers) (ps : List Packet) (p : Packet) :
    a.writers answer w (ps ++ [p]) = (a.feed answer ps).noteWrite (a.writers answer w ps) p := by
  rw [writers_append]
  rfl

/-- **Every complete frame was written by one field**: each slot of it was last written by a packet
from which on all packets, up to the one that completed the frame, are of the same field. -/
def CompleteUnmixed (N : ℕ) (packets : List Packet) : Prop :=
  ∀ pre p post, packets = pre ++ p :: post →
    ∀ h ∈ (a.feed answer (pre ++ [p])).handed.drop (a.feed answer pre).handed.length,
      h.frame.flags = frameComplete → ∀ k < N, ∃ l,
        a.writers answer (fun _ _ => none) (pre ++ [p]) h.index k = some l ∧ ∀ q ∈ l, q.SameField p

/-- The packet that wrote a slot has its number, and the packets since then are the last ones. -/
lemma writers_spec (ps : List Packet) {f k : ℕ} {l : List Packet}
    (hl : a.writers answer (fun _ _ => none) ps f k = some l) :
    ∃ q l', l = q :: l' ∧ usbtvPacketNo q.header = k ∧ l <:+ ps := by
  induction ps using List.reverseRecOn generalizing l with
  | nil => exact absurd hl (by simp [writers])
  | append_singleton ps p ih =>
    rw [writers_concat, noteWrite] at hl
    split_ifs at hl with hw
    · obtain rfl := Option.some_inj.mp hl
      exact ⟨p, [], rfl, hw.2.1, List.suffix_append ps [p]⟩
    · obtain ⟨l₀, hl₀, rfl⟩ := Option.map_eq_some_iff.mp hl
      obtain ⟨q, l', rfl, hq, pre, hpre⟩ := ih hl₀
      exact ⟨q, l' ++ [p], rfl, hq, pre, by rw [← List.append_assoc, hpre]⟩

/-- Without interleaving a packet is placed in the slot of its number, or not at all. -/
lemma placePacket_eq {params : FrameParams} (hscan : params.scanType ≠ .interleaved) {p : Packet}
    (hno : usbtvPacketNo p.header < 2 ^ 16) :
    placePacket params p.payload (usbtvPacketNo p.header) (usbtvOdd p.header) =
      if p.Placed params.scanType then
        [⟨usbtvPayloadSize * usbtvPacketNo p.header, usbtvPayloadSize, p.payload⟩]
      else [] := by
  unfold placePacket packetToProgressiveFrame
  rw [progressiveOffset_eq hno]
  cases hs : params.scanType with
  | progressive => simp [Packet.Placed]
  | discard => simp [Packet.Placed]
  | interleaved => exact absurd hs hscan

/-- **The buffers hold what the tracked packets carry.** -/
theorem writers_buffer (hscan : a.frameParams.scanType ≠ .interleaved)
    (hN : a.packetsPerField < 2 ^ 16) (ps : List Packet) {f k : ℕ} {q : Packet} {l : List Packet}
    (hl : a.writers answer (fun _ _ => none) ps f k = some (q :: l)) :
    ∀ b < usbtvPayloadSize,
      ((a.feed answer ps).contents f).buffer (usbtvPayloadSize * k + b) = some (q.payload b) := by
  induction ps using List.reverseRecOn generalizing l with
  | nil => exact absurd hl (by simp [writers])
  | append_singleton ps p ih =>
    intro b hb
    have hcfg := a.feed_config answer ps
    have hpack := (a.feed answer ps).processPacket_contents answer p (by
      rw [hcfg.packetsPerField]
      exact hN)
    rw [writers_concat, noteWrite, hcfg.packetsPerField, hcfg.frameParams] at hl
    rw [hcfg.packetsPerField, hcfg.frameParams] at hpack
    rw [feed_append, feed_cons, feed_nil, hpack]
    set c := a.feed answer ps
    by_cases hw : c.usbInputFrame = f ∧ usbtvPacketNo p.header = k ∧
        p.Accepted a.packetsPerField ∧ p.Placed a.frameParams.scanType
    · rw [if_pos hw, Option.some_inj, List.cons.injEq] at hl
      obtain ⟨hf, hk, hacc, hplaced⟩ := hw
      obtain ⟨rfl, -⟩ := hl
      have hno : usbtvPacketNo p.header < 2 ^ 16 := hacc.2.trans hN
      rw [if_pos hacc, ← hf, Function.update_self, placePacket_eq hscan hno, if_pos hplaced, ← hk]
      exact Copy.apply_dst_add _ _ hb
    · rw [if_neg hw] at hl
      obtain ⟨l₀, hl₀, heq⟩ := Option.map_eq_some_iff.mp hl
      obtain ⟨q', l', rfl, -, -⟩ := a.writers_spec answer ps hl₀
      obtain ⟨rfl, -⟩ := List.cons.inj heq
      rw [← ih hl₀ b hb]
      split_ifs with hacc
      · by_cases hf : f = c.usbInputFrame
        · subst hf
          have hno : usbtvPacketNo p.header < 2 ^ 16 := hacc.2.trans hN
          rw [Function.update_self, placePacket_eq hscan hno]
          split_ifs with hplaced
          · -- the packet goes to another slot
            have hne : usbtvPacketNo p.header ≠ k := fun h => hw ⟨rfl, h, hacc, hplaced⟩
            refine Copy.apply_of_not_covers _ (fun hcov => hne ?_) _
            simp only [Copy.Covers, usbtvPayloadSize] at hcov hb
            omega
          · rfl
        · rw [Function.update_of_ne hf]
      · rfl

/-- A frame is handed over with the contents it has in the pool. -/
lemma handed_buffer (hN : a.packetsPerField < 2 ^ 16) {p : Packet} {h : Handover}
    (hh : h ∈ (a.processPacket answer p).handed.drop a.handed.length) :
    h.frame.buffer = ((a.processPacket answer p).contents h.index).buffer := by
  rw [a.processPacket_drop_handed answer p hN] at hh
  split_ifs at hh with hover
  · obtain rfl := List.mem_singleton.mp hh
    have hp := a.processPacket_contents answer p hN
    rw [if_pos hover.1.1, ← a.receive_contents p] at hp
    rw [hp, flagFinished_inputFrame, inputFrame, receive_usbInputFrame]
    rfl
  · exact absurd hh List.not_mem_nil

/-- **The frame that is handed over holds what the tracked packets carry.** -/
theorem handed_writers_buffer (hscan : a.frameParams.scanType ≠ .interleaved)
    (hN : a.packetsPerField < 2 ^ 16) (ps : List Packet) {p q : Packet} {h : Handover} {k : ℕ}
    {l : List Packet}
    (hh : h ∈ (a.feed answer (ps ++ [p])).handed.drop (a.feed answer ps).handed.length)
    (hl : a.writers answer (fun _ _ => none) (ps ++ [p]) h.index k = some (q :: l)) :
    ∀ b < usbtvPayloadSize,
      h.frame.buffer (usbtvPayloadSize * k + b) = some (q.payload b) := by
  intro b hb
  have hcfg := (a.feed_config answer ps).packetsPerField
  have hbuffer := writers_buffer a answer hscan hN (ps ++ [p]) hl b hb
  rw [feed_append, feed_cons, feed_nil] at hh hbuffer
  rw [handed_buffer (a.feed answer ps) answer (by rw [hcfg]; exact hN) hh, hbuffer]

/-! ## Runs of one field -/

/-- Packets of one field numbered from `0` on, without the last one, fill the slots of the input
frame one by one. -/
lemma writers_of_range (w : Writers) {seg : List Packet}
    (hN : a.packetsPerField < 2 ^ 16)
    (hnum : seg.map (fun q => usbtvPacketNo q.header) = List.range seg.length)
    (hlen : seg.length < a.packetsPerField)
    (hseg : ∀ q ∈ seg, q.Accepted a.packetsPerField ∧ q.Placed a.frameParams.scanType) :
    (a.feed answer seg).usbInputFrame = a.usbInputFrame ∧
      ∀ k < seg.length, ∃ l, a.writers answer w seg a.usbInputFrame k = some l ∧ l ⊆ seg := by
  induction seg using List.reverseRecOn with
  | nil => exact ⟨rfl, fun k hk => absurd hk (Nat.not_lt_zero k)⟩
  | append_singleton seg q ih =>
    rw [List.length_append, List.length_singleton] at hnum hlen
    rw [List.map_append, List.range_succ, List.map_singleton] at hnum
    obtain ⟨hnum, hq⟩ := List.append_inj' hnum rfl
    have hno : usbtvPacketNo q.header = seg.length := List.singleton_inj.mp hq
    obtain ⟨hinput, hslots⟩ := ih hnum (by omega) fun r hr => hseg r (List.mem_append_left _ hr)
    obtain ⟨hacc, hplaced⟩ := hseg q (List.mem_append_right _ (List.mem_singleton_self q))
    have hcfg := a.feed_config answer seg
    set c := a.feed answer seg with hc
    have hlast : ¬ q.IsLast c.packetsPerField := by
      rw [hcfg.packetsPerField]
      exact fun h => by have := h.2; omega
    refine ⟨?_, fun k hk => ?_⟩
    · rw [feed_append, feed_cons, feed_nil, ← hc,
        c.processPacket_usbInputFrame answer hlast (by rw [hcfg.packetsPerField]; exact hN), hinput]
    · rw [writers_concat, ← hc, noteWrite, hcfg.packetsPerField, hcfg.frameParams]
      split_ifs with hw
      · exact ⟨[q], rfl, fun r hr => List.mem_append_right _ hr⟩
      · have hk' : k < seg.length := by
          rw [List.length_append, List.length_singleton] at hk
          by_contra hge
          exact hw ⟨hinput, by omega, hacc, hplaced⟩
        obtain ⟨l, hl, hsub⟩ := hslots k hk'
        refine ⟨l ++ [q], by rw [hl, Option.map_some], fun r hr => ?_⟩
        rcases List.mem_append.mp hr with hr | hr
        · exact List.mem_append_left _ (hsub hr)
        · exact List.mem_append_right _ hr

/-! ## Complete frames -/

section Complete

variable {params : FrameParams} {N : ℕ} (hN : N < 2 ^ 16) (frames : ℕ → UsbTvFrame)
variable (hscan : params.scanType ≠ .interleaved)

include hN hscan

/-- What is handed over when packet `p` comes after `pre`. -/
lemma feed_concat_handed {pre : List Packet} {p : Packet} (hacc : ∀ q ∈ pre ++ [p], q.Accepted N) :
    ∃ frame : UsbTvFrame,
      ((fresh params N frames).feed answer (pre ++ [p])).handed.drop
          ((fresh params N frames).feed answer pre).handed.length =
        (if p.IsLast N ∧ p.Placed params.scanType then
          [⟨((fresh params N frames).feed answer pre).usbInputFrame, frame⟩] else []) ∧
      frame.flags = if (counted (pre ++ [p])).2.length % 2 ^ 16 = N then frameComplete
        else framePartial := by
  set a := fresh params N frames with ha
  have hcfg := a.feed_config answer pre
  have hp : p.Accepted N := hacc p (List.mem_append_right _ (List.mem_singleton_self p))
  have hcount : ((fresh params N frames).feed answer (pre ++ [p])).packetsDone = _ :=
    (feed_counted answer hN frames hacc).2
  rw [← ha, feed_append, feed_cons, feed_nil] at hcount
  set b := a.feed answer pre with hb
  have hbN : b.packetsPerField = N := hcfg.packetsPerField
  have hscanb : b.frameParams = params := hcfg.frameParams
  refine ⟨(b.receive p).flagFinished.inputFrame, ?_, ?_⟩
  · have hover : b.HandsOver p ↔ p.IsLast N ∧ p.Placed params.scanType := by
      rw [HandsOver, hbN, hscanb, Packet.Placed]
      cases hs : params.scanType with
      | progressive => simp [finishHandsOver]
      | discard => simp [finishHandsOver]
      | interleaved => exact absurd hs hscan
    rw [feed_append, feed_cons, feed_nil, ← hb,
      b.processPacket_drop_handed answer p (by rw [hbN]; exact hN)]
    simp only [hover]
  · have hdone : (b.receive p).packetsDone = (counted (pre ++ [p])).2.length % 2 ^ 16 := by
      rw [← hcount, receive_packetsDone,
        b.processPacket_packetsDone answer (by rw [hbN]; exact hp) (by rw [hbN]; exact hN)]
    rw [flagFinished_inputFrame]
    simp only [receive_packetsPerField, hbN, hdone]

/-- Where complete frames are of one field, so are the packets that were counted: the one that
wrote slot `0` has number `0`, and no packet before it is counted. -/
lemma CompleteUnmixed.unmixedCounts {ps : List Packet} (hacc : ∀ q ∈ ps, q.Accepted N)
    (h : (fresh params N frames).CompleteUnmixed answer N ps) :
    UnmixedCounts params.scanType N ps := by
  intro pre p post hps hlast hplaced hcount q hq
  have hacc' : ∀ q ∈ pre ++ [p], q.Accepted N := fun q hq => hacc q (by
    rw [hps, List.append_cons]
    exact List.mem_append_left _ hq)
  obtain ⟨frame, hhanded, hflags⟩ := feed_concat_handed answer hN frames hscan hacc'
  rw [if_pos ⟨hlast, hplaced⟩] at hhanded
  rw [if_pos hcount] at hflags
  have h0 : 0 < N := by have := hlast.2; omega
  obtain ⟨l, hl, hsame⟩ := h pre p post hps _ (hhanded ▸ List.mem_singleton_self _) hflags 0 h0
  obtain ⟨r, l', rfl, hr, pre', hpre'⟩ := writers_spec _ answer _ hl
  rw [← hpre'] at hq
  exact (hsame q ((counted_suffix_of_zero pre' hr l').subset hq)).2

omit hscan in
/-- The packets that were counted when a field is complete, if they have one parity: they are
all of its packets, and the last ones received. -/
lemma exists_run_of_counted {pre : List Packet} {p : Packet}
    (hacc : ∀ q ∈ pre ++ [p], q.Accepted N) (hasc : NumbersAscend (pre ++ [p]))
    (hcount : (counted (pre ++ [p])).2.length % 2 ^ 16 = N)
    (hodd : ∀ q ∈ (counted (pre ++ [p])).2, usbtvOdd q.header = usbtvOdd p.header) :
    ∃ pre' seg, pre = pre' ++ seg ∧ seg.length + 1 = N ∧
      seg.map (fun q => usbtvPacketNo q.header) = List.range seg.length ∧
      ∀ q ∈ seg, q.SameField p := by
  obtain ⟨seg, hseg⟩ := exists_counted_concat pre p
  have hids := id_of_mem_counted (pre ++ [p])
  obtain ⟨pre', hpre'⟩ := counted_suffix (pre ++ [p])
  rw [hseg] at hcount hodd hids hpre'
  rw [counted_concat, countStep] at hids
  have hsame : ∀ q ∈ seg ++ [p], q.SameField p := fun q hq => ⟨hids q hq, hodd q hq⟩
  -- ascending numbers below `N`, at least `N` of them, are all of them
  have hasc' : NumbersAscend (seg ++ [p]) := List.IsChain.suffix hasc ⟨pre', hpre'⟩
  have hall := eq_range_of_ascending (numbers_pairwise hasc' hsame)
    (N := N) (fun k hk => by
      obtain ⟨q, hq, rfl⟩ := List.mem_map.mp hk
      exact (hacc q (hpre' ▸ List.mem_append_right _ hq)).2)
    (by rw [List.length_map]; omega)
  have hlen : seg.length + 1 = N := by
    have h := congrArg List.length hall
    rw [List.length_map, List.length_append, List.length_singleton, List.length_range] at h
    exact h
  refine ⟨pre', seg, ?_, hlen, ?_, fun q hq => hsame q (List.mem_append_left _ hq)⟩
  · rw [← List.append_assoc] at hpre'
    exact (List.append_cancel_right hpre').symm
  · rw [← hlen, List.range_succ, List.map_append] at hall
    exact (List.append_inj' hall rfl).1

/-- If the packets counted for every complete frame have one parity, every complete frame was
written by one field. -/
lemma completeUnmixed_of_unmixedCounts {ps : List Packet} (hacc : ∀ q ∈ ps, q.Accepted N)
    (hasc : NumbersAscend ps) (h : UnmixedCounts params.scanType N ps) :
    (fresh params N frames).CompleteUnmixed answer N ps := by
  intro pre p post hps e he hflags k hk
  have hacc' : ∀ q ∈ pre ++ [p], q.Accepted N := fun q hq => hacc q (by
    rw [hps, List.append_cons]
    exact List.mem_append_left _ hq)
  have hasc' : NumbersAscend (pre ++ [p]) := by
    rw [hps, List.append_cons] at hasc
    exact List.IsChain.infix hasc (List.prefix_append _ _).isInfix
  obtain ⟨frame, hhanded, hframe⟩ := feed_concat_handed answer hN frames hscan hacc'
  rw [hhanded] at he
  by_cases hover : p.IsLast N ∧ p.Placed params.scanType
  swap
  · rw [if_neg hover] at he
    exact absurd he List.not_mem_nil
  rw [if_pos hover] at he
  obtain rfl := List.mem_singleton.mp he
  have hcount : (counted (pre ++ [p])).2.length % 2 ^ 16 = N := by
    by_contra hne
    change frame.flags = frameComplete at hflags
    rw [hframe, if_neg hne] at hflags
    exact absurd hflags (by decide)
  obtain ⟨pre', seg, rfl, hlen, hnum, hsame⟩ := exists_run_of_counted hN hacc' hasc' hcount
    (h pre p post hps hover.1 hover.2 hcount)
  -- the packets of the field, without the last one, go to one frame
  set a := fresh params N frames with ha
  have hcfg := a.feed_config answer pre'
  have hcfg' := a.feed_config answer (pre' ++ seg)
  have hplaced : ∀ q ∈ seg, q.Placed params.scanType := fun q hq hd => by
    rw [(hsame q hq).2]
    exact hover.2 hd
  obtain ⟨hinput, hslots⟩ := writers_of_range (a.feed answer pre') answer
    (a.writers answer (fun _ _ => none) pre')
    (by rw [hcfg.packetsPerField]; exact hN) hnum
    (by rw [hcfg.packetsPerField, ha]; show seg.length < N; omega)
    (fun q hq => by
      rw [hcfg.packetsPerField, hcfg.frameParams]
      exact ⟨hacc' q (by simp [hq]), hplaced q hq⟩)
  rw [← feed_append] at hinput
  rw [← writers_append] at hslots
  rw [writers_concat, noteWrite, hcfg'.packetsPerField, hcfg'.frameParams]
  split_ifs with hw
  · refine ⟨[p], rfl, fun q hq => ?_⟩
    rw [List.mem_singleton.mp hq]
    exact ⟨rfl, rfl⟩
  · have hk' : k < seg.length := by
      by_contra hge
      have hno := hover.1.2
      exact hw ⟨rfl, by omega, hacc' p (by simp), hover.2⟩
    obtain ⟨l, hl, hsub⟩ := hslots k hk'
    refine ⟨l ++ [p], ?_, fun q hq => ?_⟩
    · show Option.map _ (a.writers answer _ (pre' ++ seg) _ k) = _
      rw [hinput, hl, Option.map_some]
    · rcases List.mem_append.mp hq with hq | hq
      · exact hsame q (hsub hq)
      · rw [List.mem_singleton.mp hq]
        exact ⟨rfl, rfl⟩

/-- **When complete frames are of one field**: without interleaving, for packets in which the
numbers ascend as long as id and parity stay the same, every slot of every complete frame was last
written by a packet of the field that completed it if and only if the packets counted for it have
one parity. -/
theorem completeUnmixed_iff {ps : List Packet} (hacc : ∀ q ∈ ps, q.Accepted N)
    (hasc : NumbersAscend ps) :
    (fresh params N frames).CompleteUnmixed answer N ps ↔
      UnmixedCounts params.scanType N ps :=
  ⟨fun h => h.unmixedCounts answer hN frames hscan hacc,
    completeUnmixed_of_unmixedCounts answer hN frames hscan hacc hasc⟩

end Complete

/-- A driver at the start of its first stream, progressive NTSC. -/
def firstProgressive : Assembler :=
  fresh (nativeFrameParams Java.Builder.new.build) 360
    fun _ => ⟨345600, fun _ => none, 0, frameStart, true⟩

/-- The first half of an odd field, and the second half of an even field with the same id. -/
def halves : List Packet :=
  (List.range 360).map fun k => ⟨packetHeader 1 (decide (k < 180)) k, fun _ => 0⟩

lemma decode_halves {k : ℕ} (hk : k < 360) :
    usbtvFrameOk (packetHeader 1 (decide (k < 180)) k) = true ∧
      usbtvFrameId (packetHeader 1 (decide (k < 180)) k) = 1 ∧
      usbtvOdd (packetHeader 1 (decide (k < 180)) k) = decide (k < 180) ∧
      usbtvPacketNo (packetHeader 1 (decide (k < 180)) k) = k :=
  decode_packetHeader _ (by norm_num) (by omega)

lemma halves_accepted : ∀ q ∈ halves, q.Accepted 360 := by
  intro q hq
  obtain ⟨k, hk, rfl⟩ := List.mem_map.mp hq
  have hk' := List.mem_range.mp hk
  obtain ⟨hok, -, -, hno⟩ := decode_halves hk'
  exact ⟨hok, by rw [hno]; exact hk'⟩

lemma halves_numbersAscend : NumbersAscend halves := by
  rw [NumbersAscend, List.isChain_iff_getElem]
  intro i hi _
  simp only [halves, List.length_map, List.length_range] at hi
  simp only [halves, List.getElem_map, List.getElem_range]
  rw [(decode_halves (by omega)).2.2.2, (decode_halves hi).2.2.2]
  exact Nat.lt_succ_self i

/-- All packets of the two halves are counted together. -/
lemma counted_halves {n : ℕ} (hn : n < 360) :
    counted (halves.take (n + 1)) = (1, halves.take (n + 1)) := by
  induction n with
  | zero => rfl
  | succ n ih =>
    have hget : halves[n + 1]? =
        some ⟨packetHeader 1 (decide (n + 1 < 180)) (n + 1), fun _ => 0⟩ := by
      simp [halves, hn]
    obtain ⟨-, hid, -, hno⟩ := decode_halves hn
    rw [List.take_add_one, hget, Option.toList_some, counted_concat, ih (by omega), countStep, hid,
      hno, if_neg (by simp)]

/-- The two halves of different fields. -/
theorem completeUnmixed_iff_halves :
    firstProgressive.CompleteUnmixed (fun _ => .refused) 360 halves ↔
      UnmixedCounts (nativeFrameParams Java.Builder.new.build).scanType 360 halves :=
  completeUnmixed_iff (fun _ => .refused) (by norm_num) _ (by decide) halves_accepted
    halves_numbersAscend

/-- **A complete frame of two halves**: the count comes to 360 although half of each field was
lost. -/
theorem not_completeUnmixed_halves :
    (∀ q ∈ halves, q.Accepted 360) ∧ NumbersAscend halves ∧
      ¬ firstProgressive.CompleteUnmixed (fun _ => .refused) 360 halves := by
  refine ⟨halves_accepted, halves_numbersAscend, fun h => ?_⟩
  have hunmixed := h.unmixedCounts (fun _ => .refused) (by norm_num) _ (by decide) halves_accepted
  have hlen : halves.length = 360 := by simp [halves]
  have hcounted : counted halves = (1, halves) := by
    have h := counted_halves (show 359 < 360 by norm_num)
    rwa [List.take_of_length_le (by omega)] at h
  have hsplit : halves = halves.take 359 ++ [⟨packetHeader 1 false 359, fun _ => 0⟩] := by
    have hget : halves[359]? = some ⟨packetHeader 1 false 359, fun _ => 0⟩ := by simp [halves]
    have htake := List.take_add_one (l := halves) (i := 359)
    rwa [List.take_of_length_le (by omega), hget] at htake
  have hodd := hunmixed _ _ [] hsplit (by decide) (by decide)
  rw [← hsplit, hcounted] at hodd
  dsimp only at hodd
  have hcount : halves.length % 2 ^ 16 = 360 := by omega
  have hfirst : (⟨packetHeader 1 true 0, fun _ => 0⟩ : Packet) ∈ halves :=
    List.mem_map.mpr ⟨0, List.mem_range.mpr (by norm_num), rfl⟩
  have hparity : usbtvOdd (packetHeader 1 true 0) = usbtvOdd (packetHeader 1 false 359) :=
    hodd hcount ⟨packetHeader 1 true 0, fun _ => 0⟩ hfirst
  exact absurd hparity (by decide)

end Assembler

end UsbTv
