import UsbTv.Driver.Steps
import UsbTv.Driver.Interleaved

set_option relaxedAutoImplicit false
set_option autoImplicit false

/-!
# The flags of interleaved frames

With scan type `INTERLEAVED` a frame is made of two fields, but `_packetsDone` counts the packets
of one: the second field starts it again, and the flag is set from it once more when that field is
finished. So `FRAME_COMPLETE` says that nothing of the even field was lost, and nothing about the
odd one.

## Main definitions

* `UsbTv.Assembler.FlagsCoverPairs` — the flag of a frame is right for both of its fields.

## Main results

* `UsbTv.Assembler.feed_packetsBelow_packetsDone` — `_packetsDone` counts the packets of a field.
* `UsbTv.Assembler.handedDuring_flags` — the flag is that of the field that completed the frame.
* `UsbTv.Assembler.flagsCoverPairs_iff` — when flags are right for both fields.
-/

namespace UsbTv

namespace Assembler

section Field

variable {N : ℕ} (f : VideoField N) (a : Assembler) (answer : ℕ → Answer)
variable (hp : a.packetsPerField = N)
  (hcount : f.id ≠ a.currentFrameId ∨ a.packetsDone = 0)

include hp

lemma accepted_packet {k : ℕ} (hk : k < N) : (f.packet k).Accepted a.packetsPerField := by
  have h := a.not_ignored_packet f hp hk
  rwa [ignored_iff, not_not] at h

include hcount

/-- **`_packetsDone` counts the packets of a field** that has a new id or comes when nothing is
counted. -/
lemma feed_packetsBelow_packetsDone {k : ℕ} (hk : k ≤ N) :
    (a.feed answer (f.packetsBelow k)).packetsDone =
        (if f.numbers k = [] then a.packetsDone else (f.numbers k).length) ∧
      (a.feed answer (f.packetsBelow k)).currentFrameId =
        if f.numbers k = [] then a.currentFrameId else f.id := by
  have hN := f.le_of_valid
  induction k with
  | zero => exact ⟨rfl, rfl⟩
  | succ k ih =>
    obtain ⟨hdone, hcur⟩ := ih (by omega)
    cases hr : f.received k with
    | false =>
      rw [f.packetsBelow_succ_of_lost hr, f.numbers_succ_of_lost hr]
      exact ⟨hdone, hcur⟩
    | true =>
      set b := a.feed answer (f.packetsBelow k) with hb
      have hcfg : b.packetsPerField = N :=
        (a.feed_config answer (f.packetsBelow k)).packetsPerField.trans hp
      have hacc := b.accepted_packet f hcfg (k := k) (by omega)
      obtain ⟨-, hfid, -, hno⟩ := f.valid k (by omega)
      have hlen := f.length_numbers_le k
      have hne : f.numbers k ++ [k] ≠ [] := by simp
      rw [f.packetsBelow_succ_of_received hr, f.numbers_succ_of_received hr, feed_append, ← hb,
        feed_cons, feed_nil, b.processPacket_packetsDone answer hacc (by omega),
        b.processPacket_currentFrameId answer hacc (by omega), hfid, List.length_append,
        List.length_singleton, if_neg hne, if_neg hne]
      refine ⟨?_, rfl⟩
      -- the first packet finds a new id or nothing counted, a later one the id of the field
      have hold : (if b.Starts (f.packet k) then 0 else b.packetsDone) = (f.numbers k).length := by
        by_cases hnil : f.numbers k = []
        · rw [if_pos hnil] at hdone hcur
          rw [hnil, List.length_nil]
          split_ifs with hs
          · rfl
          · rw [hdone]
            simp only [Starts, hfid, hcur, not_or, ne_eq, not_not] at hs
            exact hcount.resolve_left (not_not.mpr hs.2)
        · rw [if_neg hnil] at hdone hcur
          have hk0 : k ≠ 0 := by
            rintro rfl
            exact hnil f.numbers_zero
          have hs : ¬ b.Starts (f.packet k) := by
            simp only [Starts, hfid, hno, hcur, not_or, ne_eq, not_not]
            exact ⟨hk0, trivial⟩
          rw [if_neg hs, hdone]
      rw [hold]
      omega

/-- The frame that a field completes is flagged by the losses of that field. -/
lemma feed_field_flags (h0 : 0 < N) (hf : f.Finishes) :
    ∀ h ∈ (a.feed answer f.packets).handed.drop a.handed.length,
      h.frame.flags = if f.Whole then frameComplete else framePartial := by
  have hN := f.le_of_valid
  obtain ⟨n, rfl⟩ : ∃ n, N = n + 1 := ⟨N - 1, by omega⟩
  have hr : f.received n = true := hf
  intro h hh
  have hbelow := WrittenFrom.feed_packetsBelow f a answer hp (by omega) (Nat.lt_succ_self n)
  have hall := feed_packetsBelow_packetsDone f a answer hp hcount le_rfl
  rw [VideoField.packets, f.packetsBelow_succ_of_received hr, feed_append, feed_cons,
    feed_nil] at hh
  rw [f.packetsBelow_succ_of_received hr, feed_append, feed_cons, feed_nil,
    f.numbers_succ_of_received hr, if_neg (by simp), ← f.numbers_succ_of_received hr] at hall
  set b := a.feed answer (f.packetsBelow n) with hb
  have hcfg : b.packetsPerField = n + 1 := hbelow.packetsPerField.trans hp
  have hacc := b.accepted_packet f hcfg (Nat.lt_succ_self n)
  rw [← hbelow.handed, b.processPacket_drop_handed answer _ (by omega)] at hh
  split_ifs at hh
  · obtain rfl := List.mem_singleton.mp hh
    rw [flagFinished_inputFrame]
    simp only [receive_packetsPerField, hcfg]
    rw [receive_packetsDone, ← b.processPacket_packetsDone answer hacc (by omega), hall.1]
    simp only [f.length_numbers_eq_iff]
  · exact absurd hh List.not_mem_nil

end Field

/-! ## Streams -/

variable {N : ℕ} (a : Assembler) (answer : ℕ → Answer) (stream : List (VideoField N))

/-- **The flag of a frame is right for both of its fields**: a frame handed over in field `j` is
made of the odd field before it and of that even field, and it is flagged complete if no packet of
either was lost, and partial otherwise. -/
def FlagsCoverPairs : Prop :=
  ∀ j g, stream[j]? = some g → ∀ h ∈ a.handedDuring answer stream j,
    ∃ i f, j = i + 1 ∧ stream[i]? = some f ∧ f.odd = true ∧ g.odd = false ∧
      h.frame.flags = if f.Whole ∧ g.Whole then frameComplete else framePartial

section Streams

variable (hp : a.packetsPerField = N) (h0 : 0 < N)
  (hscan : a.frameParams.scanType = .interleaved)
  (hfirst : ∀ f, stream[0]? = some f → f.id ≠ a.currentFrameId ∨ a.packetsDone = 0)
  (hids : stream.IsChain fun f g => f.id ≠ g.id)
  (halt : stream.IsChain fun f g => g.odd = !f.odd)
  (hfin : ∀ f ∈ stream, f.Finishes)

include hp h0 hfin in
/-- After a field that was finished its id is the current one. -/
lemma before_currentFrameId {j : ℕ} {f : VideoField N} (hf : stream[j]? = some f)
    (hcount : f.id ≠ (a.before answer stream j).currentFrameId ∨
      (a.before answer stream j).packetsDone = 0) :
    (a.before answer stream (j + 1)).currentFrameId = f.id := by
  have hp' := (a.before_packetsPerField answer stream j).trans hp
  have hs := (hfin f (List.mem_of_getElem? hf)).survives h0
  rw [a.before_succ answer stream hf, VideoField.packets,
    (feed_packetsBelow_packetsDone f _ answer hp' hcount le_rfl).2, if_neg hs]

include hp h0 hfin hids hfirst in
/-- Every field has a new id, or comes when nothing is counted. -/
lemma before_counts {j : ℕ} {f : VideoField N} (hf : stream[j]? = some f) :
    f.id ≠ (a.before answer stream j).currentFrameId ∨
      (a.before answer stream j).packetsDone = 0 := by
  induction j generalizing f with
  | zero => exact hfirst f hf
  | succ j ih =>
    left
    obtain ⟨hj, hfj⟩ := List.getElem?_eq_some_iff.mp hf
    have hprev : stream[j]? = some stream[j] := List.getElem?_eq_getElem (by omega)
    have hne := List.isChain_iff_getElem.mp hids j hj
    rw [before_currentFrameId a answer stream hp h0 hfin hprev (ih hprev), ← hfj]
    exact hne.symm

include hp h0 hfin hids hfirst in
/-- **The flag of a frame** is that of the field that completed it. -/
lemma handedDuring_flags {j : ℕ} {g : VideoField N} (hg : stream[j]? = some g) {h : Handover}
    (hh : h ∈ a.handedDuring answer stream j) :
    h.frame.flags = if g.Whole then frameComplete else framePartial := by
  rw [handedDuring, a.before_succ answer stream hg] at hh
  exact feed_field_flags g _ answer ((a.before_packetsPerField answer stream j).trans hp)
    (before_counts a answer stream hp h0 hfirst hids hfin hg) h0
    (hfin g (List.mem_of_getElem? hg)) h hh

include halt in
/-- Of two fields one after the other, one is odd. -/
lemma odd_succ {i : ℕ} {f g : VideoField N} (hf : stream[i]? = some f)
    (hg : stream[i + 1]? = some g) : g.odd = !f.odd := by
  obtain ⟨hi, rfl⟩ := List.getElem?_eq_some_iff.mp hf
  obtain ⟨hi', rfl⟩ := List.getElem?_eq_some_iff.mp hg
  exact List.isChain_iff_getElem.mp halt i hi'

include hp h0 hscan hfin halt in
/-- While every field is finished, `_secondFrame` is set exactly after the odd ones. -/
lemma before_secondFrame (hsecond : a.secondFrame = false) {i : ℕ} {f : VideoField N}
    (hf : stream[i]? = some f) : (a.before answer stream (i + 1)).secondFrame = f.odd := by
  have hscan' : (a.before answer stream i).frameParams.scanType = .interleaved := by
    rw [before_frameParams, hscan]
  have hp' := (a.before_packetsPerField answer stream i).trans hp
  have hffin := hfin f (List.mem_of_getElem? hf)
  rw [a.before_succ answer stream hf]
  cases hset : (a.before answer stream i).secondFrame with
  | false => exact (feed_field_first _ answer f hp' h0 hscan' hffin hset).1
  | true =>
    rw [(feed_field_second _ answer f hp' h0 hscan' hffin hset).1]
    -- the odd field that set it is the one before
    obtain ⟨j, hji, e, he, hodd, -, -, hnone⟩ :=
      exists_first_of_secondFrame a answer stream hp h0 hscan hsecond hset
    have hij : i = j + 1 := by
      by_contra hne
      obtain ⟨hi, -⟩ := List.getElem?_eq_some_iff.mp hf
      have hnext : stream[j + 1]? = some stream[j + 1] := List.getElem?_eq_getElem (by omega)
      exact hnone (j + 1) _ (by omega) (by omega) hnext (hfin _ (List.mem_of_getElem? hnext))
    subst hij
    rw [odd_succ stream halt he hf, hodd]
    rfl

include hp h0 hscan hfirst hids halt hfin

/-- Where flags are right for both fields, an odd field is whole if the even field after it is. -/
lemma FlagsCoverPairs.whole (hcover : a.FlagsCoverPairs answer stream)
    (hsecond : a.secondFrame = false) {i : ℕ} {f g : VideoField N} (hf : stream[i]? = some f)
    (hg : stream[i + 1]? = some g) (hodd : f.odd = true) (hwhole : g.Whole) : f.Whole := by
  obtain ⟨h, hh⟩ := exists_mem_handedDuring a answer stream hp h0 hscan hg
    (hfin g (List.mem_of_getElem? hg))
    ((before_secondFrame a answer stream hp h0 hscan halt hfin hsecond hf).trans hodd)
  obtain ⟨i', f', hi', hf', -, -, hflag⟩ := hcover (i + 1) g hg h hh
  obtain rfl : i = i' := by omega
  obtain rfl : f = f' := Option.some_inj.mp (hf.symm.trans hf')
  rw [handedDuring_flags a answer stream hp h0 hfirst hids hfin hg hh, if_pos hwhole] at hflag
  by_contra hlost
  rw [if_neg fun h => hlost h.1] at hflag
  exact absurd hflag (by decide)

/-- If the odd field is whole whenever the even one is, flags are right for both. -/
lemma flagsCoverPairs_of_whole (hsecond : a.secondFrame = false)
    (hwhole : ∀ i f g, stream[i]? = some f → stream[i + 1]? = some g → f.odd = true → g.Whole →
      f.Whole) : a.FlagsCoverPairs answer stream := by
  intro j g hg h hh
  obtain ⟨-, hset, -, -⟩ := mem_handedDuring a answer stream hp h0 hscan hg hh
  cases j with
  | zero =>
    have hzero : a.before answer stream 0 = a := rfl
    rw [hzero, hsecond] at hset
    exact absurd hset (by simp)
  | succ i =>
    obtain ⟨hi, -⟩ := List.getElem?_eq_some_iff.mp hg
    have hf : stream[i]? = some stream[i] := List.getElem?_eq_getElem (by omega)
    have hodd : stream[i].odd = true := by
      rw [← before_secondFrame a answer stream hp h0 hscan halt hfin hsecond hf, hset]
    refine ⟨i, stream[i], rfl, hf, hodd, ?_, ?_⟩
    · rw [odd_succ stream halt hf hg, hodd]
      rfl
    · rw [handedDuring_flags a answer stream hp h0 hfirst hids hfin hg hh]
      have hiff : g.Whole ↔ stream[i].Whole ∧ g.Whole :=
        ⟨fun hw => ⟨hwhole i _ g hf hg hodd hw, hw⟩, And.right⟩
      simp only [← hiff]

/-- **When flags are right for both fields**: in a stream of which every field is finished,
exactly when `_secondFrame` is clear at its start and after no damaged odd field the even field is
whole.

**Proof sketch.** Every frame is flagged by its even field. That is the flag of both if the odd
field is whole whenever the even one is; and each pair does make a frame, as `_secondFrame` is
set exactly after the odd fields. -/
theorem flagsCoverPairs_iff :
    a.FlagsCoverPairs answer stream ↔ (a.secondFrame = true → stream = []) ∧
      ∀ i f g, stream[i]? = some f → stream[i + 1]? = some g → f.odd = true → g.Whole →
        f.Whole := by
  cases hset : a.secondFrame with
  | false =>
    refine ⟨fun hcover => ⟨by simp, fun i f g hf hg hodd hw => ?_⟩, fun h => ?_⟩
    · exact hcover.whole a answer stream hp h0 hscan hfirst hids halt hfin hset hf hg hodd hw
    · exact flagsCoverPairs_of_whole a answer stream hp h0 hscan hfirst hids halt hfin hset h.2
  | true =>
    cases stream with
    | nil => simp [FlagsCoverPairs]
    | cons f fs =>
      -- the first field completes a frame that no odd field began
      refine ⟨fun hcover => ?_, fun h => absurd (h.1 rfl) (by simp)⟩
      obtain ⟨h, hh⟩ := exists_mem_handedDuring a answer (f :: fs) hp h0 hscan (j := 0) rfl
        (hfin f List.mem_cons_self) hset
      obtain ⟨i, -, hi, -⟩ := hcover 0 f rfl h hh
      omega

end Streams

/-- An odd and an even field of an NTSC stream, the odd one with the packets that `received`
tells and the even one whole. -/
def oddAndEven (received : ℕ → Bool) : List (VideoField 360) :=
  [VideoField.ofPayload (by norm_num) 1 (by norm_num) true (fun _ _ => 0) received,
    VideoField.ofPayload (by norm_num) 2 (by norm_num) false (fun _ _ => 0) fun _ => true]

/-- A driver at the start of its first stream, interleaved NTSC. -/
def firstInterleaved : Assembler :=
  fresh (nativeFrameParams (Java.Builder.new.setScanType .interleaved).build) 360
    fun _ => ⟨691200, fun _ => none, 0, frameStart, false⟩

/-- Two whole fields. -/
theorem flagsCoverPairs_iff_oddAndEven :
    firstInterleaved.FlagsCoverPairs (fun _ => .refused) (oddAndEven fun _ => true) ↔
      (firstInterleaved.secondFrame = true → oddAndEven (fun _ => true) = []) ∧
        ∀ i f g, (oddAndEven fun _ => true)[i]? = some f →
          (oddAndEven fun _ => true)[i + 1]? = some g → f.odd = true → g.Whole → f.Whole :=
  flagsCoverPairs_iff firstInterleaved (fun _ => .refused) (oddAndEven fun _ => true) rfl
    (by norm_num) rfl (fun _ _ => .inr rfl) (by decide) (by decide) (by decide)

/-- **A frame flagged complete with a hole**: the first packet of the odd field is lost, and the
even field is whole. -/
theorem not_flagsCoverPairs_oddAndEven :
    ((oddAndEven (· != 0)).IsChain fun f g => f.id ≠ g.id) ∧
      ((oddAndEven (· != 0)).IsChain fun f g => g.odd = !f.odd) ∧
      (∀ f ∈ oddAndEven (· != 0), f.Finishes) ∧
      ¬ firstInterleaved.FlagsCoverPairs (fun _ => .refused) (oddAndEven (· != 0)) := by
  refine ⟨by decide, by decide, by decide, fun hcover => ?_⟩
  have hp : firstInterleaved.packetsPerField = 360 := rfl
  have hwhole := hcover.whole firstInterleaved _ _ hp (by norm_num) rfl (fun _ _ => .inr rfl)
    (by decide) (by decide) (by decide) rfl (i := 0) rfl rfl rfl fun _ _ => rfl
  exact absurd (hwhole 0 (by norm_num)) (by decide)

end Assembler

end UsbTv
