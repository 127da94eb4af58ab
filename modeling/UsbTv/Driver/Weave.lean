import Mathlib.Data.List.Nodup
import UsbTv.Driver.Assembly

set_option relaxedAutoImplicit false
set_option autoImplicit false

/-!
# The two placements agree

`packetToProgressiveFrame` puts the packets of a field one after the other.
`packetToInterleavedFrame` cuts each packet into halves and puts the field on every other line
of the frame, the odd field first. Three halves make a line of 720 pixels, so where the number of
packets of a field is a multiple of three, a field is a number of whole lines, and the
interleaved frame is woven from the two progressive ones.

Half `m` of a field, counted from the first half of packet `0` on, is what the two placements have
in common: one puts it at `480 * m`, the other on line `m / 3` of the field.

## Main definitions

* `UsbTv.halfAt` — the half packet at a destination.
* `UsbTv.weave`, `UsbTv.build` — the copies that place both fields, and one of them.

## Main results

* `UsbTv.weave_apply`, `UsbTv.build_apply` — where a half packet is found.
* `UsbTv.weave_eq_build` — the lines of the woven frame are those of the two fields.
-/

namespace UsbTv

/-- The copy of half `part` of a field to the destination `dst`. -/
def halfAt (dst : ℕ) (payload : ℕ → ℕ → UInt8) (part : ℕ) : Copy UInt8 :=
  ⟨dst, 480, fun b => payload (part / 2) (480 * (part % 2) + b)⟩

/-- Where half `part` of the field of the given parity goes in an interleaved frame of width
720. -/
def partOffset (isOdd : Bool) (part : ℕ) : ℕ :=
  (part / 3 * 2 + if isOdd then 0 else 1) * 1440 + 480 * (part % 3)

/-- The copies of `packetToInterleavedFrame` for packets of both fields, each given by its parity
and number. -/
def weave (frameWidth : ℕ) (payload : Bool → ℕ → ℕ → UInt8) (order : List (Bool × ℕ)) :
    List (Copy UInt8) :=
  order.flatMap fun p =>
    Assembler.packetToInterleavedFrame frameWidth (payload p.1 p.2) p.2 p.1

/-- The copies of `packetToProgressiveFrame` for packets of one field. -/
def build (payload : ℕ → ℕ → UInt8) (order : List ℕ) : List (Copy UInt8) :=
  order.flatMap fun k => Assembler.packetToProgressiveFrame (payload k) k

/-- All packets of an odd and an even field of `N` packets. -/
def bothFields (N : ℕ) : List (Bool × ℕ) :=
  (List.range N).map (true, ·) ++ (List.range N).map (false, ·)

/-! ## Half packets -/

/-- Distinct halves of the two fields do not overlap in an interleaved frame. -/
lemma not_covers_partOffset {odd odd' : Bool} {part part' : ℕ}
    (hne : odd = odd' → part ≠ part') (payload payload' : ℕ → ℕ → UInt8) (i : ℕ)
    (h : (halfAt (partOffset odd part) payload part).Covers i) :
    ¬ (halfAt (partOffset odd' part') payload' part').Covers i := by
  intro h'
  simp only [Copy.Covers, halfAt, partOffset] at h h'
  cases odd <;> cases odd' <;> simp at hne h h' <;> omega

/-- A packet is placed in an interleaved frame as its two halves. -/
lemma packetToInterleavedFrame_eq (payload : ℕ → ℕ → UInt8) {k : ℕ} (hk : k < 2 ^ 16)
    (isOdd : Bool) :
    Assembler.packetToInterleavedFrame 720 (payload k) k isOdd =
      [halfAt (partOffset isOdd (2 * k)) payload (2 * k),
        halfAt (partOffset isOdd (2 * k + 1)) payload (2 * k + 1)] := by
  have hoff : ∀ half < 2, Assembler.interleavedOffset 720 k half isOdd =
      partOffset isOdd (2 * k + half) := by
    intro half hhalf
    rw [Assembler.interleavedOffset_eq hk hhalf, Nat.mul_comm k 2]
    rfl
  have hdiv : (2 * k + 1) / 2 = k := by omega
  have hmod : (2 * k + 1) % 2 = 1 := by omega
  simp only [Assembler.packetToInterleavedFrame, hoff 0 (by norm_num), hoff 1 (by norm_num),
    halfAt, usbtvPayloadSize, hdiv, hmod]
  simp

/-- The numbers of `bothFields` are those of the packets of a field. -/
lemma mem_bothFields {N : ℕ} {p : Bool × ℕ} : p ∈ bothFields N ↔ p.2 < N := by
  obtain ⟨odd, k⟩ := p
  cases odd <;> simp [bothFields]

lemma nodup_bothFields (N : ℕ) : (bothFields N).Nodup := by
  rw [bothFields, List.nodup_append]
  refine ⟨List.Nodup.map (Prod.mk_right_injective true) List.nodup_range,
    List.Nodup.map (Prod.mk_right_injective false) List.nodup_range, fun a ha b hb hab => ?_⟩
  simp only [List.mem_map] at ha hb
  obtain ⟨⟨_, -, rfl⟩, _, -, rfl⟩ := And.intro ha hb
  simp at hab

/-! ## The woven frame -/

section

variable {N : ℕ} (hN : N < 2 ^ 16) (payload : Bool → ℕ → ℕ → UInt8)

include hN

/-- What is copied into a woven frame are the halves of the packets of both fields. -/
lemma mem_weave {order : List (Bool × ℕ)} (horder : order.Perm (bothFields N)) {c : Copy UInt8} :
    c ∈ weave 720 payload order ↔
      ∃ odd part, part < 2 * N ∧ c = halfAt (partOffset odd part) (payload odd) part := by
  have hmem : ∀ p : Bool × ℕ, p ∈ order ↔ p.2 < N :=
    fun p => (horder.mem_iff).trans mem_bothFields
  rw [weave, List.mem_flatMap]
  constructor
  · rintro ⟨⟨odd, k⟩, hp, hc⟩
    have hk : k < N := (hmem _).mp hp
    rw [packetToInterleavedFrame_eq (payload odd) (hk.trans hN), List.mem_pair] at hc
    rcases hc with rfl | rfl
    · exact ⟨odd, 2 * k, by omega, rfl⟩
    · exact ⟨odd, 2 * k + 1, by omega, rfl⟩
  · rintro ⟨odd, part, hpart, rfl⟩
    have hk : part / 2 < N := by omega
    refine ⟨(odd, part / 2), (hmem _).mpr hk, ?_⟩
    rw [packetToInterleavedFrame_eq (payload odd) (hk.trans hN), List.mem_pair]
    rcases Nat.mod_two_eq_zero_or_one part with h | h
    · left
      rw [show 2 * (part / 2) = part by omega]
    · right
      rw [show 2 * (part / 2) + 1 = part by omega]

/-- The copies into a woven frame do not overlap. -/
lemma pairwise_weave {order : List (Bool × ℕ)} (horder : order.Perm (bothFields N)) :
    (weave 720 payload order).Pairwise fun c c' => ∀ i, c.Covers i → ¬ c'.Covers i := by
  have hmem : ∀ p : Bool × ℕ, p ∈ order → p.2 < 2 ^ 16 := fun p hp =>
    (mem_bothFields.mp (horder.mem_iff.mp hp)).trans hN
  rw [weave, List.pairwise_flatMap]
  constructor
  · intro p hp
    rw [packetToInterleavedFrame_eq (payload p.1) (hmem p hp), List.pairwise_pair]
    exact not_covers_partOffset (fun _ => by omega) _ _
  · have hnodup : order.Nodup := (horder.nodup_iff).mpr (nodup_bothFields N)
    refine (List.Pairwise.and_mem.mp hnodup).imp fun {p q} h c hc c' hc' => ?_
    obtain ⟨hp, hq, hne⟩ := h
    rw [packetToInterleavedFrame_eq (payload p.1) (hmem p hp), List.mem_pair] at hc
    rw [packetToInterleavedFrame_eq (payload q.1) (hmem q hq), List.mem_pair] at hc'
    have hkey : p.1 = q.1 → p.2 ≠ q.2 := fun h1 h2 => hne (Prod.ext h1 h2)
    rcases hc with rfl | rfl <;> rcases hc' with rfl | rfl <;>
      exact not_covers_partOffset (fun h => by have := hkey h; omega) _ _

/-- **Where a woven frame holds a half packet.** -/
lemma weave_apply {order : List (Bool × ℕ)} (horder : order.Perm (bothFields N)) (m : Mem UInt8)
    (odd : Bool) {part : ℕ} (hpart : part < 2 * N) {b : ℕ} (hb : b < 480) :
    m.copies (weave 720 payload order) (partOffset odd part + b) =
      some (payload odd (part / 2) (480 * (part % 2) + b)) :=
  Mem.copies_apply_of_mem (pairwise_weave hN payload horder)
    ((mem_weave hN payload horder).mpr ⟨odd, part, hpart, rfl⟩) m hb

end

/-! ## The frame of one field -/

section

variable {N : ℕ} (hN : N < 2 ^ 16) (payload : ℕ → ℕ → UInt8)

include hN

/-- What is copied into a progressive frame are the packets, each at its place. -/
lemma build_eq {order : List ℕ} (horder : order.Perm (List.range N)) :
    build payload order = order.map fun k => ⟨960 * k, 960, payload k⟩ := by
  have hplace : ∀ k ∈ order, Assembler.packetToProgressiveFrame (payload k) k =
      [⟨960 * k, 960, payload k⟩] := by
    intro k hk
    have hk' : k < N := List.mem_range.mp (horder.mem_iff.mp hk)
    rw [Assembler.packetToProgressiveFrame, Assembler.progressiveOffset_eq (hk'.trans hN)]
    rfl
  rw [build, List.flatMap_congr hplace, List.map_eq_flatMap]

/-- **Where a progressive frame holds a half packet.** -/
lemma build_apply {order : List ℕ} (horder : order.Perm (List.range N)) (m : Mem UInt8)
    {part : ℕ} (hpart : part < 2 * N) {b : ℕ} (hb : b < 480) :
    m.copies (build payload order) (480 * part + b) =
      some (payload (part / 2) (480 * (part % 2) + b)) := by
  rw [build_eq hN payload horder]
  have hdisjoint : (order.map fun k => (⟨960 * k, 960, payload k⟩ : Copy UInt8)).Pairwise
      fun c c' => ∀ i, c.Covers i → ¬ c'.Covers i := by
    rw [List.pairwise_map]
    have hnodup : order.Nodup := (horder.nodup_iff).mpr List.nodup_range
    refine hnodup.imp fun {j k} hjk i hj hk => hjk ?_
    simp only [Copy.Covers] at hj hk
    omega
  have hmem : part / 2 ∈ order := (horder.mem_iff).mpr (List.mem_range.mpr (by omega))
  have h := Mem.copies_apply_of_mem hdisjoint (List.mem_map.mpr ⟨part / 2, hmem, rfl⟩) m
    (b := 480 * (part % 2) + b) (show _ < 960 by omega)
  have haddr : 960 * (part / 2) + (480 * (part % 2) + b) = 480 * part + b := by omega
  rw [← haddr]
  exact h

/-- Nothing is written behind the last packet of a progressive frame. -/
lemma build_apply_of_le {order : List ℕ} (horder : order.Perm (List.range N)) (m : Mem UInt8)
    {x : ℕ} (hx : 960 * N ≤ x) : m.copies (build payload order) x = m x := by
  rw [build_eq hN payload horder]
  refine Mem.copies_apply_of_forall_not_covers (fun c hc hcov => ?_) m
  obtain ⟨k, hk, rfl⟩ := List.mem_map.mp hc
  have hk' : k < N := List.mem_range.mp (horder.mem_iff.mp hk)
  simp only [Copy.Covers] at hcov
  omega

end

/-! ## Lines -/

/-- Byte `x` of line `k` of a field is byte `x % 480` of its half `3 * k + x / 480`. -/
lemma line_eq_half (k x : ℕ) : k * 1440 + x = 480 * (3 * k + x / 480) + x % 480 := by omega

/-- The same byte in the woven frame. -/
lemma line_eq_partOffset (odd : Bool) (k : ℕ) {x : ℕ} (hx : x < 1440) :
    (2 * k + if odd then 0 else 1) * 1440 + x =
      partOffset odd (3 * k + x / 480) + x % 480 := by
  have hdiv : (3 * k + x / 480) / 3 = k := by omega
  have hmod : (3 * k + x / 480) % 3 = x / 480 := by omega
  rw [partOffset, hdiv, hmod, Nat.mul_comm k 2]
  generalize (2 * k + if odd then 0 else 1) * 1440 = line
  omega

/-- **The interleaved frame is woven from the two progressive ones**: with frames of width 720
and fields whose number of packets is a multiple of three, whatever the order of the packets,
line `k` of the odd field is line `2 * k` of the woven frame and line `k` of the even field is
line `2 * k + 1`; every byte of the frame is written once, and no other byte is.

The lines behind the last one of a field, which nothing is written to, agree if they did
before. -/
theorem weave_eq_build {N : ℕ} (hN : N < 2 ^ 16) (hthree : 3 ∣ N)
    (payload : Bool → ℕ → ℕ → UInt8) {order : List (Bool × ℕ)}
    (horder : order.Perm (bothFields N)) {fieldOrder : Bool → List ℕ}
    (hfield : ∀ odd, (fieldOrder odd).Perm (List.range N)) (m : Mem UInt8)
    (p : Bool → Mem UInt8) :
    (∀ odd k x, x < 1440 →
      (2 * N ≤ 3 * k → m ((2 * k + if odd then 0 else 1) * 1440 + x) = p odd (k * 1440 + x)) →
      m.copies (weave 720 payload order) ((2 * k + if odd then 0 else 1) * 1440 + x) =
        (p odd).copies (build (payload odd) (fieldOrder odd)) (k * 1440 + x)) ∧
    (∀ y < 2 * 960 * N, (weave 720 payload order).countP (fun c => c.Covers y) = 1) ∧
    ∀ y, 2 * 960 * N ≤ y → (weave 720 payload order).countP (fun c => c.Covers y) = 0 := by
  obtain ⟨n, rfl⟩ := hthree
  have hbehind : ∀ y, 2 * 960 * (3 * n) ≤ y → ∀ c ∈ weave 720 payload order, ¬ c.Covers y := by
    intro y hy c hc hcov
    obtain ⟨odd, part, hpart, rfl⟩ := (mem_weave hN payload horder).mp hc
    simp only [Copy.Covers, halfAt, partOffset] at hcov
    cases odd <;> simp at hcov <;> omega
  refine ⟨fun odd k x hx hold => ?_, fun y hy => ?_, fun y hy => ?_⟩
  · have hweave := line_eq_partOffset odd k hx
    have hbuild := line_eq_half k x
    rcases Nat.lt_or_ge (3 * k) (2 * (3 * n)) with hk | hk
    · have hpart : 3 * k + x / 480 < 2 * (3 * n) := by omega
      have hb : x % 480 < 480 := Nat.mod_lt _ (by norm_num)
      rw [hweave, weave_apply hN payload horder m odd hpart hb, hbuild,
        build_apply hN (payload odd) (hfield odd) (p odd) hpart hb]
    · rw [Mem.copies_apply_of_forall_not_covers (hbehind _ (by omega)),
        build_apply_of_le hN (payload odd) (hfield odd) (p odd) (by omega)]
      exact hold hk
  · -- byte `y` lies on line `y / 1440`
    have hline : ∃ odd part, part < 2 * (3 * n) ∧
        (halfAt (partOffset odd part) (payload odd) part).Covers y := by
      refine ⟨decide (y / 1440 % 2 = 0), 3 * (y / 1440 / 2) + y % 1440 / 480, by omega, ?_⟩
      simp only [Copy.Covers, halfAt, partOffset, decide_eq_true_eq]
      split_ifs <;> omega
    obtain ⟨odd, part, hpart, hcov⟩ := hline
    exact Copy.countP_covers_eq_one (pairwise_weave hN payload horder)
      ((mem_weave hN payload horder).mpr ⟨odd, part, hpart, rfl⟩) hcov
  · rw [List.countP_eq_zero]
    intro c hc
    simpa using hbehind y hy c hc

/-- The packets of two fields of three packets, the even one last packet first. -/
theorem weave_eq_build_three :
    let payload := fun (odd : Bool) (k b : ℕ) => UInt8.ofNat (k + b + odd.toNat)
    let order := [(false, 2), (true, 0), (false, 1), (true, 1), (true, 2), (false, 0)]
    (∀ odd k x, x < 1440 → (2 * 3 ≤ 3 * k → (none : Option UInt8) = none) →
      Mem.copies (fun _ => none) (weave 720 payload order)
          ((2 * k + if odd then 0 else 1) * 1440 + x) =
        Mem.copies (fun _ => none) (build (payload odd) [0, 1, 2]) (k * 1440 + x)) ∧
    (∀ y < 2 * 960 * 3, (weave 720 payload order).countP (fun c => c.Covers y) = 1) ∧
    ∀ y, 2 * 960 * 3 ≤ y → (weave 720 payload order).countP (fun c => c.Covers y) = 0 := by
  intro payload order
  have horder : order.Perm (bothFields 3) := by decide
  have hfield : ∀ odd : Bool, ((fun _ => [0, 1, 2]) odd : List ℕ).Perm (List.range 3) :=
    fun _ => List.Perm.refl _
  exact weave_eq_build (by norm_num) (by norm_num) payload horder hfield (fun _ => none)
    fun _ _ => none

end UsbTv
