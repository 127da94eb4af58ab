import Mathlib.Logic.Function.Basic
import Mathlib.Data.List.Basic

set_option relaxedAutoImplicit false
set_option autoImplicit false

/-!
# Partial memories and block copies

A block of memory as the program may know it: every address holds a value or, when nothing
has been written there since the block was allocated, nothing at all. `memcpy` is a block copy
into such a memory; `Copy` records where a copy goes, so that the ranges a procedure writes are
data that can be bounded, compared and replayed.

## Main definitions

* `Mem` — a partial memory.
* `Copy` — one block copy: destination offset, length and source.
* `Copy.apply`, `Mem.copies` — one copy, and a list of copies in order.

## Main results

* `Mem.copies_apply_of_forall_not_covers` — addresses that no copy covers keep their contents.
* `Mem.copies_apply_of_mem` — a copy that overlaps no later one can be read back.
* `Copy.countP_covers_eq_one` — copies that do not overlap write each address once.
* `Mem.copies_congr` — copies act on each address by itself.
-/

/-- A memory whose cells may not have been written yet. -/
abbrev Mem (β : Type*) := ℕ → Option β

/-- A block copy of the `len` cells of `src` to the destination offset `dst`. -/
structure Copy (β : Type*) where
  /-- Offset of the first cell written. -/
  dst : ℕ
  /-- Number of cells written. -/
  len : ℕ
  /-- The cells copied, from the first on. -/
  src : ℕ → β

variable {β : Type*}

/-- The copy writes address `i`. -/
def Copy.Covers (c : Copy β) (i : ℕ) : Prop := c.dst ≤ i ∧ i < c.dst + c.len

instance (c : Copy β) (i : ℕ) : Decidable (c.Covers i) :=
  inferInstanceAs (Decidable (_ ∧ _))

/-- The memory after one copy. -/
def Copy.apply (c : Copy β) (m : Mem β) : Mem β :=
  fun i => if c.Covers i then some (c.src (i - c.dst)) else m i

/-- The memory after a list of copies, done in order. -/
def Mem.copies (m : Mem β) (cs : List (Copy β)) : Mem β := cs.foldl (fun m c => c.apply m) m

/-- No copy, no change. -/
@[simp] lemma Mem.copies_nil (m : Mem β) : m.copies [] = m := rfl

/-- The first copy, then the others. -/
@[simp] lemma Mem.copies_cons (m : Mem β) (c : Copy β) (cs : List (Copy β)) :
    m.copies (c :: cs) = (c.apply m).copies cs := rfl

/-- Two lists of copies one after the other. -/
lemma Mem.copies_append (m : Mem β) (cs cs' : List (Copy β)) :
    m.copies (cs ++ cs') = (m.copies cs).copies cs' := by
  simp only [Mem.copies, List.foldl_append]

/-- A copy leaves the addresses outside its range alone. -/
lemma Copy.apply_of_not_covers (c : Copy β) {i : ℕ} (h : ¬ c.Covers i) (m : Mem β) :
    c.apply m i = m i := by
  simp only [Copy.apply, if_neg h]

/-- A copied cell can be read back. -/
lemma Copy.apply_dst_add (c : Copy β) (m : Mem β) {b : ℕ} (hb : b < c.len) :
    c.apply m (c.dst + b) = some (c.src b) := by
  have h : c.Covers (c.dst + b) := ⟨by omega, by omega⟩
  simp only [Copy.apply, if_pos h, Nat.add_sub_cancel_left]

/-- Addresses that none of the copies covers keep their contents. -/
lemma Mem.copies_apply_of_forall_not_covers {cs : List (Copy β)} {i : ℕ}
    (h : ∀ c ∈ cs, ¬ c.Covers i) (m : Mem β) : m.copies cs i = m i := by
  induction cs generalizing m with
  | nil => rfl
  | cons c cs ih =>
    rw [Mem.copies_cons, ih (fun c' hc' => h c' (List.mem_cons_of_mem _ hc')),
      c.apply_of_not_covers (h c List.mem_cons_self)]

/-- A copy none of whose cells a later copy covers can be read back after all of them. -/
lemma Mem.copies_apply_of_mem {cs : List (Copy β)}
    (hcs : cs.Pairwise fun c c' => ∀ i, c.Covers i → ¬ c'.Covers i) {c : Copy β} (hc : c ∈ cs)
    (m : Mem β) {b : ℕ} (hb : b < c.len) : m.copies cs (c.dst + b) = some (c.src b) := by
  induction cs generalizing m with
  | nil => exact absurd hc List.not_mem_nil
  | cons c₀ cs ih =>
    rw [List.pairwise_cons] at hcs
    rw [Mem.copies_cons]
    rcases List.mem_cons.mp hc with rfl | hc'
    · have hcov : c.Covers (c.dst + b) := ⟨by omega, by omega⟩
      rw [Mem.copies_apply_of_forall_not_covers fun c' hc' => hcs.1 c' hc' _ hcov]
      exact c.apply_dst_add m hb
    · exact ih hcs.2 hc' _

/-- Of copies that do not overlap, exactly one covers an address that one of them covers. -/
lemma Copy.countP_covers_eq_one {cs : List (Copy β)}
    (hcs : cs.Pairwise fun c c' => ∀ i, c.Covers i → ¬ c'.Covers i) {c : Copy β} (hc : c ∈ cs)
    {i : ℕ} (hi : c.Covers i) : cs.countP (fun c => c.Covers i) = 1 := by
  induction cs with
  | nil => exact absurd hc List.not_mem_nil
  | cons c₀ cs ih =>
    rw [List.pairwise_cons] at hcs
    by_cases h₀ : c₀.Covers i
    · have hzero : cs.countP (fun c => c.Covers i) = 0 := by
        rw [List.countP_eq_zero]
        intro c' hc'
        simpa using hcs.1 c' hc' i h₀
      rw [List.countP_cons_of_pos (by simpa using h₀), hzero]
    · rw [List.countP_cons_of_neg (by simpa using h₀)]
      rcases List.mem_cons.mp hc with rfl | hc'
      · exact absurd hi h₀
      · exact ih hcs.2 hc'

/-- What a list of copies leaves at an address depends only on what was at that address. -/
lemma Mem.copies_congr (cs : List (Copy β)) {m m' : Mem β} {i : ℕ} (h : m i = m' i) :
    m.copies cs i = m'.copies cs i := by
  induction cs generalizing m m' with
  | nil => exact h
  | cons c cs ih =>
    rw [copies_cons, copies_cons]
    apply ih
    by_cases hc : c.Covers i
    · simp only [Copy.apply, if_pos hc]
    · rw [c.apply_of_not_covers hc, c.apply_of_not_covers hc, h]
