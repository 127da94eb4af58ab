import Mathlib.Algebra.BigOperators.Fin
import Mathlib.Algebra.Order.BigOperators.Group.Finset

set_option relaxedAutoImplicit false
set_option autoImplicit false

/-!
# Items in custody

Items are passed on from one role to the next, and each item has a lock that is set as long as
some role has it. `held a i` counts how often role `a` has item `i`. The items are *guarded* if
each of them is had at most once in all, and not at all unless its lock is set.

There are three ways to move an item: a role takes an unlocked item and locks it, a role hands an
item over to another role, a role gives an item up and its lock is cleared. Each of them keeps
the items guarded.

The other way round, the items are *covered* if some role has each item whose lock is set. Then
no lock is left behind. Here one rule does for all moves: the item that is moved is unlocked in
the end, or some role has it, and the others stay where they are.

## Main definitions

* `Custody.Guarded` — the items of a set are guarded.
* `Custody.Covered` — the items of a set are covered.

## Main results

* `Custody.Guarded.role_unique` — an item has one role.
* `Custody.Guarded.take`, `Custody.Guarded.handOver`, `Custody.Guarded.giveUp` — the three moves.
* `Custody.Covered.move` — any move of one item.
-/

namespace Custody

variable {ρ ι : Type*} [Fintype ρ]

/-- The items of `P` are guarded: all roles together have each item at most once, and only if its
lock is set. -/
def Guarded (P : Set ι) (held : ρ → ι → ℕ) (lock : ι → Bool) : Prop :=
  ∀ i ∈ P, ∑ a, held a i ≤ (lock i).toNat

variable {P : Set ι} {held held' : ρ → ι → ℕ} {lock lock' : ι → Bool} {a b : ρ} {i : ι}

/-- One role has an item at most as often as all roles together. -/
lemma held_le_sum (held : ρ → ι → ℕ) (a : ρ) (i : ι) : held a i ≤ ∑ c, held c i :=
  Finset.single_le_sum (f := fun c => held c i) (fun _ _ => Nat.zero_le _) (Finset.mem_univ a)

/-- The sum over all roles, with one role apart. -/
lemma sum_eq_add_erase [DecidableEq ρ] (f : ρ → ℕ) (a : ρ) :
    ∑ c, f c = f a + ∑ c ∈ Finset.univ.erase a, f c :=
  (Finset.add_sum_erase Finset.univ f (Finset.mem_univ a)).symm

namespace Guarded

/-- A role has an item at most once. -/
lemma held_le_one (h : Guarded P held lock) (hi : i ∈ P) : held a i ≤ 1 :=
  calc held a i ≤ ∑ c, held c i := held_le_sum held a i
    _ ≤ (lock i).toNat := h i hi
    _ ≤ 1 := (lock i).toNat_le

/-- An item that a role has is locked. -/
lemma locked (h : Guarded P held lock) (hi : i ∈ P) (ha : 0 < held a i) : lock i = true := by
  have hsum := held_le_sum held a i
  have hlock := h i hi
  by_contra hunlocked
  rw [Bool.eq_false_iff.mpr hunlocked, Bool.toNat_false] at hlock
  omega

/-- **An item has one role.** -/
lemma role_unique (h : Guarded P held lock) (hi : i ∈ P) (ha : 0 < held a i) (hb : 0 < held b i) :
    a = b := by
  classical
  by_contra hne
  have hpair : held a i + held b i ≤ ∑ c, held c i := by
    rw [← Finset.sum_pair (f := fun c => held c i) hne]
    exact Finset.sum_le_sum_of_subset (Finset.subset_univ _)
  have hlock := (h i hi).trans (lock i).toNat_le
  omega

/-- What is not changed stays guarded, and so does what is given up but stays locked. -/
lemma mono (h : Guarded P held lock) (hheld : ∀ i ∈ P, ∀ a, held' a i ≤ held a i)
    (hlock : ∀ i ∈ P, lock' i = lock i) : Guarded P held' lock' := by
  intro i hi
  rw [hlock i hi]
  exact (Finset.sum_le_sum fun a _ => hheld i hi a).trans (h i hi)

/-- **A role takes an unlocked item** and locks it. -/
lemma take (h : Guarded P held lock) (hunlocked : lock i = false) (hlocked : lock' i = true)
    (htake : held' a i ≤ held a i + 1) (hrest : ∀ c ≠ a, held' c i ≤ held c i)
    (hheld : ∀ j ∈ P, j ≠ i → ∀ c, held' c j ≤ held c j)
    (hlock : ∀ j ∈ P, j ≠ i → lock' j = lock j) : Guarded P held' lock' := by
  classical
  intro j hj
  by_cases hji : j = i
  · subst hji
    have hnone := h j hj
    rw [hunlocked, Bool.toNat_false, sum_eq_add_erase _ a] at hnone
    have hle : ∑ c ∈ Finset.univ.erase a, held' c j ≤ ∑ c ∈ Finset.univ.erase a, held c j :=
      Finset.sum_le_sum fun c hc => hrest c (Finset.ne_of_mem_erase hc)
    rw [hlocked, Bool.toNat_true, sum_eq_add_erase _ a]
    omega
  · rw [hlock j hj hji]
    exact (Finset.sum_le_sum fun c _ => hheld j hj hji c).trans (h j hj)

/-- **A role hands an item over** to another role. -/
lemma handOver (h : Guarded P held lock) (hab : a ≠ b) (hgive : held' a i + 1 ≤ held a i)
    (htake : held' b i ≤ held b i + 1) (hrest : ∀ c, c ≠ a → c ≠ b → held' c i ≤ held c i)
    (hheld : ∀ j ∈ P, j ≠ i → ∀ c, held' c j ≤ held c j) : Guarded P held' lock := by
  classical
  intro j hj
  by_cases hji : j = i
  · subst hji
    have hsum : ∑ c, held' c j ≤ ∑ c, held c j := by
      have hb : b ∈ Finset.univ.erase a := Finset.mem_erase.mpr ⟨hab.symm, Finset.mem_univ b⟩
      rw [sum_eq_add_erase (fun c => held' c j) a, sum_eq_add_erase (fun c => held c j) a,
        ← Finset.add_sum_erase _ _ hb, ← Finset.add_sum_erase _ (fun c => held c j) hb]
      have hle : ∑ c ∈ (Finset.univ.erase a).erase b, held' c j ≤
          ∑ c ∈ (Finset.univ.erase a).erase b, held c j :=
        Finset.sum_le_sum fun c hc => hrest c
          (Finset.ne_of_mem_erase (Finset.mem_of_mem_erase hc)) (Finset.ne_of_mem_erase hc)
      omega
    exact hsum.trans (h j hj)
  · exact (Finset.sum_le_sum fun c _ => hheld j hj hji c).trans (h j hj)

/-- **A role gives an item up**, and its lock is cleared. -/
lemma giveUp (h : Guarded P held lock) (hgive : held' a i + 1 ≤ held a i)
    (hrest : ∀ c ≠ a, held' c i ≤ held c i) (hheld : ∀ j ∈ P, j ≠ i → ∀ c, held' c j ≤ held c j)
    (hlock : ∀ j ∈ P, j ≠ i → lock' j = lock j) : Guarded P held' lock' := by
  classical
  intro j hj
  by_cases hji : j = i
  · subst hji
    have hone := (h j hj).trans (lock j).toNat_le
    have hle : ∑ c ∈ Finset.univ.erase a, held' c j ≤ ∑ c ∈ Finset.univ.erase a, held c j :=
      Finset.sum_le_sum fun c hc => hrest c (Finset.ne_of_mem_erase hc)
    rw [sum_eq_add_erase _ a] at hone ⊢
    omega
  · rw [hlock j hj hji]
    exact (Finset.sum_le_sum fun c _ => hheld j hj hji c).trans (h j hj)

end Guarded

/-- The items of `P` are covered: each of them whose lock is set is had by some role. -/
def Covered {ρ ι : Type*} (P : Set ι) (held : ρ → ι → ℕ) (lock : ι → Bool) : Prop :=
  ∀ i ∈ P, lock i = true → ∃ a, 0 < held a i

namespace Covered

omit [Fintype ρ]

/-- What is had by no fewer roles stays covered, if no lock is set. -/
lemma mono (h : Covered P held lock) (hheld : ∀ i ∈ P, ∀ a, held a i ≤ held' a i)
    (hlock : ∀ i ∈ P, lock' i = true → lock i = true) : Covered P held' lock' := by
  intro i hi hlocked
  obtain ⟨a, ha⟩ := h i hi (hlock i hi hlocked)
  exact ⟨a, ha.trans_le (hheld i hi a)⟩

/-- **A move of one item**: it ends up unlocked or with some role, and the others stay. -/
lemma move (h : Covered P held lock) (i : ι) (hi : lock' i = true → ∃ a, 0 < held' a i)
    (hheld : ∀ j ∈ P, j ≠ i → ∀ a, held a j ≤ held' a j)
    (hlock : ∀ j ∈ P, j ≠ i → lock' j = true → lock j = true) : Covered P held' lock' := by
  intro j hj hlocked
  by_cases hji : j = i
  · subst hji
    exact hi hlocked
  · obtain ⟨a, ha⟩ := h j hj (hlock j hj hji hlocked)
    exact ⟨a, ha.trans_le (hheld j hj hji a)⟩

end Covered

end Custody
