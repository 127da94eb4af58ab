import Mathlib.Data.List.Basic
import Mathlib.Logic.Function.Basic

set_option relaxedAutoImplicit false
set_option autoImplicit false

/-!
# Linked lists in memory

The nodes of a linked list are found from its head: each has a pointer to the next one, and the
last one has none. What a pointer write does to the list is seen from the list of its nodes: the
pointer of a node that is not on it may change, and a node that points to the old head may become
the new one.

## Main definitions

* `Linked` — the nodes from a pointer on.

## Main results

* `Linked.update` — what becomes of the pointer of another node does not matter.
* `Linked.exists_eq_cons`, `Linked.cons` — the list without its first node, and with a new one.
-/

/-- The nodes `l` are those from `head` on, each linked to the one after it. -/
def Linked {ν : Type*} (next : ν → Option ν) : Option ν → List ν → Prop
  | head, [] => head = none
  | head, n :: l => head = some n ∧ Linked next (next n) l

namespace Linked

variable {ν : Type*} {next : ν → Option ν} {head : Option ν} {n : ν} {l : List ν}

/-- No node. -/
lemma nil : Linked next none [] := rfl

/-- A node in front of the others. -/
lemma cons (h : Linked next (next n) l) : Linked next (some n) (n :: l) := ⟨rfl, h⟩

/-- The first node, and the list behind it. -/
lemma exists_eq_cons (h : Linked next (some n) l) :
    ∃ l', l = n :: l' ∧ Linked next (next n) l' := by
  cases l with
  | nil => cases h
  | cons m l =>
    obtain ⟨hhead, hrest⟩ := h
    obtain rfl := Option.some_inj.mp hhead
    exact ⟨l, rfl, hrest⟩

/-- What becomes of the pointer of a node that is not on the list does not matter. -/
lemma update [DecidableEq ν] (h : Linked next head l) (hn : n ∉ l) (p : Option ν) :
    Linked (Function.update next n p) head l := by
  induction l generalizing head with
  | nil => exact h
  | cons m l ih =>
    obtain ⟨hm, hl⟩ := List.ne_and_not_mem_of_not_mem_cons hn
    refine ⟨h.1, ?_⟩
    rw [Function.update_of_ne hm.symm]
    exact ih h.2 hl

end Linked
