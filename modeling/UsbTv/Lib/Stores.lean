import Mathlib.Data.List.Nodup
import Mathlib.Logic.Function.Basic

set_option relaxedAutoImplicit false
set_option autoImplicit false

/-!
# Stores in any order

The cells of a result are often computed by themselves, and stored in whatever order the machine
comes to them. Where no two of the stores are to one cell, the order makes no difference.

## Main definitions

* `stores` — a memory after a list of stores.

## Main results

* `stores_apply_of_mem` — what is stored to a cell can be read back.
* `stores_perm` — the order makes no difference.
-/

variable {α β : Type*} [DecidableEq α]

/-- The memory after the stores, done in order. -/
def stores (m : α → β) (ws : List (α × β)) : α → β :=
  ws.foldl (fun m w => Function.update m w.1 w.2) m

/-- The first store, then the others. -/
lemma stores_cons (m : α → β) (w : α × β) (ws : List (α × β)) :
    stores m (w :: ws) = stores (Function.update m w.1 w.2) ws := rfl

/-- A cell that is not stored to keeps its contents. -/
lemma stores_apply_of_notMem {ws : List (α × β)} {a : α} (h : a ∉ ws.map Prod.fst) (m : α → β) :
    stores m ws a = m a := by
  induction ws generalizing m with
  | nil => rfl
  | cons w ws ih =>
    rw [List.map_cons, List.mem_cons, not_or] at h
    rw [stores_cons, ih h.2, Function.update_of_ne h.1]

/-- What is stored to a cell can be read back, if nothing else is stored there. -/
lemma stores_apply_of_mem {ws : List (α × β)} (hws : (ws.map Prod.fst).Nodup) {a : α} {b : β}
    (h : (a, b) ∈ ws) (m : α → β) : stores m ws a = b := by
  induction ws generalizing m with
  | nil => exact absurd h List.not_mem_nil
  | cons w ws ih =>
    rw [List.map_cons, List.nodup_cons] at hws
    rcases List.mem_cons.mp h with rfl | hmem
    · rw [stores_cons, stores_apply_of_notMem hws.1, Function.update_self]
    · exact ih hws.2 hmem _

/-- **The order makes no difference** where no two stores are to one cell. -/
lemma stores_perm {ws ws' : List (α × β)} (hperm : ws.Perm ws') (hws : (ws.map Prod.fst).Nodup)
    (m : α → β) : stores m ws = stores m ws' := by
  have hws' : (ws'.map Prod.fst).Nodup := (hperm.map Prod.fst).nodup_iff.mp hws
  funext a
  by_cases ha : a ∈ ws.map Prod.fst
  · obtain ⟨⟨a, b⟩, hmem, rfl⟩ := List.mem_map.mp ha
    rw [stores_apply_of_mem hws hmem, stores_apply_of_mem hws' (hperm.mem_iff.mp hmem)]
  · have ha' : a ∉ ws'.map Prod.fst := fun h => ha ((hperm.map Prod.fst).mem_iff.mpr h)
    rw [stores_apply_of_notMem ha, stores_apply_of_notMem ha']
