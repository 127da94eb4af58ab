import Mathlib.Data.Set.Insert
import Mathlib.Tactic.Tauto

set_option relaxedAutoImplicit false
set_option autoImplicit false

/-!
# Definite assignment

A run of a program reads and writes variables, in some order. No variable should be read before it
is written: what it holds until then is indeterminate.

## Main definitions

* `Access` — a read or a write of a variable.
* `Access.assigned` — the variables that are assigned after some accesses.
* `Access.Defined` — no variable is read before it is assigned.

## Main results

* `Access.defined_append` — runs may be looked at part by part.
* `Access.defined_iff` — each read has a write before it.
-/

/-- A read or a write of a variable. -/
inductive Access (ν : Type*)
  | read (x : ν)
  | write (x : ν)
  deriving DecidableEq, Repr

namespace Access

variable {ν : Type*} {A : Set ν}

/-- The variables that are assigned after some accesses, if those of `A` were before. -/
def assigned (A : Set ν) : List (Access ν) → Set ν
  | [] => A
  | .read _ :: t => assigned A t
  | .write x :: t => assigned (insert x A) t

/-- No variable is read before it is assigned. -/
def Defined (A : Set ν) : List (Access ν) → Prop
  | [] => True
  | .read x :: t => x ∈ A ∧ Defined A t
  | .write x :: t => Defined (insert x A) t

@[simp] lemma assigned_nil : assigned A [] = A := rfl

@[simp] lemma assigned_read (x : ν) (t : List (Access ν)) :
    assigned A (.read x :: t) = assigned A t := rfl

@[simp] lemma assigned_write (x : ν) (t : List (Access ν)) :
    assigned A (.write x :: t) = assigned (insert x A) t := rfl

@[simp] lemma defined_nil : Defined A [] := trivial

@[simp] lemma defined_read {x : ν} {t : List (Access ν)} :
    Defined A (.read x :: t) ↔ x ∈ A ∧ Defined A t := Iff.rfl

@[simp] lemma defined_write {x : ν} {t : List (Access ν)} :
    Defined A (.write x :: t) ↔ Defined (insert x A) t := Iff.rfl

/-- What is assigned stays so. -/
lemma mem_assigned {x : ν} {t : List (Access ν)} :
    x ∈ assigned A t ↔ x ∈ A ∨ .write x ∈ t := by
  induction t generalizing A with
  | nil => simp
  | cons a t ih =>
    cases a with
    | read y => simp [ih]
    | write y =>
      rw [assigned_write, ih, Set.mem_insert_iff, List.mem_cons, write.injEq]
      tauto

lemma assigned_append (t u : List (Access ν)) :
    assigned A (t ++ u) = assigned (assigned A t) u := by
  ext x
  simp only [mem_assigned, List.mem_append]
  tauto

/-- **Runs may be looked at part by part.** -/
lemma defined_append {t u : List (Access ν)} :
    Defined A (t ++ u) ↔ Defined A t ∧ Defined (assigned A t) u := by
  induction t generalizing A with
  | nil => simp
  | cons a t ih =>
    cases a with
    | read x => simp [ih, and_assoc]
    | write x => simp [ih]

/-- **Each read has a write before it**, unless the variable was assigned from the start. -/
theorem defined_iff {t : List (Access ν)} :
    Defined A t ↔ ∀ before x after, t = before ++ .read x :: after →
      x ∈ A ∨ .write x ∈ before := by
  constructor
  · rintro h before x after rfl
    rw [defined_append, defined_read, mem_assigned] at h
    exact h.2.1
  · intro h
    induction t generalizing A with
    | nil => trivial
    | cons a t ih =>
      cases a with
      | read x =>
        refine ⟨(h [] x t rfl).resolve_right List.not_mem_nil, ih fun before y after heq => ?_⟩
        rcases h (.read x :: before) y after (by rw [heq, List.cons_append]) with hmem | hmem
        · exact .inl hmem
        · exact .inr ((List.mem_cons.mp hmem).resolve_left (by simp))
      | write x =>
        apply ih
        intro before y after heq
        rcases h (.write x :: before) y after (by rw [heq, List.cons_append]) with hmem | hmem
        · exact .inl (Set.mem_insert_of_mem x hmem)
        · rcases List.mem_cons.mp hmem with hxy | hmem
          · exact .inl (.inl (write.inj hxy))
          · exact .inr hmem

end Access
