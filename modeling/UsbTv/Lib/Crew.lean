import Mathlib.Algebra.BigOperators.Group.Finset.Piecewise
import UsbTv.Lib.StepSystem

set_option relaxedAutoImplicit false
set_option autoImplicit false

/-!
# Crews

A crew is any number of threads that run one program over a shared state. The program is a local
step function: from the shared state and the place where a thread stands to what they are after
its next move. A move of the crew is a move of one of its threads.

What a crew keeps is often a balance: each place weighs something, and the shared state answers
for the weight of all threads together. To see that a move keeps the balance only the thread that
moves has to be looked at, since the weight of the others is the same before and after.

## Main definitions

* `Crew` — what the threads share, and where each of them stands.
* `crew` — the runs of a program.
* `Crew.solo` — the moves of one thread while the others rest.
* `Crew.total` — the weight of all places together.

## Main results

* `Crew.balance` — what every move keeps, whatever the others weigh, holds of every run.
* `Crew.view_reachableUnder` — the runs of a program that refines another.
* `Crew.map_reachableUnder` — the runs of a program within another.
* `Crew.places` — what every move keeps of the thread that moves and of the others, holds of all
  threads in every run.
-/

/-- What the threads `τ` share, and where each of them stands. -/
structure Crew (σ ℓ τ : Type*) where
  shared : σ
  place : τ → ℓ

namespace Crew

variable {σ ℓ τ ε : Type*} [DecidableEq τ]

/-- One of the threads moves. -/
def step (move : τ → σ → ℓ → ε → Option (σ × ℓ)) (c : Crew σ ℓ τ) (e : τ × ε) :
    Option (Crew σ ℓ τ) :=
  (move e.1 c.shared (c.place e.1) e.2).map fun r => ⟨r.1, Function.update c.place e.1 r.2⟩

end Crew

/-- The runs of a program. -/
def crew {σ ℓ τ ε : Type*} [DecidableEq τ] (Init : Crew σ ℓ τ → Prop)
    (move : τ → σ → ℓ → ε → Option (σ × ℓ)) : StepSystem (Crew σ ℓ τ) (τ × ε) where
  Init := Init
  step := Crew.step move

namespace Crew

variable {σ ℓ τ ε : Type*} [DecidableEq τ] {Init : Crew σ ℓ τ → Prop}
  {move : τ → σ → ℓ → ε → Option (σ × ℓ)}

/-- What a move of the crew does. -/
lemma step_eq_some {c c' : Crew σ ℓ τ} {t : τ} {e : ε} :
    (crew Init move).step c (t, e) = some c' ↔
      ∃ s l, move t c.shared (c.place t) e = some (s, l) ∧
        c' = ⟨s, Function.update c.place t l⟩ := by
  show (move t c.shared (c.place t) e).map _ = some c' ↔ _
  rw [Option.map_eq_some_iff]
  constructor
  · rintro ⟨⟨s, l⟩, hmove, rfl⟩
    exact ⟨s, l, hmove, rfl⟩
  · rintro ⟨s, l, hmove, rfl⟩
    exact ⟨(s, l), hmove, rfl⟩

/-! ## One thread alone -/

/-- The moves of one thread while the others rest. -/
def solo (move : σ → ℓ → ε → Option (σ × ℓ)) : σ → ℓ → List ε → Option (σ × ℓ)
  | s, l, [] => some (s, l)
  | s, l, e :: es => (move s l e).bind fun r => solo move r.1 r.2 es

omit [DecidableEq τ] in
/-- The moves of two lists one after the other. -/
lemma solo_append {move : σ → ℓ → ε → Option (σ × ℓ)} (s : σ) (l : ℓ) (es es' : List ε) :
    solo move s l (es ++ es') = (solo move s l es).bind fun r => solo move r.1 r.2 es' := by
  induction es generalizing s l with
  | nil => rfl
  | cons e es ih =>
    simp only [List.cons_append, solo, Option.bind_assoc]
    cases move s l e with
    | none => rfl
    | some r => exact ih r.1 r.2

variable (Init move) in
/-- What a thread can do alone, the crew can do. -/
lemma run_solo {c : Crew σ ℓ τ} {t : τ} {es : List ε} {s : σ} {l : ℓ}
    (h : solo (move t) c.shared (c.place t) es = some (s, l)) :
    (crew Init move).run c (es.map fun e => (t, e)) =
      some ⟨s, Function.update c.place t l⟩ := by
  induction es generalizing c with
  | nil =>
    obtain ⟨rfl, rfl⟩ := Prod.mk.inj (Option.some_inj.mp h)
    rw [Function.update_eq_self]
    rfl
  | cons e es ih =>
    obtain ⟨⟨s₁, l₁⟩, hmove, hrest⟩ := Option.bind_eq_some_iff.mp h
    have hstep : (crew Init move).step c (t, e) = some ⟨s₁, Function.update c.place t l₁⟩ :=
      step_eq_some.mpr ⟨s₁, l₁, hmove, rfl⟩
    have hnext := ih (c := ⟨s₁, Function.update c.place t l₁⟩) (by
      dsimp only
      rw [Function.update_self]
      exact hrest)
    rw [List.map_cons, StepSystem.run_cons, hstep, Option.bind_some, hnext]
    dsimp only
    rw [Function.update_idem]

/-! ## Weights -/

section Total

variable [Fintype τ] {M : Type*} [AddCommMonoid M]

/-- The weight of all places together. -/
def total (f : ℓ → M) (c : Crew σ ℓ τ) : M := ∑ t, f (c.place t)

/-- The weight of one thread, and that of the others. -/
lemma total_eq (f : ℓ → M) (c : Crew σ ℓ τ) (t : τ) :
    c.total f = f (c.place t) + ∑ u ∈ Finset.univ.erase t, f (c.place u) :=
  (Finset.add_sum_erase Finset.univ (fun u => f (c.place u)) (Finset.mem_univ t)).symm

/-- A thread moves, and the weight of the others stays. -/
lemma total_update (f : ℓ → M) (c : Crew σ ℓ τ) (s : σ) (t : τ) (l : ℓ) :
    (⟨s, Function.update c.place t l⟩ : Crew σ ℓ τ).total f =
      f l + ∑ u ∈ Finset.univ.erase t, f (c.place u) := by
  rw [total_eq f _ t]
  dsimp only
  rw [Function.update_self]
  congr 1
  refine Finset.sum_congr rfl fun u hu => ?_
  rw [Function.update_of_ne (Finset.ne_of_mem_erase hu)]

/-- What a move of one thread does to the weight of all. -/
lemma total_move (f : ℓ → ℕ) (c : Crew σ ℓ τ) (s : σ) (t : τ) (l : ℓ) :
    (⟨s, Function.update c.place t l⟩ : Crew σ ℓ τ).total f + f (c.place t) =
      c.total f + f l := by
  rw [total_update, total_eq f c t]
  omega

omit [DecidableEq τ] in
/-- Where nothing weighs anything, neither does the crew. -/
lemma total_eq_zero {f : ℓ → M} {c : Crew σ ℓ τ} (h : ∀ t, f (c.place t) = 0) :
    c.total f = 0 :=
  Finset.sum_eq_zero fun t _ => h t

/-- A thread weighs no more than all together. -/
lemma le_total (f : ℓ → ℕ) (c : Crew σ ℓ τ) (t : τ) : f (c.place t) ≤ c.total f := by
  rw [total_eq f c t]
  exact Nat.le_add_right _ _

/-- **The balance of a crew**: what holds initially of the shared state and the weight of all
threads, and is kept by every move whatever the other threads weigh, holds in every state reached
under `C`. -/
theorem balance {C : Crew σ ℓ τ → τ × ε → Prop} (f : ℓ → M) {I : σ → M → Prop}
    (hinit : ∀ c, Init c → I c.shared (c.total f))
    (hmove : ∀ c t e s l others, (crew Init move).ReachableUnder C c → C c (t, e) →
      I c.shared (f (c.place t) + others) → move t c.shared (c.place t) e = some (s, l) →
      I s (f l + others))
    {c : Crew σ ℓ τ} (h : (crew Init move).ReachableUnder C c) : I c.shared (c.total f) := by
  refine StepSystem.ReachableUnder.invariant (I := fun c => I c.shared (c.total f)) hinit
    (fun c e c' hreach hI hC hstep => ?_) h
  obtain ⟨t, e⟩ := e
  obtain ⟨s, l, hmoved, rfl⟩ := step_eq_some.mp hstep
  rw [total_update]
  rw [total_eq f c t] at hI
  exact hmove c t e s l _ hreach hC hI hmoved

end Total

/-! ## A view of the state -/

/-- What another program sees of a crew. A place may be seen in the light of the shared state. -/
def view {σ' ℓ' : Type*} (g : σ → σ') (k : σ → ℓ → ℓ') (c : Crew σ ℓ τ) : Crew σ' ℓ' τ :=
  ⟨g c.shared, fun t => k c.shared (c.place t)⟩

/-- What is seen of a move, while the threads that rest are seen to rest. -/
lemma view_update {σ' ℓ' : Type*} {g : σ → σ'} {k : σ → ℓ → ℓ'} {c : Crew σ ℓ τ} {t : τ} {s : σ}
    {l : ℓ} (hrest : ∀ u ≠ t, k s (c.place u) = k c.shared (c.place u)) :
    view g k ⟨s, Function.update c.place t l⟩ =
      ⟨g s, Function.update (c.view g k).place t (k s l)⟩ := by
  have hplace : (fun u => k s (Function.update c.place t l u)) =
      Function.update (fun u => k c.shared (c.place u)) t (k s l) := by
    funext u
    by_cases hu : u = t
    · subst hu
      rw [Function.update_self, Function.update_self]
    · rw [Function.update_of_ne hu, Function.update_of_ne hu]
      exact hrest u hu
  unfold view
  dsimp only
  rw [hplace]

/-- A move that is not seen, while the threads that rest are seen to rest. -/
lemma view_update_of_eq {σ' ℓ' : Type*} {g : σ → σ'} {k : σ → ℓ → ℓ'} {c : Crew σ ℓ τ} {t : τ}
    {s : σ} {l : ℓ} (hshared : g s = g c.shared) (hsame : k s l = k c.shared (c.place t))
    (hrest : ∀ u ≠ t, k s (c.place u) = k c.shared (c.place u)) :
    view g k ⟨s, Function.update c.place t l⟩ = c.view g k := by
  have hplace : k s l = (c.view g k).place t := hsame
  rw [view_update hrest, hplace, Function.update_eq_self, hshared]
  rfl

/-- A move that is seen as a move, while the threads that rest are seen to rest. -/
lemma view_step {σ' ℓ' ε' : Type*} {Init' : Crew σ' ℓ' τ → Prop}
    {move' : τ → σ' → ℓ' → ε' → Option (σ' × ℓ')} {g : σ → σ'} {k : σ → ℓ → ℓ'} {c : Crew σ ℓ τ}
    {t : τ} {s : σ} {l : ℓ} {e' : ε'}
    (hmoved : move' t (g c.shared) (k c.shared (c.place t)) e' = some (g s, k s l))
    (hrest : ∀ u ≠ t, k s (c.place u) = k c.shared (c.place u)) :
    (crew Init' move').step (c.view g k) (t, e') =
      some (view g k ⟨s, Function.update c.place t l⟩) := by
  exact step_eq_some.mpr ⟨g s, k s l, hmoved, view_update hrest⟩

/-- **A program that refines another**: if every move that meets `C` is seen as a move that meets
`D`, or is not seen, and the threads that rest are seen to rest, then the runs are seen as runs. -/
theorem view_reachableUnder {σ' ℓ' ε' : Type*} {Init' : Crew σ' ℓ' τ → Prop}
    {move' : τ → σ' → ℓ' → ε' → Option (σ' × ℓ')} {C : Crew σ ℓ τ → τ × ε → Prop}
    {D : Crew σ' ℓ' τ → τ × ε' → Prop} (g : σ → σ') (k : σ → ℓ → ℓ')
    (hinit : ∀ c, Init c → Init' (c.view g k))
    (hmove : ∀ c t e s l, (crew Init move).ReachableUnder C c → C c (t, e) →
      move t c.shared (c.place t) e = some (s, l) →
      (g s = g c.shared ∧ k s l = k c.shared (c.place t)) ∨
        ∃ e', D (c.view g k) (t, e') ∧
          move' t (g c.shared) (k c.shared (c.place t)) e' = some (g s, k s l))
    (hrest : ∀ c t e s l, (crew Init move).ReachableUnder C c → C c (t, e) →
      move t c.shared (c.place t) e = some (s, l) →
      ∀ u ≠ t, k s (c.place u) = k c.shared (c.place u))
    {c : Crew σ ℓ τ} (h : (crew Init move).ReachableUnder C c) :
    (crew Init' move').ReachableUnder D (c.view g k) := by
  refine StepSystem.ReachableUnder.map hinit (fun c e c' hreach hC hstep => ?_) h
  obtain ⟨t, e⟩ := e
  obtain ⟨s, l, hmoved, rfl⟩ := step_eq_some.mp hstep
  have hstay := hrest c t e s l hreach hC hmoved
  rcases hmove c t e s l hreach hC hmoved with ⟨hshared, hsame⟩ | ⟨e', hD, hmoved'⟩
  · exact .inl (view_update_of_eq hshared hsame hstay)
  · exact .inr (.inr ⟨(t, e'), hD, view_step hmoved' hstay⟩)

/-- The part of a crew that another program is about. -/
def map {σ' ℓ' : Type*} (g : σ → σ') (k : ℓ → ℓ') (c : Crew σ ℓ τ) : Crew σ' ℓ' τ :=
  c.view g fun _ => k

/-- **A program within another**: if every move that meets `C` is, on a part of the state, a move
of another program that meets `D`, or is not seen there, then so are the runs. -/
theorem map_reachableUnder {σ' ℓ' ε' : Type*} {Init' : Crew σ' ℓ' τ → Prop}
    {move' : τ → σ' → ℓ' → ε' → Option (σ' × ℓ')} {C : Crew σ ℓ τ → τ × ε → Prop}
    {D : Crew σ' ℓ' τ → τ × ε' → Prop} (g : σ → σ') (k : ℓ → ℓ')
    (hinit : ∀ c, Init c → Init' (c.map g k))
    (hmove : ∀ c t e s l, C c (t, e) → move t c.shared (c.place t) e = some (s, l) →
      (g s = g c.shared ∧ k l = k (c.place t)) ∨
        ∃ e', D (c.map g k) (t, e') ∧
          move' t (g c.shared) (k (c.place t)) e' = some (g s, k l))
    {c : Crew σ ℓ τ} (h : (crew Init move).ReachableUnder C c) :
    (crew Init' move').ReachableUnder D (c.map g k) :=
  view_reachableUnder g (fun _ => k) hinit (fun c t e s l _ hC hmoved => hmove c t e s l hC hmoved)
    (fun _ _ _ _ _ _ _ _ _ _ => rfl) h

/-! ## All places -/

/-- **The places of a crew**: what holds initially of every thread, and is kept by every move for
the thread that moves and for the others, holds of all threads in every state reached under `C`.
A move may use what the crew is known to keep. -/
theorem places {C : Crew σ ℓ τ → τ × ε → Prop} {J : σ → τ → ℓ → Prop}
    (hinit : ∀ c, Init c → ∀ t, J c.shared t (c.place t))
    (hself : ∀ c t e s l, (crew Init move).ReachableUnder C c → C c (t, e) →
      (∀ u, J c.shared u (c.place u)) →
      move t c.shared (c.place t) e = some (s, l) → J s t l)
    (hother : ∀ c t e s l, (crew Init move).ReachableUnder C c → C c (t, e) →
      (∀ u, J c.shared u (c.place u)) →
      move t c.shared (c.place t) e = some (s, l) → ∀ u ≠ t, J s u (c.place u))
    {c : Crew σ ℓ τ} (h : (crew Init move).ReachableUnder C c) (t : τ) :
    J c.shared t (c.place t) := by
  suffices hall : ∀ t, J c.shared t (c.place t) from hall t
  refine StepSystem.ReachableUnder.invariant (I := fun c => ∀ t, J c.shared t (c.place t)) hinit
    (fun c e c' hreach hJ hC hstep u => ?_) h
  obtain ⟨t, e⟩ := e
  obtain ⟨s, l, hmoved, rfl⟩ := step_eq_some.mp hstep
  by_cases hu : u = t
  · subst hu
    dsimp only
    rw [Function.update_self]
    exact hself c u e s l hreach hC hJ hmoved
  · dsimp only
    rw [Function.update_of_ne hu]
    exact hother c t e s l hreach hC hJ hmoved u hu

end Crew
