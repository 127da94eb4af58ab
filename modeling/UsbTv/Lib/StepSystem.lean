import Mathlib.Data.Option.Basic
import Mathlib.Data.List.Basic

set_option relaxedAutoImplicit false
set_option autoImplicit false

/-!
# Guarded step systems

A program made of threads is a state and a guarded step function: `step s e` is the state
after the event `e`, or `none` when `e` cannot happen in `s`. An event names the thread that
moves and what the environment answers it, so a list of events is one interleaving, and a
concrete interleaving can be replayed by evaluation.

Reachability is relative to a condition `C` on the state *before* each step. A property that
holds of every state reached under `C` holds along every run all of whose steps meet `C`;
`C := fun _ _ => True` gives all runs.

## Main definitions

* `StepSystem` — initial states and the guarded step function.
* `StepSystem.run` — the replay of a list of events.
* `StepSystem.ReachableUnder` — the states reached by runs all of whose steps meet a condition.
* `StepSystem.Reachable` — the states reached by any run.
* `StepSystem.runUnder` — the replay of events that meet a condition.
* `StepSystem.Traces` — the runs with what is seen of their steps.
* `StepSystem.startingAt` — the runs from a given state.
* `StepSystem.Refinement` — a map to another system that turns every step into a step there, into
  none, or into a fresh start.

## Main results

* `StepSystem.ReachableUnder.invariant` — the invariant rule.
* `StepSystem.Reachable.run`, `StepSystem.ReachableUnder.runUnder` — replays stay within the
  reachable states.
* `StepSystem.ReachableUnder.map` — a map of states that turns steps into steps turns runs into
  runs.
* `StepSystem.Refinement.reachable` — a refinement maps reachable states to reachable states.
* `StepSystem.ReachableUnder.simulation` — the simulation rule.
* `StepSystem.Traces.map` — a map of states that keeps what is seen of the steps keeps the traces.
-/

/-- A guarded step system over states `σ` and events `α`. -/
structure StepSystem (σ α : Type*) where
  /-- The states a run may start in. -/
  Init : σ → Prop
  /-- The state after an event, or `none` if the event cannot happen. -/
  step : σ → α → Option σ

namespace StepSystem

variable {σ α τ β : Type*} (S : StepSystem σ α)

/-- The state after a list of events, or `none` if one of them could not happen. -/
def run : σ → List α → Option σ
  | s, [] => some s
  | s, e :: es => (S.step s e).bind fun s' => run s' es

/-- Replaying no event stays where it is. -/
@[simp] lemma run_nil (s : σ) : S.run s [] = some s := rfl

/-- Replaying an event and then the others. -/
lemma run_cons (s : σ) (e : α) (es : List α) :
    S.run s (e :: es) = (S.step s e).bind fun s' => S.run s' es := rfl

/-- Replaying two lists of events one after the other. -/
lemma run_append (s : σ) (es es' : List α) :
    S.run s (es ++ es') = (S.run s es).bind fun s' => S.run s' es' := by
  induction es generalizing s with
  | nil => rfl
  | cons e es ih =>
    simp only [List.cons_append, run_cons]
    cases S.step s e with
    | none => rfl
    | some s' => exact ih s'

/-- The states reached by the runs from an initial state all of whose steps meet `C` in the
state before them. -/
inductive ReachableUnder (C : σ → α → Prop) : σ → Prop
  | init {s : σ} (h : S.Init s) : ReachableUnder C s
  | step {s s' : σ} {e : α} (hs : ReachableUnder C s) (hc : C s e) (h : S.step s e = some s') :
      ReachableUnder C s'

/-- The states reached by any run. -/
abbrev Reachable : σ → Prop := S.ReachableUnder fun _ _ => True

variable {S}

/-- **The invariant rule**: what holds initially and is preserved by every step that meets `C`
holds in every state reached under `C`. The step may use that its first state is reachable. -/
theorem ReachableUnder.invariant {C : σ → α → Prop} {I : σ → Prop}
    (hinit : ∀ s, S.Init s → I s)
    (hstep : ∀ s e s', S.ReachableUnder C s → I s → C s e → S.step s e = some s' → I s')
    {s : σ} (h : S.ReachableUnder C s) : I s := by
  induction h with
  | init h => exact hinit _ h
  | step hs hc h ih => exact hstep _ _ _ hs ih hc h

/-- A condition that the steps of the runs under another one meet reaches more states. -/
lemma ReachableUnder.mono {C C' : σ → α → Prop}
    (hC : ∀ s e s', S.ReachableUnder C s → C s e → S.step s e = some s' → C' s e) {s : σ}
    (h : S.ReachableUnder C s) : S.ReachableUnder C' s := by
  induction h with
  | init h => exact .init h
  | step hs hc h ih => exact .step ih (hC _ _ _ hs hc h) h

/-- What is reached under a condition is reached. -/
lemma ReachableUnder.reachable {C : σ → α → Prop} {s : σ} (h : S.ReachableUnder C s) :
    S.Reachable s :=
  h.mono fun _ _ _ _ _ _ => trivial

/-- Replaying events that meet the condition in every state stays within the states reached under
it. -/
lemma ReachableUnder.run {C : σ → α → Prop} {s s' : σ} (hs : S.ReachableUnder C s) {es : List α}
    (hC : ∀ e ∈ es, ∀ s, C s e) (h : S.run s es = some s') : S.ReachableUnder C s' := by
  induction es generalizing s with
  | nil =>
    obtain rfl : s = s' := by simpa using h
    exact hs
  | cons e es ih =>
    rw [run_cons, Option.bind_eq_some_iff] at h
    obtain ⟨s₁, h₁, h⟩ := h
    exact ih (hs.step (hC e List.mem_cons_self s) h₁)
      (fun e' he' => hC e' (List.mem_cons_of_mem e he')) h

/-- Replaying events from a reachable state ends in a reachable state. -/
lemma Reachable.run {s s' : σ} (hs : S.Reachable s) {es : List α} (h : S.run s es = some s') :
    S.Reachable s' :=
  ReachableUnder.run hs (fun _ _ _ => trivial) h

/-- The replay of a list of events, as long as each of them meets a condition. -/
def runUnder (S : StepSystem σ α) (C : σ → α → Prop) [∀ s e, Decidable (C s e)] :
    σ → List α → Option σ
  | s, [] => some s
  | s, e :: es => if C s e then (S.step s e).bind fun s' => runUnder S C s' es else none

/-- Replaying events under a condition from a state reached under it ends in such a state. -/
lemma ReachableUnder.runUnder {C : σ → α → Prop} [∀ s e, Decidable (C s e)] {s s' : σ}
    (hs : S.ReachableUnder C s) {es : List α} (h : S.runUnder C s es = some s') :
    S.ReachableUnder C s' := by
  induction es generalizing s with
  | nil =>
    obtain rfl : s = s' := by simpa [StepSystem.runUnder] using h
    exact hs
  | cons e es ih =>
    rw [StepSystem.runUnder] at h
    split_ifs at h with hc
    obtain ⟨s₁, h₁, h⟩ := Option.bind_eq_some_iff.mp h
    exact ih (hs.step hc h₁) h

/-- A refinement of the system `T` by the system `S` along the runs that meet `C`: a map of
states under which initial states are initial and each step is a step of `T`, is not seen there,
or starts afresh. -/
structure Refinement (S : StepSystem σ α) (C : σ → α → Prop) (T : StepSystem τ β) where
  /-- What the system `T` sees of a state. -/
  abs : σ → τ
  /-- Initial states are initial. -/
  init : ∀ s, S.Init s → T.Init (abs s)
  /-- Each step is a step of `T`, is not seen, or starts afresh. -/
  sim : ∀ s e s', S.ReachableUnder C s → C s e → S.step s e = some s' →
    abs s' = abs s ∨ T.Init (abs s') ∨ ∃ b, T.step (abs s) b = some (abs s')

/-- **Runs map to runs**, if initial states map to initial states and each step that meets `C` maps
to a step that meets `D`, to none, or to a fresh start. -/
theorem ReachableUnder.map {C : σ → α → Prop} {T : StepSystem τ β} {D : τ → β → Prop} {f : σ → τ}
    (hinit : ∀ s, S.Init s → T.Init (f s))
    (hstep : ∀ s e s', S.ReachableUnder C s → C s e → S.step s e = some s' →
      f s' = f s ∨ T.Init (f s') ∨ ∃ b, D (f s) b ∧ T.step (f s) b = some (f s'))
    {s : σ} (h : S.ReachableUnder C s) : T.ReachableUnder D (f s) := by
  induction h with
  | init h => exact .init (hinit _ h)
  | step hs hc h ih =>
    rcases hstep _ _ _ hs hc h with heq | hfresh | ⟨b, hb, hstep⟩
    · rw [heq]
      exact ih
    · exact .init hfresh
    · exact ih.step hb hstep

/-- **The simulation rule**: if initial states are related to initial states, and a step that meets
`C` leads to a state that is related to the same state of `T`, or to one that is a step away from it
which meets `D`, then every state reached under `C` is related to a state reached under `D`. -/
theorem ReachableUnder.simulation {C : σ → α → Prop} {T : StepSystem τ β} {D : τ → β → Prop}
    {R : σ → τ → Prop} (hinit : ∀ s, S.Init s → ∃ t, T.Init t ∧ R s t)
    (hstep : ∀ s e s' t, S.ReachableUnder C s → T.ReachableUnder D t → R s t → C s e →
      S.step s e = some s' → R s' t ∨ ∃ b t', D t b ∧ T.step t b = some t' ∧ R s' t')
    {s : σ} (h : S.ReachableUnder C s) : ∃ t, T.ReachableUnder D t ∧ R s t := by
  induction h with
  | init h =>
    obtain ⟨t, ht, hrel⟩ := hinit _ h
    exact ⟨t, .init ht, hrel⟩
  | step hs hc h ih =>
    obtain ⟨t, ht, hrel⟩ := ih
    rcases hstep _ _ _ t hs ht hrel hc h with hstay | ⟨b, t', hb, hstep', hrel'⟩
    · exact ⟨t, ht, hstay⟩
    · exact ⟨t', ht.step hb hstep', hrel'⟩

/-- A refinement maps reachable states to reachable states, so every invariant of `T` holds of
what it sees of `S`. -/
theorem Refinement.reachable {C : σ → α → Prop} {T : StepSystem τ β} (R : Refinement S C T)
    {s : σ} (h : S.ReachableUnder C s) : T.Reachable (R.abs s) := by
  refine ReachableUnder.map R.init (fun s e s' hs hc hstep => ?_) h
  rcases R.sim s e s' hs hc hstep with heq | hfresh | ⟨b, hb⟩
  · exact .inl heq
  · exact .inr (.inl hfresh)
  · exact .inr (.inr ⟨b, trivial, hb⟩)

/-! ## Traces -/

variable {o : Type*}

/-- The runs from an initial state all of whose steps meet `C`, with what is seen of their steps:
`label s e` is seen of the event `e` in the state `s`. -/
inductive Traces (S : StepSystem σ α) (label : σ → α → List o) (C : σ → α → Prop) :
    List o → σ → Prop
  | init {s : σ} (h : S.Init s) : Traces S label C [] s
  | step {s s' : σ} {e : α} {tr : List o} (hs : Traces S label C tr s) (hc : C s e)
      (h : S.step s e = some s') : Traces S label C (tr ++ label s e) s'

/-- The runs from a given state. -/
def startingAt (S : StepSystem σ α) (s₀ : σ) : StepSystem σ α where
  Init s := s = s₀
  step := S.step

/-- The events are those of the system. -/
lemma startingAt_run (s₀ s : σ) (es : List α) : (S.startingAt s₀).run s es = S.run s es := by
  induction es generalizing s with
  | nil => rfl
  | cons e es ih =>
    rw [run_cons, run_cons]
    exact congrArg (S.step s e).bind (funext ih)

namespace Traces

variable {label : σ → α → List o} {C : σ → α → Prop} {tr : List o} {s : σ}

/-- The state at the end of a trace is reached. -/
lemma reachable (h : S.Traces label C tr s) : S.ReachableUnder C s := by
  induction h with
  | init h => exact .init h
  | step _ hc h ih => exact ih.step hc h

variable (label) in
/-- Each state that is reached is at the end of a trace. -/
lemma exists_of_reachable (h : S.ReachableUnder C s) : ∃ tr, S.Traces label C tr s := by
  induction h with
  | init h => exact ⟨[], .init h⟩
  | step _ hc h ih =>
    obtain ⟨tr, htr⟩ := ih
    exact ⟨_, htr.step hc h⟩

/-- **The invariant rule** for traces. -/
theorem invariant {I : List o → σ → Prop} (hinit : ∀ s, S.Init s → I [] s)
    (hstep : ∀ tr s e s', S.Traces label C tr s → I tr s → C s e → S.step s e = some s' →
      I (tr ++ label s e) s')
    (h : S.Traces label C tr s) : I tr s := by
  induction h with
  | init h => exact hinit _ h
  | step hs hc h ih => exact hstep _ _ _ _ hs ih hc h

/-- **Traces map to traces**, if initial states map to initial states, and of each step that meets
`C` nothing is seen and it maps to none, or the same is seen of a step that it maps to. -/
theorem map {T : StepSystem τ β} {label' : τ → β → List o} {D : τ → β → Prop} {f : σ → τ}
    (hinit : ∀ s, S.Init s → T.Init (f s))
    (hstep : ∀ s e s', S.ReachableUnder C s → C s e → S.step s e = some s' →
      (f s' = f s ∧ label s e = []) ∨
        ∃ b, D (f s) b ∧ T.step (f s) b = some (f s') ∧ label' (f s) b = label s e)
    (h : S.Traces label C tr s) : T.Traces label' D tr (f s) := by
  induction h with
  | init h => exact .init (hinit _ h)
  | step hs hc h ih =>
    rcases hstep _ _ _ hs.reachable hc h with ⟨hsame, hnone⟩ | ⟨b, hb, hstep, hlabel⟩
    · rw [hsame, hnone, List.append_nil]
      exact ih
    · rw [← hlabel]
      exact ih.step hb hstep

/-- Replaying events that meet the condition in every state goes on with a trace. -/
lemma run {s' : σ} (hs : S.Traces label C tr s) {es : List α} (hC : ∀ e ∈ es, ∀ s, C s e)
    (h : S.run s es = some s') : ∃ tr', S.Traces label C tr' s' := by
  induction es generalizing tr s with
  | nil =>
    obtain rfl : s = s' := by simpa using h
    exact ⟨tr, hs⟩
  | cons e es ih =>
    rw [run_cons, Option.bind_eq_some_iff] at h
    obtain ⟨s₁, h₁, h⟩ := h
    exact ih (hs.step (hC e List.mem_cons_self s) h₁)
      (fun e' he' => hC e' (List.mem_cons_of_mem e he')) h

end Traces

/-- The replay of a list of events, as long as each of them meets a condition, with what is seen of
them. -/
def trace (S : StepSystem σ α) (label : σ → α → List o) (C : σ → α → Prop)
    [∀ s e, Decidable (C s e)] : List o → σ → List α → Option (List o × σ)
  | tr, s, [] => some (tr, s)
  | tr, s, e :: es =>
    if C s e then (S.step s e).bind fun s' => trace S label C (tr ++ label s e) s' es else none

/-- A replay goes on with a trace. -/
lemma Traces.trace {label : σ → α → List o} {C : σ → α → Prop} [∀ s e, Decidable (C s e)]
    {tr tr' : List o} {s s' : σ} (hs : S.Traces label C tr s) {es : List α}
    (h : S.trace label C tr s es = some (tr', s')) : S.Traces label C tr' s' := by
  induction es generalizing tr s with
  | nil =>
    obtain ⟨rfl, rfl⟩ := Prod.mk.inj (Option.some_inj.mp h)
    exact hs
  | cons e es ih =>
    rw [StepSystem.trace] at h
    split_ifs at h with hc
    obtain ⟨s₁, h₁, h⟩ := Option.bind_eq_some_iff.mp h
    exact ih (hs.step hc h₁) h

end StepSystem
