import UsbTv.Lib.StepSystem

set_option relaxedAutoImplicit false
set_option autoImplicit false

/-!
# Unwinding

Some events of a run are *hidden*: they should have no effect on the others. To *purge* a run is to
leave its hidden events out. When an event is hidden may depend on the state that it comes in, so
purging follows the original run.

An unwinding relation shows that a run and its purged run end alike: a hidden event changes nothing
that the relation looks at, and any other event can happen in two related states and leaves them
related. Both are asked for only in the runs all of whose events meet a condition, on the side of
the original run.

## Main definitions

* `StepSystem.purge` — the events of a run that are not hidden.
* `StepSystem.Unwinding` — an unwinding relation.

## Main results

* `StepSystem.Unwinding.run_purge` — the purged run exists and ends in a related state.
-/

namespace StepSystem

variable {σ α : Type*}

/-- The events of the run from `s` that are not hidden in the states they come in. An event that
cannot happen ends the run, and is kept. -/
def purge (S : StepSystem σ α) (hidden : σ → α → Prop) [∀ s e, Decidable (hidden s e)] :
    σ → List α → List α
  | _, [] => []
  | s, e :: es =>
    match S.step s e with
    | none => e :: es
    | some s' => if hidden s e then purge S hidden s' es else e :: purge S hidden s' es

/-- An unwinding relation `R` for the hidden events, along the runs that meet `C`. -/
structure Unwinding (S : StepSystem σ α) (C hidden : σ → α → Prop) (R : σ → σ → Prop) : Prop where
  /-- A hidden event is not seen. -/
  skip : ∀ s s' t e, S.ReachableUnder C s → C s e → S.step s e = some s' → hidden s e → R s t →
    R s' t
  /-- Any other event happens alike. -/
  follow : ∀ s s' t e, S.ReachableUnder C s → C s e → S.step s e = some s' → ¬ hidden s e → R s t →
    ∃ t', S.step t e = some t' ∧ R s' t'

variable {S : StepSystem σ α} {C hidden : σ → α → Prop} {R : σ → σ → Prop}
  [∀ s e, Decidable (C s e)] [∀ s e, Decidable (hidden s e)]

/-- Purging an event that happens and is hidden. -/
lemma purge_of_hidden {s s' : σ} {e : α} (h : S.step s e = some s') (he : hidden s e)
    (es : List α) : S.purge hidden s (e :: es) = S.purge hidden s' es := by
  rw [purge, h]
  exact if_pos he

/-- Purging an event that happens and is not hidden. -/
lemma purge_of_not_hidden {s s' : σ} {e : α} (h : S.step s e = some s') (he : ¬ hidden s e)
    (es : List α) : S.purge hidden s (e :: es) = e :: S.purge hidden s' es := by
  rw [purge, h]
  exact if_neg he

/-- **A purged run ends in a related state**, whatever events are left out. -/
theorem Unwinding.run_purge (U : Unwinding S C hidden R) {s s' t : σ} {es : List α}
    (hs : S.ReachableUnder C s) (hR : R s t) (h : S.runUnder C s es = some s') :
    ∃ t', S.run t (S.purge hidden s es) = some t' ∧ R s' t' := by
  induction es generalizing s t with
  | nil =>
    obtain rfl : s = s' := by simpa [runUnder] using h
    exact ⟨t, rfl, hR⟩
  | cons e es ih =>
    rw [runUnder] at h
    split_ifs at h with hc
    obtain ⟨s₁, hstep, h⟩ := Option.bind_eq_some_iff.mp h
    have hs₁ : S.ReachableUnder C s₁ := hs.step hc hstep
    by_cases he : hidden s e
    · rw [purge_of_hidden hstep he]
      exact ih hs₁ (U.skip s s₁ t e hs hc hstep he hR) h
    · obtain ⟨t₁, ht₁, hR₁⟩ := U.follow s s₁ t e hs hc hstep he hR
      obtain ⟨t', hrun, hR'⟩ := ih hs₁ hR₁ h
      refine ⟨t', ?_, hR'⟩
      rw [purge_of_not_hidden hstep he, run_cons, ht₁]
      exact hrun

end StepSystem
