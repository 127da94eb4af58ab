import Mathlib.Data.List.Range
import Mathlib.Order.Nat
import Mathlib.Data.Nat.Find

set_option relaxedAutoImplicit false
set_option autoImplicit false

/-!
# Loops with a counter that wraps

The loop `for (i = 0; test i; i++) body`, whose counter takes `m` values and then starts again
at 0. The test reads the counter and what the body does not change, so a loop that has gone round
once comes to the same tests again.

The loop is replayed with fuel, one unit for each test. `forLoop` has fuel for all values of the
counter, and `none` there means that the loop never ends.

## Main definitions

* `CountedLoop.run` — the loop from a counter on, for a number of tests.
* `forLoop` — the loop.
* `CountedLoop.visited` — the counters for which the body runs.

## Main results

* `CountedLoop.run_eq_foldl` — the body runs for the counters before the first that fails the
  test, in order and once each.
* `CountedLoop.run_eq_none` — if no counter fails the test, the loop never ends.
* `forLoop_eq_some_iff`, `CountedLoop.run_eq_forLoop` — `forLoop` is what enough fuel gives.
* `forLoop_eq_visited` — the body runs for the visited counters, whatever it does.
* `forLoop_lt`, `forLoop_lt_eq_none`, `forLoop_le`, `forLoop_le_eq_none` — the tests `i < n` and
  `i <= n`.
-/

variable {σ τ : Type*}

namespace CountedLoop

/-- The loop from counter `i` on, for at most `fuel` tests. -/
def run (m : ℕ) (test : ℕ → Bool) (body : σ → ℕ → σ) : ℕ → ℕ → σ → Option σ
  | 0, _, _ => none
  | fuel + 1, i, s => if test i then run m test body fuel ((i + 1) % m) (body s i) else some s

variable {m : ℕ} {test : ℕ → Bool} {body : σ → ℕ → σ}

/-- The counters from `i` on pass the test up to the one that is `n` rounds away, and it does
not. -/
lemma run_add {i n fuel : ℕ} (hpass : ∀ j < n, test (i + j) = true) (hfail : test (i + n) = false)
    (hlt : i + n < m) (hfuel : n < fuel) (s : σ) :
    run m test body fuel i s = some ((List.range' i n).foldl body s) := by
  induction n generalizing i fuel s with
  | zero =>
    obtain ⟨fuel, rfl⟩ := Nat.exists_eq_add_of_lt hfuel
    rw [Nat.add_zero] at hfail
    simp [run, hfail]
  | succ n ih =>
    obtain ⟨fuel, rfl⟩ : ∃ k, fuel = k + 1 := ⟨fuel - 1, by omega⟩
    have hfirst : test i = true := hpass 0 (by omega)
    have hnext : (i + 1) % m = i + 1 := Nat.mod_eq_of_lt (by omega)
    have hrest : run m test body fuel (i + 1) (body s i) =
        some ((List.range' (i + 1) n).foldl body (body s i)) :=
      ih (fun j hj => by rw [Nat.add_right_comm]; exact hpass (j + 1) (by omega))
        (by rw [Nat.add_right_comm]; exact hfail) (by omega) (by omega) (body s i)
    rw [run, if_pos hfirst, hnext, hrest, List.range'_succ, List.foldl_cons]

/-- **The loop up to the first counter that fails the test**: the body runs for the counters
before it, in order and once each. -/
theorem run_eq_foldl {n fuel : ℕ} (hpass : ∀ j < n, test j = true) (hfail : test n = false)
    (hlt : n < m) (hfuel : n < fuel) (s : σ) :
    run m test body fuel 0 s = some ((List.range n).foldl body s) := by
  rw [List.range_eq_range']
  exact run_add (i := 0) (by simpa using hpass) (by simpa using hfail) (by omega) hfuel s

/-- More fuel changes nothing. -/
lemma run_mono {fuel fuel' i : ℕ} {s s' : σ} (hle : fuel ≤ fuel')
    (h : run m test body fuel i s = some s') : run m test body fuel' i s = some s' := by
  induction fuel generalizing fuel' i s with
  | zero => cases h
  | succ fuel ih =>
    obtain ⟨fuel', rfl⟩ : ∃ k, fuel' = k + 1 := ⟨fuel' - 1, by omega⟩
    rw [run] at h ⊢
    split_ifs at h ⊢
    · exact ih (by omega) h
    · exact h

/-- **A loop whose test never fails** does not end. -/
theorem run_eq_none (hm : 0 < m) (hpass : ∀ j < m, test j = true) {i : ℕ} (hi : i < m) (fuel : ℕ)
    (s : σ) : run m test body fuel i s = none := by
  induction fuel generalizing i s with
  | zero => rfl
  | succ fuel ih =>
    rw [run, if_pos (hpass i hi)]
    exact ih (Nat.mod_lt _ hm) _

end CountedLoop

open CountedLoop

/-- The loop `for (i = 0; test i; i++) body` with a counter of `m` values, or `none` if it never
ends. -/
def forLoop (m : ℕ) (test : ℕ → Bool) (body : σ → ℕ → σ) (s : σ) : Option σ :=
  run m test body m 0 s

variable {m : ℕ} {test : ℕ → Bool} {body : σ → ℕ → σ}

/-- The loop ends before its counter wraps, or never. -/
lemma forLoop_cases (m : ℕ) (test : ℕ → Bool) :
    (∃ n < m, (∀ j < n, test j = true) ∧ test n = false) ∨ ∀ j < m, test j = true := by
  by_cases h : ∃ n, n < m ∧ test n = false
  · left
    refine ⟨Nat.find h, (Nat.find_spec h).1, fun j hj => ?_, (Nat.find_spec h).2⟩
    have hmin := Nat.find_min h hj
    have hlt := (Nat.find_spec h).1
    simpa [hj.trans hlt] using hmin
  · right
    intro j hj
    by_contra hfail
    exact h ⟨j, hj, by simpa using hfail⟩

/-- **What the loop gives** is what some amount of fuel gives. -/
theorem forLoop_eq_some_iff (hm : 0 < m) {s s' : σ} :
    forLoop m test body s = some s' ↔ ∃ fuel, run m test body fuel 0 s = some s' := by
  refine ⟨fun h => ⟨m, h⟩, ?_⟩
  rintro ⟨fuel, h⟩
  rcases forLoop_cases m test with ⟨n, hn, hpass, hfail⟩ | hpass
  · rw [← run_mono (le_max_left fuel (n + 1)) h, forLoop, run_eq_foldl hpass hfail hn hn]
    exact (run_eq_foldl hpass hfail hn (by omega) s).symm
  · rw [run_eq_none hm hpass hm] at h
    cases h

/-- More fuel than the counter has values makes no difference. -/
lemma CountedLoop.run_eq_forLoop (hm : 0 < m) {fuel : ℕ} (hfuel : m ≤ fuel) (s : σ) :
    run m test body fuel 0 s = forLoop m test body s := by
  cases h : forLoop m test body s with
  | some s' => exact run_mono hfuel h
  | none =>
    cases h' : run m test body fuel 0 s with
    | none => rfl
    | some s' =>
      rw [(forLoop_eq_some_iff hm).mpr ⟨fuel, h'⟩] at h
      cases h

/-- The counters for which the body runs. -/
def CountedLoop.visited (m : ℕ) (test : ℕ → Bool) : Option (List ℕ) :=
  forLoop m test (fun l i => l ++ [i]) []

lemma CountedLoop.foldl_append_singleton (l l' : List ℕ) :
    l'.foldl (fun l i => l ++ [i]) l = l ++ l' := by
  induction l' generalizing l with
  | nil => simp
  | cons i l' ih => simp [ih]

/-- **The body runs for the visited counters**, in their order. -/
theorem forLoop_eq_visited (hm : 0 < m) (test : ℕ → Bool) (body : σ → ℕ → σ) (s : σ) :
    forLoop m test body s = (visited m test).map fun l => l.foldl body s := by
  unfold visited
  rcases forLoop_cases m test with ⟨n, hn, hpass, hfail⟩ | hpass
  · rw [forLoop, forLoop, run_eq_foldl hpass hfail hn hn, run_eq_foldl hpass hfail hn hn,
      foldl_append_singleton, List.nil_append, Option.map_some]
  · rw [forLoop, forLoop, run_eq_none hm hpass hm, run_eq_none hm hpass hm, Option.map_none]

/-- **The test `i < n`**: if the counter gets to `n`, the body runs for all counters below it. -/
theorem forLoop_lt {n : ℕ} (hn : n < m) (s : σ) :
    forLoop m (fun i => decide (i < n)) body s = some ((List.range n).foldl body s) :=
  run_eq_foldl (by simp) (by simp) hn hn s

/-- A counter that wraps before it gets to `n` never ends the loop. -/
theorem forLoop_lt_eq_none {n : ℕ} (hm : 0 < m) (hn : m ≤ n) (s : σ) :
    forLoop m (fun i => decide (i < n)) body s = none :=
  run_eq_none hm (fun j hj => by simpa using hj.trans_le hn) hm _ s

/-- **The test `i <= n`**: if the counter gets past `n`, the body runs for `n` too. -/
theorem forLoop_le {n : ℕ} (hn : n + 1 < m) (s : σ) :
    forLoop m (fun i => decide (i ≤ n)) body s = some ((List.range (n + 1)).foldl body s) :=
  run_eq_foldl (fun j hj => by simpa using Nat.lt_succ_iff.mp hj) (by simp) hn hn s

/-- A counter whose largest value is `n` at most never ends the loop. -/
theorem forLoop_le_eq_none {n : ℕ} (hm : 0 < m) (hn : m ≤ n + 1) (s : σ) :
    forLoop m (fun i => decide (i ≤ n)) body s = none :=
  run_eq_none hm (fun j hj => by simpa using Nat.lt_succ_iff.mp (hj.trans_le hn)) hm _ s

/-- A loop whose first test fails does nothing. -/
lemma forLoop_of_not {test : ℕ → Bool} (hm : 0 < m) (h : test 0 = false) (s : σ) :
    forLoop m test body s = some s :=
  run_eq_foldl (n := 0) (by simp) h hm hm s
