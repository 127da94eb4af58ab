import UsbTv.Queue.FreeList

set_option relaxedAutoImplicit false
set_option autoImplicit false

/-!
# The blocks of the process queue

Where a producer of `concurrentqueue.h` gets its blocks from: `requisition_block` takes one of
`initialBlockPool` as long as there are any, else one of the free list, and else it creates one.
`add_block_to_free_list` gives a block back. Any number of threads call both.

The blocks are numbered: first those of `initialBlockPool`, and then the others as they are
created. `initialBlockPoolIndex` stays far from the limit of its type: it is not counted up any
further once it is loaded at the size.

## Main definitions

* `UsbTv.BlockPool`, `UsbTv.BlockPool.move` — the pool, and the next move of a thread.
* `UsbTv.blockPoolCrew` — all interleavings.

## Main results

* `UsbTv.BlockPool.kept_of_reachable` — what every reachable state keeps.
* `UsbTv.BlockPool.eq_of_done` — no block is given to two callers.
* `UsbTv.BlockPool.place_of_given` — no block is lost.
-/

namespace UsbTv

/-- What `ConcurrentQueue` has of its blocks, and on record which are in use. -/
structure BlockPool where
  initialBlockPoolIndex : ℕ
  initialBlockPoolSize : ℕ
  freeList : FreeList ℕ
  /-- The number of blocks that were created. -/
  created : ℕ
  /-- `requisition_block` has returned the block, and it has not been given back since. -/
  used : ℕ → Bool

/-- Where a thread stands. -/
inductive BlockPoolPc
  | out
  /-- In `try_get_block_from_initial_pool`, at `initialBlockPoolIndex.load`. -/
  | poolLoad
  /-- At `initialBlockPoolIndex.fetch_add`. -/
  | poolAdd
  /-- In `freeList.try_get`. -/
  | getting (pc : FreeListPc ℕ)
  /-- At `create<Block>`. -/
  | create
  /-- In `freeList.add`. -/
  | adding (pc : FreeListPc ℕ)
  /-- `requisition_block` returns. -/
  | done (block : Option ℕ)
  deriving DecidableEq

/-- What can happen to a thread. -/
inductive BlockPoolEvent
  | requisition
  /-- `add_block_to_free_list(block)` is called. -/
  | addBlock (block : ℕ)
  /-- The thread goes on. -/
  | next
  /-- There is no memory for a block. -/
  | fail
  | ret
  deriving DecidableEq

namespace BlockPool

/-- The pool of a new queue, with so many blocks to begin with. -/
def new (initialBlockPoolSize : ℕ) : BlockPool where
  initialBlockPoolIndex := 0
  initialBlockPoolSize := initialBlockPoolSize
  freeList := .new
  created := 0
  used _ := false

/-- The free list moves. -/
def withList (s : BlockPool) (pc : FreeListPc ℕ) (e : FreeListEvent ℕ)
    (after : FreeListPc ℕ → BlockPoolPc) : Option (BlockPool × BlockPoolPc) :=
  (s.freeList.move pc e).map fun r => ({ s with freeList := r.1 }, after r.2)

/-- The next move of a thread. -/
def move (s : BlockPool) : BlockPoolPc → BlockPoolEvent → Option (BlockPool × BlockPoolPc)
  | .out, .requisition => some (s, .poolLoad)
  | .poolLoad, .next =>
    some (s, if s.initialBlockPoolIndex ≥ s.initialBlockPoolSize then .getting .getLoad
      else .poolAdd)
  | .poolAdd, .next =>
    some ({ s with initialBlockPoolIndex := s.initialBlockPoolIndex + 1 },
      if s.initialBlockPoolIndex < s.initialBlockPoolSize then
        .done (some s.initialBlockPoolIndex)
      else .getting .getLoad)
  | .getting (.got block), .next =>
    s.withList (.got block) .ret fun _ => if block = none then .create else .done block
  | .getting pc, .next => s.withList pc .next .getting
  | .create, .next =>
    some ({ s with created := s.created + 1 }, .done (some (s.initialBlockPoolSize + s.created)))
  | .create, .fail => some (s, .done none)
  | .out, .addBlock block =>
    { s with used := Function.update s.used block false }.withList .out (.add block) .adding
  | .adding .added, .next => s.withList .added .ret fun _ => .out
  | .adding pc, .next => s.withList pc .next .adding
  | .done none, .ret => some (s, .out)
  | .done (some block), .ret =>
    some ({ s with used := Function.update s.used block true }, .out)
  | _, _ => none

end BlockPool

/-- All interleavings of threads that call `requisition_block` and `add_block_to_free_list`. -/
def blockPoolCrew (τ : Type*) [DecidableEq τ] (initialBlockPoolSize : ℕ) :
    StepSystem (Crew BlockPool BlockPoolPc τ) (τ × BlockPoolEvent) :=
  crew (fun c => c.shared = .new initialBlockPoolSize ∧ ∀ t, c.place t = .out)
    fun _ => BlockPool.move

/-- Blocks that are in use are given back, and no others. -/
def BlockPool.AddsUsed {τ : Type*} (c : Crew BlockPool BlockPoolPc τ) :
    τ × BlockPoolEvent → Prop
  | (_, .addBlock block) => c.shared.used block = true
  | _ => True

instance {τ : Type*} (c : Crew BlockPool BlockPoolPc τ) : DecidablePred (BlockPool.AddsUsed c)
  | (_, .addBlock _) => inferInstanceAs (Decidable (_ = true))
  | (_, .requisition) | (_, .next) | (_, .fail) | (_, .ret) => .isTrue trivial

namespace BlockPoolPc

/-- Where the thread stands in the free list. -/
def inList : BlockPoolPc → FreeListPc ℕ
  | getting pc | adding pc => pc
  | _ => .out

/-- The block with which `requisition_block` returns. -/
def returning : BlockPoolPc → ℕ → ℕ
  | done (some block), b => if b = block then 1 else 0
  | _, _ => 0

end BlockPoolPc

namespace BlockPool

/-- The block has been returned by `requisition_block` at some time, or is about to be. -/
def Given (s : BlockPool) (b : ℕ) : Prop :=
  b < s.initialBlockPoolIndex ∧ b < s.initialBlockPoolSize ∨
    s.initialBlockPoolSize ≤ b ∧ b < s.initialBlockPoolSize + s.created

/-- A block that has been given out is in use, about to be returned, or with the free list. -/
structure BlockOk (given : Prop) (lent used : Bool) (returning : ℕ) : Prop where
  out : given → lent.toNat = used.toNat + returning
  fresh : ¬given → lent = true ∧ used = false ∧ returning = 0

/-- What every reachable state keeps. -/
structure Kept {τ : Type*} [DecidableEq τ] [Fintype τ] (c : Crew BlockPool BlockPoolPc τ) :
    Prop where
  list : (freeListCrew τ ℕ).ReachableUnder FreeList.AddsLent
    (c.map BlockPool.freeList BlockPoolPc.inList)
  blocks : ∀ b, BlockOk (c.shared.Given b) (c.shared.freeList.lent b) (c.shared.used b)
    (c.total BlockPoolPc.returning b)

end BlockPool

namespace FreeList

/-- Only `add` takes a node from the callers, and only `try_get` gives one to them. -/
lemma lent_of_next {ν : Type*} [DecidableEq ν] {s s' : FreeList ν} {pc pc' : FreeListPc ν}
    (h : s.move pc .next = some (s', pc')) : s'.lent = s.lent := by
  unfold move at h
  split at h
  all_goals
    try split_ifs at h
    all_goals
      first
        | contradiction
        | cases h
          rfl

end FreeList

namespace BlockPool

variable {s s' : BlockPool} {pc pc' : BlockPoolPc} {e : BlockPoolEvent} {others : ℕ → ℕ}

/-- What a move of the free list leaves behind. -/
lemma withList_eq_some {pcList : FreeListPc ℕ} {e : FreeListEvent ℕ}
    {after : FreeListPc ℕ → BlockPoolPc} :
    s.withList pcList e after = some (s', pc') ↔ ∃ fl pcList',
      s.freeList.move pcList e = some (fl, pcList') ∧ s' = { s with freeList := fl } ∧
        pc' = after pcList' := by
  unfold withList
  rw [Option.map_eq_some_iff]
  constructor
  · rintro ⟨⟨fl, pcList'⟩, hmove, heq⟩
    obtain ⟨rfl, rfl⟩ := Prod.mk.inj heq
    exact ⟨fl, pcList', hmove, rfl, rfl⟩
  · rintro ⟨fl, pcList', hmove, rfl, rfl⟩
    exact ⟨(fl, pcList'), hmove, rfl⟩

/-- In the free list a move is a move, or is not seen. -/
lemma list_of_move (h : s.move pc e = some (s', pc')) :
    (s'.freeList = s.freeList ∧ pc'.inList = pc.inList) ∨
      ∃ e', (∀ node, e' = .add node → e = .addBlock node) ∧
        s.freeList.move pc.inList e' = some (s'.freeList, pc'.inList) := by
  unfold move at h
  split at h
  case h_2 =>
    cases h
    split_ifs
    · exact .inr ⟨.tryGet, nofun, rfl⟩
    · exact .inl ⟨rfl, rfl⟩
  case h_3 =>
    cases h
    split_ifs
    · exact .inl ⟨rfl, rfl⟩
    · exact .inr ⟨.tryGet, nofun, rfl⟩
  case h_4 block =>
    obtain ⟨fl, pcList', hmove, rfl, rfl⟩ := withList_eq_some.mp h
    have hout : pcList' = .out := by
      cases block <;> cases hmove <;> rfl
    subst hout
    refine .inr ⟨.ret, nofun, ?_⟩
    split_ifs <;> exact hmove
  case h_5 =>
    obtain ⟨fl, pcList', hmove, rfl, rfl⟩ := withList_eq_some.mp h
    exact .inr ⟨.next, nofun, hmove⟩
  case h_8 block =>
    obtain ⟨fl, pcList', hmove, rfl, rfl⟩ := withList_eq_some.mp h
    exact .inr ⟨.add block, fun node hnode => by cases hnode; rfl, hmove⟩
  case h_9 =>
    obtain ⟨fl, pcList', hmove, rfl, rfl⟩ := withList_eq_some.mp h
    obtain ⟨rfl, rfl⟩ := Prod.mk.inj (Option.some_inj.mp hmove)
    exact .inr ⟨.ret, nofun, rfl⟩
  case h_10 =>
    obtain ⟨fl, pcList', hmove, rfl, rfl⟩ := withList_eq_some.mp h
    exact .inr ⟨.next, nofun, hmove⟩
  all_goals cases h <;> exact .inl ⟨rfl, rfl⟩

/-- A move that changes nothing but the place of one block. -/
lemma blocks_of_block {lent lent' used used' : ℕ → Bool} {returning returning' : ℕ → ℕ}
    {given given' : ℕ → Prop} (block : ℕ)
    (hb : ∀ b, BlockOk (given b) (lent b) (used b) (returning b))
    (hsame : ∀ b, b ≠ block → (given' b ↔ given b) ∧ lent' b = lent b ∧ used' b = used b ∧
      returning' b = returning b)
    (hblock : BlockOk (given block) (lent block) (used block) (returning block) →
      BlockOk (given' block) (lent' block) (used' block) (returning' block)) :
    ∀ b, BlockOk (given' b) (lent' b) (used' b) (returning' b) := by
  intro b
  by_cases h : b = block
  · subst h
    exact hblock (hb b)
  · obtain ⟨hgiven, hlent, hused, hreturning⟩ := hsame b h
    rw [hgiven, hlent, hused, hreturning]
    exact hb b

/-- **A move keeps each block in one place.** -/
lemma blocks_of_move (h : s.move pc e = some (s', pc'))
    (hb : ∀ b, BlockOk (s.Given b) (s.freeList.lent b) (s.used b) (pc.returning b + others b))
    (hholds : ∀ b, pc.inList.holds = some b → s.freeList.lent b = false)
    (hused : ∀ b, e = .addBlock b → s.used b = true) :
    ∀ b, BlockOk (s'.Given b) (s'.freeList.lent b) (s'.used b) (pc'.returning b + others b) := by
  unfold move at h
  split at h
  case h_1 =>
    cases h
    exact hb
  case h_2 =>
    cases h
    split_ifs <;> exact hb
  case h_3 =>
    cases h
    split_ifs with hlt
    · -- a block of the initial pool
      refine blocks_of_block s.initialBlockPoolIndex hb (fun b hne => ⟨?_, rfl, rfl, ?_⟩)
        fun ⟨_, hfresh⟩ => ⟨fun _ => ?_, fun hnot => absurd (.inl ⟨by simp, hlt⟩) hnot⟩
      · simp only [Given]
        omega
      · simp [BlockPoolPc.returning, hne]
      · obtain ⟨hlent, hused, hzero⟩ := hfresh (by simp only [Given]; omega)
        simp only [BlockPoolPc.returning] at hzero ⊢
        rw [hlent, hused]
        simpa using hzero
    · intro b
      have hgiven : ({ s with initialBlockPoolIndex := s.initialBlockPoolIndex + 1 } :
          BlockPool).Given b ↔ s.Given b := by
        simp only [Given]
        omega
      rw [hgiven]
      exact hb b
  case h_4 block =>
    -- `try_get` returns
    obtain ⟨fl, pcList', hmove, rfl, rfl⟩ := withList_eq_some.mp h
    cases block with
    | none =>
      cases hmove
      exact hb
    | some block =>
      cases hmove
      have hlent := hholds block rfl
      refine blocks_of_block block hb (fun b hne => ⟨Iff.rfl, ?_, rfl, ?_⟩)
        fun ⟨hout, hfresh⟩ => ⟨fun hgiven => ?_, fun hnot => ?_⟩
      · simp [hne]
      · simp [BlockPoolPc.returning, hne]
      · have hzero := hout hgiven
        rw [hlent] at hzero
        have hsum : 0 = (s.used block).toNat + others block := by
          simpa [BlockPoolPc.returning] using hzero
        simp only [FreeList.setLent_lent, Function.update_self, Bool.toNat_true,
          BlockPoolPc.returning, reduceCtorEq, if_true, if_false]
        omega
      · have htrue := (hfresh hnot).1
        rw [hlent] at htrue
        cases htrue
  case h_5 =>
    obtain ⟨fl, pcList', hmove, rfl, rfl⟩ := withList_eq_some.mp h
    dsimp only
    rw [FreeList.lent_of_next hmove]
    exact hb
  case h_6 =>
    -- a new block
    cases h
    refine blocks_of_block (s.initialBlockPoolSize + s.created) hb
      (fun b hne => ⟨?_, rfl, rfl, ?_⟩)
      fun ⟨_, hfresh⟩ => ⟨fun _ => ?_, fun hnot => absurd (.inr (by simp)) hnot⟩
    · simp only [Given]
      omega
    · simp [BlockPoolPc.returning, hne]
    · obtain ⟨hlent, hused, hzero⟩ := hfresh (by simp only [Given]; omega)
      simp only [BlockPoolPc.returning] at hzero ⊢
      rw [hlent, hused]
      simpa using hzero
  case h_7 =>
    cases h
    exact hb
  case h_8 block =>
    -- a block is given back
    obtain ⟨fl, pcList', hmove, rfl, rfl⟩ := withList_eq_some.mp h
    cases hmove
    have hin := hused block rfl
    refine blocks_of_block block hb (fun b hne => ⟨Iff.rfl, ?_, ?_, rfl⟩)
      fun ⟨hout, hfresh⟩ => ⟨fun hgiven => ?_, fun hnot => ?_⟩
    · simp [hne]
    · simp [hne]
    · have hone := hout hgiven
      rw [hin] at hone
      have hle := Bool.toNat_le (s.freeList.lent block)
      simp only [Bool.toNat_true, BlockPoolPc.returning, Nat.zero_add, FreeList.setRefs_lent,
        FreeList.setLent_lent, Function.update_self, Bool.toNat_false] at hone ⊢
      omega
    · have hfalse := (hfresh hnot).2.1
      rw [hin] at hfalse
      cases hfalse
  case h_9 =>
    obtain ⟨fl, pcList', hmove, rfl, rfl⟩ := withList_eq_some.mp h
    cases hmove
    exact hb
  case h_10 =>
    obtain ⟨fl, pcList', hmove, rfl, rfl⟩ := withList_eq_some.mp h
    dsimp only
    rw [FreeList.lent_of_next hmove]
    exact hb
  case h_11 =>
    cases h
    exact hb
  case h_12 block =>
    -- `requisition_block` returns
    cases h
    refine blocks_of_block block hb (fun b hne => ⟨Iff.rfl, rfl, ?_, ?_⟩)
      fun ⟨hout, hfresh⟩ => ⟨fun hgiven => ?_, fun hnot => ?_⟩
    · simp [hne]
    · simp [BlockPoolPc.returning, hne]
    · have hone := hout hgiven
      have hle := Bool.toNat_le (s.freeList.lent block)
      simp only [BlockPoolPc.returning, if_true, Function.update_self, Bool.toNat_true,
        Nat.zero_add] at hone ⊢
      omega
    · have hzero := (hfresh hnot).2.2
      simp [BlockPoolPc.returning] at hzero
  case h_13 => cases h

/-! ## A block that is used again -/

/-- Two threads, and one block in the pool. -/
def oneBlock : Crew BlockPool BlockPoolPc Bool := ⟨.new 1, fun _ => .out⟩

/-- They are as at the start of a run. -/
lemma init_oneBlock : (blockPoolCrew Bool 1).Init oneBlock := ⟨rfl, fun _ => rfl⟩

/-- The first thread gets the block and gives it back. -/
def giveBackEvents : List (Bool × BlockPoolEvent) :=
  [(false, .requisition), (false, .next), (false, .next), (false, .ret), (false, .addBlock 0),
    (false, .next), (false, .next), (false, .next), (false, .next), (false, .next)]

/-- The other thread finds the pool empty and the block on the free list. -/
def reuseEvents : List (Bool × BlockPoolEvent) :=
  giveBackEvents ++ [(true, .requisition), (true, .next), (true, .next), (true, .next),
    (true, .next), (true, .next), (true, .next), (true, .next), (true, .next)]

/-! ## All threads -/

section Crew

variable {τ : Type*} [DecidableEq τ] [Fintype τ] {size : ℕ} {c c' : Crew BlockPool BlockPoolPc τ}
  {t u : τ} {b : ℕ}

/-- Every move keeps it. -/
lemma Kept.step {e : τ × BlockPoolEvent} (hcard : Fintype.card τ + 3 < 2 ^ 31) (hc : Kept c)
    (hadds : AddsUsed c e) (h : (blockPoolCrew τ size).step c e = some c') : Kept c' := by
  obtain ⟨t, e⟩ := e
  obtain ⟨s', pc', hmove, rfl⟩ := Crew.step_eq_some.mp h
  obtain ⟨hlist, hblocks⟩ := hc
  have hused : ∀ b, e = .addBlock b → c.shared.used b = true := by
    rintro b rfl
    exact hadds
  have hlent : ∀ b, c.shared.used b = true → c.shared.freeList.lent b = true := by
    intro b hb
    obtain ⟨hout, hfresh⟩ := hblocks b
    by_cases hgiven : c.shared.Given b
    · have hone := hout hgiven
      rw [hb] at hone
      have hle := Bool.toNat_le (c.shared.freeList.lent b)
      rw [← Bool.toNat_eq_one]
      simp only [Bool.toNat_true] at hone
      omega
    · exact (hfresh hgiven).1
  have hplace : (fun u => (Function.update c.place t pc' u).inList) =
      Function.update (fun u => (c.place u).inList) t pc'.inList := by
    funext u
    exact Function.apply_update (fun _ => BlockPoolPc.inList) c.place t pc' u
  constructor
  · unfold Crew.map Crew.view
    dsimp only
    rw [hplace]
    obtain ⟨hfree, hpc⟩ | ⟨e', he', hmove'⟩ := list_of_move hmove
    · rw [hfree, hpc, Function.update_eq_self]
      exact hlist
    · refine hlist.step (e := (t, e')) ?_ (Crew.step_eq_some.mpr ⟨_, _, hmove', rfl⟩)
      cases e' with
      | add node => exact hlent node (hused node (he' node rfl))
      | tryGet | next | ret => trivial
  · rw [Crew.total_update]
    refine blocks_of_move hmove (fun b => ?_) (fun b hb => ?_) hused
    · have hb := hblocks b
      rw [Crew.total_eq _ _ t] at hb
      exact hb
    · exact ((FreeList.kept_of_reachable hcard hlist).only_holder (t := t) hb).1

/-- **What every reachable state keeps**: the free list is used as it is meant to be, and a block
that has been given out is in use, about to be returned, or with the free list. -/
theorem kept_of_reachable (hcard : Fintype.card τ + 3 < 2 ^ 31)
    (h : (blockPoolCrew τ size).ReachableUnder AddsUsed c) : Kept c := by
  refine StepSystem.ReachableUnder.invariant (fun c hinit => ?_)
    (fun c e c' _ hc hadds hstep => hc.step hcard hadds hstep) h
  obtain ⟨hshared, hplace⟩ := hinit
  constructor
  · refine .init ⟨?_, fun t => ?_⟩
    · show c.shared.freeList = .new
      rw [hshared]
      rfl
    · show (c.place t).inList = .out
      rw [hplace t]
      rfl
  · intro b
    rw [Crew.total_eq_zero fun t => by rw [hplace t]; rfl, hshared]
    exact ⟨fun hgiven => by simp [Given, new] at hgiven; omega, fun _ => ⟨rfl, rfl, rfl⟩⟩

/-- **No block is given to two callers**: one with which `requisition_block` returns is not in use,
and no other thread returns with it. -/
theorem eq_of_done (hcard : Fintype.card τ + 3 < 2 ^ 31)
    (h : (blockPoolCrew τ size).ReachableUnder AddsUsed c) (ht : c.place t = .done (some b)) :
    c.shared.used b = false ∧ ∀ u, c.place u = .done (some b) → u = t := by
  obtain ⟨hout, hfresh⟩ := (kept_of_reachable hcard h).blocks b
  have hreturning : ∀ u, c.place u = .done (some b) → (c.place u).returning b = 1 := by
    intro u hu
    rw [hu]
    exact if_pos rfl
  have ht := hreturning t ht
  rw [Crew.total_eq _ _ t] at hout hfresh
  simp only [Pi.add_apply, ht] at hout hfresh
  have hgiven : c.shared.Given b := by
    by_contra hnot
    have hzero := (hfresh hnot).2.2
    omega
  have hsum := hout hgiven
  have hle := Bool.toNat_le (c.shared.freeList.lent b)
  refine ⟨?_, fun u hu => ?_⟩
  · rw [← Bool.not_eq_true, ← Bool.toNat_eq_one]
    omega
  · by_contra hne
    rw [← Finset.add_sum_erase _ _ (Finset.mem_erase.mpr ⟨hne, Finset.mem_univ u⟩)] at hsum
    simp only [Pi.add_apply, hreturning u hu] at hsum
    omega

/-- The other thread returns with the block. -/
theorem eq_of_done_reuse :
    ∃ c, (blockPoolCrew Bool 1).ReachableUnder AddsUsed c ∧ c.place true = .done (some 0) ∧
      c.shared.used 0 = false ∧ ∀ u, c.place u = .done (some 0) → u = true := by
  have h : ((blockPoolCrew Bool 1).runUnder AddsUsed oneBlock reuseEvents).map
      (fun c => c.place true) = some (.done (some 0)) := by decide +kernel
  obtain ⟨c, hrun, hplace⟩ := Option.map_eq_some_iff.mp h
  have hreach := StepSystem.ReachableUnder.runUnder (.init init_oneBlock) hrun
  exact ⟨c, hreach, hplace, eq_of_done (by decide) hreach hplace⟩

/-- **No block is lost**: one that has been given out is in use, about to be returned, put onto the
free list or taken from it by a thread, on the free list, or flagged and left to a thread that is
counted in it. -/
theorem place_of_given (hcard : Fintype.card τ + 3 < 2 ^ 31)
    (h : (blockPoolCrew τ size).ReachableUnder AddsUsed c) (hgiven : c.shared.Given b) :
    c.shared.used b = true ∨ (∃ t, c.place t = .done (some b)) ∨
      (∃ t, (c.place t).inList.holds = some b) ∨
      (∃ l, Linked c.shared.freeList.freeListNext c.shared.freeList.freeListHead l ∧ b ∈ l) ∨
      shouldBeOnFreelist ≤ c.shared.freeList.freeListRefs b ∧
        ∃ t, (c.place t).inList.looksAt = some b := by
  obtain ⟨hlist, hblocks⟩ := kept_of_reachable hcard h
  by_cases hused : c.shared.used b = true
  · exact .inl hused
  by_cases hdone : ∃ t, c.place t = .done (some b)
  · exact .inr (.inl hdone)
  by_cases hholds : ∃ t, (c.place t).inList.holds = some b
  · exact .inr (.inr (.inl hholds))
  have hzero : c.total BlockPoolPc.returning b = 0 := by
    unfold Crew.total
    rw [Finset.sum_apply]
    refine Finset.sum_eq_zero fun t _ => ?_
    have hne : c.place t ≠ .done (some b) := fun ht => hdone ⟨t, ht⟩
    unfold BlockPoolPc.returning
    split
    · rename_i block hplace
      exact if_neg fun heq => hne (by rw [hplace, heq])
    · rfl
  have hlent : c.shared.freeList.lent b = false := by
    have hsum := (hblocks b).out hgiven
    rw [Bool.not_eq_true] at hused
    rw [hzero, hused] at hsum
    rw [← Bool.not_eq_true, ← Bool.toNat_eq_one, hsum]
    decide
  obtain ⟨l, hlinked, -, -, hmem⟩ := (FreeList.kept_of_reachable hcard hlist).list
  rcases hmem b hlent fun t ht => hholds ⟨t, ht⟩ with hb | hflag
  · exact .inr (.inr (.inr (.inl ⟨l, hlinked, hb⟩)))
  · exact .inr (.inr (.inr (.inr hflag)))

/-- The block that was given back is on the free list, the only place that is left for it. -/
theorem place_of_given_back :
    ∃ c, (blockPoolCrew Bool 1).ReachableUnder AddsUsed c ∧ c.shared.Given 0 ∧
      (c.shared.used 0 = true ∨ (∃ t, c.place t = .done (some 0)) ∨
        (∃ t, (c.place t).inList.holds = some 0) ∨
        (∃ l, Linked c.shared.freeList.freeListNext c.shared.freeList.freeListHead l ∧ 0 ∈ l) ∨
        shouldBeOnFreelist ≤ c.shared.freeList.freeListRefs 0 ∧
          ∃ t, (c.place t).inList.looksAt = some 0) := by
  have h : ((blockPoolCrew Bool 1).runUnder AddsUsed oneBlock giveBackEvents).map
      (fun c => (c.shared.initialBlockPoolIndex, c.shared.initialBlockPoolSize)) = some (1, 1) := by
    decide +kernel
  obtain ⟨c, hrun, heq⟩ := Option.map_eq_some_iff.mp h
  obtain ⟨hindex, hsize⟩ := Prod.mk.inj heq
  have hreach := StepSystem.ReachableUnder.runUnder (.init init_oneBlock) hrun
  have hgiven : c.shared.Given 0 := .inl ⟨by omega, by omega⟩
  exact ⟨c, hreach, hgiven, place_of_given (by decide) hreach hgiven⟩

end Crew

end BlockPool

end UsbTv
