import Mathlib.Algebra.BigOperators.Pi
import Mathlib.Data.Fintype.Card
import Mathlib.Data.Nat.Bitwise
import UsbTv.Lib.Crew
import UsbTv.Lib.Linked

set_option relaxedAutoImplicit false
set_option autoImplicit false

/-!
# The free list of the process queue

`FreeList` of `concurrentqueue.h`: the blocks of the queue that are not in use, on a list that is
linked through the blocks themselves. A thread that wants a block first counts itself in
`freeListRefs` of the block at the head. While it is counted, the block is not put onto the list
again, so that its `freeListNext` stays what it was when the thread read it. A block that is given
back while threads are still counted in it is only flagged, and the last of them puts it onto the
list. Where the exchange that puts it there fails, the block is flagged again and left to those
who have counted themselves in meanwhile.

Any number of threads call `add` and `try_get`. Memory is sequentially consistent.

## Main definitions

* `UsbTv.FreeList` — the head, the counts and the pointers.
* `UsbTv.FreeListPc`, `UsbTv.FreeList.move` — where a thread stands, and its next move.
* `UsbTv.freeListCrew` — all interleavings.

## Main results

* `UsbTv.FreeList.exists_linked` — no node is lost.
* `UsbTv.FreeList.eq_of_holds` — no node is given to two callers.
* `UsbTv.FreeList.flag_eq_zero` — the flag is not set where the code relies on it.
-/

namespace UsbTv

/-- `FreeList`: its head, what each node has of `FreeListNode`, and on record which nodes are with
the callers. -/
structure FreeList (ν : Type*) where
  freeListHead : Option ν
  freeListRefs : ν → ℕ
  freeListNext : ν → Option ν
  /-- The node has not been given to `add` since `try_get` returned it, or never. -/
  lent : ν → Bool

/-- `REFS_MASK`. -/
def refsMask : ℕ := 0x7FFFFFFF

/-- `SHOULD_BE_ON_FREELIST`. -/
def shouldBeOnFreelist : ℕ := 0x80000000

/-- `fetch_add` on a `uint32_t`. -/
def fetchAdd (refs k : ℕ) : ℕ := (refs + k) % 2 ^ 32

/-- `fetch_sub` on a `uint32_t`. -/
def fetchSub (refs k : ℕ) : ℕ := (refs + 2 ^ 32 - k) % 2 ^ 32

/-- Where a thread goes on after `add_knowing_refcount_is_zero`. -/
inductive AfterAdd (ν : Type*)
  /-- `add` returns. -/
  | returns
  /-- `try_get` goes on with this head. -/
  | goesOn (head : Option ν)
  deriving DecidableEq

/-- Where a thread stands. -/
inductive FreeListPc (ν : Type*)
  | out
  /-- In `add_knowing_refcount_is_zero`, at `freeListHead.load`. -/
  | addLoad (node : ν) (after : AfterAdd ν)
  /-- In its loop, at `freeListNext.store`. -/
  | addNext (node : ν) (head : Option ν) (after : AfterAdd ν)
  /-- At `freeListRefs.store(1)`. -/
  | addRefs (node : ν) (head : Option ν) (after : AfterAdd ν)
  /-- At `compare_exchange_strong`. -/
  | addExchange (node : ν) (head : Option ν) (after : AfterAdd ν)
  /-- The exchange has failed; at `fetch_add(SHOULD_BE_ON_FREELIST - 1)`. -/
  | addFailed (node : ν) (head : Option ν) (after : AfterAdd ν)
  /-- `add` returns. -/
  | added
  /-- In `try_get`, at `freeListHead.load`. -/
  | getLoad
  /-- At the head of the loop, and then at `freeListRefs.load`. -/
  | getRefs (head : Option ν)
  /-- At the test of the count that was loaded, and the exchange that adds to it. -/
  | getCount (head : ν) (refs : ℕ)
  /-- At `freeListNext.load`. -/
  | getNext (head : ν)
  /-- At the exchange of `freeListHead`. -/
  | getExchange (head : ν) (next : Option ν)
  /-- The exchange was successful; at `fetch_sub(2)`. -/
  | getRelease (head : ν)
  /-- It has failed; at `fetch_sub(1)`. -/
  | getFailed (prevHead : ν) (head : Option ν)
  /-- `try_get` returns. -/
  | got (node : Option ν)
  deriving DecidableEq

/-- What can happen to a thread. -/
inductive FreeListEvent (ν : Type*)
  /-- `add(node)` is called, and adds to `freeListRefs`. -/
  | add (node : ν)
  | tryGet
  /-- The thread goes on. -/
  | next
  | ret
  deriving DecidableEq

/-- The place after `add_knowing_refcount_is_zero`. -/
def AfterAdd.pc {ν : Type*} : AfterAdd ν → FreeListPc ν
  | returns => .added
  | goesOn head => .getRefs head

namespace FreeList

variable {ν : Type*}

/-- `FreeList()`, with all nodes in use. -/
def new : FreeList ν where
  freeListHead := none
  freeListRefs _ := 0
  freeListNext _ := none
  lent _ := true

variable [DecidableEq ν]

/-- The count of a node is stored. -/
@[simps]
def setRefs (s : FreeList ν) (node : ν) (refs : ℕ) : FreeList ν :=
  { s with freeListRefs := Function.update s.freeListRefs node refs }

/-- A node is taken from the callers, or given to them. -/
@[simps]
def setLent (s : FreeList ν) (node : ν) (lent : Bool) : FreeList ν :=
  { s with lent := Function.update s.lent node lent }

/-- The next move of a thread. -/
def move (s : FreeList ν) : FreeListPc ν → FreeListEvent ν → Option (FreeList ν × FreeListPc ν)
  | .out, .add node =>
    some ((s.setLent node false).setRefs node
        (fetchAdd (s.freeListRefs node) shouldBeOnFreelist),
      if s.freeListRefs node = 0 then .addLoad node .returns else .added)
  | .addLoad node after, .next => some (s, .addNext node s.freeListHead after)
  | .addNext node head after, .next =>
    some ({ s with freeListNext := Function.update s.freeListNext node head },
      .addRefs node head after)
  | .addRefs node head after, .next => some (s.setRefs node 1, .addExchange node head after)
  | .addExchange node head after, .next =>
    if s.freeListHead = head then some ({ s with freeListHead := some node }, after.pc)
    else some (s, .addFailed node s.freeListHead after)
  | .addFailed node head after, .next =>
    some (s.setRefs node (fetchAdd (s.freeListRefs node) (shouldBeOnFreelist - 1)),
      if s.freeListRefs node = 1 then .addNext node head after else after.pc)
  | .added, .ret => some (s, .out)
  | .out, .tryGet => some (s, .getLoad)
  | .getLoad, .next => some (s, .getRefs s.freeListHead)
  | .getRefs none, .next => some (s, .got none)
  | .getRefs (some head), .next => some (s, .getCount head (s.freeListRefs head))
  | .getCount head refs, .next =>
    if refs &&& refsMask = 0 ∨ s.freeListRefs head ≠ refs then some (s, .getLoad)
    else some (s.setRefs head (fetchAdd refs 1), .getNext head)
  | .getNext head, .next => some (s, .getExchange head (s.freeListNext head))
  | .getExchange head next, .next =>
    if s.freeListHead = some head then some ({ s with freeListHead := next }, .getRelease head)
    else some (s, .getFailed head s.freeListHead)
  | .getRelease head, .next =>
    some (s.setRefs head (fetchSub (s.freeListRefs head) 2), .got (some head))
  | .getFailed prevHead head, .next =>
    some (s.setRefs prevHead (fetchSub (s.freeListRefs prevHead) 1),
      if s.freeListRefs prevHead = shouldBeOnFreelist + 1 then .addLoad prevHead (.goesOn head)
      else .getRefs head)
  | .got none, .ret => some (s, .out)
  | .got (some node), .ret => some (s.setLent node true, .out)
  | _, _ => none

end FreeList

/-- All interleavings of threads that call a free list. -/
def freeListCrew (τ ν : Type*) [DecidableEq τ] [DecidableEq ν] :
    StepSystem (Crew (FreeList ν) (FreeListPc ν) τ) (τ × FreeListEvent ν) :=
  crew (fun c => c.shared = .new ∧ ∀ t, c.place t = .out) fun _ => FreeList.move

/-- `add` is called with nodes that are with the callers. -/
def FreeList.AddsLent {τ ν : Type*} (c : Crew (FreeList ν) (FreeListPc ν) τ) :
    τ × FreeListEvent ν → Prop
  | (_, .add node) => c.shared.lent node = true
  | _ => True

instance {τ ν : Type*} (c : Crew (FreeList ν) (FreeListPc ν) τ) :
    DecidablePred (FreeList.AddsLent c)
  | (_, .add _) => inferInstanceAs (Decidable (_ = true))
  | (_, .tryGet) | (_, .next) | (_, .ret) => .isTrue trivial

namespace FreeListPc

variable {ν : Type*}

/-- The node that a thread has: it puts it onto the list, or has taken it from there. -/
def holds : FreeListPc ν → Option ν
  | addLoad node _ | addNext node _ _ | addRefs node _ _ | addExchange node _ _ => some node
  | addFailed node _ _ | getRelease node => some node
  | got node => node
  | _ => none

/-- The node that a thread is counted in without having it. -/
def looksAt : FreeListPc ν → Option ν
  | getNext head | getExchange head _ | getFailed head _ => some head
  | _ => none

/-- What a thread has in the balance of a node: what it has counted in `freeListRefs`, for itself
and for the list; whether it puts the node onto the list while nobody else can be counted in it;
and whether it has the node otherwise. -/
@[simp] def weight [DecidableEq ν] : FreeListPc ν → ν → ℕ × ℕ × ℕ
  | addLoad node _, n => if n = node then (0, 1, 0) else (0, 0, 0)
  | addNext node _ _, n => if n = node then (0, 1, 0) else (0, 0, 0)
  | addRefs node _ _, n => if n = node then (0, 1, 0) else (0, 0, 0)
  | addExchange node _ _, n => if n = node then (1, 0, 1) else (0, 0, 0)
  | addFailed node _ _, n => if n = node then (1, 0, 1) else (0, 0, 0)
  | getNext head, n => if n = head then (1, 0, 0) else (0, 0, 0)
  | getExchange head _, n => if n = head then (1, 0, 0) else (0, 0, 0)
  | getFailed prevHead _, n => if n = prevHead then (1, 0, 0) else (0, 0, 0)
  | getRelease head, n => if n = head then (2, 0, 1) else (0, 0, 0)
  | got (some node), n => if n = node then (0, 0, 1) else (0, 0, 0)
  | _, _ => (0, 0, 0)

end FreeListPc

namespace FreeList

variable {ν : Type*} [DecidableEq ν]

/-- Where a node is: with the callers, on the list, with a thread that puts it there or has taken
it from there, or flagged and left to those who are counted in it. -/
structure Placed (refs : ℕ) (lent : Bool) (listed waits : ℕ) (w : ℕ × ℕ × ℕ) : Prop where
  refs_eq : refs = w.1 + listed + shouldBeOnFreelist * (w.2.1 + waits)
  once : lent.toNat + listed + w.2.1 + w.2.2 + waits = 1
  links : w.2.1 = 0 ∨ w.1 = 0
  waits : waits = 0 ∨ 0 < w.1

/-- The list is linked through its nodes, and each node is in one place. -/
structure Sound (s : FreeList ν) (l : List ν) (waits : ν → ℕ) (w : ν → ℕ × ℕ × ℕ) : Prop where
  linked : Linked s.freeListNext s.freeListHead l
  placed : ∀ n, Placed (s.freeListRefs n) (s.lent n) (l.count n) (waits n) (w n)

/-- What a thread knows of a pointer: it has read it while it was counted in the node, or it has
written it and the node is not on the list yet. -/
def Knows (s : FreeList ν) : FreeListPc ν → Prop
  | .getExchange head next => s.freeListNext head = next
  | .addRefs node head _ | .addExchange node head _ => s.freeListNext node = head
  | _ => True

/-! ## A node and its balance -/

namespace Placed

variable {refs listed waits : ℕ} {lent : Bool} (others : ℕ × ℕ × ℕ)

/-- `add` finds nobody counted in the node. -/
lemma add_free (hp : Placed 0 true listed waits ((0, 0, 0) + others)) :
    Placed (fetchAdd 0 shouldBeOnFreelist) false listed waits ((0, 1, 0) + others) := by
  obtain ⟨c, k, h⟩ := others
  obtain ⟨hrefs, honce, hlinks, hwaits⟩ := hp
  constructor <;> simp only [fetchAdd, shouldBeOnFreelist, Prod.mk_add_mk, Bool.toNat_true,
    Bool.toNat_false] at * <;> omega

/-- `add` finds threads counted in the node. -/
lemma add_counted (hp : Placed refs true listed waits ((0, 0, 0) + others)) (hzero : refs ≠ 0)
    (hsmall : others.1 + listed + 1 < 2 ^ 31) :
    Placed (fetchAdd refs shouldBeOnFreelist) false listed 1 ((0, 0, 0) + others) := by
  obtain ⟨c, k, h⟩ := others
  obtain ⟨hrefs, honce, hlinks, hwaits⟩ := hp
  constructor <;> simp only [fetchAdd, shouldBeOnFreelist, Prod.mk_add_mk, Bool.toNat_true,
    Bool.toNat_false] at * <;> omega

/-- The count of a node that is put onto the list is stored. -/
lemma store (hp : Placed refs lent listed waits ((0, 1, 0) + others)) :
    Placed 1 lent listed waits ((1, 0, 1) + others) := by
  obtain ⟨c, k, h⟩ := others
  obtain ⟨hrefs, honce, hlinks, hwaits⟩ := hp
  constructor <;> simp only [shouldBeOnFreelist, Prod.mk_add_mk] at * <;> omega

/-- The node is the head of the list. -/
lemma push (hp : Placed refs lent listed waits ((1, 0, 1) + others)) :
    Placed refs lent (listed + 1) waits ((0, 0, 0) + others) := by
  obtain ⟨c, k, h⟩ := others
  obtain ⟨hrefs, honce, hlinks, hwaits⟩ := hp
  constructor <;> simp only [shouldBeOnFreelist, Prod.mk_add_mk] at * <;> omega

/-- The node is flagged again, and nobody is counted in it. -/
lemma reflag_free (hp : Placed 1 lent listed waits ((1, 0, 1) + others)) :
    Placed (fetchAdd 1 (shouldBeOnFreelist - 1)) lent listed waits ((0, 1, 0) + others) := by
  obtain ⟨c, k, h⟩ := others
  obtain ⟨hrefs, honce, hlinks, hwaits⟩ := hp
  constructor <;> simp only [fetchAdd, shouldBeOnFreelist, Prod.mk_add_mk] at * <;> omega

/-- The node is flagged again, and left to those who are counted in it. -/
lemma reflag_counted (hp : Placed refs lent listed waits ((1, 0, 1) + others)) (hone : refs ≠ 1)
    (hsmall : others.1 + listed + 2 < 2 ^ 31) :
    Placed (fetchAdd refs (shouldBeOnFreelist - 1)) lent listed 1 ((0, 0, 0) + others) := by
  obtain ⟨c, k, h⟩ := others
  obtain ⟨hrefs, honce, hlinks, hwaits⟩ := hp
  constructor <;> simp only [fetchAdd, shouldBeOnFreelist, Prod.mk_add_mk] at * <;> omega

/-- A thread counts itself in. -/
lemma countIn (hp : Placed refs lent listed waits ((0, 0, 0) + others))
    (hmask : refs &&& refsMask ≠ 0) (hsmall : others.1 + listed + 1 < 2 ^ 31) :
    Placed (fetchAdd refs 1) lent listed waits ((1, 0, 0) + others) := by
  obtain ⟨c, k, h⟩ := others
  obtain ⟨hrefs, honce, hlinks, hwaits⟩ := hp
  rw [show refsMask = 2 ^ 31 - 1 from rfl, Nat.and_two_pow_sub_one_eq_mod] at hmask
  constructor <;> simp only [fetchAdd, shouldBeOnFreelist, Prod.mk_add_mk] at * <;> omega

/-- The head of the list is taken. -/
lemma pop (hp : Placed refs lent (listed + 1) waits ((1, 0, 0) + others)) :
    Placed refs lent listed waits ((2, 0, 1) + others) := by
  obtain ⟨c, k, h⟩ := others
  obtain ⟨hrefs, honce, hlinks, hwaits⟩ := hp
  constructor <;> simp only [shouldBeOnFreelist, Prod.mk_add_mk] at * <;> omega

/-- The thread that has the node counts itself and the list out. -/
lemma release (hp : Placed refs lent listed waits ((2, 0, 1) + others))
    (hsmall : others.1 + listed + 3 < 2 ^ 31) :
    Placed (fetchSub refs 2) lent listed waits ((0, 0, 1) + others) := by
  obtain ⟨c, k, h⟩ := others
  obtain ⟨hrefs, honce, hlinks, hwaits⟩ := hp
  constructor <;> simp only [fetchSub, shouldBeOnFreelist, Prod.mk_add_mk] at * <;> omega

/-- A thread counts itself out. -/
lemma countOut (hp : Placed refs lent listed waits ((1, 0, 0) + others))
    (hlast : refs ≠ shouldBeOnFreelist + 1) (hsmall : others.1 + listed + 2 < 2 ^ 31) :
    Placed (fetchSub refs 1) lent listed waits ((0, 0, 0) + others) := by
  obtain ⟨c, k, h⟩ := others
  obtain ⟨hrefs, honce, hlinks, hwaits⟩ := hp
  constructor <;> simp only [fetchSub, shouldBeOnFreelist, Prod.mk_add_mk] at * <;> omega

/-- The last one that is counted in a flagged node counts itself out. -/
lemma countOut_last (hp : Placed (shouldBeOnFreelist + 1) lent listed waits ((1, 0, 0) + others))
    (hsmall : others.1 + listed + 2 < 2 ^ 31) :
    Placed (fetchSub (shouldBeOnFreelist + 1) 1) lent listed 0 ((0, 1, 0) + others) := by
  obtain ⟨c, k, h⟩ := others
  obtain ⟨hrefs, honce, hlinks, hwaits⟩ := hp
  constructor <;> simp only [fetchSub, shouldBeOnFreelist, Prod.mk_add_mk, true_or] at * <;> omega

/-- The node goes to the callers. -/
lemma lend (hp : Placed refs lent listed waits ((0, 0, 1) + others)) :
    Placed refs true listed waits ((0, 0, 0) + others) := by
  obtain ⟨c, k, h⟩ := others
  obtain ⟨hrefs, honce, hlinks, hwaits⟩ := hp
  constructor <;> simp only [shouldBeOnFreelist, Prod.mk_add_mk, Bool.toNat_true] at * <;> omega

end Placed

variable {s s' : FreeList ν} {pc pc' : FreeListPc ν} {e : FreeListEvent ν} {l l' : List ν}
  {waits waits' : ν → ℕ} {w w' others : ν → ℕ × ℕ × ℕ}

/-- A move that changes the place of one node. -/
lemma Sound.of_node (hs : s.Sound l waits w) (node : ν)
    (hlinked : Linked s'.freeListNext s'.freeListHead l')
    (hsame : ∀ n, n ≠ node → s'.freeListRefs n = s.freeListRefs n ∧ s'.lent n = s.lent n ∧
      l'.count n = l.count n ∧ waits' n = waits n ∧ w' n = w n)
    (hnode : Placed (s.freeListRefs node) (s.lent node) (l.count node) (waits node) (w node) →
      Placed (s'.freeListRefs node) (s'.lent node) (l'.count node) (waits' node) (w' node)) :
    s'.Sound l' waits' w' := by
  refine ⟨hlinked, fun n => ?_⟩
  by_cases hn : n = node
  · subst hn
    exact hnode (hs.placed n)
  · obtain ⟨hrefs, hlent, hlisted, hwaits, hw⟩ := hsame n hn
    rw [hrefs, hlent, hlisted, hwaits, hw]
    exact hs.placed n

/-- **A move keeps each node in one place**, whatever the other threads have. -/
lemma sound_of_move (h : s.move pc e = some (s', pc')) (hs : s.Sound l waits (pc.weight + others))
    (hknows : s.Knows pc) (hlent : ∀ node, e = .add node → s.lent node = true)
    (hsmall : ∀ n, (others n).1 + l.count n + 3 < 2 ^ 31) :
    ∃ l' waits', s'.Sound l' waits' (pc'.weight + others) := by
  unfold move at h
  split at h
  case h_1 node =>
    -- `add` is called
    cases h
    have hsmall := hsmall node
    split_ifs with hzero
    · refine ⟨l, waits, hs.of_node node hs.linked (fun n hn => by simp [hn]) fun hp => ?_⟩
      rw [hzero, hlent node rfl] at hp
      simpa [hzero] using Placed.add_free (others node) hp
    · refine ⟨l, Function.update waits node 1,
        hs.of_node node hs.linked (fun n hn => by simp [hn]) fun hp => ?_⟩
      rw [hlent node rfl] at hp
      simpa using Placed.add_counted (others node) hp hzero (by omega)
  case h_3 node head after =>
    -- `freeListNext.store`
    cases h
    refine ⟨l, waits, hs.linked.update (fun hmem => ?_) _, fun n => hs.placed n⟩
    have honce := (hs.placed node).once
    have hlisted := List.count_pos_iff.mpr hmem
    simp only [FreeListPc.weight, Pi.add_apply, Prod.snd_add, Prod.fst_add, if_true] at honce
    omega
  case h_4 node head after =>
    -- `freeListRefs.store(1)`
    cases h
    refine ⟨l, waits, hs.of_node node hs.linked (fun n hn => by simp [hn]) fun hp => ?_⟩
    simpa using Placed.store (others node) (by simpa using hp)
  case h_5 node head after =>
    -- the exchange that puts the node onto the list
    split_ifs at h with hhead
    · cases h
      refine ⟨node :: l, waits,
        hs.of_node node ?_ (fun n hn => by cases after <;> simp [AfterAdd.pc, hn, Ne.symm hn])
          fun hp => ?_⟩
      · refine .cons ?_
        rw [show s.freeListNext node = head from hknows, ← hhead]
        exact hs.linked
      · have hpush := Placed.push (others node) (by simpa using hp)
        cases after <;> simpa [AfterAdd.pc] using hpush
    · cases h
      exact ⟨l, waits, hs⟩
  case h_6 node head after =>
    -- it has failed
    cases h
    have hsmall := hsmall node
    split_ifs with hone
    · refine ⟨l, waits, hs.of_node node hs.linked (fun n hn => by simp [hn]) fun hp => ?_⟩
      simpa [hone] using Placed.reflag_free (others node) (by simpa [hone] using hp)
    · refine ⟨l, Function.update waits node 1,
        hs.of_node node hs.linked (fun n hn => by cases after <;> simp [AfterAdd.pc, hn])
          fun hp => ?_⟩
      have hflag := Placed.reflag_counted (others node) (by simpa using hp) hone (by omega)
      cases after <;> simpa [AfterAdd.pc] using hflag
  case h_12 head refs =>
    -- the thread counts itself in
    split_ifs at h with hfail
    · cases h
      exact ⟨l, waits, hs⟩
    · cases h
      have hsmall := hsmall head
      obtain ⟨hmask, hrefs⟩ := not_or.mp hfail
      obtain rfl := not_not.mp hrefs
      refine ⟨l, waits, hs.of_node head hs.linked (fun n hn => by simp [hn]) fun hp => ?_⟩
      simpa using Placed.countIn (others head) (by simpa using hp) hmask (by omega)
  case h_14 head next =>
    -- the exchange that takes the node from the list
    split_ifs at h with hhead
    · cases h
      obtain ⟨l', rfl, hlinked⟩ := Linked.exists_eq_cons (hhead ▸ hs.linked)
      refine ⟨l', waits,
        hs.of_node head ?_ (fun n hn => by simp [hn, Ne.symm hn]) fun hp => ?_⟩
      · rw [show s.freeListNext head = next from hknows] at hlinked
        exact hlinked
      · simpa using Placed.pop (others head) (by simpa using hp)
    · cases h
      exact ⟨l, waits, hs⟩
  case h_15 head =>
    -- the thread and the list are counted out
    cases h
    have hsmall := hsmall head
    refine ⟨l, waits, hs.of_node head hs.linked (fun n hn => by simp [hn]) fun hp => ?_⟩
    simpa using Placed.release (others head) (by simpa using hp) (by omega)
  case h_16 prevHead head =>
    -- the thread is counted out
    cases h
    have hsmall := hsmall prevHead
    split_ifs with hlast
    · refine ⟨l, Function.update waits prevHead 0,
        hs.of_node prevHead hs.linked (fun n hn => by simp [hn]) fun hp => ?_⟩
      simpa [hlast] using
        Placed.countOut_last (others prevHead) (by simpa [hlast] using hp) (by omega)
    · refine ⟨l, waits,
        hs.of_node prevHead hs.linked (fun n hn => by simp [hn]) fun hp => ?_⟩
      simpa using Placed.countOut (others prevHead) (by simpa using hp) hlast (by omega)
  case h_18 node =>
    -- `try_get` returns the node
    cases h
    refine ⟨l, waits, hs.of_node node hs.linked (fun n hn => by simp [hn]) fun hp => ?_⟩
    simpa using Placed.lend (others node) (by simpa using hp)
  -- a load, or a return without a node
  all_goals cases h <;> exact ⟨l, waits, hs⟩

/-- A move keeps what the thread that moves knows. -/
lemma knows_of_move (h : s.move pc e = some (s', pc')) (hknows : s.Knows pc) : s'.Knows pc' := by
  unfold move at h
  split at h
  case h_3 =>
    -- `freeListNext.store`
    cases h
    exact Function.update_self _ _ _
  case h_4 =>
    cases h
    exact hknows
  case h_13 =>
    -- `freeListNext.load`
    cases h
    rfl
  case h_5 after =>
    split_ifs at h
    · cases h
      cases after <;> trivial
    · cases h
      trivial
  case h_6 after =>
    cases h
    split_ifs
    · trivial
    · cases after <;> trivial
  all_goals
    try split_ifs at h
    all_goals
      cases h
      try split_ifs
      all_goals trivial

/-- A pointer is written by a thread that puts its node onto the list only. -/
lemma next_of_move (h : s.move pc e = some (s', pc')) :
    s'.freeListNext = s.freeListNext ∨ ∃ node head, pc.weight node = (0, 1, 0) ∧
      s'.freeListNext = Function.update s.freeListNext node head := by
  unfold move at h
  split at h
  case h_3 node head after =>
    cases h
    exact .inr ⟨node, head, if_pos rfl, rfl⟩
  all_goals
    try split_ifs at h
    all_goals cases h <;> exact .inl rfl

/-- While a thread puts a node onto the list, no other thread knows anything of its pointer. -/
lemma Knows.update {pcOther : FreeListPc ν} {node : ν} {head : Option ν} {refs listed waits : ℕ}
    {lent : Bool} {rest : ℕ × ℕ × ℕ} (hknows : s.Knows pcOther)
    (hnext : s'.freeListNext = Function.update s.freeListNext node head)
    (hplaced : Placed refs lent listed waits ((0, 1, 0) + (pcOther.weight node + rest))) :
    s'.Knows pcOther := by
  obtain ⟨-, honce, hlinks, -⟩ := hplaced
  cases pcOther with
  | getExchange head' next =>
    have hne : head' ≠ node := by
      rintro rfl
      simp at hlinks
    show s'.freeListNext head' = next
    rw [hnext, Function.update_of_ne hne]
    exact hknows
  | addRefs node' head' after =>
    have hne : node' ≠ node := by
      rintro rfl
      simp only [FreeListPc.weight, if_true, Prod.fst_add, Prod.snd_add] at honce
      omega
    show s'.freeListNext node' = head'
    rw [hnext, Function.update_of_ne hne]
    exact hknows
  | addExchange node' head' after =>
    have hne : node' ≠ node := by
      rintro rfl
      simp only [FreeListPc.weight, if_true, Prod.fst_add, Prod.snd_add] at honce
      omega
    show s'.freeListNext node' = head'
    rw [hnext, Function.update_of_ne hne]
    exact hknows
  | _ => trivial

/-! ## All threads -/

section Crew

variable {τ : Type*} [DecidableEq τ] [Fintype τ] {c c' : Crew (FreeList ν) (FreeListPc ν) τ}

/-- What every reachable state keeps. -/
structure Kept (c : Crew (FreeList ν) (FreeListPc ν) τ) : Prop where
  sound : ∃ l waits, c.shared.Sound l waits (c.total FreeListPc.weight)
  knows : ∀ t, c.shared.Knows (c.place t)

/-- A thread is counted twice only in a node that it has. -/
lemma weight_fst_le (pc : FreeListPc ν) (n : ν) : (pc.weight n).1 ≤ 1 + (pc.weight n).2.2 := by
  unfold FreeListPc.weight
  split <;> try split_ifs
  all_goals simp

omit [Fintype τ] [DecidableEq τ] in
/-- Some threads are counted in a node no more often than there are such threads, and once more by
the one that has it. -/
lemma fst_sum_le (T : Finset τ) (place : τ → FreeListPc ν) (n : ν) :
    ((∑ u ∈ T, (place u).weight) n).1 ≤ T.card + ((∑ u ∈ T, (place u).weight) n).2.2 := by
  classical
  induction T using Finset.induction_on with
  | empty => exact Nat.zero_le _
  | insert a T ha ih =>
    have hle := weight_fst_le (place a) n
    rw [Finset.sum_insert ha, Finset.card_insert_of_notMem ha]
    simp only [Pi.add_apply, Prod.fst_add, Prod.snd_add] at ih ⊢
    omega

/-- **Every move keeps it.** -/
lemma Kept.step {e : τ × FreeListEvent ν} (hcard : Fintype.card τ + 3 < 2 ^ 31) (hc : Kept c)
    (hlent : AddsLent c e) (h : (freeListCrew τ ν).step c e = some c') : Kept c' := by
  obtain ⟨t, e⟩ := e
  obtain ⟨s', pc', hmove, rfl⟩ := Crew.step_eq_some.mp h
  obtain ⟨⟨l, waits, hs⟩, hknows⟩ := hc
  rw [Crew.total_eq _ _ t] at hs
  have hsmall (n : ν) :
      ((∑ u ∈ Finset.univ.erase t, (c.place u).weight) n).1 + l.count n + 3 < 2 ^ 31 := by
    have hle := fst_sum_le (Finset.univ.erase t) c.place n
    have hcount : (Finset.univ.erase t).card + 1 = Fintype.card τ := by
      rw [Finset.card_erase_add_one (Finset.mem_univ t), Finset.card_univ]
    have honce := (hs.placed n).once
    simp only [Pi.add_apply, Prod.snd_add] at honce
    omega
  constructor
  · rw [Crew.total_update]
    refine sound_of_move hmove hs (hknows t) (fun node he => ?_) hsmall
    subst he
    exact hlent
  · intro u
    by_cases hu : u = t
    · subst hu
      dsimp only
      rw [Function.update_self]
      exact knows_of_move hmove (hknows u)
    · dsimp only
      rw [Function.update_of_ne hu]
      obtain hnext | ⟨node, head, hweight, hnext⟩ := next_of_move hmove
      · have hother := hknows u
        unfold Knows at hother ⊢
        rwa [hnext]
      · have hplaced := hs.placed node
        rw [← Finset.add_sum_erase _ _ (Finset.mem_erase.mpr ⟨hu, Finset.mem_univ u⟩)] at hplaced
        simp only [Pi.add_apply, hweight] at hplaced
        exact (hknows u).update hnext hplaced

/-- **What every reachable state keeps.** -/
theorem kept_of_reachable (hcard : Fintype.card τ + 3 < 2 ^ 31)
    (h : (freeListCrew τ ν).ReachableUnder AddsLent c) : Kept c := by
  refine StepSystem.ReachableUnder.invariant (fun c hinit => ?_)
    (fun c e c' _ hc hlent hstep => hc.step hcard hlent hstep) h
  obtain ⟨hshared, hplace⟩ := hinit
  constructor
  · rw [Crew.total_eq_zero fun t => by rw [hplace t]; rfl, hshared]
    exact ⟨[], 0, .nil, fun n => ⟨rfl, rfl, .inl rfl, .inl rfl⟩⟩
  · intro t
    rw [hplace t]
    trivial

end Crew

/-! ## A node that is given back while a thread looks at it -/

/-- Two threads, and all nodes in use. -/
def firstCrew : Crew (FreeList ℕ) (FreeListPc ℕ) (Fin 2) := ⟨.new, fun _ => .out⟩

/-- They are as at the start of a run. -/
lemma init_firstCrew : (freeListCrew (Fin 2) ℕ).Init firstCrew := ⟨rfl, fun _ => rfl⟩

/-- The first thread gives a node back. The other one finds it at the head of the list and counts
itself in, and then the first one takes it from there. -/
def takeEvents : List (Fin 2 × FreeListEvent ℕ) :=
  [(0, .add 7), (0, .next), (0, .next), (0, .next), (0, .next), (0, .ret), (1, .tryGet),
    (1, .next), (1, .next), (1, .next), (0, .tryGet), (0, .next), (0, .next), (0, .next),
    (0, .next), (0, .next)]

/-- `try_get` returns the node, and the thread gives it back once more. -/
def flagEvents : List (Fin 2 × FreeListEvent ℕ) :=
  takeEvents ++ [(0, .next), (0, .ret), (0, .add 7)]

/-! ## Where the nodes are -/

section Places

variable {τ : Type*} [DecidableEq τ] [Fintype τ] {c : Crew (FreeList ν) (FreeListPc ν) τ}
  {t u : τ} {n : ν} {pc : FreeListPc ν}

/-- A thread that has a node weighs in its balance. -/
lemma weight_of_holds (h : pc.holds = some n) : (pc.weight n).2.1 + (pc.weight n).2.2 = 1 := by
  cases pc with
  | got node =>
    obtain rfl : node = some n := h
    simp
  | addLoad | addNext | addRefs | addExchange | addFailed | getRelease =>
    obtain rfl := Option.some_inj.mp h
    simp
  | _ => cases h

/-- A thread that has another node or none is counted in this one at most. -/
lemma weight_of_holds_ne (h : pc.holds ≠ some n) :
    pc.weight n = (0, 0, 0) ∨ pc.weight n = (1, 0, 0) ∧ pc.looksAt = some n := by
  cases pc with
  | addLoad | addNext | addRefs | addExchange | addFailed | getRelease =>
    exact .inl (if_neg fun heq => h (congrArg some heq.symm))
  | got node =>
    cases node with
    | none => exact .inl rfl
    | some node => exact .inl (if_neg fun heq => h (congrArg some heq.symm))
  | getNext head | getExchange head | getFailed head =>
    by_cases heq : n = head
    · subst heq
      exact .inr ⟨if_pos rfl, rfl⟩
    · exact .inl (if_neg heq)
  | _ => exact .inl rfl

/-- A node that a thread has is nowhere else. -/
lemma Kept.only_holder (hc : Kept c) (ht : (c.place t).holds = some n) :
    c.shared.lent n = false ∧ ∀ u, (c.place u).holds = some n → u = t := by
  obtain ⟨⟨l, waits, hs⟩, -⟩ := hc
  have honce := (hs.placed n).once
  have hweight := weight_of_holds ht
  rw [Crew.total_eq _ _ t] at honce
  simp only [Pi.add_apply, Prod.fst_add, Prod.snd_add] at honce
  refine ⟨?_, fun u hu => ?_⟩
  · rw [← Bool.not_eq_true, ← Bool.toNat_eq_one]
    omega
  · by_contra hne
    have hother := weight_of_holds hu
    rw [← Finset.add_sum_erase _ _ (Finset.mem_erase.mpr ⟨hne, Finset.mem_univ u⟩)] at honce
    simp only [Pi.add_apply, Prod.fst_add, Prod.snd_add] at honce
    omega

omit [DecidableEq τ] in
/-- Where no thread has a node, only those that are counted in it weigh in its balance. -/
lemma total_of_not_held (h : ∀ t, (c.place t).holds ≠ some n) :
    (c.total FreeListPc.weight n).2 = (0, 0) ∧
      (0 < (c.total FreeListPc.weight n).1 → ∃ t, (c.place t).looksAt = some n) := by
  unfold Crew.total
  rw [Finset.sum_apply, Prod.snd_sum, Prod.fst_sum]
  constructor
  · refine Finset.sum_eq_zero fun t _ => ?_
    obtain hzero | ⟨hone, -⟩ := weight_of_holds_ne (h t)
    · rw [hzero]
      rfl
    · rw [hone]
      rfl
  · intro hpos
    obtain ⟨t, -, ht⟩ := Finset.exists_ne_zero_of_sum_ne_zero hpos.ne'
    obtain hzero | ⟨-, hlooks⟩ := weight_of_holds_ne (h t)
    · rw [hzero] at ht
      exact absurd rfl ht
    · exact ⟨t, hlooks⟩

/-- The list, and where the nodes are that are not on it. -/
lemma Kept.list (hc : Kept c) :
    ∃ l, Linked c.shared.freeListNext c.shared.freeListHead l ∧ l.Nodup ∧
      (∀ n ∈ l, c.shared.lent n = false ∧ ∀ t, (c.place t).holds ≠ some n) ∧
      ∀ n, c.shared.lent n = false → (∀ t, (c.place t).holds ≠ some n) →
        n ∈ l ∨ shouldBeOnFreelist ≤ c.shared.freeListRefs n ∧
          ∃ t, (c.place t).looksAt = some n := by
  obtain ⟨⟨l, waits, hs⟩, -⟩ := hc
  refine ⟨l, hs.linked, ?_, fun n hn => ⟨?_, fun t ht => ?_⟩, fun n hlent hfree => ?_⟩
  · refine List.nodup_iff_count_le_one.mpr fun n => ?_
    have honce := (hs.placed n).once
    omega
  · have honce := (hs.placed n).once
    have hcount := List.count_pos_iff.mpr hn
    rw [← Bool.not_eq_true, ← Bool.toNat_eq_one]
    omega
  · have honce := (hs.placed n).once
    have hcount := List.count_pos_iff.mpr hn
    have hweight := weight_of_holds ht
    rw [Crew.total_eq _ _ t] at honce
    simp only [Pi.add_apply, Prod.fst_add, Prod.snd_add] at honce
    omega
  · obtain ⟨hrefs, honce, -, hwaits⟩ := hs.placed n
    obtain ⟨hzero, hlooks⟩ := total_of_not_held hfree
    rw [hzero] at hrefs
    rw [hzero, hlent, Bool.toNat_false] at honce
    by_cases hn : n ∈ l
    · exact .inl hn
    · rw [List.count_eq_zero.mpr hn] at honce hrefs
      have hone : waits n = 1 := by simpa using honce
      refine .inr ⟨?_, hlooks (hwaits.resolve_left (by omega))⟩
      rw [hone] at hrefs
      simp only [Nat.zero_add] at hrefs
      omega

/-- **No node is lost**: one that is not with the callers, and that no thread has, is on the list,
or it is flagged and a thread is counted in it that has yet to look at the flag. The list has no
node twice, and none of the others. -/
theorem exists_linked (hcard : Fintype.card τ + 3 < 2 ^ 31)
    (h : (freeListCrew τ ν).ReachableUnder AddsLent c) :
    ∃ l, Linked c.shared.freeListNext c.shared.freeListHead l ∧ l.Nodup ∧
      (∀ n ∈ l, c.shared.lent n = false ∧ ∀ t, (c.place t).holds ≠ some n) ∧
      ∀ n, c.shared.lent n = false → (∀ t, (c.place t).holds ≠ some n) →
        n ∈ l ∨ shouldBeOnFreelist ≤ c.shared.freeListRefs n ∧
          ∃ t, (c.place t).looksAt = some n :=
  (kept_of_reachable hcard h).list

/-- A node that is given back while the other thread is counted in it is flagged. -/
theorem exists_linked_flag :
    ∃ c, (freeListCrew (Fin 2) ℕ).ReachableUnder AddsLent c ∧
      c.shared.freeListRefs 7 = shouldBeOnFreelist + 1 ∧
      ∃ l, Linked c.shared.freeListNext c.shared.freeListHead l ∧ l.Nodup ∧
        (∀ n ∈ l, c.shared.lent n = false ∧ ∀ t, (c.place t).holds ≠ some n) ∧
        ∀ n, c.shared.lent n = false → (∀ t, (c.place t).holds ≠ some n) →
          n ∈ l ∨ shouldBeOnFreelist ≤ c.shared.freeListRefs n ∧
            ∃ t, (c.place t).looksAt = some n := by
  have h : ((freeListCrew (Fin 2) ℕ).runUnder AddsLent firstCrew flagEvents).map
      (fun c => c.shared.freeListRefs 7) = some (shouldBeOnFreelist + 1) := by decide +kernel
  obtain ⟨c, hrun, hrefs⟩ := Option.map_eq_some_iff.mp h
  have hreach := StepSystem.ReachableUnder.runUnder (.init init_firstCrew) hrun
  exact ⟨c, hreach, hrefs, exists_linked (by decide) hreach⟩

/-- **No node is given to two callers**: one that a thread puts onto the list, has taken from it
or returns is not with the callers, and no other thread has it. -/
theorem eq_of_holds (hcard : Fintype.card τ + 3 < 2 ^ 31)
    (h : (freeListCrew τ ν).ReachableUnder AddsLent c) (ht : (c.place t).holds = some n) :
    c.shared.lent n = false ∧ ∀ u, (c.place u).holds = some n → u = t :=
  (kept_of_reachable hcard h).only_holder ht

/-- The first thread has the node, and the other one, which is counted in it, has not. -/
theorem eq_of_holds_take :
    ∃ c, (freeListCrew (Fin 2) ℕ).ReachableUnder AddsLent c ∧
      (c.place 0).holds = some 7 ∧ (c.place 1).looksAt = some 7 ∧
      c.shared.lent 7 = false ∧ ∀ u, (c.place u).holds = some 7 → u = 0 := by
  have h : ((freeListCrew (Fin 2) ℕ).runUnder AddsLent firstCrew takeEvents).map
      (fun c => ((c.place 0).holds, (c.place 1).looksAt)) = some (some 7, some 7) := by
    decide +kernel
  obtain ⟨c, hrun, heq⟩ := Option.map_eq_some_iff.mp h
  obtain ⟨hholds, hlooks⟩ := Prod.mk.inj heq
  have hreach := StepSystem.ReachableUnder.runUnder (.init init_firstCrew) hrun
  exact ⟨c, hreach, hholds, hlooks, eq_of_holds (by decide) hreach hholds⟩

/-- **The flag is not set** where the code relies on it: on a node that is with the callers, when
`add` sets it by adding, and on one that has just been taken from the list. -/
theorem flag_eq_zero (hcard : Fintype.card τ + 3 < 2 ^ 31)
    (h : (freeListCrew τ ν).ReachableUnder AddsLent c)
    (hn : c.shared.lent n = true ∨ ∃ t, c.place t = .getRelease n) :
    c.shared.freeListRefs n &&& shouldBeOnFreelist = 0 := by
  obtain ⟨⟨l, waits, hs⟩, -⟩ := kept_of_reachable hcard h
  obtain ⟨hrefs, honce, -, -⟩ := hs.placed n
  have hle : (c.total FreeListPc.weight n).1 ≤
      Fintype.card τ + (c.total FreeListPc.weight n).2.2 := fst_sum_le Finset.univ c.place n
  have hclear : l.count n = 0 ∧ (c.total FreeListPc.weight n).2.1 + waits n = 0 := by
    obtain hlent | ⟨t, ht⟩ := hn
    · rw [hlent, Bool.toNat_true] at honce
      omega
    · have hweight : (c.place t).weight n = (2, 0, 1) := by
        rw [ht]
        exact if_pos rfl
      rw [Crew.total_eq _ _ t] at honce ⊢
      simp only [Pi.add_apply, Prod.fst_add, Prod.snd_add, hweight] at honce ⊢
      omega
  rw [hclear.1, hclear.2] at hrefs
  have hlt : c.shared.freeListRefs n < 2 ^ 31 := by omega
  rw [show shouldBeOnFreelist = 2 ^ 31 from rfl, Nat.and_two_pow, Nat.testBit_lt_two_pow hlt]
  rfl

/-- The node has just been taken from the list. -/
theorem flag_eq_zero_take :
    ∃ c, (freeListCrew (Fin 2) ℕ).ReachableUnder AddsLent c ∧ c.place 0 = .getRelease 7 ∧
      c.shared.freeListRefs 7 &&& shouldBeOnFreelist = 0 := by
  have h : ((freeListCrew (Fin 2) ℕ).runUnder AddsLent firstCrew takeEvents).map
      (fun c => c.place 0) = some (.getRelease 7) := by decide +kernel
  obtain ⟨c, hrun, hplace⟩ := Option.map_eq_some_iff.mp h
  have hreach := StepSystem.ReachableUnder.runUnder (.init init_firstCrew) hrun
  exact ⟨c, hreach, hplace, flag_eq_zero (by decide) hreach (.inr ⟨0, hplace⟩)⟩

end Places

end FreeList

end UsbTv
