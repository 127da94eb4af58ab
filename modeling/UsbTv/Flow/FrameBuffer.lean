import UsbTv.Lib.ByteBuffer
import UsbTv.Lib.StepSystem
import UsbTv.Driver.FrameIds

set_option relaxedAutoImplicit false
set_option autoImplicit false

/-!
# The buffer of a frame

`UsbTvFrame.java`: a frame of the pool is one Java object with one byte buffer, from the allocation
of the pool on, and is delivered and returned many times. The consumer of a delivery reads the
buffer, and so moves its position and its limit. `returnFrame` rewinds the buffer, which does not
bring the limit back, and it does so before it finds out whether the frame was returned already.

A call of `returnFrame` is two steps here, up to `compareAndSet` and from there on; `returnAndCopy`
is a `copyOfFrame` and such a call. Only returns of this object clear the lock of its native frame.

## Main definitions

* `UsbTv.Java.FrameObject` — the Java object.
* `UsbTv.PooledFrame`, `UsbTv.pooledFrames` — a frame of the pool, and all that can happen to it.
* `UsbTv.PooledFrame.InTurn` — the buffer is used between a delivery and its return only.
* `UsbTv.PooledFrame.Restores` — a return to the pool finds the limit at the capacity, and a second
  return for a delivery finds nothing to rewind.

## Main results

* `UsbTv.PooledFrame.presents_of_reachableUnder` — then each delivery presents the whole frame, and
  no second return is seen by the consumer of a later delivery.
* `UsbTv.PooledFrame.restores_iff` — only then.
-/

namespace UsbTv

/-! ## The Java object -/

namespace Java

/-- An object of the class `UsbTvFrame`, with its buffer. -/
structure FrameObject extends UsbTvFrame where
  mFrameBuf : ByteBuffer
  mPoolIndex : ℤ
  mParams : DeviceParams

namespace FrameObject

/-- `UsbTvFrame(params, frameBuf, poolIndex)`. -/
def new (params : DeviceParams) (frameBuf : ByteBuffer) (poolIndex : ℤ) : FrameObject where
  mFrameId := -1
  mLocked := false
  mFrameBuf := frameBuf
  mPoolIndex := poolIndex
  mParams := params

/-- `copyOfFrame`. The result is the copy, and the frame itself. -/
def copyOfFrame (f : FrameObject) : Option (FrameObject × FrameObject) :=
  ((ByteBuffer.allocate f.mFrameBuf.capacity).put f.mFrameBuf.rewind).map fun (clone, frameBuf) =>
    ({ new f.mParams clone.flip (-1) with mFrameId := f.mFrameId, mLocked := true },
      { f with mFrameBuf := frameBuf.rewind })

/-- `returnFrame` up to `compareAndSet`. -/
def rewind (f : FrameObject) : FrameObject := { f with mFrameBuf := f.mFrameBuf.rewind }

/-- `mLocked.compareAndSet(false, true)`. -/
def compareAndSet (f : FrameObject) : Bool × FrameObject :=
  (!f.mLocked, { f with mLocked := true })

/-- **What a copy holds**: the bytes below the limit. The frame is rewound. -/
lemma copyOfFrame_eq (f : FrameObject) :
    ∃ copy, f.copyOfFrame = some (copy, f.rewind) ∧
      copy.mFrameBuf.capacity = f.mFrameBuf.capacity ∧
      copy.mFrameBuf.limit = f.mFrameBuf.limit ∧ copy.mFrameBuf.position = 0 ∧
      ∀ i < f.mFrameBuf.limit, copy.mFrameBuf.bytes i = f.mFrameBuf.bytes i := by
  obtain ⟨clone, hput, hcapacity, hposition, hbytes⟩ := ByteBuffer.put_allocate f.mFrameBuf
  unfold copyOfFrame
  rw [hput]
  exact ⟨_, rfl, hcapacity, hposition, rfl, hbytes⟩

end FrameObject

end Java

open Java

/-! ## A frame of the pool -/

/-- A frame of the pool. Its deliveries are numbered from zero on. -/
structure PooledFrame where
  frame : FrameObject
  /-- `lock` of the native frame. -/
  lock : Bool
  /-- The number of deliveries so far. -/
  deliveries : ℕ
  /-- The deliveries for which a consumer is in `returnFrame`, at `compareAndSet`. -/
  returning : List ℕ

/-- What can happen to the frame. -/
inductive FrameEvent
  /-- The pool gives the frame out, it is filled, and the process thread passes it on. -/
  | nativeFrameCallback (listener : Bool) (frameId flags : ℤ) (bytes : ℕ → UInt8)
  /-- A consumer reads the buffer. -/
  | read (op : ByteBuffer.Op)
  /-- A consumer copies the frame. -/
  | copyOfFrame
  /-- The consumer of delivery `k` calls `returnFrame`, up to `compareAndSet`. -/
  | rewind (k : ℕ)
  /-- The consumer of delivery `k` goes on. `returnFrameToPool` succeeds if there is a pool. -/
  | compareAndSet (k : ℕ) (pooled : Bool)

/-- The step is one of a call of `returnFrame` by the consumer of delivery `k`. -/
def FrameEvent.Returns (k : ℕ) : FrameEvent → Prop
  | .rewind j | .compareAndSet j _ => j = k
  | .nativeFrameCallback _ _ _ _ | .read _ | .copyOfFrame => False

namespace PooledFrame

/-- What `allocateFramePool` makes of a block of memory. -/
def new (params : DeviceParams) (bytes : ℕ → UInt8) (index : ℕ) : PooledFrame where
  frame := .new params (.wrap (nativeFrameParams params).bufferSize bytes) index
  lock := false
  deliveries := 0
  returning := []

/-- `nativeFrameCallback`, for a frame out of the pool that was filled. -/
def nativeFrameCallback (s : PooledFrame) (listener : Bool) (frameId flags : ℤ)
    (bytes : ℕ → UInt8) : Option PooledFrame :=
  if s.lock then none
  else
    let filled := { s.frame with mFrameBuf := s.frame.mFrameBuf.fill bytes }
    match Java.nativeFrameCallback listener s.frame.toUsbTvFrame frameId flags with
    | some frame => some { s with
        frame := { filled with toUsbTvFrame := frame }
        lock := true
        deliveries := s.deliveries + 1 }
    | none => some { s with frame := filled, lock := true }

/-- One event. Nobody but the native code has the frame before it was delivered. -/
def step (s : PooledFrame) : FrameEvent → Option PooledFrame
  | .nativeFrameCallback listener frameId flags bytes =>
    s.nativeFrameCallback listener frameId flags bytes
  | .read op =>
    if s.deliveries = 0 then none
    else some { s with frame := { s.frame with mFrameBuf := op.call s.frame.mFrameBuf } }
  | .copyOfFrame =>
    if s.deliveries = 0 then none
    else s.frame.copyOfFrame.map fun r => { s with frame := r.2 }
  | .rewind k =>
    if k < s.deliveries then
      some { s with frame := s.frame.rewind, returning := s.returning ++ [k] }
    else none
  | .compareAndSet k pooled =>
    if k ∈ s.returning then
      some { s with
        frame := s.frame.compareAndSet.2
        lock := s.lock && !(s.frame.compareAndSet.1 && pooled)
        returning := s.returning.erase k }
    else none

end PooledFrame

/-- All that can happen to a frame of a pool for these parameters. -/
def pooledFrames (params : DeviceParams) : StepSystem PooledFrame FrameEvent where
  Init s := ∃ bytes index, s = .new params bytes index
  step := PooledFrame.step

namespace PooledFrame

/-! ## Deliveries and returns -/

/-- The frame was delivered, and not returned since. -/
def IsOut (s : PooledFrame) : Prop := 0 < s.deliveries ∧ s.frame.mLocked = false

/-- The frame is out for a delivery after delivery `k`. -/
def IsLate (s : PooledFrame) (k : ℕ) : Prop := k + 1 < s.deliveries ∧ s.frame.mLocked = false

/-- The buffer is used between a delivery and its return only: not after the consumer has called
`returnFrame`, and not after `compareAndSet` has taken the delivery for returned, which a return
that comes late brings about, too. -/
def InTurn (s : PooledFrame) : FrameEvent → Prop
  | .read _ | .copyOfFrame => s.frame.mLocked = false ∧ s.deliveries - 1 ∉ s.returning
  | .nativeFrameCallback _ _ _ _ | .rewind _ | .compareAndSet _ _ => True

/-- A return that gets the frame into the pool finds the limit where it was, and one that comes late
finds the position there too. -/
def Restores (s : PooledFrame) : FrameEvent → Prop
  | .rewind k => s.IsLate k → s.frame.mFrameBuf.position = 0
  | .compareAndSet k pooled =>
    pooled = true → s.frame.mLocked = false →
      s.frame.mFrameBuf.limit = s.frame.mFrameBuf.capacity ∧
        (s.IsLate k → s.frame.mFrameBuf.position = 0)
  | .nativeFrameCallback _ _ _ _ | .read _ | .copyOfFrame => True

instance (s : PooledFrame) (k : ℕ) : Decidable (s.IsLate k) :=
  inferInstanceAs (Decidable (_ ∧ _))

instance (s : PooledFrame) (e : FrameEvent) : Decidable (s.InTurn e) :=
  match e with
  | .read _ | .copyOfFrame => inferInstanceAs (Decidable (_ ∧ _))
  | .nativeFrameCallback _ _ _ _ | .rewind _ | .compareAndSet _ _ =>
    inferInstanceAs (Decidable True)

instance (s : PooledFrame) (e : FrameEvent) : Decidable (s.Restores e) :=
  match e with
  | .rewind _ => inferInstanceAs (Decidable (_ → _))
  | .compareAndSet _ _ => inferInstanceAs (Decidable (_ → _))
  | .nativeFrameCallback _ _ _ _ | .read _ | .copyOfFrame => inferInstanceAs (Decidable True)

/-- A delivery presents the whole frame: all of its bytes are yet to be read, and a copy has all of
them. -/
structure Presents (s : PooledFrame) (size : ℕ) (bytes : ℕ → UInt8) : Prop where
  isWhole : s.frame.mFrameBuf.IsWhole
  remaining : s.frame.mFrameBuf.remaining = size
  copy : ∃ copy self, s.frame.copyOfFrame = some (copy, self) ∧ copy.mFrameBuf.IsWhole ∧
    copy.mFrameBuf.remaining = size ∧ ∀ i < size, copy.mFrameBuf.bytes i = bytes i

/-! ## What the steps do -/

variable {s s' : PooledFrame} {params : DeviceParams}

/-- A delivery takes the frame out of the pool. -/
lemma nativeFrameCallback_listener {frameId flags : ℤ} {bytes : ℕ → UInt8}
    (h : s.nativeFrameCallback true frameId flags bytes = some s') :
    s.lock = false ∧ s' = { s with
      frame := { s.frame with
        mFrameBuf := s.frame.mFrameBuf.fill bytes
        mFrameId := frameId
        mLocked := false }
      lock := true
      deliveries := s.deliveries + 1 } := by
  unfold nativeFrameCallback at h
  by_cases hlock : s.lock = true
  · rw [if_pos hlock] at h
    exact absurd h (by simp)
  · rw [if_neg hlock] at h
    exact ⟨by simpa using hlock, (Option.some_inj.mp h).symm⟩

/-- Without a listener nobody gets to know. -/
lemma nativeFrameCallback_no_listener {frameId flags : ℤ} {bytes : ℕ → UInt8}
    (h : s.nativeFrameCallback false frameId flags bytes = some s') :
    s' = { s with
      frame := { s.frame with mFrameBuf := s.frame.mFrameBuf.fill bytes }
      lock := true } := by
  unfold nativeFrameCallback at h
  by_cases hlock : s.lock = true
  · rw [if_pos hlock] at h
    exact absurd h (by simp)
  · rw [if_neg hlock] at h
    exact (Option.some_inj.mp h).symm

/-- A frame in the pool can be delivered. -/
lemma exists_delivery (hlock : s.lock = false) (frameId flags : ℤ) (bytes : ℕ → UInt8) :
    ∃ s', s.step (.nativeFrameCallback true frameId flags bytes) = some s' ∧
      s'.frame.mFrameBuf = s.frame.mFrameBuf.fill bytes := by
  simp only [step, nativeFrameCallback]
  rw [if_neg (by simp [hlock])]
  exact ⟨_, rfl, rfl⟩

/-- A consumer reads. -/
lemma step_read {op : ByteBuffer.Op} (h : s.step (.read op) = some s') :
    s' = { s with frame := { s.frame with mFrameBuf := op.call s.frame.mFrameBuf } } := by
  simp only [step] at h
  split_ifs at h
  exact (Option.some_inj.mp h).symm

/-- A copy rewinds the frame. -/
lemma step_copyOfFrame (h : s.step .copyOfFrame = some s') :
    s' = { s with frame := s.frame.rewind } := by
  obtain ⟨copy, hcopy, -⟩ := s.frame.copyOfFrame_eq
  simp only [step, hcopy] at h
  split_ifs at h
  exact (Option.some_inj.mp h).symm

/-- The first half of a return. -/
lemma step_rewind {k : ℕ} (h : s.step (.rewind k) = some s') :
    k < s.deliveries ∧ s' = { s with
      frame := s.frame.rewind
      returning := s.returning ++ [k] } := by
  simp only [step] at h
  split_ifs at h with hk
  exact ⟨hk, (Option.some_inj.mp h).symm⟩

/-- The second half of a return. -/
lemma step_compareAndSet {k : ℕ} {pooled : Bool} (h : s.step (.compareAndSet k pooled) = some s') :
    k ∈ s.returning ∧ s' = { s with
      frame := { s.frame with mLocked := true }
      lock := s.lock && !(!s.frame.mLocked && pooled)
      returning := s.returning.erase k } := by
  simp only [step] at h
  split_ifs at h with hk
  exact ⟨hk, (Option.some_inj.mp h).symm⟩

/-! ## What holds between two steps -/

/-- What holds between two steps: the buffer of a frame in the pool is whole, and the consumer that
returns the frame has rewound the buffer. -/
structure Rewound (size : ℕ) (s : PooledFrame) : Prop where
  capacity : s.frame.mFrameBuf.capacity = size
  isWhole : s.lock = false → s.frame.mFrameBuf.IsWhole
  returning : s.deliveries - 1 ∈ s.returning → s.frame.mFrameBuf.position = 0
  made : ∀ k ∈ s.returning, k < s.deliveries
  pooled : s.lock = false → ¬ s.IsOut

variable {size : ℕ}

/-- A new frame is whole. -/
lemma rewound_new (params : DeviceParams) (bytes : ℕ → UInt8) (index : ℕ) :
    Rewound (nativeFrameParams params).bufferSize (new params bytes index) where
  capacity := rfl
  isWhole _ := ByteBuffer.isWhole_wrap _ _
  returning h := absurd h List.not_mem_nil
  made _ h := absurd h List.not_mem_nil
  pooled _ hout := absurd hout.1 (lt_irrefl 0)

/-- Going back to the start keeps a buffer whole. -/
lemma Rewound.rewind (hs : Rewound size s) :
    Rewound size { s with frame := s.frame.rewind } where
  capacity := hs.capacity
  isWhole hlock := ⟨rfl, (hs.isWhole hlock).limit⟩
  returning _ := rfl
  made := hs.made
  pooled := hs.pooled

/-- A delivery finds the buffer whole. -/
lemma Rewound.nativeFrameCallback {listener : Bool} {frameId flags : ℤ} {bytes : ℕ → UInt8}
    (hs : Rewound size s) (h : s.nativeFrameCallback listener frameId flags bytes = some s') :
    Rewound size s' := by
  cases listener with
  | true =>
    obtain ⟨hlock, rfl⟩ := nativeFrameCallback_listener h
    have hwhole : (s.frame.mFrameBuf.fill bytes).IsWhole :=
      ByteBuffer.isWhole_fill.mpr (hs.isWhole hlock)
    exact ⟨hs.capacity, fun _ => hwhole, fun _ => hwhole.position,
      fun k hk => (hs.made k hk).trans (Nat.lt_succ_self _), fun hfalse => absurd hfalse (by simp)⟩
  | false =>
    obtain rfl := nativeFrameCallback_no_listener h
    exact ⟨hs.capacity, fun hfalse => absurd hfalse (by simp), hs.returning, hs.made,
      fun hfalse => absurd hfalse (by simp)⟩

/-- A read in turn is one of a frame that is out, and that is not being returned. -/
lemma Rewound.read {op : ByteBuffer.Op} (hs : Rewound size s) (hturn : s.InTurn (.read op))
    (h : s.step (.read op) = some s') : Rewound size s' := by
  have hdeliveries : s.deliveries ≠ 0 := by
    intro hzero
    simp [step, hzero] at h
  have hout : s.IsOut := ⟨Nat.pos_of_ne_zero hdeliveries, hturn.1⟩
  obtain rfl := step_read h
  exact ⟨(ByteBuffer.capacity_call op _).trans hs.capacity,
    fun hlock => absurd hout (hs.pooled hlock),
    fun hmem => absurd hmem hturn.2, hs.made, hs.pooled⟩

/-- The first half of a return rewinds the buffer. -/
lemma Rewound.step_rewind {k : ℕ} (hs : Rewound size s) (h : s.step (.rewind k) = some s') :
    Rewound size s' := by
  obtain ⟨hk, rfl⟩ := PooledFrame.step_rewind h
  have hrewound := hs.rewind
  refine ⟨hrewound.capacity, hrewound.isWhole, fun _ => rfl, fun j hj => ?_, hrewound.pooled⟩
  rcases List.mem_append.mp hj with hold | hlast
  · exact hs.made j hold
  · rw [List.mem_singleton.mp hlast]
    exact hk

/-- **A return leaves the buffer whole** if it gets the frame into the pool and finds the limit
where it was, and does not come late. -/
lemma Rewound.compareAndSet {k : ℕ} {pooled : Bool} (hs : Rewound size s)
    (hrestores : s.Restores (.compareAndSet k pooled))
    (h : s.step (.compareAndSet k pooled) = some s') : Rewound size s' := by
  obtain ⟨hk, rfl⟩ := step_compareAndSet h
  have hlt := hs.made k hk
  refine ⟨hs.capacity, fun hlock => ?_, fun hmem => hs.returning (List.mem_of_mem_erase hmem),
    fun j hj => hs.made j (List.mem_of_mem_erase hj), fun _ hout => absurd hout.2 (by simp)⟩
  by_cases hreturned : pooled = true ∧ s.frame.mLocked = false
  · obtain ⟨hlimit, hlate⟩ := hrestores hreturned.1 hreturned.2
    refine ⟨?_, hlimit⟩
    by_cases hcurrent : k + 1 < s.deliveries
    · exact hlate ⟨hcurrent, hreturned.2⟩
    · -- the consumer of the last delivery has rewound the buffer, and reads no more
      obtain rfl : k = s.deliveries - 1 := by omega
      exact hs.returning hk
  · -- the lock of the frame stays as it is
    have hkept : (!s.frame.mLocked && pooled) = false := by
      rw [Bool.eq_false_iff]
      intro hboth
      rw [Bool.and_eq_true, Bool.not_eq_true'] at hboth
      exact hreturned ⟨hboth.2, hboth.1⟩
    dsimp only at hlock
    rw [hkept, Bool.not_false, Bool.and_true] at hlock
    exact hs.isWhole hlock

/-- **Each step that restores the buffer keeps it so.** -/
lemma Rewound.step {e : FrameEvent} (hs : Rewound size s) (hturn : s.InTurn e)
    (hrestores : s.Restores e) (h : s.step e = some s') : Rewound size s' := by
  cases e with
  | nativeFrameCallback listener frameId flags bytes => exact hs.nativeFrameCallback h
  | read op => exact hs.read hturn h
  | copyOfFrame =>
    obtain rfl := step_copyOfFrame h
    exact hs.rewind
  | rewind k => exact hs.step_rewind h
  | compareAndSet k pooled => exact hs.compareAndSet hrestores h

/-- The buffer between two steps. -/
lemma rewound_of_reachableUnder
    (h : (pooledFrames params).ReachableUnder (fun s e => s.InTurn e ∧ s.Restores e) s) :
    Rewound (nativeFrameParams params).bufferSize s := by
  refine StepSystem.ReachableUnder.invariant (I := Rewound _) ?_
    (fun s e s' _ hs hc hstep => hs.step hc.1 hc.2 hstep) h
  rintro s ⟨bytes, index, rfl⟩
  exact rewound_new params bytes index

/-! ## What a delivery presents -/

/-- A whole buffer presents its bytes. -/
lemma presents_of_isWhole {bytes : ℕ → UInt8} (hwhole : s.frame.mFrameBuf.IsWhole)
    (hcapacity : s.frame.mFrameBuf.capacity = size) (hbytes : s.frame.mFrameBuf.bytes = bytes) :
    s.Presents size bytes := by
  refine ⟨hwhole, hwhole.remaining_eq.trans hcapacity, ?_⟩
  obtain ⟨copy, hcopy, hcap, hlimit, hposition, hcopied⟩ := s.frame.copyOfFrame_eq
  have hcopywhole : copy.mFrameBuf.IsWhole := by
    refine ⟨hposition, ?_⟩
    rw [hlimit, hwhole.limit, hcap]
  refine ⟨copy, _, hcopy, hcopywhole, ?_, fun i hi => ?_⟩
  · rw [hcopywhole.remaining_eq, hcap, hcapacity]
  · rw [← hbytes]
    apply hcopied
    rw [hwhole.limit, hcapacity]
    exact hi

/-- A delivery presents the whole frame if the buffer of the frame in the pool is whole. -/
lemma Rewound.presents {frameId flags : ℤ} {bytes : ℕ → UInt8} (hs : Rewound size s)
    (h : s.step (.nativeFrameCallback true frameId flags bytes) = some s') :
    s'.Presents size bytes := by
  have hdeliver : s.nativeFrameCallback true frameId flags bytes = some s' := h
  obtain ⟨hlock, rfl⟩ := nativeFrameCallback_listener hdeliver
  exact presents_of_isWhole (ByteBuffer.isWhole_fill.mpr (hs.isWhole hlock))
    hs.capacity rfl

/-- A return that comes late and restores the buffer changes nothing of it that a consumer sees. -/
lemma unseen_of_restores {k : ℕ} {e : FrameEvent} (hreturns : e.Returns k) (hlate : s.IsLate k)
    (hrestores : s.Restores e) (h : s.step e = some s') :
    s'.frame.mFrameBuf.position = s.frame.mFrameBuf.position ∧
      s'.frame.mFrameBuf.limit = s.frame.mFrameBuf.limit := by
  cases e with
  | nativeFrameCallback | read | copyOfFrame => exact absurd hreturns not_false
  | rewind j =>
    obtain rfl : j = k := hreturns
    obtain ⟨-, rfl⟩ := step_rewind h
    exact ⟨(hrestores hlate).symm, rfl⟩
  | compareAndSet j pooled =>
    obtain ⟨-, rfl⟩ := step_compareAndSet h
    exact ⟨rfl, rfl⟩

/-- The parameters of a user that sets none. -/
def defaultParams : DeviceParams := Builder.new.build

/-- A frame of a pool, in memory that holds zeros. -/
def zeroed : PooledFrame := .new defaultParams (fun _ => 0) 0

/-- A delivery of zeros. -/
def deliverZeros : FrameEvent := .nativeFrameCallback true 0 0 fun _ => 0

/-- **A second return moves the position** that the consumer of a later delivery sees. -/
theorem seen_rewind :
    ∃ s s', (pooledFrames defaultParams).ReachableUnder (fun s e => s.InTurn e) s ∧
      s.IsLate 0 ∧ s.step (.rewind 0) = some s' ∧
      s.frame.mFrameBuf.position = 1 ∧ s'.frame.mFrameBuf.position = 0 := by
  have hrun : (pooledFrames defaultParams).runUnder (fun s e => s.InTurn e) zeroed
      [deliverZeros, .rewind 0, .compareAndSet 0 true, deliverZeros, .read (.get 1)] =
        some _ := rfl
  exact ⟨_, _, StepSystem.ReachableUnder.runUnder (.init ⟨_, _, rfl⟩) hrun,
    ⟨by decide, rfl⟩, rfl, rfl, rfl⟩

/-! ## The condition is needed -/

/-- A call that comes late goes unseen only if it finds the position at the start. -/
lemma rewind_unseen_iff {k : ℕ} (hlate : s.IsLate k) (h : s.step (.rewind k) = some s') :
    s'.frame.mFrameBuf.position = s.frame.mFrameBuf.position ∧
        s'.frame.mFrameBuf.limit = s.frame.mFrameBuf.limit ↔
      s.Restores (.rewind k) := by
  have hreturns : (FrameEvent.rewind k).Returns k := rfl
  refine ⟨fun hsame _ => ?_, fun hrestores => unseen_of_restores hreturns hlate hrestores h⟩
  obtain ⟨-, rfl⟩ := step_rewind h
  exact hsame.1.symm

/-- **The condition is needed**: after a return that gets the frame into the pool, the next
delivery presents the whole frame only if the return has restored the buffer. -/
theorem restores_iff {k : ℕ}
    (hs : (pooledFrames params).ReachableUnder (fun s e => s.InTurn e ∧ s.Restores e) s)
    (hunlocked : s.frame.mLocked = false)
    (h : s.step (.compareAndSet k true) = some s') :
    (∀ frameId flags bytes s'',
        s'.step (.nativeFrameCallback true frameId flags bytes) = some s'' →
          s''.Presents (nativeFrameParams params).bufferSize bytes) ↔
      s.Restores (.compareAndSet k true) := by
  have hrewound := rewound_of_reachableUnder hs
  refine ⟨fun hpresents => ?_, fun hrestores frameId flags bytes s'' hdeliver =>
    (hrewound.compareAndSet hrestores h).presents hdeliver⟩
  obtain ⟨-, hs'⟩ := step_compareAndSet h
  have hsame : s'.frame.mFrameBuf = s.frame.mFrameBuf := by rw [hs']
  -- the frame is in the pool, so it can be delivered again
  have hpool : s'.lock = false := by
    rw [hs', hunlocked]
    exact Bool.and_false _
  obtain ⟨s'', hdeliver, hbuf⟩ := exists_delivery hpool 0 0 fun _ => 0
  have hwhole := (hpresents 0 0 (fun _ => 0) s'' hdeliver).isWhole
  rw [hbuf, ByteBuffer.isWhole_fill, hsame] at hwhole
  exact fun _ _ => ⟨hwhole.limit, fun _ => hwhole.position⟩

end PooledFrame

end UsbTv
