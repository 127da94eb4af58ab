import UsbTv.Lib.CountedLoop
import UsbTv.Device.Urb
import UsbTv.Device.BulkTransfer

set_option relaxedAutoImplicit false
set_option autoImplicit false

/-!
# Bulk URBs

`AndroidUsbDevice::submitBulkUrb` and the calls that kill, resubmit, discard and free what it
submits. A transfer that does not fit into one URB becomes a *continuous* URB, which is never
submitted itself: an array in its context holds the sub-URBs that are.

A pointer to a URB is the number of its allocation. What lies in the memory of a new array, and
behind it, is a parameter `fresh`. Allocation succeeds. A call that does not get to its end, since
a loop in it never ends or since it takes one context for the other, has the result `none`.

## Main definitions

* `UsbTv.BulkUrb`, `UsbTv.BulkContext` — a bulk URB and its context.
* `UsbTv.BulkDevice` — the members of `AndroidUsbDevice` that concern bulk URBs.
* `UsbTv.BulkDevice.overSubUrbs` — a loop over the sub-URBs of a URB.
* `UsbTv.BulkDevice.submitBulkUrb`, `killUrb`, `resubmitUrb`, `discardBulkUrbs`, `freeBulkUrbs` —
  the calls.

## Main results

* `UsbTv.BulkDevice.overSubUrbs_lt`, `overSubUrbs_le` — what a loop over the sub-URBs does.
* `UsbTv.BulkDevice.buildContinuous_built` — the sub-URBs that `submitBulkUrb` builds.
-/

namespace UsbTv

/-- `USBDEVFS_URB_SHORT_NOT_OK`. -/
def usbdevfsUrbShortNotOk : ℕ := 1

/-- An address in a block of memory, which is known by the URB that it was allocated for. -/
structure Pointer where
  block : ℕ
  offset : ℕ
  deriving DecidableEq, Repr

/-- What `usercontext` points to: an `UrbContext`, without the device and its callback, or a
`ContinuousBulkContext`. -/
inductive BulkContext
  | urb (contBulkUrb : Option ℕ) (poolIndex : ℕ) (isLast : Bool)
  /-- `subUrbs i` is what is read at index `i`, in the array or behind it. -/
  | continuous (subUrbCount : ℕ) (subUrbs : ℕ → ℕ)

/-- `subUrbs[i] = urb`. -/
def BulkContext.setSubUrb (i urb : ℕ) : BulkContext → BulkContext
  | .urb contBulkUrb poolIndex isLast => .urb contBulkUrb poolIndex isLast
  | .continuous subUrbCount subUrbs => .continuous subUrbCount (Function.update subUrbs i urb)

/-- A `usbdevfs_urb` of type `USBDEVFS_URB_TYPE_BULK`. -/
structure BulkUrb where
  endpoint : ℕ
  status : ℤ
  flags : ℕ
  buffer : Pointer
  bufferLength : ℤ
  actualLength : ℤ
  errorCount : ℤ
  usercontext : BulkContext

/-- `status`, `actual_length` and `error_count` are reset. -/
def BulkUrb.reset (u : BulkUrb) : BulkUrb :=
  { u with status := 0, actualLength := 0, errorCount := 0 }

/-- The loops over `subUrbs`. -/
inductive SubUrbLoop
  /-- The construction in `submitBulkUrb`. -/
  | build
  /-- The submission in `submitBulkUrb`. -/
  | submit
  /-- The cleanup in `submitBulkUrb`, when a sub-URB could not be submitted. -/
  | cleanUp
  /-- The loop of `killUrb`. -/
  | kill
  /-- The loop of `resubmitUrb`. -/
  | resubmit
  /-- The inner loop of `discardBulkUrbs`. -/
  | discard
  /-- The loop of `deleteContinuousBulkUrb`. -/
  | delete
  deriving DecidableEq, Repr

/-- A loop has used an index on `subUrbs` of a URB. -/
structure Visit where
  loop : SubUrbLoop
  urb : ℕ
  index : ℕ
  deriving DecidableEq, Repr

/-- What `free` and `delete` give back: a URB, its context, the buffer that was allocated for it, or
the array of its sub-URBs. -/
inductive Block
  | urb (urb : ℕ)
  | context (urb : ℕ)
  | buffer (urb : ℕ)
  | subUrbs (urb : ℕ)
  deriving DecidableEq, Repr

/-- `AndroidUsbDevice`, as far as bulk URBs are concerned. -/
structure BulkDevice where
  scatterGatherEnabled : Bool
  bulkUrbsSubmitted : ℕ
  bulkUrbPool : List ℕ
  urbs : ℕ → BulkUrb
  /-- The number of URBs allocated so far. -/
  allocated : ℕ
  /-- What was given back so far. -/
  freed : List Block
  /-- The requests made so far. -/
  log : List Ioctl
  /-- The indices used on `subUrbs` so far. -/
  visits : List Visit

namespace BulkDevice

/-- `AndroidUsbDevice(fd)`, when `checkCapabilities` has found out about scatter-gather. -/
def new (scatterGatherEnabled : Bool) : BulkDevice where
  scatterGatherEnabled := scatterGatherEnabled
  bulkUrbsSubmitted := 0
  bulkUrbPool := []
  urbs _ := ⟨0, 0, 0, ⟨0, 0⟩, 0, 0, 0, .urb none 0 true⟩
  allocated := 0
  freed := []
  log := []
  visits := []

/-- Change a URB. -/
def modify (d : BulkDevice) (urb : ℕ) (f : BulkUrb → BulkUrb) : BulkDevice :=
  { d with urbs := Function.update d.urbs urb (f (d.urbs urb)) }

/-- An ioctl about a URB: the answer of the environment, and the request on record. -/
def ioctl (d : BulkDevice) (answer : ℕ → ℤ) (request : Ioctl) : ℤ × BulkDevice :=
  (answer d.log.length, { d with log := d.log ++ [request] })

/-- `submitUrb`. -/
def submitUrb (d : BulkDevice) (answer : ℕ → ℤ) (urb : ℕ) : Bool × BulkDevice :=
  let (ret, d) := d.ioctl answer (.submitUrb urb)
  if ret < 0 then (false, d) else (true, d)

/-- An index is used on `subUrbs`. -/
def visit (d : BulkDevice) (loop : SubUrbLoop) (urb index : ℕ) : BulkDevice :=
  { d with visits := d.visits ++ [⟨loop, urb, index⟩] }

/-- One round of a loop over `subUrbs` of a URB: what it does with the sub-URB succeeds or not. -/
def subUrbRound (loop : SubUrbLoop) (urb : ℕ) (subUrbs : ℕ → ℕ)
    (body : BulkDevice → ℕ → Bool × BulkDevice) (s : Bool × BulkDevice) (i : ℕ) :
    Bool × BulkDevice :=
  let (ok, d) := body (s.2.visit loop urb i) (subUrbs i)
  (s.1 && ok, d)

/-- A loop over `subUrbs` of a URB, whose counter has `m` values, and whether all its rounds have
succeeded. -/
def overSubUrbs (d : BulkDevice) (loop : SubUrbLoop) (urb m : ℕ) (test : ℕ → ℕ → Bool)
    (body : BulkDevice → ℕ → Bool × BulkDevice) : Option (Bool × BulkDevice) :=
  match (d.urbs urb).usercontext with
  | .urb .. => none
  | .continuous subUrbCount subUrbs =>
    forLoop m (fun i => test i subUrbCount) (subUrbRound loop urb subUrbs body) (true, d)

/-- `deleteUrb`. -/
def deleteUrb (d : BulkDevice) (urb : ℕ) : BulkDevice :=
  { d with freed := d.freed ++ [.context urb, .buffer (d.urbs urb).buffer.block, .urb urb] }

/-- `deleteContinuousBulkUrb`. -/
def deleteContinuousBulkUrb (d : BulkDevice) (urb : ℕ) : Option BulkDevice :=
  (d.overSubUrbs .delete urb (2 ^ 31) (fun i subUrbCount => i < subUrbCount) fun d subUrb =>
    (true, { d with freed := d.freed ++ [.context subUrb, .urb subUrb] })).map fun (_, d) =>
  { d with
    freed := d.freed ++
      [.subUrbs urb, .buffer (d.urbs urb).buffer.block, .urb urb, .context urb] }

/-! ## Submitting -/

/-- `allocateUrb`. -/
def allocateUrb (d : BulkDevice) (bufferSize : ℕ) : ℕ × BulkDevice :=
  (d.allocated,
    { d with
      allocated := d.allocated + 1
      urbs := Function.update d.urbs d.allocated
        ⟨0, 0, 0, ⟨d.allocated, 0⟩, cInt bufferSize, 0, 0, .urb none 0 true⟩ })

/-- A URB that was submitted goes into the pool. -/
def addToPool (d : BulkDevice) (urb : ℕ) : BulkDevice :=
  { d with
    bulkUrbsSubmitted := (d.bulkUrbsSubmitted + 1) % 2 ^ 8
    bulkUrbPool := d.bulkUrbPool ++ [urb] }

/-- The first branch of `submitBulkUrb`: one URB takes the whole buffer. -/
def submitSimple (d : BulkDevice) (answer : ℕ → ℤ) (endpoint bufferSize : ℕ) : Bool × BulkDevice :=
  let (bulkUrb, d) := d.allocateUrb bufferSize
  let d := d.modify bulkUrb fun u =>
    { u with
      endpoint := endpoint
      flags := 0
      usercontext := .urb none (d.bulkUrbPool.length % 2 ^ 8) true }
  let (ok, d) := d.submitUrb answer bulkUrb
  if ok then (true, d.addToPool bulkUrb) else (false, d.deleteUrb bulkUrb)

/-- `urbCount`. -/
def urbCount (bufferSize : ℕ) : ℕ :=
  if bufferSize % maxUsbfsBulkSize > 0 then bufferSize / maxUsbfsBulkSize + 1
  else bufferSize / maxUsbfsBulkSize

/-- `lastUrbSize`. -/
def lastUrbSize (bufferSize : ℕ) : ℕ :=
  if bufferSize % maxUsbfsBulkSize > 0 then bufferSize % maxUsbfsBulkSize else maxUsbfsBulkSize

/-- The main URB, with room for its sub-URBs. -/
def newMainUrb (d : BulkDevice) (fresh : ℕ → ℕ → ℕ) (endpoint bufferSize : ℕ) : BulkDevice :=
  { d with
    allocated := d.allocated + 1
    urbs := Function.update d.urbs d.allocated
      ⟨endpoint, 0, usbdevfsUrbBulkContinuation, ⟨d.allocated, 0⟩, 0, 0, 0,
        .continuous (urbCount bufferSize % 2 ^ 8) (fresh d.allocated)⟩ }

/-- Sub-URB `i` of the URB `main`. Its `curBuf` is computed from the number of the sub-URBs. -/
def subUrb (endpoint bufferSize main : ℕ) (buffer : Pointer) (i : ℕ) : BulkUrb where
  endpoint := endpoint
  status := 0
  flags :=
    if i = 0 then usbdevfsUrbShortNotOk
    else if i = urbCount bufferSize - 1 then usbdevfsUrbBulkContinuation
    else usbdevfsUrbBulkContinuation ||| usbdevfsUrbShortNotOk
  buffer := ⟨buffer.block, buffer.offset + urbCount bufferSize * maxUsbfsBulkSize % 2 ^ 32⟩
  bufferLength :=
    if i = 0 then maxUsbfsBulkSize
    else if i = urbCount bufferSize - 1 then lastUrbSize bufferSize
    else maxUsbfsBulkSize
  actualLength := 0
  errorCount := 0
  usercontext := .urb (some main) i (if i = 0 then false else i = urbCount bufferSize - 1)

/-- One round of the construction. -/
def buildSubUrb (endpoint bufferSize main : ℕ) (d : BulkDevice) (i : ℕ) : BulkDevice :=
  let urb := d.allocated
  let buffer := (d.urbs main).buffer
  let d := { d with
    allocated := d.allocated + 1
    urbs := Function.update d.urbs urb (subUrb endpoint bufferSize main buffer i) }
  (d.modify main fun u => { u with usercontext := u.usercontext.setSubUrb i urb }).visit
    .build main i

/-- The second branch of `submitBulkUrb`, up to its first loop: the URB and its sub-URBs are
built. -/
def buildContinuous (d : BulkDevice) (fresh : ℕ → ℕ → ℕ) (endpoint bufferSize : ℕ) :
    Option BulkDevice :=
  forLoop (2 ^ 8) (fun i => i < urbCount bufferSize)
    (buildSubUrb endpoint bufferSize d.allocated) (d.newMainUrb fresh endpoint bufferSize)

/-- The second loop of `submitBulkUrb` submits the sub-URBs. -/
def submitSubUrbs (d : BulkDevice) (answer : ℕ → ℤ) (mainUrb : ℕ) : Option (Bool × BulkDevice) :=
  d.overSubUrbs .submit mainUrb (2 ^ 8) (fun i subUrbCount => i < subUrbCount) fun d subUrb =>
    d.submitUrb answer subUrb

/-- The third loop of `submitBulkUrb` discards the sub-URBs when one of them could not be
submitted. What `ioctl` returns is not looked at. -/
def discardSubUrbs (d : BulkDevice) (answer : ℕ → ℤ) (mainUrb : ℕ) : Option (Bool × BulkDevice) :=
  d.overSubUrbs .cleanUp mainUrb (2 ^ 8) (fun i subUrbCount => i ≤ subUrbCount) fun d subUrb =>
    (true, (d.ioctl answer (.discardUrb subUrb)).2)

/-- The second branch of `submitBulkUrb`, when the sub-URBs are built. -/
def submitBuilt (d : BulkDevice) (answer : ℕ → ℤ) (mainUrb : ℕ) : Option (Bool × BulkDevice) :=
  (d.submitSubUrbs answer mainUrb).bind fun (success, d) =>
    if success then some (true, d.addToPool mainUrb)
    else
      (d.discardSubUrbs answer mainUrb).bind fun (_, d) =>
        (d.deleteContinuousBulkUrb mainUrb).map fun d => (false, d)

/-- `submitBulkUrb`. -/
def submitBulkUrb (d : BulkDevice) (answer : ℕ → ℤ) (fresh : ℕ → ℕ → ℕ)
    (endpoint bufferSize : ℕ) : Option (Bool × BulkDevice) :=
  if bufferSize ≤ maxUsbfsBulkSize ∨ d.scatterGatherEnabled = true then
    some (d.submitSimple answer endpoint bufferSize)
  else
    (d.buildContinuous fresh endpoint bufferSize).bind fun d' =>
      d'.submitBuilt answer d.allocated

/-! ## Killing, resubmitting, discarding and freeing -/

/-- `killUrb`. -/
def killUrb (d : BulkDevice) (answer : ℕ → ℤ) : Option ℕ → Option (Bool × BulkDevice)
  | none => some (false, d)
  | some urb =>
    if (d.urbs urb).flags &&& usbdevfsUrbBulkContinuation = 0 then
      let (ret, d) := d.ioctl answer (.discardUrb urb)
      some (ret == 0, d)
    else
      d.overSubUrbs .kill urb (2 ^ 31) (fun i subUrbCount => i ≤ subUrbCount) fun d subUrb =>
        let (ret, d) := d.ioctl answer (.discardUrb subUrb)
        (ret == 0, d)

/-- `resubmitUrb`, which never finds an isochronous URB here. -/
def resubmitUrb (d : BulkDevice) (answer : ℕ → ℤ) : Option ℕ → Option (Bool × BulkDevice)
  | none => some (false, d)
  | some urb =>
    let d := d.modify urb .reset
    if (d.urbs urb).flags &&& usbdevfsUrbBulkContinuation > 0 then
      d.overSubUrbs .resubmit urb (2 ^ 8) (fun i subUrbCount => i < subUrbCount) fun d subUrb =>
        (d.modify subUrb .reset).submitUrb answer subUrb
    else some (d.submitUrb answer urb)

/-- One round of the outer loop of `discardBulkUrbs`. -/
def discardBulkUrb (d : BulkDevice) (answer : ℕ → ℤ) (urb : ℕ) : Option (Bool × BulkDevice) :=
  if (d.urbs urb).flags &&& usbdevfsUrbBulkContinuation = 0 then
    let (ret, d) := d.ioctl answer (.discardUrb urb)
    some (0 ≤ ret, d)
  else
    d.overSubUrbs .discard urb (2 ^ 31) (fun i subUrbCount => i < subUrbCount) fun d subUrb =>
      let (ret, d) := d.ioctl answer (.discardUrb subUrb)
      (0 ≤ ret, d)

/-- The outer loop of `discardBulkUrbs`. -/
def discardEach (answer : ℕ → ℤ) : List ℕ → BulkDevice → Option (Bool × BulkDevice)
  | [], d => some (true, d)
  | urb :: urbs, d =>
    (d.discardBulkUrb answer urb).bind fun (ok, d) =>
      (discardEach answer urbs d).map fun (success, d) => (ok && success, d)

/-- `discardBulkUrbs`. -/
def discardBulkUrbs (d : BulkDevice) (answer : ℕ → ℤ) : Option (Bool × BulkDevice) :=
  if d.bulkUrbPool = [] then some (true, d)
  else
    (discardEach answer d.bulkUrbPool d).map fun (success, d) =>
      (success, { d with bulkUrbsSubmitted := 0 })

/-- One round of the loop of `freeBulkUrbs`. -/
def deletePooled (d : BulkDevice) (i : ℕ) : Option BulkDevice :=
  (d.bulkUrbPool[i]?).bind fun urb =>
    if (d.urbs urb).flags &&& usbdevfsUrbBulkContinuation = 0 then some (d.deleteUrb urb)
    else d.deleteContinuousBulkUrb urb

/-- The first statement of `freeBulkUrbs`. -/
def discardSubmitted (d : BulkDevice) (answer : ℕ → ℤ) : Option BulkDevice :=
  if d.bulkUrbsSubmitted > 0 then (d.discardBulkUrbs answer).map fun (_, d) => d else some d

/-- `freeBulkUrbs`, whose loop runs while `i > _bulkUrbPool.size()`. -/
def freeBulkUrbs (d : BulkDevice) (answer : ℕ → ℤ) : Option BulkDevice :=
  (d.discardSubmitted answer).bind fun d =>
    (forLoop (2 ^ 31) (fun i => i > d.bulkUrbPool.length)
      (fun (d : Option BulkDevice) i => d.bind fun d => d.deletePooled i) (some d)).bind fun d =>
    d.map fun d => { d with bulkUrbPool := [] }

/-! ## The loops over the sub-URBs -/

/-- The two states differ at most in these requests, in what was given back, in these visits, and in
the status of URBs. -/
structure Touched (d d' : BulkDevice) (requests : List Ioctl) (blocks : List Block)
    (visits : List Visit) : Prop where
  scatterGatherEnabled : d'.scatterGatherEnabled = d.scatterGatherEnabled
  bulkUrbsSubmitted : d'.bulkUrbsSubmitted = d.bulkUrbsSubmitted
  bulkUrbPool : d'.bulkUrbPool = d.bulkUrbPool
  allocated : d'.allocated = d.allocated
  flags : ∀ u, (d'.urbs u).flags = (d.urbs u).flags
  buffer : ∀ u, (d'.urbs u).buffer = (d.urbs u).buffer
  usercontext : ∀ u, (d'.urbs u).usercontext = (d.urbs u).usercontext
  freed : d'.freed = d.freed ++ blocks
  log : d'.log = d.log ++ requests
  visits : d'.visits = d.visits ++ visits

namespace Touched

lemma refl (d : BulkDevice) : Touched d d [] [] [] :=
  ⟨rfl, rfl, rfl, rfl, fun _ => rfl, fun _ => rfl, fun _ => rfl, by simp, by simp, by simp⟩

lemma trans {d d' d'' : BulkDevice} {rs rs' : List Ioctl} {bs bs' : List Block}
    {vs vs' : List Visit} (h : Touched d d' rs bs vs) (h' : Touched d' d'' rs' bs' vs') :
    Touched d d'' (rs ++ rs') (bs ++ bs') (vs ++ vs') where
  scatterGatherEnabled := h'.scatterGatherEnabled.trans h.scatterGatherEnabled
  bulkUrbsSubmitted := h'.bulkUrbsSubmitted.trans h.bulkUrbsSubmitted
  bulkUrbPool := h'.bulkUrbPool.trans h.bulkUrbPool
  allocated := h'.allocated.trans h.allocated
  flags u := (h'.flags u).trans (h.flags u)
  buffer u := (h'.buffer u).trans (h.buffer u)
  usercontext u := (h'.usercontext u).trans (h.usercontext u)
  freed := by rw [h'.freed, h.freed, List.append_assoc]
  log := by rw [h'.log, h.log, List.append_assoc]
  visits := by rw [h'.visits, h.visits, List.append_assoc]

lemma visit (d : BulkDevice) (loop : SubUrbLoop) (urb i : ℕ) :
    Touched d (d.visit loop urb i) [] [] [⟨loop, urb, i⟩] :=
  ⟨rfl, rfl, rfl, rfl, fun _ => rfl, fun _ => rfl, fun _ => rfl, by simp [BulkDevice.visit],
    by simp [BulkDevice.visit], rfl⟩

lemma ioctl (d : BulkDevice) (answer : ℕ → ℤ) (request : Ioctl) :
    Touched d (d.ioctl answer request).2 [request] [] [] :=
  ⟨rfl, rfl, rfl, rfl, fun _ => rfl, fun _ => rfl, fun _ => rfl, by simp [BulkDevice.ioctl], rfl,
    by simp [BulkDevice.ioctl]⟩

lemma submitUrb (d : BulkDevice) (answer : ℕ → ℤ) (urb : ℕ) :
    Touched d (d.submitUrb answer urb).2 [.submitUrb urb] [] [] := by
  have h := ioctl d answer (.submitUrb urb)
  unfold BulkDevice.submitUrb
  dsimp only
  split_ifs <;> exact h

/-- Resetting a URB is not seen. -/
lemma reset (d : BulkDevice) (urb : ℕ) : Touched d (d.modify urb .reset) [] [] [] := by
  have h : ∀ u, (d.modify urb .reset).urbs u = d.urbs u ∨
      (d.modify urb .reset).urbs u = (d.urbs u).reset := by
    intro u
    by_cases hu : u = urb
    · subst hu
      exact .inr (Function.update_self ..)
    · exact .inl (Function.update_of_ne hu ..)
  refine ⟨rfl, rfl, rfl, rfl, fun u => ?_, fun u => ?_, fun u => ?_, by simp [modify],
    by simp [modify], by simp [modify]⟩
  all_goals
    rcases h u with h | h
    · rw [h]
    · rw [h]
      rfl

lemma give (d : BulkDevice) (blocks : List Block) :
    Touched d { d with freed := d.freed ++ blocks } [] blocks [] :=
  ⟨rfl, rfl, rfl, rfl, fun _ => rfl, fun _ => rfl, fun _ => rfl, rfl, by simp, by simp⟩

/-- The URBs have the same shape. -/
lemma continuation {d d' : BulkDevice} {rs : List Ioctl} {bs : List Block} {vs : List Visit}
    (h : Touched d d' rs bs vs) (u : ℕ) :
    (d'.urbs u).flags &&& usbdevfsUrbBulkContinuation =
      (d.urbs u).flags &&& usbdevfsUrbBulkContinuation := by
  rw [h.flags]

end Touched

@[simp] lemma submitUrb_fst (d : BulkDevice) (answer : ℕ → ℤ) (urb : ℕ) :
    (d.submitUrb answer urb).1 = decide (0 ≤ answer d.log.length) := by
  unfold submitUrb ioctl
  dsimp only
  split_ifs with h
  · exact (decide_eq_false (not_le.mpr h)).symm
  · exact (decide_eq_true (not_lt.mp h)).symm

section Rounds

variable {loop : SubUrbLoop} {urb : ℕ} {subUrbs : ℕ → ℕ}
  {body : BulkDevice → ℕ → Bool × BulkDevice}

/-- The rounds of a loop make their requests and give back their blocks one after the other. -/
lemma foldl_touched (requests : ℕ → List Ioctl) (blocks : ℕ → List Block)
    (hbody : ∀ d u, Touched d (body d u).2 (requests u) (blocks u) []) (is : List ℕ)
    (s : Bool × BulkDevice) :
    Touched s.2 (is.foldl (subUrbRound loop urb subUrbs body) s).2
      (is.flatMap fun i => requests (subUrbs i)) (is.flatMap fun i => blocks (subUrbs i))
      (is.map fun i => ⟨loop, urb, i⟩) := by
  induction is generalizing s with
  | nil => exact Touched.refl s.2
  | cons i is ih =>
    have hround : Touched s.2 (subUrbRound loop urb subUrbs body s i).2 (requests (subUrbs i))
        (blocks (subUrbs i)) [⟨loop, urb, i⟩] :=
      (Touched.visit s.2 loop urb i).trans (hbody _ _)
    exact hround.trans (ih _)

/-- The rounds of a loop that makes one request each all succeed if all requests are accepted. -/
lemma foldl_accepted {answer : ℕ → ℤ} {requests : ℕ → Ioctl}
    (hbody : ∀ d u, Touched d (body d u).2 [requests u] [] [])
    (hok : ∀ d u, (body d u).1 = decide (0 ≤ answer d.log.length)) (is : List ℕ)
    (s : Bool × BulkDevice) :
    (is.foldl (subUrbRound loop urb subUrbs body) s).1 = true ↔
      s.1 = true ∧ ∀ k < is.length, 0 ≤ answer (s.2.log.length + k) := by
  induction is generalizing s with
  | nil => simp
  | cons i is ih =>
    have hlog : (subUrbRound loop urb subUrbs body s i).2.log.length = s.2.log.length + 1 := by
      have h := (Touched.visit s.2 loop urb i).trans (hbody (s.2.visit loop urb i) (subUrbs i))
      rw [subUrbRound, h.log]
      simp
    have hfst : (subUrbRound loop urb subUrbs body s i).1 =
        (s.1 && decide (0 ≤ answer s.2.log.length)) := by
      show (s.1 && (body (s.2.visit loop urb i) (subUrbs i)).1) = _
      rw [hok]
      rfl
    rw [List.foldl_cons, ih, hlog, hfst, List.length_cons, Nat.forall_lt_succ_left]
    simp only [Bool.and_eq_true, decide_eq_true_eq, Nat.add_zero, Nat.add_right_comm _ 1,
      Nat.add_assoc, and_assoc]

variable {d : BulkDevice} {m subUrbCount : ℕ}

/-- **A loop while `i < subUrbCount`** visits every sub-URB once. -/
lemma overSubUrbs_lt (hctx : (d.urbs urb).usercontext = .continuous subUrbCount subUrbs)
    (hm : subUrbCount < m) :
    d.overSubUrbs loop urb m (fun i subUrbCount => i < subUrbCount) body =
      some ((List.range subUrbCount).foldl (subUrbRound loop urb subUrbs body) (true, d)) := by
  unfold overSubUrbs
  rw [hctx]
  exact forLoop_lt hm _

/-- **A loop while `i <= subUrbCount`** goes one index too far. -/
lemma overSubUrbs_le (hctx : (d.urbs urb).usercontext = .continuous subUrbCount subUrbs)
    (hm : subUrbCount + 1 < m) :
    d.overSubUrbs loop urb m (fun i subUrbCount => i ≤ subUrbCount) body =
      some ((List.range (subUrbCount + 1)).foldl (subUrbRound loop urb subUrbs body)
        (true, d)) := by
  unfold overSubUrbs
  rw [hctx]
  exact forLoop_le hm _

/-- If the counter cannot get past `subUrbCount`, that loop never ends. -/
lemma overSubUrbs_le_eq_none
    (hctx : (d.urbs urb).usercontext = .continuous subUrbCount subUrbs) (hpos : 0 < m)
    (hm : m ≤ subUrbCount + 1) :
    d.overSubUrbs loop urb m (fun i subUrbCount => i ≤ subUrbCount) body = none := by
  unfold overSubUrbs
  rw [hctx]
  exact forLoop_le_eq_none hpos hm _

end Rounds

/-! ## The construction -/

/-- The number of the sub-URBs is the number of chunks. -/
lemma urbCount_eq_chunkCount (bufferSize : ℕ) : urbCount bufferSize = chunkCount bufferSize := by
  unfold urbCount chunkCount maxUsbfsBulkSize
  split_ifs <;> omega

/-- A buffer that does not fit into one URB has two chunks. -/
lemma two_le_chunkCount {bufferSize : ℕ} (h : maxUsbfsBulkSize < bufferSize) :
    2 ≤ chunkCount bufferSize := by
  have := (chunkCount_spec bufferSize).1
  unfold maxUsbfsBulkSize at h this
  omega

/-- What is in the array of a URB after `k` rounds of the construction, and behind it. -/
def builtSubUrbs (fresh : ℕ → ℕ → ℕ) (main k i : ℕ) : ℕ :=
  if i < k then main + 1 + i else fresh main i

/-- What the construction has done after `k` rounds. -/
structure Built (fresh : ℕ → ℕ → ℕ) (d d' : BulkDevice) (endpoint bufferSize k : ℕ) : Prop where
  scatterGatherEnabled : d'.scatterGatherEnabled = d.scatterGatherEnabled
  bulkUrbsSubmitted : d'.bulkUrbsSubmitted = d.bulkUrbsSubmitted
  bulkUrbPool : d'.bulkUrbPool = d.bulkUrbPool
  allocated : d'.allocated = d.allocated + 1 + k
  freed : d'.freed = d.freed
  log : d'.log = d.log
  visits : d'.visits = d.visits ++ (List.range k).map fun i => ⟨.build, d.allocated, i⟩
  old : ∀ u < d.allocated, d'.urbs u = d.urbs u
  main : d'.urbs d.allocated =
    ⟨endpoint, 0, usbdevfsUrbBulkContinuation, ⟨d.allocated, 0⟩, 0, 0, 0,
      .continuous (chunkCount bufferSize % 2 ^ 8) (builtSubUrbs fresh d.allocated k)⟩
  subUrb : ∀ i < k, d'.urbs (d.allocated + 1 + i) =
    subUrb endpoint bufferSize d.allocated ⟨d.allocated, 0⟩ i

lemma newMainUrb_built (d : BulkDevice) (fresh : ℕ → ℕ → ℕ) (endpoint bufferSize : ℕ) :
    Built fresh d (d.newMainUrb fresh endpoint bufferSize) endpoint bufferSize 0 where
  scatterGatherEnabled := rfl
  bulkUrbsSubmitted := rfl
  bulkUrbPool := rfl
  allocated := rfl
  freed := rfl
  log := rfl
  visits := by simp [newMainUrb]
  old u hu := Function.update_of_ne hu.ne ..
  main := by
    have hfresh : builtSubUrbs fresh d.allocated 0 = fresh d.allocated := by
      funext i
      exact if_neg (Nat.not_lt_zero i)
    simp [newMainUrb, urbCount_eq_chunkCount, hfresh]
  subUrb i hi := absurd hi (Nat.not_lt_zero i)

/-- A round of the construction adds a sub-URB. -/
lemma Built.round {fresh : ℕ → ℕ → ℕ} {d d' : BulkDevice} {endpoint bufferSize k : ℕ}
    (h : Built fresh d d' endpoint bufferSize k) :
    Built fresh d (buildSubUrb endpoint bufferSize d.allocated d' k) endpoint bufferSize
      (k + 1) := by
  -- the main URB is older than the sub-URB
  have hne : d.allocated ≠ d'.allocated := by
    have := h.allocated
    omega
  have hsub : ∀ u, u ≠ d.allocated →
      (buildSubUrb endpoint bufferSize d.allocated d' k).urbs u =
        Function.update d'.urbs d'.allocated
          (BulkDevice.subUrb endpoint bufferSize d.allocated (d'.urbs d.allocated).buffer k) u :=
    fun u hu => Function.update_of_ne hu ..
  have hmain : (buildSubUrb endpoint bufferSize d.allocated d' k).urbs d.allocated =
      { d'.urbs d.allocated with
        usercontext := (d'.urbs d.allocated).usercontext.setSubUrb k d'.allocated } := by
    simp only [buildSubUrb, modify, visit, Function.update_self, Function.update_of_ne hne]
  refine ⟨h.scatterGatherEnabled, h.bulkUrbsSubmitted, h.bulkUrbPool, ?_, h.freed, h.log, ?_,
    fun u hu => ?_, ?_, fun i hi => ?_⟩
  · show d'.allocated + 1 = _
    rw [h.allocated, Nat.add_assoc]
  · show d'.visits ++ _ = _
    rw [h.visits, List.range_succ, List.map_append, List.append_assoc]
    rfl
  · have := h.allocated
    rw [hsub u hu.ne, Function.update_of_ne (by omega), h.old u hu]
  · rw [hmain, h.main]
    simp only [BulkContext.setSubUrb, h.allocated]
    congr 2
    funext i
    unfold builtSubUrbs
    rcases lt_trichotomy i k with hlt | rfl | hlt
    · rw [Function.update_of_ne hlt.ne, if_pos hlt, if_pos (by omega)]
    · rw [Function.update_self, if_pos (Nat.lt_succ_self i)]
    · rw [Function.update_of_ne hlt.ne', if_neg (by omega), if_neg (by omega)]
  · rw [hsub _ (by omega)]
    rcases Nat.lt_succ_iff_lt_or_eq.mp hi with hlt | rfl
    · rw [Function.update_of_ne (by rw [h.allocated]; omega), h.subUrb i hlt]
    · rw [h.allocated, Function.update_self, h.main]

/-- The count that is recorded is right if it has 8 bits. -/
lemma Built.usercontext {fresh : ℕ → ℕ → ℕ} {d d' : BulkDevice} {endpoint bufferSize k : ℕ}
    (h : Built fresh d d' endpoint bufferSize k) (hcount : chunkCount bufferSize < 2 ^ 8) :
    (d'.urbs d.allocated).usercontext =
      .continuous (chunkCount bufferSize) (builtSubUrbs fresh d.allocated k) := by
  rw [h.main, Nat.mod_eq_of_lt hcount]

/-- **The construction** of at most 255 sub-URBs. -/
theorem buildContinuous_built (d : BulkDevice) (fresh : ℕ → ℕ → ℕ) (endpoint : ℕ)
    {bufferSize : ℕ} (hcount : chunkCount bufferSize < 2 ^ 8) :
    ∃ d', d.buildContinuous fresh endpoint bufferSize = some d' ∧
      Built fresh d d' endpoint bufferSize (chunkCount bufferSize) := by
  refine ⟨_, forLoop_lt (by rwa [urbCount_eq_chunkCount]) _, ?_⟩
  rw [urbCount_eq_chunkCount]
  generalize chunkCount bufferSize = n
  induction n with
  | zero => exact d.newMainUrb_built fresh endpoint bufferSize
  | succ n ih =>
    rw [List.range_succ, List.foldl_append]
    exact ih.round

/-- The second branch of `submitBulkUrb`, when the sub-URBs are built. -/
lemma submitBulkUrb_of_built {d d' : BulkDevice} {fresh : ℕ → ℕ → ℕ} {endpoint bufferSize : ℕ}
    (hpath : ¬ (bufferSize ≤ maxUsbfsBulkSize ∨ d.scatterGatherEnabled = true))
    (hd' : d.buildContinuous fresh endpoint bufferSize = some d') (answer : ℕ → ℤ) :
    d.submitBulkUrb answer fresh endpoint bufferSize = d'.submitBuilt answer d.allocated := by
  rw [submitBulkUrb, if_neg hpath, hd', Option.bind_some]

/-- With more sub-URBs the 8-bit index of the construction wraps, and the loop never ends. -/
lemma buildContinuous_eq_none (d : BulkDevice) (fresh : ℕ → ℕ → ℕ) (endpoint : ℕ)
    {bufferSize : ℕ} (hcount : 2 ^ 8 ≤ chunkCount bufferSize) :
    d.buildContinuous fresh endpoint bufferSize = none :=
  forLoop_lt_eq_none (by decide) (by rwa [urbCount_eq_chunkCount]) _

/-! ## The calls on a continuous URB -/

section Calls

variable {d : BulkDevice} {urb n m : ℕ} {subUrbs : ℕ → ℕ} {loop : SubUrbLoop}
  {body : BulkDevice → ℕ → Bool × BulkDevice}

/-- The rounds of a loop that makes one request each. -/
lemma foldl_requests (request : ℕ → Ioctl)
    (hbody : ∀ d u, Touched d (body d u).2 [request u] [] []) (is : List ℕ)
    (s : Bool × BulkDevice) :
    Touched s.2 (is.foldl (subUrbRound loop urb subUrbs body) s).2
      (is.map fun i => request (subUrbs i)) [] (is.map fun i => ⟨loop, urb, i⟩) := by
  have hnone : (is.flatMap fun _ => ([] : List Block)) = [] :=
    List.flatMap_eq_nil_iff.mpr fun _ _ => rfl
  rw [List.map_eq_flatMap, ← hnone]
  exact foldl_touched (fun u => [request u]) (fun _ => []) hbody is s

/-- The rounds of a loop that gives blocks back and makes no request. -/
lemma foldl_blocks (blocks : ℕ → List Block)
    (hbody : ∀ d u, Touched d (body d u).2 [] (blocks u) []) (is : List ℕ)
    (s : Bool × BulkDevice) :
    Touched s.2 (is.foldl (subUrbRound loop urb subUrbs body) s).2 []
      (is.flatMap fun i => blocks (subUrbs i)) (is.map fun i => ⟨loop, urb, i⟩) := by
  have hnone : (is.flatMap fun _ => ([] : List Ioctl)) = [] :=
    List.flatMap_eq_nil_iff.mpr fun _ _ => rfl
  rw [← hnone]
  exact foldl_touched (fun _ => []) blocks hbody is s

/-- What a loop while `i < subUrbCount` that makes one request each leaves behind. -/
lemma overSubUrbs_lt_requests (request : ℕ → Ioctl)
    (hctx : (d.urbs urb).usercontext = .continuous n subUrbs) (hm : n < m)
    (hbody : ∀ d u, Touched d (body d u).2 [request u] [] []) :
    ∃ r, d.overSubUrbs loop urb m (fun i subUrbCount => i < subUrbCount) body = some r ∧
      Touched d r.2 ((List.range n).map fun i => request (subUrbs i)) []
        ((List.range n).map fun i => ⟨loop, urb, i⟩) :=
  ⟨_, overSubUrbs_lt hctx hm, foldl_requests request hbody _ (true, d)⟩

/-- What a loop while `i <= subUrbCount` that makes one request each leaves behind. -/
lemma overSubUrbs_le_requests (request : ℕ → Ioctl)
    (hctx : (d.urbs urb).usercontext = .continuous n subUrbs) (hm : n + 1 < m)
    (hbody : ∀ d u, Touched d (body d u).2 [request u] [] []) :
    ∃ r, d.overSubUrbs loop urb m (fun i subUrbCount => i ≤ subUrbCount) body = some r ∧
      Touched d r.2 ((List.range (n + 1)).map fun i => request (subUrbs i)) []
        ((List.range (n + 1)).map fun i => ⟨loop, urb, i⟩) :=
  ⟨_, overSubUrbs_le hctx hm, foldl_requests request hbody _ (true, d)⟩

variable (answer : ℕ → ℤ)

/-- All sub-URBs are submitted, whatever becomes of the others. -/
lemma submitSubUrbs_spec (hctx : (d.urbs urb).usercontext = .continuous n subUrbs)
    (hn : n < 2 ^ 8) :
    ∃ r, d.submitSubUrbs answer urb = some r ∧
      Touched d r.2 ((List.range n).map fun i => .submitUrb (subUrbs i)) []
        ((List.range n).map fun i => ⟨.submit, urb, i⟩) ∧
      (r.1 = true ↔ ∀ k < n, 0 ≤ answer (d.log.length + k)) := by
  have hbody : ∀ (d : BulkDevice) (u : ℕ),
      Touched d (d.submitUrb answer u).2 [.submitUrb u] [] [] :=
    fun d u => .submitUrb d answer u
  refine ⟨_, overSubUrbs_lt hctx hn, foldl_requests .submitUrb hbody _ (true, d), ?_⟩
  rw [foldl_accepted hbody fun d u => submitUrb_fst d answer u]
  simp

/-- The cleanup discards what is behind the array, too. -/
lemma discardSubUrbs_spec (hctx : (d.urbs urb).usercontext = .continuous n subUrbs)
    (hn : n + 1 < 2 ^ 8) :
    ∃ r, d.discardSubUrbs answer urb = some r ∧
      Touched d r.2 ((List.range (n + 1)).map fun i => .discardUrb (subUrbs i)) []
        ((List.range (n + 1)).map fun i => ⟨.cleanUp, urb, i⟩) :=
  overSubUrbs_le_requests .discardUrb hctx hn fun d u => .ioctl d answer (.discardUrb u)

/-- With 255 sub-URBs the cleanup never ends. -/
lemma discardSubUrbs_eq_none (hctx : (d.urbs urb).usercontext = .continuous n subUrbs)
    (hn : 2 ^ 8 ≤ n + 1) : d.discardSubUrbs answer urb = none :=
  overSubUrbs_le_eq_none hctx (by decide) hn

/-- What belongs to a URB with sub-URBs. -/
def continuousBlocks (urb buffer n : ℕ) (subUrbs : ℕ → ℕ) : List Block :=
  ((List.range n).flatMap fun i => [.context (subUrbs i), .urb (subUrbs i)]) ++
    [.subUrbs urb, .buffer buffer, .urb urb, .context urb]

/-- Deleting a continuous URB gives back all that belongs to it. -/
lemma deleteContinuousBulkUrb_spec (hctx : (d.urbs urb).usercontext = .continuous n subUrbs)
    (hn : n < 2 ^ 8) :
    ∃ d', d.deleteContinuousBulkUrb urb = some d' ∧
      Touched d d' [] (continuousBlocks urb (d.urbs urb).buffer.block n subUrbs)
        ((List.range n).map fun i => ⟨.delete, urb, i⟩) := by
  have hloop : Touched d ((List.range n).foldl (subUrbRound .delete urb subUrbs fun d u =>
        (true, { d with freed := d.freed ++ [.context u, .urb u] })) (true, d)).2 []
      ((List.range n).flatMap fun i => [.context (subUrbs i), .urb (subUrbs i)])
      ((List.range n).map fun i => ⟨.delete, urb, i⟩) :=
    foldl_blocks (fun u => [.context u, .urb u]) (fun d u => .give d _) (List.range n) (true, d)
  refine ⟨_, by rw [deleteContinuousBulkUrb, overSubUrbs_lt hctx (by omega), Option.map_some], ?_⟩
  have h := hloop.trans (.give _ [.subUrbs urb, .buffer (d.urbs urb).buffer.block, .urb urb,
    .context urb])
  have hblock := hloop.buffer urb
  rw [List.append_nil, List.append_nil] at h
  rw [← hblock] at h ⊢
  exact h

/-- Killing a continuous URB discards what is behind the array, too. -/
lemma killUrb_spec (hflags : (d.urbs urb).flags &&& usbdevfsUrbBulkContinuation ≠ 0)
    (hctx : (d.urbs urb).usercontext = .continuous n subUrbs) (hn : n < 2 ^ 8) :
    ∃ r, d.killUrb answer (some urb) = some r ∧
      Touched d r.2 ((List.range (n + 1)).map fun i => .discardUrb (subUrbs i)) []
        ((List.range (n + 1)).map fun i => ⟨.kill, urb, i⟩) := by
  rw [killUrb, if_neg hflags]
  exact overSubUrbs_le_requests .discardUrb hctx (by omega) fun d u =>
    .ioctl d answer (.discardUrb u)

/-- Resubmitting a continuous URB submits all its sub-URBs. -/
lemma resubmitUrb_spec (hflags : (d.urbs urb).flags &&& usbdevfsUrbBulkContinuation ≠ 0)
    (hctx : (d.urbs urb).usercontext = .continuous n subUrbs) (hn : n < 2 ^ 8) :
    ∃ r, d.resubmitUrb answer (some urb) = some r ∧
      Touched d r.2 ((List.range n).map fun i => .submitUrb (subUrbs i)) []
        ((List.range n).map fun i => ⟨.resubmit, urb, i⟩) := by
  have hreset := Touched.reset d urb
  have hctx' : ((d.modify urb .reset).urbs urb).usercontext = .continuous n subUrbs := by
    rw [hreset.usercontext, hctx]
  have hflags' : ((d.modify urb .reset).urbs urb).flags &&& usbdevfsUrbBulkContinuation > 0 := by
    rw [hreset.continuation]
    omega
  rw [resubmitUrb, if_pos hflags']
  have hbody : ∀ (d : BulkDevice) (u : ℕ),
      Touched d ((d.modify u .reset).submitUrb answer u).2 [.submitUrb u] [] [] :=
    fun d u => (Touched.reset d u).trans (.submitUrb _ answer u)
  obtain ⟨r, hr, htouched⟩ := overSubUrbs_lt_requests .submitUrb hctx' hn hbody
  exact ⟨r, hr, hreset.trans htouched⟩

/-- Discarding a continuous URB of the pool discards all its sub-URBs. -/
lemma discardBulkUrb_spec (hflags : (d.urbs urb).flags &&& usbdevfsUrbBulkContinuation ≠ 0)
    (hctx : (d.urbs urb).usercontext = .continuous n subUrbs) (hn : n < 2 ^ 8) :
    ∃ r, d.discardBulkUrb answer urb = some r ∧
      Touched d r.2 ((List.range n).map fun i => .discardUrb (subUrbs i)) []
        ((List.range n).map fun i => ⟨.discard, urb, i⟩) := by
  rw [discardBulkUrb, if_neg hflags]
  exact overSubUrbs_lt_requests .discardUrb hctx (by omega) fun d u =>
    .ioctl d answer (.discardUrb u)

/-- If all sub-URBs are accepted, the URB goes into the pool. -/
lemma submitBuilt_accepted (hctx : (d.urbs urb).usercontext = .continuous n subUrbs)
    (hn : n < 2 ^ 8) (haccepted : ∀ k < n, 0 ≤ answer (d.log.length + k)) :
    ∃ d', d.submitBuilt answer urb = some (true, d'.addToPool urb) ∧
      Touched d d' ((List.range n).map fun i => .submitUrb (subUrbs i)) []
        ((List.range n).map fun i => ⟨.submit, urb, i⟩) := by
  obtain ⟨r, hr, htouched, hok⟩ := submitSubUrbs_spec answer hctx hn
  have htrue := hok.mpr haccepted
  refine ⟨r.2, ?_, htouched⟩
  rw [submitBuilt, hr, Option.bind_some]
  simp only [htrue, if_true]

/-- If one of them is not, they are all discarded and deleted. -/
lemma submitBuilt_refused (hctx : (d.urbs urb).usercontext = .continuous n subUrbs)
    (hn : n + 1 < 2 ^ 8) (hrefused : ¬ ∀ k < n, 0 ≤ answer (d.log.length + k)) :
    ∃ d', d.submitBuilt answer urb = some (false, d') ∧
      Touched d d' (((List.range n).map fun i => .submitUrb (subUrbs i)) ++
          (List.range (n + 1)).map fun i => .discardUrb (subUrbs i))
        (continuousBlocks urb (d.urbs urb).buffer.block n subUrbs)
        (((List.range n).map fun i => ⟨.submit, urb, i⟩) ++
          (((List.range (n + 1)).map fun i => ⟨.cleanUp, urb, i⟩) ++
            (List.range n).map fun i => ⟨.delete, urb, i⟩)) := by
  obtain ⟨r, hr, htouched, hok⟩ := submitSubUrbs_spec answer hctx (by omega)
  have hfalse : r.1 = false := Bool.eq_false_iff.mpr (mt hok.mp hrefused)
  obtain ⟨r₁, hr₁, htouched₁⟩ :=
    discardSubUrbs_spec answer ((htouched.usercontext urb).trans hctx) hn
  have hboth := htouched.trans htouched₁
  obtain ⟨d₂, hd₂, htouched₂⟩ :=
    deleteContinuousBulkUrb_spec ((hboth.usercontext urb).trans hctx) (by omega)
  refine ⟨d₂, ?_, ?_⟩
  · rw [submitBuilt, hr, Option.bind_some]
    simp only [hfalse, Bool.false_eq_true, if_false]
    rw [hr₁, Option.bind_some]
    simp only [hd₂, Option.map_some]
  · have h := hboth.trans htouched₂
    rw [hboth.buffer urb, List.append_nil, List.append_nil, List.nil_append,
      List.append_assoc] at h
    exact h

/-- With 255 sub-URBs, that does not end. -/
lemma submitBuilt_eq_none (hctx : (d.urbs urb).usercontext = .continuous n subUrbs)
    (hn : n < 2 ^ 8) (hn' : 2 ^ 8 ≤ n + 1)
    (hrefused : ¬ ∀ k < n, 0 ≤ answer (d.log.length + k)) :
    d.submitBuilt answer urb = none := by
  obtain ⟨r, hr, htouched, hok⟩ := submitSubUrbs_spec answer hctx hn
  have hfalse : r.1 = false := Bool.eq_false_iff.mpr (mt hok.mp hrefused)
  rw [submitBuilt, hr, Option.bind_some]
  simp only [hfalse, Bool.false_eq_true, if_false]
  rw [discardSubUrbs_eq_none answer ((htouched.usercontext urb).trans hctx) hn', Option.bind_none]

end Calls

end BulkDevice

end UsbTv
