import UsbTv.Lib.Access
import UsbTv.Device.SelfExit
import UsbTv.Driver.BufferBounds

set_option relaxedAutoImplicit false
set_option autoImplicit false

/-!
# The life of a driver object

The constructor of `UsbTvDriver` leaves `_usbInputFrame`, `_input` and the two frame counters
unassigned. `startStreaming` assigns them, the pointer only once all registers are written. Whether
`stopStreaming`, `setTvInput` or the destructor reads one of them before depends on the starts that
came first, and on how far they got.

Every call is given with its accesses to these members, in the order of the source.

## Main definitions

* `UsbTv.UsbTvDriver.setTvInput`, `clearFrameLock`, `destruct` — the other public calls.
* `UsbTv.UsbTvDriver.startAccesses`, `stopAccesses` and the others — what the calls read and write.
* `UsbTv.lifetimes` — all runs of a driver object, from its constructor to its destructor.
* `UsbTv.Lifetime.Prepared` — the calls come after starts that got far enough.

## Main results

* `UsbTv.Lifetime.defined_iff_prepared` — which calls read unassigned members.
* `UsbTv.Lifetime.destruct_misreads` — a destructor that does.
-/

namespace UsbTv

/-- The members that the constructor does not assign, but for `_frameParams`, which is only read
while a stream is active. -/
inductive Member
  | usbInputFrame
  | input
  | droppedFrameCounter
  | incompleteFrameCounter
  deriving DecidableEq, Repr

namespace UsbTvDriver

/-! ## The other public calls -/

/-- `setTvInput`. It keeps the input even if the registers cannot be written. -/
def setTvInput (d : UsbTvDriver) (answer : ℕ → ℤ) (input : ℤ) : Bool × UsbTvDriver :=
  if input = 0 then
    let changed := { d with input := .usbtvCompositeInput }
    if d.streamActive = true ∧ d.input ≠ .usbtvCompositeInput then
      setRegisters answer compositeInput changed
    else (true, changed)
  else if input = 1 then
    let changed := { d with input := .usbtvSvideoInput }
    if d.streamActive = true ∧ d.input ≠ .usbtvSvideoInput then
      setRegisters answer svideoInput changed
    else (true, changed)
  else (false, d)

/-- `clearFrameLock`. An index outside the pool is undefined. -/
def clearFrameLock (d : UsbTvDriver) (framePoolIndex : ℤ) : Option (Bool × UsbTvDriver) :=
  match d.framePool with
  | some pool =>
    if 0 ≤ framePoolIndex ∧ framePoolIndex < d.framePoolSize then
      some (true, { d with
        framePool := some (Function.update pool framePoolIndex.toNat
          { pool framePoolIndex.toNat with lock := false }) })
    else none
  | none => some (false, d)

/-- `~UsbTvDriver`, with `delete _usbConnection`. -/
def destruct (d : UsbTvDriver) (answer : ℕ → ℤ) : Option UsbTvDriver :=
  if d.initialized then
    (if d.streamActive then d.stopStreaming answer else some d).map fun d =>
      { d with usbConnection := d.usbConnection.destruct }
  else some d

/-! ## Accesses -/

/-- The accesses of `stopStreaming`. An indeterminate pointer is taken not to be null. -/
def stopAccesses (d : UsbTvDriver) : List (Access Member) :=
  if d.initialized then
    [.read .usbInputFrame] ++
      (if d.usbInputFrame = .null then []
        else [.read .usbInputFrame, .write .usbInputFrame]) ++
      [.read .droppedFrameCounter, .read .incompleteFrameCounter]
  else []

/-- The accesses of `startStreaming` once the registers are written. -/
def openAccesses (d : UsbTvDriver) (answer : ℕ → ℤ) : List (Access Member) :=
  match d.allocateFramePool.bind fetchInputFrame with
  | none => []
  | some d =>
    [.write .usbInputFrame] ++
      if d.frameProcessThread = true then
        ({ d with processThreadRunning := false }).stopAccesses
      else
        let d := { d with processThreadRunning := true, frameProcessThread := true }
        match d.setInterface answer 0 1 with
        | (false, d) => d.stopAccesses
        | (true, d) =>
          match d.usbConnection.initIsoUrbs answer usbtvIsocTransfers with
          | (false, usb) => ({ d with usbConnection := usb }).stopAccesses
          | (true, usb) =>
            match usb.startUrbAsyncRead with
            | (false, usb) => ({ d with usbConnection := usb }).stopAccesses
            | (true, _) => []

/-- The accesses of `startStreaming`. `parseStreamingParams` writes `_input`, and the `switch` for
its registers reads it. -/
def startAccesses (d : UsbTvDriver) (params : Java.DeviceParams) (answer : ℕ → ℤ) :
    List (Access Member) :=
  if d.initialized = true ∧ d.streamActive = false then
    [.write .droppedFrameCounter, .write .incompleteFrameCounter, .write .input] ++
      match (d.beginStream params).setInterface answer 0 0 with
      | (false, _) => []
      | (true, d) =>
        match setRegisters answer videoInit d with
        | (false, _) => []
        | (true, d) =>
          match setRegisters answer (normRegisters d.frameParams.norm) d with
          | (false, _) => []
          | (true, d) =>
            .read .input ::
              match setRegisters answer (inputRegisters d.input) d with
              | (false, _) => []
              | (true, d) => d.openAccesses answer
  else []

/-- The accesses of a packet, all that there may be. -/
def packetAccesses (d : UsbTvDriver) : List (Access Member) :=
  match d.assembler with
  | none => []
  | some _ =>
    [.read .usbInputFrame, .read .droppedFrameCounter, .write .droppedFrameCounter,
      .read .incompleteFrameCounter, .write .incompleteFrameCounter, .write .usbInputFrame]

/-- The accesses of `setTvInput`. -/
def inputAccesses (d : UsbTvDriver) (input : ℤ) : List (Access Member) :=
  .read .input ::
    if input = 0 ∨ input = 1 then
      .write .input :: if d.streamActive then [.read .input] else []
    else []

/-- The accesses of the destructor. -/
def destructAccesses (d : UsbTvDriver) : List (Access Member) :=
  if d.initialized = true ∧ d.streamActive = true then d.stopAccesses else []

end UsbTvDriver

open UsbTvDriver

/-! ## Runs -/

/-- The requests from the `n`-th one on succeed, as many as given. -/
def Succeed (answer : ℕ → ℤ) (n requests : ℕ) : Prop := ∀ k < requests, answer (n + k) = 0

instance (answer : ℕ → ℤ) (n requests : ℕ) : Decidable (Succeed answer n requests) :=
  inferInstanceAs (Decidable (∀ k < requests, _))

/-- The requests of a start up to the registers of the input all succeed. -/
def UsbTvDriver.Answered (d : UsbTvDriver) (params : Java.DeviceParams) (answer : ℕ → ℤ) : Prop :=
  Succeed answer d.usbConnection.log.length
    (registerRequests (nativeFrameParams params).norm (.cast params.mInput.ordinal)).length

instance (d : UsbTvDriver) (params : Java.DeviceParams) (answer : ℕ → ℤ) :
    Decidable (d.Answered params answer) :=
  inferInstanceAs (Decidable (Succeed _ _ _))

/-- A driver object, the accesses to its members so far, and how far its starts have got. -/
structure Lifetime where
  session : Session
  deleted : Bool
  trace : List (Access Member)
  /-- A start has found the driver inactive. -/
  parsed : Bool
  /-- A start has found the driver inactive, and has had its registers written. -/
  opened : Bool

/-- What can happen to a driver object. -/
inductive LifetimeEvent
  /-- A start, a stop, or a packet. -/
  | session (e : SessionEvent)
  | setTvInput (input : ℤ) (answer : ℕ → ℤ)
  | clearFrameLock (framePoolIndex : ℤ)
  /-- `delete usbtv`. -/
  | delete (answer : ℕ → ℤ)

namespace Lifetime

/-- The accesses of an event. -/
def accesses (s : Lifetime) : LifetimeEvent → List (Access Member)
  | .session (.startStreaming params answer) => s.session.driver.startAccesses params answer
  | .session .beginStop => []
  | .session (.endStop _) => s.session.driver.stopAccesses
  | .session (.packet _ _) => s.session.driver.packetAccesses
  | .setTvInput input _ => s.session.driver.inputAccesses input
  | .clearFrameLock _ => []
  | .delete _ => s.session.driver.destructAccesses

/-- The event is a start that finds the driver inactive. -/
def parses (s : Lifetime) : LifetimeEvent → Bool
  | .session (.startStreaming _ _) => !s.session.driver.streamActive
  | _ => false

/-- The event is a start that finds the driver inactive and has its registers written. -/
def opens (s : Lifetime) : LifetimeEvent → Bool
  | .session (.startStreaming params answer) =>
    !s.session.driver.streamActive && s.session.driver.Answered params answer
  | _ => false

/-- What an event does to the driver object. -/
def act (s : Lifetime) : LifetimeEvent → Option Session
  | .session e => s.session.step e
  | .setTvInput input answer =>
    if s.session.stopping then none
    else some ⟨(s.session.driver.setTvInput answer input).2, false⟩
  | .clearFrameLock framePoolIndex =>
    (s.session.driver.clearFrameLock framePoolIndex).map fun r => ⟨r.2, s.session.stopping⟩
  | .delete answer =>
    if s.session.stopping then none
    else (s.session.driver.destruct answer).map fun _ => s.session

/-- One event. -/
def step (s : Lifetime) (e : LifetimeEvent) : Option Lifetime :=
  if s.deleted then none
  else (s.act e).map fun session =>
    { session := session
      deleted := match e with
        | .delete _ => true
        | _ => false
      trace := s.trace ++ s.accesses e
      parsed := s.parsed || s.parses e
      opened := s.opened || s.opens e }

end Lifetime

/-- The runs of a driver object constructed with `params`. -/
def lifetimes (params : Java.DeviceParams) : StepSystem Lifetime LifetimeEvent where
  Init s := ∃ session, (sessions params).Init session ∧ s = ⟨session, false, [], false, false⟩
  step := Lifetime.step

namespace Lifetime

/-- The condition on a step: `stopStreaming`, and the destructor of an active driver, come after a
start that has had its registers written; `setTvInput` comes after a start that has found the
driver inactive. -/
def Prepared (s : Lifetime) : LifetimeEvent → Prop
  | .session (.endStop _) => s.opened = true
  | .setTvInput _ _ => s.parsed = true
  | .delete _ => s.session.driver.streamActive = true → s.opened = true
  | _ => True

instance (s : Lifetime) (e : LifetimeEvent) : Decidable (Prepared s e) :=
  match e with
  | .session (.endStop _) => inferInstanceAs (Decidable (_ = _))
  | .setTvInput _ _ => inferInstanceAs (Decidable (_ = _))
  | .delete _ => inferInstanceAs (Decidable (_ → _))
  | .session (.startStreaming _ _) | .session .beginStop | .session (.packet _ _)
  | .clearFrameLock _ => inferInstanceAs (Decidable True)

end Lifetime

/-! ## How far a start gets -/

lemma succeed_one {answer : ℕ → ℤ} {n : ℕ} : Succeed answer n 1 ↔ answer n = 0 := by
  simp [Succeed]

lemma succeed_add {answer : ℕ → ℤ} {n k m : ℕ} :
    Succeed answer n (k + m) ↔ Succeed answer n k ∧ Succeed answer (n + k) m := by
  constructor
  · intro h
    refine ⟨fun j hj => h j (by omega), fun j hj => ?_⟩
    rw [Nat.add_assoc]
    exact h (k + j) (by omega)
  · rintro ⟨hk, hm⟩ j hj
    by_cases hlt : j < k
    · exact hk j hlt
    · obtain ⟨i, rfl⟩ := Nat.exists_eq_add_of_le (not_lt.mp hlt)
      rw [← Nat.add_assoc]
      exact hm i (by omega)

namespace UsbTvDriver

lemma length_registerWrites (regs : List (ℕ × ℕ)) : (registerWrites regs).length = regs.length :=
  List.length_map _

/-- A register table is written if every write succeeds. -/
lemma setRegisters_fst (answer : ℕ → ℤ) (regs : List (ℕ × ℕ)) (d : UsbTvDriver) :
    (setRegisters answer regs d).1 = true ↔
      Succeed answer d.usbConnection.log.length regs.length := by
  induction regs generalizing d with
  | nil => simp [setRegisters, Succeed]
  | cons r regs ih =>
    obtain ⟨index, value⟩ := r
    rw [List.length_cons, Nat.add_comm, succeed_add, succeed_one]
    by_cases hret : answer d.usbConnection.log.length = 0
    · have heq : setRegisters answer ((index, value) :: regs) d = setRegisters answer regs
          (d.withLog (d.usbConnection.log ++ [.control value index])) := by
        simp [setRegisters, AndroidUsbDevice.controlTransfer, AndroidUsbDevice.ioctl, hret, withLog]
      rw [heq, ih]
      simp only [hret, true_and, withLog, List.length_append, List.length_singleton]
    · have hfalse : (answer d.usbConnection.log.length == 0) = false := by simpa using hret
      simp only [setRegisters, AndroidUsbDevice.controlTransfer, AndroidUsbDevice.ioctl, hfalse,
        Bool.false_eq_true, hret, false_and]

lemma setRegisters_of_succeed {answer : ℕ → ℤ} {regs : List (ℕ × ℕ)} {d : UsbTvDriver}
    (h : Succeed answer d.usbConnection.log.length regs.length) :
    setRegisters answer regs d =
      (true, d.withLog (d.usbConnection.log ++ registerWrites regs)) := by
  have hsuccess := (setRegisters_fst answer regs d).mpr h
  rcases setRegisters_cases answer regs d with ⟨log, hfail⟩ | heq
  · rw [hfail] at hsuccess
    exact absurd hsuccess (by simp)
  · exact heq

lemma setRegisters_of_not_succeed {answer : ℕ → ℤ} {regs : List (ℕ × ℕ)} {d : UsbTvDriver}
    (h : ¬ Succeed answer d.usbConnection.log.length regs.length) :
    ∃ log, setRegisters answer regs d = (false, d.withLog log) := by
  rcases setRegisters_cases answer regs d with hfail | heq
  · exact hfail
  · exact absurd ((setRegisters_fst answer regs d).mp (by rw [heq])) h

/-- The requests of a start, table by table. -/
lemma answered_iff {d : UsbTvDriver} {params : Java.DeviceParams} {answer : ℕ → ℤ} :
    d.Answered params answer ↔
      ((Succeed answer d.usbConnection.log.length 1 ∧
        Succeed answer (d.usbConnection.log.length + 1) videoInit.length) ∧
        Succeed answer (d.usbConnection.log.length + (1 + videoInit.length))
          (normRegisters (nativeFrameParams params).norm).length) ∧
        Succeed answer (d.usbConnection.log.length + (1 + videoInit.length +
          (normRegisters (nativeFrameParams params).norm).length))
          (inputRegisters (.cast params.mInput.ordinal)).length := by
  unfold Answered registerRequests
  rw [List.length_append, List.length_append, List.length_append, succeed_add, succeed_add,
    succeed_add]
  simp only [length_registerWrites, List.length_singleton]

/-- **How far a start gets.** If its requests up to the registers of the input all succeed, it gets
to the pool. Otherwise it fails before. -/
lemma startStreaming_cases_answered {d : UsbTvDriver} (hinit : d.initialized = true)
    (hactive : d.streamActive = false) (params : Java.DeviceParams) (answer : ℕ → ℤ) :
    (d.Answered params answer ∧
      d.startStreaming params answer =
        ((d.beginStream params).withLog (d.registerLog params)).openStream answer ∧
      d.startAccesses params answer =
        [.write .droppedFrameCounter, .write .incompleteFrameCounter, .write .input,
          .read .input] ++
          ((d.beginStream params).withLog (d.registerLog params)).openAccesses answer) ∨
    ¬ d.Answered params answer ∧ ∃ log active tail,
      d.startStreaming params answer =
        some (false, { (d.beginStream params).withLog log with streamActive := active }) ∧
      d.startAccesses params answer =
        [.write .droppedFrameCounter, .write .incompleteFrameCounter, .write .input] ++ tail ∧
      (tail = [] ∨ tail = [.read .input]) := by
  rw [answered_iff, startStreaming, startAccesses, if_pos ⟨hinit, hactive⟩,
    if_pos ⟨hinit, hactive⟩, setInterface_eq]
  have hlog : (d.beginStream params).usbConnection.log = d.usbConnection.log := rfl
  have hnorm : (d.beginStream params).frameParams.norm = (nativeFrameParams params).norm := rfl
  have hinput : (d.beginStream params).input = .cast params.mInput.ordinal := rfl
  have hbegun : (d.beginStream params).streamActive = true := rfl
  rw [hlog, registerLog, registerRequests, ← hnorm, ← hinput]
  generalize d.beginStream params = b at hbegun ⊢
  -- alternate setting 0
  by_cases h₀ : Succeed answer d.usbConnection.log.length 1
  swap
  · have hfalse : (answer d.usbConnection.log.length == 0) = false := by
      rw [succeed_one] at h₀
      simpa using h₀
    simp only [hfalse]
    refine .inr ⟨fun h => h₀ h.1.1.1, d.usbConnection.log ++ [.setInterface 0 0], true, [], ?_, rfl,
      .inl rfl⟩
    rw [← hbegun]
    rfl
  have htrue : (answer d.usbConnection.log.length == 0) = true := by
    rw [succeed_one] at h₀
    simpa using h₀
  simp only [htrue]
  -- the registers of the device
  set log₁ := d.usbConnection.log ++ [.setInterface 0 0] with hlog₁
  have hlen₁ : log₁.length = d.usbConnection.log.length + 1 := by simp [hlog₁]
  by_cases h₁ : Succeed answer (d.usbConnection.log.length + 1) videoInit.length
  swap
  · obtain ⟨log, heq⟩ := setRegisters_of_not_succeed (d := b.withLog log₁) (hlen₁ ▸ h₁)
    simp only [heq]
    exact .inr ⟨fun h => h₁ h.1.1.2, log, false, [], rfl, rfl, .inl rfl⟩
  set log₂ := log₁ ++ registerWrites videoInit with hlog₂
  have heq₁ : setRegisters answer videoInit (b.withLog log₁) = (true, b.withLog log₂) :=
    setRegisters_of_succeed (d := b.withLog log₁) (hlen₁ ▸ h₁)
  simp only [heq₁]
  -- those of the norm
  have hlen₂ : log₂.length = d.usbConnection.log.length + (1 + videoInit.length) := by
    rw [hlog₂, List.length_append, hlen₁, length_registerWrites, Nat.add_assoc]
  by_cases h₂ : Succeed answer (d.usbConnection.log.length + (1 + videoInit.length))
    (normRegisters b.frameParams.norm).length
  swap
  · have hfails : ¬ Succeed answer log₂.length
        (normRegisters (b.withLog log₂).frameParams.norm).length := hlen₂ ▸ h₂
    obtain ⟨log, heq⟩ := setRegisters_of_not_succeed (d := b.withLog log₂) hfails
    simp only [heq]
    exact .inr ⟨fun h => h₂ h.1.2, log, false, [], rfl, rfl, .inl rfl⟩
  set log₃ := log₂ ++ registerWrites (normRegisters b.frameParams.norm) with hlog₃
  have heq₂ : setRegisters answer (normRegisters (b.withLog log₂).frameParams.norm)
      (b.withLog log₂) = (true, b.withLog log₃) :=
    setRegisters_of_succeed (d := b.withLog log₂) (hlen₂ ▸ h₂)
  simp only [heq₂]
  -- those of the input
  have hlen₃ : log₃.length = d.usbConnection.log.length +
      (1 + videoInit.length + (normRegisters b.frameParams.norm).length) := by
    rw [hlog₃, List.length_append, hlen₂, length_registerWrites, Nat.add_assoc]
  by_cases h₃ : Succeed answer (d.usbConnection.log.length +
    (1 + videoInit.length + (normRegisters b.frameParams.norm).length))
    (inputRegisters b.input).length
  swap
  · have hfails : ¬ Succeed answer log₃.length
        (inputRegisters (b.withLog log₃).input).length := hlen₃ ▸ h₃
    obtain ⟨log, heq⟩ := setRegisters_of_not_succeed (d := b.withLog log₃) hfails
    simp only [heq]
    exact .inr ⟨fun h => h₃ h.2, log, false, [.read .input], rfl, rfl, .inr rfl⟩
  have heq₃ : setRegisters answer (inputRegisters (b.withLog log₃).input) (b.withLog log₃) =
      (true, b.withLog (log₃ ++ registerWrites (inputRegisters b.input))) :=
    setRegisters_of_succeed (d := b.withLog log₃) (hlen₃ ▸ h₃)
  simp only [heq₃]
  refine .inl ⟨⟨⟨⟨h₀, h₁⟩, h₂⟩, h₃⟩, ?_, ?_⟩
  · simp only [hlog₃, hlog₂, hlog₁, List.append_assoc]
  · simp only [hlog₃, hlog₂, hlog₁, List.append_assoc, List.cons_append, List.nil_append]

/-- The accesses of a `stopStreaming` that finds a frame to unlock. -/
def stopReads : List (Access Member) :=
  [.read .usbInputFrame, .read .usbInputFrame, .write .usbInputFrame, .read .droppedFrameCounter,
    .read .incompleteFrameCounter]

lemma stopAccesses_of_frame {d : UsbTvDriver} {i : ℕ} (hinit : d.initialized = true)
    (hframe : d.usbInputFrame = .frame i) : d.stopAccesses = stopReads := by
  simp [stopAccesses, hinit, hframe, stopReads]

/-- Once it has a pool, a start assigns `_usbInputFrame` before anything reads it. -/
lemma openAccesses_cases {d : UsbTvDriver} (hinit : d.initialized = true) (answer : ℕ → ℤ) :
    (d.openAccesses answer = [] ∧ d.openStream answer = none) ∨
      ∃ tail, d.openAccesses answer = .write .usbInputFrame :: tail ∧
        (tail = [] ∨ tail = stopReads) := by
  unfold openAccesses openStream
  cases hfetch : d.allocateFramePool.bind fetchInputFrame with
  | none => exact .inl ⟨rfl, rfl⟩
  | some d₂ =>
    refine .inr ⟨_, rfl, ?_⟩
    obtain ⟨hinit₂, i, hframe₂⟩ : d₂.initialized = true ∧ ∃ i, d₂.usbInputFrame = .frame i := by
      obtain ⟨d₁, halloc, hfetch⟩ := Option.bind_eq_some_iff.mp hfetch
      have hinit₁ : d₁.initialized = true := by
        unfold allocateFramePool at halloc
        split at halloc
        · obtain rfl := Option.some_inj.mp halloc
          exact hinit
        · obtain ⟨pool, -, rfl⟩ := Option.map_eq_some_iff.mp halloc
          exact hinit
      unfold fetchInputFrame at hfetch
      split at hfetch
      · exact absurd hfetch (by simp)
      · obtain ⟨i, -, rfl⟩ := Option.map_eq_some_iff.mp hfetch
        exact ⟨hinit₁, i, rfl⟩
    have hstop : ∀ d : UsbTvDriver, d.initialized = d₂.initialized →
        d.usbInputFrame = d₂.usbInputFrame → d.stopAccesses = [] ∨ d.stopAccesses = stopReads :=
      fun d hi hf => .inr (stopAccesses_of_frame (hi.trans hinit₂) (hf.trans hframe₂))
    dsimp only
    split_ifs
    · exact hstop _ rfl rfl
    · split
      · next heq =>
        rw [setInterface_eq, Prod.mk.injEq] at heq
        obtain ⟨-, rfl⟩ := heq
        exact hstop _ rfl rfl
      · next heq =>
        rw [setInterface_eq, Prod.mk.injEq] at heq
        obtain ⟨-, rfl⟩ := heq
        split
        · exact hstop _ rfl rfl
        · split
          · exact hstop _ rfl rfl
          · exact .inl rfl

/-- Writing registers changes the record of requests only. -/
lemma setRegisters_withLog (answer : ℕ → ℤ) (regs : List (ℕ × ℕ)) (d : UsbTvDriver) :
    ∃ log, (setRegisters answer regs d).2 = d.withLog log := by
  rcases setRegisters_cases answer regs d with ⟨log, heq⟩ | heq
  · exact ⟨log, by rw [heq]⟩
  · exact ⟨_, by rw [heq]⟩

/-- `setTvInput` changes the input and the record of requests only. -/
lemma setTvInput_eq (d : UsbTvDriver) (answer : ℕ → ℤ) (input : ℤ) :
    ∃ log tvInput, (d.setTvInput answer input).2 = { d.withLog log with input := tvInput } := by
  have hset : ∀ (regs : List (ℕ × ℕ)) (tvInput : TvInput),
      ∃ log, (setRegisters answer regs { d with input := tvInput }).2 =
        { d.withLog log with input := tvInput } :=
    fun regs tvInput => setRegisters_withLog answer regs { d with input := tvInput }
  have hsame : ∀ tvInput : TvInput, ({ d with input := tvInput } : UsbTvDriver) =
      { d.withLog d.usbConnection.log with input := tvInput } := fun _ => rfl
  unfold setTvInput
  dsimp only
  split_ifs
  · obtain ⟨log, heq⟩ := hset compositeInput .usbtvCompositeInput
    exact ⟨log, _, heq⟩
  · exact ⟨_, _, hsame _⟩
  · obtain ⟨log, heq⟩ := hset svideoInput .usbtvSvideoInput
    exact ⟨log, _, heq⟩
  · exact ⟨_, _, hsame _⟩
  · exact ⟨_, _, hsame d.input⟩

end UsbTvDriver

namespace Lifetime

/-! ## What holds in every run -/

/-- The members that are assigned. -/
def assignedMembers (s : Lifetime) : Set Member :=
  {m | match m with
    | .usbInputFrame => s.opened = true
    | .input | .droppedFrameCounter | .incompleteFrameCounter => s.parsed = true}

/-- What holds of a driver object between any two events. -/
structure Sound (s : Lifetime) : Prop where
  wellFormed : WellFormed s.session
  defined : Access.Defined ∅ s.trace
  assigned : Access.assigned ∅ s.trace = s.assignedMembers
  parsed : s.opened = true → s.parsed = true
  indeterminate : s.session.driver.usbInputFrame = .indeterminate ↔ s.opened = false
  /-- `_usbInputFrame` is null or points to a frame of the current pool. -/
  pointer : ∀ i, s.session.driver.usbInputFrame = .frame i →
    ∃ pool, s.session.driver.framePool = some pool ∧ i < s.session.driver.framePoolSize

/-- `stopStreaming` reads only what is assigned if a start has had its registers written. -/
lemma Sound.defined_stopAccesses {s : Lifetime} (hs : Sound s) :
    Access.Defined s.assignedMembers s.session.driver.stopAccesses ↔ s.opened = true := by
  cases hopened : s.opened with
  | true =>
    have hparsed := hs.parsed hopened
    refine iff_of_true ?_ rfl
    unfold stopAccesses
    split_ifs <;> simp [assignedMembers, hopened, hparsed]
  | false =>
    have hinput := hs.indeterminate.mpr hopened
    simp [stopAccesses, hs.wellFormed.initialized, hinput, assignedMembers, hopened]

/-- A start reads only what it has assigned itself. -/
lemma defined_startAccesses (A : Set Member) (d : UsbTvDriver) (params : Java.DeviceParams)
    (answer : ℕ → ℤ) : Access.Defined A (d.startAccesses params answer) := by
  by_cases hstart : d.initialized = true ∧ d.streamActive = false
  · obtain ⟨hinit, hactive⟩ := hstart
    rcases startStreaming_cases_answered hinit hactive params answer with
      ⟨-, -, heq⟩ | ⟨-, log, active, tail, -, heq, htail⟩
    · rw [heq]
      rcases openAccesses_cases (d := (d.beginStream params).withLog (d.registerLog params)) hinit
        answer with ⟨hnil, -⟩ | ⟨tail, htail, hstop⟩
      · rw [hnil]
        simp
      · rw [htail]
        rcases hstop with rfl | rfl <;> simp [stopReads]
    · rw [heq]
      rcases htail with rfl | rfl <;> simp
  · rw [startAccesses, if_neg hstart]
    trivial

/-- **Which events read unassigned members.** -/
lemma Sound.defined_accesses {s : Lifetime} (hs : Sound s) (e : LifetimeEvent) :
    Access.Defined s.assignedMembers (s.accesses e) ↔ Prepared s e := by
  cases e with
  | session e =>
    cases e with
    | startStreaming params answer => exact iff_of_true (defined_startAccesses _ _ _ _) trivial
    | beginStop => exact iff_of_true trivial trivial
    | endStop answer => exact hs.defined_stopAccesses
    | packet packet answer =>
      refine iff_of_true ?_ trivial
      show Access.Defined _ s.session.driver.packetAccesses
      unfold packetAccesses
      split
      · trivial
      · next a ha =>
        have hopened : s.opened = true := by
          by_contra hopened
          have hinput := hs.indeterminate.mpr (by simpa using hopened)
          unfold UsbTvDriver.assembler at ha
          rw [hinput] at ha
          split at ha
          · next heq => exact absurd heq (by simp)
          · exact absurd ha (by simp)
        simp [assignedMembers, hopened, hs.parsed hopened]
  | setTvInput input answer =>
    show Access.Defined _ (s.session.driver.inputAccesses input) ↔ s.parsed = true
    unfold inputAccesses
    rw [Access.defined_read]
    refine ⟨fun h => h.1, fun h => ⟨h, ?_⟩⟩
    split_ifs <;> simp
  | clearFrameLock framePoolIndex => exact iff_of_true trivial trivial
  | delete answer =>
    show Access.Defined _ s.session.driver.destructAccesses ↔ (_ → _)
    unfold destructAccesses
    by_cases hactive : s.session.driver.streamActive = true
    · rw [if_pos ⟨hs.wellFormed.initialized, hactive⟩, hs.defined_stopAccesses]
      simp [hactive]
    · rw [if_neg (by simp [hactive])]
      simp [hactive]

/-- A start that returns has written all members, if its registers were written, and otherwise all
but the pointer. -/
lemma write_mem_startAccesses {d : UsbTvDriver} {params : Java.DeviceParams} {answer : ℕ → ℤ}
    (hinit : d.initialized = true) (hreturns : d.startStreaming params answer ≠ none) (m : Member) :
    .write m ∈ d.startAccesses params answer ↔
      d.streamActive = false ∧ (m = .usbInputFrame → d.Answered params answer) := by
  cases hactive : d.streamActive with
  | true => simp [startAccesses, hactive]
  | false =>
    rcases startStreaming_cases_answered hinit hactive params answer with
      ⟨hanswered, hopen, heq⟩ | ⟨hrefused, log, active, tail, -, heq, htail⟩
    · rw [hopen] at hreturns
      rcases openAccesses_cases (d := (d.beginStream params).withLog (d.registerLog params)) hinit
        answer with ⟨-, hnone⟩ | ⟨tail, htail, -⟩
      · exact absurd hnone hreturns
      · rw [heq, htail]
        cases m <;> simp [hanswered]
    · rw [heq]
      rcases htail with rfl | rfl <;> cases m <;> simp [hrefused]

lemma write_mem_stopAccesses {d : UsbTvDriver} {m : Member} (h : .write m ∈ d.stopAccesses) :
    m = .usbInputFrame := by
  unfold stopAccesses at h
  split_ifs at h
  · simp at h
  · simpa using h
  · simp at h

/-- One event of a driver object that is not deleted. -/
lemma step_cases {s s' : Lifetime} {e : LifetimeEvent} (h : s.step e = some s') :
    ∃ session deleted, s.act e = some session ∧ s' =
      { session := session
        deleted := deleted
        trace := s.trace ++ s.accesses e
        parsed := s.parsed || s.parses e
        opened := s.opened || s.opens e } := by
  unfold step at h
  split_ifs at h
  obtain ⟨session, hact, rfl⟩ := Option.map_eq_some_iff.mp h
  exact ⟨session, _, hact, rfl⟩

/-- The members that are assigned after an event. -/
lemma Sound.assigned_accesses {s s' : Lifetime} {e : LifetimeEvent} (hs : Sound s)
    (hc : Prepared s e) (h : s.step e = some s') :
    Access.assigned s.assignedMembers (s.accesses e) = s'.assignedMembers := by
  obtain ⟨session, deleted, hact, rfl⟩ := step_cases h
  -- an event that is not a start assigns nothing new
  have hsame : s.parses e = false → s.opens e = false →
      (∀ m, .write m ∈ s.accesses e → m ∈ s.assignedMembers) →
      Access.assigned s.assignedMembers (s.accesses e) =
        assignedMembers ⟨session, deleted, s.trace ++ s.accesses e, s.parsed || s.parses e,
          s.opened || s.opens e⟩ := by
    intro hparses hopens hwrites
    ext m
    rw [Access.mem_assigned, hparses, hopens, Bool.or_false, Bool.or_false]
    exact ⟨fun hm => hm.elim id (hwrites m), .inl⟩
  cases e with
  | session e =>
    cases e with
    | startStreaming params answer =>
      have hreturns : s.session.driver.startStreaming params answer ≠ none := by
        intro hnone
        simp only [act, Session.step] at hact
        split_ifs at hact
        simp [hnone] at hact
      have hwrites := write_mem_startAccesses hs.wellFormed.initialized hreturns
      ext m
      rw [Access.mem_assigned, accesses, hwrites m]
      cases m <;> simp [assignedMembers, parses, opens]
    | beginStop => exact hsame rfl rfl (by simp [accesses])
    | endStop answer =>
      apply hsame rfl rfl
      intro m hm
      rw [write_mem_stopAccesses hm]
      exact hc
    | packet packet answer =>
      apply hsame rfl rfl
      intro m hm
      have hdefined := (hs.defined_accesses (.session (.packet packet answer))).mpr trivial
      simp only [accesses, packetAccesses] at hm hdefined
      split at hm
      · simp at hm
      · next heq =>
        rw [heq] at hdefined
        simp only [Access.defined_read, Access.defined_write] at hdefined
        have hopened : s.opened = true := hdefined.1
        have hparsed := hs.parsed hopened
        cases m <;> simp [assignedMembers, hopened, hparsed]
  | setTvInput input answer =>
    apply hsame rfl rfl
    intro m hm
    have hparsed : s.parsed = true := hc
    simp only [accesses, inputAccesses] at hm
    split_ifs at hm <;> simp at hm
    · rw [hm]
      exact hparsed
    · rw [hm]
      exact hparsed
  | clearFrameLock framePoolIndex => exact hsame rfl rfl (by simp [accesses])
  | delete answer =>
    apply hsame rfl rfl
    intro m hm
    simp only [accesses, destructAccesses] at hm
    split_ifs at hm with hguard
    · rw [write_mem_stopAccesses hm]
      exact hc hguard.2
    · simp at hm

/-- What a start leaves in `_usbInputFrame`: nothing new if its registers were not written, and
otherwise null or a frame of its pool. -/
lemma usbInputFrame_of_startStreaming {d d' : UsbTvDriver} {params : Java.DeviceParams}
    {answer : ℕ → ℤ} {ok : Bool} (hinit : d.initialized = true) (hd : d.Idle)
    (h : d.startStreaming params answer = some (ok, d')) :
    ¬ d.Answered params answer ∧ d'.usbInputFrame = d.usbInputFrame ∧
        d'.framePool = d.framePool ∨
      d.Answered params answer ∧ (d'.usbInputFrame = .null ∨ d'.usbInputFrame = .frame 0 ∧
        0 < d'.framePoolSize ∧ ∃ pool, d'.framePool = some pool) := by
  rcases startStreaming_cases_answered hinit hd.streamActive params answer with
    ⟨hanswered, hopen, -⟩ | ⟨hrefused, log, active, tail, hfail, -⟩
  · rw [hopen] at h
    obtain ⟨hpos, -, ⟨-, usb, -, rfl⟩ | ⟨-, usb, -, rfl⟩⟩ :=
      openStream_cases (d := (d.beginStream params).withLog (d.registerLog params)) hinit
        hd.framePool hd.frameProcessThread
        ⟨hd.urbThread, hd.urbThreadRunning, hd.isoUrbsSubmitted⟩ h
    · exact .inr ⟨hanswered, .inl rfl⟩
    · exact .inr ⟨hanswered, .inr ⟨rfl, hpos, _, rfl⟩⟩
  · rw [hfail, Option.some_inj, Prod.mk.injEq] at h
    obtain ⟨-, rfl⟩ := h
    exact .inl ⟨hrefused, rfl, rfl⟩

/-- The steps of starts, stops and packets keep the pointer sound. -/
lemma Sound.sessionStep {s : Lifetime} {session : Session} {e : SessionEvent} (hs : Sound s)
    (hc : Prepared s (.session e)) (h : s.session.step e = some session) :
    (session.driver.usbInputFrame = .indeterminate ↔
        (s.opened || s.opens (.session e)) = false) ∧
      ∀ i, session.driver.usbInputFrame = .frame i →
        ∃ pool, session.driver.framePool = some pool ∧ i < session.driver.framePoolSize := by
  have hw := hs.wellFormed
  cases e with
  | startStreaming params answer =>
    rcases hw.step_cases h with ⟨hactive, rfl⟩ | ⟨hactive, hidle, ok, d', hd', rfl⟩
    · simp only [opens, hactive, Bool.not_true, Bool.false_and, Bool.or_false]
      exact ⟨hs.indeterminate, hs.pointer⟩
    · simp only [opens, hactive, Bool.not_false, Bool.true_and]
      rcases usbInputFrame_of_startStreaming hw.initialized hidle hd' with
        ⟨hrefused, hinput, hpool⟩ | ⟨hanswered, hinput | ⟨hinput, hpos, pool, hpool⟩⟩
      · rw [hinput, hpool, decide_eq_false hrefused, Bool.or_false]
        refine ⟨hs.indeterminate, fun i hi => ?_⟩
        obtain ⟨pool, hsome, -⟩ := hs.pointer i hi
        exact absurd (hidle.framePool.symm.trans hsome) (by simp)
      · simp [hinput, hanswered]
      · refine ⟨by simp [hinput, hanswered], fun i hi => ?_⟩
        rw [hinput] at hi
        obtain rfl := FramePtr.frame.inj hi
        exact ⟨pool, hpool, hpos⟩
  | beginStop =>
    obtain ⟨-, rfl⟩ := hw.step_cases h
    simp only [opens, Bool.or_false]
    exact ⟨hs.indeterminate, hs.pointer⟩
  | endStop answer =>
    obtain ⟨usb, -, rfl⟩ := hw.step_cases h
    have hopened : s.opened = true := hc
    simp [stopped, hopened]
  | packet packet answer =>
    obtain ⟨hnext, a, ha, rfl⟩ := hw.step_cases h
    have hinput : s.session.driver.usbInputFrame = .frame a.usbInputFrame := by
      unfold UsbTvDriver.assembler at ha
      split at ha
      · next i _ hi =>
        obtain rfl := Option.some_inj.mp ha
        exact hi
      · exact absurd ha (by simp)
    have hopened : s.opened = true := by
      by_contra hopened
      have hnone := hs.indeterminate.mpr (by simpa using hopened)
      exact absurd (hnone.symm.trans hinput) (by simp)
    obtain ⟨-, -, hlt⟩ := hs.pointer _ hinput
    refine ⟨by simp [withAssembler, hopened], fun i hi => ⟨_, rfl, ?_⟩⟩
    obtain rfl := FramePtr.frame.inj hi
    exact Assembler.processPacket_usbInputFrame_lt (fun _ => answer) hlt (fun _ => hnext) packet

/-- A driver with another input and another record of requests is as well formed. -/
lemma wellFormed_withInput {d : UsbTvDriver} {stopping : Bool} (h : WellFormed ⟨d, stopping⟩)
    (log : List Ioctl) (input : TvInput) :
    WellFormed ⟨{ d.withLog log with input := input }, stopping⟩ := by
  have hcons := h.consistent
  refine ⟨h.initialized, ⟨hcons.processThread, hcons.urbThread, hcons.counted⟩,
    fun hstop hact => ?_⟩
  have hidle := h.idle hstop hact
  exact ⟨hidle.streamActive, hidle.framePool, hidle.frameProcessThread, hidle.processThreadRunning,
    hidle.urbThread, hidle.urbThreadRunning, hidle.isoUrbsSubmitted⟩

/-- What an event does to the driver object keeps it sound. -/
lemma Sound.act {s : Lifetime} {session : Session} {e : LifetimeEvent} (hs : Sound s)
    (hc : Prepared s e) (h : s.act e = some session) :
    WellFormed session ∧
      (session.driver.usbInputFrame = .indeterminate ↔ (s.opened || s.opens e) = false) ∧
      ∀ i, session.driver.usbInputFrame = .frame i →
        ∃ pool, session.driver.framePool = some pool ∧ i < session.driver.framePoolSize := by
  cases e with
  | session e => exact ⟨wellFormed_step hs.wellFormed h, hs.sessionStep hc h⟩
  | setTvInput input answer =>
    simp only [Lifetime.act] at h
    split_ifs at h with hstop
    obtain rfl := Option.some_inj.mp h
    obtain ⟨log, tvInput, heq⟩ := s.session.driver.setTvInput_eq answer input
    rw [heq, show s.opens (.setTvInput input answer) = false from rfl, Bool.or_false]
    have hw : WellFormed ⟨s.session.driver, false⟩ := by
      rw [Bool.not_eq_true] at hstop
      rw [← hstop]
      exact hs.wellFormed
    exact ⟨wellFormed_withInput hw log tvInput, hs.indeterminate, hs.pointer⟩
  | clearFrameLock framePoolIndex =>
    obtain ⟨⟨success, d⟩, hclear, rfl⟩ := Option.map_eq_some_iff.mp h
    rw [show s.opens (.clearFrameLock framePoolIndex) = false from rfl, Bool.or_false]
    have hw := hs.wellFormed
    unfold UsbTvDriver.clearFrameLock at hclear
    split at hclear
    · next pool hpool =>
      split_ifs at hclear
      obtain ⟨-, rfl⟩ := Prod.mk.inj (Option.some_inj.mp hclear)
      refine ⟨⟨hw.initialized, ⟨hw.consistent.processThread, hw.consistent.urbThread,
        hw.consistent.counted⟩, fun hstop hact => ?_⟩, hs.indeterminate, fun i hi => ⟨_, rfl, ?_⟩⟩
      · exact absurd (hpool.symm.trans (hw.idle hstop hact).framePool) (by simp)
      · obtain ⟨-, -, hlt⟩ := hs.pointer i hi
        exact hlt
    · obtain ⟨-, rfl⟩ := Prod.mk.inj (Option.some_inj.mp hclear)
      exact ⟨hw, hs.indeterminate, hs.pointer⟩
  | delete answer =>
    simp only [Lifetime.act] at h
    split_ifs at h
    obtain ⟨d, -, rfl⟩ := Option.map_eq_some_iff.mp h
    rw [show s.opens (.delete answer) = false from rfl, Bool.or_false]
    exact ⟨hs.wellFormed, hs.indeterminate, hs.pointer⟩

/-- **Each event that meets the condition keeps the object sound.** -/
lemma sound_step {s s' : Lifetime} {e : LifetimeEvent} (hs : Sound s) (hc : Prepared s e)
    (h : s.step e = some s') : Sound s' := by
  have hassigned := hs.assigned_accesses hc h
  have hdefined := (hs.defined_accesses e).mpr hc
  obtain ⟨session, deleted, hact, rfl⟩ := step_cases h
  obtain ⟨hw, hindeterminate, hpointer⟩ := hs.act hc hact
  refine ⟨hw, ?_, ?_, fun hopened => ?_, hindeterminate, hpointer⟩
  · rw [Access.defined_append, hs.assigned]
    exact ⟨hs.defined, hdefined⟩
  · rw [Access.assigned_append, hs.assigned]
    exact hassigned
  · rcases Bool.or_eq_true_iff.mp hopened with hbefore | hopens
    · exact Bool.or_eq_true_iff.mpr (.inl (hs.parsed hbefore))
    · refine Bool.or_eq_true_iff.mpr (.inr ?_)
      cases e with
      | session e =>
        cases e with
        | startStreaming params answer => exact (Bool.and_eq_true_iff.mp hopens).1
        | beginStop | endStop | packet => exact absurd hopens (by simp [opens])
      | setTvInput | clearFrameLock | delete => exact absurd hopens (by simp [opens])

/-- In every run whose events meet the condition the object is sound. -/
lemma sound_of_reachable {params : Java.DeviceParams} {s : Lifetime}
    (h : (lifetimes params).ReachableUnder Prepared s) : Sound s := by
  refine StepSystem.ReachableUnder.invariant (I := Sound) ?_
    (fun s e s' _ hs hc hstep => sound_step hs hc hstep) h
  rintro s ⟨session, hinit, rfl⟩
  have hw := wellFormed_of_reachable (.init hinit : (sessions params).Reachable session)
  obtain ⟨frameParams, input, dropped, incomplete, rfl⟩ := hinit
  refine ⟨hw, trivial, ?_, by simp, by simp [UsbTvDriver.new], by simp [UsbTvDriver.new]⟩
  ext m
  cases m <;> simp [assignedMembers]

/-- **Which events read unassigned members.** In a run so far all of whose events were prepared, no
member was read before it was assigned; the next event reads none either if and only if it is
prepared; and `_usbInputFrame`, through which `stopStreaming` clears a lock, is null or points to a
frame of the current pool. -/
theorem defined_iff_prepared {params : Java.DeviceParams} {s : Lifetime}
    (h : (lifetimes params).ReachableUnder Prepared s) (e : LifetimeEvent) :
    Access.Defined ∅ s.trace ∧
      (Access.Defined ∅ (s.trace ++ s.accesses e) ↔ Prepared s e) ∧
      ∀ i, s.session.driver.usbInputFrame = .frame i →
        ∃ pool, s.session.driver.framePool = some pool ∧ i < s.session.driver.framePoolSize := by
  have hs := sound_of_reachable h
  refine ⟨hs.defined, ?_, hs.pointer⟩
  rw [Access.defined_append, hs.assigned]
  exact (and_iff_right hs.defined).trans (hs.defined_accesses e)

/-- The driver `firstDriver`, just made: nothing is assigned, and it was not deleted. -/
def firstLifetime : Lifetime := ⟨⟨firstDriver, false⟩, false, [], false, false⟩

lemma firstLifetime_init : (lifetimes Java.Builder.new.build).Init firstLifetime :=
  ⟨⟨firstDriver, false⟩, ⟨_, _, 0, 0, rfl⟩, rfl⟩

/-- A first stream starts, and the driver is deleted. -/
theorem defined_iff_prepared_firstStream :
    ∃ s, (lifetimes Java.Builder.new.build).ReachableUnder Prepared s ∧
      Access.Defined ∅ (s.trace ++ s.accesses (.delete fun _ => 0)) := by
  have h : ((lifetimes Java.Builder.new.build).runUnder Prepared firstLifetime
      [.session (.startStreaming Java.Builder.new.build fun _ => 0)]).map
      (fun s => decide (Prepared s (.delete fun _ => 0))) = some true := by decide
  obtain ⟨s, hrun, heq⟩ := Option.map_eq_some_iff.mp h
  have hs : (lifetimes Java.Builder.new.build).ReachableUnder Prepared s :=
    StepSystem.ReachableUnder.runUnder (.init firstLifetime_init) hrun
  exact ⟨s, hs, (defined_iff_prepared hs _).2.1.mpr (of_decide_eq_true heq)⟩

/-- **A destructor that reads an unassigned pointer**: the only start has failed at its first
request, for alternate setting 0, and has left `_streamActive` set. -/
theorem destruct_misreads :
    ¬ ∀ s, (lifetimes Java.Builder.new.build).Reachable s →
      ∀ e, Access.Defined ∅ (s.trace ++ s.accesses e) := by
  intro hclaim
  have h : ((lifetimes Java.Builder.new.build).run firstLifetime
      [.session (.startStreaming Java.Builder.new.build fun _ => -1)]).map
      (fun s => (s.trace, s.accesses (.delete fun _ => 0))) =
      some ([.write .droppedFrameCounter, .write .incompleteFrameCounter, .write .input],
        stopReads) := by decide
  obtain ⟨s, hrun, heq⟩ := Option.map_eq_some_iff.mp h
  obtain ⟨htrace, haccesses⟩ := Prod.mk.inj heq
  have hs : (lifetimes Java.Builder.new.build).Reachable s :=
    StepSystem.Reachable.run (.init firstLifetime_init) hrun
  have hdefined := hclaim s hs (.delete fun _ => 0)
  rw [htrace, haccesses] at hdefined
  simp [stopReads] at hdefined

end Lifetime

end UsbTv
