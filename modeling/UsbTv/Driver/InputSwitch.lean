import UsbTv.Driver.Lifetime

set_option relaxedAutoImplicit false
set_option autoImplicit false

/-!
# Switching the input of a running stream

`setTvInput` stores the new input before it writes the registers, and it writes them only if the
stored input changes. After a write that fails the device has a part of the new table, or none of
it, and the next call for the same input finds it stored already: it writes nothing and reports
success.

## Main definitions

* `UsbTv.UsbTvDriver.entriesWritten` — the entries of a table that a call has written.
* `UsbTv.inputSwitches` — all sequences of `setTvInput` calls on a stream that has started.
* `UsbTv.InputSwitches.DeviceAt` — the device is at an input.
* `UsbTv.InputSwitches.Retried` — no call asks for the stored input after a switch has failed.

## Main results

* `UsbTv.UsbTvDriver.setRegisters_spec` — how far a table is written.
* `UsbTv.InputSwitches.truthful_of_retried` — when `setTvInput` tells the truth.
-/

namespace UsbTv

namespace UsbTvDriver

/-! ## Writing a table -/

/-- **How far a table is written**: the first entries are, and the write after them fails unless
they are all. -/
lemma setRegisters_spec (answer : ℕ → ℤ) (regs : List (ℕ × ℕ)) (d : UsbTvDriver) :
    ∃ n ≤ regs.length, Succeed answer d.usbConnection.log.length n ∧
      (n < regs.length → answer (d.usbConnection.log.length + n) ≠ 0) ∧
      setRegisters answer regs d = (decide (n = regs.length),
        d.withLog (d.usbConnection.log ++ (registerWrites regs).take (n + 1))) := by
  induction regs generalizing d with
  | nil => exact ⟨0, le_rfl, by simp [Succeed], by simp, by
      simp [setRegisters, registerWrites, withLog]⟩
  | cons r regs ih =>
    obtain ⟨index, value⟩ := r
    by_cases hret : answer d.usbConnection.log.length = 0
    · have heq : setRegisters answer ((index, value) :: regs) d = setRegisters answer regs
          (d.withLog (d.usbConnection.log ++ [.control value index])) := by
        simp [setRegisters, AndroidUsbDevice.controlTransfer, AndroidUsbDevice.ioctl, hret, withLog]
      obtain ⟨n, hn, hsucceed, hfail, hspec⟩ :=
        ih (d.withLog (d.usbConnection.log ++ [.control value index]))
      have hlog : (d.withLog (d.usbConnection.log ++
          [.control value index])).usbConnection.log.length = d.usbConnection.log.length + 1 := by
        simp [withLog]
      rw [hlog] at hsucceed hfail
      refine ⟨n + 1, by simpa using hn, ?_, fun hlt => ?_, ?_⟩
      · rw [Nat.add_comm, succeed_add, succeed_one]
        exact ⟨hret, hsucceed⟩
      · have h := hfail (by simpa using hlt)
        rwa [Nat.add_assoc, Nat.add_comm 1 n] at h
      · rw [heq, hspec]
        simp [registerWrites, withLog]
    · have hfalse : (answer d.usbConnection.log.length == 0) = false := by simpa using hret
      refine ⟨0, Nat.zero_le _, by simp [Succeed], fun _ => hret, ?_⟩
      simp [setRegisters, AndroidUsbDevice.controlTransfer, AndroidUsbDevice.ioctl, hfalse,
        registerWrites, withLog]

/-- The input that an argument of `setTvInput` names. -/
def inputOf (input : ℤ) : Option TvInput :=
  if input = 0 then some .usbtvCompositeInput
  else if input = 1 then some .usbtvSvideoInput
  else none

/-- While a stream is active, `setTvInput` writes the table of an input other than the stored one,
and nothing else. -/
lemma setTvInput_of_active {d : UsbTvDriver} (hactive : d.streamActive = true)
    (answer : ℕ → ℤ) (input : ℤ) :
    d.setTvInput answer input =
      match inputOf input with
      | none => (false, d)
      | some i =>
        if d.input = i then (true, d)
        else setRegisters answer (inputRegisters i) { d with input := i } := by
  have hsame : ∀ {i : TvInput}, d.input = i → ({ d with input := i } : UsbTvDriver) = d := by
    rintro i rfl
    rfl
  have hcond : ∀ i : TvInput, (d.streamActive = true ∧ d.input ≠ i) ↔ ¬ d.input = i :=
    fun i => and_iff_right hactive
  unfold setTvInput inputOf
  simp only [hcond, ite_not]
  by_cases h0 : input = 0
  · simp only [if_pos h0]
    by_cases hi : d.input = .usbtvCompositeInput
    · rw [if_pos hi, if_pos hi, hsame hi]
    · rw [if_neg hi, if_neg hi]
      rfl
  · by_cases h1 : input = 1
    · simp only [if_neg h0, if_pos h1]
      by_cases hi : d.input = .usbtvSvideoInput
      · rw [if_pos hi, if_pos hi, hsame hi]
      · rw [if_neg hi, if_neg hi]
        rfl
    · simp only [if_neg h0, if_neg h1]

/-- The entries of a table that a call has written, with the input it has stored: all requests it
made, but for the last one if it failed. A call that made no request has begun no table. -/
def entriesWritten (d : UsbTvDriver) (r : Bool × UsbTvDriver) : List (TvInput × ℕ) :=
  match r.2.usbConnection.log.length - d.usbConnection.log.length with
  | 0 => []
  | n + 1 => [(r.2.input, if r.1 then n + 1 else n)]

lemma entriesWritten_self (ok : Bool) (d : UsbTvDriver) : d.entriesWritten (ok, d) = [] := by
  simp [entriesWritten]

/-- What is on record of a call that writes a table. -/
lemma entriesWritten_setRegisters (answer : ℕ → ℤ) (i : TvInput) (d : UsbTvDriver) :
    ∃ n ≤ (inputRegisters i).length,
      d.entriesWritten (setRegisters answer (inputRegisters i) { d with input := i }) = [(i, n)] ∧
      (setRegisters answer (inputRegisters i) { d with input := i }).1 =
        decide (n = (inputRegisters i).length) := by
  obtain ⟨n, hn, -, -, heq⟩ := setRegisters_spec answer (inputRegisters i) { d with input := i }
  refine ⟨n, hn, ?_, by rw [heq]⟩
  have hlen : (inputRegisters i).length = 5 := by cases i <;> rfl
  have hgrow : (d.usbConnection.log ++ (registerWrites (inputRegisters i)).take (n + 1)).length -
      d.usbConnection.log.length = min (n + 1) 5 := by
    rw [List.length_append, List.length_take, length_registerWrites, hlen, Nat.add_sub_cancel_left]
  rw [heq, entriesWritten]
  show (match (d.usbConnection.log ++ (registerWrites (inputRegisters i)).take (n + 1)).length -
    d.usbConnection.log.length with | 0 => [] | m + 1 => [(i, _)]) = _
  rw [hgrow, hlen]
  rw [hlen] at hn
  by_cases hall : n = 5
  · simp [hall]
  · have hmin : min (n + 1) 5 = n + 1 := by omega
    simp [hmin, hall]

end UsbTvDriver

/-! ## Calls -/

/-- A driver with a running stream, the tables that were begun since before the start was over,
the latest first, each with the number of entries written, and what the last call has returned. -/
structure InputSwitches where
  driver : UsbTvDriver
  tables : List (TvInput × ℕ)
  returned : Option (ℤ × Bool)

/-- A call of `setTvInput`, and what the device answers its requests. -/
structure InputCall where
  input : ℤ
  answer : ℕ → ℤ

namespace InputSwitches

open UsbTvDriver

/-- The number of entries of a table. -/
abbrev tableSize (i : TvInput) : ℕ := (inputRegisters i).length

/-- One call. -/
def step (s : InputSwitches) (c : InputCall) : InputSwitches :=
  let r := s.driver.setTvInput c.answer c.input
  ⟨r.2, s.driver.entriesWritten r ++ s.tables, some (c.input, r.1)⟩

/-- The state after a successful start, which writes the table of the input it stores. -/
def started (d : UsbTvDriver) : InputSwitches := ⟨d, [(d.input, tableSize d.input)], none⟩

/-- **The device is at an input**: the last table written completely is that of the input, and no
entry of another one was written after it. -/
def DeviceAt (i : TvInput) (tables : List (TvInput × ℕ)) : Prop :=
  ∃ later earlier, tables = later ++ (i, tableSize i) :: earlier ∧
    ∀ t ∈ later, t.2 ≠ tableSize t.1 ∧ (t.1 ≠ i → t.2 = 0)

/-- The last call has told the truth: if it returned true, the device is at its input. -/
def Truthful (s : InputSwitches) : Prop :=
  ∀ input, s.returned = some (input, true) → ∃ i, inputOf input = some i ∧ DeviceAt i s.tables

/-- Going back to the last switch that was completed: it was to this input, and of the failed
switches since then those to the other input failed at the first entry. -/
def Settled (i : TvInput) : List (TvInput × ℕ) → Prop
  | [] => False
  | t :: ts => if t.2 = tableSize t.1 then t.1 = i else (t.1 ≠ i → t.2 = 0) ∧ Settled i ts

instance decidableSettled (i : TvInput) : ∀ ts, Decidable (Settled i ts)
  | [] => inferInstanceAs (Decidable False)
  | _ :: ts =>
    have := decidableSettled i ts
    inferInstanceAs (Decidable (ite _ _ _))

/-- The call is not for the stored input, or no failed switch has changed the device. -/
def Retried (s : InputSwitches) (c : InputCall) : Prop :=
  ∀ i, inputOf c.input = some i → s.driver.input = i → Settled i s.tables

end InputSwitches

/-- All sequences of `setTvInput` calls on a stream that has just started. -/
def inputSwitches : StepSystem InputSwitches InputCall where
  Init s := ∃ params₀ d params answer d', (UsbTvDriver.sessions params₀).Reachable ⟨d, false⟩ ∧
    d.streamActive = false ∧ d.startStreaming params answer = some (true, d') ∧ s = .started d'
  step s c := some (s.step c)

namespace InputSwitches

open UsbTvDriver

/-- A stream that has just started is active, and the last registers written are the table of the
input that it stores. -/
lemma started_of_init {params₀ params : Java.DeviceParams} {d d' : UsbTvDriver}
    {answer : ℕ → ℤ} (hd : (sessions params₀).Reachable ⟨d, false⟩)
    (hactive : d.streamActive = false) (h : d.startStreaming params answer = some (true, d')) :
    d'.streamActive = true ∧ ∃ (before : List Ioctl) (urbs : List ℕ), d'.usbConnection.log =
      before ++ registerWrites (inputRegisters d'.input) ++ .setInterface 0 1 ::
        urbs.map .submitUrb := by
  have hwf := wellFormed_of_reachable hd
  rcases startStreaming_of_idle hwf.initialized (hwf.idle rfl hactive) h with
    ⟨-, hok, -⟩ | ⟨-, hok, -⟩ | ⟨-, -, -, -, usb, husb, rfl⟩
  · exact absurd hok (by simp)
  · exact absurd hok (by simp)
  · refine ⟨rfl, d.usbConnection.log ++ [.setInterface 0 0] ++ registerWrites videoInit ++
      registerWrites (normRegisters (nativeFrameParams params).norm), usb.isoUrbPool, ?_⟩
    apply husb.log.trans
    simp only [registerLog, registerRequests, List.append_assoc, List.cons_append,
      List.nil_append]
    rfl

/-- Calls do not stop the stream. -/
lemma streamActive_of_reachable {C : InputSwitches → InputCall → Prop} {s : InputSwitches}
    (hs : inputSwitches.ReachableUnder C s) : s.driver.streamActive = true := by
  refine StepSystem.ReachableUnder.invariant (I := fun s => s.driver.streamActive = true) ?_ ?_ hs
  · rintro s ⟨params₀, d, params, answer, d', hd, hactive, h, rfl⟩
    exact (started_of_init hd hactive h).1
  · intro s c s' _ hactive _ hstep
    obtain rfl := Option.some_inj.mp hstep
    obtain ⟨log, tvInput, heq⟩ := s.driver.setTvInput_eq c.answer c.input
    show (s.driver.setTvInput c.answer c.input).2.streamActive = true
    rw [heq]
    exact hactive

/-- The device is at an input exactly when the switches since the last completed one leave it
there. -/
lemma deviceAt_iff_settled {i : TvInput} {tables : List (TvInput × ℕ)} :
    DeviceAt i tables ↔ Settled i tables := by
  induction tables with
  | nil =>
    constructor
    · rintro ⟨later, earlier, h, -⟩
      simp at h
    · exact False.elim
  | cons t ts ih =>
    rw [Settled, ← ih]
    constructor
    · rintro ⟨later, earlier, heq, hlater⟩
      cases later with
      | nil =>
        obtain ⟨rfl, -⟩ := List.cons.inj heq
        rw [if_pos rfl]
      | cons t' later =>
        obtain ⟨rfl, rfl⟩ := List.cons.inj heq
        have ht := hlater t List.mem_cons_self
        rw [if_neg ht.1]
        exact ⟨ht.2, later, earlier, rfl, fun t' ht' => hlater t' (List.mem_cons_of_mem _ ht')⟩
    · intro h
      by_cases hfull : t.2 = tableSize t.1
      · rw [if_pos hfull] at h
        refine ⟨[], ts, ?_, fun t' ht' => absurd ht' List.not_mem_nil⟩
        rw [List.nil_append, ← h, ← hfull]
      · rw [if_neg hfull] at h
        obtain ⟨hother, later, earlier, rfl, hlater⟩ := h
        refine ⟨t :: later, earlier, rfl, fun t' ht' => ?_⟩
        rcases List.mem_cons.mp ht' with rfl | ht'
        · exact ⟨hfull, hother⟩
        · exact hlater t' ht'

/-- **When the next call tells the truth**: exactly if it does not ask for the stored input after a
failed switch has changed the device. -/
lemma truthful_step_iff {s : InputSwitches} (hactive : s.driver.streamActive = true)
    (c : InputCall) : (s.step c).Truthful ↔ s.Retried c := by
  have hret : ∀ input, (s.step c).returned = some (input, true) ↔
      input = c.input ∧ (s.driver.setTvInput c.answer c.input).1 = true := by
    intro input
    simp only [step, Option.some_inj, Prod.mk.injEq, eq_comm]
  have htables : (s.step c).tables =
      s.driver.entriesWritten (s.driver.setTvInput c.answer c.input) ++ s.tables := rfl
  rw [setTvInput_of_active hactive] at hret htables
  unfold Truthful Retried
  simp only [hret]
  cases hinput : inputOf c.input with
  | none => simp
  | some i =>
    simp only [hinput] at htables ⊢
    by_cases hi : s.driver.input = i
    · -- nothing is written
      rw [if_pos hi, entriesWritten_self, List.nil_append] at htables
      simp only [htables, if_pos hi, and_true, forall_eq, hinput, Option.some_inj]
      constructor
      · rintro ⟨j, rfl, hat⟩ k rfl -
        exact deviceAt_iff_settled.mp hat
      · intro h
        exact ⟨i, rfl, deviceAt_iff_settled.mpr (h i rfl hi)⟩
    · -- the whole table is written, or the call returns false
      obtain ⟨n, -, hentries, hok⟩ := entriesWritten_setRegisters c.answer i s.driver
      rw [if_neg hi, hentries] at htables
      simp only [if_neg hi, hok, decide_eq_true_eq, htables]
      constructor
      · rintro - j hj rfl
        exact absurd (Option.some_inj.mp hj).symm hi
      · rintro - input ⟨rfl, rfl⟩
        exact ⟨i, hinput, [], s.tables, rfl, fun t ht => absurd ht List.not_mem_nil⟩

/-- **When `setTvInput` tells the truth**: in every run in which no call asks for the stored input
after a failed switch has changed the device, a call that returns true leaves the device at its
input; and the next call does so if and only if it keeps to this.

**Proof sketch.** A call for another input writes the whole table or returns false. A call for the
stored input returns true and writes nothing, so it tells the truth exactly when the device is at
that input already. -/
theorem truthful_of_retried {s : InputSwitches} (hs : inputSwitches.ReachableUnder Retried s) :
    s.Truthful ∧ ∀ c s', inputSwitches.step s c = some s' → (s'.Truthful ↔ s.Retried c) := by
  refine ⟨?_, fun c s' hstep => ?_⟩
  · refine StepSystem.ReachableUnder.invariant (I := Truthful) ?_ ?_ hs
    · rintro s ⟨params₀, d, params, answer, d', -, -, -, rfl⟩ input hinput
      exact absurd hinput (by simp [started])
    · intro s c s' hs _ hretried hstep
      obtain rfl := Option.some_inj.mp hstep
      exact (truthful_step_iff (streamActive_of_reachable hs) c).mpr hretried
  · obtain rfl := Option.some_inj.mp hstep
    exact truthful_step_iff (streamActive_of_reachable hs) c

/-- The first stream, with composite input. -/
lemma exists_started :
    ∃ d, firstDriver.startStreaming Java.Builder.new.build (fun _ => 0) = some (true, d) ∧
      d.input = .usbtvCompositeInput ∧ inputSwitches.Init (.started d) := by
  have h : (firstDriver.startStreaming Java.Builder.new.build fun _ => 0).map
      (fun r => (r.1, r.2.input)) = some (true, .usbtvCompositeInput) := by decide
  obtain ⟨⟨ok, d⟩, hd, heq⟩ := Option.map_eq_some_iff.mp h
  obtain ⟨rfl, hinput⟩ := Prod.mk.injEq .. ▸ heq
  exact ⟨d, hd, hinput, Java.Builder.new.build, firstDriver, Java.Builder.new.build, fun _ => 0, d,
    reachable_new _ _ _ _ _, rfl, hd, rfl⟩

/-- A device that fails at the second of the next requests. -/
def failsSecond (d : UsbTvDriver) : ℕ → ℤ :=
  fun n => if n = d.usbConnection.log.length + 1 then -1 else 0

/-- A call for an input that is not stored. -/
lemma retried_of_ne {s : InputSwitches} {c : InputCall} {i : TvInput}
    (hc : inputOf c.input = some i) (hne : s.driver.input ≠ i) : s.Retried c := fun _ hj hsame =>
  absurd (hsame.trans (Option.some_inj.mp (hj.symm.trans hc))) hne

/-- The switch to S-Video fails at its second register, the one back to composite and the next one
to S-Video do not, and S-Video is asked for once more. -/
theorem truthful_of_retried_switchedBack :
    ∃ s, inputSwitches.ReachableUnder Retried s ∧ s.tables = [(.usbtvSvideoInput, 5),
        (.usbtvCompositeInput, 5), (.usbtvSvideoInput, 1), (.usbtvCompositeInput, 5)] ∧
      s.returned = some (1, true) ∧ s.Truthful ∧
      ∀ c s', inputSwitches.step s c = some s' → (s'.Truthful ↔ s.Retried c) := by
  obtain ⟨d, hstart, hinput, hinit⟩ := exists_started
  have hswitched : (firstDriver.startStreaming Java.Builder.new.build fun _ => 0).map (fun r =>
      let s₁ := (started r.2).step ⟨1, failsSecond r.2⟩
      let s₂ := s₁.step ⟨0, fun _ => 0⟩
      (s₁.driver.input, s₂.driver.input, (s₂.step ⟨1, fun _ => 0⟩).tables)) =
        some (.usbtvSvideoInput, .usbtvCompositeInput, [(.usbtvSvideoInput, 5),
          (.usbtvCompositeInput, 5), (.usbtvSvideoInput, 1), (.usbtvCompositeInput, 5)]) := by
    decide +kernel
  have hasked : (firstDriver.startStreaming Java.Builder.new.build fun _ => 0).map (fun r =>
      let s₁ := (started r.2).step ⟨1, failsSecond r.2⟩
      let s₃ := (s₁.step ⟨0, fun _ => 0⟩).step ⟨1, fun _ => 0⟩
      ((s₃.step ⟨1, fun _ => 0⟩).tables, (s₃.step ⟨1, fun _ => 0⟩).returned)) =
        some ([(.usbtvSvideoInput, 5), (.usbtvCompositeInput, 5), (.usbtvSvideoInput, 1),
          (.usbtvCompositeInput, 5)], some (1, true)) := by
    decide +kernel
  rw [hstart, Option.map_some, Option.some_inj] at hswitched hasked
  obtain ⟨h₁, hrest⟩ := Prod.mk.inj hswitched
  obtain ⟨h₂, h₃⟩ := Prod.mk.inj hrest
  obtain ⟨htables, hreturned⟩ := Prod.mk.inj hasked
  have hr₁ : inputSwitches.ReachableUnder Retried ((started d).step ⟨1, failsSecond d⟩) :=
    (StepSystem.ReachableUnder.init hinit).step
      (retried_of_ne rfl (by rw [show (started d).driver.input = _ from hinput]; decide)) rfl
  have hr₂ := hr₁.step (e := ⟨0, fun _ => 0⟩) (retried_of_ne rfl (by rw [h₁]; decide)) rfl
  have hr₃ := hr₂.step (e := ⟨1, fun _ => 0⟩) (retried_of_ne rfl (by rw [h₂]; decide)) rfl
  have hr₄ := hr₃.step (e := ⟨1, fun _ => 0⟩) (fun i hi _ => ?_) rfl
  · exact ⟨_, hr₄, htables, hreturned, truthful_of_retried hr₄⟩
  · obtain rfl := Option.some_inj.mp hi
    rw [h₃]
    decide

/-- **A failed switch that is taken as done**: the switch to S-Video fails at its second register,
and the next call for S-Video returns true. -/
theorem not_truthful_failed_switch :
    ∃ d, inputSwitches.Init (.started d) ∧
      ∃ s, inputSwitches.run (.started d) [⟨1, failsSecond d⟩, ⟨1, fun _ => 0⟩] = some s ∧
        s.returned = some (1, true) ∧ ¬ s.Truthful := by
  obtain ⟨d, hstart, -, hinit⟩ := exists_started
  have h : (firstDriver.startStreaming Java.Builder.new.build fun _ => 0).map (fun r =>
      let s := ((started r.2).step ⟨1, failsSecond r.2⟩).step ⟨1, fun _ => 0⟩
      (s.returned, s.tables)) = some (some (1, true),
        [(.usbtvSvideoInput, 1), (.usbtvCompositeInput, 5)]) := by decide +kernel
  rw [hstart, Option.map_some, Option.some_inj, Prod.mk.injEq] at h
  obtain ⟨hret, htables⟩ := h
  refine ⟨d, hinit, _, rfl, hret, fun htruth => ?_⟩
  obtain ⟨i, hi, hat⟩ := htruth 1 hret
  obtain rfl : i = .usbtvSvideoInput := (Option.some_inj.mp hi).symm
  rw [deviceAt_iff_settled] at hat
  change Settled _ (((started d).step ⟨1, failsSecond d⟩).step ⟨1, fun _ => 0⟩).tables at hat
  rw [htables] at hat
  exact absurd hat (by decide)

end InputSwitches

end UsbTv
