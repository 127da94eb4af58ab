import UsbTv.Device.Threads
import UsbTv.Driver.Unpacking

set_option relaxedAutoImplicit false
set_option autoImplicit false

/-!
# The loop of the reap thread

`reapUrbAsync`, round by round, with nobody else at work. The `switch` looks for error numbers in
what `ioctl` returned. Under the convention of the C library `ioctl` returns -1 when it fails, and
leaves the error number in `errno`, which the loop never reads.

## Main definitions

* `UsbTv.ReapLoop.reapSwitch` — the `switch`, for anything `REAPURB` may return.
* `UsbTv.ReapResult` — what `REAPURB` returns under the convention of the C library.
* `UsbTv.ReapLoop.rounds` — the loop, for a sequence of results.
* `UsbTv.DeviceGone` — from some point on every `REAPURB` fails for good.
* `UsbTv.ReapLoop.EndsWhenGone` — what is asked of the loop.

## Main results

* `UsbTv.ReapLoop.reapSwitch_null` — without a URB the `switch` is `reapDispatch`.
* `UsbTv.ReapLoop.rounds_again` — the loop goes on for ever.
* `UsbTv.ReapLoop.not_endsWhenGone` — when the device is gone the loop spins.
-/

namespace UsbTv

/-- The loop of `reapUrbAsync` between two rounds: at the `while`, or where it ended. -/
structure ReapLoop (σ : Type*) where
  outcome : ReapOutcome
  driver : σ
  memory : UrbMemory

/-- What a `REAPURB` brings under the convention of the C library: a URB, or an error number in
`errno`. -/
inductive ReapResult
  | reaped (urb : ℕ)
  | failed (errno : ℕ)
  deriving DecidableEq, Repr

namespace ReapResult

/-- What `ioctl` returns. -/
def ret : ReapResult → ℤ
  | reaped _ => 0
  | failed _ => -1

/-- What `ioctl` leaves in `urb`, which was set to null. -/
def urb : ReapResult → Option ℕ
  | reaped urb => some urb
  | failed _ => none

end ReapResult

/-- The errors that the loop treats as unrecoverable: `ENODEV`, `ENOENT`, `ECONNRESET` and
`ESHUTDOWN`. -/
def unrecoverableErrnos : List ℕ := [19, 2, 104, 108]

/-- From some point on every `REAPURB` fails with an unrecoverable error. -/
def DeviceGone (results : ℕ → ReapResult) : Prop :=
  ∃ k, ∀ n ≥ k, ∃ errno ∈ unrecoverableErrnos, results n = .failed errno

namespace ReapLoop

variable {σ : Type*} (callback : UrbCallback σ) (answer : ℕ → ℤ) (behind : ℕ)

/-- A URB that was reaped. The URBs of a continuous bulk transfer add up in their main URB, and
the last one and a failed one bring it to the callback. -/
def dispatch (s : σ) (m : UrbMemory) (urb : ℕ) : σ × UrbMemory :=
  let part := m.urbs urb
  match part.usercontext.contBulkUrb with
  | none => callback.run s m urb
  | some main =>
    if part.usercontext.isLast = true ∨ part.status ≠ 0 then
      callback.run s (m.modify main fun u =>
        { u with
          actualLength := u.actualLength + part.actualLength
          status := part.status
          errorCount := part.errorCount }) main
    else
      (s, m.modify main fun u => { u with actualLength := u.actualLength + part.actualLength })

/-- The last case of the `switch`: a URB of this device is resubmitted. -/
def recover (m : UrbMemory) : Option ℕ → UrbMemory
  | none => m
  | some urb =>
    match (m.urbs urb).usercontext.contBulkUrb with
    | none => (m.resubmitUrb answer (some urb)).2
    | some main => ((m.killUrb behind (some main)).resubmitUrb answer (some main)).2

/-- The `switch` of `reapUrbAsync`. The case `-EPIPE` falls through to the last one. -/
def reapSwitch (ret : ℤ) (urb : Option ℕ) (s : σ) (m : UrbMemory) : ReapLoop σ :=
  if ret = 0 then
    match urb with
    | none => ⟨.crash, s, m⟩
    | some urb =>
      let (s, m) := dispatch callback s m urb
      ⟨.again, s, m⟩
  else if ret = -19 ∨ ret = -2 ∨ ret = -104 ∨ ret = -108 then
    ⟨.exit, s, { m with device := { m.device with urbThreadRunning := false } }⟩
  else if ret = -32 then
    match urb with
    | none => ⟨.crash, s, m⟩
    | some urb =>
      let m := if (m.urbs urb).type = .bulk then m.clearHalt (m.urbs urb).endpoint else m
      ⟨.again, s, recover answer behind m (some urb)⟩
  else ⟨.again, s, recover answer behind m urb⟩

/-- One round of the loop. -/
def round (l : ReapLoop σ) (result : ReapResult) : ReapLoop σ :=
  match l.outcome with
  | .again =>
    if l.memory.device.urbThreadRunning then
      reapSwitch callback answer behind result.ret result.urb l.driver l.memory
    else { l with outcome := .exit }
  | _ => l

/-- The first rounds of `reapUrbAsync`. -/
def rounds (results : ℕ → ReapResult) (s : σ) (m : UrbMemory) : ℕ → ReapLoop σ
  | 0 => ⟨.again, s, m⟩
  | n + 1 => (rounds results s m n).round callback answer behind (results n)

/-- What is asked of the loop: it ends and clears `_urbThreadRunning`, it goes on after any other
error, and it reads no null URB. -/
structure EndsWhenGone (results : ℕ → ReapResult) (s : σ) (m : UrbMemory) : Prop where
  ends : ∃ n, (rounds callback answer behind results s m n).outcome = .exit ∧
    (rounds callback answer behind results s m n).memory.device.urbThreadRunning = false
  goesOn : ∀ n errno, results n = .failed errno → errno ∉ unrecoverableErrnos →
    (rounds callback answer behind results s m n).outcome = .again →
      (rounds callback answer behind results s m (n + 1)).outcome = .again
  noNull : ∀ n, (rounds callback answer behind results s m n).outcome ≠ .crash

/-! ## The switch -/

/-- **Without a URB** the `switch` does what `reapDispatch` says, on the value that `ioctl`
returned. -/
lemma reapSwitch_null {ret : ℤ} (hret : ret ≠ 0) (s : σ) (m : UrbMemory) :
    (reapSwitch callback answer behind ret none s m).outcome = reapDispatch ret := by
  unfold reapSwitch reapDispatch
  rw [if_neg hret]
  split_ifs <;> rfl

lemma dispatch_urbThreadRunning (s : σ) (m : UrbMemory) (urb : ℕ) :
    (dispatch callback s m urb).2.device.urbThreadRunning = m.device.urbThreadRunning := by
  unfold dispatch
  dsimp only
  split
  · exact callback.urbThreadRunning s m urb
  · split_ifs
    · exact callback.urbThreadRunning ..
    · rfl

/-- **The `switch` under the convention of the C library**: no error number gets there, so it goes
on whatever happened, and after an error it leaves everything as it is. -/
lemma reapSwitch_result (result : ReapResult) (s : σ) (m : UrbMemory) :
    (reapSwitch callback answer behind result.ret result.urb s m).outcome = .again ∧
      (reapSwitch callback answer behind result.ret result.urb s m).memory.device.urbThreadRunning =
        m.device.urbThreadRunning ∧
      ∀ errno, result = .failed errno →
        reapSwitch callback answer behind result.ret result.urb s m = ⟨.again, s, m⟩ := by
  cases result with
  | reaped urb =>
    exact ⟨rfl, dispatch_urbThreadRunning callback s m urb, fun errno h => by cases h⟩
  | failed errno => exact ⟨rfl, rfl, fun _ _ => rfl⟩

/-! ## The loop -/

/-- **The loop goes on for ever**, whatever `REAPURB` returns. -/
lemma rounds_again {m : UrbMemory} (hrunning : m.device.urbThreadRunning = true)
    (results : ℕ → ReapResult) (s : σ) (n : ℕ) :
    (rounds callback answer behind results s m n).outcome = .again ∧
      (rounds callback answer behind results s m n).memory.device.urbThreadRunning = true := by
  induction n with
  | zero => exact ⟨rfl, hrunning⟩
  | succ n ih =>
    obtain ⟨houtcome, hflag⟩ := ih
    rw [rounds, round, houtcome]
    dsimp only
    rw [if_pos hflag]
    obtain ⟨hagain, hsame, -⟩ := reapSwitch_result callback answer behind (results n)
      (rounds callback answer behind results s m n).driver
      (rounds callback answer behind results s m n).memory
    exact ⟨hagain, hsame.trans hflag⟩

/-- A round after an error changes nothing. -/
lemma rounds_failed {m : UrbMemory} (hrunning : m.device.urbThreadRunning = true)
    {results : ℕ → ReapResult} {n errno : ℕ} (hfailed : results n = .failed errno) (s : σ) :
    rounds callback answer behind results s m (n + 1) =
      rounds callback answer behind results s m n := by
  obtain ⟨houtcome, hflag⟩ := rounds_again callback answer behind hrunning results s n
  obtain ⟨-, -, hsame⟩ := reapSwitch_result callback answer behind (results n)
    (rounds callback answer behind results s m n).driver
    (rounds callback answer behind results s m n).memory
  rw [rounds, round, houtcome]
  dsimp only
  rw [if_pos hflag, hsame errno hfailed, ← houtcome]

/-- **When the device is gone the loop spins**: it never ends, and from some point on its rounds
change nothing any more. It does go on after every other error, and reads no null URB. -/
theorem not_endsWhenGone {m : UrbMemory} (hrunning : m.device.urbThreadRunning = true)
    {results : ℕ → ReapResult} (hgone : DeviceGone results) (s : σ) :
    ¬ EndsWhenGone callback answer behind results s m ∧
      (∀ n, (rounds callback answer behind results s m n).outcome = .again) ∧
      ∃ k, ∀ n ≥ k, rounds callback answer behind results s m n =
        rounds callback answer behind results s m k := by
  have hagain := fun n => (rounds_again callback answer behind hrunning results s n).1
  refine ⟨fun h => ?_, hagain, ?_⟩
  · obtain ⟨n, hexit, -⟩ := h.ends
    rw [hagain n] at hexit
    cases hexit
  · obtain ⟨k, hk⟩ := hgone
    refine ⟨k, fun n hn => ?_⟩
    induction n, hn using Nat.le_induction with
    | base => rfl
    | succ n hn ih =>
      obtain ⟨errno, -, hfailed⟩ := hk n hn
      rw [rounds_failed callback answer behind hrunning hfailed, ih]

/-- A device whose reap thread has just started, with one isochronous URB. -/
def startedMemory : UrbMemory where
  device := { AndroidUsbDevice.new with urbThreadRunning := true, urbThread := true }
  urbs _ := .newIso 0x81 1024 8 (fun _ => 0) (by decide)
  halts := []

/-- The driver when its first stream has started. -/
def startedAssembler : Assembler :=
  .fresh ⟨720, 480, .ntsc, .interleaved, 691200⟩ 360 fun _ =>
    ⟨691200, fun _ => none, 0, frameStart, true⟩

/-- One URB is reaped, and then the device is unplugged. -/
def unplugged : ℕ → ReapResult
  | 0 => .reaped 0
  | _ + 1 => .failed 19

lemma deviceGone_unplugged : DeviceGone unplugged :=
  ⟨1, fun n hn => ⟨19, by decide, by obtain ⟨n, rfl⟩ := Nat.exists_eq_add_of_le' hn; rfl⟩⟩

/-- The rounds of the reap thread of that driver, which is unplugged after the first URB. -/
abbrev unpluggedRounds : ℕ → ReapLoop Assembler :=
  rounds (UrbMemory.videoCallback (fun _ => .accepted 1) fun _ => 0) (fun _ => 0) 0 unplugged
    startedAssembler startedMemory

/-- The loop spins when the device is unplugged. -/
theorem not_endsWhenGone_unplugged :
    DeviceGone unplugged ∧ ∃ k, ∀ n ≥ k, unpluggedRounds n = unpluggedRounds k :=
  ⟨deviceGone_unplugged, (not_endsWhenGone _ _ _ rfl deviceGone_unplugged startedAssembler).2.2⟩

/-- The device is gone, and the loop is not left. -/
theorem not_endsWhenGone_of_unplugged :
    DeviceGone unplugged ∧
      ¬ EndsWhenGone (UrbMemory.videoCallback (fun _ => .accepted 1) fun _ => 0) (fun _ => 0) 0
        unplugged startedAssembler startedMemory := by
  refine ⟨deviceGone_unplugged, fun h => ?_⟩
  obtain ⟨n, hexit, -⟩ := h.ends
  have hagain := (rounds_again (UrbMemory.videoCallback (fun _ => .accepted 1) fun _ => 0)
    (fun _ => 0) 0 (m := startedMemory) rfl unplugged startedAssembler n).1
  rw [hagain] at hexit
  cases hexit

end ReapLoop

end UsbTv
