import UsbTv.Driver.Streaming

set_option relaxedAutoImplicit false
set_option autoImplicit false

/-!
# All or nothing

Whether `startStreaming` leaves either a running stream or an idle driver. Every exit undoes what
was done, but for the first one: when alternate setting 0 cannot be selected, `_streamActive`
stays set, and the next `startStreaming` takes that for a running stream.

## Main definitions

* `UsbTv.UsbTvDriver.Running` — the stream is really running.
* `UsbTv.UsbTvDriver.AllOrNothing` — the two possible results of a start.
* `UsbTv.UsbTvDriver.InterfaceReset` — starts of an inactive driver can select alternate
  setting 0.

## Main results

* `UsbTv.UsbTvDriver.running_of_reachable` — what every run of starts and stops keeps.
* `UsbTv.UsbTvDriver.allOrNothing_iff` — when a start is all or nothing.
-/

namespace UsbTv

namespace UsbTvDriver

/-- The stream is really running: there are a pool, a process thread and a reap thread, all URBs
were submitted, and the requests end with those of a full start, the register tables in order
before alternate setting 1. -/
structure Running (d : UsbTvDriver) : Prop where
  streamActive : d.streamActive = true
  framePool : d.framePool.isSome = true
  frameProcessThread : d.frameProcessThread = true
  processThreadRunning : d.processThreadRunning = true
  urbThread : d.usbConnection.urbThread = true
  urbThreadRunning : d.usbConnection.urbThreadRunning = true
  isoUrbsSubmitted : d.usbConnection.isoUrbsSubmitted = usbtvIsocTransfers
  length_isoUrbPool : d.usbConnection.isoUrbPool.length = usbtvIsocTransfers
  pending : ∀ urb ∈ d.usbConnection.isoUrbPool, urb ∈ d.usbConnection.usbfs.pending
  log : registerRequests d.frameParams.norm d.input ++ [.setInterface 0 1] ++
    d.usbConnection.isoUrbPool.map .submitUrb <:+ d.usbConnection.log

/-- A start is all or nothing: it fails and leaves an idle driver, or the stream runs. -/
def AllOrNothing (ok : Bool) (d : UsbTvDriver) : Prop :=
  (ok = false → d.Idle) ∧ (ok = true → d.Running)

/-- The condition on a step: where `startStreaming` finds the driver inactive, its request for
alternate setting 0 succeeds. -/
def InterfaceReset (s : Session) : SessionEvent → Prop
  | .startStreaming _ answer =>
    s.driver.streamActive = false → answer s.driver.usbConnection.log.length = 0
  | _ => True

/-- A driver that was opened is running. -/
lemma running_opened {d : UsbTvDriver} {params : Java.DeviceParams} {usb : AndroidUsbDevice}
    (h : UsbStreaming { d.usbConnection with log := d.registerLog params } usb) :
    ((d.beginStream params).opened usb).Running where
  streamActive := rfl
  framePool := rfl
  frameProcessThread := rfl
  processThreadRunning := rfl
  urbThread := h.urbThread
  urbThreadRunning := h.urbThreadRunning
  isoUrbsSubmitted := h.isoUrbsSubmitted
  length_isoUrbPool := h.length_isoUrbPool
  pending := h.pending
  log := by
    refine ⟨d.usbConnection.log, ?_⟩
    show _ = usb.log
    rw [h.log]
    simp only [registerLog, opened, beginStream, parseStreamingParams, List.append_assoc]

/-- **One start of an idle driver** is all or nothing if and only if alternate setting 0 could be
selected. -/
lemma allOrNothing_iff_of_idle {d d' : UsbTvDriver} {params : Java.DeviceParams}
    {answer : ℕ → ℤ} {ok : Bool} (hinit : d.initialized = true) (hd : d.Idle)
    (h : d.startStreaming params answer = some (ok, d')) :
    AllOrNothing ok d' ↔ answer d.usbConnection.log.length = 0 := by
  rcases startStreaming_of_idle hinit hd h with
    ⟨hret, rfl, log, rfl⟩ | ⟨hret, rfl, hidle, -⟩ | ⟨hret, rfl, -, -, usb, husb, rfl⟩
  · refine iff_of_false (fun hall => ?_) hret
    have hidle := hall.1 rfl
    have hact : ((d.beginStream params).withLog log).streamActive = true := rfl
    rw [hidle.streamActive] at hact
    exact absurd hact (by simp)
  · exact iff_of_true ⟨fun _ => hidle, by simp⟩ hret
  · exact iff_of_true ⟨by simp, fun _ => running_opened husb⟩ hret

/-- A packet does not touch what makes a stream run. -/
lemma Running.withAssembler {d : UsbTvDriver} (h : d.Running) (a : Assembler) :
    (d.withAssembler a).Running :=
  ⟨h.streamActive, rfl, h.frameProcessThread, h.processThreadRunning, h.urbThread,
    h.urbThreadRunning, h.isoUrbsSubmitted, h.length_isoUrbPool, h.pending, h.log⟩

/-- **Runs of starts and stops**: as long as alternate setting 0 can be selected, a driver whose
`_streamActive` is set is running. -/
theorem running_of_reachable {params : Java.DeviceParams} {s : Session}
    (h : (sessions params).ReachableUnder InterfaceReset s) :
    s.driver.streamActive = true → s.driver.Running := by
  refine StepSystem.ReachableUnder.invariant
    (I := fun s => s.driver.streamActive = true → s.driver.Running) ?_ ?_ h
  · rintro s ⟨frameParams, input, dropped, incomplete, rfl⟩ hact
    exact absurd hact (by simp [new])
  · intro s e s' hreach hs hreset hstep hact
    have hwf := wellFormed_of_reachable hreach
    change s.step e = some s' at hstep
    cases e with
    | startStreaming params' answer =>
      obtain ⟨hactive, rfl⟩ | ⟨hactive, hidle, ok, d', hd', rfl⟩ := hwf.step_cases hstep
      · exact hs hactive
      · have hall := (allOrNothing_iff_of_idle hwf.initialized hidle hd').mpr (hreset hactive)
        cases ok with
        | true => exact hall.2 rfl
        | false =>
          rw [(hall.1 rfl).streamActive] at hact
          exact absurd hact (by simp)
    | beginStop =>
      obtain ⟨-, rfl⟩ := hwf.step_cases hstep
      exact absurd hact (by simp)
    | endStop answer =>
      obtain ⟨usb, -, rfl⟩ := hwf.step_cases hstep
      exact absurd hact (by simp [stopped])
    | packet packet answer =>
      obtain ⟨-, a, -, rfl⟩ := hwf.step_cases hstep
      exact (hs hact).withAssembler _

/-- **When a start is all or nothing.** On every initialized idle driver, and in every run whose
starts so far could select alternate setting 0, a start that returns leaves an idle driver or a
running stream, as it reports, if and only if it found the driver active or could select
alternate setting 0 itself. -/
theorem allOrNothing_iff {params₀ : Java.DeviceParams} {d d' : UsbTvDriver}
    (hd : (d.initialized = true ∧ d.Idle) ∨
      (sessions params₀).ReachableUnder InterfaceReset ⟨d, false⟩)
    {params : Java.DeviceParams} {answer : ℕ → ℤ} {ok : Bool}
    (h : d.startStreaming params answer = some (ok, d')) :
    AllOrNothing ok d' ↔
      (d.streamActive = false → answer d.usbConnection.log.length = 0) := by
  rcases hd with ⟨hinit, hidle⟩ | hreach
  · rw [allOrNothing_iff_of_idle hinit hidle h]
    simp [hidle.streamActive]
  · have hwf := wellFormed_of_reachable hreach
    cases hactive : d.streamActive with
    | true =>
      rw [startStreaming_of_active hactive, Option.some_inj, Prod.mk.injEq] at h
      obtain ⟨rfl, rfl⟩ := h
      exact iff_of_true ⟨by simp, fun _ => running_of_reachable hreach hactive⟩ (by simp)
    | false =>
      rw [allOrNothing_iff_of_idle hwf.initialized (hwf.idle rfl hactive) h]
      simp

/-- The answers where all requests succeed but for alternate setting 1. -/
def noAltSetting (request : ℕ) : ℤ := if request = 83 then -1 else 0

/-- A first start whose requests all succeed, and a first start that cannot select alternate
setting 1. -/
theorem allOrNothing_iff_firstDriver :
    (∃ d', firstDriver.startStreaming Java.Builder.new.build (fun _ => 0) = some (true, d') ∧
      (AllOrNothing true d' ↔ (firstDriver.streamActive = false → (0 : ℤ) = 0))) ∧
    ∃ d', firstDriver.startStreaming Java.Builder.new.build noAltSetting = some (false, d') ∧
      (AllOrNothing false d' ↔ (firstDriver.streamActive = false → noAltSetting 0 = 0)) := by
  have hidle : firstDriver.initialized = true ∧ firstDriver.Idle :=
    ⟨rfl, rfl, rfl, rfl, rfl, rfl, rfl, rfl⟩
  have hfirst : ∀ answer ok,
      (firstDriver.startStreaming Java.Builder.new.build answer).map Prod.fst = some ok →
      ∃ d', firstDriver.startStreaming Java.Builder.new.build answer = some (ok, d') := by
    intro answer ok h
    obtain ⟨⟨ok', d'⟩, h', rfl⟩ := Option.map_eq_some_iff.mp h
    exact ⟨d', h'⟩
  obtain ⟨d₁, h₁⟩ := hfirst (fun _ => 0) true (by decide)
  obtain ⟨d₂, h₂⟩ := hfirst noAltSetting false (by decide)
  have hd : (firstDriver.initialized = true ∧ firstDriver.Idle) ∨
      (sessions Java.Builder.new.build).ReachableUnder InterfaceReset ⟨firstDriver, false⟩ :=
    .inl hidle
  have h₁' := allOrNothing_iff hd h₁
  have h₂' := allOrNothing_iff hd h₂
  exact ⟨⟨d₁, h₁, h₁'⟩, ⟨d₂, h₂, h₂'⟩⟩

/-- **A start that fails and is taken for a running stream**: when alternate setting 0 cannot be
selected, `startStreaming` fails and leaves `_streamActive` set, and the next one reports
success though there is no pool and no thread. -/
theorem firstDriver_not_allOrNothing :
    firstDriver.initialized = true ∧ firstDriver.Idle ∧
      ∃ d, firstDriver.startStreaming Java.Builder.new.build (fun _ => -1) = some (false, d) ∧
        ¬ d.Idle ∧ d.startStreaming Java.Builder.new.build (fun _ => 0) = some (true, d) ∧
        ¬ d.Running := by
  refine ⟨rfl, ⟨rfl, rfl, rfl, rfl, rfl, rfl, rfl⟩,
    (firstDriver.beginStream Java.Builder.new.build).withLog [.setInterface 0 0], rfl, ?_, rfl, ?_⟩
  · exact fun h => absurd h.streamActive (by decide)
  · exact fun h => absurd h.framePool (by decide)

end UsbTvDriver

end UsbTv
