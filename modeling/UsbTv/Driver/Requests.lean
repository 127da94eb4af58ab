import UsbTv.Driver.Streaming

set_option relaxedAutoImplicit false
set_option autoImplicit false

/-!
# The record of requests

No call takes a request back: the record of the requests to the device only grows, and a start of an
inactive driver and a stop make one request at least.

## Main results

* `UsbTv.UsbTvDriver.stopStreaming_log`, `startStreaming_log` — starts and stops make requests.
-/

namespace UsbTv

namespace AndroidUsbDevice

lemma discardUrbs_log (urbs : List ℕ) (d : AndroidUsbDevice) :
    d.log <+: (discardUrbs urbs d).2.log := by
  induction urbs generalizing d with
  | nil => exact List.prefix_rfl
  | cons urb urbs ih =>
    have hurb : d.log <+: (d.discardUrb urb).2.log := List.prefix_append _ _
    exact hurb.trans (ih _)

lemma discardIsoUrbs_log (d : AndroidUsbDevice) : d.log <+: d.discardIsoUrbs.2.log := by
  unfold discardIsoUrbs
  split_ifs
  · exact List.prefix_rfl
  · exact discardUrbs_log d.isoUrbPool d

lemma freeIsoUrbs_log (d : AndroidUsbDevice) : d.log <+: d.freeIsoUrbs.log := by
  unfold freeIsoUrbs
  simp only [foldl_deleteUrb]
  split_ifs
  · exact d.discardIsoUrbs_log
  · exact List.prefix_rfl

lemma clearIsoUrbs_log (d : AndroidUsbDevice) : d.log <+: d.clearIsoUrbs.log := by
  have h : d.log <+: (if d.isoUrbsSubmitted > 0 then d.discardIsoUrbs.2 else d).log := by
    split_ifs
    · exact d.discardIsoUrbs_log
    · exact List.prefix_rfl
  unfold clearIsoUrbs
  generalize (if d.isoUrbsSubmitted > 0 then d.discardIsoUrbs.2 else d) = d₁ at h
  dsimp only
  split_ifs
  · exact h.trans d₁.freeIsoUrbs_log
  · exact h

lemma submitIsoUrbs_log (answer : ℕ → ℤ) (transfers : ℕ) (d : AndroidUsbDevice) :
    d.log <+: (submitIsoUrbs answer transfers d).log := by
  induction transfers generalizing d with
  | zero => exact List.prefix_rfl
  | succ transfers ih =>
    have hlog : d.log <+: (d.allocateUrb.2.submitUrb answer d.allocateUrb.1).2.log := by
      unfold submitUrb ioctl allocateUrb
      dsimp only
      split_ifs <;> exact List.prefix_append _ _
    rw [submitIsoUrbs]
    dsimp only
    split
    · next heq =>
      rw [heq] at hlog
      exact hlog
    · next d₁ heq =>
      rw [heq] at hlog
      apply hlog.trans
      exact ih { d₁ with
        isoUrbsSubmitted := (d₁.isoUrbsSubmitted + 1) % 2 ^ 8
        isoUrbPool := d₁.isoUrbPool ++ [d.allocateUrb.1] }

lemma initIsoUrbs_log (d : AndroidUsbDevice) (answer : ℕ → ℤ) (numTransfers : ℕ) :
    d.log <+: (d.initIsoUrbs answer numTransfers).2.log := by
  have h := d.clearIsoUrbs_log.trans (submitIsoUrbs_log answer numTransfers d.clearIsoUrbs)
  unfold initIsoUrbs
  dsimp only
  split_ifs
  · exact h.trans ((discardIsoUrbs_log _).trans (freeIsoUrbs_log _))
  · exact h

lemma startUrbAsyncRead_log (d : AndroidUsbDevice) : d.startUrbAsyncRead.2.log = d.log := by
  unfold startUrbAsyncRead
  split_ifs <;> rfl

lemma stopUrbAsyncRead_log (d : AndroidUsbDevice) : d.log <+: d.stopUrbAsyncRead.log := by
  unfold stopUrbAsyncRead
  split_ifs
  · exact discardIsoUrbs_log { d with urbThreadRunning := false, urbThread := false }
  · exact List.prefix_rfl

end AndroidUsbDevice

namespace UsbTvDriver

variable {d d' : UsbTvDriver} {answer : ℕ → ℤ}

/-- **A stop** makes a request. -/
lemma stopStreaming_log (hinit : d.initialized = true) (h : d.stopStreaming answer = some d') :
    d.usbConnection.log.length < d'.usbConnection.log.length := by
  have hlog : d.usbConnection.log <+: (if d.usbConnection.urbThreadRunning
      then d.usbConnection.stopUrbAsyncRead else d.usbConnection.discardIsoUrbs.2).log := by
    split_ifs
    · exact d.usbConnection.stopUrbAsyncRead_log
    · exact d.usbConnection.discardIsoUrbs_log
  rw [stopStreaming, if_pos hinit] at h
  generalize (if d.usbConnection.urbThreadRunning then d.usbConnection.stopUrbAsyncRead
    else d.usbConnection.discardIsoUrbs.2) = u at h hlog
  -- the request for alternate setting 0
  have hlt : d.usbConnection.log.length < (u.setInterface answer 0 0).2.log.length := by
    have hle := hlog.length_le
    show _ < (u.log ++ [Ioctl.setInterface 0 0]).length
    simp only [List.length_append, List.length_singleton]
    omega
  dsimp only at h
  by_cases hguard : d.frameProcessThread = true ∧ d.processThreadRunning = false
  · rw [if_pos hguard] at h
    exact absurd h (by simp)
  · rw [if_neg hguard] at h
    cases hptr : d.usbInputFrame with
    | indeterminate => simp [hptr] at h
    | null =>
      simp only [hptr, Option.some_inj] at h
      rw [← h]
      exact hlt
    | frame i =>
      simp only [hptr, Option.some_inj] at h
      rw [← h]
      exact hlt

lemma setRegisters_log (answer : ℕ → ℤ) (regs : List (ℕ × ℕ)) (d : UsbTvDriver) :
    d.usbConnection.log <+: (setRegisters answer regs d).2.usbConnection.log := by
  induction regs generalizing d with
  | nil => exact List.prefix_rfl
  | cons r regs ih =>
    obtain ⟨index, value⟩ := r
    have hlog : d.usbConnection.log <+:
        (d.usbConnection.controlTransfer answer value index).2.log := List.prefix_append _ _
    rw [setRegisters]
    split
    · next heq =>
      rw [heq] at hlog
      exact hlog
    · next heq =>
      rw [heq] at hlog
      apply hlog.trans
      exact ih { d with usbConnection := _ }

/-- Making the pool and fetching a frame touches nothing else. -/
lemma fetchFromNewPool_eq (h : d.allocateFramePool.bind fetchInputFrame = some d') :
    ∃ pool index, d' = { d with framePool := some pool, usbInputFrame := .frame index } := by
  obtain ⟨d₁, hd₁, hd'⟩ := Option.bind_eq_some_iff.mp h
  obtain ⟨pool₁, rfl⟩ : ∃ pool, d₁ = { d with framePool := pool } := by
    unfold allocateFramePool at hd₁
    split at hd₁
    · obtain rfl := Option.some_inj.mp hd₁
      exact ⟨_, rfl⟩
    · obtain ⟨pool, -, rfl⟩ := Option.map_eq_some_iff.mp hd₁
      exact ⟨_, rfl⟩
  unfold fetchInputFrame at hd'
  split at hd'
  · exact absurd hd' (by simp)
  · obtain ⟨index, -, rfl⟩ := Option.map_eq_some_iff.mp hd'
    exact ⟨_, index, rfl⟩

/-- The second half of a start takes no request back. -/
lemma openStream_log {ok : Bool} (hinit : d.initialized = true)
    (h : d.openStream answer = some (ok, d')) :
    d.usbConnection.log.length ≤ d'.usbConnection.log.length := by
  obtain ⟨d₂, hd₂, h⟩ := Option.bind_eq_some_iff.mp h
  obtain ⟨pool, index, rfl⟩ := fetchFromNewPool_eq hd₂
  -- every exit is a stop of a driver with the requests of `d` on record, or a success
  have hstop : ∀ {e : UsbTvDriver},
      (e.stopStreaming answer).map (fun d => (false, d)) = some (ok, d') → e.initialized = true →
      d.usbConnection.log.length ≤ e.usbConnection.log.length →
      d.usbConnection.log.length ≤ d'.usbConnection.log.length := by
    intro e hfail hinitE hle
    obtain ⟨d₁, hd₁, heq⟩ := Option.map_eq_some_iff.mp hfail
    obtain ⟨-, rfl⟩ := Prod.mk.inj heq
    have hlt := stopStreaming_log hinitE hd₁
    omega
  by_cases hthread : d.frameProcessThread = true
  · simp only [hthread, if_true] at h
    exact hstop h hinit le_rfl
  · simp only [hthread, Bool.false_eq_true, if_false] at h
    rw [setInterface_eq] at h
    have hset : d.usbConnection.log.length ≤
        (d.usbConnection.log ++ [Ioctl.setInterface 0 1]).length := by simp
    split at h
    · next heq =>
      obtain ⟨-, rfl⟩ := Prod.mk.inj heq
      exact hstop h hinit hset
    · next heq =>
      obtain ⟨-, rfl⟩ := Prod.mk.inj heq
      have husb := AndroidUsbDevice.initIsoUrbs_log
        { d.usbConnection with log := d.usbConnection.log ++ [.setInterface 0 1] } answer
        usbtvIsocTransfers
      have hle := hset.trans husb.length_le
      split at h
      · next usb heq =>
        have hsnd : _ = usb := congrArg Prod.snd heq
        apply hstop h hinit
        rw [← hsnd]
        exact hle
      · next usb heq =>
        have hsnd : _ = usb := congrArg Prod.snd heq
        have hread : d.usbConnection.log.length ≤ usb.startUrbAsyncRead.2.log.length := by
          rw [usb.startUrbAsyncRead_log, ← hsnd]
          exact hle
        split at h
        · next usb' heq' =>
          rw [heq'] at hread
          exact hstop h hinit hread
        · next usb' heq' =>
          rw [heq'] at hread
          obtain ⟨-, rfl⟩ := Prod.mk.inj (Option.some_inj.mp h)
          exact hread

/-- **A start of an inactive driver** makes a request. -/
lemma startStreaming_log {params : Java.DeviceParams} {ok : Bool} (hinit : d.initialized = true)
    (hactive : d.streamActive = false) (h : d.startStreaming params answer = some (ok, d')) :
    d.usbConnection.log.length < d'.usbConnection.log.length := by
  set b := d.beginStream params with hb
  have hlt : d.usbConnection.log.length <
      (d.usbConnection.log ++ [Ioctl.setInterface 0 0]).length := by simp
  rw [startStreaming, if_pos ⟨hinit, hactive⟩, ← hb, setInterface_eq] at h
  split at h
  · next heq =>
    obtain ⟨-, rfl⟩ := Prod.mk.inj heq
    obtain ⟨-, rfl⟩ := Prod.mk.inj (Option.some_inj.mp h)
    exact hlt
  · next heq =>
    obtain ⟨-, rfl⟩ := Prod.mk.inj heq
    -- writing registers makes more requests
    have hregs : ∀ {regs : List (ℕ × ℕ)} {e e' : UsbTvDriver} {success : Bool},
        setRegisters answer regs e = (success, e') → e.initialized = true →
        d.usbConnection.log.length < e.usbConnection.log.length →
        e'.initialized = true ∧ d.usbConnection.log.length < e'.usbConnection.log.length := by
      intro regs e e' success heq hinitE hltE
      have hle := (setRegisters_log answer regs e).length_le
      rw [heq] at hle
      refine ⟨?_, hltE.trans_le hle⟩
      rcases setRegisters_cases answer regs e with ⟨log, hcase⟩ | hcase
      · rw [heq] at hcase
        rw [(Prod.mk.inj hcase).2]
        exact hinitE
      · rw [heq] at hcase
        rw [(Prod.mk.inj hcase).2]
        exact hinitE
    split at h
    · next heq₁ =>
      obtain ⟨-, rfl⟩ := Prod.mk.inj (Option.some_inj.mp h)
      exact (hregs heq₁ hinit hlt).2
    next heq₁ =>
    obtain ⟨hinit₁, hlt₁⟩ := hregs heq₁ hinit hlt
    split at h
    · next heq₂ =>
      obtain ⟨-, rfl⟩ := Prod.mk.inj (Option.some_inj.mp h)
      exact (hregs heq₂ hinit₁ hlt₁).2
    next heq₂ =>
    obtain ⟨hinit₂, hlt₂⟩ := hregs heq₂ hinit₁ hlt₁
    split at h
    · next heq₃ =>
      obtain ⟨-, rfl⟩ := Prod.mk.inj (Option.some_inj.mp h)
      exact (hregs heq₃ hinit₂ hlt₂).2
    next heq₃ =>
    obtain ⟨hinit₃, hlt₃⟩ := hregs heq₃ hinit₂ hlt₂
    exact hlt₃.trans_le (openStream_log hinit₃ h)

end UsbTvDriver

end UsbTv
