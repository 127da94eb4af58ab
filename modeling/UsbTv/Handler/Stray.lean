import UsbTv.Lib.Unwinding
import UsbTv.Handler.Instances

set_option relaxedAutoImplicit false
set_option autoImplicit false

/-!
# Messages to a device that is not open

User code keeps its driver interface after the device was closed, and may still send messages
through it. `closeDevice` tests `mIsOpen`; the other messages do not, and they call the native
library, which by then may drive the device of another object. Such messages are *stray*. Where all
of them leave the driver alone, the run is as if they had never been handled: two states are *alike*
if they differ at most in objects that were closed, and this is an unwinding relation for stray
messages.

## Main definitions

* `UsbTv.App.Stray` — a message is handled while the device is not open.
* `UsbTv.Java.Message.Harmless` — what a stray message must find to leave the driver alone.
* `UsbTv.App.Alike` — the unwinding relation.

## Main results

* `UsbTv.Java.UsbTvInstance.handleMessage_harmless` — which stray messages change the driver.
* `UsbTv.App.usbtv_of_purge` — runs without their stray messages.
* `UsbTv.App.stray_changes` — a closed object that changes the input of another.
-/

namespace UsbTv

open Java

/-! ## Requests -/

namespace Jni

/-- The number of requests made to the device. -/
def requests (usbtv : Option NativeDriver) : ℕ :=
  match usbtv with
  | some d => d.usbConnection.log.length
  | none => 0

variable {d : NativeDriver} {usbtv : Option NativeDriver} {answer : ℕ → ℤ}

/-- A start of an inactive driver makes a request. -/
lemma requests_startStreaming {params : DeviceParams} {ok : Bool} (hinit : d.initialized = true)
    (hactive : d.streamActive = false)
    (h : usbtvStartStreaming (some d) params answer = some (ok, usbtv)) :
    requests (some d) < requests usbtv := by
  obtain ⟨⟨ok', d'⟩, hd', heq⟩ := Option.map_eq_some_iff.mp h
  obtain ⟨-, rfl⟩ := Prod.mk.inj heq
  exact UsbTvDriver.startStreaming_log hinit hactive hd'

/-- A stop makes a request, and leaves an inactive driver. -/
lemma requests_stopStreaming (hinit : d.initialized = true)
    (h : usbtvStopStreaming (some d) answer = some usbtv) :
    ∃ d', usbtv = some d' ∧ d'.initialized = true ∧ d'.streamActive = false ∧
      requests (some d) < requests usbtv := by
  obtain ⟨d', hd', rfl⟩ := Option.map_eq_some_iff.mp h
  obtain ⟨hactive, hsame⟩ := UsbTvDriver.stopStreaming_settings hinit hd'
  exact ⟨_, rfl, hsame.initialized.trans hinit, hactive, UsbTvDriver.stopStreaming_log hinit hd'⟩

end Jni

/-- `setTvInput` with the input that the driver has changes nothing. -/
lemma UsbTvDriver.setTvInput_of_input_eq {d : UsbTvDriver} {input : InputSelection}
    (h : d.input = .cast input.ordinal) (answer : ℕ → ℤ) :
    (d.setTvInput answer input.ordinal).2 = d := by
  have hsame : { d with input := .cast input.ordinal } = d := by rw [← h]
  have hnot : ¬ (d.streamActive = true ∧ d.input ≠ .cast input.ordinal) := fun hne => hne.2 h
  cases input with
  | composite =>
    rw [setTvInput, if_pos (by rfl)]
    dsimp only
    split_ifs with hyes
    · exact absurd hyes hnot
    · exact hsame
  | svideo =>
    rw [setTvInput, if_neg (by decide), if_pos (by rfl)]
    dsimp only
    split_ifs with hyes
    · exact absurd hyes hnot
    · exact hsame

/-! ## Calls that change the driver -/

namespace Jni

variable {usbtv usbtv' : Option NativeDriver} {answer : ℕ → ℤ}

/-- A start changes an inactive driver. -/
lemma startStreaming_eq_iff {params : DeviceParams} {ok : Bool} (hi : Initialized usbtv)
    (h : usbtvStartStreaming usbtv params answer = some (ok, usbtv')) :
    usbtv' = usbtv ↔ ∀ d ∈ usbtv, d.streamActive = true := by
  cases usbtv with
  | none => exact iff_of_true (Calls.eq_none (.startStreaming h) rfl) (by simp)
  | some d =>
    cases hactive : d.streamActive with
    | true =>
      simp only [usbtvStartStreaming, UsbTvDriver.startStreaming_of_active hactive,
        Option.map_some, Option.some_inj, Prod.mk.injEq] at h
      apply iff_of_true h.2.symm
      rintro d₁ ⟨⟩
      exact hactive
    | false =>
      have hlt := requests_startStreaming (hi d rfl) hactive h
      refine iff_of_false (fun heq => ?_) fun hall => ?_
      · rw [heq] at hlt
        exact absurd hlt (lt_irrefl _)
      · exact absurd (hactive.symm.trans (hall d rfl)) (by simp)

/-- A stop changes every driver. -/
lemma stopStreaming_eq_iff (hi : Initialized usbtv)
    (h : usbtvStopStreaming usbtv answer = some usbtv') : usbtv' = usbtv ↔ usbtv = none := by
  cases usbtv with
  | none => exact iff_of_true (Calls.eq_none (.stopStreaming h) rfl) rfl
  | some d =>
    obtain ⟨d', rfl, -, -, hlt⟩ := requests_stopStreaming (hi d rfl) h
    refine iff_of_false (fun heq => ?_) (by simp)
    rw [heq] at hlt
    exact absurd hlt (lt_irrefl _)

/-- A stop and a start change every driver. -/
lemma restart_eq_iff {params : DeviceParams} {ok : Bool} {usbtv'' : Option NativeDriver}
    (hi : Initialized usbtv) (hstop : usbtvStopStreaming usbtv answer = some usbtv')
    (hstart : usbtvStartStreaming usbtv' params answer = some (ok, usbtv'')) :
    usbtv'' = usbtv ↔ usbtv = none := by
  cases usbtv with
  | none => exact iff_of_true (Calls.eq_none (.trans (.stopStreaming hstop)
      (.startStreaming hstart)) rfl) rfl
  | some d =>
    obtain ⟨d', rfl, hinit', hactive', hlt⟩ := requests_stopStreaming (hi d rfl) hstop
    have hlt' := requests_startStreaming hinit' hactive' hstart
    refine iff_of_false (fun heq => ?_) (by simp)
    rw [heq] at hlt'
    omega

/-- `setInput` changes a driver with another input. -/
lemma setInput_eq_iff (usbtv : Option NativeDriver) (input : InputSelection) (answer : ℕ → ℤ) :
    (usbtvSetInput usbtv input.ordinal answer).2 = usbtv ↔
      ∀ d ∈ usbtv, d.input = .cast input.ordinal := by
  cases usbtv with
  | none => exact iff_of_true rfl (by simp)
  | some d =>
    have hresult : (usbtvSetInput (some d) input.ordinal answer).2 =
        some { d with toUsbTvDriver := (d.setTvInput answer input.ordinal).2 } := rfl
    rw [hresult, Option.some_inj]
    refine ⟨fun heq => ?_, fun hall => ?_⟩
    · rintro d₁ ⟨⟩
      rw [← heq]
      exact d.setTvInput_input answer input
    · rw [UsbTvDriver.setTvInput_of_input_eq (hall d rfl) answer]

/-- `useCallback` changes a driver with another flag. -/
lemma useCallback_eq_iff (usbtv : Option NativeDriver) (shouldUse : Bool) :
    usbtvUseCallback usbtv shouldUse = usbtv ↔ ∀ d ∈ usbtv, d.useCallback = shouldUse := by
  cases usbtv with
  | none => exact iff_of_true rfl (by simp)
  | some d =>
    have hresult : usbtvUseCallback (some d) shouldUse =
        some { d with useCallback := shouldUse } := rfl
    rw [hresult, Option.some_inj]
    refine ⟨fun heq => ?_, fun hall => ?_⟩
    · rintro d₁ ⟨⟩
      rw [← heq]
    · rw [← hall d rfl]

end Jni

/-! ## Stray messages -/

/-- What a stray message to the object must find in order to leave the driver alone. -/
def Java.Message.Harmless (u : UsbTvInstance) (usbtv : Option NativeDriver) : Message → Prop
  | .openDevice | .closeDevice | .setControl _ => True
  | .startStreaming => u.mIsStreaming = true ∨ ∀ d ∈ usbtv, d.streamActive = true
  | .stopStreaming | .setNorm _ | .setScanType _ => u.mIsStreaming = false ∨ usbtv = none
  | .setInput input => ∀ d ∈ usbtv, d.input = .cast input.ordinal
  | .setFrameListener listener =>
    u.mIsStreaming = true ∨ ∀ d ∈ usbtv, d.useCallback = listener.isSome

instance (u : UsbTvInstance) (usbtv : Option NativeDriver) (msg : Message) :
    Decidable (msg.Harmless u usbtv) :=
  match msg with
  | .openDevice | .closeDevice | .setControl _ => inferInstanceAs (Decidable True)
  | .startStreaming | .setFrameListener _ => inferInstanceAs (Decidable (_ ∨ ∀ d ∈ usbtv, _))
  | .stopStreaming | .setNorm _ | .setScanType _ =>
    inferInstanceAs (Decidable (_ ∨ usbtv = none))
  | .setInput _ => inferInstanceAs (Decidable (∀ d ∈ usbtv, _))

namespace App

/-- A message is handled while the device is not open: any but `OPEN_DEVICE`, which no driver
interface sends. -/
def Stray (s : App) : AppEvent → Prop
  | .handle i _ => ∃ x ∈ s.instances[i]?, x.self.mIsOpen = false ∧
      ∃ msg ∈ x.queue.head?, msg ≠ .openDevice
  | _ => False

instance (s : App) (e : AppEvent) : Decidable (Stray s e) :=
  match e with
  | .handle i _ => inferInstanceAs (Decidable (∃ x ∈ s.instances[i]?, _ ∧ ∃ msg ∈ x.queue.head?, _))
  | .registerUsbReceiver | .unregisterUsbReceiver | .usbTvOpen _ _ _ _ | .permission _ _
  | .send _ _ | .thread _ => inferInstanceAs (Decidable False)

/-- The condition on a step: a stray message finds what it must to leave the driver alone. -/
def Harmless (s : App) : AppEvent → Prop
  | .handle i _ => ∀ x ∈ s.instances[i]?, x.self.mIsOpen = false →
      ∀ msg ∈ x.queue.head?, msg.Harmless x.self s.shared.usbtv
  | _ => True

instance (s : App) (e : AppEvent) : Decidable (Harmless s e) :=
  match e with
  | .handle i _ =>
    inferInstanceAs (Decidable (∀ x ∈ s.instances[i]?, _ → ∀ msg ∈ x.queue.head?, _))
  | .registerUsbReceiver | .unregisterUsbReceiver | .usbTvOpen _ _ _ _ | .permission _ _
  | .send _ _ | .thread _ => inferInstanceAs (Decidable True)

end App

namespace Java.UsbTvInstance

variable {self : UsbTvInstance} {shared : Shared} {env : Environment} {r : Handled}

/-- A restart of a stream changes the driver, and nothing else does. -/
lemma restartStream_harmless {answer : ℕ → ℤ} (hi : Jni.Initialized shared.usbtv)
    (h : self.restartStream shared answer = some r) :
    r.shared.usbtv = shared.usbtv ↔ (self.mIsStreaming = false ∨ shared.usbtv = none) := by
  unfold restartStream at h
  split_ifs at h with hstreaming
  · obtain ⟨usbtv₁, hstop, h⟩ := Option.bind_eq_some_iff.mp h
    obtain ⟨⟨ok, usbtv₂⟩, hstart, rfl⟩ := Option.map_eq_some_iff.mp h
    refine (Jni.restart_eq_iff hi hstop hstart).trans ⟨.inr, fun hor => ?_⟩
    exact hor.resolve_left (by simp [hstreaming])
  · obtain rfl := Option.some_inj.mp h
    exact iff_of_true rfl (.inl (by simpa using hstreaming))

/-- **Which messages to an object that is not open change the driver.** -/
lemma handleMessage_harmless {msg : Message} (hi : Jni.Initialized shared.usbtv)
    (hclosed : self.mIsOpen = false) (hmsg : msg ≠ .openDevice)
    (h : self.handleMessage shared env msg = some r) :
    r.shared.usbtv = shared.usbtv ↔ msg.Harmless self shared.usbtv := by
  cases msg with
  | openDevice => exact absurd rfl hmsg
  | closeDevice =>
    obtain ⟨-, -, ⟨hopen, -⟩ | ⟨-, hshared, -⟩⟩ := handleMessage_closeDevice h
    · exact absurd (hclosed.symm.trans hopen) (by simp)
    · exact iff_of_true (by rw [hshared]) trivial
  | startStreaming =>
    simp only [handleMessage] at h
    split_ifs at h with hstreaming
    · obtain rfl := Option.some_inj.mp h
      exact iff_of_true rfl (.inl hstreaming)
    · obtain ⟨⟨ok, usbtv⟩, hstart, rfl⟩ := Option.map_eq_some_iff.mp h
      refine (Jni.startStreaming_eq_iff hi hstart).trans ⟨.inr, fun hor => ?_⟩
      exact hor.resolve_left hstreaming
  | stopStreaming =>
    simp only [handleMessage] at h
    split_ifs at h with hstreaming
    · obtain ⟨usbtv, hstop, rfl⟩ := Option.map_eq_some_iff.mp h
      refine (Jni.stopStreaming_eq_iff hi hstop).trans ⟨.inr, fun hor => ?_⟩
      exact hor.resolve_left (by simp [hstreaming])
    · obtain rfl := Option.some_inj.mp h
      exact iff_of_true rfl (.inl (by simpa using hstreaming))
  | setInput input =>
    obtain rfl := Option.some_inj.mp h
    exact Jni.setInput_eq_iff shared.usbtv input env.answer
  | setNorm norm =>
    have hrestart := restartStream_harmless hi h
    exact hrestart
  | setScanType scanType =>
    have hrestart := restartStream_harmless hi h
    exact hrestart
  | setControl value => exact absurd h (by simp [handleMessage])
  | setFrameListener listener =>
    simp only [handleMessage] at h
    split_ifs at h with hstreaming
    · obtain rfl := Option.some_inj.mp h
      exact iff_of_true rfl (.inl hstreaming)
    · obtain rfl := Option.some_inj.mp h
      refine (Jni.useCallback_eq_iff shared.usbtv listener.isSome).trans ⟨.inr, fun hor => ?_⟩
      exact hor.resolve_left hstreaming

end Java.UsbTvInstance

/-! ## Runs that are alike -/

/-- The object was given out, and its device was closed. -/
structure Instance.Gone (x : Instance) : Prop where
  hasDriver : hasDriver x.callbacks = true
  mIsOpen : x.self.mIsOpen = false
  mUsbtvDevice : x.self.mUsbtvDevice = none

namespace App

/-- The two states differ at most in objects that were closed. -/
structure Alike (s t : App) : Prop where
  length : t.instances.length = s.instances.length
  instances : ∀ {i : ℕ} {x y : Instance}, s.instances[i]? = some x → t.instances[i]? = some y →
    y = x ∨ x.Gone ∧ y.Gone
  mReferenceList : t.mReferenceList = s.mReferenceList
  mUsbReceiverRegistered : t.mUsbReceiverRegistered = s.mUsbReceiverRegistered
  shared : t.shared = s.shared

variable {s s' t : App} {i : ℕ} {x y : Instance}

/-- An object that one state has, the other has too. -/
lemma Alike.getElem? (h : Alike s t) (hx : s.instances[i]? = some x) :
    ∃ y, t.instances[i]? = some y ∧ (y = x ∨ x.Gone ∧ y.Gone) := by
  have hlt : i < t.instances.length := by
    have := (List.getElem?_eq_some_iff.mp hx).1
    rw [h.length]
    exact this
  have hy := List.getElem?_eq_getElem hlt
  exact ⟨_, hy, h.instances hx hy⟩

/-- The objects have the same devices. -/
lemma Alike.deviceOf (h : Alike s t) (i : ℕ) : t.deviceOf i = s.deviceOf i := by
  unfold App.deviceOf
  cases hx : s.instances[i]? with
  | none =>
    rw [List.getElem?_eq_none_iff, ← h.length, ← List.getElem?_eq_none_iff] at hx
    rw [hx]
  | some x =>
    obtain ⟨y, hy, rfl | ⟨hgone, hgone'⟩⟩ := h.getElem? hx
    · rw [hy]
    · rw [hy]
      exact hgone'.mUsbtvDevice.trans hgone.mUsbtvDevice.symm

/-- The same devices are open. -/
lemma Alike.isOpen (h : Alike s t) (i : ℕ) : t.isOpen i = s.isOpen i := by
  unfold App.isOpen
  cases hx : s.instances[i]? with
  | none =>
    rw [List.getElem?_eq_none_iff, ← h.length, ← List.getElem?_eq_none_iff] at hx
    rw [hx]
  | some x =>
    obtain ⟨y, hy, rfl | ⟨hgone, hgone'⟩⟩ := h.getElem? hx
    · rw [hy]
    · rw [hy]
      exact hgone'.mIsOpen.trans hgone.mIsOpen.symm

/-- The same object of the list is found. -/
lemma Alike.findDevice (h : Alike s t) (dev : ℕ) : t.findDevice dev = s.findDevice dev := by
  unfold App.findDevice
  rw [h.mReferenceList]
  congr 1
  funext i
  rw [h.deviceOf i]

/-- The same object is taken off the list. -/
lemma Alike.remove (h : Alike s t) (i : ℕ) : Alike (s.remove i) (t.remove i) :=
  ⟨h.length, h.instances, by simp only [App.remove, h.mReferenceList], h.mUsbReceiverRegistered,
    h.shared⟩

/-- The same object is added. -/
lemma Alike.add (h : Alike s t) (x : Instance) : Alike (s.add x) (t.add x) := by
  refine ⟨by simp [App.add, h.length], fun {i y z} hy hz => ?_,
    by simp only [App.add, h.mReferenceList, h.length], h.mUsbReceiverRegistered, h.shared⟩
  rcases getElem?_concat_cases hy with hold | ⟨hi, rfl⟩
  · have hlt := (List.getElem?_eq_some_iff.mp hold).1
    rcases getElem?_concat_cases hz with hold' | ⟨hi', -⟩
    · exact h.instances hold hold'
    · rw [hi', h.length] at hlt
      exact absurd hlt (lt_irrefl _)
  · rcases getElem?_concat_cases hz with hold' | ⟨-, rfl⟩
    · have hlt := (List.getElem?_eq_some_iff.mp hold').1
      rw [hi, h.length] at hlt
      exact absurd hlt (lt_irrefl _)
    · exact .inl rfl

/-- An object changes in the same way, or is one that was closed in both states. -/
lemma Alike.update (h : Alike s t) (hxy : y = x ∨ x.Gone ∧ y.Gone) (i : ℕ) :
    Alike (s.update i x) (t.update i y) := by
  refine ⟨by simp [App.update, h.length], fun {j z w} hz hw => ?_, h.mReferenceList,
    h.mUsbReceiverRegistered, h.shared⟩
  rcases getElem?_set_cases hz with ⟨rfl, rfl⟩ | ⟨hj, hold⟩
  · rcases getElem?_set_cases hw with ⟨-, rfl⟩ | ⟨hj', -⟩
    · exact hxy
    · exact absurd rfl hj'
  · rcases getElem?_set_cases hw with ⟨rfl, -⟩ | ⟨-, hold'⟩
    · exact absurd rfl hj
    · exact h.instances hold hold'

/-- `open` does the same. -/
lemma Alike.usbTvOpen (h : Alike s t) (params : DeviceParams) (vendorId productId : ℕ)
    (hasPermission : Bool) :
    Alike (s.usbTvOpen params vendorId productId hasPermission).2
      (t.usbTvOpen params vendorId productId hasPermission).2 := by
  have hinst : ∀ {s t : App}, Alike s t →
      Alike (s.instantiate params vendorId productId hasPermission).2
        (t.instantiate params vendorId productId hasPermission).2 := by
    intro s t h
    unfold instantiate
    rw [h.mUsbReceiverRegistered]
    split_ifs
    · exact h
    · exact h.add _
    · exact h.add _
    · exact h.add _
  unfold App.usbTvOpen
  cases params.mDevice with
  | none => exact h
  | some dev =>
    dsimp only
    rw [h.findDevice dev]
    cases s.findDevice dev with
    | none => exact hinst h
    | some i =>
      dsimp only
      rw [h.isOpen i]
      split_ifs
      · exact hinst (h.remove i)
      · exact h

/-- The receiver does the same: the object that it finds has a device. -/
lemma Alike.onPermission (h : Alike s t) (dev : ℕ) (granted : Bool) :
    Alike (s.onPermission dev granted) (t.onPermission dev granted) := by
  unfold App.onPermission
  rw [h.findDevice dev]
  cases hfind : s.findDevice dev with
  | none => exact h
  | some i =>
    dsimp only
    cases hx : s.instances[i]? with
    | none =>
      rw [List.getElem?_eq_none_iff, ← h.length, ← List.getElem?_eq_none_iff] at hx
      rw [hx]
      exact h
    | some x =>
      have hdev := (findDevice_eq_some hfind).2
      simp only [App.deviceOf, hx, Option.bind_some] at hdev
      obtain ⟨y, hy, rfl | ⟨hgone, -⟩⟩ := h.getElem? hx
      · rw [hy]
        dsimp only
        split_ifs
        · exact h.update (.inl rfl) i
        · exact h.update (.inl rfl) i
        · exact (h.remove i).update (.inl rfl) i
      · exact absurd (hdev.symm.trans hgone.mUsbtvDevice) (by simp)

/-- An object that is well formed, was given out, and is not open, is gone. -/
lemma gone_of_closed (hx : x.WellFormed) (hdriver : hasDriver x.callbacks = true)
    (hopen : x.self.mIsOpen = false) : x.Gone :=
  ⟨hdriver, hopen, (hx.closed hdriver hopen).1⟩

/-- **A stray message is not seen** if it is harmless. -/
lemma Alike.skip {e : AppEvent} (hs : WellFormed s) (hc : Harmless s e)
    (hstep : s.step e = some s') (hstray : Stray s e) (h : Alike s t) : Alike s' t := by
  cases e with
  | handle i env =>
    obtain ⟨x₀, hx₀, hopen, msg₀, hmsg₀, hne⟩ := hstray
    obtain ⟨x, msg, queue, r, hx, hqueue, hr, rfl⟩ := handle_cases hstep
    obtain rfl := Option.some_inj.mp (hx.symm.trans hx₀)
    obtain rfl : msg₀ = msg := by
      rw [hqueue] at hmsg₀
      exact (Option.some_inj.mp hmsg₀).symm
    have hwf := hs.instances hx
    -- the message came through the driver interface, so the object was closed
    have hdriver : hasDriver x.callbacks = true := by
      by_contra hnot
      have hall := (hwf.fresh (by simpa using hnot)).2
      rw [hqueue] at hall
      exact hne (hall _ List.mem_cons_self)
    have hgone := gone_of_closed hwf hdriver hopen
    have hgone' : Instance.Gone ⟨r.self, queue, x.callbacks ++ r.callbacks⟩ := by
      apply gone_of_closed (hwf.handled hqueue hr) (by simp [hdriver])
      by_cases hclose : msg₀ = .closeDevice
      · subst hclose
        obtain ⟨-, -, ⟨-, -, hself⟩ | ⟨-, -, hself⟩⟩ :=
          UsbTvInstance.handleMessage_closeDevice hr
        · rw [hself]
        · rw [hself]
          exact hopen
      · exact (UsbTvInstance.handleMessage_keeps hne hclose hr).mIsOpen.trans hopen
    have hnot : i ∉ s.mReferenceList := by
      intro hmem
      obtain ⟨z, hz, hkeep⟩ := hs.listed.instances hmem
      obtain rfl := Option.some_inj.mp (hx.symm.trans hz)
      exact absurd (hopen.symm.trans (hkeep hdriver)) (by simp)
    have hlist : (if r.removed then s.remove i else s) = s := by
      split_ifs
      · unfold App.remove
        rw [List.erase_of_not_mem hnot]
      · rfl
    have hshared : r.shared = s.shared := by
      have husbtv := (UsbTvInstance.handleMessage_harmless hs.initialized hopen hne hr).mpr
        (hc x hx hopen msg₀ (by rw [hqueue]; rfl))
      by_cases hclose : msg₀ = .closeDevice
      · subst hclose
        obtain ⟨-, -, ⟨hyes, -⟩ | ⟨-, hshared, -⟩⟩ :=
          UsbTvInstance.handleMessage_closeDevice hr
        · exact absurd (hopen.symm.trans hyes) (by simp)
        · exact hshared
      · have hhost := (UsbTvInstance.handleMessage_keeps hne hclose hr).host
        cases hr' : r.shared
        cases hs' : s.shared
        rw [hr', hs'] at husbtv hhost
        exact congrArg₂ Shared.mk husbtv hhost
    rw [hlist, hshared]
    refine ⟨by simp [App.update, h.length], fun {j z w} hz hw => ?_, h.mReferenceList,
      h.mUsbReceiverRegistered, h.shared⟩
    rcases getElem?_set_cases hz with ⟨rfl, rfl⟩ | ⟨-, hold⟩
    · rcases h.instances hx hw with rfl | ⟨-, hw'⟩
      · exact .inr ⟨hgone', hgone⟩
      · exact .inr ⟨hgone', hw'⟩
    · exact h.instances hold hw
  | registerUsbReceiver | unregisterUsbReceiver | usbTvOpen | permission | send | thread =>
    exact absurd hstray (by simp [Stray])

/-- **Any other event happens alike.** -/
lemma Alike.follow {e : AppEvent} (hs : WellFormed s) (hstep : s.step e = some s')
    (hstray : ¬ Stray s e) (h : Alike s t) : ∃ t', t.step e = some t' ∧ Alike s' t' := by
  cases e with
  | registerUsbReceiver =>
    obtain rfl := Option.some_inj.mp hstep
    exact ⟨_, rfl, h.length, h.instances, h.mReferenceList, rfl, h.shared⟩
  | unregisterUsbReceiver =>
    obtain rfl := Option.some_inj.mp hstep
    exact ⟨_, rfl, h.length, h.instances, h.mReferenceList, rfl, h.shared⟩
  | usbTvOpen params vendorId productId hasPermission =>
    obtain rfl := Option.some_inj.mp hstep
    exact ⟨_, rfl, h.usbTvOpen params vendorId productId hasPermission⟩
  | permission dev granted =>
    simp only [step] at hstep ⊢
    rw [h.mUsbReceiverRegistered]
    split_ifs at hstep ⊢
    obtain rfl := Option.some_inj.mp hstep
    exact ⟨_, rfl, h.onPermission dev granted⟩
  | send i msg =>
    obtain ⟨x, hx, hdriver, hmsg, rfl⟩ := step_send hstep
    obtain ⟨y, hy, hxy⟩ := h.getElem? hx
    have hgiven : hasDriver y.callbacks = true := by
      rcases hxy with rfl | ⟨-, hgone⟩
      · exact hdriver
      · exact hgone.hasDriver
    refine ⟨t.update i { y with queue := y.queue ++ [msg] }, ?_, h.update ?_ i⟩
    · simp only [step, hy]
      rw [if_pos ⟨hgiven, hmsg⟩]
    · rcases hxy with rfl | ⟨hgone, hgone'⟩
      · exact .inl rfl
      · exact .inr ⟨⟨hgone.hasDriver, hgone.mIsOpen, hgone.mUsbtvDevice⟩,
          ⟨hgone'.hasDriver, hgone'.mIsOpen, hgone'.mUsbtvDevice⟩⟩
  | handle i env =>
    obtain ⟨x, msg, queue, r, hx, hqueue, hr, rfl⟩ := handle_cases hstep
    obtain ⟨y, hy, rfl | ⟨hgone, -⟩⟩ := h.getElem? hx
    · refine ⟨{ (if r.removed then t.remove i else t).update i
        ⟨r.self, queue, y.callbacks ++ r.callbacks⟩ with shared := r.shared }, ?_, ?_⟩
      · simp only [step, App.handle, hy, hqueue, h.shared, hr, Option.map_some]
      · have hdone : Alike (if r.removed then s.remove i else s)
            (if r.removed then t.remove i else t) := by
          split_ifs
          · exact h.remove i
          · exact h
        have hupdate := hdone.update (.inl rfl : (⟨r.self, queue, y.callbacks ++ r.callbacks⟩ :
          Instance) = _ ∨ _) i
        exact ⟨hupdate.length, hupdate.instances, hupdate.mReferenceList,
          hupdate.mUsbReceiverRegistered, rfl⟩
    · -- a message to an object that is gone is stray
      refine absurd ⟨x, hx, hgone.mIsOpen, msg, by rw [hqueue]; rfl, fun hmsg => ?_⟩ hstray
      have hmem := ((hs.instances hx).closed hgone.hasDriver hgone.mIsOpen).2
      rw [hqueue, hmsg] at hmem
      exact hmem List.mem_cons_self
  | thread e =>
    obtain ⟨d, hd, rfl⟩ := Option.map_eq_some_iff.mp hstep
    refine ⟨{ t with shared := { s.shared with usbtv := some d } }, ?_, h.length, h.instances,
      h.mReferenceList, h.mUsbReceiverRegistered, rfl⟩
    simp only [step, h.shared, hd, Option.map_some]

/-- Being alike is an unwinding relation for stray messages, if they are harmless. -/
lemma unwinding_alike : StepSystem.Unwinding apps Harmless Stray Alike where
  skip _ _ _ _ hs hc hstep hstray h := h.skip (wellFormed_of_reachable hs) hc hstep hstray
  follow _ _ _ _ hs _ hstep hstray h := h.follow (wellFormed_of_reachable hs) hstep hstray

lemma alike_refl (s : App) : Alike s s :=
  ⟨rfl, fun hx hy => .inl (Option.some_inj.mp (hy.symm.trans hx)), rfl, rfl, rfl⟩

/-- **Runs without their stray messages.** In a run all of whose stray messages are harmless, the
driver is in the end as it is after the same run without them; and the next stray message leaves the
driver as it is if and only if it is harmless too. -/
theorem usbtv_of_purge {es : List AppEvent} (h : apps.runUnder Harmless .new es = some s) :
    (∃ t, apps.run .new (apps.purge Stray .new es) = some t ∧
        t.shared.usbtv = s.shared.usbtv) ∧
      ∀ e s', Stray s e → apps.step s e = some s' →
        (s'.shared.usbtv = s.shared.usbtv ↔ Harmless s e) := by
  have hnew : apps.ReachableUnder Harmless .new := .init rfl
  obtain ⟨t, hrun, halike⟩ := unwinding_alike.run_purge hnew (alike_refl _) h
  refine ⟨⟨t, hrun, by rw [halike.shared]⟩, fun e s' hstray hstep => ?_⟩
  have hs := wellFormed_of_reachable (hnew.runUnder h)
  cases e with
  | handle i env =>
    obtain ⟨x, hx, hopen, msg, hmsg, hne⟩ := hstray
    obtain ⟨x', msg', queue, r, hx', hqueue, hr, rfl⟩ := handle_cases hstep
    obtain rfl := Option.some_inj.mp (hx'.symm.trans hx)
    obtain rfl : msg = msg' := by
      rw [hqueue] at hmsg
      exact (Option.some_inj.mp hmsg).symm
    refine (UsbTvInstance.handleMessage_harmless hs.initialized hopen hne hr).trans
      ⟨fun hharmless => ?_, fun hharmless => hharmless x' hx hopen msg hmsg⟩
    intro z hz _ m hm
    obtain rfl := Option.some_inj.mp (hx'.symm.trans hz)
    obtain rfl := Option.some_inj.mp (hmsg.symm.trans hm)
    exact hharmless
  | registerUsbReceiver | unregisterUsbReceiver | usbTvOpen | permission | send | thread =>
    exact absurd hstray (by simp [Stray])

/-! ## Two devices -/

/-- Device 0 is opened and closed, and device 1 is opened; then messages are sent through the driver
interface of the first. -/
def staleEvents (msgs : List Message) : List AppEvent :=
  [openEvent 0, .handle 0 (answering 0), .send 0 .closeDevice, .handle 0 (answering 0),
    openEvent 1, .handle 1 (answering 0)] ++
    msgs.flatMap fun msg => [.send 0 msg, .handle 0 (answering 0)]

/-- Messages that find what they must: the driver has this input, no stream is on record at the
object, and a second `CLOSE_DEVICE` does nothing. -/
def harmlessMessages : List Message :=
  [.setInput .composite, .setScanType .interleaved, .stopStreaming, .closeDevice]

/-- Such messages are sent to the closed object while the other one is open. -/
theorem usbtv_of_purge_harmless :
    ∃ s t : App, apps.runUnder Harmless .new (staleEvents harmlessMessages) = some s ∧
      apps.run .new (apps.purge Stray .new (staleEvents harmlessMessages)) = some t ∧
      t.shared.usbtv = s.shared.usbtv ∧ s.isOpen 1 = true ∧
      ∀ e s', Stray s e → apps.step s e = some s' →
        (s'.shared.usbtv = s.shared.usbtv ↔ Harmless s e) := by
  have h : (apps.runUnder Harmless .new (staleEvents harmlessMessages)).map
      (fun s => s.isOpen 1) = some true := by decide
  obtain ⟨s, hrun, hopen⟩ := Option.map_eq_some_iff.mp h
  obtain ⟨⟨t, ht, heq⟩, hnext⟩ := usbtv_of_purge hrun
  exact ⟨s, t, hrun, ht, heq, hopen, hnext⟩

/-- **A closed object that changes the input of another**: the driver of device 1 has taken over the
input that was meant for device 0. -/
theorem stray_changes :
    ¬ ∀ es s, apps.run .new es = some s →
      ∃ t, apps.run .new (apps.purge Stray .new es) = some t ∧
        t.shared.usbtv = s.shared.usbtv := by
  intro hclaim
  have h : (apps.run .new (staleEvents [.setInput .svideo])).map
      (fun s => s.shared.usbtv.map fun d => d.input) = some (some .usbtvSvideoInput) := by decide
  have hpurged : (apps.run .new (apps.purge Stray .new (staleEvents [.setInput .svideo]))).map
      (fun s => s.shared.usbtv.map fun d => d.input) = some (some .usbtvCompositeInput) := by decide
  obtain ⟨s, hrun, hinput⟩ := Option.map_eq_some_iff.mp h
  obtain ⟨t, ht, heq⟩ := hclaim _ s hrun
  rw [ht, Option.map_some, heq, hinput] at hpurged
  exact absurd hpurged (by decide)

end App

end UsbTv
