import Mathlib.Data.Finset.Card
import UsbTv.Handler.Instances

set_option relaxedAutoImplicit false
set_option autoImplicit false

/-!
# The list of open devices

`mReferenceList` should have every open object, and one for each device at most. `open` takes an
object of the list that is not open for one that has failed, and forgets it; a denied permission
takes the object off the list whatever its state. Neither looks at the messages that wait for the
handler: an object whose `OPEN_DEVICE` is still pending opens its device outside the list, or is
taken off by its second `OPEN_DEVICE`, which fails.

## Main definitions

* `UsbTv.App.Tracked` — the list has the open objects, and one for each device.
* `UsbTv.App.Settled` — the condition that nothing is pending for the object that is found.

## Main results

* `UsbTv.App.tracked_of_reachable` — when the list tracks the open devices.
* `UsbTv.App.unlisted_of_unsettled`, `untracked_of_handle`, `untracked_of_denied` — what comes of
  the other steps.
* `UsbTv.App.secondOpen_untracked` — a second `open` before the first is handled.
-/

namespace UsbTv

open Java

namespace App

variable {s s' : App} {i j : ℕ} {x y : Instance}

/-! ## What is asked of an object -/

/-- The messages that wait for the handler of an object. -/
def queueOf (s : App) (i : ℕ) : List Message := (s.instances[i]?.map fun x => x.queue).getD []

lemma deviceOf_eq (hx : s.instances[i]? = some x) : s.deviceOf i = x.self.mUsbtvDevice := by
  rw [deviceOf, hx]
  rfl

lemma isOpen_eq (hx : s.instances[i]? = some x) : s.isOpen i = x.self.mIsOpen := by
  rw [isOpen, hx]
  rfl

lemma queueOf_eq (hx : s.instances[i]? = some x) : s.queueOf i = x.queue := by
  rw [queueOf, hx]
  rfl

/-- The object after it has changed. -/
lemma getElem?_update_self (hx : s.instances[i]? = some x) (y : Instance) :
    (s.update i y).instances[i]? = some y :=
  List.getElem?_set_self (List.getElem?_eq_some_iff.mp hx).1

/-- The other objects have not changed. -/
lemma getElem?_update_of_ne (h : j ≠ i) (y : Instance) :
    (s.update i y).instances[j]? = s.instances[j]? :=
  List.getElem?_set_ne h.symm

/-- A new object leaves the others alone. -/
lemma getElem?_add_of_ne (h : j ≠ s.instances.length) (x : Instance) :
    (s.add x).instances[j]? = s.instances[j]? := by
  show (s.instances ++ [x])[j]? = _
  rcases Nat.lt_or_gt_of_ne h with hlt | hgt
  · exact List.getElem?_append_left hlt
  · rw [List.getElem?_eq_none (by simp; omega), List.getElem?_eq_none (by omega)]

/-- The new object. -/
lemma getElem?_add_self (x : Instance) : (s.add x).instances[s.instances.length]? = some x :=
  List.getElem?_concat_length

/-! ## Open devices -/

/-- The list has one object for each device at most, and every open one; so `open` refuses a device
that is open, and changes nothing. -/
structure Tracked (s : App) : Prop where
  unique : ∀ dev, (s.mReferenceList.filter fun i => s.deviceOf i == some dev).length ≤ 1
  listed : ∀ i, s.isOpen i = true → i ∈ s.mReferenceList
  refused : ∀ i params vendorId productId hasPermission, s.isOpen i = true →
    params.mDevice = s.deviceOf i →
      s.usbTvOpen params vendorId productId hasPermission = (false, s)

/-- The condition on a step: where `open` or the receiver finds an object for the device, it is
open, or no `OPEN_DEVICE` waits for it; and a denied permission does not find an open one. -/
def Settled (s : App) : AppEvent → Prop
  | .usbTvOpen params _ _ _ => ∀ dev ∈ params.mDevice, ∀ i ∈ s.findDevice dev,
      s.isOpen i = false → .openDevice ∉ s.queueOf i
  | .permission dev granted => ∀ i ∈ s.findDevice dev,
      (s.isOpen i = false → .openDevice ∉ s.queueOf i) ∧ (granted = false → s.isOpen i = false)
  | _ => True

instance (s : App) (e : AppEvent) : Decidable (Settled s e) :=
  match e with
  | .usbTvOpen params _ _ _ =>
    inferInstanceAs (Decidable (∀ dev ∈ params.mDevice, ∀ i ∈ s.findDevice dev, _ → _))
  | .permission dev _ => inferInstanceAs (Decidable (∀ i ∈ s.findDevice dev, (_ → _) ∧ (_ → _)))
  | .registerUsbReceiver | .unregisterUsbReceiver | .send _ _ | .handle _ _ | .thread _ =>
    inferInstanceAs (Decidable True)

/-- What holds of the list between two steps: its objects have devices, and different ones; every
open object is in it; and an object that is to open its device is in it, is not open, and has
nothing else to do. -/
structure ListSound (s : App) : Prop where
  device : ∀ {i : ℕ}, i ∈ s.mReferenceList → s.deviceOf i ≠ none
  distinct : ∀ {i j : ℕ}, i ∈ s.mReferenceList → j ∈ s.mReferenceList →
    s.deviceOf i = s.deviceOf j → i = j
  opened : ∀ {i : ℕ}, s.isOpen i = true → i ∈ s.mReferenceList
  pending : ∀ {i : ℕ}, .openDevice ∈ s.queueOf i →
    i ∈ s.mReferenceList ∧ s.isOpen i = false ∧ s.queueOf i = [.openDevice]

namespace ListSound

/-- Only the objects and the list matter. -/
lemma congr (hs : ListSound s) (hinst : s'.instances = s.instances)
    (hlist : s'.mReferenceList = s.mReferenceList) : ListSound s' := by
  have hdev : s'.deviceOf = s.deviceOf := by
    funext i
    rw [deviceOf, hinst]
    rfl
  have hopen : s'.isOpen = s.isOpen := by
    funext i
    rw [isOpen, hinst]
    rfl
  have hqueue : s'.queueOf = s.queueOf := by
    funext i
    rw [queueOf, hinst]
    rfl
  refine ⟨?_, ?_, ?_, ?_⟩
  · rw [hdev, hlist]
    exact hs.device
  · rw [hdev, hlist]
    exact hs.distinct
  · rw [hopen, hlist]
    exact hs.opened
  · rw [hopen, hqueue, hlist]
    exact hs.pending

/-- An object that is not open, or not any more, and is not to open its device, is taken off the
list. -/
lemma drop (hs : ListSound s) (hlisted : Listed s) (hx : s.instances[i]? = some x)
    (hopen : y.self.mIsOpen = false) (hqueue : .openDevice ∉ y.queue) :
    ListSound ((s.remove i).update i y) := by
  have hy : ((s.remove i).update i y).instances[i]? = some y :=
    getElem?_update_self (s := s.remove i) hx y
  have hold : ∀ {j}, j ≠ i →
      ((s.remove i).update i y).instances[j]? = s.instances[j]? := by
    intro j hj
    exact getElem?_update_of_ne (s := s.remove i) hj y
  have hmem : ∀ {j}, j ∈ s.mReferenceList.erase i ↔ j ≠ i ∧ j ∈ s.mReferenceList :=
    hlisted.nodup.mem_erase_iff
  have hdevice : ∀ {j}, j ≠ i → ((s.remove i).update i y).deviceOf j = s.deviceOf j := by
    intro j hj
    rw [deviceOf, hold hj]
    rfl
  refine ⟨fun {j} hj => ?_, fun {j k} hj hk heq => ?_, fun {j} hj => ?_, fun {j} hj => ?_⟩
  · obtain ⟨hne, hj⟩ := hmem.mp hj
    rw [hdevice hne]
    exact hs.device hj
  · obtain ⟨hjne, hj⟩ := hmem.mp hj
    obtain ⟨hkne, hk⟩ := hmem.mp hk
    rw [hdevice hjne, hdevice hkne] at heq
    exact hs.distinct hj hk heq
  · by_cases hji : j = i
    · subst hji
      rw [isOpen_eq hy, hopen] at hj
      exact absurd hj (by simp)
    · rw [isOpen, hold hji] at hj
      exact hmem.mpr ⟨hji, hs.opened hj⟩
  · by_cases hji : j = i
    · subst hji
      rw [queueOf_eq hy] at hj
      exact absurd hj hqueue
    · rw [queueOf, hold hji] at hj ⊢
      rw [isOpen, hold hji]
      obtain ⟨hlist, hclosed, honly⟩ := hs.pending hj
      exact ⟨hmem.mpr ⟨hji, hlist⟩, hclosed, honly⟩

/-- An object of the list is taken off it as it is. -/
lemma remove (hs : ListSound s) (hlisted : Listed s) (hi : i ∈ s.mReferenceList)
    (hopen : s.isOpen i = false) (hqueue : .openDevice ∉ s.queueOf i) :
    ListSound (s.remove i) := by
  obtain ⟨x, hx, -⟩ := hlisted.instances hi
  rw [isOpen_eq hx] at hopen
  rw [queueOf_eq hx] at hqueue
  refine (hs.drop hlisted hx hopen hqueue).congr ?_ rfl
  obtain ⟨hlt, rfl⟩ := List.getElem?_eq_some_iff.mp hx
  exact (List.set_getElem_self hlt).symm

/-- A new object is put on the list, for a device that no object of the list has. -/
lemma add (hs : ListSound s) (hlisted : Listed s) {dev : ℕ} (hdev : x.self.mUsbtvDevice = some dev)
    (hnew : ∀ j ∈ s.mReferenceList, s.deviceOf j ≠ some dev) (hopen : x.self.mIsOpen = false)
    (hqueue : x.queue = [.openDevice] ∨ x.queue = []) : ListSound (s.add x) := by
  have hx := s.getElem?_add_self x
  have hold : ∀ {j}, j ∈ s.mReferenceList → j ≠ s.instances.length := by
    intro j hj
    obtain ⟨y, hy, -⟩ := hlisted.instances hj
    exact ((List.getElem?_eq_some_iff.mp hy).1).ne
  have hmem : ∀ {j}, j ∈ (s.add x).mReferenceList ↔
      j ∈ s.mReferenceList ∨ j = s.instances.length := by
    intro j
    exact List.mem_append.trans (or_congr_right List.mem_singleton)
  have hdevice : ∀ {j}, j ∈ s.mReferenceList → (s.add x).deviceOf j = s.deviceOf j := by
    intro j hj
    rw [deviceOf, getElem?_add_of_ne (hold hj)]
    rfl
  refine ⟨fun {j} hj => ?_, fun {j k} hj hk heq => ?_, fun {j} hj => ?_, fun {j} hj => ?_⟩
  · rcases hmem.mp hj with hj | rfl
    · rw [hdevice hj]
      exact hs.device hj
    · rw [deviceOf_eq hx, hdev]
      simp
  · rcases hmem.mp hj with hj | rfl <;> rcases hmem.mp hk with hk | rfl
    · rw [hdevice hj, hdevice hk] at heq
      exact hs.distinct hj hk heq
    · rw [hdevice hj, deviceOf_eq hx, hdev] at heq
      exact absurd heq (hnew j hj)
    · rw [hdevice hk, deviceOf_eq hx, hdev] at heq
      exact absurd heq.symm (hnew k hk)
    · rfl
  · by_cases hlast : j = s.instances.length
    · exact hmem.mpr (.inr hlast)
    · rw [isOpen, getElem?_add_of_ne hlast] at hj
      exact hmem.mpr (.inl (hs.opened hj))
  · by_cases hlast : j = s.instances.length
    · subst hlast
      rw [queueOf_eq hx] at hj ⊢
      rw [isOpen_eq hx]
      refine ⟨hmem.mpr (.inr rfl), hopen, ?_⟩
      rcases hqueue with hq | hq
      · exact hq
      · rw [hq] at hj
        exact absurd hj (by simp)
    · rw [queueOf, getElem?_add_of_ne hlast] at hj ⊢
      rw [isOpen, getElem?_add_of_ne hlast]
      obtain ⟨hlist, hclosed, honly⟩ := hs.pending hj
      exact ⟨hmem.mpr (.inl hlist), hclosed, honly⟩

/-- An object changes, and keeps its device. -/
lemma update (hs : ListSound s) (hx : s.instances[i]? = some x)
    (hdev : y.self.mUsbtvDevice = x.self.mUsbtvDevice)
    (hopen : y.self.mIsOpen = true → i ∈ s.mReferenceList)
    (hqueue : .openDevice ∈ y.queue →
      i ∈ s.mReferenceList ∧ y.self.mIsOpen = false ∧ y.queue = [.openDevice]) :
    ListSound (s.update i y) := by
  have hy := getElem?_update_self hx y
  have hdevice : ∀ j, (s.update i y).deviceOf j = s.deviceOf j := by
    intro j
    by_cases hj : j = i
    · subst hj
      rw [deviceOf_eq hy, deviceOf_eq hx, hdev]
    · rw [deviceOf, getElem?_update_of_ne hj]
      rfl
  refine ⟨fun {j} hj => ?_, fun {j k} hj hk heq => ?_, fun {j} hj => ?_, fun {j} hj => ?_⟩
  · rw [hdevice]
    exact hs.device hj
  · rw [hdevice, hdevice] at heq
    exact hs.distinct hj hk heq
  · by_cases hji : j = i
    · subst hji
      exact hopen ((isOpen_eq hy).symm.trans hj)
    · rw [isOpen, getElem?_update_of_ne hji] at hj
      exact hs.opened hj
  · by_cases hji : j = i
    · subst hji
      rw [queueOf_eq hy] at hj ⊢
      rw [isOpen_eq hy]
      exact hqueue hj
    · rw [queueOf, getElem?_update_of_ne hji] at hj ⊢
      rw [isOpen, getElem?_update_of_ne hji]
      exact hs.pending hj

/-! ## Steps -/

/-- No object of the list has a device that is not found. -/
lemma deviceOf_ne_of_findDevice {dev : ℕ} (hfind : s.findDevice dev = none)
    (hj : j ∈ s.mReferenceList) : s.deviceOf j ≠ some dev := by
  have h := List.find?_eq_none.mp hfind j hj
  simpa using h

/-- With the object that is found, no object of the list has its device. -/
lemma deviceOf_ne_of_remove (hs : ListSound s) (hlisted : Listed s) {dev : ℕ}
    (hfind : s.findDevice dev = some i) (hj : j ∈ s.mReferenceList.erase i) :
    s.deviceOf j ≠ some dev := by
  obtain ⟨hi, hdev⟩ := findDevice_eq_some hfind
  obtain ⟨hne, hj⟩ := hlisted.nodup.mem_erase_iff.mp hj
  intro hsame
  exact hne (hs.distinct hj hi (hsame.trans hdev.symm))

/-- `open`, if nothing is pending for what it forgets. -/
lemma usbTvOpen (hs : ListSound s) (hlisted : Listed s) {params : DeviceParams}
    {vendorId productId : ℕ} {hasPermission : Bool}
    (hsettled : Settled s (.usbTvOpen params vendorId productId hasPermission)) :
    ListSound (s.usbTvOpen params vendorId productId hasPermission).2 := by
  rcases s.usbTvOpen_cases params vendorId productId hasPermission with
    heq | ⟨dev, s₁, hdev, hs₁, hinst⟩
  · rw [heq]
    exact hs
  -- with what it may have forgotten, the device is not on the list any more
  have hforgot : ListSound s₁ ∧ Listed s₁ ∧
      ∀ j ∈ s₁.mReferenceList, s₁.deviceOf j ≠ some dev := by
    rcases hs₁ with ⟨hfind, rfl⟩ | ⟨i, hfind, hopen, rfl⟩
    · exact ⟨hs, hlisted, fun j hj => deviceOf_ne_of_findDevice hfind hj⟩
    · have hi := (findDevice_eq_some hfind).1
      exact ⟨hs.remove hlisted hi hopen (hsettled dev hdev i hfind hopen), hlisted.remove i,
        fun j hj => hs.deviceOf_ne_of_remove hlisted hfind hj⟩
  obtain ⟨hsound, hlisted, hnew⟩ := hforgot
  rcases hinst with heq | ⟨x, heq, -, hopen, hxdev, hqueue⟩
  · rw [heq]
    exact hsound
  · rw [heq]
    exact hsound.add hlisted hxdev hnew hopen hqueue

/-- The receiver, if nothing is pending for the object that it finds, and a denied one is not
open. -/
lemma onPermission (hs : ListSound s) (hwf : WellFormed s) {dev : ℕ} {granted : Bool}
    (hsettled : Settled s (.permission dev granted)) : ListSound (s.onPermission dev granted) := by
  unfold App.onPermission
  cases hfind : s.findDevice dev with
  | none => exact hs
  | some i =>
    have hi := (findDevice_eq_some hfind).1
    obtain ⟨x, hx, hgiven⟩ := hwf.listed.instances hi
    obtain ⟨hpending, hdenied⟩ := hsettled i hfind
    rw [isOpen_eq hx, queueOf_eq hx] at hpending
    rw [isOpen_eq hx] at hdenied
    simp only [hx]
    split_ifs with hgranted hopen
    · -- the object was never given out, so it has no other messages
      have hnew : hasDriver x.callbacks = false := by
        by_contra hold
        exact absurd ((hgiven (by simpa using hold)).symm.trans hopen) (by simp)
      have hall := ((hwf.instances hx).fresh hnew).2
      have hempty : x.queue = [] := by
        refine List.eq_nil_iff_forall_not_mem.mpr fun msg hmsg => hpending hopen ?_
        rw [← hall msg hmsg]
        exact hmsg
      refine hs.update hx rfl (fun _ => hi) fun _ => ⟨hi, hopen, ?_⟩
      rw [hempty]
      rfl
    · refine hs.update hx rfl (fun _ => hi) fun hmem => ?_
      rw [← queueOf_eq hx] at hmem
      obtain ⟨-, hclosed, -⟩ := hs.pending hmem
      exact absurd ((isOpen_eq hx).symm.trans hclosed) hopen
    · have hclosed := hdenied (by simpa using hgranted)
      exact hs.drop hwf.listed hx hclosed (hpending hclosed)

/-- A message is sent. -/
lemma send (hs : ListSound s) (hlisted : Listed s) (hx : s.instances[i]? = some x) {msg : Message}
    (hgiven : hasDriver x.callbacks = true) (hmsg : msg ≠ .openDevice) :
    ListSound (s.update i { x with queue := x.queue ++ [msg] }) := by
  refine hs.update hx rfl (fun hopen => hs.opened ((isOpen_eq hx).trans hopen)) fun hmem => ?_
  rcases List.mem_append.mp hmem with hold | hnew
  · -- an object that was given out is open, if it is on the list
    rw [← queueOf_eq hx] at hold
    obtain ⟨hi, hclosed, -⟩ := hs.pending hold
    obtain ⟨z, hz, hkeep⟩ := hlisted.instances hi
    obtain rfl := Option.some_inj.mp (hx.symm.trans hz)
    rw [isOpen_eq hx, hkeep hgiven] at hclosed
    exact absurd hclosed (by simp)
  · exact absurd (List.mem_singleton.mp hnew).symm hmsg

/-- A message is handled. -/
lemma handle {env : Environment} (hs : ListSound s) (hlisted : Listed s)
    (h : s.handle i env = some s') : ListSound s' := by
  obtain ⟨x, msg, queue, r, hx, hqueue, hr, rfl⟩ := handle_cases h
  -- nothing but `OPEN_DEVICE` is before `OPEN_DEVICE`, and nothing is after it
  have hpending : ∀ m ∈ x.queue, m = .openDevice →
      i ∈ s.mReferenceList ∧ x.self.mIsOpen = false ∧ msg = .openDevice ∧ queue = [] := by
    rintro m hm rfl
    rw [← queueOf_eq hx] at hm
    obtain ⟨hi, hclosed, honly⟩ := hs.pending hm
    rw [queueOf_eq hx, hqueue] at honly
    obtain ⟨hhead, htail⟩ := List.cons.inj honly
    exact ⟨hi, (isOpen_eq hx).symm.trans hclosed, hhead, htail⟩
  rw [hqueue] at hpending
  have hrest : .openDevice ∉ queue := by
    intro hmem
    obtain ⟨-, -, -, rfl⟩ := hpending _ (List.mem_cons_of_mem msg hmem) rfl
    exact absurd hmem (by simp)
  have hdone : ListSound ((if r.removed then s.remove i else s).update i
      ⟨r.self, queue, x.callbacks ++ r.callbacks⟩) := by
    by_cases hmsg : msg = .openDevice
    · obtain ⟨hi, hclosed, -, -⟩ := hpending msg List.mem_cons_self hmsg
      subst hmsg
      rcases UsbTvInstance.handleMessage_openDevice hr with
        ⟨-, -, hnot, -, connection, host, hself, -⟩ | ⟨-, hyes, -, connection, params, hself, -⟩
      · rw [hnot]
        exact hs.update hx (by rw [hself]) (fun _ => hi) fun hmem => absurd hmem hrest
      · rw [hyes]
        exact hs.drop hlisted hx (by rw [hself]; exact hclosed) hrest
    by_cases hclose : msg = .closeDevice
    · subst hclose
      obtain ⟨hyes, -, hself⟩ := UsbTvInstance.handleMessage_closeDevice hr
      rw [hyes]
      refine hs.drop hlisted hx ?_ hrest
      obtain ⟨-, -, hself⟩ | ⟨hold, -, hself⟩ := hself
      · rw [hself]
      · rw [hself]
        exact hold
    · have hkeeps := UsbTvInstance.handleMessage_keeps hmsg hclose hr
      rw [hkeeps.removed]
      refine hs.update hx hkeeps.mUsbtvDevice (fun hopen => ?_) fun hmem => absurd hmem hrest
      exact hs.opened ((isOpen_eq hx).trans (hkeeps.mIsOpen.symm.trans hopen))
  exact hdone.congr rfl rfl

/-- **Each step under the condition keeps the list sound.** -/
lemma step {e : AppEvent} (hs : ListSound s) (hwf : WellFormed s) (hsettled : Settled s e)
    (h : s.step e = some s') : ListSound s' := by
  cases e with
  | registerUsbReceiver | unregisterUsbReceiver =>
    obtain rfl := Option.some_inj.mp h
    exact hs.congr rfl rfl
  | usbTvOpen params vendorId productId hasPermission =>
    obtain rfl := Option.some_inj.mp h
    exact hs.usbTvOpen hwf.listed hsettled
  | permission dev granted =>
    obtain ⟨-, rfl⟩ := step_permission h
    exact hs.onPermission hwf hsettled
  | send i msg =>
    obtain ⟨x, hx, hgiven, hmsg, rfl⟩ := step_send h
    exact hs.send hwf.listed hx hgiven hmsg
  | handle i env => exact hs.handle hwf.listed h
  | thread e =>
    obtain ⟨d, -, rfl⟩ := Option.map_eq_some_iff.mp h
    exact hs.congr rfl rfl

/-- Such a list tracks the open devices. -/
lemma tracked (hs : ListSound s) (hlisted : Listed s) : Tracked s := by
  refine ⟨fun dev => ?_, fun i => hs.opened, fun i params vendorId productId hasPermission hopen
    hparams => ?_⟩
  · rw [← List.toFinset_card_of_nodup (hlisted.nodup.filter _)]
    apply Finset.card_le_one.mpr
    intro j hj k hk
    simp only [List.mem_toFinset, List.mem_filter, beq_iff_eq] at hj hk
    exact hs.distinct hj.1 hk.1 (hj.2.trans hk.2.symm)
  · have hi := hs.opened hopen
    obtain ⟨dev, hdev⟩ := Option.ne_none_iff_exists'.mp (hs.device hi)
    -- the object that is found is the open one
    have hfind : s.findDevice dev = some i := by
      cases hfind : s.findDevice dev with
      | none => exact absurd hdev (deviceOf_ne_of_findDevice hfind hi)
      | some k =>
        obtain ⟨hk, hkdev⟩ := findDevice_eq_some hfind
        rw [hs.distinct hk hi (hkdev.trans hdev.symm)]
    simp [App.usbTvOpen, hparams, hdev, hfind, hopen]

end ListSound

/-- **When the list tracks the open devices**: in all runs where nothing is pending for an object
that `open` or the receiver finds not open, and no open object is denied its permission. -/
theorem tracked_of_reachable (h : apps.ReachableUnder Settled s) : Tracked s := by
  have hsound : ListSound s := by
    refine StepSystem.ReachableUnder.invariant (I := ListSound) ?_ (fun s e s' hreach hs hsettled
      hstep => hs.step (wellFormed_of_reachable hreach) hsettled hstep) h
    rintro s rfl
    refine ⟨fun {i} hi => ?_, fun {i j} hi => ?_, fun {i} hi => ?_, fun {i} hi => ?_⟩
    · simp [new] at hi
    · simp [new] at hi
    · simp [isOpen, new] at hi
    · simp [queueOf, new] at hi
  exact hsound.tracked (wellFormed_of_reachable h).listed

/-- A device is opened, and refused when it is opened again. The open of another one fails in
`initDevice`, and it is opened once more. -/
theorem tracked_of_reachable_reopened :
    ∃ s : App, apps.ReachableUnder Settled s ∧ Tracked s ∧ s.isOpen 0 = true ∧
      s.deviceOf 2 = some 1 ∧ s.mReferenceList = [0, 2] := by
  have h : (apps.runUnder Settled .new [openEvent 0, .handle 0 (answering 0), openEvent 0,
      openEvent 1, .handle 1 (answering 0), openEvent 1]).map
        (fun s => (s.isOpen 0, s.deviceOf 2, s.mReferenceList)) =
          some (true, some 1, [0, 2]) := by decide
  obtain ⟨s, hrun, heq⟩ := Option.map_eq_some_iff.mp h
  obtain ⟨hopen, hrest⟩ := Prod.mk.inj heq
  obtain ⟨hdevice, hlist⟩ := Prod.mk.inj hrest
  have hreach : apps.ReachableUnder Settled s := .runUnder (.init rfl) hrun
  exact ⟨s, hreach, tracked_of_reachable hreach, hopen, hdevice, hlist⟩

/-! ## The other steps -/

/-- An object whose `OPEN_DEVICE` waits, and which a second `open` finds, is taken off the list, and
its message still waits. -/
theorem unlisted_of_unsettled (hlisted : Listed s) {params : DeviceParams}
    {vendorId productId : ℕ} {hasPermission : Bool} {dev : ℕ} (hdev : params.mDevice = some dev)
    (hfind : s.findDevice dev = some i) (hopen : s.isOpen i = false)
    (hqueue : .openDevice ∈ s.queueOf i) :
    i ∉ (s.usbTvOpen params vendorId productId hasPermission).2.mReferenceList ∧
      .openDevice ∈ (s.usbTvOpen params vendorId productId hasPermission).2.queueOf i := by
  obtain ⟨x, hx, -⟩ := hlisted.instances (findDevice_eq_some hfind).1
  have hlt : i < s.instances.length := (List.getElem?_eq_some_iff.mp hx).1
  have hoff : i ∉ s.mReferenceList.erase i := hlisted.nodup.not_mem_erase
  have hforgets : s.usbTvOpen params vendorId productId hasPermission =
      (s.remove i).instantiate params vendorId productId hasPermission := by
    simp only [usbTvOpen, hdev, hfind]
    exact if_pos hopen
  rw [hforgets]
  rcases instantiate_cases hdev (s.remove i) vendorId productId hasPermission with
    heq | ⟨y, heq, -⟩
  · rw [heq]
    exact ⟨hoff, hqueue⟩
  · rw [heq]
    refine ⟨fun hmem => ?_, ?_⟩
    · rcases List.mem_append.mp hmem with hold | hnew
      · exact hoff hold
      · exact hlt.ne (List.mem_singleton.mp hnew)
    · rw [queueOf, getElem?_add_of_ne (s := s.remove i) hlt.ne]
      exact hqueue

/-- **An object that is not on the list** and opens its device is open outside the list. -/
theorem untracked_of_handle {env : Environment} (hi : i ∉ s.mReferenceList)
    (h : s.handle i env = some s') (hopen : s'.isOpen i = true) : ¬ Tracked s' := by
  obtain ⟨x, msg, queue, r, -, -, -, rfl⟩ := handle_cases h
  intro htracked
  have hmem : i ∈ (if r.removed then s.remove i else s).mReferenceList :=
    htracked.listed i hopen
  split_ifs at hmem
  · exact hi (List.mem_of_mem_erase hmem)
  · exact hi hmem

/-- **An open object whose permission is denied** is open outside the list. -/
theorem untracked_of_denied {dev : ℕ} (hlisted : Listed s) (hfind : s.findDevice dev = some i)
    (hopen : s.isOpen i = true) : ¬ Tracked (s.onPermission dev false) := by
  obtain ⟨x, hx, -⟩ := hlisted.instances (findDevice_eq_some hfind).1
  have hdenied : s.onPermission dev false = (s.remove i).update i
      { x with callbacks := x.callbacks ++ [.onOpen false x.self.mIsOpen] } := by
    simp [onPermission, hfind, hx]
  intro htracked
  rw [hdenied] at htracked
  have hmem : i ∈ s.mReferenceList.erase i := by
    apply htracked.listed i
    rw [isOpen_eq (getElem?_update_self (s := s.remove i) hx _)]
    exact (isOpen_eq hx).symm.trans hopen
  exact hlisted.nodup.not_mem_erase hmem

/-- **A device is opened a second time before its first message is handled**: then the first object
opens the device, and is not on the list. -/
theorem secondOpen_untracked : ¬ ∀ s, apps.Reachable s → Tracked s := by
  intro h
  have hrun : (apps.run .new [openEvent 0, openEvent 0, .handle 0 (answering 0)]).map
      (fun s => (s.isOpen 0, s.mReferenceList)) = some (true, [1]) := by decide
  obtain ⟨s, hrun, heq⟩ := Option.map_eq_some_iff.mp hrun
  obtain ⟨hopen, hlist⟩ := Prod.mk.inj heq
  have hmem := (h s (.run (.init rfl) hrun)).listed 0 hopen
  rw [hlist] at hmem
  exact absurd hmem (by decide)

end App

end UsbTv
