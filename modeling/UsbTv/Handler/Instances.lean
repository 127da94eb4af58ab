import UsbTv.Lib.StepSystem
import UsbTv.Handler.Basic

set_option relaxedAutoImplicit false
set_option autoImplicit false

/-!
# All objects of a process

`UsbTv.open` makes objects of the class and keeps them in `mReferenceList`; each has a handler
thread with a queue of messages. They share the list, the native library, and the receiver of the
permission broadcasts. User code keeps every driver interface that it was given.

A step is one message, one `synchronized` block, or one message sent. Objects are known by the
order of their construction.

## Main definitions

* `UsbTv.Instance` — an object with its queue and the calls to its callbacks.
* `UsbTv.App.usbTvOpen`, `onPermission`, `handle` — the steps.
* `UsbTv.apps` — all runs.
* `UsbTv.Instance.WellFormed` — what holds of an object between two steps.

## Main results

* `UsbTv.App.wellFormed_of_reachable` — all objects are well formed.
-/

namespace UsbTv

open Java

/-! ## State -/

/-- An object of the class `UsbTv`, the messages in the queue of its handler, and the calls to its
callbacks so far. -/
structure Instance where
  self : UsbTvInstance
  queue : List Message
  callbacks : List Callback

/-- The objects in the order of their construction, and what they share. -/
structure App where
  instances : List Instance
  mReferenceList : List ℕ
  mUsbReceiverRegistered : Bool
  shared : Shared

/-- What can happen. -/
inductive AppEvent
  | registerUsbReceiver
  | unregisterUsbReceiver
  /-- User code calls `UsbTv.open`. The device has these ids, and the application has or has not the
  permission for it. -/
  | usbTvOpen (params : DeviceParams) (vendorId productId : ℕ) (hasPermission : Bool)
  /-- The receiver gets `ACTION_USB_PERMISSION`. -/
  | permission (dev : ℕ) (granted : Bool)
  /-- User code sends a message through a driver interface. -/
  | send (i : ℕ) (msg : Message)
  /-- A handler thread takes its next message. -/
  | handle (i : ℕ) (env : Environment)
  /-- The threads of the driver take a step. -/
  | thread (e : ThreadEvent)

namespace App

/-- No object was made. -/
def new : App := ⟨[], [], false, ⟨none, ⟨0, [], []⟩⟩⟩

/-! ## Steps -/

/-- `mUsbtvDevice` of an object. -/
def deviceOf (s : App) (i : ℕ) : Option ℕ := s.instances[i]?.bind fun x => x.self.mUsbtvDevice

/-- `mIsOpen` of an object. -/
def isOpen (s : App) (i : ℕ) : Bool := s.instances[i]?.any fun x => x.self.mIsOpen

/-- The first object of the list that has the device. -/
def findDevice (s : App) (dev : ℕ) : Option ℕ :=
  s.mReferenceList.find? fun i => s.deviceOf i == some dev

/-- A new object is added to the list. -/
def add (s : App) (x : Instance) : App :=
  { s with
    instances := s.instances ++ [x]
    mReferenceList := s.mReferenceList ++ [s.instances.length] }

/-- An object has changed. -/
def update (s : App) (i : ℕ) (x : Instance) : App := { s with instances := s.instances.set i x }

/-- `mReferenceList.remove`. -/
def remove (s : App) (i : ℕ) : App := { s with mReferenceList := s.mReferenceList.erase i }

/-- The second half of `open`: without the permission and without a receiver it reports a failure,
but the object stays in the list. -/
def instantiate (s : App) (params : DeviceParams) (vendorId productId : ℕ) (hasPermission : Bool) :
    Bool × App :=
  if vendorId ≠ 0x1b71 ∨ productId ≠ 0x3002 then (false, s)
  else if hasPermission then
    (true, s.add ⟨{ UsbTvInstance.new params with mHasUsbPermission := true }, [.openDevice], []⟩)
  else if s.mUsbReceiverRegistered = false then
    (false, s.add ⟨UsbTvInstance.new params, [], []⟩)
  else (true, s.add ⟨UsbTvInstance.new params, [], []⟩)

/-- `UsbTv.open`, and what it returns. -/
def usbTvOpen (s : App) (params : DeviceParams) (vendorId productId : ℕ) (hasPermission : Bool) :
    Bool × App :=
  match params.mDevice with
  | none => (false, s)
  | some dev =>
    match s.findDevice dev with
    | some i =>
      if s.isOpen i = false then
        -- "there is an error"
        (s.remove i).instantiate params vendorId productId hasPermission
      else (false, s)
    | none => s.instantiate params vendorId productId hasPermission

/-- `onReceive` for `ACTION_USB_PERMISSION`. -/
def onPermission (s : App) (dev : ℕ) (granted : Bool) : App :=
  match s.findDevice dev with
  | none => s
  | some i =>
    match s.instances[i]? with
    | none => s
    | some x =>
      let callbacks := x.callbacks ++ [.onOpen false x.self.mIsOpen]
      if granted then
        if x.self.mIsOpen = false then
          s.update i
            ⟨{ x.self with mHasUsbPermission := true }, x.queue ++ [.openDevice], callbacks⟩
        else s.update i { x with callbacks := callbacks }
      else (s.remove i).update i { x with callbacks := callbacks }

/-- A handler thread takes its next message. -/
def handle (s : App) (i : ℕ) (env : Environment) : Option App :=
  match s.instances[i]? with
  | none => none
  | some x =>
    match x.queue with
    | [] => none
    | msg :: queue =>
      (x.self.handleMessage s.shared env msg).map fun r =>
        { (if r.removed then s.remove i else s).update i
            ⟨r.self, queue, x.callbacks ++ r.callbacks⟩ with
          shared := r.shared }

/-- One event. -/
def step (s : App) : AppEvent → Option App
  | .registerUsbReceiver => some { s with mUsbReceiverRegistered := true }
  | .unregisterUsbReceiver => some { s with mUsbReceiverRegistered := false }
  | .usbTvOpen params vendorId productId hasPermission =>
    some (s.usbTvOpen params vendorId productId hasPermission).2
  | .permission dev granted =>
    if s.mUsbReceiverRegistered then some (s.onPermission dev granted) else none
  | .send i msg =>
    match s.instances[i]? with
    | none => none
    | some x =>
      if hasDriver x.callbacks = true ∧ msg ≠ .openDevice then
        some (s.update i { x with queue := x.queue ++ [msg] })
      else none
  | .handle i env => s.handle i env
  | .thread e =>
    (s.shared.usbtv.bind fun d => d.threadStep e).map fun d =>
      { s with shared := { s.shared with usbtv := some d } }

/-- `UsbTv.open` for a capture device that the application has the permission for. -/
def openEvent (dev : ℕ) : AppEvent :=
  .usbTvOpen (Builder.new.setUsbDevice dev).build 0x1b71 0x3002 true

end App

/-- All runs of a process. -/
def apps : StepSystem App AppEvent where
  Init s := s = .new
  step := App.step

/-! ## What the steps do -/

namespace App

variable {s s' : App} {i : ℕ} {x : Instance}

/-- The entries of a list after one of them was set. -/
lemma getElem?_set_cases {α : Type*} {l : List α} {i j : ℕ} {a b : α}
    (h : (l.set i a)[j]? = some b) : j = i ∧ b = a ∨ j ≠ i ∧ l[j]? = some b := by
  rw [List.getElem?_set] at h
  split_ifs at h with hij hlt
  · exact .inl ⟨hij.symm, (Option.some_inj.mp h).symm⟩
  · exact .inr ⟨fun hji => hij hji.symm, h⟩

/-- The entries of a list after one was added. -/
lemma getElem?_concat_cases {α : Type*} {l : List α} {j : ℕ} {a b : α}
    (h : (l ++ [a])[j]? = some b) : l[j]? = some b ∨ j = l.length ∧ b = a := by
  rw [List.getElem?_append] at h
  split_ifs at h with hlt
  · exact .inl h
  · rw [List.getElem?_singleton] at h
    split_ifs at h with hzero
    exact .inr ⟨by omega, (Option.some_inj.mp h).symm⟩

/-- Objects may have been taken off the list, and nothing else has changed. -/
structure Shrunk (s s₁ : App) : Prop where
  instances : s₁.instances = s.instances
  shared : s₁.shared = s.shared
  list : s₁.mReferenceList.Sublist s.mReferenceList

lemma Shrunk.refl (s : App) : s.Shrunk s := ⟨rfl, rfl, List.Sublist.refl _⟩

lemma Shrunk.remove (s : App) (i : ℕ) : s.Shrunk (s.remove i) := ⟨rfl, rfl, List.erase_sublist⟩

/-- A message takes the object off the list, or does not. -/
lemma Shrunk.handled (s : App) (i : ℕ) (removed : Bool) :
    s.Shrunk (if removed then s.remove i else s) := by
  split_ifs
  · exact .remove s i
  · exact .refl s

/-- `open` forgets an object that is not open, or none. -/
lemma Shrunk.forgets {s₁ : App} {dev : ℕ} (h : s.findDevice dev = none ∧ s₁ = s ∨
    ∃ i, s.findDevice dev = some i ∧ s.isOpen i = false ∧ s₁ = s.remove i) : s.Shrunk s₁ := by
  obtain ⟨-, rfl⟩ | ⟨i, -, -, rfl⟩ := h
  · exact .refl _
  · exact .remove s i

/-- The receiver takes the object off the list when the permission was denied. -/
lemma Shrunk.answers {s₁ : App} {granted : Bool}
    (h : s₁ = s ∧ granted = true ∨ s₁ = s.remove i ∧ granted = false) : s.Shrunk s₁ := by
  obtain ⟨rfl, -⟩ | ⟨rfl, -⟩ := h
  · exact .refl _
  · exact .remove s i

/-- The objects after one of them changes. -/
lemma Shrunk.instances_update {s₁ : App} (h : s.Shrunk s₁) (i : ℕ) (x : Instance) :
    (s₁.update i x).instances = s.instances.set i x := by
  rw [update, h.instances]

/-- What the second half of `open` does: nothing, or it adds an object. -/
lemma instantiate_cases {params : DeviceParams} {dev : ℕ} (hdev : params.mDevice = some dev)
    (s : App) (vendorId productId : ℕ) (hasPermission : Bool) :
    (s.instantiate params vendorId productId hasPermission).2 = s ∨
      ∃ x : Instance, (s.instantiate params vendorId productId hasPermission).2 = s.add x ∧
        x.callbacks = [] ∧ x.self.mIsOpen = false ∧ x.self.mUsbtvDevice = some dev ∧
        (x.queue = [.openDevice] ∨ x.queue = []) := by
  unfold instantiate
  split_ifs
  · exact .inl rfl
  · exact .inr ⟨_, rfl, rfl, rfl, hdev, .inl rfl⟩
  · exact .inr ⟨_, rfl, rfl, rfl, hdev, .inr rfl⟩
  · exact .inr ⟨_, rfl, rfl, rfl, hdev, .inr rfl⟩

/-- What `open` does: nothing, or it forgets an object that is not open, or it adds one, or
both. -/
lemma usbTvOpen_cases (s : App) (params : DeviceParams) (vendorId productId : ℕ)
    (hasPermission : Bool) :
    (s.usbTvOpen params vendorId productId hasPermission).2 = s ∨
      ∃ dev s₁, params.mDevice = some dev ∧
        (s.findDevice dev = none ∧ s₁ = s ∨
          ∃ i, s.findDevice dev = some i ∧ s.isOpen i = false ∧ s₁ = s.remove i) ∧
        ((s.usbTvOpen params vendorId productId hasPermission).2 = s₁ ∨
          ∃ x : Instance, (s.usbTvOpen params vendorId productId hasPermission).2 = s₁.add x ∧
            x.callbacks = [] ∧ x.self.mIsOpen = false ∧ x.self.mUsbtvDevice = some dev ∧
            (x.queue = [.openDevice] ∨ x.queue = [])) := by
  cases hdev : params.mDevice with
  | none =>
    left
    simp only [usbTvOpen, hdev]
  | some dev =>
    have hinst := instantiate_cases hdev
    simp only [usbTvOpen, hdev]
    cases hfind : s.findDevice dev with
    | none => exact .inr ⟨dev, s, rfl, .inl ⟨hfind, rfl⟩, hinst s _ _ _⟩
    | some i =>
      by_cases hopen : s.isOpen i = false
      · dsimp only
        rw [if_pos hopen]
        exact .inr ⟨dev, s.remove i, rfl, .inr ⟨i, hfind, hopen, rfl⟩, hinst _ _ _ _⟩
      · left
        dsimp only
        rw [if_neg hopen]

/-- `open` does not call native code. -/
lemma usbTvOpen_shared (s : App) (params : DeviceParams) (vendorId productId : ℕ)
    (hasPermission : Bool) :
    (s.usbTvOpen params vendorId productId hasPermission).2.shared = s.shared := by
  rcases s.usbTvOpen_cases params vendorId productId hasPermission with
    heq | ⟨dev, s₁, -, hs₁, hinst⟩
  · rw [heq]
  · have hsame := (Shrunk.forgets hs₁).shared
    rcases hinst with heq | ⟨x, heq, -⟩
    · rw [heq, hsame]
    · rw [heq]
      exact hsame

/-- The object that is found is in the list and has the device. -/
lemma findDevice_eq_some {dev : ℕ} (h : s.findDevice dev = some i) :
    i ∈ s.mReferenceList ∧ s.deviceOf i = some dev :=
  ⟨List.mem_of_find?_eq_some h, by simpa using List.find?_some h⟩

/-- A broadcast reaches a receiver that is registered. -/
lemma step_permission {dev : ℕ} {granted : Bool}
    (h : s.step (.permission dev granted) = some s') :
    s.mUsbReceiverRegistered = true ∧ s' = s.onPermission dev granted := by
  simp only [step] at h
  split_ifs at h with hregistered
  exact ⟨hregistered, (Option.some_inj.mp h).symm⟩

/-- A message is sent through the driver interface of its object. -/
lemma step_send {msg : Message} (h : s.step (.send i msg) = some s') :
    ∃ x, s.instances[i]? = some x ∧ hasDriver x.callbacks = true ∧ msg ≠ .openDevice ∧
      s' = s.update i { x with queue := x.queue ++ [msg] } := by
  simp only [step] at h
  split at h
  · exact absurd h (by simp)
  next x hx =>
  split_ifs at h with hguard
  exact ⟨x, hx, hguard.1, hguard.2, (Option.some_inj.mp h).symm⟩

/-- What a message does to its object and to what is shared. -/
lemma handle_cases {env : Environment} (h : s.handle i env = some s') :
    ∃ x msg queue r, s.instances[i]? = some x ∧ x.queue = msg :: queue ∧
      x.self.handleMessage s.shared env msg = some r ∧
      s' = { (if r.removed then s.remove i else s).update i
        ⟨r.self, queue, x.callbacks ++ r.callbacks⟩ with shared := r.shared } := by
  unfold handle at h
  split at h
  · exact absurd h (by simp)
  next x hx =>
  split at h
  · exact absurd h (by simp)
  next msg queue hqueue =>
  obtain ⟨r, hr, rfl⟩ := Option.map_eq_some_iff.mp h
  exact ⟨x, msg, queue, r, hx, hqueue, hr, rfl⟩

end App

/-- What a step can do to an object. -/
inductive Instance.Change (shared : Shared) (x : Instance) : Instance → Prop
  /-- The receiver tells the user about its device. -/
  | told (status : Bool) :
      Change shared x { x with callbacks := x.callbacks ++ [.onOpen false status] }
  /-- The receiver asks it to open its device. -/
  | asked (hdev : x.self.mUsbtvDevice ≠ none) (hopen : x.self.mIsOpen = false) :
      Change shared x ⟨{ x.self with mHasUsbPermission := true }, x.queue ++ [.openDevice],
        x.callbacks ++ [.onOpen false x.self.mIsOpen]⟩
  /-- The user sends it a message. -/
  | sent {msg : Message} (hdriver : hasDriver x.callbacks = true) (hmsg : msg ≠ .openDevice) :
      Change shared x { x with queue := x.queue ++ [msg] }
  /-- Its handler thread takes a message. -/
  | handled {env : Environment} {msg : Message} {queue : List Message} {r : Handled}
      (hqueue : x.queue = msg :: queue) (h : x.self.handleMessage shared env msg = some r) :
      Change shared x ⟨r.self, queue, x.callbacks ++ r.callbacks⟩

namespace App

variable {s s' : App}

/-- What the receiver does. -/
lemma onPermission_cases (s : App) (dev : ℕ) (granted : Bool) :
    s.onPermission dev granted = s ∨
      ∃ i x s₁ y, s.findDevice dev = some i ∧ s.instances[i]? = some x ∧
        s.onPermission dev granted = s₁.update i y ∧
        (s₁ = s ∧ granted = true ∨ s₁ = s.remove i ∧ granted = false) ∧ x.Change s.shared y ∧
        y.self.mIsOpen = x.self.mIsOpen ∧ y.self.mUsbtvDevice = x.self.mUsbtvDevice ∧
        hasDriver y.callbacks = hasDriver x.callbacks := by
  unfold onPermission
  cases hfind : s.findDevice dev with
  | none => exact .inl rfl
  | some i =>
    dsimp only
    cases hx : s.instances[i]? with
    | none => exact .inl rfl
    | some x =>
      have hdev : x.self.mUsbtvDevice = some dev := by
        have h := (findDevice_eq_some hfind).2
        simpa [deviceOf, hx] using h
      dsimp only
      right
      split_ifs with hgranted hopen
      · refine ⟨i, x, s, _, rfl, hx, rfl, .inl ⟨rfl, hgranted⟩, .asked ?_ hopen, rfl, rfl,
          hasDriver_append_null _ _⟩
        simp [hdev]
      · exact ⟨i, x, s, _, rfl, hx, rfl, .inl ⟨rfl, hgranted⟩, .told _, rfl, rfl,
          hasDriver_append_null _ _⟩
      · rw [Bool.not_eq_true] at hgranted
        exact ⟨i, x, _, _, rfl, hx, rfl, .inr ⟨rfl, hgranted⟩, .told _, rfl, rfl,
          hasDriver_append_null _ _⟩

/-- The receiver does not call native code. -/
lemma onPermission_shared (s : App) (dev : ℕ) (granted : Bool) :
    (s.onPermission dev granted).shared = s.shared := by
  rcases s.onPermission_cases dev granted with heq | ⟨i, x, s₁, y, -, -, heq, hs₁, -⟩
  · rw [heq]
  · rw [heq]
    exact (Shrunk.answers hs₁).shared

/-- **Where the objects come from**: after a step each of them is as it was, is new, or has
changed. -/
lemma step_instances {e : AppEvent} (h : s.step e = some s') {j : ℕ} {y : Instance}
    (hy : s'.instances[j]? = some y) :
    s.instances[j]? = some y ∨
      (y.callbacks = [] ∧ y.self.mIsOpen = false ∧ (y.queue = [.openDevice] ∨ y.queue = [])) ∨
      ∃ x, s.instances[j]? = some x ∧ x.Change s.shared y := by
  cases e with
  | registerUsbReceiver =>
    obtain rfl := Option.some_inj.mp h
    exact .inl hy
  | unregisterUsbReceiver =>
    obtain rfl := Option.some_inj.mp h
    exact .inl hy
  | usbTvOpen params vendorId productId hasPermission =>
    obtain rfl := Option.some_inj.mp h
    rcases s.usbTvOpen_cases params vendorId productId hasPermission with
      heq | ⟨dev, s₁, -, hs₁, hinst⟩
    · rw [heq] at hy
      exact .inl hy
    · have hsame := (Shrunk.forgets hs₁).instances
      rcases hinst with heq | ⟨x, heq, hcallbacks, hopen, -, hqueue⟩
      · rw [heq, hsame] at hy
        exact .inl hy
      · rw [heq, add, hsame] at hy
        rcases getElem?_concat_cases hy with hold | ⟨-, rfl⟩
        · exact .inl hold
        · exact .inr (.inl ⟨hcallbacks, hopen, hqueue⟩)
  | permission dev granted =>
    obtain ⟨-, rfl⟩ := step_permission h
    rcases s.onPermission_cases dev granted with heq | ⟨i, x, s₁, z, -, hx, heq, hs₁, hchange, -⟩
    · rw [heq] at hy
      exact .inl hy
    · have hsame := (Shrunk.answers hs₁).instances
      rw [heq, update, hsame] at hy
      rcases getElem?_set_cases hy with ⟨rfl, rfl⟩ | ⟨-, hold⟩
      · exact .inr (.inr ⟨x, hx, hchange⟩)
      · exact .inl hold
  | send i msg =>
    obtain ⟨x, hx, hdriver, hmsg, rfl⟩ := step_send h
    rcases getElem?_set_cases hy with ⟨rfl, rfl⟩ | ⟨-, hold⟩
    · exact .inr (.inr ⟨x, hx, .sent hdriver hmsg⟩)
    · exact .inl hold
  | handle i env =>
    obtain ⟨x, msg, queue, r, hx, hqueue, hr, rfl⟩ := handle_cases h
    simp only [update, (Shrunk.handled s i r.removed).instances] at hy
    rcases getElem?_set_cases hy with ⟨rfl, rfl⟩ | ⟨-, hold⟩
    · exact .inr (.inr ⟨x, hx, .handled hqueue hr⟩)
    · exact .inl hold
  | thread e =>
    obtain ⟨d, -, rfl⟩ := Option.map_eq_some_iff.mp h
    exact .inl hy

end App

/-! ## What holds of every object -/

/-- What holds of an object between two steps. An object whose driver interface was not given out
is not open and has no messages but `OPEN_DEVICE`; these come first in every queue; and an object
that was closed has no device any more, and none of them. -/
structure Instance.WellFormed (x : Instance) : Prop where
  fresh : hasDriver x.callbacks = false →
    x.self.mIsOpen = false ∧ ∀ msg ∈ x.queue, msg = .openDevice
  ordered : x.queue.Pairwise fun msg msg' => msg' = .openDevice → msg = .openDevice
  closed : hasDriver x.callbacks = true → x.self.mIsOpen = false →
    x.self.mUsbtvDevice = none ∧ .openDevice ∉ x.queue

namespace Instance

variable {x y : Instance} {shared : Shared}

/-- A new object is well formed. -/
lemma wellFormed_new (hcallbacks : x.callbacks = []) (hopen : x.self.mIsOpen = false)
    (hqueue : x.queue = [.openDevice] ∨ x.queue = []) : x.WellFormed := by
  refine ⟨fun _ => ⟨hopen, ?_⟩, ?_, fun hdriver => ?_⟩
  · rcases hqueue with h | h <;> simp [h]
  · rcases hqueue with h | h <;> simp [h]
  · rw [hcallbacks] at hdriver
    exact absurd hdriver (by simp)

/-- Handling a message keeps an object well formed. -/
lemma WellFormed.handled {env : Environment} {msg : Message} {queue : List Message} {r : Handled}
    (hx : x.WellFormed) (hqueue : x.queue = msg :: queue)
    (h : x.self.handleMessage shared env msg = some r) :
    WellFormed ⟨r.self, queue, x.callbacks ++ r.callbacks⟩ := by
  have hpair := hx.ordered
  have hfresh := hx.fresh
  have hclosed := hx.closed
  rw [hqueue] at hpair hfresh hclosed
  obtain ⟨hhead, htail⟩ := List.pairwise_cons.mp hpair
  have hsub : ∀ m ∈ queue, m ∈ msg :: queue := fun m => List.mem_cons_of_mem msg
  by_cases hmsg : msg = .openDevice
  · subst hmsg
    rcases UsbTvInstance.handleMessage_openDevice h with
      ⟨-, -, -, hcallbacks, connection, host, hself, -⟩ |
      ⟨-, -, hcallbacks, connection, params, hself, -⟩
    · refine ⟨fun hnot => ?_, htail, fun _ hnot => ?_⟩
      · simp [hcallbacks, hasDriver] at hnot
      · rw [hself] at hnot
        exact absurd hnot (by simp)
    · have hdriver : hasDriver (x.callbacks ++ r.callbacks) = hasDriver x.callbacks := by
        rw [hcallbacks, hasDriver_append_null]
      rw [hself]
      refine ⟨fun hnot => ?_, htail, fun hd hopen => ?_⟩
      · obtain ⟨hopen, hall⟩ := hfresh (hdriver.symm.trans hnot)
        exact ⟨hopen, fun m hm => hall m (hsub m hm)⟩
      · obtain ⟨-, hmem⟩ := hclosed (hdriver.symm.trans hd) hopen
        exact absurd List.mem_cons_self hmem
  -- any other message was sent through the driver interface
  have hdriver : hasDriver x.callbacks = true := by
    by_contra hnot
    exact hmsg ((hfresh (by simpa using hnot)).2 msg List.mem_cons_self)
  have hnopen : .openDevice ∉ queue := fun hmem => hmsg (hhead _ hmem rfl)
  refine ⟨fun hnot => ?_, htail, fun _ hopen => ⟨?_, hnopen⟩⟩
  · simp [hasDriver_append, hdriver] at hnot
  by_cases hclose : msg = .closeDevice
  · subst hclose
    obtain ⟨-, -, ⟨-, -, hself⟩ | ⟨hold, -, hself⟩⟩ := UsbTvInstance.handleMessage_closeDevice h
    · rw [hself]
    · rw [hself]
      exact (hclosed hdriver hold).1
  · have hkeeps := UsbTvInstance.handleMessage_keeps hmsg hclose h
    exact hkeeps.mUsbtvDevice.trans (hclosed hdriver (hkeeps.mIsOpen.symm.trans hopen)).1

/-- **Each change keeps an object well formed.** -/
lemma WellFormed.change (hx : x.WellFormed) (h : x.Change shared y) : y.WellFormed := by
  cases h with
  | told status =>
    exact ⟨fun h => hx.fresh ((hasDriver_append_null _ _).symm.trans h), hx.ordered,
      fun h => hx.closed ((hasDriver_append_null _ _).symm.trans h)⟩
  | asked hdev hopen =>
    -- an object with a device that is not open was never given out
    have hnew : hasDriver x.callbacks = false := by
      by_contra hold
      exact hdev (hx.closed (by simpa using hold) hopen).1
    have hall := (hx.fresh hnew).2
    refine ⟨fun _ => ⟨hopen, ?_⟩, ?_, fun h => ?_⟩
    · intro msg hmsg
      rcases List.mem_append.mp hmsg with hmem | hmem
      · exact hall msg hmem
      · exact List.mem_singleton.mp hmem
    · exact List.pairwise_append.mpr ⟨hx.ordered, by simp, fun msg hmem _ _ _ => hall msg hmem⟩
    · rw [hasDriver_append_null, hnew] at h
      exact absurd h (by simp)
  | sent hgiven hmsg =>
    refine ⟨fun h => absurd (hgiven.symm.trans h) (by simp), ?_, fun _ hopen => ?_⟩
    · refine List.pairwise_append.mpr ⟨hx.ordered, by simp, fun _ _ msg' hmem hopen => ?_⟩
      rw [List.mem_singleton.mp hmem] at hopen
      exact absurd hopen hmsg
    · obtain ⟨hdev, hmem⟩ := hx.closed hgiven hopen
      refine ⟨hdev, fun hin => ?_⟩
      rcases List.mem_append.mp hin with hold | hnew
      · exact hmem hold
      · exact hmsg (List.mem_singleton.mp hnew).symm
  | handled hqueue h => exact hx.handled hqueue h

end Instance

namespace App

variable {s s' : App}

/-! ## What holds between two steps -/

/-- Each entry of the list is there once, and none is an object that was closed. -/
structure Listed (s : App) : Prop where
  nodup : s.mReferenceList.Nodup
  instances : ∀ {i : ℕ}, i ∈ s.mReferenceList →
    ∃ x, s.instances[i]? = some x ∧ (hasDriver x.callbacks = true → x.self.mIsOpen = true)

namespace Listed

/-- Objects are taken off the list. -/
lemma shrunk {s₁ : App} (hs : Listed s) (h : s.Shrunk s₁) : Listed s₁ := by
  refine ⟨hs.nodup.sublist h.list, fun hj => ?_⟩
  rw [h.instances]
  exact hs.instances (h.list.subset hj)

lemma remove (hs : Listed s) (i : ℕ) : Listed (s.remove i) := hs.shrunk (.remove s i)

/-- A new object is put on the list. -/
lemma add (hs : Listed s) {x : Instance} (hx : x.callbacks = []) : Listed (s.add x) := by
  have hlt : ∀ i ∈ s.mReferenceList, i < s.instances.length := by
    intro i hi
    obtain ⟨y, hy, -⟩ := hs.instances hi
    exact (List.getElem?_eq_some_iff.mp hy).1
  refine ⟨?_, fun {i} hi => ?_⟩
  · refine List.nodup_append.mpr ⟨hs.nodup, by simp, fun i hi j hj hij => ?_⟩
    have hlen : j = s.instances.length := List.mem_singleton.mp hj
    have := hlt i hi
    omega
  · rcases List.mem_append.mp hi with hold | hnew
    · obtain ⟨y, hy, hopen⟩ := hs.instances hold
      exact ⟨y, (List.getElem?_append_left (hlt i hold)).trans hy, hopen⟩
    · have hlen : i = s.instances.length := List.mem_singleton.mp hnew
      refine ⟨x, ?_, fun hdriver => ?_⟩
      · rw [hlen]
        exact List.getElem?_concat_length
      · rw [hx] at hdriver
        exact absurd hdriver (by simp)

/-- An object changes that is not on the list, or that is not one that was closed. -/
lemma update (hs : Listed s) {i : ℕ} {y : Instance}
    (hy : i ∈ s.mReferenceList → hasDriver y.callbacks = true → y.self.mIsOpen = true) :
    Listed (s.update i y) := by
  refine ⟨hs.nodup, fun {j} hj => ?_⟩
  obtain ⟨z, hz, hopen⟩ := hs.instances hj
  by_cases hij : i = j
  · subst hij
    have hlt := (List.getElem?_eq_some_iff.mp hz).1
    exact ⟨y, List.getElem?_set_self hlt, hy hj⟩
  · exact ⟨z, (List.getElem?_set_ne hij).trans hz, hopen⟩

end Listed

/-- What holds between two steps: all objects are well formed, those on the list were not closed,
and the driver is initialized. -/
structure WellFormed (s : App) : Prop where
  instances : ∀ {i : ℕ} {x : Instance}, s.instances[i]? = some x → x.WellFormed
  listed : Listed s
  initialized : Jni.Initialized s.shared.usbtv

/-- What `open` does keeps the list sound. -/
lemma listed_usbTvOpen (hs : Listed s) (params : DeviceParams) (vendorId productId : ℕ)
    (hasPermission : Bool) :
    Listed (s.usbTvOpen params vendorId productId hasPermission).2 := by
  rcases s.usbTvOpen_cases params vendorId productId hasPermission with
    heq | ⟨dev, s₁, -, hs₁, hinst⟩
  · rw [heq]
    exact hs
  · have hlisted := hs.shrunk (.forgets hs₁)
    rcases hinst with heq | ⟨x, heq, hcallbacks, -⟩
    · rw [heq]
      exact hlisted
    · rw [heq]
      exact hlisted.add hcallbacks

/-- What the receiver does keeps the list sound. -/
lemma listed_onPermission (hs : Listed s) (dev : ℕ) (granted : Bool) :
    Listed (s.onPermission dev granted) := by
  rcases s.onPermission_cases dev granted with
    heq | ⟨i, x, s₁, y, -, hx, heq, hs₁, -, hopen, -, hdriver⟩
  · rw [heq]
    exact hs
  · rw [heq]
    have hshrunk := Shrunk.answers hs₁
    apply (hs.shrunk hshrunk).update
    intro hi hgiven
    obtain ⟨z, hz, hkeep⟩ := hs.instances (hshrunk.list.subset hi)
    obtain rfl := Option.some_inj.mp (hx.symm.trans hz)
    exact hopen.trans (hkeep (hdriver.symm.trans hgiven))

/-- A message keeps the list sound. -/
lemma listed_handle {i : ℕ} {env : Environment} (hs : Listed s) (h : s.handle i env = some s') :
    Listed s' := by
  obtain ⟨x, msg, queue, r, hx, -, hr, rfl⟩ := handle_cases h
  have hremoved : i ∉ (s.remove i).mReferenceList := hs.nodup.not_mem_erase
  have hdone : Listed ((if r.removed then s.remove i else s).update i
      ⟨r.self, queue, x.callbacks ++ r.callbacks⟩) := by
    by_cases hmsg : msg = .openDevice
    · subst hmsg
      rcases UsbTvInstance.handleMessage_openDevice hr with
        ⟨-, -, hnot, -, connection, host, hself, -⟩ | ⟨-, hyes, -⟩
      · rw [hnot]
        exact hs.update fun _ _ => by rw [hself]
      · rw [hyes]
        exact (hs.remove i).update fun hi => absurd hi hremoved
    by_cases hclose : msg = .closeDevice
    · subst hclose
      rw [(UsbTvInstance.handleMessage_closeDevice hr).1]
      exact (hs.remove i).update fun hi => absurd hi hremoved
    · have hkeeps := UsbTvInstance.handleMessage_keeps hmsg hclose hr
      rw [hkeeps.removed]
      apply hs.update
      intro hi hgiven
      obtain ⟨z, hz, hkeep⟩ := hs.instances hi
      obtain rfl := Option.some_inj.mp (hx.symm.trans hz)
      rw [hasDriver_append, hkeeps.hasDriver, Bool.or_false] at hgiven
      exact hkeeps.mIsOpen.trans (hkeep hgiven)
  exact ⟨hdone.nodup, hdone.instances⟩

/-- **Each step keeps the list sound.** -/
lemma listed_step {e : AppEvent} (hs : Listed s) (h : s.step e = some s') : Listed s' := by
  cases e with
  | registerUsbReceiver | unregisterUsbReceiver =>
    obtain rfl := Option.some_inj.mp h
    exact ⟨hs.nodup, hs.instances⟩
  | usbTvOpen params vendorId productId hasPermission =>
    obtain rfl := Option.some_inj.mp h
    exact listed_usbTvOpen hs params vendorId productId hasPermission
  | permission dev granted =>
    obtain ⟨-, rfl⟩ := step_permission h
    exact listed_onPermission hs dev granted
  | send i msg =>
    obtain ⟨x, hx, -, -, rfl⟩ := step_send h
    apply hs.update
    intro hi
    obtain ⟨z, hz, hkeep⟩ := hs.instances hi
    obtain rfl := Option.some_inj.mp (hx.symm.trans hz)
    exact hkeep
  | handle i env => exact listed_handle hs h
  | thread e =>
    obtain ⟨d, -, rfl⟩ := Option.map_eq_some_iff.mp h
    exact ⟨hs.nodup, hs.instances⟩

/-- Each step leaves the driver initialized, if there is one. -/
lemma initialized_step {e : AppEvent} (hs : Jni.Initialized s.shared.usbtv)
    (h : s.step e = some s') : Jni.Initialized s'.shared.usbtv := by
  cases e with
  | registerUsbReceiver | unregisterUsbReceiver =>
    obtain rfl := Option.some_inj.mp h
    exact hs
  | usbTvOpen params vendorId productId hasPermission =>
    obtain rfl := Option.some_inj.mp h
    rw [usbTvOpen_shared]
    exact hs
  | permission dev granted =>
    obtain ⟨-, rfl⟩ := step_permission h
    rw [onPermission_shared]
    exact hs
  | send i msg =>
    obtain ⟨x, -, -, -, rfl⟩ := step_send h
    exact hs
  | handle i env =>
    obtain ⟨x, msg, queue, r, -, -, hr, rfl⟩ := handle_cases h
    exact UsbTvInstance.handleMessage_initialized hs hr
  | thread e =>
    obtain ⟨d', hd', rfl⟩ := Option.map_eq_some_iff.mp h
    obtain ⟨d, husbtv, hstep⟩ := Option.bind_eq_some_iff.mp hd'
    rintro d₁ ⟨⟩
    have hsame := (NativeDriver.threadStep_settings hstep).2.2
    exact hsame.initialized.trans (hs d husbtv)

/-- **Each step keeps all objects well formed.** -/
lemma wellFormed_step {e : AppEvent} (hs : WellFormed s) (h : s.step e = some s') :
    WellFormed s' := by
  refine ⟨fun {i x} hx => ?_, listed_step hs.listed h, initialized_step hs.initialized h⟩
  rcases step_instances h hx with hold | ⟨hcallbacks, hopen, hqueue⟩ | ⟨y, hy, hchange⟩
  · exact hs.instances hold
  · exact Instance.wellFormed_new hcallbacks hopen hqueue
  · exact (hs.instances hy).change hchange

/-- **Between any two steps all objects are well formed.** -/
theorem wellFormed_of_reachable {C : App → AppEvent → Prop} (h : apps.ReachableUnder C s) :
    WellFormed s := by
  refine StepSystem.ReachableUnder.invariant (I := WellFormed) ?_
    (fun s e s' _ hs _ hstep => wellFormed_step hs hstep) h
  rintro s rfl
  refine ⟨fun {i x} hx => ?_, ⟨List.nodup_nil, fun {i} hi => ?_⟩, ?_⟩
  · simp [new] at hx
  · simp [new] at hi
  · rintro d ⟨⟩

end App

end UsbTv
