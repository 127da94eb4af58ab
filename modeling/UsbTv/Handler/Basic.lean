import UsbTv.Handler.Native

set_option relaxedAutoImplicit false
set_option autoImplicit false

/-!
# The handler

`UsbTv.java`: an object of the class, the messages that its handler thread takes one after the
other, and what it does with each of them. Enumeration values and parameters are not null, but for
the object of `SET_CONTROL`, which is sent without one. A result `none` means that the handler
thread throws, or is in a native call that does not return.

## Main definitions

* `UsbTv.Java.UsbTvInstance` — the members of the class.
* `UsbTv.Java.Environment` — what the system answers while a message is handled.
* `UsbTv.Java.UsbTvInstance.initDevice`, `closeDevice`, `restartStream`, `handleMessage`.

## Main results

* `UsbTv.Java.UsbTvInstance.handleMessage_openDevice`, `handleMessage_closeDevice`,
  `handleMessage_keeps` — what the messages do to the members that tell whether the device is open.
-/

namespace UsbTv

namespace Java

/-! ## Messages and callbacks -/

/-- The messages of `NativeAction`, with their objects. -/
inductive Message
  | openDevice
  | closeDevice
  | startStreaming
  | stopStreaming
  | setInput (input : InputSelection)
  | setNorm (norm : TvNorm)
  | setScanType (scanType : ScanType)
  /-- `setControl` passes its value, and forgets the control. -/
  | setControl (value : ℤ)
  | setFrameListener (listener : Option ℕ)
  deriving DecidableEq, Repr

/-- The calls to `mDriverCallbacks`. -/
inductive Callback
  /-- `onOpen`, with `mDriverInterface` or with null. -/
  | onOpen (driver : Bool) (status : Bool)
  | onClose
  | onError
  deriving DecidableEq, Repr

/-- The user was given `mDriverInterface`, which sends all messages but `OPEN_DEVICE`. -/
def hasDriver (callbacks : List Callback) : Bool :=
  callbacks.any fun
    | .onOpen driver _ => driver
    | .onClose | .onError => false

@[simp] lemma hasDriver_nil : hasDriver [] = false := rfl

@[simp] lemma hasDriver_append (cs cs' : List Callback) :
    hasDriver (cs ++ cs') = (hasDriver cs || hasDriver cs') := List.any_append

/-- `onOpen` with null gives nothing out. -/
lemma hasDriver_append_null (cs : List Callback) (status : Bool) :
    hasDriver (cs ++ [.onOpen false status]) = hasDriver cs := by
  rw [hasDriver_append]
  exact Bool.or_false _

/-! ## Connections -/

/-- The connections that `UsbManager.openDevice` has made, in the order in which it has. -/
structure UsbHost where
  made : ℕ
  /-- The connections that are open. -/
  opened : List ℕ
  /-- The connections that have claimed interface 0. -/
  claimed : List ℕ
  deriving DecidableEq, Repr

namespace UsbHost

/-- `UsbManager.openDevice`, where it makes a connection. -/
def openDevice (h : UsbHost) : ℕ × UsbHost :=
  (h.made, { h with made := h.made + 1, opened := h.opened ++ [h.made] })

/-- `UsbDeviceConnection.claimInterface`, where it can. -/
def claimInterface (h : UsbHost) (connection : ℕ) : UsbHost :=
  { h with claimed := h.claimed ++ [connection] }

/-- `UsbDeviceConnection.releaseInterface`. -/
def releaseInterface (h : UsbHost) (connection : ℕ) : UsbHost :=
  { h with claimed := h.claimed.erase connection }

/-- `UsbDeviceConnection.close`, which gives up what the connection has claimed. -/
def close (h : UsbHost) (connection : ℕ) : UsbHost :=
  { h with opened := h.opened.erase connection, claimed := h.claimed.erase connection }

end UsbHost

/-- `USBTV_VIDEO_ENDPOINT`. -/
def usbtvVideoEndpoint : ℤ := 0x81

/-- `USB_ENDPOINT_MAXP_MASK`. -/
def usbEndpointMaxpMask : ℕ := 0x07ff

/-- `USB_EP_MULT_SHIFT`. -/
def usbEpMultShift : ℕ := 11

/-- `USB_EP_MULT_MASK`. -/
def usbEpMultMask : ℕ := 3 <<< usbEpMultShift

/-- `calculateMaxEndpointSize`. -/
def calculateMaxEndpointSize (descMaxSize : ℕ) : ℕ :=
  let base := descMaxSize &&& usbEndpointMaxpMask
  let multiplier := ((descMaxSize &&& usbEpMultMask) >>> usbEpMultShift) + 1
  base * multiplier

/-- The endpoint of the capture device takes three packets of 1024 bytes in a microframe. -/
example : calculateMaxEndpointSize 0x1400 = 3072 := by decide

/-! ## State -/

/-- An object of the class `UsbTv`. -/
structure UsbTvInstance where
  mUsbtvDevice : Option ℕ
  mUsbtvConnection : Option ℕ
  mHasUsbPermission : Bool
  mIsOpen : Bool
  mIsStreaming : Bool
  mDeviceParams : DeviceParams
  mOnFrameReceivedListener : Option ℕ

/-- What all objects share: the global of the native library, and the connections. -/
structure Shared where
  usbtv : Option NativeDriver
  host : UsbHost

/-- What `initDevice` finds out about the device. Interface 1 has an endpoint. -/
structure DeviceAnswers where
  /-- `openDevice` does not return null. -/
  openDevice : Bool
  interfaceCount : ℕ
  /-- The address of the endpoint of interface 1. -/
  address : ℤ
  /-- Its maximum packet size. -/
  maxPacketSize : ℕ
  claimInterface : Bool
  fileDescriptor : ℤ
  deriving DecidableEq, Repr

/-- What the system answers while a message is handled. -/
structure Environment where
  /-- The ioctls of the native calls. -/
  answer : ℕ → ℤ
  /-- What `initDevice` finds. -/
  device : DeviceAnswers
  /-- The memory of a new driver object. -/
  memory : Unassigned

/-- A capture device that can be opened, and ioctls that all return `ret`. -/
def answering (ret : ℤ) : Environment where
  answer := fun _ => ret
  device := ⟨true, 2, usbtvVideoEndpoint, 0x1400, true, 3⟩
  memory := ⟨nativeFrameParams Builder.new.build, .usbtvCompositeInput, 0, 0⟩

/-- What has become of a message. -/
structure Handled where
  self : UsbTvInstance
  shared : Shared
  /-- `mReferenceList.remove(this)` was called. -/
  removed : Bool
  /-- The calls to `mDriverCallbacks`. -/
  callbacks : List Callback

namespace UsbTvInstance

/-- `UsbTv(looper, appContext, params)`. -/
def new (params : DeviceParams) : UsbTvInstance where
  mUsbtvDevice := params.mDevice
  mUsbtvConnection := none
  mHasUsbPermission := false
  mIsOpen := false
  mIsStreaming := false
  mDeviceParams := params
  mOnFrameReceivedListener := none

/-! ## Messages -/

/-- The parameters that `initDevice` passes on. -/
def openParams (params : DeviceParams) (device : DeviceAnswers) : DeviceParams :=
  (Builder.ofParams params
    |>.setFileDescriptor device.fileDescriptor
    |>.setVideoEndpoint usbtvVideoEndpoint
    |>.setVideoUrbPacketSize (calculateMaxEndpointSize device.maxPacketSize)).build

/-- `initDevice`. With a connection to no device, the next call throws. -/
def initDevice (self : UsbTvInstance) (shared : Shared) (env : Environment) :
    Option (Bool × UsbTvInstance × Shared) :=
  if self.mHasUsbPermission = false then some (false, self, shared)
  else if env.device.openDevice = false then
    some (false, { self with mUsbtvConnection := none }, shared)
  else
    let (connection, host) := shared.host.openDevice
    let self := { self with mUsbtvConnection := some connection }
    let shared := { shared with host := host }
    match self.mUsbtvDevice with
    | none => none
    | some _ =>
      if env.device.interfaceCount < 2 then some (false, self, shared)
      else if env.device.address ≠ usbtvVideoEndpoint then some (false, self, shared)
      else if env.device.claimInterface = false then some (false, self, shared)
      else
        let host := host.claimInterface connection
        let self := { self with mDeviceParams := openParams self.mDeviceParams env.device }
        match Jni.usbtvInitialize shared.usbtv self.mDeviceParams env.memory with
        | (false, usbtv) => some (false, self, ⟨usbtv, host.close connection⟩)
        | (true, usbtv) => some (true, { self with mIsOpen := true }, ⟨usbtv, host⟩)

/-- `closeDevice`. It throws if a second `initDevice` has set `mUsbtvConnection` to null. -/
def closeDevice (self : UsbTvInstance) (shared : Shared) (answer : ℕ → ℤ) :
    Option (UsbTvInstance × Shared) :=
  if self.mIsOpen then
    (if self.mIsStreaming then Jni.usbtvStopStreaming shared.usbtv answer
      else some shared.usbtv).bind fun usbtv =>
    (Jni.usbtvDispose usbtv answer).bind fun usbtv =>
    self.mUsbtvConnection.map fun connection =>
      ({ self with
          mIsStreaming := false
          mIsOpen := false
          mUsbtvConnection := none
          mUsbtvDevice := none },
        ⟨usbtv, (shared.host.releaseInterface connection).close connection⟩)
  else some (self, shared)

/-- The message is done, with nothing but a call to native code. -/
def handled (self : UsbTvInstance) (shared : Shared) (usbtv : Option NativeDriver)
    (callbacks : List Callback) : Handled :=
  ⟨self, { shared with usbtv := usbtv }, false, callbacks⟩

/-- `restartStream`. -/
def restartStream (self : UsbTvInstance) (shared : Shared) (answer : ℕ → ℤ) : Option Handled :=
  if self.mIsStreaming then
    (Jni.usbtvStopStreaming shared.usbtv answer).bind fun usbtv =>
    (Jni.usbtvStartStreaming usbtv self.mDeviceParams answer).map fun (ok, usbtv) =>
      handled { self with mIsStreaming := ok } shared usbtv (if ok then [] else [.onError])
  else some (handled self shared shared.usbtv [])

/-- `handleMessage`. -/
def handleMessage (self : UsbTvInstance) (shared : Shared) (env : Environment) :
    Message → Option Handled
  | .openDevice =>
    (self.initDevice shared env).map fun (success, self, shared) =>
      if success then ⟨self, shared, false, [.onOpen true true]⟩
      else ⟨self, shared, true, [.onOpen false false]⟩
  | .closeDevice =>
    (self.closeDevice shared env.answer).map fun (self, shared) =>
      ⟨self, shared, true, [.onClose]⟩
  | .startStreaming =>
    if self.mIsStreaming then some (handled self shared shared.usbtv [])
    else
      (Jni.usbtvStartStreaming shared.usbtv self.mDeviceParams env.answer).map fun (ok, usbtv) =>
        handled { self with mIsStreaming := ok } shared usbtv (if ok then [] else [.onError])
  | .stopStreaming =>
    if self.mIsStreaming then
      (Jni.usbtvStopStreaming shared.usbtv env.answer).map fun usbtv =>
        handled { self with mIsStreaming := false } shared usbtv []
    else some (handled self shared shared.usbtv [])
  | .setInput input =>
    let self := { self with
      mDeviceParams := ((Builder.ofParams self.mDeviceParams).setInput input).build }
    let (ok, usbtv) := Jni.usbtvSetInput shared.usbtv self.mDeviceParams.mInput.ordinal env.answer
    some (handled self shared usbtv (if ok then [] else [.onError]))
  | .setNorm norm =>
    restartStream { self with
      mDeviceParams := ((Builder.ofParams self.mDeviceParams).setTvNorm norm).build }
      shared env.answer
  | .setScanType scanType =>
    restartStream { self with
      mDeviceParams := ((Builder.ofParams self.mDeviceParams).setScanType scanType).build }
      shared env.answer
  | .setControl _ => none
  | .setFrameListener listener =>
    if self.mIsStreaming then some (handled self shared shared.usbtv [.onError])
    else
      some (handled { self with mOnFrameReceivedListener := listener } shared
        (Jni.usbtvUseCallback shared.usbtv listener.isSome) [])

/-! ## What the messages do -/

variable {self : UsbTvInstance} {shared : Shared} {env : Environment} {r : Handled}

/-- The outcomes of `initDevice`: it opens the device, with a new driver, or it leaves the driver
alone. -/
lemma initDevice_cases {success : Bool} {self' : UsbTvInstance} {shared' : Shared}
    (h : self.initDevice shared env = some (success, self', shared')) :
    (success = true ∧ shared.usbtv = none ∧ self.mUsbtvDevice.isSome = true ∧
        (∃ connection host, self' = { self with
            mUsbtvConnection := some connection
            mDeviceParams := openParams self.mDeviceParams env.device
            mIsOpen := true } ∧
          shared' = ⟨some (.new (openParams self.mDeviceParams env.device) env.memory), host⟩)) ∨
      (success = false ∧ shared'.usbtv = shared.usbtv ∧ ∃ connection params,
        self' = { self with mUsbtvConnection := connection, mDeviceParams := params } ∧
        (params = self.mDeviceParams ∨ params = openParams self.mDeviceParams env.device)) := by
  unfold initDevice at h
  by_cases hperm : self.mHasUsbPermission = false
  · rw [if_pos hperm] at h
    obtain ⟨rfl, rfl, rfl⟩ := by simpa using h
    exact .inr ⟨rfl, rfl, _, _, rfl, .inl rfl⟩
  rw [if_neg hperm] at h
  by_cases hconn : env.device.openDevice = false
  · rw [if_pos hconn] at h
    obtain ⟨rfl, rfl, rfl⟩ := by simpa using h
    exact .inr ⟨rfl, rfl, none, _, rfl, .inl rfl⟩
  rw [if_neg hconn] at h
  dsimp only [UsbHost.openDevice] at h
  split at h
  · exact absurd h (by simp)
  next hdev =>
  split_ifs at h
  · obtain ⟨rfl, rfl, rfl⟩ := by simpa using h
    exact .inr ⟨rfl, rfl, _, _, rfl, .inl rfl⟩
  · obtain ⟨rfl, rfl, rfl⟩ := by simpa using h
    exact .inr ⟨rfl, rfl, _, _, rfl, .inl rfl⟩
  · obtain ⟨rfl, rfl, rfl⟩ := by simpa using h
    exact .inr ⟨rfl, rfl, _, _, rfl, .inl rfl⟩
  cases husbtv : shared.usbtv with
  | some d =>
    simp only [husbtv, Jni.usbtvInitialize_some, Option.some_inj, Prod.mk.injEq] at h
    obtain ⟨rfl, rfl, rfl⟩ := h
    exact .inr ⟨rfl, rfl, _, _, rfl, .inr rfl⟩
  | none =>
    simp only [husbtv, Jni.usbtvInitialize_none, Option.some_inj, Prod.mk.injEq] at h
    obtain ⟨rfl, rfl, rfl⟩ := h
    exact .inl ⟨rfl, rfl, by rw [hdev]; rfl, _, _, rfl, rfl⟩

/-- What a message that is about the stream only leaves alone, and that it acts on the driver by
native calls only. -/
structure Keeps (u : UsbTvInstance) (shared : Shared) (answer : ℕ → ℤ) (r : Handled) : Prop where
  mUsbtvDevice : r.self.mUsbtvDevice = u.mUsbtvDevice
  mHasUsbPermission : r.self.mHasUsbPermission = u.mHasUsbPermission
  mIsOpen : r.self.mIsOpen = u.mIsOpen
  host : r.shared.host = shared.host
  removed : r.removed = false
  hasDriver : hasDriver r.callbacks = false
  calls : Jni.Calls answer shared.usbtv r.shared.usbtv

/-- A message that calls native code and has changed nothing that it keeps. -/
lemma keeps_handled {u : UsbTvInstance} {usbtv : Option NativeDriver} {answer : ℕ → ℤ}
    {callbacks : List Callback} (hdev : u.mUsbtvDevice = self.mUsbtvDevice)
    (hperm : u.mHasUsbPermission = self.mHasUsbPermission) (hopen : u.mIsOpen = self.mIsOpen)
    (hcallbacks : Java.hasDriver callbacks = false) (hcalls : Jni.Calls answer shared.usbtv usbtv) :
    self.Keeps shared answer (u.handled shared usbtv callbacks) :=
  ⟨hdev, hperm, hopen, rfl, rfl, hcallbacks, hcalls⟩

/-- The callbacks of a call that can fail. -/
lemma hasDriver_onError (ok : Bool) : Java.hasDriver (if ok then [] else [.onError]) = false := by
  cases ok <;> rfl

/-- A restart is about the stream only. -/
lemma restartStream_keeps {answer : ℕ → ℤ} (h : self.restartStream shared answer = some r) :
    self.Keeps shared answer r := by
  unfold restartStream at h
  split_ifs at h
  · obtain ⟨usbtv, hstop, h⟩ := Option.bind_eq_some_iff.mp h
    obtain ⟨⟨ok, usbtv'⟩, hstart, rfl⟩ := Option.map_eq_some_iff.mp h
    exact keeps_handled rfl rfl rfl (hasDriver_onError ok)
      (.trans (.stopStreaming hstop) (.startStreaming hstart))
  · obtain rfl := Option.some_inj.mp h
    exact keeps_handled rfl rfl rfl rfl (.refl _)

/-- **The messages of the stream** do not touch what tells whether the device is open. -/
lemma handleMessage_keeps {msg : Message} (hopen : msg ≠ .openDevice) (hclose : msg ≠ .closeDevice)
    (h : self.handleMessage shared env msg = some r) : self.Keeps shared env.answer r := by
  cases msg with
  | openDevice => exact absurd rfl hopen
  | closeDevice => exact absurd rfl hclose
  | startStreaming =>
    simp only [handleMessage] at h
    split_ifs at h
    · obtain rfl := Option.some_inj.mp h
      exact keeps_handled rfl rfl rfl rfl (.refl _)
    · obtain ⟨⟨ok, usbtv⟩, hstart, rfl⟩ := Option.map_eq_some_iff.mp h
      exact keeps_handled rfl rfl rfl (hasDriver_onError ok) (.startStreaming hstart)
  | stopStreaming =>
    simp only [handleMessage] at h
    split_ifs at h
    · obtain ⟨usbtv, hstop, rfl⟩ := Option.map_eq_some_iff.mp h
      exact keeps_handled rfl rfl rfl rfl (.stopStreaming hstop)
    · obtain rfl := Option.some_inj.mp h
      exact keeps_handled rfl rfl rfl rfl (.refl _)
  | setInput input =>
    obtain rfl := Option.some_inj.mp h
    exact keeps_handled rfl rfl rfl (hasDriver_onError _) (.setInput _ _)
  | setNorm norm =>
    obtain ⟨hdev, hperm, hsame, hhost, hremoved, hcallbacks, hcalls⟩ := restartStream_keeps h
    exact ⟨hdev, hperm, hsame, hhost, hremoved, hcallbacks, hcalls⟩
  | setScanType scanType =>
    obtain ⟨hdev, hperm, hsame, hhost, hremoved, hcallbacks, hcalls⟩ := restartStream_keeps h
    exact ⟨hdev, hperm, hsame, hhost, hremoved, hcallbacks, hcalls⟩
  | setControl value => exact absurd h (by simp [handleMessage])
  | setFrameListener listener =>
    simp only [handleMessage] at h
    split_ifs at h
    · obtain rfl := Option.some_inj.mp h
      exact keeps_handled rfl rfl rfl rfl (.refl _)
    · obtain rfl := Option.some_inj.mp h
      exact keeps_handled rfl rfl rfl rfl (.useCallback _ _)

/-- **`OPEN_DEVICE`** opens the device and gives out the driver, or it fails and removes the object
from the list. -/
lemma handleMessage_openDevice (h : self.handleMessage shared env .openDevice = some r) :
    (shared.usbtv = none ∧ self.mUsbtvDevice.isSome = true ∧ r.removed = false ∧
        r.callbacks = [.onOpen true true] ∧
        (∃ connection host, r.self = { self with
            mUsbtvConnection := some connection
            mDeviceParams := openParams self.mDeviceParams env.device
            mIsOpen := true } ∧
          r.shared = ⟨some (.new (openParams self.mDeviceParams env.device) env.memory), host⟩)) ∨
      (r.shared.usbtv = shared.usbtv ∧ r.removed = true ∧ r.callbacks = [.onOpen false false] ∧
        ∃ connection params,
          r.self = { self with mUsbtvConnection := connection, mDeviceParams := params } ∧
          (params = self.mDeviceParams ∨ params = openParams self.mDeviceParams env.device)) := by
  obtain ⟨⟨success, self', shared'⟩, hinit, rfl⟩ := Option.map_eq_some_iff.mp h
  rcases initDevice_cases hinit with ⟨rfl, hnone, hdev, hself⟩ | ⟨rfl, hsame, hself⟩
  · exact .inl ⟨hnone, hdev, rfl, rfl, hself⟩
  · exact .inr ⟨hsame, rfl, rfl, hself⟩

/-- **`CLOSE_DEVICE`** closes an open device and deletes the driver, and it removes the object from
the list in any case. -/
lemma handleMessage_closeDevice (h : self.handleMessage shared env .closeDevice = some r) :
    r.removed = true ∧ r.callbacks = [.onClose] ∧
      ((self.mIsOpen = true ∧ r.shared.usbtv = none ∧ r.self = { self with
          mIsStreaming := false
          mIsOpen := false
          mUsbtvConnection := none
          mUsbtvDevice := none }) ∨
        (self.mIsOpen = false ∧ r.shared = shared ∧ r.self = self)) := by
  obtain ⟨⟨self', shared'⟩, hclose, rfl⟩ := Option.map_eq_some_iff.mp h
  refine ⟨rfl, rfl, ?_⟩
  unfold closeDevice at hclose
  by_cases hopen : self.mIsOpen = true
  · rw [if_pos hopen] at hclose
    obtain ⟨usbtv, -, hclose⟩ := Option.bind_eq_some_iff.mp hclose
    obtain ⟨usbtv', hdispose, hclose⟩ := Option.bind_eq_some_iff.mp hclose
    obtain ⟨connection, -, heq⟩ := Option.map_eq_some_iff.mp hclose
    obtain ⟨rfl, rfl⟩ := Prod.mk.inj heq
    exact .inl ⟨hopen, Jni.usbtvDispose_eq_some hdispose, rfl⟩
  · rw [if_neg hopen] at hclose
    obtain ⟨rfl, rfl⟩ := Prod.mk.inj (Option.some_inj.mp hclose)
    exact .inr ⟨by simpa using hopen, rfl, rfl⟩

/-- Every message leaves the driver initialized, if there is one. -/
lemma handleMessage_initialized {msg : Message} (hi : Jni.Initialized shared.usbtv)
    (h : self.handleMessage shared env msg = some r) : Jni.Initialized r.shared.usbtv := by
  by_cases hopen : msg = .openDevice
  · subst hopen
    rcases handleMessage_openDevice h with ⟨-, -, -, -, connection, host, -, hshared⟩ | ⟨hsame, -⟩
    · rw [hshared]
      rintro d ⟨⟩
      rfl
    · rw [hsame]
      exact hi
  by_cases hclose : msg = .closeDevice
  · subst hclose
    obtain ⟨-, -, ⟨-, hnone, -⟩ | ⟨-, hshared, -⟩⟩ := handleMessage_closeDevice h
    · rw [hnone]
      rintro d ⟨⟩
    · rw [hshared]
      exact hi
  · exact (handleMessage_keeps hopen hclose h).calls.initialized hi

end UsbTvInstance

end Java

end UsbTv
