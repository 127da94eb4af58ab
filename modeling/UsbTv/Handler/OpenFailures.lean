import UsbTv.Handler.Instances

set_option relaxedAutoImplicit false
set_option autoImplicit false

/-!
# What a failed open leaves behind

`initDevice` acquires a connection, the claim of an interface and the native driver, one after the
other, and each of its checks returns at once. Only the last of them, after `initialize`, closes the
connection. The three checks before it, of the number of interfaces, of the address of the endpoint
and of the claim, leave the connection open. `handleMessage` then drops the object, so nothing will
close it.

An object that is open already, because the permission was broadcast twice, stays open when its
second `OPEN_DEVICE` fails.

## Main definitions

* `UsbTv.Java.LeavesNothing`, `Opens`, `Settled` — what `initDevice` has to do if it fails, and if
  it succeeds.
* `UsbTv.Java.UsbTvInstance.OpensCleanly` — the condition under which it does.
* `UsbTv.App.Orphan` — an open connection that no open object has.

## Main results

* `UsbTv.Java.UsbTvInstance.settled_iff` — `initDevice` does what it has to under that condition
  only.
* `UsbTv.App.leaked_of_run` — a connection that a failed open has left is open in every state that
  comes after.
-/

namespace UsbTv

namespace Java

/-! ## Connections -/

namespace UsbHost

/-- Connections are numbered as they are made, so the ones there are come before the next one. -/
structure Numbered (h : UsbHost) : Prop where
  opened : ∀ c ∈ h.opened, c < h.made
  claimed : ∀ c ∈ h.claimed, c < h.made

/-- The connection was made between the two. -/
def Obtained (h h' : UsbHost) (c : ℕ) : Prop := h.made ≤ c ∧ c < h'.made

variable {h : UsbHost}

/-- The connection that is made is open. -/
lemma mem_opened_openDevice (h : UsbHost) : h.made ∈ h.openDevice.2.opened :=
  List.mem_append_right _ (List.mem_singleton_self _)

/-- What comes last in a list, and nowhere before, is erased from its end. -/
lemma erase_concat {l : List ℕ} {c : ℕ} (hc : c ∉ l) : (l ++ [c]).erase c = l := by
  rw [List.erase_append_right _ hc, List.erase_cons_head, List.append_nil]

/-- Closing the connection that was made last takes back its claim too. -/
lemma Numbered.close_claimInterface (hh : h.Numbered) :
    (h.openDevice.2.claimInterface h.made).close h.made = { h with made := h.made + 1 } := by
  have hopened : h.made ∉ h.opened := fun hmem => lt_irrefl _ (hh.opened _ hmem)
  have hclaimed : h.made ∉ h.claimed := fun hmem => lt_irrefl _ (hh.claimed _ hmem)
  simp only [openDevice, claimInterface, close]
  rw [erase_concat hopened, erase_concat hclaimed]

end UsbHost

/-! ## The parameters -/

namespace DeviceParams

/-- `build` has made the parameters. The constructor of `DeviceParams` is private to the builder. -/
def IsBuilt (p : DeviceParams) : Prop := ∃ b : Builder, p = b.build

/-- What the user chooses with the setters of the builder. -/
structure SameChoices (p q : DeviceParams) : Prop where
  mDevice : q.mDevice = p.mDevice
  mCaptureAudio : q.mCaptureAudio = p.mCaptureAudio
  mCallbacks : q.mCallbacks = p.mCallbacks
  mFramePoolSize : q.mFramePoolSize = p.mFramePoolSize
  mNorm : q.mNorm = p.mNorm
  mScanType : q.mScanType = p.mScanType
  mInput : q.mInput = p.mInput

/-- The parameters that `initDevice` passes on keep what the user chose. -/
lemma IsBuilt.sameChoices_openParams {p : DeviceParams} (hp : p.IsBuilt) (device : DeviceAnswers) :
    p.SameChoices (UsbTvInstance.openParams p device) := by
  obtain ⟨b, rfl⟩ := hp
  exact ⟨rfl, rfl, rfl, rfl, rfl, rfl, rfl⟩

end DeviceParams

/-! ## What `initDevice` has to do -/

/-- A failed open has left nothing behind. -/
structure LeavesNothing (shared : Shared) (self' : UsbTvInstance) (shared' : Shared) : Prop where
  opened : ∀ c, shared.host.Obtained shared'.host c → c ∉ shared'.host.opened
  claimed : ∀ c, shared.host.Obtained shared'.host c → c ∉ shared'.host.claimed
  mIsOpen : self'.mIsOpen = false
  usbtv : shared'.usbtv = shared.usbtv

/-- The device is open, by a connection that the call has obtained. -/
structure Opens (u : UsbTvInstance) (shared : Shared) (device : DeviceAnswers)
    (self' : UsbTvInstance) (shared' : Shared) : Prop where
  connection : ∃ c, shared.host.Obtained shared'.host c ∧ self'.mUsbtvConnection = some c ∧
    c ∈ shared'.host.opened ∧ c ∈ shared'.host.claimed
  mIsOpen : self'.mIsOpen = true
  mFileDescriptor : self'.mDeviceParams.mFileDescriptor = device.fileDescriptor
  mVideoUrbPacketSize :
    self'.mDeviceParams.mVideoUrbPacketSize = calculateMaxEndpointSize device.maxPacketSize
  choices : u.mDeviceParams.SameChoices self'.mDeviceParams

/-- `initDevice` has done what it has to, whether it succeeds or not. -/
def Settled (self : UsbTvInstance) (shared : Shared) (device : DeviceAnswers) :
    Bool × UsbTvInstance × Shared → Prop
  | (true, self', shared') => Opens self shared device self' shared'
  | (false, self', shared') => LeavesNothing shared self' shared'

/-- The device has the interfaces and the endpoint of a capture device, and can be claimed. -/
structure DeviceAnswers.Fits (device : DeviceAnswers) : Prop where
  interfaceCount : 2 ≤ device.interfaceCount
  address : device.address = usbtvVideoEndpoint
  claimInterface : device.claimInterface = true

namespace UsbTvInstance

/-- If a connection is made, the device fits; and if the object is open already, it can be opened
once more. -/
structure OpensCleanly (u : UsbTvInstance) (shared : Shared) (device : DeviceAnswers) :
    Prop where
  fits : u.mHasUsbPermission = true → device.openDevice = true → device.Fits
  opens : u.mIsOpen = true →
    u.mHasUsbPermission = true ∧ device.openDevice = true ∧ shared.usbtv = none

/-! ## The ways out of `initDevice` -/

variable {self : UsbTvInstance} {shared : Shared} {env : Environment}

/-- Without a permission or a connection nothing is acquired. -/
lemma initDevice_refused
    (h : ¬ (self.mHasUsbPermission = true ∧ env.device.openDevice = true)) :
    ∃ connection, (connection = none ∨ connection = self.mUsbtvConnection) ∧
      self.initDevice shared env =
        some (false, { self with mUsbtvConnection := connection }, shared) := by
  unfold initDevice
  by_cases hperm : self.mHasUsbPermission = false
  · rw [if_pos hperm]
    exact ⟨self.mUsbtvConnection, .inr rfl, rfl⟩
  · have hopen : env.device.openDevice = false := by
      rw [Bool.not_eq_false] at hperm
      exact Bool.eq_false_iff.mpr fun hopen => h ⟨hperm, hopen⟩
    rw [if_neg hperm, if_pos hopen]
    exact ⟨none, .inl rfl, rfl⟩

/-- With a connection to no device, the call throws. -/
lemma initDevice_of_mUsbtvDevice_eq_none (hperm : self.mHasUsbPermission = true)
    (hopen : env.device.openDevice = true) (hdev : self.mUsbtvDevice = none) :
    self.initDevice shared env = none := by
  simp [initDevice, hperm, hopen, hdev]

/-- **The three checks that leave the connection open.** -/
lemma initDevice_unfit {dev : ℕ} (hperm : self.mHasUsbPermission = true)
    (hopen : env.device.openDevice = true) (hdev : self.mUsbtvDevice = some dev)
    (hfits : ¬ env.device.Fits) :
    self.initDevice shared env =
      some (false, { self with mUsbtvConnection := some shared.host.made },
        { shared with host := shared.host.openDevice.2 }) := by
  simp only [initDevice, hperm, hopen, hdev, Bool.true_eq_false, if_false]
  split_ifs with hcount haddress hclaim
  · rfl
  · rfl
  · rfl
  · exact absurd ⟨by omega, not_not.mp haddress, by simpa using hclaim⟩ hfits

/-- A device that fits is claimed. -/
lemma initDevice_fits {dev : ℕ} (hperm : self.mHasUsbPermission = true)
    (hopen : env.device.openDevice = true) (hdev : self.mUsbtvDevice = some dev)
    (hfits : env.device.Fits) :
    self.initDevice shared env =
      let host := shared.host.openDevice.2.claimInterface shared.host.made
      let self := { self with
        mUsbtvConnection := some shared.host.made
        mDeviceParams := openParams self.mDeviceParams env.device }
      match Jni.usbtvInitialize shared.usbtv self.mDeviceParams env.memory with
      | (false, usbtv) => some (false, self, ⟨usbtv, host.close shared.host.made⟩)
      | (true, usbtv) => some (true, { self with mIsOpen := true }, ⟨usbtv, host⟩) := by
  have hcount : ¬ env.device.interfaceCount < 2 := not_lt.mpr hfits.interfaceCount
  have hclaim : ¬ env.device.claimInterface = false := by simp [hfits.claimInterface]
  simp only [initDevice, hperm, hopen, hdev, Bool.true_eq_false, if_false]
  rw [if_neg hcount, if_neg (not_not.mpr hfits.address), if_neg hclaim]
  rfl

/-- **The check that closes the connection**: there is a driver already. -/
lemma initDevice_initialized {dev : ℕ} {d : NativeDriver} (hperm : self.mHasUsbPermission = true)
    (hopen : env.device.openDevice = true) (hdev : self.mUsbtvDevice = some dev)
    (hfits : env.device.Fits) (husbtv : shared.usbtv = some d) :
    self.initDevice shared env =
      some (false, { self with
          mUsbtvConnection := some shared.host.made
          mDeviceParams := openParams self.mDeviceParams env.device },
        { shared with
          host := (shared.host.openDevice.2.claimInterface shared.host.made).close
            shared.host.made }) := by
  rw [initDevice_fits hperm hopen hdev hfits, husbtv]
  cases shared
  subst husbtv
  rfl

/-- Without a driver the device is opened. -/
lemma initDevice_opens {dev : ℕ} (hperm : self.mHasUsbPermission = true)
    (hopen : env.device.openDevice = true) (hdev : self.mUsbtvDevice = some dev)
    (hfits : env.device.Fits) (husbtv : shared.usbtv = none) :
    self.initDevice shared env =
      some (true, { self with
          mUsbtvConnection := some shared.host.made
          mDeviceParams := openParams self.mDeviceParams env.device
          mIsOpen := true },
        ⟨some (.new (openParams self.mDeviceParams env.device) env.memory),
          shared.host.openDevice.2.claimInterface shared.host.made⟩) := by
  rw [initDevice_fits hperm hopen hdev hfits, husbtv]
  rfl

/-- The outcomes of `initDevice`, each with what leads to it. -/
inductive Outcome (u : UsbTvInstance) (shared : Shared) (env : Environment) :
    Bool × UsbTvInstance × Shared → Prop
  | refused {connection : Option ℕ}
      (hrefused : ¬ (u.mHasUsbPermission = true ∧ env.device.openDevice = true))
      (hconnection : connection = none ∨ connection = u.mUsbtvConnection) :
      Outcome u shared env (false, { u with mUsbtvConnection := connection }, shared)
  | unfit (hperm : u.mHasUsbPermission = true) (hopen : env.device.openDevice = true)
      (hfits : ¬ env.device.Fits) :
      Outcome u shared env (false, { u with mUsbtvConnection := some shared.host.made },
        { shared with host := shared.host.openDevice.2 })
  | initialized (hfits : env.device.Fits) (husbtv : shared.usbtv ≠ none) :
      Outcome u shared env (false, { u with
          mUsbtvConnection := some shared.host.made
          mDeviceParams := openParams u.mDeviceParams env.device },
        { shared with
          host := (shared.host.openDevice.2.claimInterface shared.host.made).close
            shared.host.made })
  | opens (hperm : u.mHasUsbPermission = true) (hopen : env.device.openDevice = true)
      (hfits : env.device.Fits) (husbtv : shared.usbtv = none) :
      Outcome u shared env (true, { u with
          mUsbtvConnection := some shared.host.made
          mDeviceParams := openParams u.mDeviceParams env.device
          mIsOpen := true },
        ⟨some (.new (openParams u.mDeviceParams env.device) env.memory),
          shared.host.openDevice.2.claimInterface shared.host.made⟩)

/-- **`initDevice` has no other outcomes.** -/
lemma initDevice_outcome {r : Bool × UsbTvInstance × Shared}
    (h : self.initDevice shared env = some r) : Outcome self shared env r := by
  by_cases hconn : self.mHasUsbPermission = true ∧ env.device.openDevice = true
  · obtain ⟨hperm, hopen⟩ := hconn
    cases hdev : self.mUsbtvDevice with
    | none =>
      rw [initDevice_of_mUsbtvDevice_eq_none hperm hopen hdev] at h
      exact absurd h (by simp)
    | some dev =>
      by_cases hfits : env.device.Fits
      · cases husbtv : shared.usbtv with
        | none =>
          obtain rfl := Option.some_inj.mp
            ((initDevice_opens hperm hopen hdev hfits husbtv).symm.trans h)
          exact .opens hperm hopen hfits husbtv
        | some d =>
          obtain rfl := Option.some_inj.mp
            ((initDevice_initialized hperm hopen hdev hfits husbtv).symm.trans h)
          exact .initialized hfits (by simp [husbtv])
      · obtain rfl := Option.some_inj.mp ((initDevice_unfit hperm hopen hdev hfits).symm.trans h)
        exact .unfit hperm hopen hfits
  · obtain ⟨connection, hconnection, hrefused⟩ := initDevice_refused hconn
    obtain rfl := Option.some_inj.mp (hrefused.symm.trans h)
    exact .refused hconn hconnection

/-! ## The outcomes, one by one -/

/-- Nothing is left behind by a call that acquires nothing, unless the object was open. -/
lemma leavesNothing_refused_iff (connection : Option ℕ) :
    LeavesNothing shared { self with mUsbtvConnection := connection } shared ↔
      self.mIsOpen = false := by
  refine ⟨fun h => h.mIsOpen, fun hopen => ⟨?_, ?_, hopen, rfl⟩⟩
  · exact fun c hc => absurd hc.2 (not_lt.mpr hc.1)
  · exact fun c hc => absurd hc.2 (not_lt.mpr hc.1)

/-- A connection that was made and not closed is left behind. -/
lemma not_leavesNothing_unfit (self' : UsbTvInstance) :
    ¬ LeavesNothing shared self' { shared with host := shared.host.openDevice.2 } := fun h =>
  h.opened shared.host.made ⟨le_rfl, Nat.lt_succ_self _⟩ shared.host.mem_opened_openDevice

/-- Nothing is left behind where the connection is closed, unless the object was open. -/
lemma leavesNothing_close_iff (hhost : shared.host.Numbered) (self' : UsbTvInstance)
    (hself : self'.mIsOpen = self.mIsOpen) :
    LeavesNothing shared self' { shared with
        host := (shared.host.openDevice.2.claimInterface shared.host.made).close
          shared.host.made } ↔
      self.mIsOpen = false := by
  rw [hhost.close_claimInterface]
  refine ⟨fun h => hself.symm.trans h.mIsOpen, fun hopen => ⟨?_, ?_, hself.trans hopen, rfl⟩⟩
  · exact fun c hc hmem => absurd hc.1 (not_le.mpr (hhost.opened c hmem))
  · exact fun c hc hmem => absurd hc.1 (not_le.mpr (hhost.claimed c hmem))

/-- The device is open where the driver was made. -/
lemma opens_claimed (hparams : self.mDeviceParams.IsBuilt) (usbtv : Option NativeDriver) :
    Opens self shared env.device
      { self with
        mUsbtvConnection := some shared.host.made
        mDeviceParams := openParams self.mDeviceParams env.device
        mIsOpen := true }
      ⟨usbtv, shared.host.openDevice.2.claimInterface shared.host.made⟩ where
  connection := by
    refine ⟨shared.host.made, ⟨le_rfl, Nat.lt_succ_self _⟩, rfl, ?_, ?_⟩
    · exact shared.host.mem_opened_openDevice
    · exact List.mem_append_right _ (List.mem_singleton_self _)
  mIsOpen := rfl
  mFileDescriptor := rfl
  mVideoUrbPacketSize := rfl
  choices := hparams.sameChoices_openParams env.device

/-! ## Whether anything is left behind -/

/-- **A failed open leaves nothing behind**, and a successful one has opened the device, exactly if
the device fits whenever a connection is made, and the object was not open before a call that
fails. -/
theorem settled_iff {r : Bool × UsbTvInstance × Shared} (hhost : shared.host.Numbered)
    (hparams : self.mDeviceParams.IsBuilt) (h : self.initDevice shared env = some r) :
    Settled self shared env.device r ↔ self.OpensCleanly shared env.device := by
  cases initDevice_outcome h with
  | refused hrefused =>
    refine (leavesNothing_refused_iff _).trans
      ⟨fun hclosed => ⟨fun hperm hopen => absurd ⟨hperm, hopen⟩ hrefused, fun hold => ?_⟩,
        fun hclean => Bool.eq_false_iff.mpr fun hold => ?_⟩
    · exact absurd (hold.symm.trans hclosed) (by simp)
    · obtain ⟨hperm, hopen, -⟩ := hclean.opens hold
      exact hrefused ⟨hperm, hopen⟩
  | unfit hperm hopen hfits =>
    exact iff_of_false (not_leavesNothing_unfit _) fun hclean => hfits (hclean.fits hperm hopen)
  | initialized hfits husbtv =>
    refine (leavesNothing_close_iff hhost _ rfl).trans
      ⟨fun hclosed => ⟨fun _ _ => hfits, fun hold => ?_⟩,
        fun hclean => Bool.eq_false_iff.mpr fun hold => ?_⟩
    · exact absurd (hold.symm.trans hclosed) (by simp)
    · obtain ⟨-, -, hnone⟩ := hclean.opens hold
      exact husbtv hnone
  | opens hperm hopen hfits husbtv =>
    exact iff_of_true (opens_claimed hparams _)
      ⟨fun _ _ => hfits, fun _ => ⟨hperm, hopen, husbtv⟩⟩

/-- The object that `open` makes for a device that the application has the permission for. -/
def permitted (dev : ℕ) : UsbTvInstance :=
  { new (Builder.new.setUsbDevice dev).build with mHasUsbPermission := true }

/-- Nothing is shared yet. -/
def unshared : Shared := ⟨none, ⟨0, [], []⟩⟩

/-- Nothing is shared yet but a connection that another object has closed. -/
def closedBefore : Shared := ⟨none, ⟨1, [], []⟩⟩

/-- The device is opened by the second connection. -/
theorem settled_iff_opened :
    ∃ r, (permitted 7).initDevice closedBefore (answering 0) = some r ∧ r.1 = true ∧
      (Settled (permitted 7) closedBefore (answering 0).device r ↔
        (permitted 7).OpensCleanly closedBefore (answering 0).device) ∧
      (permitted 7).OpensCleanly closedBefore (answering 0).device := by
  have h : ((permitted 7).initDevice closedBefore (answering 0)).map (fun r => r.1) =
      some true := by decide
  obtain ⟨r, hr, hok⟩ := Option.map_eq_some_iff.mp h
  refine ⟨r, hr, hok, settled_iff ⟨by simp [closedBefore], by simp [closedBefore]⟩ ⟨_, rfl⟩ hr,
    fun _ _ => ⟨le_rfl, rfl, rfl⟩, fun hopen => ?_⟩
  cases hopen

/-- A device whose interface cannot be claimed. -/
def unclaimable : Environment :=
  { answering 0 with device := { (answering 0).device with claimInterface := false } }

/-- **The connection stays open** where the interface cannot be claimed. -/
theorem not_settled_unclaimable :
    ∃ r, (permitted 7).initDevice unshared unclaimable = some r ∧
      ¬ Settled (permitted 7) unshared unclaimable.device r :=
  ⟨_, rfl, fun h => h.opened 0 ⟨le_rfl, Nat.zero_lt_one⟩ (List.mem_singleton_self 0)⟩

/-! ## What the messages do to connections -/

/-- What a message does to the connections: it closes none but the one of an open object, and an
open object has the connection that it had, or a new one. -/
structure Uses (u : UsbTvInstance) (h : UsbHost) (u' : UsbTvInstance) (h' : UsbHost) : Prop where
  made : h.made ≤ h'.made
  opened : ∀ c ∈ h'.opened, c ∈ h.opened ∨ h.Obtained h' c
  claimed : ∀ c ∈ h'.claimed, c ∈ h.claimed ∨ h.Obtained h' c
  held : ∀ c, u'.mIsOpen = true → u'.mUsbtvConnection = some c →
    u.mIsOpen = true ∧ u.mUsbtvConnection = some c ∨ h.Obtained h' c
  kept : ∀ c ∈ h.opened, c < h.made → (u.mIsOpen = true → u.mUsbtvConnection ≠ some c) →
    c ∈ h'.opened

/-- A message that has nothing to do with connections. -/
lemma uses_of_eq {u u' : UsbTvInstance} {h h' : UsbHost} (hhost : h' = h)
    (hopen : u'.mIsOpen = u.mIsOpen) (hconn : u'.mUsbtvConnection = u.mUsbtvConnection) :
    Uses u h u' h' := by
  subst hhost
  refine ⟨le_rfl, fun c hc => .inl hc, fun c hc => .inl hc, fun c hold hc => .inl ⟨?_, ?_⟩,
    fun c hc _ _ => hc⟩
  · exact hopen.symm.trans hold
  · exact hconn.symm.trans hc

/-- A restart keeps the connection. -/
lemma restartStream_mUsbtvConnection {answer : ℕ → ℤ} {r : Handled}
    (h : self.restartStream shared answer = some r) :
    r.self.mUsbtvConnection = self.mUsbtvConnection := by
  unfold restartStream at h
  split_ifs at h
  · obtain ⟨usbtv, -, h⟩ := Option.bind_eq_some_iff.mp h
    obtain ⟨⟨ok, usbtv'⟩, -, rfl⟩ := Option.map_eq_some_iff.mp h
    rfl
  · obtain rfl := Option.some_inj.mp h
    rfl

/-- The messages of the stream keep the connection. -/
lemma handleMessage_mUsbtvConnection {msg : Message} {r : Handled} (hopen : msg ≠ .openDevice)
    (hclose : msg ≠ .closeDevice) (h : self.handleMessage shared env msg = some r) :
    r.self.mUsbtvConnection = self.mUsbtvConnection := by
  cases msg with
  | openDevice => exact absurd rfl hopen
  | closeDevice => exact absurd rfl hclose
  | startStreaming =>
    simp only [handleMessage] at h
    split_ifs at h
    · obtain rfl := Option.some_inj.mp h
      rfl
    · obtain ⟨⟨ok, usbtv⟩, -, rfl⟩ := Option.map_eq_some_iff.mp h
      rfl
  | stopStreaming =>
    simp only [handleMessage] at h
    split_ifs at h
    · obtain ⟨usbtv, -, rfl⟩ := Option.map_eq_some_iff.mp h
      rfl
    · obtain rfl := Option.some_inj.mp h
      rfl
  | setInput input =>
    obtain rfl := Option.some_inj.mp h
    rfl
  | setNorm norm => exact (restartStream_mUsbtvConnection h).trans rfl
  | setScanType scanType => exact (restartStream_mUsbtvConnection h).trans rfl
  | setControl value => exact absurd h (by simp [handleMessage])
  | setFrameListener listener =>
    simp only [handleMessage] at h
    split_ifs at h
    · obtain rfl := Option.some_inj.mp h
      rfl
    · obtain rfl := Option.some_inj.mp h
      rfl

/-- `initDevice` closes no connection but its own. -/
lemma initDevice_uses {success : Bool} {self' : UsbTvInstance} {shared' : Shared}
    (h : self.initDevice shared env = some (success, self', shared')) :
    Uses self shared.host self' shared'.host := by
  have hnew : shared.host.made ≤ shared.host.made ∧ shared.host.made < shared.host.made + 1 :=
    ⟨le_rfl, Nat.lt_succ_self _⟩
  -- the new connection comes last in a list, or is not in it any more
  have hconcat : ∀ {l : List ℕ} {c : ℕ}, c ∈ l ++ [shared.host.made] →
      c ∈ l ∨ shared.host.made ≤ c ∧ c < shared.host.made + 1 := by
    intro l c hc
    rcases List.mem_append.mp hc with hold | hlast
    · exact .inl hold
    · rw [List.mem_singleton.mp hlast]
      exact .inr hnew
  cases initDevice_outcome h with
  | refused _ hconnection =>
    refine ⟨le_rfl, fun c hc => .inl hc, fun c hc => .inl hc, fun c hold hc => .inl ⟨hold, ?_⟩,
      fun c hc _ _ => hc⟩
    rcases hconnection with rfl | rfl
    · exact absurd hc (by simp)
    · exact hc
  | unfit =>
    refine ⟨Nat.le_succ _, fun c hc => hconcat hc, fun c hc => .inl hc, fun c _ hc => .inr ?_,
      fun c hc _ _ => List.mem_append_left _ hc⟩
    obtain rfl := Option.some_inj.mp hc
    exact hnew
  | initialized =>
    refine ⟨Nat.le_succ _, fun c hc => hconcat (List.mem_of_mem_erase hc),
      fun c hc => hconcat (List.mem_of_mem_erase hc), fun c _ hc => .inr ?_,
      fun c hc hlt _ => ?_⟩
    · obtain rfl := Option.some_inj.mp hc
      exact hnew
    · exact (List.mem_erase_of_ne hlt.ne).mpr (List.mem_append_left _ hc)
  | opens =>
    refine ⟨Nat.le_succ _, fun c hc => hconcat hc, fun c hc => hconcat hc, fun c _ hc => .inr ?_,
      fun c hc _ _ => List.mem_append_left _ hc⟩
    obtain rfl := Option.some_inj.mp hc
    exact hnew

/-- `closeDevice` closes the connection of an open object. -/
lemma closeDevice_uses {answer : ℕ → ℤ} {self' : UsbTvInstance} {shared' : Shared}
    (h : self.closeDevice shared answer = some (self', shared')) :
    Uses self shared.host self' shared'.host := by
  unfold closeDevice at h
  by_cases hopen : self.mIsOpen = true
  · rw [if_pos hopen] at h
    obtain ⟨usbtv, -, h⟩ := Option.bind_eq_some_iff.mp h
    obtain ⟨usbtv', -, h⟩ := Option.bind_eq_some_iff.mp h
    obtain ⟨connection, hconn, heq⟩ := Option.map_eq_some_iff.mp h
    obtain ⟨rfl, rfl⟩ := Prod.mk.inj heq
    refine ⟨le_rfl, fun c hc => .inl (List.mem_of_mem_erase hc),
      fun c hc => .inl (List.mem_of_mem_erase (List.mem_of_mem_erase hc)),
      fun c hfalse => absurd hfalse (by simp), fun c hc _ hne => ?_⟩
    refine (List.mem_erase_of_ne ?_).mpr hc
    rintro rfl
    exact hne hopen hconn
  · rw [if_neg hopen] at h
    obtain ⟨rfl, rfl⟩ := Prod.mk.inj (Option.some_inj.mp h)
    exact uses_of_eq rfl rfl rfl

/-- **What any message does to connections.** -/
lemma handleMessage_uses {msg : Message} {r : Handled}
    (h : self.handleMessage shared env msg = some r) :
    Uses self shared.host r.self r.shared.host := by
  by_cases hopen : msg = .openDevice
  · subst hopen
    obtain ⟨⟨success, self', shared'⟩, hinit, rfl⟩ := Option.map_eq_some_iff.mp h
    cases success <;> exact initDevice_uses hinit
  by_cases hclose : msg = .closeDevice
  · subst hclose
    obtain ⟨⟨self', shared'⟩, hdone, rfl⟩ := Option.map_eq_some_iff.mp h
    exact closeDevice_uses hdone
  · have hkeeps := handleMessage_keeps hopen hclose h
    exact uses_of_eq hkeeps.host hkeeps.mIsOpen (handleMessage_mUsbtvConnection hopen hclose h)

end UsbTvInstance

end Java

open Java

namespace App

variable {s s' : App}

/-! ## What the steps do to connections -/

/-- The object is open by the connection. -/
def Holds (s : App) (i c : ℕ) : Prop :=
  ∃ x, s.instances[i]? = some x ∧ x.self.mIsOpen = true ∧ x.self.mUsbtvConnection = some c

/-- What a step does to connections: they stay as they are and the open objects keep theirs, or an
object has handled a message. -/
inductive Used (s s' : App) : Prop
  | same (hhost : s'.shared.host = s.shared.host) (hholds : ∀ j c, s'.Holds j c → s.Holds j c)
  | handled {i : ℕ} {x y : Instance} (hx : s.instances[i]? = some x)
      (hy : s'.instances = s.instances.set i y)
      (huses : UsbTvInstance.Uses x.self s.shared.host y.self s'.shared.host)

/-- An object changes, but not in what is about connections. -/
lemma used_update {s₁ : App} {i : ℕ} {x y : Instance} (hx : s.instances[i]? = some x)
    (hs₁ : s₁.instances = s.instances) (hshared : s₁.shared = s.shared)
    (hopen : y.self.mIsOpen = x.self.mIsOpen)
    (hconn : y.self.mUsbtvConnection = x.self.mUsbtvConnection) : Used s (s₁.update i y) := by
  refine .handled hx ?_ (UsbTvInstance.uses_of_eq ?_ hopen hconn)
  · rw [update, hs₁]
  · rw [update, hshared]

/-- **What any step does to connections.** -/
lemma step_used {e : AppEvent} (h : s.step e = some s') : Used s s' := by
  cases e with
  | registerUsbReceiver | unregisterUsbReceiver =>
    obtain rfl := Option.some_inj.mp h
    exact .same rfl fun _ _ hholds => hholds
  | usbTvOpen params vendorId productId hasPermission =>
    obtain rfl := Option.some_inj.mp h
    refine .same (by rw [usbTvOpen_shared]) ?_
    rcases s.usbTvOpen_cases params vendorId productId hasPermission with
      heq | ⟨dev, s₁, -, hs₁, hinst⟩
    · rw [heq]
      exact fun _ _ hholds => hholds
    · have hsame := (Shrunk.forgets hs₁).instances
      rcases hinst with heq | ⟨x, heq, -, hclosed, -⟩
      · rw [heq]
        rintro j c ⟨y, hy, hopen, hconn⟩
        exact ⟨y, by rwa [hsame] at hy, hopen, hconn⟩
      · rw [heq]
        rintro j c ⟨y, hy, hopen, hconn⟩
        rw [add, hsame] at hy
        rcases getElem?_concat_cases hy with hold | ⟨-, rfl⟩
        · exact ⟨y, hold, hopen, hconn⟩
        · exact absurd (hclosed.symm.trans hopen) (by simp)
  | permission dev granted =>
    obtain ⟨-, rfl⟩ := step_permission h
    unfold onPermission
    cases s.findDevice dev with
    | none => exact .same rfl fun _ _ hholds => hholds
    | some i =>
      cases hx : s.instances[i]? with
      | none =>
        dsimp only
        rw [hx]
        exact .same rfl fun _ _ hholds => hholds
      | some x =>
        dsimp only
        rw [hx]
        dsimp only
        split_ifs
        · exact used_update hx rfl rfl rfl rfl
        · exact used_update hx rfl rfl rfl rfl
        · exact used_update hx rfl rfl rfl rfl
  | send i msg =>
    obtain ⟨x, hx, -, -, rfl⟩ := step_send h
    exact used_update hx rfl rfl rfl rfl
  | handle i env =>
    obtain ⟨x, msg, queue, r, hx, -, hr, rfl⟩ := handle_cases h
    exact .handled hx ((Shrunk.handled s i r.removed).instances_update i _)
      (UsbTvInstance.handleMessage_uses hr)
  | thread e =>
    obtain ⟨d, -, rfl⟩ := Option.map_eq_some_iff.mp h
    exact .same rfl fun _ _ hholds => hholds

/-- What the open objects hold after one of them has handled a message. -/
lemma holds_of_handled {i : ℕ} {x y : Instance} (hx : s.instances[i]? = some x)
    (hy : s'.instances = s.instances.set i y)
    (huses : UsbTvInstance.Uses x.self s.shared.host y.self s'.shared.host) {j c : ℕ}
    (hholds : s'.Holds j c) : s.Holds j c ∨ s.shared.host.Obtained s'.shared.host c := by
  obtain ⟨z, hz, hopen, hconn⟩ := hholds
  rw [hy] at hz
  rcases getElem?_set_cases hz with ⟨rfl, rfl⟩ | ⟨-, hold⟩
  · rcases huses.held c hopen hconn with ⟨hxopen, hxconn⟩ | hnew
    · exact .inl ⟨x, hx, hxopen, hxconn⟩
    · exact .inr hnew
  · exact .inl ⟨z, hold, hopen, hconn⟩

/-- Connections are numbered as they are made, and the open objects hold none that was not made. -/
structure Connected (s : App) : Prop where
  host : s.shared.host.Numbered
  holds : ∀ j c, s.Holds j c → c < s.shared.host.made

/-- Each step numbers the connections. -/
lemma connected_step {e : AppEvent} (hs : Connected s) (h : s.step e = some s') :
    Connected s' := by
  cases step_used h with
  | same hhost hholds =>
    refine ⟨hhost ▸ hs.host, fun j c hj => ?_⟩
    rw [hhost]
    exact hs.holds j c (hholds j c hj)
  | handled hx hy huses =>
    refine ⟨⟨fun c hc => ?_, fun c hc => ?_⟩, fun j c hj => ?_⟩
    · rcases huses.opened c hc with hold | hnew
      · exact (hs.host.opened c hold).trans_le huses.made
      · exact hnew.2
    · rcases huses.claimed c hc with hold | hnew
      · exact (hs.host.claimed c hold).trans_le huses.made
      · exact hnew.2
    · rcases holds_of_handled hx hy huses hj with hold | hnew
      · exact (hs.holds j c hold).trans_le huses.made
      · exact hnew.2

/-- **Between any two steps the connections are numbered**, as `settled_iff` asks for. -/
theorem connected_of_reachable {C : App → AppEvent → Prop} (h : apps.ReachableUnder C s) :
    Connected s := by
  refine StepSystem.ReachableUnder.invariant (I := Connected) ?_
    (fun s e s' _ hs _ hstep => connected_step hs hstep) h
  rintro s rfl
  refine ⟨⟨by simp [new], by simp [new]⟩, ?_⟩
  rintro j c ⟨x, hx, -⟩
  exact absurd hx (by simp [new])

/-! ## Connections that nobody will close -/

/-- The connection is open, and no open object has it. -/
structure Orphan (s : App) (c : ℕ) : Prop where
  opened : c ∈ s.shared.host.opened
  holds : ∀ j, ¬ s.Holds j c

/-- No step closes such a connection, or gives it to an object. -/
lemma orphan_step {e : AppEvent} {c : ℕ} (hs : Connected s) (hc : s.Orphan c)
    (h : s.step e = some s') : s'.Orphan c := by
  have hmade := hs.host.opened c hc.opened
  cases step_used h with
  | same hhost hholds => exact ⟨hhost ▸ hc.opened, fun j hj => hc.holds j (hholds j c hj)⟩
  | @handled i x y hx hy huses =>
    refine ⟨huses.kept c hc.opened hmade fun hopen hconn => ?_, fun j hj => ?_⟩
    · exact hc.holds i ⟨x, hx, hopen, hconn⟩
    · rcases holds_of_handled hx hy huses hj with hold | hnew
      · exact hc.holds j hold
      · exact absurd hnew.1 (not_le.mpr hmade)

/-- Such a connection stays one in every run. -/
lemma orphan_run {es : List AppEvent} {c : ℕ} (hs : apps.Reachable s) (hc : s.Orphan c)
    (h : apps.run s es = some s') : s'.Orphan c := by
  induction es generalizing s with
  | nil =>
    obtain rfl : s = s' := by simpa using h
    exact hc
  | cons e es ih =>
    obtain ⟨s₁, hstep, h⟩ := Option.bind_eq_some_iff.mp h
    exact ih (hs.step trivial hstep) (orphan_step (connected_of_reachable hs) hc hstep) h

/-- An open that fails after a connection was made, on an object that is not open, leaves it to
nobody, and takes the object off the list. -/
lemma orphan_of_unfit {i : ℕ} {env : Environment} {x : Instance} {queue : List Message}
    (hs : apps.Reachable s) (hx : s.instances[i]? = some x)
    (hqueue : x.queue = .openDevice :: queue) (hclosed : x.self.mIsOpen = false)
    (hperm : x.self.mHasUsbPermission = true) (hopen : env.device.openDevice = true)
    (hfits : ¬ env.device.Fits) (h : s.step (.handle i env) = some s') :
    s'.Orphan s.shared.host.made ∧ i ∉ s'.mReferenceList := by
  obtain ⟨y, msg, queue', r, hy, hqueue', hr, rfl⟩ := handle_cases h
  obtain rfl := Option.some_inj.mp (hx.symm.trans hy)
  obtain ⟨rfl, rfl⟩ := List.cons.inj (hqueue'.symm.trans hqueue)
  obtain ⟨r', hinit, rfl⟩ := Option.map_eq_some_iff.mp hr
  cases UsbTvInstance.initDevice_outcome hinit with
  | refused hrefused => exact absurd ⟨hperm, hopen⟩ hrefused
  | initialized hfit => exact absurd hfit hfits
  | opens _ _ hfit => exact absurd hfit hfits
  | unfit =>
    refine ⟨⟨s.shared.host.mem_opened_openDevice, ?_⟩, ?_⟩
    · rintro j ⟨z, hz, hzopen, hzconn⟩
      rcases getElem?_set_cases hz with ⟨rfl, rfl⟩ | ⟨-, hold⟩
      · exact absurd (hclosed.symm.trans hzopen) (by simp)
      · exact lt_irrefl _ ((connected_of_reachable hs).holds j _ ⟨z, hold, hzopen, hzconn⟩)
    · exact (wellFormed_of_reachable hs).listed.nodup.not_mem_erase

/-- **A connection that a failed open has left is never closed**: it is open in every state that
comes after, whatever is opened and closed then. -/
theorem leaked_of_run {s'' : App} {i : ℕ} {env : Environment} {x : Instance}
    {queue : List Message} {es : List AppEvent} (hs : apps.Reachable s)
    (hx : s.instances[i]? = some x) (hqueue : x.queue = .openDevice :: queue)
    (hclosed : x.self.mIsOpen = false) (hperm : x.self.mHasUsbPermission = true)
    (hopen : env.device.openDevice = true) (hfits : ¬ env.device.Fits)
    (h : apps.step s (.handle i env) = some s') (hrun : apps.run s' es = some s'') :
    s.shared.host.made ∈ s''.shared.host.opened := by
  have horphan := (orphan_of_unfit hs hx hqueue hclosed hperm hopen hfits h).1
  exact (orphan_run (hs.step trivial h) horphan hrun).opened

end App

end UsbTv
