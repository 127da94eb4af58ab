import UsbTv.Handler.References

set_option relaxedAutoImplicit false
set_option autoImplicit false

/-!
# The answer to an open

An `open` that returns true is to be answered by one call of `onOpen`. The receiver calls `onOpen`
with null whenever it finds an object for the device of the broadcast: when the permission was
granted, so that the device is still to be opened, and when the device is open, too.

The handler holds no lock while it handles `OPEN_DEVICE`, so a broadcast can arrive when the message
has left the queue and `initDevice` has not returned. Handling it is two steps here: taking it, and
what `initDevice` and the answer do. The receiver sees nothing of `initDevice` but `mIsOpen`, which
is set at its end.

## Main definitions

* `UsbTv.AnswerRun.takeOpen`, `finishOpen` — the two steps of `OPEN_DEVICE`.
* `UsbTv.answerRuns` — all runs, with a record of the opens that returned true and of the outcomes
  of `initDevice`.
* `UsbTv.AnswerRun.DefinitelyFailed` — the object will never open its device.
* `UsbTv.AnswerRun.Answered` — what is asked of the answers.
* `UsbTv.AnswerRun.NothingElse` — the condition on a step.

## Main results

* `UsbTv.AnswerRun.takeOpen_finishOpen` — one after the other, the two steps are `App.handle`.
* `UsbTv.AnswerRun.definitelyFailed_step` — an open that has definitely failed stays so.
* `UsbTv.AnswerRun.answered_of_reachable` — when each open gets one answer.
-/

namespace UsbTv

open Java

/-- A process, the objects whose handler thread has taken `OPEN_DEVICE` and has not done with it,
the objects whose `open` returned true, and the objects for which `initDevice` has returned with
what it returned. -/
structure AnswerRun where
  app : App
  opening : Finset ℕ
  accepted : List ℕ
  inits : List (ℕ × Bool)

/-- What can happen. -/
inductive AnswerEvent
  /-- A handler thread takes its next message, an `OPEN_DEVICE`. -/
  | takeOpen (i : ℕ)
  /-- `initDevice` returns, and the user is told. -/
  | finishOpen (i : ℕ) (env : Environment)
  /-- Anything else. -/
  | other (e : AppEvent)

namespace Java

/-- The calls of `onOpen`. -/
def onOpens (callbacks : List Callback) : List Callback :=
  callbacks.filter fun
    | .onOpen _ _ => true
    | .onClose | .onError => false

lemma onOpens_append (cs cs' : List Callback) : onOpens (cs ++ cs') = onOpens cs ++ onOpens cs' :=
  List.filter_append ..

lemma mem_onOpens (driver : Bool) {status : Bool} {cs : List Callback} :
    .onOpen driver status ∈ onOpens cs ↔ .onOpen driver status ∈ cs := by
  simp [onOpens]

/-- The driver interface is given out by `onOpen` only. -/
lemma hasDriver_onOpens (cs : List Callback) : hasDriver (onOpens cs) = hasDriver cs := by
  rw [Bool.eq_iff_iff, hasDriver, hasDriver, List.any_eq_true, List.any_eq_true]
  constructor
  · rintro ⟨c, hc, hdriver⟩
    exact ⟨c, List.mem_of_mem_filter hc, hdriver⟩
  · rintro ⟨c, hc, hdriver⟩
    cases c with
    | onOpen driver status => exact ⟨_, (mem_onOpens _).mpr hc, hdriver⟩
    | onClose => exact absurd hdriver (by simp)
    | onError => exact absurd hdriver (by simp)

end Java

namespace App

/-- The object whose `open` returns true. -/
def acceptedBy (s : App) : AppEvent → List ℕ
  | .usbTvOpen params vendorId productId hasPermission =>
    if (s.usbTvOpen params vendorId productId hasPermission).1 then [s.instances.length] else []
  | _ => []

end App

namespace AnswerRun

/-- A handler thread takes `OPEN_DEVICE` from its queue. -/
def takeOpen (s : AnswerRun) (i : ℕ) : Option AnswerRun :=
  match s.app.instances[i]? with
  | some ⟨self, .openDevice :: queue, callbacks⟩ =>
    if i ∈ s.opening then none
    else
      some { s with
        app := s.app.update i ⟨self, queue, callbacks⟩
        opening := insert i s.opening }
  | _ => none

/-- What `handleMessage` does with the `OPEN_DEVICE` that was taken. -/
def finishOpen (s : AnswerRun) (i : ℕ) (env : Environment) : Option AnswerRun :=
  if i ∈ s.opening then
    match s.app.instances[i]? with
    | none => none
    | some x =>
      (x.self.handleMessage s.app.shared env .openDevice).map fun r =>
        { s with
          app := { (if r.removed then s.app.remove i else s.app).update i
              ⟨r.self, x.queue, x.callbacks ++ r.callbacks⟩ with shared := r.shared }
          opening := s.opening.erase i
          inits := s.inits ++
            ((x.self.initDevice s.app.shared env).map fun result => (i, result.1)).toList }
  else none

/-- A handler thread handles one message after the other, and each `OPEN_DEVICE` in two steps. -/
def Whole (s : AnswerRun) : AppEvent → Prop
  | .handle i _ => i ∉ s.opening ∧ (s.app.queueOf i).head? ≠ some .openDevice
  | _ => True

instance (s : AnswerRun) (e : AppEvent) : Decidable (Whole s e) :=
  match e with
  | .handle i _ => inferInstanceAs (Decidable (i ∉ s.opening ∧ _ ≠ _))
  | .registerUsbReceiver | .unregisterUsbReceiver | .usbTvOpen _ _ _ _ | .permission _ _
  | .send _ _ | .thread _ => inferInstanceAs (Decidable True)

/-- One event. -/
def step (s : AnswerRun) : AnswerEvent → Option AnswerRun
  | .takeOpen i => s.takeOpen i
  | .finishOpen i env => s.finishOpen i env
  | .other e =>
    if Whole s e then
      (s.app.step e).map fun app =>
        { s with app := app, accepted := s.accepted ++ s.app.acceptedBy e }
    else none

end AnswerRun

/-- All runs of a process, with their records. -/
def answerRuns : StepSystem AnswerRun AnswerEvent where
  Init s := s = ⟨.new, ∅, [], []⟩
  step := AnswerRun.step

namespace AnswerRun

variable {s s' : AnswerRun} {i : ℕ} {x : Instance}

/-! ## What is asked of the answers -/

/-- The object will never open its device: `initDevice` did not succeed, no `OPEN_DEVICE` waits or
is being handled, and no broadcast finds the object. -/
structure DefinitelyFailed (s : AnswerRun) (i : ℕ) : Prop where
  inits : (i, true) ∉ s.inits
  isOpen : s.app.isOpen i = false
  queue : .openDevice ∉ s.app.queueOf i
  opening : i ∉ s.opening
  unlisted : i ∉ s.app.mReferenceList

/-- Each object whose `open` returned true gets one answer at most, with the driver exactly if
`initDevice` succeeded, and a failure only if the open has definitely failed. -/
def Answered (s : AnswerRun) : Prop :=
  ∀ i ∈ s.accepted, ∀ x, s.app.instances[i]? = some x →
    (onOpens x.callbacks).length ≤ 1 ∧
      (∀ c ∈ onOpens x.callbacks, c = .onOpen true true ∨ c = .onOpen false false) ∧
      (.onOpen true true ∈ x.callbacks ↔ (i, true) ∈ s.inits) ∧
      (.onOpen false false ∈ x.callbacks → s.DefinitelyFailed i)

/-- The condition on a step: a broadcast that finds an object whose `open` returned true tells that
the permission was denied, the device is not open, and no `OPEN_DEVICE` waits or is being
handled. -/
def NothingElse (s : AnswerRun) : AnswerEvent → Prop
  | .other (.permission dev granted) => ∀ i ∈ s.app.findDevice dev, i ∈ s.accepted →
      granted = false ∧ s.app.isOpen i = false ∧ .openDevice ∉ s.app.queueOf i ∧ i ∉ s.opening
  | _ => True

instance (s : AnswerRun) (e : AnswerEvent) : Decidable (NothingElse s e) :=
  match e with
  | .other (.permission dev _) =>
    inferInstanceAs (Decidable (∀ i ∈ s.app.findDevice dev, i ∈ s.accepted → _))
  | .takeOpen _ | .finishOpen _ _ | .other .registerUsbReceiver | .other .unregisterUsbReceiver
  | .other (.usbTvOpen _ _ _ _) | .other (.send _ _) | .other (.handle _ _)
  | .other (.thread _) => inferInstanceAs (Decidable True)

/-! ## The life of an open -/

/-- An object whose `open` returned true waits, or has opened its device, or has failed. -/
inductive Phase (s : AnswerRun) (i : ℕ) (x : Instance) : Prop
  | waiting (hanswers : onOpens x.callbacks = []) (hclosed : x.self.mIsOpen = false)
      (hinits : (i, true) ∉ s.inits)
      (hqueue : x.queue = [] ∨ x.queue = [.openDevice] ∧ i ∉ s.opening)
  | opened (hanswers : onOpens x.callbacks = [.onOpen true true]) (hinits : (i, true) ∈ s.inits)
      (hqueue : .openDevice ∉ x.queue) (hdone : i ∉ s.opening)
  | failed (hanswers : onOpens x.callbacks = [.onOpen false false])
      (hclosed : x.self.mIsOpen = false) (hinits : (i, true) ∉ s.inits)
      (hqueue : x.queue = []) (hdone : i ∉ s.opening) (hunlisted : i ∉ s.app.mReferenceList)

/-- The records are about objects, and each open is in one of its phases. -/
structure Sound (s : AnswerRun) : Prop where
  inits : ∀ p ∈ s.inits, p.1 < s.app.instances.length
  opening : ∀ i ∈ s.opening, i < s.app.instances.length
  accepted : ∀ i ∈ s.accepted, ∃ x, s.app.instances[i]? = some x ∧ Phase s i x

/-- Where each open is in one of its phases, it is answered as it is to be. -/
lemma Sound.answered (hs : Sound s) : Answered s := by
  intro i hi x hx
  obtain ⟨y, hy, hphase⟩ := hs.accepted i hi
  obtain rfl := Option.some_inj.mp (hx.symm.trans hy)
  cases hphase with
  | waiting hanswers hclosed hinits hqueue =>
    rw [← mem_onOpens true, ← mem_onOpens false, hanswers]
    simp [hinits]
  | opened hanswers hinits hqueue hdone =>
    rw [← mem_onOpens true, ← mem_onOpens false, hanswers]
    simp [hinits]
  | failed hanswers hclosed hinits hqueue hdone hunlisted =>
    rw [← mem_onOpens true, ← mem_onOpens false, hanswers]
    refine ⟨le_rfl, by simp, by simp [hinits], fun _ => ⟨hinits, ?_, ?_, hdone, hunlisted⟩⟩
    · rw [App.isOpen_eq hx, hclosed]
    · rw [App.queueOf_eq hx, hqueue]
      exact List.not_mem_nil

/-- An object that a step does not concern stays in its phase. -/
lemma Phase.congr (h : Phase s i x) (hinits : (i, true) ∈ s'.inits ↔ (i, true) ∈ s.inits)
    (hopening : i ∈ s'.opening ↔ i ∈ s.opening)
    (hlist : i ∈ s'.app.mReferenceList → i ∈ s.app.mReferenceList) : Phase s' i x := by
  cases h with
  | waiting hanswers hclosed hnot hqueue =>
    exact .waiting hanswers hclosed (fun h => hnot (hinits.mp h))
      (hqueue.imp_right fun hone => ⟨hone.1, fun h => hone.2 (hopening.mp h)⟩)
  | opened hanswers hin hqueue hdone =>
    exact .opened hanswers (hinits.mpr hin) hqueue fun h => hdone (hopening.mp h)
  | failed hanswers hclosed hnot hqueue hdone hunlisted =>
    exact .failed hanswers hclosed (fun h => hnot (hinits.mp h)) hqueue
      (fun h => hdone (hopening.mp h)) fun h => hunlisted (hlist h)

/-- The objects on record are still there when nothing but the list and what is shared changes. -/
lemma Sound.frame (hs : Sound s) {app : App} (hinst : app.instances = s.app.instances)
    (hlist : ∀ j, j ∈ app.mReferenceList → j ∈ s.app.mReferenceList) {accepted : List ℕ}
    (haccepted : accepted = s.accepted) : Sound ⟨app, s.opening, accepted, s.inits⟩ := by
  subst haccepted
  refine ⟨?_, ?_, fun j hj => ?_⟩
  · rw [hinst]
    exact hs.inits
  · rw [hinst]
    exact hs.opening
  · obtain ⟨x, hx, hphase⟩ := hs.accepted j hj
    exact ⟨x, by rw [hinst]; exact hx, hphase.congr Iff.rfl Iff.rfl (hlist j)⟩

/-- One object changes: the others stay in their phases, if the list has no others than before and
only this object has to do with `OPEN_DEVICE`. -/
lemma Sound.update (hs : Sound s) {app : App} {opening : Finset ℕ} {inits : List (ℕ × Bool)}
    {y : Instance} (hx : s.app.instances[i]? = some x)
    (hinst : app.instances = s.app.instances.set i y)
    (hlist : ∀ j, j ∈ app.mReferenceList → j ∈ s.app.mReferenceList)
    (hopening : ∀ j, j ≠ i → (j ∈ opening ↔ j ∈ s.opening)) (hinits : ∀ p ∈ inits, p.1 = i)
    (hphase : i ∈ s.accepted → Phase s i x →
      Phase ⟨app, opening, s.accepted, s.inits ++ inits⟩ i y) :
    Sound ⟨app, opening, s.accepted, s.inits ++ inits⟩ := by
  have hlt : i < s.app.instances.length := (List.getElem?_eq_some_iff.mp hx).1
  refine ⟨fun p hp => ?_, fun j hj => ?_, fun j hj => ?_⟩
  · show p.1 < app.instances.length
    rw [hinst, List.length_set]
    rcases List.mem_append.mp hp with hold | hnew
    · exact hs.inits p hold
    · rw [hinits p hnew]
      exact hlt
  · show j < app.instances.length
    rw [hinst, List.length_set]
    by_cases hij : j = i
    · rw [hij]
      exact hlt
    · exact hs.opening j ((hopening j hij).mp hj)
  · obtain ⟨z, hz, hold⟩ := hs.accepted j hj
    show ∃ x, app.instances[j]? = some x ∧ _
    rw [hinst]
    by_cases hij : j = i
    · subst hij
      obtain rfl := Option.some_inj.mp (hx.symm.trans hz)
      exact ⟨y, List.getElem?_set_self hlt, hphase hj hold⟩
    · refine ⟨z, (List.getElem?_set_ne (Ne.symm hij)).trans hz,
        hold.congr ?_ (hopening j hij) (hlist j)⟩
      show (j, true) ∈ s.inits ++ inits ↔ _
      rw [List.mem_append]
      exact or_iff_left fun hnew => hij (hinits _ hnew)

/-- One object changes, and `OPEN_DEVICE` has no part in it. -/
lemma Sound.updateOther (hs : Sound s) {app : App} {y : Instance}
    (hx : s.app.instances[i]? = some x) (hinst : app.instances = s.app.instances.set i y)
    (hlist : ∀ j, j ∈ app.mReferenceList → j ∈ s.app.mReferenceList)
    (hphase : i ∈ s.accepted → Phase s i x →
      Phase ⟨app, s.opening, s.accepted, s.inits⟩ i y) :
    Sound ⟨app, s.opening, s.accepted, s.inits⟩ := by
  rw [← List.append_nil s.inits]
  exact hs.update hx hinst hlist (fun _ _ => Iff.rfl) nofun (by simpa using hphase)

/-! ## Steps -/

/-- **The two steps of `OPEN_DEVICE`**, one after the other, are `App.handle`. -/
lemma takeOpen_finishOpen {env : Environment} {queue : List Message}
    (hx : s.app.instances[i]? = some x) (hqueue : x.queue = .openDevice :: queue)
    (hi : i ∉ s.opening) :
    ((s.takeOpen i).bind fun s' => s'.finishOpen i env).map AnswerRun.app =
      s.app.handle i env := by
  obtain ⟨self, q, callbacks⟩ := x
  obtain rfl : q = .openDevice :: queue := hqueue
  have hlt := (List.getElem?_eq_some_iff.mp hx).1
  have htake : s.takeOpen i = some { s with
      app := s.app.update i ⟨self, queue, callbacks⟩
      opening := insert i s.opening } := by
    simp only [takeOpen, hx, if_neg hi]
  have hself : (s.app.update i ⟨self, queue, callbacks⟩).instances[i]? =
      some ⟨self, queue, callbacks⟩ := App.getElem?_update_self hx _
  rw [htake, Option.bind_some, finishOpen, if_pos (Finset.mem_insert_self i s.opening)]
  simp only [hself, App.handle, hx, Option.map_map]
  congr 1
  funext r
  cases hr : r.removed <;> simp [App.update, App.remove, hr]

/-- A handler thread takes an `OPEN_DEVICE` that it is not handling already. -/
lemma takeOpen_cases (h : s.takeOpen i = some s') :
    ∃ self queue callbacks, s.app.instances[i]? = some ⟨self, .openDevice :: queue, callbacks⟩ ∧
      i ∉ s.opening ∧
      s' = ⟨s.app.update i ⟨self, queue, callbacks⟩, insert i s.opening, s.accepted, s.inits⟩ := by
  unfold takeOpen at h
  split at h
  next self queue callbacks hx =>
    split_ifs at h with hi
    exact ⟨self, queue, callbacks, hx, hi, (Option.some_inj.mp h).symm⟩
  next => exact absurd h (by simp)

/-- `OPEN_DEVICE` removes the object exactly if `initDevice` fails. -/
lemma initDevice_of_openDevice {self : UsbTvInstance} {shared : Shared} {env : Environment}
    {r : Handled} (hr : self.handleMessage shared env .openDevice = some r) :
    ((self.initDevice shared env).map fun result => (i, result.1)).toList = [(i, !r.removed)] := by
  obtain ⟨⟨success, self', shared'⟩, hinit, rfl⟩ := Option.map_eq_some_iff.mp hr
  rw [hinit]
  cases success <;> rfl

/-- A handler thread has done with the `OPEN_DEVICE` that it has taken. -/
lemma finishOpen_cases {env : Environment} (h : s.finishOpen i env = some s') :
    ∃ x r, i ∈ s.opening ∧ s.app.instances[i]? = some x ∧
      x.self.handleMessage s.app.shared env .openDevice = some r ∧
      s' = ⟨{ (if r.removed then s.app.remove i else s.app).update i
          ⟨r.self, x.queue, x.callbacks ++ r.callbacks⟩ with shared := r.shared },
        s.opening.erase i, s.accepted, s.inits ++ [(i, !r.removed)]⟩ := by
  unfold finishOpen at h
  split_ifs at h with hi
  split at h
  · exact absurd h (by simp)
  next x hx =>
  obtain ⟨r, hr, rfl⟩ := Option.map_eq_some_iff.mp h
  rw [initDevice_of_openDevice hr]
  exact ⟨x, r, hi, hx, hr, rfl⟩

/-- Any other step is one of the process. -/
lemma step_other {e : AppEvent} (h : s.step (.other e) = some s') :
    Whole s e ∧ ∃ app, s.app.step e = some app ∧
      s' = ⟨app, s.opening, s.accepted ++ s.app.acceptedBy e, s.inits⟩ := by
  simp only [step] at h
  split_ifs at h with hwhole
  obtain ⟨app, happ, rfl⟩ := Option.map_eq_some_iff.mp h
  exact ⟨hwhole, app, happ, rfl⟩

/-- A handler thread that handles a message in one step has another one than `OPEN_DEVICE`. -/
lemma whole_handle {env : Environment} {msg : Message} {queue : List Message}
    (h : Whole s (.handle i env)) (hx : s.app.instances[i]? = some x)
    (hqueue : x.queue = msg :: queue) : i ∉ s.opening ∧ msg ≠ .openDevice := by
  obtain ⟨hi, hhead⟩ := h
  rw [App.queueOf_eq hx, hqueue] at hhead
  exact ⟨hi, fun hmsg => hhead (by rw [hmsg]; rfl)⟩

/-- An `open` that returns true has made an object, which waits. -/
lemma usbTvOpen_accepted {app : App} {params : DeviceParams} {vendorId productId : ℕ}
    {hasPermission : Bool}
    (h : (app.usbTvOpen params vendorId productId hasPermission).1 = true) :
    (app.usbTvOpen params vendorId productId hasPermission).2.instances.length =
      app.instances.length + 1 := by
  have hinst : ∀ app₁ : App, app₁.instances = app.instances →
      (app₁.instantiate params vendorId productId hasPermission).1 = true →
      (app₁.instantiate params vendorId productId hasPermission).2.instances.length =
        app.instances.length + 1 := by
    intro app₁ hsame htrue
    unfold App.instantiate at htrue ⊢
    split_ifs at htrue ⊢
    · simp [App.add, hsame]
    · simp [App.add, hsame]
  unfold App.usbTvOpen at h ⊢
  split at h
  · exact absurd h (by simp)
  split at h
  · split_ifs at h ⊢
    exact hinst _ rfl h
  · exact hinst _ rfl h

/-- A new object, which waits. -/
lemma Sound.add (hs : Sound s) {app : App} (hinst : app.instances = s.app.instances)
    (hlist : ∀ j, j ∈ app.mReferenceList → j ∈ s.app.mReferenceList) {x : Instance}
    (hcallbacks : x.callbacks = []) (hopen : x.self.mIsOpen = false)
    (hqueue : x.queue = [.openDevice] ∨ x.queue = []) {accepted : List ℕ}
    (haccepted : ∀ j ∈ accepted, j = s.app.instances.length) :
    Sound ⟨app.add x, s.opening, s.accepted ++ accepted, s.inits⟩ := by
  have hadd : (app.add x).instances = s.app.instances ++ [x] := by rw [App.add, hinst]
  have hlisted : ∀ j, j ≠ s.app.instances.length → j ∈ (app.add x).mReferenceList →
      j ∈ s.app.mReferenceList := by
    intro j hj hmem
    rcases List.mem_append.mp hmem with hold | hnew
    · exact hlist j hold
    · rw [hinst] at hnew
      exact absurd (List.mem_singleton.mp hnew) hj
  refine ⟨fun p hp => ?_, fun j hj => ?_, fun j hj => ?_⟩
  · show p.1 < (app.add x).instances.length
    rw [hadd, List.length_append]
    exact Nat.lt_add_right _ (hs.inits p hp)
  · show j < (app.add x).instances.length
    rw [hadd, List.length_append]
    exact Nat.lt_add_right _ (hs.opening j hj)
  · show ∃ y, (app.add x).instances[j]? = some y ∧ _
    rw [hadd]
    rcases List.mem_append.mp hj with hold | hnew
    · obtain ⟨y, hy, hphase⟩ := hs.accepted j hold
      have hlt : j < s.app.instances.length := (List.getElem?_eq_some_iff.mp hy).1
      exact ⟨y, (List.getElem?_append_left hlt).trans hy,
        hphase.congr Iff.rfl Iff.rfl (hlisted j hlt.ne)⟩
    · obtain rfl := haccepted j hnew
      have hfresh : s.app.instances.length ∉ s.opening :=
        fun hmem => lt_irrefl _ (hs.opening _ hmem)
      refine ⟨x, List.getElem?_concat_length, .waiting ?_ hopen (fun hmem => ?_)
        (hqueue.symm.imp_right fun hone => ⟨hone, hfresh⟩)⟩
      · rw [hcallbacks]
        rfl
      · exact absurd (hs.inits _ hmem) (lt_irrefl _)

/-- `open` keeps the records sound. -/
lemma sound_usbTvOpen (hs : Sound s) (params : DeviceParams) (vendorId productId : ℕ)
    (hasPermission : Bool) :
    Sound ⟨(s.app.usbTvOpen params vendorId productId hasPermission).2, s.opening,
      s.accepted ++ s.app.acceptedBy (.usbTvOpen params vendorId productId hasPermission),
      s.inits⟩ := by
  have hlength : (s.app.usbTvOpen params vendorId productId hasPermission).1 = true →
      (s.app.usbTvOpen params vendorId productId hasPermission).2.instances.length =
        s.app.instances.length + 1 := usbTvOpen_accepted
  have hrefused : (s.app.usbTvOpen params vendorId productId hasPermission).2.instances.length =
      s.app.instances.length →
      s.app.acceptedBy (.usbTvOpen params vendorId productId hasPermission) = [] := by
    intro hsame
    dsimp only [App.acceptedBy]
    split_ifs with htrue
    · have := hlength htrue
      omega
    · rfl
  rcases s.app.usbTvOpen_cases params vendorId productId hasPermission with
    heq | ⟨dev, s₁, -, hs₁, hinst⟩
  · rw [hrefused (by rw [heq]), heq]
    exact hs.frame rfl (fun _ => id) (List.append_nil _)
  · obtain ⟨hsame, -, hlist⟩ := App.Shrunk.forgets hs₁
    rcases hinst with heq | ⟨x, heq, hcallbacks, hopen, -, hqueue⟩
    · rw [hrefused (by rw [heq, hsame]), heq]
      exact hs.frame hsame (fun _ hj => hlist.subset hj) (List.append_nil _)
    · rw [heq]
      apply hs.add hsame (fun _ hj => hlist.subset hj) hcallbacks hopen hqueue
      intro j hj
      dsimp only [App.acceptedBy] at hj
      split_ifs at hj
      · exact List.mem_singleton.mp hj
      · exact absurd hj List.not_mem_nil

/-- The receiver keeps the records sound, if it does nothing but deny a permission that an open
waits for. -/
lemma sound_permission (hl : s.app.Listed) (hs : Sound s) {dev : ℕ} {granted : Bool}
    (hc : NothingElse s (.other (.permission dev granted))) :
    Sound ⟨s.app.onPermission dev granted, s.opening, s.accepted, s.inits⟩ := by
  by_cases hdenied : ∃ i, s.app.findDevice dev = some i ∧ i ∈ s.accepted
  · obtain ⟨i, hfind, hi⟩ := hdenied
    obtain ⟨rfl, hclosed, hqueue, hdone⟩ := hc i hfind hi
    obtain ⟨x, hx, hphase⟩ := hs.accepted i hi
    obtain ⟨hmem, -⟩ := App.findDevice_eq_some hfind
    rw [App.isOpen_eq hx] at hclosed
    rw [App.queueOf_eq hx] at hqueue
    have hdenied : s.app.onPermission dev false = (s.app.remove i).update i
        { x with callbacks := x.callbacks ++ [.onOpen false x.self.mIsOpen] } := by
      simp [App.onPermission, hfind, hx]
    rw [hdenied]
    apply hs.updateOther hx rfl (fun j hj => List.mem_of_mem_erase hj)
    intro _ hphase
    cases hphase with
    | waiting hanswers hclosed hinits hempty =>
      have hnil : x.queue = [] := by
        rcases hempty with hnil | ⟨hone, -⟩
        · exact hnil
        · rw [hone] at hqueue
          exact absurd List.mem_cons_self hqueue
      refine .failed ?_ hclosed hinits hnil hdone hl.nodup.not_mem_erase
      rw [onOpens_append, hanswers, hclosed]
      rfl
    | opened hanswers hinits hqueue hdone =>
      -- an object on the list that has a driver is open
      obtain ⟨z, hz, hopen⟩ := hl.instances hmem
      obtain rfl := Option.some_inj.mp (hx.symm.trans hz)
      have hdriver : hasDriver x.callbacks = true := by
        rw [← hasDriver_onOpens, hanswers]
        rfl
      exact absurd (hclosed.symm.trans (hopen hdriver)) (by simp)
    | failed hanswers hclosed hinits hqueue hdone hunlisted => exact absurd hmem hunlisted
  · rcases s.app.onPermission_cases dev granted with
      heq | ⟨i, x, s₁, y, hfind, hx, heq, hs₁, -⟩
    · rw [heq]
      exact hs.frame rfl (fun _ => id) rfl
    · rw [heq]
      have hnot : i ∉ s.accepted := fun hi => hdenied ⟨i, hfind, hi⟩
      have hshrunk := App.Shrunk.answers hs₁
      exact hs.updateOther hx (hshrunk.instances_update i y) (fun _ hj => hshrunk.list.subset hj)
        fun hi => absurd hi hnot

/-- Taking `OPEN_DEVICE` keeps the records sound. -/
lemma sound_takeOpen (hs : Sound s) (h : s.takeOpen i = some s') : Sound s' := by
  obtain ⟨self, queue, callbacks, hx, hi, rfl⟩ := takeOpen_cases h
  rw [← List.append_nil s.inits]
  refine hs.update hx rfl (fun _ => id) (fun j hj => by simp [Finset.mem_insert, hj]) nofun
    fun _ hphase => ?_
  cases hphase with
  | waiting hanswers hclosed hinits hempty =>
    refine .waiting hanswers hclosed (by simpa using hinits) (.inl ?_)
    rcases hempty with hnil | ⟨hone, -⟩
    · cases hnil
    · exact (List.cons_eq_cons.mp hone).2
  | opened hanswers hinits hqueue hdone => exact absurd List.mem_cons_self hqueue
  | failed hanswers hclosed hinits hqueue hdone hunlisted => cases hqueue

/-- The answer to the open that waits for it keeps the records sound. -/
lemma sound_finishOpen (hl : s.app.Listed) (hs : Sound s) {env : Environment}
    (h : s.finishOpen i env = some s') : Sound s' := by
  obtain ⟨x, r, hi, hx, hr, rfl⟩ := finishOpen_cases h
  have hshrunk := App.Shrunk.handled s.app i r.removed
  refine hs.update hx (hshrunk.instances_update i _) (fun _ hj => hshrunk.list.subset hj)
    (fun j hj => by simp [Finset.mem_erase, hj]) (by simp) fun _ hphase => ?_
  have hdone : i ∉ s.opening.erase i := Finset.notMem_erase i _
  cases hphase with
  | waiting hanswers hclosed hinits hempty =>
    have hnil : x.queue = [] := by
      rcases hempty with hnil | ⟨-, hnot⟩
      · exact hnil
      · exact absurd hi hnot
    rcases UsbTvInstance.handleMessage_openDevice hr with
      ⟨-, -, hremoved, hcallbacks, connection, host, hself, -⟩ |
      ⟨-, hremoved, hcallbacks, connection, params, hself, -⟩
    · refine .opened ?_ (by simp [hremoved]) ?_ hdone
      · rw [onOpens_append, hanswers, hcallbacks]
        rfl
      · rw [hnil]
        exact List.not_mem_nil
    · refine .failed ?_ (by rw [hself]; exact hclosed) ?_ hnil hdone ?_
      · rw [onOpens_append, hanswers, hcallbacks]
        rfl
      · simpa [hremoved] using hinits
      · rw [hremoved]
        exact hl.nodup.not_mem_erase
  | opened hanswers hinits hqueue hnot => exact absurd hi hnot
  | failed hanswers hclosed hinits hqueue hnot hunlisted => exact absurd hi hnot

/-- No message but `OPEN_DEVICE` calls `onOpen`. -/
lemma onOpens_handleMessage {self : UsbTvInstance} {shared : Shared} {env : Environment}
    {msg : Message} {r : Handled} (hmsg : msg ≠ .openDevice)
    (h : self.handleMessage shared env msg = some r) : onOpens r.callbacks = [] := by
  have herror : ∀ ok : Bool, onOpens (if ok then [] else [.onError]) = [] := by
    intro ok
    cases ok <;> rfl
  have hrestart : ∀ u : UsbTvInstance, u.restartStream shared env.answer = some r →
      onOpens r.callbacks = [] := by
    intro u hu
    unfold UsbTvInstance.restartStream at hu
    split_ifs at hu
    · obtain ⟨usbtv, -, hu⟩ := Option.bind_eq_some_iff.mp hu
      obtain ⟨⟨ok, usbtv'⟩, -, rfl⟩ := Option.map_eq_some_iff.mp hu
      exact herror ok
    · obtain rfl := Option.some_inj.mp hu
      rfl
  cases msg with
  | openDevice => exact absurd rfl hmsg
  | closeDevice =>
    rw [(UsbTvInstance.handleMessage_closeDevice h).2.1]
    rfl
  | startStreaming =>
    simp only [UsbTvInstance.handleMessage] at h
    split_ifs at h
    · obtain rfl := Option.some_inj.mp h
      rfl
    · obtain ⟨⟨ok, usbtv⟩, -, rfl⟩ := Option.map_eq_some_iff.mp h
      exact herror ok
  | stopStreaming =>
    simp only [UsbTvInstance.handleMessage] at h
    split_ifs at h
    · obtain ⟨usbtv, -, rfl⟩ := Option.map_eq_some_iff.mp h
      rfl
    · obtain rfl := Option.some_inj.mp h
      rfl
  | setInput input =>
    obtain rfl := Option.some_inj.mp h
    exact herror _
  | setNorm norm => exact hrestart _ h
  | setScanType scanType => exact hrestart _ h
  | setControl value => exact absurd h (by simp [UsbTvInstance.handleMessage])
  | setFrameListener listener =>
    simp only [UsbTvInstance.handleMessage] at h
    split_ifs at h
    · obtain rfl := Option.some_inj.mp h
      rfl
    · obtain rfl := Option.some_inj.mp h
      rfl

/-- Any other message was sent through the driver interface, and answers nothing. -/
lemma sound_handle (hs : Sound s) {env : Environment} {app : App}
    (hwhole : Whole s (.handle i env)) (h : s.app.handle i env = some app) :
    Sound ⟨app, s.opening, s.accepted, s.inits⟩ := by
  obtain ⟨x, msg, queue, r, hx, hqueue, hr, rfl⟩ := App.handle_cases h
  obtain ⟨hi, hmsg⟩ := whole_handle hwhole hx hqueue
  have hshrunk := App.Shrunk.handled s.app i r.removed
  refine hs.updateOther hx (hshrunk.instances_update i _) (fun _ hj => hshrunk.list.subset hj)
    fun _ hphase => ?_
  cases hphase with
  | waiting hanswers hclosed hinits hempty =>
    rcases hempty with hnil | ⟨hone, -⟩
    · rw [hnil] at hqueue
      cases hqueue
    · rw [hone] at hqueue
      exact absurd (List.cons_eq_cons.mp hqueue).1.symm hmsg
  | opened hanswers hinits hnone hdone =>
    refine .opened ?_ hinits (fun hmem => ?_) hdone
    · rw [onOpens_append, hanswers, onOpens_handleMessage hmsg hr, List.append_nil]
    · rw [hqueue] at hnone
      exact hnone (List.mem_cons_of_mem msg hmem)
  | failed hanswers hclosed hinits hnil hdone hunlisted =>
    rw [hnil] at hqueue
    cases hqueue

/-- A message of the user keeps the records sound. -/
lemma sound_send (hs : Sound s) {msg : Message} {app : App}
    (h : s.app.step (.send i msg) = some app) :
    Sound ⟨app, s.opening, s.accepted, s.inits⟩ := by
  obtain ⟨x, hx, hdriver, hmsg, rfl⟩ := App.step_send h
  rw [← hasDriver_onOpens] at hdriver
  refine hs.updateOther hx rfl (fun _ => id) fun _ hphase => ?_
  cases hphase with
  | waiting hanswers hclosed hinits hempty =>
    rw [hanswers] at hdriver
    cases hdriver
  | opened hanswers hinits hnone hdone =>
    refine .opened hanswers hinits (fun hmem => ?_) hdone
    rcases List.mem_append.mp hmem with hold | hnew
    · exact hnone hold
    · exact hmsg (List.mem_singleton.mp hnew).symm
  | failed hanswers hclosed hinits hnil hdone hunlisted =>
    rw [hanswers] at hdriver
    cases hdriver

/-- **Each step that meets the condition keeps the records sound.** -/
lemma sound_step {e : AnswerEvent} (hl : s.app.Listed) (hs : Sound s) (hc : NothingElse s e)
    (h : s.step e = some s') : Sound s' := by
  cases e with
  | takeOpen i => exact sound_takeOpen hs h
  | finishOpen i env => exact sound_finishOpen hl hs h
  | other e =>
    obtain ⟨hwhole, app, happ, rfl⟩ := step_other h
    cases e with
    | registerUsbReceiver | unregisterUsbReceiver =>
      obtain rfl := Option.some_inj.mp happ
      apply hs.frame
      · rfl
      · exact fun _ => id
      · exact List.append_nil _
    | usbTvOpen params vendorId productId hasPermission =>
      obtain rfl := Option.some_inj.mp happ
      exact sound_usbTvOpen hs params vendorId productId hasPermission
    | permission dev granted =>
      obtain ⟨-, rfl⟩ := App.step_permission happ
      exact (sound_permission hl hs hc).frame rfl (fun _ => id) (List.append_nil _)
    | send i msg => exact (sound_send hs happ).frame rfl (fun _ => id) (List.append_nil _)
    | handle i env =>
      exact (sound_handle hs hwhole happ).frame rfl (fun _ => id) (List.append_nil _)
    | thread e =>
      obtain ⟨d, -, rfl⟩ := Option.map_eq_some_iff.mp happ
      apply hs.frame
      · rfl
      · exact fun _ => id
      · exact List.append_nil _

/-- Each step keeps the list sound. -/
lemma listed_step {e : AnswerEvent} (hl : s.app.Listed) (h : s.step e = some s') :
    s'.app.Listed := by
  cases e with
  | takeOpen i =>
    obtain ⟨self, queue, callbacks, hx, -, rfl⟩ := takeOpen_cases h
    apply hl.update
    intro hi
    obtain ⟨z, hz, hopen⟩ := hl.instances hi
    obtain rfl := Option.some_inj.mp (hx.symm.trans hz)
    exact hopen
  | finishOpen i env =>
    obtain ⟨x, r, -, hx, hr, rfl⟩ := finishOpen_cases h
    have hdone : App.Listed ((if r.removed then s.app.remove i else s.app).update i
        ⟨r.self, x.queue, x.callbacks ++ r.callbacks⟩) := by
      rcases UsbTvInstance.handleMessage_openDevice hr with
        ⟨-, -, hnot, -, connection, host, hself, -⟩ | ⟨-, hyes, -⟩
      · rw [hnot]
        exact hl.update fun _ _ => by rw [hself]
      · rw [hyes]
        exact (hl.remove i).update fun hi => absurd hi hl.nodup.not_mem_erase
    exact ⟨hdone.nodup, hdone.instances⟩
  | other e =>
    obtain ⟨-, app, happ, rfl⟩ := step_other h
    exact App.listed_step hl happ

/-! ## Failed opens -/

/-- Only the object, the list and the records matter. -/
lemma DefinitelyFailed.congr (h : DefinitelyFailed s i)
    (hinst : s'.app.instances[i]? = s.app.instances[i]?)
    (hinits : (i, true) ∉ s'.inits) (hopening : i ∉ s'.opening)
    (hlist : i ∈ s'.app.mReferenceList → i ∈ s.app.mReferenceList) : DefinitelyFailed s' i := by
  refine ⟨hinits, ?_, ?_, hopening, fun hmem => h.unlisted (hlist hmem)⟩
  · rw [App.isOpen, hinst]
    exact h.isOpen
  · rw [App.queueOf, hinst]
    exact h.queue

/-- The object itself handles a message, or is sent one. -/
lemma DefinitelyFailed.update {app : App} {accepted : List ℕ} {y : Instance}
    (h : DefinitelyFailed s i) (hx : s.app.instances[i]? = some x)
    (hinst : app.instances = s.app.instances.set i y) (hopen : y.self.mIsOpen = false)
    (hqueue : .openDevice ∉ y.queue)
    (hlist : i ∈ app.mReferenceList → i ∈ s.app.mReferenceList) :
    DefinitelyFailed ⟨app, s.opening, accepted, s.inits⟩ i := by
  have hy : app.instances[i]? = some y := by
    rw [hinst]
    exact List.getElem?_set_self (List.getElem?_eq_some_iff.mp hx).1
  refine ⟨h.inits, ?_, ?_, h.opening, fun hmem => h.unlisted (hlist hmem)⟩
  · rw [App.isOpen_eq hy, hopen]
  · rwa [App.queueOf_eq hy]

/-- Another open does not find the object, as it is not on the list. -/
lemma DefinitelyFailed.usbTvOpen {accepted : List ℕ} (hf : DefinitelyFailed s i)
    (hlt : i < s.app.instances.length) (params : DeviceParams) (vendorId productId : ℕ)
    (hasPermission : Bool) :
    DefinitelyFailed ⟨(s.app.usbTvOpen params vendorId productId hasPermission).2, s.opening,
      accepted, s.inits⟩ i := by
  rcases s.app.usbTvOpen_cases params vendorId productId hasPermission with
    heq | ⟨dev, s₁, -, hs₁, hinst⟩
  · exact hf.congr (by rw [heq]) hf.inits hf.opening (by rw [heq]; exact id)
  · obtain ⟨hsame, -, hlist⟩ := App.Shrunk.forgets hs₁
    rcases hinst with heq | ⟨y, heq, -⟩
    · exact hf.congr (by rw [heq, hsame]) hf.inits hf.opening
        (by rw [heq]; exact fun h => hlist.subset h)
    · have hne : i ≠ s₁.instances.length := by
        rw [hsame]
        exact hlt.ne
      refine hf.congr ?_ hf.inits hf.opening ?_
      · rw [heq, App.getElem?_add_of_ne hne, hsame]
      · rw [heq]
        intro hmem
        rcases List.mem_append.mp hmem with hold | hnew
        · exact hlist.subset hold
        · exact absurd (List.mem_singleton.mp hnew) hne

/-- The receiver finds another object, or none. -/
lemma DefinitelyFailed.onPermission {accepted : List ℕ} (hf : DefinitelyFailed s i) (dev : ℕ)
    (granted : Bool) :
    DefinitelyFailed ⟨s.app.onPermission dev granted, s.opening, accepted, s.inits⟩ i := by
  rcases s.app.onPermission_cases dev granted with heq | ⟨k, y, s₁, z, hfind, -, heq, hs₁, -⟩
  · exact hf.congr (by rw [heq]) hf.inits hf.opening (by rw [heq]; exact id)
  · have hne : i ≠ k := fun hik => hf.unlisted (hik ▸ (App.findDevice_eq_some hfind).1)
    have hshrunk := App.Shrunk.answers hs₁
    refine hf.congr ?_ hf.inits hf.opening ?_
    · rw [heq, App.getElem?_update_of_ne hne, hshrunk.instances]
    · rw [heq]
      exact fun h => hshrunk.list.subset h

/-- The object has no `OPEN_DEVICE` to take. -/
lemma DefinitelyFailed.takeOpen {k : ℕ} (hf : DefinitelyFailed s i)
    (h : s.takeOpen k = some s') : DefinitelyFailed s' i := by
  obtain ⟨self, queue, callbacks, hx, -, rfl⟩ := takeOpen_cases h
  have hne : i ≠ k := by
    rintro rfl
    have hqueue := hf.queue
    rw [App.queueOf_eq hx] at hqueue
    exact hqueue List.mem_cons_self
  refine hf.congr (App.getElem?_update_of_ne hne _) hf.inits ?_ id
  simp [Finset.mem_insert, hne, hf.opening]

/-- The object has taken no `OPEN_DEVICE`. -/
lemma DefinitelyFailed.finishOpen {k : ℕ} {env : Environment} (hf : DefinitelyFailed s i)
    (h : s.finishOpen k env = some s') : DefinitelyFailed s' i := by
  obtain ⟨x, r, hk, hx, hr, rfl⟩ := finishOpen_cases h
  have hne : i ≠ k := fun hik => hf.opening (hik ▸ hk)
  have hshrunk := App.Shrunk.handled s.app k r.removed
  refine hf.congr ?_ ?_ (fun hmem => hf.opening (Finset.mem_of_mem_erase hmem))
    fun hmem => hshrunk.list.subset hmem
  · show ((if r.removed then s.app.remove k else s.app).update k _).instances[i]? = _
    rw [hshrunk.instances_update, List.getElem?_set_ne (Ne.symm hne)]
  · simp [hf.inits, hne]

/-- No other message opens the object. -/
lemma DefinitelyFailed.handle {k : ℕ} {env : Environment} {app : App} {accepted : List ℕ}
    (hf : DefinitelyFailed s i) (hx : s.app.instances[i]? = some x)
    (h : s.app.handle k env = some app) :
    DefinitelyFailed ⟨app, s.opening, accepted, s.inits⟩ i := by
  have hclosed := hf.isOpen
  have hqueue := hf.queue
  rw [App.isOpen_eq hx] at hclosed
  rw [App.queueOf_eq hx] at hqueue
  obtain ⟨y, msg, queue, r, hy, hyqueue, hr, rfl⟩ := App.handle_cases h
  have hshrunk := App.Shrunk.handled s.app k r.removed
  have hinst := hshrunk.instances_update k ⟨r.self, queue, y.callbacks ++ r.callbacks⟩
  by_cases hik : i = k
  · subst hik
    obtain rfl := Option.some_inj.mp (hx.symm.trans hy)
    rw [hyqueue] at hqueue
    have hmsg : msg ≠ .openDevice := fun hopen => hqueue (hopen ▸ List.mem_cons_self)
    refine hf.update hx hinst ?_ (fun hmem => hqueue (List.mem_cons_of_mem msg hmem))
      fun hmem => hshrunk.list.subset hmem
    by_cases hclose : msg = .closeDevice
    · subst hclose
      obtain ⟨-, -, ⟨-, -, hself⟩ | ⟨-, -, hself⟩⟩ := UsbTvInstance.handleMessage_closeDevice hr
      · rw [hself]
      · rw [hself]
        exact hclosed
    · exact (UsbTvInstance.handleMessage_keeps hmsg hclose hr).mIsOpen.trans hclosed
  · refine hf.congr ?_ hf.inits hf.opening fun hmem => hshrunk.list.subset hmem
    rw [hinst, List.getElem?_set_ne (Ne.symm hik)]

/-- **An open that has definitely failed stays so**, whatever happens. -/
theorem definitelyFailed_step {e : AnswerEvent} (hf : DefinitelyFailed s i)
    (hx : s.app.instances[i]? = some x) (h : s.step e = some s') : DefinitelyFailed s' i := by
  cases e with
  | takeOpen k => exact hf.takeOpen h
  | finishOpen k env => exact hf.finishOpen h
  | other e =>
    obtain ⟨-, app, happ, rfl⟩ := step_other h
    cases e with
    | registerUsbReceiver | unregisterUsbReceiver =>
      obtain rfl := Option.some_inj.mp happ
      exact hf.congr rfl hf.inits hf.opening id
    | usbTvOpen params vendorId productId hasPermission =>
      obtain rfl := Option.some_inj.mp happ
      exact hf.usbTvOpen (List.getElem?_eq_some_iff.mp hx).1 _ _ _ _
    | permission dev granted =>
      obtain ⟨-, rfl⟩ := App.step_permission happ
      exact hf.onPermission dev granted
    | send k msg =>
      obtain ⟨y, hy, -, hmsg, rfl⟩ := App.step_send happ
      by_cases hik : i = k
      · subst hik
        have hclosed := hf.isOpen
        have hqueue := hf.queue
        obtain rfl := Option.some_inj.mp (hx.symm.trans hy)
        rw [App.isOpen_eq hx] at hclosed
        rw [App.queueOf_eq hx] at hqueue
        refine hf.update hx rfl hclosed (fun hmem => ?_) id
        rcases List.mem_append.mp hmem with hold | hnew
        · exact hqueue hold
        · exact hmsg (List.mem_singleton.mp hnew).symm
      · exact hf.congr (App.getElem?_update_of_ne hik _) hf.inits hf.opening id
    | handle k env => exact hf.handle hx happ
    | thread e =>
      obtain ⟨d, -, rfl⟩ := Option.map_eq_some_iff.mp happ
      exact hf.congr rfl hf.inits hf.opening id

/-! ## Runs -/

/-- The list is sound in all runs. -/
lemma listed_of_reachable {C : AnswerRun → AnswerEvent → Prop}
    (h : answerRuns.ReachableUnder C s) : s.app.Listed := by
  refine h.invariant (I := fun s => s.app.Listed) (fun s hs => ?_)
    fun s e s' _ hl _ hstep => listed_step hl hstep
  obtain rfl : s = _ := hs
  exact ⟨List.nodup_nil, fun hi => absurd hi List.not_mem_nil⟩

/-- What the receiver makes of the object that it finds. -/
lemma getElem?_onPermission {app : App} {dev : ℕ} (hfind : app.findDevice dev = some i)
    (hx : app.instances[i]? = some x) (granted : Bool) :
    ∃ y, (app.onPermission dev granted).instances[i]? = some y ∧
      y.callbacks = x.callbacks ++ [.onOpen false x.self.mIsOpen] ∧
      (granted = true → x.self.mIsOpen = false → y.queue = x.queue ++ [.openDevice]) ∧
      (granted = false → y.queue = x.queue) := by
  have hdenied := App.getElem?_update_self (s := app.remove i) hx
  have htold := App.getElem?_update_self (s := app) hx
  simp only [App.onPermission, hfind, hx]
  split_ifs with hgranted hopen
  · exact ⟨_, htold _, rfl, fun _ _ => rfl, fun h => absurd hgranted (by simp [h])⟩
  · exact ⟨_, htold _, rfl, fun _ h => absurd h hopen, fun h => absurd hgranted (by simp [h])⟩
  · exact ⟨_, hdenied _, rfl, fun h => absurd h hgranted, fun _ => rfl⟩

/-- A broadcast that tells an object anything else leaves an open without its one answer. -/
lemma nothingElse_of_answered {e : AnswerEvent} (hl : s.app.Listed) (h : s.step e = some s')
    (hs' : Answered s') : NothingElse s e := by
  cases e with
  | takeOpen i => trivial
  | finishOpen i env => trivial
  | other e =>
    obtain ⟨-, app, happ, rfl⟩ := step_other h
    cases e with
    | permission dev granted =>
      obtain ⟨-, rfl⟩ := App.step_permission happ
      intro i hfind hi
      obtain ⟨x, hx, -⟩ := hl.instances (App.findDevice_eq_some hfind).1
      obtain ⟨y, hy, hcallbacks, hasked, hsame⟩ := getElem?_onPermission hfind hx granted
      obtain ⟨-, hforms, -, hfailed⟩ := hs' i (List.mem_append_left _ hi) y hy
      have hmem : .onOpen false x.self.mIsOpen ∈ y.callbacks := by
        rw [hcallbacks]
        exact List.mem_append_right _ (List.mem_singleton.mpr rfl)
      have hclosed : x.self.mIsOpen = false := by
        rcases hforms _ ((mem_onOpens _).mpr hmem) with hform | hform
        · cases hform
        · exact (Callback.onOpen.inj hform).2
      rw [hclosed] at hmem
      have hdone := (hfailed hmem).opening
      have hqueue := (hfailed hmem).queue
      rw [App.queueOf_eq hy] at hqueue
      rw [App.isOpen_eq hx, App.queueOf_eq hx]
      cases granted with
      | true =>
        rw [hasked rfl hclosed] at hqueue
        exact absurd (List.mem_append_right _ (List.mem_singleton.mpr rfl)) hqueue
      | false =>
        rw [hsame rfl] at hqueue
        exact ⟨rfl, hclosed, hqueue, hdone⟩
    | registerUsbReceiver | unregisterUsbReceiver => trivial
    | usbTvOpen params vendorId productId hasPermission => trivial
    | send i msg => trivial
    | handle i env => trivial
    | thread e => trivial

/-- **When each open gets one answer**: in every run in which each broadcast that finds an object
of an open denies a permission that the open waits for. The first step that does otherwise leaves
an open that is not answered so. -/
theorem answered_of_reachable (h : answerRuns.ReachableUnder NothingElse s) :
    Answered s ∧ ∀ e s', s.step e = some s' → (Answered s' ↔ NothingElse s e) := by
  have hsound : Sound s := by
    refine h.invariant (fun s hs => ?_) fun s e s' hreach hs hc hstep =>
      sound_step (listed_of_reachable hreach) hs hc hstep
    obtain rfl : s = _ := hs
    exact ⟨fun p hp => absurd hp List.not_mem_nil, fun i hi => absurd hi (Finset.notMem_empty i),
      fun i hi => absurd hi List.not_mem_nil⟩
  have hl := listed_of_reachable h
  refine ⟨hsound.answered, fun e s' hstep => ⟨nothingElse_of_answered hl hstep, fun hc => ?_⟩⟩
  exact (sound_step hl hsound hc hstep).answered

/-- `UsbTv.open` for a capture device that the application has no permission for. -/
def askEvent (dev : ℕ) : AnswerEvent :=
  .other (.usbTvOpen (Builder.new.setUsbDevice dev).build 0x1b71 0x3002 false)

/-- Three devices are opened: one with the permission, one without it, which is denied while the
first is being opened, and one whose `initDevice` fails. -/
theorem answered_of_reachable_denied :
    ∃ s, answerRuns.runUnder NothingElse ⟨.new, ∅, [], []⟩
        [.other .registerUsbReceiver, .other (App.openEvent 0), askEvent 1, .takeOpen 0,
          .other (.permission 1 false), .finishOpen 0 (answering 0), .other (App.openEvent 2),
          .takeOpen 2, .finishOpen 2 (answering 0)] = some s ∧
      s.accepted = [0, 1, 2] ∧
      s.app.instances.map (·.callbacks) =
        [[.onOpen true true], [.onOpen false false], [.onOpen false false]] ∧ Answered s := by
  have hrun : (answerRuns.runUnder NothingElse ⟨.new, ∅, [], []⟩
      [.other .registerUsbReceiver, .other (App.openEvent 0), askEvent 1, .takeOpen 0,
        .other (.permission 1 false), .finishOpen 0 (answering 0), .other (App.openEvent 2),
        .takeOpen 2, .finishOpen 2 (answering 0)]).map
          (fun s => (s.accepted, s.app.instances.map (·.callbacks))) =
      some ([0, 1, 2], [[.onOpen true true], [.onOpen false false], [.onOpen false false]]) := by
    decide
  obtain ⟨s, hs, heq⟩ := Option.map_eq_some_iff.mp hrun
  obtain ⟨haccepted, hcallbacks⟩ := Prod.mk.inj heq
  exact ⟨s, hs, haccepted, hcallbacks,
    (answered_of_reachable (StepSystem.ReachableUnder.runUnder (.init rfl) hs)).1⟩

/-- **A permission that was granted** is answered with a failure first, and with the driver when the
device was opened. -/
theorem not_answered_granted : ¬ ∀ s, answerRuns.Reachable s → Answered s := by
  intro h
  have hrun : (answerRuns.run ⟨.new, ∅, [], []⟩
      [.other .registerUsbReceiver, askEvent 0, .other (.permission 0 true), .takeOpen 0,
        .finishOpen 0 (answering 0)]).map
        (fun s => (s.accepted, s.app.instances.map (·.callbacks))) =
      some ([0], [[.onOpen false false, .onOpen true true]]) := by decide
  obtain ⟨s, hs, heq⟩ := Option.map_eq_some_iff.mp hrun
  obtain ⟨haccepted, hcallbacks⟩ := Prod.mk.inj heq
  obtain ⟨x, hx, hxc⟩ : ∃ x, s.app.instances[0]? = some x ∧
      x.callbacks = [.onOpen false false, .onOpen true true] := by
    have hmap := congrArg (fun l => l[0]?) hcallbacks
    rw [List.getElem?_map] at hmap
    exact Option.map_eq_some_iff.mp hmap
  have hone := (h s (.run (.init rfl) hs) 0 (by simp [haccepted]) x hx).1
  rw [hxc] at hone
  exact absurd hone (by decide)

end AnswerRun

end UsbTv
