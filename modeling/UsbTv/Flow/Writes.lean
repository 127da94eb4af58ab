import UsbTv.Flow.Release
import UsbTv.Flow.Packets
import UsbTv.Driver.Restart

set_option relaxedAutoImplicit false
set_option autoImplicit false

/-!
# What the reap thread writes to

`processPacket` writes to the frame that `_usbInputFrame` points to, and queues it when it is
complete. As long as the stream is active this is a frame that nobody else has, because its lock was
free. If the stream ends while `fetchFrameFromPool` is searching, it is frame 0 of the pool, "as it
shouldn't be processed again". But `onUrbReceived` goes on with the other packets of its URB, and
somebody may have frame 0.

## Main definitions

* `UsbTv.FrameFlow.Busy` — the queue, the process thread or a consumer has the frame.
* `UsbTv.FrameFlow.FallsBackFree` — a search that ends with the stream finds frame 0 free.
* `UsbTv.FrameFlow.Solo` — nobody else has the frame that the reap thread writes to.

## Main results

* `UsbTv.FrameFlow.solo_step` — each step keeps this.
* `UsbTv.FrameFlow.not_written_of_busy` — the reap thread writes to no frame that is busy.
* `UsbTv.FrameFlow.exists_written_of_fallback` — any other end of a search goes wrong.
-/

namespace UsbTv

namespace Assembler

/-- The second state has the same input frame, and all other frames are the same. -/
structure SameOthers (a b : Assembler) : Prop where
  usbInputFrame : b.usbInputFrame = a.usbInputFrame
  frames : ∀ i, i ≠ a.usbInputFrame → b.frames i = a.frames i
  handed : b.handed = a.handed

namespace SameOthers

variable {a b c : Assembler}

lemma refl (a : Assembler) : SameOthers a a := ⟨rfl, fun _ _ => rfl, rfl⟩

/-- The other members may change freely. -/
lemma of_frames_eq (h : SameOthers a b) (hinput : c.usbInputFrame = b.usbInputFrame)
    (hframes : c.frames = b.frames) (hhanded : c.handed = b.handed) : SameOthers a c :=
  ⟨hinput.trans h.usbInputFrame, fun i hi => by rw [hframes, h.frames i hi],
    hhanded.trans h.handed⟩

/-- So may the input frame. -/
lemma setInputFrame (h : SameOthers a b) (f : UsbTvFrame) : SameOthers a (b.setInputFrame f) := by
  refine ⟨h.usbInputFrame, fun i hi => ?_, h.handed⟩
  rw [← h.frames i hi]
  exact Function.update_of_ne (by rw [h.usbInputFrame]; exact hi) _ _

lemma setFlags (h : SameOthers a b) (flags : ℕ) : SameOthers a (b.setFlags flags) :=
  h.setInputFrame _

lemma memcpy (h : SameOthers a b) (cs : List (Copy UInt8)) : SameOthers a (b.memcpy cs) :=
  h.setInputFrame _

/-- Receiving a packet writes to the input frame only. -/
lemma receive (h : SameOthers a b) (packet : Packet) : SameOthers a (b.receive packet) := by
  have hstart : ∀ frameId isOdd, SameOthers a (b.startField frameId isOdd) := by
    intro frameId isOdd
    unfold startField
    split_ifs
    · refine SameOthers.setFlags ?_ _
      exact h.of_frames_eq rfl rfl rfl
    · refine SameOthers.setFlags ?_ _
      exact h.of_frames_eq rfl rfl rfl
  unfold Assembler.receive
  split_ifs
  · exact ((hstart _ _).memcpy _).of_frames_eq rfl rfl rfl
  · exact (h.memcpy _).of_frames_eq rfl rfl rfl

/-- Flagging a frame writes to the input frame only. -/
lemma flagFinished (h : SameOthers a b) : SameOthers a b.flagFinished := by
  unfold Assembler.flagFinished
  split_ifs
  · exact (h.setFlags framePartial).of_frames_eq rfl rfl rfl
  · exact h.setFlags _

end SameOthers

/-- **What a packet writes to** is the input frame and, if that is queued, the frame fetched next;
what it queues is the input frame. -/
lemma processPacket_writes (a : Assembler) (answer : Answer) (packet : Packet) :
    (∀ i, i ≠ a.usbInputFrame → answer ≠ .accepted i →
      (a.processPacket (fun _ => answer) packet).frames i = a.frames i) ∧
    ((a.processPacket (fun _ => answer) packet).handed = a.handed ∨
      ∃ frame, (a.processPacket (fun _ => answer) packet).handed =
        a.handed ++ [⟨a.usbInputFrame, frame⟩]) := by
  have hreceive := (SameOthers.refl a).receive packet
  have hflag := hreceive.flagFinished
  rcases a.processPacket_cases (fun _ => answer) packet with heq | heq | heq
  · rw [heq]
    exact ⟨fun _ _ _ => rfl, .inl rfl⟩
  · rw [heq]
    exact ⟨fun i hi _ => hreceive.frames i hi, .inl hreceive.handed⟩
  · rw [heq]
    obtain ⟨second, heq | heq⟩ :=
      (a.receive packet).checkFinishedFrame_cases (fun _ => answer) (usbtvOdd packet.header)
    · rw [heq]
      exact ⟨fun i hi _ => hflag.frames i hi, .inl hflag.handed⟩
    · rw [heq]
      set b := (a.receive packet).flagFinished
      constructor
      · intro i hi hanswer
        refine Eq.trans ?_ (hflag.frames i hi)
        have hi' : i ≠ b.usbInputFrame := by rw [hflag.usbInputFrame]; exact hi
        cases answer with
        | refused => exact Function.update_of_ne hi' _ _
        | accepted next =>
          have hnext : i ≠ next := fun heq => hanswer (by rw [heq])
          exact Function.update_of_ne hnext _ _
        | stopped => rfl
      · refine .inr ⟨b.inputFrame, ?_⟩
        rw [← hflag.handed, ← hflag.usbInputFrame]
        cases answer <;> rfl

/-- The first packet of a field puts the input frame in progress. -/
lemma receive_first_flags (a : Assembler) {id : ℕ} (hid : id < 256) :
    (a.receive (blankPacket id 0)).inputFrame.flags = frameInProgress := by
  obtain ⟨-, -, -, hno⟩ := decode_packetHeader true hid (show 0 < 4096 by decide)
  have hstarts : a.Starts (blankPacket id 0) := .inl hno
  rw [receive, if_pos hstarts]
  show ((a.startField _ _).memcpy _).inputFrame.flags = _
  rw [memcpy_inputFrame]
  unfold startField
  split_ifs <;> rw [setFlags_inputFrame]

end Assembler

namespace FrameFlow

/-- The queue, the process thread or a consumer has the frame. -/
def Busy (s : FrameFlow) (r : FrameRef) : Prop :=
  some r ∈ s.frameProcessQueue ∨ s.process.frame = some r ∨ s.Out r

instance (s : FrameFlow) (r : FrameRef) : Decidable (s.Busy r) :=
  inferInstanceAs (Decidable (_ ∨ _ ∨ _ ∨ _))

/-- The condition on a step: consumers release frames of the current pool only; and where
`fetchFrameFromPool` finds that the stream has ended, the first frame of the pool is not busy. -/
def FallsBackFree (s : FrameFlow) (e : FlowEvent) : Prop :=
  ReturnsCurrent s e ∧
    match e with
    | .fetch => s.streamActive = false → ∀ pool ∈ s.framePool, ¬ s.Busy ⟨pool, 0⟩
    | _ => True

instance (s : FrameFlow) (e : FlowEvent) : Decidable (FallsBackFree s e) :=
  match e with
  | .fetch => inferInstanceAs (Decidable (_ ∧ (_ → _)))
  | .usbtvInitialize _ | .dispose | .setFrameListener _ | .startStreaming _ | .stopStreaming
  | .usb _ | .stop | .addCompleteFrameToQueue _ | .dequeue _ | .process | .returnFrame _
  | .returnFrameToPool _ => inferInstanceAs (Decidable (_ ∧ True))

/-- Unless the reap thread is searching for another one, the frame that it writes to is not
busy. -/
def Solo (s : FrameFlow) : Prop :=
  s.fetching = none → ∀ r, s.usbInputFrame = .frame r → ¬ s.Busy r

/-- A step after which no other frame is busy than before keeps the input frame for the reap
thread alone. -/
lemma Solo.of_busy {s s' : FrameFlow} (hs : Solo s) (hfetching : s'.fetching = s.fetching)
    (hinput : s'.usbInputFrame = s.usbInputFrame) (hbusy : ∀ r, s'.Busy r → s.Busy r) :
    Solo s' := by
  intro hnone r hr
  rw [hfetching] at hnone
  rw [hinput] at hr
  exact fun hbusy' => hs hnone r hr (hbusy r hbusy')

/-- The reap thread takes a frame that nobody has, or falls back on one. -/
lemma solo_fetchStep {s s' : FrameFlow} (hw : WellFormed s) (ho : Owned s)
    (hc : FallsBackFree s .fetch) (h : s.fetchStep = some s') : Solo s' := by
  obtain ⟨index, pool, hindex, hpool, ⟨hactive, hunlocked, rfl⟩ | ⟨next, -, rfl⟩ |
    ⟨hinactive, rfl⟩⟩ := fetchStep_cases h
  · have hguarded := ho hactive
    have hin : s.InPool ⟨pool, index⟩ := ⟨hpool, hw.fetching index hindex⟩
    have hnone : ∀ a, s.held a ⟨pool, index⟩ = 0 := by
      intro a
      by_contra hpos
      have hlocked := hguarded.locked hin (Nat.pos_of_ne_zero hpos)
      exact absurd (hunlocked.symm.trans hlocked) (by simp)
    rintro - r hr (hqueue | hprocess | hout)
    · obtain rfl := InputFrame.frame.inj hr
      exact absurd (hnone .queued) (List.count_pos_iff.mpr hqueue).ne'
    · obtain rfl := InputFrame.frame.inj hr
      have hprocess : s.process.frame = some ⟨pool, index⟩ := hprocess
      have hzero := hnone .processed
      simp [held, hprocess] at hzero
    · obtain rfl := InputFrame.frame.inj hr
      exact not_out ⟨hnone .delivered, hnone .returning⟩ hout
  · intro hnone
    simp at hnone
  · rintro - r hr
    obtain rfl := InputFrame.frame.inj hr
    exact hc.2 hinactive pool hpool

/-- The steps of the process thread make no other frame busy. -/
lemma busy_processStep {s s' : FrameFlow} (h : s.processStep = some s') (r : FrameRef)
    (hr : s'.Busy r) : s.Busy r := by
  rcases processStep_cases h with ⟨pc, -, -, hnone, -, rfl⟩ |
    ⟨r₀, hframe, ⟨pc, hpc, -, rfl⟩ | rfl⟩ | ⟨r₀, hpc, rfl⟩
  · rcases hr with hr | hr | hr
    · exact .inl hr
    · exact absurd (hnone.symm.trans hr) (by simp)
    · exact .inr (.inr hr)
  · rcases hr with hr | hr | hr
    · exact .inl hr
    · exact .inr (.inl (hframe.trans (hpc.symm.trans hr)))
    · exact .inr (.inr hr)
  · rcases hr with hr | hr | hr
    · exact .inl hr
    · exact absurd hr (by simp [skip])
    · exact .inr (.inr hr)
  · by_cases hne : r = r₀
    · exact .inr (.inl (by rw [hpc, hne]; rfl))
    · rcases hr with hr | hr | hr
      · exact .inl hr
      · exact absurd hr (by simp)
      · exact .inr (.inr (by simpa [Out, held, hne] using hr))

/-- The steps of a consumer make no other frame busy. -/
lemma busy_returnFrame {s s' : FrameFlow} {r₀ : FrameRef} (h : s.returnFrame r₀ = some s')
    (r : FrameRef) (hr : s'.Busy r) : s.Busy r := by
  obtain ⟨hdelivered, rfl | ⟨hunlocked, rfl⟩⟩ := returnFrame_cases h
  · exact hr
  by_cases hne : r = r₀
  · subst hne
    exact .inr (.inr (.inl (by simp [held, hdelivered, hunlocked])))
  · rcases hr with hr | hr | hr
    · exact .inl hr
    · exact .inr (.inl hr)
    · exact .inr (.inr (by simpa [Out, held, hne, Ne.symm hne] using hr))

/-- **Each step keeps the input frame for the reap thread alone.**

**Proof sketch.** While the stream is active the search ends with an unlocked frame, which nobody
has; otherwise it ends with the first frame, which is not busy by the condition. When the reap
thread queues its frame it starts to search. No other thread gets a frame that was not busy. -/
lemma solo_step {s s' : FrameFlow} {e : FlowEvent} (hw : WellFormed s) (ho : Owned s)
    (hs : Solo s) (hc : FallsBackFree s e) (h : s.step e = some s') : Solo s' := by
  cases e with
  | usbtvInitialize mFramePoolSize =>
    obtain ⟨-, rfl⟩ := usbtvInitialize_cases h
    intro _ r hr
    simp [construct] at hr
  | dispose =>
    obtain ⟨-, rfl⟩ := dispose_cases h
    exact hs
  | setFrameListener listener =>
    obtain rfl | ⟨useCallback, rfl⟩ := setFrameListener_cases h
    · exact hs
    · exact hs
  | startStreaming outcome =>
    obtain ⟨hguard, h⟩ := startStreaming_guard h
    rcases hw.startStreaming_cases hguard.2 h with ⟨streaming, rfl⟩ | ⟨-, streaming, rfl⟩ |
      ⟨success, attached, -, hactive, -, rfl⟩
    · exact hs
    · exact hs
    · -- the first frame of a new pool
      obtain ⟨-, -, hqueue, -⟩ := hw.idle hactive hguard.2
      rintro - r hr (hr' | hr' | hr' | hr')
      · change some r ∈ s.frameProcessQueue at hr'
        simp [hqueue] at hr'
      · simp [started] at hr'
      · obtain rfl := InputFrame.frame.inj hr
        simp [held, started, JavaFrame.new] at hr'
      · obtain rfl := InputFrame.frame.inj hr
        have hlt := hw.returning_lt _ (List.count_pos_iff.mp hr')
        exact absurd hlt (lt_irrefl _)
  | stopStreaming =>
    obtain ⟨-, rfl⟩ := stopStreaming_cases h
    exact hs
  | usb e =>
    obtain ⟨usb, call, streaming, -, -, rfl⟩ := usbStep_cases h
    exact hs
  | stop =>
    rcases stopStep_cases h with ⟨-, -, ⟨-, rfl⟩ | ⟨-, rfl⟩ | ⟨-, rfl⟩⟩ | ⟨-, rfl⟩ | ⟨-, -, rfl⟩ |
      ⟨-, lock, rfl⟩ | ⟨-, rfl⟩
    · exact hs
    · exact hs
    · exact hs
    · refine hs.of_busy rfl rfl fun r hr => hr.imp_left fun hqueue => ?_
      simpa using hqueue
    · refine hs.of_busy rfl rfl fun r hr => ?_
      rcases hr with hr | hr | hr
      · exact .inl hr
      · simp [ProcessPc.frame] at hr
      · exact .inr (.inr hr)
    · intro _ r hr
      simp at hr
    · exact hs
  | addCompleteFrameToQueue enqueued =>
    obtain ⟨r, -, -, -, rfl | rfl⟩ := addCompleteFrameToQueue_cases h
    · exact hs
    · intro hnone
      simp at hnone
  | fetch => exact solo_fetchStep hw ho hc h
  | dequeue k =>
    obtain ⟨-, entry, pc, hentry, hframe, -, rfl⟩ := dequeueStep_cases h
    refine hs.of_busy rfl rfl fun r hr => ?_
    rcases hr with hr | hr | hr
    · exact .inl (List.mem_of_mem_eraseIdx hr)
    · have hmem := List.mem_of_getElem? hentry
      rw [← hframe, hr] at hmem
      exact .inl hmem
    · exact .inr (.inr hr)
  | process =>
    have hbusy := busy_processStep h
    rcases processStep_cases h with ⟨pc, -, -, -, -, rfl⟩ | ⟨r, -, ⟨pc, -, -, rfl⟩ | rfl⟩ |
      ⟨r, -, rfl⟩ <;> exact hs.of_busy rfl rfl hbusy
  | returnFrame r =>
    have hbusy := busy_returnFrame h
    obtain ⟨-, rfl | ⟨-, rfl⟩⟩ := returnFrame_cases h <;> exact hs.of_busy rfl rfl hbusy
  | returnFrameToPool r =>
    have hout : ∀ r', 0 < (s.returning.erase r).count r' → 0 < s.returning.count r' :=
      fun r' hr' => List.count_pos_iff.mpr (List.mem_of_mem_erase (List.count_pos_iff.mp hr'))
    obtain ⟨-, ⟨-, rfl⟩ | ⟨pool, -, -, rfl⟩⟩ := returnStep_cases h
    · exact hs.of_busy rfl rfl fun r' hr' => hr'.imp_right (.imp_right (.imp_right (hout r')))
    · exact hs.of_busy rfl rfl fun r' hr' => hr'.imp_right (.imp_right (.imp_right (hout r')))

/-- In every run whose searches fall back on a free frame, nobody else has the frame that the reap
thread writes to. -/
lemma solo_of_reachable {s : FrameFlow} (h : frameFlow.ReachableUnder FallsBackFree s) :
    Solo s := by
  refine StepSystem.ReachableUnder.invariant (I := Solo) ?_
    (fun s e s' hr hs hc hstep => solo_step (wellFormed_of_reachable hr)
      (owned_of_reachable (hr.mono fun _ _ _ _ hc _ => hc.1)) hs hc hstep) h
  rintro s rfl _ r hr
  simp [new] at hr

/-- **The reap thread writes to no frame that is busy**, in a run in which consumers release frames
of the current pool only and searches fall back on a free frame. At any point a frame that is in the
queue, with the process thread or with a consumer is not the one that packets are written to; it is
not the one that a search ends with, and it is not queued. So whatever the next packet is, it leaves
the frame as it is, and hands over another one if it hands over any. -/
theorem not_written_of_busy {s : FrameFlow} (h : frameFlow.ReachableUnder FallsBackFree s)
    {r : FrameRef} (hin : s.InPool r) (hr : s.Busy r) :
    (s.fetching = none → s.usbInputFrame ≠ .frame r) ∧
    (∀ s', FallsBackFree s .fetch → s.step .fetch = some s' → s'.fetching = none →
      s'.usbInputFrame ≠ .frame r) ∧
    (∀ enqueued s', s.step (.addCompleteFrameToQueue enqueued) = some s' →
      s'.frameProcessQueue.count (some r) = s.frameProcessQueue.count (some r)) ∧
    ∀ a pool answer packet, s.Sees a pool → s.Answers pool answer →
      (a.processPacket (fun _ => answer) packet).frames r.index = a.frames r.index ∧
        ∀ handover ∈ (a.processPacket (fun _ => answer) packet).handed,
          handover ∈ a.handed ∨ handover.index ≠ r.index := by
  have hsolo : s.fetching = none → s.usbInputFrame ≠ .frame r := fun hnone hinput =>
    solo_of_reachable h hnone r hinput hr
  refine ⟨hsolo, fun s' hc hstep hnone hinput => ?_, fun enqueued s' hstep => ?_,
    fun a pool answer packet hsees hanswer => ?_⟩
  · -- the search leaves the queue, the process thread and the consumers alone
    have hbusy : s'.Busy r := by
      obtain ⟨index, pool, -, -, ⟨-, -, rfl⟩ | ⟨next, -, rfl⟩ | ⟨-, rfl⟩⟩ :=
        fetchStep_cases hstep <;> exact hr
    exact solo_of_reachable (h.step hc hstep) hnone r hinput hbusy
  · obtain ⟨r', hr', -, hnone, rfl | rfl⟩ := addCompleteFrameToQueue_cases hstep
    · rfl
    · have hne : r' ≠ r := by
        rintro rfl
        exact hsolo hnone hr'
      simp [hne]
  · obtain rfl := Option.some_inj.mp (hin.1.symm.trans hsees.framePool)
    have hinput : r.index ≠ a.usbInputFrame := by
      intro heq
      apply hsolo hsees.fetching
      rw [hsees.usbInputFrame, ← heq]
    have hanswer' : answer ≠ .accepted r.index := by
      rintro rfl
      obtain ⟨hactive, -, -, hunlocked, -⟩ := hanswer
      have hguarded := owned_of_reachable (h.mono fun _ _ _ _ hc _ => hc.1) hactive
      have hlocked : s.lock r = true := by
        rcases hr with hqueue | hprocess | hdelivered | hreturning
        · have hheld : 0 < s.held .queued r := List.count_pos_iff.mpr hqueue
          exact hguarded.locked hin hheld
        · have hheld : 0 < s.held .processed r := by simp [held, hprocess]
          exact hguarded.locked hin hheld
        · exact hguarded.locked hin hdelivered
        · exact hguarded.locked hin hreturning
      exact absurd (hunlocked.symm.trans hlocked) (by simp)
    obtain ⟨hframes, hhanded⟩ := a.processPacket_writes answer packet
    refine ⟨hframes r.index hinput hanswer', fun handover hmem => ?_⟩
    rcases hhanded with heq | ⟨frame, heq⟩
    · exact .inl (heq ▸ hmem)
    · rw [heq, List.mem_append, List.mem_singleton] at hmem
      rcases hmem with hmem | rfl
      · exact .inl hmem
      · exact .inr hinput.symm

/-- The first frame of a first stream is delivered, and a stop begins while the reap thread is in
`onUrbReceived`. -/
theorem not_written_of_busy_firstFrame :
    ∃ s, frameFlow.ReachableUnder FallsBackFree s ∧ s.streamActive = false ∧
      s.usb.reap.isCallback = true ∧ s.InPool ⟨0, 0⟩ ∧ s.Busy ⟨0, 0⟩ ∧
      (s.fetching = none → s.usbInputFrame ≠ .frame ⟨0, 0⟩) := by
  have h : (frameFlow.runUnder FallsBackFree new
      (openEvents 4 ++ deliverEvents ++ [.stopStreaming])).map
      (fun s => ((s.streamActive, s.usb.reap.isCallback), (s.framePool, s.framePoolSize),
        decide (s.Busy ⟨0, 0⟩))) = some ((false, true), (some 0, 4), true) := by decide
  obtain ⟨s, hrun, heq⟩ := Option.map_eq_some_iff.mp h
  simp only [Prod.mk.injEq, decide_eq_true_eq] at heq
  obtain ⟨⟨hactive, hreap⟩, ⟨hpool, hsize⟩, hbusy⟩ := heq
  have hs : frameFlow.ReachableUnder FallsBackFree s :=
    StepSystem.ReachableUnder.runUnder (.init rfl) hrun
  have hin : s.InPool ⟨0, 0⟩ := ⟨hpool, by rw [hsize]; decide⟩
  exact ⟨s, hs, hactive, hreap, hin, hbusy, (not_written_of_busy hs hin hbusy).1⟩

/-! ## Other ends of a search -/

/-- **Any other end of a search goes wrong**: if it finds that the stream has ended while the first
frame of the pool is busy, the reap thread is still in `onUrbReceived`, and writes the rest of its
URB to this frame. -/
theorem exists_written_of_fallback {s : FrameFlow} (hw : WellFormed s) {index pool : ℕ}
    (hindex : s.fetching = some index) (hpool : s.framePool = some pool)
    (hinactive : s.streamActive = false) (hbusy : s.Busy ⟨pool, 0⟩) :
    ∃ s', s.step .fetch = some s' ∧ s'.usb.reap.isCallback = true ∧ s'.fetching = none ∧
      s'.usbInputFrame = .frame ⟨pool, 0⟩ ∧ s'.Busy ⟨pool, 0⟩ := by
  refine ⟨{ s with usbInputFrame := .frame ⟨pool, 0⟩, fetching := none }, ?_,
    hw.callback (by simp [hindex]), rfl, rfl, hbusy⟩
  simp [step, fetchStep, hindex, hpool, hinactive]

/-- A URB completes the first frame of a first stream; while the reap thread has queued it and
searches for another one, `stopStreaming` clears `_streamActive`. -/
def fallbackEvents : List FlowEvent :=
  openEvents 4 ++ [.usb (.complete 0), .usb (.reap fun _ => 0), .usb (.reapUrb 0),
    .addCompleteFrameToQueue true, .stopStreaming, .fetch]

/-- The packet side at the first frame of a pool, which is complete, with the given locks. -/
def completedFrame (lock : ℕ → Bool) : Assembler where
  currentFrameId := 1
  packetsPerField := 360
  packetsDone := 360
  lastOdd := true
  secondFrame := false
  droppedFrameCounter := 0
  incompleteFrameCounter := 0
  frameParams := nativeFrameParams Java.Builder.new.build
  usbInputFrame := 0
  frames := fun i => { UsbTvFrame.new 0 with lock := lock i, flags := frameComplete }
  handed := []

/-- **A queued frame that is written to and queued again**: the search has fallen back on the frame
that was just queued. The next packet of the URB, the first one of a field, sets its flags, and
when the field is complete it goes to the queue a second time. -/
theorem fallback_written :
    ¬ ∀ s r, frameFlow.Reachable s → s.InPool r → s.Busy r →
      (∀ enqueued s', s.step (.addCompleteFrameToQueue enqueued) = some s' →
        s'.frameProcessQueue.count (some r) = s.frameProcessQueue.count (some r)) ∧
      ∀ a pool answer packet, s.Sees a pool → s.Answers pool answer →
        (a.processPacket (fun _ => answer) packet).frames r.index = a.frames r.index := by
  intro hclaim
  have h : (frameFlow.run new fallbackEvents).map (fun s =>
      ((s.framePool, s.framePoolSize), (s.fetching, s.usbInputFrame), s.usb.reap.isCallback,
        decide (s.Busy ⟨0, 0⟩))) =
      some ((some 0, 4), (none, .frame ⟨0, 0⟩), true, true) := by decide
  obtain ⟨s, hrun, heq⟩ := Option.map_eq_some_iff.mp h
  simp only [Prod.mk.injEq, decide_eq_true_eq] at heq
  obtain ⟨⟨hpool, hsize⟩, ⟨hfetching, hinput⟩, hreap, hbusy⟩ := heq
  have hs : frameFlow.Reachable s := StepSystem.Reachable.run (.init rfl) hrun
  have hin : s.InPool ⟨0, 0⟩ := ⟨hpool, by rw [hsize]; decide⟩
  have hsees : s.Sees (completedFrame fun i => s.lock ⟨0, i⟩) 0 :=
    ⟨hpool, hinput, fun _ => rfl, hfetching, hreap⟩
  have hframe := (hclaim s _ hs hin hbusy).2 _ 0 .refused (Assembler.blankPacket 1 0) hsees trivial
  have hfield : (completedFrame fun i => s.lock ⟨0, i⟩).packetsPerField = 360 := rfl
  rw [Assembler.processPacket_blankPacket _ _ (by decide) (by decide) (by rw [hfield]; decide)
    (by rw [hfield]; decide)] at hframe
  have hflags :=
    (completedFrame fun i => s.lock ⟨0, i⟩).receive_first_flags (show 1 < 256 by decide)
  rw [Assembler.inputFrame, ((Assembler.SameOthers.refl _).receive _).usbInputFrame] at hflags
  have hcomplete : frameComplete = frameInProgress :=
    (congrArg UsbTvFrame.flags hframe).symm.trans hflags
  exact absurd hcomplete (by decide)

end FrameFlow

end UsbTv
