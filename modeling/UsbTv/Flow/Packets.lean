import UsbTv.Driver.Assembly
import UsbTv.Flow.Basic

set_option relaxedAutoImplicit false
set_option autoImplicit false

/-!
# Packets and the way of a frame

`processPacket` is one step of the packet side, and what other threads decide in the course of it
is an answer of the environment. Here the reap thread takes a step for each frame it tries. The two
fit together: what a packet does to the input frame and to the locks of the pool is what the
reap thread does in steps of its own, if the answer is what it finds.

## Main definitions

* `UsbTv.FrameFlow.Sees` — the packet side has the input frame and the locks of the pool.
* `UsbTv.FrameFlow.Answers` — an answer that the reap thread can find.

## Main results

* `UsbTv.FrameFlow.run_processPacket` — a packet is a run of the reap thread.
-/

namespace UsbTv

namespace Assembler

/-- The two states have the same input frame and the same locks. -/
structure SameLocks (a b : Assembler) : Prop where
  usbInputFrame : a.usbInputFrame = b.usbInputFrame
  lock : ∀ i, (a.frames i).lock = (b.frames i).lock

namespace SameLocks

variable {a b c : Assembler}

lemma refl (a : Assembler) : SameLocks a a := ⟨rfl, fun _ => rfl⟩

/-- The other members may change freely. -/
lemma of_frames_eq (h : SameLocks a b) (hinput : c.usbInputFrame = a.usbInputFrame)
    (hframes : c.frames = a.frames) : SameLocks c b :=
  ⟨hinput.trans h.usbInputFrame, fun i => by rw [hframes, h.lock i]⟩

/-- The input frame may change as long as its lock does not. -/
lemma setInputFrame (h : SameLocks a b) {f : UsbTvFrame} (hf : f.lock = a.inputFrame.lock) :
    SameLocks (a.setInputFrame f) b := by
  refine ⟨h.usbInputFrame, fun i => ?_⟩
  rw [← h.lock i]
  show (Function.update a.frames a.usbInputFrame f i).lock = _
  by_cases hi : i = a.usbInputFrame
  · rw [hi, Function.update_self, hf]
    rfl
  · rw [Function.update_of_ne hi]

lemma setFlags (h : SameLocks a b) (flags : ℕ) : SameLocks (a.setFlags flags) b :=
  h.setInputFrame rfl

lemma memcpy (h : SameLocks a b) (cs : List (Copy UInt8)) : SameLocks (a.memcpy cs) b :=
  h.setInputFrame rfl

/-- Receiving a packet leaves the locks alone. -/
lemma receive (h : SameLocks a b) (packet : Packet) : SameLocks (a.receive packet) b := by
  have hstart : ∀ frameId isOdd, SameLocks (a.startField frameId isOdd) b := by
    intro frameId isOdd
    unfold startField
    split_ifs
    · refine SameLocks.setFlags ?_ _
      exact h.of_frames_eq rfl rfl
    · refine SameLocks.setFlags ?_ _
      exact h.of_frames_eq rfl rfl
  unfold Assembler.receive
  split_ifs
  · exact ((hstart _ _).memcpy _).of_frames_eq rfl rfl
  · exact (h.memcpy _).of_frames_eq rfl rfl

/-- Flagging a frame leaves the locks alone. -/
lemma flagFinished (h : SameLocks a b) : SameLocks a.flagFinished b := by
  unfold Assembler.flagFinished
  split_ifs
  · exact (h.setFlags framePartial).of_frames_eq rfl rfl
  · exact h.setFlags _

end SameLocks

/-- **What a packet does to the locks** is nothing, or what handing a frame over does. -/
lemma processPacket_sameLocks (a : Assembler) (answer : ℕ → Answer) (packet : Packet) :
    SameLocks (a.processPacket answer packet) a ∨
      ∃ b, SameLocks b a ∧
        SameLocks (a.processPacket answer packet) (b.addCompleteFrameToQueue answer) := by
  have hreceive := (SameLocks.refl a).receive packet
  have hflag := hreceive.flagFinished
  rcases a.processPacket_cases answer packet with heq | heq | heq
  · rw [heq]
    exact .inl (.refl a)
  · rw [heq]
    exact .inl hreceive
  · rw [heq]
    obtain ⟨second, heq | heq⟩ :=
      (a.receive packet).checkFinishedFrame_cases answer (usbtvOdd packet.header)
    · rw [heq]
      exact .inl ⟨hflag.usbInputFrame, hflag.lock⟩
    · rw [heq]
      exact .inr ⟨_, hflag, ⟨rfl, fun _ => rfl⟩⟩

end Assembler

namespace FrameFlow

/-- The packet side of the reap thread, which is in `onUrbReceived`, has the input frame and the
locks of the pool. -/
structure Sees (s : FrameFlow) (a : Assembler) (pool : ℕ) : Prop where
  framePool : s.framePool = some pool
  usbInputFrame : s.usbInputFrame = .frame ⟨pool, a.usbInputFrame⟩
  lock : ∀ i, s.lock ⟨pool, i⟩ = (a.frames i).lock
  fetching : s.fetching = none
  callback : s.usb.reap.isCallback = true

/-- The answer is one that the reap thread can find: the first frame of the pool that is not locked,
while the stream is active, or the end of the stream. -/
def Answers (s : FrameFlow) (pool : ℕ) : Answer → Prop
  | .refused => True
  | .accepted next => s.streamActive = true ∧ s.framePoolSize < 2 ^ 8 ∧ next < s.framePoolSize ∧
      s.lock ⟨pool, next⟩ = false ∧ ∀ i < next, s.lock ⟨pool, i⟩ = true
  | .stopped => s.streamActive = false

/-- What has the same locks is seen as well. -/
lemma Sees.congr {s : FrameFlow} {a b : Assembler} {pool : ℕ} (h : s.Sees a pool)
    (hb : b.SameLocks a) : s.Sees b pool :=
  { h with
    usbInputFrame := by rw [hb.usbInputFrame]; exact h.usbInputFrame
    lock := fun i => (h.lock i).trans (hb.lock i).symm }

/-- The search of the reap thread goes from frame `i` to the first frame that is not locked. -/
lemma run_fetch {s : FrameFlow} {pool next : ℕ} (hpool : s.framePool = some pool)
    (hactive : s.streamActive = true) (hsize : s.framePoolSize < 2 ^ 8)
    (hnext : next < s.framePoolSize) (hunlocked : s.lock ⟨pool, next⟩ = false)
    (hlocked : ∀ i < next, s.lock ⟨pool, i⟩ = true) (k : ℕ) (hk : k ≤ next) :
    frameFlow.run { s with fetching := some (next - k) } (List.replicate (k + 1) .fetch) =
      some { s with
        lock := Function.update s.lock ⟨pool, next⟩ true
        usbInputFrame := .frame ⟨pool, next⟩
        fetching := none } := by
  induction k with
  | zero =>
    simp [StepSystem.run_cons, frameFlow, step, fetchStep, hpool, hactive, hunlocked]
  | succ k ih =>
    have hlock : s.lock ⟨pool, next - (k + 1)⟩ = true := hlocked _ (by omega)
    have hsucc : (next - (k + 1) + 1) % 2 ^ 8 = next - k := by omega
    have hfetch : FrameFlow.step { s with fetching := some (next - (k + 1)) } .fetch =
        some { s with fetching := some (next - k) } := by
      have hlt : ¬ next - k ≥ s.framePoolSize := by omega
      simp only [step, fetchStep, hpool, hactive, hlock, hsucc, hlt, if_true, if_false,
        Bool.true_eq_false]
    rw [List.replicate_succ, StepSystem.run_cons]
    show (FrameFlow.step _ .fetch).bind _ = _
    rw [hfetch]
    exact ih (by omega)

/-- **A packet is a run of the reap thread**: whatever a packet does to the input frame and to the
locks of the pool, the reap thread does in steps of its own. -/
theorem run_processPacket {s : FrameFlow} {a : Assembler} {pool : ℕ} (h : s.Sees a pool)
    {answer : Answer} (hanswer : s.Answers pool answer) (packet : Packet) :
    ∃ es s', (∀ e ∈ es, e = .fetch ∨ ∃ enqueued, e = .addCompleteFrameToQueue enqueued) ∧
      frameFlow.run s es = some s' ∧ s'.Sees (a.processPacket (fun _ => answer) packet) pool := by
  rcases a.processPacket_sameLocks (fun _ => answer) packet with hsame | ⟨b, hb, hsame⟩
  · exact ⟨[], s, by simp, rfl, h.congr hsame⟩
  have hs := h.congr hb
  cases answer with
  | refused =>
    refine ⟨[.addCompleteFrameToQueue false], s, by simp, ?_, hs.congr ?_⟩
    · simp [StepSystem.run_cons, frameFlow, step, addCompleteFrameToQueue, hs.usbInputFrame,
        hs.callback, hs.fetching]
    · refine ⟨hsame.usbInputFrame, fun i => (hsame.lock i).trans ?_⟩
      have hlocks := (Assembler.SameLocks.refl b).setFlags frameStart
      exact hlocks.lock i
  | accepted next =>
    obtain ⟨hactive, hsize, hnext, hunlocked, hlocked⟩ := hanswer
    let queued : FrameFlow := { s with
      frameProcessQueue := s.frameProcessQueue ++ [some ⟨pool, b.usbInputFrame⟩] }
    have hadd : s.step (.addCompleteFrameToQueue true) =
        some { queued with fetching := some (next - next) } := by
      simp [queued, step, addCompleteFrameToQueue, hs.usbInputFrame, hs.callback, hs.fetching]
    have hfetch := run_fetch (s := queued) hs.framePool hactive hsize hnext hunlocked hlocked next
      le_rfl
    refine ⟨.addCompleteFrameToQueue true :: List.replicate (next + 1) .fetch, { queued with
      lock := Function.update s.lock ⟨pool, next⟩ true
      usbInputFrame := .frame ⟨pool, next⟩
      fetching := none }, ?_, ?_, ⟨hs.framePool, ?_, ?_, rfl, hs.callback⟩⟩
    · intro e he
      rcases List.mem_cons.mp he with rfl | he
      · exact .inr ⟨true, rfl⟩
      · exact .inl (List.eq_of_mem_replicate he)
    · rw [StepSystem.run_cons]
      exact (congrArg (Option.bind · _) hadd).trans hfetch
    · rw [hsame.usbInputFrame]
      rfl
    · intro i
      rw [hsame.lock i]
      show Function.update s.lock ⟨pool, next⟩ true ⟨pool, i⟩ = (Function.update b.frames next
        { b.frames next with lock := true, flags := frameStart } i).lock
      by_cases hi : i = next
      · rw [hi, Function.update_self, Function.update_self]
      · rw [Function.update_of_ne hi, Function.update_of_ne (by simpa using hi), hs.lock i]
  | stopped =>
    refine ⟨[.addCompleteFrameToQueue true, .fetch], { s with
      frameProcessQueue := s.frameProcessQueue ++ [some ⟨pool, b.usbInputFrame⟩]
      usbInputFrame := .frame ⟨pool, 0⟩ }, by simp, ?_,
      ⟨hs.framePool, ?_, ?_, hs.fetching, hs.callback⟩⟩
    · have hactive : s.streamActive = false := hanswer
      simp [StepSystem.run_cons, frameFlow, step, addCompleteFrameToQueue, fetchStep,
        hs.usbInputFrame, hs.callback, hs.fetching, hs.framePool, hactive]
    · rw [hsame.usbInputFrame]
      rfl
    · exact fun i => (hs.lock i).trans (hsame.lock i).symm

end FrameFlow

end UsbTv
