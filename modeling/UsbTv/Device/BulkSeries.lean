import UsbTv.Lib.StepSystem
import UsbTv.Device.BulkUrbs
import UsbTv.Device.Reap

set_option relaxedAutoImplicit false
set_option autoImplicit false

/-!
# The completions of a continuous bulk transfer

The sub-URBs of a continuous URB are reaped in the order of their submission, with any status and
any length, and the callback may resubmit the whole series. `reapUrbAsync` adds their lengths up
in the main URB, and hands that to the callback at the last sub-URB and at every one that failed.

The sub-URBs come back one after the other, so that reap number `p` is of sub-URB `p % k` of
submission `p / k`, where `k` is the number of sub-URBs. usbfs accepts all submissions.

## Main definitions

* `UsbTv.Series` — a main URB and its sub-URBs.
* `UsbTv.BulkSeries.Represents` — a memory holds the bulk URBs of a device.
* `UsbTv.BulkSeries`, `UsbTv.BulkSeries.reaping` — the series while it is reaped, and its runs.
* `UsbTv.BulkSeries.OneCompletion` — what is asked of the completions.
* `UsbTv.BulkSeries.OneEnd` — no sub-URB ends its submission but one.

## Main results

* `UsbTv.BulkSeries.series_of_submitBulkUrb` — what `submitBulkUrb` submits is a series.
* `UsbTv.BulkSeries.dispatch_part` — what reaping a sub-URB does.
* `UsbTv.BulkSeries.oneCompletion_iff` — the two come to the same.
-/

namespace UsbTv

/-- The URBs of a continuous transfer, as `submitBulkUrb` builds them. -/
structure Series (m : UrbMemory) (main : ℕ) (subUrbs : List ℕ) : Prop where
  two_le : 2 ≤ subUrbs.length
  not_mem : main ∉ subUrbs
  type : (m.urbs main).type ≠ .iso
  flags : (m.urbs main).flags &&& usbdevfsUrbBulkContinuation > 0
  context : (m.urbs main).usercontext.subUrbs = subUrbs
  part : ∀ (i u : ℕ), subUrbs[i]? = some u → (m.urbs u).usercontext.contBulkUrb = some main ∧
    ((m.urbs u).usercontext.isLast = true ↔ i + 1 = subUrbs.length)

/-! ## The URBs of the series -/

/-- The URBs have the same kind in both memories. -/
def SameKind (m m' : UrbMemory) : Prop :=
  ∀ u, (m'.urbs u).type = (m.urbs u).type ∧ (m'.urbs u).flags = (m.urbs u).flags ∧
    (m'.urbs u).usercontext = (m.urbs u).usercontext

namespace SameKind

lemma refl (m : UrbMemory) : SameKind m m := fun _ => ⟨rfl, rfl, rfl⟩

lemma trans {m m' m'' : UrbMemory} (h : SameKind m m') (h' : SameKind m' m'') : SameKind m m'' :=
  fun u => ⟨(h' u).1.trans (h u).1, (h' u).2.1.trans (h u).2.1, (h' u).2.2.trans (h u).2.2⟩

/-- A change that keeps the kind of a URB. -/
lemma modify (m : UrbMemory) (urb : ℕ) {f : UsbdevfsUrb → UsbdevfsUrb}
    (hf : ∀ u, (f u).type = u.type ∧ (f u).flags = u.flags ∧ (f u).usercontext = u.usercontext) :
    SameKind m (m.modify urb f) := by
  intro u
  by_cases hu : u = urb
  · subst hu
    rw [UrbMemory.modify_urbs_self]
    exact hf _
  · rw [UrbMemory.modify_urbs_of_ne _ hu]
    exact ⟨rfl, rfl, rfl⟩

lemma reset (m : UrbMemory) (urb : ℕ) : SameKind m (m.modify urb .reset) :=
  modify m urb fun _ => ⟨rfl, rfl, rfl⟩

lemma submitUrb (m : UrbMemory) (answer : ℕ → ℤ) (urb : ℕ) :
    SameKind m (m.submitUrb answer urb).2 :=
  fun u => by rw [UrbMemory.submitUrb_urbs]; exact ⟨rfl, rfl, rfl⟩

lemma resubmitSubUrbs (answer : ℕ → ℤ) (urbs : List ℕ) (m : UrbMemory) :
    SameKind m (UrbMemory.resubmitSubUrbs answer urbs m).2 := by
  induction urbs generalizing m with
  | nil => exact refl m
  | cons urb urbs ih => exact ((reset m urb).trans (submitUrb _ answer urb)).trans (ih _)

end SameKind

variable {m m' : UrbMemory} {main : ℕ} {subUrbs : List ℕ}

/-- The kind of its URBs makes a series. -/
lemma Series.of_sameKind (h : Series m main subUrbs) (hsame : SameKind m m') :
    Series m' main subUrbs where
  two_le := h.two_le
  not_mem := h.not_mem
  type := by rw [(hsame main).1]; exact h.type
  flags := by rw [(hsame main).2.1]; exact h.flags
  context := by rw [(hsame main).2.2]; exact h.context
  part i u hu := by rw [(hsame u).2.2]; exact h.part i u hu

/-- Resubmitting the sub-URBs leaves the main URB alone. -/
lemma resubmitSubUrbs_main (answer : ℕ → ℤ) {urbs : List ℕ} (hmain : main ∉ urbs)
    (m : UrbMemory) : (UrbMemory.resubmitSubUrbs answer urbs m).2.urbs main = m.urbs main := by
  induction urbs generalizing m with
  | nil => rfl
  | cons urb urbs ih =>
    rw [List.mem_cons, not_or] at hmain
    simp only [UrbMemory.resubmitSubUrbs]
    rw [ih hmain.2, UrbMemory.submitUrb_urbs, UrbMemory.modify_urbs_of_ne _ hmain.1]

/-- **Resubmitting the series** resets the main URB. -/
lemma resubmitUrb_series (h : Series m main subUrbs) (answer : ℕ → ℤ) :
    Series (m.resubmitUrb answer (some main)).2 main subUrbs ∧
      ((m.resubmitUrb answer (some main)).2.urbs main).actualLength = 0 := by
  have hreset := h.of_sameKind (SameKind.reset m main)
  have heq : m.resubmitUrb answer (some main) =
      UrbMemory.resubmitSubUrbs answer subUrbs (m.modify main .reset) := by
    simp only [UrbMemory.resubmitUrb]
    rw [if_neg hreset.type, if_pos hreset.flags, hreset.context]
  rw [heq]
  refine ⟨hreset.of_sameKind (.resubmitSubUrbs answer subUrbs _), ?_⟩
  rw [resubmitSubUrbs_main answer h.not_mem, UrbMemory.modify_urbs_self]
  rfl

/-- What the callback finds in the main URB. -/
structure Completion where
  actualLength : ℤ
  status : ℤ
  deriving DecidableEq, Repr

/-- A sub-URB that was reaped, and the call of the callback that it has led to. -/
structure Reaped where
  submission : ℕ
  index : ℕ
  status : ℤ
  actualLength : ℤ
  call : Option Completion
  deriving DecidableEq, Repr

/-- The sub-URB was the last one of its submission, or it has failed. -/
def Reaped.Ends (k : ℕ) (r : Reaped) : Prop := r.index + 1 = k ∨ r.status ≠ 0

instance (k : ℕ) (r : Reaped) : Decidable (r.Ends k) := inferInstanceAs (Decidable (_ ∨ _))

/-- The URBs, the number of submissions of the series, and the sub-URBs reaped so far. -/
structure BulkSeries where
  memory : UrbMemory
  submissions : ℕ
  reaped : List Reaped

/-- What can happen to the series: a sub-URB is reaped, and the callback resubmits the series if it
is called; or the series is resubmitted when all sub-URBs are back. -/
inductive SeriesEvent
  | reap (status actualLength errorCount : ℤ) (resubmit : Bool)
  | resubmit
  deriving DecidableEq, Repr

/-- The callback takes note of what it finds in the main URB, and may resubmit it. -/
def recorder (resubmit : Bool) : UrbCallback (Option Completion) where
  run _ m urb := (some ⟨(m.urbs urb).actualLength, (m.urbs urb).status⟩,
    if resubmit then (m.resubmitUrb (fun _ => 0) (some urb)).2 else m)
  urbThreadRunning _ m urb := by
    dsimp only
    split_ifs
    · exact m.resubmitUrb_urbThreadRunning _ _
    · rfl

namespace BulkSeries

/-- What the kernel writes into a URB that is complete. -/
def complete (m : UrbMemory) (urb : ℕ) (status actualLength errorCount : ℤ) : UrbMemory :=
  m.modify urb fun u =>
    { u with status := status, actualLength := actualLength, errorCount := errorCount }

/-- The runs of a series. -/
def reaping (main : ℕ) (subUrbs : List ℕ) : StepSystem BulkSeries SeriesEvent where
  Init s := Series s.memory main subUrbs ∧ (s.memory.urbs main).actualLength = 0 ∧
    s.submissions = 1 ∧ s.reaped = []
  step s
    | .reap status actualLength errorCount resubmit =>
      if s.reaped.length < s.submissions * subUrbs.length then
        (subUrbs[s.reaped.length % subUrbs.length]?).map fun urb =>
          let m := complete s.memory urb status actualLength errorCount
          let (call, m) := ReapLoop.dispatch (recorder resubmit) none m urb
          { memory := m
            submissions :=
              if call.isSome = true ∧ resubmit = true then s.submissions + 1 else s.submissions
            reaped := s.reaped ++
              [⟨s.reaped.length / subUrbs.length, s.reaped.length % subUrbs.length, status,
                actualLength, call⟩] }
      else none
    | .resubmit =>
      if s.reaped.length = s.submissions * subUrbs.length then
        some { s with
          memory := (s.memory.resubmitUrb (fun _ => 0) (some main)).2
          submissions := s.submissions + 1 }
      else none

/-! ## The URBs of `submitBulkUrb` -/

/-- The context as the reap thread reads it. -/
def contextOf : BulkContext → UrbContext
  | .urb contBulkUrb _ isLast => ⟨contBulkUrb, isLast, []⟩
  | .continuous subUrbCount subUrbs => ⟨none, false, (List.range subUrbCount).map subUrbs⟩

/-- The memory holds the bulk URBs that the device has allocated. -/
structure Represents (m : UrbMemory) (d : BulkDevice) : Prop where
  type : ∀ u < d.allocated, (m.urbs u).type = .bulk
  flags : ∀ u < d.allocated, (m.urbs u).flags = (d.urbs u).flags
  usercontext : ∀ u < d.allocated, (m.urbs u).usercontext = contextOf (d.urbs u).usercontext

/-- The sub-URBs are the URBs that are allocated after the main URB. -/
def subUrbsOf (d : BulkDevice) (bufferSize : ℕ) : List ℕ :=
  (List.range (chunkCount bufferSize)).map fun i => d.allocated + 1 + i

/-- If `submitBulkUrb` returns true, the URBs are as they were built. -/
lemma submitBulkUrb_built {d d' : BulkDevice} {answer : ℕ → ℤ} {fresh : ℕ → ℕ → ℕ}
    {endpoint bufferSize : ℕ}
    (hpath : ¬ (bufferSize ≤ maxUsbfsBulkSize ∨ d.scatterGatherEnabled = true))
    (h : d.submitBulkUrb answer fresh endpoint bufferSize = some (true, d')) :
    chunkCount bufferSize < 2 ^ 8 ∧
      ∃ d₁ d₂ requests visits, d' = d₂.addToPool d.allocated ∧
        BulkDevice.Built fresh d d₁ endpoint bufferSize (chunkCount bufferSize) ∧
        BulkDevice.Touched d₁ d₂ requests [] visits := by
  have hcount : chunkCount bufferSize < 2 ^ 8 := by
    by_contra hlong
    rw [BulkDevice.submitBulkUrb, if_neg hpath,
      BulkDevice.buildContinuous_eq_none d fresh endpoint (Nat.le_of_not_lt hlong)] at h
    cases h
  obtain ⟨d₁, hd₁, hbuilt⟩ := BulkDevice.buildContinuous_built d fresh endpoint hcount
  have hctx := hbuilt.usercontext hcount
  rw [BulkDevice.submitBulkUrb_of_built hpath hd₁] at h
  obtain ⟨r, hr, htouched, -⟩ := BulkDevice.submitSubUrbs_spec answer hctx hcount
  rw [BulkDevice.submitBuilt, hr, Option.bind_some] at h
  cases hok : r.1 with
  | true =>
    simp only [hok, if_true, Option.some_inj, Prod.mk.injEq, true_and] at h
    exact ⟨hcount, d₁, r.2, _, _, h.symm, hbuilt, htouched⟩
  | false =>
    -- a sub-URB that is refused makes the call return false
    simp only [hok, Bool.false_eq_true, if_false] at h
    obtain ⟨x, -, hx⟩ := Option.bind_eq_some_iff.mp h
    obtain ⟨y, -, hy⟩ := Option.map_eq_some_iff.mp hx
    cases hy

/-- **What `submitBulkUrb` submits is a series**, in every memory that holds its URBs. -/
theorem series_of_submitBulkUrb {d d' : BulkDevice} {answer : ℕ → ℤ} {fresh : ℕ → ℕ → ℕ}
    {endpoint bufferSize : ℕ} {m : UrbMemory}
    (hpath : ¬ (bufferSize ≤ maxUsbfsBulkSize ∨ d.scatterGatherEnabled = true))
    (h : d.submitBulkUrb answer fresh endpoint bufferSize = some (true, d'))
    (hm : Represents m d') : Series m d.allocated (subUrbsOf d bufferSize) := by
  obtain ⟨hcount, d₁, d₂, requests, visits, rfl, hbuilt, htouched⟩ := submitBulkUrb_built hpath h
  have htwo := BulkDevice.two_le_chunkCount (Nat.lt_of_not_le (not_or.mp hpath).1)
  have hallocated : (d₂.addToPool d.allocated).allocated =
      d.allocated + 1 + chunkCount bufferSize := htouched.allocated.trans hbuilt.allocated
  have hmain : d.allocated < (d₂.addToPool d.allocated).allocated := by omega
  have hflags : (m.urbs d.allocated).flags = usbdevfsUrbBulkContinuation := by
    rw [hm.flags _ hmain]
    exact (htouched.flags _).trans (by rw [hbuilt.main])
  have hcontext : (m.urbs d.allocated).usercontext = contextOf (.continuous
      (chunkCount bufferSize)
      (BulkDevice.builtSubUrbs fresh d.allocated (chunkCount bufferSize))) := by
    rw [hm.usercontext _ hmain]
    exact congrArg contextOf ((htouched.usercontext _).trans (hbuilt.usercontext hcount))
  refine ⟨by simpa [subUrbsOf] using htwo, ?_, by rw [hm.type _ hmain]; decide,
    by rw [hflags]; decide, ?_, fun i u hu => ?_⟩
  · simp only [subUrbsOf, List.mem_map, not_exists, not_and]
    intro i _
    omega
  · rw [hcontext]
    apply List.map_congr_left
    intro i hi
    exact if_pos (List.mem_range.mp hi)
  · rw [subUrbsOf, List.getElem?_map] at hu
    obtain ⟨j, hj, rfl⟩ := Option.map_eq_some_iff.mp hu
    obtain ⟨hlt, hij⟩ := List.getElem?_eq_some_iff.mp hj
    rw [List.length_range] at hlt
    obtain rfl : i = j := by rw [← hij, List.getElem_range]
    have hsub : (m.urbs (d.allocated + 1 + i)).usercontext = contextOf
        (BulkDevice.subUrb endpoint bufferSize d.allocated ⟨d.allocated, 0⟩ i).usercontext := by
      rw [hm.usercontext _ (by omega)]
      exact congrArg contextOf ((htouched.usercontext _).trans (by rw [hbuilt.subUrb i hlt]))
    rw [hsub]
    refine ⟨rfl, ?_⟩
    simp only [BulkDevice.subUrb, contextOf, BulkDevice.urbCount_eq_chunkCount, subUrbsOf,
      List.length_map, List.length_range]
    split_ifs with hzero
    · simp only [false_iff]
      omega
    · rw [decide_eq_true_iff]
      omega

/-! ## What is asked of the completions -/

/-- What was reaped of a submission. -/
def reapedOf (reaped : List Reaped) (n : ℕ) : List Reaped :=
  reaped.filter fun r => r.submission = n

/-- The first status that is not 0, or 0. -/
def firstError (statuses : List ℤ) : ℤ := (statuses.find? (· ≠ 0)).getD 0

/-- The calls of a submission find in the main URB what was reaped of it up to the call. -/
def CallsRight (reaped : List Reaped) : Prop :=
  ∀ before r after, reaped = before ++ r :: after → ∀ c, r.call = some c →
    c.actualLength = ((before ++ [r]).map (·.actualLength)).sum ∧
      c.status = firstError ((before ++ [r]).map (·.status))

/-- What is asked of the completions: no submission has two, one whose last sub-URB is back has
one, and the callback finds the right length and status in the main URB. -/
structure OneCompletion (subUrbs : List ℕ) (s : BulkSeries) : Prop where
  le : ∀ n, (reapedOf s.reaped n).countP (·.call.isSome) ≤ 1
  once : ∀ n, (∃ r ∈ reapedOf s.reaped n, r.index + 1 = subUrbs.length) →
    (reapedOf s.reaped n).countP (·.call.isSome) = 1
  right : ∀ n, CallsRight (reapedOf s.reaped n)

/-- In no submission do two of the reaped sub-URBs end it. -/
def OneEnd (subUrbs : List ℕ) (s : BulkSeries) : Prop :=
  ∀ n, (reapedOf s.reaped n).countP (fun r => r.Ends subUrbs.length) ≤ 1

/-! ## Reaping -/

variable {m : UrbMemory} {main : ℕ} {subUrbs : List ℕ}

/-- What reaping a sub-URB leaves behind. -/
structure Dispatched (m : UrbMemory) (main : ℕ) (subUrbs : List ℕ) (r : Reaped) (resubmit : Bool)
    (result : Option Completion × UrbMemory) : Prop where
  series : Series result.2 main subUrbs
  call : result.1 = if r.Ends subUrbs.length then
      some ⟨(m.urbs main).actualLength + r.actualLength, r.status⟩ else none
  actualLength : (result.2.urbs main).actualLength =
    if r.Ends subUrbs.length ∧ resubmit = true then 0
    else (m.urbs main).actualLength + r.actualLength

/-- **Reaping a sub-URB** adds its length to that of the main URB. If it is the last one or has
failed, the callback finds the sum there, and resets it if it resubmits the series. -/
lemma dispatch_part (h : Series m main subUrbs) {r : Reaped} {urb : ℕ}
    (hurb : subUrbs[r.index]? = some urb) (errorCount : ℤ) (resubmit : Bool) :
    Dispatched m main subUrbs r resubmit
      (ReapLoop.dispatch (recorder resubmit) none
        (complete m urb r.status r.actualLength errorCount) urb) := by
  have hne : main ≠ urb := fun heq => h.not_mem (heq ▸ List.mem_of_getElem? hurb)
  have hcomplete : Series (complete m urb r.status r.actualLength errorCount) main subUrbs :=
    h.of_sameKind (.modify m urb fun _ => ⟨rfl, rfl, rfl⟩)
  have hmain : (complete m urb r.status r.actualLength errorCount).urbs main = m.urbs main :=
    UrbMemory.modify_urbs_of_ne _ hne _
  have hpart : (complete m urb r.status r.actualLength errorCount).urbs urb =
      { m.urbs urb with
        status := r.status, actualLength := r.actualLength, errorCount := errorCount } :=
    UrbMemory.modify_urbs_self ..
  obtain ⟨hcont, hlast⟩ := hcomplete.part r.index urb hurb
  generalize hm₁ : complete m urb r.status r.actualLength errorCount = m₁ at *
  unfold ReapLoop.dispatch
  dsimp only
  rw [hcont]
  dsimp only
  have hstatus : (m₁.urbs urb).status = r.status := by rw [hpart]
  have hlength : (m₁.urbs urb).actualLength = r.actualLength := by rw [hpart]
  have hends : (m₁.urbs urb).usercontext.isLast = true ∨ (m₁.urbs urb).status ≠ 0 ↔
      r.Ends subUrbs.length := or_congr hlast (by rw [hstatus])
  rw [if_congr hends rfl rfl]
  by_cases hr : r.Ends subUrbs.length
  · rw [if_pos hr]
    have hadded : Series (m₁.modify main fun u =>
        { u with
          actualLength := u.actualLength + (m₁.urbs urb).actualLength
          status := (m₁.urbs urb).status
          errorCount := (m₁.urbs urb).errorCount }) main subUrbs :=
      hcomplete.of_sameKind (.modify m₁ main fun _ => ⟨rfl, rfl, rfl⟩)
    refine ⟨?_, ?_, ?_⟩
    · simp only [recorder]
      split_ifs
      · exact (resubmitUrb_series hadded _).1
      · exact hadded
    · simp only [recorder, UrbMemory.modify_urbs_self, hmain, hlength, hstatus, if_pos hr]
    · simp only [recorder, hr, true_and]
      split_ifs
      · exact (resubmitUrb_series hadded _).2
      · simp only [UrbMemory.modify_urbs_self, hmain, hlength]
  · rw [if_neg hr]
    have hadded : SameKind m₁ (m₁.modify main fun u =>
        { u with actualLength := u.actualLength + (m₁.urbs urb).actualLength }) :=
      .modify m₁ main fun _ => ⟨rfl, rfl, rfl⟩
    refine ⟨hcomplete.of_sameKind hadded, (if_neg hr).symm, ?_⟩
    rw [if_neg fun h => hr h.1, UrbMemory.modify_urbs_self, hmain, hlength]

/-! ## The history -/

lemma reapedOf_append (reaped : List Reaped) (r : Reaped) (n : ℕ) :
    reapedOf (reaped ++ [r]) n =
      if r.submission = n then reapedOf reaped n ++ [r] else reapedOf reaped n := by
  unfold reapedOf
  rw [List.filter_append, List.filter_singleton]
  by_cases h : r.submission = n
  · simp [h]
  · simp [h]

/-- Nothing ends a submission twice if nothing did so later. -/
lemma OneEnd.of_append {s s' : BulkSeries} {r : Reaped} (h : OneEnd subUrbs s')
    (hreaped : s'.reaped = s.reaped ++ [r]) : OneEnd subUrbs s := by
  intro n
  have hn := h n
  rw [hreaped, reapedOf_append] at hn
  split_ifs at hn
  · rw [List.countP_append] at hn
    exact (Nat.le_add_right _ _).trans hn
  · exact hn

/-- A sub-URB that ends its submission is the first to do so. -/
lemma OneEnd.forall_not_ends {s s' : BulkSeries} {r : Reaped} (h : OneEnd subUrbs s')
    (hreaped : s'.reaped = s.reaped ++ [r]) (hr : r.Ends subUrbs.length) :
    ∀ r' ∈ reapedOf s.reaped r.submission, ¬ r'.Ends subUrbs.length := by
  have hn := h r.submission
  rw [hreaped, reapedOf_append, if_pos rfl, List.countP_append, List.countP_singleton,
    if_pos (decide_eq_true hr)] at hn
  have hzero : (reapedOf s.reaped r.submission).countP
      (fun r => decide (r.Ends subUrbs.length)) = 0 := by omega
  rw [List.countP_eq_zero] at hzero
  intro r' hr'
  simpa using hzero r' hr'

/-- After statuses that are 0, the first error is the next status. -/
lemma firstError_append {statuses : List ℤ} (h : ∀ x ∈ statuses, x = 0) (status : ℤ) :
    firstError (statuses ++ [status]) = status := by
  have hnone : statuses.find? (fun x => decide (x ≠ 0)) = none := by
    rw [List.find?_eq_none]
    intro x hx
    simp [h x hx]
  unfold firstError
  rw [List.find?_append, hnone, Option.none_or, List.find?_singleton]
  by_cases hstatus : status = 0
  · simp [hstatus]
  · simp [hstatus]

/-- One more sub-URB is reaped, with a call that is right or with none. -/
lemma CallsRight.append {reaped : List Reaped} {r : Reaped} (h : CallsRight reaped)
    (hr : ∀ c, r.call = some c →
      c.actualLength = ((reaped ++ [r]).map (·.actualLength)).sum ∧
        c.status = firstError ((reaped ++ [r]).map (·.status))) :
    CallsRight (reaped ++ [r]) := by
  intro before r' after heq c hc
  rcases after.eq_nil_or_concat with rfl | ⟨after, x, rfl⟩
  · obtain ⟨rfl, hlast⟩ := List.append_inj' heq rfl
    obtain rfl : r = r' := by simpa using hlast
    exact hr c hc
  · rw [List.concat_eq_append, ← List.cons_append, ← List.append_assoc] at heq
    obtain ⟨rfl, -⟩ := List.append_inj' heq rfl
    exact h before r' after rfl c hc

/-! ## The invariant of a run -/

/-- What holds of a series in every state. The last two parts are about runs in which no submission
is ended twice. -/
structure Coherent (main : ℕ) (subUrbs : List ℕ) (s : BulkSeries) : Prop where
  series : Series s.memory main subUrbs
  length_le : s.reaped.length ≤ s.submissions * subUrbs.length
  position : ∀ r ∈ s.reaped, r.submission * subUrbs.length + r.index < s.reaped.length
  call : ∀ r ∈ s.reaped, (r.call.isSome = true ↔ r.Ends subUrbs.length)
  /-- While a submission is not ended, the main URB has what was reaped of it, and there is no
  other. -/
  current : OneEnd subUrbs s → s.reaped.length < s.submissions * subUrbs.length →
    (∀ r ∈ reapedOf s.reaped (s.reaped.length / subUrbs.length), ¬ r.Ends subUrbs.length) →
    s.submissions = s.reaped.length / subUrbs.length + 1 ∧
      (s.memory.urbs main).actualLength =
        ((reapedOf s.reaped (s.reaped.length / subUrbs.length)).map (·.actualLength)).sum
  right : OneEnd subUrbs s → ∀ n, CallsRight (reapedOf s.reaped n)

/-- Nothing was reaped yet of the submissions to come. -/
lemma Coherent.reapedOf_eq_nil {s : BulkSeries} (h : Coherent main subUrbs s) {n : ℕ}
    (hn : s.reaped.length ≤ n * subUrbs.length) : reapedOf s.reaped n = [] := by
  unfold reapedOf
  rw [List.filter_eq_nil_iff]
  intro r hr heq
  have hlt := h.position r hr
  rw [of_decide_eq_true heq] at hlt
  omega

/-- What a step that reaps a sub-URB does. -/
structure ReapStep (main : ℕ) (subUrbs : List ℕ) (s s' : BulkSeries) (r : Reaped)
    (resubmit : Bool) : Prop where
  lt : s.reaped.length < s.submissions * subUrbs.length
  submission : r.submission = s.reaped.length / subUrbs.length
  index : r.index = s.reaped.length % subUrbs.length
  reaped : s'.reaped = s.reaped ++ [r]
  submissions : s'.submissions =
    if r.Ends subUrbs.length ∧ resubmit = true then s.submissions + 1 else s.submissions
  series : Series s'.memory main subUrbs
  call : r.call = if r.Ends subUrbs.length then
      some ⟨(s.memory.urbs main).actualLength + r.actualLength, r.status⟩ else none
  actualLength : (s'.memory.urbs main).actualLength =
    if r.Ends subUrbs.length ∧ resubmit = true then 0
    else (s.memory.urbs main).actualLength + r.actualLength

/-- **A sub-URB is reaped**. -/
lemma reaping_reap {s s' : BulkSeries} {status actualLength errorCount : ℤ} {resubmit : Bool}
    (hs : Series s.memory main subUrbs)
    (h : (reaping main subUrbs).step s (.reap status actualLength errorCount resubmit) = some s') :
    ∃ r, ReapStep main subUrbs s s' r resubmit := by
  unfold reaping at h
  dsimp only at h
  split_ifs at h with hlt
  obtain ⟨urb, hurb, rfl⟩ := Option.map_eq_some_iff.mp h
  have hd := dispatch_part (r := ⟨s.reaped.length / subUrbs.length,
    s.reaped.length % subUrbs.length, status, actualLength, none⟩) hs hurb errorCount resubmit
  have hends : ∀ call, Reaped.Ends subUrbs.length ⟨s.reaped.length / subUrbs.length,
      s.reaped.length % subUrbs.length, status, actualLength, call⟩ ↔
      Reaped.Ends subUrbs.length ⟨s.reaped.length / subUrbs.length,
        s.reaped.length % subUrbs.length, status, actualLength, none⟩ := fun _ => Iff.rfl
  refine ⟨_, hlt, rfl, rfl, rfl, ?_, hd.series, hd.call, hd.actualLength⟩
  refine if_congr (and_congr_left fun _ => ?_) rfl rfl
  rw [hends, hd.call]
  split_ifs with hr
  · exact iff_of_true rfl hr
  · exact iff_of_false (by simp) hr

section Preservation

variable {s s' : BulkSeries} {r : Reaped} {resubmit : Bool}

/-- The call that a sub-URB leads to is right, if it is the first to end its submission. -/
lemma Coherent.call_right (h : Coherent main subUrbs s)
    (hstep : ReapStep main subUrbs s s' r resubmit) (hone : OneEnd subUrbs s') {c : Completion}
    (hc : r.call = some c) :
    c.actualLength = ((reapedOf s.reaped r.submission ++ [r]).map (·.actualLength)).sum ∧
      c.status = firstError ((reapedOf s.reaped r.submission ++ [r]).map (·.status)) := by
  have hends : r.Ends subUrbs.length := by
    by_contra hnot
    rw [hstep.call, if_neg hnot] at hc
    cases hc
  have hfirst := hone.forall_not_ends hstep.reaped hends
  have hcurrent := h.current (hone.of_append hstep.reaped) hstep.lt (hstep.submission ▸ hfirst)
  rw [hstep.call, if_pos hends, Option.some_inj] at hc
  subst hc
  constructor
  · rw [hcurrent.2, hstep.submission, List.map_append, List.sum_append]
    simp
  · have hzero : ∀ x ∈ (reapedOf s.reaped r.submission).map (·.status), x = 0 := by
      intro x hx
      obtain ⟨r', hr', rfl⟩ := List.mem_map.mp hx
      exact not_not.mp (not_or.mp (hfirst r' hr')).2
    rw [List.map_append]
    exact (firstError_append hzero r.status).symm

/-- The main URB has what was reaped of the submission that is not ended yet. -/
lemma Coherent.current_of_reap (h : Coherent main subUrbs s)
    (hstep : ReapStep main subUrbs s s' r resubmit) (hone : OneEnd subUrbs s')
    (hlt : s'.reaped.length < s'.submissions * subUrbs.length)
    (hnot : ∀ r ∈ reapedOf s'.reaped (s'.reaped.length / subUrbs.length),
      ¬ r.Ends subUrbs.length) :
    s'.submissions = s'.reaped.length / subUrbs.length + 1 ∧
      (s'.memory.urbs main).actualLength =
        ((reapedOf s'.reaped (s'.reaped.length / subUrbs.length)).map (·.actualLength)).sum := by
  have hone' := hone.of_append hstep.reaped
  have htwo := h.series.two_le
  have hdiv := Nat.div_add_mod s.reaped.length subUrbs.length
  have hmod := Nat.mod_lt s.reaped.length (show 0 < subUrbs.length by omega)
  have hlength : s'.reaped.length = s.reaped.length + 1 := by simp [hstep.reaped]
  rw [← hstep.submission] at hdiv
  rw [← hstep.index] at hdiv hmod
  have hcurrent := h.current hone' hstep.lt
  rw [← hstep.submission] at hcurrent
  rcases (Nat.succ_le_of_lt hmod).lt_or_eq with hinner | hlast
  · -- the next sub-URB is of the same submission
    have hnext : s'.reaped.length / subUrbs.length = r.submission := by
      rw [hlength, ← hdiv, Nat.add_assoc, Nat.mul_add_div (by omega),
        Nat.div_eq_of_lt hinner, Nat.add_zero]
    rw [hnext, hstep.reaped, reapedOf_append, if_pos rfl] at hnot ⊢
    have hr : ¬ r.Ends subUrbs.length := hnot r (by simp)
    obtain ⟨hsub, hactual⟩ := hcurrent fun r' hr' => hnot r' (List.mem_append_left _ hr')
    rw [hstep.submissions, if_neg fun h => hr h.1, hstep.actualLength, if_neg fun h => hr h.1]
    exact ⟨hsub, by rw [hactual]; simp⟩
  · -- the last sub-URB is back, and there is a next one only if the series was resubmitted
    have hr : r.Ends subUrbs.length := .inl hlast
    obtain ⟨hsub, -⟩ := hcurrent (hone.forall_not_ends hstep.reaped hr)
    have hend : s'.reaped.length = (r.submission + 1) * subUrbs.length := by
      rw [hlength, Nat.add_one_mul, Nat.mul_comm]
      omega
    have hresubmit : resubmit = true := by
      by_contra hfalse
      rw [hstep.submissions, if_neg fun h => hfalse h.2, hsub, ← hend] at hlt
      exact lt_irrefl _ hlt
    have hnext : s'.reaped.length / subUrbs.length = r.submission + 1 := by
      rw [hend, Nat.mul_div_cancel _ (by omega)]
    have hnil : reapedOf s.reaped (r.submission + 1) = [] := by
      apply h.reapedOf_eq_nil
      rw [← hend, hlength]
      exact Nat.le_succ _
    rw [hnext, hstep.reaped, reapedOf_append, if_neg (by omega), hnil, hstep.submissions,
      if_pos ⟨hr, hresubmit⟩, hstep.actualLength, if_pos ⟨hr, hresubmit⟩, hsub]
    exact ⟨rfl, rfl⟩

/-- Reaping a sub-URB keeps the series coherent. -/
lemma Coherent.of_reap (h : Coherent main subUrbs s)
    (hstep : ReapStep main subUrbs s s' r resubmit) : Coherent main subUrbs s' := by
  have hdiv := Nat.div_add_mod s.reaped.length subUrbs.length
  have hlength : s'.reaped.length = s.reaped.length + 1 := by simp [hstep.reaped]
  refine ⟨hstep.series, ?_, fun r' hr' => ?_, fun r' hr' => ?_,
    fun hone => h.current_of_reap hstep hone, fun hone n => ?_⟩
  · have hle : s.submissions ≤ s'.submissions := by
      rw [hstep.submissions]
      split_ifs <;> omega
    rw [hlength]
    exact (Nat.succ_le_of_lt hstep.lt).trans (Nat.mul_le_mul_right _ hle)
  · rw [hstep.reaped, List.mem_append, List.mem_singleton] at hr'
    rw [hlength]
    rcases hr' with hr' | rfl
    · exact (h.position r' hr').trans (Nat.lt_succ_self _)
    · rw [hstep.submission, hstep.index, Nat.mul_comm, hdiv]
      exact Nat.lt_succ_self _
  · rw [hstep.reaped, List.mem_append, List.mem_singleton] at hr'
    rcases hr' with hr' | rfl
    · exact h.call r' hr'
    · rw [hstep.call]
      split_ifs with hends
      · exact iff_of_true rfl hends
      · exact iff_of_false (by simp) hends
  · have hright := h.right (hone.of_append hstep.reaped)
    rw [hstep.reaped, reapedOf_append]
    split_ifs with hn
    · subst hn
      exact (hright _).append fun c hc => h.call_right hstep hone hc
    · exact hright n

/-- Resubmitting the series when all sub-URBs are back keeps it coherent. -/
lemma Coherent.of_resubmit (h : Coherent main subUrbs s)
    (hs' : (reaping main subUrbs).step s .resubmit = some s') : Coherent main subUrbs s' := by
  unfold reaping at hs'
  dsimp only at hs'
  split_ifs at hs' with hall
  obtain rfl := Option.some_inj.mp hs'
  have htwo := h.series.two_le
  have hnext : s.reaped.length / subUrbs.length = s.submissions := by
    rw [hall, Nat.mul_div_cancel _ (by omega)]
  obtain ⟨hseries, hzero⟩ := resubmitUrb_series h.series (fun _ => 0)
  refine ⟨hseries, ?_, h.position, h.call, fun _ _ _ => ?_, h.right⟩
  · rw [hall]
    exact Nat.mul_le_mul_right _ (Nat.le_succ _)
  · rw [hnext, h.reapedOf_eq_nil hall.le]
    exact ⟨rfl, hzero⟩

end Preservation

/-- **The series is coherent** in every state of a run. -/
lemma coherent {s : BulkSeries} (h : (reaping main subUrbs).Reachable s) :
    Coherent main subUrbs s := by
  refine StepSystem.ReachableUnder.invariant (fun s hs => ?_) (fun s e s' _ hcoh _ hstep => ?_) h
  · obtain ⟨hseries, hzero, hsub, hreaped⟩ := hs
    refine ⟨hseries, ?_, ?_, ?_, fun _ _ _ => ?_, fun _ n => ?_⟩
    · simp [hreaped]
    · simp [hreaped]
    · simp [hreaped]
    · simp [hreaped, hsub, hzero, reapedOf]
    · intro before r after heq
      simp [hreaped, reapedOf] at heq
  · cases e with
    | reap status actualLength errorCount resubmit =>
      obtain ⟨r, hr⟩ := reaping_reap hcoh.series hstep
      exact hcoh.of_reap hr
    | resubmit => exact hcoh.of_resubmit hstep

/-- Each sub-URB that ends its submission leads to a call. -/
lemma Coherent.countP_call {s : BulkSeries} (h : Coherent main subUrbs s) (n : ℕ) :
    (reapedOf s.reaped n).countP (·.call.isSome) =
      (reapedOf s.reaped n).countP fun r => r.Ends subUrbs.length := by
  apply List.countP_congr
  intro r hr
  rw [h.call r (List.mem_of_mem_filter hr), decide_eq_true_iff]

/-- **One completion per submission**: exactly if no submission has two sub-URBs that end it, that
is, none is reaped as failed before another one that has failed or is the last.

**Proof sketch.** Every sub-URB that is the last or has failed leads to a call. As long as no
submission has two of them, the series is resubmitted only when all of it is back, so that the main
URB has the sum of one submission, and all statuses before the call are 0. -/
theorem oneCompletion_iff {s : BulkSeries} (h : (reaping main subUrbs).Reachable s) :
    OneCompletion subUrbs s ↔ OneEnd subUrbs s := by
  have hcoh := coherent h
  constructor
  · intro hone n
    rw [← hcoh.countP_call]
    exact hone.le n
  · intro hone
    refine ⟨fun n => ?_, fun n ⟨r, hr, hlast⟩ => ?_, hcoh.right hone⟩
    · rw [hcoh.countP_call]
      exact hone n
    · rw [hcoh.countP_call]
      apply le_antisymm (hone n)
      rw [Nat.succ_le_iff, List.countP_pos_iff]
      exact ⟨r, hr, decide_eq_true (.inl hlast)⟩

/-- A URB of a series of two sub-URBs. -/
def pairUrb (flags : ℕ) (usercontext : UrbContext) : UsbdevfsUrb :=
  ⟨.bulk, 0x82, 0, flags, fun _ => 0, 16384, 0, 0, usercontext, [], by decide, by decide⟩

/-- A series of two sub-URBs that has just been submitted. -/
def pairSubmitted : BulkSeries where
  memory :=
    { device := AndroidUsbDevice.new
      urbs := fun u =>
        if u = 0 then pairUrb usbdevfsUrbBulkContinuation ⟨none, false, [1, 2]⟩
        else pairUrb usbdevfsUrbBulkContinuation ⟨some 0, u = 2, []⟩
      halts := [] }
  submissions := 1
  reaped := []

lemma pairSubmitted_init : (reaping 0 [1, 2]).Init pairSubmitted := by
  refine ⟨⟨by decide, by decide, by decide, by decide, rfl, fun i u hu => ?_⟩, rfl, rfl, rfl⟩
  match i with
  | 0 =>
    obtain rfl : 1 = u := by simpa using hu
    exact ⟨rfl, by decide⟩
  | 1 =>
    obtain rfl : 2 = u := by simpa using hu
    exact ⟨rfl, by decide⟩
  | i + 2 => simp at hu

/-- A series that has come back whole is resubmitted by its callback. Then its first sub-URB fails,
which is still one completion; and the second one comes back as cancelled, which is not. -/
theorem oneCompletion_iff_resubmitted :
    ∃ s s', (reaping 0 [1, 2]).run pairSubmitted
        [.reap 0 16384 0 false, .reap 0 100 0 true, .reap (-71) 512 0 false] = some s ∧
      s.submissions = 2 ∧
      s.reaped = [⟨0, 0, 0, 16384, none⟩, ⟨0, 1, 0, 100, some ⟨16484, 0⟩⟩,
        ⟨1, 0, -71, 512, some ⟨512, -71⟩⟩] ∧
      OneCompletion [1, 2] s ∧
      (reaping 0 [1, 2]).run s [.reap (-104) 0 0 false] = some s' ∧ ¬ OneCompletion [1, 2] s' := by
  obtain ⟨s, s', hs, hsubmissions, hreaped, hs', hreaped'⟩ :
      ∃ s s', (reaping 0 [1, 2]).run pairSubmitted
          [.reap 0 16384 0 false, .reap 0 100 0 true, .reap (-71) 512 0 false] = some s ∧
        s.submissions = 2 ∧
        s.reaped = [⟨0, 0, 0, 16384, none⟩, ⟨0, 1, 0, 100, some ⟨16484, 0⟩⟩,
          ⟨1, 0, -71, 512, some ⟨512, -71⟩⟩] ∧
        (reaping 0 [1, 2]).run s [.reap (-104) 0 0 false] = some s' ∧
        s'.reaped = [⟨0, 0, 0, 16384, none⟩, ⟨0, 1, 0, 100, some ⟨16484, 0⟩⟩,
          ⟨1, 0, -71, 512, some ⟨512, -71⟩⟩, ⟨1, 1, -104, 0, some ⟨512, -104⟩⟩] :=
    ⟨_, _, rfl, rfl, rfl, rfl, rfl⟩
  have hreach : (reaping 0 [1, 2]).Reachable s := .run (.init pairSubmitted_init) hs
  refine ⟨s, s', hs, hsubmissions, hreaped, (oneCompletion_iff hreach).mpr fun n => ?_, hs',
    fun hone => ?_⟩
  · rw [hreaped]
    match n with
    | 0 => decide
    | 1 => decide
    | n + 2 => simp [reapedOf]
  · have hle := (oneCompletion_iff (hreach.run hs')).mp hone 1
    rw [hreaped'] at hle
    exact absurd hle (by decide)

/-- The first of two sub-URBs fails, and the second comes back as cancelled: the callback is called
for both. -/
theorem not_oneCompletion_pair :
    ∃ s, (reaping 0 [1, 2]).Reachable s ∧ ¬ OneCompletion [1, 2] s := by
  obtain ⟨s, hs, hreaped⟩ : ∃ s, (reaping 0 [1, 2]).run pairSubmitted
      [.reap (-71) 0 0 false, .reap (-104) 0 0 false] = some s ∧
      s.reaped = [⟨0, 0, -71, 0, some ⟨0, -71⟩⟩, ⟨0, 1, -104, 0, some ⟨0, -104⟩⟩] :=
    ⟨_, rfl, rfl⟩
  refine ⟨s, StepSystem.Reachable.run (.init pairSubmitted_init) hs, fun h => ?_⟩
  have hle := h.le 0
  rw [hreaped] at hle
  exact absurd hle (by decide)

end BulkSeries

end UsbTv
