import Rtl8723au.Library.GuardedRuns
import Rtl8723au.Xmit.SubmitCtx

/-! `dump_mgntframe_and_wait_ack` of `core/rtw_mlme_ext.c` beside the handler of the firmware's transmit reports. The
calls share one context, `ack_tx_ops`: it is set up again when the frame has been handed over already, its completion
is never reset, and a report does not say which frame it is for. -/
namespace Rtl8723au
set_option autoImplicit false

/-- `struct txrpt_ccx_8723a`. -/
structure TxrptCcx where
  intCcx : Bool
  pktOk : Bool

/-- `handle_txrpt_ccx_8723a`: the status for `rtw_ack_tx_done`. -/
def handleTxrptCcx8723a (rpt : TxrptCcx) : Option SctxStatus :=
  if rpt.intCcx then some (if rpt.pktOk then .DONE_SUCCESS else .DONE_CCX_PKT_FAIL) else none

/-- How far the call that holds `ack_tx_mutex` has come; `waiting` is inside of `wait_for_completion_timeout`, `woken`
behind it with the status still to be read. -/
inductive AckPhase
  | idle
  | locked
  | submitted (frame : ℕ)
  | waiting (frame : ℕ)
  | woken (frame : ℕ)
  | ended (frame : Option ℕ) (ret : Bool)
  deriving DecidableEq

/-- A report that `rtw_ack_tx_done` has found `ack_tx` set for, and whether `rtw_sctx_done_err` has written its status. -/
structure Handling where
  frame : ℕ
  ok : Bool
  written : Bool
  deriving DecidableEq

/-- The driver, the firmware and what has happened. The frames of the calls are numbered as they are handed over; the
firmware may report those from `next` on. -/
structure AckTx where
  ackTx : Bool := false
  ops : SubmitCtx := .rtwSctxInit
  phase : AckPhase := .idle
  submitted : ℕ := 0
  next : ℕ := 0
  handling : Option Handling := none
  /-- The frames whose timeout is over. -/
  expired : List ℕ := []
  /-- The reports that were in time, and whether they said ok. -/
  inTime : List (ℕ × Bool) := []
  /-- The frame of each call that has returned, and whether it returned `_SUCCESS`. -/
  returned : List (Option ℕ × Bool) := []

inductive AckEvent
  | refuse
  | lock
  | xmit (handed : Bool)
  | ackTxWait
  | wake
  | read
  | unlock
  | expire (frame : ℕ)
  | report (frame : ℕ) (ok : Bool)
  | write
  | complete
  deriving DecidableEq

namespace AckTx

/-- The report of the frame has been handled. -/
def arrive (s : AckTx) (frame : ℕ) (ok : Bool) : AckTx :=
  { s with inTime := if frame ∈ s.expired then s.inTime else (frame, ok) :: s.inTime }

/-- The call returns at once when the driver is stopped or the device removed. -/
def refuse (s : AckTx) : Option AckTx := some { s with returned := (none, false) :: s.returned }

/-- `mutex_lock`, and `ack_tx` is set. -/
def lock (s : AckTx) : Option AckTx :=
  match s.phase with
  | .idle => some { s with ackTx := true, phase := .locked }
  | _ => none

/-- `rtw_hal_mgnt_xmit`; the call does not wait when it fails. -/
def xmit (s : AckTx) (handed : Bool) : Option AckTx :=
  match s.phase with
  | .locked =>
    if handed then some { s with submitted := s.submitted + 1, phase := .submitted s.submitted }
    else some { s with phase := .ended none false }
  | _ => none

/-- `rtw_ack_tx_wait` up to the wait. -/
def ackTxWait (s : AckTx) : Option AckTx :=
  match s.phase with
  | .submitted frame => some { s with ops := s.ops.setStatus .SUBMITTED, phase := .waiting frame }
  | _ => none

def wake (s : AckTx) : Option AckTx :=
  match s.phase with
  | .waiting frame => if s.ops.done = 0 then none else some { s with ops := s.ops.take, phase := .woken frame }
  | _ => none

def read (s : AckTx) : Option AckTx :=
  match s.phase with
  | .woken frame => some { s with phase := .ended (some frame) (SubmitCtx.waitRet s.ops.status) }
  | _ => none

/-- `ack_tx` is cleared, `mutex_unlock`, and the call returns. -/
def unlock (s : AckTx) : Option AckTx :=
  match s.phase with
  | .ended frame ret => some { s with ackTx := false, phase := .idle, returned := (frame, ret) :: s.returned }
  | _ => none

/-- The timeout of a frame is over; the call that still waits for it without a completion gives up. -/
def expire (s : AckTx) (frame : ℕ) : Option AckTx :=
  if frame < s.submitted ∧ s.phase ≠ .submitted frame then
    if s.phase = .waiting frame ∧ s.ops.done = 0 then
      some { s with expired := frame :: s.expired, phase := .ended (some frame) (SubmitCtx.waitRet .DONE_TIMEOUT) }
    else some { s with expired := frame :: s.expired }
  else none

/-- The firmware reports a frame, and `rtw_ack_tx_done` looks at `ack_tx`. -/
def report (s : AckTx) (frame : ℕ) (ok : Bool) : Option AckTx :=
  if s.handling = none ∧ s.next ≤ frame ∧ frame < s.submitted then
    if s.ackTx then some { s with next := frame + 1, handling := some ⟨frame, ok, false⟩ }
    else some (arrive { s with next := frame + 1 } frame ok)
  else none

/-- The first half of `rtw_sctx_done_err`. -/
def write (s : AckTx) : Option AckTx :=
  match s.handling with
  | some ⟨frame, ok, false⟩ =>
    (handleTxrptCcx8723a ⟨true, ok⟩).map fun status =>
      { s with ops := s.ops.setStatus status, handling := some ⟨frame, ok, true⟩ }
  | _ => none

def complete (s : AckTx) : Option AckTx :=
  match s.handling with
  | some ⟨frame, ok, true⟩ => some (arrive { s with ops := s.ops.complete, handling := none } frame ok)
  | _ => none

def step (s : AckTx) : AckEvent → Option AckTx
  | .refuse => s.refuse
  | .lock => s.lock
  | .xmit handed => s.xmit handed
  | .ackTxWait => s.ackTxWait
  | .wake => s.wake
  | .read => s.read
  | .unlock => s.unlock
  | .expire frame => s.expire frame
  | .report frame ok => s.report frame ok
  | .write => s.write
  | .complete => s.complete

/-! ## What the calls return -/

/-- A call returns `_SUCCESS` exactly when the report for its frame was in time and said ok. -/
def Truthful (s : AckTx) : Prop :=
  ∀ call ∈ s.returned, call.2 = true ↔ ∃ frame, call.1 = some frame ∧ (frame, true) ∈ s.inTime

/-- The report is for the frame of the call that waits; a failed one may also come before the wait. -/
def Awaits (s : AckTx) (frame : ℕ) (ok : Bool) : Prop :=
  s.phase = .waiting frame ∨ s.phase = .submitted frame ∧ ok = false

instance (s : AckTx) (frame : ℕ) (ok : Bool) : Decidable (s.Awaits frame ok) :=
  inferInstanceAs (Decidable (s.phase = .waiting frame ∨ s.phase = .submitted frame ∧ ok = false))

/-- A report is handled while the call for its frame waits, or while there is no call. -/
def OnTime (s : AckTx) : AckEvent → Prop
  | .report frame ok => s.ackTx = true → s.Awaits frame ok
  | .write | .complete => ∀ h ∈ s.handling, s.Awaits h.frame h.ok
  | _ => True

instance decidableOnTime (s : AckTx) : ∀ e, Decidable (s.OnTime e)
  | .report frame ok => inferInstanceAs (Decidable (s.ackTx = true → s.Awaits frame ok))
  | .write | .complete => inferInstanceAs (Decidable (∀ h ∈ s.handling, s.Awaits h.frame h.ok))
  | .refuse | .lock | .xmit _ | .ackTxWait | .wake | .read | .unlock | .expire _ => isTrue trivial

/-! ## The invariant -/

/-- What is said of the frame will not change any more. -/
def Closed (s : AckTx) (frame : ℕ) : Prop := frame < s.submitted ∧ (frame ∈ s.expired ∨ ∃ ok, (frame, ok) ∈ s.inTime)

def Settled (s : AckTx) : Option ℕ → Bool → Prop
  | none, ret => ret = false
  | some frame, ret => s.Closed frame ∧ (ret = true ↔ (frame, true) ∈ s.inTime)

/-- The completion and the status while a call is in a phase. -/
def PhaseOk (s : AckTx) : AckPhase → Prop
  | .idle => s.ackTx = false ∧ s.ops.done = 0
  | .locked => s.ops.done = 0
  | .submitted frame => frame + 1 = s.submitted ∧ frame ∉ s.expired ∧
      (∀ h ∈ s.handling, h.frame = frame → h.ok = false) ∧
      (s.ops.done = 0 ∧ (∀ ok, (frame, ok) ∉ s.inTime) ∨ s.ops.done = 1 ∧ (frame, false) ∈ s.inTime)
  | .waiting frame => frame + 1 = s.submitted ∧
      (s.ops.done = 0 ∧ frame ∉ s.expired ∧ (∀ ok, (frame, ok) ∉ s.inTime) ∧
          (∀ h ∈ s.handling, h.frame = frame → h.written = true → (s.ops.status = .DONE_SUCCESS ↔ h.ok = true)) ∨
        s.ops.done = 1 ∧ ∃ ok, (frame, ok) ∈ s.inTime ∧ (s.ops.status = .DONE_SUCCESS ↔ ok = true))
  | .woken frame => frame + 1 = s.submitted ∧ s.ops.done = 0 ∧
      ∃ ok, (frame, ok) ∈ s.inTime ∧ (s.ops.status = .DONE_SUCCESS ↔ ok = true)
  | .ended frame ret => s.ops.done = 0 ∧ s.Settled frame ret

structure Sound (s : AckTx) : Prop where
  phase : s.PhaseOk s.phase
  ackTx : s.ackTx = false → s.phase = .idle
  next : s.next ≤ s.submitted
  expired : ∀ frame ∈ s.expired, frame < s.submitted
  inTime : ∀ frame ok, (frame, ok) ∈ s.inTime → frame < s.next
  once : ∀ frame, (frame, true) ∈ s.inTime → (frame, false) ∉ s.inTime
  handling : ∀ h ∈ s.handling, h.frame < s.next ∧ ∀ ok, (h.frame, ok) ∉ s.inTime
  returned : ∀ call ∈ s.returned, s.Settled call.1 call.2

section History
variable {s t : AckTx} {frame : ℕ} {ok ret : Bool}

/-- What has happened grows, and nothing is added for a closed frame. -/
structure Grows (s t : AckTx) : Prop where
  submitted : s.submitted ≤ t.submitted
  expired : ∀ f ∈ s.expired, f ∈ t.expired
  inTime : ∀ p ∈ s.inTime, p ∈ t.inTime
  new : ∀ f ok, (f, ok) ∈ t.inTime → (f, ok) ∈ s.inTime ∨ ¬ s.Closed f

theorem Settled.grows {f : Option ℕ} (h : s.Settled f ret) (hg : Grows s t) : t.Settled f ret := by
  cases f with
  | none => exact h
  | some f =>
    obtain ⟨⟨hlt, hclosed⟩, hret⟩ := h
    refine ⟨⟨hlt.trans_le hg.submitted, ?_⟩, hret.trans ⟨hg.inTime _, fun hmem => ?_⟩⟩
    · obtain hexpired | ⟨ok, hmem⟩ := hclosed
      · exact .inl (hg.expired f hexpired)
      · exact .inr ⟨ok, hg.inTime _ hmem⟩
    · exact (hg.new f true hmem).resolve_right fun hnot => hnot ⟨hlt, hclosed⟩

@[simp] theorem arrive_phase (s : AckTx) : (s.arrive frame ok).phase = s.phase := rfl
@[simp] theorem arrive_ops (s : AckTx) : (s.arrive frame ok).ops = s.ops := rfl
@[simp] theorem arrive_ackTx (s : AckTx) : (s.arrive frame ok).ackTx = s.ackTx := rfl
@[simp] theorem arrive_next (s : AckTx) : (s.arrive frame ok).next = s.next := rfl
@[simp] theorem arrive_submitted (s : AckTx) : (s.arrive frame ok).submitted = s.submitted := rfl
@[simp] theorem arrive_handling (s : AckTx) : (s.arrive frame ok).handling = s.handling := rfl
@[simp] theorem arrive_expired (s : AckTx) : (s.arrive frame ok).expired = s.expired := rfl
@[simp] theorem arrive_returned (s : AckTx) : (s.arrive frame ok).returned = s.returned := rfl

theorem mem_arrive {f : ℕ} {b : Bool} : (f, b) ∈ (s.arrive frame ok).inTime ↔
    (f, b) ∈ s.inTime ∨ frame ∉ s.expired ∧ f = frame ∧ b = ok := by
  unfold arrive
  by_cases h : frame ∈ s.expired <;> simp [h, or_comm]

theorem Grows.arrive (hnew : ∀ ok, (frame, ok) ∉ s.inTime) : Grows s (s.arrive frame ok) where
  submitted := le_rfl
  expired _ hf := hf
  inTime _ hp := mem_arrive.mpr (.inl hp)
  new f b h := by
    obtain hold | ⟨hexpired, rfl, rfl⟩ := mem_arrive.mp h
    · exact .inl hold
    · refine .inr fun hclosed => ?_
      obtain hex | ⟨b, hmem⟩ := hclosed.2
      · exact hexpired hex
      · exact hnew b hmem

end History

/-! ## Steps -/

namespace Sound
variable {s t : AckTx} {frame : ℕ} {ok : Bool}

theorem initial : Sound {} where
  phase := ⟨rfl, rfl⟩
  ackTx _ := rfl
  next := le_rfl
  expired _ h := absurd h List.not_mem_nil
  inTime _ _ h := absurd h List.not_mem_nil
  once _ h := absurd h List.not_mem_nil
  handling _ h := absurd h (by simp)
  returned _ h := absurd h List.not_mem_nil

theorem call (h : Sound s) (ops : SubmitCtx) {ackTx : Bool} {phase : AckPhase}
    (hphase : PhaseOk { s with ackTx := ackTx, ops := ops, phase := phase } phase)
    (hack : ackTx = false → phase = .idle) : Sound { s with ackTx := ackTx, ops := ops, phase := phase } :=
  { h with phase := hphase, ackTx := hack }

theorem refuse (h : Sound s) (hstep : s.refuse = some t) : Sound t := by
  cases hstep
  have hgrows : Grows s { s with returned := (none, false) :: s.returned } :=
    ⟨le_rfl, fun _ hf => hf, fun _ hp => hp, fun _ _ hp => .inl hp⟩
  refine { h with phase := ?_, returned := fun call hcall => ?_ }
  · have hphase := h.phase
    show PhaseOk _ s.phase
    cases hp : s.phase with
    | ended frame ret =>
      rw [hp] at hphase
      exact ⟨hphase.1, hphase.2.grows ⟨hgrows.submitted, hgrows.expired, hgrows.inTime, hgrows.new⟩⟩
    | _ => rwa [hp] at hphase
  · obtain rfl | hcall := List.mem_cons.mp hcall
    · rfl
    · exact h.returned call hcall

theorem lock (h : Sound s) (hstep : s.lock = some t) : Sound t := by
  unfold AckTx.lock at hstep
  have hphase := h.phase
  split at hstep
  · rename_i heq
    rw [heq] at hphase
    cases hstep
    exact h.call s.ops hphase.2 (by simp)
  · cases hstep

theorem xmit (h : Sound s) {handed : Bool} (hstep : s.xmit handed = some t) : Sound t := by
  unfold AckTx.xmit at hstep
  have hphase := h.phase
  split at hstep
  · rename_i heq
    rw [heq] at hphase
    have hack : s.ackTx ≠ false := fun hno => by simp [h.ackTx hno] at heq
    have hnew : ∀ ok, (s.submitted, ok) ∉ s.inTime := fun ok hmem =>
      absurd (h.inTime _ _ hmem) (Nat.not_lt_of_le h.next)
    split at hstep
    · cases hstep
      have hgrows : Grows s { s with submitted := s.submitted + 1, phase := .submitted s.submitted } :=
        ⟨Nat.le_succ _, fun _ hf => hf, fun _ hp => hp, fun _ _ hp => .inl hp⟩
      refine { h with phase := ?_, ackTx := fun hno => absurd hno hack, next := h.next.trans (Nat.le_succ _),
                      expired := fun f hf => Nat.lt_succ_of_lt (h.expired f hf),
                      returned := fun call hcall => (h.returned call hcall).grows hgrows }
      refine ⟨rfl, fun hex => absurd (h.expired _ hex) (Nat.lt_irrefl _), fun g hg hframe => ?_, .inl ⟨hphase, hnew⟩⟩
      have hlt := (h.handling g hg).1
      have hle := h.next
      omega
    · cases hstep
      exact h.call s.ops ⟨hphase, rfl⟩ fun hno => absurd hno hack
  · cases hstep

theorem ackTxWait (h : Sound s) (hstep : s.ackTxWait = some t) : Sound t := by
  unfold AckTx.ackTxWait at hstep
  have hphase := h.phase
  split at hstep
  · rename_i frame heq
    rw [heq] at hphase
    have hack : s.ackTx ≠ false := fun hno => by simp [h.ackTx hno] at heq
    cases hstep
    refine h.call _ ?_ fun hno => absurd hno hack
    obtain ⟨hlast, hexpired, hfailed, ⟨hdone, hnew⟩ | ⟨hdone, hmem⟩⟩ := hphase
    · refine ⟨hlast, .inl ⟨hdone, hexpired, hnew, fun g hg hframe _ => ?_⟩⟩
      simp [hfailed g hg hframe]
    · exact ⟨hlast, .inr ⟨hdone, false, hmem, by simp⟩⟩
  · cases hstep

theorem wake (h : Sound s) (hstep : s.wake = some t) : Sound t := by
  unfold AckTx.wake at hstep
  have hphase := h.phase
  split at hstep
  · rename_i frame heq
    rw [heq] at hphase
    have hack : s.ackTx ≠ false := fun hno => by simp [h.ackTx hno] at heq
    split at hstep
    · cases hstep
    · rename_i hdone
      cases hstep
      refine h.call _ ?_ fun hno => absurd hno hack
      obtain ⟨hlast, ⟨hzero, -⟩ | ⟨hone, hreport⟩⟩ := hphase
      · exact absurd hzero hdone
      · exact ⟨hlast, by simp [hone], hreport⟩
  · cases hstep

theorem read (h : Sound s) (hstep : s.read = some t) : Sound t := by
  unfold AckTx.read at hstep
  have hphase := h.phase
  split at hstep
  · rename_i frame heq
    rw [heq] at hphase
    have hack : s.ackTx ≠ false := fun hno => by simp [h.ackTx hno] at heq
    cases hstep
    obtain ⟨hlast, hdone, ok, hmem, hstatus⟩ := hphase
    refine h.call s.ops ⟨hdone, ⟨Nat.lt_of_succ_le hlast.le, .inr ⟨ok, hmem⟩⟩, ?_⟩ fun hno => absurd hno hack
    rw [SubmitCtx.waitRet_iff, hstatus]
    constructor
    · rintro rfl
      exact hmem
    · intro htrue
      cases ok with
      | false => exact absurd hmem (h.once frame htrue)
      | true => rfl
  · cases hstep

theorem unlock (h : Sound s) (hstep : s.unlock = some t) : Sound t := by
  unfold AckTx.unlock at hstep
  have hphase := h.phase
  split at hstep
  · rename_i frame ret heq
    rw [heq] at hphase
    cases hstep
    refine { h with phase := ⟨rfl, hphase.1⟩, ackTx := fun _ => rfl, returned := fun call hcall => ?_ }
    obtain rfl | hcall := List.mem_cons.mp hcall
    · exact hphase.2
    · exact h.returned call hcall
  · cases hstep

/-- The timeout of a frame nobody waits for, or of one whose completion is there. -/
theorem expired_mark (h : Sound s) (hlt : frame < s.submitted) (hnot : s.phase ≠ .submitted frame)
    (hwait : ¬ (s.phase = .waiting frame ∧ s.ops.done = 0)) : Sound { s with expired := frame :: s.expired } := by
  have hgrows : Grows s { s with expired := frame :: s.expired } :=
    ⟨le_rfl, fun _ hf => List.mem_cons_of_mem _ hf, fun _ hp => hp, fun _ _ hp => .inl hp⟩
  have hother : ∀ f, f ≠ frame → f ∉ s.expired → f ∉ frame :: s.expired := by
    intro f hne hold hmem
    exact (List.mem_cons.mp hmem).elim hne hold
  refine { h with phase := ?_, expired := fun f hf => ?_, returned := fun call hcall => (h.returned call hcall).grows hgrows }
  · have hphase := h.phase
    show PhaseOk _ s.phase
    cases hp : s.phase with
    | idle => rwa [hp] at hphase
    | locked => rwa [hp] at hphase
    | submitted f =>
      rw [hp] at hphase hnot
      obtain ⟨hlast, hexpired, hrest⟩ := hphase
      exact ⟨hlast, hother f (fun heq => hnot (heq ▸ rfl)) hexpired, hrest⟩
    | waiting f =>
      rw [hp] at hphase hwait
      obtain ⟨hlast, ⟨hzero, hexpired, hrest⟩ | hreport⟩ := hphase
      · exact ⟨hlast, .inl ⟨hzero, hother f (fun heq => hwait ⟨heq ▸ rfl, hzero⟩) hexpired, hrest⟩⟩
      · exact ⟨hlast, .inr hreport⟩
    | woken f => rwa [hp] at hphase
    | ended f ret =>
      rw [hp] at hphase
      exact ⟨hphase.1, hphase.2.grows ⟨hgrows.submitted, hgrows.expired, hgrows.inTime, hgrows.new⟩⟩
  · obtain rfl | hf := List.mem_cons.mp hf
    · exact hlt
    · exact h.expired f hf

theorem expire (h : Sound s) (hstep : s.expire frame = some t) : Sound t := by
  unfold AckTx.expire at hstep
  split at hstep
  · rename_i hcan
    split at hstep
    · -- the call gives up
      rename_i hwait
      cases hstep
      have hphase := h.phase
      rw [hwait.1] at hphase
      obtain ⟨-, ⟨hzero, -, hnew, -⟩ | ⟨hone, -⟩⟩ := hphase
      · have hack : s.ackTx ≠ false := fun hno => by simp [h.ackTx hno] at hwait
        have hgrows : Grows s { s with expired := frame :: s.expired, phase := .ended (some frame) false } :=
          ⟨le_rfl, fun _ hf => List.mem_cons_of_mem _ hf, fun _ hp => hp, fun _ _ hp => .inl hp⟩
        refine { h with phase := ?_, ackTx := fun hno => absurd hno hack, expired := fun f hf => ?_,
                        returned := fun call hcall => (h.returned call hcall).grows hgrows }
        · exact ⟨hzero, ⟨hcan.1, .inl List.mem_cons_self⟩, by simp [SubmitCtx.waitRet, hnew]⟩
        · obtain rfl | hf := List.mem_cons.mp hf
          · exact hcan.1
          · exact h.expired f hf
      · rw [hone] at hwait
        exact absurd hwait.2 Nat.one_ne_zero
    · rename_i hwait
      cases hstep
      exact h.expired_mark hcan.1 hcan.2 hwait
  · cases hstep

/-! ### Reports -/

theorem arrive (h : Sound s) {ops : SubmitCtx} {next : ℕ} (hnext : s.next ≤ next) (hle : next ≤ s.submitted)
    (hlt : frame < next) (hnew : ∀ ok, (frame, ok) ∉ s.inTime)
    (hphase : PhaseOk (AckTx.arrive { s with ops := ops, next := next, handling := none } frame ok) s.phase) :
    Sound (AckTx.arrive { s with ops := ops, next := next, handling := none } frame ok) where
  phase := hphase
  ackTx := h.ackTx
  next := hle
  expired := h.expired
  inTime f b hmem := by
    obtain hold | ⟨-, rfl, -⟩ := mem_arrive.mp hmem
    · exact (h.inTime f b hold).trans_le hnext
    · exact hlt
  once f htrue hfalse := by
    obtain ht | ⟨-, rfl, rfl⟩ := mem_arrive.mp htrue <;> obtain hf | ⟨-, hf, hb⟩ := mem_arrive.mp hfalse
    · exact h.once f ht hf
    · exact hnew _ (hf ▸ ht)
    · exact hnew _ hf
    · exact Bool.noConfusion hb
  handling g hg := by simp at hg
  returned call hcall := by
    have hgrows : Grows s { s with ops := ops, next := next, handling := none } :=
      ⟨le_rfl, fun _ hf => hf, fun _ hp => hp, fun _ _ hp => .inl hp⟩
    exact ((h.returned call hcall).grows hgrows).grows (.arrive hnew)

theorem report (h : Sound s) (hontime : s.OnTime (.report frame ok)) (hstep : s.report frame ok = some t) :
    Sound t := by
  unfold AckTx.report at hstep
  split at hstep
  · rename_i hcan
    obtain ⟨hnone, hnext, hlt⟩ := hcan
    have hnew : ∀ ok, (frame, ok) ∉ s.inTime := fun ok hmem =>
      absurd (h.inTime _ _ hmem) (Nat.not_lt_of_le hnext)
    split at hstep
    · rename_i hack
      cases hstep
      refine { h with phase := ?_, next := hlt, inTime := fun f b hmem => ?_, handling := fun g hg => ?_ }
      · have hphase := h.phase
        show PhaseOk _ s.phase
        obtain hwait | ⟨hwait, rfl⟩ := hontime hack
        · rw [hwait] at hphase ⊢
          obtain ⟨hlast, ⟨hzero, hexpired, hno, -⟩ | hreport⟩ := hphase
          · exact ⟨hlast, .inl ⟨hzero, hexpired, hno, by simp⟩⟩
          · exact ⟨hlast, .inr hreport⟩
        · rw [hwait] at hphase ⊢
          exact ⟨hphase.1, hphase.2.1, by simp, hphase.2.2.2⟩
      · have hbefore := h.inTime f b hmem
        show f < frame + 1
        omega
      · cases hg
        exact ⟨Nat.lt_succ_self frame, hnew⟩
    · -- nobody holds the mutex
      rename_i hack
      have hidle := h.ackTx (by simpa using hack)
      have hphase := h.phase
      rw [hidle] at hphase
      have heq : ({ s with next := frame + 1 } : AckTx) =
          { s with ops := s.ops, next := frame + 1, handling := none } := by rw [← hnone]
      rw [heq] at hstep
      cases hstep
      refine h.arrive (hnext.trans (Nat.le_succ _)) hlt (Nat.lt_succ_self frame) hnew ?_
      rw [hidle]
      exact hphase
  · cases hstep

theorem write (h : Sound s) (hontime : s.OnTime .write) (hstep : s.write = some t) : Sound t := by
  unfold AckTx.write at hstep
  split at hstep
  · rename_i frame ok heq
    cases hstep
    have hphase := h.phase
    obtain ⟨hlt, hnew⟩ := h.handling _ heq
    refine { h with phase := ?_, handling := fun g hg => ?_ }
    · show PhaseOk _ s.phase
      obtain hwait | ⟨hwait, hok⟩ := hontime _ heq
      · rw [hwait] at hphase ⊢
        obtain ⟨hlast, ⟨hzero, hexpired, hno, -⟩ | ⟨-, b, hmem, -⟩⟩ := hphase
        · refine ⟨hlast, .inl ⟨hzero, hexpired, hno, fun g hg _ _ => ?_⟩⟩
          cases hg
          cases ok <;> simp
        · exact absurd hmem (hnew b)
      · rw [hwait] at hphase ⊢
        obtain ⟨hlast, hexpired, hfailed, hrest⟩ := hphase
        refine ⟨hlast, hexpired, fun g hg _ => ?_, hrest⟩
        cases hg
        exact hok
    · cases hg
      exact ⟨hlt, hnew⟩
  · cases hstep

theorem complete (h : Sound s) (hontime : s.OnTime .complete) (hstep : s.complete = some t) : Sound t := by
  unfold AckTx.complete at hstep
  split at hstep
  · rename_i frame ok heq
    cases hstep
    have hphase := h.phase
    obtain ⟨hlt, hnew⟩ := h.handling _ heq
    refine h.arrive le_rfl h.next hlt hnew ?_
    obtain hwait | ⟨hwait, hok⟩ := hontime _ heq
    · rw [hwait] at hphase ⊢
      obtain ⟨hlast, ⟨hzero, hexpired, -, hstatus⟩ | ⟨-, b, hmem, -⟩⟩ := hphase
      · refine ⟨hlast, .inr ⟨by simp [hzero], ok, ?_, hstatus _ heq rfl rfl⟩⟩
        exact mem_arrive.mpr (.inr ⟨hexpired, rfl, rfl⟩)
      · exact absurd hmem (hnew b)
    · rw [hwait] at hphase ⊢
      obtain ⟨hlast, hexpired, -, ⟨hzero, -⟩ | ⟨-, hmem⟩⟩ := hphase
      · refine ⟨hlast, hexpired, by simp, .inr ⟨by simp [hzero], ?_⟩⟩
        exact mem_arrive.mpr (.inr ⟨hexpired, rfl, hok.symm⟩)
      · exact absurd hmem (hnew false)
  · cases hstep

theorem step (h : Sound s) {e : AckEvent} (hontime : s.OnTime e) (hstep : s.step e = some t) : Sound t := by
  cases e with
  | refuse => exact h.refuse hstep
  | lock => exact h.lock hstep
  | xmit handed => exact h.xmit hstep
  | ackTxWait => exact h.ackTxWait hstep
  | wake => exact h.wake hstep
  | read => exact h.read hstep
  | unlock => exact h.unlock hstep
  | expire frame => exact h.expire hstep
  | report frame ok => exact h.report hontime hstep
  | write => exact h.write hontime hstep
  | complete => exact h.complete hontime hstep

theorem truthful (h : Sound s) : s.Truthful := by
  intro call hcall
  have hsettled := h.returned call hcall
  obtain ⟨frame | frame, ret⟩ := call
  · simp [show ret = false from hsettled]
  · simpa using hsettled.2

end Sound

/-- In a run in which each report is handled in time every call returns what the report for its frame said. -/
theorem ack_truthful (events : List AckEvent) (s : AckTx) (hontime : GuardedRuns.Meets step OnTime {} events)
    (hrun : GuardedRuns.run step {} events = some s) : s.Truthful :=
  (GuardedRuns.run_inv (fun _ _ _ h hok hstep => Sound.step h hok hstep) Sound.initial hontime hrun).truthful

/-- One call whose report comes in time, one that times out and whose report comes when no call is there, and one whose
report says failed. -/
def threeCalls : List AckEvent :=
  [.lock, .xmit true, .ackTxWait, .report 0 true, .write, .complete, .wake, .read, .unlock,
    .lock, .xmit true, .ackTxWait, .expire 1, .unlock, .report 1 true,
    .lock, .xmit true, .report 2 false, .write, .ackTxWait, .complete, .wake, .read, .unlock]

theorem ack_truthful_threeCalls : ∃ s, GuardedRuns.run step {} threeCalls = some s ∧
    s.returned = [(some 2, false), (some 1, false), (some 0, true)] ∧ s.Truthful :=
  ⟨_, rfl, rfl, ack_truthful threeCalls _ (by decide +kernel) rfl⟩

def lostReport : List AckEvent :=
  [.lock, .xmit true, .report 0 true, .write, .complete, .ackTxWait, .wake, .read, .unlock]

/-- The report of the first frame comes while the second call waits. -/
def lateReport : List AckEvent :=
  [.lock, .xmit true, .ackTxWait, .expire 0, .unlock,
    .lock, .xmit true, .ackTxWait, .report 0 true, .write, .complete, .wake, .read, .unlock]

/-- The report of the first frame comes while the second call waits, and the second call's own before it wakes up. -/
def leftoverCompletion : List AckEvent :=
  [.lock, .xmit true, .ackTxWait, .expire 0, .unlock,
    .lock, .xmit true, .ackTxWait, .report 0 true, .write, .complete, .report 1 true, .write, .complete, .wake, .read,
    .unlock, .lock, .xmit true, .ackTxWait, .wake, .read, .unlock, .report 2 true]

/-- A call fails though its frame was reported in time, one succeeds without a report, and one takes the completion that
another has left. -/
theorem ack_lies : ∃ s t u, GuardedRuns.run step {} lostReport = some s ∧ ¬ s.Truthful ∧
    GuardedRuns.run step {} lateReport = some t ∧ ¬ t.Truthful ∧
    GuardedRuns.run step {} leftoverCompletion = some u ∧ ¬ u.Truthful := by
  refine ⟨_, _, _, rfl, fun h => ?_, rfl, fun h => ?_, rfl, fun h => ?_⟩
  · exact absurd ((h (some 0, false) (by decide +kernel)).mpr ⟨0, rfl, by decide +kernel⟩) Bool.false_ne_true
  · obtain ⟨frame, hframe, hmem⟩ := (h (some 1, true) (by decide +kernel)).mp rfl
    cases hframe
    exact absurd hmem (by decide +kernel)
  · exact absurd ((h (some 2, false) (by decide +kernel)).mpr ⟨2, rfl, by decide +kernel⟩) Bool.false_ne_true

end AckTx

end Rtl8723au
