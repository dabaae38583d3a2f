import Rtl8723au.Library.FreePool
import Rtl8723au.Xmit.MgntDump

/-! Runs of calls, completions and flags. A buffer points to the context of the call that has it, unless another call
that had it before detaches late. -/
namespace Rtl8723au
set_option autoImplicit false
open FreePool

/-! ## The invariant -/

def Transfer.back : Transfer → ℕ
  | .refused | .freed => 1
  | .unsent | .flying | .signalled => 0

namespace MgntXmit

def Active : MgntPhase → Prop
  | .ready | .submitted | .waiting | .detaching _ => True
  | .allocated | .entered | .woken | .returned _ => False

/-- The context waits for the transfer, or has been told of it. -/
def Signal (attached : Prop) (c : MgntCall) : Prop :=
  c.transfer = .flying ∧ attached ∧ c.ctx.done = 0 ∧ c.okInTime = false ∨
    c.transfer ≠ .flying ∧ (c.ctx.status = .DONE_SUCCESS ↔ c.okInTime = true) ∧ c.ctx.done ≠ 0

/-- What is so in a phase. -/
def CallOk (attached : Prop) (c : MgntCall) : MgntPhase → Prop
  | .allocated => c.transfer = .unsent ∧ c.frameFreed = 0 ∧ c.okInTime = false
  | .entered => c.transfer = .unsent ∧ c.frameFreed = 0 ∧ c.okInTime = false ∧ c.wait = true
  | .ready => c.transfer = .unsent ∧ c.frameFreed = 0 ∧ c.okInTime = false ∧
      (c.wait = true → attached ∧ c.ctx.done = 0)
  | .submitted => c.transfer ≠ .unsent ∧ c.frameFreed = 0 ∧ (c.wait = true → Signal attached c)
  | .waiting => c.transfer ≠ .unsent ∧ c.frameFreed = 1 ∧ c.wait = true ∧ Signal attached c
  | .woken => c.transfer ≠ .unsent ∧ c.frameFreed = 1 ∧ c.wait = true ∧ c.transfer ≠ .flying ∧
      (c.ctx.status = .DONE_SUCCESS ↔ c.okInTime = true)
  | .detaching ret => c.transfer ≠ .unsent ∧ c.frameFreed = 1 ∧ c.wait = true ∧ (ret = true ↔ c.okInTime = true)
  | .returned ret => c.transfer ≠ .unsent ∧ c.frameFreed = 1 ∧ (c.wait = true → (ret = true ↔ c.okInTime = true))

def heldFrame (c : MgntCall) : Option ℕ := if c.frameFreed = 0 then some c.frame else none
def heldBuf (c : MgntCall) : Option ℕ := if c.bufFreed = 0 then some c.buf else none

def holders (s : MgntXmit) (held : MgntCall → Option ℕ) : ℕ → Option ℕ := fun i => (s.calls i).bind held

/-- The call is one that a buffer may point to. -/
def Target (c : MgntCall) (b : ℕ) : Prop :=
  c.buf = b ∧ c.wait = true ∧ (c.transfer = .unsent ∨ c.transfer = .flying) ∧ Active c.phase

structure Inv (s : MgntXmit) : Prop where
  call : ∀ i c, s.calls i = some c → c.bufFreed = c.transfer.back ∧ CallOk (s.sctx c.buf = some i) c c.phase
  frames : Kept s.freeFrames (s.holders heldFrame)
  bufs : Kept s.freeBufs (s.holders heldBuf)
  pointer : ∀ b i, s.sctx b = some i → ∃ c, s.calls i = some c ∧ Target c b
  count : ∀ i, s.count ≤ i → s.calls i = none
  late : s.late = []

section
variable {s t : MgntXmit} {i : ℕ} {c : MgntCall}

theorem modify_calls (hc : s.calls i = some c) (f : MgntCall → MgntCall) :
    (s.modify i f).calls = Function.update s.calls i (some (f c)) := by
  unfold modify
  rw [hc, Option.map_some]

theorem holders_update {held : MgntCall → Option ℕ} (hcalls : t.calls = Function.update s.calls i (some c)) :
    t.holders held = Function.update (s.holders held) i (held c) := by
  funext k
  unfold holders
  rw [hcalls]
  by_cases hk : k = i
  · subst hk
    simp
  · simp [hk]

theorem holders_self (hc : s.calls i = some c) (held : MgntCall → Option ℕ) : s.holders held i = held c := by
  simp [holders, hc]

theorem CallOk.attach {p q : Prop} (hpq : p → q) {phase : MgntPhase} (h : CallOk p c phase) : CallOk q c phase := by
  have hsignal : Signal p c → Signal q c := by
    rintro (⟨hfly, hp, hrest⟩ | hdone)
    · exact .inl ⟨hfly, hpq hp, hrest⟩
    · exact .inr hdone
  cases phase with
  | ready => exact ⟨h.1, h.2.1, h.2.2.1, fun hw => ⟨hpq (h.2.2.2 hw).1, (h.2.2.2 hw).2⟩⟩
  | submitted => exact ⟨h.1, h.2.1, fun hw => hsignal (h.2.2 hw)⟩
  | waiting => exact ⟨h.1, h.2.1, h.2.2.1, hsignal h.2.2.2⟩
  | _ => exact h

namespace Inv

theorem replace (h : Inv s) (c' : MgntCall) (hcalls : t.calls = Function.update s.calls i (some c'))
    (hlt : i < t.count) (hcount : s.count ≤ t.count) (hlate : t.late = []) (hback : c'.bufFreed = c'.transfer.back)
    (hok : CallOk (t.sctx c'.buf = some i) c' c'.phase) (hsctx : ∀ b k, k ≠ i → (t.sctx b = some k ↔ s.sctx b = some k))
    (hmine : ∀ b, t.sctx b = some i → Target c' b)
    (hframes : Kept t.freeFrames (Function.update (s.holders heldFrame) i (heldFrame c')))
    (hbufs : Kept t.freeBufs (Function.update (s.holders heldBuf) i (heldBuf c'))) : Inv t where
  call k d hd := by
    rw [hcalls] at hd
    by_cases hk : k = i
    · subst hk
      rw [Function.update_self, Option.some.injEq] at hd
      exact hd ▸ ⟨hback, hok⟩
    · rw [Function.update_of_ne hk] at hd
      exact ⟨(h.call k d hd).1, (h.call k d hd).2.attach (hsctx d.buf k hk).mpr⟩
  frames := by rwa [holders_update hcalls]
  bufs := by rwa [holders_update hcalls]
  pointer b k hb := by
    by_cases hk : k = i
    · subst hk
      exact ⟨c', by rw [hcalls, Function.update_self], hmine b hb⟩
    · obtain ⟨d, hd, htarget⟩ := h.pointer b k ((hsctx b k hk).mp hb)
      exact ⟨d, by rw [hcalls, Function.update_of_ne hk, hd], htarget⟩
  count k hk := by
    rw [hcalls, Function.update_of_ne (by omega)]
    exact h.count k (hcount.trans hk)
  late := hlate

theorem lt_count (h : Inv s) (hc : s.calls i = some c) : i < s.count := by
  by_contra hge
  rw [h.count i (Nat.le_of_not_lt hge)] at hc
  cases hc

theorem pointer_eq (h : Inv s) (hc : s.calls i = some c) (hheld : c.bufFreed = 0) {j : ℕ} (hj : s.sctx c.buf = some j) :
    j = i ∧ Target c c.buf := by
  obtain ⟨d, hd, htarget⟩ := h.pointer c.buf j hj
  have hback := (h.call j d hd).1
  have hzero : d.bufFreed = 0 := by
    rw [hback]
    obtain hunsent | hfly := htarget.2.2.1
    · rw [hunsent]
      rfl
    · rw [hfly]
      rfl
  have heq : j = i := by
    refine h.bufs.single j i c.buf ?_ ?_
    · rw [holders_self hd, heldBuf, if_pos hzero, htarget.1]
    · rw [holders_self hc, heldBuf, if_pos hheld]
  subst heq
  rw [hc, Option.some.injEq] at hd
  exact ⟨rfl, hd ▸ htarget⟩

theorem target (h : Inv s) (hc : s.calls i = some c) {b : ℕ} (hb : s.sctx b = some i) : Target c b := by
  obtain ⟨d, hd, htarget⟩ := h.pointer b i hb
  rw [hc, Option.some.injEq] at hd
  exact hd ▸ htarget

theorem heldFrame_kept (h : Inv s) (hc : s.calls i = some c) {c' : MgntCall} (heq : heldFrame c' = heldFrame c) :
    Kept s.freeFrames (Function.update (s.holders heldFrame) i (heldFrame c')) := by
  rw [heq, ← holders_self hc heldFrame, Function.update_eq_self]
  exact h.frames

theorem heldBuf_kept (h : Inv s) (hc : s.calls i = some c) {c' : MgntCall} (heq : heldBuf c' = heldBuf c) :
    Kept s.freeBufs (Function.update (s.holders heldBuf) i (heldBuf c')) := by
  rw [heq, ← holders_self hc heldBuf, Function.update_eq_self]
  exact h.bufs

theorem advance (h : Inv s) (hc : s.calls i = some c) {f : MgntCall → MgntCall}
    (hframe : heldFrame (f c) = heldFrame c) (hbuf : heldBuf (f c) = heldBuf c)
    (hback : (f c).bufFreed = (f c).transfer.back) (hok : CallOk (s.sctx (f c).buf = some i) (f c) (f c).phase)
    (hmine : ∀ b, s.sctx b = some i → Target (f c) b) : Inv (s.modify i f) := by
  refine h.replace _ (modify_calls hc f) (h.lt_count hc) le_rfl h.late hback hok (fun _ _ _ => Iff.rfl) hmine
    (h.heldFrame_kept hc hframe) (h.heldBuf_kept hc hbuf)

theorem flags (h : Inv s) (stopped removed cancel pnp : Bool) :
    Inv { s with bDriverStopped := stopped, bSurpriseRemoved := removed, bWritePortCancel := cancel, pnpBstopTrx := pnp } :=
  ⟨h.call, h.frames, h.bufs, h.pointer, h.count, h.late⟩

theorem urbFlags (h : Inv s) (status : UrbStatus) : Inv (s.urbFlags status) := by
  unfold MgntXmit.urbFlags
  split
  · exact h
  · split
    · exact h.flags true s.bSurpriseRemoved s.bWritePortCancel s.pnpBstopTrx
    · exact h.flags s.bDriverStopped true s.bWritePortCancel s.pnpBstopTrx
    · exact h

/-! ## Contexts and buffers -/

/-- The call after `rtw_sctx_done_err` on its buffer. -/
def told (attached : Prop) [Decidable attached] (c : MgntCall) (status : SctxStatus) : MgntCall :=
  { c with ctx := if attached then c.ctx.rtwSctxDoneErr status else c.ctx }

theorem doneErr_spec (h : Inv s) (hc : s.calls i = some c) (hheld : c.bufFreed = 0) (status : SctxStatus) :
    s.rtwSctxDoneErr c.buf status = { s with
      calls := Function.update s.calls i (some (told (s.sctx c.buf = some i) c status))
      sctx := Function.update s.sctx c.buf none } := by
  unfold rtwSctxDoneErr told
  cases hb : s.sctx c.buf with
  | none =>
    have hcalls : Function.update s.calls i (some c) = s.calls := by rw [← hc, Function.update_eq_self]
    have hsctx : Function.update s.sctx c.buf none = s.sctx := by rw [← hb, Function.update_eq_self]
    simp [hcalls, hsctx]
  | some j =>
    obtain ⟨rfl, htarget⟩ := h.pointer_eq hc hheld hb
    have hreturned : s.hasReturned j = false := by
      unfold hasReturned
      rw [hc]
      have hactive := htarget.2.2.2
      cases hphase : c.phase <;> simp_all [Active]
    simp [modify, hc, hreturned]

theorem freeXmitbuf_of_none {buf : ℕ} (hc : s.calls i = some c) (hnone : s.sctx buf = none) :
    s.rtwFreeXmitbuf i buf = { s with
      calls := Function.update s.calls i (some { c with bufFreed := c.bufFreed + 1 })
      freeBufs := s.freeBufs ++ [buf] } := by
  unfold rtwFreeXmitbuf rtwSctxDoneErr
  rw [hnone]
  simp [modify, hc]

theorem clear_iff (hmine : ∀ j, s.sctx c.buf = some j → j = i) (b k : ℕ) (hk : k ≠ i) :
    Function.update s.sctx c.buf none b = some k ↔ s.sctx b = some k := by
  by_cases hb : b = c.buf
  · subst hb
    rw [Function.update_self]
    exact ⟨fun h => absurd h.symm (Option.some_ne_none k), fun h => absurd (hmine k h) hk⟩
  · rw [Function.update_of_ne hb]

theorem clear_ne (h : Inv s) (hc : s.calls i = some c) (b : ℕ) : Function.update s.sctx c.buf none b ≠ some i := by
  by_cases hb : b = c.buf
  · subst hb
    rw [Function.update_self]
    exact fun h => absurd h.symm (Option.some_ne_none i)
  · rw [Function.update_of_ne hb]
    exact fun hp => hb (h.target hc hp).1.symm

theorem heldBuf_given (h : Inv s) (hc : s.calls i = some c) (hheld : c.bufFreed = 0) {c' : MgntCall}
    (hfreed : c'.bufFreed = c.bufFreed + 1) :
    Kept (s.freeBufs ++ [c.buf]) (Function.update (s.holders heldBuf) i (heldBuf c')) := by
  have hnone : heldBuf c' = none := by simp [heldBuf, hfreed]
  rw [hnone]
  refine h.bufs.give ?_
  rw [holders_self hc, heldBuf, if_pos hheld]

/-! ## Steps of a call -/

theorem enter (h : Inv s) (hc : s.calls i = some c) (hflags : s.bSurpriseRemoved = false ∧ s.bDriverStopped = false)
    (hstep : s.enter i c = some t) : Inv t := by
  unfold MgntXmit.enter at hstep
  split at hstep
  · rename_i hphase
    rw [hflags.1, hflags.2] at hstep
    cases hstep
    obtain ⟨hback, hok⟩ := h.call i c hc
    rw [hphase] at hok
    refine h.advance hc rfl rfl hback ?_ fun b hb => ?_
    · obtain ⟨htransfer, hframe, hin⟩ := hok
      cases hwait : c.wait with
      | true => exact ⟨htransfer, hframe, hin, rfl⟩
      | false => exact ⟨htransfer, hframe, hin, fun hw => absurd hw Bool.false_ne_true⟩
    · have hactive := (h.target hc hb).2.2.2
      rw [hphase] at hactive
      exact hactive.elim
  · cases hstep

theorem attach (h : Inv s) (hc : s.calls i = some c) (hstep : s.attach i c = some t) : Inv t := by
  unfold MgntXmit.attach at hstep
  split at hstep
  · rename_i hphase
    cases hstep
    obtain ⟨hback, hok⟩ := h.call i c hc
    rw [hphase] at hok
    obtain ⟨htransfer, hframe, hin, hwait⟩ := hok
    have hheld : c.bufFreed = 0 := by rw [hback, htransfer]; rfl
    refine h.replace _ (modify_calls hc _) (h.lt_count hc) le_rfl h.late hback ?_ (fun b k hk => ?_) (fun b hb => ?_)
      (h.heldFrame_kept hc rfl) (h.heldBuf_kept hc rfl)
    · exact ⟨htransfer, hframe, hin, fun _ => ⟨Function.update_self .., rfl⟩⟩
    · show Function.update s.sctx c.buf (some i) b = some k ↔ s.sctx b = some k
      by_cases hb : b = c.buf
      · subst hb
        rw [Function.update_self]
        exact ⟨fun h => absurd (Option.some.inj h).symm hk, fun hp => absurd (h.pointer_eq hc hheld hp).1 hk⟩
      · rw [Function.update_of_ne hb]
    · have hb' : Function.update s.sctx c.buf (some i) b = some i := hb
      by_cases heq : b = c.buf
      · exact ⟨heq.symm, hwait, .inl htransfer, trivial⟩
      · rw [Function.update_of_ne heq] at hb'
        have hactive := (h.target hc hb').2.2.2
        rw [hphase] at hactive
        exact hactive.elim
  · cases hstep

theorem refuse (h : Inv s) (hc : s.calls i = some c) (hphase : c.phase = .ready) (status : SctxStatus)
    (hstatus : status ≠ .DONE_SUCCESS) : Inv (s.refuse i c status) := by
  obtain ⟨hback, hok⟩ := h.call i c hc
  rw [hphase] at hok
  obtain ⟨htransfer, hframe, hin, hattached⟩ := hok
  have hheld : c.bufFreed = 0 := by rw [hback, htransfer]; rfl
  unfold MgntXmit.refuse
  rw [h.doneErr_spec hc hheld, freeXmitbuf_of_none (Function.update_self ..) (Function.update_self ..)]
  refine h.replace { told (s.sctx c.buf = some i) c status with
    bufFreed := c.bufFreed + 1, transfer := .refused, phase := .submitted } ?_ (h.lt_count hc) le_rfl h.late ?_ ?_
    (clear_iff fun j hj => (h.pointer_eq hc hheld hj).1) (fun b hb => absurd hb (h.clear_ne hc b))
    (h.heldFrame_kept hc rfl) (h.heldBuf_given hc hheld rfl)
  · simp [modify, told]
  · rw [hheld]
    rfl
  · refine ⟨by simp, hframe, fun hwait => .inr ⟨by simp, ?_, ?_⟩⟩
    · simp [told, (hattached hwait).1, SubmitCtx.rtwSctxDoneErr, hstatus, hin]
    · simp [told, (hattached hwait).1, SubmitCtx.rtwSctxDoneErr]

theorem submit (h : Inv s) (hc : s.calls i = some c) {ret : SubmitRet} (hstep : s.submit i c ret = some t) : Inv t := by
  unfold MgntXmit.submit at hstep
  split at hstep
  · rename_i hphase
    split at hstep
    · cases hstep
      exact h.refuse hc hphase _ (by decide)
    · cases ret with
      | ok =>
        cases hstep
        obtain ⟨hback, hok⟩ := h.call i c hc
        rw [hphase] at hok
        obtain ⟨htransfer, hframe, hin, hattached⟩ := hok
        refine h.advance hc rfl rfl (by rw [hback, htransfer]; rfl) ?_ fun b hb => ?_
        · exact ⟨by simp, hframe, fun hw => .inl ⟨rfl, (hattached hw).1, (hattached hw).2, hin⟩⟩
        · have htarget := h.target hc hb
          exact ⟨htarget.1, htarget.2.1, .inr rfl, trivial⟩
      | ENODEV =>
        cases hstep
        have hrefused := h.refuse hc hphase .DONE_WRITE_PORT_ERR (by decide)
        exact hrefused.flags true _ _ _
      | failed =>
        cases hstep
        exact h.refuse hc hphase _ (by decide)
  · cases hstep

theorem freeFrame (h : Inv s) (hc : s.calls i = some c) (hstep : s.freeFrame i c = some t) : Inv t := by
  unfold MgntXmit.freeFrame at hstep
  split at hstep
  · rename_i hphase
    cases hstep
    obtain ⟨hback, hok⟩ := h.call i c hc
    rw [hphase] at hok
    obtain ⟨htransfer, hframe, hsignal⟩ := hok
    refine h.replace _ (modify_calls hc _) (h.lt_count hc) le_rfl h.late hback ?_ (fun _ _ _ => Iff.rfl) (fun b hb => ?_)
      ?_ (h.heldBuf_kept hc rfl)
    · cases hwait : c.wait with
      | true => exact ⟨htransfer, by simp [hframe], rfl, hsignal hwait⟩
      | false => exact ⟨htransfer, by simp [hframe], fun hw => absurd hw Bool.false_ne_true⟩
    · obtain ⟨hbuf, hwait, hunderway, -⟩ := h.target hc hb
      exact ⟨hbuf, hwait, hunderway, by simp [hwait, Active]⟩
    · have hnone : heldFrame { c with frameFreed := c.frameFreed + 1, phase := if c.wait then .waiting else .returned true } =
          none := by simp [heldFrame]
      rw [hnone]
      refine h.frames.give ?_
      rw [holders_self hc, heldFrame, if_pos hframe]
  · cases hstep

theorem wake (h : Inv s) (hc : s.calls i = some c) (hstep : s.wake i c = some t) : Inv t := by
  unfold MgntXmit.wake at hstep
  split at hstep
  · rename_i hphase
    split at hstep
    · cases hstep
    · rename_i hdone
      cases hstep
      obtain ⟨hback, hok⟩ := h.call i c hc
      rw [hphase] at hok
      obtain ⟨htransfer, hframe, hwait, ⟨-, -, hzero, -⟩ | ⟨hfly, hstatus, -⟩⟩ := hok
      · exact absurd hzero hdone
      · refine h.advance hc rfl rfl hback ⟨htransfer, hframe, hwait, hfly, hstatus⟩ fun b hb => ?_
        exact ((h.target hc hb).2.2.1.elim htransfer hfly).elim
  · cases hstep

theorem read (h : Inv s) (hc : s.calls i = some c) (hstep : s.read i c = some t) : Inv t := by
  unfold MgntXmit.read at hstep
  split at hstep
  · rename_i hphase
    cases hstep
    obtain ⟨hback, hok⟩ := h.call i c hc
    rw [hphase] at hok
    obtain ⟨htransfer, hframe, hwait, -, hstatus⟩ := hok
    refine h.advance hc rfl rfl hback ⟨htransfer, hframe, hwait, ?_⟩ fun b hb => ?_
    · rw [SubmitCtx.waitRet_iff]
      exact hstatus
    · have hactive := (h.target hc hb).2.2.2
      rw [hphase] at hactive
      exact hactive.elim
  · cases hstep

theorem timeout (h : Inv s) (hc : s.calls i = some c) (hstep : s.timeout i c = some t) : Inv t := by
  unfold MgntXmit.timeout at hstep
  split at hstep
  · rename_i hphase
    split at hstep
    · rename_i hdone
      cases hstep
      obtain ⟨hback, hok⟩ := h.call i c hc
      rw [hphase] at hok
      obtain ⟨htransfer, hframe, hwait, ⟨-, -, -, hin⟩ | ⟨-, -, hne⟩⟩ := hok
      · refine h.advance hc rfl rfl hback ⟨htransfer, hframe, hwait, ?_⟩ fun b hb => ?_
        · simp [SubmitCtx.waitRet, hin]
        · have htarget := h.target hc hb
          exact ⟨htarget.1, htarget.2.1, htarget.2.2.1, trivial⟩
      · exact absurd hdone hne
    · cases hstep
  · cases hstep

theorem detach (h : Inv s) (hc : s.calls i = some c) (hown : ∀ j, s.sctx c.buf = some j → j = i)
    (hstep : s.detach i c = some t) : Inv t := by
  unfold MgntXmit.detach at hstep
  split at hstep
  · rename_i ret hphase
    cases hstep
    obtain ⟨hback, hok⟩ := h.call i c hc
    rw [hphase] at hok
    obtain ⟨htransfer, hframe, hwait, hret⟩ := hok
    exact h.replace _ (modify_calls hc _) (h.lt_count hc) le_rfl h.late hback ⟨htransfer, hframe, fun _ => hret⟩
      (clear_iff hown) (fun b hb => absurd hb (h.clear_ne hc b)) (h.heldFrame_kept hc rfl) (h.heldBuf_kept hc rfl)
  · cases hstep

/-! ## Completions -/

theorem urbSignal (h : Inv s) (hc : s.calls i = some c) {status : UrbStatus}
    (hstep : s.urbSignal i c status = some t) : Inv t := by
  unfold MgntXmit.urbSignal at hstep
  split at hstep
  · rename_i hfly
    cases hstep
    have hflags := h.urbFlags status
    have hcalls : (s.urbFlags status).calls = s.calls := by
      unfold MgntXmit.urbFlags
      split
      · rfl
      · split <;> rfl
    have hc' : (s.urbFlags status).calls i = some c := by rw [hcalls, hc]
    generalize s.urbFlags status = u at hflags hc'
    obtain ⟨hback, hok⟩ := hflags.call i c hc'
    have hheld : c.bufFreed = 0 := by rw [hback, hfly]; rfl
    generalize hst : (if status = .ok then SctxStatus.DONE_SUCCESS else .DONE_WRITE_PORT_ERR) = st
    have hsuccess : st = .DONE_SUCCESS ↔ status = .ok := by
      rw [← hst]
      split <;> simp [*]
    rw [hflags.doneErr_spec hc' hheld]
    refine hflags.replace { told (u.sctx c.buf = some i) c st with
      transfer := .signalled, okInTime := c.okInTime || decide (status = .ok) && MgntPhase.inTime c.phase } ?_
      (hflags.lt_count hc') le_rfl hflags.late ?_ ?_ (clear_iff fun j hj => (hflags.pointer_eq hc' hheld hj).1)
      (fun b hb => absurd hb (hflags.clear_ne hc' b)) (hflags.heldFrame_kept hc' rfl) (hflags.heldBuf_kept hc' rfl)
    · simp [modify, told]
    · exact hheld
    · -- the context of a call that waits is told
      have hsignal : MgntPhase.inTime c.phase = true → Signal (u.sctx c.buf = some i) c →
          ∀ p, Signal p { told (u.sctx c.buf = some i) c st with
            transfer := .signalled, okInTime := c.okInTime || decide (status = .ok) && MgntPhase.inTime c.phase } := by
        rintro hin (⟨-, hattached, hzero, hno⟩ | ⟨hnot, -⟩) p
        · refine .inr ⟨by simp, ?_, ?_⟩
          · simp [told, hattached, SubmitCtx.rtwSctxDoneErr, hno, hin, hsuccess]
          · simp [told, hattached, SubmitCtx.rtwSctxDoneErr]
        · exact absurd hfly hnot
      show CallOk _ _ c.phase
      cases hphase : c.phase with
      | allocated => rw [hphase] at hok; simp [hok.1] at hfly
      | entered => rw [hphase] at hok; simp [hok.1] at hfly
      | ready => rw [hphase] at hok; simp [hok.1] at hfly
      | submitted =>
        rw [hphase] at hok hsignal
        exact ⟨by simp, hok.2.1, fun hw => hsignal rfl (hok.2.2 hw) _⟩
      | waiting =>
        rw [hphase] at hok hsignal
        exact ⟨by simp, hok.2.1, hok.2.2.1, hsignal rfl hok.2.2.2 _⟩
      | woken => rw [hphase] at hok; exact absurd hfly hok.2.2.2.1
      | detaching ret =>
        rw [hphase] at hok
        exact ⟨by simp, hok.2.1, hok.2.2.1, by simpa [MgntPhase.inTime] using hok.2.2.2⟩
      | returned ret =>
        rw [hphase] at hok
        exact ⟨by simp, hok.2.1, fun hw => by simpa [MgntPhase.inTime] using hok.2.2 hw⟩
  · cases hstep

theorem urbFree (h : Inv s) (hc : s.calls i = some c) (hstep : s.urbFree i c = some t) : Inv t := by
  unfold MgntXmit.urbFree at hstep
  split at hstep
  · rename_i hsignalled
    cases hstep
    obtain ⟨hback, hok⟩ := h.call i c hc
    have hheld : c.bufFreed = 0 := by rw [hback, hsignalled]; rfl
    have hnot : ∀ b, ¬ Target c b := fun b htarget => by
      have hunderway := htarget.2.2.1
      simp [hsignalled] at hunderway
    have hnone : s.sctx c.buf = none := by
      by_contra hsome
      obtain ⟨j, hj⟩ := Option.ne_none_iff_exists'.mp hsome
      exact hnot _ (h.pointer_eq hc hheld hj).2
    rw [freeXmitbuf_of_none hc hnone]
    refine h.replace { c with bufFreed := c.bufFreed + 1, transfer := .freed } ?_ (h.lt_count hc) le_rfl h.late ?_
      ?_ (fun _ _ _ => Iff.rfl) (fun b hb => absurd (h.target hc hb) (hnot b)) (h.heldFrame_kept hc rfl)
      (h.heldBuf_given hc hheld rfl)
    · simp [modify]
    · rw [hheld]
      rfl
    · have hsignal : ∀ p, Signal p c → Signal p { c with bufFreed := c.bufFreed + 1, transfer := .freed } := by
        rintro p (⟨hfly, -⟩ | ⟨-, hrest⟩)
        · simp [hsignalled] at hfly
        · exact .inr ⟨by simp, hrest⟩
      show CallOk _ _ c.phase
      cases hphase : c.phase with
      | allocated => rw [hphase] at hok; simp [hok.1] at hsignalled
      | entered => rw [hphase] at hok; simp [hok.1] at hsignalled
      | ready => rw [hphase] at hok; simp [hok.1] at hsignalled
      | submitted => rw [hphase] at hok; exact ⟨by simp, hok.2.1, fun hw => hsignal _ (hok.2.2 hw)⟩
      | waiting => rw [hphase] at hok; exact ⟨by simp, hok.2.1, hok.2.2.1, hsignal _ hok.2.2.2⟩
      | woken => rw [hphase] at hok; exact ⟨by simp, hok.2.1, hok.2.2.1, by simp, hok.2.2.2.2⟩
      | detaching ret => rw [hphase] at hok; exact ⟨by simp, hok.2⟩
      | returned ret => rw [hphase] at hok; exact ⟨by simp, hok.2⟩
  · cases hstep

/-! ## Runs -/

theorem alloc (h : Inv s) (wait : Bool) : Inv (s.alloc wait) := by
  unfold MgntXmit.alloc
  split
  · exact h
  · -- there is no buffer, and the frame goes back
    rename_i frame frames hframes hbufs
    have hkept := h.frames
    rw [hframes] at hkept
    exact ⟨h.call, hkept.rotate, h.bufs, h.pointer, h.count, h.late⟩
  · rename_i frame frames buf bufs hframes hbufs
    have hfree := h.frames
    have hbuf := h.bufs
    rw [hframes] at hfree
    rw [hbufs] at hbuf
    have hnew : s.calls s.count = none := h.count _ le_rfl
    have hnobody : ∀ held, s.holders held s.count = none := fun held => by simp [holders, hnew]
    have hnone : s.sctx buf = none := by
      by_contra hsome
      obtain ⟨j, hj⟩ := Option.ne_none_iff_exists'.mp hsome
      obtain ⟨d, hd, htarget⟩ := h.pointer buf j hj
      have hzero : d.bufFreed = 0 := by
        rw [(h.call j d hd).1]
        obtain hunsent | hfly := htarget.2.2.1
        · rw [hunsent]
          rfl
        · rw [hfly]
          rfl
      exact hbuf.away j buf (by rw [holders_self hd, heldBuf, if_pos hzero, htarget.1]) List.mem_cons_self
    have htold : ({ s with freeFrames := frames, freeBufs := bufs } : MgntXmit).rtwSctxDoneErr buf .DONE_BUF_ALLOC =
        { s with freeFrames := frames, freeBufs := bufs } := by
      unfold rtwSctxDoneErr
      rw [show ({ s with freeFrames := frames, freeBufs := bufs } : MgntXmit).sctx buf = none from hnone]
    dsimp only
    rw [htold]
    refine h.replace { frame := frame, buf := buf, wait := wait } rfl (Nat.lt_succ_self _) (Nat.le_succ _) h.late rfl
      ⟨rfl, rfl, rfl⟩ (fun _ _ _ => Iff.rfl) (fun b hb => ?_) (hfree.take (hnobody _)) (hbuf.take (hnobody _))
    obtain ⟨d, hd, -⟩ := h.pointer b s.count hb
    rw [hnew] at hd
    cases hd

theorem step (h : Inv s) {e : MgntEvent} (hok : s.Undisturbed e) (hstep : s.step e = some t) : Inv t := by
  cases e with
  | alloc wait =>
    cases hstep
    exact h.alloc wait
  | stop =>
    cases hstep
    exact h.flags true _ _ _
  | remove =>
    cases hstep
    exact h.flags _ true _ _
  | cancel b =>
    cases hstep
    exact h.flags _ _ b _
  | pnp b =>
    cases hstep
    exact h.flags _ _ _ b
  | call i e =>
    obtain ⟨c, hc, hcall⟩ := Option.bind_eq_some_iff.mp hstep
    cases e with
    | enter => exact h.enter hc hok hcall
    | attach => exact h.attach hc hcall
    | submit ret => exact h.submit hc hcall
    | freeFrame => exact h.freeFrame hc hcall
    | wake => exact h.wake hc hcall
    | read => exact h.read hc hcall
    | timeout => exact h.timeout hc hcall
    | detach => exact h.detach hc (hok c hc) hcall
    | urbSignal status => exact h.urbSignal hc hcall
    | urbFree => exact h.urbFree hc hcall

theorem initial {frames bufs : List ℕ} (hframes : frames.Nodup) (hbufs : bufs.Nodup) :
    Inv { freeFrames := frames, freeBufs := bufs } where
  call _ _ h := by cases h
  frames := .start hframes
  bufs := .start hbufs
  pointer _ _ h := by cases h
  count _ _ := rfl
  late := rfl

theorem frameFreed_le (h : Inv s) (hc : s.calls i = some c) : c.frameFreed ≤ 1 := by
  have hok := (h.call i c hc).2
  cases hphase : c.phase with
  | ready | submitted | waiting | woken | detaching | returned => rw [hphase] at hok; exact hok.2.1.le.trans (by decide)
  | allocated | entered => rw [hphase] at hok; exact hok.2.1.le.trans (by decide)

theorem accounted (h : Inv s) : s.Accounted where
  frames := h.frames.nodup
  bufs := h.bufs.nodup
  atMostOnce i c hc := by
    refine ⟨h.frameFreed_le hc, ?_⟩
    rw [(h.call i c hc).1]
    cases c.transfer <;> decide
  comeBack i c ret hc hphase hpending := by
    obtain ⟨hback, hok⟩ := h.call i c hc
    rw [hphase] at hok
    refine ⟨hok.2.1, ?_⟩
    rw [hback]
    have hunsent := hok.1
    cases htransfer : c.transfer <;> simp_all [pending, Transfer.back]
  reports i c ret hc hwait hphase := by
    have hok := (h.call i c hc).2
    rw [hphase] at hok
    exact hok.2.2 hwait
  late := h.late

end Inv

end

/-- In a run in which no frame is dumped once a flag is set, and no call detaches another's context, frames, buffers and
results are accounted for in every state. -/
theorem mgnt_accounted (frames bufs : List ℕ) (hframes : frames.Nodup) (hbufs : bufs.Nodup) (events : List MgntEvent)
    (s : MgntXmit)
    (hok : GuardedRuns.Meets step Undisturbed { freeFrames := frames, freeBufs := bufs } events)
    (hrun : GuardedRuns.run step { freeFrames := frames, freeBufs := bufs } events = some s) : s.Accounted :=
  (GuardedRuns.run_inv (fun _ _ _ h hok hstep => Inv.step h hok hstep) (Inv.initial hframes hbufs) hok hrun).accounted

instance decidableUndisturbed (s : MgntXmit) : ∀ e, Decidable (s.Undisturbed e)
  | .call _ .enter => inferInstanceAs (Decidable (s.bSurpriseRemoved = false ∧ s.bDriverStopped = false))
  | .call i .detach => inferInstanceAs (Decidable (∀ c ∈ s.calls i, ∀ j ∈ s.sctx c.buf, j = i))
  | .call _ .attach | .call _ (.submit _) | .call _ .freeFrame | .call _ .wake | .call _ .read | .call _ .timeout
  | .call _ (.urbSignal _) | .call _ .urbFree | .alloc _ | .stop | .remove | .cancel _ | .pnp _ => isTrue trivial

/-- One buffer: a call that waits and is told, one whose wait times out before its transfer completes, and one that is
refused as the driver stops. -/
def threeDumps : List MgntEvent :=
  [.alloc true, .call 0 .enter, .call 0 .attach, .call 0 (.submit .ok), .call 0 (.urbSignal .ok), .call 0 .freeFrame,
    .call 0 .urbFree, .call 0 .wake, .call 0 .read, .call 0 .detach,
    .alloc true, .call 1 .enter, .call 1 .attach, .call 1 (.submit .ok), .call 1 .freeFrame, .call 1 .timeout,
    .call 1 .detach, .call 1 (.urbSignal .ENOENT), .call 1 .urbFree,
    .alloc false, .call 2 .enter, .stop, .call 2 (.submit .ok), .call 2 .freeFrame]

theorem mgnt_accounted_threeDumps :
    ∃ s, GuardedRuns.run step { freeFrames := [0, 1], freeBufs := [7] } threeDumps = some s ∧
      s.freeBufs = [7] ∧ s.freeFrames = [1, 0] ∧ s.Accounted :=
  ⟨_, rfl, rfl, by decide +kernel, mgnt_accounted [0, 1] [7] (by decide) (by decide) threeDumps _ (by decide +kernel) rfl⟩

/-- The driver stops between the allocation and `dump_mgntframe`. -/
def droppedFrame : List MgntEvent := [.alloc false, .stop, .call 0 .enter]

/-- The second call has attached its context to the buffer of the first before the first wakes up. -/
def clearedContext : List MgntEvent :=
  [.alloc true, .call 0 .enter, .call 0 .attach, .call 0 (.submit .ok), .call 0 .freeFrame, .call 0 (.urbSignal .ok),
    .call 0 .urbFree, .alloc true, .call 1 .enter, .call 1 .attach, .call 0 .wake, .call 0 .read, .call 0 .detach,
    .call 1 (.submit .ok), .call 1 .freeFrame, .call 1 (.urbSignal .ok), .call 1 .urbFree, .call 1 .timeout,
    .call 1 .detach]

/-- A frame and a buffer are lost, and a call is denied the result of its transfer. -/
theorem mgnt_unaccounted :
    ∃ s t, GuardedRuns.run step { freeFrames := [0, 1], freeBufs := [7] } droppedFrame = some s ∧ ¬ s.Accounted ∧
      GuardedRuns.run step { freeFrames := [0, 1], freeBufs := [7] } clearedContext = some t ∧ ¬ t.Accounted := by
  refine ⟨_, _, rfl, fun h => ?_, rfl, fun h => ?_⟩
  · exact absurd (h.comeBack 0 _ false rfl rfl rfl).1 (by decide)
  · exact absurd ((h.reports 1 _ false rfl rfl rfl).mpr rfl) Bool.false_ne_true

end MgntXmit

end Rtl8723au
