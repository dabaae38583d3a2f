import Rtl8723au.Include.Wifi
import Mathlib.Logic.Function.Basic
import Mathlib.Data.Nat.Notation
import Mathlib.Tactic

/-! The group owner negotiation of `core/rtw_p2p.c` and `core/rtw_mlme_ext.c`: `on_action_public_p2p` for its three
frames, the functions that process them and those that issue them, and two devices that exchange them. What the
frames tell about channels beyond "there is a common one", about groups and about the display is left out. With
different intents the two devices always agree. With equal ones they do as long as no device that has answered a
request takes a response. -/
namespace Rtl8723au
set_option autoImplicit false

inductive P2pRole
  | DISABLE | DEVICE | CLIENT | GO
  deriving DecidableEq

inductive P2pState
  | NONE | IDLE | LISTEN | SCAN | FIND_PHASE_LISTEN | FIND_PHASE_SEARCH | TX_PROVISION_DIS_REQ
  | RX_PROVISION_DIS_RSP | RX_PROVISION_DIS_REQ | GONEGO_ING | GONEGO_OK | GONEGO_FAIL | RECV_INVITE_REQ_MATCH
  | PROVISIONING_ING | PROVISIONING_DONE | TX_INVITE_REQ | RX_INVITE_RESP_OK | RECV_INVITE_REQ_DISMATCH
  | RECV_INVITE_REQ_GO | RECV_INVITE_REQ_JOIN | RX_INVITE_RESP_FAIL | RX_INFOR_NOREADY | TX_INFOR_NOREADY
  deriving DecidableEq

def P2P_MAX_INTENT : ℕ := 15

/-- What a negotiation frame holds: the intent with the tie breaker bit below it, the status. -/
inductive NegoBody
  | req (intent : ℕ)
  | resp (status intent : ℕ)
  | conf (status : ℕ)
  deriving DecidableEq

structure NegoFrame where
  body : NegoBody
  dialogToken : ℕ
  seqCtrl : ℕ
  deriving DecidableEq

/-- The members of `struct wifidirect_info` and of `mlme_ext_priv` that the negotiation uses. `wpsInfo` tells whether
`ui_got_wps_info` is set, `commonCh` whether `rtw_p2p_ch_inclusion` finds a channel of the peer's list. -/
structure P2pDevice where
  state : P2pState
  preState : P2pState
  role : P2pRole
  intent : ℕ
  peerIntent : ℕ
  wpsInfo : Bool
  commonCh : Bool
  negotiationDialogToken : ℕ
  actionPublicRxseq : ℕ
  actionPublicDialogToken : ℕ
  mgntSeq : ℕ

namespace P2pDevice

/-- The device of the larger intent owns the group; between equals the tie breaker bit of the peer decides. -/
def goRole (intent peerIntent : ℕ) : P2pRole :=
  if intent = peerIntent >>> 1 then if peerIntent &&& 1 ≠ 0 then .CLIENT else .GO
  else if intent > peerIntent >>> 1 then .GO
  else .CLIENT

/-! ## The frames it sends -/

def issue (w : P2pDevice) (body : NegoBody) : NegoFrame := ⟨body, w.negotiationDialogToken, w.mgntSeq % 4096 <<< 4⟩

def nextSeq (w : P2pDevice) : P2pDevice := { w with mgntSeq := w.mgntSeq + 1 }

/-- `issue_p2p_GO_request`. -/
def issueP2pGORequest (w : P2pDevice) : P2pDevice × NegoFrame :=
  let w := { w with negotiationDialogToken := 1 }
  (w.nextSeq, w.issue (.req (w.intent <<< 1 ||| 1)))

/-- `issue_p2p_GO_response`: the tie breaker bit is the other one than the peer's. -/
def issueP2pGOResponse (w : P2pDevice) (dialogToken result : ℕ) : P2pDevice × NegoFrame :=
  let w := { w with negotiationDialogToken := dialogToken }
  (w.nextSeq, w.issue (.resp result (if w.peerIntent &&& 1 ≠ 0 then w.intent <<< 1 else w.intent <<< 1 ||| 1)))

/-- `issue_p2p_GO_confirm`. -/
def issueP2pGOConfirm (w : P2pDevice) (result : ℕ) : P2pDevice × NegoFrame := (w.nextSeq, w.issue (.conf result))

/-! ## The frames it receives -/

/-- `process_p2p_group_negotation_req`. -/
def processReq (w : P2pDevice) (peerIntent : ℕ) : P2pDevice × ℕ :=
  if !w.wpsInfo then ({ w with state := .TX_INFOR_NOREADY }, P2P_STATUS_FAIL_INFO_UNAVAILABLE)
  else
    let both := w.intent = peerIntent >>> 1 ∧ w.intent = P2P_MAX_INTENT
    let w := { w with
      state := .GONEGO_ING
      peerIntent := peerIntent
      role := if both then .DEVICE else goRole w.intent peerIntent }
    if !w.commonCh then ({ w with state := .GONEGO_FAIL }, P2P_STATUS_FAIL_NO_COMMON_CH)
    else (w, if both then P2P_STATUS_FAIL_BOTH_GOINTENT_15 else P2P_STATUS_SUCCESS)

/-- `process_p2p_group_negotation_resp`. -/
def processResp (w : P2pDevice) (status peerIntent : ℕ) : P2pDevice × ℕ :=
  if status ≠ P2P_STATUS_SUCCESS then
    ({ w with
      state := if status = P2P_STATUS_FAIL_INFO_UNAVAILABLE then .RX_INFOR_NOREADY else .GONEGO_FAIL
      role := .DEVICE }, status)
  else
    let both := w.intent = peerIntent >>> 1 ∧ w.intent = P2P_MAX_INTENT
    let w :=
      if both then { w with peerIntent := peerIntent, role := .DEVICE, state := .GONEGO_FAIL }
      else
        { w with
          peerIntent := peerIntent
          role := goRole w.intent peerIntent
          state := .GONEGO_OK
          preState := .GONEGO_OK }
    if !w.commonCh then ({ w with state := .GONEGO_FAIL }, P2P_STATUS_FAIL_NO_COMMON_CH)
    else (w, if both then P2P_STATUS_FAIL_BOTH_GOINTENT_15 else P2P_STATUS_SUCCESS)

/-- `process_p2p_group_negotation_confirm`: the state is not looked at. -/
def processConf (w : P2pDevice) (status : ℕ) : P2pDevice :=
  let w := { w with negotiationDialogToken := 1 }
  if status = P2P_STATUS_SUCCESS then
    { w with state := .GONEGO_OK, preState := .GONEGO_OK, role := goRole w.intent w.peerIntent }
  else { w with role := .DEVICE, state := .GONEGO_FAIL }

/-- `rtw_action_public_decache`. -/
def decached (w : P2pDevice) (f : NegoFrame) (retry : Bool) : Bool :=
  retry && f.seqCtrl == w.actionPublicRxseq && f.dialogToken == w.actionPublicDialogToken

def onReq (w : P2pDevice) (dialogToken peerIntent : ℕ) : P2pDevice × List NegoFrame :=
  let w := if w.state = .RX_PROVISION_DIS_REQ then { w with state := w.preState } else w
  let w := if w.state = .GONEGO_FAIL then { w with state := w.preState } else w
  let w := if w.state ≠ .GONEGO_ING then { w with preState := w.state } else w
  let (w, result) := w.processReq peerIntent
  let (w, f) := w.issueP2pGOResponse dialogToken result
  (w, [f])

def onResp (w : P2pDevice) (status peerIntent : ℕ) : P2pDevice × List NegoFrame :=
  if w.state = .GONEGO_ING then
    let (w, result) := w.processResp status peerIntent
    let (w, f) := w.issueP2pGOConfirm result
    ({ w with negotiationDialogToken := 1 }, [f])
  else (w, [])

/-- `on_action_public_p2p`: the device afterwards and the frames it sends to its peer. -/
def onActionPublicP2p (w : P2pDevice) (f : NegoFrame) (retry : Bool) : P2pDevice × List NegoFrame :=
  if w.decached f retry then (w, [])
  else
    let w := { w with actionPublicRxseq := f.seqCtrl, actionPublicDialogToken := f.dialogToken }
    if w.state = .NONE ∨ w.state = .IDLE then (w, [])
    else
      match f.body with
      | .req intent => w.onReq f.dialogToken intent
      | .resp status intent => w.onResp status intent
      | .conf status => (w.processConf status, [])

end P2pDevice

/-! ## Two devices -/

inductive Party
  | A | B
  deriving DecidableEq

instance : Fintype Party := ⟨{.A, .B}, fun d => by cases d <;> decide⟩

def Party.other : Party → Party
  | .A => .B
  | .B => .A

/-- Two devices, which of them were started as initiators, the frames on their way with whom they are for, and the
history: who answered a request, who took a response. -/
structure GoNego where
  dev : Party → P2pDevice
  initiator : Party → Bool
  air : List (Party × NegoFrame) := []
  answered : Party → Bool := fun _ => false
  took : Party → Bool := fun _ => false

namespace GoNego

inductive Step
  | request (d : Party)
  | deliver (i : ℕ) (keep retry : Bool)
  | lose (i : ℕ)

def isResp (f : NegoFrame) : Bool := f.body matches .resp _ _
def isConf (f : NegoFrame) : Bool := f.body matches .conf _

def receive (s : GoNego) (d : Party) (f : NegoFrame) (retry : Bool) : GoNego :=
  let o := (s.dev d).onActionPublicP2p f retry
  { s with
    dev := Function.update s.dev d o.1
    air := s.air ++ o.2.map (d.other, ·)
    answered := Function.update s.answered d (s.answered d || o.2.any isResp)
    took := Function.update s.took d (s.took d || o.2.any isConf) }

/-- An initiator sends a request; a frame on its way arrives, and may arrive again (`keep`), or is lost. -/
def step (s : GoNego) : Step → GoNego
  | .request d =>
    if s.initiator d then
      { s with
        dev := Function.update s.dev d (s.dev d).issueP2pGORequest.1
        air := s.air ++ [(d.other, (s.dev d).issueP2pGORequest.2)] }
    else s
  | .deliver i keep retry =>
    match s.air[i]? with
    | none => s
    | some (d, f) => (if keep then s else { s with air := s.air.eraseIdx i }).receive d f retry
  | .lose i => { s with air := s.air.eraseIdx i }

def run (s : GoNego) (steps : List Step) : GoNego := steps.foldl step s

end GoNego

/-! ## Intents and tie breaker bits -/

theorem shiftLeft_one_lor_one (n : ℕ) : n <<< 1 ||| 1 = 2 * n + 1 := by
  rw [Nat.shiftLeft_eq, pow_one, mul_comm]
  exact Nat.two_pow_add_eq_or_of_lt (b := 1) (i := 1) (by decide) n |>.symm

theorem shiftLeft_one (n : ℕ) : n <<< 1 = 2 * n := by
  rw [Nat.shiftLeft_eq, pow_one, mul_comm]

namespace P2pDevice

theorem goRole_odd (a b : ℕ) : goRole a (2 * b + 1) = if a = b then .CLIENT else if a > b then .GO else .CLIENT := by
  have hhalf : (2 * b + 1) >>> 1 = b := by
    rw [Nat.shiftRight_eq_div_pow]
    omega
  have hbit : (2 * b + 1) &&& 1 ≠ 0 := by
    rw [Nat.and_one_is_mod]
    omega
  rw [goRole, hhalf, if_pos hbit]

theorem goRole_even (a b : ℕ) : goRole a (2 * b) = if a = b then .GO else if a > b then .GO else .CLIENT := by
  have hhalf : (2 * b) >>> 1 = b := by
    rw [Nat.shiftRight_eq_div_pow]
    omega
  have hbit : ¬ ((2 * b) &&& 1 ≠ 0) := by
    rw [Nat.and_one_is_mod]
    omega
  rw [goRole, hhalf, if_neg hbit]

/-! ## What a frame can do to a device -/

variable {w : P2pDevice} {f : NegoFrame} {retry : Bool}

/-- What the negotiation does not change. -/
structure Alike (w w' : P2pDevice) : Prop where
  intent : w'.intent = w.intent
  wpsInfo : w'.wpsInfo = w.wpsInfo
  commonCh : w'.commonCh = w.commonCh

theorem Alike.refl (w : P2pDevice) : Alike w w := ⟨rfl, rfl, rfl⟩

theorem Alike.trans {w w' w'' : P2pDevice} (h : Alike w w') (h' : Alike w' w'') : Alike w w'' :=
  ⟨h'.intent.trans h.intent, h'.wpsInfo.trans h.wpsInfo, h'.commonCh.trans h.commonCh⟩

/-- The device takes the frame for the response to its request. -/
def TakesResp (w : P2pDevice) (f : NegoFrame) (retry : Bool) : Prop :=
  w.decached f retry = false ∧ w.state = .GONEGO_ING ∧ ∃ status n, f.body = .resp status n

/-- Both intents are the largest. -/
def BothMax (intent peerIntent : ℕ) : Prop := intent = peerIntent >>> 1 ∧ intent = P2P_MAX_INTENT

instance (intent peerIntent : ℕ) : Decidable (BothMax intent peerIntent) :=
  inferInstanceAs (Decidable (intent = peerIntent >>> 1 ∧ intent = P2P_MAX_INTENT))

/-- The result of a negotiation with the peer's intent. -/
def verdict (intent peerIntent : ℕ) : ℕ :=
  if BothMax intent peerIntent then P2P_STATUS_FAIL_BOTH_GOINTENT_15 else P2P_STATUS_SUCCESS

/-- The tie breaker bit of the answer to `n`. -/
def answerIntent (intent n : ℕ) : ℕ := if n &&& 1 ≠ 0 then intent <<< 1 else intent <<< 1 ||| 1

/-- The effect of a frame: none, a request answered, a response refused or taken, a confirmation taken or
rejected. -/
inductive Effect (w : P2pDevice) (f : NegoFrame) (retry : Bool) (o : P2pDevice × List NegoFrame) : Prop
  | none (state : o.1.state = w.state) (role : o.1.role = w.role) (peer : o.1.peerIntent = w.peerIntent)
    (out : o.2 = [])
  | answers (n : ℕ) (body : f.body = .req n) (state : o.1.state = .GONEGO_ING) (peer : o.1.peerIntent = n)
    (frame : NegoFrame) (out : o.2 = [frame]) (sent : frame.body = .resp (verdict w.intent n) (answerIntent w.intent n))
  | refused (taken : w.TakesResp f retry) (status n : ℕ) (body : f.body = .resp status n)
    (failed : status ≠ P2P_STATUS_SUCCESS) (state : o.1.state ≠ .GONEGO_OK) (peer : o.1.peerIntent = w.peerIntent)
    (frame : NegoFrame) (out : o.2 = [frame]) (sent : frame.body = .conf status)
  | takes (taken : w.TakesResp f retry) (n : ℕ) (body : f.body = .resp P2P_STATUS_SUCCESS n)
    (peer : o.1.peerIntent = n) (state : BothMax w.intent n → o.1.state ≠ .GONEGO_OK)
    (role : ¬ BothMax w.intent n → o.1.role = goRole w.intent n)
    (frame : NegoFrame) (out : o.2 = [frame]) (sent : frame.body = .conf (verdict w.intent n))
  | confirmed (body : f.body = .conf P2P_STATUS_SUCCESS) (role : o.1.role = goRole w.intent w.peerIntent)
    (peer : o.1.peerIntent = w.peerIntent) (out : o.2 = [])
  | rejected (status : ℕ) (body : f.body = .conf status) (failed : status ≠ P2P_STATUS_SUCCESS)
    (state : o.1.state ≠ .GONEGO_OK) (peer : o.1.peerIntent = w.peerIntent) (out : o.2 = [])

theorem processReq_spec (hwps : w.wpsInfo = true) (hcommon : w.commonCh = true) (n : ℕ) :
    Alike w (w.processReq n).1 ∧ (w.processReq n).1.state = .GONEGO_ING ∧ (w.processReq n).1.peerIntent = n ∧
      (w.processReq n).2 = verdict w.intent n := by
  unfold processReq verdict BothMax
  rw [if_neg (by rw [hwps]; decide)]
  dsimp only
  rw [if_neg (by rw [hcommon]; decide)]
  exact ⟨⟨rfl, rfl, rfl⟩, rfl, rfl, rfl⟩

/-- What `on_action_public_p2p` does to the state before it looks into a request. -/
def restored (w : P2pDevice) : P2pDevice :=
  let w := if w.state = .RX_PROVISION_DIS_REQ then { w with state := w.preState } else w
  let w := if w.state = .GONEGO_FAIL then { w with state := w.preState } else w
  if w.state ≠ .GONEGO_ING then { w with preState := w.state } else w

theorem restored_alike (w : P2pDevice) : Alike w w.restored := by
  unfold restored
  dsimp only
  split <;> split <;> split <;> exact ⟨rfl, rfl, rfl⟩

theorem onReq_spec (hwps : w.wpsInfo = true) (hcommon : w.commonCh = true) (token n : ℕ) :
    Alike w (w.onReq token n).1 ∧ (w.onReq token n).1.state = .GONEGO_ING ∧ (w.onReq token n).1.peerIntent = n ∧
      ∃ frame : NegoFrame, (w.onReq token n).2 = [frame] ∧
        frame.body = .resp (verdict w.intent n) (answerIntent w.intent n) := by
  have hrestored := restored_alike w
  obtain ⟨halike, hstate, hpeer, hresult⟩ := processReq_spec (w := w.restored) (hrestored.wpsInfo.trans hwps)
    (hrestored.commonCh.trans hcommon) n
  have hintent : (w.restored.processReq n).1.intent = w.intent := halike.intent.trans hrestored.intent
  have hrun : w.onReq token n = (((w.restored.processReq n).1.issueP2pGOResponse token (w.restored.processReq n).2).1,
      [((w.restored.processReq n).1.issueP2pGOResponse token (w.restored.processReq n).2).2]) := rfl
  rw [hrun]
  refine ⟨hrestored.trans (halike.trans ⟨rfl, rfl, rfl⟩), hstate, hpeer, _, rfl, ?_⟩
  show NegoBody.resp (w.restored.processReq n).2 (if (w.restored.processReq n).1.peerIntent &&& 1 ≠ 0 then
    (w.restored.processReq n).1.intent <<< 1 else (w.restored.processReq n).1.intent <<< 1 ||| 1) = _
  rw [hresult, hpeer, hintent, hrestored.intent]
  rfl

theorem processResp_spec (hcommon : w.commonCh = true) (n : ℕ) :
    Alike w (w.processResp P2P_STATUS_SUCCESS n).1 ∧ (w.processResp P2P_STATUS_SUCCESS n).1.peerIntent = n ∧
      (w.processResp P2P_STATUS_SUCCESS n).2 = verdict w.intent n ∧
      (BothMax w.intent n → (w.processResp P2P_STATUS_SUCCESS n).1.state ≠ .GONEGO_OK) ∧
      (¬ BothMax w.intent n → (w.processResp P2P_STATUS_SUCCESS n).1.role = goRole w.intent n) := by
  unfold processResp verdict
  rw [if_neg (not_not.mpr rfl)]
  dsimp only
  by_cases hboth : BothMax w.intent n
  · have hboth' : w.intent = n >>> 1 ∧ w.intent = P2P_MAX_INTENT := hboth
    rw [if_pos hboth', if_neg (by rw [hcommon]; decide), if_pos hboth', if_pos hboth]
    exact ⟨⟨rfl, rfl, rfl⟩, rfl, rfl, fun _ h => P2pState.noConfusion h, fun h => absurd hboth h⟩
  · have hboth' : ¬ (w.intent = n >>> 1 ∧ w.intent = P2P_MAX_INTENT) := hboth
    rw [if_neg hboth', if_neg (by rw [hcommon]; decide), if_neg hboth', if_neg hboth]
    exact ⟨⟨rfl, rfl, rfl⟩, rfl, rfl, fun h => absurd h hboth, fun _ => rfl⟩

theorem onAction_spec (hwps : w.wpsInfo = true) (hcommon : w.commonCh = true) :
    Alike w (w.onActionPublicP2p f retry).1 ∧ Effect w f retry (w.onActionPublicP2p f retry) := by
  unfold onActionPublicP2p
  split
  · exact ⟨.refl w, .none rfl rfl rfl rfl⟩
  rename_i hfresh
  rw [Bool.not_eq_true] at hfresh
  dsimp only
  split
  · exact ⟨⟨rfl, rfl, rfl⟩, .none rfl rfl rfl rfl⟩
  split
  · rename_i n hbody
    obtain ⟨halike, hstate, hpeer, frame, hout, hsent⟩ := onReq_spec
      (w := { w with actionPublicRxseq := f.seqCtrl, actionPublicDialogToken := f.dialogToken }) hwps hcommon
      f.dialogToken n
    exact ⟨⟨halike.intent, halike.wpsInfo, halike.commonCh⟩, .answers n hbody hstate hpeer frame hout hsent⟩
  · rename_i status n hbody
    unfold onResp
    split
    · rename_i hing
      have taken : w.TakesResp f retry := ⟨hfresh, hing, status, n, hbody⟩
      by_cases hstatus : status = P2P_STATUS_SUCCESS
      · subst hstatus
        obtain ⟨halike, hpeer, hresult, hboth, hrole⟩ := processResp_spec
          (w := { w with actionPublicRxseq := f.seqCtrl, actionPublicDialogToken := f.dialogToken }) hcommon n
        refine ⟨⟨halike.intent, halike.wpsInfo, halike.commonCh⟩, .takes taken n hbody hpeer hboth hrole _ rfl ?_⟩
        exact congrArg NegoBody.conf hresult
      · unfold processResp
        rw [if_pos hstatus]
        refine ⟨⟨rfl, rfl, rfl⟩, .refused taken status n hbody hstatus ?_ rfl _ rfl rfl⟩
        show (if status = P2P_STATUS_FAIL_INFO_UNAVAILABLE then P2pState.RX_INFOR_NOREADY else .GONEGO_FAIL) ≠ .GONEGO_OK
        split <;> exact fun h => P2pState.noConfusion h
    · exact ⟨⟨rfl, rfl, rfl⟩, .none rfl rfl rfl rfl⟩
  · rename_i status hbody
    unfold processConf
    dsimp only
    split
    · rename_i hstatus
      exact ⟨⟨rfl, rfl, rfl⟩, .confirmed (hbody.trans (by rw [hstatus])) rfl rfl rfl⟩
    · rename_i hstatus
      exact ⟨⟨rfl, rfl, rfl⟩, .rejected status hbody hstatus (fun h => P2pState.noConfusion h) rfl rfl⟩

end P2pDevice

end Rtl8723au
