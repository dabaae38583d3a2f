import Mathlib.Data.Nat.Notation

/-! The context of a submission from `core/rtw_xmit.c`: a status, and a completion that the one who submits waits
for. -/
namespace Rtl8723au
set_option autoImplicit false

/-- `RTW_SCTX_*`. -/
inductive SctxStatus
  | SUBMITTED | DONE_SUCCESS | DONE_UNKNOWN | DONE_TIMEOUT | DONE_BUF_ALLOC | DONE_BUF_FREE | DONE_WRITE_PORT_ERR
  | DONE_TX_DESC_NA | DONE_TX_DENY | DONE_CCX_PKT_FAIL | DONE_DRV_STOP | DONE_DEV_REMOVE
  deriving DecidableEq

/-- `struct submit_ctx`; `done` counts what its completion has been given and has not been waited for. -/
structure SubmitCtx where
  status : SctxStatus
  done : ℕ
  deriving DecidableEq

namespace SubmitCtx

/-- `rtw_sctx_init`. -/
def rtwSctxInit : SubmitCtx := ⟨.SUBMITTED, 0⟩

def setStatus (sctx : SubmitCtx) (status : SctxStatus) : SubmitCtx := { sctx with status := status }

/-- `complete`. -/
def complete (sctx : SubmitCtx) : SubmitCtx := { sctx with done := sctx.done + 1 }

/-- `wait_for_completion_timeout` that does not time out. -/
def take (sctx : SubmitCtx) : SubmitCtx := { sctx with done := sctx.done - 1 }

/-- `rtw_sctx_done_err` on a context. -/
def rtwSctxDoneErr (sctx : SubmitCtx) (status : SctxStatus) : SubmitCtx := (sctx.setStatus status).complete

/-- The end of `rtw_sctx_wait`: whether the status it has read means success. -/
def waitRet (status : SctxStatus) : Bool := decide (status = .DONE_SUCCESS)

section Fields
variable (sctx : SubmitCtx) (status : SctxStatus)

@[simp] theorem setStatus_status : (sctx.setStatus status).status = status := rfl
@[simp] theorem setStatus_done : (sctx.setStatus status).done = sctx.done := rfl
@[simp] theorem complete_status : sctx.complete.status = sctx.status := rfl
@[simp] theorem complete_done : sctx.complete.done = sctx.done + 1 := rfl
@[simp] theorem take_status : sctx.take.status = sctx.status := rfl
@[simp] theorem take_done : sctx.take.done = sctx.done - 1 := rfl

end Fields

theorem waitRet_iff (status : SctxStatus) : waitRet status = true ↔ status = .DONE_SUCCESS := decide_eq_true_iff

end SubmitCtx

end Rtl8723au
