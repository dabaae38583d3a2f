import Rtl8723au.Include.RecvFrame
import Rtl8723au.Library.Intrusive

/-! The receive frames of `struct recv_priv` and the lists they are linked into: `rtw_alloc_recvframe`,
`rtw_free_recvframe` and `rtw_enqueue_recvframe` of `core/rtw_recv.c`. A frame has one `list` member; a
list is the list of the frames linked into it. -/
namespace Rtl8723au
open Intrusive
set_option autoImplicit false

def NR_RECVFRAME : ℕ := 256

theorem uint_add (z : ℤ) (m : ℕ) : uint (uint z + m) = uint (z + m) := by
  unfold uint
  rw [Int.toNat_of_nonneg (Int.emod_nonneg z (by norm_num)), Int.emod_add_emod]

/-- A frame of `precv_frame_buf`. -/
abbrev FrameId := Fin 256

/-- The lists a frame can be in. -/
inductive QueueId where
  | freeRecvQueue
  | ucSwdecPendingQueue
  | defragQ (psta : StaId)
  | pendingRecvframeQueue (psta : StaId) (tid : Tid)
  deriving DecidableEq

/-- The members of `struct recv_priv` and of the stations' `sta_recvpriv` that hold frames. -/
structure RecvPool where
  frames : FrameId → RecvFrame
  queue : QueueId → List FrameId
  freeRecvframeCnt : ℕ

namespace RecvPool

def setFrame (s : RecvPool) (f : FrameId) (frame : RecvFrame) : RecvPool :=
  { s with frames := Function.update s.frames f frame }

/-- `list_del_init`. -/
def listDelInit (s : RecvPool) (f : FrameId) : RecvPool := { s with queue := fun q => (s.queue q).erase f }

/-- `list_add_tail`. -/
def listAddTail (s : RecvPool) (q : QueueId) (f : FrameId) : RecvPool :=
  { s with queue := Function.update s.queue q (s.queue q ++ [f]) }

/-- `_rtw_init_recv_priv`; the frames have buffers of their own. -/
def rtwInitRecvPriv (frames : FrameId → RecvFrame) : RecvPool where
  frames f := { frames f with len := 0 }
  queue
    | .freeRecvQueue => List.finRange 256
    | _ => []
  freeRecvframeCnt := NR_RECVFRAME

/-- `rtw_alloc_recvframe`; only the free queue is counted. -/
def rtwAllocRecvframe (s : RecvPool) (q : QueueId) : Option FrameId × RecvPool :=
  match s.queue q with
  | [] => (none, s)
  | f :: _ =>
    let s := s.listDelInit f
    (some f, if q = .freeRecvQueue then { s with freeRecvframeCnt := uint (s.freeRecvframeCnt - 1) } else s)

/-- `rtw_free_recvframe` to the free queue. -/
def rtwFreeRecvframe (s : RecvPool) (f : FrameId) : RecvPool :=
  let s := (s.listDelInit f).setFrame f { s.frames f with len := 0 }
  let s := s.listAddTail .freeRecvQueue f
  { s with freeRecvframeCnt := uint (s.freeRecvframeCnt + 1) }

/-- `rtw_free_recvframe_queue`. -/
def rtwFreeRecvframeQueue (s : RecvPool) (q : QueueId) : RecvPool := (s.queue q).foldl rtwFreeRecvframe s

/-- `rtw_enqueue_recvframe` to a queue that is not the free one. -/
def rtwEnqueueRecvframe (s : RecvPool) (f : FrameId) (q : QueueId) : RecvPool := (s.listDelInit f).listAddTail q f

theorem rtwInitRecvPriv_once (frames : FrameId → RecvFrame) : Once (rtwInitRecvPriv frames).queue := by
  constructor
  · intro q
    cases q with
    | freeRecvQueue =>
      have hfree : (rtwInitRecvPriv frames).queue .freeRecvQueue = List.finRange 256 := by
        unfold rtwInitRecvPriv
        dsimp only
      exact hfree ▸ List.nodup_finRange 256
    | ucSwdecPendingQueue => exact List.nodup_nil
    | defragQ psta => exact List.nodup_nil
    | pendingRecvframeQueue psta tid => exact List.nodup_nil
  · intro f q q' hq hq'
    have hfree : ∀ q, f ∈ (rtwInitRecvPriv frames).queue q → q = .freeRecvQueue := by
      intro q hq
      cases q with
      | freeRecvQueue => rfl
      | _ => exact absurd hq List.not_mem_nil
    rw [hfree q hq, hfree q' hq']

/-! ## Freeing a queue -/

theorem freeLoop_queue (l : List FrameId) (r : RecvPool) : (l.foldl rtwFreeRecvframe r).queue =
    l.foldl (fun ls f => moveTail ls .freeRecvQueue f) r.queue := by
  induction l generalizing r with
  | nil => rfl
  | cons f rest ih =>
    rw [List.foldl_cons, ih]
    rfl

theorem freeLoop_cnt (l : List FrameId) (r : RecvPool) (hcnt : r.freeRecvframeCnt < 2 ^ 32) :
    (l.foldl rtwFreeRecvframe r).freeRecvframeCnt = uint (r.freeRecvframeCnt + l.length) := by
  induction l generalizing r with
  | nil => exact (uint_natCast _ hcnt).symm
  | cons f rest ih =>
    have hone : (r.rtwFreeRecvframe f).freeRecvframeCnt = uint (r.freeRecvframeCnt + 1) := rfl
    rw [List.foldl_cons, ih _ (hone ▸ uint_lt _), hone, uint_add, List.length_cons]
    push_cast
    congr 1
    ring

end RecvPool

end Rtl8723au
