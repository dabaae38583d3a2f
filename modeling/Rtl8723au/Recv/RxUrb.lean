import Rtl8723au.Library.GuardedRuns
import Rtl8723au.Recv.RecvBuf
import Mathlib.Algebra.BigOperators.Fin

/-! The bulk-in transfers of `hal/usb_ops_linux.c`: `usb_read_port` gives an skb to a URB, `usb_read_port_complete` queues
the skb and starts the URB anew, `rtl8192cu_recv_tasklet` works the queue off and puts the skbs back. Skbs are numbered as
they are allocated. Completion handlers run one behind the other, and side by side with the tasklet. -/
namespace Rtl8723au
namespace RxUrb
open RecvBuf
set_option autoImplicit false

def MAX_CONTINUAL_URB_ERR : ℕ := 4

/-- One of the `NR_RECVBUFF` receive buffers. -/
abbrev BufId := Fin 4

/-- `struct recv_buf`, and whether its URB is on its way. -/
structure RecvBuf where
  pskb : Option ℕ := none
  reuse : Bool := false
  urb : Bool := false

structure Flags where
  bDriverStopped : Bool := false
  bSurpriseRemoved : Bool := false
  bReadPortCancel : Bool := false
  pnpBstopTrx : Bool := false

/-- Where the completion handler of a transfer that went well has got to: behind `skb_queue_tail`, or behind the look at the
length of the queue. -/
inductive Handler
  | idle
  | queued (i : BufId)
  | looked (i : BufId)

/-- The handler is at this buffer, whose skb it has queued. -/
def Handler.At (i : BufId) : Handler → Prop
  | .idle => False
  | .queued j | .looked j => j = i

instance (i : BufId) : DecidablePred (Handler.At i)
  | .idle => inferInstanceAs (Decidable False)
  | .queued j => inferInstanceAs (Decidable (j = i))
  | .looked j => inferInstanceAs (Decidable (j = i))

inductive Tasklet
  | idle
  | running
  /-- Behind `skb_dequeue`. -/
  | dequeued (skb : ℕ)
  /-- Behind `recvbuf2recvframe`. -/
  | holding (skb : ℕ)

/-- `struct recv_priv`. `lost` are skbs to which no pointer is left, `freed` those given back to the kernel; `arrived` is
what came in, and `done` what the tasklet took, with whether it was handed to `recvbuf2recvframe`. -/
structure RecvPriv (α : Type) where
  flags : Flags
  buf : BufId → RecvBuf
  freeRecvSkbQueue : List ℕ
  rxSkbQueue : List ℕ
  rxPendingCnt : ℕ
  continualUrbError : ℕ
  handler : Handler
  tasklet : Tasklet
  /-- `tasklet_schedule` was called and the tasklet has not started since. -/
  scheduled : Bool
  next : ℕ
  /-- The contents of the skbs. -/
  mem : ℕ → α
  lost : List ℕ
  freed : List ℕ
  arrived : List α
  done : List (α × Bool)

variable {α : Type}

/-- The state behind `rtl8192cu_init_recv_priv`, when so many skbs could be allocated. -/
def initRecvPriv (n : ℕ) (mem : ℕ → α) : RecvPriv α where
  flags := {}
  buf := fun _ => {}
  freeRecvSkbQueue := List.range n
  rxSkbQueue := []
  rxPendingCnt := 0
  continualUrbError := 0
  handler := .idle
  tasklet := .idle
  scheduled := false
  next := n
  mem := mem
  lost := []
  freed := []
  arrived := []
  done := []

namespace RecvPriv

def setBuf (p : RecvPriv α) (i : BufId) (b : RecvBuf) : RecvPriv α := { p with buf := Function.update p.buf i b }

/-- `precvbuf->reuse = r`. -/
def setReuse (p : RecvPriv α) (i : BufId) (r : Bool) : RecvPriv α := p.setBuf i { p.buf i with reuse := r }

/-- `precvbuf->pskb = s`: what it pointed to is lost. -/
def setPskb (p : RecvPriv α) (i : BufId) (s : Option ℕ) : RecvPriv α :=
  { p.setBuf i { p.buf i with pskb := s } with lost := (p.buf i).pskb.toList ++ p.lost }

/-- `precvbuf->pskb = NULL` where the skb is in the queue. -/
def dropPskb (p : RecvPriv α) (i : BufId) : RecvPriv α := p.setBuf i { p.buf i with pskb := none }

/-- `if (NULL != (precvbuf->pskb = skb_dequeue(..))) precvbuf->reuse = _TRUE`. -/
def takePrealloc (p : RecvPriv α) (i : BufId) : RecvPriv α :=
  match p.freeRecvSkbQueue with
  | [] => p.setPskb i none
  | s :: rest => ({ p with freeRecvSkbQueue := rest }.setPskb i (some s)).setReuse i true

/-- `precvbuf->pskb = netdev_alloc_skb(..)`. -/
def takeFresh (p : RecvPriv α) (i : BufId) : RecvPriv α := { p with next := p.next + 1 }.setPskb i (some p.next)

end RecvPriv

/-! ## `usb_read_port` -/

inductive Submit
  | ok
  | EPERM
  | failed
  deriving DecidableEq

/-- What the kernel says to `usb_read_port`. -/
structure ReadEnv where
  alloc : Bool
  submit : Submit

/-- `precvbuf->reuse == _FALSE || precvbuf->pskb == NULL`. -/
def NeedsSkb (b : RecvBuf) : Prop := b.reuse = false ∨ b.pskb = none

instance (b : RecvBuf) : Decidable (NeedsSkb b) := inferInstanceAs (Decidable (_ ∨ _))

def submitUrb (p : RecvPriv α) (i : BufId) (submit : Submit) : Bool × RecvPriv α :=
  let p := { p with rxPendingCnt := (p.rxPendingCnt + 1) % 256 }
  (decide (submit ≠ .failed), p.setBuf i { p.buf i with urb := decide (submit = .ok) })

/-- `usb_read_port`: whether it succeeded, and the state. -/
def usbReadPort (p : RecvPriv α) (i : BufId) (env : ReadEnv) : Bool × RecvPriv α :=
  if p.flags.bDriverStopped || p.flags.bSurpriseRemoved || p.flags.pnpBstopTrx then (false, p)
  else
    let p := if NeedsSkb (p.buf i) then p.takePrealloc i else p
    if NeedsSkb (p.buf i) then
      if env.alloc then submitUrb (p.takeFresh i) i env.submit else (false, p.setPskb i none)
    else submitUrb (p.setReuse i false) i env.submit

/-! ## The steps -/

/-- How a transfer ended. -/
inductive UrbStatus
  | success (actualLength : ℕ)
  | EINVAL
  | EPIPE
  | ENODEV
  | ESHUTDOWN
  | ENOENT
  | EPROTO
  | EOVERFLOW
  | EINPROGRESS
  | other

inductive Ev (α : Type)
  /-- Another thread sets or clears a flag. -/
  | flags (f : Flags)
  /-- `rtl8723au_inirp_init` comes to a buffer. -/
  | inirp (i : BufId) (env : ReadEnv)
  /-- `usb_read_port_cancel` comes to a buffer; that `usb_kill_urb` ends the transfer is a completion of its own. -/
  | cancel (i : BufId)
  /-- The device writes into the memory of a transfer. -/
  | dma (i : BufId) (x : α)
  | complete (i : BufId) (status : UrbStatus) (env : ReadEnv)
  /-- `if (skb_queue_len(..) <= 1) tasklet_schedule(..)`. -/
  | look
  /-- The handler's last steps, with `usb_read_port`. -/
  | resubmit (env : ReadEnv)
  /-- The tasklet starts. -/
  | softirq
  | dequeue
  /-- The tasklet looks at the flags, and hands the skb to `recvbuf2recvframe` or leaves its loop. -/
  | work
  | requeue

/-- What the handler does with a transfer that failed, behind the loss of its skb. -/
def onError (p : RecvPriv α) (i : BufId) (status : UrbStatus) (env : ReadEnv) : RecvPriv α :=
  match status with
  | .EINVAL | .EPIPE | .ENODEV | .ESHUTDOWN | .ENOENT => { p with flags := { p.flags with bDriverStopped := true } }
  | .EPROTO | .EOVERFLOW => (usbReadPort (p.setReuse i true) i env).2
  | .success _ | .EINPROGRESS | .other => p

def landed (p : RecvPriv α) (i : BufId) : RecvPriv α :=
  { p with rxPendingCnt := (p.rxPendingCnt + 255) % 256 }.setBuf i { p.buf i with urb := false }

/-- `skb_queue_tail`. -/
def queueSkb (p : RecvPriv α) (i : BufId) (s : ℕ) : RecvPriv α :=
  { p with
    continualUrbError := 0
    rxSkbQueue := p.rxSkbQueue ++ [s]
    arrived := p.arrived ++ [p.mem s]
    handler := .queued i }

/-- The transfer failed: its skb is lost, and the errors in a row are counted. -/
def failed (p : RecvPriv α) (i : BufId) : RecvPriv α :=
  let flags := if MAX_CONTINUAL_URB_ERR < p.continualUrbError + 1 then { p.flags with bSurpriseRemoved := true } else p.flags
  { p.setPskb i none with flags := flags, continualUrbError := p.continualUrbError + 1 }

/-- `usb_read_port_complete` up to the queue; nothing where `skb_put` has no skb. -/
def usbReadPortComplete (p : RecvPriv α) (i : BufId) (status : UrbStatus) (env : ReadEnv) : Option (RecvPriv α) :=
  let p := landed p i
  if p.flags.bSurpriseRemoved || p.flags.bDriverStopped || p.flags.bReadPortCancel then some (p.setReuse i true)
  else
    match status with
    | .success n =>
      if MAX_RECVBUF_SZ < n ∨ n < RXDESC_SIZE then some (usbReadPort (p.setReuse i true) i env).2
      else (p.buf i).pskb.map fun s => queueSkb p i s
    | status => (p.buf i).pskb.map fun _ => onError (failed p i) i status env

def step (p : RecvPriv α) : Ev α → Option (RecvPriv α)
  | .flags f => some { p with flags := f }
  | .inirp i env => if (p.buf i).urb = true ∨ Handler.At i p.handler then none else some (usbReadPort p i env).2
  | .cancel i => some ({ p with flags := { p.flags with bReadPortCancel := true } }.setReuse i true)
  | .dma i x =>
    match (p.buf i).urb, (p.buf i).pskb with
    | true, some s => some { p with mem := Function.update p.mem s x }
    | _, _ => none
  | .complete i status env =>
    match (p.buf i).urb, p.handler with
    | true, .idle => usbReadPortComplete p i status env
    | _, _ => none
  | .look =>
    match p.handler with
    | .queued i => some { p with scheduled := p.scheduled || decide (p.rxSkbQueue.length ≤ 1), handler := .looked i }
    | _ => none
  | .resubmit env =>
    match p.handler with
    | .looked i => some (usbReadPort { (p.dropPskb i).setReuse i false with handler := .idle } i env).2
    | _ => none
  | .softirq =>
    match p.tasklet, p.scheduled with
    | .idle, true => some { p with tasklet := .running, scheduled := false }
    | _, _ => none
  | .dequeue =>
    match p.tasklet, p.rxSkbQueue with
    | .running, [] => some { p with tasklet := .idle }
    | .running, s :: rest => some { p with tasklet := .dequeued s, rxSkbQueue := rest }
    | _, _ => none
  | .work =>
    match p.tasklet with
    | .dequeued s =>
      if p.flags.bDriverStopped || p.flags.bSurpriseRemoved then
        some { p with tasklet := .idle, freed := s :: p.freed, done := p.done ++ [(p.mem s, false)] }
      else some { p with tasklet := .holding s, done := p.done ++ [(p.mem s, true)] }
    | _ => none
  | .requeue =>
    match p.tasklet with
    | .holding s => some { p with tasklet := .running, freeRecvSkbQueue := p.freeRecvSkbQueue ++ [s] }
    | _ => none

def run (n : ℕ) (mem : ℕ → α) (l : List (Ev α)) : Option (RecvPriv α) := GuardedRuns.run step (initRecvPriv n mem) l

/-! ## Where an skb is -/

def Tasklet.skb : Tasklet → Option ℕ
  | .idle | .running => none
  | .dequeued s | .holding s => some s

namespace RecvPriv

/-- The skb that a buffer has for itself: what the handler has queued belongs to the queue. -/
def owned (p : RecvPriv α) (i : BufId) : Option ℕ := if Handler.At i p.handler then none else (p.buf i).pskb

def places (p : RecvPriv α) (x : ℕ) : ℕ :=
  p.freeRecvSkbQueue.count x + p.rxSkbQueue.count x + p.tasklet.skb.toList.count x + ∑ i, (p.owned i).toList.count x +
    p.lost.count x + p.freed.count x

def surplus (p : RecvPriv α) (x : ℕ) : ℤ := p.places x - if x < p.next then 1 else 0

/-- What `usb_read_port` leaves alone. -/
def kept (p : RecvPriv α) : List ℕ × Handler × Tasklet × Bool × (ℕ → α) × List α × List (α × Bool) :=
  (p.rxSkbQueue, p.handler, p.tasklet, p.scheduled, p.mem, p.arrived, p.done)

end RecvPriv

theorem sum_change {f g : BufId → ℕ} (i : BufId) (h : ∀ j, j ≠ i → g j = f j) : ∑ j, g j + f i = ∑ j, f j + g i := by
  rw [← Finset.add_sum_erase Finset.univ f (Finset.mem_univ i), ← Finset.add_sum_erase Finset.univ g (Finset.mem_univ i),
    Finset.sum_congr rfl fun j hj => h j (Finset.ne_of_mem_erase hj)]
  ring

section Places
variable {p : RecvPriv α} {i : BufId}

theorem places_setBuf (b : RecvBuf) (x : ℕ) : (p.setBuf i b).places x + (p.owned i).toList.count x =
    p.places x + ((p.setBuf i b).owned i).toList.count x := by
  have hsum := sum_change (f := fun j => (p.owned j).toList.count x) (g := fun j => ((p.setBuf i b).owned j).toList.count x)
    i fun j hj => by simp only [RecvPriv.owned, RecvPriv.setBuf, Function.update_of_ne hj]
  simp only [RecvPriv.places]
  show p.freeRecvSkbQueue.count x + p.rxSkbQueue.count x + p.tasklet.skb.toList.count x + _ + p.lost.count x +
    p.freed.count x + _ = _
  omega

theorem places_setBuf_same {b : RecvBuf} (hb : b.pskb = (p.buf i).pskb) (x : ℕ) : (p.setBuf i b).places x = p.places x := by
  have h := places_setBuf (p := p) (i := i) b x
  have howned : (p.setBuf i b).owned i = p.owned i := by
    simp only [RecvPriv.owned, RecvPriv.setBuf, Function.update_self, hb]
  rw [howned] at h
  omega

theorem places_setPskb (hi : ¬ Handler.At i p.handler) (s : Option ℕ) (x : ℕ) :
    (p.setPskb i s).places x = p.places x + s.toList.count x := by
  have h := places_setBuf (p := p) (i := i) { p.buf i with pskb := s } x
  have hold : p.owned i = (p.buf i).pskb := if_neg hi
  have hnew : (p.setBuf i { p.buf i with pskb := s }).owned i = s := by
    simp only [RecvPriv.owned, RecvPriv.setBuf, Function.update_self]
    exact if_neg hi
  have hlost : (p.setPskb i s).places x =
      (p.setBuf i { p.buf i with pskb := s }).places x + (p.buf i).pskb.toList.count x := by
    simp only [RecvPriv.places, RecvPriv.setPskb, List.count_append]
    show _ + ∑ j, ((p.setBuf i { p.buf i with pskb := s }).owned j).toList.count x + _ + _ = _
    simp only [RecvPriv.setBuf]
    omega
  rw [hold, hnew] at h
  omega

theorem setPskb_surplus (hi : ¬ Handler.At i p.handler) (x : ℕ) : (p.setPskb i none).surplus x = p.surplus x := by
  have h := places_setPskb hi none x
  simp only [RecvPriv.surplus, h]
  rfl

theorem setReuse_surplus (r : Bool) (x : ℕ) : (p.setReuse i r).surplus x = p.surplus x := by
  have h := places_setBuf_same (p := p) (i := i) (b := { p.buf i with reuse := r }) rfl x
  simp only [RecvPriv.surplus, RecvPriv.setReuse, h]
  rfl

theorem takePrealloc_surplus (hi : ¬ Handler.At i p.handler) (x : ℕ) : (p.takePrealloc i).surplus x = p.surplus x := by
  unfold RecvPriv.takePrealloc
  split
  · exact setPskb_surplus hi x
  · rename_i s rest hfree
    rw [setReuse_surplus]
    have h := places_setPskb (p := { p with freeRecvSkbQueue := rest }) hi (some s) x
    have hold : p.places x = ({ p with freeRecvSkbQueue := rest } : RecvPriv α).places x + [s].count x := by
      simp only [RecvPriv.places, hfree, List.count_cons, List.count_nil]
      show _ + ∑ j, (p.owned j).toList.count x + _ + _ = _ + ∑ j, (p.owned j).toList.count x + _ + _ + _
      omega
    simp only [RecvPriv.surplus, h, hold]
    rfl

theorem takeFresh_surplus (hi : ¬ Handler.At i p.handler) (x : ℕ) : (p.takeFresh i).surplus x = p.surplus x := by
  have h := places_setPskb (p := { p with next := p.next + 1 }) hi (some p.next) x
  have hplaces : ({ p with next := p.next + 1 } : RecvPriv α).places x = p.places x := rfl
  rw [hplaces, Option.toList_some, List.count_singleton] at h
  simp only [RecvPriv.surplus, RecvPriv.takeFresh, h]
  show ((p.places x + if p.next == x then 1 else 0 : ℕ) : ℤ) - (if x < p.next + 1 then 1 else 0) = _
  by_cases hx : p.next = x
  · subst hx
    simp
  · have hlt : x < p.next + 1 ↔ x < p.next := by omega
    simp [hx, hlt]

end Places

/-! ## What `usb_read_port` does -/

/-- An skb is moved to or from a buffer. -/
structure Moves (i : BufId) (p q : RecvPriv α) : Prop where
  surplus : ∀ x, q.surplus x = p.surplus x
  others : ∀ j, j ≠ i → q.buf j = p.buf j
  kept : q.kept = p.kept

section Moves
variable {p q r : RecvPriv α} {i : BufId}

theorem Moves.refl (i : BufId) (p : RecvPriv α) : Moves i p p := ⟨fun _ => rfl, fun _ _ => rfl, rfl⟩

theorem Moves.trans (h : Moves i p q) (h' : Moves i q r) : Moves i p r :=
  ⟨fun x => (h'.surplus x).trans (h.surplus x), fun j hj => (h'.others j hj).trans (h.others j hj), h'.kept.trans h.kept⟩

theorem Moves.handler (h : Moves i p q) : q.handler = p.handler := congrArg (fun k => k.2.1) h.kept

theorem moves_setReuse (r : Bool) : Moves i p (p.setReuse i r) :=
  ⟨setReuse_surplus r, fun _ hj => Function.update_of_ne hj _ _, rfl⟩

theorem moves_setPskb (hi : ¬ Handler.At i p.handler) : Moves i p (p.setPskb i none) :=
  ⟨setPskb_surplus hi, fun _ hj => Function.update_of_ne hj _ _, rfl⟩

theorem moves_takeFresh (hi : ¬ Handler.At i p.handler) : Moves i p (p.takeFresh i) :=
  ⟨takeFresh_surplus hi, fun _ hj => Function.update_of_ne hj _ _, rfl⟩

theorem moves_takePrealloc (hi : ¬ Handler.At i p.handler) : Moves i p (p.takePrealloc i) := by
  refine ⟨takePrealloc_surplus hi, fun j hj => ?_, ?_⟩ <;> unfold RecvPriv.takePrealloc <;> split
  · exact Function.update_of_ne hj _ _
  · exact (Function.update_of_ne hj _ _).trans (Function.update_of_ne hj _ _)
  · rfl
  · rfl

theorem moves_submitUrb (submit : Submit) : Moves i p (submitUrb p i submit).2 := by
  refine ⟨fun x => ?_, fun _ hj => Function.update_of_ne hj _ _, rfl⟩
  have h := places_setBuf_same (p := { p with rxPendingCnt := (p.rxPendingCnt + 1) % 256 }) (i := i)
    (b := { p.buf i with urb := decide (submit = .ok) }) rfl x
  simp only [RecvPriv.surplus, submitUrb, h]
  rfl

theorem moves_usbReadPort (hi : ¬ Handler.At i p.handler) (env : ReadEnv) : Moves i p (usbReadPort p i env).2 := by
  unfold usbReadPort
  split
  · exact .refl i p
  have hfirst : Moves i p (if NeedsSkb (p.buf i) then p.takePrealloc i else p) := by
    split
    · exact moves_takePrealloc hi
    · exact .refl i p
  set q := if NeedsSkb (p.buf i) then p.takePrealloc i else p
  have hq : ¬ Handler.At i q.handler := by rwa [hfirst.handler]
  dsimp only
  split
  · split
    · exact (hfirst.trans (moves_takeFresh hq)).trans (moves_submitUrb env.submit)
    · exact hfirst.trans (moves_setPskb hq)
  · exact (hfirst.trans (moves_setReuse false)).trans (moves_submitUrb env.submit)

theorem usbReadPort_urb (env : ReadEnv) (hurb : (p.buf i).urb = false) (h : ((usbReadPort p i env).2.buf i).urb = true) :
    ((usbReadPort p i env).2.buf i).pskb.isSome := by
  unfold usbReadPort at h ⊢
  split
  · rename_i hstop
    rw [if_pos hstop, hurb] at h
    cases h
  rename_i hstop
  rw [if_neg hstop] at h
  have hfirst : ((if NeedsSkb (p.buf i) then p.takePrealloc i else p).buf i).urb = false := by
    split
    · unfold RecvPriv.takePrealloc
      split <;> simp [RecvPriv.setReuse, RecvPriv.setPskb, RecvPriv.setBuf, hurb]
    · exact hurb
  set q := if NeedsSkb (p.buf i) then p.takePrealloc i else p
  dsimp only at h ⊢
  by_cases hneeds : NeedsSkb (q.buf i)
  · rw [if_pos hneeds] at h ⊢
    by_cases halloc : env.alloc = true
    · rw [if_pos halloc]
      simp [submitUrb, RecvPriv.takeFresh, RecvPriv.setPskb, RecvPriv.setBuf]
    · rw [if_neg halloc] at h
      simp [RecvPriv.setPskb, RecvPriv.setBuf, hfirst] at h
  · rw [if_neg hneeds]
    have hsome : (q.buf i).pskb ≠ none := fun hnone => hneeds (.inr hnone)
    simpa [submitUrb, RecvPriv.setReuse, RecvPriv.setBuf, Option.isSome_iff_ne_none] using hsome

end Moves

/-! ## The invariant -/

namespace RecvPriv

/-- What has come in and was not looked at yet. -/
def pending (p : RecvPriv α) : List ℕ :=
  match p.tasklet with
  | .dequeued s => s :: p.rxSkbQueue
  | _ => p.rxSkbQueue

/-- Every skb is in one place, a URB on its way has one, and what the tasklet took and what is left for it is what came in,
unchanged. -/
structure Sound (p : RecvPriv α) : Prop where
  once : ∀ x, p.surplus x = 0
  flying : ∀ i, (p.buf i).urb = true → (p.buf i).pskb.isSome ∧ ¬ Handler.At i p.handler
  log : p.arrived = p.done.map Prod.fst ++ p.pending.map p.mem

end RecvPriv

section Sound
variable {p q : RecvPriv α} {i : BufId}

theorem surplus_of_places (hnext : q.next = p.next) (hplaces : ∀ x, q.places x = p.places x) (x : ℕ) :
    q.surplus x = p.surplus x := by
  rw [RecvPriv.surplus, RecvPriv.surplus, hnext, hplaces]

theorem log_of_kept (hkept : q.kept = p.kept) (h : p.arrived = p.done.map Prod.fst ++ p.pending.map p.mem) :
    q.arrived = q.done.map Prod.fst ++ q.pending.map q.mem := by
  simp only [RecvPriv.kept, Prod.mk.injEq] at hkept
  obtain ⟨hrx, -, htasklet, -, hmem, harrived, hdone⟩ := hkept
  rw [harrived, hdone, hmem, RecvPriv.pending, htasklet, hrx]
  exact h

theorem Moves.sound (h : Moves i p q) (hp : p.Sound)
    (hown : (q.buf i).urb = true → (q.buf i).pskb.isSome ∧ ¬ Handler.At i q.handler) : q.Sound where
  once x := (h.surplus x).trans (hp.once x)
  flying j hj := by
    by_cases hji : j = i
    · subst hji
      exact hown hj
    · rw [h.others j hji] at hj ⊢
      rw [h.handler]
      exact hp.flying j hj
  log := log_of_kept h.kept hp.log

theorem sound_usbReadPort (hp : p.Sound) (hi : ¬ Handler.At i p.handler) (hurb : (p.buf i).urb = false) (env : ReadEnv) :
    (usbReadPort p i env).2.Sound := by
  have hmoves := moves_usbReadPort hi env
  refine hmoves.sound hp fun h => ⟨usbReadPort_urb env hurb h, ?_⟩
  rwa [hmoves.handler]

theorem sound_setReuse (hp : p.Sound) (r : Bool) : (p.setReuse i r).Sound := by
  refine (moves_setReuse r).sound hp fun h => ?_
  simp only [RecvPriv.setReuse, RecvPriv.setBuf, Function.update_self] at h ⊢
  exact hp.flying i h

theorem flying_alone (hp : p.Sound) {s : ℕ} (hurb : (p.buf i).urb = true) (hs : (p.buf i).pskb = some s) :
    s ∉ p.pending ∧ s ∉ p.freeRecvSkbQueue ∧ p.tasklet.skb ≠ some s ∧ ∀ j, j ≠ i → (p.buf j).urb = true →
      (p.buf j).pskb ≠ some s := by
  have hone := hp.once s
  have howned : ∀ j, (p.buf j).urb = true → p.owned j = (p.buf j).pskb := fun j hj => if_neg (hp.flying j hj).2
  have hown : (p.owned i).toList.count s = 1 := by
    rw [howned i hurb, hs, Option.toList_some, List.count_singleton, beq_self_eq_true, if_pos rfl]
  have hsum : ∀ j, j ≠ i → (p.owned j).toList.count s + 1 ≤ ∑ k, (p.owned k).toList.count s := by
    intro j hj
    have hpair := Finset.sum_le_sum_of_subset (f := fun k => (p.owned k).toList.count s) (Finset.subset_univ {j, i})
    rwa [Finset.sum_pair hj, hown] at hpair
  have hsingle : 1 ≤ ∑ k, (p.owned k).toList.count s := by
    rw [← hown]
    exact Finset.single_le_sum (f := fun k => (p.owned k).toList.count s) (fun _ _ => Nat.zero_le _) (Finset.mem_univ i)
  have hle : p.places s ≤ 1 := by
    rw [RecvPriv.surplus] at hone
    split at hone <;> omega
  rw [RecvPriv.places] at hle
  have htasklet : p.tasklet.skb ≠ some s := by
    intro h
    rw [h, Option.toList_some, List.count_singleton, beq_self_eq_true, if_pos rfl] at hle
    omega
  have hrx : s ∉ p.rxSkbQueue := List.count_eq_zero.mp (by omega)
  refine ⟨?_, List.count_eq_zero.mp (by omega), htasklet, fun j hj hurbj hsj => ?_⟩
  · rw [RecvPriv.pending]
    split
    · rename_i t ht
      rw [List.mem_cons, not_or]
      refine ⟨?_, hrx⟩
      rintro rfl
      exact htasklet (by rw [ht]; rfl)
    · exact hrx
  · have hmore := hsum j hj
    rw [howned j hurbj, hsj, Option.toList_some, List.count_singleton, beq_self_eq_true, if_pos rfl] at hmore
    omega

theorem moves_landed : Moves i p (landed p i) :=
  ⟨surplus_of_places rfl (places_setBuf_same (p := { p with rxPendingCnt := (p.rxPendingCnt + 255) % 256 }) rfl),
    fun _ hj => Function.update_of_ne hj _ _, rfl⟩

theorem landed_urb : ((landed p i).buf i).urb = false := by simp [landed, RecvPriv.setBuf]

theorem sound_landed (hp : p.Sound) : (landed p i).Sound :=
  moves_landed.sound hp fun h => absurd h (by rw [landed_urb]; decide)

theorem pending_queueSkb (s : ℕ) : (queueSkb p i s).pending = p.pending ++ [s] := by
  simp only [RecvPriv.pending, queueSkb]
  split
  · rw [List.cons_append]
  · rfl

theorem sound_queueSkb {s : ℕ} (hp : p.Sound) (hidle : p.handler = .idle) (hurb : (p.buf i).urb = false)
    (hs : (p.buf i).pskb = some s) : (queueSkb p i s).Sound where
  once x := by
    rw [← hp.once x]
    refine surplus_of_places (p := p) (q := queueSkb p i s) rfl (fun x => ?_) x
    have hsum := sum_change (f := fun j => (p.owned j).toList.count x) (g := fun j => ((queueSkb p i s).owned j).toList.count x)
      i fun j hj => by
        rw [RecvPriv.owned, RecvPriv.owned, hidle]
        exact congrArg (fun o => List.count x (Option.toList o))
          ((if_neg (fun h : i = j => hj h.symm)).trans (if_neg (fun h : False => h)).symm)
    have hold : p.owned i = some s := by
      rw [RecvPriv.owned, hidle]
      exact (if_neg (fun h : False => h)).trans hs
    have hnew : (queueSkb p i s).owned i = none := if_pos rfl
    rw [hold, hnew, Option.toList_none, List.count_nil, Option.toList_some] at hsum
    have hrx : (queueSkb p i s).rxSkbQueue.count x = p.rxSkbQueue.count x + [s].count x := List.count_append
    simp only [RecvPriv.places, hrx]
    show p.freeRecvSkbQueue.count x + _ + p.tasklet.skb.toList.count x + _ + p.lost.count x + p.freed.count x = _
    omega
  flying j hj := by
    refine ⟨(hp.flying j hj).1, ?_⟩
    rintro rfl
    change (p.buf i).urb = true at hj
    rw [hurb] at hj
    cases hj
  log := by
    show p.arrived ++ [p.mem s] = p.done.map Prod.fst ++ (queueSkb p i s).pending.map p.mem
    rw [pending_queueSkb, hp.log, List.map_append, List.append_assoc]
    rfl

theorem sound_flags (hp : p.Sound) (f : Flags) (n : ℕ) :
    ({ p with flags := f, continualUrbError := n } : RecvPriv α).Sound := ⟨hp.once, hp.flying, hp.log⟩

theorem sound_failed (hp : p.Sound) (hi : ¬ Handler.At i p.handler) (hurb : (p.buf i).urb = false) : (failed p i).Sound :=
  sound_flags ((moves_setPskb hi).sound hp fun h => absurd h (by simp [RecvPriv.setPskb, RecvPriv.setBuf, hurb])) _ _

theorem sound_onError (hp : p.Sound) (hi : ¬ Handler.At i p.handler) (hurb : (p.buf i).urb = false) (status : UrbStatus)
    (env : ReadEnv) : (onError p i status env).Sound := by
  have hretry : (usbReadPort (p.setReuse i true) i env).2.Sound :=
    sound_usbReadPort (sound_setReuse hp true) hi (by simp [RecvPriv.setReuse, RecvPriv.setBuf, hurb]) env
  have hstop := sound_flags hp { p.flags with bDriverStopped := true } p.continualUrbError
  unfold onError
  split <;> assumption

theorem sound_usbReadPortComplete (hp : p.Sound) (hidle : p.handler = .idle) {status : UrbStatus} {env : ReadEnv}
    (h : usbReadPortComplete p i status env = some q) : q.Sound := by
  have hlanded : (landed p i).Sound := sound_landed hp
  have hidle' : (landed p i).handler = .idle := hidle
  have hi : ¬ Handler.At i (landed p i).handler := by
    rw [hidle']
    exact fun h => h
  have hurb : ((landed p i).buf i).urb = false := landed_urb
  unfold usbReadPortComplete at h
  dsimp only at h
  split at h
  · obtain rfl := Option.some.inj h
    exact sound_setReuse hlanded true
  split at h
  · split at h
    · obtain rfl := Option.some.inj h
      exact sound_usbReadPort (sound_setReuse hlanded true) hi (by simp [RecvPriv.setReuse, RecvPriv.setBuf, hurb]) env
    · obtain ⟨s, hs, rfl⟩ := Option.map_eq_some_iff.mp h
      exact sound_queueSkb hlanded hidle' hurb hs
  · obtain ⟨s, hs, rfl⟩ := Option.map_eq_some_iff.mp h
    refine sound_onError (sound_failed hlanded hi hurb) hi ?_ _ env
    simp [failed, RecvPriv.setPskb, RecvPriv.setBuf, hurb]

theorem sound_dma {s : ℕ} (hp : p.Sound) (hurb : (p.buf i).urb = true) (hs : (p.buf i).pskb = some s) (x : α) :
    ({ p with mem := Function.update p.mem s x } : RecvPriv α).Sound where
  once := hp.once
  flying := hp.flying
  log := by
    have haway := (flying_alone hp hurb hs).1
    rw [show p.arrived = _ from hp.log]
    refine congrArg _ (List.map_congr_left fun t ht => ?_)
    exact (Function.update_of_ne (fun h => haway (by rwa [← h])) _ _).symm

theorem sound_look (hp : p.Sound) (hi : p.handler = .queued i) (b : Bool) :
    ({ p with scheduled := b, handler := .looked i } : RecvPriv α).Sound where
  once x := by
    rw [← hp.once x]
    refine surplus_of_places ?_ (fun x => ?_) x
    · rfl
    have howned : ∀ j, p.owned j = if Handler.At j (.looked i) then none else (p.buf j).pskb := by
      intro j
      rw [RecvPriv.owned, hi]
      rfl
    simp only [RecvPriv.places, howned]
    rfl
  flying j hj := by
    have h := hp.flying j hj
    rw [hi] at h
    exact h
  log := hp.log

theorem sound_resubmit (hp : p.Sound) (hi : p.handler = .looked i) :
    ({ (p.dropPskb i).setReuse i false with handler := .idle } : RecvPriv α).Sound where
  once x := by
    rw [← hp.once x]
    refine surplus_of_places ?_ (fun x => ?_) x
    · rfl
    have howned : ∀ j, p.owned j =
        if Handler.At j .idle then none else (((p.dropPskb i).setReuse i false).buf j).pskb := by
      intro j
      rw [RecvPriv.owned, hi]
      by_cases hj : i = j
      · subst hj
        rw [if_pos (show Handler.At i (.looked i) from rfl), if_neg (show ¬ Handler.At i .idle from fun h => h)]
        simp [RecvPriv.setReuse, RecvPriv.dropPskb, RecvPriv.setBuf]
      · rw [if_neg (show ¬ Handler.At j (.looked i) from hj), if_neg (show ¬ Handler.At j .idle from fun h => h)]
        simp [RecvPriv.setReuse, RecvPriv.dropPskb, RecvPriv.setBuf, Function.update_of_ne (Ne.symm hj)]
    simp only [RecvPriv.places, howned]
    rfl
  flying j hj := by
    have hji : j ≠ i := by
      rintro rfl
      have hurb : (p.buf j).urb = true := by simpa [RecvPriv.setReuse, RecvPriv.dropPskb, RecvPriv.setBuf] using hj
      exact (hp.flying j hurb).2 (by rw [hi]; rfl)
    have hbuf : ((p.dropPskb i).setReuse i false).buf j = p.buf j :=
      (Function.update_of_ne hji _ _).trans (Function.update_of_ne hji _ _)
    change (((p.dropPskb i).setReuse i false).buf j).urb = true at hj
    refine ⟨?_, fun h => h⟩
    show (((p.dropPskb i).setReuse i false).buf j).pskb.isSome
    rw [hbuf] at hj ⊢
    exact (hp.flying j hj).1
  log := hp.log

theorem sound_tasklet {t : Tasklet} {free rx freed : List ℕ} {done : List (α × Bool)} {b : Bool} (hp : p.Sound)
    (hplaces : ∀ x, free.count x + rx.count x + t.skb.toList.count x + freed.count x =
      p.freeRecvSkbQueue.count x + p.rxSkbQueue.count x + p.tasklet.skb.toList.count x + p.freed.count x)
    (hlog : done.map Prod.fst ++ (RecvPriv.pending { p with tasklet := t, rxSkbQueue := rx }).map p.mem =
      p.done.map Prod.fst ++ p.pending.map p.mem) :
    ({ p with tasklet := t, freeRecvSkbQueue := free, rxSkbQueue := rx, freed := freed, done := done,
              scheduled := b } : RecvPriv α).Sound where
  once x := by
    rw [← hp.once x]
    refine surplus_of_places ?_ (fun x => ?_) x
    · rfl
    have h := hplaces x
    simp only [RecvPriv.places]
    show _ + _ + _ + ∑ j, (p.owned j).toList.count x + _ + _ = _
    omega
  flying := hp.flying
  log := hp.log.trans hlog.symm

theorem sound_step {e : Ev α} (hp : p.Sound) (h : step p e = some q) : q.Sound := by
  cases e with
  | flags f =>
    obtain rfl := Option.some.inj h
    exact sound_flags hp f _
  | inirp i env =>
    rw [step] at h
    split at h
    · cases h
    rename_i hguard
    obtain ⟨hurb, hi⟩ := not_or.mp hguard
    obtain rfl := Option.some.inj h
    exact sound_usbReadPort hp hi (by simpa using hurb) env
  | cancel i =>
    obtain rfl := Option.some.inj h
    exact sound_setReuse (sound_flags hp _ _) true
  | dma i x =>
    rw [step] at h
    split at h
    · rename_i s hurb hs
      obtain rfl := Option.some.inj h
      exact sound_dma hp hurb hs x
    · cases h
  | complete i status env =>
    rw [step] at h
    split at h
    · exact sound_usbReadPortComplete hp ‹_› h
    · cases h
  | look =>
    rw [step] at h
    split at h
    · rename_i i hi
      obtain rfl := Option.some.inj h
      exact sound_look hp hi _
    · cases h
  | resubmit env =>
    rw [step] at h
    split at h
    · rename_i i hi
      obtain rfl := Option.some.inj h
      refine sound_usbReadPort (sound_resubmit hp hi) (fun h => h) ?_ env
      simp only [RecvPriv.setReuse, RecvPriv.dropPskb, RecvPriv.setBuf, Function.update_self]
      by_contra hurb
      exact (hp.flying i (by simpa using hurb)).2 (by rw [hi]; rfl)
    · cases h
  | softirq =>
    rw [step] at h
    split at h
    · rename_i ht _
      obtain rfl := Option.some.inj h
      exact sound_tasklet hp (fun x => by rw [ht]; rfl) (by simp only [RecvPriv.pending, ht])
    · cases h
  | dequeue =>
    rw [step] at h
    split at h
    · rename_i ht hrx
      obtain rfl := Option.some.inj h
      exact sound_tasklet hp (fun x => by rw [ht]; rfl) (by simp only [RecvPriv.pending, ht])
    · rename_i s rest ht hrx
      obtain rfl := Option.some.inj h
      refine sound_tasklet hp (fun x => ?_) (by simp only [RecvPriv.pending, ht, hrx])
      rw [ht, hrx]
      simp only [Tasklet.skb, Option.toList_some, Option.toList_none, List.count_cons, List.count_nil]
      omega
    · cases h
  | work =>
    rw [step] at h
    split at h
    · rename_i s ht
      split at h
      · obtain rfl := Option.some.inj h
        refine sound_tasklet hp (fun x => ?_) ?_
        · rw [ht]
          simp only [Tasklet.skb, Option.toList_some, Option.toList_none, List.count_cons, List.count_nil]
          omega
        · simp [RecvPriv.pending, ht]
      · obtain rfl := Option.some.inj h
        refine sound_tasklet hp (fun x => by rw [ht]; rfl) ?_
        simp [RecvPriv.pending, ht]
    · cases h
  | requeue =>
    rw [step] at h
    split at h
    · rename_i s ht
      obtain rfl := Option.some.inj h
      refine sound_tasklet hp (fun x => ?_) (by simp only [RecvPriv.pending, ht])
      rw [ht]
      simp only [Tasklet.skb, Option.toList_some, Option.toList_none, List.count_append, List.count_nil]
      omega
    · cases h

theorem sound_init (n : ℕ) (mem : ℕ → α) : (initRecvPriv n mem).Sound where
  once x := by
    have howned : ∀ j, (initRecvPriv n mem).owned j = none := fun j => by
      rw [RecvPriv.owned]
      split <;> rfl
    have hcount : (initRecvPriv n mem).places x = (List.range n).count x := by
      simp only [RecvPriv.places, howned, Option.toList_none, List.count_nil, Finset.sum_const_zero]
      rfl
    rw [RecvPriv.surplus, hcount]
    show ((List.range n).count x : ℤ) - (if x < n then 1 else 0) = 0
    by_cases hx : x < n
    · rw [List.count_eq_one_of_mem List.nodup_range (List.mem_range.mpr hx), if_pos hx]
      rfl
    · rw [List.count_eq_zero.mpr fun h => hx (List.mem_range.mp h), if_neg hx]
      rfl
  flying _ h := by cases h
  log := rfl

theorem sound_run {n : ℕ} {mem : ℕ → α} {l : List (Ev α)} (hrun : run n mem l = some p) : p.Sound :=
  GuardedRuns.run_keeps (fun _ _ _ => sound_step) (sound_init n mem) hrun

end Sound

/-- **In every run the tasklet takes the transfers in the order in which they came in, each once and as the device left it,
and a URB on its way writes into an skb that is in no queue, not in the tasklet's hands and of no other URB.** -/
theorem rx_exact (n : ℕ) (mem : ℕ → α) (l : List (Ev α)) (p : RecvPriv α) (hrun : run n mem l = some p) :
    p.arrived = p.done.map Prod.fst ++ p.pending.map p.mem ∧
      (∀ x < p.next, p.places x = 1) ∧
      ∀ i, (p.buf i).urb = true → ∃ s, (p.buf i).pskb = some s ∧ s < p.next ∧ s ∉ p.rxSkbQueue ∧
        s ∉ p.freeRecvSkbQueue ∧ p.tasklet.skb ≠ some s ∧ ∀ j, j ≠ i → (p.buf j).urb = true → (p.buf j).pskb ≠ some s := by
  have hp := sound_run hrun
  refine ⟨hp.log, fun x hx => ?_, fun i hi => ?_⟩
  · have h := hp.once x
    rw [RecvPriv.surplus, if_pos hx] at h
    omega
  · obtain ⟨s, hs⟩ := Option.isSome_iff_exists.mp (hp.flying i hi).1
    obtain ⟨hpending, hfree, htasklet, hothers⟩ := flying_alone hp hi hs
    refine ⟨s, hs, ?_, fun h => hpending ?_, hfree, htasklet, hothers⟩
    · by_contra hge
      have hzero := hp.once s
      rw [RecvPriv.surplus, if_neg hge, RecvPriv.places] at hzero
      have hone : 1 ≤ ∑ k, (p.owned k).toList.count s := by
        refine le_trans ?_ (Finset.single_le_sum (f := fun k => (p.owned k).toList.count s) (fun _ _ => Nat.zero_le _)
          (Finset.mem_univ i))
        rw [RecvPriv.owned, if_neg (hp.flying i hi).2, hs]
        simp
      omega
    · rw [RecvPriv.pending]
      split
      · exact List.mem_cons_of_mem _ h
      · exact h

/-! ## Whether the queue is looked after -/

section Asleep
variable {p q : RecvPriv α} {i : BufId}

end Asleep

/-- Two transfers come in, and the driver is stopped before the tasklet has worked off the first. -/
def stoppedRun : List (Ev UInt8) :=
  let ready : ReadEnv := { alloc := true, submit := .ok }
  let buf : BufId := Fin.last 3
  [.inirp buf ready, .dma buf 1, .complete buf (.success 30) ready, .look, .resubmit ready, .dma buf 2,
    .complete buf (.success 30) ready, .look, .resubmit ready, .softirq, .dequeue, .flags { bDriverStopped := true }, .work]

theorem rx_exact_stopped : ∃ p, run 8 (fun _ => (0 : UInt8)) stoppedRun = some p ∧
    p.arrived = [1, 2] ∧ p.arrived = p.done.map Prod.fst ++ p.pending.map p.mem := by
  obtain ⟨p, hp⟩ := Option.isSome_iff_exists.mp (show (run 8 (fun _ => (0 : UInt8)) stoppedRun).isSome by decide)
  have harrived : (run 8 (fun _ => (0 : UInt8)) stoppedRun).map RecvPriv.arrived = some [1, 2] := by decide
  rw [hp] at harrived
  exact ⟨p, hp, Option.some.inj harrived, (rx_exact 8 _ stoppedRun p hp).1⟩

end RxUrb

end Rtl8723au
