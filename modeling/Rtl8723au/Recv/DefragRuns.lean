import Rtl8723au.Library.WhileLoop
import Rtl8723au.Recv.DefragJoin

/-! Frames that are passed to `recvframe_chk_defrag`, in any order and with any attributes. -/
namespace Rtl8723au
open Intrusive Relation
set_option autoImplicit false

namespace RecvPool

/-! ## Calls -/

/-- The copies of `recvframeChkDefrag`, and the end of the buffer they go to. -/
def chkDefragCopies (adapter : RtwAdapter) (s : RecvPool) (f : FrameId) : List (ℤ × ℕ) × ℤ :=
  let a := (s.frames f).attrib
  if a.mfrag ∨ a.fragNum = 0 then ([], 0)
  else
    match pdefragQ adapter (s.frames f) with
    | none => ([], 0)
    | some psta => (s.listAddTail (.defragQ psta) f).defragCopies psta

/-- The fragments `0` to `k-1` of one frame, with `g` the first. -/
structure OneFrame (s : RecvPool) (g : FrameId) (pieces : List FrameId) : Prop where
  first : pieces.head? = some g
  numbered : s.Numbered 0 pieces
  same : ∀ x ∈ pieces, (s.frames g).SameFrame (s.frames x)

/-- What is returned for a last fragment is put together from the fragments of one frame, which are those
that wait and the last, and the copies stay in the buffer. -/
structure ProperCall (adapter : RtwAdapter) (s : RecvPool) (f : FrameId) : Prop where
  pieces : (s.frames f).attrib.mfrag = false → (s.frames f).attrib.fragNum ≠ 0 →
    ∀ g, (recvframeChkDefrag adapter s f).1 = some g →
      ∃ psta, pdefragQ adapter (s.frames f) = some psta ∧ s.OneFrame g (s.queue (.defragQ psta) ++ [f])
  copies : ∀ c ∈ (chkDefragCopies adapter s f).1, c.1 + c.2 ≤ (chkDefragCopies adapter s f).2

/-- A fragment that goes on where those that wait end is of the frame they are of, and its payload fits
behind theirs. -/
def CleanCall (adapter : RtwAdapter) (s : RecvPool) (f : FrameId) : Prop :=
  ∀ psta first rest, pdefragQ adapter (s.frames f) = some psta → s.queue (.defragQ psta) = first :: rest →
    s.Numbered 0 (first :: rest) → (s.frames f).attrib.fragNum = rest.length + 1 →
      (s.frames first).SameFrame (s.frames f) ∧
        ((s.frames first).joined (s.joinedAll (s.frames first) (s.frames first).ends rest) (s.frames f)).1 ≤
          (s.frames first).rxEnd

/-! ## Fragments that wait -/

/-- What waits can be joined as far as its numbers go on. -/
def Joins (s : RecvPool) (psta : StaId) : Prop :=
  ∀ first rest, s.queue (.defragQ psta) = first :: rest → (s.frames first).attrib.fragNum = 0 →
    s.Joinable (s.frames first) 1 (s.frames first).ends rest

structure Waiting (s : RecvPool) : Prop where
  once : Once s.queue
  joins : ∀ psta, s.Joins psta

section Waiting
variable {s t : RecvPool} {adapter : RtwAdapter} {f : FrameId} {psta : StaId}

theorem Joins.congr (h : s.Joins psta) (hqueue : t.queue (.defragQ psta) = s.queue (.defragQ psta))
    (hframes : ∀ x ∈ s.queue (.defragQ psta), t.frames x = s.frames x) : t.Joins psta := by
  intro first rest hq hfirst
  rw [hqueue] at hq
  have hsame : t.frames first = s.frames first := hframes first (hq ▸ List.mem_cons_self)
  rw [hsame] at hfirst ⊢
  exact (h first rest hq hfirst).congr fun x hx => hframes x (hq ▸ List.mem_cons_of_mem _ hx)

theorem Waiting.outside (h : Waiting s) (honce : Once t.queue)
    (hqueue : ∀ psta, t.queue (.defragQ psta) = s.queue (.defragQ psta))
    (hframes : ∀ x, ¬ Loose s.queue x → t.frames x = s.frames x) : Waiting t :=
  ⟨honce, fun psta => (h.joins psta).congr (hqueue psta) fun x hx => hframes x fun hloose => hloose _ hx⟩

theorem Waiting.setFrame (h : Waiting s) (hf : Loose s.queue f) (frame : RecvFrame) :
    Waiting (s.setFrame f frame) := by
  refine h.outside h.once (fun _ => rfl) fun x hx => ?_
  have hne : x ≠ f := fun heq => hx (heq ▸ hf)
  exact Function.update_of_ne hne ..

theorem Waiting.enqueue (h : Waiting s) (hf : Loose s.queue f) (q : QueueId)
    (hq : ∀ psta, q ≠ .defragQ psta) : Waiting (s.rtwEnqueueRecvframe f q) := by
  refine h.outside (h.once.moveTail q f) (fun p => ?_) fun _ _ => rfl
  show moveTail s.queue q f (.defragQ p) = _
  rw [hf.moveTail, addTail_of_ne _ _ (hq p).symm]

theorem Waiting.free (h : Waiting s) (hf : Loose s.queue f) : Waiting (s.rtwFreeRecvframe f) := by
  refine h.outside (h.once.moveTail .freeRecvQueue f) (fun p => ?_) fun x hx => ?_
  · show moveTail s.queue .freeRecvQueue f (.defragQ p) = _
    rw [hf.moveTail, addTail_of_ne _ _ fun he => by cases he]
  · have hne : x ≠ f := fun heq => hx (heq ▸ hf)
    exact Function.update_of_ne hne ..

theorem Waiting.alloc (h : Waiting s) (q : QueueId) (hq : ∀ psta, q ≠ .defragQ psta) :
    Waiting (s.rtwAllocRecvframe q).2 := by
  cases hl : s.queue q with
  | nil =>
    unfold rtwAllocRecvframe
    rw [hl]
    exact h
  | cons f rest =>
    have hf : f ∈ s.queue q := hl ▸ List.mem_cons_self
    have hqueue : (s.rtwAllocRecvframe q).2.queue = delInit s.queue f ∧
        (s.rtwAllocRecvframe q).2.frames = s.frames := by
      unfold rtwAllocRecvframe
      rw [hl]
      dsimp only
      split <;> exact ⟨rfl, rfl⟩
    refine h.outside (hqueue.1 ▸ h.once.delInit f) (fun p => ?_) fun x _ => congrFun hqueue.2 x
    rw [hqueue.1, h.once.delInit_other hf (hq p).symm]

/-- A call that empties the queue of `psta`, or changes it to one that joins. -/
theorem Waiting.kept {l : List FrameId} (h : Waiting s) (hkept : Kept psta l s t)
    (hl : ∀ x ∈ l, x ∈ s.queue (.defragQ psta) ∨ Loose s.queue x) (hjoins : t.Joins psta) : Waiting t := by
  refine ⟨hkept.once, fun p => ?_⟩
  by_cases hp : p = psta
  · exact hp ▸ hjoins
  · have hne : QueueId.defragQ p ≠ .defragQ psta := fun he => hp (QueueId.defragQ.inj he)
    refine (h.joins p).congr (hkept.other _ (fun he => by cases he) hne) fun x hx => hkept.frames x fun hxl => ?_
    rcases hl x hxl with hin | hloose
    · exact hne (h.once.one x _ _ hx hin)
    · exact hloose _ hx

theorem joins_of_empty (h : t.queue (.defragQ psta) = []) : t.Joins psta := by
  intro first rest hq
  rw [h] at hq
  exact absurd hq.symm (List.cons_ne_nil _ _)

theorem kept_addTail (hs : Once s.queue) (hf : Loose s.queue f) :
    Kept psta [] s (s.listAddTail (.defragQ psta) f) :=
  ⟨hs.addTail hf, fun _ _ hq => addTail_of_ne _ _ hq, fun _ _ => rfl⟩

theorem addTail_queue (s : RecvPool) (psta : StaId) (f : FrameId) :
    (s.listAddTail (.defragQ psta) f).queue (.defragQ psta) = s.queue (.defragQ psta) ++ [f] :=
  addTail_self s.queue (.defragQ psta) f

theorem Joins.addTail (h : s.Joins psta) (hclean : CleanCall adapter s f)
    (hpsta : pdefragQ adapter (s.frames f) = some psta) : (s.listAddTail (.defragQ psta) f).Joins psta := by
  intro first rest hq hfirst
  rw [addTail_queue] at hq
  refine Joinable.congr (s := s) (fun _ _ => rfl) ?_
  cases hold : s.queue (.defragQ psta) with
  | nil =>
    rw [hold, List.nil_append, List.cons.injEq] at hq
    rw [← hq.2]
    trivial
  | cons g l =>
    rw [hold, List.cons_append, List.cons.injEq] at hq
    obtain ⟨rfl, rfl⟩ := hq
    refine (h g l hold hfirst).append fun hnum hn => hclean psta g l hpsta hold (numbered_cons.mpr ⟨hfirst, hnum⟩) ?_
    rw [hn, add_comm]

/-! ## A call -/

theorem Waiting.chkDefragQueue (h : Waiting s) (hf : Loose s.queue f) (hclean : CleanCall adapter s f) :
    Waiting (chkDefragQueue adapter s f).2 ∧
      ∀ g, (chkDefragQueue adapter s f).1 = some g → Loose (chkDefragQueue adapter s f).2.queue g := by
  unfold RecvPool.chkDefragQueue
  dsimp only
  by_cases hmfrag : (s.frames f).attrib.mfrag = true
  · rw [if_pos hmfrag]
    cases hpsta : pdefragQ adapter (s.frames f) with
    | none => exact ⟨h.free hf, fun g hg => absurd hg.symm (Option.some_ne_none g)⟩
    | some psta =>
      refine ⟨?_, fun g hg => absurd hg.symm (Option.some_ne_none g)⟩
      dsimp only
      by_cases hzero : (s.frames f).attrib.fragNum = 0
      · rw [if_pos hzero]
        -- what waits is freed, and the fragment is alone
        have hdrained := freeQueue_drained h.once psta
        have hkept : Kept psta (s.queue (.defragQ psta)) s (s.rtwFreeRecvframeQueue (.defragQ psta)) :=
          kept_freeQueue h.once fun _ hx => hx
        have hfreed : Waiting (s.rtwFreeRecvframeQueue (.defragQ psta)) :=
          h.kept hkept (fun x hx => Or.inl hx) (joins_of_empty (freeQueue_empty h.once psta))
        have hloose : Loose (s.rtwFreeRecvframeQueue (.defragQ psta)).queue f := by
          intro q hq
          by_cases hfree : q = .freeRecvQueue
          · subst hfree
            rw [hdrained.target, List.flatMap_singleton, List.mem_append] at hq
            rcases hq with hq | hq <;> exact hf _ hq
          · by_cases hdefrag : q = .defragQ psta
            · subst hdefrag
              rw [freeQueue_empty h.once psta] at hq
              exact absurd hq List.not_mem_nil
            · rw [hkept.other q hfree hdefrag] at hq
              exact hf q hq
        refine hfreed.kept (kept_addTail hkept.once hloose) (fun x hx => absurd hx List.not_mem_nil) ?_
        intro first rest hq _
        rw [addTail_queue, freeQueue_empty h.once psta, List.nil_append, List.cons.injEq] at hq
        rw [← hq.2]
        trivial
      · rw [if_neg hzero]
        exact h.kept (kept_addTail h.once hf) (fun x hx => absurd hx List.not_mem_nil)
          ((h.joins psta).addTail hclean hpsta)
  · rw [if_neg hmfrag]
    by_cases hzero : (s.frames f).attrib.fragNum = 0
    · rw [if_pos hzero]
      exact ⟨h, fun g hg => Option.some.inj hg ▸ hf⟩
    · rw [if_neg hzero]
      cases hpsta : pdefragQ adapter (s.frames f) with
      | none => exact ⟨h.free hf, fun g hg => absurd hg.symm (Option.some_ne_none g)⟩
      | some psta =>
        have hadd : Kept psta [] s (s.listAddTail (.defragQ psta) f) := kept_addTail h.once hf
        have hadded : Waiting (s.listAddTail (.defragQ psta) f) :=
          h.kept hadd (fun x hx => absurd hx List.not_mem_nil) ((h.joins psta).addTail hclean hpsta)
        obtain ⟨hkept, hempty, hret⟩ := recvframeDefrag_kept hadded.once psta
        exact ⟨hadded.kept hkept (fun x hx => Or.inl hx) (joins_of_empty hempty), fun g hg => (hret g hg).1⟩

theorem Waiting.recvframeChkDefrag (h : Waiting s) (hf : Loose s.queue f) (hclean : CleanCall adapter s f) :
    Waiting (recvframeChkDefrag adapter s f).2.1 := by
  obtain ⟨hwaiting, hloose⟩ := h.chkDefragQueue hf hclean
  unfold RecvPool.recvframeChkDefrag
  generalize RecvPool.chkDefragQueue adapter s f = result at hwaiting hloose
  obtain ⟨_ | g, t⟩ := result
  · exact hwaiting
  · have hg : Loose t.queue g := hloose g rfl
    dsimp only
    by_cases hprivacy : (t.frames g).attrib.privacy = true
    · rw [if_pos hprivacy]
      generalize recvframeChkmic adapter (t.frames g) = checked
      obtain ⟨_ | _, frame, adapter'⟩ := checked
      · exact (hwaiting.setFrame hg frame).free hg
      · exact hwaiting.setFrame hg frame
    · rw [if_neg hprivacy]
      exact hwaiting

/-- What the Michael code passes is what `chkDefragQueue` returns. -/
theorem recvframeChkDefrag_some {g : FrameId} (h : (RecvPool.recvframeChkDefrag adapter s f).1 = some g) :
    (RecvPool.chkDefragQueue adapter s f).1 = some g := by
  unfold RecvPool.recvframeChkDefrag at h
  generalize RecvPool.chkDefragQueue adapter s f = result at h
  obtain ⟨_ | x, t⟩ := result
  · exact absurd h.symm (Option.some_ne_none g)
  · dsimp only at h
    by_cases hprivacy : (t.frames x).attrib.privacy = true
    · rw [if_pos hprivacy] at h
      generalize recvframeChkmic adapter (t.frames x) = checked at h
      obtain ⟨_ | _, frame, adapter'⟩ := checked
      · exact absurd h.symm (Option.some_ne_none g)
      · exact h
    · rw [if_neg hprivacy] at h
      exact h

theorem Waiting.proper (h : Waiting s) (hf : Loose s.queue f) (hclean : CleanCall adapter s f) :
    ProperCall adapter s f := by
  by_cases hnone : (s.frames f).attrib.mfrag = true ∨ (s.frames f).attrib.fragNum = 0
  · refine ⟨fun hmfrag hzero => ?_, ?_⟩
    · rcases hnone with hnone | hnone
      · exact absurd (hmfrag.symm.trans hnone) Bool.false_ne_true
      · exact absurd hnone hzero
    · unfold chkDefragCopies
      dsimp only
      rw [if_pos hnone]
      exact fun c hc => absurd hc List.not_mem_nil
  · obtain ⟨hmfrag, hzero⟩ := not_or.mp hnone
    cases hpsta : pdefragQ adapter (s.frames f) with
    | none =>
      constructor
      · intro _ _ g hg
        have hq := recvframeChkDefrag_some hg
        unfold RecvPool.chkDefragQueue at hq
        dsimp only at hq
        rw [if_neg hmfrag, if_neg hzero, hpsta] at hq
        exact absurd hq.symm (Option.some_ne_none g)
      · unfold chkDefragCopies
        dsimp only
        rw [if_neg hnone, hpsta]
        exact fun c hc => absurd hc List.not_mem_nil
    | some psta =>
      have hjoins := (h.joins psta).addTail hclean hpsta
      obtain ⟨first, rest, hq⟩ : ∃ first rest, (s.listAddTail (.defragQ psta) f).queue (.defragQ psta) = first :: rest :=
        List.exists_cons_of_ne_nil (by rw [addTail_queue]; exact List.concat_ne_nil f _)
      obtain ⟨hcopies, hret⟩ := recvframeDefrag_joined (h.once.addTail hf) hq (hjoins first rest hq)
      constructor
      · intro _ _ g hg
        have hres := recvframeChkDefrag_some hg
        unfold RecvPool.chkDefragQueue at hres
        dsimp only at hres
        rw [if_neg hmfrag, if_neg hzero, hpsta] at hres
        obtain ⟨rfl, hnum, hall⟩ := hret g hres
        rw [addTail_queue] at hq
        refine ⟨psta, hpsta, ⟨hq ▸ rfl, hq ▸ hnum, fun x hx => ?_⟩⟩
        rw [hq] at hx
        rcases List.mem_cons.mp hx with rfl | hx
        · exact ⟨rfl, rfl⟩
        · exact hall x hx
      · unfold chkDefragCopies
        dsimp only
        rw [if_neg hnone, hpsta]
        exact hcopies

end Waiting

/-! ## Runs -/

/-- What happens to the pool, with the calls `P` allows: a frame is taken from a list, is filled, is passed
to `recvframe_chk_defrag`, and is freed or put on a list. -/
inductive DefragStep (P : RtwAdapter → RecvPool → FrameId → Prop) : RecvPool → RecvPool → Prop where
  | alloc (s : RecvPool) (q : QueueId) (hq : ∀ psta, q ≠ .defragQ psta) : DefragStep P s (s.rtwAllocRecvframe q).2
  | fill (s : RecvPool) (f : FrameId) (frame : RecvFrame) (hf : Loose s.queue f) : DefragStep P s (s.setFrame f frame)
  | chkDefrag (s : RecvPool) (adapter : RtwAdapter) (f : FrameId) (hf : Loose s.queue f) (h : P adapter s f) :
    DefragStep P s (recvframeChkDefrag adapter s f).2.1
  | free (s : RecvPool) (f : FrameId) (hf : Loose s.queue f) : DefragStep P s (s.rtwFreeRecvframe f)
  | enqueue (s : RecvPool) (f : FrameId) (q : QueueId) (hf : Loose s.queue f) (hq : ∀ psta, q ≠ .defragQ psta) :
    DefragStep P s (s.rtwEnqueueRecvframe f q)

/-- No fragment waits. -/
structure NoFragments (s : RecvPool) : Prop where
  once : Once s.queue
  empty : ∀ psta, s.queue (.defragQ psta) = []

theorem NoFragments.waiting {s : RecvPool} (h : s.NoFragments) : Waiting s :=
  ⟨h.once, fun psta => joins_of_empty (h.empty psta)⟩

theorem Waiting.step {s t : RecvPool} (h : Waiting s) (hstep : DefragStep CleanCall s t) : Waiting t := by
  cases hstep with
  | alloc q hq => exact h.alloc q hq
  | fill f frame hf => exact h.setFrame hf frame
  | chkDefrag adapter f hf hclean => exact h.recvframeChkDefrag hf hclean
  | free f hf => exact h.free hf
  | enqueue f q hf hq => exact h.enqueue hf q hq

/-- Every call of a run of clean calls is proper. -/
theorem defrag_run {s t : RecvPool} (hs : s.NoFragments) (hrun : ReflTransGen (DefragStep CleanCall) s t)
    (adapter : RtwAdapter) (f : FrameId) (hf : Loose t.queue f) (hclean : CleanCall adapter t f) :
    ProperCall adapter t f := by
  have hwaiting : Waiting t := LoopRun.run_invariant (fun _ _ hs hstep => hs.step hstep) hrun hs.waiting
  exact hwaiting.proper hf hclean

/-! ## Two fragments -/

/-- A frame is taken from the free queue and filled. -/
def arrive (s : RecvPool) (frame : RecvFrame) : RecvPool :=
  match s.rtwAllocRecvframe .freeRecvQueue with
  | (none, s) => s
  | (some f, s) => s.setFrame f frame

def fragment (seqNum fragNum : ℕ) (mfrag : Bool) (payload : ℕ) : RecvFrame where
  attrib := { hdrlen := 24, seqNum := seqNum, fragNum := fragNum, mfrag := mfrag }
  mem := fun _ => 0
  len := 24 + payload
  rxHead := 0
  rxData := 0
  rxTail := 24 + payload
  rxEnd := 2000

/-- Station 1 has the address the fragments are from. -/
def oneStation : RtwAdapter := { stapriv := { staHash := fun _ => [1] } }

theorem oneStation_pdefragQ (seqNum fragNum : ℕ) (mfrag : Bool) (payload : ℕ) :
    pdefragQ oneStation (fragment seqNum fragNum mfrag payload) = some 1 := by
  have hfound : rtwGetStainfo oneStation.stapriv (some (Vector.replicate 6 0)) = some 1 := by decide +kernel
  have hta : (fragment seqNum fragNum mfrag payload).attrib.ta = Vector.replicate 6 0 := rfl
  unfold pdefragQ
  rw [hta, hfound]

theorem arrive_head {s : RecvPool} {f : FrameId} {rest : List FrameId} (h : s.queue .freeRecvQueue = f :: rest)
    (frame : RecvFrame) : (s.arrive frame).queue = delInit s.queue f ∧
      (s.arrive frame).frames = Function.update s.frames f frame := by
  unfold arrive rtwAllocRecvframe
  rw [h]
  dsimp only
  rw [if_pos rfl]
  exact ⟨rfl, rfl⟩

theorem arrive_run (P : RtwAdapter → RecvPool → FrameId → Prop) {s : RecvPool} {f : FrameId} {rest : List FrameId}
    (hs : Once s.queue) (h : s.queue .freeRecvQueue = f :: rest) (frame : RecvFrame) :
    ReflTransGen (DefragStep P) s (s.arrive frame) := by
  have halloc : s.rtwAllocRecvframe .freeRecvQueue = (some f, (s.rtwAllocRecvframe .freeRecvQueue).2) ∧
      (s.rtwAllocRecvframe .freeRecvQueue).2.queue = delInit s.queue f := by
    unfold rtwAllocRecvframe
    rw [h]
    exact ⟨rfl, rfl⟩
  have harrive : s.arrive frame = (s.rtwAllocRecvframe .freeRecvQueue).2.setFrame f frame := by
    unfold arrive
    rw [halloc.1]
  have hloose : Loose (s.rtwAllocRecvframe .freeRecvQueue).2.queue f := halloc.2 ▸ hs.loose_delInit f
  rw [harrive]
  exact (ReflTransGen.single (.alloc s .freeRecvQueue fun psta he => by cases he)).tail (.fill _ f frame hloose)

theorem firstFragment_chkDefrag {adapter : RtwAdapter} {s : RecvPool} {f : FrameId} {psta : StaId}
    (hmfrag : (s.frames f).attrib.mfrag = true) (hzero : (s.frames f).attrib.fragNum = 0)
    (hpsta : pdefragQ adapter (s.frames f) = some psta) (hq : s.queue (.defragQ psta) = []) :
    recvframeChkDefrag adapter s f = (none, s.listAddTail (.defragQ psta) f, adapter) := by
  unfold recvframeChkDefrag RecvPool.chkDefragQueue rtwFreeRecvframeQueue
  dsimp only
  rw [if_pos hmfrag, hpsta]
  dsimp only
  rw [if_pos hzero, hq]
  rfl

section TwoFragments
variable (seqNum payload : ℕ) (y : RecvFrame)

/-- The pool when the first fragment has arrived. -/
def oneFragment (seqNum payload : ℕ) : RecvPool :=
  (rtwInitRecvPriv fun _ => fragment seqNum 0 true payload).arrive (fragment seqNum 0 true payload)

theorem rtwInitRecvPriv_noFragments (frames : FrameId → RecvFrame) : (rtwInitRecvPriv frames).NoFragments :=
  ⟨rtwInitRecvPriv_once frames, fun _ => rfl⟩

theorem rtwInitRecvPriv_head (frames : FrameId → RecvFrame) :
    (rtwInitRecvPriv frames).queue .freeRecvQueue = 0 :: (List.finRange 255).map Fin.succ := by
  unfold rtwInitRecvPriv
  dsimp only
  exact List.finRange_succ

theorem oneFragment_queue : (oneFragment seqNum payload).queue =
    delInit (rtwInitRecvPriv fun _ => fragment seqNum 0 true payload).queue 0 :=
  (arrive_head (rtwInitRecvPriv_head _) _).1

theorem oneFragment_frame : (oneFragment seqNum payload).frames 0 = fragment seqNum 0 true payload := by
  unfold oneFragment
  rw [(arrive_head (rtwInitRecvPriv_head _) _).2]
  exact Function.update_self ..

theorem oneFragment_loose : Loose (oneFragment seqNum payload).queue 0 := by
  rw [oneFragment_queue]
  exact (rtwInitRecvPriv_once _).loose_delInit 0

theorem oneFragment_defragQ (psta : StaId) : (oneFragment seqNum payload).queue (.defragQ psta) = [] := by
  rw [oneFragment_queue]
  rfl

theorem oneFragment_chkDefrag : recvframeChkDefrag oneStation (oneFragment seqNum payload) 0 =
    (none, (oneFragment seqNum payload).listAddTail (.defragQ 1) 0, oneStation) := by
  have hframe := oneFragment_frame seqNum payload
  refine firstFragment_chkDefrag (hframe ▸ rfl) (hframe ▸ rfl) ?_ (oneFragment_defragQ ..)
  rw [hframe]
  exact oneStation_pdefragQ seqNum 0 true payload

def twoFragments (seqNum payload : ℕ) (y : RecvFrame) : RecvPool :=
  ((oneFragment seqNum payload).listAddTail (.defragQ 1) 0).arrive y

theorem oneWaits_once : Once ((oneFragment seqNum payload).listAddTail (.defragQ 1) 0).queue := by
  have honce : Once (oneFragment seqNum payload).queue := by
    rw [oneFragment_queue]
    exact (rtwInitRecvPriv_once _).delInit 0
  exact honce.addTail (oneFragment_loose seqNum payload)

theorem oneWaits_head : ((oneFragment seqNum payload).listAddTail (.defragQ 1) 0).queue .freeRecvQueue =
    1 :: ((List.finRange 254).map Fin.succ).map Fin.succ := by
  show addTail (oneFragment seqNum payload).queue (.defragQ 1) 0 .freeRecvQueue = _
  have hne : QueueId.freeRecvQueue ≠ .defragQ 1 := fun he => by cases he
  rw [addTail_of_ne _ _ hne, oneFragment_queue, delInit_head (rtwInitRecvPriv_head _), List.finRange_succ,
    List.map_cons]
  exact congrArg (List.cons · _) (Fin.succ_zero_eq_one (n := 254))

theorem twoFragments_run (P : RtwAdapter → RecvPool → FrameId → Prop)
    (h : P oneStation (oneFragment seqNum payload) 0) : ReflTransGen (DefragStep P)
      (rtwInitRecvPriv fun _ => fragment seqNum 0 true payload) (twoFragments seqNum payload y) := by
  have hfirst : ReflTransGen (DefragStep P) (rtwInitRecvPriv fun _ => fragment seqNum 0 true payload)
      (oneFragment seqNum payload) := arrive_run P (rtwInitRecvPriv_once _) (rtwInitRecvPriv_head _) _
  have hcall := DefragStep.chkDefrag (oneFragment seqNum payload) oneStation 0 (oneFragment_loose seqNum payload) h
  rw [oneFragment_chkDefrag] at hcall
  exact (hfirst.tail hcall).trans (arrive_run P (oneWaits_once ..) (oneWaits_head ..) y)

theorem twoFragments_loose : Loose (twoFragments seqNum payload y).queue 1 := by
  unfold twoFragments
  rw [(arrive_head (oneWaits_head ..) _).1]
  exact (oneWaits_once seqNum payload).loose_delInit 1

theorem twoFragments_defragQ : (twoFragments seqNum payload y).queue (.defragQ 1) = [0] := by
  unfold twoFragments
  rw [(arrive_head (oneWaits_head ..) _).1]
  show List.erase (addTail (oneFragment seqNum payload).queue (.defragQ 1) 0 (.defragQ 1)) 1 = [0]
  rw [addTail_self, oneFragment_defragQ]
  rfl

theorem twoFragments_frames : (twoFragments seqNum payload y).frames 0 = fragment seqNum 0 true payload ∧
    (twoFragments seqNum payload y).frames 1 = y := by
  unfold twoFragments
  rw [(arrive_head (oneWaits_head ..) _).2]
  exact ⟨(Function.update_of_ne (by decide) ..).trans (oneFragment_frame ..), Function.update_self ..⟩

end TwoFragments

/-- The second fragment is of the next frame. -/
theorem defrag_mixed : ¬ ∀ (s t : RecvPool), s.NoFragments →
    ReflTransGen (DefragStep fun _ _ _ => True) s t → ∀ adapter f, Loose t.queue f → ProperCall adapter t f := by
  intro hall
  obtain ⟨hfirst, hsecond⟩ := twoFragments_frames 1 100 (fragment 2 1 false 50)
  have hproper := hall _ _ (rtwInitRecvPriv_noFragments _)
    (twoFragments_run 1 100 (fragment 2 1 false 50) (fun _ _ _ => True) trivial) oneStation 1
    (twoFragments_loose 1 100 _)
  have hreturned : (recvframeChkDefrag oneStation (twoFragments 1 100 (fragment 2 1 false 50)) 1).1 = some 0 := by
    decide +kernel
  obtain ⟨psta, hpsta, hone⟩ := hproper.pieces (hsecond ▸ rfl) (hsecond ▸ Nat.one_ne_zero) 0 hreturned
  have hseq := (hone.same 1 (List.mem_append_right _ (List.mem_singleton.mpr rfl))).seqNum
  rw [hfirst, hsecond] at hseq
  exact absurd hseq (by decide)

theorem twoFragments_clean : CleanCall oneStation (twoFragments 1 100 (fragment 1 1 false 50)) 1 := by
  obtain ⟨hfirst, hsecond⟩ := twoFragments_frames 1 100 (fragment 1 1 false 50)
  intro psta first rest hpsta hq _ hnum
  rw [hsecond, oneStation_pdefragQ] at hpsta
  rw [← Option.some.inj hpsta, twoFragments_defragQ, List.cons.injEq] at hq
  obtain ⟨rfl, rfl⟩ := hq
  unfold joinedAll
  rw [hfirst, hsecond]
  exact ⟨⟨rfl, rfl⟩, by decide⟩

/-- Two fragments of one frame. -/
theorem defrag_run_two : ProperCall oneStation (twoFragments 1 100 (fragment 1 1 false 50)) 1 ∧
    (recvframeChkDefrag oneStation (twoFragments 1 100 (fragment 1 1 false 50)) 1).1 = some 0 := by
  have hfirst : CleanCall oneStation (oneFragment 1 100) 0 := by
    intro psta first rest _ hq
    rw [oneFragment_defragQ] at hq
    exact absurd hq.symm (List.cons_ne_nil _ _)
  refine ⟨?_, by decide +kernel⟩
  exact defrag_run (rtwInitRecvPriv_noFragments _) (twoFragments_run 1 100 _ CleanCall hfirst) oneStation 1
    (twoFragments_loose 1 100 _) twoFragments_clean

end RecvPool

end Rtl8723au
