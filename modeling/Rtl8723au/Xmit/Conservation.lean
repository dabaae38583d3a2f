import Rtl8723au.Xmit.Tasklet

/-! What the transmit path owns: each of its frames is in one queue, each packet it took is in a frame or
completed, each buffer is free or on its way. The steps keep it whatever the rest of the driver does. -/
namespace Rtl8723au
open Intrusive
set_option autoImplicit false

/-! ## The pool -/

/-- The frames with their loads and priorities, and the buffers. -/
structure TxPool where
  queue : TxQueue → List XmitFrameId
  cnt : ℕ
  pkt : XmitFrameId → Option SkBuff
  priority : XmitFrameId → ℕ
  completed : List SkBuff
  freeBufs : List XmitBufId
  writePort : List XmitBufId

/-- `L` and `B` are the frames and buffers a function holds in its hands, `total` counts the packets that
were taken. -/
structure TxPool.Conserved (p : TxPool) (L : Set XmitFrameId) (B : Set XmitBufId) (total : SkBuff → ℕ) :
    Prop where
  once : Once p.queue
  placed : ∀ f, f ∈ L ∨ ∃ q, f ∈ p.queue q
  loose : ∀ f ∈ L, Loose p.queue f
  cnt : p.cnt = (p.queue .freeXmitQueue).length
  bare : ∀ f ∈ p.queue .freeXmitQueue, p.pkt f = none
  total : ∀ skb, p.completed.count skb + carried p.pkt skb = total skb
  priority : ∀ f, p.priority f ≤ 15
  bufsNodup : p.freeBufs.Nodup
  bufsPlaced : ∀ b, b ∈ B ∨ b ∈ p.freeBufs ∨ b ∈ p.writePort
  bufsApart : ∀ b ∈ p.freeBufs, b ∉ p.writePort
  bufsHeld : ∀ b ∈ B, b ∉ p.freeBufs ∧ b ∉ p.writePort

namespace TxPool

section Ops
variable (p : TxPool) (f : XmitFrameId)

def move (q : TxQueue) : TxPool := { p with queue := moveTail p.queue q f }

def take : TxPool := { p with queue := delInit p.queue f }

def alloc : TxPool :=
  { p with
    queue := delInit p.queue f
    cnt := uint (p.cnt - 1)
    pkt := Function.update p.pkt f none
    priority := Function.update p.priority f 0 }

def attach (skb : SkBuff) (priority : ℕ) : TxPool :=
  { p with
    pkt := Function.update p.pkt f (some skb)
    priority := Function.update p.priority f priority }

def complete : TxPool :=
  { p with
    pkt := Function.update p.pkt f none
    completed := p.completed ++ (p.pkt f).toList }

def release : TxPool :=
  { (p.complete f).move f .freeXmitQueue with cnt := uint (p.cnt + 1) }

end Ops

namespace Conserved
variable {p : TxPool} {L : Set XmitFrameId} {B : Set XmitBufId} {total : SkBuff → ℕ} {f : XmitFrameId}
  {q : TxQueue}

theorem free_length (h : p.Conserved L B total) : (p.queue .freeXmitQueue).length ≤ 256 := by
  simpa using (h.once.nodup .freeXmitQueue).length_le_card

theorem placed_move (h : p.Conserved L B total) (q : TxQueue) (f g : XmitFrameId) :
    g ∈ L \ {f} ∨ ∃ q', g ∈ moveTail p.queue q f q' := by
  by_cases hg : g = f
  · exact Or.inr ⟨q, h.once.mem_moveTail.mpr (Or.inr ⟨hg, rfl⟩)⟩
  · rcases h.placed g with hL | ⟨q', hq'⟩
    · exact Or.inl ⟨hL, hg⟩
    · exact Or.inr ⟨q', h.once.mem_moveTail.mpr (Or.inl ⟨hq', hg⟩)⟩

theorem loose_move (h : p.Conserved L B total) (q : TxQueue) (f g : XmitFrameId) (hg : g ∈ L \ {f}) :
    Loose (moveTail p.queue q f) g := by
  intro q' hmem
  rcases h.once.mem_moveTail.mp hmem with ⟨hq', -⟩ | ⟨hf, -⟩
  · exact h.loose g hg.1 q' hq'
  · exact hg.2 hf

theorem move (h : p.Conserved L B total) (hq : q ≠ .freeXmitQueue) (hf : f ∉ p.queue .freeXmitQueue) :
    (p.move f q).Conserved (L \ {f}) B total := by
  have hfree : moveTail p.queue q f .freeXmitQueue = p.queue .freeXmitQueue := by
    rw [moveTail, addTail_of_ne _ _ hq.symm, delInit_of_not_mem hf]
  exact { h with
    once := h.once.moveTail q f
    placed := h.placed_move q f
    loose := h.loose_move q f
    cnt := h.cnt.trans (congrArg List.length hfree.symm)
    bare := fun g hg => h.bare g (hfree ▸ hg) }

theorem take (h : p.Conserved L B total) (hf : f ∉ p.queue .freeXmitQueue) :
    (p.take f).Conserved (insert f L) B total := by
  have hfree : delInit p.queue f .freeXmitQueue = p.queue .freeXmitQueue := delInit_of_not_mem hf
  exact { h with
    once := h.once.delInit f
    placed := by
      intro g
      by_cases hg : g = f
      · exact Or.inl (Or.inl hg)
      · exact (h.placed g).imp Or.inr fun ⟨q', hq'⟩ => ⟨q', h.once.mem_delInit.mpr ⟨hq', hg⟩⟩
    loose := by
      rintro g (rfl | hg)
      · exact h.once.loose_delInit g
      · exact fun q' hq' => h.loose g hg q' (mem_of_delInit hq')
    cnt := h.cnt.trans (congrArg List.length hfree.symm)
    bare := fun g hg => h.bare g (hfree ▸ hg) }

theorem alloc {rest : List XmitFrameId} (h : p.Conserved L B total)
    (hhead : p.queue .freeXmitQueue = f :: rest) : (p.alloc f).Conserved (insert f L) B total := by
  have hfree : delInit p.queue f .freeXmitQueue = rest := delInit_head hhead
  have hcnt : p.cnt = rest.length + 1 := by rw [h.cnt, hhead, List.length_cons]
  have hpkt : Function.update p.pkt f none = p.pkt := by
    rw [← h.bare f (hhead ▸ List.mem_cons_self), Function.update_eq_self]
  have hlen := h.free_length
  exact { h with
    once := h.once.delInit f
    placed := by
      intro g
      by_cases hg : g = f
      · exact Or.inl (Or.inl hg)
      · exact (h.placed g).imp Or.inr fun ⟨q', hq'⟩ => ⟨q', h.once.mem_delInit.mpr ⟨hq', hg⟩⟩
    loose := by
      rintro g (rfl | hg)
      · exact h.once.loose_delInit g
      · exact fun q' hq' => h.loose g hg q' (mem_of_delInit hq')
    cnt := by
      show uint (p.cnt - 1) = (delInit p.queue f .freeXmitQueue).length
      rw [hfree, hcnt]
      rw [hhead, List.length_cons] at hlen
      push_cast
      rw [add_sub_cancel_right]
      exact uint_natCast _ (by omega)
    bare := by
      intro g hg
      show Function.update p.pkt f none g = none
      rw [hpkt]
      exact h.bare g (mem_of_delInit hg)
    total := by
      show ∀ skb, p.completed.count skb + carried (Function.update p.pkt f none) skb = total skb
      rw [hpkt]
      exact h.total
    priority := by
      intro g
      by_cases hg : g = f
      · subst hg
        exact (Function.update_self g 0 p.priority).trans_le (Nat.zero_le 15)
      · exact (Function.update_of_ne hg 0 p.priority).trans_le (h.priority g) }

theorem attach (h : p.Conserved L B total) (hf : f ∈ L) (hbare : p.pkt f = none) (skb : SkBuff)
    {priority : ℕ} (hprio : priority ≤ 15) :
    (p.attach f skb priority).Conserved L B (fun b => total b + [skb].count b) := by
  exact { h with
    bare := by
      intro g hg
      have hne : g ≠ f := fun hgf => h.loose f hf _ (hgf ▸ hg)
      exact (Function.update_of_ne hne _ p.pkt).trans (h.bare g hg)
    total := by
      intro b
      show p.completed.count b + carried (Function.update p.pkt f (some skb)) b = _
      rw [carried_load _ _ _ _ hbare, ← add_assoc, h.total b]
    priority := by
      intro g
      by_cases hg : g = f
      · subst hg
        exact (Function.update_self g priority p.priority).trans_le hprio
      · exact (Function.update_of_ne hg priority p.priority).trans_le (h.priority g) }

theorem complete (h : p.Conserved L B total) (hf : f ∉ p.queue .freeXmitQueue) :
    (p.complete f).Conserved L B total := by
  exact { h with
    bare := by
      intro g hg
      have hne : g ≠ f := fun hgf => hf (hgf ▸ hg)
      exact (Function.update_of_ne hne _ p.pkt).trans (h.bare g hg)
    total := fun b => (carried_unload p.pkt f b p.completed).trans (h.total b) }

theorem release (h : p.Conserved L B total) (hf : f ∉ p.queue .freeXmitQueue) :
    (p.release f).Conserved (L \ {f}) B total := by
  have hfree : moveTail p.queue .freeXmitQueue f .freeXmitQueue = p.queue .freeXmitQueue ++ [f] := by
    rw [moveTail, addTail_self, delInit_of_not_mem hf]
  have hlen := h.free_length
  exact { h.complete hf with
    once := h.once.moveTail _ f
    placed := h.placed_move _ f
    loose := h.loose_move _ f
    cnt := by
      show uint (p.cnt + 1) = (moveTail p.queue .freeXmitQueue f .freeXmitQueue).length
      rw [hfree, List.length_append, h.cnt]
      exact uint_natCast ((p.queue .freeXmitQueue).length + 1) (by omega)
    bare := by
      intro g hg
      by_cases hgf : g = f
      · subst hgf
        exact Function.update_self g none p.pkt
      · refine (Function.update_of_ne hgf none p.pkt).trans (h.bare g ?_)
        have hmem : g ∈ moveTail p.queue .freeXmitQueue f .freeXmitQueue := hg
        exact ((h.once.mem_moveTail.mp hmem).resolve_right fun hr => hgf hr.1).1 }

end Conserved

end TxPool

/-! ## The steps -/

namespace XmitPriv

def pool (s : XmitPriv) : TxPool where
  queue := s.queue
  cnt := s.freeXmitframeCnt
  pkt := fun f => (s.frames f).pkt
  priority := fun f => (s.frames f).attrib.priority
  completed := s.completed
  freeBufs := s.freeXmitbufQueue
  writePort := s.writePort

/-- The other frames stay where they are. -/
def Only (f : XmitFrameId) (s s' : XmitPriv) : Prop := ∀ g ≠ f, ∀ q, g ∈ s'.queue q ↔ g ∈ s.queue q

section Pool
variable (s : XmitPriv) (f : XmitFrameId) (frame : TxFrame)

theorem pool_setFrame : (s.setFrame f frame).pool = { s.pool with
    pkt := Function.update s.pool.pkt f frame.pkt
    priority := Function.update s.pool.priority f frame.attrib.priority } := by
  have hupdate : ∀ {β : Type} (get : TxFrame → β), (fun g => get ((s.setFrame f frame).frames g)) =
      Function.update (fun g => get (s.frames g)) f (get frame) := by
    intro β get
    funext g
    show get (Function.update s.frames f frame g) = _
    by_cases hg : g = f
    · subst hg
      rw [Function.update_self, Function.update_self]
    · rw [Function.update_of_ne hg, Function.update_of_ne hg]
  unfold pool
  rw [hupdate (·.pkt), hupdate (·.attrib.priority)]
  rfl

theorem pool_setAttrib (a : TxAttrib) (ha : a.priority = (s.frames f).attrib.priority) :
    (s.setAttrib f a).pool = s.pool := by
  have hpkt : Function.update s.pool.pkt f (s.frames f).pkt = s.pool.pkt := Function.update_eq_self f _
  have hprio : Function.update s.pool.priority f (s.frames f).attrib.priority = s.pool.priority :=
    Function.update_eq_self f _
  rw [setAttrib, pool_setFrame, ha]
  dsimp only
  rw [hpkt, hprio]

theorem pool_unload : (s.setFrame f { s.frames f with pkt := none }).pool =
    { s.pool with pkt := Function.update s.pool.pkt f none } := by
  have hprio : Function.update s.pool.priority f (s.frames f).attrib.priority = s.pool.priority :=
    Function.update_eq_self f _
  rw [pool_setFrame]
  dsimp only
  rw [hprio]

theorem pool_rtwFreeXmitframe : (s.rtwFreeXmitframe f).pool = s.pool.release f := by
  have hunload := s.pool_unload f
  have hpkt := congrArg TxPool.pkt hunload
  have hprio := congrArg TxPool.priority hunload
  unfold rtwFreeXmitframe TxPool.release TxPool.complete TxPool.move
  unfold pool at hpkt hprio ⊢
  dsimp only [osPktComplete, listAdd, listDel] at hpkt hprio ⊢
  rw [hpkt, hprio]
  rfl

theorem pool_rtwOsXmitComplete : (s.rtwOsXmitComplete f).pool = s.pool.complete f := by
  have hunload := (s.osPktComplete (s.frames f).pkt).pool_unload f
  exact hunload

theorem pool_txPendingAdd (n : TxServq) : (s.txPendingAdd n).pool = s.pool := by
  unfold txPendingAdd
  split <;> rfl

theorem rtwXmitClassifier_cases : s.rtwXmitClassifier f = (false, s) ∨
    ∃ n s', s.rtwXmitClassifier f = (true, s') ∧
      s'.pool = { s.pool with queue := addTail s.pool.queue (.staPending n) f } := by
  unfold rtwXmitClassifier
  dsimp only
  cases xmitSta s.padapter (s.frames f).attrib.toPktAttrib with
  | none => exact Or.inl rfl
  | some psta =>
    refine Or.inr ⟨(psta, acOf (s.frames f).attrib.priority), _, rfl, ?_⟩
    have hpool := s.pool_txPendingAdd (psta, acOf (s.frames f).attrib.priority)
    rw [← hpool]
    rfl

end Pool

/-- The frame is in the hands of a function no longer. -/
structure Handled (f : XmitFrameId) (s s' : XmitPriv) : Prop where
  keeps : ∀ {L B total}, s.pool.Conserved L B total → f ∉ s.queue .freeXmitQueue →
    s'.pool.Conserved (L \ {f}) B total
  only : Only f s s'

namespace Handled
variable {s s' s'' : XmitPriv} {f : XmitFrameId}

theorem of_pool (h : s.pool = s'.pool) (hs : Handled f s' s'') : Handled f s s'' := by
  have hq : s.queue = s'.queue := congrArg TxPool.queue h
  constructor
  · intro L B total hc hf
    exact hs.keeps (h ▸ hc) (hq ▸ hf)
  · intro g hg q
    rw [hq]
    exact hs.only g hg q

theorem to_pool (hs : Handled f s s') (h : s''.pool = s'.pool) : Handled f s s'' := by
  have hq : s''.queue = s'.queue := congrArg TxPool.queue h
  constructor
  · intro L B total hc hf
    exact h ▸ hs.keeps hc hf
  · intro g hg q
    rw [hq]
    exact hs.only g hg q

theorem of_listDel (hs : Handled f (s.listDel f) s') : Handled f s s' := by
  constructor
  · intro L B total hc hf
    have htaken : (s.listDel f).pool.Conserved (insert f L) B total := hc.take hf
    have hfree : f ∉ (s.listDel f).queue .freeXmitQueue := fun hmem => hf (mem_of_delInit hmem)
    have hset : insert f L \ {f} = L \ {f} := Set.insert_sdiff_of_mem L rfl
    exact hset ▸ hs.keeps htaken hfree
  · intro g hg q
    exact (hs.only g hg q).trans (mem_delInit_of_ne hg)

end Handled

section Steps
variable (s : XmitPriv) (f : XmitFrameId)

theorem rtwFreeXmitframe_handled : Handled f s (s.rtwFreeXmitframe f) := by
  constructor
  · intro L B total hc hf
    rw [pool_rtwFreeXmitframe]
    exact hc.release hf
  · intro g hg q
    show g ∈ (s.rtwFreeXmitframe f).pool.queue q ↔ _
    rw [pool_rtwFreeXmitframe]
    exact mem_moveTail_of_ne hg

theorem sleepqAdd_handled (psta : StaId) : Handled f s (s.sleepqAdd f psta) := by
  constructor
  · intro L B total hc hf
    exact hc.move (q := .sleepQ psta) TxQueue.noConfusion hf
  · intro g hg q
    exact mem_moveTail_of_ne hg

theorem classified_handled {s' : XmitPriv} (n : TxServq) (hloose : Loose s.queue f)
    (h : s'.pool = { s.pool with queue := addTail s.pool.queue (.staPending n) f }) : Handled f s s' := by
  have hmove : s'.pool = s.pool.move f (.staPending n) := by
    have hadd : moveTail s.pool.queue (.staPending n) f = addTail s.pool.queue (.staPending n) f :=
      Loose.moveTail hloose _
    rw [h, TxPool.move, hadd]
  constructor
  · intro L B total hc hf
    rw [hmove]
    exact hc.move TxQueue.noConfusion hf
  · intro g hg q
    show g ∈ s'.pool.queue q ↔ _
    rw [hmove]
    exact mem_moveTail_of_ne hg

theorem rtwHalXmitframeEnqueue_handled (hloose : Loose s.queue f) :
    Handled f s (s.rtwHalXmitframeEnqueue f) := by
  unfold rtwHalXmitframeEnqueue
  rcases s.rtwXmitClassifier_cases f with h | ⟨n, s', h, hpool⟩
  · rw [h]
    exact s.rtwFreeXmitframe_handled f
  · rw [h]
    exact s.classified_handled f n hloose hpool

theorem deliver_handled (a : TxAttrib) (ha : a.priority = (s.frames f).attrib.priority)
    (hloose : Loose s.queue f) : Handled f s (s.deliver f a) := by
  have hpool := s.pool_setAttrib f { a with triggered := true } ha
  have hqueue : Loose (s.setAttrib f { a with triggered := true }).queue f := hloose
  exact ((s.setAttrib f _).rtwHalXmitframeEnqueue_handled f hqueue).of_pool hpool.symm

theorem pool_noteSleeping (psta : StaId) : (s.noteSleeping f psta).pool = s.pool := by
  unfold noteSleeping
  dsimp only
  split <;> split <;> rfl

theorem enqueueForSleeping_pool : (∃ s', s.xmitframeEnqueueForSleepingSta f = (false, s') ∧ s'.pool = s.pool) ∨
    ∃ s', s.xmitframeEnqueueForSleepingSta f = (true, s') ∧ Handled f s s' := by
  have houtcome := s.xmitframeEnqueueForSleepingSta_outcome f
  generalize s.xmitframeEnqueueForSleepingSta f = r at houtcome
  cases houtcome with
  | awake => exact Or.inl ⟨s, rfl, rfl⟩
  | highQueue => exact Or.inl ⟨_, rfl, s.pool_setAttrib f _ rfl⟩
  | bmc psta => exact Or.inr ⟨_, rfl, (s.sleepqAdd_handled f psta).to_pool rfl⟩
  | unicast psta =>
    exact Or.inr ⟨_, rfl, (s.sleepqAdd_handled f psta).to_pool ((s.sleepqAdd f psta).pool_noteSleeping f psta)⟩

end Steps

/-! ## Loops over a queue -/

/-- A turn of a loop, with nothing in hand before and after it. -/
structure Turn (f : XmitFrameId) (s s' : XmitPriv) : Prop where
  keeps : ∀ {B total}, s.pool.Conserved ∅ B total → f ∉ s.queue .freeXmitQueue → s'.pool.Conserved ∅ B total
  only : Only f s s'

theorem Handled.turn {s s' : XmitPriv} {f : XmitFrameId} (h : Handled f s s') : Turn f s s' :=
  ⟨fun hc hf => (Set.empty_sdiff {f}) ▸ h.keeps hc hf, h.only⟩

theorem Turn.of_pool {s s' : XmitPriv} {f : XmitFrameId} (h : s'.pool = s.pool) : Turn f s s' := by
  have hq : s'.queue = s.queue := congrArg TxPool.queue h
  exact ⟨fun hc _ => h ▸ hc, fun g _ q => by rw [hq]⟩

theorem foldl_only {P : XmitPriv → Prop} (turn : XmitPriv → XmitFrameId → XmitPriv) (q : TxQueue)
    (hturn : ∀ s f, P s → f ∈ s.queue q → P (turn s f) ∧ Only f s (turn s f)) (l : List XmitFrameId) (s : XmitPriv)
    (hnodup : l.Nodup) (hmem : ∀ f ∈ l, f ∈ s.queue q) (hs : P s) : P (l.foldl turn s) := by
  induction l generalizing s with
  | nil => exact hs
  | cons f rest ih =>
    rw [List.nodup_cons] at hnodup
    obtain ⟨hturned, honly⟩ := hturn s f hs (hmem f List.mem_cons_self)
    refine ih (turn s f) hnodup.2 ?_ hturned
    intro g hg
    have hne : g ≠ f := fun hgf => hnodup.1 (hgf ▸ hg)
    exact (honly g hne q).mpr (hmem g (List.mem_cons_of_mem f hg))

theorem foldl_queue (turn : XmitPriv → XmitFrameId → XmitPriv) (q : TxQueue) (hq : q ≠ .freeXmitQueue)
    (hturn : ∀ s f, Once s.queue → f ∈ s.queue q → Turn f s (turn s f)) {B : Set XmitBufId} {total : SkBuff → ℕ}
    (s : XmitPriv) (hc : s.pool.Conserved ∅ B total) : ((s.queue q).foldl turn s).pool.Conserved ∅ B total := by
  refine foldl_only (P := fun s => s.pool.Conserved ∅ B total) turn q ?_ _ s (hc.once.nodup q) (fun _ hf => hf) hc
  intro t f ht hf
  have hturned := hturn t f ht.once hf
  exact ⟨hturned.keeps ht fun hfree => hq (ht.once.one f _ _ hf hfree), hturned.only⟩

section Functions
variable {B : Set XmitBufId} {total : SkBuff → ℕ} (s : XmitPriv) (psta : StaId)

theorem rtwFreeXmitframeQueue_conserved (q : TxQueue) (hq : q ≠ .freeXmitQueue)
    (hc : s.pool.Conserved ∅ B total) : (s.rtwFreeXmitframeQueue q).pool.Conserved ∅ B total :=
  foldl_queue rtwFreeXmitframe q hq (fun s f _ _ => (s.rtwFreeXmitframe_handled f).turn) s hc

theorem sleepTurn_turn (f : XmitFrameId) : Turn f s (sleepTurn psta s f) := by
  unfold sleepTurn
  rcases s.enqueueForSleeping_pool f with ⟨s', h, hpool⟩ | ⟨s', h, hs⟩
  · rw [h]
    exact Turn.of_pool hpool
  · rw [h]
    exact (hs.to_pool (rfl : (s'.count _ _ _).pool = s'.pool)).turn

theorem stopServq_conserved (ac : Ac) (hc : s.pool.Conserved ∅ B total) :
    (stopServq psta s ac).pool.Conserved ∅ B total :=
  foldl_queue (sleepTurn psta) _ TxQueue.noConfusion (fun s f _ _ => s.sleepTurn_turn psta f) s hc

theorem stopStaXmit_conserved {s' : XmitPriv} (h : s.stopStaXmit psta = some s')
    (hc : s.pool.Conserved ∅ B total) : s'.pool.Conserved ∅ B total := by
  obtain ⟨pstaBmc, -, rfl⟩ := Option.map_eq_some_iff.mp h
  have hmarked : (s.markSleeping psta).pool.Conserved ∅ B total := hc
  have hfour := stopServq_conserved _ psta .bk <| stopServq_conserved _ psta .be <|
    stopServq_conserved _ psta .vi <| stopServq_conserved _ psta .vo hmarked
  exact stopServq_conserved _ pstaBmc .be hfour

theorem deliver_turn {t : XmitPriv} {f : XmitFrameId} (a : TxAttrib) (honce : Once s.queue)
    (hpool : t.pool = (s.listDel f).pool) (ha : a.priority = (s.frames f).attrib.priority) :
    Turn f s (t.deliver f a) := by
  have hqueue : t.queue = delInit s.queue f := congrArg TxPool.queue hpool
  have hprio : (t.frames f).attrib.priority = (s.frames f).attrib.priority :=
    congrFun (congrArg TxPool.priority hpool) f
  have hloose : Loose t.queue f := hqueue ▸ honce.loose_delInit f
  exact ((t.deliver_handled f a (ha.trans hprio.symm) hloose).of_pool hpool.symm).of_listDel.turn

theorem wakeupTurn_turn (f : XmitFrameId) (honce : Once s.queue) : Turn f s (wakeupTurn psta s f) := by
  unfold wakeupTurn
  dsimp only
  split
  · exact s.deliver_turn _ honce rfl rfl
  · exact s.deliver_turn _ honce rfl rfl

theorem wakeupUnicast_conserved (hc : s.pool.Conserved ∅ B total) :
    (s.wakeupUnicast psta).pool.Conserved ∅ B total := by
  have hloop := foldl_queue (wakeupTurn psta) (.sleepQ psta) TxQueue.noConfusion
    (fun s f honce _ => s.wakeupTurn_turn psta f honce) s hc
  unfold wakeupUnicast
  dsimp only
  split
  · exact hloop
  · exact hloop

theorem wakeupBmc_conserved (hc : s.pool.Conserved ∅ B total) : s.wakeupBmc.pool.Conserved ∅ B total := by
  unfold wakeupBmc
  split
  · exact hc
  · rename_i pstaBmc _
    have hloop := foldl_queue (wakeupBmcTurn pstaBmc) (.sleepQ pstaBmc) TxQueue.noConfusion
      (fun s f honce _ => s.deliver_turn _ honce rfl rfl) s hc
    split
    · dsimp only
      split
      · exact hloop
      · exact hloop
    · exact hc

theorem wakeupStaToXmit_conserved (hc : s.pool.Conserved ∅ B total) :
    (s.wakeupStaToXmit psta).pool.Conserved ∅ B total :=
  wakeupBmc_conserved _ (s.wakeupUnicast_conserved psta hc)

theorem pollSleepq_conserved (hc : s.pool.Conserved ∅ B total) :
    (s.pollSleepq psta).pool.Conserved ∅ B total := by
  unfold pollSleepq
  split
  · rename_i f rest hhead
    have hf : f ∈ s.queue (.sleepQ psta) := hhead ▸ List.mem_cons_self
    have hnot : f ∉ s.queue .freeXmitQueue := fun hfree => TxQueue.noConfusion (hc.once.one f _ _ hf hfree)
    have hturn := (s.deliver_turn (t := (s.listDel f).lenDec psta)
      (withMdata (s.frames f).attrib (((s.listDel f).lenDec psta).info psta).sleepqLen) hc.once rfl rfl).keeps hc hnot
    dsimp only
    split
    · exact hturn
    · exact hturn
  · split
    · exact hc
    · exact hc

theorem psPoll_conserved (priority : ℕ) (hc : s.pool.Conserved ∅ B total) :
    (s.psPoll psta priority).pool.Conserved ∅ B total := by
  have halive : (s.noteAlive psta).pool.Conserved ∅ B total := by
    unfold noteAlive
    dsimp only
    split
    · exact hc
    · exact hc
  unfold psPoll
  split
  · exact hc
  · dsimp only
    split
    · exact pollSleepq_conserved _ psta halive
    · exact halive

theorem triggerTurn_turn (f : XmitFrameId) (honce : Once s.queue) : Turn f s (triggerTurn psta s f) := by
  unfold triggerTurn
  dsimp only
  split
  · have hturn := s.deliver_turn (t := ((s.listDel f).lenDec psta).acLenDec psta)
      (withEosp (s.frames f).attrib ((((s.listDel f).lenDec psta).acLenDec psta).staPs psta).sleepqAcLen) honce rfl rfl
    split
    · exact ⟨hturn.keeps, hturn.only⟩
    · exact hturn
  · exact Turn.of_pool rfl

theorem xmitDeliveryEnabledFrames_conserved (hc : s.pool.Conserved ∅ B total) :
    (s.xmitDeliveryEnabledFrames psta).pool.Conserved ∅ B total :=
  foldl_queue (triggerTurn psta) _ TxQueue.noConfusion (fun s f honce _ => s.triggerTurn_turn psta f honce) s hc

theorem freeServq_conserved (n : TxServq) (hc : s.pool.Conserved ∅ B total) :
    (s.freeServq n).pool.Conserved ∅ B total :=
  s.rtwFreeXmitframeQueue_conserved (.staPending n) TxQueue.noConfusion hc

theorem rtwFreeStainfo_conserved (hc : s.pool.Conserved ∅ B total) :
    (s.rtwFreeStainfo psta).pool.Conserved ∅ B total := by
  have hsleep := s.rtwFreeXmitframeQueue_conserved (.sleepQ psta) TxQueue.noConfusion hc
  have hfour : (s.freeQueues psta).pool.Conserved ∅ B total :=
    freeServq_conserved _ (psta, .bk) <| freeServq_conserved _ (psta, .be) <|
      freeServq_conserved _ (psta, .vi) <| freeServq_conserved _ (psta, .vo) hsleep
  unfold rtwFreeStainfo
  generalize s.freeQueues psta = t at hfour
  dsimp only
  split
  · exact hfour
  · exact hfour

end Functions

end XmitPriv

end Rtl8723au
