import Rtl8723au.Recv.ReorderInvariant

/-! One reorder buffer over whole runs. Frames arrive with any sequence number and
the timeout handler runs at any time; the receiver records what it handed up and
what it accepted, and the invariant of the window holds after every step. -/
namespace Rtl8723au.Reorder
open SerialNumber
set_option autoImplicit false

/-! ## The system -/

/-- A received frame: its number of arrival, and its attributes as `wlanhdr_to_ethhdr` leaves them. -/
structure Arrival where
  id : ℕ
  attrib : RxPktAttrib
  deriving DecidableEq

/-- The control block with its queue; `log` is what went up the stack, oldest first, and `accepted`
the frames `recv_indicatepkt_reorder` returned `_SUCCESS` for. -/
structure Receiver where
  ctrl : RecvReorderCtrl
  pending : List Arrival
  log : List Arrival
  received : ℕ
  accepted : List Arrival

def seqOf (f : Arrival) : ℕ := f.attrib.seqNum

/-- Handing a frame up appends it to `log`, as an MSDU or through `amsdu_to_msdu`. -/
def receiverOps : ReorderOps Receiver Arrival where
  attrib f _ := f.attrib
  ctrl s := s.ctrl
  setCtrl c s := { s with ctrl := c }
  pending s := s.pending
  listDelInit f s := { s with pending := s.pending.erase f }
  listAddTail f plist s := { s with pending := s.pending.insertIdx plist f }
  wlanhdrToEthhdr _ s := s
  rtwRecvIndicatepkt f s := { s with log := s.log ++ [f] }
  amsduToMsdu f s := (true, { s with log := s.log ++ [f] })
  rtwFreeRecvframe _ s := s
  bDriverStopped _ := false
  bSurpriseRemoved _ := false

@[simp] theorem receiverOps_attrib (f : Arrival) (s : Receiver) : receiverOps.attrib f s = f.attrib := rfl
@[simp] theorem receiverOps_ctrl (s : Receiver) : receiverOps.ctrl s = s.ctrl := rfl
@[simp] theorem receiverOps_setCtrl (c : RecvReorderCtrl) (s : Receiver) :
    receiverOps.setCtrl c s = { s with ctrl := c } := rfl
@[simp] theorem receiverOps_pending (s : Receiver) : receiverOps.pending s = s.pending := rfl
@[simp] theorem receiverOps_wlanhdrToEthhdr (f : Arrival) (s : Receiver) :
    receiverOps.wlanhdrToEthhdr f s = s := rfl
@[simp] theorem receiverOps_bDriverStopped (s : Receiver) : receiverOps.bDriverStopped s = false := rfl
@[simp] theorem receiverOps_bSurpriseRemoved (s : Receiver) : receiverOps.bSurpriseRemoved s = false := rfl

/-- Attributes of a QoS frame under normal acknowledgement that is no ARP frame. -/
structure Reorderable where
  attrib : RxPktAttrib
  qos : attrib.qos = true
  ackPolicy : attrib.ackPolicy = 0
  ethType : attrib.ethType ≠ 0x0806
  seqNum : attrib.seqNum < 4096

inductive Step where
  | frame (a : Reorderable)
  | timeout

def Receiver.arrival (s : Receiver) (a : Reorderable) : Arrival := ⟨s.received, a.attrib⟩

def Receiver.step (s : Receiver) : Step → Receiver
  | .frame a =>
    match recvIndicatepktReorder receiverOps (s.arrival a) s with
    | (true, t) => { t with received := t.received + 1, accepted := t.accepted ++ [s.arrival a] }
    | (false, t) => { t with received := t.received + 1 }
  | .timeout => rtwReorderingCtrlTimeoutHandler receiverOps s

/-- The state `rtw_alloc_stainfo` leaves, with reordering switched on. -/
def Receiver.initial : Receiver := ⟨{ enable := true }, [], [], 0, []⟩

def Receiver.run (s : Receiver) (steps : List Step) : Receiver := steps.foldl Receiver.step s

/-! ## What the functions do to a receiver -/

/-- The receiver after the queue was drained. -/
def Receiver.drained (s : Receiver) : Receiver :=
  let r := drain seqOf s.ctrl.indicateSeq s.pending
  { s with ctrl := { s.ctrl with indicateSeq := r.1 }, pending := r.2.2, log := s.log ++ r.2.1 }

theorem indicateHead_receiver (f : Arrival) (s : Receiver) (rest : List Arrival)
    (hp : s.pending = f :: rest) :
    indicateHead receiverOps f s =
      let next := if snEqual s.ctrl.indicateSeq (seqOf f) then (s.ctrl.indicateSeq + 1) &&& 0xFFF
        else s.ctrl.indicateSeq
      { s with ctrl := { s.ctrl with indicateSeq := next }, pending := rest, log := s.log ++ [f] } := by
  have he : (f :: rest).erase f = rest := List.erase_cons_head ..
  have hs : f.attrib.seqNum = seqOf f := rfl
  cases heq : snEqual s.ctrl.indicateSeq (seqOf f) <;> cases ha : f.attrib.amsdu <;>
    simp [indicateHead, receiverOps, hp, he, hs, heq, ha]

theorem indicateLoop_receiver (s : Receiver) :
    indicateLoop receiverOps s.pending.length false s
      = (!s.drained.pending.isEmpty, s.drained) := by
  generalize hq : s.pending = q
  induction q generalizing s with
  | nil =>
    obtain ⟨ctrl, pending, log, received, accepted⟩ := s
    subst hq
    simp [indicateLoop, Receiver.drained, drain]
  | cons f rest ih =>
    have hseq : f.attrib.seqNum = seqOf f := rfl
    rw [List.length_cons, indicateLoop, receiverOps_pending, hq]
    simp only [receiverOps_ctrl, receiverOps_attrib, hseq]
    by_cases hl : snLess s.ctrl.indicateSeq (seqOf f) = true
    · have hd : s.drained = s := by
        obtain ⟨ctrl, pending, log, received, accepted⟩ := s
        simp only at hq hl
        simp [Receiver.drained, hq, drain, hl]
      rw [hd, hq]
      simp [hl]
    · rw [indicateHead_receiver f s rest hq, ih _ rfl]
      have hl' : snLess s.ctrl.indicateSeq (seqOf f) = false := by simpa using hl
      simp [hl', Receiver.drained, hq, drain]

theorem recvIndicatepktsInOrder_receiver (s : Receiver) :
    recvIndicatepktsInOrder receiverOps false s = (!s.drained.pending.isEmpty, s.drained) :=
  indicateLoop_receiver s

theorem recvIndicatepktsInOrder_forced (s : Receiver) (h : Arrival) (rest : List Arrival)
    (hp : s.pending = h :: rest) :
    recvIndicatepktsInOrder receiverOps true s =
      let t : Receiver := { s with ctrl := { s.ctrl with indicateSeq := seqOf h } }
      (!t.drained.pending.isEmpty, t.drained) := by
  obtain ⟨ctrl, pending, log, received, accepted⟩ := s
  subst hp
  exact indicateLoop_receiver
    ⟨{ ctrl with indicateSeq := seqOf h }, h :: rest, log, received, accepted⟩

theorem recvIndicatepktReorder_receiver (s : Receiver) (f : Arrival) (a : Reorderable)
    (hf : f.attrib = a.attrib) (he : s.ctrl.enable = true) :
    recvIndicatepktReorder receiverOps f s = reorderLocked receiverOps f s := by
  simp [recvIndicatepktReorder, hf, he, a.qos, a.ackPolicy, a.ethType]

/-- The receiver with `f` queued at place `n` and the window's start moved to `w`. -/
def Receiver.inserted (s : Receiver) (w n : ℕ) (f : Arrival) : Receiver :=
  { s with
    ctrl := { s.ctrl with indicateSeq := w }
    pending := s.pending.take n ++ f :: s.pending.drop n }

/-- The timer set or cancelled by what is left in the queue. -/
def Receiver.timed (s : Receiver) : Receiver :=
  { s with ctrl := { s.ctrl with timerArmed := !s.pending.isEmpty } }

theorem enqueueReorderRecvframe_receiver (s : Receiver) (f : Arrival) (hf : f ∉ s.pending) :
    enqueueReorderRecvframe receiverOps f s =
      match enqueueScan (seqOf f) (s.pending.map seqOf) with
      | none => (false, s)
      | some n => (true, { s with pending := s.pending.insertIdx n f }) := by
  have he : s.pending.erase f = s.pending := List.erase_of_not_mem hf
  simp only [enqueueReorderRecvframe, receiverOps, he]
  rfl

theorem insertIdx_eq (q : List Arrival) (n : ℕ) (f : Arrival) (hn : n ≤ q.length) :
    q.insertIdx n f = q.take n ++ f :: q.drop n := by
  induction n generalizing q with
  | zero => simp
  | succ n ih =>
    cases q with
    | nil => simp at hn
    | cons x q => simp [ih q (by simpa using hn)]

/-- The result of the locked part once the window moved to `w` and the scan answered `n`. -/
theorem reorderLocked_inserted (s : Receiver) (f : Arrival) (w n : ℕ) (hf : f ∉ s.pending)
    (hn : n ≤ s.pending.length)
    (hc : checkIndicateSeq s.ctrl (seqOf f) = (true, { s.ctrl with indicateSeq := w }))
    (hs : enqueueScan (seqOf f) (s.pending.map seqOf) = some n) :
    reorderLocked receiverOps f s = (true, (s.inserted w n f).drained.timed) := by
  have hc' : checkIndicateSeq s.ctrl f.attrib.seqNum = (true, { s.ctrl with indicateSeq := w }) := hc
  have he : enqueueReorderRecvframe receiverOps f { s with ctrl := { s.ctrl with indicateSeq := w } }
      = (true, s.inserted w n f) := by
    have h := enqueueReorderRecvframe_receiver { s with ctrl := { s.ctrl with indicateSeq := w } } f hf
    simp only [hs, insertIdx_eq s.pending n f hn] at h
    exact h
  simp only [reorderLocked, receiverOps_ctrl, receiverOps_attrib, receiverOps_setCtrl, hc', he,
    recvIndicatepktsInOrder_receiver, Bool.not_true, Bool.false_eq_true, if_false]
  cases hr : (s.inserted w n f).drained.pending.isEmpty <;>
    simp [setTimer, cancelTimer, Receiver.timed, hr]

/-! ## The invariant -/

/-- Before the first frame: no window yet, nothing queued, nothing handed up. -/
def Receiver.Unstarted (s : Receiver) : Prop :=
  s.ctrl.indicateSeq = 0xFFFF ∧ s.pending = [] ∧ s.log = []

/-- The part of the invariant that concerns the window and its timer. -/
structure Receiver.Windowed (s : Receiver) : Prop where
  enable : s.ctrl.enable = true
  wsizeB : s.ctrl.wsizeB = 64
  window : s.Unstarted ∨ InWindow seqOf s.ctrl.indicateSeq s.pending s.log
  armed : s.pending ≠ [] → s.ctrl.timerArmed = true

/-- Every accepted frame is handed up or queued, once, and was numbered on arrival. -/
structure Receiver.Accounted (s : Receiver) : Prop where
  perm : s.accepted.Perm (s.log ++ s.pending)
  nodup : s.accepted.Nodup
  fresh : ∀ f ∈ s.accepted, f.id < s.received

theorem Receiver.Accounted.arrival_not_mem {s : Receiver} (h : s.Accounted) (a : Reorderable) :
    s.arrival a ∉ s.accepted := by
  intro hm
  have := h.fresh _ hm
  simp [Receiver.arrival] at this

theorem Receiver.Accounted.arrival_not_pending {s : Receiver} (h : s.Accounted) (a : Reorderable) :
    s.arrival a ∉ s.pending := fun hm =>
  h.arrival_not_mem a (h.perm.mem_iff.mpr (List.mem_append_right _ hm))

/-- What an arrival does to a window that fits the queue: it is rejected and nothing changes, or it is queued
inside the moved window and the queue is drained. -/
theorem reorderLocked_window (s : Receiver) (f : Arrival) (log : List Arrival) (hw : s.ctrl.wsizeB = 64)
    (hwindow : (s.ctrl.indicateSeq = 0xFFFF ∧ s.pending = [] ∧ log = []) ∨
      InWindow seqOf s.ctrl.indicateSeq s.pending log)
    (hf : f ∉ s.pending) (hs : seqOf f < 4096) :
    reorderLocked receiverOps f s = (false, s) ∨
      ∃ base w n, Advancing seqOf base w (s.inserted w n f).pending log ∧
        reorderLocked receiverOps f s = (true, (s.inserted w n f).drained.timed) := by
  rcases hwindow with ⟨h1, h2, h3⟩ | hW
  · right
    refine ⟨seqOf f, (seqOf f + 1) % 4096, 0, ?_, ?_⟩
    · have e := ahead4096 (seqOf f) ((seqOf f + 1) % 4096)
      have e1 : ahead 4096 (seqOf f) ((seqOf f + 1) % 4096) = 1 := by omega
      simp only [Receiver.inserted, h2, h3]
      exact {
        lt := by omega
        ne_nil := by simp
        moved := by omega
        seq_lt := by simpa using hs
        ordered := by simp [OrderedFrom]
        near := by simp
        reach := .inl e1.le
        chain := List.isChain_nil
        last := by simp }
    · refine reorderLocked_inserted s f _ 0 hf (Nat.zero_le _) ?_ (by simp [h2, enqueueScan])
      exact checkIndicateSeq_first s.ctrl (seqOf f) h1
  · by_cases hd : ahead 4096 s.ctrl.indicateSeq (seqOf f) < 2048
    · obtain ⟨w, hw, hcheck, hshift⟩ :=
        checkIndicateSeq_accept s.ctrl (seqOf f) hw hW.lt hs hd
      have hordered : OrderedFrom 4096 id s.ctrl.indicateSeq (s.pending.map seqOf) :=
        List.pairwise_map.mpr hW.ordered
      have hnear : ∀ x ∈ s.pending.map seqOf, x < 4096 ∧ ahead 4096 s.ctrl.indicateSeq x < 2048 := by
        intro x hx
        obtain ⟨g, hg, rfl⟩ := List.mem_map.mp hx
        have := (hW.offset g hg).2
        exact ⟨hW.seq_lt g hg, by omega⟩
      rcases enqueueScan_spec s.ctrl.indicateSeq (seqOf f) _ hordered hnear hs hd with
        ⟨hscan, hdup⟩ | ⟨n, hn, hscan, hbefore, hafter⟩
      · -- a duplicate lies inside the window, and such a frame has not moved the window
        left
        obtain ⟨g, hg, hgs⟩ := List.mem_map.mp hdup
        have hoff := hW.offset g hg
        rw [hgs] at hoff
        have hstay : ahead 4096 s.ctrl.indicateSeq w = 0 := by
          rw [hshift, windowShift, if_neg (by omega)]
          omega
        have hws := (ahead_eq_zero_iff 4096 s.ctrl.indicateSeq w hW.lt hw).mp hstay
        have hcheck' : checkIndicateSeq s.ctrl f.attrib.seqNum = (true, s.ctrl) := by
          rw [← hws] at hcheck
          exact hcheck
        have he := enqueueReorderRecvframe_receiver s f hf
        rw [hscan] at he
        simp [reorderLocked, hcheck', he]
      · right
        rw [List.length_map] at hn
        refine ⟨s.ctrl.indicateSeq, w, n, ?_, reorderLocked_inserted s f w n hf hn hcheck hscan⟩
        refine hW.insert hw hs hd hshift (fun x hx => hbefore _ ?_) fun x hx => hafter _ ?_
        · rw [← List.map_take]
          exact List.mem_map_of_mem hx
        · rw [← List.map_drop]
          exact List.mem_map_of_mem hx
    · left
      have hcheck : checkIndicateSeq s.ctrl f.attrib.seqNum = (false, s.ctrl) :=
        checkIndicateSeq_behind s.ctrl (seqOf f) hW.lt (by omega)
      simp [reorderLocked, hcheck]

theorem reorderLocked_cases (s : Receiver) (f : Arrival) (hI : s.Windowed) (hf : f ∉ s.pending)
    (hs : seqOf f < 4096) :
    reorderLocked receiverOps f s = (false, s) ∨
      ∃ base w n, Advancing seqOf base w (s.inserted w n f).pending s.log ∧
        reorderLocked receiverOps f s = (true, (s.inserted w n f).drained.timed) :=
  reorderLocked_window s f s.log hI.wsizeB hI.window hf hs

theorem Receiver.Windowed.of_drained {s : Receiver} {base : ℕ} (he : s.ctrl.enable = true)
    (hw : s.ctrl.wsizeB = 64) (hA : Advancing seqOf base s.ctrl.indicateSeq s.pending s.log) :
    s.drained.timed.Windowed where
  enable := he
  wsizeB := hw
  window := .inr hA.drain
  armed := by
    intro hne
    simpa [Receiver.timed] using hne

theorem Receiver.drained_append (s : Receiver) : s.drained.log ++ s.drained.pending = s.log ++ s.pending := by
  have h := drain_append seqOf s.ctrl.indicateSeq s.pending
  simp only [Receiver.drained]
  rw [List.append_assoc, h]

theorem Receiver.drained_perm (s : Receiver) :
    (s.drained.log ++ s.drained.pending).Perm (s.log ++ s.pending) :=
  .of_eq s.drained_append

theorem recvIndicatepktReorder_arrival (s : Receiver) (a : Reorderable) (hI : s.Windowed) :
    recvIndicatepktReorder receiverOps (s.arrival a) s = reorderLocked receiverOps (s.arrival a) s :=
  recvIndicatepktReorder_receiver s _ a rfl hI.enable

theorem timeoutHandler_forced (s : Receiver) (h : Arrival) (rest : List Arrival) (hp : s.pending = h :: rest) :
    rtwReorderingCtrlTimeoutHandler receiverOps s =
      Receiver.timed (Receiver.drained { s with ctrl := { s.ctrl with indicateSeq := seqOf h } }) := by
  have hforce := recvIndicatepktsInOrder_forced (cancelTimer receiverOps s) h rest hp
  simp only [rtwReorderingCtrlTimeoutHandler, receiverOps_bDriverStopped, receiverOps_bSurpriseRemoved,
    hforce, Bool.or_self, Bool.false_eq_true, if_false]
  simp only [cancelTimer, receiverOps_setCtrl, receiverOps_ctrl, Receiver.timed, Receiver.drained]
  cases (drain seqOf (seqOf h) s.pending).2.2.isEmpty <;> simp [setTimer]

theorem timeoutHandler_receiver (s : Receiver) (hI : s.Windowed) (hne : s.pending ≠ []) :
    ∃ w, Advancing seqOf s.ctrl.indicateSeq w s.pending s.log ∧
      rtwReorderingCtrlTimeoutHandler receiverOps s =
        Receiver.timed (Receiver.drained { s with ctrl := { s.ctrl with indicateSeq := w } }) := by
  obtain ⟨h, rest, hp⟩ := List.exists_cons_of_ne_nil hne
  have hW : InWindow seqOf s.ctrl.indicateSeq s.pending s.log := by
    rcases hI.window with ⟨-, h2, -⟩ | hW
    · exact absurd h2 hne
    · exact hW
  exact ⟨seqOf h, by rw [hp] at hW ⊢; exact hW.force, timeoutHandler_forced s h rest hp⟩

theorem timeoutHandler_receiver_nil (s : Receiver) (hp : s.pending = []) :
    rtwReorderingCtrlTimeoutHandler receiverOps s =
      { s with ctrl := { s.ctrl with timerArmed := true } } := by
  have hforce : recvIndicatepktsInOrder receiverOps true (cancelTimer receiverOps s)
      = (true, cancelTimer receiverOps s) := by
    simp [recvIndicatepktsInOrder, cancelTimer, hp]
  simp only [rtwReorderingCtrlTimeoutHandler, receiverOps_bDriverStopped, receiverOps_bSurpriseRemoved,
    hforce, Bool.or_self, Bool.false_eq_true, if_false]
  simp [setTimer, cancelTimer]

/-! ## Steps and runs -/

theorem Receiver.Windowed.step {s : Receiver} (hI : s.Windowed) (hA : s.Accounted) (e : Step) :
    (s.step e).Windowed := by
  cases e with
  | frame a =>
    have hstep := recvIndicatepktReorder_arrival s a hI
    rcases reorderLocked_cases s (s.arrival a) hI (hA.arrival_not_pending a) a.seqNum with
      h | ⟨base, w, n, hadv, h⟩
    · simp only [Receiver.step, hstep, h]
      exact ⟨hI.enable, hI.wsizeB, hI.window, hI.armed⟩
    · have hD := Receiver.Windowed.of_drained (s := s.inserted w n (s.arrival a)) hI.enable hI.wsizeB hadv
      simp only [Receiver.step, hstep, h]
      exact ⟨hD.enable, hD.wsizeB, hD.window, hD.armed⟩
  | timeout =>
    by_cases hne : s.pending = []
    · rw [Receiver.step, timeoutHandler_receiver_nil s hne]
      exact ⟨hI.enable, hI.wsizeB, hI.window, fun _ => rfl⟩
    · obtain ⟨w, hadv, h⟩ := timeoutHandler_receiver s hI hne
      rw [Receiver.step, h]
      exact Receiver.Windowed.of_drained (s := { s with ctrl := { s.ctrl with indicateSeq := w } })
        hI.enable hI.wsizeB hadv

theorem Receiver.Accounted.step {s : Receiver} (hI : s.Windowed) (hA : s.Accounted) (e : Step) :
    (s.step e).Accounted := by
  cases e with
  | frame a =>
    have hstep := recvIndicatepktReorder_arrival s a hI
    rcases reorderLocked_cases s (s.arrival a) hI (hA.arrival_not_pending a) a.seqNum with
      h | ⟨base, w, n, hadv, h⟩
    · simp only [Receiver.step, hstep, h]
      exact ⟨hA.perm, hA.nodup, fun f hf => Nat.lt_succ_of_lt (hA.fresh f hf)⟩
    · have hperm : (s.inserted w n (s.arrival a)).pending.Perm (s.arrival a :: s.pending) := by
        have hmid : (s.inserted w n (s.arrival a)).pending.Perm
            (s.arrival a :: (s.pending.take n ++ s.pending.drop n)) := List.perm_middle
        rwa [List.take_append_drop] at hmid
      have hdrain := Receiver.drained_perm (s.inserted w n (s.arrival a))
      simp only [Receiver.step, hstep, h]
      refine ⟨?_, ?_, ?_⟩
      · refine List.Perm.trans ?_ hdrain.symm
        refine (List.perm_append_singleton _ _).trans ?_
        refine (hA.perm.cons _).trans ?_
        exact List.perm_middle.symm.trans ((hperm.symm).append_left s.log)
      · exact List.nodup_append.mpr ⟨hA.nodup, by simp, by
          rintro x hx y hy rfl
          exact hA.arrival_not_mem a (List.mem_singleton.mp hy ▸ hx)⟩
      · intro f hf
        rcases List.mem_append.mp hf with hf | hf
        · exact Nat.lt_succ_of_lt (hA.fresh f hf)
        · rw [List.mem_singleton.mp hf]
          exact Nat.lt_succ_self _
  | timeout =>
    by_cases hne : s.pending = []
    · rw [Receiver.step, timeoutHandler_receiver_nil s hne]
      exact ⟨hA.perm, hA.nodup, hA.fresh⟩
    · obtain ⟨w, hadv, h⟩ := timeoutHandler_receiver s hI hne
      rw [Receiver.step, h]
      exact ⟨hA.perm.trans (Receiver.drained_perm { s with ctrl := { s.ctrl with indicateSeq := w } }).symm,
        hA.nodup, hA.fresh⟩

theorem Receiver.run_invariant (steps : List Step) (s : Receiver) (hI : s.Windowed) (hA : s.Accounted) :
    (s.run steps).Windowed ∧ (s.run steps).Accounted := by
  induction steps generalizing s with
  | nil => exact ⟨hI, hA⟩
  | cons e steps ih => exact ih (s.step e) (hI.step hA e) (hA.step hI e)

/-- The distance of a frame from the start of the window. -/
def Receiver.offset (s : Receiver) (f : Arrival) : ℕ := ahead 4096 s.ctrl.indicateSeq (seqOf f)

theorem Receiver.run_append (s : Receiver) (pre post : List Step) :
    s.run (pre ++ post) = (s.run pre).run post := by
  rw [Receiver.run, List.foldl_append]
  rfl

end Rtl8723au.Reorder
