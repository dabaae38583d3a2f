import Rtl8723au.Include.Wifi
import Rtl8723au.Recv.ReorderDelivery

/-! Block ack agreements and the reorder buffer: `process_addba_req` of `core/rtw_wlan_util.c` and
`OnAction_back` of `core/rtw_mlme_ext.c` set the control block of a TID back while frames may wait in its
queue. -/
namespace Rtl8723au.Reorder
open SerialNumber Wifi
set_option autoImplicit false

/-! ## The action frames -/

def RTW_WLAN_CATEGORY_BACK : ℕ := 3
def RTW_WLAN_ACTION_ADDBA_REQ : ℕ := 0
def RTW_WLAN_ACTION_DELBA : ℕ := 2

/-- The members of `struct mlme_ext_info` that are read. -/
structure MlmeExtInfo where
  htEnable : Bool
  bAcceptAddbaReq : Bool

/-- `process_addba_req` for a known station, over its `recvreorder_ctrl`. `preq` is a
`struct ADDBA_request`. -/
def processAddbaReq (pmlmeinfo : MlmeExtInfo) (preq : Mem) (recvreorderCtrl : Tid → RecvReorderCtrl) :
    Tid → RecvReorderCtrl :=
  let param := le16 preq 1
  let tid : Tid := Fin.ofNat 16 (param >>> 2 &&& 0x0f)
  Function.update recvreorderCtrl tid
    { recvreorderCtrl tid with indicateSeq := 0xffff, enable := pmlmeinfo.bAcceptAddbaReq }

/-- `OnAction_back` for a frame of a known station, as far as `recvreorder_ctrl` goes. -/
def onActionBack (pmlmeinfo : MlmeExtInfo) (frameBody : Mem) (recvreorderCtrl : Tid → RecvReorderCtrl) :
    Tid → RecvReorderCtrl :=
  if (frameBody 0).toNat = RTW_WLAN_CATEGORY_BACK then
    if !pmlmeinfo.htEnable then recvreorderCtrl
    else if (frameBody 1).toNat = RTW_WLAN_ACTION_ADDBA_REQ then
      processAddbaReq pmlmeinfo (fun i => frameBody (2 + i)) recvreorderCtrl
    else if (frameBody 1).toNat = RTW_WLAN_ACTION_DELBA then
      if (frameBody 3).toNat &&& 8 = 0 then recvreorderCtrl
      else
        let tid : Tid := Fin.ofNat 16 ((frameBody 3).toNat >>> 4 &&& 0x0F)
        Function.update recvreorderCtrl tid { recvreorderCtrl tid with enable := false, indicateSeq := 0xffff }
    else recvreorderCtrl
  else recvreorderCtrl

def RecvReorderCtrl.setBack (ctrl : RecvReorderCtrl) (enable : Bool) : RecvReorderCtrl :=
  { ctrl with enable := enable, indicateSeq := 0xffff }

theorem onActionBack_cases (pmlmeinfo : MlmeExtInfo) (frameBody : Mem) (ctrls : Tid → RecvReorderCtrl)
    (tid : Tid) : onActionBack pmlmeinfo frameBody ctrls tid = ctrls tid ∨
      ∃ enable, onActionBack pmlmeinfo frameBody ctrls tid = (ctrls tid).setBack enable := by
  have hset : ∀ (t : Tid) (enable : Bool),
      Function.update ctrls t ((ctrls t).setBack enable) tid = ctrls tid ∨
        ∃ e, Function.update ctrls t ((ctrls t).setBack enable) tid = (ctrls tid).setBack e := by
    intro t enable
    by_cases ht : tid = t
    · subst ht
      exact .inr ⟨enable, Function.update_self ..⟩
    · exact .inl (Function.update_of_ne ht ..)
  generalize hr : onActionBack pmlmeinfo frameBody ctrls tid = r
  unfold onActionBack processAddbaReq at hr
  split at hr
  · split at hr
    · exact .inl hr.symm
    · split at hr
      · rw [← hr]
        exact hset _ pmlmeinfo.bAcceptAddbaReq
      · split at hr
        · split at hr
          · exact .inl hr.symm
          · rw [← hr]
            exact hset _ false
        · exact .inl hr.symm
  · exact .inl hr.symm

/-! ## A TID -/

/-- Attributes of a QoS frame. -/
structure QosFrame where
  attrib : RxPktAttrib
  qos : attrib.qos = true
  seqNum : attrib.seqNum < 4096

inductive SessionStep where
  | frame (a : QosFrame)
  | back (pmlmeinfo : MlmeExtInfo) (frameBody : Mem)
  | timeout

/-- The receiver of a TID. `disturbed` says that a block ack frame has set the control block back while
frames waited, and that some have waited ever since. -/
structure Session where
  rx : Receiver
  disturbed : Bool

/-- The state `rtw_alloc_stainfo` leaves. -/
def Session.initial : Session := ⟨⟨{}, [], [], 0, []⟩, false⟩

def Session.arrival (s : Session) (a : QosFrame) : Arrival := ⟨s.rx.received, a.attrib⟩

namespace Receiver
variable (s : Receiver)

/-- A frame is passed to `recv_indicatepkt_reorder`. -/
def receive (f : Arrival) : Receiver :=
  match recvIndicatepktReorder receiverOps f s with
  | (true, t) => { t with received := t.received + 1, accepted := t.accepted ++ [f] }
  | (false, t) => { t with received := t.received + 1 }

def back (tid : Tid) (pmlmeinfo : MlmeExtInfo) (frameBody : Mem) : Receiver :=
  { s with ctrl := onActionBack pmlmeinfo frameBody (fun _ => s.ctrl) tid }

end Receiver

namespace Session

def step (tid : Tid) (s : Session) : SessionStep → Session
  | .frame a =>
    let t := s.rx.receive (s.arrival a)
    ⟨t, s.disturbed && !t.pending.isEmpty⟩
  | .back pmlmeinfo frameBody =>
    let t := s.rx.back tid pmlmeinfo frameBody
    ⟨t, (s.disturbed || t.ctrl != s.rx.ctrl) && !t.pending.isEmpty⟩
  | .timeout =>
    let t := rtwReorderingCtrlTimeoutHandler receiverOps s.rx
    ⟨t, s.disturbed && !t.pending.isEmpty⟩

def run (tid : Tid) (s : Session) (steps : List SessionStep) : Session := steps.foldl (step tid) s

/-! ## The law -/

/-- `n` may go up behind `d`: it was not received earlier, or is not the older. -/
def NotOvertaken (d n : Arrival) : Prop := n.id < d.id → snLess (seqOf n) (seqOf d) = false

structure KeepsOrder (s : Session) : Prop where
  order : s.rx.log.Pairwise NotOvertaken
  armed : s.rx.pending ≠ [] → s.rx.ctrl.timerArmed = true

/-- The frame goes up past the queue. -/
def GoesPast (s : Session) (a : QosFrame) : Prop :=
  s.rx.ctrl.enable = false ∨
    a.attrib.amsdu = false ∧ (a.attrib.ethType = 0x0806 ∨ a.attrib.ackPolicy ≠ 0)

/-- A frame that goes past the queue is not newer than one that waits; a frame that is queued while the
session is disturbed finds those that are older than it in front of the others. -/
structure CleanArrival (s : Session) (a : QosFrame) : Prop where
  past : s.GoesPast a → ∀ x ∈ s.rx.pending, snLess (seqOf x) a.attrib.seqNum = false
  queued : ¬ s.GoesPast a → s.disturbed = true →
    s.rx.pending.Pairwise fun x z => snLess (seqOf z) a.attrib.seqNum = true → snLess (seqOf x) a.attrib.seqNum = true

def CleanStep (s : Session) : SessionStep → Prop
  | .frame a => s.CleanArrival a
  | .back .. => True
  | .timeout => True

def CleanRun (tid : Tid) : Session → List SessionStep → Prop
  | _, [] => True
  | s, e :: steps => s.CleanStep e ∧ CleanRun tid (s.step tid e) steps

end Session

end Rtl8723au.Reorder

/-! A TID over runs with block ack frames. The invariant ties the window to the queue unless the session is
disturbed; order is kept when no frame overtakes one that waits. -/
namespace Rtl8723au.Reorder
open SerialNumber
set_option autoImplicit false

/-! ## One arrival -/

theorem enqueueScan_stop {seqNum n : ℕ} (l : List ℕ) (h : enqueueScan seqNum l = some n) :
    n ≤ l.length ∧ ∀ x ∈ (l.drop n).head?, snLess x seqNum = false := by
  induction l generalizing n with
  | nil =>
    cases h
    exact ⟨le_rfl, fun x hx => absurd hx (Option.not_mem_none x)⟩
  | cons next rest ih =>
    unfold enqueueScan at h
    by_cases hless : snLess next seqNum = true
    · rw [if_pos hless] at h
      obtain ⟨m, hm, rfl⟩ := Option.map_eq_some_iff.mp h
      obtain ⟨hle, hstop⟩ := ih hm
      exact ⟨Nat.succ_le_succ hle, hstop⟩
    · rw [if_neg hless] at h
      split at h
      · exact absurd h.symm (Option.some_ne_none n)
      · cases h
        refine ⟨Nat.zero_le _, fun x hx => ?_⟩
        rw [← Option.some.inj hx]
        exact Bool.eq_false_iff.mpr hless

/-- A number the driver keeps: none yet, or a serial number. -/
def WindowStart (w : ℕ) : Prop := w = 0xFFFF ∨ w < 4096

theorem checkIndicateSeq_start (ctrl : RecvReorderCtrl) (seqNum : ℕ) (hw : ctrl.wsizeB = 64)
    (hi : WindowStart ctrl.indicateSeq) (hs : seqNum < 4096) :
    ∃ b, ∃ w < 4096, checkIndicateSeq ctrl seqNum = (b, { ctrl with indicateSeq := w }) := by
  rcases hi with hfirst | hi
  · exact ⟨true, _, Nat.mod_lt _ (by norm_num), checkIndicateSeq_first ctrl seqNum hfirst⟩
  · by_cases hd : ahead 4096 ctrl.indicateSeq seqNum < 2048
    · obtain ⟨w, hlt, hcheck, -⟩ := checkIndicateSeq_accept ctrl seqNum hw hi hs hd
      exact ⟨true, w, hlt, hcheck⟩
    · exact ⟨false, _, hi, checkIndicateSeq_behind ctrl seqNum hi (not_lt.mp hd)⟩

theorem reorderLocked_placed (s : Receiver) (f : Arrival) (hw : s.ctrl.wsizeB = 64)
    (hi : WindowStart s.ctrl.indicateSeq) (hf : f ∉ s.pending) (hs : seqOf f < 4096) :
    ∃ w < 4096,
      reorderLocked receiverOps f s = (false, { s with ctrl := { s.ctrl with indicateSeq := w } }) ∨
      ∃ n, (∀ x ∈ (s.pending.drop n).head?, snLess (seqOf x) (seqOf f) = false) ∧
        reorderLocked receiverOps f s = (true, (s.inserted w n f).drained.timed) := by
  obtain ⟨b, w, hlt, hcheck⟩ := checkIndicateSeq_start s.ctrl (seqOf f) hw hi hs
  have hcheck' : checkIndicateSeq s.ctrl f.attrib.seqNum = (b, { s.ctrl with indicateSeq := w }) := hcheck
  refine ⟨w, hlt, ?_⟩
  cases b with
  | false => exact .inl (by simp [reorderLocked, hcheck'])
  | true =>
    cases hscan : enqueueScan (seqOf f) (s.pending.map seqOf) with
    | none =>
      have hdup := enqueueReorderRecvframe_receiver { s with ctrl := { s.ctrl with indicateSeq := w } } f hf
      simp only [hscan] at hdup
      exact .inl (by simp [reorderLocked, hcheck', hdup])
    | some n =>
      obtain ⟨hle, hstop⟩ := enqueueScan_stop _ hscan
      rw [List.length_map] at hle
      refine .inr ⟨n, fun x hx => ?_, reorderLocked_inserted s f w n hf hle hcheck hscan⟩
      apply hstop
      rw [← List.map_drop, List.head?_map]
      exact Option.mem_map_of_mem seqOf hx

theorem bypass_eq_false {a : QosFrame} (h : ¬ (a.attrib.ethType = 0x0806 ∨ a.attrib.ackPolicy ≠ 0)) :
    (!a.attrib.qos || a.attrib.ethType == 0x0806 || a.attrib.ackPolicy != 0) = false := by
  rw [not_or, not_not] at h
  simp [a.qos, h.1, h.2]

theorem recvIndicatepktReorder_past (s : Session) (a : QosFrame) (h : s.GoesPast a) :
    ∃ w, (w = s.rx.ctrl.indicateSeq ∨ w < 4096 ∧ s.rx.ctrl.enable = false) ∧
      recvIndicatepktReorder receiverOps (s.arrival a) s.rx =
        (true, { s.rx with
          ctrl := { s.rx.ctrl with indicateSeq := w }, log := s.rx.log ++ [s.arrival a] }) := by
  have hattrib : (s.arrival a).attrib = a.attrib := rfl
  by_cases hlet : a.attrib.amsdu = false ∧ (a.attrib.ethType = 0x0806 ∨ a.attrib.ackPolicy ≠ 0)
  · refine ⟨_, .inl rfl, ?_⟩
    have hbypass : (!a.attrib.qos || a.attrib.ethType == 0x0806 || a.attrib.ackPolicy != 0) = true := by
      rcases hlet.2 with heth | hack
      · simp [heth]
      · simp [hack]
    simp only [recvIndicatepktReorder, receiverOps_attrib, hattrib, hlet.1, receiverOps_wlanhdrToEthhdr, hbypass]
    rfl
  · have henable : s.rx.ctrl.enable = false := h.resolve_right hlet
    refine ⟨(a.attrib.seqNum + 1) % 4096, .inr ⟨Nat.mod_lt _ (by norm_num), henable⟩, ?_⟩
    cases hamsdu : a.attrib.amsdu with
    | false =>
      have hbypass := bypass_eq_false fun hin => hlet ⟨hamsdu, hin⟩
      simp only [recvIndicatepktReorder, receiverOps_attrib, hattrib, hamsdu, receiverOps_wlanhdrToEthhdr, hbypass,
        receiverOps_ctrl, henable]
      rfl
    | true =>
      simp only [recvIndicatepktReorder, receiverOps_attrib, hattrib, hamsdu, receiverOps_ctrl, henable]
      rfl

theorem recvIndicatepktReorder_queued (s : Session) (a : QosFrame) (h : ¬ s.GoesPast a) :
    recvIndicatepktReorder receiverOps (s.arrival a) s.rx = reorderLocked receiverOps (s.arrival a) s.rx := by
  have hattrib : (s.arrival a).attrib = a.attrib := rfl
  obtain ⟨henable, hlet⟩ := not_or.mp h
  cases hamsdu : a.attrib.amsdu with
  | false =>
    have hbypass := bypass_eq_false fun hin => hlet ⟨hamsdu, hin⟩
    simp [recvIndicatepktReorder, hattrib, hamsdu, hbypass, henable]
  | true => simp [recvIndicatepktReorder, hattrib, hamsdu, henable]

/-! ## The invariant -/

namespace InWindow

theorem nil {w : ℕ} (hw : w < 4096) : InWindow seqOf w [] [] where
  lt := hw
  seq_lt _ hf := absurd hf List.not_mem_nil
  ordered := OrderedFrom.nil _
  offset _ hf := absurd hf List.not_mem_nil
  chain := List.isChain_nil
  last l hl := absurd hl (Option.not_mem_none l)

theorem forget {w : ℕ} {q log : List Arrival} (h : InWindow seqOf w q log) : InWindow seqOf w q [] :=
  { h with chain := List.isChain_nil, last := fun l hl => absurd hl (Option.not_mem_none l) }

end InWindow

/-- The numbers a receiver keeps. -/
structure Receiver.Numbered (s : Receiver) : Prop where
  wsizeB : s.ctrl.wsizeB = 64
  indicateSeq : WindowStart s.ctrl.indicateSeq
  seq_lt : ∀ f ∈ s.pending, seqOf f < 4096
  fresh : ∀ f ∈ s.log ++ s.pending, f.id < s.received

/-- The timer runs while a frame waits. -/
structure Receiver.Sound (s : Receiver) : Prop extends s.Numbered where
  armed : s.pending ≠ [] → s.ctrl.timerArmed = true

theorem drain_lt (w : ℕ) (q : List Arrival) (hw : w < 4096) : (drain seqOf w q).1 < 4096 := by
  induction q generalizing w with
  | nil => exact hw
  | cons f rest ih =>
    unfold drain
    by_cases hless : (!snLess w (seqOf f)) = true
    · rw [if_pos hless]
      refine ih _ ?_
      split
      · rw [and_fff]
        exact Nat.mod_lt _ (by norm_num)
      · exact hw
    · rw [if_neg hless]
      exact hw

theorem Receiver.Numbered.drained {s : Receiver} (h : s.Numbered) (hlt : s.ctrl.indicateSeq < 4096) :
    s.drained.timed.Sound where
  wsizeB := h.wsizeB
  indicateSeq := .inr (drain_lt _ _ hlt)
  seq_lt f hf := by
    apply h.seq_lt
    rw [← drain_append seqOf s.ctrl.indicateSeq s.pending]
    exact List.mem_append_right _ hf
  fresh f hf := h.fresh f (s.drained_append ▸ hf)
  armed hne := by
    show (!s.drained.pending.isEmpty) = true
    rw [Bool.not_eq_true', List.isEmpty_eq_false_iff]
    exact hne

namespace Session

/-- The window fits the queue as long as the session is not disturbed. -/
structure Tracked (s : Session) : Prop where
  sound : s.rx.Sound
  window : s.disturbed = false → s.rx.pending = [] ∨
    s.rx.ctrl.enable = true ∧ InWindow seqOf s.rx.ctrl.indicateSeq s.rx.pending []

/-- Neither what went up nor what waits has overtaken anything. -/
def Ordered (s : Session) : Prop := (s.rx.log ++ s.rx.pending).Pairwise NotOvertaken

theorem disturbed_of_ne {d : Bool} {q : List Arrival} (h : (d && !q.isEmpty) = false) : q = [] ∨ d = false := by
  rw [Bool.and_eq_false_iff, Bool.not_eq_false', List.isEmpty_iff] at h
  exact h.symm

theorem tracked_drained {r : Receiver} {d : Bool} (h : r.Numbered) (hlt : r.ctrl.indicateSeq < 4096)
    (hwindow : d = false → r.ctrl.enable = true ∧ ∃ base, Advancing seqOf base r.ctrl.indicateSeq r.pending []) :
    Tracked ⟨r.drained.timed, d && !r.drained.timed.pending.isEmpty⟩ := by
  refine ⟨h.drained hlt, fun hd => ?_⟩
  rcases disturbed_of_ne hd with hnil | hd
  · exact .inl hnil
  · obtain ⟨henable, base, hadv⟩ := hwindow hd
    exact .inr ⟨henable, hadv.drain.forget⟩

theorem ordered_drained {r : Receiver} {d : Bool} (h : (r.log ++ r.pending).Pairwise NotOvertaken) :
    Ordered ⟨r.drained.timed, d⟩ := by
  show (r.drained.log ++ r.drained.pending).Pairwise NotOvertaken
  rw [r.drained_append]
  exact h

section Arrival
variable {s : Session} (h : s.Tracked) (a : QosFrame)
include h

theorem Tracked.arrival_not_mem : s.arrival a ∉ s.rx.pending := fun hmem =>
  Nat.lt_irrefl _ (h.sound.fresh _ (List.mem_append_right _ hmem))

theorem Tracked.before (x : Arrival) (hx : x ∈ s.rx.log ++ s.rx.pending) : NotOvertaken x (s.arrival a) :=
  fun hlt => absurd (h.sound.fresh x hx) (Nat.lt_asymm hlt)

/-- What a frame that is not let past does: it is rejected, or queued in a place that is right if the
arrival is clean. -/
theorem Tracked.locked (hpast : ¬ s.GoesPast a) :
    (∃ w, WindowStart w ∧ (s.disturbed = false → w = s.rx.ctrl.indicateSeq) ∧
      reorderLocked receiverOps (s.arrival a) s.rx =
        (false, { s.rx with ctrl := { s.rx.ctrl with indicateSeq := w } })) ∨
    ∃ w n, w < 4096 ∧ (s.CleanArrival a → ∀ x ∈ s.rx.pending.drop n, snLess (seqOf x) a.attrib.seqNum = false) ∧
      (s.disturbed = false → ∃ base, Advancing seqOf base w (s.rx.inserted w n (s.arrival a)).pending []) ∧
      reorderLocked receiverOps (s.arrival a) s.rx = (true, (s.rx.inserted w n (s.arrival a)).drained.timed) := by
  have hseq : seqOf (s.arrival a) = a.attrib.seqNum := rfl
  cases hd : s.disturbed with
  | false =>
    have hwindow : (s.rx.ctrl.indicateSeq = 0xFFFF ∧ s.rx.pending = [] ∧ ([] : List Arrival) = []) ∨
        InWindow seqOf s.rx.ctrl.indicateSeq s.rx.pending [] := by
      rcases h.window hd with hnil | ⟨-, hin⟩
      · rcases h.sound.indicateSeq with hfirst | hlt
        · exact .inl ⟨hfirst, hnil, rfl⟩
        · exact .inr (hnil ▸ InWindow.nil hlt)
      · exact .inr hin
    rcases reorderLocked_window s.rx (s.arrival a) [] h.sound.wsizeB hwindow (h.arrival_not_mem a) a.seqNum with
      hreject | ⟨base, w, n, hadv, hqueued⟩
    · exact .inl ⟨_, h.sound.indicateSeq, fun _ => rfl, hreject⟩
    · refine .inr ⟨w, n, hadv.lt, fun _ x hx => ?_, fun _ => ⟨base, hadv⟩, hqueued⟩
      -- both lie less than half a circle ahead of the base, the new frame first
      have hord := (orderedFrom_append.mp hadv.ordered).2.1
      have hlt := (orderedFrom_cons.mp hord).1 x hx
      have hx' := (hadv.near x (List.mem_append_right _ (List.mem_cons_of_mem _ hx))).1
      have ha := (hadv.near (s.arrival a) (List.mem_append_right _ List.mem_cons_self)).1
      rw [Bool.eq_false_iff, ← hseq, ne_eq, snLess_iff_of_near base _ _ hx' ha]
      exact Nat.lt_asymm hlt
  | true =>
    obtain ⟨w, hlt, hreject | ⟨n, hstop, hqueued⟩⟩ := reorderLocked_placed s.rx (s.arrival a) h.sound.wsizeB
      h.sound.indicateSeq (h.arrival_not_mem a) a.seqNum
    · exact .inl ⟨w, .inr hlt, fun hfalse => absurd hfalse.symm Bool.false_ne_true, hreject⟩
    · refine .inr ⟨w, n, hlt, fun hclean => ?_, fun hfalse => absurd hfalse.symm Bool.false_ne_true, hqueued⟩
      have hfront := (hclean.queued hpast hd).sublist (List.drop_sublist n _)
      cases hdrop : s.rx.pending.drop n with
      | nil => exact fun x hx => absurd hx List.not_mem_nil
      | cons y rest =>
        rw [hdrop] at hfront hstop
        have hy : snLess (seqOf y) a.attrib.seqNum = false := hstop y rfl
        intro x hx
        rcases List.mem_cons.mp hx with rfl | hx
        · exact hy
        · rw [Bool.eq_false_iff]
          intro hless
          exact Bool.false_ne_true (hy.symm.trans ((List.pairwise_cons.mp hfront).1 x hx hless))

theorem Tracked.inserted (w n : ℕ) (hlt : w < 4096) (accepted : List Arrival) :
    Receiver.Numbered { s.rx.inserted w n (s.arrival a) with
      received := s.rx.received + 1, accepted := accepted } where
  wsizeB := h.sound.wsizeB
  indicateSeq := .inr hlt
  seq_lt f hf := by
    rcases List.mem_append.mp hf with hf | hf
    · exact h.sound.seq_lt f (List.mem_of_mem_take hf)
    · rcases List.mem_cons.mp hf with rfl | hf
      · exact a.seqNum
      · exact h.sound.seq_lt f (List.mem_of_mem_drop hf)
  fresh f hf := by
    have hold : f ∈ s.rx.log ++ s.rx.pending → f.id < s.rx.received + 1 := fun hin =>
      Nat.lt_succ_of_lt (h.sound.fresh f hin)
    rcases List.mem_append.mp hf with hf | hf
    · exact hold (List.mem_append_left _ hf)
    · rcases List.mem_append.mp hf with hf | hf
      · exact hold (List.mem_append_right _ (List.mem_of_mem_take hf))
      · rcases List.mem_cons.mp hf with rfl | hf
        · exact Nat.lt_succ_self _
        · exact hold (List.mem_append_right _ (List.mem_of_mem_drop hf))

end Arrival

/-! ## Steps -/

section Steps
variable {s : Session} {tid : Tid}

theorem Tracked.frame (h : s.Tracked) (a : QosFrame) : (s.step tid (.frame a)).Tracked := by
  by_cases hpast : s.GoesPast a
  · obtain ⟨w, hw, hresult⟩ := recvIndicatepktReorder_past s a hpast
    have hstart : WindowStart w := by
      rcases hw with rfl | ⟨hlt, -⟩
      · exact h.sound.indicateSeq
      · exact .inr hlt
    unfold step Receiver.receive
    dsimp only
    rw [hresult]
    refine ⟨⟨⟨h.sound.wsizeB, hstart, h.sound.seq_lt, fun f hf => ?_⟩, h.sound.armed⟩, fun hd => ?_⟩
    · rcases List.mem_append.mp hf with hf | hf
      · rcases List.mem_append.mp hf with hf | hf
        · exact Nat.lt_succ_of_lt (h.sound.fresh f (List.mem_append_left _ hf))
        · rw [List.mem_singleton.mp hf]
          exact Nat.lt_succ_self _
      · exact Nat.lt_succ_of_lt (h.sound.fresh f (List.mem_append_right _ hf))
    · rcases disturbed_of_ne hd with hnil | hd
      · exact .inl hnil
      · refine (h.window hd).imp_right fun ⟨henable, hin⟩ => ⟨henable, ?_⟩
        rcases hw with rfl | ⟨-, hoff⟩
        · exact hin
        · exact absurd (hoff.symm.trans henable) Bool.false_ne_true
  · have hresult := recvIndicatepktReorder_queued s a hpast
    unfold step Receiver.receive
    dsimp only
    rw [hresult]
    rcases h.locked a hpast with ⟨w, hstart, hw, hreject⟩ | ⟨w, n, hlt, -, hadv, hqueued⟩
    · rw [hreject]
      refine ⟨⟨⟨h.sound.wsizeB, hstart, h.sound.seq_lt, fun f hf => Nat.lt_succ_of_lt (h.sound.fresh f hf)⟩,
        h.sound.armed⟩, fun hd => ?_⟩
      rcases disturbed_of_ne hd with hnil | hd
      · exact .inl hnil
      · rw [hw hd]
        exact h.window hd
    · rw [hqueued]
      refine tracked_drained (h.inserted a w n hlt _) hlt fun hd => ⟨?_, hadv hd⟩
      exact Bool.eq_true_of_not_eq_false fun hoff => hpast (.inl hoff)

theorem Tracked.timeout (h : s.Tracked) : (s.step tid .timeout).Tracked := by
  unfold step
  dsimp only
  cases hp : s.rx.pending with
  | nil =>
    rw [timeoutHandler_receiver_nil s.rx hp]
    exact ⟨⟨⟨h.sound.wsizeB, h.sound.indicateSeq, h.sound.seq_lt, h.sound.fresh⟩, fun _ => rfl⟩,
      fun _ => .inl hp⟩
  | cons f rest =>
    have hf : f ∈ s.rx.pending := hp ▸ List.mem_cons_self
    have hlt : seqOf f < 4096 := h.sound.seq_lt f hf
    rw [timeoutHandler_forced s.rx f rest hp]
    refine tracked_drained ⟨h.sound.wsizeB, .inr hlt, h.sound.seq_lt, h.sound.fresh⟩ hlt fun hd => ?_
    obtain ⟨henable, hin⟩ := (h.window hd).resolve_left fun hnil => List.cons_ne_nil f rest (hp ▸ hnil)
    refine ⟨henable, s.rx.ctrl.indicateSeq, ?_⟩
    have hin' := hp ▸ hin
    exact hp.symm ▸ hin'.force

theorem Tracked.back (h : s.Tracked) (pmlmeinfo : MlmeExtInfo) (frameBody : Mem) :
    (s.step tid (.back pmlmeinfo frameBody)).Tracked := by
  unfold step Receiver.back
  dsimp only
  rcases onActionBack_cases pmlmeinfo frameBody (fun _ => s.rx.ctrl) tid with hsame | ⟨enable, hset⟩
  · rw [hsame]
    refine ⟨⟨⟨h.sound.wsizeB, h.sound.indicateSeq, h.sound.seq_lt, h.sound.fresh⟩, h.sound.armed⟩, fun hd => ?_⟩
    rcases disturbed_of_ne hd with hnil | hd
    · exact .inl hnil
    · exact h.window (Bool.or_eq_false_iff.mp hd).1
  · rw [hset]
    refine ⟨⟨⟨h.sound.wsizeB, .inl rfl, h.sound.seq_lt, h.sound.fresh⟩, h.sound.armed⟩, fun hd => ?_⟩
    rcases disturbed_of_ne hd with hnil | hd
    · exact .inl hnil
    · obtain ⟨hd, hctrl⟩ := Bool.or_eq_false_iff.mp hd
      have hkept : s.rx.ctrl.setBack enable = s.rx.ctrl := by simpa using hctrl
      rw [hkept]
      exact h.window hd

theorem Tracked.step (h : s.Tracked) (e : SessionStep) : (s.step tid e).Tracked := by
  cases e with
  | frame a => exact h.frame a
  | back pmlmeinfo frameBody => exact h.back pmlmeinfo frameBody
  | timeout => exact h.timeout

theorem Ordered.insert {l₁ l₂ : List Arrival} {f : Arrival} (h : (l₁ ++ l₂).Pairwise NotOvertaken)
    (hbefore : ∀ x ∈ l₁ ++ l₂, NotOvertaken x f) (hafter : ∀ x ∈ l₂, snLess (seqOf x) (seqOf f) = false) :
    (l₁ ++ f :: l₂).Pairwise NotOvertaken := by
  obtain ⟨h₁, h₂, hcross⟩ := List.pairwise_append.mp h
  refine List.pairwise_append.mpr ⟨h₁, List.pairwise_cons.mpr ⟨fun x hx _ => hafter x hx, h₂⟩, ?_⟩
  intro x hx y hy
  rcases List.mem_cons.mp hy with rfl | hy
  · exact hbefore x (List.mem_append_left _ hx)
  · exact hcross x hx y hy

theorem Ordered.step (h : s.Ordered) (ht : s.Tracked) (e : SessionStep) (hclean : s.CleanStep e) :
    (s.step tid e).Ordered := by
  cases e with
  | frame a =>
    have hclean : s.CleanArrival a := hclean
    by_cases hpast : s.GoesPast a
    · obtain ⟨w, -, hresult⟩ := recvIndicatepktReorder_past s a hpast
      unfold Session.step Receiver.receive
      dsimp only
      rw [hresult]
      show (s.rx.log ++ [s.arrival a] ++ s.rx.pending).Pairwise NotOvertaken
      rw [List.append_assoc]
      exact Ordered.insert h (ht.before a) (hclean.past hpast)
    · have hresult := recvIndicatepktReorder_queued s a hpast
      unfold Session.step Receiver.receive
      dsimp only
      rw [hresult]
      rcases ht.locked a hpast with ⟨w, -, -, hreject⟩ | ⟨w, n, -, hafter, -, hqueued⟩
      · rw [hreject]
        exact h
      · rw [hqueued]
        have hsplit : s.rx.log ++ s.rx.pending = (s.rx.log ++ s.rx.pending.take n) ++ s.rx.pending.drop n := by
          rw [List.append_assoc, List.take_append_drop]
        have hbefore := ht.before a
        unfold Ordered at h
        rw [hsplit] at h hbefore
        have hins := Ordered.insert h hbefore (hafter hclean)
        rw [List.append_assoc] at hins
        exact ordered_drained (r := s.rx.inserted w n (s.arrival a)) (d := true) hins
  | back pmlmeinfo frameBody => exact h
  | timeout =>
    unfold Session.step
    dsimp only
    cases hp : s.rx.pending with
    | nil =>
      rw [timeoutHandler_receiver_nil s.rx hp]
      exact h
    | cons f rest =>
      rw [timeoutHandler_forced s.rx f rest hp]
      exact ordered_drained (d := true) h

end Steps

/-! ## Runs -/

theorem initial_tracked : initial.Tracked where
  sound := ⟨⟨rfl, .inl rfl, fun _ hf => absurd hf List.not_mem_nil, fun _ hf => absurd hf List.not_mem_nil⟩,
    fun hne => absurd rfl hne⟩
  window _ := .inl rfl

theorem Tracked.run {tid : Tid} (steps : List SessionStep) {s : Session} (h : s.Tracked) :
    (s.run tid steps).Tracked := by
  induction steps generalizing s with
  | nil => exact h
  | cons e steps ih => exact ih (h.step e)

theorem Ordered.run {tid : Tid} (steps : List SessionStep) {s : Session} (h : s.Ordered) (ht : s.Tracked)
    (hclean : CleanRun tid s steps) : (s.run tid steps).Ordered := by
  induction steps generalizing s with
  | nil => exact h
  | cons e steps ih => exact ih (h.step ht e hclean.1) (ht.step e) hclean.2

theorem timer_armed (tid : Tid) (steps : List SessionStep) (h : (initial.run tid steps).rx.pending ≠ []) :
    (initial.run tid steps).rx.ctrl.timerArmed = true :=
  (initial_tracked.run steps).sound.armed h

/-- **Order over block ack setup and teardown**: in a clean run nothing that was received earlier and is
older goes up behind something newer, and the timer runs while a frame waits. -/
theorem blockAck_order (tid : Tid) (steps : List SessionStep) (h : CleanRun tid initial steps) :
    (initial.run tid steps).KeepsOrder where
  order := by
    have hempty : initial.Ordered := List.Pairwise.nil
    exact (List.pairwise_append.mp (hempty.run steps initial_tracked h)).1
  armed := timer_armed tid steps

/-! ## A DELBA while a frame waits -/

def qosFrame (seqNum : Fin 4096) : QosFrame := ⟨{ qos := true, seqNum := seqNum }, rfl, seqNum.isLt⟩

def addbaRequest : SessionStep := .back ⟨true, true⟩ fun i => if i = 0 then 3 else 0

def delba : SessionStep := .back ⟨true, true⟩ fun i => if i = 0 then 3 else if i = 1 then 2 else if i = 3 then 8 else 0

/-- Number 2 waits for number 1 when reordering is switched off, and number 3 goes past it. -/
theorem blockAck_overtaken : ¬ ∀ (tid : Tid) (steps : List SessionStep), (initial.run tid steps).KeepsOrder := by
  intro hall
  have horder := (hall 0 [addbaRequest, .frame (qosFrame 0), .frame (qosFrame 2), delba, .frame (qosFrame 3),
    .timeout]).order
  have hpairs : List.Pairwise (fun d n : ℕ × ℕ => n.1 < d.1 → snLess n.2 d.2 = false)
      ((initial.run 0 [addbaRequest, .frame (qosFrame 0), .frame (qosFrame 2), delba, .frame (qosFrame 3),
        .timeout]).rx.log.map fun f => (f.id, seqOf f)) := List.pairwise_map.mpr horder
  have hlog : (initial.run 0 [addbaRequest, .frame (qosFrame 0), .frame (qosFrame 2), delba,
      .frame (qosFrame 3), .timeout]).rx.log.map (fun f => (f.id, seqOf f)) = [(0, 0), (2, 3), (1, 2)] := by
    decide +kernel
  rw [hlog] at hpairs
  exact absurd hpairs (by decide)

theorem cleanArrival_of_nil {s : Session} (h : s.rx.pending = []) (a : QosFrame) : s.CleanArrival a where
  past _ _ hx := absurd hx (h ▸ List.not_mem_nil)
  queued _ _ := h ▸ List.Pairwise.nil

theorem cleanArrival_of_undisturbed {s : Session} {a : QosFrame} (hpast : ¬ s.GoesPast a)
    (hd : s.disturbed = false) : s.CleanArrival a where
  past h := absurd h hpast
  queued _ h := absurd (hd.symm.trans h) Bool.false_ne_true

/-- The gap is filled before reordering is switched off. -/
theorem blockAck_order_filled : (initial.run 0 [addbaRequest, .frame (qosFrame 0), .frame (qosFrame 2),
    .frame (qosFrame 1), delba, .frame (qosFrame 3)]).KeepsOrder ∧
    (initial.run 0 [addbaRequest, .frame (qosFrame 0), .frame (qosFrame 2)]).rx.pending ≠ [] := by
  refine ⟨blockAck_order 0 _ ⟨trivial, cleanArrival_of_nil rfl _, cleanArrival_of_nil ?_ _,
    cleanArrival_of_undisturbed ?_ ?_, trivial, cleanArrival_of_nil ?_ _, trivial⟩, ?_⟩
  · decide +kernel
  · intro h
    rcases h with h | ⟨-, h | h⟩
    · revert h
      decide +kernel
    · exact absurd h (by decide)
    · exact h rfl
  · decide +kernel
  · decide +kernel
  · decide +kernel

end Session

end Rtl8723au.Reorder
