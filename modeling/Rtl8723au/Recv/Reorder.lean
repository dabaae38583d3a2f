import Rtl8723au.Include.RecvFrame
import Rtl8723au.Library.SerialNumber
import Mathlib.Data.Nat.Bitwise

/-! The receive reorder buffer of `core/rtw_recv.c`: `check_indicate_seq`,
`enqueue_reorder_recvframe`, `recv_indicatepkts_in_order`,
`recv_indicatepkt_reorder` and the timeout handler, over whatever holds the
frames. `ReorderOps` names what these functions use of the rest of the driver. -/
namespace Rtl8723au.Reorder
set_option autoImplicit false

/-- `struct recv_reorder_ctrl` without its queue; `timerArmed` is the state of the kernel timer. -/
structure RecvReorderCtrl where
  enable : Bool := false
  indicateSeq : ℕ := 0xffff
  wsizeB : ℕ := 64
  timerArmed : Bool := false
  deriving DecidableEq

/-- What the reorder code sees of the driver: the control block, its pending queue as a linked
list, the frames' attributes, and the functions that take a frame further. -/
structure ReorderOps (σ F : Type) where
  attrib : F → σ → RxPktAttrib
  ctrl : σ → RecvReorderCtrl
  setCtrl : RecvReorderCtrl → σ → σ
  pending : σ → List F
  listDelInit : F → σ → σ
  /-- `list_add_tail` in front of the node at this place of the pending queue. -/
  listAddTail : F → ℕ → σ → σ
  wlanhdrToEthhdr : F → σ → σ
  rtwRecvIndicatepkt : F → σ → σ
  amsduToMsdu : F → σ → Bool × σ
  rtwFreeRecvframe : F → σ → σ
  bDriverStopped : σ → Bool
  bSurpriseRemoved : σ → Bool

/-! ## Serial number comparison -/

/-- `SN_LESS`: bit 11 of the 32-bit difference. -/
def snLess (a b : ℕ) : Bool := (BitVec.ofInt 32 ((a : ℤ) - b) &&& 0x800#32) != 0#32

def snEqual (a b : ℕ) : Bool := a == b

/-! ## The window -/

/-- `check_indicate_seq`; the stores into the `u16` member keep sixteen bits. -/
def checkIndicateSeq (ctrl : RecvReorderCtrl) (seqNum : ℕ) : Bool × RecvReorderCtrl :=
  let wsize := ctrl.wsizeB
  -- taken before the initialisation below: a first frame never gets past SN_EQUAL
  let wend := uint ((ctrl.indicateSeq : ℤ) + wsize - 1) &&& 0xFFF
  let ctrl := if ctrl.indicateSeq = 0xFFFF then { ctrl with indicateSeq := seqNum } else ctrl
  if snLess seqNum ctrl.indicateSeq then (false, ctrl)
  else if snEqual seqNum ctrl.indicateSeq then
    (true, { ctrl with indicateSeq := (ctrl.indicateSeq + 1) &&& 0xFFF })
  else if snLess wend seqNum then
    if (seqNum : ℤ) ≥ (wsize : ℤ) - 1 then
      (true, { ctrl with indicateSeq := uint ((seqNum : ℤ) + 1 - wsize) % 0x10000 })
    else
      (true, { ctrl with indicateSeq := uint ((0xFFF : ℤ) - (wsize - (seqNum + 1)) + 1) % 0x10000 })
  else (true, ctrl)

/-- The scan of `enqueue_reorder_recvframe` over the numbers of the queued frames: the place to
insert at, or `none` for a duplicate. -/
def enqueueScan (seqNum : ℕ) : List ℕ → Option ℕ
  | [] => some 0
  | next :: rest =>
    if snLess next seqNum then (enqueueScan seqNum rest).map (· + 1)
    else if snEqual next seqNum then none
    else some 0

section Ops
variable {σ F : Type} (ops : ReorderOps σ F)

/-- `enqueue_reorder_recvframe`. -/
def enqueueReorderRecvframe (f : F) (s : σ) : Bool × σ :=
  match enqueueScan (ops.attrib f s).seqNum ((ops.pending s).map fun g => (ops.attrib g s).seqNum) with
  | none => (false, s)
  | some plist => (true, ops.listAddTail f plist (ops.listDelInit f s))

/-! ## Indication -/

/-- What happens to one frame taken off the head of the queue. -/
def indicateHead (f : F) (s : σ) : σ :=
  let pattrib := ops.attrib f s
  let s := ops.listDelInit f s
  let ctrl := ops.ctrl s
  let s :=
    if snEqual ctrl.indicateSeq pattrib.seqNum then
      ops.setCtrl { ctrl with indicateSeq := (ctrl.indicateSeq + 1) &&& 0xFFF } s
    else s
  if !pattrib.amsdu then
    if !ops.bDriverStopped s && !ops.bSurpriseRemoved s then ops.rtwRecvIndicatepkt f s else s
  else
    match ops.amsduToMsdu f s with
    | (true, s) => s
    | (false, s) => ops.rtwFreeRecvframe f s

/-- The `while (!list_empty(phead))` loop; every turn removes the head, so the length of the queue
bounds the number of turns. The result is `bPktInBuf`. -/
def indicateLoop : ℕ → Bool → σ → Bool × σ
  | 0, bPktInBuf, s => (bPktInBuf, s)
  | n + 1, bPktInBuf, s =>
    match ops.pending s with
    | [] => (bPktInBuf, s)
    | f :: _ =>
      if !snLess (ops.ctrl s).indicateSeq (ops.attrib f s).seqNum then
        indicateLoop n false (indicateHead ops f s)
      else (true, s)

/-- `recv_indicatepkts_in_order`. -/
def recvIndicatepktsInOrder (bforced : Bool) (s : σ) : Bool × σ :=
  if bforced then
    match ops.pending s with
    | [] => (true, s)
    | f :: _ =>
      let s := ops.setCtrl { ops.ctrl s with indicateSeq := (ops.attrib f s).seqNum } s
      indicateLoop ops (ops.pending s).length false s
  else indicateLoop ops (ops.pending s).length false s

/-- `_set_timer(&preorder_ctrl->reordering_ctrl_timer, REORDER_WAIT_TIME)`. -/
def setTimer (s : σ) : σ := ops.setCtrl { ops.ctrl s with timerArmed := true } s

/-- `_cancel_timer_ex(&preorder_ctrl->reordering_ctrl_timer)`. -/
def cancelTimer (s : σ) : σ := ops.setCtrl { ops.ctrl s with timerArmed := false } s

/-- From label `s2.` of `recv_indicatepkt_reorder` on, under the queue's lock. -/
def reorderLocked (f : F) (s : σ) : Bool × σ :=
  let (inWindow, ctrl) := checkIndicateSeq (ops.ctrl s) (ops.attrib f s).seqNum
  let s := ops.setCtrl ctrl s
  if !inWindow then (false, s)
  else
    match enqueueReorderRecvframe ops f s with
    | (false, s) => (false, s)
    | (true, s) =>
      match recvIndicatepktsInOrder ops false s with
      | (true, s) => (true, setTimer ops s)
      | (false, s) => (true, cancelTimer ops s)

/-- `recv_indicatepkt_reorder`; `true` is `_SUCCESS`. -/
def recvIndicatepktReorder (f : F) (s : σ) : Bool × σ :=
  if !(ops.attrib f s).amsdu then
    let s := ops.wlanhdrToEthhdr f s
    let pattrib := ops.attrib f s
    if !pattrib.qos || pattrib.ethType == 0x0806 || pattrib.ackPolicy != 0 then
      if !ops.bDriverStopped s && !ops.bSurpriseRemoved s then (true, ops.rtwRecvIndicatepkt f s)
      else (false, s)
    else if (ops.ctrl s).enable = false then
      let s := ops.setCtrl { ops.ctrl s with indicateSeq := pattrib.seqNum } s
      let s := ops.rtwRecvIndicatepkt f s
      (true, ops.setCtrl { ops.ctrl s with indicateSeq := ((ops.ctrl s).indicateSeq + 1) % 4096 } s)
    else reorderLocked ops f s
  else if (ops.ctrl s).enable = false then
    let s := ops.setCtrl { ops.ctrl s with indicateSeq := (ops.attrib f s).seqNum } s
    let (retval, s) := ops.amsduToMsdu f s
    (retval, ops.setCtrl { ops.ctrl s with indicateSeq := ((ops.ctrl s).indicateSeq + 1) % 4096 } s)
  else reorderLocked ops f s

/-- The timer fires, which disarms it, and `rtw_reordering_ctrl_timeout_handler` runs. -/
def rtwReorderingCtrlTimeoutHandler (s : σ) : σ :=
  let s := cancelTimer ops s
  if ops.bDriverStopped s || ops.bSurpriseRemoved s then s
  else
    match recvIndicatepktsInOrder ops true s with
    | (true, s) => setTimer ops s
    | (false, s) => s

end Ops

end Rtl8723au.Reorder

/-! What the reorder window does to serial numbers, seen as distances on the circle
of 4096 numbers: the comparison, the three cases of `check_indicate_seq`, the
insertion scan, and the prefix of the queue the indication loop takes off. -/
namespace Rtl8723au.Reorder
open SerialNumber
set_option autoImplicit false

theorem ahead4096 (a b : ℕ) : (ahead 4096 a b : ℤ) = ((b : ℤ) - a) % 4096 :=
  ahead_cast 4096 a b (by norm_num)

theorem and_fff (n : ℕ) : n &&& 0xFFF = n % 4096 := Nat.and_two_pow_sub_one_eq_mod n 12

/-! ## The comparison -/

theorem snLess_iff (a b : ℕ) : snLess a b = true ↔ 2048 ≤ ahead 4096 b a := by
  have hand : (BitVec.ofInt 32 ((a : ℤ) - b) &&& 0x800#32).toNat
      = ((((a : ℤ) - b) % 2 ^ 32).toNat / 2048 % 2) * 2048 := by
    rw [BitVec.toNat_and, BitVec.toNat_ofInt]
    have h := Nat.and_two_pow ((((a : ℤ) - b) % 2 ^ 32).toNat) 11
    rw [Nat.toNat_testBit] at h
    exact h
  have hne : snLess a b = true ↔ (((a : ℤ) - b) % 2 ^ 32).toNat / 2048 % 2 ≠ 0 := by
    rw [snLess, bne_iff_ne, ne_eq, BitVec.toNat_eq, hand]
    simp
  rw [hne]
  have e := ahead4096 b a
  omega

theorem snLess_self (a : ℕ) : snLess a a = false := by
  rw [Bool.eq_false_iff, ne_eq, snLess_iff, ahead_self]
  omega

@[simp] theorem snEqual_iff (a b : ℕ) : snEqual a b = true ↔ a = b := by
  simp [snEqual]

/-- Seen from a base, `SN_LESS` is the order of the distances when these are below 2048. -/
theorem snLess_iff_of_near (base a b : ℕ) (ha : ahead 4096 base a < 2048)
    (hb : ahead 4096 base b < 2048) :
    snLess a b = true ↔ ahead 4096 base a < ahead 4096 base b := by
  rw [snLess_iff]
  have e1 := ahead4096 base a
  have e2 := ahead4096 base b
  have e3 := ahead4096 b a
  omega

/-! ## The three cases of `check_indicate_seq` -/

/-- How far an accepted frame at distance `d` moves a window of 64. -/
def windowShift (d : ℕ) : ℕ := if d = 0 then 1 else d - 63

theorem checkIndicateSeq_first (ctrl : RecvReorderCtrl) (seqNum : ℕ) (h : ctrl.indicateSeq = 0xFFFF) :
    checkIndicateSeq ctrl seqNum = (true, { ctrl with indicateSeq := (seqNum + 1) % 4096 }) := by
  simp [checkIndicateSeq, h, snLess_self, and_fff]

theorem checkIndicateSeq_behind (ctrl : RecvReorderCtrl) (seqNum : ℕ) (hi : ctrl.indicateSeq < 4096)
    (hd : 2048 ≤ ahead 4096 ctrl.indicateSeq seqNum) :
    checkIndicateSeq ctrl seqNum = (false, ctrl) := by
  have hne : ctrl.indicateSeq ≠ 0xFFFF := by omega
  have hless := (snLess_iff seqNum ctrl.indicateSeq).mpr hd
  simp [checkIndicateSeq, hne, hless]

theorem checkIndicateSeq_accept (ctrl : RecvReorderCtrl) (seqNum : ℕ) (hw : ctrl.wsizeB = 64)
    (hi : ctrl.indicateSeq < 4096) (hs : seqNum < 4096)
    (hd : ahead 4096 ctrl.indicateSeq seqNum < 2048) :
    ∃ w < 4096, checkIndicateSeq ctrl seqNum = (true, { ctrl with indicateSeq := w }) ∧
      ahead 4096 ctrl.indicateSeq w = windowShift (ahead 4096 ctrl.indicateSeq seqNum) := by
  have hne : ctrl.indicateSeq ≠ 0xFFFF := by omega
  have hless : snLess seqNum ctrl.indicateSeq = false := by
    rw [Bool.eq_false_iff, ne_eq, snLess_iff]
    omega
  have hwend : uint ((ctrl.indicateSeq : ℤ) + 64 - 1) = ctrl.indicateSeq + 63 := by
    rw [uint]
    omega
  have e1 := ahead4096 ctrl.indicateSeq seqNum
  simp only [checkIndicateSeq, hne, if_false, hless, hw, Nat.cast_ofNat, hwend, and_fff]
  by_cases heq : seqNum = ctrl.indicateSeq
  · refine ⟨(ctrl.indicateSeq + 1) % 4096, by omega, by simp [heq], ?_⟩
    have e2 := ahead4096 ctrl.indicateSeq ((ctrl.indicateSeq + 1) % 4096)
    rw [heq, ahead_self]
    simp only [windowShift, if_true]
    omega
  · have hd0 : ahead 4096 ctrl.indicateSeq seqNum ≠ 0 := by omega
    have hbeyond : snLess ((ctrl.indicateSeq + 63) % 4096) seqNum = true ↔
        64 ≤ ahead 4096 ctrl.indicateSeq seqNum := by
      rw [snLess_iff]
      have e3 := ahead4096 seqNum ((ctrl.indicateSeq + 63) % 4096)
      omega
    simp only [snEqual_iff, heq, Bool.false_eq_true, if_false, hbeyond]
    by_cases hfar : 64 ≤ ahead 4096 ctrl.indicateSeq seqNum
    · refine ⟨(seqNum + 4096 - 63) % 4096, by omega, ?_, ?_⟩
      · rw [if_pos hfar]
        -- the two arms are the two ways the C code keeps the number below 0x1000
        split
        · have hw' : uint ((seqNum : ℤ) + 1 - 64) % 0x10000 = (seqNum + 4096 - 63) % 4096 := by
            unfold uint
            omega
          rw [hw']
        · have hw' : uint ((0xFFF : ℤ) - (64 - (seqNum + 1)) + 1) % 0x10000
              = (seqNum + 4096 - 63) % 4096 := by
            unfold uint
            omega
          rw [hw']
      · have e2 := ahead4096 ctrl.indicateSeq ((seqNum + 4096 - 63) % 4096)
        rw [windowShift, if_neg hd0]
        omega
    · refine ⟨ctrl.indicateSeq, hi, by rw [if_neg hfar, ← hw], ?_⟩
      rw [windowShift, if_neg hd0, ahead_self]
      omega

/-! ## The insertion scan -/

/-- The scan over an ordered queue stops where the new number belongs, or at its duplicate. -/
theorem enqueueScan_spec (base seqNum : ℕ) (q : List ℕ) (ho : OrderedFrom 4096 id base q)
    (hq : ∀ x ∈ q, x < 4096 ∧ ahead 4096 base x < 2048) (hs : seqNum < 4096)
    (hd : ahead 4096 base seqNum < 2048) :
    (enqueueScan seqNum q = none ∧ seqNum ∈ q) ∨
      ∃ n ≤ q.length, enqueueScan seqNum q = some n ∧
        (∀ x ∈ q.take n, ahead 4096 base x < ahead 4096 base seqNum) ∧
        (∀ x ∈ q.drop n, ahead 4096 base seqNum < ahead 4096 base x) := by
  induction q with
  | nil => exact .inr ⟨0, le_rfl, rfl, by simp, by simp⟩
  | cons next rest ih =>
    obtain ⟨hnext, hrest⟩ := orderedFrom_cons.mp ho
    have hn := hq next List.mem_cons_self
    have hcmp := snLess_iff_of_near base next seqNum hn.2 hd
    by_cases hless : snLess next seqNum = true
    · rw [enqueueScan, if_pos hless]
      rcases ih hrest fun x hx => hq x (List.mem_cons_of_mem _ hx) with ⟨h1, h2⟩ | ⟨n, hn', h1, h2, h3⟩
      · exact .inl ⟨by rw [h1]; rfl, List.mem_cons_of_mem _ h2⟩
      · refine .inr ⟨n + 1, by simpa using hn', by rw [h1]; rfl, ?_, by simpa using h3⟩
        intro x hx
        rcases List.mem_cons.mp hx with rfl | hx
        · exact hcmp.mp hless
        · exact h2 x hx
    · rw [enqueueScan, if_neg hless]
      by_cases heq : next = seqNum
      · exact .inl ⟨by simp [heq], by simp [heq]⟩
      · refine .inr ⟨0, Nat.zero_le _, by simp [heq], by simp, ?_⟩
        have hlt : ahead 4096 base seqNum < ahead 4096 base next := by
          have hne : ahead 4096 base next ≠ ahead 4096 base seqNum := fun h =>
            heq (ahead_inj 4096 base next seqNum hn.1 hs h)
          rw [hcmp] at hless
          omega
        exact ho.lt_of_head hlt

/-! ## The indication loop on numbers -/

section Drain
variable {F : Type} (seqOf : F → ℕ)

/-- What the indication loop takes off the queue: the new `indicate_seq`, the frames taken, the rest. -/
def drain (indicateSeq : ℕ) : List F → ℕ × List F × List F
  | [] => (indicateSeq, [], [])
  | f :: rest =>
    if !snLess indicateSeq (seqOf f) then
      let next := if snEqual indicateSeq (seqOf f) then (indicateSeq + 1) &&& 0xFFF else indicateSeq
      ((drain next rest).1, f :: (drain next rest).2.1, (drain next rest).2.2)
    else (indicateSeq, [], f :: rest)

theorem drain_append (w : ℕ) (q : List F) : (drain seqOf w q).2.1 ++ (drain seqOf w q).2.2 = q := by
  induction q generalizing w with
  | nil => rfl
  | cons f rest ih =>
    rw [drain]
    split
    · rw [List.cons_append, ih]
    · rfl

/-- The state of the window after a drain, all distances taken from one `base` behind it. -/
structure Drained (base w : ℕ) (q : List F) : Prop where
  lt : (drain seqOf w q).1 < 4096
  le : ahead 4096 base w ≤ ahead 4096 base (drain seqOf w q).1
  taken : ∀ f ∈ (drain seqOf w q).2.1, ahead 4096 base (seqOf f) < ahead 4096 base (drain seqOf w q).1
  kept : ∀ f ∈ (drain seqOf w q).2.2, ahead 4096 base (drain seqOf w q).1 < ahead 4096 base (seqOf f)
  -- the window either stood still or ends right behind the last frame taken
  stop : ahead 4096 base (drain seqOf w q).1 = ahead 4096 base w ∨
    ∃ f, (drain seqOf w q).2.1.getLast? = some f ∧
      ahead 4096 base (drain seqOf w q).1 = ahead 4096 base (seqOf f) + 1

theorem drain_spec (base w : ℕ) (q : List F) (hw : w < 4096) (ho : OrderedFrom 4096 seqOf base q)
    (hq : ∀ f ∈ q, seqOf f < 4096 ∧ ahead 4096 base (seqOf f) < 2048)
    (hne : q ≠ [] → ahead 4096 base w < 2048) : Drained seqOf base w q := by
  induction q generalizing w with
  | nil => exact ⟨hw, le_rfl, by simp [drain], by simp [drain], .inl rfl⟩
  | cons f rest ih =>
    obtain ⟨hhead, hrest⟩ := orderedFrom_cons.mp ho
    have hf := hq f List.mem_cons_self
    have hw' := hne (by simp)
    have hcmp := snLess_iff_of_near base w (seqOf f) hw' hf.2
    have hrq : ∀ g ∈ rest, seqOf g < 4096 ∧ ahead 4096 base (seqOf g) < 2048 := fun g hg =>
      hq g (List.mem_cons_of_mem _ hg)
    by_cases hless : snLess w (seqOf f) = true
    · have hd : drain seqOf w (f :: rest) = (w, [], f :: rest) := by
        simp [drain, hless]
      have hlt := ho.lt_of_head (hcmp.mp hless)
      exact ⟨by rw [hd]; exact hw, by rw [hd], by simp [hd], by rw [hd]; exact hlt, .inl (by rw [hd])⟩
    · by_cases heq : w = seqOf f
      · -- the frame at the window's start moves the start one further
        have hadv : ahead 4096 base ((w + 1) % 4096) = ahead 4096 base (seqOf f) + 1 := by
          have e1 := ahead4096 base ((w + 1) % 4096)
          have e2 := ahead4096 base (seqOf f)
          omega
        have hd : drain seqOf w (f :: rest) = ((drain seqOf ((w + 1) % 4096) rest).1,
            f :: (drain seqOf ((w + 1) % 4096) rest).2.1, (drain seqOf ((w + 1) % 4096) rest).2.2) := by
          rw [drain]
          simp [heq, snLess_self, and_fff]
        have h := ih ((w + 1) % 4096) (by omega) hrest hrq (by
          intro hne'
          obtain ⟨g, tl, rfl⟩ := List.exists_cons_of_ne_nil hne'
          have h1 := hhead g List.mem_cons_self
          have h2 := (hrq g List.mem_cons_self).2
          omega)
        have hle := h.le
        refine ⟨by rw [hd]; exact h.lt, ?_, ?_, by rw [hd]; exact h.kept, .inr ?_⟩
        · simp only [hd]
          rw [← heq] at hadv
          omega
        · simp only [hd]
          intro g hg
          rcases List.mem_cons.mp hg with rfl | hg
          · omega
          · exact h.taken g hg
        · simp only [hd]
          rcases h.stop with hs | ⟨g, hg, hs⟩
          · -- nothing more was taken: whatever lies at or behind the new start would move it
            have hnil : (drain seqOf ((w + 1) % 4096) rest).2.1 = [] := by
              by_contra hcon
              obtain ⟨g, tl, hgt⟩ := List.exists_cons_of_ne_nil hcon
              have hg : g ∈ (drain seqOf ((w + 1) % 4096) rest).2.1 := by rw [hgt]; simp
              have h1 := h.taken g hg
              have h2 := hhead g (by
                rw [← drain_append seqOf ((w + 1) % 4096) rest]
                exact List.mem_append_left _ hg)
              omega
            exact ⟨f, by simp [hnil], by omega⟩
          · exact ⟨g, by simp [List.getLast?_cons, hg], hs⟩
      · have hd : drain seqOf w (f :: rest) =
            ((drain seqOf w rest).1, f :: (drain seqOf w rest).2.1, (drain seqOf w rest).2.2) := by
          rw [drain]
          simp [hless, heq]
        have hbehind : ahead 4096 base (seqOf f) < ahead 4096 base w := by
          have hne' : ahead 4096 base (seqOf f) ≠ ahead 4096 base w := fun h =>
            heq (ahead_inj 4096 base (seqOf f) w hf.1 hw h).symm
          rw [hcmp] at hless
          omega
        have h := ih w hw hrest hrq fun _ => hw'
        refine ⟨by rw [hd]; exact h.lt, by rw [hd]; exact h.le, ?_, by rw [hd]; exact h.kept, ?_⟩
        · simp only [hd]
          intro g hg
          rcases List.mem_cons.mp hg with rfl | hg
          · exact lt_of_lt_of_le hbehind h.le
          · exact h.taken g hg
        · simp only [hd]
          rcases h.stop with hs | ⟨g, hg, hs⟩
          · exact .inl hs
          · exact .inr ⟨g, by simp [List.getLast?_cons, hg], hs⟩

end Drain

end Rtl8723au.Reorder
