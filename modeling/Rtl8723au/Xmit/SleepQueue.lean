import Rtl8723au.Xmit.Conservation

/-! The accounting of a `sleep_q`: what counts its frames, the delivery-enabled ones among them, and the
station's bit of `tim_bitmap`. -/
namespace Rtl8723au
open Intrusive
set_option autoImplicit false

/-! ## The bits of an identifier -/

namespace StaPriv

theorem bitOf_eq (aid : ℕ) : bitOf aid = BitVec.twoPow 16 aid := rfl

theorem and_bitOf (x : BitVec 16) (aid : ℕ) : (x &&& bitOf aid != 0) = x.getLsbD aid := by
  rw [bitOf_eq, BitVec.and_twoPow]
  cases hbit : x.getLsbD aid with
  | false => rfl
  | true =>
    have haid : aid < 16 := BitVec.lt_of_getLsbD hbit
    rw [if_pos rfl, bne_iff_ne]
    intro hzero
    have hself := BitVec.getLsbD_twoPow (w := 16) aid aid
    rw [hzero] at hself
    simp [haid] at hself

theorem getLsbD_bitOf (aid i : ℕ) : (bitOf aid).getLsbD i = (decide (aid < 16) && decide (aid = i)) := by
  rw [bitOf_eq, BitVec.getLsbD_twoPow]

theorem getLsbD_or_bitOf (x : BitVec 16) (aid i : ℕ) :
    (x ||| bitOf aid).getLsbD i = (x.getLsbD i || (decide (aid < 16) && decide (aid = i))) := by
  rw [BitVec.getLsbD_or, getLsbD_bitOf]

theorem getLsbD_clear_bitOf (x : BitVec 16) (aid i : ℕ) :
    (x &&& ~~~bitOf aid).getLsbD i = (x.getLsbD i && !decide (aid = i)) := by
  rw [BitVec.getLsbD_and, BitVec.getLsbD_not, getLsbD_bitOf]
  by_cases hi : i < 16
  · by_cases haid : aid = i
    · subst haid
      simp [hi]
    · simp [hi, haid]
  · rw [BitVec.getLsbD_of_ge x i (by omega)]
    rfl

theorem dzTest_eq (sp : StaPriv) (aid : ℕ) : sp.dzTest aid = sp.staDzBitmap.getLsbD aid := and_bitOf _ _

end StaPriv

/-! ## Other bits of the state -/

namespace StaInfo
variable (info : StaInfo) {bit other : BitVec 32}

theorem inState_setState (h : bit &&& other = 0) : (info.setState bit).inState other = info.inState other := by
  have hand : (info.state ||| bit) &&& other = info.state &&& other := by
    rw [BitVec.and_or_distrib_right, h]
    exact BitVec.or_zero
  rw [inState, inState, ← hand]
  rfl

theorem inState_setState_self (h : bit ≠ 0) : (info.setState bit).inState bit = true := by
  have hand : (info.state ||| bit) &&& bit = bit := by
    ext i hi
    rw [BitVec.getElem_and, BitVec.getElem_or]
    cases bit[i] <;> cases info.state[i] <;> rfl
  rw [inState, bne_iff_ne]
  exact fun hzero => h (hand.symm.trans hzero)

theorem inState_toggleState (h : bit &&& other = 0) : (info.toggleState bit).inState other = info.inState other := by
  have hand : (info.state ^^^ bit) &&& other = info.state &&& other := by
    ext i hi
    have hbit : (bit[i] && other[i]) = false := by
      rw [← BitVec.getElem_and, h]
      exact BitVec.getElem_zero hi
    rw [BitVec.getElem_and, BitVec.getElem_and, BitVec.getElem_xor]
    cases hb : bit[i] with
    | true =>
      rw [hb, Bool.true_and] at hbit
      rw [hbit, Bool.and_false, Bool.and_false]
    | false => rw [Bool.xor_false]
  rw [inState, inState, ← hand]
  rfl

end StaInfo
/-! ## A sleep queue -/

/-- What a station's `sleep_q` is counted by. -/
structure SleepView where
  queue : List XmitFrameId
  enabled : XmitFrameId → Bool
  len : ℕ
  acLen : ℕ
  tim : Bool
  wrapped : Bool

namespace SleepView

structure Counted (v : SleepView) : Prop where
  nodup : v.queue.Nodup
  len : v.len = v.queue.length
  acLen : v.acLen = v.queue.countP v.enabled
  wrapped : v.wrapped = false

/-- A frame of a legacy category is announced. -/
def Announced (v : SleepView) : Prop := ∀ f ∈ v.queue, v.enabled f = false → v.tim = true

/-- Nothing is announced in vain. -/
def Quiet (v : SleepView) : Prop := v.queue = [] → v.tim = false

section Ops
variable (v : SleepView)

def lenDec : SleepView := { v with len := uint (v.len - 1), wrapped := v.wrapped || v.len == 0 }

def acLenDec : SleepView := { v with acLen := uint (v.acLen - 1), wrapped := v.wrapped || v.acLen == 0 }

def remove (f : XmitFrameId) : SleepView := { v with queue := v.queue.erase f }

def join (f : XmitFrameId) : SleepView :=
  { v with
    queue := v.queue ++ [f]
    len := uint (v.len + 1)
    acLen := if v.enabled f then uint (v.acLen + 1) else v.acLen }

end Ops

namespace Counted
variable {v : SleepView} {f : XmitFrameId}

theorem length_le (h : v.Counted) : v.queue.length ≤ 256 := by
  simpa using h.nodup.length_le_card

theorem acLen_le (h : v.Counted) : v.acLen ≤ 256 := by
  have hle : v.queue.countP v.enabled ≤ v.queue.length := List.countP_le_length
  rw [h.acLen]
  exact hle.trans h.length_le

theorem countP_remove (hf : f ∈ v.queue) :
    (v.queue.erase f).countP v.enabled + (if v.enabled f then 1 else 0) = v.queue.countP v.enabled := by
  rw [(List.perm_cons_erase hf).countP_eq, List.countP_cons]

theorem leave (h : v.Counted) (hf : f ∈ v.queue) (hlegacy : v.enabled f = false) :
    (v.remove f).lenDec.Counted := by
  have hlen : (v.queue.erase f).length + 1 = v.queue.length := by
    rw [List.length_erase_of_mem hf]
    have hpos := List.length_pos_of_mem hf
    omega
  have hle := h.length_le
  have hcnt := countP_remove hf
  rw [if_neg (by rw [hlegacy]; exact Bool.false_ne_true), add_zero] at hcnt
  exact {
    nodup := h.nodup.erase f
    len := by
      show uint (v.len - 1) = (v.queue.erase f).length
      rw [h.len, ← hlen, Nat.cast_add, Nat.cast_one, add_sub_cancel_right]
      exact uint_natCast _ (by omega)
    acLen := h.acLen.trans hcnt.symm
    wrapped := by
      show (v.wrapped || v.len == 0) = false
      rw [h.wrapped, h.len, ← hlen]
      rfl }

theorem leaveEnabled (h : v.Counted) (hf : f ∈ v.queue) (henabled : v.enabled f = true) :
    (v.remove f).lenDec.acLenDec.Counted := by
  have hlen : (v.queue.erase f).length + 1 = v.queue.length := by
    rw [List.length_erase_of_mem hf]
    have hpos := List.length_pos_of_mem hf
    omega
  have hle := h.length_le
  have hacle := h.acLen_le
  have hcnt := countP_remove hf
  rw [if_pos henabled] at hcnt
  rw [h.acLen] at hacle
  exact {
    nodup := h.nodup.erase f
    len := by
      show uint (v.len - 1) = (v.queue.erase f).length
      rw [h.len, ← hlen, Nat.cast_add, Nat.cast_one, add_sub_cancel_right]
      exact uint_natCast _ (by omega)
    acLen := by
      show uint (v.acLen - 1) = (v.queue.erase f).countP v.enabled
      rw [h.acLen, ← hcnt, Nat.cast_add, Nat.cast_one, add_sub_cancel_right]
      exact uint_natCast _ (by omega)
    wrapped := by
      show (v.wrapped || v.len == 0 || v.acLen == 0) = false
      rw [h.wrapped, h.len, h.acLen, ← hlen, ← hcnt]
      rfl }

theorem join (h : v.Counted) (hf : f ∉ v.queue) : (v.join f).Counted := by
  have hle := h.length_le
  have hacle := h.acLen_le
  exact {
    nodup := by
      refine h.nodup.append (List.nodup_singleton f) ?_
      intro g hg hgf
      rw [List.mem_singleton] at hgf
      exact hf (hgf ▸ hg)
    len := by
      show uint (v.len + 1) = (v.queue ++ [f]).length
      rw [List.length_append, h.len]
      exact uint_natCast (v.queue.length + 1) (by omega)
    acLen := by
      show (if v.enabled f then uint (v.acLen + 1) else v.acLen) = (v.queue ++ [f]).countP v.enabled
      rw [List.countP_append, List.countP_cons, List.countP_nil, zero_add, ← h.acLen]
      split
      · exact uint_natCast (v.acLen + 1) (by omega)
      · rfl
    wrapped := h.wrapped }

end Counted

end SleepView

/-! ## The queue of a station -/

namespace XmitPriv

def timTest (s : XmitPriv) (aid : ℕ) : Bool := s.timBitmap &&& StaPriv.bitOf aid != 0

def sleepView (s : XmitPriv) (p : StaId) : SleepView where
  queue := s.queue (.sleepQ p)
  enabled f := (s.staPs p).wmmpsAc 0 (s.frames f).attrib.priority
  len := (s.info p).sleepqLen
  acLen := (s.staPs p).sleepqAcLen
  tim := s.timTest (s.info p).aid
  wrapped := decide (p ∈ s.wrapped)

/-- An associated station with one of the fifteen identifiers that have a bit, whose categories are either
both delivery and trigger enabled or neither. -/
structure PsStation (s : XmitPriv) (p : StaId) : Prop where
  aid : 1 ≤ (s.info p).aid ∧ (s.info p).aid ≤ 15
  alone : ∀ q ≠ p, (s.info q).inState _FW_LINKED = true → (s.info q).aid ≠ (s.info p).aid
  unicast : isMulticastEtherAddr (s.info p).hwaddr = false
  uapsd : ∀ ac, (s.staPs p).uapsd ac = 0 ∨ (s.staPs p).uapsd ac = 3
  hasLegacyAc : (s.staPs p).hasLegacyAc = true ↔ ∃ ac, (s.staPs p).uapsd ac ≠ 3
  addressed : ∀ f, isMulticastEtherAddr (s.frames f).attrib.ra = true → (s.frames f).attrib.psta ≠ some p

/-- The stations' addresses, identifiers and links and what is settled with them stay, and so does where each
frame goes. -/
structure Settled (s s' : XmitPriv) : Prop where
  hwaddr : ∀ q, (s'.info q).hwaddr = (s.info q).hwaddr
  aid : ∀ q, (s'.info q).aid = (s.info q).aid
  linked : ∀ q, (s'.info q).inState _FW_LINKED = (s.info q).inState _FW_LINKED
  uapsd : ∀ q, (s'.staPs q).uapsd = (s.staPs q).uapsd
  hasLegacyAc : ∀ q, (s'.staPs q).hasLegacyAc = (s.staPs q).hasLegacyAc
  ra : ∀ f, (s'.frames f).attrib.ra = (s.frames f).attrib.ra
  psta : ∀ f, (s'.frames f).attrib.psta = (s.frames f).attrib.psta
  priority : ∀ f, (s'.frames f).attrib.priority = (s.frames f).attrib.priority

theorem Settled.refl (s : XmitPriv) : Settled s s :=
  ⟨fun _ => rfl, fun _ => rfl, fun _ => rfl, fun _ => rfl, fun _ => rfl, fun _ => rfl, fun _ => rfl, fun _ => rfl⟩

theorem Settled.trans {s s' s'' : XmitPriv} (h : Settled s s') (h' : Settled s' s'') : Settled s s'' where
  hwaddr q := (h'.hwaddr q).trans (h.hwaddr q)
  aid q := (h'.aid q).trans (h.aid q)
  linked q := (h'.linked q).trans (h.linked q)
  uapsd q := (h'.uapsd q).trans (h.uapsd q)
  hasLegacyAc q := (h'.hasLegacyAc q).trans (h.hasLegacyAc q)
  ra f := (h'.ra f).trans (h.ra f)
  psta f := (h'.psta f).trans (h.psta f)
  priority f := (h'.priority f).trans (h.priority f)

theorem PsStation.settled {s s' : XmitPriv} {p : StaId} (h : s.PsStation p) (hs : Settled s s') :
    s'.PsStation p where
  aid := hs.aid p ▸ h.aid
  alone q hq hlinked := hs.aid q ▸ hs.aid p ▸ h.alone q hq (hs.linked q ▸ hlinked)
  unicast := hs.hwaddr p ▸ h.unicast
  uapsd := hs.uapsd p ▸ h.uapsd
  hasLegacyAc := hs.hasLegacyAc p ▸ hs.uapsd p ▸ h.hasLegacyAc
  addressed f hra := hs.psta f ▸ h.addressed f (hs.ra f ▸ hra)

theorem PsStation.wmmpsAc {s : XmitPriv} {p : StaId} (h : s.PsStation p) (up : ℕ) :
    (s.staPs p).wmmpsAc 1 up = (s.staPs p).wmmpsAc 0 up := by
  unfold StaPs.wmmpsAc
  rcases h.uapsd (acOf up) with hac | hac
  · rw [hac]
    rfl
  · rw [hac]
    rfl

theorem PsStation.enabled {s : XmitPriv} {p : StaId} (h : s.PsStation p)
    (hlegacy : (s.staPs p).hasLegacyAc = false) (up : ℕ) : (s.staPs p).wmmpsAc 0 up = true := by
  have hall : (s.staPs p).uapsd (acOf up) = 3 := by
    by_contra hne
    have htrue := h.hasLegacyAc.mpr ⟨acOf up, hne⟩
    rw [hlegacy] at htrue
    exact Bool.false_ne_true htrue
  rw [StaPs.wmmpsAc, hall]
  rfl

/-! ## Steps that leave the queue alone -/

theorem Settled.of_same {s s' : XmitPriv} (hinfo : s'.info = s.info) (hps : s'.staPs = s.staPs)
    (hframes : s'.frames = s.frames) : Settled s s' := by
  constructor
  · exact fun q => by rw [hinfo]
  · exact fun q => by rw [hinfo]
  · exact fun q => by rw [hinfo]
  · exact fun q => by rw [hps]
  · exact fun q => by rw [hps]
  · exact fun f => by rw [hframes]
  · exact fun f => by rw [hframes]
  · exact fun f => by rw [hframes]

section Parts
variable (s : XmitPriv) (p q : StaId) (f : XmitFrameId)

@[simp] theorem info_setInfo_self (info : StaInfo) : (s.setInfo p info).info p = info := by
  show Function.update s.padapter.stapriv.staInfo p info p = info
  exact Function.update_self ..

theorem info_setInfo_of_ne {p q : StaId} (h : p ≠ q) (info : StaInfo) :
    (s.setInfo q info).info p = s.info p := by
  show Function.update s.padapter.stapriv.staInfo q info p = s.padapter.stapriv.staInfo p
  exact Function.update_of_ne h ..

@[simp] theorem staPs_setPs_self (ps : StaPs) : (s.setPs p ps).staPs p = ps := by
  show Function.update s.staPs p ps p = ps
  exact Function.update_self ..

theorem staPs_setPs_of_ne {p q : StaId} (h : p ≠ q) (ps : StaPs) : (s.setPs q ps).staPs p = s.staPs p := by
  show Function.update s.staPs q ps p = s.staPs p
  exact Function.update_of_ne h ..

theorem settled_setInfo (info : StaInfo) (hhwaddr : info.hwaddr = (s.info q).hwaddr)
    (haid : info.aid = (s.info q).aid) (hlinked : info.inState _FW_LINKED = (s.info q).inState _FW_LINKED) :
    Settled s (s.setInfo q info) := by
  have hsame : ∀ {β : Type} (get : StaInfo → β), get info = get (s.info q) →
      ∀ p, get ((s.setInfo q info).info p) = get (s.info p) := by
    intro β get hget p
    by_cases hp : p = q
    · subst hp
      rw [info_setInfo_self, hget]
    · rw [info_setInfo_of_ne s hp]
  exact ⟨hsame (·.hwaddr) hhwaddr, hsame (·.aid) haid, hsame (·.inState _FW_LINKED) hlinked, fun _ => rfl,
    fun _ => rfl, fun _ => rfl, fun _ => rfl, fun _ => rfl⟩

theorem settled_setAcLen (n : ℕ) : Settled s (s.setAcLen q n) := by
  have hsame : ∀ {β : Type} (get : StaPs → β), get { s.staPs q with sleepqAcLen := n } = get (s.staPs q) →
      ∀ p, get ((s.setAcLen q n).staPs p) = get (s.staPs p) := by
    intro β get hget p
    unfold setAcLen
    by_cases hp : p = q
    · subst hp
      rw [staPs_setPs_self, hget]
    · rw [staPs_setPs_of_ne s hp]
  exact ⟨fun _ => rfl, fun _ => rfl, fun _ => rfl, hsame (·.uapsd) rfl, hsame (·.hasLegacyAc) rfl, fun _ => rfl,
    fun _ => rfl, fun _ => rfl⟩

theorem settled_setFrame (frame : TxFrame) (hra : frame.attrib.ra = (s.frames f).attrib.ra)
    (hpsta : frame.attrib.psta = (s.frames f).attrib.psta)
    (hprio : frame.attrib.priority = (s.frames f).attrib.priority) : Settled s (s.setFrame f frame) := by
  have hsame : ∀ {β : Type} (get : TxFrame → β), get frame = get (s.frames f) →
      ∀ g, get ((s.setFrame f frame).frames g) = get (s.frames g) := by
    intro β get hget g
    show get (Function.update s.frames f frame g) = _
    by_cases hg : g = f
    · subst hg
      rw [Function.update_self, hget]
    · rw [Function.update_of_ne hg]
  exact ⟨fun _ => rfl, fun _ => rfl, fun _ => rfl, fun _ => rfl, fun _ => rfl, hsame (·.attrib.ra) hra,
    hsame (·.attrib.psta) hpsta, hsame (·.attrib.priority) hprio⟩

end Parts

/-- The step is not about the `sleep_q` of `p`. -/
structure Aside (p : StaId) (s s' : XmitPriv) : Prop where
  settled : Settled s s'
  once : Once s.queue → Once s'.queue
  queue : s'.queue (.sleepQ p) = s.queue (.sleepQ p)
  len : (s'.info p).sleepqLen = (s.info p).sleepqLen
  acLen : (s'.staPs p).sleepqAcLen = (s.staPs p).sleepqAcLen
  tim : s'.timTest (s.info p).aid = s.timTest (s.info p).aid
  wrapped : p ∈ s'.wrapped ↔ p ∈ s.wrapped

namespace Aside
variable {p q : StaId} {s s' s'' : XmitPriv} {f : XmitFrameId}

theorem refl (p : StaId) (s : XmitPriv) : Aside p s s :=
  ⟨Settled.refl s, id, rfl, rfl, rfl, rfl, Iff.rfl⟩

theorem trans (h : Aside p s s') (h' : Aside p s' s'') : Aside p s s'' where
  settled := h.settled.trans h'.settled
  once hs := h'.once (h.once hs)
  queue := h'.queue.trans h.queue
  len := h'.len.trans h.len
  acLen := h'.acLen.trans h.acLen
  tim := by
    have htim := h'.tim
    rw [h.settled.aid p] at htim
    exact htim.trans h.tim
  wrapped := h'.wrapped.trans h.wrapped

theorem enabled (h : Settled s s') (p : StaId) :
    (fun f => (s'.staPs p).wmmpsAc 0 (s'.frames f).attrib.priority) =
      fun f => (s.staPs p).wmmpsAc 0 (s.frames f).attrib.priority := by
  funext f
  rw [StaPs.wmmpsAc, StaPs.wmmpsAc, h.uapsd, h.priority]

theorem view (h : Aside p s s') : s'.sleepView p = s.sleepView p := by
  unfold sleepView
  rw [h.queue, enabled h.settled, h.len, h.acLen, h.settled.aid p, h.tim, decide_eq_decide.mpr h.wrapped]

theorem of_same (hinfo : s'.info = s.info) (hps : s'.staPs = s.staPs) (hframes : s'.frames = s.frames)
    (hqueue : s'.queue = s.queue) (htim : s'.timBitmap = s.timBitmap) (hwrapped : s'.wrapped = s.wrapped) :
    Aside p s s' where
  settled := Settled.of_same hinfo hps hframes
  once := by
    rw [hqueue]
    exact id
  queue := by rw [hqueue]
  len := by rw [hinfo]
  acLen := by rw [hps]
  tim := by rw [timTest, timTest, htim]
  wrapped := by rw [hwrapped]

theorem listDel (hf : f ∉ s.queue (.sleepQ p)) : Aside p s (s.listDel f) where
  settled := Settled.of_same rfl rfl rfl
  once hs := hs.delInit f
  queue := delInit_of_not_mem hf
  len := rfl
  acLen := rfl
  tim := rfl
  wrapped := Iff.rfl

theorem listAdd {n : TxQueue} (hf : Loose s.queue f) (hn : n ≠ .sleepQ p) : Aside p s (s.listAdd n f) where
  settled := Settled.of_same rfl rfl rfl
  once hs := hs.addTail hf
  queue := addTail_of_ne _ _ hn.symm
  len := rfl
  acLen := rfl
  tim := rfl
  wrapped := Iff.rfl

theorem setFrame (frame : TxFrame) (hra : frame.attrib.ra = (s.frames f).attrib.ra)
    (hpsta : frame.attrib.psta = (s.frames f).attrib.psta)
    (hprio : frame.attrib.priority = (s.frames f).attrib.priority) : Aside p s (s.setFrame f frame) where
  settled := s.settled_setFrame f frame hra hpsta hprio
  once := id
  queue := rfl
  len := rfl
  acLen := rfl
  tim := rfl
  wrapped := Iff.rfl

theorem setInfo (info : StaInfo) (hhwaddr : info.hwaddr = (s.info q).hwaddr)
    (haid : info.aid = (s.info q).aid) (hlinked : info.inState _FW_LINKED = (s.info q).inState _FW_LINKED)
    (hlen : q = p → info.sleepqLen = (s.info q).sleepqLen) : Aside p s (s.setInfo q info) where
  settled := s.settled_setInfo q info hhwaddr haid hlinked
  once := id
  queue := rfl
  len := by
    by_cases hp : p = q
    · subst hp
      rw [info_setInfo_self, hlen rfl]
    · rw [info_setInfo_of_ne s hp]
  acLen := rfl
  tim := rfl
  wrapped := Iff.rfl

theorem noteWrap (h : q ≠ p) (n : ℕ) : Aside p s (s.noteWrap q n) where
  settled := Settled.of_same rfl rfl rfl
  once := id
  queue := rfl
  len := rfl
  acLen := rfl
  tim := rfl
  wrapped := by
    have hnot : p ∉ if n = 0 then [q] else [] := by
      split
      · rw [List.mem_singleton]
        exact h.symm
      · exact List.not_mem_nil
    show p ∈ s.wrapped ++ _ ↔ _
    rw [List.mem_append]
    exact or_iff_left hnot

theorem setLen (h : q ≠ p) (n : ℕ) : Aside p s (s.setLen q n) :=
  setInfo _ rfl rfl rfl fun hq => absurd hq h

theorem lenDec (h : q ≠ p) : Aside p s (s.lenDec q) := (noteWrap h _).trans (setLen h _)

theorem setAcLen (h : q ≠ p) (n : ℕ) : Aside p s (s.setAcLen q n) where
  settled := s.settled_setAcLen q n
  once := id
  queue := rfl
  len := rfl
  acLen := by
    unfold XmitPriv.setAcLen
    rw [staPs_setPs_of_ne s h.symm]
  tim := rfl
  wrapped := Iff.rfl

theorem setTim (tim : BitVec 16) (h : tim.getLsbD (s.info p).aid = s.timBitmap.getLsbD (s.info p).aid) :
    Aside p s (s.setTim tim) where
  settled := Settled.of_same rfl rfl rfl
  once := id
  queue := rfl
  len := rfl
  acLen := rfl
  tim := by
    rw [timTest, timTest, StaPriv.and_bitOf, StaPriv.and_bitOf]
    exact h
  wrapped := Iff.rfl

theorem timSet {aid : ℕ} (h : aid ≠ (s.info p).aid) : Aside p s (s.timSet aid) := by
  refine setTim _ ?_
  rw [StaPriv.getLsbD_or_bitOf, decide_eq_false h, Bool.and_false, Bool.or_false]

theorem timClear {aid : ℕ} (h : aid ≠ (s.info p).aid) : Aside p s (s.timClear aid) := by
  refine setTim _ ?_
  rw [StaPriv.getLsbD_clear_bitOf, decide_eq_false h, Bool.not_false, Bool.and_true]

end Aside

end XmitPriv

end Rtl8723au
