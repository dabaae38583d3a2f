import Rtl8723au.Ap.OdmStaInfo

/-! What no handler of the access point but `OnAssocReq` does to a station that stays: its MAC identifier, its
association identifier and its slot of `sta_aid` are left alone. -/
namespace Rtl8723au
set_option autoImplicit false

/-! ## The bit of the access point's entry -/

def apBit : BitVec 32 := BitVec.ofNat 32 WIFI_AP_STATE

/-- The members that decide about the table. -/
structure SameMac (i j : StaInfo) : Prop where
  macId : j.macId = i.macId
  isAp : j.isAp = i.isAp

namespace SameMac

theorem refl (i : StaInfo) : SameMac i i := ⟨rfl, rfl⟩

theorem trans {i j k : StaInfo} (hij : SameMac i j) (hjk : SameMac j k) : SameMac i k :=
  ⟨hjk.macId.trans hij.macId, hjk.isAp.trans hij.isAp⟩

theorem of_state {i j : StaInfo} (hmac : j.macId = i.macId) (hstate : j.state &&& apBit = i.state &&& apBit) :
    SameMac i j := by
  refine ⟨hmac, ?_⟩
  show (j.state &&& apBit != 0) = (i.state &&& apBit != 0)
  rw [hstate]

theorem setState (i : StaInfo) {bit : BitVec 32} (hbit : bit &&& apBit = 0) : SameMac i (i.setState bit) := by
  refine of_state rfl ?_
  show (i.state ||| bit) &&& apBit = _
  rw [BitVec.and_comm, BitVec.and_or_distrib_left, BitVec.and_comm _ bit, hbit]
  show apBit &&& i.state ||| 0#32 = _
  rw [BitVec.or_zero, BitVec.and_comm]

theorem clearState (i : StaInfo) {bit : BitVec 32} (hbit : ~~~bit &&& apBit = apBit) :
    SameMac i (i.clearState bit) := by
  refine of_state rfl ?_
  show i.state &&& ~~~bit &&& apBit = _
  rw [BitVec.and_assoc, hbit]

theorem toggleState (i : StaInfo) {bit : BitVec 32} (hbit : bit &&& apBit = 0) : SameMac i (i.toggleState bit) := by
  refine of_state rfl ?_
  show (i.state ^^^ bit) &&& apBit = _
  have hdistrib : (i.state ^^^ bit) &&& apBit = (i.state &&& apBit) ^^^ (bit &&& apBit) := by
    ext k hk
    simp only [BitVec.getElem_and, BitVec.getElem_xor]
    exact Bool.and_xor_distrib_right _ _ _
  rw [hdistrib, hbit]
  exact BitVec.xor_zero

theorem withCap (i : StaInfo) (cap : BssCap) (on : Bool) : SameMac i (i.withCap cap on) := by
  cases cap <;> exact ⟨rfl, rfl⟩

theorem capMark (cap : BssCap) (x : CapState) : SameMac x.1 (capMark cap x).1 := by
  unfold Rtl8723au.capMark
  split
  · exact refl _
  · exact withCap _ _ _

theorem capUnmark (cap : BssCap) (x : CapState) : SameMac x.1 (capUnmark cap x).1 := by
  unfold Rtl8723au.capUnmark
  split
  · exact withCap _ _ _
  · exact refl _

theorem capUpdate (cap : BssCap) (lacking : Bool) (x : CapState) : SameMac x.1 (capUpdate cap lacking x).1 := by
  unfold Rtl8723au.capUpdate
  split
  · exact capMark _ _
  · exact capUnmark _ _

theorem capLeave (x : CapState) : SameMac x.1 (capLeave x).1 := by
  unfold Rtl8723au.capLeave
  exact (((((capUnmark _ x).trans (capUnmark _ _)).trans (capUnmark _ _)).trans (capUnmark _ _)).trans
    (capUnmark _ _)).trans (capUnmark _ _)

theorem htCapJoin (x : CapState) : SameMac x.1 (htCapJoin x).1 := by
  unfold Rtl8723au.htCapJoin
  dsimp only
  have hnoHt := capUnmark .noHt x
  split_ifs
  · exact (hnoHt.trans (capMark .noHtGf _)).trans (capMark .ht20mhz _)
  · exact hnoHt.trans (capMark .ht20mhz _)
  · exact hnoHt.trans (capMark .noHtGf _)
  · exact hnoHt
  · exact capMark _ _

theorem capJoin (x : CapState) : SameMac x.1 (capJoin x).1 := by
  unfold Rtl8723au.capJoin
  exact (((capUpdate _ _ x).trans (capUpdate _ _ _)).trans (capUpdate _ _ _)).trans (htCapJoin _)

end SameMac

/-! ## Stations that leave -/

/-- Some stations were freed or taken off `asoc_list`; the others have kept what decides about the table, or have lost
their association identifier. -/
structure Departs (sp sp' : StaPriv) : Prop where
  mac : ∀ q, SameMac (sp.staInfo q) (sp'.staInfo q)
  hashed : ∀ q, sp'.Hashed q → sp.Hashed q
  aid : ∀ q, sp'.Hashed q → (sp'.staInfo q).aid = (sp.staInfo q).aid ∨ (sp'.staInfo q).aid = 0
  slot : ∀ q k, sp'.Hashed q → sp.staAid k = some q → sp'.staAid k = some q
  asoc : ∀ q ∈ sp'.asocList, q ∈ sp.asocList

namespace Departs

variable {sp sp' sp'' : StaPriv}

theorem refl (sp : StaPriv) : Departs sp sp :=
  ⟨fun _ => .refl _, fun _ h => h, fun _ _ => .inl rfl, fun _ _ _ h => h, fun _ h => h⟩

theorem trans (h : Departs sp sp') (h' : Departs sp' sp'') : Departs sp sp'' where
  mac q := (h.mac q).trans (h'.mac q)
  hashed q hq := h.hashed q (h'.hashed q hq)
  aid q hq := by
    rcases h'.aid q hq with hsame | hzero
    · rw [hsame]
      exact h.aid q (h'.hashed q hq)
    · exact .inr hzero
  slot q k hq hk := h'.slot q k hq (h.slot q k (h'.hashed q hq) hk)
  asoc q hq := h.asoc q (h'.asoc q hq)

theorem setInfo (sp : StaPriv) (p : StaId) (info : StaInfo) (hmac : SameMac (sp.staInfo p) info)
    (haid : info.aid = (sp.staInfo p).aid ∨ info.aid = 0) : Departs sp (sp.setInfo p info) where
  mac q := by
    by_cases hq : q = p
    · rw [hq, setInfo_self]
      exact hmac
    · rw [setInfo_other _ _ _ _ hq]
      exact .refl _
  hashed _ h := h
  aid q _ := by
    by_cases hq : q = p
    · rw [hq, setInfo_self]
      exact haid
    · rw [setInfo_other _ _ _ _ hq]
      exact .inl rfl
  slot _ _ _ h := h
  asoc _ h := h

/-- Only the lists, the bitmaps and the settings are changed, and no station is put on `asoc_list`. -/
theorem relist (hinfo : sp'.staInfo = sp.staInfo) (hhash : sp'.staHash = sp.staHash) (hslot : sp'.staAid = sp.staAid)
    (hasoc : ∀ q ∈ sp'.asocList, q ∈ sp.asocList) : Departs sp sp' where
  mac q := by
    rw [hinfo]
    exact .refl _
  hashed q hq := by
    unfold StaPriv.Hashed at hq
    rwa [hhash] at hq
  aid q _ := .inl (by rw [hinfo])
  slot q k _ hk := by rwa [hslot]
  asoc := hasoc

theorem asocListDel (sp : StaPriv) (p : StaId) : Departs sp (sp.asocListDel p) :=
  relist rfl rfl rfl fun _ hq => (mem_listDelInit.mp hq).1

theorem freed_hashed (sp : StaPriv) (p q : StaId) : (rtwFreeStainfo sp p).Hashed q ↔ sp.Hashed q ∧ q ≠ p := by
  show (rtwFreeStainfo sp p).links.Hashed q ↔ _
  rw [rtwFreeStainfo_links]
  exact TableLinks.hashed_free

/-- `rtw_free_stainfo`. -/
theorem free (sp : StaPriv) (p : StaId) : Departs sp (rtwFreeStainfo sp p) where
  mac q := by
    by_cases hq : q = p
    · subst hq
      obtain ⟨aid, hinfo⟩ := rtwFreeStainfo_staInfo sp q
      rw [hinfo, Function.update_self]
      have hlinked : SameMac (sp.staInfo q) ((sp.staInfo q).clearState _FW_LINKED) :=
        .clearState _ (by decide)
      exact hlinked.trans ⟨rfl, rfl⟩
    · rw [rtwFreeStainfo_info_other _ _ _ hq]
      exact .refl _
  hashed q hq := ((freed_hashed sp p q).mp hq).1
  aid q hq := .inl (by rw [rtwFreeStainfo_info_other _ _ _ ((freed_hashed sp p q).mp hq).2])
  slot q k hq hk := by
    have hne := ((freed_hashed sp p q).mp hq).2
    by_cases hrel : sp.Releases p
    · rw [(rtwFreeStainfo_released sp p hrel).2]
      have hother : k ≠ StaPriv.aidSlot (sp.staInfo p).aid := by
        intro hkp
        rw [hkp, hrel.2.2] at hk
        exact hne (Option.some.inj hk).symm
      rw [Function.update_of_ne hother]
      exact hk
    · rw [(rtwFreeStainfo_kept sp p hrel).2]
      exact hk
  asoc q hq := by
    have hlist : (rtwFreeStainfo sp p).asocList = sp.asocList := congrArg TableLinks.asocList (rtwFreeStainfo_links sp p)
    rwa [hlist] at hq

theorem foldl {σ β : Type} (view : σ → StaPriv) (f : σ → β → σ) (hf : ∀ s b, Departs (view s) (view (f s b)))
    (l : List β) (s : σ) : Departs (view s) (view (l.foldl f s)) := by
  induction l generalizing s with
  | nil => exact refl _
  | cons b l ih => exact (hf s b).trans (ih (f s b))

theorem foldlM {σ β : Type} (view : σ → StaPriv) (f : σ → β → Option σ)
    (hf : ∀ s b s', f s b = some s' → Departs (view s) (view s')) (l : List β) (s s' : σ)
    (h : l.foldlM f s = some s') : Departs (view s) (view s') := by
  induction l generalizing s with
  | nil =>
    cases h
    exact refl _
  | cons b l ih =>
    rw [List.foldlM_cons] at h
    obtain ⟨t, hstep, hrest⟩ := Option.bind_eq_some_iff.mp h
    exact (hf s b t hstep).trans (ih t hrest)

/-! ## The handlers -/

variable (a : RtwAdapter)

theorem apFreeSta (p : StaId) : Departs a.stapriv (apFreeSta a p).stapriv := by
  rw [apFreeSta_eq]
  refine trans (setInfo a.stapriv p (leftState a p).1 ?_ (.inl (leftState_aid a p))) (free (apLeft a p).stapriv p)
  have hlinked : SameMac (a.staInfo p) ((a.staInfo p).clearState _FW_LINKED) := .clearState _ (by decide)
  exact hlinked.trans (SameMac.capLeave ((a.staInfo p).clearState _FW_LINKED, a.mlmepriv))

theorem asocListLeave (p : StaId) : Departs a.stapriv (asocListLeave a p).stapriv := by
  unfold Rtl8723au.asocListLeave
  split
  · exact (asocListDel a.stapriv p).trans (apFreeSta (a.onStapriv (·.asocListDel p)) p)
  · exact refl _

theorem onLeaveFrame (addr2 addr3 : MacAddr) : Departs a.stapriv (onLeaveFrame a addr2 addr3).stapriv := by
  unfold Rtl8723au.onLeaveFrame
  split
  · exact refl _
  split
  · split
    · exact asocListLeave a _
    · exact refl _
  · exact refl _

theorem rtwStaFlush : Departs a.stapriv (rtwStaFlush a).stapriv := by
  unfold Rtl8723au.rtwStaFlush
  split
  · exact refl _
  have hdel : Departs a.stapriv (a.stapriv.asocList.foldl StaPriv.asocListDel a.stapriv) :=
    foldl id StaPriv.asocListDel asocListDel _ _
  exact hdel.trans (foldl RtwAdapter.stapriv Rtl8723au.apFreeSta apFreeSta a.stapriv.asocList
    (a.onStapriv fun sp => a.stapriv.asocList.foldl StaPriv.asocListDel sp))

theorem rtwFreeAllStainfo (sp : StaPriv) : Departs sp (rtwFreeAllStainfo sp) := by
  unfold Rtl8723au.rtwFreeAllStainfo
  dsimp only
  split
  · exact refl _
  refine foldl id _ (fun sp' index => foldl id _ (fun t p => ?_) (sp'.staHash index) sp') (List.finRange 32) sp
  show Departs t (if _ then t else rtwFreeStainfo t p)
  split
  · exact refl _
  · exact free t p

theorem flushAllStainfo : Departs a.stapriv (flushAllStainfo a).stapriv := by
  unfold Rtl8723au.flushAllStainfo
  split
  · exact refl _
  · exact (rtwStaFlush a).trans (rtwFreeAllStainfo _)

theorem cfg80211RtwDelStation (mac : Option MacAddr) : Departs a.stapriv (cfg80211RtwDelStation a mac).stapriv := by
  unfold Rtl8723au.cfg80211RtwDelStation
  split
  · exact refl _
  cases mac with
  | none => exact rtwStaFlush a
  | some mac =>
    dsimp only
    split
    · exact refl _
    split
    · exact asocListLeave a _
    · exact refl _

/-! ### Power save -/

theorem wakeupInfo_sameMac (t : ℕ) (info : StaInfo) : SameMac info (wakeupInfo t info) := by
  have hsleep : SameMac info (info.setSleepqLen 0) := ⟨rfl, rfl⟩
  have hdoze : WIFI_SLEEP_STATE &&& apBit = 0 := by decide
  have halive : WIFI_STA_ALIVE_CHK_STATE &&& apBit = 0 := by decide
  unfold wakeupInfo
  dsimp only
  split_ifs
  · exact ((hsleep.trans (.toggleState _ hdoze)).trans (.toggleState _ halive)).trans ⟨rfl, rfl⟩
  · exact hsleep.trans (.toggleState _ hdoze)
  · exact (hsleep.trans (.toggleState _ halive)).trans ⟨rfl, rfl⟩
  · exact hsleep

theorem wakeupBmc : Departs a.stapriv (wakeupBmc a).stapriv := by
  unfold Rtl8723au.wakeupBmc
  split
  · exact refl _
  split
  · exact (setInfo a.stapriv _ ((a.staInfo _).setSleepqLen 0) ⟨rfl, rfl⟩ (.inl rfl)).trans
      (relist rfl rfl rfl fun _ h => h)
  · exact refl _

theorem wakeupStaToXmit (p : StaId) : Departs a.stapriv (wakeupStaToXmit a p).stapriv := by
  rw [wakeupStaToXmit_eq]
  have hinfo := setInfo a.stapriv p (wakeupInfo a.stapriv.expireTo (a.staInfo p)) (wakeupInfo_sameMac _ _)
    (.inl (wakeupInfo_same _ _).2)
  have hdoze : Departs (a.stapriv.setInfo p (wakeupInfo a.stapriv.expireTo (a.staInfo p)))
      ((a.stapriv.setInfo p (wakeupInfo a.stapriv.expireTo (a.staInfo p))).dzClear
        (wakeupInfo a.stapriv.expireTo (a.staInfo p)).aid) := relist rfl rfl rfl fun _ h => h
  exact (hinfo.trans hdoze).trans (wakeupBmc ((a.setInfo p (wakeupInfo a.stapriv.expireTo (a.staInfo p))).onStapriv
    (·.dzClear (wakeupInfo a.stapriv.expireTo (a.staInfo p)).aid)))

theorem processPwrbitData (src : MacAddr) (pwrbit : Bool) (queued : ℕ) :
    Departs a.stapriv (processPwrbitData a src pwrbit queued).stapriv := by
  unfold Rtl8723au.processPwrbitData
  split
  · exact refl _
  rename_i p _
  dsimp only
  split_ifs
  · exact refl _
  · unfold stopStaXmit
    have hdoze : SameMac (a.staInfo p) ((a.staInfo p).setState WIFI_SLEEP_STATE) := .setState _ (by decide)
    have hinfo := setInfo a.stapriv p (((a.staInfo p).setState WIFI_SLEEP_STATE).setSleepqLen
      ((a.staInfo p).sleepqLen + queued)) (hdoze.trans ⟨rfl, rfl⟩) (.inl rfl)
    exact hinfo.trans (relist rfl rfl rfl fun _ h => h)
  · exact wakeupStaToXmit a p
  · exact refl _

/-! ### The timer -/

theorem authExpireOne (sp : StaPriv) (p : StaId) : Departs sp (authExpireOne sp p) := by
  unfold Rtl8723au.authExpireOne
  dsimp only
  split
  · exact refl _
  have htime := setInfo sp p ((sp.staInfo p).setExpireTo ((sp.staInfo p).expireTo - 1)) ⟨rfl, rfl⟩ (.inl rfl)
  split
  · have hlist : Departs (sp.setInfo p ((sp.staInfo p).setExpireTo ((sp.staInfo p).expireTo - 1)))
        ((sp.setInfo p ((sp.staInfo p).setExpireTo ((sp.staInfo p).expireTo - 1))).authListDel p) :=
      relist rfl rfl rfl fun _ h => h
    exact (htime.trans hlist).trans (free _ p)
  · exact htime

theorem authExpire : Departs a.stapriv (authExpire a).stapriv :=
  foldl id Rtl8723au.authExpireOne authExpireOne a.stapriv.authList a.stapriv

theorem asocAge_sameMac (t : ℕ) (alive : Bool) (info : StaInfo) : SameMac info (asocAge t alive info) := by
  unfold asocAge
  split <;> exact ⟨rfl, rfl⟩

theorem asocCheckOne (input : ExpireInput) (x x' : RtwAdapter × List StaId) (p : StaId)
    (h : asocCheckOne input x p = some x') : Departs x.1.stapriv x'.1.stapriv := by
  obtain ⟨a, chk⟩ := x
  unfold Rtl8723au.asocCheckOne at h
  dsimp only at h
  have hage := asocAge_sameMac a.stapriv.expireTo (input.alive p) (a.staInfo p)
  have haid := (asocAge_same a.stapriv.expireTo (input.alive p) (a.staInfo p)).2
  generalize asocAge a.stapriv.expireTo (input.alive p) (a.staInfo p) = info at h hage haid
  have hset : ∀ info', SameMac info info' → info'.aid = info.aid →
      Departs a.stapriv ((a.setInfo p info).setInfo p info').stapriv := by
    intro info' hmac haid'
    refine (setInfo a.stapriv p info hage (.inl haid)).trans (setInfo _ p info' ?_ (.inl ?_))
    · rw [setInfo_self]
      exact hmac
    · rw [setInfo_self]
      exact haid'
  have htime : SameMac info (info.setExpireTo a.stapriv.expireTo) := ⟨rfl, rfl⟩
  have hchk : WIFI_STA_ALIVE_CHK_STATE &&& apBit = 0 := by decide
  have halive : SameMac info ((info.setExpireTo a.stapriv.expireTo).setState WIFI_STA_ALIVE_CHK_STATE) :=
    htime.trans (.setState _ hchk)
  have hinfo : Departs a.stapriv (a.setInfo p info).stapriv := setInfo a.stapriv p info hage (.inl haid)
  by_cases hzero : info.expireTo = 0
  · rw [if_pos hzero] at h
    split_ifs at h
    · cases h
      exact hset _ htime rfl
    · cases h
      exact hset _ halive rfl
    · cases h
      exact hset _ halive rfl
    · cases h
      exact hinfo
    · cases h
      exact (hinfo.trans (asocListDel _ p)).trans (apFreeSta ((a.setInfo p info).onStapriv (·.asocListDel p)) p)
  · rw [if_neg hzero] at h
    obtain ⟨b, hb, hx⟩ := Option.map_eq_some_iff.mp h
    cases hx
    unfold sleepqAging at hb
    dsimp only at hb
    split_ifs at hb
    · cases hb
      exact hinfo.trans (wakeupStaToXmit (a.setInfo p info) p)
    · cases hb
      exact hinfo

theorem keepAliveOne (input : ExpireInput) (p : StaId) : Departs a.stapriv (keepAliveOne input a p).stapriv := by
  unfold Rtl8723au.keepAliveOne
  dsimp only
  have hset : ∀ info : StaInfo, SameMac (a.staInfo p) info → info.aid = (a.staInfo p).aid →
      Departs a.stapriv (a.setInfo p info).stapriv := fun info hmac haid => setInfo a.stapriv p info hmac (.inl haid)
  split_ifs
  · exact refl _
  · exact hset _ ⟨rfl, rfl⟩ rfl
  · exact hset _ ⟨rfl, rfl⟩ rfl
  · exact (hset ((a.staInfo p).setKeepAliveTrycnt 0) ⟨rfl, rfl⟩ rfl).trans
      (asocListLeave (a.setInfo p ((a.staInfo p).setKeepAliveTrycnt 0)) p)

theorem expireTimeoutChk (input : ExpireInput) (a' : RtwAdapter) (h : expireTimeoutChk a input = some a') :
    Departs a.stapriv a'.stapriv := by
  unfold Rtl8723au.expireTimeoutChk at h
  obtain ⟨⟨b, chk⟩, hb, hx⟩ := Option.map_eq_some_iff.mp h
  cases hx
  have hcheck : Departs (Rtl8723au.authExpire a).stapriv b.stapriv :=
    foldlM (fun x : RtwAdapter × List StaId => x.1.stapriv) (Rtl8723au.asocCheckOne input)
      (fun s p s' hs => asocCheckOne input s s' p hs) _ _ _ hb
  exact ((authExpire a).trans hcheck).trans
    (foldl RtwAdapter.stapriv (Rtl8723au.keepAliveOne input) (fun s p => keepAliveOne s input p) chk b)

end Departs

end Rtl8723au
