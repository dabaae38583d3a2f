import Rtl8723au.Ap.StaKeys

/-! The station table while stations associate, are given keys and leave: every entry but the broadcast one
is an associated station, and a station's place in the key cache is its identifier and four. -/
namespace Rtl8723au
open Relation Security
set_option autoImplicit false

/-! ## The identifier taken -/

theorem firstFreeAid_le {sp : StaPriv} {slot : Fin 32} (h : sp.staAid slot = none) :
    firstFreeAid sp ≤ slot + 1 := by
  unfold firstFreeAid
  cases hfind : (List.finRange 32).find? fun slot => (sp.staAid slot).isNone with
  | none =>
    have hused := List.find?_eq_none.mp hfind slot (List.mem_finRange slot)
    simp [h] at hused
  | some first =>
    show (first : ℕ) + 1 ≤ slot + 1
    obtain ⟨-, before, after, hsplit, hbefore⟩ := List.find?_eq_some_iff_append.mp hfind
    by_contra hlt
    have hsorted : (before ++ first :: after).Pairwise (· < ·) := hsplit ▸ List.pairwise_lt_finRange 32
    have hmem : slot ∈ before ++ first :: after := hsplit ▸ List.mem_finRange slot
    rcases List.mem_append.mp hmem with hin | hin
    · have hused := hbefore slot hin
      simp [h] at hused
    · rcases List.mem_cons.mp hin with rfl | hin
      · exact hlt le_rfl
      · have hafter := (List.pairwise_cons.mp (List.pairwise_append.mp hsorted).2.1).1 slot hin
        have hval : (first : ℕ) < slot := hafter
        omega

/-- While two stations have no identifier, a slot before the last is free. -/
theorem SlotsWf.exists_free_lt {hashed : StaId → Prop} {asocList : List StaId} {aid : StaId → ℕ}
    {staAid : Fin 32 → Option StaId} (slots : Rtl8723au.SlotsWf hashed asocList aid staAid) {p q : StaId}
    (hne : p ≠ q) (hp : aid p = 0) (hq : aid q = 0) : ∃ slot : Fin 32, (slot : ℕ) < 31 ∧ staAid slot = none := by
  by_contra hnone
  have hused : ∀ slot : Fin 31, ∃ r, staAid slot.castSucc = some r := fun slot =>
    Option.ne_none_iff_exists'.mp fun e => hnone ⟨slot.castSucc, slot.isLt, e⟩
  choose owner howner using hused
  have howns : ∀ slot : Fin 31, aid (owner slot) = slot + 1 := by
    intro slot
    have hslot : StaPriv.aidSlot (slot + 1) = slot.castSucc := by
      unfold StaPriv.aidSlot
      rw [Nat.add_sub_cancel]
      exact Fin.ofNat_val_eq_self slot.castSucc
    have hle : (slot : ℕ) + 1 ≤ NUM_STA := slot.castSucc.isLt
    exact ((slots.slot (owner slot) (slot + 1) (by omega) hle).mp (by rw [hslot]; exact howner slot)).2
  -- the owners and one of the two stations would be all there are
  let all : Fin 32 → StaId := Fin.lastCases p owner
  have hlast : all (Fin.last 31) = p := Fin.lastCases_last
  have hinit : ∀ slot : Fin 31, all slot.castSucc = owner slot := fun slot => Fin.lastCases_castSucc slot
  have hinj : Function.Injective all := by
    intro i j hij
    induction i using Fin.lastCases with
    | last =>
      induction j using Fin.lastCases with
      | last => rfl
      | cast j =>
        rw [hlast, hinit] at hij
        have hj := howns j
        rw [← hij, hp] at hj
        omega
    | cast i =>
      induction j using Fin.lastCases with
      | last =>
        rw [hlast, hinit] at hij
        have hi := howns i
        rw [hij, hp] at hi
        omega
      | cast j =>
        rw [hinit, hinit] at hij
        have hi := howns i
        have hj := howns j
        rw [hij] at hi
        rw [Fin.ext (show (i : ℕ) = j by omega)]
  obtain ⟨slot, hslot⟩ := Finite.injective_iff_surjective.mp hinj q
  induction slot using Fin.lastCases with
  | last =>
    rw [hlast] at hslot
    exact hne hslot
  | cast i =>
    rw [hinit] at hslot
    have hi := howns i
    rw [hslot, hq] at hi
    omega

/-! ## What the hardware's key depends on -/

/-- The members of a station that a key command reads. -/
structure StaInfo.SameKey (info info' : StaInfo) : Prop where
  hwaddr : info'.hwaddr = info.hwaddr
  macId : info'.macId = info.macId
  privacy : info'.dot118021XPrivacy = info.dot118021XPrivacy
  key : info'.dot118021xUncstKey = info.dot118021xUncstKey

namespace StaInfo.SameKey

theorem refl (info : StaInfo) : info.SameKey info := ⟨rfl, rfl, rfl, rfl⟩

theorem trans {i j k : StaInfo} (hij : i.SameKey j) (hjk : j.SameKey k) : i.SameKey k where
  hwaddr := hjk.hwaddr.trans hij.hwaddr
  macId := hjk.macId.trans hij.macId
  privacy := hjk.privacy.trans hij.privacy
  key := hjk.key.trans hij.key

theorem withCap (info : StaInfo) (cap : BssCap) (on : Bool) : info.SameKey (info.withCap cap on) := by
  cases cap <;> exact ⟨rfl, rfl, rfl, rfl⟩

theorem mark (cap : BssCap) (x : CapState) : x.1.SameKey (capMark cap x).1 := by
  unfold capMark
  split
  · exact refl x.1
  · exact withCap x.1 cap true

theorem unmark (cap : BssCap) (x : CapState) : x.1.SameKey (capUnmark cap x).1 := by
  unfold capUnmark
  split
  · exact withCap x.1 cap false
  · exact refl x.1

theorem update (cap : BssCap) (lacking : Bool) (x : CapState) : x.1.SameKey (capUpdate cap lacking x).1 := by
  unfold capUpdate
  split
  · exact mark cap x
  · exact unmark cap x

theorem ite {p : Prop} [Decidable p] {x y z : CapState} (hy : x.1.SameKey y.1) (hz : x.1.SameKey z.1) :
    x.1.SameKey (if p then y else z).1 := by
  split
  · exact hy
  · exact hz

theorem htJoin (x : CapState) : x.1.SameKey (htCapJoin x).1 := by
  unfold htCapJoin
  refine ite ?_ (mark _ x)
  have hnoHt := unmark .noHt x
  have hgf : x.1.SameKey (if x.1.htCapInfo &&& IEEE80211_HT_CAP_GRN_FLD = 0 then
      capMark .noHtGf (capUnmark .noHt x) else capUnmark .noHt x).1 :=
    ite (hnoHt.trans (mark .noHtGf _)) hnoHt
  exact ite (hgf.trans (mark .ht20mhz _)) hgf

theorem join (x : CapState) : x.1.SameKey (capJoin x).1 := by
  unfold capJoin
  exact (((update _ _ x).trans (update _ _ _)).trans (update _ _ _)).trans (htJoin _)

end StaInfo.SameKey

/-! ## `OnAssocReq` from the identifier on -/

/-- Two tables with the same entries, and nothing in them changed that a key command or an identifier depends
on. -/
structure SameStations (sp sp' : StaPriv) : Prop where
  staHash : sp'.staHash = sp.staHash
  freeStaQueue : sp'.freeStaQueue = sp.freeStaQueue
  maxNumSta : sp'.maxNumSta = sp.maxNumSta
  sameKey : ∀ q, (sp.staInfo q).SameKey (sp'.staInfo q)
  aid : ∀ q, (sp'.staInfo q).aid = (sp.staInfo q).aid

namespace SameStations

theorem refl (sp : StaPriv) : SameStations sp sp := ⟨rfl, rfl, rfl, fun _ => .refl _, fun _ => rfl⟩

theorem trans {sp sp' sp'' : StaPriv} (h : SameStations sp sp') (h' : SameStations sp' sp'') :
    SameStations sp sp'' where
  staHash := h'.staHash.trans h.staHash
  freeStaQueue := h'.freeStaQueue.trans h.freeStaQueue
  maxNumSta := h'.maxNumSta.trans h.maxNumSta
  sameKey q := (h.sameKey q).trans (h'.sameKey q)
  aid q := (h'.aid q).trans (h.aid q)

theorem setInfo (sp : StaPriv) (p : StaId) {info : StaInfo} (hkey : (sp.staInfo p).SameKey info)
    (haid : info.aid = (sp.staInfo p).aid) : SameStations sp (sp.setInfo p info) where
  staHash := rfl
  freeStaQueue := rfl
  maxNumSta := rfl
  sameKey q := by
    by_cases hq : q = p
    · rw [hq, setInfo_self]
      exact hkey
    · rw [setInfo_other _ _ _ _ hq]
      exact .refl _
  aid q := by
    by_cases hq : q = p
    · rw [hq, setInfo_self, haid]
    · rw [setInfo_other _ _ _ _ hq]

theorem authListRemove (sp : StaPriv) (p : StaId) : SameStations sp (sp.authListRemove p) := by
  unfold StaPriv.authListRemove
  split
  · exact ⟨rfl, rfl, rfl, fun _ => .refl _, fun _ => rfl⟩
  · exact refl sp

end SameStations

theorem assocListed_same (sp : StaPriv) (p : StaId) : SameStations sp (assocListed sp p) ∧
    (assocListed sp p).asocList = if p ∈ sp.asocList then sp.asocList else sp.asocList ++ [p] := by
  let info := ((sp.staInfo p).clearState WIFI_FW_ASSOC_STATE).setState WIFI_FW_ASSOC_SUCCESS
  let sp' := (sp.setInfo p info).authListRemove p
  have hinfo : SameStations sp (sp.setInfo p info) := .setInfo sp p ⟨rfl, rfl, rfl, rfl⟩ rfl
  have hsame : SameStations sp sp' := hinfo.trans (.authListRemove _ p)
  have hasoc : sp'.asocList = sp.asocList := congrArg TableLinks.asocList (authListRemove_links _ p)
  have hresult : assocListed sp p = if p ∈ sp'.asocList then sp'
      else (sp'.setInfo p ((sp'.staInfo p).setExpireTo sp'.expireTo)).asocListAdd p := rfl
  rw [hresult, hasoc]
  by_cases hp : p ∈ sp.asocList
  · rw [if_pos hp, if_pos hp]
    exact ⟨hsame, hasoc⟩
  · rw [if_neg hp, if_neg hp]
    have htime : SameStations sp' (sp'.setInfo p ((sp'.staInfo p).setExpireTo sp'.expireTo)) :=
      .setInfo sp' p ⟨rfl, rfl, rfl, rfl⟩ rfl
    obtain ⟨h₁, h₂, h₃, h₄, h₅⟩ := hsame.trans htime
    exact ⟨⟨h₁, h₂, h₃, h₄, h₅⟩, congrArg (· ++ [p]) hasoc⟩

/-- What an accepted request leaves: the station listed, with its identifier and the place that follows. -/
structure Accepted (a a' : RtwAdapter) (p : StaId) (aid : ℕ) : Prop where
  staHash : a'.stapriv.staHash = a.stapriv.staHash
  freeStaQueue : a'.stapriv.freeStaQueue = a.stapriv.freeStaQueue
  maxNumSta : a'.stapriv.maxNumSta = a.stapriv.maxNumSta
  asocList : a'.stapriv.asocList = if p ∈ a.stapriv.asocList then a.stapriv.asocList else a.stapriv.asocList ++ [p]
  others : ∀ q, q ≠ p → (a.staInfo q).SameKey (a'.staInfo q) ∧ (a'.staInfo q).aid = (a.staInfo q).aid
  sameKey : ({ a.staInfo p with macId := aid + 1 } : StaInfo).SameKey (a'.staInfo p)
  aid : (a'.staInfo p).aid = aid
  securitypriv : a'.securitypriv = a.securitypriv
  fwState : a'.fwState = a.fwState
  mlmeinfoState : a'.mlmeinfoState = a.mlmeinfoState

theorem assocJoined_accepted (a : RtwAdapter) (p : StaId) :
    Accepted a (assocJoined (a.setStapriv (assocListed a.stapriv p)) p) p (a.staInfo p).aid := by
  obtain ⟨hsame, hasoc⟩ := assocListed_same a.stapriv p
  generalize assocListed a.stapriv p = sp at hsame hasoc
  let x := capJoin (sp.staInfo p, a.mlmepriv)
  have hkey : (sp.staInfo p).SameKey x.1 := StaInfo.SameKey.join (sp.staInfo p, a.mlmepriv)
  have haid : x.1.aid = (sp.staInfo p).aid := (CapMoved.join (sp.staInfo p, a.mlmepriv)).aid
  have hself : (assocJoined (a.setStapriv sp) p).staInfo p =
      staInfoUpdate (bssCapUpdateOnStaJoin (a.setStapriv sp) p)
        ((bssCapUpdateOnStaJoin (a.setStapriv sp) p).staInfo p) := staInfo_setInfo_self _ p _
  have hx : (bssCapUpdateOnStaJoin (a.setStapriv sp) p).staInfo p = x.1 := setInfo_self sp p x.1
  have hothers : ∀ q, q ≠ p → (assocJoined (a.setStapriv sp) p).staInfo q = sp.staInfo q := by
    intro q hq
    refine (staInfo_setInfo_other _ p q _ hq).trans ?_
    exact setInfo_other sp p q x.1 hq
  have haid' := haid.trans (hsame.aid p)
  refine ⟨hsame.staHash, hsame.freeStaQueue, hsame.maxNumSta, hasoc, fun q hq => ?_, ?_, ?_, rfl, rfl, rfl⟩
  · rw [hothers q hq]
    exact ⟨hsame.sameKey q, hsame.aid q⟩
  · rw [hself, hx]
    have hall := (hsame.sameKey p).trans hkey
    exact ⟨hall.hwaddr, congrArg (· + 1) haid', hall.privacy, hall.key⟩
  · rw [hself, hx]
    exact haid'

theorem assocAccept_old (a : RtwAdapter) (p : StaId) (hpos : 0 < (a.staInfo p).aid) :
    Accepted a (assocAccept a p (a.staInfo p)).1 p (a.staInfo p).aid := by
  have hself : a.setInfo p (a.staInfo p) = a := by
    unfold RtwAdapter.setInfo StaPriv.setInfo RtwAdapter.staInfo
    rw [Function.update_eq_self]
  have haid : assocAid a.stapriv p = some a.stapriv := if_pos hpos
  unfold assocAccept
  rw [hself, haid]
  exact assocJoined_accepted a p

theorem assocAccept_new (a : RtwAdapter) (p : StaId) (hzero : (a.staInfo p).aid = 0)
    (hroom : firstFreeAid a.stapriv ≤ a.stapriv.maxNumSta) :
    Accepted a (assocAccept a p (a.staInfo p)).1 p (firstFreeAid a.stapriv) := by
  have hself : a.setInfo p (a.staInfo p) = a := by
    unfold RtwAdapter.setInfo StaPriv.setInfo RtwAdapter.staInfo
    rw [Function.update_eq_self]
  let n := firstFreeAid a.stapriv
  let sp := (a.stapriv.setInfo p ((a.staInfo p).setAid n)).setSlot n (some p)
  have haid : assocAid a.stapriv p = some sp := by
    have hnot : ¬ 0 < (a.stapriv.staInfo p).aid := Nat.not_lt.mpr (Nat.le_zero.mpr hzero)
    unfold assocAid
    rw [if_neg hnot, if_neg (not_lt.mpr hroom)]
    rfl
  unfold assocAccept
  rw [hself, haid]
  have hsp : sp.staInfo p = (a.staInfo p).setAid n := setInfo_self a.stapriv p _
  have hjoined := assocJoined_accepted (a.setStapriv sp) p
  have hn : ((a.setStapriv sp).staInfo p).aid = n := congrArg StaInfo.aid hsp
  rw [hn] at hjoined
  refine ⟨hjoined.staHash, hjoined.freeStaQueue, hjoined.maxNumSta, hjoined.asocList, fun q hq => ?_, ?_,
    hjoined.aid, hjoined.securitypriv, hjoined.fwState, hjoined.mlmeinfoState⟩
  · have hother : (a.setStapriv sp).staInfo q = a.staInfo q := setInfo_other a.stapriv p q _ hq
    have hq' := hjoined.others q hq
    rw [hother] at hq'
    exact hq'
  · have hkey := hjoined.sameKey
    have hsp' : (a.setStapriv sp).staInfo p = (a.staInfo p).setAid n := hsp
    rw [hsp'] at hkey
    exact ⟨hkey.hwaddr, hkey.macId, hkey.privacy, hkey.key⟩

/-! ## The table of an access point with keys -/

/-- A station freed has an identifier below 32, an address allocated is new, and no station forgets its
identifier. -/
def keyPermits : Permits where
  free a psta := (a.staInfo psta).aid ≤ 31
  alloc a hwaddr := ∀ p, a.stapriv.Hashed p → (a.staInfo p).hwaddr ≠ hwaddr
  forget a psta := (a.staInfo psta).aid = 0

/-- The broadcast entry and the associated stations are all there is, and a station's `mac_id` follows its
identifier. -/
structure KeyTable (h : ApHistory) : Prop where
  wf : h.Wf
  full : TableFull h.ap.stapriv.links fun p => (h.ap.staInfo p).hwaddr
  slots : h.ap.stapriv.SlotsWf
  hashed : ∀ p, h.ap.stapriv.Hashed p ↔ p = 0 ∨ p ∈ h.ap.stapriv.asocList
  bcmc : (h.ap.staInfo 0).aid = 0 ∧ (h.ap.staInfo 0).hwaddr = bcAddr ∧ (h.ap.staInfo 0).macId = 1
  macId : ∀ p ∈ h.ap.stapriv.asocList, (h.ap.staInfo p).macId = (h.ap.staInfo p).aid + 1
  aid_le : ∀ p ∈ h.ap.stapriv.asocList, (h.ap.staInfo p).aid ≤ 31
  unicast : ∀ p ∈ h.ap.stapriv.asocList, isMulticastEtherAddr (h.ap.staInfo p).hwaddr = false
  room : h.ap.stapriv.maxNumSta = NUM_STA
  mode : StaKeys.Protected h.ap

namespace KeyTable

theorem run {h h' : ApHistory} (table : KeyTable h) (run : TableRun keyPermits h h') :
    h'.Wf ∧ (TableFull h'.ap.stapriv.links fun p => (h'.ap.staInfo p).hwaddr) ∧ h'.ap.stapriv.SlotsWf := by
  have hplaces : TableRun placePermits h h' :=
    TableRun.mono (P := keyPermits) (Q := placePermits) (fun _ _ hp => hp) (fun _ _ hp => hp) (fun _ _ _ => trivial) run
  have hids : TableRun idPermits h h' :=
    TableRun.mono (P := keyPermits) (Q := idPermits) (fun _ _ hp => hp) (fun _ _ _ => trivial) (fun _ _ hp => hp) run
  exact ⟨table.wf.run run, table.full.run table.wf hplaces, SlotsWf.run table.wf table.slots hids⟩

variable {h : ApHistory} (table : KeyTable h)
include table

theorem bcmc_not_mem : (0 : StaId) ∉ h.ap.stapriv.asocList := by
  intro hmem
  have hpos := table.slots.associated 0 hmem
  have hzero : (h.ap.stapriv.staInfo 0).aid = 0 := table.bcmc.1
  omega

theorem find_iff {addr : MacAddr} {p : StaId} : rtwGetStainfo h.ap.stapriv (some addr) = some p ↔
    h.ap.stapriv.Hashed p ∧ (h.ap.staInfo p).hwaddr = if isMulticastEtherAddr addr then bcAddr else addr :=
  (StaTable.intro table.wf.table table.full).lookup addr p

theorem lookup {addr : MacAddr} (hu : isMulticastEtherAddr addr = false) {p : StaId} :
    rtwGetStainfo h.ap.stapriv (some addr) = some p ↔
      p ∈ h.ap.stapriv.asocList ∧ (h.ap.staInfo p).hwaddr = addr := by
  rw [table.find_iff, hu, if_neg Bool.false_ne_true, table.hashed]
  constructor
  · rintro ⟨rfl | hp, haddr⟩
    · have hbc : addr = bcAddr := haddr.symm.trans table.bcmc.2.1
      rw [hbc] at hu
      exact absurd hu (by decide)
    · exact ⟨hp, haddr⟩
  · rintro ⟨hp, haddr⟩
    exact ⟨.inr hp, haddr⟩

/-- No two stations have one `mac_id`. -/
theorem macId_inj {p q : StaId} (hp : p ∈ h.ap.stapriv.asocList) (hq : q ∈ h.ap.stapriv.asocList)
    (heq : (h.ap.staInfo p).macId = (h.ap.staInfo q).macId) : p = q := by
  have hids := AssocIds.intro table.wf.lists table.slots
  apply hids.unique p hp q hq
  have hpid := table.macId p hp
  have hqid := table.macId q hq
  show (h.ap.staInfo p).aid = (h.ap.staInfo q).aid
  omega

theorem hwaddr_inj {p q : StaId} (hp : p ∈ h.ap.stapriv.asocList) (hq : q ∈ h.ap.stapriv.asocList)
    (heq : (h.ap.staInfo p).hwaddr = (h.ap.staInfo q).hwaddr) : p = q :=
  table.full.distinct p q ((table.hashed p).mpr (.inr hp)) ((table.hashed q).mpr (.inr hq)) heq

end KeyTable

/-! ## The events -/

theorem rtwFreeStainfo_maxNumSta (sp : StaPriv) (p : StaId) : (rtwFreeStainfo sp p).maxNumSta = sp.maxNumSta := by
  have hunlink : (unlinkStainfo sp p).maxNumSta = sp.maxNumSta := by
    unfold unlinkStainfo StaPriv.authListRemove
    split <;> rfl
  unfold rtwFreeStainfo
  split
  · exact hunlink
  · show (releaseAid (unlinkStainfo sp p) p (sp.staInfo p).aid).maxNumSta = _
    unfold releaseAid
    split
    · exact hunlink
    · exact hunlink

/-- What remains when a station has left. -/
structure Left (a a' : RtwAdapter) (p : StaId) : Prop where
  asocList : ∀ q, q ∈ a'.stapriv.asocList ↔ q ∈ a.stapriv.asocList ∧ q ≠ p
  hashed : ∀ q, a'.stapriv.Hashed q ↔ a.stapriv.Hashed q ∧ q ≠ p
  others : ∀ q, q ≠ p → a'.staInfo q = a.staInfo q
  maxNumSta : a'.stapriv.maxNumSta = a.stapriv.maxNumSta
  securitypriv : a'.securitypriv = a.securitypriv
  fwState : a'.fwState = a.fwState
  mlmeinfoState : a'.mlmeinfoState = a.mlmeinfoState

theorem asocListLeave_left (a : RtwAdapter) {p : StaId} (hp : p ∈ a.stapriv.asocList) :
    Left a (asocListLeave a p) p := by
  unfold asocListLeave
  rw [if_pos hp]
  have hlinks := apFreeSta_links (a.onStapriv (·.asocListDel p)) p
  refine ⟨fun q => ?_, fun q => ?_, fun q hq => ?_, ?_, rfl, rfl, rfl⟩
  · have hlist := congrArg TableLinks.asocList hlinks
    change (apFreeSta (a.onStapriv (·.asocListDel p)) p).stapriv.asocList = listDelInit a.stapriv.asocList p at hlist
    rw [hlist, mem_listDelInit]
  · show (apFreeSta (a.onStapriv (·.asocListDel p)) p).stapriv.links.Hashed q ↔ _
    rw [hlinks, TableLinks.hashed_free]
    rfl
  · rw [apFreeSta_info_other _ _ _ hq]
    rfl
  · rw [apFreeSta_eq]
    exact rtwFreeStainfo_maxNumSta _ p

namespace StaKeys.Protected

theorem of_eq {a a' : RtwAdapter} (h : Protected a) (hsec : a'.securitypriv = a.securitypriv)
    (hfw : a'.fwState = a.fwState) (hmlme : a'.mlmeinfoState = a.mlmeinfoState) : Protected a' where
  apMode := hmlme ▸ h.apMode
  noStation := by
    unfold RtwAdapter.checkFwstate
    rw [hfw]
    exact h.noStation
  privacy := hsec ▸ h.privacy
  auth := hsec ▸ h.auth

end StaKeys.Protected

namespace KeyTable

variable {h : ApHistory} (table : KeyTable h) {p : StaId}
include table

theorem leave (hp : p ∈ h.ap.stapriv.asocList) : KeyTable { h with ap := asocListLeave h.ap p } := by
  have hleft := asocListLeave_left h.ap hp
  have hrun : TableRun keyPermits h { h with ap := asocListLeave h.ap p } :=
    asocListLeave_run h table.wf p fun _ s haid _ => by
      show (s.staInfo p).aid ≤ 31
      rw [haid]
      exact table.aid_le p hp
  obtain ⟨hwf, hfull, hslots⟩ := table.run hrun
  have hold : ∀ q ∈ (asocListLeave h.ap p).stapriv.asocList, q ∈ h.ap.stapriv.asocList ∧
      (asocListLeave h.ap p).staInfo q = h.ap.staInfo q := fun q hq =>
    ⟨((hleft.asocList q).mp hq).1, hleft.others q ((hleft.asocList q).mp hq).2⟩
  have hbcmc : (0 : StaId) ≠ p := fun heq => table.bcmc_not_mem (heq ▸ hp)
  refine ⟨hwf, hfull, hslots, fun q => ?_, ?_, fun q hq => ?_, fun q hq => ?_, fun q hq => ?_, ?_, ?_⟩
  · show (asocListLeave h.ap p).stapriv.Hashed q ↔ q = 0 ∨ q ∈ (asocListLeave h.ap p).stapriv.asocList
    rw [hleft.hashed, hleft.asocList, table.hashed]
    constructor
    · rintro ⟨rfl | hq, hne⟩
      · exact .inl rfl
      · exact .inr ⟨hq, hne⟩
    · rintro (rfl | ⟨hq, hne⟩)
      · exact ⟨.inl rfl, hbcmc⟩
      · exact ⟨.inr hq, hne⟩
  · show ((asocListLeave h.ap p).staInfo 0).aid = 0 ∧ ((asocListLeave h.ap p).staInfo 0).hwaddr = bcAddr ∧
      ((asocListLeave h.ap p).staInfo 0).macId = 1
    rw [hleft.others 0 hbcmc]
    exact table.bcmc
  · show ((asocListLeave h.ap p).staInfo q).macId = ((asocListLeave h.ap p).staInfo q).aid + 1
    rw [(hold q hq).2]
    exact table.macId q (hold q hq).1
  · show ((asocListLeave h.ap p).staInfo q).aid ≤ 31
    rw [(hold q hq).2]
    exact table.aid_le q (hold q hq).1
  · show isMulticastEtherAddr ((asocListLeave h.ap p).staInfo q).hwaddr = false
    rw [(hold q hq).2]
    exact table.unicast q (hold q hq).1
  · exact hleft.maxNumSta.trans table.room
  · exact table.mode.of_eq hleft.securitypriv hleft.fwState hleft.mlmeinfoState

theorem reassociate (hp : p ∈ h.ap.stapriv.asocList) :
    KeyTable { h with ap := (assocAccept h.ap p (h.ap.staInfo p)).1 } := by
  have hpos : 0 < (h.ap.staInfo p).aid := table.slots.associated p hp
  have hacc := assocAccept_old h.ap p hpos
  have hrun : TableRun keyPermits h { h with ap := (assocAccept h.ap p (h.ap.staInfo p)).1 } :=
    assocAccept_run h p (h.ap.staInfo p) ((table.hashed p).mpr (.inr hp)) (table.wf.auth.asocAccepted p hp)
      ⟨rfl, fun _ => rfl⟩ rfl fun hzero => absurd hzero (Nat.ne_of_gt hpos)
  obtain ⟨hwf, hfull, hslots⟩ := table.run hrun
  generalize (assocAccept h.ap p (h.ap.staInfo p)).1 = a' at hacc hwf hfull hslots ⊢
  have hlist : a'.stapriv.asocList = h.ap.stapriv.asocList := by rw [hacc.asocList, if_pos hp]
  have hinfo : ∀ q, (a'.staInfo q).aid = (h.ap.staInfo q).aid ∧ (a'.staInfo q).hwaddr = (h.ap.staInfo q).hwaddr := by
    intro q
    by_cases hq : q = p
    · rw [hq]
      exact ⟨hacc.aid, hacc.sameKey.hwaddr⟩
    · exact ⟨(hacc.others q hq).2, (hacc.others q hq).1.hwaddr⟩
  refine ⟨hwf, hfull, hslots, fun q => ?_, ?_, fun q hq => ?_, fun q hq => ?_, fun q hq => ?_, ?_, ?_⟩
  · show (∃ index, q ∈ a'.stapriv.staHash index) ↔ q = 0 ∨ q ∈ a'.stapriv.asocList
    rw [hacc.staHash, hlist]
    exact table.hashed q
  · have hbcmc : (0 : StaId) ≠ p := fun heq => table.bcmc_not_mem (heq ▸ hp)
    show (a'.staInfo 0).aid = 0 ∧ (a'.staInfo 0).hwaddr = bcAddr ∧ (a'.staInfo 0).macId = 1
    rw [(hinfo 0).1, (hinfo 0).2, (hacc.others 0 hbcmc).1.macId]
    exact table.bcmc
  · have hq' : q ∈ h.ap.stapriv.asocList := hlist ▸ hq
    show (a'.staInfo q).macId = (a'.staInfo q).aid + 1
    rw [(hinfo q).1]
    by_cases hqp : q = p
    · rw [hqp]
      exact hacc.sameKey.macId
    · rw [(hacc.others q hqp).1.macId]
      exact table.macId q hq'
  · show (a'.staInfo q).aid ≤ 31
    rw [(hinfo q).1]
    exact table.aid_le q (hlist ▸ hq)
  · show isMulticastEtherAddr (a'.staInfo q).hwaddr = false
    rw [(hinfo q).2]
    exact table.unicast q (hlist ▸ hq)
  · exact hacc.maxNumSta.trans table.room
  · exact table.mode.of_eq hacc.securitypriv hacc.fwState hacc.mlmeinfoState

/-- A station without an entry gets one, and the first identifier that is free. -/
theorem enlist {sa : MacAddr} (hu : isMulticastEtherAddr sa = false)
    (hmissing : rtwGetStainfo h.ap.stapriv (some sa) = none) {sp : StaPriv}
    (halloc : rtwAllocStainfo h.ap.stapriv sa = (sp, some p)) :
    p ≠ 0 ∧ p ∉ h.ap.stapriv.asocList ∧
      Accepted (h.ap.setStapriv sp) (assocAccept (h.ap.setStapriv sp) p (sp.staInfo p)).1 p
        (firstFreeAid h.ap.stapriv) ∧
      ∃ accepted, KeyTable ⟨(assocAccept (h.ap.setStapriv sp) p (sp.staInfo p)).1, accepted⟩ := by
  obtain ⟨rest, hfree, rfl⟩ := rtwAllocStainfo_some halloc
  have hunhashed : ¬ h.ap.stapriv.Hashed p := by
    rintro ⟨index, hmem⟩
    refine table.wf.table.freeUnhashed p ?_ index hmem
    show p ∈ h.ap.stapriv.freeStaQueue
    rw [hfree]
    exact List.mem_cons_self
  have hne : p ≠ 0 := fun heq => hunhashed ((table.hashed p).mpr (.inl heq))
  have hunlisted : p ∉ h.ap.stapriv.asocList := fun hp => hunhashed ((table.hashed p).mpr (.inr hp))
  generalize hsp : ((h.ap.stapriv.setFreeStaQueue rest).setInfo p (allocInfo sa)).hashAdd (wifiMacHash sa) p = sp
    at halloc
  have hself : sp.staInfo p = allocInfo sa := by
    rw [← hsp]
    exact setInfo_self _ p _
  have hothers : ∀ q, q ≠ p → sp.staInfo q = h.ap.staInfo q := by
    intro q hq
    rw [← hsp]
    exact setInfo_other _ p q _ hq
  have hhashed : ∀ q, sp.Hashed q ↔ h.ap.stapriv.Hashed q ∨ q = p := by
    intro q
    rw [← hsp]
    exact @TableLinks.hashed_alloc h.ap.stapriv.links p q rest (wifiMacHash sa)
  have hasoc : sp.asocList = h.ap.stapriv.asocList := by rw [← hsp]; rfl
  have hslot : sp.staAid = h.ap.stapriv.staAid := by rw [← hsp]; rfl
  have hroom : sp.maxNumSta = NUM_STA := by rw [← hsp]; exact table.room
  -- the entry is taken, and an authentication accepted for it
  have hnew : ∀ q, h.ap.stapriv.Hashed q → (h.ap.staInfo q).hwaddr ≠ sa := by
    intro q hq haddr
    rcases (table.hashed q).mp hq with rfl | hq
    · rw [← haddr, table.bcmc.2.1] at hu
      exact absurd hu (by decide)
    · rw [(table.lookup hu).mpr ⟨hq, haddr⟩] at hmissing
      exact absurd hmissing (Option.some_ne_none q)
  let record : AuthRecord := ⟨0, ⟨sa, 0, 1, none⟩, (sp.staInfo p).chgTxt⟩
  let taken : ApHistory := ⟨h.ap.setStapriv sp, Function.update h.accepted p none⟩
  let authed : ApHistory := ⟨h.ap.setStapriv sp, Function.update taken.accepted p (some record)⟩
  have htake : TableStep keyPermits h taken := .alloc h sa p sp hnew hmissing halloc
  have hown : taken.ap.setInfo p (sp.staInfo p) = taken.ap := by
    unfold RtwAdapter.setInfo StaPriv.setInfo
    show { taken.ap with stapriv := { sp with staInfo := Function.update sp.staInfo p (sp.staInfo p) } } = taken.ap
    rw [Function.update_eq_self]
    rfl
  have hauth : TableStep keyPermits taken authed := by
    have hstep := TableStep.accept (P := keyPermits) taken p (sp.staInfo p) record ⟨rfl, fun _ => rfl⟩ rfl
      (fun hmode => absurd hmode Nat.zero_ne_one)
    rw [hown] at hstep
    exact hstep
  have haccepted : authed.accepted p ≠ none := by
    show Function.update taken.accepted p (some record) p ≠ none
    rw [Function.update_self]
    exact Option.some_ne_none record
  have hzero : (sp.staInfo p).aid = 0 := by rw [hself]; rfl
  have hrun : TableRun keyPermits authed ⟨(assocAccept (h.ap.setStapriv sp) p (sp.staInfo p)).1, authed.accepted⟩ :=
    assocAccept_run authed p (sp.staInfo p) ((hhashed p).mpr (.inr rfl)) haccepted ⟨rfl, fun _ => rfl⟩ rfl
      fun _ => by
        show (((h.ap.setStapriv sp).setInfo p (sp.staInfo p)).staInfo p).aid = 0
        rw [staInfo_setInfo_self]
        exact hzero
  obtain ⟨-, -, hslots'⟩ := table.run (.single htake)
  have hfirst : firstFreeAid sp = firstFreeAid h.ap.stapriv := by
    unfold firstFreeAid
    rw [hslot]
  have hle : firstFreeAid h.ap.stapriv ≤ 31 := by
    have hbcmc : (sp.staInfo 0).aid = 0 := by
      rw [hothers 0 hne.symm]
      exact table.bcmc.1
    obtain ⟨slot, hlt, hnone⟩ := SlotsWf.exists_free_lt hslots' hne hzero hbcmc
    have hfree' := firstFreeAid_le (hslot ▸ hnone : h.ap.stapriv.staAid slot = none)
    omega
  have hacc := assocAccept_new (h.ap.setStapriv sp) p hzero (by
    show firstFreeAid sp ≤ sp.maxNumSta
    rw [hfirst, hroom]
    exact le_trans hle (by decide))
  have hacc' : Accepted (h.ap.setStapriv sp) (assocAccept (h.ap.setStapriv sp) p (sp.staInfo p)).1 p
      (firstFreeAid h.ap.stapriv) := hfirst ▸ hacc
  refine ⟨hne, hunlisted, hacc', authed.accepted, ?_⟩
  obtain ⟨hwf, hfull, hslots⟩ := table.run (((TableRun.single htake).tail hauth).trans hrun)
  clear hacc
  generalize (assocAccept (h.ap.setStapriv sp) p (sp.staInfo p)).1 = a' at hacc' hwf hfull hslots ⊢
  have hlist : ∀ q, q ∈ a'.stapriv.asocList ↔ q ∈ h.ap.stapriv.asocList ∨ q = p := by
    intro q
    rw [hacc'.asocList]
    have hnot : p ∉ (h.ap.setStapriv sp).stapriv.asocList := hasoc ▸ hunlisted
    rw [if_neg hnot, List.mem_append, List.mem_singleton]
    show q ∈ sp.asocList ∨ q = p ↔ _
    rw [hasoc]
  have hold : ∀ q, q ≠ p → (h.ap.staInfo q).SameKey (a'.staInfo q) ∧ (a'.staInfo q).aid = (h.ap.staInfo q).aid := by
    intro q hq
    have hq' := hacc'.others q hq
    have hsame : (h.ap.setStapriv sp).staInfo q = h.ap.staInfo q := hothers q hq
    rw [hsame] at hq'
    exact hq'
  have hmac : (a'.staInfo p).macId = (a'.staInfo p).aid + 1 := hacc'.sameKey.macId.trans
    (congrArg (· + 1) hacc'.aid.symm)
  have haddr : (a'.staInfo p).hwaddr = sa := hacc'.sameKey.hwaddr.trans (congrArg StaInfo.hwaddr hself)
  have heach : ∀ {P : StaId → Prop}, P p → (∀ q ∈ h.ap.stapriv.asocList, q ≠ p → P q) →
      ∀ q ∈ a'.stapriv.asocList, P q := by
    intro P hp hq q hmem
    by_cases heq : q = p
    · exact heq ▸ hp
    · exact hq q (((hlist q).mp hmem).resolve_right heq) heq
  refine ⟨hwf, hfull, hslots, fun q => ?_, ?_, heach hmac fun q hq hqp => ?_, heach (hacc'.aid ▸ hle) fun q hq hqp => ?_,
    heach (haddr ▸ hu) fun q hq hqp => ?_, ?_, ?_⟩
  · show (∃ index, q ∈ a'.stapriv.staHash index) ↔ q = 0 ∨ q ∈ a'.stapriv.asocList
    rw [hacc'.staHash, hlist]
    show sp.Hashed q ↔ _
    rw [hhashed, table.hashed, or_assoc]
  · show (a'.staInfo 0).aid = 0 ∧ (a'.staInfo 0).hwaddr = bcAddr ∧ (a'.staInfo 0).macId = 1
    rw [(hold 0 hne.symm).2, (hold 0 hne.symm).1.hwaddr, (hold 0 hne.symm).1.macId]
    exact table.bcmc
  · rw [(hold q hqp).1.macId, (hold q hqp).2]
    exact table.macId q hq
  · rw [(hold q hqp).2]
    exact table.aid_le q hq
  · rw [(hold q hqp).1.hwaddr]
    exact table.unicast q hq
  · exact hacc'.maxNumSta.trans hroom
  · exact table.mode.of_eq hacc'.securitypriv hacc'.fwState hacc'.mlmeinfoState

/-- A key given to a station, and `busetkipkey`, are nothing to the table. -/
theorem setKey {info : StaInfo} (hsame : (h.ap.staInfo p).SameStation info)
    (haid : info.aid = (h.ap.staInfo p).aid) (hmac : info.macId = (h.ap.staInfo p).macId) (hstate : info.state = (h.ap.staInfo p).state) (on : Bool) :
    KeyTable { h with ap :=
      { h.ap.setInfo p info with securitypriv := { h.ap.securitypriv with busetkipkey := on } } } := by
  have hedit : TableStep keyPermits h { h with ap := h.ap.setInfo p info } := by
    have hauthed : info.authed = (h.ap.stapriv.staInfo p).authed := by
      unfold StaInfo.authed StaInfo.inState
      rw [hstate]
      rfl
    exact .edit h p info hsame haid fun hin => table.wf.auth.authed p (hauthed ▸ hin)
  have htune := TableStep.tune (P := keyPermits) { h with ap := h.ap.setInfo p info }
    { h.ap.setInfo p info with securitypriv := { h.ap.securitypriv with busetkipkey := on } }
    ⟨rfl, rfl, rfl, fun _ => rfl⟩
  obtain ⟨hwf, hfull, hslots⟩ := table.run ((TableRun.single hedit).tail htune)
  have hinfo : ∀ q, ((h.ap.setInfo p info).staInfo q).aid = (h.ap.staInfo q).aid ∧
      ((h.ap.setInfo p info).staInfo q).macId = (h.ap.staInfo q).macId ∧
      ((h.ap.setInfo p info).staInfo q).hwaddr = (h.ap.staInfo q).hwaddr := by
    intro q
    by_cases hq : q = p
    · rw [hq, staInfo_setInfo_self]
      exact ⟨haid, hmac, hsame.hwaddr⟩
    · rw [staInfo_setInfo_other _ _ _ _ hq]
      exact ⟨rfl, rfl, rfl⟩
  refine ⟨hwf, hfull, hslots, table.hashed, ?_, fun q hq => ?_, fun q hq => ?_, fun q hq => ?_, table.room, ?_⟩
  · show ((h.ap.setInfo p info).staInfo 0).aid = 0 ∧ ((h.ap.setInfo p info).staInfo 0).hwaddr = bcAddr ∧
      ((h.ap.setInfo p info).staInfo 0).macId = 1
    rw [(hinfo 0).1, (hinfo 0).2.1, (hinfo 0).2.2]
    exact table.bcmc
  · show ((h.ap.setInfo p info).staInfo q).macId = ((h.ap.setInfo p info).staInfo q).aid + 1
    rw [(hinfo q).1, (hinfo q).2.1]
    exact table.macId q hq
  · show ((h.ap.setInfo p info).staInfo q).aid ≤ 31
    rw [(hinfo q).1]
    exact table.aid_le q hq
  · show isMulticastEtherAddr ((h.ap.setInfo p info).staInfo q).hwaddr = false
    rw [(hinfo q).2.2]
    exact table.unicast q hq
  · exact ⟨table.mode.apMode, table.mode.noStation, table.mode.privacy, table.mode.auth⟩

end KeyTable

theorem start_keyTable {config : RtwAdapter} (mode : StaKeys.Protected config) :
    KeyTable (ApHistory.start config) where
  wf := start_wf config
  full := start_tableFull config
  slots := start_slots config
  hashed p := by
    have hall : ∀ p : StaId, (∃ index, p ∈ bcmcTable.staHash index) ↔ p = 0 := by decide
    constructor
    · exact fun hp => .inl ((hall p).mp hp)
    · rintro (rfl | hp)
      · exact (hall 0).mpr rfl
      · exact absurd hp List.not_mem_nil
  bcmc := ⟨rfl, rfl, rfl⟩
  macId _ hp := absurd hp List.not_mem_nil
  aid_le _ hp := absurd hp List.not_mem_nil
  unicast _ hp := absurd hp List.not_mem_nil
  room := rfl
  mode := ⟨mode.apMode, mode.noStation, mode.privacy, mode.auth⟩

end Rtl8723au
