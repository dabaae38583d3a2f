import Rtl8723au.Ap.Expire
import Rtl8723au.Library.WhileLoop

/-! The station table as a machine of its own: the operations the handlers are made of, each with what
holds when a handler performs it. What every operation keeps, every handler keeps. -/
namespace Rtl8723au
open Relation
set_option autoImplicit false

/-! ## Histories -/

/-- An accepted authentication: the frame, the mode in force, and the challenge text of the station. -/
structure AuthRecord where
  mode : ℕ
  frame : AuthFrame
  chgTxt : Vector UInt8 128

/-- The driver with what was accepted for each entry since it was allocated. -/
structure ApHistory where
  ap : RtwAdapter
  accepted : StaId → Option AuthRecord := fun _ => none

/-! ## What the operations read -/

/-- The entry is in a list of `sta_hash`: it is allocated. -/
def StaPriv.Hashed (sp : StaPriv) (psta : StaId) : Prop := ∃ index, psta ∈ sp.staHash index

/-- The state of the station follows an accepted authentication. -/
def StaInfo.authed (info : StaInfo) : Bool := info.inState (WIFI_FW_AUTH_SUCCESS ||| WIFI_FW_ASSOC_SUCCESS)

def StaInfo.noCaps (info : StaInfo) : Prop := ∀ cap, info.capSet cap = false

/-- The members no handler changes but by an operation of its own: the address and the counted
capabilities. -/
structure StaInfo.SameStation (info info' : StaInfo) : Prop where
  hwaddr : info'.hwaddr = info.hwaddr
  caps : ∀ cap, info'.capSet cap = info.capSet cap

namespace StaInfo.SameStation
variable {i i' : StaInfo}

theorem refl (i : StaInfo) : i.SameStation i := ⟨rfl, fun _ => rfl⟩

theorem setState (h : i.SameStation i') (bit : BitVec 32) : i.SameStation (i'.setState bit) := ⟨h.hwaddr, h.caps⟩

theorem clearState (h : i.SameStation i') (bit : BitVec 32) : i.SameStation (i'.clearState bit) := ⟨h.hwaddr, h.caps⟩

theorem setExpireTo (h : i.SameStation i') (expireTo : ℕ) : i.SameStation (i'.setExpireTo expireTo) := ⟨h.hwaddr, h.caps⟩

theorem setAuthSeq (h : i.SameStation i') (seq : ℕ) : i.SameStation (i'.setAuthSeq seq) := ⟨h.hwaddr, h.caps⟩

theorem setAuthalg (h : i.SameStation i') (algorithm : ℕ) : i.SameStation (i'.setAuthalg algorithm) := ⟨h.hwaddr, h.caps⟩

end StaInfo.SameStation

/-- With shared key in force only a third frame that repeats the challenge text was accepted. -/
def AuthRecord.Valid (record : AuthRecord) : Prop :=
  record.mode = 1 → record.frame.seq = 3 ∧ ∃ ieLen, record.frame.challenge = some (ieLen, record.chgTxt)

/-- A change of a station and of the counters that moves a counter only together with its flag. -/
structure CapMoved (x y : CapState) : Prop where
  hwaddr : y.1.hwaddr = x.1.hwaddr
  aid : y.1.aid = x.1.aid
  state : y.1.state = x.1.state
  balance : ∀ cap, y.2.numSta cap - (if y.1.capSet cap then 1 else 0) =
    x.2.numSta cap - (if x.1.capSet cap then 1 else 0)

/-- How the entries are linked. -/
structure TableLinks where
  staHash : Fin 32 → List StaId
  freeStaQueue : List StaId
  asocStaCount : ℤ
  asocList : List StaId
  authList : List StaId
  asocListCnt : UInt8
  authListCnt : UInt8

def StaPriv.links (sp : StaPriv) : TableLinks where
  staHash := sp.staHash
  freeStaQueue := sp.freeStaQueue
  asocStaCount := sp.asocStaCount
  asocList := sp.asocList
  authList := sp.authList
  asocListCnt := sp.asocListCnt
  authListCnt := sp.authListCnt

/-- The parts of the driver that hold the table and the counters. -/
structure SameTable (a a' : RtwAdapter) : Prop where
  links : a'.stapriv.links = a.stapriv.links
  staInfo : a'.stapriv.staInfo = a.stapriv.staInfo
  staAid : a'.stapriv.staAid = a.stapriv.staAid
  numSta : ∀ cap, a'.mlmepriv.numSta cap = a.mlmepriv.numSta cap

/-! ## The machine -/

/-- What is known of the states in which a handler frees a station, allocates an entry, and forgets an
association identifier. -/
structure Permits where
  free : RtwAdapter → StaId → Prop := fun _ _ => True
  alloc : RtwAdapter → MacAddr → Prop := fun _ _ => True
  forget : RtwAdapter → StaId → Prop := fun _ _ => True

/-- One operation on the station table. -/
inductive TableStep (P : Permits) : ApHistory → ApHistory → Prop
  | edit (h : ApHistory) (psta : StaId) (info : StaInfo)
      (same : (h.ap.staInfo psta).SameStation info) (aid : info.aid = (h.ap.staInfo psta).aid)
      (authed : info.authed = true → h.accepted psta ≠ none) :
      TableStep P h { h with ap := h.ap.setInfo psta info }
  | accept (h : ApHistory) (psta : StaId) (info : StaInfo) (record : AuthRecord)
      (same : (h.ap.staInfo psta).SameStation info) (aid : info.aid = (h.ap.staInfo psta).aid)
      (valid : record.Valid) :
      TableStep P h ⟨h.ap.setInfo psta info, Function.update h.accepted psta (some record)⟩
  | alloc (h : ApHistory) (hwaddr : MacAddr) (psta : StaId) (stapriv : StaPriv)
      (permit : P.alloc h.ap hwaddr) (missing : rtwGetStainfo h.ap.stapriv (some hwaddr) = none)
      (allocated : rtwAllocStainfo h.ap.stapriv hwaddr = (stapriv, some psta)) :
      TableStep P h ⟨h.ap.setStapriv stapriv, Function.update h.accepted psta none⟩
  | free (h : ApHistory) (psta : StaId) (permit : P.free h.ap psta)
      (hashed : h.ap.stapriv.Hashed psta) (unlisted : psta ∉ h.ap.stapriv.asocList) :
      TableStep P h { h with ap := h.ap.onStapriv (rtwFreeStainfo · psta) }
  | authAdd (h : ApHistory) (psta : StaId) (hashed : h.ap.stapriv.Hashed psta)
      (unlisted : psta ∉ h.ap.stapriv.authList) (unassoc : psta ∉ h.ap.stapriv.asocList) :
      TableStep P h { h with ap := h.ap.onStapriv (·.authListAdd psta) }
  | authDel (h : ApHistory) (psta : StaId) (listed : psta ∈ h.ap.stapriv.authList) :
      TableStep P h { h with ap := h.ap.onStapriv (·.authListDel psta) }
  | asocAdd (h : ApHistory) (psta : StaId) (hashed : h.ap.stapriv.Hashed psta)
      (unlisted : psta ∉ h.ap.stapriv.asocList) (unauth : psta ∉ h.ap.stapriv.authList)
      (accepted : h.accepted psta ≠ none) (aid : 0 < (h.ap.staInfo psta).aid) :
      TableStep P h { h with ap := h.ap.onStapriv (·.asocListAdd psta) }
  | asocDel (h : ApHistory) (psta : StaId) (listed : psta ∈ h.ap.stapriv.asocList) :
      TableStep P h { h with ap := h.ap.onStapriv (·.asocListDel psta) }
  | takeAid (h : ApHistory) (psta : StaId) (stapriv : StaPriv) (hashed : h.ap.stapriv.Hashed psta)
      (aid : (h.ap.staInfo psta).aid = 0) (taken : assocAid h.ap.stapriv psta = some stapriv) :
      TableStep P h { h with ap := h.ap.setStapriv stapriv }
  | forgetAid (h : ApHistory) (psta : StaId) (permit : P.forget h.ap psta) :
      TableStep P h { h with ap := h.ap.setInfo psta ((h.ap.staInfo psta).setAid 0) }
  | caps (h : ApHistory) (psta : StaId) (x : CapState) (hashed : h.ap.stapriv.Hashed psta)
      (moved : CapMoved (h.ap.staInfo psta, h.ap.mlmepriv) x) :
      TableStep P h { h with ap := { h.ap.setInfo psta x.1 with mlmepriv := x.2 } }
  | tune (h : ApHistory) (ap : RtwAdapter) (same : SameTable h.ap ap) :
      TableStep P h { h with ap := ap }

theorem TableStep.mono {P Q : Permits} (hfree : ∀ a psta, P.free a psta → Q.free a psta)
    (halloc : ∀ a hwaddr, P.alloc a hwaddr → Q.alloc a hwaddr)
    (hforget : ∀ a psta, P.forget a psta → Q.forget a psta) {h h' : ApHistory}
    (step : TableStep P h h') : TableStep Q h h' := by
  cases step with
  | edit psta info same aid authed => exact .edit h psta info same aid authed
  | accept psta info record same aid valid => exact .accept h psta info record same aid valid
  | alloc hwaddr psta stapriv permit missing allocated =>
    exact .alloc h hwaddr psta stapriv (halloc _ _ permit) missing allocated
  | free psta permit hashed unlisted => exact .free h psta (hfree _ _ permit) hashed unlisted
  | authAdd psta hashed unlisted unassoc => exact .authAdd h psta hashed unlisted unassoc
  | authDel psta listed => exact .authDel h psta listed
  | asocAdd psta hashed unlisted unauth accepted aid =>
    exact .asocAdd h psta hashed unlisted unauth accepted aid
  | asocDel psta listed => exact .asocDel h psta listed
  | takeAid psta stapriv hashed aid taken => exact .takeAid h psta stapriv hashed aid taken
  | forgetAid psta permit => exact .forgetAid h psta (hforget _ _ permit)
  | caps psta x hashed moved => exact .caps h psta x hashed moved
  | tune ap same => exact .tune h ap same

abbrev TableRun (P : Permits) : ApHistory → ApHistory → Prop := ReflTransGen (TableStep P)

theorem TableRun.mono {P Q : Permits} (hfree : ∀ a psta, P.free a psta → Q.free a psta)
    (halloc : ∀ a hwaddr, P.alloc a hwaddr → Q.alloc a hwaddr)
    (hforget : ∀ a psta, P.forget a psta → Q.forget a psta) {h h' : ApHistory}
    (run : TableRun P h h') : TableRun Q h h' :=
  run.lift id fun _ _ step => step.mono hfree halloc hforget

/-! ## The lists -/

theorem mem_listDelInit {l : List StaId} {p q : StaId} : q ∈ listDelInit l p ↔ q ∈ l ∧ q ≠ p := by
  simp [listDelInit]

theorem listDelInit_of_not_mem {l : List StaId} {p : StaId} (h : p ∉ l) : listDelInit l p = l := by
  unfold listDelInit
  rw [List.filter_eq_self]
  intro q hq
  have hne : q ≠ p := fun e => h (e ▸ hq)
  simpa using hne

theorem listDelInit_nodup {l : List StaId} (p : StaId) (h : l.Nodup) : (listDelInit l p).Nodup :=
  h.filter _

theorem length_listDelInit {l : List StaId} {p : StaId} (h : l.Nodup) (hp : p ∈ l) :
    (listDelInit l p).length + 1 = l.length := by
  have e : listDelInit l p = l.erase p := (h.erase_eq_filter p).symm
  rw [e, List.length_erase_of_mem hp]
  have := List.length_pos_of_mem hp
  omega

/-! ## What an operation does to the table -/

namespace TableLinks
variable (l : TableLinks) (p : StaId)

def alloc (rest : List StaId) (index : Fin 32) : TableLinks :=
  { l with
    freeStaQueue := rest
    staHash := Function.update l.staHash index (l.staHash index ++ [p])
    asocStaCount := l.asocStaCount + 1 }

def authListRemove : TableLinks :=
  { l with
    authList := listDelInit l.authList p
    authListCnt := if p ∈ l.authList then l.authListCnt - 1 else l.authListCnt }

def unlink : TableLinks :=
  { l.authListRemove p with
    staHash := fun index => listDelInit (l.staHash index) p
    asocStaCount := l.asocStaCount - 1 }

def free (returned : Bool) : TableLinks :=
  { l.unlink p with freeStaQueue := if returned then l.freeStaQueue ++ [p] else l.freeStaQueue }

end TableLinks

section
variable (sp : StaPriv) (p q : StaId) (info : StaInfo)

@[simp] theorem setInfo_self : (sp.setInfo p info).staInfo p = info := by simp [StaPriv.setInfo]

theorem setInfo_other (h : q ≠ p) : (sp.setInfo p info).staInfo q = sp.staInfo q := by
  simp [StaPriv.setInfo, h]

theorem authListRemove_links : (sp.authListRemove p).links = sp.links.authListRemove p := by
  by_cases hp : p ∈ sp.authList
  · simp [StaPriv.authListRemove, TableLinks.authListRemove, StaPriv.links, StaPriv.authListDel, hp]
  · simp [StaPriv.authListRemove, TableLinks.authListRemove, StaPriv.links, hp,
      listDelInit_of_not_mem hp]

theorem unlinkStainfo_links : (unlinkStainfo sp p).links = sp.links.unlink p := by
  unfold unlinkStainfo
  rw [authListRemove_links]
  rfl

theorem releaseAid_links (aid : ℕ) : (releaseAid sp p aid).links = sp.links := by
  unfold releaseAid
  split <;> rfl

theorem rtwFreeStainfo_links :
    (rtwFreeStainfo sp p).links = sp.links.free p ((sp.staInfo p).aid ≤ 31) := by
  unfold rtwFreeStainfo
  by_cases h : 31 < (sp.staInfo p).aid
  · have hnot : ¬ (sp.staInfo p).aid ≤ 31 := by omega
    rw [if_pos h, unlinkStainfo_links]
    simp [TableLinks.free, hnot, TableLinks.unlink, TableLinks.authListRemove]
  · have hle : (sp.staInfo p).aid ≤ 31 := by omega
    rw [if_neg h]
    have hlinks := (releaseAid_links (unlinkStainfo sp p) p (sp.staInfo p).aid).trans
      (unlinkStainfo_links sp p)
    have hqueue := congrArg TableLinks.freeStaQueue hlinks
    change (releaseAid (unlinkStainfo sp p) p (sp.staInfo p).aid).freeStaQueue = sp.freeStaQueue at hqueue
    simp only [hqueue]
    calc
      _ = { (releaseAid (unlinkStainfo sp p) p (sp.staInfo p).aid).links with
            freeStaQueue := sp.freeStaQueue ++ [p] } := rfl
      _ = _ := by rw [hlinks]; simp [TableLinks.free, hle]; rfl

/-! ### The station that is freed -/

/-- Freeing the station gives its slot of `sta_aid` back. -/
def StaPriv.Releases (sp : StaPriv) (psta : StaId) : Prop :=
  (sp.staInfo psta).aid ≤ 31 ∧ 0 < (sp.staInfo psta).aid ∧
    sp.staAid (StaPriv.aidSlot (sp.staInfo psta).aid) = some psta

theorem authListRemove_staInfo : (sp.authListRemove p).staInfo = sp.staInfo := by
  unfold StaPriv.authListRemove
  split <;> rfl

theorem authListRemove_staAid : (sp.authListRemove p).staAid = sp.staAid := by
  unfold StaPriv.authListRemove
  split <;> rfl

theorem unlinkStainfo_staInfo : (unlinkStainfo sp p).staInfo =
    (sp.setInfo p (unlinkInfo (sp.staInfo p))).staInfo := by
  unfold unlinkStainfo
  rw [authListRemove_staInfo]
  rfl

theorem unlinkStainfo_staAid : (unlinkStainfo sp p).staAid = sp.staAid := by
  unfold unlinkStainfo
  rw [authListRemove_staAid]
  rfl

theorem rtwFreeStainfo_info_other (h : q ≠ p) : (rtwFreeStainfo sp p).staInfo q = sp.staInfo q := by
  have hunlink : (unlinkStainfo sp p).staInfo q = sp.staInfo q := by
    rw [unlinkStainfo_staInfo, setInfo_other _ _ _ _ h]
  unfold rtwFreeStainfo
  split
  next => exact hunlink
  next =>
    show (releaseAid (unlinkStainfo sp p) p (sp.staInfo p).aid).staInfo q = sp.staInfo q
    unfold releaseAid
    split
    next => rw [setInfo_other _ _ _ _ h]; exact hunlink
    next => exact hunlink

theorem rtwFreeStainfo_released (h : sp.Releases p) :
    (rtwFreeStainfo sp p).staInfo p = (unlinkInfo (sp.staInfo p)).setAid 0 ∧
      (rtwFreeStainfo sp p).staAid =
        Function.update sp.staAid (StaPriv.aidSlot (sp.staInfo p).aid) none := by
  obtain ⟨hle, hpos, hslot⟩ := h
  have hinfo : (unlinkStainfo sp p).staInfo p = unlinkInfo (sp.staInfo p) := by
    rw [unlinkStainfo_staInfo, setInfo_self]
  have haid := unlinkStainfo_staAid sp p
  have hcond : 0 < (sp.staInfo p).aid ∧
      (unlinkStainfo sp p).staAid (StaPriv.aidSlot (sp.staInfo p).aid) = some p := by
    rw [haid]
    exact ⟨hpos, hslot⟩
  unfold rtwFreeStainfo
  rw [if_neg (by omega)]
  unfold releaseAid
  rw [if_pos hcond]
  refine ⟨?_, ?_⟩
  · show (StaPriv.setInfo _ p _).staInfo p = _
    rw [setInfo_self, hinfo]
  · show Function.update (unlinkStainfo sp p).staAid _ none = _
    rw [haid]

theorem rtwFreeStainfo_kept (h : ¬ sp.Releases p) :
    (rtwFreeStainfo sp p).staInfo p = unlinkInfo (sp.staInfo p) ∧
      (rtwFreeStainfo sp p).staAid = sp.staAid := by
  have hinfo : (unlinkStainfo sp p).staInfo p = unlinkInfo (sp.staInfo p) := by
    rw [unlinkStainfo_staInfo, setInfo_self]
  have haid := unlinkStainfo_staAid sp p
  unfold rtwFreeStainfo
  split
  next => exact ⟨hinfo, haid⟩
  next hle =>
    have hcond : ¬ (0 < (sp.staInfo p).aid ∧
        (unlinkStainfo sp p).staAid (StaPriv.aidSlot (sp.staInfo p).aid) = some p) := by
      rw [haid]
      rintro ⟨hpos, hslot⟩
      exact h ⟨by omega, hpos, hslot⟩
    unfold releaseAid
    rw [if_neg hcond]
    exact ⟨hinfo, haid⟩

theorem rtwFreeStainfo_staInfo : ∃ aid, (rtwFreeStainfo sp p).staInfo =
    Function.update sp.staInfo p ((unlinkInfo (sp.staInfo p)).setAid aid) := by
  have hself : ∃ aid, (rtwFreeStainfo sp p).staInfo p = (unlinkInfo (sp.staInfo p)).setAid aid := by
    by_cases h : sp.Releases p
    · exact ⟨0, (rtwFreeStainfo_released sp p h).1⟩
    · exact ⟨(sp.staInfo p).aid, (rtwFreeStainfo_kept sp p h).1⟩
  obtain ⟨aid, hself⟩ := hself
  refine ⟨aid, ?_⟩
  funext q
  by_cases hq : q = p
  · rw [hq, Function.update_self, hself]
  · rw [Function.update_of_ne hq, rtwFreeStainfo_info_other _ _ _ hq]

end

/-- The entry `rtw_alloc_stainfo` takes is the first of the free queue. -/
theorem rtwAllocStainfo_some {sp sp' : StaPriv} {hwaddr : MacAddr} {p : StaId}
    (h : rtwAllocStainfo sp hwaddr = (sp', some p)) : ∃ rest, sp.freeStaQueue = p :: rest ∧
      sp' = ((sp.setFreeStaQueue rest).setInfo p (allocInfo hwaddr)).hashAdd (wifiMacHash hwaddr) p := by
  unfold rtwAllocStainfo at h
  split at h
  next => cases h
  next q rest hq =>
    cases h
    exact ⟨rest, hq, rfl⟩

theorem assocAid_some {sp sp' : StaPriv} {p : StaId} (haid : (sp.staInfo p).aid = 0)
    (h : assocAid sp p = some sp') : firstFreeAid sp ≤ sp.maxNumSta ∧
      sp' = (sp.setInfo p ((sp.staInfo p).setAid (firstFreeAid sp))).setSlot (firstFreeAid sp) (some p) := by
  unfold assocAid at h
  rw [if_neg (by omega)] at h
  by_cases hroom : sp.maxNumSta < firstFreeAid sp
  · simp [hroom] at h
  · rw [if_neg hroom] at h
    cases h
    exact ⟨by omega, rfl⟩

end Rtl8723au
