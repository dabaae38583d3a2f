import Rtl8723au.Ap.Table

/-! What every operation on the station table keeps, whatever it is permitted: no entry is in two places,
the two lists of the access point are apart and their counters are their lengths, and a state that follows
an authentication follows an accepted one. -/
namespace Rtl8723au
open Relation
set_option autoImplicit false

/-! ## Lists without repetition -/

theorem stations_length_le {l : List StaId} (h : l.Nodup) : l.length ≤ 32 := by
  simpa using h.length_le_card

theorem nodup_snoc {l : List StaId} {p : StaId} (h : l.Nodup) (hp : p ∉ l) : (l ++ [p]).Nodup := by
  refine List.Nodup.append h (List.nodup_singleton p) ?_
  intro q hq hqp
  rw [List.mem_singleton] at hqp
  exact hp (hqp ▸ hq)

/-! ## The table -/

/-- No entry is in two places: an entry is in the bucket of its address at most, once, and not in the free
queue then. -/
structure TableWf (l : TableLinks) (addr : StaId → MacAddr) : Prop where
  bucket : ∀ index p, p ∈ l.staHash index → index = wifiMacHash (addr p)
  hashNodup : ∀ index, (l.staHash index).Nodup
  freeNodup : l.freeStaQueue.Nodup
  freeUnhashed : ∀ p ∈ l.freeStaQueue, ∀ index, p ∉ l.staHash index

namespace TableLinks

def Hashed (l : TableLinks) (p : StaId) : Prop := ∃ index, p ∈ l.staHash index

theorem alloc_staHash (l : TableLinks) (p : StaId) (rest : List StaId) (i : Fin 32) :
    (l.alloc p rest i).staHash = Function.update l.staHash i (l.staHash i ++ [p]) := rfl

theorem mem_alloc_staHash {l : TableLinks} {p q : StaId} {rest : List StaId} {i j : Fin 32} :
    q ∈ (l.alloc p rest i).staHash j ↔ q ∈ l.staHash j ∨ (q = p ∧ j = i) := by
  rw [alloc_staHash]
  by_cases hj : j = i
  · subst hj
    simp
  · rw [Function.update_of_ne hj]
    simp [hj]

theorem hashed_alloc {l : TableLinks} {p q : StaId} {rest : List StaId} {i : Fin 32} :
    (l.alloc p rest i).Hashed q ↔ l.Hashed q ∨ q = p := by
  constructor
  · rintro ⟨j, hq⟩
    cases mem_alloc_staHash.mp hq with
    | inl h => exact Or.inl ⟨j, h⟩
    | inr h => exact Or.inr h.1
  · intro h
    cases h with
    | inl h => obtain ⟨j, hq⟩ := h; exact ⟨j, mem_alloc_staHash.mpr (Or.inl hq)⟩
    | inr h => exact ⟨i, mem_alloc_staHash.mpr (Or.inr ⟨h, rfl⟩)⟩

theorem hashed_free {l : TableLinks} {p q : StaId} {returned : Bool} :
    (l.free p returned).Hashed q ↔ l.Hashed q ∧ q ≠ p := by
  constructor
  · rintro ⟨j, hq⟩
    have hmem := mem_listDelInit.mp hq
    exact ⟨⟨j, hmem.1⟩, hmem.2⟩
  · rintro ⟨⟨j, hq⟩, hne⟩
    exact ⟨j, mem_listDelInit.mpr ⟨hq, hne⟩⟩

end TableLinks

theorem TableWf.alloc {l : TableLinks} {addr : StaId → MacAddr} (wf : TableWf l addr) {p : StaId}
    {rest : List StaId} (hfree : l.freeStaQueue = p :: rest) (hwaddr : MacAddr) :
    TableWf (l.alloc p rest (wifiMacHash hwaddr)) (Function.update addr p hwaddr) := by
  have hnodup : (p :: rest).Nodup := hfree ▸ wf.freeNodup
  have hp : ∀ index, p ∉ l.staHash index := wf.freeUnhashed p (by simp [hfree])
  refine ⟨?_, ?_, (List.nodup_cons.mp hnodup).2, ?_⟩
  · intro index q hq
    cases TableLinks.mem_alloc_staHash.mp hq with
    | inl h =>
      have hne : q ≠ p := fun e => hp index (e ▸ h)
      rw [Function.update_of_ne hne]
      exact wf.bucket index q h
    | inr h =>
      rw [h.1, Function.update_self]
      exact h.2
  · intro index
    rw [TableLinks.alloc_staHash]
    by_cases hi : index = wifiMacHash hwaddr
    · rw [hi, Function.update_self]
      exact nodup_snoc (wf.hashNodup _) (hp _)
    · rw [Function.update_of_ne hi]
      exact wf.hashNodup index
  · intro q hq index hmem
    have hne : q ≠ p := fun e => (List.nodup_cons.mp hnodup).1 (e ▸ hq)
    cases TableLinks.mem_alloc_staHash.mp hmem with
    | inl h => exact wf.freeUnhashed q (by rw [hfree]; exact List.mem_cons_of_mem p hq) index h
    | inr h => exact hne h.1

theorem TableWf.free {l : TableLinks} {addr : StaId → MacAddr} (wf : TableWf l addr) {p : StaId}
    (hashed : l.Hashed p) (returned : Bool) : TableWf (l.free p returned) addr := by
  have hp : p ∉ l.freeStaQueue := by
    intro h
    obtain ⟨index, hi⟩ := hashed
    exact wf.freeUnhashed p h index hi
  refine ⟨?_, ?_, ?_, ?_⟩
  · intro index q hq
    exact wf.bucket index q (mem_listDelInit.mp hq).1
  · intro index
    exact listDelInit_nodup p (wf.hashNodup index)
  · show (if returned then l.freeStaQueue ++ [p] else l.freeStaQueue).Nodup
    split
    next => exact nodup_snoc wf.freeNodup hp
    next => exact wf.freeNodup
  · intro q hq index hmem
    have hmem' := mem_listDelInit.mp hmem
    have hq' : q ∈ if returned then l.freeStaQueue ++ [p] else l.freeStaQueue := hq
    split at hq'
    next =>
      cases List.mem_append.mp hq' with
      | inl h => exact wf.freeUnhashed q h index hmem'.1
      | inr h => exact hmem'.2 (List.mem_singleton.mp h)
    next => exact wf.freeUnhashed q hq' index hmem'.1

theorem TableWf.relink {l l' : TableLinks} {addr : StaId → MacAddr} (wf : TableWf l addr)
    (hhash : l'.staHash = l.staHash) (hfree : l'.freeStaQueue = l.freeStaQueue) : TableWf l' addr := by
  refine ⟨?_, ?_, ?_, ?_⟩
  · rw [hhash]
    exact wf.bucket
  · rw [hhash]
    exact wf.hashNodup
  · rw [hfree]
    exact wf.freeNodup
  · rw [hhash, hfree]
    exact wf.freeUnhashed

/-! ## The lists -/

/-- The two lists hold allocated entries, apart from each other, and the counters are their lengths. -/
structure ListsWf (l : TableLinks) : Prop where
  authNodup : l.authList.Nodup
  asocNodup : l.asocList.Nodup
  authHashed : ∀ p ∈ l.authList, l.Hashed p
  asocHashed : ∀ p ∈ l.asocList, l.Hashed p
  apart : ∀ p ∈ l.authList, p ∉ l.asocList
  authCnt : l.authListCnt.toNat = l.authList.length
  asocCnt : l.asocListCnt.toNat = l.asocList.length

theorem cnt_snoc {l : List StaId} {cnt : UInt8} (p : StaId) (h : l.Nodup) (hcnt : cnt.toNat = l.length) :
    (cnt + 1).toNat = (l ++ [p]).length := by
  have hle := stations_length_le h
  have hone : (1 : UInt8).toNat = 1 := rfl
  rw [UInt8.toNat_add, hcnt, hone, List.length_append, List.length_singleton]
  omega

theorem cnt_listDelInit {l : List StaId} {cnt : UInt8} {p : StaId} (h : l.Nodup) (hp : p ∈ l)
    (hcnt : cnt.toNat = l.length) : (cnt - 1).toNat = (listDelInit l p).length := by
  have hlen := length_listDelInit h hp
  have hle := stations_length_le h
  have hone : (1 : UInt8).toNat = 1 := rfl
  rw [UInt8.toNat_sub, hcnt, hone]
  omega

namespace TableLinks
variable {l : TableLinks} {p : StaId}

theorem authListRemove_cnt (wf : ListsWf l) : (l.authListRemove p).authListCnt.toNat =
    (l.authListRemove p).authList.length := by
  show (if p ∈ l.authList then l.authListCnt - 1 else l.authListCnt).toNat =
    (listDelInit l.authList p).length
  split
  next hp => exact cnt_listDelInit wf.authNodup hp wf.authCnt
  next hp => rw [listDelInit_of_not_mem hp]; exact wf.authCnt

def authAdd (l : TableLinks) (p : StaId) : TableLinks :=
  { l with authList := l.authList ++ [p], authListCnt := l.authListCnt + 1 }

def authDel (l : TableLinks) (p : StaId) : TableLinks :=
  { l with authList := listDelInit l.authList p, authListCnt := l.authListCnt - 1 }

def asocAdd (l : TableLinks) (p : StaId) : TableLinks :=
  { l with asocList := l.asocList ++ [p], asocListCnt := l.asocListCnt + 1 }

def asocDel (l : TableLinks) (p : StaId) : TableLinks :=
  { l with asocList := listDelInit l.asocList p, asocListCnt := l.asocListCnt - 1 }

end TableLinks

namespace ListsWf
variable {l : TableLinks} {p : StaId} (wf : ListsWf l)
include wf

theorem alloc (rest : List StaId) (index : Fin 32) : ListsWf (l.alloc p rest index) where
  authNodup := wf.authNodup
  asocNodup := wf.asocNodup
  authHashed q hq := TableLinks.hashed_alloc.mpr (Or.inl (wf.authHashed q hq))
  asocHashed q hq := TableLinks.hashed_alloc.mpr (Or.inl (wf.asocHashed q hq))
  apart := wf.apart
  authCnt := wf.authCnt
  asocCnt := wf.asocCnt

theorem free (unlisted : p ∉ l.asocList) (returned : Bool) : ListsWf (l.free p returned) where
  authNodup := listDelInit_nodup p wf.authNodup
  asocNodup := wf.asocNodup
  authHashed q hq := by
    have hmem := mem_listDelInit.mp hq
    exact TableLinks.hashed_free.mpr ⟨wf.authHashed q hmem.1, hmem.2⟩
  asocHashed q hq := by
    have hne : q ≠ p := fun e => unlisted (e ▸ hq)
    exact TableLinks.hashed_free.mpr ⟨wf.asocHashed q hq, hne⟩
  apart q hq := wf.apart q (mem_listDelInit.mp hq).1
  authCnt := TableLinks.authListRemove_cnt wf
  asocCnt := wf.asocCnt

theorem authAdd (hashed : l.Hashed p) (unlisted : p ∉ l.authList) (unassoc : p ∉ l.asocList) :
    ListsWf (l.authAdd p) where
  authNodup := nodup_snoc wf.authNodup unlisted
  asocNodup := wf.asocNodup
  authHashed q hq := by
    cases List.mem_append.mp hq with
    | inl h => exact wf.authHashed q h
    | inr h => rw [List.mem_singleton.mp h]; exact hashed
  asocHashed := wf.asocHashed
  apart q hq := by
    cases List.mem_append.mp hq with
    | inl h => exact wf.apart q h
    | inr h => rw [List.mem_singleton.mp h]; exact unassoc
  authCnt := cnt_snoc p wf.authNodup wf.authCnt
  asocCnt := wf.asocCnt

theorem authDel (listed : p ∈ l.authList) : ListsWf (l.authDel p) where
  authNodup := listDelInit_nodup p wf.authNodup
  asocNodup := wf.asocNodup
  authHashed q hq := wf.authHashed q (mem_listDelInit.mp hq).1
  asocHashed := wf.asocHashed
  apart q hq := wf.apart q (mem_listDelInit.mp hq).1
  authCnt := cnt_listDelInit wf.authNodup listed wf.authCnt
  asocCnt := wf.asocCnt

theorem asocAdd (hashed : l.Hashed p) (unlisted : p ∉ l.asocList) (unauth : p ∉ l.authList) :
    ListsWf (l.asocAdd p) where
  authNodup := wf.authNodup
  asocNodup := nodup_snoc wf.asocNodup unlisted
  authHashed := wf.authHashed
  asocHashed q hq := by
    cases List.mem_append.mp hq with
    | inl h => exact wf.asocHashed q h
    | inr h => rw [List.mem_singleton.mp h]; exact hashed
  apart q hq hq' := by
    cases List.mem_append.mp hq' with
    | inl h => exact wf.apart q hq h
    | inr h => rw [List.mem_singleton.mp h] at hq; exact unauth hq
  authCnt := wf.authCnt
  asocCnt := cnt_snoc p wf.asocNodup wf.asocCnt

theorem asocDel (listed : p ∈ l.asocList) : ListsWf (l.asocDel p) where
  authNodup := wf.authNodup
  asocNodup := listDelInit_nodup p wf.asocNodup
  authHashed := wf.authHashed
  asocHashed q hq := wf.asocHashed q (mem_listDelInit.mp hq).1
  apart q hq hq' := wf.apart q hq (mem_listDelInit.mp hq').1
  authCnt := wf.authCnt
  asocCnt := cnt_listDelInit wf.asocNodup listed wf.asocCnt

end ListsWf

/-! ## Accepted authentications -/

/-- A state that follows an authentication, and an entry of `asoc_list`, have an accepted one. -/
structure AuthWf (info : StaId → StaInfo) (asocList : List StaId)
    (accepted : StaId → Option AuthRecord) : Prop where
  authed : ∀ p, (info p).authed = true → accepted p ≠ none
  asocAccepted : ∀ p ∈ asocList, accepted p ≠ none
  valid : ∀ p record, accepted p = some record → record.Valid

namespace AuthWf
variable {info : StaId → StaInfo} {asocList : List StaId} {accepted : StaId → Option AuthRecord}
  (wf : AuthWf info asocList accepted) (p : StaId) (i : StaInfo)
include wf

theorem update (record : Option AuthRecord) (hauthed : i.authed = true → record ≠ none)
    (hlisted : p ∈ asocList → record ≠ none) (hvalid : ∀ r, record = some r → r.Valid) :
    AuthWf (Function.update info p i) asocList (Function.update accepted p record) where
  authed q hq := by
    by_cases he : q = p
    · subst he
      rw [Function.update_self] at hq ⊢
      exact hauthed hq
    · rw [Function.update_of_ne he] at hq ⊢
      exact wf.authed q hq
  asocAccepted q hq := by
    by_cases he : q = p
    · subst he
      rw [Function.update_self]
      exact hlisted hq
    · rw [Function.update_of_ne he]
      exact wf.asocAccepted q hq
  valid q r hr := by
    by_cases he : q = p
    · subst he
      rw [Function.update_self] at hr
      exact hvalid r hr
    · rw [Function.update_of_ne he] at hr
      exact wf.valid q r hr

theorem edit (hauthed : i.authed = true → accepted p ≠ none) :
    AuthWf (Function.update info p i) asocList accepted := by
  have h := wf.update p i (accepted p) hauthed (wf.asocAccepted p) (wf.valid p)
  rwa [Function.update_eq_self] at h

theorem relist {asocList' : List StaId} (h : ∀ q ∈ asocList', accepted q ≠ none) :
    AuthWf info asocList' accepted := ⟨wf.authed, h, wf.valid⟩

end AuthWf

structure ApHistory.Wf (h : ApHistory) : Prop where
  table : TableWf h.ap.stapriv.links fun p => (h.ap.staInfo p).hwaddr
  lists : ListsWf h.ap.stapriv.links
  auth : AuthWf h.ap.stapriv.staInfo h.ap.stapriv.asocList h.accepted

section
variable (a : RtwAdapter) (p q : StaId) (info : StaInfo)

@[simp] theorem staInfo_setInfo_self : (a.setInfo p info).staInfo p = info :=
  setInfo_self a.stapriv p info

theorem staInfo_setInfo_other (h : q ≠ p) : (a.setInfo p info).staInfo q = a.staInfo q :=
  setInfo_other a.stapriv p q info h

theorem setInfo_hwaddr (h : info.hwaddr = (a.staInfo p).hwaddr) :
    (fun q => ((a.setInfo p info).staInfo q).hwaddr) = fun q => (a.staInfo q).hwaddr := by
  funext q
  by_cases hq : q = p
  · subst hq
    rw [staInfo_setInfo_self]
    exact h
  · rw [staInfo_setInfo_other _ _ _ _ hq]

theorem rtwFreeStainfo_hwaddr :
    (fun q => ((rtwFreeStainfo a.stapriv p).staInfo q).hwaddr) = fun q => (a.staInfo q).hwaddr := by
  obtain ⟨aid, hinfo⟩ := rtwFreeStainfo_staInfo a.stapriv p
  rw [hinfo]
  exact setInfo_hwaddr a p _ rfl

end

/-! ### The bits of the state -/

theorem authed_clearState {info : StaInfo} {bit : BitVec 32} (h : (info.clearState bit).authed = true) :
    info.authed = true := by
  unfold StaInfo.authed StaInfo.inState at *
  rw [bne_iff_ne] at *
  intro hzero
  apply h
  have : info.state &&& ~~~bit &&& (WIFI_FW_AUTH_SUCCESS ||| WIFI_FW_ASSOC_SUCCESS) =
      info.state &&& (WIFI_FW_AUTH_SUCCESS ||| WIFI_FW_ASSOC_SUCCESS) &&& ~~~bit := by
    rw [BitVec.and_assoc, BitVec.and_comm (~~~bit), ← BitVec.and_assoc]
  show info.state &&& ~~~bit &&& _ = 0
  rw [this, hzero]
  simp

theorem authed_setState {info : StaInfo} {bit : BitVec 32}
    (hbit : bit &&& (WIFI_FW_AUTH_SUCCESS ||| WIFI_FW_ASSOC_SUCCESS) = 0)
    (h : (info.setState bit).authed = true) : info.authed = true := by
  unfold StaInfo.authed StaInfo.inState at *
  rw [bne_iff_ne] at *
  intro hzero
  apply h
  show (info.state ||| bit) &&& _ = 0
  rw [BitVec.and_comm, BitVec.and_or_distrib_left, BitVec.and_comm _ info.state, hzero,
    BitVec.and_comm _ bit, hbit]
  rfl

/-! ### One operation -/

theorem allocInfo_authed (hwaddr : MacAddr) : (allocInfo hwaddr).authed = false := by
  show ((0 : BitVec 32) &&& (WIFI_FW_AUTH_SUCCESS ||| WIFI_FW_ASSOC_SUCCESS) != 0) = false
  decide

theorem ApHistory.Wf.step {P : Permits} {h h' : ApHistory} (wf : h.Wf) (step : TableStep P h h') :
    h'.Wf := by
  cases step with
  | edit p info same aid authed =>
    refine ⟨?_, wf.lists, wf.auth.edit p info authed⟩
    rw [setInfo_hwaddr _ _ _ same.hwaddr]
    exact wf.table
  | accept p info record same aid valid =>
    refine ⟨?_, wf.lists, ?_⟩
    · show TableWf _ fun q => ((h.ap.setInfo p info).staInfo q).hwaddr
      rw [setInfo_hwaddr _ _ _ same.hwaddr]
      exact wf.table
    · refine wf.auth.update p info (some record) (fun _ => ?_) (fun _ => ?_) fun r hr => ?_
      · exact Option.some_ne_none record
      · exact Option.some_ne_none record
      · cases hr
        exact valid
  | alloc hwaddr p stapriv permit missing allocated =>
    obtain ⟨rest, hfree, rfl⟩ := rtwAllocStainfo_some allocated
    have hunhashed : ∀ index, p ∉ h.ap.stapriv.staHash index := by
      refine wf.table.freeUnhashed p ?_
      show p ∈ h.ap.stapriv.freeStaQueue
      rw [hfree]
      exact List.mem_cons_self
    refine ⟨?_, wf.lists.alloc rest (wifiMacHash hwaddr), ?_⟩
    · have haddr : (fun q => (Function.update h.ap.stapriv.staInfo p (allocInfo hwaddr) q).hwaddr) =
          Function.update (fun q => (h.ap.staInfo q).hwaddr) p hwaddr := by
        funext q
        by_cases he : q = p
        · rw [he, Function.update_self, Function.update_self]
          rfl
        · rw [Function.update_of_ne he, Function.update_of_ne he]
          rfl
      show TableWf _ fun q => (Function.update h.ap.stapriv.staInfo p (allocInfo hwaddr) q).hwaddr
      rw [haddr]
      exact wf.table.alloc hfree hwaddr
    · refine wf.auth.update p (allocInfo hwaddr) none (fun hi => ?_) (fun hp => ?_) fun r hr => ?_
      · rw [allocInfo_authed] at hi
        exact absurd hi Bool.false_ne_true
      · obtain ⟨index, hmem⟩ := wf.lists.asocHashed p hp
        exact absurd hmem (hunhashed index)
      · cases hr
  | free p permit hashed unlisted =>
    have hlinks := rtwFreeStainfo_links h.ap.stapriv p
    refine ⟨?_, ?_, ?_⟩
    · show TableWf (rtwFreeStainfo h.ap.stapriv p).links fun q =>
        ((rtwFreeStainfo h.ap.stapriv p).staInfo q).hwaddr
      rw [hlinks, rtwFreeStainfo_hwaddr]
      exact wf.table.free hashed _
    · show ListsWf (rtwFreeStainfo h.ap.stapriv p).links
      rw [hlinks]
      exact wf.lists.free unlisted _
    · have hasoc : (rtwFreeStainfo h.ap.stapriv p).asocList = h.ap.stapriv.asocList :=
        congrArg TableLinks.asocList hlinks
      obtain ⟨aid, hinfo⟩ := rtwFreeStainfo_staInfo h.ap.stapriv p
      show AuthWf (rtwFreeStainfo h.ap.stapriv p).staInfo (rtwFreeStainfo h.ap.stapriv p).asocList _
      rw [hasoc, hinfo]
      refine wf.auth.edit p _ fun hi => wf.auth.authed p ?_
      exact @authed_clearState _ _FW_LINKED hi
  | authAdd p hashed unlisted unassoc =>
    exact ⟨wf.table.relink rfl rfl, wf.lists.authAdd hashed unlisted unassoc, wf.auth⟩
  | authDel p listed => exact ⟨wf.table.relink rfl rfl, wf.lists.authDel listed, wf.auth⟩
  | asocAdd p hashed unlisted unauth accepted aid =>
    refine ⟨wf.table.relink rfl rfl, wf.lists.asocAdd hashed unlisted unauth, wf.auth.relist ?_⟩
    intro q hq
    cases List.mem_append.mp hq with
    | inl hold => exact wf.auth.asocAccepted q hold
    | inr hnew => rw [List.mem_singleton.mp hnew]; exact accepted
  | asocDel p listed =>
    refine ⟨wf.table.relink rfl rfl, wf.lists.asocDel listed, wf.auth.relist ?_⟩
    intro q hq
    exact wf.auth.asocAccepted q (mem_listDelInit.mp hq).1
  | takeAid p stapriv hashed aid taken =>
    obtain ⟨-, rfl⟩ := assocAid_some aid taken
    refine ⟨?_, wf.lists, wf.auth.edit p _ (wf.auth.authed p)⟩
    have haddr := setInfo_hwaddr h.ap p ((h.ap.staInfo p).setAid (firstFreeAid h.ap.stapriv)) rfl
    show TableWf _ fun q =>
      ((h.ap.setInfo p ((h.ap.staInfo p).setAid (firstFreeAid h.ap.stapriv))).staInfo q).hwaddr
    rw [haddr]
    exact wf.table
  | forgetAid p permit =>
    refine ⟨?_, wf.lists, wf.auth.edit p _ (wf.auth.authed p)⟩
    rw [setInfo_hwaddr h.ap p ((h.ap.staInfo p).setAid 0) rfl]
    exact wf.table
  | caps p x hashed moved =>
    refine ⟨?_, wf.lists, wf.auth.edit p x.1 fun hi => wf.auth.authed p ?_⟩
    · show TableWf _ fun q => ((h.ap.setInfo p x.1).staInfo q).hwaddr
      rw [setInfo_hwaddr _ _ _ moved.hwaddr]
      exact wf.table
    · have hstate : x.1.state = (h.ap.staInfo p).state := moved.state
      unfold StaInfo.authed StaInfo.inState at hi ⊢
      rwa [hstate] at hi
  | tune ap same =>
    have hinfo : ∀ q, ap.staInfo q = h.ap.staInfo q := fun q => congrFun same.staInfo q
    have hasoc : ap.stapriv.asocList = h.ap.stapriv.asocList := congrArg TableLinks.asocList same.links
    refine ⟨?_, ?_, ?_⟩
    · show TableWf ap.stapriv.links fun q => (ap.staInfo q).hwaddr
      rw [same.links]
      simp only [hinfo]
      exact wf.table
    · show ListsWf ap.stapriv.links
      rw [same.links]
      exact wf.lists
    · show AuthWf ap.stapriv.staInfo ap.stapriv.asocList h.accepted
      rw [same.staInfo, hasoc]
      exact wf.auth

theorem ApHistory.Wf.run {P : Permits} {h h' : ApHistory} (wf : h.Wf) (run : TableRun P h h') : h'.Wf :=
  LoopRun.run_invariant (fun _ _ hwf step => hwf.step step) run wf

end Rtl8723au
