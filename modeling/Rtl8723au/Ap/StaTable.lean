import Rtl8723au.Ap.Handlers

/-! The places of the entries of the station table: when every entry is in exactly one of them, and how
an entry is lost or an address gets two. -/
namespace Rtl8723au
open Relation
set_option autoImplicit false

/-! ## The invariant -/

/-- Every entry is in the free queue, or in the bucket of its address, and nowhere else; no two hashed
entries have one address. -/
structure StaTable (sp : StaPriv) : Prop where
  freeOnce : sp.freeStaQueue.Nodup
  bucketOnce : ∀ index, (sp.staHash index).Nodup
  bucket : ∀ index p, p ∈ sp.staHash index → index = wifiMacHash (sp.staInfo p).hwaddr
  place : ∀ p, p ∈ sp.freeStaQueue ↔ ¬ sp.Hashed p
  asocStaCount : sp.asocStaCount = ∑ index, ((sp.staHash index).length : ℤ)
  distinct : ∀ p q, sp.Hashed p → sp.Hashed q → (sp.staInfo p).hwaddr = (sp.staInfo q).hwaddr → p = q
  lookup : ∀ addr p, rtwGetStainfo sp (some addr) = some p ↔
    sp.Hashed p ∧ (sp.staInfo p).hwaddr = if isMulticastEtherAddr addr then bcAddr else addr

/-- What is added to `TableWf`. -/
structure TableFull (l : TableLinks) (addr : StaId → MacAddr) : Prop where
  everywhere : ∀ p, p ∈ l.freeStaQueue ∨ l.Hashed p
  asocStaCount : l.asocStaCount = ∑ index, ((l.staHash index).length : ℤ)
  distinct : ∀ p q, l.Hashed p → l.Hashed q → addr p = addr q → p = q

theorem StaTable.intro {sp : StaPriv} (wf : TableWf sp.links fun p => (sp.staInfo p).hwaddr)
    (full : TableFull sp.links fun p => (sp.staInfo p).hwaddr) : StaTable sp where
  freeOnce := wf.freeNodup
  bucketOnce := wf.hashNodup
  bucket := wf.bucket
  place p := by
    constructor
    · rintro hfree ⟨index, hp⟩
      exact wf.freeUnhashed p hfree index hp
    · intro hnot
      cases full.everywhere p with
      | inl hfree => exact hfree
      | inr hashed => exact absurd hashed hnot
  asocStaCount := full.asocStaCount
  distinct := full.distinct
  lookup addr p := by
    let key := if isMulticastEtherAddr addr then bcAddr else addr
    have hdef : rtwGetStainfo sp (some addr) =
        (sp.staHash (wifiMacHash key)).find? fun psta => (sp.staInfo psta).hwaddr == key := rfl
    rw [hdef]
    constructor
    · intro hfind
      have hkey : ((sp.staInfo p).hwaddr == key) = true := by
        have hfound := List.find?_some hfind
        exact hfound
      exact ⟨⟨_, List.mem_of_find?_eq_some hfind⟩, by simpa using hkey⟩
    · rintro ⟨hashed, hkey⟩
      have hkey' : (sp.staInfo p).hwaddr = key := hkey
      have hmem : p ∈ sp.staHash (wifiMacHash key) := by
        obtain ⟨index, hp⟩ := hashed
        have hindex := wf.bucket index p hp
        rw [hkey'] at hindex
        exact hindex ▸ hp
      cases hfind : (sp.staHash (wifiMacHash key)).find? fun psta => (sp.staInfo psta).hwaddr == key with
      | none =>
        have hnone := List.find?_eq_none.mp hfind p hmem
        simp [hkey'] at hnone
      | some q =>
        have hq : ((sp.staInfo q).hwaddr == key) = true := by
          have hfound := List.find?_some hfind
          exact hfound
        have hq' : (sp.staInfo q).hwaddr = key := by simpa using hq
        have hsame := full.distinct q p ⟨_, List.mem_of_find?_eq_some hfind⟩ hashed (hq'.trans hkey'.symm)
        rw [hsame]

/-! ## One operation -/

namespace TableFull
variable {l : TableLinks} {addr : StaId → MacAddr} {p : StaId}

theorem length_update (f : Fin 32 → List StaId) (i : Fin 32) (l : List StaId) :
    ∑ index, ((Function.update f i l index).length : ℤ) =
      ∑ index, ((f index).length : ℤ) + ((l.length : ℤ) - (f i).length) := by
  have hupdate : ∀ index, ((Function.update f i l index).length : ℤ) =
      Function.update (fun index => ((f index).length : ℤ)) i (l.length : ℤ) index := by
    intro index
    by_cases hi : index = i
    · rw [hi, Function.update_self, Function.update_self]
    · rw [Function.update_of_ne hi, Function.update_of_ne hi]
  simp only [hupdate]
  rw [Finset.sum_update_of_mem (Finset.mem_univ i)]
  have hsplit := Finset.sum_sdiff (f := fun index => ((f index).length : ℤ))
    (Finset.subset_univ ({i} : Finset (Fin 32)))
  rw [Finset.sum_singleton] at hsplit
  omega

theorem alloc (wf : TableWf l addr) (full : TableFull l addr) {rest : List StaId}
    (hfree : l.freeStaQueue = p :: rest) (hwaddr : MacAddr)
    (hnew : ∀ q, l.Hashed q → addr q ≠ hwaddr) :
    TableFull (l.alloc p rest (wifiMacHash hwaddr)) (Function.update addr p hwaddr) := by
  have hp : ¬ l.Hashed p := by
    rintro ⟨index, hmem⟩
    exact wf.freeUnhashed p (by simp [hfree]) index hmem
  have haddr : ∀ q, l.Hashed q → Function.update addr p hwaddr q = addr q := by
    intro q hq
    have hne : q ≠ p := fun e => hp (e ▸ hq)
    exact Function.update_of_ne hne _ _
  refine ⟨?_, ?_, ?_⟩
  · intro q
    cases full.everywhere q with
    | inl hq =>
      rw [hfree] at hq
      cases List.mem_cons.mp hq with
      | inl e => exact Or.inr (TableLinks.hashed_alloc.mpr (Or.inr e))
      | inr hrest => exact Or.inl hrest
    | inr hq => exact Or.inr (TableLinks.hashed_alloc.mpr (Or.inl hq))
  · show l.asocStaCount + 1 = _
    rw [TableLinks.alloc_staHash, length_update, full.asocStaCount, List.length_append]
    simp
  · intro q r hq hr e
    cases TableLinks.hashed_alloc.mp hq with
    | inl hq =>
      rw [haddr q hq] at e
      cases TableLinks.hashed_alloc.mp hr with
      | inl hr =>
        rw [haddr r hr] at e
        exact full.distinct q r hq hr e
      | inr hr =>
        rw [hr, Function.update_self] at e
        exact absurd e (hnew q hq)
    | inr hq =>
      rw [hq, Function.update_self] at e
      cases TableLinks.hashed_alloc.mp hr with
      | inl hr =>
        rw [haddr r hr] at e
        exact absurd e.symm (hnew r hr)
      | inr hr => rw [hq, hr]

theorem free (wf : TableWf l addr) (full : TableFull l addr) (hashed : l.Hashed p) :
    TableFull (l.free p true) addr := by
  obtain ⟨i, hi⟩ := hashed
  have honly : ∀ index, index ≠ i → p ∉ l.staHash index := by
    intro index hne hp
    exact hne ((wf.bucket index p hp).trans (wf.bucket i p hi).symm)
  have hhash : (l.free p true).staHash = Function.update l.staHash i (listDelInit (l.staHash i) p) := by
    funext index
    show listDelInit (l.staHash index) p = _
    by_cases hne : index = i
    · rw [hne, Function.update_self]
    · rw [Function.update_of_ne hne, listDelInit_of_not_mem (honly index hne)]
  refine ⟨?_, ?_, ?_⟩
  · intro q
    show q ∈ l.freeStaQueue ++ [p] ∨ _
    by_cases hq : q = p
    · rw [hq]
      exact Or.inl (List.mem_append_right _ (List.mem_singleton_self p))
    · cases full.everywhere q with
      | inl h => exact Or.inl (List.mem_append_left _ h)
      | inr h => exact Or.inr (TableLinks.hashed_free.mpr ⟨h, hq⟩)
  · show l.asocStaCount - 1 = _
    have hlen := length_listDelInit (wf.hashNodup i) hi
    rw [hhash, length_update, full.asocStaCount]
    omega
  · intro q r hq hr e
    exact full.distinct q r (TableLinks.hashed_free.mp hq).1 (TableLinks.hashed_free.mp hr).1 e

theorem relink {l' : TableLinks} (full : TableFull l addr) (hhash : l'.staHash = l.staHash)
    (hfree : l'.freeStaQueue = l.freeStaQueue) (hcount : l'.asocStaCount = l.asocStaCount) :
    TableFull l' addr := by
  have hhashed : ∀ q, l'.Hashed q ↔ l.Hashed q := by
    intro q
    unfold TableLinks.Hashed
    rw [hhash]
  refine ⟨?_, ?_, ?_⟩
  · intro q
    rw [hfree, hhashed]
    exact full.everywhere q
  · rw [hcount, hhash]
    exact full.asocStaCount
  · intro q r hq hr e
    exact full.distinct q r ((hhashed q).mp hq) ((hhashed r).mp hr) e

end TableFull

/-- A freed station has an identifier below 32, and an allocated address is new. -/
def placePermits : Permits where
  free a psta := (a.staInfo psta).aid ≤ 31
  alloc a hwaddr := ∀ p, a.stapriv.Hashed p → (a.staInfo p).hwaddr ≠ hwaddr

theorem TableFull.step {h h' : ApHistory} (wf : h.Wf)
    (full : TableFull h.ap.stapriv.links fun p => (h.ap.staInfo p).hwaddr)
    (step : TableStep placePermits h h') :
    TableFull h'.ap.stapriv.links fun p => (h'.ap.staInfo p).hwaddr := by
  have hsetInfo : ∀ (p : StaId) (info : StaInfo), info.hwaddr = (h.ap.staInfo p).hwaddr →
      TableFull h.ap.stapriv.links fun q => ((h.ap.setInfo p info).staInfo q).hwaddr := by
    intro p info haddr
    rw [setInfo_hwaddr _ _ _ haddr]
    exact full
  cases step with
  | edit p info same aid authed => exact hsetInfo p info same.hwaddr
  | accept p info record same aid valid => exact hsetInfo p info same.hwaddr
  | alloc hwaddr p stapriv permit missing allocated =>
    obtain ⟨rest, hfree, rfl⟩ := rtwAllocStainfo_some allocated
    have haddr : (fun q => (Function.update h.ap.stapriv.staInfo p (allocInfo hwaddr) q).hwaddr) =
        Function.update (fun q => (h.ap.staInfo q).hwaddr) p hwaddr := by
      funext q
      by_cases he : q = p
      · rw [he, Function.update_self, Function.update_self]
        rfl
      · rw [Function.update_of_ne he, Function.update_of_ne he]
        rfl
    show TableFull _ fun q => (Function.update h.ap.stapriv.staInfo p (allocInfo hwaddr) q).hwaddr
    rw [haddr]
    exact full.alloc wf.table hfree hwaddr permit
  | free p permit hashed unlisted =>
    have hlinks := rtwFreeStainfo_links h.ap.stapriv p
    have hreturned : decide ((h.ap.stapriv.staInfo p).aid ≤ 31) = true := decide_eq_true permit
    rw [hreturned] at hlinks
    show TableFull (rtwFreeStainfo h.ap.stapriv p).links fun q =>
      ((rtwFreeStainfo h.ap.stapriv p).staInfo q).hwaddr
    rw [hlinks, rtwFreeStainfo_hwaddr]
    exact full.free wf.table hashed
  | authAdd p hashed unlisted unassoc => exact full.relink rfl rfl rfl
  | authDel p listed => exact full.relink rfl rfl rfl
  | asocAdd p hashed unlisted unauth accepted aid => exact full.relink rfl rfl rfl
  | asocDel p listed => exact full.relink rfl rfl rfl
  | takeAid p stapriv hashed aid taken =>
    obtain ⟨-, rfl⟩ := assocAid_some aid taken
    exact hsetInfo p ((h.ap.staInfo p).setAid (firstFreeAid h.ap.stapriv)) rfl
  | forgetAid p permit => exact hsetInfo p ((h.ap.staInfo p).setAid 0) rfl
  | caps p x hashed moved => exact hsetInfo p x.1 moved.hwaddr
  | tune ap same =>
    have hinfo : ∀ q, ap.staInfo q = h.ap.staInfo q := fun q => congrFun same.staInfo q
    show TableFull ap.stapriv.links fun q => (ap.staInfo q).hwaddr
    rw [same.links]
    simp only [hinfo]
    exact full

theorem TableFull.run {h h' : ApHistory} (wf : h.Wf)
    (full : TableFull h.ap.stapriv.links fun p => (h.ap.staInfo p).hwaddr)
    (run : TableRun placePermits h h') :
    TableFull h'.ap.stapriv.links fun p => (h'.ap.staInfo p).hwaddr := by
  have hboth := LoopRun.run_invariant (r := TableStep placePermits)
    (I := fun s => s.Wf ∧ TableFull s.ap.stapriv.links fun p => (s.ap.staInfo p).hwaddr)
    (fun s s' hs step => ⟨hs.1.step step, hs.2.step hs.1 step⟩) run ⟨wf, full⟩
  exact hboth.2

/-! ## Runs of events -/

theorem start_tableFull (config : RtwAdapter) :
    TableFull (ApHistory.start config).ap.stapriv.links
      fun p => ((ApHistory.start config).ap.staInfo p).hwaddr := by
  let init : ApHistory := { ap := { config with stapriv := rtwInitStaPriv } }
  let bcmc : ApHistory := ⟨init.ap.setStapriv bcmcTable, Function.update init.accepted 0 none⟩
  have hinit : TableFull init.ap.stapriv.links fun p => (init.ap.staInfo p).hwaddr :=
    { everywhere := fun p => Or.inl (List.mem_finRange p)
      asocStaCount := by
        show (0 : ℤ) = ∑ _index : Fin 32, (([] : List StaId).length : ℤ)
        simp
      distinct := by
        rintro p q ⟨index, hp⟩
        cases hp }
  have halloc : TableStep placePermits init bcmc :=
    .alloc init bcAddr 0 bcmcTable (by rintro p ⟨index, hp⟩; cases hp) rfl rtwAllocStainfo_init
  have hwf : bcmc.Wf := (wf_init config).step halloc
  have hfull := TableFull.step (h := init) (wf_init config) hinit halloc
  have hedit := TableStep.edit (P := placePermits) bcmc 0 { bcmcTable.staInfo 0 with macId := 1 }
    ⟨rfl, fun cap => by cases cap <;> rfl⟩ rfl (hwf.auth.authed 0)
  have hstart := TableFull.step (h := bcmc) hwf hfull hedit
  exact hstart

def openAp : RtwAdapter := { fwState := WIFI_AP_STATE ||| WIFI_ASOC_STATE, mlmeinfoState := WIFI_FW_AP_STATE }

def sampleAddr : MacAddr := #v[0x02, 0, 0, 0, 0, 1]

end Rtl8723au
