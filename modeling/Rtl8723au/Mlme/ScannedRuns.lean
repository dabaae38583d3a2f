import Rtl8723au.Mlme.ScannedTable

/-! Runs of the table of scanned networks. A run is clean when no scan result is written over an entry that is
fixed, no record is written that is the network of another entry, and no join times out while an entry is
fixed. -/
namespace Rtl8723au
open Intrusive
set_option autoImplicit false

namespace Scanned

variable {s s' : Scanned} {n : NetId} {mac : Option MacAddr} {target : WlanBssidEx}

/-! ## Marking, freeing -/

theorem rtwFindNetwork_mac {addr : MacAddr} (h : s.rtwFindNetwork addr = some n) :
    n ∈ s.queue .scannedQueue ∧ (s.entry n).network.macAddress = addr := by
  unfold rtwFindNetwork at h
  split at h
  · exact absurd h.symm (Option.some_ne_none _)
  · exact ⟨List.mem_of_find?_eq_some h, by simpa using List.find?_some h⟩

theorem setFixed_self (s : Scanned) (n : NetId) (f : Bool) : (s.setFixed n f).fixed n = f := by
  rw [fixed, setFixed, setEntry_self]

theorem setFixed_other {m : NetId} (s : Scanned) (f : Bool) (hne : m ≠ n) :
    (s.setFixed n f).fixed m = s.fixed m := by
  rw [fixed, setFixed, setEntry_other s _ hne, fixed]

theorem setFixed_network (s : Scanned) (n m : NetId) (f : Bool) :
    ((s.setFixed n f).entry m).network = (s.entry m).network := by
  by_cases hm : m = n
  · rw [hm, setFixed, setEntry_self]
  · rw [setFixed, setEntry_other s _ hm]

theorem setFixed_netKey (s : Scanned) (n m : NetId) (f : Bool) : (s.setFixed n f).netKey m = s.netKey m :=
  congrArg WlanBssidEx.netKey (setFixed_network s n m f)

theorem Table.setFixed (h : s.Table) (f : Bool) (hn : n ∈ s.queue .scannedQueue) : (s.setFixed n f).Table :=
  h.rewrite _ (fun _ => hn) rfl

theorem Clears.unfix (h : s.Table) (hn : n ∈ s.queue .scannedQueue)
    (hmac : some (s.entry n).network.macAddress = mac) : Clears mac s (s.setFixed n false) where
  table := h.setFixed false hn
  kept m hf := by
    by_cases hm : m = n
    · subst hm
      exact Or.inr ⟨setFixed_self s m false, hmac⟩
    · have hf' : (s.setFixed n false).fixed m = true := (setFixed_other s false hm).trans hf
      exact Or.inl ⟨hf', h.scanned m hf, setFixed_netKey s n m false⟩
  unmarked m hf := by
    by_cases hm : m = n
    · subst hm
      exact setFixed_self s m false
    · exact (setFixed_other s false hm).trans hf

theorem Clears.putBack (h : s.Table) (hn : n ∈ s.queue .scannedQueue) (hf : s.fixed n = false) :
    Clears mac s (s.putBack n) :=
  of_table (h.putBack hn hf) (fun _ => rfl) fun _ _ => rfl

theorem Clears.unmarkFound (h : s.Table) (addr : MacAddr) :
    Clears (some addr) s (s.markFixed (s.rtwFindNetwork addr) false) := by
  cases hfind : s.rtwFindNetwork addr with
  | none => exact of_same h ⟨rfl, rfl, rfl⟩
  | some n =>
    obtain ⟨hn, hmac⟩ := rtwFindNetwork_mac hfind
    exact unfix h hn (congrArg some hmac)

theorem markFixed_queue (s : Scanned) (found : Option NetId) (f : Bool) : (s.markFixed found f).queue = s.queue := by
  cases found <;> rfl

theorem Clears.freeNolock (h : s.Table) (found : Option NetId)
    (hfound : ∀ n, found = some n → n ∈ s.queue .scannedQueue) : Clears mac s (s.rtwFreeNetworkNolock found) := by
  unfold rtwFreeNetworkNolock
  cases found with
  | none => exact of_same h ⟨rfl, rfl, rfl⟩
  | some n =>
    dsimp only
    split
    · exact of_same h ⟨rfl, rfl, rfl⟩
    · rename_i hfixed
      exact putBack h (hfound n rfl) (Bool.eq_false_iff.mpr hfixed)

theorem Clears.removeFound (h : s.Table) (addr : MacAddr) :
    Clears (some addr) s ((s.markFixed (s.rtwFindNetwork addr) false).rtwFreeNetworkNolock (s.rtwFindNetwork addr)) := by
  have hmark := unmarkFound h addr
  refine hmark.trans (freeNolock hmark.table _ fun n hn => ?_)
  rw [markFixed_queue]
  exact (rtwFindNetwork_mac hn).1

/-! ## Freeing a whole queue -/

theorem Clears.freeLoop (f : Scanned → NetId → Scanned) (entry : NetId → WlanNetwork)
    (hf : ∀ t n, t.entry = entry → f t n = t ∨ (t.fixed n = false ∧ f t n = t.putBack n)) (l : List NetId)
    (hnodup : l.Nodup) (s : Scanned) (h : s.Table) (hentry : s.entry = entry)
    (hl : ∀ n ∈ l, n ∈ s.queue .scannedQueue) : Clears mac s (l.foldl f s) := by
  induction l generalizing s with
  | nil => exact of_same h ⟨rfl, rfl, rfl⟩
  | cons n rest ih =>
    rw [List.nodup_cons] at hnodup
    rw [List.foldl_cons]
    rcases hf s n hentry with hsame | ⟨hfixed, hback⟩
    · rw [hsame]
      exact ih hnodup.2 s h hentry fun m hm => hl m (List.mem_cons_of_mem _ hm)
    · have hclears : Clears mac s (s.putBack n) := putBack h (hl n List.mem_cons_self) hfixed
      rw [hback]
      refine hclears.trans (ih hnodup.2 _ hclears.table hentry fun m hm => ?_)
      exact h.mem_putBack.mpr (Or.inl ⟨hl m (List.mem_cons_of_mem _ hm), fun heq => hnodup.1 (heq ▸ hm)⟩)

theorem Clears.freeNetworkQueue (hz : ℕ) (h : s.Table) (isfreeall : Bool) (now : NetId → BitVec 32) :
    Clears mac s (s.rtwFreeNetworkQueue hz isfreeall now) := by
  refine freeLoop _ s.entry (fun t n _ => ?_) _ (h.once.nodup _) s h rfl fun n hn => hn
  unfold rtwFreeNetwork
  by_cases hfixed : (t.entry n).fixed = true
  · exact Or.inl (if_pos hfixed)
  · rw [if_neg hfixed]
    exact (em _).imp (fun hyoung => if_pos hyoung) fun hold => ⟨Bool.eq_false_iff.mpr hfixed, if_neg hold⟩

/-- `free_scanqueue` while no entry is fixed. -/
theorem Clears.freeScanqueue (h : s.Table) (hfixed : ∀ n, s.fixed n = false) : Clears mac s s.freeScanqueue :=
  freeLoop _ s.entry (fun t n hentry => Or.inr ⟨by rw [fixed, hentry]; exact hfixed n, rfl⟩) _ (h.once.nodup _) s h rfl
    fun n hn => hn

/-! ## Scan results -/

theorem older_mem {o : NetId} {oldest : Option NetId} (h : s.older oldest n = some o) : o = n ∨ oldest = some o := by
  unfold older at h
  cases oldest with
  | none => exact Or.inl (Option.some.inj h).symm
  | some o' =>
    dsimp only at h
    split at h
    · exact Or.inl (Option.some.inj h).symm
    · exact Or.inr h

def oldestScanned (s : Scanned) : Option NetId := (s.queue .scannedQueue).foldl s.older none

theorem scanLoop_none (l : List NetId) (oldest : Option NetId) (h : (s.scanLoop target l oldest).1 = none) :
    (s.scanLoop target l oldest).2 = l.foldl s.older oldest ∧
      ∀ n ∈ l, (s.entry n).network.isSameNetwork target = false := by
  induction l generalizing oldest with
  | nil => exact ⟨rfl, fun _ hn => absurd hn List.not_mem_nil⟩
  | cons n rest ih =>
    by_cases hsame : (s.entry n).network.isSameNetwork target = true
    · rw [scanLoop, if_pos hsame] at h
      exact absurd h (Option.some_ne_none _)
    · rw [scanLoop, if_neg hsame] at h ⊢
      obtain ⟨hlast, hrest⟩ := ih _ h
      refine ⟨hlast, fun m hm => ?_⟩
      rcases List.mem_cons.mp hm with rfl | hm
      · exact Bool.eq_false_iff.mpr hsame
      · exact hrest m hm

theorem scanLoop_some (l : List NetId) (oldest : Option NetId) (h : (s.scanLoop target l oldest).1 = some n) :
    n ∈ l ∧ (s.entry n).network.isSameNetwork target = true := by
  induction l generalizing oldest with
  | nil => exact absurd h.symm (Option.some_ne_none _)
  | cons m rest ih =>
    by_cases hsame : (s.entry m).network.isSameNetwork target = true
    · rw [scanLoop, if_pos hsame] at h
      obtain rfl := Option.some.inj h
      exact ⟨List.mem_cons_self, hsame⟩
    · rw [scanLoop, if_neg hsame] at h
      obtain ⟨hn, hsame⟩ := ih _ h
      exact ⟨List.mem_cons_of_mem _ hn, hsame⟩

/-- `rtw_get_oldest_wlan_network` finds an entry of the queue that is not fixed. -/
theorem rtwGetOldest_unfixed (h : s.rtwGetOldestWlanNetwork = some n) :
    n ∈ s.queue .scannedQueue ∧ s.fixed n = false := by
  have hloop : ∀ (l : List NetId) (oldest : Option NetId),
      l.foldl (fun oldest n => if (s.entry n).fixed then oldest else s.older oldest n) oldest = some n →
        (n ∈ l ∧ s.fixed n = false) ∨ oldest = some n := by
    intro l
    induction l with
    | nil => exact fun _ h => Or.inr h
    | cons m rest ih =>
      intro oldest h
      rcases ih _ h with ⟨hrest, hfixed⟩ | hnow
      · exact Or.inl ⟨List.mem_cons_of_mem _ hrest, hfixed⟩
      · dsimp only at hnow
        by_cases hfixed : (s.entry m).fixed = true
        · rw [if_pos hfixed] at hnow
          exact Or.inr hnow
        · rw [if_neg hfixed] at hnow
          rcases older_mem hnow with rfl | hbefore
          · exact Or.inl ⟨List.mem_cons_self, Bool.eq_false_iff.mpr hfixed⟩
          · exact Or.inr hbefore
  exact (hloop _ none h).resolve_right (Option.some_ne_none _).symm

/-- `update_network` does not make another network of its record. -/
theorem netKey_updateNetwork (s : Scanned) (dst src : WlanBssidEx) (updateIe : Bool) (h : dst.netKey = src.netKey) :
    (s.updateNetwork dst src updateIe).netKey = dst.netKey := by
  have hkey : (if updateIe then dst.copyBssid src else dst).netKey = dst.netKey := by
    cases updateIe with
    | false => rfl
    | true => exact WlanBssidEx.netKey_copyBssid dst src h
  exact hkey

/-! ## What a record is written over -/

/-- The entry that gets a scan result of a network that is not in the table. -/
def updateVictim (s : Scanned) : Option NetId :=
  match s.queue .freeBssPool with
  | [] => s.oldestScanned
  | pnetwork :: _ => some pnetwork

/-- The entry that gets the record of a cell of the station's own. -/
def createVictim (s : Scanned) : Option NetId :=
  match s.queue .freeBssPool with
  | [] => s.rtwGetOldestWlanNetwork
  | pwlan :: _ => some pwlan

/-- `_rtw_alloc_network`, the writing of the entry and its place at the end of the queue. -/
theorem takeIn_alloc (s : Scanned) (n : NetId) (e e' : WlanNetwork) :
    ({ ({ s.setEntry n e with queue := delInit s.queue n, numOfScanned := s.numOfScanned + 1 } : Scanned).setEntry n e'
        with queue := addTail (delInit s.queue n) .scannedQueue n } : Scanned) = s.takeIn n e' := by
  show ({ s with entry := Function.update (Function.update s.entry n e) n e', queue := _, numOfScanned := _ } : Scanned) = _
  rw [Function.update_idem]
  rfl

theorem Clears.update (h : s.Table) (now : BitVec 32)
    (clean : (∀ n ∈ s.queue .scannedQueue, (s.entry n).network.isSameNetwork target = false) →
      ∀ n, s.updateVictim = some n → s.fixed n = false ∧ s.NewTo n ((s.entry n).network.copyBssid target)) :
    Clears mac s (s.rtwUpdateScannedNetwork target now) := by
  have hnone : (s.scanLoop target (s.queue .scannedQueue) none).1 = none → _ := scanLoop_none _ _
  have hsome : ∀ n, (s.scanLoop target (s.queue .scannedQueue) none).1 = some n → _ := fun _ => scanLoop_some _ _
  unfold rtwUpdateScannedNetwork
  generalize s.scanLoop target (s.queue .scannedQueue) none = found at hnone hsome
  obtain ⟨same, oldest⟩ := found
  cases same with
  | some n =>
    obtain ⟨hn, hsame⟩ := hsome n rfl
    have hkey := netKey_updateNetwork s (s.entry n).network target
      (!(decide (target.ieLength < (s.entry n).network.ieLength) && target.reserved0 == 1))
      ((WlanBssidEx.isSameNetwork_iff _ _).mp hsame)
    exact setEntry h _ rfl (fun hn => h.newTo_of_key hn hkey) fun _ => hkey
  | none =>
    obtain ⟨hlast, hnew⟩ := hnone rfl
    have hvictim := clean hnew
    unfold updateVictim at hvictim
    dsimp only
    cases hpool : s.queue .freeBssPool with
    | nil =>
      rw [hpool] at hvictim
      rw [if_pos rfl]
      cases oldest with
      | none => exact of_same h ⟨rfl, rfl, rfl⟩
      | some n =>
        obtain ⟨hfixed, hnew⟩ := hvictim n hlast.symm
        have hkey := ((s.entry n).network.copyBssid target).netKey_noQuality
        exact setEntry h _ hfixed.symm (fun _ => hnew.congr hkey) fun hf => absurd (hf.symm.trans hfixed) (by decide)
    | cons n rest =>
      rw [hpool] at hvictim
      obtain ⟨-, hnew⟩ := hvictim n rfl
      have hkey := ((s.entry n).network.copyBssid target).netKey_noQuality
      have hn : n ∈ s.queue .freeBssPool := hpool ▸ List.mem_cons_self
      rw [if_neg (List.cons_ne_nil n rest)]
      unfold rtwAllocNetwork
      rw [hpool]
      dsimp only
      rw [takeIn_alloc, setEntry_self]
      exact takeIn h _ hn rfl (hnew.congr hkey)

theorem Clears.createbss (h : s.Table) (pnetwork : WlanBssidEx) (psta : Bool) (now : BitVec 32)
    (clean : s.checkFwstate WIFI_AP_STATE = false →
      ∀ n, s.createVictim = some n → s.NewTo n ((s.entry n).network.copyBssid pnetwork)) :
    Clears mac s (s.rtwCreatebssCmdCallback pnetwork psta now) := by
  unfold rtwCreatebssCmdCallback
  by_cases hap : s.checkFwstate WIFI_AP_STATE = true
  · rw [if_pos hap]
    cases psta <;> exact of_same h ⟨rfl, rfl, rfl⟩
  · rw [if_neg hap]
    have hvictim := clean (Bool.eq_false_iff.mpr hap)
    unfold createVictim at hvictim
    unfold rtwAllocNetwork
    cases hpool : s.queue .freeBssPool with
    | nil =>
      rw [hpool] at hvictim
      dsimp only at hvictim ⊢
      cases holdest : s.rtwGetOldestWlanNetwork with
      | none => exact of_same h ⟨rfl, rfl, rfl⟩
      | some n =>
        obtain ⟨hn, hfixed⟩ := rtwGetOldest_unfixed holdest
        have hnew := hvictim n holdest
        let e : WlanNetwork :=
          { s.entry n with network := (s.entry n).network.copyBssid pnetwork, lastScanned := now.setWidth 64 }
        have hwritten : Clears mac s (s.setEntry n e) :=
          setEntry h e rfl (fun _ => hnew) fun hf => absurd (hf.symm.trans hfixed) (by decide)
        refine hwritten.trans (of_same hwritten.table ⟨?_, rfl, rfl⟩)
        dsimp only [clrFwstate]
        rw [setEntry_self]
        exact Function.update_idem ..
    | cons n rest =>
      rw [hpool] at hvictim
      have hnew := hvictim n rfl
      have hn : n ∈ s.queue .freeBssPool := hpool ▸ List.mem_cons_self
      let e : WlanNetwork :=
        { network := (s.entry n).network.copyBssid pnetwork, fixed := false, lastScanned := now.setWidth 64 }
      have hwritten : Clears mac s (s.takeIn n e) := takeIn h e hn rfl hnew
      refine hwritten.trans (of_same hwritten.table ⟨?_, rfl, rfl⟩)
      dsimp only [clrFwstate]
      rw [setEntry_self]
      exact Function.update_idem ..

/-! ## Joins and disconnects -/

theorem Steps.mark (h : Steps mac s s') (hn : n ∈ s'.queue .scannedQueue)
    (hmac : some (s.entry n).network.macAddress ≠ mac) : Steps mac s (s'.setFixed n true) where
  table := h.table.setFixed true hn
  kept m hf := by
    rcases h.kept m hf with hkept | ⟨hgone, hm⟩
    · refine Or.inl ⟨?_, hkept.scanned, (setFixed_netKey s' n m true).trans hkept.same⟩
      by_cases hmn : m = n
      · subst hmn
        exact setFixed_self s' m true
      · exact (setFixed_other s' true hmn).trans hkept.fixed
    · have hmn : m ≠ n := by
        rintro rfl
        exact hmac hm
      exact Or.inr ⟨(setFixed_other s' true hmn).trans hgone, hm⟩

/-- The entry of the address `addr` is marked. -/
theorem Steps.markFound (h : Steps mac s s') {addr : MacAddr}
    (hnetwork : ∀ n, (s'.entry n).network = (s.entry n).network) (hmac : some addr ≠ mac) :
    Steps mac s (s'.markFixed (s'.rtwFindNetwork addr) true) := by
  cases hfind : s'.rtwFindNetwork addr with
  | none => exact h
  | some n =>
    obtain ⟨hn, haddr⟩ := rtwFindNetwork_mac hfind
    refine h.mark hn ?_
    rwa [← hnetwork n, haddr]

theorem markFixed_network (s : Scanned) (found : Option NetId) (f : Bool) (n : NetId) :
    ((s.markFixed found f).entry n).network = (s.entry n).network := by
  cases found with
  | none => rfl
  | some m => exact setFixed_network s m n f

theorem Steps.refl (h : s.Table) : Steps mac s s := (Clears.of_same h ⟨rfl, rfl, rfl⟩).toSteps

/-- The address that a station leaves when it is connected and joins another one. -/
def switchMac (s : Scanned) (pnetwork : WlanBssidEx) : Option MacAddr :=
  if s.checkFwstate WIFI_ASOC_STATE ∧ pnetwork.macAddress ≠ s.curNetwork.macAddress
  then some s.curNetwork.macAddress else none

theorem Steps.joinTarget (h : s.Table) (pnetwork : WlanBssidEx) :
    Steps (s.switchMac pnetwork) s (s.joinTarget pnetwork).2 := by
  unfold Scanned.joinTarget
  by_cases hlinked : s.checkFwstate WIFI_ASOC_STATE = true
  · by_cases hsame : pnetwork.macAddress = s.curNetwork.macAddress
    · have hcond : (s.checkFwstate WIFI_ASOC_STATE && pnetwork.macAddress == s.curNetwork.macAddress) = true := by
        rw [hlinked, hsame, beq_self_eq_true, Bool.and_self]
      dsimp only
      rw [if_pos hcond]
      exact refl h
    · have hcond : ¬ (s.checkFwstate WIFI_ASOC_STATE && pnetwork.macAddress == s.curNetwork.macAddress) = true := by
        simpa [hlinked] using hsame
      have hmac : s.switchMac pnetwork = some s.curNetwork.macAddress := if_pos ⟨hlinked, hsame⟩
      have hclear := Clears.unmarkFound h s.curNetwork.macAddress
      rw [hmac]
      dsimp only
      rw [if_neg hcond, if_pos hlinked]
      split
      · exact hclear.toSteps.markFound (markFixed_network s _ false) fun heq => hsame (Option.some.inj heq)
      · exact hclear.toSteps
  · have hcond : ¬ (s.checkFwstate WIFI_ASOC_STATE && pnetwork.macAddress == s.curNetwork.macAddress) = true := by
      simp [hlinked]
    have hmac : s.switchMac pnetwork = none := if_neg fun hs => hlinked hs.1
    rw [hmac]
    dsimp only
    rw [if_neg hcond, if_neg hlinked]
    split
    · exact (refl h).markFound (fun _ => rfl) (Option.some_ne_none _)
    · exact refl h

/-- The address whose entry an event takes the mark from: the one of the current network, when it disconnects
or another network is joined. -/
def disconnectMac (s : Scanned) : Event → Option MacAddr
  | .joinbss joinRes pnetwork _ =>
    if 0 < joinRes ∧ s.checkFwstate WIFI_UNDER_LINKING then s.switchMac pnetwork else none
  | .freeAssocResources _ => some s.curNetwork.macAddress
  | .stadel _ _ => some s.curNetwork.macAddress
  | _ => none

theorem Steps.joinbss (h : s.Table) (joinRes : ℤ) (pnetwork : WlanBssidEx) (updated : Bool) :
    Steps (s.disconnectMac (.joinbss joinRes pnetwork updated)) s
      (s.rtwJoinbssEventPrehandle joinRes pnetwork updated) := by
  unfold rtwJoinbssEventPrehandle
  by_cases hres : 0 < joinRes
  · rw [if_pos hres]
    by_cases hlinking : s.checkFwstate WIFI_UNDER_LINKING = true
    · have hmac : s.disconnectMac (.joinbss joinRes pnetwork updated) = s.switchMac pnetwork :=
        if_pos ⟨hres, hlinking⟩
      have htarget := joinTarget h pnetwork
      rw [hmac, if_pos hlinking]
      generalize s.joinTarget pnetwork = found at htarget
      obtain ⟨target, t⟩ := found
      cases target with
      | none => exact htarget
      | some n =>
        dsimp only at htarget ⊢
        split <;> exact htarget.congr ⟨rfl, rfl, rfl⟩
    · rw [if_neg hlinking]
      exact refl h
  · rw [if_neg hres]
    exact (refl h).congr ⟨rfl, rfl, rfl⟩

theorem Steps.stassoc (h : s.Table) (asocStaCount : ℕ) : Steps none s (s.rtwStassocEventCallback asocStaCount) := by
  unfold rtwStassocEventCallback
  split
  · exact ((refl h).markFound (fun _ => rfl) (Option.some_ne_none _)).congr ⟨rfl, rfl, rfl⟩
  · exact refl h

theorem Clears.freeAssocResources (h : s.Table) (asocStaCount : ℕ) :
    Clears (some s.curNetwork.macAddress) s (s.rtwFreeAssocResources asocStaCount) := by
  unfold rtwFreeAssocResources
  dsimp only
  split
  · exact removeFound h _
  · exact unmarkFound h _

theorem markFixed_cur (s : Scanned) (found : Option NetId) (f : Bool) :
    (s.markFixed found f).curNetwork = s.curNetwork := by
  cases found <;> rfl

theorem rtwFreeNetworkNolock_cur (s : Scanned) (found : Option NetId) :
    (s.rtwFreeNetworkNolock found).curNetwork = s.curNetwork := by
  unfold rtwFreeNetworkNolock
  cases found with
  | none => rfl
  | some n =>
    dsimp only
    split <;> rfl

theorem rtwFreeAssocResources_cur (s : Scanned) (asocStaCount : ℕ) :
    (s.rtwFreeAssocResources asocStaCount).curNetwork = s.curNetwork := by
  unfold rtwFreeAssocResources
  dsimp only
  split
  · rw [rtwFreeNetworkNolock_cur, markFixed_cur]
  · rw [markFixed_cur]

theorem Clears.removeCurrent {addr : MacAddr} (h : s.Table) (hcur : s.curNetwork.macAddress = addr) :
    Clears (some addr) s s.removeCurrent := hcur ▸ removeFound h _

theorem removeCurrent_cur (s : Scanned) : s.removeCurrent.curNetwork = s.curNetwork :=
  (rtwFreeNetworkNolock_cur _ _).trans (markFixed_cur s _ _)

theorem Clears.stadel (h : s.Table) (asocStaCount remaining : ℕ) :
    Clears (some s.curNetwork.macAddress) s (s.rtwStadelEventCallback asocStaCount remaining) := by
  unfold rtwStadelEventCallback
  split
  · exact of_same h ⟨rfl, rfl, rfl⟩
  dsimp only
  generalize hstation : (if s.checkFwstate WIFI_STATION_STATE = true then _ else s) = t
  have hfirst : Clears (some s.curNetwork.macAddress) s t ∧ t.curNetwork = s.curNetwork := by
    rw [← hstation]
    split
    · have hfree := freeAssocResources h asocStaCount
      have hcur := rtwFreeAssocResources_cur s asocStaCount
      have hlost : Clears (some s.curNetwork.macAddress) s (s.rtwFreeAssocResources asocStaCount).rtwIndicateDisconnect :=
        hfree.trans (of_same hfree.table ⟨rfl, rfl, rfl⟩)
      exact ⟨hlost.trans (removeCurrent hlost.table (congrArg (·.macAddress) hcur)), (removeCurrent_cur _).trans hcur⟩
    · exact ⟨of_same h ⟨rfl, rfl, rfl⟩, rfl⟩
  obtain ⟨hfirst, hcur⟩ := hfirst
  split
  · generalize hlast : (if (remaining == 1) = true then t.removeCurrent else t) = u
    have hsecond : Clears (some s.curNetwork.macAddress) s u := by
      rw [← hlast]
      split
      · exact hfirst.trans (removeCurrent hfirst.table (congrArg (·.macAddress) hcur))
      · exact hfirst
    split
    · exact hsecond.trans (of_same hsecond.table ⟨rfl, rfl, rfl⟩)
    · exact hsecond
  · exact hfirst

/-! ## Runs -/

/-- The step writes no scan result over a fixed entry and no record that is the network of another entry, and
it frees no fixed entry. -/
def Clean (s : Scanned) : Event → Prop
  | .update target _ => (∀ n ∈ s.queue .scannedQueue, (s.entry n).network.isSameNetwork target = false) →
    ∀ n, s.updateVictim = some n → s.fixed n = false ∧ s.NewTo n ((s.entry n).network.copyBssid target)
  | .createbss pnetwork _ _ => s.checkFwstate WIFI_AP_STATE = false →
    ∀ n, s.createVictim = some n → s.NewTo n ((s.entry n).network.copyBssid pnetwork)
  | .joinTimeout => ∀ n, s.fixed n = false
  | _ => True

def Along (hz : ℕ) (s : Scanned) : List Event → Prop
  | [] => True
  | event :: events => s.Clean event ∧ (s.step hz event).Along hz events

theorem Along.append {hz : ℕ} {before after : List Event} (h : s.Along hz (before ++ after)) :
    s.Along hz before ∧ (s.run hz before).Along hz after := by
  induction before generalizing s with
  | nil => exact ⟨trivial, h⟩
  | cons event rest ih =>
    obtain ⟨hrest, hafter⟩ := ih h.2
    exact ⟨⟨h.1, hrest⟩, hafter⟩

theorem Clears.timestamp (h : s.Table) (pnetwork : WlanBssidEx) : Clears mac s (s.surveyTimestamp pnetwork) := by
  unfold surveyTimestamp
  cases s.rtwFindNetwork pnetwork.macAddress with
  | none => exact of_same h ⟨rfl, rfl, rfl⟩
  | some n => exact setEntry h _ rfl (fun hn => h.newTo_of_key hn rfl) fun _ => rfl

theorem Table.step (h : s.Table) (hz : ℕ) (event : Event) (clean : s.Clean event) :
    Steps (s.disconnectMac event) s (s.step hz event) := by
  cases event with
  | update target now => exact (Clears.update h now clean).toSteps
  | surveyTimestamp pnetwork => exact (Clears.timestamp h pnetwork).toSteps
  | freeQueue isfreeall now => exact (Clears.freeNetworkQueue hz h isfreeall now).toSteps
  | createbss pnetwork psta now => exact (Clears.createbss h pnetwork psta now clean).toSteps
  | joinbss joinRes pnetwork updated => exact Steps.joinbss h joinRes pnetwork updated
  | stassoc asocStaCount => exact Steps.stassoc h asocStaCount
  | freeAssocResources asocStaCount => exact (Clears.freeAssocResources h asocStaCount).toSteps
  | stadel asocStaCount remaining => exact (Clears.stadel h asocStaCount remaining).toSteps
  | joinTimeout =>
    have hlost : Clears none s s.rtwIndicateDisconnect := Clears.of_same h ⟨rfl, rfl, rfl⟩
    exact (hlost.trans (Clears.freeScanqueue hlost.table clean)).toSteps
  | other fwState curNetwork signalStrength signalQual => exact (Steps.refl h).congr ⟨rfl, rfl, rfl⟩

theorem Table.run (h : s.Table) (hz : ℕ) (events : List Event) (along : s.Along hz events) :
    (s.run hz events).Table := by
  induction events generalizing s with
  | nil => exact h
  | cons event rest ih => exact ih (h.step hz event along.1).table along.2

theorem rtwInitMlmePriv_table : rtwInitMlmePriv.Table where
  once := by
    constructor
    · intro q
      cases q with
      | freeBssPool => exact List.nodup_finRange 128
      | scannedQueue => exact List.nodup_nil
    · intro n q q' hq hq'
      cases q with
      | scannedQueue => exact absurd hq List.not_mem_nil
      | freeBssPool =>
        cases q' with
        | scannedQueue => exact absurd hq' List.not_mem_nil
        | freeBssPool => rfl
  placed n := ⟨.freeBssPool, List.mem_finRange n⟩
  counted := rfl
  distinct _ hn := absurd hn List.not_mem_nil
  scanned _ hf := absurd hf Bool.false_ne_true

/-- The mark of the entry is taken in the run by a disconnect from its network, until which it is kept. -/
def Disconnected (hz : ℕ) (s : Scanned) (events : List Event) (n : NetId) : Prop :=
  ∃ before event after, events = before ++ event :: after ∧ s.Kept (s.run hz before) n ∧
    some ((s.run hz before).entry n).network.macAddress = (s.run hz before).disconnectMac event ∧
    ((s.run hz before).step hz event).fixed n = false

theorem Kept.refl (h : s.Table) (hf : s.fixed n = true) : s.Kept s n := ⟨hf, h.scanned n hf, rfl⟩

theorem Kept.trans {s'' : Scanned} (h : s.Kept s' n) (h' : s'.Kept s'' n) : s.Kept s'' n :=
  ⟨h'.fixed, h'.scanned, h'.same.trans h.same⟩

theorem Table.kept (h : s.Table) (hz : ℕ) (events : List Event) (along : s.Along hz events) (hf : s.fixed n = true) :
    s.Kept (s.run hz events) n ∨ s.Disconnected hz events n := by
  induction events generalizing s with
  | nil => exact Or.inl (.refl h hf)
  | cons event rest ih =>
    have hstep := h.step hz event along.1
    rcases hstep.kept n hf with hkept | ⟨hgone, hmac⟩
    · rcases ih hstep.table along.2 hkept.fixed with hrest | ⟨before, last, after, rfl, hbefore, hlast⟩
      · exact Or.inl (hkept.trans hrest)
      · exact Or.inr ⟨event :: before, last, after, rfl, hkept.trans hbefore, hlast⟩
    · exact Or.inr ⟨[], event, rest, rfl, .refl h hf, hmac, hgone⟩

/-- In every clean run the table is in order after each step, and an entry that is marked fixed stays the
network it is until a disconnect takes its mark. -/
theorem scanned_table (hz : ℕ) (before after : List Event) (along : rtwInitMlmePriv.Along hz (before ++ after)) :
    let s := rtwInitMlmePriv.run hz before
    s.Table ∧ ∀ n, s.fixed n = true → s.Kept (s.run hz after) n ∨ s.Disconnected hz after n := by
  obtain ⟨hbefore, hafter⟩ := along.append
  have htable := rtwInitMlmePriv_table.run hz before hbefore
  exact ⟨htable, fun n hf => htable.kept hz after hafter hf⟩

/-! ## Networks for runs -/

def sampleBss (k : UInt8) : WlanBssidEx :=
  { macAddress := #v[2, 0, 0, 0, 2, k], ssidLength := 1, ieLength := 12, infrastructureMode := Ndis802_11Infrastructure }

/-- A network is found, joined and left, and the queue is flushed while it is joined. -/
theorem scanned_table_joined :
    let before : List Event := [.update (sampleBss 1) 5, .update (sampleBss 2) 6,
      .other (BitVec.ofNat 32 (WIFI_STATION_STATE ||| WIFI_UNDER_LINKING)) {} 0 0, .joinbss 1 (sampleBss 1) true]
    let after : List Event := [.freeQueue true fun _ => 9, .stadel 1 0]
    let s := rtwInitMlmePriv.run 250 before
    s.Table ∧ ∀ n, s.fixed n = true → s.Kept (s.run 250 after) n ∨ s.Disconnected 250 after n := by
  apply scanned_table
  refine ⟨?_, ?_, trivial, trivial, trivial, trivial, trivial⟩
  · intro _ n hn
    have hfirst : rtwInitMlmePriv.updateVictim = some 0 := by decide +kernel
    obtain rfl := Option.some.inj (hn.symm.trans hfirst)
    exact ⟨rfl, fun m hm => absurd hm List.not_mem_nil⟩
  · intro _ n hn
    have hsecond : (rtwInitMlmePriv.run 250 [.update (sampleBss 1) 5]).updateVictim = some 1 := by decide +kernel
    obtain rfl := Option.some.inj (hn.symm.trans hsecond)
    unfold NewTo
    decide +kernel

/-- A cell of the station's own that is already in the table is in it twice. -/
theorem scanned_table_twice : ¬ ∀ (hz : ℕ) (before after : List Event), let s := rtwInitMlmePriv.run hz before
    s.Table ∧ ∀ n, s.fixed n = true → s.Kept (s.run hz after) n ∨ s.Disconnected hz after n := by
  intro hall
  obtain ⟨htable, -⟩ := hall 250 [.update (sampleBss 1) 5, .createbss (sampleBss 1) false 6] []
  have hnew := htable.distinct 0 (by decide +kernel) 1 (by decide +kernel) (by decide)
  exact absurd hnew (by decide +kernel)

end Scanned

end Rtl8723au
