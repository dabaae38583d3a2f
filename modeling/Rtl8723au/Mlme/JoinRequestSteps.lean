import Rtl8723au.Ap.TableInvariant
import Rtl8723au.Mlme.JoinRequest
import Rtl8723au.Mlme.ScannedRuns

/-! What the commands and the choice of a network do to the bookkeeping of joining, in station mode: the state bits, the
table of stations, and the networks that can be chosen. -/
namespace Rtl8723au
set_option autoImplicit false

/-! ## The state bits -/

section
variable {x m k : BitVec 32}

theorem or_and_disjoint (h : m &&& k = 0) : (x ||| m) &&& k = x &&& k := by
  have hdistrib : (x ||| m) &&& k = (x &&& k) ||| (m &&& k) := by
    ext i hi
    simp only [BitVec.getElem_and, BitVec.getElem_or]
    exact Bool.and_or_distrib_right _ _ _
  rw [hdistrib, h]
  exact BitVec.or_zero

theorem andNot_and_disjoint (h : k &&& m = 0) : x &&& ~~~m &&& k = x &&& k := by
  have hkeep : ~~~m &&& k = k := by
    ext i hi
    have hbit : (k &&& m)[i] = (0 : BitVec 32)[i] := by rw [h]
    cases hk : k[i] with
    | false => simp [hk]
    | true =>
      have hm : m[i] = false := by simpa [hk] using hbit
      simp [hk, hm]
  rw [BitVec.and_assoc, hkeep]

theorem or_and_self : (x ||| m) &&& m = m := by
  ext i hi
  simp only [BitVec.getElem_and, BitVec.getElem_or]
  cases x[i] <;> cases m[i] <;> rfl

theorem andNot_and_self : x &&& ~~~m &&& m = 0 := by
  rw [BitVec.and_assoc, BitVec.and_comm (~~~m)]
  ext i hi
  simp

end

/-- The bits of `fw_state` that joining is about. -/
structure FwBits where
  linking : Bool
  linked : Bool
  survey : Bool
  mode : BitVec 32

namespace Scanned

/-- The bits of station, access point and the two of an ad hoc cell. -/
def modeMask : BitVec 32 := 0x78

def bits (t : Scanned) : FwBits where
  linking := t.checkFwstate WIFI_UNDER_LINKING
  linked := t.checkFwstate WIFI_ASOC_STATE
  survey := t.checkFwstate WIFI_SITE_MONITOR
  mode := t.fwState &&& modeMask

variable (t : Scanned)

theorem checkFwstate_set_other {m k : ℕ} (h : BitVec.ofNat 32 m &&& BitVec.ofNat 32 k = 0) :
    (t.setFwstate m).checkFwstate k = t.checkFwstate k :=
  congrArg (· != 0) (or_and_disjoint h)

theorem checkFwstate_set_self {m : ℕ} (h : BitVec.ofNat 32 m ≠ 0) : (t.setFwstate m).checkFwstate m = true := by
  unfold checkFwstate setFwstate
  rw [or_and_self]
  exact bne_iff_ne.mpr h

theorem checkFwstate_clr_other {m k : ℕ} (h : BitVec.ofNat 32 k &&& BitVec.ofNat 32 m = 0) :
    (t.clrFwstate m).checkFwstate k = t.checkFwstate k :=
  congrArg (· != 0) (andNot_and_disjoint h)

theorem checkFwstate_clr_self (m : ℕ) : (t.clrFwstate m).checkFwstate m = false := by
  unfold checkFwstate clrFwstate
  rw [andNot_and_self]
  rfl

theorem checkFwstate_or (m k : ℕ) (h : BitVec.ofNat 32 (m ||| k) = BitVec.ofNat 32 m ||| BitVec.ofNat 32 k) :
    t.checkFwstate (m ||| k) = (t.checkFwstate m || t.checkFwstate k) := by
  unfold checkFwstate
  rw [h, BitVec.and_or_distrib_left]
  cases hm : t.fwState &&& BitVec.ofNat 32 m != 0 with
  | false =>
    have hzero : t.fwState &&& BitVec.ofNat 32 m = 0 := bne_eq_false_iff_eq.mp hm
    rw [hzero, Bool.false_or]
    exact congrArg (· != 0) BitVec.zero_or
  | true =>
    rw [Bool.true_or]
    refine bne_iff_ne.mpr fun hzero => bne_iff_ne.mp hm ?_
    exact (BitVec.or_eq_zero_iff.mp hzero).1

theorem bits_setLinking : (t.setFwstate WIFI_UNDER_LINKING).bits = { t.bits with linking := true } := by
  have hself := t.checkFwstate_set_self (m := WIFI_UNDER_LINKING) (by decide)
  have hmode : (t.setFwstate WIFI_UNDER_LINKING).fwState &&& modeMask = t.fwState &&& modeMask :=
    or_and_disjoint (by decide)
  unfold bits
  rw [hself, hmode, t.checkFwstate_set_other (by decide), t.checkFwstate_set_other (by decide)]

theorem bits_clrLinking : (t.clrFwstate WIFI_UNDER_LINKING).bits = { t.bits with linking := false } := by
  have hmode : (t.clrFwstate WIFI_UNDER_LINKING).fwState &&& modeMask = t.fwState &&& modeMask :=
    andNot_and_disjoint (by decide)
  unfold bits
  rw [checkFwstate_clr_self, hmode, t.checkFwstate_clr_other (by decide), t.checkFwstate_clr_other (by decide)]

theorem bits_setSurvey : (t.setFwstate WIFI_SITE_MONITOR).bits = { t.bits with survey := true } := by
  have hself := t.checkFwstate_set_self (m := WIFI_SITE_MONITOR) (by decide)
  have hmode : (t.setFwstate WIFI_SITE_MONITOR).fwState &&& modeMask = t.fwState &&& modeMask :=
    or_and_disjoint (by decide)
  unfold bits
  rw [hself, hmode, t.checkFwstate_set_other (by decide), t.checkFwstate_set_other (by decide)]

theorem bits_clrSurvey : (t.clrFwstate WIFI_SITE_MONITOR).bits = { t.bits with survey := false } := by
  have hmode : (t.clrFwstate WIFI_SITE_MONITOR).fwState &&& modeMask = t.fwState &&& modeMask :=
    andNot_and_disjoint (by decide)
  unfold bits
  rw [checkFwstate_clr_self, hmode, t.checkFwstate_clr_other (by decide), t.checkFwstate_clr_other (by decide)]

theorem bits_connect : t.rtwIndicateConnect.bits = { t.bits with linked := true } := by
  have hself := t.checkFwstate_set_self (m := WIFI_ASOC_STATE) (by decide)
  have hmode : (t.setFwstate WIFI_ASOC_STATE).fwState &&& modeMask = t.fwState &&& modeMask :=
    or_and_disjoint (by decide)
  unfold rtwIndicateConnect bits
  rw [hself, hmode, t.checkFwstate_set_other (by decide), t.checkFwstate_set_other (by decide)]

theorem bits_disconnect : t.rtwIndicateDisconnect.bits = { t.bits with linking := false, linked := false } := by
  let u := t.clrFwstate (WIFI_UNDER_LINKING ||| WIFI_UNDER_WPS)
  have hlinking : u.checkFwstate WIFI_UNDER_LINKING = false := by
    have hboth := t.checkFwstate_clr_self (WIFI_UNDER_LINKING ||| WIFI_UNDER_WPS)
    rw [checkFwstate_or _ _ _ (by decide)] at hboth
    exact (Bool.or_eq_false_iff.mp hboth).1
  have hmode : t.rtwIndicateDisconnect.fwState &&& modeMask = t.fwState &&& modeMask := by
    have hfirst : u.fwState &&& modeMask = t.fwState &&& modeMask := andNot_and_disjoint (by decide)
    exact (andNot_and_disjoint (by decide)).trans hfirst
  have hsurvey : t.rtwIndicateDisconnect.checkFwstate WIFI_SITE_MONITOR = t.checkFwstate WIFI_SITE_MONITOR :=
    (u.checkFwstate_clr_other (by decide)).trans (t.checkFwstate_clr_other (by decide))
  have hlinked : t.rtwIndicateDisconnect.checkFwstate WIFI_ASOC_STATE = false := u.checkFwstate_clr_self _
  have hlinking' : t.rtwIndicateDisconnect.checkFwstate WIFI_UNDER_LINKING = false :=
    (u.checkFwstate_clr_other (by decide)).trans hlinking
  unfold bits
  rw [hlinking', hlinked, hsurvey, hmode]

theorem checkFwstate_mode {k : ℕ} (h : BitVec.ofNat 32 k &&& modeMask = BitVec.ofNat 32 k) :
    t.checkFwstate k = (t.bits.mode &&& BitVec.ofNat 32 k != 0) := by
  have hand : t.bits.mode &&& BitVec.ofNat 32 k = t.fwState &&& BitVec.ofNat 32 k := by
    show t.fwState &&& modeMask &&& BitVec.ofNat 32 k = _
    rw [BitVec.and_assoc, BitVec.and_comm modeMask, h]
  rw [hand]
  rfl

/-! ## The networks that can be chosen -/

/-- Networks may have left the table; the others, the current one and the state are as they were. -/
structure Pruned (t u : Scanned) : Prop where
  queue : ∀ n ∈ u.queue .scannedQueue, n ∈ t.queue .scannedQueue
  network : ∀ n, (u.entry n).network = (t.entry n).network
  cur : u.curNetwork = t.curNetwork
  fwState : u.fwState = t.fwState

namespace Pruned

variable {t u v : Scanned}

theorem refl (t : Scanned) : Pruned t t := ⟨fun _ h => h, fun _ => rfl, rfl, rfl⟩

theorem trans (h : Pruned t u) (h' : Pruned u v) : Pruned t v :=
  ⟨fun n hn => h.queue n (h'.queue n hn), fun n => (h'.network n).trans (h.network n), h'.cur.trans h.cur,
    h'.fwState.trans h.fwState⟩

theorem putBack (t : Scanned) (n : NetId) : Pruned t (t.putBack n) := by
  refine ⟨fun m hm => ?_, fun _ => rfl, rfl, rfl⟩
  have hne : BssQueue.scannedQueue ≠ .freeBssPool := by decide
  have hm' : m ∈ Intrusive.moveTail t.queue .freeBssPool n .scannedQueue := hm
  rw [Intrusive.moveTail, Intrusive.addTail_of_ne _ _ hne] at hm'
  exact Intrusive.mem_of_delInit hm'

theorem freeNolock (t : Scanned) (n : Option NetId) : Pruned t (t.rtwFreeNetworkNolock n) := by
  cases n with
  | none => exact refl t
  | some n =>
    unfold rtwFreeNetworkNolock
    dsimp only
    split
    · exact refl t
    · exact putBack t n

theorem markFixed (t : Scanned) (n : Option NetId) (fixed : Bool) : Pruned t (t.markFixed n fixed) := by
  cases n with
  | none => exact refl t
  | some n => exact ⟨fun _ h => h, fun m => setFixed_network t n m fixed, rfl, rfl⟩

theorem foldl (f : Scanned → NetId → Scanned) (hf : ∀ t n, Pruned t (f t n)) (l : List NetId) (t : Scanned) :
    Pruned t (l.foldl f t) := by
  induction l generalizing t with
  | nil => exact refl t
  | cons n l ih => exact (hf t n).trans (ih (f t n))

theorem freeNetworkQueue (hz : ℕ) (t : Scanned) (isfreeall : Bool) (now : NetId → BitVec 32) :
    Pruned t (t.rtwFreeNetworkQueue hz isfreeall now) := by
  refine foldl _ (fun t n => ?_) _ t
  unfold rtwFreeNetwork
  dsimp only
  split_ifs
  · exact refl t
  · exact refl t
  · exact putBack t n
  · exact refl t
  · exact putBack t n

theorem removeCurrent (t : Scanned) : Pruned t t.removeCurrent := (markFixed t _ false).trans (freeNolock _ _)

theorem freeScanqueue (t : Scanned) : Pruned t t.freeScanqueue := foldl _ putBack _ t

theorem bits (h : Pruned t u) : u.bits = t.bits := by
  unfold Scanned.bits checkFwstate
  rw [h.fwState]

end Pruned

end Scanned

/-! ## The table of stations -/

/-- No entry is in two places of the table of stations. -/
def StaWf (sp : StaPriv) : Prop := TableWf sp.links fun p => (sp.staInfo p).hwaddr

theorem StaWf.freeFound {sp : StaPriv} (wf : StaWf sp) (mac : MacAddr) :
    StaWf (MlmeJoin.freeFound sp (rtwGetStainfo sp (some mac))) := by
  cases hfind : rtwGetStainfo sp (some mac) with
  | none => exact wf
  | some p =>
    have hhashed : sp.Hashed p := by
      unfold rtwGetStainfo at hfind
      exact ⟨_, List.mem_of_find?_eq_some hfind⟩
    have hmac : (fun q => ((rtwFreeStainfo sp p).staInfo q).hwaddr) = fun q => (sp.staInfo q).hwaddr :=
      rtwFreeStainfo_hwaddr { stapriv := sp } p
    show TableWf (rtwFreeStainfo sp p).links fun q => ((rtwFreeStainfo sp p).staInfo q).hwaddr
    rw [rtwFreeStainfo_links, hmac]
    exact TableWf.free wf hhashed _

namespace MlmeJoin

variable {s t u : MlmeJoin}

def bits (s : MlmeJoin) : FwBits := s.scanned.bits

namespace StationMode

theorem check (h : StationMode s) {k : ℕ} (hk : BitVec.ofNat 32 k &&& Scanned.modeMask = BitVec.ofNat 32 k) :
    s.checkFwstate k = (BitVec.ofNat 32 WIFI_STATION_STATE &&& BitVec.ofNat 32 k != 0) := by
  have hcheck := s.scanned.checkFwstate_mode hk
  rw [show s.scanned.bits.mode = BitVec.ofNat 32 WIFI_STATION_STATE from h] at hcheck
  exact hcheck

variable (h : StationMode s)
include h

theorem station : s.checkFwstate WIFI_STATION_STATE = true := (h.check (by decide)).trans (by decide)

theorem notAp : s.checkFwstate WIFI_AP_STATE = false := (h.check (by decide)).trans (by decide)

theorem notAdhoc : s.checkFwstate WIFI_ADHOC_STATE = false := (h.check (by decide)).trans (by decide)

theorem notMaster : s.checkFwstate WIFI_ADHOC_MASTER_STATE = false := (h.check (by decide)).trans (by decide)

theorem stationOrAp : s.checkFwstate (WIFI_STATION_STATE ||| WIFI_AP_STATE) = true :=
  (h.check (by decide)).trans (by decide)

theorem stationOrAdhoc : s.checkFwstate (WIFI_STATION_STATE ||| WIFI_ADHOC_STATE) = true :=
  (h.check (by decide)).trans (by decide)

theorem noCell : s.checkFwstate (WIFI_ADHOC_STATE ||| WIFI_ADHOC_MASTER_STATE ||| WIFI_AP_STATE) = false :=
  (h.check (by decide)).trans (by decide)

theorem noAdhoc : s.checkFwstate (WIFI_ADHOC_MASTER_STATE ||| WIFI_ADHOC_STATE) = false :=
  (h.check (by decide)).trans (by decide)

end StationMode

/-! ## What is kept -/

/-- A station that is linked has an entry. -/
def Entry (s : MlmeJoin) : Prop :=
  s.bits.linked = true → (rtwGetStainfo s.stapriv (some s.curMac)).isSome = true

/-- What choosing a network, surveying and leaving keep. -/
structure Keeps (s t : MlmeJoin) : Prop where
  mode : t.bits.mode = s.bits.mode
  lock : t.lock = s.lock
  disassociated : t.disassociated = s.disassociated
  wf : StaWf s.stapriv → StaWf t.stapriv
  entry : Entry s → Entry t
  -- what can be chosen
  queue : ∀ n ∈ t.scanned.queue .scannedQueue, n ∈ s.scanned.queue .scannedQueue
  network : ∀ n, (t.scanned.entry n).network = (s.scanned.entry n).network
  cur : t.scanned.curNetwork = s.scanned.curNetwork
  assocSsid : t.assocSsid = s.assocSsid
  assocByBssid : t.assocByBssid = s.assocByBssid
  assocBssid : s.assocByBssid = true → t.assocBssid = s.assocBssid

namespace Keeps

theorem refl (s : MlmeJoin) : Keeps s s :=
  ⟨rfl, rfl, rfl, id, id, fun _ h => h, fun _ => rfl, rfl, rfl, rfl, fun _ => rfl⟩

theorem trans (h : Keeps s t) (h' : Keeps t u) : Keeps s u where
  mode := h'.mode.trans h.mode
  lock := h'.lock.trans h.lock
  disassociated := h'.disassociated.trans h.disassociated
  wf hs := h'.wf (h.wf hs)
  entry hs := h'.entry (h.entry hs)
  queue n hn := h.queue n (h'.queue n hn)
  network n := (h'.network n).trans (h.network n)
  cur := h'.cur.trans h.cur
  assocSsid := h'.assocSsid.trans h.assocSsid
  assocByBssid := h'.assocByBssid.trans h.assocByBssid
  assocBssid hs := (h'.assocBssid (h.assocByBssid.trans hs)).trans (h.assocBssid hs)

theorem station (h : Keeps s t) (hs : StationMode s) : StationMode t := h.mode.trans hs

theorem of_scanned {f : Scanned → Scanned} {b : FwBits} (hbits : (f s.scanned).bits = b) (hmode : b.mode = s.bits.mode)
    (hlinked : b.linked = true → s.bits.linked = true)
    (hqueue : ∀ n ∈ (f s.scanned).queue .scannedQueue, n ∈ s.scanned.queue .scannedQueue)
    (hnetwork : ∀ n, ((f s.scanned).entry n).network = (s.scanned.entry n).network)
    (hcur : (f s.scanned).curNetwork = s.scanned.curNetwork) : Keeps s (s.onScanned f) where
  mode := (congrArg FwBits.mode hbits).trans hmode
  lock := rfl
  disassociated := rfl
  wf := id
  entry hs hl := by
    have hb : (f s.scanned).bits.linked = true := hl
    rw [hbits] at hb
    have hmac : (s.onScanned f).curMac = s.curMac := congrArg WlanBssidEx.macAddress hcur
    rw [hmac]
    exact hs (hlinked hb)
  queue := hqueue
  network := hnetwork
  cur := hcur
  assocSsid := rfl
  assocByBssid := rfl
  assocBssid _ := rfl

theorem pruned {f : Scanned → Scanned} (h : Scanned.Pruned s.scanned (f s.scanned)) : Keeps s (s.onScanned f) :=
  of_scanned h.bits rfl id h.queue h.network h.cur

theorem setLinking (s : MlmeJoin) : Keeps s (s.setFwstate WIFI_UNDER_LINKING) :=
  of_scanned s.scanned.bits_setLinking rfl id (fun _ h => h) (fun _ => rfl) rfl

theorem clrLinking (s : MlmeJoin) : Keeps s (s.clrFwstate WIFI_UNDER_LINKING) :=
  of_scanned s.scanned.bits_clrLinking rfl id (fun _ h => h) (fun _ => rfl) rfl

theorem setSurvey (s : MlmeJoin) : Keeps s (s.setFwstate WIFI_SITE_MONITOR) :=
  of_scanned s.scanned.bits_setSurvey rfl id (fun _ h => h) (fun _ => rfl) rfl

theorem clrSurvey (s : MlmeJoin) : Keeps s (s.clrFwstate WIFI_SITE_MONITOR) :=
  of_scanned s.scanned.bits_clrSurvey rfl id (fun _ h => h) (fun _ => rfl) rfl

theorem disconnect (s : MlmeJoin) : Keeps s s.rtwIndicateDisconnect :=
  of_scanned s.scanned.bits_disconnect rfl (fun hl => Bool.noConfusion hl) (fun _ h => h) (fun _ => rfl) rfl

theorem rest (h : t = { s with
    toJoin := t.toJoin, toRoaming := t.toRoaming, assocTimer := t.assocTimer, scanToTimer := t.scanToTimer,
    joinCmds := t.joinCmds }) : Keeps s t := by
  rw [h]
  exact ⟨rfl, rfl, rfl, id, id, fun _ h => h, fun _ => rfl, rfl, rfl, rfl, fun _ => rfl⟩

end Keeps

/-! ## Leaving -/

/-- `rtw_free_assoc_resources` in station mode. -/
theorem free_eq (hs : StationMode s) : s.rtwFreeAssocResources =
    (s.onStapriv fun sp => freeFound sp (rtwGetStainfo sp (some s.curMac))).onScanned fun t =>
      t.markFixed (t.rtwFindNetwork t.curNetwork.macAddress) false := by
  have hmaster : (s.scanned.markFixed (s.scanned.rtwFindNetwork s.scanned.curNetwork.macAddress) false).checkFwstate
      WIFI_ADHOC_MASTER_STATE = false := by
    have hstate := (Scanned.Pruned.markFixed s.scanned (s.scanned.rtwFindNetwork s.scanned.curNetwork.macAddress)
      false).fwState
    unfold Scanned.checkFwstate
    rw [hstate]
    exact hs.notMaster
  have hscanned : ∀ n, s.scanned.rtwFreeAssocResources n =
      s.scanned.markFixed (s.scanned.rtwFindNetwork s.scanned.curNetwork.macAddress) false := fun n => by
    refine if_neg ?_
    rw [hmaster, Bool.false_and]
    exact Bool.false_ne_true
  unfold rtwFreeAssocResources
  rw [if_pos hs.stationOrAp]
  dsimp only
  have hcell : (s.onStapriv fun sp => freeFound sp (rtwGetStainfo sp (some s.curMac))).checkFwstate
      (WIFI_ADHOC_STATE ||| WIFI_ADHOC_MASTER_STATE ||| WIFI_AP_STATE) = false := hs.noCell
  rw [hcell, if_neg Bool.false_ne_true]
  unfold onScanned
  dsimp only [onStapriv]
  rw [hscanned]

/-- The members that leaving a network does not touch. -/
structure SameRequest (s t : MlmeJoin) : Prop where
  toJoin : t.toJoin = s.toJoin
  toRoaming : t.toRoaming = s.toRoaming
  assocTimer : t.assocTimer = s.assocTimer
  joinCmds : t.joinCmds = s.joinCmds

theorem free_same (hs : StationMode s) : SameRequest s s.rtwFreeAssocResources ∧
    s.rtwFreeAssocResources.bits = s.bits := by
  rw [free_eq hs]
  exact ⟨⟨rfl, rfl, rfl, rfl⟩, (Scanned.Pruned.markFixed s.scanned _ false).bits⟩

theorem Keeps.free (hs : StationMode s) (hlinked : s.bits.linked = false) : Keeps s s.rtwFreeAssocResources := by
  have hprune := Scanned.Pruned.markFixed s.scanned (s.scanned.rtwFindNetwork s.scanned.curNetwork.macAddress) false
  rw [free_eq hs]
  refine ⟨congrArg FwBits.mode hprune.bits, rfl, rfl, fun wf => wf.freeFound _, fun _ hl => ?_, hprune.queue,
    hprune.network, hprune.cur, rfl, rfl, fun _ => rfl⟩
  have hsame := (congrArg FwBits.linked hprune.bits).symm.trans hl
  exact absurd (hlinked.symm.trans hsame) Bool.false_ne_true

def leaves (s : MlmeJoin) : MlmeJoin := s.rtwIndicateDisconnect.rtwFreeAssocResources

theorem leaves_spec (hs : StationMode s) : Keeps s s.leaves ∧ SameRequest s s.leaves ∧
    s.leaves.bits = { s.bits with linking := false, linked := false } := by
  have hbits : s.rtwIndicateDisconnect.bits = { s.bits with linking := false, linked := false } :=
    s.scanned.bits_disconnect
  have hmode : StationMode s.rtwIndicateDisconnect := (Keeps.disconnect s).station hs
  have hfree := free_same hmode
  have hsame : SameRequest s s.leaves :=
    ⟨hfree.1.toJoin, hfree.1.toRoaming, hfree.1.assocTimer, hfree.1.joinCmds⟩
  have hlinked : s.rtwIndicateDisconnect.bits.linked = false := by rw [hbits]
  exact ⟨(Keeps.disconnect s).trans (.free hmode hlinked), hsame, hfree.2.trans hbits⟩

theorem free_disconnect (hs : StationMode s) : s.rtwFreeAssocResources.rtwIndicateDisconnect = s.leaves := by
  have hmode : StationMode s.rtwIndicateDisconnect := (Keeps.disconnect s).station hs
  unfold leaves
  rw [free_eq hs, free_eq hmode]
  unfold rtwIndicateDisconnect onScanned onStapriv
  dsimp only
  have hfind : s.scanned.rtwIndicateDisconnect.rtwFindNetwork s.scanned.rtwIndicateDisconnect.curNetwork.macAddress =
      s.scanned.rtwFindNetwork s.scanned.curNetwork.macAddress := rfl
  rw [hfind]
  cases s.scanned.rtwFindNetwork s.scanned.curNetwork.macAddress with
  | none => rfl
  | some n => rfl

/-! ## The commands -/

/-- What a survey command does. -/
structure Surveyed (s : MlmeJoin) (x : MlmeJoin × Bool) : Prop where
  keeps : Keeps s x.1
  same : SameRequest s x.1
  linking : x.1.bits.linking = s.bits.linking
  linked : x.1.bits.linked = s.bits.linked
  accepted : x.2 = true → x.1.bits.survey = true

theorem rtwSitesurveyCmd_spec (s : MlmeJoin) (env : SurveyEnv) : Surveyed s (s.rtwSitesurveyCmd env) := by
  unfold rtwSitesurveyCmd
  split
  · exact ⟨.refl s, ⟨rfl, rfl, rfl, rfl⟩, rfl, rfl, fun h => Bool.noConfusion h⟩
  let u := s.onScanned (·.rtwFreeNetworkQueue env.hz false env.now)
  have hprune := Scanned.Pruned.freeNetworkQueue env.hz s.scanned false env.now
  have hu : u.bits = s.bits := hprune.bits
  have hset : (u.setFwstate WIFI_SITE_MONITOR).bits = { u.bits with survey := true } := u.scanned.bits_setSurvey
  have hkeeps : Keeps s (u.setFwstate WIFI_SITE_MONITOR) := (Keeps.pruned hprune).trans (.setSurvey u)
  rw [hu] at hset
  dsimp only
  split
  · have hlinking : (u.setFwstate WIFI_SITE_MONITOR).bits.linking = s.bits.linking := by rw [hset]
    have hlinked : (u.setFwstate WIFI_SITE_MONITOR).bits.linked = s.bits.linked := by rw [hset]
    have hsurvey : (u.setFwstate WIFI_SITE_MONITOR).bits.survey = true := by rw [hset]
    exact ⟨hkeeps.trans (.rest rfl), ⟨rfl, rfl, rfl, rfl⟩, hlinking, hlinked, fun _ => hsurvey⟩
  · have hclr : ((u.setFwstate WIFI_SITE_MONITOR).clrFwstate WIFI_SITE_MONITOR).bits =
        { (u.setFwstate WIFI_SITE_MONITOR).bits with survey := false } := Scanned.bits_clrSurvey _
    rw [hset] at hclr
    have hlinking : ((u.setFwstate WIFI_SITE_MONITOR).clrFwstate WIFI_SITE_MONITOR).bits.linking = s.bits.linking := by
      rw [hclr]
    have hlinked : ((u.setFwstate WIFI_SITE_MONITOR).clrFwstate WIFI_SITE_MONITOR).bits.linked = s.bits.linked := by
      rw [hclr]
    exact ⟨hkeeps.trans (.clrSurvey _), ⟨rfl, rfl, rfl, rfl⟩, hlinking, hlinked, fun h => Bool.noConfusion h⟩

/-- What a join command does. -/
structure Joined (s : MlmeJoin) (env : CmdEnv) (x : MlmeJoin × Bool) : Prop where
  keeps : Keeps s x.1
  bits : x.1.bits = s.bits
  toJoin : x.1.toJoin = s.toJoin
  toRoaming : x.1.toRoaming = s.toRoaming
  assocTimer : x.1.assocTimer = s.assocTimer
  answer : x.2 = env.accepted
  refused : env.accepted = false → x.1.joinCmds = s.joinCmds

theorem rtwJoinbssCmd_spec (hs : StationMode s) (pnetwork : NetId) (env : CmdEnv) :
    Joined s env (s.rtwJoinbssCmd pnetwork env) := by
  unfold rtwJoinbssCmd
  cases halloc : env.alloc with
  | false =>
    have hrefused : env.accepted = false := by simp [CmdEnv.accepted, halloc]
    exact ⟨.refl s, rfl, rfl, rfl, rfl, hrefused.symm, fun _ => rfl⟩
  | true =>
    have hanswer : env.accepted = env.enqueued := by simp [CmdEnv.accepted, halloc]
    have hgo : ¬(!true) = true := by decide
    dsimp only
    rw [if_neg hgo, if_pos hs.stationOrAdhoc]
    -- the address is noted for the search for a key identifier
    generalize hu : (if s.assocByBssid = true then s else
      { s with assocBssid := (s.scanned.entry pnetwork).network.macAddress }) = u
    have hkeeps : Keeps s u ∧ SameRequest s u ∧ u.bits = s.bits := by
      rw [← hu]
      split
      · exact ⟨.refl s, ⟨rfl, rfl, rfl, rfl⟩, rfl⟩
      · rename_i hby
        exact ⟨⟨rfl, rfl, rfl, id, id, fun _ h => h, fun _ => rfl, rfl, rfl, rfl, fun h => absurd h hby⟩,
          ⟨rfl, rfl, rfl, rfl⟩, rfl⟩
    obtain ⟨hk, hsame, hbits⟩ := hkeeps
    cases henq : env.enqueued with
    | true =>
      rw [if_pos rfl]
      refine ⟨hk.trans (.rest rfl), hbits, hsame.toJoin, hsame.toRoaming, hsame.assocTimer, ?_, fun h => ?_⟩
      · rw [hanswer, henq]
      · rw [hanswer, henq] at h
        cases h
    | false =>
      rw [if_neg Bool.false_ne_true]
      refine ⟨hk, hbits, hsame.toJoin, hsame.toRoaming, hsame.assocTimer, ?_, fun _ => hsame.joinCmds⟩
      rw [hanswer, henq]

end MlmeJoin

end Rtl8723au
