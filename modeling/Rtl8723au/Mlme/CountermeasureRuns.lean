import Rtl8723au.Mlme.Countermeasure

/-! The runs in which the countermeasures hold, and that the joining of this machine is that of `MlmeJoin`. -/
namespace Rtl8723au
namespace Countermeasure
open GuardedRuns TkipState
set_option autoImplicit false

/-! ## What a handler can do to the countermeasures -/

/-- All that joining and leaving does: `k` joins are started, and the record of the last failure may be wiped. -/
structure Moves (k : ℕ) (s t : TkipState) : Prop where
  clock : t.first = s.first ∧ t.now = s.now
  mics : t.mics = s.mics
  trigger : t.trigger = s.trigger
  flag : t.btkipCountermeasure = s.btkipCountermeasure ∧ t.btkipCountermeasureTime = s.btkipCountermeasureTime
  record : (t.lastMicErrTime = s.lastMicErrTime ∧ t.wiped = s.wiped) ∨ (t.lastMicErrTime = 0 ∧ t.wiped = true)
  joins : t.joins = List.replicate k (s.now, s.trigger) ++ s.joins

section
variable {k l : ℕ} {s t u : TkipState}

theorem Moves.refl (s : TkipState) : Moves 0 s s := ⟨⟨rfl, rfl⟩, rfl, rfl, ⟨rfl, rfl⟩, Or.inl ⟨rfl, rfl⟩, rfl⟩

theorem Moves.setMlme (s : TkipState) (mlme : MlmeJoin) : Moves 0 s { s with mlme := mlme } :=
  ⟨⟨rfl, rfl⟩, rfl, rfl, ⟨rfl, rfl⟩, Or.inl ⟨rfl, rfl⟩, rfl⟩

theorem Moves.onMlme (s : TkipState) (f : MlmeJoin → MlmeJoin) : Moves 0 s (s.onMlme f) := Moves.setMlme s (f s.mlme)

theorem Moves.trans (hst : Moves k s t) (htu : Moves l t u) : Moves (l + k) s u where
  clock := ⟨htu.clock.1.trans hst.clock.1, htu.clock.2.trans hst.clock.2⟩
  mics := htu.mics.trans hst.mics
  trigger := htu.trigger.trans hst.trigger
  flag := ⟨htu.flag.1.trans hst.flag.1, htu.flag.2.trans hst.flag.2⟩
  record := by
    rcases htu.record with ⟨hlast, hwiped⟩ | hgone
    · rw [hlast, hwiped]
      exact hst.record
    · exact Or.inr hgone
  joins := by
    rw [htu.joins, hst.joins, hst.clock.2, hst.trigger, ← List.append_assoc, List.replicate_append_replicate]

theorem Moves.then (hst : Moves k s t) (htu : Moves 0 t u) : Moves k s u := (Nat.zero_add k) ▸ hst.trans htu

theorem Moves.rtwResetSecuritypriv (s : TkipState) : Moves 0 s s.rtwResetSecuritypriv := by
  rw [TkipState.rtwResetSecuritypriv]
  split
  · exact ⟨⟨rfl, rfl⟩, rfl, rfl, ⟨rfl, rfl⟩, Or.inr ⟨rfl, rfl⟩, rfl⟩
  · exact ⟨⟨rfl, rfl⟩, rfl, rfl, ⟨rfl, rfl⟩, Or.inl ⟨rfl, rfl⟩, rfl⟩

theorem Moves.rtwIndicateDisconnect (s : TkipState) : Moves 0 s s.rtwIndicateDisconnect := by
  rw [TkipState.rtwIndicateDisconnect]
  split
  · exact (Moves.onMlme s _).then (Moves.rtwResetSecuritypriv _)
  · exact Moves.onMlme s _

theorem Moves.surveyFirst (s : TkipState) (env : DoJoinEnv) : Moves 0 s (s.surveyFirst env).1 := Moves.setMlme s _

theorem Moves.rtwSelectAndJoin (s : TkipState) (env : SelectEnv) :
    Moves 0 s (s.rtwSelectAndJoinFromScannedQueue env).1 := by
  rw [TkipState.rtwSelectAndJoinFromScannedQueue]
  cases s.mlme.candidate env with
  | none => exact Moves.refl s
  | some candidate =>
    have hleave : Moves 0 s (if s.checkFwstate WIFI_ASOC_STATE
        then s.rtwIndicateDisconnect.onMlme (·.rtwFreeAssocResources) else s) := by
      split
      · exact (Moves.rtwIndicateDisconnect s).then (Moves.onMlme _ _)
      · exact Moves.refl s
    exact hleave.then (Moves.setMlme _ _)

/-- A call of `rtw_do_join` is one join, at the time of the event. -/
theorem Moves.rtwDoJoin (s : TkipState) (env : DoJoinEnv) : Moves 1 s (s.rtwDoJoin env).1 := by
  have hstart : Moves 1 s { s with joins := (s.now, s.trigger) :: s.joins } :=
    ⟨⟨rfl, rfl⟩, rfl, rfl, ⟨rfl, rfl⟩, Or.inl ⟨rfl, rfl⟩, rfl⟩
  rw [TkipState.rtwDoJoin]
  obtain ⟨a, ha⟩ : ∃ a, a = TkipState.onMlme { s with joins := (s.now, s.trigger) :: s.joins }
    fun m => (m.setFwstate WIFI_UNDER_LINKING).setToJoin true := ⟨_, rfl⟩
  have hs : Moves 1 s a := ha ▸ hstart.then (Moves.onMlme _ _)
  dsimp only
  rw [← ha]
  split
  · exact hs.then ((Moves.onMlme _ _).then (Moves.surveyFirst _ env))
  · have hselect := hs.then (Moves.rtwSelectAndJoin a env.select)
    split
    next b heq =>
      have hb : Moves 1 s b := by rwa [heq] at hselect
      have hjoined : Moves 1 s (b.onMlme fun m => (m.setToJoin false).setAssocTimer true) := hb.then (Moves.onMlme b _)
      exact hjoined
    next b heq =>
      have hb : Moves 1 s b := by rwa [heq] at hselect
      split
      · have hmaster := hb.then (Moves.onMlme b (·.becomeAdhocMaster))
        split
        · have hjoined : Moves 1 s ((b.onMlme (·.becomeAdhocMaster)).onMlme (·.setToJoin false)) :=
            hmaster.then (Moves.onMlme _ _)
          exact hjoined
        · exact hmaster
      · exact hb.then ((Moves.onMlme b _).then (Moves.surveyFirst _ env))

theorem Moves.leaveForRequest (s : TkipState) : Moves 0 s s.leaveForRequest := by
  have hleave : Moves 0 s (if s.checkFwstate WIFI_ASOC_STATE then s.rtwIndicateDisconnect else s) := by
    split
    · exact Moves.rtwIndicateDisconnect s
    · exact Moves.refl s
  obtain ⟨a, ha⟩ : ∃ a, a = if s.checkFwstate WIFI_ASOC_STATE then s.rtwIndicateDisconnect else s := ⟨_, rfl⟩
  rw [← ha] at hleave
  rw [TkipState.leaveForRequest, ← ha]
  split
  · exact hleave.then ((Moves.onMlme _ _).then (Moves.onMlme _ _))
  · exact hleave.then (Moves.onMlme _ _)

theorem Moves.requestGate {leave : TkipState → Option TkipState} (hleave : ∀ t, leave s = some t → Moves 0 s t)
    (h : s.requestGate leave = some t) : Moves 0 s t := by
  rw [TkipState.requestGate] at h
  split at h
  · exact Option.some.inj h ▸ Moves.refl s
  split at h
  · exact absurd h (Option.some_ne_none t).symm
  split at h
  · exact hleave t h
  · exact Option.some.inj h ▸ Moves.refl s

theorem Moves.leaveBssid (bssid : MacAddr) (h : TkipState.leaveBssid bssid s = some t) : Moves 0 s t := by
  rw [TkipState.leaveBssid] at h
  split at h
  · split at h
    · exact Option.some.inj h ▸ Moves.refl s
    · exact absurd h (Option.some_ne_none t).symm
  · exact Option.some.inj h ▸ Moves.leaveForRequest s

theorem Moves.leaveSsid (ssid : Ndis80211Ssid) (sameIbss : Bool) (h : TkipState.leaveSsid ssid sameIbss s = some t) :
    Moves 0 s t := by
  rw [TkipState.leaveSsid] at h
  split at h
  · split at h
    · exact Option.some.inj h ▸ Moves.refl s
    split at h
    · exact absurd h (Option.some_ne_none t).symm
    · exact Option.some.inj h ▸ Moves.leaveForRequest s
  · exact Option.some.inj h ▸ Moves.leaveForRequest s

theorem Moves.joinNow (s : TkipState) (record : MlmeJoin → MlmeJoin) (env : DoJoinEnv) :
    ∃ k, Moves k s (s.joinNow record env) := by
  rw [TkipState.joinNow]
  split
  · exact ⟨0, (Moves.onMlme s _).then (Moves.onMlme _ _)⟩
  · exact ⟨1 + 0, (Moves.onMlme s record).trans (Moves.rtwDoJoin _ env)⟩

theorem Moves.roamingLoop (env : ℕ → DoJoinEnv) (n : ℕ) (s : TkipState) :
    ∃ k, Moves k s (TkipState.roamingLoop env n s) ∧ (0 < k ↔ 0 < n) := by
  induction n generalizing s with
  | zero => exact ⟨0, Moves.rtwIndicateDisconnect s, Iff.rfl⟩
  | succ n ih =>
    have hjoin := Moves.rtwDoJoin s (env n)
    rw [TkipState.roamingLoop]
    split
    next t heq =>
      have ht : Moves 1 s t := by rwa [heq] at hjoin
      exact ⟨1, ht, iff_of_true Nat.one_pos n.succ_pos⟩
    next t heq =>
      have ht : Moves 1 s t := by rwa [heq] at hjoin
      obtain ⟨k, hk, -⟩ := ih (t.onMlme (·.setToRoaming n))
      exact ⟨k + 1, (ht.then (Moves.onMlme t _)).trans hk, iff_of_true k.succ_pos n.succ_pos⟩

theorem Moves.locked {f : TkipState → TkipState} (h : Moves k (s.onMlme (·.spinLockBh)) (f (s.onMlme (·.spinLockBh)))) :
    Moves k s (s.locked f) := by
  have hlock := (Moves.onMlme s (·.spinLockBh)).trans h
  exact hlock.then (Moves.onMlme _ _)

theorem Moves.rtwRoaming (s : TkipState) (env : ℕ → DoJoinEnv) :
    ∃ k, Moves k s (s.rtwRoaming env) ∧ (0 < k ↔ 0 < s.mlme.toRoaming) := by
  obtain ⟨a, ha⟩ : ∃ a, a = s.onMlme (·.spinLockBh) := ⟨_, rfl⟩
  have hroam : a.mlme.toRoaming = s.mlme.toRoaming := by
    rw [ha]
    rfl
  have hcore : ∃ k, Moves k a (a.rtwRoamingCore env) ∧ (0 < k ↔ 0 < s.mlme.toRoaming) := by
    rw [TkipState.rtwRoamingCore, ← hroam]
    split
    next hpos =>
      obtain ⟨k, hk, hiff⟩ := Moves.roamingLoop env a.mlme.toRoaming (a.onMlme (·.roamFrom))
      exact ⟨k, (Moves.onMlme a (·.roamFrom)).trans hk, hiff⟩
    next hzero => exact ⟨0, Moves.refl a, iff_of_false (lt_irrefl 0) hzero⟩
  obtain ⟨k, hk, hiff⟩ := hcore
  rw [ha] at hk
  exact ⟨k, Moves.locked hk, hiff⟩

theorem Moves.rtwJoinTimeoutHandler (s : TkipState) (env : ℕ → DoJoinEnv) :
    ∃ k, Moves k s (s.rtwJoinTimeoutHandler env) ∧ (0 < k ↔ 1 < s.mlme.toRoaming) := by
  obtain ⟨a, ha⟩ : ∃ a, a = (s.onMlme (·.setAssocTimer false)).onMlme (·.spinLockBh) := ⟨_, rfl⟩
  have hroam : a.mlme.toRoaming = s.mlme.toRoaming := by
    rw [ha]
    rfl
  have hcore : ∃ k, Moves k a (if 0 < a.mlme.toRoaming then
      TkipState.roamingLoop env (a.mlme.toRoaming - 1) (a.onMlme fun m => m.setToRoaming (m.toRoaming - 1))
      else a.rtwIndicateDisconnect.onMlme fun m => m.onScanned (·.freeScanqueue)) ∧ (0 < k ↔ 1 < s.mlme.toRoaming) := by
    rw [← hroam]
    split
    next hpos =>
      obtain ⟨k, hk, hiff⟩ := Moves.roamingLoop env (a.mlme.toRoaming - 1)
        (a.onMlme fun m => m.setToRoaming (m.toRoaming - 1))
      exact ⟨k, (Moves.onMlme a _).trans hk, hiff.trans (by omega)⟩
    next hzero =>
      exact ⟨0, (Moves.rtwIndicateDisconnect a).then (Moves.onMlme _ _), iff_of_false (lt_irrefl 0) (by omega)⟩
  obtain ⟨k, hk, hiff⟩ := hcore
  rw [ha] at hk
  exact ⟨k, (Moves.onMlme s (·.setAssocTimer false)).trans (Moves.locked hk), hiff⟩

end

/-! ## The joining of `MlmeJoin` -/

/-- The same answer and the same `mlme_priv`. -/
def Joins (r : TkipState × Bool) (m : MlmeJoin × Bool) : Prop := r.1.mlme = m.1 ∧ r.2 = m.2

section
variable (s : TkipState)

def tkipOf (hz : ℕ) : TkipCountermeasure := ⟨s.btkipCountermeasure, s.btkipCountermeasureTime, s.rtwGetCurrentTime, hz⟩

end

/-! ## What the driver knows -/

/-- The record that the history leaves: the newest failure, unless it has set the flag or was wiped since. -/
def lastRecord (s : TkipState) : BitVec 32 :=
  match s.mics with
  | (t, false) :: _ => if s.wiped then 0 else BitVec.ofNat 32 t
  | _ => 0

/-- The members of `securitypriv` say what has happened: the record is that of the newest failure, the flag stands as long as
the ban it was set for may last, and the times lie in the span of the clock. -/
structure Tracks (hz : ℕ) (s : TkipState) : Prop where
  span : s.first ≤ s.now ∧ s.now < s.first + 2 ^ 32
  newest : ∀ m rest, s.mics = m :: rest → s.first ≤ m.1 ∧ m.1 ≤ s.now ∧ BitVec.ofNat 32 m.1 ≠ 0
  record : s.lastMicErrTime = lastRecord s
  trigger : ∀ t, s.trigger = some t → s.first ≤ t ∧ t ≤ s.now
  set : s.btkipCountermeasure = true → ∃ t, s.trigger = some t ∧ s.btkipCountermeasureTime = BitVec.ofNat 32 t
  clear : s.btkipCountermeasure = false → BanOver hz s s.now

theorem tracks_start (hz : ℕ) (mlme : MlmeJoin) (time : ℕ) : Tracks hz (start mlme time) where
  span := ⟨le_refl time, Nat.lt_add_of_pos_right (by norm_num)⟩
  newest := fun _ _ h => absurd h (List.cons_ne_nil _ _).symm
  record := rfl
  trigger := fun _ h => absurd h (Option.some_ne_none _).symm
  set := fun h => absurd h Bool.false_ne_true
  clear := fun _ _ h => absurd h (Option.some_ne_none _).symm

theorem holds_start (hz : ℕ) (mlme : MlmeJoin) (time : ℕ) : Holds hz (start mlme time) where
  reacts := trivial
  joins := fun _ hj => absurd hj List.not_mem_nil

theorem toNat_elapsed {t now : ℕ} (hle : t ≤ now) (hlt : now < t + 2 ^ 32) :
    (BitVec.ofNat 32 now - BitVec.ofNat 32 t).toNat = now - t := by
  rw [BitVec.toNat_sub, BitVec.toNat_ofNat, BitVec.toNat_ofNat]
  omega

section
variable {hz k : ℕ} {s t : TkipState}

theorem Tracks.atTime (h : Tracks hz s) {e : TimedEvent} (htick : Ticks s e) : Tracks hz (s.atTime e.time) where
  span := ⟨h.span.1.trans htick.1, htick.2.1⟩
  newest := fun m rest hm => ⟨(h.newest m rest hm).1, (h.newest m rest hm).2.1.trans htick.1, (h.newest m rest hm).2.2⟩
  record := h.record
  trigger := fun t ht => ⟨(h.trigger t ht).1, (h.trigger t ht).2.trans htick.1⟩
  set := h.set
  clear := fun hflag t ht => (h.clear hflag t ht).trans htick.1

theorem Tracks.moves (h : Tracks hz s) (hmoves : Moves k s t) : Tracks hz t where
  span := by
    rw [hmoves.clock.1, hmoves.clock.2]
    exact h.span
  newest := by
    rw [hmoves.clock.1, hmoves.clock.2, hmoves.mics]
    exact h.newest
  record := by
    rcases hmoves.record with ⟨hlast, hwiped⟩ | ⟨hlast, hwiped⟩
    · rw [hlast, lastRecord, hmoves.mics, hwiped]
      exact h.record
    · rw [hlast, lastRecord, hwiped]
      split <;> rfl
  trigger := by
    rw [hmoves.clock.1, hmoves.clock.2, hmoves.trigger]
    exact h.trigger
  set := by
    rw [hmoves.flag.1, hmoves.flag.2, hmoves.trigger]
    exact h.set
  clear := by
    rw [hmoves.flag.1, BanOver, hmoves.clock.2, hmoves.trigger]
    exact h.clear

theorem Holds.moves_iff (h : Holds hz s) (hmoves : Moves k s t) : Holds hz t ↔ (0 < k → BanOver hz s s.now) := by
  have hmem : ∀ j, j ∈ t.joins ↔ (k ≠ 0 ∧ j = (s.now, s.trigger)) ∨ j ∈ s.joins := by
    intro j
    rw [hmoves.joins, List.mem_append, List.mem_replicate]
  constructor
  · intro ht hk time htime
    exact ht.joins (s.now, s.trigger) ((hmem _).mpr (Or.inl ⟨hk.ne', rfl⟩)) time htime
  · intro hban
    refine ⟨?_, fun j hj time htime => ?_⟩
    · rw [hmoves.mics]
      exact h.reacts
    rcases (hmem j).mp hj with ⟨hk, rfl⟩ | hold
    · exact hban (Nat.pos_of_ne_zero hk) time htime
    · exact h.joins j hold time htime

theorem Tracks.lift (h : Tracks hz s) (hban : BanOver hz s s.now) :
    Tracks hz { s with btkipCountermeasure := false, btkipCountermeasureTime := 0 } where
  span := h.span
  newest := h.newest
  record := h.record
  trigger := h.trigger
  set := fun hflag => absurd hflag Bool.false_ne_true
  clear := fun _ => hban

theorem handleTkipCountermeasure_safe (h : Tracks hz s) (hs : Holds hz s) (record : MlmeJoin → MlmeJoin)
    (env : DoJoinEnv) :
    Tracks hz (s.handleTkipCountermeasure hz record env) ∧ Holds hz (s.handleTkipCountermeasure hz record env) := by
  rw [TkipState.handleTkipCountermeasure]
  split
  next hflag =>
    obtain ⟨time, htime, hset⟩ := h.set hflag
    have hwithin := h.trigger time htime
    split
    next hlong =>
      rw [hset, TkipState.rtwGetCurrentTime, toNat_elapsed hwithin.2 (by have := h.span.2; omega)] at hlong
      have hban : BanOver hz s s.now := by
        intro t ht
        obtain rfl := Option.some.inj (htime.symm.trans ht)
        omega
      obtain ⟨k, hk⟩ := Moves.joinNow { s with btkipCountermeasure := false, btkipCountermeasureTime := 0 } record env
      have hlift : Holds hz { s with btkipCountermeasure := false, btkipCountermeasureTime := 0 } := ⟨hs.reacts, hs.joins⟩
      exact ⟨(h.lift hban).moves hk, (hlift.moves_iff hk).mpr fun _ => hban⟩
    · exact ⟨h, hs⟩
  next hflag =>
    obtain ⟨k, hk⟩ := Moves.joinNow s record env
    exact ⟨h.moves hk, (hs.moves_iff hk).mpr fun _ => h.clear (Bool.eq_false_iff.mpr hflag)⟩

theorem request_safe (h : Tracks hz s) (hs : Holds hz s) {leave : TkipState → Option TkipState}
    (hleave : ∀ t u, leave t = some u → Moves 0 t u) (record : MlmeJoin → MlmeJoin) (env : DoJoinEnv)
    {request : TkipState → TkipState}
    (hnone : ∀ t, t.requestGate leave = none → request t = t)
    (hsome : ∀ t u, t.requestGate leave = some u → request t = u.handleTkipCountermeasure hz record env) :
    Tracks hz (s.locked request) ∧ Holds hz (s.locked request) := by
  have hlock := Moves.onMlme s (·.spinLockBh)
  have hopen : ∀ t, Tracks hz t → Holds hz t →
      Tracks hz (t.onMlme (·.spinUnlockBh)) ∧ Holds hz (t.onMlme (·.spinUnlockBh)) := by
    intro t ht hst
    have hunlock := Moves.onMlme t (·.spinUnlockBh)
    exact ⟨ht.moves hunlock, (hst.moves_iff hunlock).mpr fun hk => absurd hk (lt_irrefl 0)⟩
  have hl : Tracks hz (s.onMlme (·.spinLockBh)) := h.moves hlock
  have hsl : Holds hz (s.onMlme (·.spinLockBh)) := (hs.moves_iff hlock).mpr fun hk => absurd hk (lt_irrefl 0)
  rw [TkipState.locked]
  cases hgate : (s.onMlme (·.spinLockBh)).requestGate leave with
  | none =>
    rw [hnone _ hgate]
    exact hopen _ hl hsl
  | some u =>
    have hu := Moves.requestGate (fun t => hleave _ t) hgate
    obtain ⟨hdone, hsdone⟩ := handleTkipCountermeasure_safe (hl.moves hu)
      ((hsl.moves_iff hu).mpr fun hk => absurd hk (lt_irrefl 0)) record env
    rw [hsome _ u hgate]
    exact hopen _ hdone hsdone

theorem rtwSet80211Bssid_safe (h : Tracks hz s) (hs : Holds hz s) (bssid : MacAddr) (env : DoJoinEnv) :
    Tracks hz (s.rtwSet80211Bssid hz bssid env) ∧ Holds hz (s.rtwSet80211Bssid hz bssid env) := by
  rw [TkipState.rtwSet80211Bssid]
  split
  · exact ⟨h, hs⟩
  · refine request_safe h hs (fun t u => Moves.leaveBssid bssid)
      (fun m => { m with assocBssid := bssid, assocByBssid := true }) env (fun t ht => ?_) (fun t u ht => ?_)
    · rw [ht]
    · rw [ht]

theorem rtwSet80211Ssid_safe (h : Tracks hz s) (hs : Holds hz s) (ssid : Ndis80211Ssid) (hwInitCompleted sameIbss : Bool)
    (env : DoJoinEnv) :
    Tracks hz (s.rtwSet80211Ssid hz ssid hwInitCompleted sameIbss env) ∧
      Holds hz (s.rtwSet80211Ssid hz ssid hwInitCompleted sameIbss env) := by
  rw [TkipState.rtwSet80211Ssid]
  split
  · exact ⟨h, hs⟩
  · refine request_safe h hs (fun t u => Moves.leaveSsid ssid sameIbss)
      (fun m => { m with assocSsid := ssid, assocByBssid := false }) env (fun t ht => ?_) (fun t u ht => ?_)
    · rw [ht]
    · rw [ht]

/-! ## A failure -/

theorem reacts_cons {mics : List (ℕ × Bool)} (h : Reacts hz mics) (time : ℕ) (b : Bool) :
    Reacts hz ((time, b) :: mics) ↔ ((∃ t rest, mics = (t, false) :: rest ∧ time < t + 60 * hz) → b = true) := by
  cases mics with
  | nil => exact ⟨fun _ ⟨_, _, hnil, _⟩ => absurd hnil (List.cons_ne_nil _ _).symm, fun _ => trivial⟩
  | cons m rest =>
    rw [Reacts]
    constructor
    · rintro ⟨hreact, -⟩ ⟨t, rest', hcons, hsoon⟩
      obtain ⟨rfl, -⟩ := List.cons_eq_cons.mp hcons
      exact hreact hsoon rfl
    · intro hreact
      refine ⟨fun hsoon hfalse => hreact ⟨m.1, rest, ?_, hsoon⟩, h⟩
      rw [← hfalse]

theorem Tracks.record_eq_zero (h : Tracks hz s) :
    s.lastMicErrTime = 0 ↔ ∀ t rest, s.mics = (t, false) :: rest → s.wiped = true := by
  rw [h.record, lastRecord]
  split
  next t rest hmics =>
    cases hwiped : s.wiped with
    | false =>
      refine iff_of_false ?_ fun hall => absurd (hall t rest hmics) Bool.false_ne_true
      exact (h.newest (t, false) rest hmics).2.2
    | true => exact iff_of_true rfl fun _ _ _ => rfl
  next hother => exact iff_of_true rfl fun t rest hmics => absurd hmics (hother t rest)

theorem Tracks.record_of_ne_zero (h : Tracks hz s) (hlast : s.lastMicErrTime ≠ 0) :
    ∃ t rest, s.mics = (t, false) :: rest ∧ s.wiped = false ∧ s.lastMicErrTime = BitVec.ofNat 32 t := by
  have hsome := mt h.record_eq_zero.mpr hlast
  push Not at hsome
  obtain ⟨t, rest, hmics, hwiped⟩ := hsome
  refine ⟨t, rest, hmics, Bool.eq_false_iff.mpr hwiped, ?_⟩
  rw [h.record, lastRecord, hmics, Bool.eq_false_iff.mpr hwiped]
  rfl

theorem Tracks.rtwHandleTkipMicErr (h : Tracks hz s) (hnow : BitVec.ofNat 32 s.now ≠ 0) :
    Tracks hz (s.rtwHandleTkipMicErr hz) := by
  have hnewest : ∀ b, ∀ m rest, (s.now, b) :: s.mics = m :: rest →
      s.first ≤ m.1 ∧ m.1 ≤ s.now ∧ BitVec.ofNat 32 m.1 ≠ 0 := by
    intro b m rest hm
    obtain ⟨rfl, -⟩ := List.cons_eq_cons.mp hm
    exact ⟨h.span.1, le_refl s.now, hnow⟩
  rw [TkipState.rtwHandleTkipMicErr]
  split
  · exact ⟨h.span, hnewest false, rfl, h.trigger, h.set, h.clear⟩
  split
  · exact ⟨h.span, hnewest true, rfl, fun t ht => Option.some.inj ht ▸ ⟨h.span.1, le_refl s.now⟩,
      fun _ => ⟨s.now, rfl, rfl⟩, fun hflag => absurd hflag Bool.false_ne_true.symm⟩
  · exact ⟨h.span, hnewest false, rfl, h.trigger, h.set, h.clear⟩

/-- It is reacted to unless the record of the failure it follows was wiped. -/
theorem Holds.rtwHandleTkipMicErr_iff (h : Tracks hz s) (hs : Holds hz s) :
    Holds hz (s.rtwHandleTkipMicErr hz) ↔ (Follows hz s s.now → s.wiped = false) := by
  have hiff : ∀ u : TkipState, u.joins = s.joins → (Holds hz u ↔ Reacts hz u.mics) := fun u hjoins =>
    ⟨fun hu => hu.reacts, fun hu => ⟨hu, hjoins ▸ hs.joins⟩⟩
  rw [TkipState.rtwHandleTkipMicErr]
  split
  next hlast =>
    refine (hiff _ ?_).trans ?_
    · rfl
    refine (reacts_cons hs.reacts s.now false).trans ⟨fun hreact hfollows => ?_, fun hkept ⟨t, rest, hmics, hsoon⟩ => ?_⟩
    · exact absurd (hreact hfollows) Bool.false_ne_true
    · exact (hkept ⟨t, rest, hmics, hsoon⟩).symm.trans (h.record_eq_zero.mp hlast t rest hmics)
  next hlast =>
    obtain ⟨t, rest, hmics, hwiped, htime⟩ := h.record_of_ne_zero hlast
    have hwithin := h.newest (t, false) rest hmics
    have helapsed : (s.rtwGetCurrentTime - s.lastMicErrTime).toNat = s.now - t := by
      rw [htime]
      exact toNat_elapsed hwithin.2.1 (by have := h.span.2; have := hwithin.1; dsimp only at this; omega)
    rw [helapsed]
    split
    · refine (hiff _ ?_).trans ?_
      · rfl
      exact iff_of_true ((reacts_cons hs.reacts s.now true).mpr fun _ => rfl) fun _ => hwiped
    next hlong =>
      refine (hiff _ ?_).trans ?_
      · rfl
      refine iff_of_true ((reacts_cons hs.reacts s.now false).mpr ?_) fun _ => hwiped
      rintro ⟨t', rest', hmics', hsoon⟩
      obtain ⟨hhead, -⟩ := List.cons_eq_cons.mp (hmics.symm.trans hmics')
      obtain ⟨rfl, -⟩ := Prod.mk.inj hhead
      exact absurd (by omega) hlong

/-! ## Runs -/

theorem step_keeps {s' : TkipState} {e : TimedEvent} (h : Tracks hz s) (hs : Holds hz s) (htick : Ticks s e)
    (hstep : step hz s e = some s') : Tracks hz s' ∧ (Holds hz s' ↔ Keeps hz s e) := by
  obtain rfl := Option.some.inj hstep
  have ha : Tracks hz (s.atTime e.time) := h.atTime htick
  have hsa : Holds hz (s.atTime e.time) := ⟨hs.reacts, hs.joins⟩
  have hmoves : ∀ {k : ℕ} {t : TkipState}, Moves k (s.atTime e.time) t → Tracks hz t ∧ (Holds hz t ↔
      (0 < k → BanOver hz s e.time)) := fun hm => ⟨ha.moves hm, hsa.moves_iff hm⟩
  have hquiet : ∀ {t : TkipState}, Moves 0 (s.atTime e.time) t → Tracks hz t ∧ (Holds hz t ↔ True) := fun hm =>
    ⟨(hmoves hm).1, (hmoves hm).2.trans (iff_true_intro fun hk => absurd hk (lt_irrefl 0))⟩
  rw [Keeps]
  cases he : e.event with
  | micErr => exact ⟨ha.rtwHandleTkipMicErr htick.2.2, Holds.rtwHandleTkipMicErr_iff ha hsa⟩
  | setBssid bssid env =>
    obtain ⟨hdone, hsdone⟩ := rtwSet80211Bssid_safe ha hsa bssid env
    exact ⟨hdone, iff_true_intro hsdone⟩
  | setSsid ssid hwInitCompleted sameIbss env =>
    obtain ⟨hdone, hsdone⟩ := rtwSet80211Ssid_safe ha hsa ssid hwInitCompleted sameIbss env
    exact ⟨hdone, iff_true_intro hsdone⟩
  | disconnect => exact hquiet (Moves.rtwIndicateDisconnect _)
  | resetSecurity => exact hquiet (Moves.rtwResetSecuritypriv _)
  | roaming env =>
    obtain ⟨k, hk, hroam⟩ := Moves.rtwRoaming (s.atTime e.time) env
    exact ⟨(hmoves hk).1, (hmoves hk).2.trans (imp_congr_left hroam)⟩
  | joinTimeout env =>
    obtain ⟨k, hk, hroam⟩ := Moves.rtwJoinTimeoutHandler (s.atTime e.time) env
    exact ⟨(hmoves hk).1, (hmoves hk).2.trans (imp_congr_left hroam)⟩
  | other mlme dot11AuthAlgrthm =>
    exact hquiet ⟨⟨rfl, rfl⟩, rfl, rfl, ⟨rfl, rfl⟩, Or.inl ⟨rfl, rfl⟩, rfl⟩

/-- Over every run of failures, requests, disconnects and roaming attempts at ticks that span less than 2^32, the
countermeasures hold in every state exactly when no record is wiped that the next failure needs and no roaming station joins
during a ban. -/
theorem always_holds_iff (mlme : MlmeJoin) (time : ℕ) (events : List TimedEvent)
    (hticks : Meets (step hz) Ticks (start mlme time) events) :
    Always (step hz) (Holds hz) (start mlme time) events ↔ Meets (step hz) (Keeps hz) (start mlme time) events := by
  have htotal : ∀ s e, ∃ s', step hz s e = some s' := fun s e => ⟨(s.atTime e.time).handle hz e.event, rfl⟩
  exact always_iff_meets_of_inv htotal (fun _ _ _ => step_keeps) (tracks_start hz mlme time) (holds_start hz mlme time)
    hticks

end

instance decidableTicks (s : TkipState) (e : TimedEvent) : Decidable (Ticks s e) := inferInstanceAs (Decidable (_ ∧ _ ∧ _))

/-- Two failures, and a request in the minute after them and one behind it. -/
def bannedEvents : List TimedEvent :=
  let bssid : MacAddr := Vector.replicate 6 1
  [⟨1, .micErr⟩, ⟨2, .micErr⟩, ⟨3, .setBssid bssid {}⟩, ⟨6003, .setBssid bssid {}⟩]

def idleClient : MlmeJoin := { scanned := Scanned.rtwInitMlmePriv }

theorem always_holds_iff_banned : Always (step 100) (Holds 100) (start idleClient 1) bannedEvents := by
  refine (always_holds_iff idleClient 1 bannedEvents (by decide +kernel)).mpr ?_
  exact ⟨fun _ => rfl, fun _ => rfl, trivial, trivial, trivial⟩

/-- Two failures with an association under 802.1X that ends between them. -/
def forgottenEvents : List TimedEvent :=
  [⟨1, .micErr⟩, ⟨2, .other idleClient dot11AuthAlgrthm_8021X⟩, ⟨3, .disconnect⟩, ⟨4, .micErr⟩]

/-- Two failures, after which the station roams. -/
def roamedEvents : List TimedEvent :=
  [⟨1, .micErr⟩, ⟨2, .micErr⟩, ⟨3, .other { idleClient with toRoaming := 1 } 0⟩, ⟨4, .roaming fun _ => {}⟩]

/-- The disconnect takes the first failure away, and the roaming station joins in the tick after the next. -/
theorem not_always_holds :
    (¬ ∀ (mlme : MlmeJoin) (time : ℕ) (events : List TimedEvent), Meets (step 100) Ticks (start mlme time) events →
      Always (step 100) (fun s => Reacts 100 s.mics) (start mlme time) events) ∧
    ¬ ∀ (mlme : MlmeJoin) (time : ℕ) (events : List TimedEvent), Meets (step 100) Ticks (start mlme time) events →
      Always (step 100) (fun s => ∀ j ∈ s.joins, ∀ t, j.2 = some t → t + 60 * 100 ≤ j.1) (start mlme time) events := by
  refine ⟨fun h => ?_, fun h => ?_⟩
  · have hmics : (run (step 100) (start idleClient 1) forgottenEvents).map (·.mics) = some [(4, false), (1, false)] := by
      decide +kernel
    obtain ⟨s, hrun, hs⟩ := Option.map_eq_some_iff.mp hmics
    have hreacts := (h idleClient 1 forgottenEvents (by decide +kernel)).last hrun
    rw [hs] at hreacts
    exact absurd (hreacts.1 (by norm_num) rfl) Bool.false_ne_true
  · have hjoins : (run (step 100) (start idleClient 1) roamedEvents).map (·.joins) = some [(4, some 2)] := by
      decide +kernel
    obtain ⟨s, hrun, hs⟩ := Option.map_eq_some_iff.mp hjoins
    have hban := (h idleClient 1 roamedEvents (by decide +kernel)).last hrun
    rw [hs] at hban
    exact absurd (hban (4, some 2) List.mem_cons_self 2 rfl) (by norm_num)

end Countermeasure

end Rtl8723au
