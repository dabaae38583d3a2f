import Rtl8723au.Ap.StaKeysTable
import Rtl8723au.Library.LateWrites

/-! The key cache over runs: what the commands in the queue will leave in it is the key of every station that
was given one, unless a command is refused or reaches a station that came after it. -/
namespace Rtl8723au
open Relation Security
set_option autoImplicit false

/-! ## Commands as late writes -/

/-- The entry `set_stakey_hdl` writes for an address. -/
def entryOf (a : RtwAdapter) (addr : MacAddr) : Option ℕ :=
  match rtwGetStainfo a.stapriv (some addr) with
  | some psta =>
    if (a.staInfo psta).macId < 1 ∨ NUM_STA - 4 < (a.staInfo psta).macId then none
    else some ((a.staInfo psta).macId + 3)
  | none => none

def SetStakeyParm.write (pparm : SetStakeyParm) : LateWrites.Write MacAddr ℕ CamEntry :=
  if pparm.algorithm = NO_PRIVACY then .clear pparm.id
  else .put pparm.addr ⟨camCtrl pparm.algorithm, pparm.addr, pparm.key⟩

theorem setStakeyHdl_eq {a : RtwAdapter} (hap : a.mlmeinfoState &&& 0x03 = WIFI_FW_AP_STATE)
    (pparm : SetStakeyParm) (cam : ℕ → CamEntry) :
    (setStakeyHdl a pparm cam).2 = LateWrites.exec (entryOf a) clearedEntry cam pparm.write := by
  unfold setStakeyHdl SetStakeyParm.write
  dsimp only
  rw [if_pos hap]
  by_cases hnone : pparm.algorithm = NO_PRIVACY
  · rw [if_pos hnone, if_pos hnone]
    rfl
  · rw [if_neg hnone, if_neg hnone]
    cases hfind : rtwGetStainfo a.stapriv (some pparm.addr) with
    | none =>
      have hentry : entryOf a pparm.addr = none := by simp only [entryOf, hfind]
      rw [LateWrites.exec_put_none hentry]
    | some psta =>
      dsimp only
      by_cases hrange : (a.staInfo psta).macId < 1 ∨ NUM_STA - 4 < (a.staInfo psta).macId
      · have hentry : entryOf a pparm.addr = none := by simp only [entryOf, hfind, if_pos hrange]
        rw [if_pos hrange, LateWrites.exec_put_none hentry]
      · have hentry : entryOf a pparm.addr = some ((a.staInfo psta).macId + 3) := by
          simp only [entryOf, hfind, if_neg hrange]
        rw [if_neg hrange, LateWrites.exec_put hentry]
        rfl

namespace KeyTable

variable {h : ApHistory} (table : KeyTable h)
include table

theorem macId_range {p : StaId} (hp : p ∈ h.ap.stapriv.asocList) :
    2 ≤ (h.ap.staInfo p).macId ∧ (h.ap.staInfo p).macId ≤ 32 := by
  have hpos : 1 ≤ (h.ap.staInfo p).aid := table.slots.associated p hp
  have hle := table.aid_le p hp
  rw [table.macId p hp]
  omega

/-- Entries of stations are found by their address, as long as the cache has them. -/
theorem entryOf_eq_some {addr : MacAddr} (hu : isMulticastEtherAddr addr = false) {e : ℕ} :
    entryOf h.ap addr = some e ↔ ∃ p ∈ h.ap.stapriv.asocList, (h.ap.staInfo p).hwaddr = addr ∧
      (h.ap.staInfo p).macId ≤ 28 ∧ (h.ap.staInfo p).macId + 3 = e := by
  unfold entryOf
  cases hfind : rtwGetStainfo h.ap.stapriv (some addr) with
  | none =>
    constructor
    · exact fun hsome => absurd hsome.symm (Option.some_ne_none e)
    · rintro ⟨p, hp, haddr, -⟩
      rw [(table.lookup hu).mpr ⟨hp, haddr⟩] at hfind
      exact absurd hfind (Option.some_ne_none p)
  | some q =>
    obtain ⟨hq, hqaddr⟩ := (table.lookup hu).mp hfind
    have hrange := table.macId_range hq
    have honly : ∀ p ∈ h.ap.stapriv.asocList, (h.ap.staInfo p).hwaddr = addr → p = q := fun p hp haddr =>
      table.hwaddr_inj hp hq (haddr.trans hqaddr.symm)
    dsimp only
    by_cases hle : (h.ap.staInfo q).macId ≤ 28
    · rw [if_neg (by unfold NUM_STA; omega)]
      constructor
      · intro hsome
        exact ⟨q, hq, hqaddr, hle, Option.some.inj hsome⟩
      · rintro ⟨p, hp, haddr, -, he⟩
        rw [honly p hp haddr] at he
        rw [he]
    · rw [if_pos (by unfold NUM_STA; omega)]
      constructor
      · exact fun hsome => absurd hsome.symm (Option.some_ne_none e)
      · rintro ⟨p, hp, haddr, hle', -⟩
        rw [honly p hp haddr] at hle'
        exact absurd hle' hle

end KeyTable

theorem entryOf_congr {a a' : RtwAdapter} {addr : MacAddr}
    (hfind : rtwGetStainfo a'.stapriv (some addr) = rtwGetStainfo a.stapriv (some addr))
    (hmac : ∀ p, rtwGetStainfo a.stapriv (some addr) = some p → (a'.staInfo p).macId = (a.staInfo p).macId) :
    entryOf a' addr = entryOf a addr := by
  unfold entryOf
  rw [hfind]
  cases hp : rtwGetStainfo a.stapriv (some addr) with
  | none => rfl
  | some p =>
    dsimp only
    rw [hmac p hp]

theorem entryOf_eq {a a' : RtwAdapter} (hhash : a'.stapriv.staHash = a.stapriv.staHash)
    (hinfo : ∀ p, (a'.staInfo p).hwaddr = (a.staInfo p).hwaddr ∧ (a'.staInfo p).macId = (a.staInfo p).macId) :
    entryOf a' = entryOf a := by
  funext addr
  refine entryOf_congr ?_ fun p _ => (hinfo p).2
  unfold rtwGetStainfo
  dsimp only
  rw [hhash]
  congr 1
  funext psta
  exact congrArg (· == _) (hinfo psta).1

namespace StaKeys

/-! ## The invariant -/

def flushed (s : StaKeys) : ℕ → CamEntry :=
  LateWrites.flush (entryOf s.ap) clearedEntry (s.cmdQueue.map SetStakeyParm.write) s.cam

/-- The key of a station as the cache should have it. -/
def keyEntry (a : RtwAdapter) (p : StaId) : CamEntry :=
  ⟨camCtrl (stakeyAlgorithm a p), (a.staInfo p).hwaddr, (a.staInfo p).dot118021xUncstKey⟩

/-- A command names a station, or an entry behind the default keys. -/
def Named (pparm : SetStakeyParm) : Prop :=
  (pparm.algorithm = NO_PRIVACY → 5 ≤ pparm.id) ∧
    (pparm.algorithm ≠ NO_PRIVACY → isMulticastEtherAddr pparm.addr = false)

/-- Once the queue has run, the stations with a key have it in their entry, and nothing else is left. -/
structure Keyed (s : StaKeys) (defaultKeys : Fin 4 → CamEntry) : Prop where
  table : ∃ accepted, KeyTable ⟨s.ap, accepted⟩
  held : ∀ p ∈ s.ap.stapriv.asocList, s.installed p = true → (s.ap.staInfo p).macId ≤ 28 ∧
    s.flushed ((s.ap.staInfo p).macId + 3) = keyEntry s.ap p
  rest : ∀ e, 4 ≤ e → (∀ p ∈ s.ap.stapriv.asocList, s.installed p = true → (s.ap.staInfo p).macId + 3 ≠ e) →
    s.flushed e = clearedEntry
  named : ∀ pparm ∈ s.cmdQueue, Named pparm
  defaults : ∀ e (he : e < 4), s.cam e = defaultKeys ⟨e, he⟩

theorem Keyed.follows {s : StaKeys} {defaultKeys : Fin 4 → CamEntry} (keyed : s.Keyed defaultKeys)
    (hempty : s.cmdQueue = []) : CamFollows s := by
  have hcam : s.flushed = s.cam := by
    unfold flushed
    rw [hempty]
    rfl
  constructor
  · intro e he _
    by_cases hmine : ∃ p ∈ s.ap.stapriv.asocList, s.installed p = true ∧ (s.ap.staInfo p).macId + 3 = e
    · obtain ⟨p, hp, hinstalled, rfl⟩ := hmine
      have hheld := (keyed.held p hp hinstalled).2
      rw [hcam] at hheld
      exact .inr ⟨p, hp, rfl, by rw [hheld]; rfl, by rw [hheld]; rfl⟩
    · left
      rw [← hcam]
      exact keyed.rest e he fun p hp hinstalled heq => hmine ⟨p, hp, hinstalled, heq⟩
  · intro p hp hinstalled
    obtain ⟨hle, hheld⟩ := keyed.held p hp hinstalled
    rw [hcam] at hheld
    exact ⟨by omega, hheld⟩

theorem start_keyed {config : RtwAdapter} (mode : Protected config) (defaultKeys : Fin 4 → CamEntry) :
    (start config defaultKeys).Keyed defaultKeys where
  table := ⟨_, start_keyTable mode⟩
  held _ hp := absurd hp List.not_mem_nil
  rest _ he _ := dif_neg (not_lt.mpr he)
  named _ hp := absurd hp List.not_mem_nil
  defaults _ he := dif_pos he

theorem exec_default {h : ApHistory} (table : KeyTable h) {pparm : SetStakeyParm} (named : Named pparm)
    (cam : ℕ → CamEntry) {e : ℕ} (he : e < 4) :
    LateWrites.exec (entryOf h.ap) clearedEntry cam pparm.write e = cam e := by
  unfold SetStakeyParm.write
  by_cases hnone : pparm.algorithm = NO_PRIVACY
  · have hid := named.1 hnone
    rw [if_pos hnone, LateWrites.exec_clear]
    exact Function.update_of_ne (by omega) _ _
  · rw [if_neg hnone]
    apply LateWrites.exec_put_of_ne
    intro hentry
    obtain ⟨p, hp, -, -, hmac⟩ := (table.entryOf_eq_some (named.2 hnone)).mp hentry
    have hrange := table.macId_range hp
    omega

namespace Keyed

variable {s : StaKeys} {defaultKeys : Fin 4 → CamEntry} (keyed : s.Keyed defaultKeys)
include keyed

theorem cmdThread : s.cmdThread.Keyed defaultKeys := by
  obtain ⟨accepted, table⟩ := keyed.table
  cases hq : s.cmdQueue with
  | nil =>
    have hstep : s.cmdThread = s := by simp only [StaKeys.cmdThread, hq]
    rw [hstep]
    exact keyed
  | cons pparm rest =>
    have hstep : s.cmdThread = { s with cmdQueue := rest, cam := (setStakeyHdl s.ap pparm s.cam).2 } := by
      simp only [StaKeys.cmdThread, hq]
    have hcam := setStakeyHdl_eq table.mode.apMode pparm s.cam
    have hflushed : s.cmdThread.flushed = s.flushed := by
      rw [hstep]
      unfold flushed
      rw [hq, List.map_cons, LateWrites.flush_cons]
      dsimp only
      rw [hcam]
    have hnamed : ∀ pparm' ∈ pparm :: rest, Named pparm' := hq ▸ keyed.named
    rw [hstep] at hflushed ⊢
    refine ⟨⟨accepted, table⟩, fun p hp hinstalled => ?_, fun e he hnot => ?_, fun pparm' hmem => ?_, fun e he => ?_⟩
    · rw [hflushed]
      exact keyed.held p hp hinstalled
    · rw [hflushed]
      exact keyed.rest e he hnot
    · exact hnamed pparm' (List.mem_cons_of_mem _ hmem)
    · show (setStakeyHdl s.ap pparm s.cam).2 e = _
      rw [hcam, exec_default table (hnamed pparm List.mem_cons_self) s.cam he]
      exact keyed.defaults e he

/-! ### A key -/

omit keyed in
theorem stakeyAlgorithm_ne {a : RtwAdapter} (mode : Protected a) {p : StaId}
    (hprivacy : (a.staInfo p).dot118021XPrivacy = TKIP ∨ (a.staInfo p).dot118021XPrivacy = AES) :
    stakeyAlgorithm a p ≠ NO_PRIVACY := by
  have hcipher : ∀ n, n = TKIP ∨ n = AES → n % 256 ≠ NO_PRIVACY := by
    rintro n (rfl | rfl) <;> decide
  unfold stakeyAlgorithm
  rw [mode.noStation, if_neg Bool.false_ne_true]
  have hauth := mode.auth
  rcases (by omega : a.securitypriv.dot11AuthAlgrthm = 0 ∨ a.securitypriv.dot11AuthAlgrthm = 1 ∨
    a.securitypriv.dot11AuthAlgrthm = 3 ∨ a.securitypriv.dot11AuthAlgrthm = 2) with h | h | h | h
  all_goals simp only [getEncryAlgo, h]
  · exact hcipher _ mode.privacy
  · exact hcipher _ mode.privacy
  · exact hcipher _ mode.privacy
  · exact hcipher _ hprivacy

theorem setKey {p : StaId} (hp : p ∈ s.ap.stapriv.asocList) (hmac : (s.ap.staInfo p).macId ≤ 28)
    (cipher : PairwiseCipher) (key : Skey) : (s.setKey p cipher.algorithm key).Keyed defaultKeys := by
  obtain ⟨accepted, table⟩ := keyed.table
  let info : StaInfo := { s.ap.staInfo p with dot118021xUncstKey := key, dot118021XPrivacy := cipher.algorithm }
  have hstep : s.setKey p cipher.algorithm key =
      { ({ s with ap := s.ap.setInfo p info } : StaKeys).rtwSetstakeyCmd p true with
        installed := Function.update s.installed p true } := if_pos hp
  generalize s.setKey p cipher.algorithm key = s' at hstep
  have hcaps : (s.ap.staInfo p).SameStation info := ⟨rfl, fun cap => by cases cap <;> rfl⟩
  have hap : s'.ap = { s.ap.setInfo p info with
      securitypriv := { s.ap.securitypriv with busetkipkey := true } } := by rw [hstep]; rfl
  have htable : KeyTable ⟨s'.ap, accepted⟩ := by
    rw [hap]
    exact KeyTable.setKey table hcaps rfl rfl rfl true
  have hself : s'.ap.staInfo p = info := by
    rw [hap]
    exact staInfo_setInfo_self s.ap p info
  have hothers : ∀ q, q ≠ p → s'.ap.staInfo q = s.ap.staInfo q := by
    intro q hq
    rw [hap]
    exact staInfo_setInfo_other s.ap p q info hq
  have hlist : s'.ap.stapriv.asocList = s.ap.stapriv.asocList := by rw [hap]; rfl
  have hinfo : ∀ q, (s'.ap.staInfo q).hwaddr = (s.ap.staInfo q).hwaddr ∧
      (s'.ap.staInfo q).macId = (s.ap.staInfo q).macId := by
    intro q
    by_cases hq : q = p
    · rw [hq, hself]
      exact ⟨rfl, rfl⟩
    · rw [hothers q hq]
      exact ⟨rfl, rfl⟩
  have hentry : entryOf s'.ap = entryOf s.ap := by
    apply entryOf_eq _ hinfo
    rw [hap]
    rfl
  have hprivacy : (s'.ap.staInfo p).dot118021XPrivacy = TKIP ∨ (s'.ap.staInfo p).dot118021XPrivacy = AES := by
    rw [hself]
    cases cipher with
    | tkip => exact .inl rfl
    | aes => exact .inr rfl
  have halg : stakeyAlgorithm s'.ap p ≠ NO_PRIVACY := stakeyAlgorithm_ne htable.mode hprivacy
  have hkeyEntry : ∀ q, q ≠ p → keyEntry s'.ap q = keyEntry s.ap q := by
    intro q hq
    unfold keyEntry stakeyAlgorithm
    rw [hothers q hq, hap]
    rfl
  -- the command behind the others is the key of the station, for its entry
  let pparm : SetStakeyParm := ⟨(s'.ap.staInfo p).hwaddr, stakeyAlgorithm s'.ap p, 0, (s'.ap.staInfo p).dot118021xUncstKey⟩
  have hqueue : s'.cmdQueue = s.cmdQueue ++ [pparm] := by
    show _ = s.cmdQueue ++ [⟨_, stakeyAlgorithm s'.ap p, 0, _⟩]
    rw [hself, hap, hstep]
    show s.cmdQueue ++ [⟨((s.ap.setInfo p info).staInfo p).hwaddr, _, 0, _⟩] = _
    rw [staInfo_setInfo_self]
    rfl
  have hwrite : pparm.write = .put (s'.ap.staInfo p).hwaddr (keyEntry s'.ap p) := if_neg halg
  have hput : entryOf s'.ap (s'.ap.staInfo p).hwaddr = some ((s'.ap.staInfo p).macId + 3) := by
    apply (htable.entryOf_eq_some (htable.unicast p (hlist ▸ hp))).mpr
    exact ⟨p, hlist ▸ hp, rfl, (hinfo p).2 ▸ hmac, rfl⟩
  have hflushed : s'.flushed = Function.update s.flushed ((s'.ap.staInfo p).macId + 3) (keyEntry s'.ap p) := by
    have hcam : s'.cam = s.cam := by rw [hstep]; rfl
    unfold flushed
    rw [hqueue, List.map_append, List.map_singleton, LateWrites.flush_append, hwrite, LateWrites.exec_put hput,
      hentry, hcam]
  have hinstalled : ∀ q, q ≠ p → s'.installed q = s.installed q := by
    intro q hq
    rw [hstep]
    exact Function.update_of_ne hq _ _
  refine ⟨⟨accepted, htable⟩, fun q hq hin => ?_, fun e he hnot => ?_, fun pparm' hmem => ?_, fun e he => ?_⟩
  · rw [hflushed]
    by_cases heq : q = p
    · rw [heq, Function.update_self]
      exact ⟨(hinfo p).2 ▸ hmac, rfl⟩
    · have hold := keyed.held q (hlist ▸ hq) (hinstalled q heq ▸ hin)
      have hne : (s'.ap.staInfo q).macId + 3 ≠ (s'.ap.staInfo p).macId + 3 := fun hsame =>
        heq (htable.macId_inj hq (hlist ▸ hp) (Nat.add_right_cancel hsame))
      rw [Function.update_of_ne hne, (hinfo q).2, hkeyEntry q heq]
      exact hold
  · have hne : e ≠ (s'.ap.staInfo p).macId + 3 := by
      have hon : s'.installed p = true := by rw [hstep]; exact Function.update_self ..
      exact fun heq => hnot p (hlist ▸ hp) hon heq.symm
    rw [hflushed, Function.update_of_ne hne]
    refine keyed.rest e he fun q hq hin hsame => ?_
    have hqp : q ≠ p := by
      rintro rfl
      exact hne ((hinfo q).2 ▸ hsame.symm)
    exact hnot q (hlist ▸ hq) (hinstalled q hqp ▸ hin) ((hinfo q).2 ▸ hsame)
  · rw [hqueue] at hmem
    rcases List.mem_append.mp hmem with hold | hnew
    · exact keyed.named pparm' hold
    · rw [List.mem_singleton.mp hnew]
      exact ⟨fun hnone => absurd hnone halg, fun _ => htable.unicast p (hlist ▸ hp)⟩
  · have hcam : s'.cam = s.cam := by rw [hstep]; rfl
    rw [hcam]
    exact keyed.defaults e he

/-! ### A station that leaves -/

theorem leave {p : StaId} (hp : p ∈ s.ap.stapriv.asocList) : (s.leave p).Keyed defaultKeys := by
  obtain ⟨accepted, table⟩ := keyed.table
  have htable : KeyTable ⟨asocListLeave s.ap p, accepted⟩ := table.leave hp
  have hleft := asocListLeave_left s.ap hp
  have hrange := table.macId_range hp
  have hhashed : s.ap.stapriv.Hashed p := (table.hashed p).mpr (.inr hp)
  have hu := table.unicast p hp
  let pparm : SetStakeyParm := { addr := (s.ap.staInfo p).hwaddr, algorithm := NO_PRIVACY, id := (s.ap.staInfo p).macId + 3 }
  have hstep : s.leave p = { s with
      ap := asocListLeave s.ap p
      cmdQueue := s.cmdQueue ++ [pparm]
      installed := Function.update s.installed p false } := by
    have hid : ((s.ap.staInfo p).macId + 3) % 256 = (s.ap.staInfo p).macId + 3 := Nat.mod_eq_of_lt (by
      have hle : (s.ap.staInfo p).macId ≤ 32 := hrange.2
      omega)
    unfold StaKeys.leave
    rw [if_pos hp, hid]
    rfl
  -- nobody but the station is found differently
  have hfind : ∀ addr, addr ≠ (s.ap.staInfo p).hwaddr →
      rtwGetStainfo (asocListLeave s.ap p).stapriv (some addr) = rtwGetStainfo s.ap.stapriv (some addr) := by
    intro addr haddr
    apply Option.ext
    intro q
    rw [htable.find_iff, table.find_iff]
    show (asocListLeave s.ap p).stapriv.Hashed q ∧ ((asocListLeave s.ap p).staInfo q).hwaddr = _ ↔ _
    rw [hleft.hashed]
    by_cases hq : q = p
    · have hnot : (s.ap.staInfo p).hwaddr ≠ if isMulticastEtherAddr addr then bcAddr else addr := by
        cases hm : isMulticastEtherAddr addr with
        | true =>
          intro heq
          rw [show (s.ap.staInfo p).hwaddr = bcAddr from heq] at hu
          exact absurd hu (by decide)
        | false => exact fun heq => haddr heq.symm
      rw [hq]
      exact ⟨fun h => absurd rfl h.1.2, fun h => absurd h.2 hnot⟩
    · rw [hleft.others q hq, and_iff_left hq]
  have hothers : ∀ addr, addr ≠ (s.ap.staInfo p).hwaddr → entryOf (asocListLeave s.ap p) addr = entryOf s.ap addr := by
    intro addr haddr
    refine entryOf_congr (hfind addr haddr) fun q hq => ?_
    rw [← hfind addr haddr] at hq
    have hhashed' : (asocListLeave s.ap p).stapriv.Hashed q := ((htable.find_iff).mp hq).1
    rw [hleft.others q ((hleft.hashed q).mp hhashed').2]
  have hgone : ∀ e, entryOf (asocListLeave s.ap p) (s.ap.staInfo p).hwaddr ≠ some e := by
    intro e hentry
    obtain ⟨q, hq, haddr, -⟩ := (htable.entryOf_eq_some hu).mp hentry
    obtain ⟨hq', hne⟩ := (hleft.asocList q).mp hq
    have haddr' : (s.ap.staInfo q).hwaddr = (s.ap.staInfo p).hwaddr := by
      rw [← hleft.others q hne]
      exact haddr
    exact hne (table.hwaddr_inj hq' hp haddr')
  have hown : ∀ e, e ≠ (s.ap.staInfo p).macId + 3 → entryOf s.ap (s.ap.staInfo p).hwaddr ≠ some e := by
    intro e hne hentry
    obtain ⟨q, hq, haddr, -, rfl⟩ := (table.entryOf_eq_some hu).mp hentry
    rw [table.hwaddr_inj hq hp haddr] at hne
    exact hne rfl
  have hflushed : ∀ e, (s.leave p).flushed e = if e = (s.ap.staInfo p).macId + 3 then clearedEntry else s.flushed e := by
    intro e
    rw [hstep]
    unfold flushed
    have hwrite : pparm.write = .clear ((s.ap.staInfo p).macId + 3) := if_pos rfl
    rw [List.map_append, List.map_singleton, LateWrites.flush_append, hwrite, LateWrites.exec_clear]
    by_cases heq : e = (s.ap.staInfo p).macId + 3
    · rw [if_pos heq, heq, Function.update_self]
    · rw [if_neg heq, Function.update_of_ne heq]
      exact LateWrites.flush_congr_of_ne hothers (hown e heq) (hgone e) rfl
  rw [hstep] at hflushed ⊢
  refine ⟨⟨accepted, htable⟩, fun q hq hin => ?_, fun e he hnot => ?_, fun pparm' hmem => ?_, keyed.defaults⟩
  · obtain ⟨hq', hne⟩ := (hleft.asocList q).mp hq
    have hin' : s.installed q = true := by
      rw [← Function.update_of_ne hne false s.installed]
      exact hin
    have hold := keyed.held q hq' hin'
    have hsame : (asocListLeave s.ap p).staInfo q = s.ap.staInfo q := hleft.others q hne
    have hentry : (s.ap.staInfo q).macId + 3 ≠ (s.ap.staInfo p).macId + 3 := fun heq =>
      hne (table.macId_inj hq' hp (Nat.add_right_cancel heq))
    have hkeyEntry : keyEntry (asocListLeave s.ap p) q = keyEntry s.ap q := by
      unfold keyEntry stakeyAlgorithm RtwAdapter.checkFwstate
      rw [hsame, hleft.securitypriv, hleft.fwState]
    show ((asocListLeave s.ap p).staInfo q).macId ≤ 28 ∧ _ = keyEntry (asocListLeave s.ap p) q
    rw [hflushed, hsame, if_neg hentry, hkeyEntry]
    exact hold
  · rw [hflushed]
    by_cases heq : e = (s.ap.staInfo p).macId + 3
    · rw [if_pos heq]
    · rw [if_neg heq]
      refine keyed.rest e he fun q hq hin hsame => ?_
      have hne : q ≠ p := by
        rintro rfl
        exact heq hsame.symm
      refine hnot q ((hleft.asocList q).mpr ⟨hq, hne⟩) ?_ ?_
      · exact (Function.update_of_ne hne false s.installed).trans hin
      · show ((asocListLeave s.ap p).staInfo q).macId + 3 = e
        rw [hleft.others q hne]
        exact hsame
  · rcases List.mem_append.mp hmem with hold | hnew
    · exact keyed.named pparm' hold
    · rw [List.mem_singleton.mp hnew]
      exact ⟨fun _ => show 5 ≤ (s.ap.staInfo p).macId + 3 from Nat.add_le_add_right hrange.1 3, fun hne => absurd rfl hne⟩

/-! ### A station that associates -/

theorem reassociate {p : StaId} (hp : p ∈ s.ap.stapriv.asocList) :
    ({ s with ap := (assocAccept s.ap p (s.ap.staInfo p)).1 } : StaKeys).Keyed defaultKeys := by
  obtain ⟨accepted, table⟩ := keyed.table
  have htable : KeyTable ⟨(assocAccept s.ap p (s.ap.staInfo p)).1, accepted⟩ := table.reassociate hp
  have hacc := assocAccept_old s.ap p (table.slots.associated p hp)
  generalize (assocAccept s.ap p (s.ap.staInfo p)).1 = a' at htable hacc ⊢
  have hlist : a'.stapriv.asocList = s.ap.stapriv.asocList := by rw [hacc.asocList, if_pos hp]
  have hsame : ∀ q, (s.ap.staInfo q).SameKey (a'.staInfo q) := by
    intro q
    by_cases hq : q = p
    · have hmac : (s.ap.staInfo p).macId = (s.ap.staInfo p).aid + 1 := table.macId p hp
      rw [hq]
      exact ⟨hacc.sameKey.hwaddr, hacc.sameKey.macId.trans hmac.symm, hacc.sameKey.privacy, hacc.sameKey.key⟩
    · exact (hacc.others q hq).1
  have hentry : entryOf a' = entryOf s.ap := entryOf_eq hacc.staHash fun q => ⟨(hsame q).hwaddr, (hsame q).macId⟩
  have hflushed : ({ s with ap := a' } : StaKeys).flushed = s.flushed := by
    unfold flushed
    dsimp only
    rw [hentry]
  have hkeyEntry : ∀ q, keyEntry a' q = keyEntry s.ap q := by
    intro q
    unfold keyEntry stakeyAlgorithm RtwAdapter.checkFwstate getEncryAlgo
    rw [hacc.securitypriv, hacc.fwState, (hsame q).hwaddr, (hsame q).key, (hsame q).privacy]
  refine ⟨⟨accepted, htable⟩, fun q hq hin => ?_, fun e he hnot => ?_, keyed.named, keyed.defaults⟩
  · show (a'.staInfo q).macId ≤ 28 ∧ _ = keyEntry a' q
    rw [hflushed, hkeyEntry, (hsame q).macId]
    exact keyed.held q (hlist ▸ hq) hin
  · rw [hflushed]
    refine keyed.rest e he fun q hq hin heq => hnot q (hlist.symm ▸ hq : q ∈ a'.stapriv.asocList) hin ?_
    show (a'.staInfo q).macId + 3 = e
    rw [(hsame q).macId]
    exact heq

/-- A station that is new to the table: what waits for its address must not end in its entry. -/
theorem enlist {sa : MacAddr} (hu : isMulticastEtherAddr sa = false)
    (hmissing : rtwGetStainfo s.ap.stapriv (some sa) = none) {sp : StaPriv} {p : StaId}
    (halloc : rtwAllocStainfo s.ap.stapriv sa = (sp, some p))
    (hends : firstFreeAid s.ap.stapriv ≤ 27 → LateWrites.endsWith sa (firstFreeAid s.ap.stapriv + 4)
      (s.cmdQueue.map SetStakeyParm.write) = false) :
    ({ s with
      ap := (assocAccept (s.ap.setStapriv sp) p (sp.staInfo p)).1
      installed := Function.update s.installed p false } : StaKeys).Keyed defaultKeys := by
  obtain ⟨accepted, table⟩ := keyed.table
  obtain ⟨hne, hunlisted, hacc, accepted', htable⟩ := table.enlist hu hmissing halloc
  obtain ⟨rest, -, hsp⟩ := rtwAllocStainfo_some halloc
  have hself : sp.staInfo p = allocInfo sa := by
    rw [hsp]
    exact setInfo_self _ p _
  have hold : ∀ q, q ≠ p → sp.staInfo q = s.ap.staInfo q := by
    intro q hq
    rw [hsp]
    exact setInfo_other _ p q _ hq
  have hasoc : sp.asocList = s.ap.stapriv.asocList := by rw [hsp]; rfl
  have hhash : ∀ q, sp.Hashed q ↔ s.ap.stapriv.Hashed q ∨ q = p := by
    intro q
    rw [hsp]
    exact @TableLinks.hashed_alloc s.ap.stapriv.links p q rest (wifiMacHash sa)
  generalize (assocAccept (s.ap.setStapriv sp) p (sp.staInfo p)).1 = a' at htable hacc ⊢
  generalize firstFreeAid s.ap.stapriv = n at hends hacc
  have hlist : ∀ q, q ∈ a'.stapriv.asocList ↔ q ∈ s.ap.stapriv.asocList ∨ q = p := by
    intro q
    have hnot : p ∉ (s.ap.setStapriv sp).stapriv.asocList := hasoc ▸ hunlisted
    rw [hacc.asocList, if_neg hnot, List.mem_append, List.mem_singleton]
    show q ∈ sp.asocList ∨ q = p ↔ _
    rw [hasoc]
  have hothers : ∀ q, q ≠ p → (s.ap.staInfo q).SameKey (a'.staInfo q) := by
    intro q hq
    have hq' := (hacc.others q hq).1
    have hsame : (s.ap.setStapriv sp).staInfo q = s.ap.staInfo q := hold q hq
    rw [hsame] at hq'
    exact hq'
  have haddr : (a'.staInfo p).hwaddr = sa := hacc.sameKey.hwaddr.trans (congrArg StaInfo.hwaddr hself)
  have hmac : (a'.staInfo p).macId = n + 1 := hacc.sameKey.macId
  have hmem : p ∈ a'.stapriv.asocList := (hlist p).mpr (.inr rfl)
  -- nobody but the station is found differently
  have hfind : ∀ addr, addr ≠ sa → rtwGetStainfo a'.stapriv (some addr) = rtwGetStainfo s.ap.stapriv (some addr) := by
    intro addr hneaddr
    apply Option.ext
    intro q
    have hhashed : a'.stapriv.Hashed q ↔ s.ap.stapriv.Hashed q ∨ q = p := by
      show (∃ index, q ∈ a'.stapriv.staHash index) ↔ _
      rw [hacc.staHash]
      exact hhash q
    rw [htable.find_iff, table.find_iff]
    show a'.stapriv.Hashed q ∧ (a'.staInfo q).hwaddr = _ ↔ _
    rw [hhashed]
    by_cases hq : q = p
    · have hnot : sa ≠ if isMulticastEtherAddr addr then bcAddr else addr := by
        cases hm : isMulticastEtherAddr addr with
        | true =>
          intro heq
          rw [show sa = bcAddr from heq] at hu
          exact absurd hu (by decide)
        | false => exact fun heq => hneaddr heq.symm
      have hunhashed : ¬ s.ap.stapriv.Hashed p := fun hin => ((table.hashed p).mp hin).elim hne hunlisted
      rw [hq, haddr]
      exact ⟨fun h => absurd h.2 hnot, fun h => absurd h.1 hunhashed⟩
    · rw [(hothers q hq).hwaddr, or_iff_left hq]
  have hentry : ∀ addr, addr ≠ sa → entryOf a' addr = entryOf s.ap addr := by
    intro addr hneaddr
    refine entryOf_congr (hfind addr hneaddr) fun q hq => (hothers q fun heq => ?_).macId
    have hhashed := (table.find_iff.mp hq).1
    exact ((table.hashed p).mp (heq ▸ hhashed)).elim hne hunlisted
  have hnone : entryOf s.ap sa = none := by simp only [entryOf, hmissing]
  have hunowned : ∀ q ∈ s.ap.stapriv.asocList, (s.ap.staInfo q).macId ≠ n + 1 := by
    intro q hq heq
    have hqp : q ≠ p := fun h => hunlisted (h ▸ hq)
    have hsame : (a'.staInfo q).macId = (a'.staInfo p).macId := (hothers q hqp).macId.trans (heq.trans hmac.symm)
    exact hqp (htable.macId_inj ((hlist q).mpr (.inl hq)) hmem hsame)
  have hfree : s.flushed (n + 4) = clearedEntry :=
    keyed.rest (n + 4) (Nat.le_add_left 4 n) fun q hq _ heq => hunowned q hq (by omega)
  have hflushed : ({ s with ap := a', installed := Function.update s.installed p false } : StaKeys).flushed = s.flushed := by
    funext e
    unfold flushed
    dsimp only
    by_cases hmine : e = n + 4 ∧ n ≤ 27
    · obtain ⟨rfl, hle⟩ := hmine
      refine LateWrites.flush_of_new hentry (fun addr hneaddr hsome => ?_) (hends hle)
      unfold entryOf at hsome
      cases hq : rtwGetStainfo s.ap.stapriv (some addr) with
      | none =>
        rw [hq] at hsome
        exact absurd hsome.symm (Option.some_ne_none _)
      | some q =>
        rw [hq] at hsome
        dsimp only at hsome
        split at hsome
        · exact absurd hsome.symm (Option.some_ne_none _)
        · have hmacq := Option.some.inj hsome
          rcases (table.hashed q).mp (table.find_iff.mp hq).1 with rfl | hq'
          · have hone : (s.ap.staInfo 0).macId = 1 := table.bcmc.2.2
            have hpos := htable.macId_range hmem
            have hmac' : ({ ap := a', accepted := accepted' } : ApHistory).ap.staInfo p = a'.staInfo p := rfl
            rw [hmac', hmac] at hpos
            omega
          · exact hunowned q hq' (by omega)
    · refine LateWrites.flush_congr_of_ne hentry ?_ ?_ rfl
      · rw [hnone]
        exact (Option.some_ne_none e).symm
      · intro hsome
        obtain ⟨q, hq, hqaddr, hqle, hqe⟩ := (htable.entryOf_eq_some hu).mp hsome
        have hqp : q = p := htable.hwaddr_inj hq hmem (hqaddr.trans haddr.symm)
        rw [hqp] at hqle hqe
        have hmac' : ({ ap := a', accepted := accepted' } : ApHistory).ap.staInfo p = a'.staInfo p := rfl
        rw [hmac', hmac] at hqle hqe
        exact hmine ⟨by omega, by omega⟩
  have hkeyEntry : ∀ q, q ≠ p → keyEntry a' q = keyEntry s.ap q := by
    intro q hq
    unfold keyEntry stakeyAlgorithm RtwAdapter.checkFwstate getEncryAlgo
    have hsec : a'.securitypriv = s.ap.securitypriv := hacc.securitypriv
    have hfw : a'.fwState = s.ap.fwState := hacc.fwState
    rw [hsec, hfw, (hothers q hq).hwaddr, (hothers q hq).key, (hothers q hq).privacy]
  refine ⟨⟨accepted', htable⟩, fun q hq hin => ?_, fun e he hnot => ?_, keyed.named, keyed.defaults⟩
  · have hqp : q ≠ p := by
      rintro rfl
      have hoff : Function.update s.installed q false q = true := hin
      rw [Function.update_self] at hoff
      exact Bool.false_ne_true hoff
    have hin' : s.installed q = true := (Function.update_of_ne hqp false s.installed).symm.trans hin
    have hq' : q ∈ s.ap.stapriv.asocList := ((hlist q).mp hq).resolve_right hqp
    show (a'.staInfo q).macId ≤ 28 ∧ _ = keyEntry a' q
    rw [hflushed, hkeyEntry q hqp, (hothers q hqp).macId]
    exact keyed.held q hq' hin'
  · rw [hflushed]
    refine keyed.rest e he fun q hq hin heq => ?_
    have hqp : q ≠ p := fun h => hunlisted (h ▸ hq)
    refine hnot q ((hlist q).mpr (.inl hq)) ((Function.update_of_ne hqp false s.installed).trans hin) ?_
    show (a'.staInfo q).macId + 3 = e
    rw [(hothers q hqp).macId]
    exact heq

theorem associate {sa : MacAddr} (hu : isMulticastEtherAddr sa = false)
    (hends : rtwGetStainfo s.ap.stapriv (some sa) = none → firstFreeAid s.ap.stapriv ≤ 27 →
      LateWrites.endsWith sa (firstFreeAid s.ap.stapriv + 4) (s.cmdQueue.map SetStakeyParm.write) = false) :
    (s.associate sa).Keyed defaultKeys := by
  unfold StaKeys.associate
  cases hfind : rtwGetStainfo s.ap.stapriv (some sa) with
  | some p =>
    obtain ⟨accepted, table⟩ := keyed.table
    exact keyed.reassociate ((table.lookup hu).mp hfind).1
  | none =>
    dsimp only
    rcases halloc : rtwAllocStainfo s.ap.stapriv sa with ⟨sp, _ | p⟩
    · exact keyed
    · exact keyed.enlist hu hfind halloc (hends hfind)

end Keyed

/-! ## Runs -/

/-- A key is for a station whose identifier has an entry, and a station new to the table does not get an entry
that the queue will leave an old key of its address in. -/
def Clean (s : StaKeys) : KeyEvent → Prop
  | .setKey psta _ _ => psta ∈ s.ap.stapriv.asocList → (s.ap.staInfo psta).aid ≤ 27
  | .associate sa => rtwGetStainfo s.ap.stapriv (some sa.1) = none → firstFreeAid s.ap.stapriv ≤ 27 →
    LateWrites.endsWith sa.1 (firstFreeAid s.ap.stapriv + 4) (s.cmdQueue.map SetStakeyParm.write) = false
  | .leave _ | .cmdThread => True

/-- Every event of the run is clean in the state it meets. -/
def Along (s : StaKeys) : List KeyEvent → Prop
  | [] => True
  | event :: events => s.Clean event ∧ (s.step event).Along events

theorem Keyed.step {s : StaKeys} {defaultKeys : Fin 4 → CamEntry} (keyed : s.Keyed defaultKeys)
    {event : KeyEvent} (clean : s.Clean event) : (s.step event).Keyed defaultKeys := by
  cases event with
  | associate sa => exact keyed.associate sa.2 clean
  | setKey p cipher key =>
    by_cases hp : p ∈ s.ap.stapriv.asocList
    · obtain ⟨accepted, table⟩ := keyed.table
      have haid : (s.ap.staInfo p).aid ≤ 27 := clean hp
      have hmac : (s.ap.staInfo p).macId = (s.ap.staInfo p).aid + 1 := table.macId p hp
      exact keyed.setKey hp (by omega) cipher key
    · have hstep : s.step (.setKey p cipher key) = s := if_neg hp
      rw [hstep]
      exact keyed
  | leave p =>
    by_cases hp : p ∈ s.ap.stapriv.asocList
    · exact keyed.leave hp
    · have hstep : s.step (.leave p) = s := if_neg hp
      rw [hstep]
      exact keyed
  | cmdThread => exact keyed.cmdThread

theorem Keyed.run {s : StaKeys} {defaultKeys : Fin 4 → CamEntry} (keyed : s.Keyed defaultKeys)
    {events : List KeyEvent} (along : s.Along events) : (s.run events).Keyed defaultKeys := by
  induction events generalizing s with
  | nil => exact keyed
  | cons event events ih => exact ih (keyed.step along.1) along.2

/-- In every clean run the cache follows the stations whenever the queue is empty, and the default keys are
never touched. -/
theorem cam_follows (config : RtwAdapter) (mode : Protected config) (defaultKeys : Fin 4 → CamEntry)
    (events : List KeyEvent) (along : (start config defaultKeys).Along events) :
    let s := (start config defaultKeys).run events
    (s.cmdQueue = [] → CamFollows s) ∧ ∀ e (he : e < 4), s.cam e = defaultKeys ⟨e, he⟩ := by
  have keyed := (start_keyed mode defaultKeys).run along
  exact ⟨keyed.follows, keyed.defaults⟩

/-! ## Keys out of place -/

def wpa2Ap : RtwAdapter := { openAp with securitypriv := { dot11AuthAlgrthm := 2, dot11PrivacyAlgrthm := AES } }

theorem wpa2Ap_protected : Protected wpa2Ap := by
  constructor <;> decide

def stationAddr (n : UInt8) : StaAddr := ⟨#v[0x02, 0, 0, 0, 0, n], by
  show ((0x02 : UInt8) &&& 1 != 0) = false
  decide⟩

def sampleKey : Skey := Vector.replicate 16 7

/-- A station gets a key, the key is written, the station leaves and its entry is cleared. -/
theorem cam_follows_one :
    let s := (start wpa2Ap fun _ => clearedEntry).run
      [.associate (stationAddr 1), .setKey 1 .aes sampleKey, .cmdThread, .leave 1, .cmdThread]
    (s.cmdQueue = [] → CamFollows s) ∧ ∀ e (_ : e < 4), s.cam e = clearedEntry := by
  apply cam_follows wpa2Ap wpa2Ap_protected
  refine ⟨?_, ?_, trivial, trivial, trivial, trivial⟩
  · exact fun _ _ => rfl
  · intro _
    show (((start wpa2Ap fun _ => clearedEntry).run [.associate (stationAddr 1)]).ap.staInfo 1).aid ≤ 27
    decide +kernel

/-- A station leaves before its key is written and comes back behind another one: the old key is written to
its new entry. -/
theorem cam_stale : ¬ ∀ (config : RtwAdapter) (_ : Protected config) (defaultKeys : Fin 4 → CamEntry)
    (events : List KeyEvent), let s := (start config defaultKeys).run events
    (s.cmdQueue = [] → CamFollows s) ∧ ∀ e (he : e < 4), s.cam e = defaultKeys ⟨e, he⟩ := by
  intro hall
  let events : List KeyEvent := [.associate (stationAddr 1), .setKey 1 .aes sampleKey, .leave 1,
    .associate (stationAddr 2), .associate (stationAddr 1), .cmdThread, .cmdThread]
  have hfollows := (hall wpa2Ap wpa2Ap_protected (fun _ => clearedEntry) events).1 (by decide +kernel)
  have hkey : (((start wpa2Ap fun _ => clearedEntry).run events).cam 6).key = sampleKey := by decide +kernel
  have hnone : ∀ p ∈ ((start wpa2Ap fun _ => clearedEntry).run events).ap.stapriv.asocList,
      (((start wpa2Ap fun _ => clearedEntry).run events).ap.staInfo p).dot118021xUncstKey ≠ sampleKey := by
    decide +kernel
  rcases hfollows.entry 6 (by norm_num) (by norm_num) with hclear | ⟨p, hp, -, -, hheld⟩
  · rw [hclear] at hkey
    exact absurd hkey (by decide)
  · exact hnone p hp (hheld.symm.trans hkey)

end StaKeys

end Rtl8723au
