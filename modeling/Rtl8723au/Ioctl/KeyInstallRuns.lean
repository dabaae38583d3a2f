import Rtl8723au.Ioctl.KeyInstall

/-! Which installations of keys deliver the key and free its memory once. Both helpers free what they have passed to
`rtw_enqueue_cmd`, which has freed it already or is going to use it; so none does that gets as far as the queue. -/
namespace Rtl8723au
open Security GuardedRuns
set_option autoImplicit false

/-! ## The commands of a request -/

namespace KeyInstall

variable {ap : RtwAdapter} {param : IeeeParamCrypt} {paramLen : ℕ} {pwep : Bool} {keyParm : KeyParm} {psta : StaId}

theorem setDefKey_parm : (param.setDefKey ap pwep).2.1 =
    if param.keyLen.toNat ≠ 0 ∧ pwep = true then
      some (.setKey (setGroupKeyParm param.key (if param.keyLen.toNat ≤ 5 then WEP40 else WEP104) param.idx.toNat))
    else none := by
  unfold IeeeParamCrypt.setDefKey
  by_cases hlen : param.keyLen.toNat = 0
  · rw [if_pos hlen, if_neg fun h => h.1 hlen]
  rw [if_neg hlen]
  by_cases hpwep : pwep = true
  · have hbuf : ¬(!pwep) = true := by rw [hpwep]; decide
    have hboth : param.keyLen.toNat ≠ 0 ∧ pwep = true := ⟨hlen, hpwep⟩
    rw [if_neg hbuf, if_pos hboth]
    by_cases hshort : param.keyLen.toNat ≤ 5
    · simp only [if_pos hshort]
      rfl
    · simp only [if_neg hshort]
      rfl
  · have hbuf : (!pwep) = true := by rw [Bool.eq_false_iff.mpr hpwep]; decide
    rw [if_pos hbuf, if_neg fun h => hpwep h.2]

theorem grpKeys_privacy (psecuritypriv : SecurityPriv) :
    (param.grpKeys psecuritypriv).dot118021XGrpPrivacy = param.privacy := by
  unfold IeeeParamCrypt.grpKeys
  dsimp only
  split <;> split <;> rfl

theorem setGrpKey_parm : (param.setGrpKey ap).2.1 =
    some (.setKey (setGroupKeyParm param.key param.privacy param.idx.toNat)) := by
  unfold IeeeParamCrypt.setGrpKey
  dsimp only
  rw [grpKeys_privacy]
  split <;> rfl

theorem setPairwiseKey_parm (ap : RtwAdapter) (param : IeeeParamCrypt) (psta : StaId) : ∃ parm : SetStakeyParm, (param.setPairwiseKey ap psta).2.1 = some (.setStakey parm) ∧
    parm.addr = (ap.staInfo psta).hwaddr ∧ parm.algorithm = param.privacy % 256 ∧
    parm.key = copyKey (ap.staInfo psta).dot118021xUncstKey param.key (min param.keyLen.toNat 16) := by
  refine ⟨_, rfl, ?_⟩
  unfold setPairwiseKeyParm
  dsimp only
  split <;> exact ⟨rfl, rfl, rfl⟩

/-- The ways through `rtw_set_encryption` that lead to a command. -/
inductive Asked (ap : RtwAdapter) (param : IeeeParamCrypt) (pwep : Bool) : KeyParm → Prop
  | defKey (haddr : param.staAddr = bcAddr) (hidx : param.idx.toNat < WEP_KEYS) (hnone : param.algIs "none" = false)
      (hwep : param.algIs "WEP" = true) (hlen : param.keyLen.toNat ≠ 0) (hpwep : pwep = true) :
      Asked ap param pwep
        (.setKey (setGroupKeyParm param.key (if param.keyLen.toNat ≤ 5 then WEP40 else WEP104) param.idx.toNat))
  | grpKey (haddr : param.staAddr = bcAddr) (hidx : param.idx.toNat < WEP_KEYS) (hnone : param.algIs "none" = false)
      (hwep : param.algIs "WEP" = false) (hap : ap.checkFwstate WIFI_AP_STATE = true) (htx : param.setTx = 1) :
      Asked ap param pwep (.setKey (setGroupKeyParm param.key param.privacy param.idx.toNat))
  | staGrpKey (psta : StaId) (haddr : param.staAddr ≠ bcAddr)
      (hsta : rtwGetStainfo ap.stapriv (some param.staAddr) = some psta)
      (hauth : ap.securitypriv.dot11AuthAlgrthm = dot11AuthAlgrthm_8021X)
      (hap : ap.checkFwstate WIFI_AP_STATE = true) (htx : param.setTx ≠ 1) :
      Asked ap param pwep (.setKey (setGroupKeyParm param.key param.privacy param.idx.toNat))
  | pairwise (psta : StaId) (parm : SetStakeyParm) (haddr : param.staAddr ≠ bcAddr)
      (hsta : rtwGetStainfo ap.stapriv (some param.staAddr) = some psta)
      (hauth : ap.securitypriv.dot11AuthAlgrthm = dot11AuthAlgrthm_8021X)
      (hap : ap.checkFwstate WIFI_AP_STATE = true) (htx : param.setTx = 1)
      (hdst : parm.addr = (ap.staInfo psta).hwaddr) (halg : parm.algorithm = param.privacy % 256)
      (hkey : parm.key = copyKey (ap.staInfo psta).dot118021xUncstKey param.key (min param.keyLen.toNat 16)) :
      Asked ap param pwep (.setStakey parm)

theorem rtwSetEncryption_all (hlen : paramLen = SIZEOF_IEEE_PARAM + param.keyLen.toNat) (haddr : param.staAddr = bcAddr) :
    (rtwSetEncryption ap param paramLen pwep).2.1 =
      if param.idx.toNat < WEP_KEYS ∧ param.algIs "none" = false then
        if param.algIs "WEP" then (param.setDefKey ap pwep).2.1
        else if ap.checkFwstate WIFI_AP_STATE = true ∧ param.setTx = 1 then (param.setGrpKey ap).2.1
        else none
      else none := by
  unfold rtwSetEncryption IeeeParamCrypt.station
  rw [if_neg (not_not_intro hlen), if_pos haddr]
  by_cases hidx : WEP_KEYS ≤ param.idx.toNat
  · rw [if_pos hidx]
    dsimp only
    rw [if_neg fun h => absurd h.1 (Nat.not_lt.mpr hidx)]
  rw [if_neg hidx]
  dsimp only
  by_cases hnone : param.algIs "none" = true
  · rw [if_pos hnone, if_neg fun h => absurd (hnone.symm.trans h.2) (by decide)]
  have hboth : param.idx.toNat < WEP_KEYS ∧ param.algIs "none" = false :=
    ⟨Nat.lt_of_not_le hidx, Bool.eq_false_iff.mpr hnone⟩
  rw [if_neg hnone, if_pos hboth]
  by_cases hwep : param.algIs "WEP" = true
  · rw [if_pos hwep, if_pos hwep]
  rw [if_neg hwep, if_neg hwep]
  by_cases hap : ap.checkFwstate WIFI_AP_STATE = true
  · by_cases htx : param.setTx = 1
    · rw [if_pos hap, if_pos htx, if_pos ⟨hap, htx⟩]
    · rw [if_pos hap, if_neg htx, if_neg fun h => htx h.2]
  · rw [if_neg hap, if_neg fun h => hap h.1]

theorem rtwSetEncryption_sta (hlen : paramLen = SIZEOF_IEEE_PARAM + param.keyLen.toNat) (haddr : param.staAddr ≠ bcAddr)
    (hsta : rtwGetStainfo ap.stapriv (some param.staAddr) = some psta) :
    (rtwSetEncryption ap param paramLen pwep).2.1 =
      if ap.securitypriv.dot11AuthAlgrthm = dot11AuthAlgrthm_8021X ∧ ap.checkFwstate WIFI_AP_STATE = true then
        if param.setTx = 1 then (param.setPairwiseKey ap psta).2.1 else (param.setGrpKey ap).2.1
      else none := by
  unfold rtwSetEncryption IeeeParamCrypt.station
  rw [if_neg (not_not_intro hlen), if_neg haddr, hsta]
  dsimp only
  by_cases hauth : ap.securitypriv.dot11AuthAlgrthm = dot11AuthAlgrthm_8021X
  · by_cases hap : ap.checkFwstate WIFI_AP_STATE = true
    · have hboth : ap.securitypriv.dot11AuthAlgrthm = dot11AuthAlgrthm_8021X ∧ ap.checkFwstate WIFI_AP_STATE = true :=
        ⟨hauth, hap⟩
      rw [if_pos hauth, if_pos hap, if_pos hboth]
      split <;> rfl
    · rw [if_pos hauth, if_neg hap, if_neg fun h => hap h.2]
  · rw [if_neg hauth, if_neg fun h => hauth h.1]

theorem rtwSetEncryption_unknown (haddr : param.staAddr ≠ bcAddr)
    (hsta : rtwGetStainfo ap.stapriv (some param.staAddr) = none) :
    (rtwSetEncryption ap param paramLen pwep).2.1 = none := by
  unfold rtwSetEncryption IeeeParamCrypt.station
  by_cases hlen : paramLen ≠ SIZEOF_IEEE_PARAM + param.keyLen.toNat
  · rw [if_pos hlen]
  · rw [if_neg hlen, if_neg haddr, hsta]

theorem rtwSetEncryption_asked (h : (rtwSetEncryption ap param paramLen pwep).2.1 = some keyParm) :
    paramLen = SIZEOF_IEEE_PARAM + param.keyLen.toNat ∧ Asked ap param pwep keyParm := by
  by_cases hlen : paramLen = SIZEOF_IEEE_PARAM + param.keyLen.toNat
  swap
  · rw [rtwSetEncryption, if_pos hlen] at h
    cases h
  refine ⟨hlen, ?_⟩
  by_cases haddr : param.staAddr = bcAddr
  · rw [rtwSetEncryption_all hlen haddr] at h
    split at h
    swap
    · cases h
    rename_i hidx
    split at h
    · rename_i hwep
      rw [setDefKey_parm] at h
      split at h
      · rename_i hkey
        cases h
        exact .defKey haddr hidx.1 hidx.2 hwep hkey.1 hkey.2
      · cases h
    · rename_i hwep
      split at h
      · rename_i hap
        rw [setGrpKey_parm] at h
        cases h
        exact .grpKey haddr hidx.1 hidx.2 (Bool.eq_false_iff.mpr hwep) hap.1 hap.2
      · cases h
  cases hsta : rtwGetStainfo ap.stapriv (some param.staAddr) with
  | none =>
    rw [rtwSetEncryption_unknown haddr hsta] at h
    cases h
  | some psta =>
    rw [rtwSetEncryption_sta hlen haddr hsta] at h
    split at h
    swap
    · cases h
    rename_i hon
    split at h
    · rename_i htx
      obtain ⟨parm, hparm, hdst, halg, hkey⟩ := setPairwiseKey_parm ap param psta
      rw [hparm] at h
      cases h
      exact .pairwise psta parm haddr hsta hon.1 hon.2 htx hdst halg hkey
    · rename_i htx
      rw [setGrpKey_parm] at h
      cases h
      exact .staGrpKey psta haddr hsta hon.1 hon.2 htx

theorem Asked.installs (hlen : paramLen = SIZEOF_IEEE_PARAM + param.keyLen.toNat) (h : Asked ap param pwep keyParm) :
    Installs ap param paramLen pwep := by
  refine ⟨hlen, ?_⟩
  cases h with
  | defKey haddr hidx hnone hwep hkey hpwep =>
    rw [if_pos haddr, if_pos hwep]
    exact ⟨hidx, hnone, hkey, hpwep⟩
  | grpKey haddr hidx hnone hwep hap htx =>
    rw [if_pos haddr, if_neg (Bool.eq_false_iff.mp hwep)]
    exact ⟨hidx, hnone, hap, htx⟩
  | staGrpKey psta haddr hsta hauth hap htx =>
    rw [if_neg haddr, hsta]
    exact ⟨rfl, hauth, hap⟩
  | pairwise psta parm haddr hsta hauth hap htx hdst halg hkey =>
    rw [if_neg haddr, hsta]
    exact ⟨rfl, hauth, hap⟩

theorem Asked.isPairwise (h : Asked ap param pwep keyParm) : keyParm.isPairwise = true ↔ Pairwise param := by
  cases h with
  | defKey haddr => exact ⟨fun h => Bool.noConfusion h, fun h => absurd haddr h.1⟩
  | grpKey haddr => exact ⟨fun h => Bool.noConfusion h, fun h => absurd haddr h.1⟩
  | staGrpKey psta haddr hsta hauth hap htx => exact ⟨fun h => Bool.noConfusion h, fun h => absurd h.2 htx⟩
  | pairwise psta parm haddr hsta hauth hap htx => exact ⟨fun _ => ⟨haddr, htx⟩, fun _ => rfl⟩

/-- The requests that lead to a command are those that install a key. -/
theorem rtwSetEncryption_isSome : (rtwSetEncryption ap param paramLen pwep).2.1.isSome = true ↔
    Installs ap param paramLen pwep := by
  constructor
  · intro h
    obtain ⟨keyParm, hparm⟩ := Option.isSome_iff_exists.mp h
    obtain ⟨hlen, hasked⟩ := rtwSetEncryption_asked hparm
    exact hasked.installs hlen
  · rintro ⟨hlen, hinst⟩
    by_cases haddr : param.staAddr = bcAddr
    · rw [if_pos haddr] at hinst
      obtain ⟨hidx, hnone, hrest⟩ := hinst
      have hboth : param.idx.toNat < WEP_KEYS ∧ param.algIs "none" = false := ⟨hidx, hnone⟩
      rw [rtwSetEncryption_all hlen haddr, if_pos hboth]
      by_cases hwep : param.algIs "WEP" = true
      · rw [if_pos hwep] at hrest
        rw [if_pos hwep, setDefKey_parm, if_pos hrest]
        rfl
      · rw [if_neg hwep] at hrest
        rw [if_neg hwep, if_pos hrest, setGrpKey_parm]
        rfl
    · rw [if_neg haddr] at hinst
      obtain ⟨hsome, hon⟩ := hinst
      obtain ⟨psta, hsta⟩ := Option.isSome_iff_exists.mp hsome
      rw [rtwSetEncryption_sta hlen haddr hsta, if_pos hon]
      split
      · rfl
      · rw [setGrpKey_parm]
        rfl

/-! ## What a command carries -/

theorem privacy_names : Names param param.privacy := by
  unfold Names IeeeParamCrypt.privacy
  by_cases hwep : param.algIs "WEP" = true
  · rw [if_pos hwep, if_pos hwep]
    by_cases hlen : param.keyLen.toNat = 13
    · rw [if_pos hlen, hlen]
      decide
    · rw [if_neg hlen]
      exact ⟨.inl rfl, fun _ => rfl, fun h => absurd h hlen⟩
  rw [if_neg hwep, if_neg hwep]
  split
  · rfl
  split <;> rfl

theorem privacy_lt : param.privacy < 256 := by
  unfold IeeeParamCrypt.privacy
  split
  · split <;> decide
  split
  · decide
  split <;> decide

theorem copyKey_get (skey : Skey) (key : ℕ → UInt8) {n : ℕ} {i : Fin 16} (hi : i.val < n) :
    (copyKey skey key n)[i] = key i.val := by
  unfold copyKey
  rw [Fin.getElem_fin, Vector.getElem_ofFn, if_pos hi]

/-- Every command that `rtw_set_encryption` has built carries what the request asks for. -/
theorem Asked.carries (h : Asked ap param pwep keyParm) : Carries param keyParm := by
  have hidx : param.idx.toNat % 256 = param.idx.toNat := Nat.mod_eq_of_lt param.idx.toNat_lt
  have hgroup : Names param param.privacy → Carries param (.setKey (setGroupKeyParm param.key param.privacy param.idx.toNat)) :=
    fun hnames => ⟨hidx, hnames, fun i hi => copyKey_get _ _ (lt_of_lt_of_le hi (min_le_left _ _))⟩
  cases h with
  | defKey haddr hlt hnone hwep hlen hpwep =>
    refine ⟨hidx, ?_, fun i hi => copyKey_get _ _ (lt_of_lt_of_le hi (min_le_left _ _))⟩
    unfold Names
    rw [if_pos hwep]
    unfold setGroupKeyParm
    dsimp only
    by_cases hshort : param.keyLen.toNat ≤ 5
    · rw [if_pos hshort]
      exact ⟨.inl rfl, fun _ => rfl, fun h => by omega⟩
    · rw [if_neg hshort]
      exact ⟨.inr rfl, fun h => by omega, fun _ => rfl⟩
  | grpKey => exact hgroup privacy_names
  | staGrpKey => exact hgroup privacy_names
  | pairwise psta parm haddr hsta hauth hap htx hdst halg hkey =>
    refine ⟨fun hu => ?_, ?_, fun i hi => ?_⟩
    · rw [hdst]
      exact rtwGetStainfo_hwaddr _ _ _ hu hsta
    · rw [halg, Nat.mod_eq_of_lt privacy_lt]
      exact privacy_names
    · rw [hkey]
      exact copyKey_get _ _ (lt_min hi i.isLt)

/-! ## The queue -/

/-- A command of `set_group_key` or of `set_pairwise_key`. -/
def IsKeyCmd (c : CmdObj) : Prop :=
  (c.cmdcode = _SetKey_CMD_ ∨ c.cmdcode = _SetStaKey_CMD_) ∧ c.rsp = false

theorem IsKeyCmd.lent {c : CmdObj} (h : IsKeyCmd c) : c.lentRsp = false := by
  unfold CmdObj.lentRsp
  rw [h.2]
  rfl

theorem IsKeyCmd.whole {c : CmdObj} (h : IsKeyCmd c) : c.Whole := by
  refine ⟨?_, h.lent⟩
  unfold CmdObj.heapPbuf
  rcases h.1 with hcode | hcode <;> (rw [hcode]; rfl)

theorem IsKeyCmd.owned {c : CmdObj} (h : IsKeyCmd c) : c.block .parmbuf ∈ c.owned := by
  refine List.mem_cons_of_mem _ (List.mem_append_left _ ?_)
  unfold CmdObj.parmbufPart CmdObj.heapParmbuf
  rcases h.1 with hcode | hcode <;> (rw [hcode]; exact List.mem_cons_self)

theorem passed_of_held {s : CmdPriv} (h : s.Inv) {c : CmdObj} (hc : c ∈ s.inHand ++ s.cmdQueue) : c ∈ s.passed := by
  obtain ⟨gone, hin, -⟩ := h.balanced
  exact hin.mem_iff.mpr (List.mem_append_right _ hc)

theorem clean_thread {s : CmdPriv} (h : s.Inv) (hkeys : ∀ c ∈ s.passed, IsKeyCmd c) (interrupted : Bool) (ret : ℕ) :
    s.Clean (.thread interrupted ret) := by
  have hnot : ∀ c ∈ s.passed, c.cmdcode ≠ _DisConnect_CMD_ := by
    intro c hc hdis
    rcases (hkeys c hc).1 with hcode | hcode <;> exact absurd (hcode.symm.trans hdis) (by decide)
  have hspares : ∀ c ∈ s.passed, c.SparesRsp := fun c hc hlent => absurd ((hkeys c hc).lent.symm.trans hlent) (by decide)
  unfold CmdPriv.Clean CmdPriv.CleanThread
  cases hpc : s.pc with
  | running c =>
    have hc : c ∈ s.passed := passed_of_held h (List.mem_append_left _ (by rw [CmdPriv.inHand, hpc]; exact List.mem_cons_self))
    dsimp only
    split
    · exact ⟨hspares c hc, fun hdis => absurd hdis (hnot c hc)⟩
    · exact ⟨hspares c hc, hnot c hc, (hkeys c hc).whole.1⟩
  | draining =>
    intro c hc
    exact (hkeys c (passed_of_held h (List.mem_append_right _ (List.mem_of_mem_head? hc)))).whole
  | _ => trivial

theorem freed_of_passed {s : CmdPriv} (h : s.Inv) (hqueue : s.cmdQueue = []) (hhand : s.inHand = []) {c : CmdObj}
    (hc : c ∈ s.passed) {b : MemBlock} (hb : b ∈ c.owned) : b ∈ s.freed := by
  have hbalanced := h.balanced
  have hhandled : s.handled = [] := by
    unfold CmdPriv.handled
    unfold CmdPriv.inHand at hhand
    split
    · rename_i hpc
      rw [hpc] at hhand
      exact absurd hhand (List.cons_ne_nil _ _)
    · rfl
  rw [hqueue, hhand, hhandled] at hbalanced
  have hmem := hbalanced.closed.mem_iff.mpr (List.mem_flatMap.mpr ⟨c, hc, hb⟩)
  exact (List.mem_filter.mp hmem).1

/-! ## What holds in every run -/

variable {s s' : KeyInstall} {e : KeyInstallEvent}

structure Inv (s : KeyInstall) : Prop where
  queue : s.cmd.Inv
  keys : ∀ c ∈ s.cmd.passed, IsKeyCmd c
  sent : s.sent.length = s.cmd.passed.length
  carried : ∀ given ∈ s.sent, Carries given.1 given.2
  /-- What was passed is freed by the call that has passed it. -/
  parm : ∀ id < s.cmd.passed.length, s.pc = .freeParm id ∨ .cmd ⟨id, .parmbuf⟩ ∈ s.callerFreed
  /-- A spare object of `set_pairwise_key` is freed twice. -/
  spare : ∀ n, s.spares[n]? = some true →
    (if s.pc = .freeObj (.spare n) then 1 else 2) ≤ s.callerFreed.count (.spare n)

theorem Inv.init (ap : RtwAdapter) : (init ap).Inv where
  queue := .start
  keys _ hc := absurd hc List.not_mem_nil
  sent := rfl
  carried _ hgiven := absurd hgiven List.not_mem_nil
  parm _ hid := absurd hid (Nat.not_lt_zero _)
  spare n hn := by cases hn

theorem Inv.queueStep (h : s.Inv) (cmd : CmdPriv) (hqueue : cmd.Inv) (hpassed : cmd.passed = s.cmd.passed) :
    ({ s with cmd := cmd } : KeyInstall).Inv where
  queue := hqueue
  keys := by
    show ∀ c ∈ cmd.passed, IsKeyCmd c
    rw [hpassed]
    exact h.keys
  sent := by
    show s.sent.length = cmd.passed.length
    rw [hpassed]
    exact h.sent
  carried := h.carried
  parm := by
    show ∀ id < cmd.passed.length, _
    rw [hpassed]
    exact h.parm
  spare := h.spare

theorem threadStep_passed (s : CmdPriv) (interrupted : Bool) (ret : ℕ) :
    (s.threadStep interrupted ret).passed = s.passed := by
  unfold CmdPriv.threadStep
  repeat' split
  all_goals rfl

theorem rtwEnqueueCmd_passed (s : CmdPriv) (cmd : CmdObj) :
    (s.rtwEnqueueCmd cmd).passed = s.passed ++ [{ cmd with id := s.passed.length }] := by
  unfold CmdPriv.rtwEnqueueCmd
  dsimp only
  split <;> rfl

theorem isKeyCmd_cmdcode (keyParm : KeyParm) (id : ℕ) : IsKeyCmd { cmdcode := keyParm.cmdcode, id := id } := by
  cases keyParm with
  | setKey parm => exact ⟨.inl rfl, rfl⟩
  | setStakey parm => exact ⟨.inr rfl, rfl⟩

theorem Inv.build (h : s.Inv) (hpc : s.pc = .idle) (hcarries : Carries param keyParm) (obj parm : Bool) :
    (s.build param keyParm obj parm).Inv := by
  unfold KeyInstall.build
  split
  · exact h
  split
  · -- a spare object
    refine { h with parm := fun id hid => ?_, spare := fun n hn => ?_ }
    · refine (h.parm id hid).elim (fun hp => ?_) fun hfreed => .inr (List.mem_append_left _ hfreed)
      rw [hpc] at hp
      cases hp
    · dsimp only at hn ⊢
      rw [List.count_append]
      by_cases hlt : n < s.spares.length
      · rw [List.getElem?_append_left hlt] at hn
        have hold := h.spare n hn
        rw [hpc, if_neg (by intro h; cases h)] at hold
        split <;> omega
      · have hlen : n = s.spares.length := by
          have hle := (List.getElem?_eq_some_iff.mp hn).1
          rw [List.length_append, List.length_singleton] at hle
          omega
        subst hlen
        rw [List.getElem?_concat_length] at hn
        rw [if_pos rfl, if_pos (Option.some.inj hn), List.count_singleton_self]
        omega
  · -- a command
    have hpassed := rtwEnqueueCmd_passed s.cmd { cmdcode := keyParm.cmdcode }
    refine { queue := ?_, keys := ?_, sent := ?_, carried := ?_, parm := ?_, spare := ?_ }
    · exact h.queue.enqueue _ fun _ => (isKeyCmd_cmdcode keyParm 0).whole
    · intro c hc
      rw [hpassed] at hc
      rcases List.mem_append.mp hc with hc | hc
      · exact h.keys c hc
      · rw [List.mem_singleton.mp hc]
        exact isKeyCmd_cmdcode keyParm _
    · show (s.sent ++ [(param, keyParm)]).length = _
      rw [hpassed, List.length_append, List.length_append, h.sent]
      rfl
    · intro given hgiven
      rcases List.mem_append.mp hgiven with hgiven | hgiven
      · exact h.carried given hgiven
      · rw [List.mem_singleton.mp hgiven]
        exact hcarries
    · intro id hid
      rw [hpassed, List.length_append, List.length_singleton] at hid
      by_cases hlt : id < s.cmd.passed.length
      · refine (h.parm id hlt).elim (fun hp => ?_) .inr
        rw [hpc] at hp
        cases hp
      · have hlen : id = s.cmd.passed.length := by omega
        exact .inl (by rw [hlen])
    · intro n hn
      have hold := h.spare n hn
      rw [hpc] at hold
      exact hold

theorem Inv.call (h : s.Inv) {obj parm : Bool} (hstep : s.call param paramLen pwep obj parm = some s') : s'.Inv := by
  unfold KeyInstall.call at hstep
  split at hstep
  · rename_i hpc
    dsimp only at hstep
    have hap : ∀ ap, ({ s with ap := ap } : KeyInstall).Inv := fun ap => { h with queue := h.queue }
    cases hparm : (rtwSetEncryption s.ap param paramLen pwep).2.1 with
    | none =>
      rw [hparm] at hstep
      cases hstep
      exact hap _
    | some keyParm =>
      rw [hparm] at hstep
      cases hstep
      exact (hap (rtwSetEncryption s.ap param paramLen pwep).1).build hpc (rtwSetEncryption_asked hparm).2.carries obj parm
  · cases hstep

theorem Inv.kfree (h : s.Inv) (hstep : s.kfree = some s') : s'.Inv := by
  unfold KeyInstall.kfree at hstep
  split at hstep
  · cases hstep
  · rename_i id hpc
    cases hstep
    refine { h with parm := fun id' hid => ?_, spare := fun n hn => ?_ }
    · refine (h.parm id' hid).elim (fun hp => ?_) fun hfreed => .inr (List.mem_append_left _ hfreed)
      rw [hpc] at hp
      cases hp
      exact .inr (List.mem_append_right _ List.mem_cons_self)
    · have hold := h.spare n hn
      rw [hpc] at hold
      dsimp only
      rw [List.count_append]
      exact le_trans hold (Nat.le_add_right _ _)
  · rename_i block hpc
    cases hstep
    refine { h with parm := fun id hid => ?_, spare := fun n hn => ?_ }
    · refine (h.parm id hid).elim (fun hp => ?_) fun hfreed => .inr (List.mem_append_left _ hfreed)
      rw [hpc] at hp
      cases hp
    · have hold := h.spare n hn
      rw [hpc] at hold
      dsimp only
      rw [List.count_append, if_neg (by intro h; cases h)]
      by_cases hblock : block = .spare n
      · subst hblock
        rw [if_pos rfl] at hold
        rw [List.count_singleton_self]
        omega
      · rw [if_neg fun h => hblock (by cases h; rfl)] at hold
        omega

theorem Inv.step (h : s.Inv) (hstep : s.step e = some s') : s'.Inv := by
  cases e with
  | call param paramLen pwep obj parm => exact h.call hstep
  | kfree => exact h.kfree hstep
  | thread interrupted ret =>
    cases hstep
    exact h.queueStep _ (h.queue.threadStep interrupted ret (clean_thread h.queue h.keys interrupted ret))
      (threadStep_passed _ _ _)
  | start =>
    cases hstep
    refine h.queueStep _ (h.queue.step .start trivial) ?_
    unfold CmdPriv.step
    dsimp only
    split <;> rfl
  | up =>
    cases hstep
    exact h.queueStep _ (h.queue.step .up trivial) rfl
  | flags hwInitCompleted bHWPwrPindetect usbssEnable bDriverStopped bSurpriseRemoved =>
    cases hstep
    exact h.queueStep _ (h.queue.step (.flags _ _ _ _ _) trivial) rfl
  | others ap =>
    cases hstep
    exact { h with queue := h.queue }

theorem keys_carried (ap : RtwAdapter) (l : List KeyInstallEvent) (hrun : run step (init ap) l = some s') :
    ∀ given ∈ s'.sent, Carries given.1 given.2 :=
  (run_keeps (fun _ _ _ h hstep => h.step hstep) (Inv.init ap) hrun).carried

/-! ## Runs in which a command was built -/

/-- Nothing was passed to the queue, and no spare object is one of `set_pairwise_key`. -/
def Unbuilt (s : KeyInstall) : Prop := s.cmd.passed = [] ∧ true ∉ s.spares

theorem Settled.unbuilt (hsettled : s.Settled) (h : s.Inv) (hrest : s.AtRest) : s.Unbuilt := by
  obtain ⟨hpc, hqueue, hhand⟩ := hrest
  constructor
  · rw [List.eq_nil_iff_forall_not_mem]
    intro c hc
    have honce := hsettled.parmbuf c hc
    have hqueued : c.block .parmbuf ∈ s.cmd.freed := freed_of_passed h.queue hqueue hhand hc (h.keys c hc).owned
    have hid : c.id < s.cmd.passed.length := by
      have hmem : c.id ∈ s.cmd.passed.map (·.id) := List.mem_map_of_mem hc
      rw [h.queue.ids] at hmem
      exact List.mem_range.mp hmem
    have hcaller : KeyBlock.cmd (c.block .parmbuf) ∈ s.callerFreed := by
      refine (h.parm c.id hid).elim (fun hp => ?_) id
      rw [hpc] at hp
      cases hp
    have hfirst : 0 < (s.cmd.freed.map KeyBlock.cmd).count (.cmd (c.block .parmbuf)) :=
      List.count_pos_iff.mpr (List.mem_map_of_mem hqueued)
    have hsecond := List.count_pos_iff.mpr hcaller
    rw [freed, List.count_append] at honce
    omega
  · intro hpair
    obtain ⟨n, hn, hget⟩ := List.mem_iff_getElem.mp hpair
    have honce := hsettled.spare n hn
    have htwice := h.spare n (List.getElem?_eq_some_iff.mpr ⟨hn, hget⟩)
    rw [hpc, if_neg (by intro h; cases h)] at htwice
    rw [freed, List.count_append] at honce
    omega

theorem starved_of_unbuilt (hstep : s.step e = some s') (h : s'.Unbuilt) : s.Unbuilt ∧ Starved s e := by
  cases e with
  | call param paramLen pwep obj parm =>
    replace hstep : s.call param paramLen pwep obj parm = some s' := hstep
    unfold KeyInstall.call at hstep
    split at hstep
    swap
    · cases hstep
    dsimp only at hstep
    have hsome : (rtwSetEncryption s.ap param paramLen pwep).2.1.isSome = true ↔ Installs s.ap param paramLen pwep :=
      rtwSetEncryption_isSome
    cases hparm : (rtwSetEncryption s.ap param paramLen pwep).2.1 with
    | none =>
      rw [hparm] at hstep hsome
      cases hstep
      exact ⟨h, fun hstarved => Bool.noConfusion (hsome.mpr hstarved.1)⟩
    | some keyParm =>
      rw [hparm] at hstep
      cases hstep
      have hpair := (rtwSetEncryption_asked hparm).2.isPairwise
      unfold build at h
      cases obj with
      | false => exact ⟨h, fun hstarved => Bool.noConfusion hstarved.2.1⟩
      | true =>
        cases parm with
        | false =>
          have hnone : true ∉ s.spares ++ [keyParm.isPairwise] := h.2
          rw [List.mem_append, not_or, List.mem_singleton] at hnone
          refine ⟨⟨h.1, hnone.1⟩, fun hstarved => ?_⟩
          rcases hstarved.2.2 with hparm' | hpairwise
          · cases hparm'
          · exact hnone.2 (hpair.mpr hpairwise).symm
        | true =>
          have hpassed : (s.cmd.rtwEnqueueCmd { cmdcode := keyParm.cmdcode }).passed = [] := h.1
          rw [rtwEnqueueCmd_passed] at hpassed
          exact absurd hpassed (List.append_ne_nil_of_right_ne_nil _ (List.cons_ne_nil _ _))
  | kfree =>
    refine ⟨?_, trivial⟩
    replace hstep : s.kfree = some s' := hstep
    unfold KeyInstall.kfree at hstep
    split at hstep <;> cases hstep <;> exact h
  | thread interrupted ret =>
    cases hstep
    refine ⟨⟨?_, h.2⟩, trivial⟩
    rw [← threadStep_passed s.cmd interrupted ret]
    exact h.1
  | start =>
    cases hstep
    refine ⟨⟨?_, h.2⟩, trivial⟩
    have hpassed : (s.cmd.step .start).passed = [] := h.1
    unfold CmdPriv.step at hpassed
    dsimp only at hpassed
    split at hpassed <;> exact hpassed
  | up =>
    cases hstep
    exact ⟨h, trivial⟩
  | flags hwInitCompleted bHWPwrPindetect usbssEnable bDriverStopped bSurpriseRemoved =>
    cases hstep
    exact ⟨h, trivial⟩
  | others ap =>
    cases hstep
    exact ⟨h, trivial⟩

/-! ## Starved runs -/

/-- The queue was never used, and every object was freed by its own call. -/
structure Idle (s : KeyInstall) : Prop where
  queue : s.cmd.cmdQueue = []
  hand : s.cmd.inHand = []
  passed : s.cmd.passed = []
  accepted : s.cmd.accepted = []
  freed : s.cmd.freed = []
  spares : s.pc = .idle ∧ s.callerFreed = (List.range s.spares.length).map .spare ∨
    ∃ n, s.pc = .freeObj (.spare n) ∧ s.spares.length = n + 1 ∧ s.callerFreed = (List.range n).map .spare

theorem Idle.init (ap : RtwAdapter) : (init ap).Idle := ⟨rfl, rfl, rfl, rfl, rfl, .inl ⟨rfl, rfl⟩⟩

theorem Idle.threadStep (h : s.Idle) (interrupted : Bool) (ret : ℕ) :
    (s.cmd.threadStep interrupted ret).cmdQueue = [] ∧ (s.cmd.threadStep interrupted ret).inHand = [] ∧
      (s.cmd.threadStep interrupted ret).accepted = [] ∧ (s.cmd.threadStep interrupted ret).freed = [] := by
  have hqueue := h.queue
  have hhand := h.hand
  unfold CmdPriv.inHand at hhand
  have hsame := h.accepted
  have hfreed := h.freed
  unfold CmdPriv.threadStep
  cases hpc : s.cmd.pc with
  | stopped => exact ⟨hqueue, h.hand, hsame, hfreed⟩
  | waiting =>
    dsimp only
    split
    · exact ⟨hqueue, rfl, hsame, hfreed⟩
    split
    · exact ⟨hqueue, h.hand, hsame, hfreed⟩
    · refine ⟨hqueue, ?_, hsame, hfreed⟩
      unfold CmdPriv.inHand
      cases s.cmd.bDriverStopped || s.cmd.bSurpriseRemoved <;> rfl
  | next =>
    dsimp only
    rw [hqueue]
    split <;> exact ⟨rfl, rfl, hsame, hfreed⟩
  | running c =>
    rw [hpc] at hhand
    exact absurd hhand (List.cons_ne_nil _ _)
  | post c res =>
    rw [hpc] at hhand
    exact absurd hhand (List.cons_ne_nil _ _)
  | leaving => exact ⟨hqueue, rfl, hsame, hfreed⟩
  | draining =>
    dsimp only
    rw [hqueue]
    exact ⟨rfl, rfl, hsame, hfreed⟩

theorem Idle.queueStep (h : s.Idle) (cmd : CmdPriv) (hqueue : cmd.cmdQueue = []) (hhand : cmd.inHand = [])
    (hpassed : cmd.passed = []) (haccepted : cmd.accepted = []) (hfreed : cmd.freed = []) :
    ({ s with cmd := cmd } : KeyInstall).Idle := ⟨hqueue, hhand, hpassed, haccepted, hfreed, h.spares⟩

theorem Idle.step (h : s.Idle) (hstarved : Starved s e) (hstep : s.step e = some s') : s'.Idle := by
  cases e with
  | call param paramLen pwep obj parm =>
    replace hstep : s.call param paramLen pwep obj parm = some s' := hstep
    unfold KeyInstall.call at hstep
    split at hstep
    swap
    · cases hstep
    rename_i hpc
    dsimp only at hstep
    have hspares : s.callerFreed = (List.range s.spares.length).map .spare := by
      rcases h.spares with hidle | ⟨n, hn, -⟩
      · exact hidle.2
      · rw [hpc] at hn
        cases hn
    cases hparm : (rtwSetEncryption s.ap param paramLen pwep).2.1 with
    | none =>
      rw [hparm] at hstep
      cases hstep
      exact { h with queue := h.queue }
    | some keyParm =>
      rw [hparm] at hstep
      cases hstep
      have hinst : Installs s.ap param paramLen pwep := rtwSetEncryption_isSome.mp (by rw [hparm]; rfl)
      have hpair := (rtwSetEncryption_asked hparm).2.isPairwise
      unfold build
      cases obj with
      | false => exact { h with queue := h.queue }
      | true =>
        cases parm with
        | true => exact absurd ⟨hinst, rfl, .inl rfl⟩ hstarved
        | false =>
          have hgroup : ¬keyParm.isPairwise = true := fun hp => hstarved ⟨hinst, rfl, .inr (hpair.mp hp)⟩
          rw [if_neg (by decide), if_pos (by decide), if_neg hgroup]
          refine { h with spares := .inr ⟨s.spares.length, rfl, ?_, ?_⟩ }
          · exact List.length_append
          · show s.callerFreed ++ [] = _
            rw [List.append_nil]
            exact hspares
  | kfree =>
    replace hstep : s.kfree = some s' := hstep
    unfold KeyInstall.kfree at hstep
    rcases h.spares with ⟨hpc, -⟩ | ⟨n, hpc, hlen, hfreed⟩
    · rw [hpc] at hstep
      cases hstep
    · rw [hpc] at hstep
      cases hstep
      refine { h with spares := .inl ⟨rfl, ?_⟩ }
      show s.callerFreed ++ [KeyBlock.spare n] = _
      rw [hfreed, hlen, List.range_succ, List.map_append]
      rfl
  | thread interrupted ret =>
    cases hstep
    obtain ⟨hqueue, hhand, haccepted, hfreed⟩ := h.threadStep interrupted ret
    exact h.queueStep _ hqueue hhand ((threadStep_passed _ _ _).trans h.passed) haccepted hfreed
  | start =>
    cases hstep
    unfold CmdPriv.step
    dsimp only
    split
    · exact h.queueStep _ h.queue rfl h.passed h.accepted h.freed
    · exact { h with queue := h.queue }
  | up =>
    cases hstep
    exact h.queueStep _ h.queue h.hand h.passed h.accepted h.freed
  | flags hwInitCompleted bHWPwrPindetect usbssEnable bDriverStopped bSurpriseRemoved =>
    cases hstep
    exact h.queueStep _ h.queue h.hand h.passed h.accepted h.freed
  | others ap =>
    cases hstep
    exact { h with queue := h.queue }

theorem Idle.live (h : s.Idle) : Live s e := by
  intro b hb
  unfold touches at hb
  cases e with
  | call param paramLen pwep obj parm =>
    dsimp only at hb
    split at hb
    · exact absurd hb List.not_mem_nil
    · rw [h.queue] at hb
      split at hb <;> exact absurd hb List.not_mem_nil
  | kfree =>
    rcases h.spares with ⟨hpc, -⟩ | ⟨n, hpc, hlen, hfreed⟩
    · rw [hpc] at hb
      exact absurd hb List.not_mem_nil
    · rw [hpc] at hb
      rw [List.mem_singleton.mp hb, KeyInstall.freed, h.freed, hfreed]
      intro hmem
      obtain ⟨m, hm, heq⟩ := List.mem_map.mp hmem
      cases heq
      exact absurd (List.mem_range.mp hm) (Nat.lt_irrefl n)
  | thread interrupted ret =>
    have hnone : threadTouches s.cmd interrupted ret = [] := by
      have hhand := h.hand
      unfold CmdPriv.inHand at hhand
      unfold threadTouches
      split
      · rw [h.queue]
        split <;> rfl
      · rename_i hpc
        rw [hpc] at hhand
        exact absurd hhand (List.cons_ne_nil _ _)
      · rename_i hpc
        rw [hpc] at hhand
        exact absurd hhand (List.cons_ne_nil _ _)
      · rw [h.queue, (h.threadStep interrupted ret).2.2.2, List.drop_nil]
        rfl
      · rfl
    dsimp only at hb
    rw [hnone] at hb
    exact absurd hb List.not_mem_nil
  | _ => exact absurd hb List.not_mem_nil

theorem Idle.settled (h : s.Idle) (hrest : s.AtRest) : s.Settled where
  obj c hc := by
    rw [h.passed] at hc
    exact absurd hc List.not_mem_nil
  parmbuf c hc := by
    rw [h.passed] at hc
    exact absurd hc List.not_mem_nil
  spare n hn := by
    rcases h.spares with ⟨-, hfreed⟩ | ⟨m, hpc, -⟩
    · rw [KeyInstall.freed, h.freed, hfreed, List.map_nil, List.nil_append]
      refine List.count_eq_one_of_mem ?_ (List.mem_map_of_mem (List.mem_range.mpr hn))
      exact List.nodup_range.map fun a b hab => by cases hab; rfl
    · have hidle := hrest.1
      rw [hpc] at hidle
      cases hidle
  executed c hc := by
    rw [h.accepted] at hc
    exact absurd hc List.not_mem_nil

/-- A run in which no helper gets memory for its command uses and frees all memory as it should and settles
everything. A run that comes to rest does so in no other case. -/
theorem keys_delivered (ap : RtwAdapter) (l : List KeyInstallEvent) :
    (Meets step Starved (init ap) l → Delivered (init ap) l) ∧
      ∀ s', run step (init ap) l = some s' → s'.AtRest → Delivered (init ap) l → Meets step Starved (init ap) l := by
  constructor
  · intro hstarved
    refine ⟨hstarved.of_inv (fun s e s' h he hstep => h.step he hstep) (fun s e h _ => h.live) (Idle.init ap), ?_⟩
    intro s' hrun hrest
    exact (run_inv (fun s e s' h he hstep => Idle.step h he hstep) (Idle.init ap) hstarved hrun).settled hrest
  · intro s' hrun hrest hdelivered
    have hinv : s'.Inv := run_keeps (fun _ _ _ h hstep => h.step hstep) (Inv.init ap) hrun
    have hunbuilt := (hdelivered.2 s' hrun hrest).unbuilt hinv hrest
    exact (meets_of_end (fun s e s' hstep h => starved_of_unbuilt hstep h) hrun hunbuilt).2

/-! ## Runs -/

instance decInstalls (ap : RtwAdapter) (param : IeeeParamCrypt) (paramLen : ℕ) (pwep : Bool) :
    Decidable (Installs ap param paramLen pwep) := by
  unfold Installs
  infer_instance

instance decPairwise (param : IeeeParamCrypt) : Decidable (Pairwise param) :=
  inferInstanceAs (Decidable (param.staAddr ≠ bcAddr ∧ param.setTx = 1))

instance decStarved (s : KeyInstall) : (e : KeyInstallEvent) → Decidable (Starved s e)
  | .call param paramLen pwep obj parm =>
    inferInstanceAs (Decidable ¬(Installs s.ap param paramLen pwep ∧ obj = true ∧ (parm = true ∨ Pairwise param)))
  | .kfree | .thread _ _ | .start | .up | .flags _ _ _ _ _ | .others _ => .isTrue trivial

instance decAtRest (s : KeyInstall) : Decidable s.AtRest :=
  inferInstanceAs (Decidable (s.pc = .idle ∧ s.cmd.cmdQueue = [] ∧ s.cmd.inHand = []))

def groupCcmp : IeeeParamCrypt where
  staAddr := bcAddr
  alg := ⟨#[0x43, 0x43, 0x4d, 0x50, 0, 0, 0, 0, 0, 0, 0, 0, 0, 0, 0, 0], rfl⟩
  setTx := 1
  idx := 1
  keyLen := 16
  key i := UInt8.ofNat i

def keyAp : RtwAdapter := { fwState := WIFI_AP_STATE }

/-- The object is allocated, its parameters are not. -/
theorem keys_delivered_starved :
    Delivered (init keyAp) [.flags true false false false false, .start, .call groupCcmp 80 true true false, .kfree] :=
  (keys_delivered keyAp _).1 (by decide +kernel)

/-- A group key that the command thread installs: both blocks are freed by the thread and by `set_group_key`. -/
theorem keys_freed_twice : ¬ ∀ ap l, Delivered (init ap) l := by
  intro hall
  let events : List KeyInstallEvent := [.flags true false false false false, .start, .call groupCcmp 80 true true true,
    .thread false 0, .thread false 0, .thread false 0, .thread false 0, .thread false 0, .kfree, .kfree]
  have hsome : (GuardedRuns.run step (init keyAp) events).isSome = true := by decide +kernel
  obtain ⟨s', hrun⟩ := Option.isSome_iff_exists.mp hsome
  have hend : ∀ p : KeyInstall → Bool, (GuardedRuns.run step (init keyAp) events).any p = true → p s' = true := by
    intro p hp
    rwa [hrun] at hp
  have hrest : s'.AtRest := of_decide_eq_true (hend (fun s => decide s.AtRest) (by decide +kernel))
  have hpassed : { cmdcode := _SetKey_CMD_ } ∈ s'.cmd.passed := of_decide_eq_true
    (hend (fun s => decide ({ cmdcode := _SetKey_CMD_ } ∈ s.cmd.passed)) (by decide +kernel))
  have htwice : s'.freed.count (.cmd ⟨0, .obj⟩) = 2 := of_decide_eq_true
    (hend (fun s => decide (s.freed.count (.cmd ⟨0, .obj⟩) = 2)) (by decide +kernel))
  have honce := ((hall keyAp events).2 s' hrun hrest).obj _ hpassed
  exact absurd (honce.symm.trans htwice) (by decide)

end KeyInstall

end Rtl8723au
