import Rtl8723au.Include.Adapter
import Rtl8723au.Library.GuardedRuns

/-! The two power saving schemes of `core/rtw_pwrctrl.c`: IPS turns the radio off while there is no link, LPS lets the
firmware sleep while there is one. Both use `bpower_saving`, and leaving one clears it whatever the other is doing. -/
namespace Rtl8723au
set_option autoImplicit false

inductive RfState
  | on | off
  deriving DecidableEq

inductive IpsMode
  | NONE | NORMAL | LEVEL_2
  deriving DecidableEq

def PS_MODE_ACTIVE : ℕ := 0
def PM_Card_Disable : ℕ := 10
def PS_MODE_NUM : ℕ := 11

/-- The members of `struct pwrctrl_priv` that the two schemes use, then what has happened: whether it was `LPS_Enter`
that left `PS_MODE_ACTIVE`, and what `ips_leave` returned in the last step if it was called with `rf_off`. -/
structure PwrCtrl where
  rfPwrstate : RfState
  changeRfpwrstate : RfState
  bipsProcessing : Bool
  bpowerSaving : Bool
  bkeepfwalive : Bool
  ipsMode : IpsMode
  ipsModeReq : IpsMode
  pwrMode : ℕ
  smartPs : ℕ
  bcnAntMode : ℕ
  bFwCurrentInPSMode : Bool
  bLeisurePs : Bool
  powerMgnt : ℕ
  lpsIdleCount : ℕ
  lpsEntered : Bool := false
  leave : Option Bool := none

/-- What `rtw_ips_pwr_up` comes to: its result, and whether the firmware was loaded on the way. -/
structure PwrUp where
  ret : Bool
  fwReady : Bool

/-- What `ips_leave` finds: the power up, the keys, and the results of `rtw_set_key`. -/
structure LeaveEnv where
  pwrUp : PwrUp
  dot11PrivacyAlgrthm : ℕ
  keyMask : ℕ
  setKey : ℕ → Bool

/-- What `_rtw_pwr_wakeup` finds. -/
structure WakeEnv where
  bInternalAutoSuspend : Bool
  bInSuspend : Bool
  netClosed : Bool
  linked : Bool
  bDriverStopped : Bool
  bup : Bool
  hwInitCompleted : Bool
  leave : LeaveEnv

/-- What `rtw_set_ps_mode` finds: `PS_RDY_CHECK`, `BT_1Ant` and `opp_ps`. -/
structure PsEnv where
  rdy : Bool
  bt1Ant : Bool
  oppPs : ℕ

namespace PwrCtrl

/-! ## IPS -/

def ipsEnter (s : PwrCtrl) : PwrCtrl :=
  let s := { s with bipsProcessing := true, ipsMode := s.ipsModeReq }
  let s :=
    if s.changeRfpwrstate = .off then
      { s with
        bpowerSaving := true
        bkeepfwalive := if s.ipsMode = .LEVEL_2 then true else s.bkeepfwalive
        rfPwrstate := .off }
    else s
  { s with bipsProcessing := false }

/-- `rtw_ps_processor`; `idle` is its check for traffic and links. -/
def rtwPsProcessor (s : PwrCtrl) (idle : Bool) : PwrCtrl :=
  if s.bipsProcessing then s
  else if s.ipsModeReq = .NONE then s
  else if !idle then s
  else if s.rfPwrstate = .on then ipsEnter { s with changeRfpwrstate := .off }
  else s

/-- `rtw_ips_pwr_up`: the firmware is set up again, with `rtl8723a_InitializeFirmwareVars`, unless it was kept alive. -/
def rtwIpsPwrUp (s : PwrCtrl) (p : PwrUp) : Bool × PwrCtrl :=
  (p.ret, if !s.bkeepfwalive && (p.ret || p.fwReady) then { s with bFwCurrentInPSMode := false } else s)

/-- The keys that are set again; the result is that of the last one. -/
def setKeys (env : LeaveEnv) (result : Bool) : Bool :=
  (List.range 4).foldl (fun result keyid => if env.keyMask.testBit keyid then env.setKey keyid else result) result

def ipsLeave (s : PwrCtrl) (env : LeaveEnv) : Bool × PwrCtrl :=
  if s.rfPwrstate = .off ∧ s.bipsProcessing = false then
    let s := { s with bipsProcessing := true, changeRfpwrstate := .on }
    let (result, s) := s.rtwIpsPwrUp env.pwrUp
    let s := if result then { s with rfPwrstate := .on } else s
    let result :=
      if env.dot11PrivacyAlgrthm = WEP40 ∨ env.dot11PrivacyAlgrthm = WEP104 then setKeys env result else result
    (result, { s with bipsProcessing := false, bkeepfwalive := false, bpowerSaving := false })
  else (true, s)

/-- `ips_leave` with its result kept when it is called with `rf_off`. -/
def noteLeave (s : PwrCtrl) (env : LeaveEnv) : Bool × PwrCtrl :=
  let (result, t) := s.ipsLeave env
  (result, if s.rfPwrstate = .off then { t with leave := some result } else t)

/-- `_rtw_pwr_wakeup`. -/
def rtwPwrWakeup (s : PwrCtrl) (env : WakeEnv) : Bool × PwrCtrl :=
  if !env.bInternalAutoSuspend && env.bInSuspend then (false, s)
  else if env.bInternalAutoSuspend && env.netClosed then (false, s)
  else if env.linked then (true, s)
  else
    let (result, s) := if s.rfPwrstate = .off then s.noteLeave env.leave else (true, s)
    if !result then (false, s)
    else if env.bDriverStopped || !env.bup || !env.hwInitCompleted then (false, s)
    else (true, s)

/-! ## LPS -/

def rtwSetPsMode (s : PwrCtrl) (psMode smartPs bcnAntMode : ℕ) (env : PsEnv) : PwrCtrl :=
  if psMode > PM_Card_Disable then s
  else if s.pwrMode = psMode ∧ (psMode = PS_MODE_ACTIVE ∨ s.smartPs = smartPs ∧ s.bcnAntMode = bcnAntMode) then s
  else if psMode = PS_MODE_ACTIVE then
    if env.oppPs = 0 then { s with pwrMode := psMode, bFwCurrentInPSMode := false } else s
  else if env.rdy || env.bt1Ant then
    { s with bFwCurrentInPSMode := true, pwrMode := psMode, smartPs := smartPs, bcnAntMode := bcnAntMode }
  else s

/-- `LPS_Enter`; `PS_RDY_CHECK` is made here first and again in `rtw_set_ps_mode`. -/
def lpsEnter (s : PwrCtrl) (rdy : Bool) (env : PsEnv) : PwrCtrl :=
  if !rdy then s
  else if s.bLeisurePs then
    if s.lpsIdleCount ≥ 2 then
      if s.pwrMode = PS_MODE_ACTIVE then
        rtwSetPsMode { s with bpowerSaving := true } s.powerMgnt s.smartPs 0 env
      else s
    else { s with lpsIdleCount := s.lpsIdleCount + 1 }
  else s

/-- `LPS_Leave`. -/
def lpsLeave (s : PwrCtrl) (env : PsEnv) : PwrCtrl :=
  let s := if s.bLeisurePs ∧ s.pwrMode ≠ PS_MODE_ACTIVE then s.rtwSetPsMode PS_MODE_ACTIVE 0 0 env else s
  { s with bpowerSaving := false }

/-- The mode that `rtw_pm_set_lps` configures. -/
def rtwPmSetLps (s : PwrCtrl) (mode : ℕ) : PwrCtrl :=
  if mode < PS_MODE_NUM ∧ s.powerMgnt ≠ mode then
    { s with
      lpsIdleCount := if mode = PS_MODE_ACTIVE then s.lpsIdleCount else 2
      powerMgnt := mode
      bLeisurePs := decide (mode ≠ PS_MODE_ACTIVE) }
  else s

end PwrCtrl

/-! ## Runs -/

inductive PwrEvent
  | psProcessor (idle : Bool)
  | ipsLeave (env : LeaveEnv)
  | pwrWakeup (env : WakeEnv)
  | lpsEnter (rdy : Bool) (env : PsEnv)
  | lpsLeave (env : PsEnv)
  | setPsMode (psMode smartPs bcnAntMode : ℕ) (env : PsEnv)
  | setLps (mode : ℕ)
  | ipsModeReq (mode : IpsMode)

namespace PwrCtrl

def perform (s : PwrCtrl) : PwrEvent → PwrCtrl
  | .psProcessor idle => s.rtwPsProcessor idle
  | .ipsLeave env => (s.noteLeave env).2
  | .pwrWakeup env => (s.rtwPwrWakeup env).2
  | .lpsEnter rdy env => s.lpsEnter rdy env
  | .lpsLeave env => s.lpsLeave env
  | .setPsMode psMode smartPs bcnAntMode env => s.rtwSetPsMode psMode smartPs bcnAntMode env
  | .setLps mode => s.rtwPmSetLps mode
  | .ipsModeReq mode => { s with ipsModeReq := mode }

def isLpsEnter : PwrEvent → Bool
  | .lpsEnter _ _ => true
  | _ => false

/-- Who left `PS_MODE_ACTIVE` is noted. -/
def noted (s : PwrCtrl) (e : PwrEvent) (t : PwrCtrl) : PwrCtrl :=
  { t with
    lpsEntered := decide (t.pwrMode ≠ PS_MODE_ACTIVE) &&
      if s.pwrMode = PS_MODE_ACTIVE then isLpsEnter e else s.lpsEntered }

def step (s : PwrCtrl) (e : PwrEvent) : Option PwrCtrl := some (s.noted e ({ s with leave := none }.perform e))

/-- Before anything happens. -/
structure Initial (s : PwrCtrl) : Prop where
  rfPwrstate : s.rfPwrstate = .on
  pwrMode : s.pwrMode = PS_MODE_ACTIVE
  bpowerSaving : s.bpowerSaving = false
  bFwCurrentInPSMode : s.bFwCurrentInPSMode = false
  bipsProcessing : s.bipsProcessing = false
  lpsEntered : s.lpsEntered = false
  leave : s.leave = none

/-- The flags say what is so. -/
structure Truthful (s : PwrCtrl) : Prop where
  fw : s.bFwCurrentInPSMode = true ↔ s.pwrMode ≠ PS_MODE_ACTIVE
  saving : s.rfPwrstate = .off ∨ s.pwrMode ≠ PS_MODE_ACTIVE ∧ s.lpsEntered = true → s.bpowerSaving = true
  processing : s.bipsProcessing = false
  leave : s.leave = some true → s.rfPwrstate = .on

/-- The radio comes up, and the firmware is not asleep, or is kept alive and was not put to sleep by `LPS_Enter`. -/
def LeavesWell (s : PwrCtrl) (env : LeaveEnv) : Prop :=
  s.rfPwrstate = .off → env.pwrUp.ret = true ∧
    (s.pwrMode = PS_MODE_ACTIVE ∨ s.bkeepfwalive = true ∧ s.lpsEntered = false)

/-- `_rtw_pwr_wakeup` gets as far as `ips_leave`. -/
def wakes (env : WakeEnv) : Bool :=
  !(!env.bInternalAutoSuspend && env.bInSuspend) && !(env.bInternalAutoSuspend && env.netClosed) && !env.linked

/-- What a step needs to keep the flags right. -/
def Safe (s : PwrCtrl) : PwrEvent → Prop
  | .ipsLeave env => s.LeavesWell env
  | .pwrWakeup env => wakes env = true → s.LeavesWell env.leave
  | .lpsLeave env => s.rfPwrstate = .on ∧
      (s.pwrMode = PS_MODE_ACTIVE ∨ s.lpsEntered = false ∨ s.bLeisurePs = true ∧ env.oppPs = 0)
  | _ => True

end PwrCtrl

end Rtl8723au

/-! Which steps keep the flags of the power saving schemes right: in a state where they are right, exactly the safe
ones. -/
namespace Rtl8723au
set_option autoImplicit false

namespace PwrCtrl
variable {s : PwrCtrl}

/-! ## What the steps do -/

/-- `ips_leave` with `rf_off`: `bpower_saving` is cleared whatever the power up comes to. -/
theorem noteLeave_off (hoff : s.rfPwrstate = .off) (hidle : s.bipsProcessing = false) (env : LeaveEnv) :
    (s.noteLeave env).2 = { s with
      rfPwrstate := if env.pwrUp.ret then .on else .off
      changeRfpwrstate := .on
      bpowerSaving := false
      bkeepfwalive := false
      bFwCurrentInPSMode := !(!s.bkeepfwalive && (env.pwrUp.ret || env.pwrUp.fwReady)) && s.bFwCurrentInPSMode
      leave := some (s.ipsLeave env).1 } := by
  have hrun : (s.noteLeave env).2 = { (s.ipsLeave env).2 with leave := some (s.ipsLeave env).1 } := by
    unfold noteLeave
    generalize s.ipsLeave env = o
    obtain ⟨result, t⟩ := o
    exact if_pos hoff
  rw [hrun]
  generalize (s.ipsLeave env).1 = result
  obtain ⟨⟨ret, fwReady⟩, alg, mask, setKey⟩ := env
  unfold ipsLeave rtwIpsPwrUp
  rw [if_pos ⟨hoff, hidle⟩]
  cases hkeep : s.bkeepfwalive <;> cases ret <;> cases fwReady <;> simp [hoff, hidle]

theorem noteLeave_on (hon : s.rfPwrstate = .on) (env : LeaveEnv) : (s.noteLeave env).2 = s := by
  simp [noteLeave, ipsLeave, hon]

theorem rtwPwrWakeup_snd (env : WakeEnv) :
    (s.rtwPwrWakeup env).2 = if wakes env then (s.noteLeave env.leave).2 else s := by
  have hleave : (if s.rfPwrstate = .off then s.noteLeave env.leave else (true, s)).2 = (s.noteLeave env.leave).2 := by
    split
    · rfl
    · rename_i hon
      have hrf : s.rfPwrstate = .on := by cases h : s.rfPwrstate <;> simp_all
      rw [noteLeave_on hrf]
  unfold rtwPwrWakeup wakes
  by_cases hsuspend : (!env.bInternalAutoSuspend && env.bInSuspend) = true
  · simp [hsuspend]
  by_cases hclosed : (env.bInternalAutoSuspend && env.netClosed) = true
  · simp [hsuspend, hclosed]
  by_cases hlinked : env.linked = true
  · simp [hsuspend, hclosed, hlinked]
  rw [if_neg hsuspend, if_neg hclosed, if_neg hlinked, ← hleave]
  generalize (if s.rfPwrstate = .off then s.noteLeave env.leave else (true, s)) = o
  simp only [hsuspend, hclosed, hlinked]
  split
  · rfl
  · split <;> rfl

/-- `rtw_set_ps_mode` keeps the firmware's flag in step with the mode. -/
theorem rtwSetPsMode_fw (h : s.bFwCurrentInPSMode = true ↔ s.pwrMode ≠ PS_MODE_ACTIVE) (psMode smartPs bcnAntMode : ℕ)
    (env : PsEnv) : (s.rtwSetPsMode psMode smartPs bcnAntMode env).bFwCurrentInPSMode = true ↔
      (s.rtwSetPsMode psMode smartPs bcnAntMode env).pwrMode ≠ PS_MODE_ACTIVE := by
  unfold rtwSetPsMode
  split
  · exact h
  split
  · exact h
  split
  · rename_i hactive
    split
    · simp [hactive]
    · exact h
  · rename_i hactive
    split
    · simp [hactive]
    · exact h

theorem rtwSetPsMode_frame (s : PwrCtrl) (psMode smartPs bcnAntMode : ℕ) (env : PsEnv) :
    (s.rtwSetPsMode psMode smartPs bcnAntMode env).rfPwrstate = s.rfPwrstate ∧
      (s.rtwSetPsMode psMode smartPs bcnAntMode env).bpowerSaving = s.bpowerSaving ∧
      (s.rtwSetPsMode psMode smartPs bcnAntMode env).bipsProcessing = s.bipsProcessing ∧
      (s.rtwSetPsMode psMode smartPs bcnAntMode env).leave = s.leave := by
  unfold rtwSetPsMode
  split
  · exact ⟨rfl, rfl, rfl, rfl⟩
  split
  · exact ⟨rfl, rfl, rfl, rfl⟩
  split <;> split <;> exact ⟨rfl, rfl, rfl, rfl⟩

/-- From another mode back to `PS_MODE_ACTIVE`. -/
theorem rtwSetPsMode_active (hmode : s.pwrMode ≠ PS_MODE_ACTIVE) (env : PsEnv) :
    s.rtwSetPsMode PS_MODE_ACTIVE 0 0 env =
      if env.oppPs = 0 then { s with pwrMode := PS_MODE_ACTIVE, bFwCurrentInPSMode := false } else s := by
  unfold rtwSetPsMode
  rw [if_neg (by decide), if_neg fun h => hmode h.1, if_pos rfl]

/-! ## Steps -/

/-- What was said of the last `ips_leave` is forgotten. -/
theorem Truthful.cleared (h : Truthful s) : Truthful { s with leave := none } :=
  ⟨h.fw, h.saving, h.processing, fun hl => by cases hl⟩

/-- A step that leaves the radio and `bpower_saving` alone or sets the flag. -/
theorem Truthful.noted (h : Truthful s) {e : PwrEvent} {t : PwrCtrl}
    (hfw : t.bFwCurrentInPSMode = true ↔ t.pwrMode ≠ PS_MODE_ACTIVE)
    (hsaving : t.bpowerSaving = true ∨ t.bpowerSaving = s.bpowerSaving ∧ t.rfPwrstate = s.rfPwrstate ∧
      (isLpsEnter e = false ∨ t.pwrMode = s.pwrMode))
    (hprocessing : t.bipsProcessing = false) (hleave : t.leave = none) : Truthful (s.noted e t) := by
  refine ⟨hfw, fun hsave => ?_, hprocessing, fun hl => ?_⟩
  · show t.bpowerSaving = true
    obtain hset | ⟨hflag, hrf, hlps⟩ := hsaving
    · exact hset
    rw [hflag]
    obtain hoff | ⟨hmode, hentered⟩ := hsave
    · exact h.saving (.inl (hrf ▸ hoff))
    · have hwho : (if s.pwrMode = PS_MODE_ACTIVE then isLpsEnter e else s.lpsEntered) = true := by
        simpa [PwrCtrl.noted, show t.pwrMode ≠ PS_MODE_ACTIVE from hmode] using hentered
      split at hwho
      · rename_i hactive
        obtain hno | hsame := hlps
        · exact absurd (hno.symm.trans hwho) Bool.false_ne_true
        · exact absurd (hsame.trans hactive) hmode
      · rename_i hactive
        exact h.saving (.inr ⟨hactive, hwho⟩)
  · exact absurd (hleave.symm.trans hl) (Option.some_ne_none true).symm

theorem psProcessor_truthful (h : Truthful s) (hleave : s.leave = none) (idle : Bool) :
    Truthful (s.noted (.psProcessor idle) (s.rtwPsProcessor idle)) := by
  have hsame : Truthful (s.noted (.psProcessor idle) s) :=
    h.noted h.fw (.inr ⟨rfl, rfl, .inl rfl⟩) h.processing hleave
  unfold rtwPsProcessor
  split
  · exact hsame
  split
  · exact hsame
  split
  · exact hsame
  split
  · exact h.noted h.fw (.inl rfl) rfl hleave
  · exact hsame

theorem setPsMode_truthful (h : Truthful s) (hleave : s.leave = none) (psMode smartPs bcnAntMode : ℕ) (env : PsEnv) :
    Truthful (s.noted (.setPsMode psMode smartPs bcnAntMode env) (s.rtwSetPsMode psMode smartPs bcnAntMode env)) := by
  obtain ⟨hrf, hsaving, hprocessing, hl⟩ := rtwSetPsMode_frame s psMode smartPs bcnAntMode env
  exact h.noted (rtwSetPsMode_fw h.fw ..) (.inr ⟨hsaving, hrf, .inl rfl⟩) (hprocessing.trans h.processing)
    (hl.trans hleave)

theorem lpsEnter_truthful (h : Truthful s) (hleave : s.leave = none) (rdy : Bool) (env : PsEnv) :
    Truthful (s.noted (.lpsEnter rdy env) (s.lpsEnter rdy env)) := by
  have hsame : Truthful (s.noted (.lpsEnter rdy env) s) :=
    h.noted h.fw (.inr ⟨rfl, rfl, .inr rfl⟩) h.processing hleave
  unfold lpsEnter
  split
  · exact hsame
  split
  · split
    · split
      · -- the flag is set before the mode
        obtain ⟨-, hsaving, hprocessing, hl⟩ :=
          rtwSetPsMode_frame { s with bpowerSaving := true } s.powerMgnt s.smartPs 0 env
        refine h.noted (rtwSetPsMode_fw ?_ ..) (.inl hsaving) (hprocessing.trans h.processing) (hl.trans hleave)
        exact h.fw
      · exact hsame
    · exact h.noted h.fw (.inr ⟨rfl, rfl, .inr rfl⟩) h.processing hleave
  · exact hsame

theorem setLps_truthful (h : Truthful s) (hleave : s.leave = none) (mode : ℕ) :
    Truthful (s.noted (.setLps mode) (s.rtwPmSetLps mode)) := by
  unfold rtwPmSetLps
  split
  · exact h.noted h.fw (.inr ⟨rfl, rfl, .inl rfl⟩) h.processing hleave
  · exact h.noted h.fw (.inr ⟨rfl, rfl, .inl rfl⟩) h.processing hleave

theorem leave_truthful (h : Truthful s) (hleave : s.leave = none) {e : PwrEvent} (hlps : isLpsEnter e = false)
    (env : LeaveEnv) : Truthful (s.noted e (s.noteLeave env).2) ↔ s.LeavesWell env := by
  cases hrf : s.rfPwrstate with
  | on =>
    rw [noteLeave_on hrf]
    refine ⟨fun _ hoff => ?_, fun _ => h.noted h.fw (.inr ⟨rfl, rfl, .inl hlps⟩) h.processing hleave⟩
    rw [hrf] at hoff
    cases hoff
  | off =>
    rw [noteLeave_off hrf h.processing env]
    constructor
    · intro ht _
      -- nothing may call for the flag, which is cleared
      have hsaving : ¬ ((if env.pwrUp.ret then RfState.on else .off) = .off ∨ s.pwrMode ≠ PS_MODE_ACTIVE ∧
          (decide (s.pwrMode ≠ PS_MODE_ACTIVE) &&
            if s.pwrMode = PS_MODE_ACTIVE then isLpsEnter e else s.lpsEntered) = true) :=
        fun hsave => Bool.false_ne_true (ht.saving hsave)
      have hret : env.pwrUp.ret = true := by
        by_contra hno
        exact hsaving (.inl (if_neg hno))
      refine ⟨hret, ?_⟩
      by_cases hmode : s.pwrMode = PS_MODE_ACTIVE
      · exact .inl hmode
      · have hfw : (!(!s.bkeepfwalive && (env.pwrUp.ret || env.pwrUp.fwReady)) && s.bFwCurrentInPSMode) = true :=
          ht.fw.mpr hmode
        refine .inr ⟨?_, ?_⟩
        · simp only [hret, Bool.true_or, Bool.and_true, Bool.not_not, Bool.and_eq_true] at hfw
          exact hfw.1
        · by_contra hentered
          exact hsaving (.inr ⟨hmode, by simpa [hmode] using hentered⟩)
    · intro hwell
      obtain ⟨hret, hmode⟩ := hwell hrf
      refine ⟨?_, ?_, h.processing, fun _ => if_pos hret⟩
      · show (!(!s.bkeepfwalive && (env.pwrUp.ret || env.pwrUp.fwReady)) && s.bFwCurrentInPSMode) = true ↔ _
        obtain hactive | ⟨hkeep, -⟩ := hmode
        · have hfw : s.bFwCurrentInPSMode = false := by
            by_contra hno
            exact h.fw.mp (by simpa using hno) hactive
          simp [hfw, PwrCtrl.noted, hactive]
        · simpa [hkeep, PwrCtrl.noted] using h.fw
      · rintro (hoff | ⟨hne, hentered⟩)
        · have honly : (if env.pwrUp.ret then RfState.on else .off) = .off := hoff
          rw [if_pos hret] at honly
          cases honly
        · have hne' : s.pwrMode ≠ PS_MODE_ACTIVE := hne
          obtain hactive | ⟨-, hnot⟩ := hmode
          · exact absurd hactive hne'
          · simp [PwrCtrl.noted, hne', hnot] at hentered

theorem noted_unsaved {e : PwrEvent} (t : PwrCtrl) (hflag : t.bpowerSaving = false)
    (hfw : t.bFwCurrentInPSMode = true ↔ t.pwrMode ≠ PS_MODE_ACTIVE) (hprocessing : t.bipsProcessing = false)
    (hleave : t.leave = none) : Truthful (s.noted e t) ↔
      t.rfPwrstate = .on ∧ (t.pwrMode = PS_MODE_ACTIVE ∨ (s.noted e t).lpsEntered = false) := by
  constructor
  · intro ht
    have hsaving : ¬ (t.rfPwrstate = .off ∨ t.pwrMode ≠ PS_MODE_ACTIVE ∧ (s.noted e t).lpsEntered = true) :=
      fun hsave => Bool.false_ne_true (hflag.symm.trans (ht.saving hsave))
    rw [not_or, not_and] at hsaving
    refine ⟨?_, ?_⟩
    · cases hrf : t.rfPwrstate with
      | on => rfl
      | off => exact absurd hrf hsaving.1
    · by_cases hmode : t.pwrMode = PS_MODE_ACTIVE
      · exact .inl hmode
      · exact .inr (by simpa using hsaving.2 hmode)
  · rintro ⟨hon, hmode⟩
    refine ⟨hfw, ?_, hprocessing, fun hl => ?_⟩
    · rintro (hoff | ⟨hne, hentered⟩)
      · have hoff' : t.rfPwrstate = .off := hoff
        rw [hon] at hoff'
        cases hoff'
      · obtain hactive | hnot := hmode
        · exact absurd hactive hne
        · exact absurd (hnot.symm.trans hentered) Bool.false_ne_true
    · exact absurd (hleave.symm.trans hl) (Option.some_ne_none true).symm

theorem lpsLeave_truthful (h : Truthful s) (hleave : s.leave = none) (env : PsEnv) :
    Truthful (s.noted (.lpsLeave env) (s.lpsLeave env)) ↔ s.Safe (.lpsLeave env) := by
  -- the mode stays
  have hstay : Truthful (s.noted (.lpsLeave env) { s with bpowerSaving := false }) ↔
      s.rfPwrstate = .on ∧ (s.pwrMode = PS_MODE_ACTIVE ∨ s.lpsEntered = false) := by
    rw [noted_unsaved { s with bpowerSaving := false } rfl h.fw h.processing hleave]
    refine and_congr_right fun _ => ?_
    by_cases hmode : s.pwrMode = PS_MODE_ACTIVE <;> simp [noted, hmode]
  unfold lpsLeave Safe
  dsimp only
  by_cases hlps : s.bLeisurePs = true ∧ s.pwrMode ≠ PS_MODE_ACTIVE
  · rw [if_pos hlps, rtwSetPsMode_active hlps.2]
    by_cases hopp : env.oppPs = 0
    · rw [if_pos hopp, noted_unsaved { s with
        pwrMode := PS_MODE_ACTIVE, bFwCurrentInPSMode := false, bpowerSaving := false } rfl (by simp) h.processing hleave]
      simp [hlps.1, hopp]
    · rw [if_neg hopp, hstay]
      simp [hopp]
  · rw [if_neg hlps, hstay]
    refine and_congr_right fun _ => ?_
    constructor
    · rintro (hmode | hnot)
      · exact .inl hmode
      · exact .inr (.inl hnot)
    · rintro (hmode | hnot | ⟨hleisure, -⟩)
      · exact .inl hmode
      · exact .inr hnot
      · exact .inl (by simpa [hleisure] using hlps)

theorem step_truthful (h : Truthful s) {e : PwrEvent} {t : PwrCtrl} (hstep : s.step e = some t) :
    Truthful t ↔ s.Safe e := by
  cases hstep
  have hu := h.cleared
  have hnoted : ∀ u, s.noted e u = ({ s with leave := none } : PwrCtrl).noted e u := fun u => rfl
  have hsafe : s.Safe e ↔ ({ s with leave := none } : PwrCtrl).Safe e := by
    cases e <;> rfl
  rw [hnoted, hsafe]
  generalize hs : ({ s with leave := none } : PwrCtrl) = u at hu
  have hleave : u.leave = none := by rw [← hs]
  cases e with
  | psProcessor idle => exact iff_of_true (psProcessor_truthful hu hleave idle) trivial
  | ipsLeave env => exact leave_truthful hu hleave rfl env
  | pwrWakeup env =>
    show Truthful (u.noted _ (u.rtwPwrWakeup env).2) ↔ (wakes env = true → u.LeavesWell env.leave)
    rw [rtwPwrWakeup_snd]
    by_cases hwakes : wakes env = true
    · rw [if_pos hwakes, leave_truthful hu hleave rfl]
      exact ⟨fun hwell _ => hwell, fun hwell => hwell hwakes⟩
    · rw [if_neg hwakes]
      exact iff_of_true (hu.noted hu.fw (.inr ⟨rfl, rfl, .inl rfl⟩) hu.processing hleave) fun hw => absurd hw hwakes
  | lpsEnter rdy env => exact iff_of_true (lpsEnter_truthful hu hleave rdy env) trivial
  | lpsLeave env => exact lpsLeave_truthful hu hleave env
  | setPsMode psMode smartPs bcnAntMode env =>
    exact iff_of_true (setPsMode_truthful hu hleave psMode smartPs bcnAntMode env) trivial
  | setLps mode => exact iff_of_true (setLps_truthful hu hleave mode) trivial
  | ipsModeReq mode => exact iff_of_true (hu.noted hu.fw (.inr ⟨rfl, rfl, .inl rfl⟩) hu.processing hleave) trivial

theorem Initial.truthful (h : Initial s) : Truthful s where
  fw := by simp [h.bFwCurrentInPSMode, h.pwrMode]
  saving hsave := by
    obtain hoff | ⟨hmode, -⟩ := hsave
    · rw [h.rfPwrstate] at hoff
      cases hoff
    · exact absurd h.pwrMode hmode
  processing := h.bipsProcessing
  leave hl := by
    rw [h.leave] at hl
    cases hl

/-- From the initial state the flags are right after every step of a run exactly when every step is safe. -/
theorem power_truthful (s : PwrCtrl) (hinit : s.Initial) (events : List PwrEvent) :
    GuardedRuns.Always step Truthful s events ↔ GuardedRuns.Meets step Safe s events :=
  GuardedRuns.always_iff_meets (fun _ _ => ⟨_, rfl⟩) (fun _ _ _ h hstep => step_truthful h hstep) hinit.truthful

def awake : PwrCtrl where
  rfPwrstate := .on
  changeRfpwrstate := .on
  bipsProcessing := false
  bpowerSaving := false
  bkeepfwalive := false
  ipsMode := .NORMAL
  ipsModeReq := .NORMAL
  pwrMode := PS_MODE_ACTIVE
  smartPs := 0
  bcnAntMode := 0
  bFwCurrentInPSMode := false
  bLeisurePs := true
  powerMgnt := 1
  lpsIdleCount := 2

theorem awake_initial : awake.Initial := ⟨rfl, rfl, rfl, rfl, rfl, rfl, rfl⟩

/-- A WEP station with one key, whose power up may fail. -/
def wepLeave (ret : Bool) : LeaveEnv := ⟨⟨ret, false⟩, WEP40, 1, fun _ => true⟩

/-- IPS entered and left, then LPS entered and left. -/
theorem power_truthful_cycle : GuardedRuns.Always step Truthful awake
      [.psProcessor true, .ipsLeave (wepLeave true), .lpsEnter true ⟨true, false, 0⟩, .lpsLeave ⟨true, false, 0⟩] := by
  refine (power_truthful awake awake_initial _).mpr ⟨trivial, ⟨?_, trivial, ⟨rfl, .inr (.inr ⟨rfl, rfl⟩)⟩, trivial⟩⟩
  exact fun _ => ⟨rfl, .inl rfl⟩

/-- The power up fails and the key is set: `ips_leave` succeeds with the radio off. LPS is left while the peer's
opportunistic power save keeps the firmware asleep: the flag is cleared. -/
theorem power_untruthful :
    (∃ s, GuardedRuns.run step awake [.psProcessor true, .ipsLeave (wepLeave false)] = some s ∧
      s.leave = some true ∧ s.rfPwrstate = .off ∧ s.bpowerSaving = false) ∧
    (∃ s, GuardedRuns.run step awake [.lpsEnter true ⟨true, false, 1⟩, .lpsLeave ⟨true, false, 1⟩] = some s ∧
      s.lpsEntered = true ∧ s.pwrMode ≠ PS_MODE_ACTIVE ∧ s.bpowerSaving = false) ∧
    ¬ ∀ s events, Initial s → GuardedRuns.Always step Truthful s events := by
  refine ⟨⟨_, rfl, by decide +kernel, by decide +kernel, by decide +kernel⟩,
    ⟨_, rfl, by decide +kernel, by decide +kernel, by decide +kernel⟩, fun h => ?_⟩
  obtain ⟨-, -, hfailed⟩ := h awake [.psProcessor true, .ipsLeave (wepLeave false)] awake_initial
  exact absurd (GuardedRuns.Always.head hfailed).leave (by decide +kernel)

end PwrCtrl

end Rtl8723au
