import Rtl8723au.Library.GuardedRuns
import Rtl8723au.Mlme.SurveyChannels
import Rtl8723au.P2p.GoNego

/-! The survey of `core/rtw_mlme_ext.c`. Each command `sitesurvey_cmd_hdl` goes to one channel with `site_survey` and arms a
timer, and `survey_timer_hdl` goes on to the next channel with a command of its own. Requests, aborts and the loss of
commands come in between. -/
namespace Rtl8723au
namespace Survey
open GuardedRuns ChannelSet SurveyChannels
set_option autoImplicit false

def P2P_FINDPHASE_EX_NONE : ℕ := 0
def P2P_FINDPHASE_EX_SOCIAL_FIRST : ℕ := 2
def P2P_FINDPHASE_EX_MAX : ℕ := 4

inductive ScanState
  | DISABLE | START | TXNULL | PROCESS | COMPLETE
  deriving DecidableEq

/-- What a survey reads of `wifidirect_info`, with whatever is in memory behind the arrays. -/
structure P2pScan where
  p2pState : P2pState
  preP2pState : P2pState
  inviteScanOpChOnly : Bool
  inviteOperationCh : ℕ → ℕ
  scanOpChOnly : Bool
  operationCh : ℕ → ℕ
  socialChan : ℕ → ℕ
  findPhaseStateExchangeCnt : ℕ

/-- A channel that the survey went to: its index, its number and how it is scanned. -/
structure Visit where
  idx : ℕ
  channel : ℕ
  scanType : RtScanType

/-- `report_surveydone_event`, with the list of the survey, where it went, and whether an abort came in. -/
structure Report where
  ch : List RtwChannel
  chNum : ℕ
  visits : List Visit
  aborted : Bool

/-- `sitesurvey_res` with the timer, the commands in the queue and what they depend on. `visits` and `aborted` begin anew with
each survey. -/
structure SurveyState where
  set : ChannelSet
  band : Band
  associated : Bool
  wdinfo : P2pScan
  state : ScanState := .DISABLE
  channelIdx : ℕ := 0
  ch : List RtwChannel := []
  chNum : ℕ := 0
  scanAbort : Bool := false
  timer : Bool := false
  cmds : List (List RtwChannel × ℕ) := []
  visits : List Visit := []
  aborted : Bool := false
  reports : List Report := []

/-! ## The functions -/

/-- The channel that `site_survey` goes to, zero when there is none; nothing when the search runs off the channel set. -/
def surveyChannel (s : SurveyState) : Option (ℕ × RtScanType) :=
  if s.wdinfo.inviteScanOpChOnly then some (s.wdinfo.inviteOperationCh s.channelIdx, .ACTIVE)
  else if s.wdinfo.scanOpChOnly then some (s.wdinfo.operationCh s.channelIdx, .ACTIVE)
  else if P2P_FINDPHASE_EX_SOCIAL_FIRST ≤ s.wdinfo.findPhaseStateExchangeCnt then
    (rtwChSetSearchCh s.set.array (s.wdinfo.socialChan s.channelIdx)).map fun i =>
      (s.wdinfo.socialChan s.channelIdx, if 0 ≤ i then (s.set.array.getD i.toNat ⟨0, .PASSIVE⟩).ScanType else .ACTIVE)
  else if s.channelIdx < s.chNum then
    some ((s.ch.getD s.channelIdx .zero).hw_value, siteSurveyType (s.ch.getD s.channelIdx .zero))
  else some (0, .PASSIVE)

/-- Where `site_survey` finds no channel: the find phase goes on by listening, or the survey is over. -/
def surveyDone (s : SurveyState) : SurveyState :=
  let scanning := s.wdinfo.p2pState = .SCAN ∨ s.wdinfo.p2pState = .FIND_PHASE_SEARCH
  let cnt := if scanning ∧ (s.wdinfo.inviteScanOpChOnly ∨ s.wdinfo.scanOpChOnly) then P2P_FINDPHASE_EX_MAX
    else s.wdinfo.findPhaseStateExchangeCnt
  if cnt < P2P_FINDPHASE_EX_MAX ∧ cnt ≠ P2P_FINDPHASE_EX_NONE then
    { s with wdinfo := { s.wdinfo with p2pState := .FIND_PHASE_LISTEN, findPhaseStateExchangeCnt := cnt }, state := .DISABLE }
  else
    { s with
      wdinfo := { s.wdinfo with
        p2pState := if scanning then s.wdinfo.preP2pState else s.wdinfo.p2pState
        findPhaseStateExchangeCnt := P2P_FINDPHASE_EX_NONE }
      state := .DISABLE
      reports := s.reports ++ [⟨s.ch, s.chNum, s.visits, s.aborted⟩] }

def siteSurvey (s : SurveyState) : Option SurveyState :=
  (surveyChannel s).map fun (channel, scanType) =>
    if channel ≠ 0 then { s with timer := true, visits := s.visits ++ [⟨s.channelIdx, channel, scanType⟩] }
    else surveyDone s

def sitesurveyCmdHdl (s : SurveyState) (pparm : List RtwChannel × ℕ) : Option SurveyState :=
  if s.state = .DISABLE then do
    let (ch, chNum) ← rtwScanChDecision s.set s.band pparm.1 pparm.2
    let s := { s with channelIdx := 0, ch := ch, chNum := chNum, visits := [], aborted := false }
    -- null data is sent first, and protected by a delay
    if s.associated then some { s with state := .TXNULL, timer := true }
    else siteSurvey { s with state := .PROCESS }
  else siteSurvey { s with state := if s.state = .START ∨ s.state = .TXNULL then .PROCESS else s.state }

/-- `survey_timer_hdl`, and whether its command gets into the queue. -/
def surveyTimerHdl (s : SurveyState) (success : Bool) : SurveyState :=
  if s.state = .DISABLE ∨ s.state = .START then s
  else
    let idx := if s.state = .PROCESS then s.channelIdx + 1 else s.channelIdx
    let cmds := if success then s.cmds ++ [([], 0)] else s.cmds
    if s.scanAbort then
      let s := { s with scanAbort := false, aborted := true, cmds := cmds }
      if s.wdinfo.p2pState ≠ .NONE then
        { s with channelIdx := 3, wdinfo := { s.wdinfo with findPhaseStateExchangeCnt := P2P_FINDPHASE_EX_MAX } }
      else { s with channelIdx := s.chNum }
    else { s with channelIdx := idx, cmds := cmds }

/-- `request` is `rtw_sitesurvey_cmd`; `cmd` and `dropCmd` are the command thread with the next command, which it runs or
drops; `reset` is `rtw_reset_drv_sw`, and the last three are changes of what the survey depends on. -/
inductive SurveyEvent
  | request (ch : List RtwChannel) (success : Bool)
  | cmd
  | dropCmd
  | timer (success : Bool)
  | cancelTimer
  | scanAbort (on : Bool)
  | reset
  | plan (set : ChannelSet) (band : Band)
  | associated (on : Bool)
  | p2p (wdinfo : P2pScan)

def step (s : SurveyState) : SurveyEvent → Option SurveyState
  | .request ch success => some (if success then { s with cmds := s.cmds ++ [rtwSitesurveyCmd ch] } else s)
  | .cmd =>
    match s.cmds with
    | [] => none
    | pparm :: cmds => sitesurveyCmdHdl { s with cmds := cmds } pparm
  | .dropCmd =>
    match s.cmds with
    | [] => none
    | _ :: cmds => some { s with cmds := cmds }
  | .timer success => if s.timer then some (surveyTimerHdl { s with timer := false } success) else none
  | .cancelTimer => some { s with timer := false }
  | .scanAbort on => some { s with scanAbort := on }
  | .reset => some { s with state := .DISABLE }
  | .plan set band => some { s with set := set, band := band }
  | .associated on => some { s with associated := on }
  | .p2p wdinfo => some { s with wdinfo := wdinfo }

/-! ## Where a survey goes -/

/-- The entry of the list at an index, an empty one behind its end. -/
def entry (ch : List RtwChannel) (chNum i : ℕ) : RtwChannel := if i < chNum then ch.getD i .zero else .zero

/-- The visits are in order and at least one to each entry before `n`, all of which have a channel. -/
structure Walk (ch : List RtwChannel) (chNum : ℕ) (visits : List Visit) (n : ℕ) : Prop where
  sorted : (visits.map Visit.idx).Pairwise (· ≤ ·)
  all : ∀ i, i ∈ visits.map Visit.idx ↔ i < n
  channels : ∀ v ∈ visits, v.channel = (entry ch chNum v.idx).hw_value ∧ v.channel ≠ 0 ∧
    v.scanType = siteSurveyType (entry ch chNum v.idx)

section Walk
variable {ch : List RtwChannel} {chNum n : ℕ} {visits : List Visit}

theorem Walk.nil : Walk ch chNum [] 0 := ⟨.nil, fun _ => iff_of_false List.not_mem_nil (Nat.not_lt_zero _), fun _ h => absurd h List.not_mem_nil⟩

theorem Walk.snoc (h : Walk ch chNum visits n) {i m : ℕ} (hi : i = n ∧ m = n + 1 ∨ i + 1 = n ∧ m = n)
    (hchannel : (entry ch chNum i).hw_value ≠ 0) :
    Walk ch chNum (visits ++ [⟨i, (entry ch chNum i).hw_value, siteSurveyType (entry ch chNum i)⟩]) m where
  sorted := by
    rw [List.map_append, List.pairwise_append]
    refine ⟨h.sorted, List.pairwise_singleton _ _, fun j hj k hk => ?_⟩
    rw [List.mem_singleton.mp hk]
    have hlt := (h.all j).mp hj
    show j ≤ i
    omega
  all j := by
    rw [List.map_append, List.mem_append, h.all, List.map_singleton, List.mem_singleton]
    show j < n ∨ j = i ↔ j < m
    omega
  channels v hv := by
    rcases List.mem_append.mp hv with hold | hnew
    · exact h.channels v hold
    · rw [List.mem_singleton.mp hnew]
      exact ⟨rfl, hchannel, rfl⟩

theorem Walk.channel (h : Walk ch chNum visits n) {i : ℕ} (hi : i < n) : (entry ch chNum i).hw_value ≠ 0 := by
  obtain ⟨v, hv, rfl⟩ := List.mem_map.mp ((h.all i).mpr hi)
  obtain ⟨hchannel, hne, -⟩ := h.channels v hv
  rwa [← hchannel]

end Walk

/-- P2P has no part in the survey. -/
structure Idle (wdinfo : P2pScan) : Prop where
  state : wdinfo.p2pState = .NONE
  invite : wdinfo.inviteScanOpChOnly = false
  scan : wdinfo.scanOpChOnly = false
  cnt : wdinfo.findPhaseStateExchangeCnt = P2P_FINDPHASE_EX_NONE

/-- The survey has gone through its list as far as it came, and to its end if no abort came in. -/
def Report.Complete (r : Report) : Prop :=
  ∃ n, Walk r.ch r.chNum r.visits n ∧ (r.aborted = false → (entry r.ch r.chNum n).hw_value = 0)

/-- What every step keeps without P2P: the timer runs only behind a visit, and then the index is that of the last one. -/
structure Sound (s : SurveyState) : Prop where
  idle : Idle s.wdinfo
  resting : s.state = .DISABLE ∨ s.state = .TXNULL ∨ s.state = .PROCESS
  begun : s.state = .TXNULL → s.visits = [] ∧ (s.aborted = false → s.channelIdx = 0)
  walk : s.state = .PROCESS → ∃ n, Walk s.ch s.chNum s.visits n ∧
    (s.aborted = false → s.channelIdx + 1 = n ∨ s.channelIdx = n ∧ s.timer = false)
  ended : s.aborted = true → s.chNum ≤ s.channelIdx
  reports : ∀ r ∈ s.reports, r.Complete

section Sound
variable {s s' : SurveyState}

theorem surveyChannel_idle (h : Idle s.wdinfo) :
    ∃ t, surveyChannel s = some ((entry s.ch s.chNum s.channelIdx).hw_value, t) ∧
      ((entry s.ch s.chNum s.channelIdx).hw_value ≠ 0 → t = siteSurveyType (entry s.ch s.chNum s.channelIdx)) := by
  unfold surveyChannel entry
  rw [h.invite, h.scan, h.cnt, if_neg Bool.false_ne_true, if_neg Bool.false_ne_true, if_neg (by decide)]
  by_cases hlt : s.channelIdx < s.chNum
  · rw [if_pos hlt, if_pos hlt]
    exact ⟨_, rfl, fun _ => rfl⟩
  · rw [if_neg hlt, if_neg hlt]
    exact ⟨_, rfl, fun h => absurd rfl h⟩

theorem surveyDone_idle (h : Idle s.wdinfo) : surveyDone s =
    { s with state := .DISABLE, reports := s.reports ++ [⟨s.ch, s.chNum, s.visits, s.aborted⟩] } := by
  have hscanning : ¬ (s.wdinfo.p2pState = .SCAN ∨ s.wdinfo.p2pState = .FIND_PHASE_SEARCH) := by
    rw [h.state]
    decide
  unfold surveyDone
  simp only [hscanning, false_and, if_false, h.cnt, ne_eq, not_true_eq_false, and_false]
  rw [← h.cnt]

/-- `site_survey` goes to the entry that is next, or ends the survey with a report. -/
theorem siteSurvey_sound (h : siteSurvey s = some s') (hidle : Idle s.wdinfo) (hstate : s.state = .PROCESS) {n : ℕ}
    (hwalk : Walk s.ch s.chNum s.visits n) (hidx : s.aborted = false → s.channelIdx + 1 = n ∨ s.channelIdx = n)
    (hended : s.aborted = true → s.chNum ≤ s.channelIdx) (hreports : ∀ r ∈ s.reports, r.Complete) : Sound s' := by
  obtain ⟨t, ht, htype⟩ := surveyChannel_idle hidle
  rw [siteSurvey, ht, Option.map_some] at h
  obtain rfl := Option.some.inj h
  dsimp only
  by_cases hchannel : (entry s.ch s.chNum s.channelIdx).hw_value = 0
  · rw [if_neg (not_not.mpr hchannel), surveyDone_idle hidle]
    refine ⟨hidle, .inl rfl, (fun h => nomatch h), (fun h => nomatch h), hended, fun r hr => ?_⟩
    rcases List.mem_append.mp hr with hold | hnew
    · exact hreports r hold
    · rw [List.mem_singleton.mp hnew]
      refine ⟨n, hwalk, fun haborted => ?_⟩
      obtain hlast | hnext := hidx haborted
      · exact absurd hchannel (hwalk.channel (by omega))
      · rwa [← hnext]
  · rw [if_pos hchannel, htype hchannel]
    have haborted : s.aborted = false := by
      by_contra hab
      have hge := hended (Bool.not_eq_false _ ▸ hab)
      exact hchannel (by rw [entry, if_neg (Nat.not_lt_of_le hge)]; rfl)
    refine ⟨hidle, .inr (.inr hstate), fun h => absurd (hstate.symm.trans h) (by decide), fun _ => ?_, hended, hreports⟩
    obtain hlast | hnext := hidx haborted
    · exact ⟨n, hwalk.snoc (.inr ⟨hlast, rfl⟩) hchannel, fun _ => .inl hlast⟩
    · exact ⟨n + 1, hwalk.snoc (.inl ⟨hnext, rfl⟩) hchannel, fun _ => .inl (by rw [← hnext])⟩

theorem sitesurveyCmdHdl_sound (hs : Sound s) {pparm : List RtwChannel × ℕ} (h : sitesurveyCmdHdl s pparm = some s') :
    Sound s' := by
  unfold sitesurveyCmdHdl at h
  by_cases hdisable : s.state = .DISABLE
  · rw [if_pos hdisable] at h
    obtain ⟨⟨ch, chNum⟩, -, h⟩ := Option.bind_eq_some_iff.mp h
    dsimp only at h
    split at h
    · obtain rfl := Option.some.inj h
      exact ⟨hs.idle, .inr (.inl rfl), fun _ => ⟨rfl, fun _ => rfl⟩, (fun h => nomatch h), (fun h => nomatch h), hs.reports⟩
    · exact siteSurvey_sound h hs.idle rfl .nil (fun _ => .inr rfl) (fun hab => Bool.noConfusion hab) hs.reports
  · rw [if_neg hdisable] at h
    obtain hstate | hstate := hs.resting.resolve_left hdisable
    · obtain ⟨hvisits, hidx⟩ := hs.begun hstate
      refine siteSurvey_sound h hs.idle (if_pos (.inr hstate)) (n := 0) ?_ (fun hab => .inr (hidx hab)) hs.ended hs.reports
      show Walk s.ch s.chNum s.visits 0
      rw [hvisits]
      exact .nil
    · obtain ⟨n, hwalk, hidx⟩ := hs.walk hstate
      refine siteSurvey_sound h hs.idle ?_ hwalk (fun hab => (hidx hab).imp_right And.left) hs.ended hs.reports
      show (if s.state = .START ∨ s.state = .TXNULL then ScanState.PROCESS else s.state) = .PROCESS
      rw [hstate]
      decide

theorem surveyTimerHdl_sound (hs : Sound s) (htimer : s.timer = true) (success : Bool) :
    Sound (surveyTimerHdl { s with timer := false } success) := by
  have hoff : Sound { s with timer := false } := ⟨hs.idle, hs.resting, hs.begun, fun hstate => by
    obtain ⟨n, hwalk, hidx⟩ := hs.walk hstate
    exact ⟨n, hwalk, fun hab => (hidx hab).imp_right fun h => ⟨h.1, rfl⟩⟩, hs.ended, hs.reports⟩
  unfold surveyTimerHdl
  dsimp only
  split
  · exact hoff
  split
  · -- an abort ends the walk where it is
    rw [if_neg (not_not.mpr hs.idle.state)]
    refine ⟨hs.idle, hs.resting, fun h => ⟨(hs.begun h).1, fun hab => Bool.noConfusion hab⟩, fun h => ?_, fun _ => le_rfl,
      hs.reports⟩
    obtain ⟨n, hwalk, -⟩ := hs.walk h
    exact ⟨n, hwalk, fun hab => Bool.noConfusion hab⟩
  · refine ⟨hs.idle, hs.resting, fun h => ⟨(hs.begun h).1, fun hab => ?_⟩, fun h => ?_, fun hab => ?_, hs.reports⟩
    · show (if s.state = .PROCESS then s.channelIdx + 1 else s.channelIdx) = 0
      rw [show s.state = _ from h]
      exact (hs.begun h).2 hab
    · obtain ⟨n, hwalk, hidx⟩ := hs.walk h
      refine ⟨n, hwalk, fun hab => .inr ⟨?_, rfl⟩⟩
      show (if s.state = .PROCESS then s.channelIdx + 1 else s.channelIdx) = n
      rw [if_pos h]
      exact (hidx hab).resolve_right fun h => Bool.false_ne_true (h.2.symm.trans htimer)
    · show s.chNum ≤ if s.state = .PROCESS then s.channelIdx + 1 else s.channelIdx
      have hle := hs.ended hab
      split <;> omega

def StaysIdle : SurveyEvent → Prop
  | .p2p wdinfo => Idle wdinfo
  | _ => True

theorem step_sound {e : SurveyEvent} (hs : Sound s) (hquiet : StaysIdle e) (h : step s e = some s') : Sound s' := by
  cases e with
  | cmd =>
    simp only [step] at h
    split at h
    · cases h
    next pparm cmds _ =>
      have hrest : Sound { s with cmds := cmds } := ⟨hs.idle, hs.resting, hs.begun, hs.walk, hs.ended, hs.reports⟩
      exact sitesurveyCmdHdl_sound hrest h
  | timer success =>
    obtain ⟨htimer, h⟩ := Option.ite_none_right_eq_some.mp h
    obtain rfl := Option.some.inj h
    exact surveyTimerHdl_sound hs htimer success
  | cancelTimer =>
    obtain rfl := Option.some.inj h
    refine ⟨hs.idle, hs.resting, hs.begun, fun hstate => ?_, hs.ended, hs.reports⟩
    obtain ⟨n, hwalk, hidx⟩ := hs.walk hstate
    exact ⟨n, hwalk, fun hab => (hidx hab).imp_right fun h => ⟨h.1, rfl⟩⟩
  | reset =>
    obtain rfl := Option.some.inj h
    exact ⟨hs.idle, .inl rfl, (fun h => nomatch h), (fun h => nomatch h), hs.ended, hs.reports⟩
  | dropCmd =>
    simp only [step] at h
    split at h
    · cases h
    · obtain rfl := Option.some.inj h
      exact ⟨hs.idle, hs.resting, hs.begun, hs.walk, hs.ended, hs.reports⟩
  | request ch success =>
    obtain rfl := Option.some.inj h
    cases success <;> exact ⟨hs.idle, hs.resting, hs.begun, hs.walk, hs.ended, hs.reports⟩
  | p2p wdinfo =>
    obtain rfl := Option.some.inj h
    exact ⟨hquiet, hs.resting, hs.begun, hs.walk, hs.ended, hs.reports⟩
  | scanAbort on | plan set band | associated on =>
    obtain rfl := Option.some.inj h
    exact ⟨hs.idle, hs.resting, hs.begun, hs.walk, hs.ended, hs.reports⟩

end Sound

def fresh (set : ChannelSet) (band : Band) (associated : Bool) (wdinfo : P2pScan) : SurveyState := { set, band, associated, wdinfo }

theorem fresh_sound (set : ChannelSet) (band : Band) (associated : Bool) {wdinfo : P2pScan} (hidle : Idle wdinfo) :
    Sound (fresh set band associated wdinfo) where
  idle := hidle
  resting := .inl rfl
  begun h := ScanState.noConfusion h
  walk h := ScanState.noConfusion h
  ended h := Bool.noConfusion h
  reports _ h := absurd h List.not_mem_nil

/-- **Where a survey has been.** In every run without P2P, whatever requests, aborts, lost commands and changes of the channel
plan come in between, a survey that is reported has gone through the entries of its list in order, each at least once and on
its channel, up to the first one without a channel, or to where an abort came in. -/
theorem reports_complete (set : ChannelSet) (band : Band) (associated : Bool) (wdinfo : P2pScan) (hidle : Idle wdinfo)
    (l : List SurveyEvent) (hquiet : ∀ e ∈ l, StaysIdle e) (s : SurveyState)
    (hrun : run step (fresh set band associated wdinfo) l = some s) : ∀ r ∈ s.reports, r.Complete :=
  (run_keeps_of (fun _ _ _ => step_sound) (fresh_sound set band associated hidle) hquiet hrun).reports

def noP2p : P2pScan := ⟨.NONE, .NONE, false, fun _ => 0, false, fun _ => 0, fun _ => 0, P2P_FINDPHASE_EX_NONE⟩

/-- A survey of three channels, with a second request while it is under way. -/
def threeRun : List SurveyEvent :=
  [.request [] true, .cmd, .timer true, .request [] true, .cmd, .cmd, .timer true, .cmd, .timer true, .cmd]

theorem reports_complete_three : ∃ s, run step (fresh mixedSet .GHZ24_50 false noP2p) threeRun = some s ∧
    s.reports.map (fun r => r.visits.map Visit.channel) = [[1, 6, 6, 36]] ∧ ∀ r ∈ s.reports, r.Complete := by
  have hrun : ∃ s, run step (fresh mixedSet .GHZ24_50 false noP2p) threeRun = some s ∧
      s.reports.map (fun r => r.visits.map Visit.channel) = [[1, 6, 6, 36]] := ⟨_, rfl, rfl⟩
  obtain ⟨s, hs, hvisits⟩ := hrun
  refine ⟨s, hs, hvisits, reports_complete mixedSet .GHZ24_50 false noP2p ⟨rfl, rfl, rfl, rfl⟩ threeRun ?_ s hs⟩
  simp [threeRun, StaysIdle]

/-! ## Surveys that nothing takes further -/

def Surveying (s : SurveyState) : Prop := s.state = .TXNULL ∨ s.state = .PROCESS

theorem not_surveying {s : SurveyState} (h : s.state = .DISABLE) : ¬ Surveying s := by
  rintro (hstate | hstate) <;> exact absurd (h.symm.trans hstate) (by decide)

/-- A survey is under way for which neither a timer runs nor a command waits. -/
structure Stalled (s : SurveyState) : Prop where
  surveying : Surveying s
  unarmed : s.timer = false
  none : s.cmds = []

/-- The timer's command does not get into the empty queue, the timer is cancelled while no command waits, or the only command is
dropped. -/
def Loses (s : SurveyState) : SurveyEvent → Prop
  | .timer success => success = false ∧ Surveying s ∧ s.cmds = []
  | .cancelTimer => Surveying s ∧ s.cmds = []
  | .dropCmd => Surveying s ∧ s.timer = false ∧ s.cmds.length = 1
  | _ => False

/-- Another request, or the driver starts anew. -/
def Revives : SurveyEvent → Prop
  | .request _ success => success = true
  | .reset => True
  | _ => False

section Stalled
variable {s s' : SurveyState} {e : SurveyEvent}

theorem siteSurvey_goes (h : siteSurvey s = some s') : s'.timer = true ∨ s'.state = .DISABLE := by
  obtain ⟨⟨channel, t⟩, -, rfl⟩ := Option.map_eq_some_iff.mp h
  dsimp only
  split
  · exact .inl rfl
  · refine .inr ?_
    unfold surveyDone
    dsimp only
    split_ifs <;> rfl

theorem sitesurveyCmdHdl_goes {pparm : List RtwChannel × ℕ} (h : sitesurveyCmdHdl s pparm = some s') :
    s'.timer = true ∨ s'.state = .DISABLE := by
  unfold sitesurveyCmdHdl at h
  split at h
  · obtain ⟨⟨ch, chNum⟩, -, h⟩ := Option.bind_eq_some_iff.mp h
    dsimp only at h
    split at h
    · obtain rfl := Option.some.inj h
      exact .inl rfl
    · exact siteSurvey_goes h
  · exact siteSurvey_goes h

theorem surveyTimerHdl_stalled (s : SurveyState) (success : Bool) :
    Stalled (surveyTimerHdl { s with timer := false } success) ↔ success = false ∧ Surveying s ∧ s.cmds = [] := by
  by_cases hoff : s.state = .DISABLE ∨ s.state = .START
  · have hnot : ¬ Surveying s := by
      rintro (h | h) <;> rw [h] at hoff <;> exact absurd hoff (by decide)
    unfold surveyTimerHdl
    rw [if_pos hoff]
    exact iff_of_false (fun h => hnot h.surveying) fun h => hnot h.2.1
  · have hfields : (surveyTimerHdl { s with timer := false } success).state = s.state ∧
        (surveyTimerHdl { s with timer := false } success).timer = false ∧
        (surveyTimerHdl { s with timer := false } success).cmds = if success then s.cmds ++ [([], 0)] else s.cmds := by
      unfold surveyTimerHdl
      rw [if_neg hoff]
      dsimp only
      split
      · split <;> exact ⟨rfl, rfl, rfl⟩
      · exact ⟨rfl, rfl, rfl⟩
    obtain ⟨hstate, htimer, hcmds⟩ := hfields
    cases success with
    | true => exact iff_of_false (fun h => absurd (hcmds.symm.trans h.none) (by simp)) fun h => absurd h.1 (by decide)
    | false =>
      constructor
      · rintro ⟨hsurveying, -, hnone⟩
        exact ⟨rfl, by rwa [Surveying, hstate] at hsurveying, hcmds.symm.trans hnone⟩
      · rintro ⟨-, hsurveying, hnone⟩
        exact ⟨by rwa [Surveying, hstate], htimer, hcmds.trans hnone⟩

theorem stalled_step (h : step s e = some s') : Stalled s' ↔ Stalled s ∧ ¬ Revives e ∨ Loses s e := by
  have hsame : (Stalled s' ↔ Stalled s) → ¬ Revives e → ¬ Loses s e → (Stalled s' ↔ Stalled s ∧ ¬ Revives e ∨ Loses s e) :=
    fun hiff hrevives hloses => by rw [hiff, and_iff_left hrevives, or_iff_left hloses]
  cases e with
  | request ch success =>
    obtain rfl := Option.some.inj h
    cases success with
    | true => exact iff_of_false (fun h => absurd h.none (by simp)) fun h => h.elim (fun h => h.2 rfl) id
    | false => exact hsame Iff.rfl (fun h => Bool.false_ne_true h) id
  | cmd =>
    simp only [step] at h
    split at h
    · cases h
    next hcmds =>
      refine iff_of_false (fun hs => ?_) fun hs => hs.elim (fun hs => absurd (hcmds.symm.trans hs.1.none) (by simp)) id
      obtain htimer | hstate := sitesurveyCmdHdl_goes h
      · exact Bool.false_ne_true (hs.unarmed.symm.trans htimer)
      · exact not_surveying hstate hs.surveying
  | dropCmd =>
    simp only [step] at h
    split at h
    · cases h
    next hcmds =>
      obtain rfl := Option.some.inj h
      rw [or_iff_right fun hs => absurd (hcmds.symm.trans hs.1.none) (by simp)]
      constructor
      · rintro ⟨hsurveying, htimer, hnone⟩
        exact ⟨hsurveying, htimer, (congrArg List.length hcmds).trans (congrArg (List.length · + 1) hnone)⟩
      · rintro ⟨hsurveying, htimer, hone⟩
        exact ⟨hsurveying, htimer, List.length_eq_zero_iff.mp (Nat.succ.inj ((congrArg List.length hcmds).symm.trans hone))⟩
  | timer success =>
    obtain ⟨htimer, h⟩ := Option.ite_none_right_eq_some.mp h
    obtain rfl := Option.some.inj h
    rw [surveyTimerHdl_stalled, or_iff_right fun hs => Bool.false_ne_true (hs.1.unarmed.symm.trans htimer)]
    rfl
  | cancelTimer =>
    obtain rfl := Option.some.inj h
    constructor
    · rintro ⟨hsurveying, -, hnone⟩
      exact .inr ⟨hsurveying, hnone⟩
    · rintro (⟨⟨hsurveying, -, hnone⟩, -⟩ | ⟨hsurveying, hnone⟩)
      · exact ⟨hsurveying, rfl, hnone⟩
      · exact ⟨hsurveying, rfl, hnone⟩
  | reset =>
    obtain rfl := Option.some.inj h
    exact iff_of_false (fun h => not_surveying rfl h.surveying) fun h => h.elim (fun h => h.2 trivial) id
  | scanAbort | plan | associated | p2p =>
    obtain rfl := Option.some.inj h
    exact hsame ⟨fun h => ⟨h.1, h.2, h.3⟩, fun h => ⟨h.1, h.2, h.3⟩⟩ id id

/-- **When a survey stalls.** In every run a survey is under way with no timer and no command left exactly when an event has
lost its command or its timer, and neither another request nor a new start has come since. -/
theorem survey_stalled_iff (set : ChannelSet) (band : Band) (associated : Bool) (wdinfo : P2pScan) (l : List SurveyEvent)
    (s : SurveyState) (hrun : run step (fresh set band associated wdinfo) l = some s) :
    Stalled s ↔ ∃ l₁ e l₂ t, l = l₁ ++ e :: l₂ ∧ run step (fresh set band associated wdinfo) l₁ = some t ∧ Loses t e ∧
      ∀ x ∈ l₂, ¬ Revives x := by
  refine holds_iff_made Stalled Loses Revives (fun _ _ _ h hloses => (stalled_step h).mpr (.inr hloses))
    (fun _ _ _ h hs hnot => (stalled_step h).mpr (.inl ⟨hs, hnot⟩)) (fun t e t' h hrevives hs => ?_)
    (fun _ _ _ h hnot hs => ((stalled_step h).mp hs).resolve_left fun h => hnot h.1)
    (fun h => not_surveying rfl h.surveying) hrun
  rcases (stalled_step h).mp hs with hs | hloses
  · exact hs.2 hrevives
  · cases e <;> first | exact hloses | exact hrevives

/-- The timer's command does not get into the queue. -/
def lostRun : List SurveyEvent := [.request [] true, .cmd, .timer false]

theorem survey_stalled_iff_lost : ∃ s, Stalled s ∧ ∃ l₁ e l₂ t, lostRun = l₁ ++ e :: l₂ ∧
    run step (fresh mixedSet .GHZ24_50 false noP2p) l₁ = some t ∧ Loses t e ∧ ∀ x ∈ l₂, ¬ Revives x := by
  have hrun : ∃ s, run step (fresh mixedSet .GHZ24_50 false noP2p) lostRun = some s ∧ Stalled s :=
    ⟨_, rfl, .inr rfl, rfl, rfl⟩
  obtain ⟨s, hs, hstalled⟩ := hrun
  exact ⟨s, hstalled, (survey_stalled_iff mixedSet .GHZ24_50 false noP2p lostRun s hs).mp hstalled⟩

end Stalled

end Survey
end Rtl8723au
