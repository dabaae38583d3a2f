import Rtl8723au.Library.InPlaceFilter
import Rtl8723au.Mlme.ChannelSet
import Mathlib.Data.List.Basic
import Mathlib.Data.Nat.Bitwise
import Mathlib.Data.Nat.Notation
import Mathlib.Tactic

/-! The channels of a survey: `rtw_sitesurvey_cmd` of `core/rtw_cmd.c` puts the requested channels into the command,
`rtw_scan_ch_decision` of `core/rtw_mlme_ext.c` chooses from them, `site_survey` goes through the choice. -/
namespace Rtl8723au
namespace SurveyChannels
open ChannelSet InPlaceFilter
set_option autoImplicit false

def RTW_CHANNEL_SCAN_AMOUNT : ℕ := 14 + 37

def RTW_IEEE80211_CHAN_DISABLED : ℕ := 1 <<< 0
def RTW_IEEE80211_CHAN_PASSIVE_SCAN : ℕ := 1 <<< 1

/-- `struct rtw_ieee80211_channel`. -/
structure RtwChannel where
  hw_value : ℕ
  flags : ℕ
  deriving DecidableEq

def RtwChannel.zero : RtwChannel := ⟨0, 0⟩

inductive Band
  | GHZ24_50 | GHZ_50 | GHZ_24
  deriving DecidableEq

/-- Both the command builder and the decision skip a channel without number and one that is disabled. -/
def enabled (ch : RtwChannel) : Bool := ch.hw_value ≠ 0 && ch.flags &&& RTW_IEEE80211_CHAN_DISABLED = 0

/-- The channel list of `rtw_sitesurvey_cmd` with `ch_num`: an enabled channel stays in its place. -/
def rtwSitesurveyCmd (ch : List RtwChannel) : List RtwChannel × ℕ :=
  let ch := ch.take RTW_CHANNEL_SCAN_AMOUNT
  (blanked enabled .zero ch ++ List.replicate (RTW_CHANNEL_SCAN_AMOUNT - ch.length) .zero, ch.countP enabled)

/-- The mark of a channel that the set lists for passive scan. -/
def markPassive (scanType : RtScanType) (flags : ℕ) : ℕ :=
  if scanType = .PASSIVE then flags &&& RTW_IEEE80211_CHAN_PASSIVE_SCAN else flags

/-- The first loop of `rtw_scan_ch_decision`, with what it has written to `out`. -/
def acquireLoop (channel_set : List RtChannelInfo) : List RtwChannel → List RtwChannel → Option (List RtwChannel)
  | [], out => some out
  | ch :: rest, out => do
    let out ←
      if enabled ch then do
        let set_idx ← rtwChSetSearchCh channel_set ch.hw_value
        if 0 ≤ set_idx then
          some (out ++ [⟨ch.hw_value, markPassive (channel_set.getD set_idx.toNat ⟨0, .PASSIVE⟩).ScanType ch.flags⟩])
        else some out
      else some out
    if RTW_CHANNEL_SCAN_AMOUNT ≤ out.length then some out
    else acquireLoop channel_set rest out

def defaultChannels (entries : List RtChannelInfo) : List RtwChannel :=
  entries.map fun e => ⟨e.ChannelNum, markPassive e.ScanType 0⟩

def inBand : Band → ℕ → Bool
  | .GHZ24_50, _ => true
  | .GHZ_24, num => num ≤ 35
  | .GHZ_50, num => 35 < num

/-- The last part of `rtw_scan_ch_decision`: what `out` holds, its first `j` entries being chosen, and what is
returned. -/
def bandFilter (band : Band) (chosen free : List RtwChannel) : List RtwChannel × ℕ :=
  match band with
  | .GHZ_24 => (blanked (fun ch => inBand .GHZ_24 ch.hw_value) .zero chosen ++ free,
      chosen.countP fun ch => inBand .GHZ_24 ch.hw_value)
  | .GHZ_50 => compactLoop (fun ch => inBand .GHZ_50 ch.hw_value) .zero chosen.length 0 0 (chosen ++ free)
  | .GHZ24_50 => (chosen ++ free, chosen.length)

/-- `rtw_scan_ch_decision`, `none` when a search runs off the channel set. -/
def rtwScanChDecision (set : ChannelSet) (band : Band) (ch : List RtwChannel) (in_num : ℕ) :
    Option (List RtwChannel × ℕ) := do
  let acquired ← acquireLoop set.array (ch.take in_num) []
  let chosen := if acquired.length = 0 then defaultChannels set.entries else acquired
  some (bandFilter band chosen (List.replicate (RTW_CHANNEL_SCAN_AMOUNT - chosen.length) .zero))

/-- `sitesurvey_res.ch` and `ch_num` after the command. -/
def survey (set : ChannelSet) (band : Band) (request : List RtwChannel) : Option (List RtwChannel × ℕ) :=
  let parm := rtwSitesurveyCmd request
  rtwScanChDecision set band parm.1 parm.2

/-- The scan type of `site_survey` for an entry; probe requests are sent in the active one. -/
def siteSurveyType (ch : RtwChannel) : RtScanType :=
  if ch.flags &&& RTW_IEEE80211_CHAN_PASSIVE_SCAN ≠ 0 then .PASSIVE else .ACTIVE

/-! ## What was asked for -/

/-- The channel can be scanned: enabled, in the channel set and in the band. -/
def usable (set : ChannelSet) (band : Band) (ch : RtwChannel) : Bool :=
  enabled ch && ch.hw_value ∈ set.numbers && inBand band ch.hw_value

/-- The requested channels that can be scanned, in order; if there is none, the channel set. -/
def asked (set : ChannelSet) (band : Band) (request : List RtwChannel) : List ℕ :=
  if request.filter (usable set band) = [] then set.numbers.filter (inBand band)
  else (request.filter (usable set band)).map RtwChannel.hw_value

def ListedPassive (set : ChannelSet) (num : ℕ) : Prop := ∃ e ∈ set.entries, e.ChannelNum = num ∧ e.ScanType = .PASSIVE

/-- The survey goes through the channels that were asked for, and sends nothing on those that the channel set lists for
passive scan. -/
def SurveysAsked (set : ChannelSet) (band : Band) (request : List RtwChannel) : Prop :=
  ∃ out ch_num, survey set band request = some (out, ch_num) ∧
    (out.take ch_num).map RtwChannel.hw_value = asked set band request ∧
    ∀ ch ∈ out.take ch_num, ListedPassive set ch.hw_value →
      ch.flags &&& RTW_IEEE80211_CHAN_PASSIVE_SCAN ≠ 0 ∧ siteSurveyType ch = .PASSIVE

/-! ## The first loop -/

/-- The search finds the channel: it stands in the set below its own number. -/
def found (set : ChannelSet) (num : ℕ) : Bool := num ∈ set.numbers && set.numbers.idxOf num < num

def picked (set : ChannelSet) (ch : RtwChannel) : Bool := enabled ch && found set ch.hw_value

/-- No search runs off the set. -/
def SearchesEnd (set : ChannelSet) (chs : List RtwChannel) : Prop :=
  ∀ ch ∈ chs, enabled ch = true → ch.hw_value ∉ set.numbers → set.entries.length < MAX_CHANNEL_NUM

/-- A request as it stands in the result: the flags lose all but the passive bit if the set lists it so. -/
def marked (set : ChannelSet) (ch : RtwChannel) : RtwChannel :=
  ⟨ch.hw_value, markPassive (set.array.getD (set.numbers.idxOf ch.hw_value) ⟨0, .PASSIVE⟩).ScanType ch.flags⟩

theorem search_found {set : ChannelSet} {num : ℕ} (h : found set num = true) :
    rtwChSetSearchCh set.array num = some (set.numbers.idxOf num : ℤ) := by
  rw [found, Bool.and_eq_true, decide_eq_true_iff, decide_eq_true_iff] at h
  rw [search_mem set h.1, if_neg (Nat.not_le_of_lt h.2)]

theorem search_not_found {set : ChannelSet} {num : ℕ} (h : ¬ found set num = true)
    (hend : num ∉ set.numbers → set.entries.length < MAX_CHANNEL_NUM) :
    rtwChSetSearchCh set.array num = some (-1) := by
  rw [found, Bool.and_eq_true, decide_eq_true_iff, decide_eq_true_iff] at h
  by_cases hmem : num ∈ set.numbers
  · rw [search_mem set hmem, if_pos (Nat.le_of_not_lt fun hlt => h ⟨hmem, hlt⟩)]
  · rw [search_not_mem set hmem, if_pos (hend hmem)]

theorem acquireLoop_eq (set : ChannelSet) (chs out : List RtwChannel)
    (hroom : out.length + chs.length ≤ RTW_CHANNEL_SCAN_AMOUNT) (hend : SearchesEnd set chs) :
    acquireLoop set.array chs out =
      some (out ++ (chs.filter (picked set)).map (marked set)) := by
  induction chs generalizing out with
  | nil => rw [List.filter_nil, List.map_nil, List.append_nil, acquireLoop]
  | cons ch chs ih =>
    rw [List.length_cons] at hroom
    have hend' : SearchesEnd set chs := fun c hc => hend c (List.mem_cons_of_mem _ hc)
    -- when `out` is full nothing of the request is left
    have hnext (out' : List RtwChannel) (hroom' : out'.length + chs.length ≤ RTW_CHANNEL_SCAN_AMOUNT) :
        (if RTW_CHANNEL_SCAN_AMOUNT ≤ out'.length then some out' else acquireLoop set.array chs out') =
          some (out' ++ (chs.filter (picked set)).map (marked set)) := by
      split
      · next hfull =>
        have hnil : chs = [] := List.eq_nil_of_length_eq_zero (by omega)
        rw [hnil, List.filter_nil, List.map_nil, List.append_nil]
      · exact ih out' hroom' hend'
    rw [acquireLoop]
    by_cases hen : enabled ch = true
    · by_cases hfound : found set ch.hw_value = true
      · have hkeep : picked set ch = true := by rw [picked, hen, hfound]; rfl
        have hlen : (out ++ [marked set ch]).length + chs.length ≤ RTW_CHANNEL_SCAN_AMOUNT := by
          rw [List.length_append, List.length_singleton]
          omega
        rw [if_pos hen, search_found hfound, List.filter_cons_of_pos hkeep, List.map_cons]
        simp only [Option.bind_eq_bind, Option.bind_some, Int.natCast_nonneg, if_true, Int.toNat_natCast]
        exact (hnext _ hlen).trans (by rw [List.append_assoc, List.singleton_append])
      · have hdrop : ¬ picked set ch = true := by
          rw [picked, Bool.and_eq_true]
          exact fun h => hfound h.2
        rw [if_pos hen, search_not_found hfound (hend ch List.mem_cons_self hen), List.filter_cons_of_neg hdrop]
        exact hnext out (by omega)
    · have hdrop : ¬ picked set ch = true := by
        rw [picked, Bool.and_eq_true]
        exact fun h => hen h.1
      rw [if_neg hen, List.filter_cons_of_neg hdrop]
      exact hnext out (by omega)

theorem acquireLoop_none (set : ChannelSet) (chs out : List RtwChannel)
    (hroom : out.length + chs.length ≤ RTW_CHANNEL_SCAN_AMOUNT) (hend : ¬ SearchesEnd set chs) :
    acquireLoop set.array chs out = none := by
  induction chs generalizing out with
  | nil => exact absurd (fun _ h => absurd h List.not_mem_nil) hend
  | cons ch chs ih =>
    rw [List.length_cons] at hroom
    have hnext (out' : List RtwChannel) (hroom' : out'.length + chs.length ≤ RTW_CHANNEL_SCAN_AMOUNT)
        (hend' : ¬ SearchesEnd set chs) :
        (if RTW_CHANNEL_SCAN_AMOUNT ≤ out'.length then some out' else acquireLoop set.array chs out') = none := by
      have hne : chs ≠ [] := fun hnil => hend' (hnil ▸ fun _ h => absurd h List.not_mem_nil)
      have hpos := List.length_pos_of_ne_nil hne
      rw [if_neg (by omega), ih out' hroom' hend']
    rw [acquireLoop]
    by_cases hen : enabled ch = true
    · by_cases hoff : ch.hw_value ∉ set.numbers ∧ ¬ set.entries.length < MAX_CHANNEL_NUM
      · rw [if_pos hen, search_not_mem set hoff.1, if_neg hoff.2]
        rfl
      · have hhere : ch.hw_value ∉ set.numbers → set.entries.length < MAX_CHANNEL_NUM := fun h =>
          not_not.mp fun h' => hoff ⟨h, h'⟩
        have hend' : ¬ SearchesEnd set chs := fun h => hend fun c hc => by
          rcases List.mem_cons.mp hc with rfl | hc
          · exact fun _ => hhere
          · exact h c hc
        by_cases hfound : found set ch.hw_value = true
        · rw [if_pos hen, search_found hfound]
          simp only [Option.bind_eq_bind, Option.bind_some, Int.natCast_nonneg, if_true, Int.toNat_natCast]
          exact hnext _ (by rw [List.length_append, List.length_singleton]; omega) hend'
        · rw [if_pos hen, search_not_found hfound hhere]
          exact hnext out (by omega) hend'
    · have hend' : ¬ SearchesEnd set chs := fun h => hend fun c hc => by
        rcases List.mem_cons.mp hc with rfl | hc
        · exact fun h' => absurd h' hen
        · exact h c hc
      rw [if_neg hen]
      exact hnext out (by omega) hend'

/-! ## What is surveyed -/

/-- The requests that the decision looks at: as many places as there are enabled channels, gaps included. -/
def lookedAt (request : List RtwChannel) : List RtwChannel := request.take (request.countP enabled)

def chosen (set : ChannelSet) (request : List RtwChannel) : List RtwChannel :=
  if (lookedAt request).filter (picked set) = [] then defaultChannels set.entries
  else ((lookedAt request).filter (picked set)).map (marked set)

theorem not_enabled_zero : ¬ enabled .zero = true := by decide

theorem enabled_of_picked {set : ChannelSet} {ch : RtwChannel} (h : picked set ch = true) : enabled ch = true := by
  rw [picked, Bool.and_eq_true] at h
  exact h.1

theorem take_rtwSitesurveyCmd {request : List RtwChannel} (hlen : request.length ≤ RTW_CHANNEL_SCAN_AMOUNT) :
    (rtwSitesurveyCmd request).1.take (rtwSitesurveyCmd request).2 = blanked enabled .zero (lookedAt request) := by
  have hle : request.countP enabled ≤ (blanked enabled .zero request).length := by
    rw [blanked, List.length_map]
    exact List.countP_le_length
  simp only [rtwSitesurveyCmd, List.take_of_length_le hlen]
  rw [List.take_append_of_le_length hle, blanked, ← List.map_take]
  rfl

theorem searchesEnd_blanked (set : ChannelSet) (chs : List RtwChannel) :
    SearchesEnd set (blanked enabled .zero chs) ↔ SearchesEnd set chs := by
  constructor
  · intro h ch hch hen
    refine h ch (List.mem_map.mpr ⟨ch, hch, if_pos hen⟩) hen
  · intro h ch hch hen
    obtain ⟨c, hc, rfl⟩ := List.mem_map.mp hch
    by_cases hen' : enabled c = true
    · rw [if_pos hen'] at hen ⊢
      exact h c hc hen
    · rw [if_neg hen'] at hen
      exact absurd hen not_enabled_zero

theorem survey_eq {set : ChannelSet} {band : Band} {request : List RtwChannel}
    (hlen : request.length ≤ RTW_CHANNEL_SCAN_AMOUNT) (hend : SearchesEnd set (lookedAt request)) :
    survey set band request = some (bandFilter band (chosen set request)
      (List.replicate (RTW_CHANNEL_SCAN_AMOUNT - (chosen set request).length) .zero)) := by
  have hroom : (blanked enabled .zero (lookedAt request)).length ≤ RTW_CHANNEL_SCAN_AMOUNT := by
    rw [blanked, List.length_map, lookedAt]
    exact Nat.le_trans (List.length_take_le' _ _) hlen
  have hpicked : (blanked enabled .zero (lookedAt request)).filter (picked set) = (lookedAt request).filter (picked set) :=
    @filter_blanked _ enabled (picked set) .zero (fun _ h => enabled_of_picked h)
      (fun h => not_enabled_zero (enabled_of_picked h)) _
  rw [survey]
  simp only [rtwScanChDecision]
  rw [take_rtwSitesurveyCmd hlen, acquireLoop_eq set _ [] (by rw [List.length_nil, Nat.zero_add]; exact hroom)
    ((searchesEnd_blanked set _).mpr hend), List.nil_append, hpicked]
  simp only [Option.bind_eq_bind, Option.bind_some, List.length_eq_zero_iff, List.map_eq_nil_iff]
  rfl

theorem survey_none {set : ChannelSet} {band : Band} {request : List RtwChannel}
    (hlen : request.length ≤ RTW_CHANNEL_SCAN_AMOUNT) (hend : ¬ SearchesEnd set (lookedAt request)) :
    survey set band request = none := by
  have hroom : (blanked enabled .zero (lookedAt request)).length ≤ RTW_CHANNEL_SCAN_AMOUNT := by
    rw [blanked, List.length_map, lookedAt]
    exact Nat.le_trans (List.length_take_le' _ _) hlen
  rw [survey]
  simp only [rtwScanChDecision]
  rw [take_rtwSitesurveyCmd hlen, acquireLoop_none set _ [] (by rw [List.length_nil, Nat.zero_add]; exact hroom)
    fun h => hend ((searchesEnd_blanked set _).mp h)]
  rfl

/-- With the 2.4 GHz band alone no channel above it stands before one of it. -/
def BandFirst (band : Band) (nums : List ℕ) : Prop :=
  band = .GHZ_24 → nums.Pairwise fun x y => inBand band y = true → inBand band x = true

theorem bandFilter_ordered {band : Band} {chs : List RtwChannel} (free : List RtwChannel)
    (h : BandFirst band (chs.map RtwChannel.hw_value)) :
    (bandFilter band chs free).1.take (bandFilter band chs free).2 = chs.filter fun ch => inBand band ch.hw_value := by
  cases band with
  | GHZ24_50 =>
    simp only [bandFilter, inBand, List.filter_true]
    exact List.take_left' rfl
  | GHZ_50 => exact (take_compactLoop _ _ chs free).1
  | GHZ_24 =>
    have hpair := List.pairwise_map.mp (h rfl)
    rw [bandFilter, List.take_append_of_le_length (by
      rw [blanked, List.length_map]
      exact List.countP_le_length)]
    exact take_blanked hpair

theorem bandFilter_gap {band : Band} {chs : List RtwChannel} (free : List RtwChannel)
    (h : ¬ BandFirst band (chs.map RtwChannel.hw_value)) :
    RtwChannel.zero ∈ (bandFilter band chs free).1.take (bandFilter band chs free).2 := by
  rw [BandFirst, Classical.not_imp] at h
  obtain ⟨rfl, hpair⟩ := h
  rw [List.pairwise_map] at hpair
  rw [bandFilter, List.take_append_of_le_length (by
    rw [blanked, List.length_map]
    exact List.countP_le_length)]
  exact blank_mem_take hpair

theorem enabled_ne_zero {ch : RtwChannel} (h : enabled ch = true) : ch.hw_value ≠ 0 := by
  rw [enabled, Bool.and_eq_true, decide_eq_true_iff] at h
  exact h.1

theorem zero_not_mem_asked (set : ChannelSet) (band : Band) (request : List RtwChannel) : 0 ∉ asked set band request := by
  rw [asked]
  split
  · intro h
    exact set.nonzero_numbers (List.mem_of_mem_filter h) rfl
  · intro h
    obtain ⟨ch, hch, hzero⟩ := List.mem_map.mp h
    have husable := (List.mem_filter.mp hch).2
    rw [usable, Bool.and_eq_true, Bool.and_eq_true] at husable
    exact enabled_ne_zero husable.1.1 hzero

theorem surveysAsked_of_survey {set : ChannelSet} {band : Band} {request : List RtwChannel} {r : List RtwChannel × ℕ}
    (h : survey set band request = some r) :
    SurveysAsked set band request ↔
      (r.1.take r.2).map RtwChannel.hw_value = asked set band request ∧
      ∀ ch ∈ r.1.take r.2, ListedPassive set ch.hw_value → ch.flags &&& RTW_IEEE80211_CHAN_PASSIVE_SCAN ≠ 0 := by
  constructor
  · rintro ⟨out, num, hout, hnums, hpassive⟩
    obtain rfl := Option.some.inj (h.symm.trans hout)
    exact ⟨hnums, fun ch hch hlisted => (hpassive ch hch hlisted).1⟩
  · rintro ⟨hnums, hpassive⟩
    exact ⟨r.1, r.2, h, hnums, fun ch hch hlisted => ⟨hpassive ch hch hlisted, if_pos (hpassive ch hch hlisted)⟩⟩

theorem surveysAsked_of_chosen {set : ChannelSet} {band : Band} {request : List RtwChannel}
    (hlen : request.length ≤ RTW_CHANNEL_SCAN_AMOUNT) (hend : SearchesEnd set (lookedAt request)) :
    SurveysAsked set band request ↔
      BandFirst band ((chosen set request).map RtwChannel.hw_value) ∧
      ((chosen set request).filter fun ch => inBand band ch.hw_value).map RtwChannel.hw_value = asked set band request ∧
      ∀ ch ∈ (chosen set request).filter fun ch => inBand band ch.hw_value, ListedPassive set ch.hw_value →
        ch.flags &&& RTW_IEEE80211_CHAN_PASSIVE_SCAN ≠ 0 := by
  rw [surveysAsked_of_survey (survey_eq hlen hend)]
  by_cases hfirst : BandFirst band ((chosen set request).map RtwChannel.hw_value)
  · rw [bandFilter_ordered _ hfirst]
    exact (and_iff_right hfirst).symm
  · constructor
    · rintro ⟨hnums, -⟩
      refine absurd ?_ (zero_not_mem_asked set band request)
      rw [← hnums]
      exact List.mem_map.mpr ⟨.zero, bandFilter_gap _ hfirst, rfl⟩
    · rintro ⟨h, -⟩
      exact absurd h hfirst

/-! ## When the survey is as asked -/

/-- A request of those looked at is found in the channel set. -/
structure RequestSurveyed (set : ChannelSet) (band : Band) (request : List RtwChannel) : Prop where
  /-- No channel that can be scanned stands behind the places looked at. -/
  none_behind : ∀ ch ∈ request.drop (request.countP enabled), ¬ usable set band ch = true
  /-- The search does not miss one: its index in the set is below its number. -/
  none_missed : ∀ ch ∈ lookedAt request, usable set band ch = true → found set ch.hw_value = true
  ordered : BandFirst band (((lookedAt request).filter (picked set)).map RtwChannel.hw_value)
  /-- One of those found is in the band, or no channel of the set is. -/
  some_in_band : (∃ ch ∈ lookedAt request, picked set ch = true ∧ inBand band ch.hw_value = true) ∨
    ∀ num ∈ set.numbers, ¬ inBand band num = true
  /-- Those that the set lists for passive scan are requested so. -/
  passive : ∀ ch ∈ lookedAt request, picked set ch = true → inBand band ch.hw_value = true →
    ListedPassive set ch.hw_value → ch.flags &&& RTW_IEEE80211_CHAN_PASSIVE_SCAN ≠ 0

/-- None is found, and the channel set itself is surveyed. -/
structure SetSurveyed (set : ChannelSet) (band : Band) (request : List RtwChannel) : Prop where
  /-- The request wants no channel that can be scanned, or just those of the set. -/
  wanted : request.filter (usable set band) = [] ∨
    (request.filter (usable set band)).map RtwChannel.hw_value = set.numbers.filter (inBand band)
  ordered : BandFirst band set.numbers
  /-- The set lists no channel of the band for passive scan. -/
  active : ∀ e ∈ set.entries, inBand band e.ChannelNum = true → e.ScanType ≠ .PASSIVE

theorem usable_iff (set : ChannelSet) (band : Band) (ch : RtwChannel) :
    usable set band ch = true ↔ enabled ch = true ∧ ch.hw_value ∈ set.numbers ∧ inBand band ch.hw_value = true := by
  rw [usable, Bool.and_eq_true, Bool.and_eq_true, decide_eq_true_iff, and_assoc]

theorem picked_iff (set : ChannelSet) (ch : RtwChannel) :
    picked set ch = true ↔ enabled ch = true ∧ found set ch.hw_value = true := by
  rw [picked, Bool.and_eq_true]

theorem found_mem {set : ChannelSet} {num : ℕ} (h : found set num = true) : num ∈ set.numbers := by
  rw [found, Bool.and_eq_true, decide_eq_true_iff] at h
  exact h.1

def kept (set : ChannelSet) (band : Band) (chs : List RtwChannel) : List RtwChannel :=
  (chs.filter (picked set)).filter fun ch => inBand band ch.hw_value

theorem mem_kept {set : ChannelSet} {band : Band} {chs : List RtwChannel} {ch : RtwChannel} :
    ch ∈ kept set band chs ↔ ch ∈ chs ∧ picked set ch = true ∧ inBand band ch.hw_value = true := by
  rw [kept, List.mem_filter, List.mem_filter, and_assoc]

theorem kept_eq_filter (set : ChannelSet) (band : Band) (chs : List RtwChannel) :
    kept set band chs = (chs.filter (usable set band)).filter fun ch => found set ch.hw_value := by
  rw [kept, List.filter_filter, List.filter_filter]
  refine List.filter_congr fun ch _ => ?_
  rw [Bool.eq_iff_iff, Bool.and_eq_true, Bool.and_eq_true, usable_iff, picked_iff]
  constructor
  · rintro ⟨hband, hen, hfound⟩
    exact ⟨hfound, hen, found_mem hfound, hband⟩
  · rintro ⟨hfound, hen, -, hband⟩
    exact ⟨hband, hen, hfound⟩

theorem kept_eq_all_iff (set : ChannelSet) (band : Band) (request : List RtwChannel) :
    kept set band (lookedAt request) = request.filter (usable set band) ↔
      (∀ ch ∈ request.drop (request.countP enabled), ¬ usable set band ch = true) ∧
      ∀ ch ∈ lookedAt request, usable set band ch = true → found set ch.hw_value = true := by
  have hsplit : request.filter (usable set band) = (lookedAt request).filter (usable set band) ++
      (request.drop (request.countP enabled)).filter (usable set band) := by
    rw [← List.filter_append, lookedAt, List.take_append_drop]
  rw [hsplit, kept_eq_filter]
  constructor
  · intro h
    have hlen := congrArg List.length h
    have hle := List.length_filter_le (fun ch => found set ch.hw_value) ((lookedAt request).filter (usable set band))
    rw [List.length_append] at hlen
    have hnil : (request.drop (request.countP enabled)).filter (usable set band) = [] :=
      List.eq_nil_of_length_eq_zero (by omega)
    have hall : ((lookedAt request).filter (usable set band)).filter (fun ch => found set ch.hw_value) =
        (lookedAt request).filter (usable set band) := by
      rw [h, hnil, List.append_nil]
    refine ⟨List.filter_eq_nil_iff.mp hnil, fun ch hch husable => ?_⟩
    exact List.filter_eq_self.mp hall ch (List.mem_filter.mpr ⟨hch, husable⟩)
  · rintro ⟨hbehind, hmissed⟩
    rw [List.filter_eq_nil_iff.mpr hbehind, List.append_nil]
    exact List.filter_eq_self.mpr fun ch hch => hmissed ch (List.mem_filter.mp hch).1 (List.mem_filter.mp hch).2

theorem kept_asked_iff (set : ChannelSet) (band : Band) (request : List RtwChannel) :
    (kept set band (lookedAt request)).map RtwChannel.hw_value = asked set band request ↔
      ((∀ ch ∈ request.drop (request.countP enabled), ¬ usable set band ch = true) ∧
        ∀ ch ∈ lookedAt request, usable set band ch = true → found set ch.hw_value = true) ∧
      ((∃ ch ∈ lookedAt request, picked set ch = true ∧ inBand band ch.hw_value = true) ∨
        ∀ num ∈ set.numbers, ¬ inBand band num = true) := by
  have hexists : (∃ ch ∈ lookedAt request, picked set ch = true ∧ inBand band ch.hw_value = true) ↔
      kept set band (lookedAt request) ≠ [] := by
    rw [Ne, List.eq_nil_iff_forall_not_mem, not_forall_not]
    exact exists_congr fun ch => mem_kept.symm
  have hsub : (kept set band (lookedAt request)).length ≤ (request.filter (usable set band)).length := by
    rw [kept_eq_filter]
    exact Nat.le_trans (List.length_filter_le _ _) (List.Sublist.length_le (List.Sublist.filter _ (List.take_sublist _ _)))
  rw [← kept_eq_all_iff, hexists, ← List.filter_eq_nil_iff, asked]
  by_cases hnone : request.filter (usable set band) = []
  · have hkept : kept set band (lookedAt request) = [] :=
      List.eq_nil_of_length_eq_zero (Nat.le_zero.mp (by rw [hnone] at hsub; exact hsub))
    rw [if_pos hnone, hnone, hkept, List.map_nil]
    constructor
    · intro h
      exact ⟨rfl, .inr h.symm⟩
    · rintro ⟨-, h | h⟩
      · exact absurd rfl h
      · exact h.symm
  · rw [if_neg hnone]
    constructor
    · intro h
      have hlen := congrArg List.length h
      rw [List.length_map, List.length_map] at hlen
      have hsublist : (kept set band (lookedAt request)).Sublist (request.filter (usable set band)) := by
        rw [kept_eq_filter]
        exact List.filter_sublist.trans (List.Sublist.filter _ (List.take_sublist _ _))
      have heq := hsublist.eq_of_length hlen
      exact ⟨heq, .inl (heq ▸ hnone)⟩
    · rintro ⟨h, -⟩
      rw [h]

theorem markPassive_bit (scanType : RtScanType) (flags : ℕ) :
    markPassive scanType flags &&& RTW_IEEE80211_CHAN_PASSIVE_SCAN = flags &&& RTW_IEEE80211_CHAN_PASSIVE_SCAN := by
  rw [markPassive]
  split
  · rw [Nat.land_assoc, Nat.and_self]
  · rfl

theorem filter_marked (set : ChannelSet) (band : Band) (chs : List RtwChannel) :
    ((chs.map (marked set)).filter fun ch => inBand band ch.hw_value) =
      (chs.filter fun ch => inBand band ch.hw_value).map (marked set) := by
  rw [List.filter_map]
  rfl

theorem map_hw_marked (set : ChannelSet) (chs : List RtwChannel) :
    (chs.map (marked set)).map RtwChannel.hw_value = chs.map RtwChannel.hw_value := by
  rw [List.map_map]
  rfl

theorem map_hw_default (set : ChannelSet) : (defaultChannels set.entries).map RtwChannel.hw_value = set.numbers := by
  rw [defaultChannels, List.map_map]
  rfl

theorem requestSurveyed_iff {set : ChannelSet} {band : Band} {request : List RtwChannel}
    (hlen : request.length ≤ RTW_CHANNEL_SCAN_AMOUNT) (hend : SearchesEnd set (lookedAt request))
    (hsome : (lookedAt request).filter (picked set) ≠ []) :
    SurveysAsked set band request ↔ RequestSurveyed set band request := by
  rw [surveysAsked_of_chosen hlen hend, chosen, if_neg hsome, map_hw_marked, filter_marked, map_hw_marked]
  have hkept := kept_asked_iff set band request
  rw [kept] at hkept
  rw [hkept]
  constructor
  · rintro ⟨hfirst, ⟨⟨hbehind, hmissed⟩, hband⟩, hpassive⟩
    refine ⟨hbehind, hmissed, hfirst, hband, fun ch hch hpicked hin hlisted => ?_⟩
    have hflag := hpassive (marked set ch) (List.mem_map.mpr ⟨ch, mem_kept.mpr ⟨hch, hpicked, hin⟩, rfl⟩) hlisted
    rw [marked, markPassive_bit] at hflag
    exact hflag
  · rintro ⟨hbehind, hmissed, hfirst, hband, hpassive⟩
    refine ⟨hfirst, ⟨⟨hbehind, hmissed⟩, hband⟩, fun c hc hlisted => ?_⟩
    obtain ⟨ch, hch, rfl⟩ := List.mem_map.mp hc
    obtain ⟨hmem, hpicked, hin⟩ := mem_kept.mp hch
    rw [marked, markPassive_bit]
    exact hpassive ch hmem hpicked hin hlisted

theorem setSurveyed_iff {set : ChannelSet} {band : Band} {request : List RtwChannel}
    (hlen : request.length ≤ RTW_CHANNEL_SCAN_AMOUNT) (hend : SearchesEnd set (lookedAt request))
    (hnone : (lookedAt request).filter (picked set) = []) :
    SurveysAsked set band request ↔ SetSurveyed set band request := by
  have hmap : ((defaultChannels set.entries).filter fun ch => inBand band ch.hw_value).map RtwChannel.hw_value =
      set.numbers.filter (inBand band) := by
    rw [← map_hw_default set, List.filter_map]
    rfl
  rw [surveysAsked_of_chosen hlen hend, chosen, if_pos hnone, map_hw_default, hmap]
  have hasked : set.numbers.filter (inBand band) = asked set band request ↔
      request.filter (usable set band) = [] ∨
        (request.filter (usable set band)).map RtwChannel.hw_value = set.numbers.filter (inBand band) := by
    rw [asked]
    by_cases h : request.filter (usable set band) = []
    · rw [if_pos h]
      exact iff_of_true rfl (.inl h)
    · rw [if_neg h, or_iff_right h]
      exact eq_comm
  rw [hasked]
  constructor
  · rintro ⟨hfirst, hwanted, hpassive⟩
    refine ⟨hwanted, hfirst, fun e he hin htype => ?_⟩
    have hmem : (⟨e.ChannelNum, markPassive e.ScanType 0⟩ : RtwChannel) ∈
        (defaultChannels set.entries).filter fun ch => inBand band ch.hw_value :=
      List.mem_filter.mpr ⟨List.mem_map.mpr ⟨e, he, rfl⟩, hin⟩
    have hflag := hpassive _ hmem ⟨e, he, rfl, htype⟩
    rw [markPassive_bit] at hflag
    exact hflag (Nat.zero_and _)
  · rintro ⟨hwanted, hfirst, hactive⟩
    refine ⟨hfirst, hwanted, fun ch hch hlisted => ?_⟩
    obtain ⟨e, he, hnum, htype⟩ := hlisted
    have hin := (List.mem_filter.mp hch).2
    rw [← hnum] at hin
    exact absurd htype (hactive e he hin)

/-- The survey is as asked exactly if no search runs off the channel set and, where a request is found, the requests are
surveyed, otherwise the set. -/
theorem surveysAsked_iff (set : ChannelSet) (band : Band) (request : List RtwChannel)
    (hlen : request.length ≤ RTW_CHANNEL_SCAN_AMOUNT) :
    SurveysAsked set band request ↔
      SearchesEnd set (lookedAt request) ∧
      if (lookedAt request).filter (picked set) = [] then SetSurveyed set band request
      else RequestSurveyed set band request := by
  by_cases hend : SearchesEnd set (lookedAt request)
  · rw [and_iff_right hend]
    split
    · next hnone => exact setSurveyed_iff hlen hend hnone
    · next hsome => exact requestSurveyed_iff hlen hend hsome
  · constructor
    · rintro ⟨out, num, hout, -⟩
      rw [survey_none hlen hend] at hout
      cases hout
    · rintro ⟨h, -⟩
      exact absurd h hend

/-- Channels 1, 6 and 36, the last for passive scan. -/
def mixedSet : ChannelSet where
  entries := [⟨1, .ACTIVE⟩, ⟨6, .ACTIVE⟩, ⟨36, .PASSIVE⟩]
  fits := by decide
  nonzero := by decide

theorem surveysAsked_mixed :
    SurveysAsked mixedSet .GHZ24_50 [⟨6, 0⟩, ⟨1, 0⟩] ↔
      SearchesEnd mixedSet (lookedAt [⟨6, 0⟩, ⟨1, 0⟩]) ∧
      if (lookedAt [⟨6, 0⟩, ⟨1, 0⟩]).filter (picked mixedSet) = [] then SetSurveyed mixedSet .GHZ24_50 [⟨6, 0⟩, ⟨1, 0⟩]
      else RequestSurveyed mixedSet .GHZ24_50 [⟨6, 0⟩, ⟨1, 0⟩] :=
  surveysAsked_iff mixedSet .GHZ24_50 [⟨6, 0⟩, ⟨1, 0⟩] (by decide)

/-- A disabled channel in front loses the last one of the request. -/
theorem not_surveysAsked_gap : ¬ SurveysAsked mixedSet .GHZ24_50 [⟨11, 1⟩, ⟨1, 0⟩, ⟨6, 0⟩] := by
  rintro ⟨out, num, hout, hnums, -⟩
  have hsurvey : survey mixedSet .GHZ24_50 [⟨11, 1⟩, ⟨1, 0⟩, ⟨6, 0⟩] =
      some (⟨1, 0⟩ :: List.replicate 50 .zero, 1) := by decide
  obtain ⟨rfl, rfl⟩ := Prod.mk.inj (Option.some.inj (hsurvey.symm.trans hout))
  exact absurd hnums (by decide)

end SurveyChannels

end Rtl8723au
