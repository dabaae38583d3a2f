import Rtl8723au.Mlme.ChannelSet
import Mathlib.Data.List.Basic
import Mathlib.Data.List.GetD
import Mathlib.Data.Nat.Notation
import Mathlib.Logic.Function.Basic
import Mathlib.Tactic

/-! `process_80211d` of `core/rtw_mlme_ext.c`: the channels that a beacon's country element lists are expanded into an
array and merged with the channel set, band by band. Cursors into the two lists are the lists that are still to be
read, and what is written through `k` is the list of entries in the order of their places. -/
namespace Rtl8723au
namespace CountryIe
open ChannelSet
set_option autoImplicit false

/-! ## The channels of the access point -/

/-- First channel and number of channels of every triplet behind the country string. -/
def triplets : List ℕ → List (ℕ × ℕ)
  | fcn :: noc :: _ :: rest => (fcn, noc) :: triplets rest
  | _ => []

/-- A channel number in eight bits: at 5 GHz every fourth is one. -/
def apChannel (fcn j : ℕ) : ℕ := if fcn ≤ 14 then (fcn + j) % 256 else (fcn + j * 4) % 256

def tripletChannels (t : ℕ × ℕ) : List ℕ := (List.range t.2).map (apChannel t.1)

/-- The channels that the triplets stand for. -/
def apChannels (body : List ℕ) : List ℕ := (triplets (body.drop 3)).flatMap tripletChannels

/-- `chplan_ap` with the counter `i` and the places written so far. -/
structure ApPlan where
  Channel : ℕ → ℕ
  i : ℕ
  written : List ℕ

/-- `chplan_ap.Channel[i++] = channel` with a counter of eight bits. -/
def ApPlan.write (plan : ApPlan) (channel : ℕ) : ApPlan where
  Channel := Function.update plan.Channel plan.i channel
  i := (plan.i + 1) % 256
  written := plan.written ++ [plan.i]

def apPlan (body : List ℕ) : ApPlan := (apChannels body).foldl ApPlan.write ⟨fun _ => 0, 0, []⟩

/-- The channels below `chplan_ap.Len`. -/
def ApPlan.channels (plan : ApPlan) : List ℕ := (List.range plan.i).map plan.Channel

theorem write_all (chs : List ℕ) (plan : ApPlan) (hi : plan.i < 256) :
    (chs.foldl ApPlan.write plan).written = plan.written ++ (List.range chs.length).map (fun k => (plan.i + k) % 256) ∧
    (chs.foldl ApPlan.write plan).i = (plan.i + chs.length) % 256 := by
  induction chs generalizing plan with
  | nil =>
    rw [List.foldl_nil, List.length_nil, List.range_zero, List.map_nil, List.append_nil, Nat.add_zero,
      Nat.mod_eq_of_lt hi]
    exact ⟨rfl, rfl⟩
  | cons ch chs ih =>
    obtain ⟨hw, hn⟩ := ih (plan.write ch) (Nat.mod_lt _ (by decide))
    have hrange : (List.range (chs.length + 1)).map (fun k => (plan.i + k) % 256) =
        plan.i :: (List.range chs.length).map fun k => ((plan.i + 1) % 256 + k) % 256 := by
      rw [List.range_succ_eq_map, List.map_cons, List.map_map, Nat.add_zero, Nat.mod_eq_of_lt hi]
      refine congrArg (plan.i :: ·) (List.map_congr_left fun k _ => ?_)
      simp only [Function.comp_apply]
      omega
    rw [List.foldl_cons, hw, hn, List.length_cons, hrange]
    constructor
    · rw [ApPlan.write, List.append_assoc]
      rfl
    · simp only [ApPlan.write]
      omega

theorem write_below (chs : List ℕ) (plan : ApPlan) (hroom : plan.i + chs.length < 256) {k : ℕ} (hk : k < plan.i) :
    (chs.foldl ApPlan.write plan).Channel k = plan.Channel k := by
  induction chs generalizing plan with
  | nil => rfl
  | cons ch chs ih =>
    rw [List.length_cons] at hroom
    have hnext : (plan.write ch).i = plan.i + 1 := Nat.mod_eq_of_lt (by omega)
    rw [List.foldl_cons, ih (plan.write ch) (by rw [hnext]; omega) (by rw [hnext]; omega)]
    exact Function.update_of_ne (by omega) _ _

theorem write_at (chs : List ℕ) (plan : ApPlan) (hroom : plan.i + chs.length < 256) {k : ℕ} (hk : k < chs.length) :
    (chs.foldl ApPlan.write plan).Channel (plan.i + k) = chs.getD k 0 := by
  induction chs generalizing plan k with
  | nil => exact absurd hk (Nat.not_lt_zero k)
  | cons ch chs ih =>
    rw [List.length_cons] at hroom hk
    have hnext : (plan.write ch).i = plan.i + 1 := Nat.mod_eq_of_lt (by omega)
    rw [List.foldl_cons]
    cases k with
    | zero =>
      rw [Nat.add_zero, write_below chs (plan.write ch) (by rw [hnext]; omega) (by rw [hnext]; omega)]
      exact Function.update_self _ _ _
    | succ k =>
      have h := ih (plan.write ch) (by rw [hnext]; omega) (Nat.lt_of_succ_lt_succ hk)
      rw [hnext, Nat.add_right_comm] at h
      exact h

theorem apPlan_channels {body : List ℕ} (h : (apChannels body).length < 256) :
    (apPlan body).channels = apChannels body := by
  obtain ⟨-, hi⟩ := write_all (apChannels body) ⟨fun _ => 0, 0, []⟩ (by decide)
  have hlen : (apPlan body).i = (apChannels body).length := by
    rw [apPlan, hi, Nat.zero_add, Nat.mod_eq_of_lt h]
  apply List.ext_getElem
  · simp only [ApPlan.channels, List.length_map, List.length_range, hlen]
  · intro k h₁ h₂
    have hat := write_at (apChannels body) ⟨fun _ => 0, 0, []⟩ (by dsimp only; omega) h₂
    rw [Nat.zero_add] at hat
    simp only [ApPlan.channels, List.getElem_map, List.getElem_range]
    rw [apPlan, hat]
    exact List.getD_eq_getElem _ 0 h₂

theorem apPlan_written (body : List ℕ) :
    (∀ i ∈ (apPlan body).written, i < MAX_CHANNEL_NUM) ↔ (apChannels body).length ≤ MAX_CHANNEL_NUM := by
  obtain ⟨hw, -⟩ := write_all (apChannels body) ⟨fun _ => 0, 0, []⟩ (by decide)
  have hmax : MAX_CHANNEL_NUM = 38 := rfl
  rw [apPlan, hw, List.nil_append]
  constructor
  · intro h
    by_contra hlong
    have hat := h MAX_CHANNEL_NUM (List.mem_map.mpr ⟨MAX_CHANNEL_NUM, List.mem_range.mpr (by omega), rfl⟩)
    exact Nat.lt_irrefl _ hat
  · intro h i hi
    obtain ⟨k, hk, rfl⟩ := List.mem_map.mp hi
    rw [List.mem_range] at hk
    dsimp only
    omega

/-! ## The merge -/

/-- The `do` loop of one band, with what is left of the two lists: it ends where a list ends or a cursor stands on a
channel at which the band ends. -/
def mergeLoop (staStop apStop : ℕ → Bool) : List RtChannelInfo → List ℕ → List RtChannelInfo × List RtChannelInfo × List ℕ
  | [], ap => ([], [], ap)
  | s :: sta, [] => ([], s :: sta, [])
  | s :: sta, a :: ap =>
    if staStop s.ChannelNum || apStop a then ([], s :: sta, a :: ap)
    else if s.ChannelNum = a then
      let r := mergeLoop staStop apStop sta ap
      (⟨a, .ACTIVE⟩ :: r.1, r.2)
    else if s.ChannelNum < a then
      let r := mergeLoop staStop apStop sta (a :: ap)
      (⟨s.ChannelNum, .PASSIVE⟩ :: r.1, r.2)
    else
      let r := mergeLoop staStop apStop (s :: sta) ap
      (⟨a, .ACTIVE⟩ :: r.1, r.2)
  termination_by sta ap => sta.length + ap.length

def passive (s : RtChannelInfo) : RtChannelInfo := ⟨s.ChannelNum, .PASSIVE⟩
def active (a : ℕ) : RtChannelInfo := ⟨a, .ACTIVE⟩

/-- A band that is merged: the loop, then "change AP not support channel to Passive scan" and "add channel AP
supported". -/
def mergeBand (staStop apStop : ℕ → Bool) (sta : List RtChannelInfo) (ap : List ℕ) :
    List RtChannelInfo × List RtChannelInfo × List ℕ :=
  let r := mergeLoop staStop apStop sta ap
  (r.1 ++ (r.2.1.takeWhile fun s => !staStop s.ChannelNum).map passive ++ (r.2.2.takeWhile fun a => !apStop a).map active,
    r.2.1.dropWhile fun s => !staStop s.ChannelNum, r.2.2.dropWhile fun a => !apStop a)

def above14 (num : ℕ) : Bool := 14 < num

/-- The 2.4 GHz band, with what is left for the other. -/
def band24 (wireless : WirelessMode) (sta : List RtChannelInfo) (ap : List ℕ) :
    List RtChannelInfo × List RtChannelInfo × List ℕ :=
  if wireless.wireless11G then mergeBand above14 above14 sta ap
  else (sta.takeWhile fun s => !above14 s.ChannelNum, sta.dropWhile fun s => !above14 s.ChannelNum,
    ap.dropWhile fun a => !above14 a)

def band5 (wireless : WirelessMode) (sta : List RtChannelInfo) (ap : List ℕ) : List RtChannelInfo :=
  if wireless.wireless11A then (mergeBand (fun _ => false) (fun a => a = 0) sta ap).1 else sta

/-- The entries written to the new channel set. -/
def chplanNew (wireless : WirelessMode) (sta : List RtChannelInfo) (ap : List ℕ) : List RtChannelInfo :=
  let r := band24 wireless sta ap
  r.1 ++ band5 wireless r.2.1 r.2.2

/-- The last loop: the channel of the access point is scanned actively, unless radar has to be expected on it. -/
def ownChannel (channel : ℕ) : List RtChannelInfo → List RtChannelInfo
  | [] => []
  | e :: rest =>
    if e.ChannelNum = 0 then e :: rest
    else if e.ChannelNum = channel then
      (if e.ScanType = .PASSIVE ∧ ¬ (52 ≤ channel ∧ channel ≤ 144) then ⟨e.ChannelNum, .ACTIVE⟩ else e) :: rest
    else e :: ownChannel channel rest

/-- What `process_80211d` leaves: the places of `chplan_ap.Channel` and of `channel_set` that it has written, and the
channel set. -/
structure Processed where
  apWritten : List ℕ
  setWritten : List ℕ
  channel_set : List RtChannelInfo
  update_channel_plan_by_ap_done : Bool

/-- `process_80211d` with the body of the country element, if there is one. -/
def process80211d (enable80211d update_channel_plan_by_ap_done : Bool) (wireless : WirelessMode) (set : ChannelSet)
    (country : Option (List ℕ)) (dsConfig : ℕ) : Processed :=
  if enable80211d && !update_channel_plan_by_ap_done then
    match country with
    | none => ⟨[], [], set.array, update_channel_plan_by_ap_done⟩
    | some body =>
      if body.length < 6 then ⟨[], [], set.array, update_channel_plan_by_ap_done⟩
      else
        let new := chplanNew wireless set.entries (apPlan body).channels
        ⟨(apPlan body).written, List.range new.length,
          ownChannel dsConfig (new.take MAX_CHANNEL_NUM ++ List.replicate (MAX_CHANNEL_NUM - new.length) ⟨0, .PASSIVE⟩),
          true⟩
  else ⟨[], [], ownChannel dsConfig set.array, update_channel_plan_by_ap_done⟩

/-! ## A merged band, read from the front of the access point's list -/

/-- The merge of two whole lists: the station's channels below the next one of the access point, that one, and the
merge of what is above it. -/
def merged : List RtChannelInfo → List ℕ → List RtChannelInfo
  | sta, [] => sta.map passive
  | sta, a :: ap =>
    (sta.filter fun s => s.ChannelNum < a).map passive ++
      active a :: merged (sta.filter fun s => a < s.ChannelNum) ap

def nums (es : List RtChannelInfo) : List ℕ := es.map RtChannelInfo.ChannelNum

theorem nums_append (es es' : List RtChannelInfo) : nums (es ++ es') = nums es ++ nums es' := List.map_append

theorem nums_passive (es : List RtChannelInfo) : nums (es.map passive) = nums es := by
  rw [nums, List.map_map]
  rfl

theorem nums_filter (p : ℕ → Bool) (es : List RtChannelInfo) :
    nums (es.filter fun s => p s.ChannelNum) = (nums es).filter p := by
  rw [nums, nums, List.filter_map]
  rfl

theorem filter_below_cons (s : RtChannelInfo) (sta : List RtChannelInfo) (a : ℕ) :
    (s :: sta).filter (fun s' => s'.ChannelNum < a) =
      if s.ChannelNum < a then s :: sta.filter (fun s' => s'.ChannelNum < a)
      else sta.filter fun s' => s'.ChannelNum < a := by
  rw [List.filter_cons]
  simp only [decide_eq_true_iff]

theorem filter_beyond_cons (s : RtChannelInfo) (sta : List RtChannelInfo) (a : ℕ) :
    (s :: sta).filter (fun s' => a < s'.ChannelNum) =
      if a < s.ChannelNum then s :: sta.filter (fun s' => a < s'.ChannelNum)
      else sta.filter fun s' => a < s'.ChannelNum := by
  rw [List.filter_cons]
  simp only [decide_eq_true_iff]

theorem merged_lt {s : RtChannelInfo} {sta : List RtChannelInfo} {a : ℕ} {ap : List ℕ} (h : s.ChannelNum < a) :
    merged (s :: sta) (a :: ap) = passive s :: merged sta (a :: ap) := by
  rw [merged, merged, filter_below_cons, if_pos h, filter_beyond_cons, if_neg (by omega), List.map_cons,
    List.cons_append]

theorem filter_lt_nil {s : RtChannelInfo} {sta : List RtChannelInfo} {a : ℕ} (hinc : (nums (s :: sta)).Pairwise (· < ·))
    (h : a ≤ s.ChannelNum) : (s :: sta).filter (fun s' => s'.ChannelNum < a) = [] := by
  rw [nums, List.map_cons, List.pairwise_cons] at hinc
  rw [List.filter_eq_nil_iff]
  intro s' hs'
  rw [decide_eq_true_iff]
  rcases List.mem_cons.mp hs' with rfl | hs'
  · omega
  · have := hinc.1 s'.ChannelNum (List.mem_map.mpr ⟨s', hs', rfl⟩)
    omega

theorem filter_gt_all {s : RtChannelInfo} {sta : List RtChannelInfo} {a : ℕ} (hinc : (nums (s :: sta)).Pairwise (· < ·))
    (h : a ≤ s.ChannelNum) : sta.filter (fun s' => a < s'.ChannelNum) = sta := by
  rw [nums, List.map_cons, List.pairwise_cons] at hinc
  rw [List.filter_eq_self]
  intro s' hs'
  rw [decide_eq_true_iff]
  have := hinc.1 s'.ChannelNum (List.mem_map.mpr ⟨s', hs', rfl⟩)
  omega

theorem merged_eq {s : RtChannelInfo} {sta : List RtChannelInfo} {a : ℕ} {ap : List ℕ}
    (hinc : (nums (s :: sta)).Pairwise (· < ·)) (h : s.ChannelNum = a) :
    merged (s :: sta) (a :: ap) = active a :: merged sta ap := by
  rw [merged, filter_lt_nil hinc (Nat.le_of_eq h.symm), filter_beyond_cons, if_neg (by omega), filter_gt_all hinc (Nat.le_of_eq h.symm)]
  rfl

theorem merged_gt {s : RtChannelInfo} {sta : List RtChannelInfo} {a : ℕ} {ap : List ℕ}
    (hinc : (nums (s :: sta)).Pairwise (· < ·)) (h : a < s.ChannelNum) :
    merged (s :: sta) (a :: ap) = active a :: merged (s :: sta) ap := by
  rw [merged, filter_lt_nil hinc (Nat.le_of_lt h), filter_beyond_cons, if_pos h, filter_gt_all hinc (Nat.le_of_lt h)]
  rfl

theorem merged_nil (ap : List ℕ) : merged [] ap = ap.map active := by
  induction ap with
  | nil => rfl
  | cons a ap ih =>
    rw [merged, List.filter_nil, List.filter_nil, ih]
    rfl

/-- A merged band writes the merge of the channels before the band's end, and leaves those from there on. -/
theorem mergeBand_eq (staStop apStop : ℕ → Bool) (sta : List RtChannelInfo) (ap : List ℕ)
    (hinc : (nums sta).Pairwise (· < ·)) :
    mergeBand staStop apStop sta ap =
      (merged (sta.takeWhile fun s => !staStop s.ChannelNum) (ap.takeWhile fun a => !apStop a),
        sta.dropWhile fun s => !staStop s.ChannelNum, ap.dropWhile fun a => !apStop a) := by
  induction sta, ap using mergeLoop.induct staStop apStop with
  | case1 ap =>
    rw [mergeBand, mergeLoop, List.takeWhile_nil, merged_nil]
    rfl
  | case2 s sta =>
    rw [mergeBand, mergeLoop, List.takeWhile_nil, merged]
    simp only [List.map_nil, List.append_nil, List.nil_append]
  | case3 s sta a ap hstop =>
    rw [mergeBand, mergeLoop, if_pos hstop]
    simp only [List.nil_append, Prod.mk.injEq, and_true]
    by_cases hs : staStop s.ChannelNum = true
    · simp only [List.takeWhile_cons, hs, Bool.not_true, Bool.false_eq_true, if_false, List.map_nil, List.nil_append]
      rw [merged_nil]
    · have ha : apStop a = true := ((Bool.or_eq_true _ _).mp hstop).resolve_left hs
      have hnone : (a :: ap).takeWhile (fun a => !apStop a) = [] :=
        List.takeWhile_cons_of_neg (by rw [ha]; decide)
      rw [hnone, merged, List.map_nil, List.append_nil]
  | case4 s sta ap hstop ih =>
    obtain ⟨hs, ha⟩ := Bool.or_eq_false_iff.mp (Bool.eq_false_iff.mpr hstop)
    have hs' : (!staStop s.ChannelNum) = true := by rw [hs]; rfl
    have ha' : (!apStop s.ChannelNum) = true := by rw [ha]; rfl
    have htail : (nums sta).Pairwise (· < ·) := hinc.of_cons
    have hpre : (nums (s :: sta.takeWhile fun s => !staStop s.ChannelNum)).Pairwise (· < ·) :=
      hinc.sublist (List.Sublist.map _ ((List.takeWhile_sublist _).cons_cons s))
    have h := ih htail
    rw [mergeBand] at h ⊢
    rw [mergeLoop, if_neg hstop, if_pos rfl]
    simp only [List.takeWhile_cons_of_pos, List.dropWhile_cons_of_pos, hs', ha', List.cons_append] at h ⊢
    obtain ⟨hout, hleft⟩ := Prod.mk.inj h
    rw [merged_eq hpre rfl, ← hout, ← hleft]
    rfl
  | case5 s sta a ap hstop hne hlt ih =>
    obtain ⟨hs, ha⟩ := Bool.or_eq_false_iff.mp (Bool.eq_false_iff.mpr hstop)
    have hs' : (!staStop s.ChannelNum) = true := by rw [hs]; rfl
    have ha' : (!apStop a) = true := by rw [ha]; rfl
    have h := ih hinc.of_cons
    rw [mergeBand] at h ⊢
    rw [mergeLoop, if_neg hstop, if_neg hne, if_pos hlt]
    simp only [List.takeWhile_cons_of_pos, List.dropWhile_cons_of_pos, hs', ha', List.cons_append] at h ⊢
    obtain ⟨hout, hleft⟩ := Prod.mk.inj h
    rw [merged_lt hlt, ← hout, ← hleft]
    rfl
  | case6 s sta a ap hstop hne hlt ih =>
    obtain ⟨hs, ha⟩ := Bool.or_eq_false_iff.mp (Bool.eq_false_iff.mpr hstop)
    have hs' : (!staStop s.ChannelNum) = true := by rw [hs]; rfl
    have ha' : (!apStop a) = true := by rw [ha]; rfl
    have hpre : (nums (s :: sta.takeWhile fun s => !staStop s.ChannelNum)).Pairwise (· < ·) :=
      hinc.sublist (List.Sublist.map _ ((List.takeWhile_sublist _).cons_cons s))
    have h := ih hinc
    rw [mergeBand] at h ⊢
    rw [mergeLoop, if_neg hstop, if_neg hne, if_neg hlt]
    simp only [List.takeWhile_cons_of_pos, List.dropWhile_cons_of_pos, hs', ha', List.cons_append] at h ⊢
    obtain ⟨hout, hleft⟩ := Prod.mk.inj h
    rw [merged_gt hpre (by omega), ← hout, ← hleft]
    rfl

/-! ## What the merge holds -/

theorem mem_merged (sta : List RtChannelInfo) (ap : List ℕ) (num : ℕ) :
    num ∈ nums (merged sta ap) ↔ num ∈ nums sta ∨ num ∈ ap := by
  induction ap generalizing sta with
  | nil => rw [merged, nums_passive, or_iff_left List.not_mem_nil]
  | cons a ap ih =>
    have hcons : nums (active a :: merged (sta.filter fun s => a < s.ChannelNum) ap) =
        a :: nums (merged (sta.filter fun s => a < s.ChannelNum) ap) := rfl
    rw [merged, nums_append, nums_passive, hcons, List.mem_append, List.mem_cons, ih,
      nums_filter (fun n => decide (n < a)), nums_filter (fun n => decide (a < n)), List.mem_filter, List.mem_filter,
      List.mem_cons, decide_eq_true_iff, decide_eq_true_iff]
    constructor
    · rintro (⟨h, -⟩ | rfl | ⟨h, -⟩ | h)
      · exact .inl h
      · exact .inr (.inl rfl)
      · exact .inl h
      · exact .inr (.inr h)
    · rintro (h | rfl | h)
      · rcases Nat.lt_trichotomy num a with hlt | rfl | hgt
        · exact .inl ⟨h, hlt⟩
        · exact .inr (.inl rfl)
        · exact .inr (.inr (.inl ⟨h, hgt⟩))
      · exact .inr (.inl rfl)
      · exact .inr (.inr (.inr h))

theorem merged_increasing (sta : List RtChannelInfo) (ap : List ℕ) (hsta : (nums sta).Pairwise (· < ·))
    (hap : ap.Pairwise (· < ·)) : (nums (merged sta ap)).Pairwise (· < ·) := by
  induction ap generalizing sta with
  | nil =>
    rw [merged, nums_passive]
    exact hsta
  | cons a ap ih =>
    obtain ⟨hfirst, htail⟩ := List.pairwise_cons.mp hap
    have hcons : nums (active a :: merged (sta.filter fun s => a < s.ChannelNum) ap) =
        a :: nums (merged (sta.filter fun s => a < s.ChannelNum) ap) := rfl
    have habove : ∀ n ∈ nums (merged (sta.filter fun s => a < s.ChannelNum) ap), a < n := by
      intro n hn
      rw [mem_merged, nums_filter (fun n => decide (a < n)), List.mem_filter, decide_eq_true_iff] at hn
      exact hn.elim And.right (hfirst n)
    have hrest := ih (sta.filter fun s => a < s.ChannelNum) (by
      rw [nums_filter (fun n => decide (a < n))]
      exact hsta.filter _) htail
    rw [merged, nums_append, nums_passive, hcons, nums_filter (fun n => decide (n < a)), List.pairwise_append]
    refine ⟨hsta.filter _, List.pairwise_cons.mpr ⟨habove, hrest⟩, fun x hx y hy => ?_⟩
    rw [List.mem_filter, decide_eq_true_iff] at hx
    rcases List.mem_cons.mp hy with rfl | hy
    · exact hx.2
    · exact Nat.lt_trans hx.2 (habove y hy)

theorem merged_active (sta : List RtChannelInfo) (ap : List ℕ) (hap : ap.Pairwise (· < ·)) (e : RtChannelInfo)
    (he : e ∈ merged sta ap) : e.ScanType = .ACTIVE ↔ e.ChannelNum ∈ ap := by
  induction ap generalizing sta with
  | nil =>
    rw [merged] at he
    obtain ⟨s, -, rfl⟩ := List.mem_map.mp he
    exact iff_of_false (by rw [passive]; exact RtScanType.noConfusion) List.not_mem_nil
  | cons a ap ih =>
    obtain ⟨hfirst, htail⟩ := List.pairwise_cons.mp hap
    rw [merged, List.mem_append, List.mem_cons] at he
    rcases he with he | rfl | he
    · obtain ⟨s, hs, rfl⟩ := List.mem_map.mp he
      have hlt : s.ChannelNum < a := of_decide_eq_true (List.mem_filter.mp hs).2
      refine iff_of_false (by rw [passive]; exact RtScanType.noConfusion) fun hmem => ?_
      rcases List.mem_cons.mp hmem with h | h
      · exact absurd h (Nat.ne_of_lt hlt)
      · exact absurd (hfirst _ h) (Nat.not_lt_of_lt hlt)
    · exact iff_of_true rfl List.mem_cons_self
    · have habove : a < e.ChannelNum := by
        have hn : e.ChannelNum ∈ nums (merged (sta.filter fun s => a < s.ChannelNum) ap) :=
          List.mem_map.mpr ⟨e, he, rfl⟩
        rw [mem_merged, nums_filter (fun n => decide (a < n)), List.mem_filter, decide_eq_true_iff] at hn
        exact hn.elim And.right (hfirst _)
      rw [ih _ htail he, List.mem_cons, or_iff_right (Nat.ne_of_gt habove)]

/-- The channels of the access point that the merge adds to the station's: all but those that the station lists above
every channel before them. -/
def added : List ℕ → List ℕ → ℕ
  | _, [] => 0
  | sta, a :: ap => (if a ∈ sta then 0 else 1) + added (sta.filter fun n => a < n) ap

theorem length_split {l : List ℕ} (hinc : l.Pairwise (· < ·)) (a : ℕ) :
    (l.filter fun n => n < a).length + (l.filter fun n => a < n).length + (if a ∈ l then 1 else 0) = l.length := by
  induction l with
  | nil => rfl
  | cons n l ih =>
    obtain ⟨hfirst, htail⟩ := List.pairwise_cons.mp hinc
    have h := ih htail
    rcases Nat.lt_trichotomy n a with hlt | rfl | hgt
    · have hmem : a ∈ n :: l ↔ a ∈ l := by rw [List.mem_cons, or_iff_right (Nat.ne_of_gt hlt)]
      have hnot : ¬ a < n := by omega
      simp only [List.filter_cons, decide_eq_true_iff, if_pos hlt, if_neg hnot, List.length_cons]
      rw [if_congr hmem rfl rfl]
      omega
    · have hnot : n ∉ l := fun h' => Nat.lt_irrefl n (hfirst n h')
      rw [if_neg hnot] at h
      rw [List.filter_cons_of_neg (by rw [decide_eq_true_iff]; omega),
        List.filter_cons_of_neg (by rw [decide_eq_true_iff]; omega), if_pos List.mem_cons_self, List.length_cons]
      omega
    · have hmem : a ∈ n :: l ↔ a ∈ l := by rw [List.mem_cons, or_iff_right (Nat.ne_of_lt hgt)]
      have hnot : ¬ n < a := by omega
      simp only [List.filter_cons, decide_eq_true_iff, if_pos hgt, if_neg hnot, List.length_cons]
      rw [if_congr hmem rfl rfl]
      omega

theorem length_merged (sta : List RtChannelInfo) (ap : List ℕ) (hsta : (nums sta).Pairwise (· < ·)) :
    (merged sta ap).length = sta.length + added (nums sta) ap := by
  induction ap generalizing sta with
  | nil =>
    rw [merged, List.length_map]
    rfl
  | cons a ap ih =>
    have hlen (es : List RtChannelInfo) : es.length = (nums es).length := (List.length_map _).symm
    have hsplit := length_split hsta a
    have hrest := ih (sta.filter fun s => a < s.ChannelNum) (by
      rw [nums_filter (fun n => decide (a < n))]
      exact hsta.filter _)
    rw [hlen (sta.filter fun s => a < s.ChannelNum), nums_filter (fun n => decide (a < n))] at hrest
    rw [merged, List.length_append, List.length_map, List.length_cons, hrest,
      hlen (sta.filter fun s => s.ChannelNum < a), nums_filter (fun n => decide (n < a)), added, hlen sta]
    split at hsplit
    · next h =>
      rw [if_pos h]
      omega
    · next h =>
      rw [if_neg h]
      omega

end CountryIe

end Rtl8723au
