import Rtl8723au.Mlme.CountryIe
import Mathlib.Data.List.Basic
import Mathlib.Data.List.TakeWhile
import Mathlib.Data.Nat.Notation
import Mathlib.Tactic

/-! When `process_80211d` stays inside its arrays and leaves the union of the two channel plans. -/
namespace Rtl8723au
namespace CountryIe
open ChannelSet
set_option autoImplicit false

/-! ## The two bands of the new set -/

def low (l : List ℕ) : List ℕ := l.takeWhile fun n => !above14 n
def high (l : List ℕ) : List ℕ := l.dropWhile fun n => !above14 n

/-- The number of entries of the new set: the station's and those that each merged band adds. -/
def planLength (wireless : WirelessMode) (sta ap : List ℕ) : ℕ :=
  sta.length + (if wireless.wireless11G then added (low sta) (low ap) else 0) +
    (if wireless.wireless11A then added (high sta) ((high ap).takeWhile fun a => !decide (a = 0)) else 0)

def staLow (sta : List RtChannelInfo) : List RtChannelInfo := sta.takeWhile fun s => !above14 s.ChannelNum
def staHigh (sta : List RtChannelInfo) : List RtChannelInfo := sta.dropWhile fun s => !above14 s.ChannelNum

theorem nums_staLow (sta : List RtChannelInfo) : nums (staLow sta) = low (nums sta) := by
  rw [nums, nums, low, List.takeWhile_map]
  rfl

theorem nums_staHigh (sta : List RtChannelInfo) : nums (staHigh sta) = high (nums sta) := by
  rw [nums, nums, high, List.dropWhile_map]
  rfl

theorem chplanNew_eq (wireless : WirelessMode) (sta : List RtChannelInfo) (ap : List ℕ)
    (hinc : (nums sta).Pairwise (· < ·)) :
    chplanNew wireless sta ap =
      (if wireless.wireless11G then merged (staLow sta) (low ap) else staLow sta) ++
      (if wireless.wireless11A then merged (staHigh sta) ((high ap).takeWhile fun a => !decide (a = 0))
        else staHigh sta) := by
  have hhigh : (nums (staHigh sta)).Pairwise (· < ·) := hinc.sublist (List.Sublist.map _ (List.dropWhile_sublist _))
  have hrest : (band24 wireless sta ap).2 = (staHigh sta, high ap) := by
    rw [band24]
    split
    · rw [mergeBand_eq _ _ _ _ hinc]
      rfl
    · rfl
  have hfirst : (band24 wireless sta ap).1 =
      if wireless.wireless11G then merged (staLow sta) (low ap) else staLow sta := by
    rw [band24]
    split
    · rw [mergeBand_eq _ _ _ _ hinc]
      rfl
    · rfl
  rw [chplanNew, hfirst, congrArg Prod.fst hrest, congrArg Prod.snd hrest, band5, mergeBand_eq _ _ _ _ hhigh]
  simp only [Bool.not_false, List.takeWhile_eq_self_iff.mpr fun _ _ => rfl]

theorem length_chplanNew (wireless : WirelessMode) (sta : List RtChannelInfo) (ap : List ℕ)
    (hinc : (nums sta).Pairwise (· < ·)) :
    (chplanNew wireless sta ap).length = planLength wireless (nums sta) ap := by
  have hlow : (nums (staLow sta)).Pairwise (· < ·) := hinc.sublist (List.Sublist.map _ (List.takeWhile_sublist _))
  have hhigh : (nums (staHigh sta)).Pairwise (· < ·) := hinc.sublist (List.Sublist.map _ (List.dropWhile_sublist _))
  have hsta : (staLow sta).length + (staHigh sta).length = (nums sta).length := by
    rw [← List.length_append, staLow, staHigh, List.takeWhile_append_dropWhile]
    exact (List.length_map _).symm
  rw [chplanNew_eq _ _ _ hinc, List.length_append, planLength, ← hsta]
  rcases wireless with ⟨g, a⟩
  cases g <;> cases a <;>
    simp only [Bool.false_eq_true, if_true, if_false, length_merged _ _ hlow, length_merged _ _ hhigh, nums_staLow,
      nums_staHigh] <;> omega

theorem low_eq {l : List ℕ} (hinc : l.Pairwise (· < ·)) : low l = l.filter fun n => n ≤ 14 := by
  induction l with
  | nil => rfl
  | cons n l ih =>
    obtain ⟨hfirst, htail⟩ := List.pairwise_cons.mp hinc
    by_cases hn : n ≤ 14
    · have hlow : (!above14 n) = true := by
        rw [above14, decide_eq_false (by omega)]
        rfl
      rw [low, List.takeWhile_cons_of_pos (p := fun n => !above14 n) hlow, 
        List.filter_cons_of_pos (p := fun n => decide (n ≤ 14)) (decide_eq_true hn)]
      exact congrArg (n :: ·) (ih htail)
    · have hhigh : ¬ (!above14 n) = true := by
        rw [above14, decide_eq_true (by omega)]
        decide
      rw [low, List.takeWhile_cons_of_neg (p := fun n => !above14 n) hhigh, eq_comm, List.filter_eq_nil_iff]
      intro m hm
      rw [decide_eq_true_iff]
      rcases List.mem_cons.mp hm with rfl | hm
      · exact hn
      · have := hfirst m hm
        omega

theorem high_eq {l : List ℕ} (hinc : l.Pairwise (· < ·)) : high l = l.filter fun n => 14 < n := by
  induction l with
  | nil => rfl
  | cons n l ih =>
    obtain ⟨hfirst, htail⟩ := List.pairwise_cons.mp hinc
    by_cases hn : n ≤ 14
    · have hlow : (!above14 n) = true := by
        rw [above14, decide_eq_false (by omega)]
        rfl
      have hnot : ¬ decide (14 < n) = true := by
        rw [decide_eq_true_iff]
        omega
      rw [high, List.dropWhile_cons_of_pos (p := fun n => !above14 n) hlow,
        List.filter_cons_of_neg (p := fun n => decide (14 < n)) hnot]
      exact ih htail
    · have hhigh : ¬ (!above14 n) = true := by
        rw [above14, decide_eq_true (by omega)]
        decide
      rw [high, List.dropWhile_cons_of_neg (p := fun n => !above14 n) hhigh, eq_comm, List.filter_eq_self]
      intro m hm
      rw [decide_eq_true_iff]
      rcases List.mem_cons.mp hm with rfl | hm
      · omega
      · have := hfirst m hm
        omega

/-! ## What the new set holds -/

section
variable {wireless : WirelessMode} {sta : List RtChannelInfo} {ap : List ℕ}

theorem takeWhile_nonzero {l : List ℕ} (h : 0 ∉ l) : (l.takeWhile fun a => !decide (a = 0)) = l := by
  rw [List.takeWhile_eq_self_iff]
  intro a ha
  rw [decide_eq_false fun h₀ : a = 0 => h (h₀ ▸ ha)]
  rfl

theorem zero_not_mem_high (l : List ℕ) (hinc : l.Pairwise (· < ·)) : 0 ∉ high l := by
  rw [high_eq hinc, List.mem_filter]
  rintro ⟨-, h⟩
  exact absurd (of_decide_eq_true h) (by decide)

theorem chplanNew_11G (hG : wireless.wireless11G = true) (hsta : (nums sta).Pairwise (· < ·))
    (hap : ap.Pairwise (· < ·)) :
    chplanNew wireless sta ap = merged (staLow sta) (low ap) ++
      (if wireless.wireless11A then merged (staHigh sta) (high ap) else staHigh sta) := by
  rw [chplanNew_eq _ _ _ hsta, if_pos hG, takeWhile_nonzero (zero_not_mem_high ap hap)]

theorem mem_staHigh {n : ℕ} (hsta : (nums sta).Pairwise (· < ·)) (h : n ∈ nums (staHigh sta)) :
    n ∈ nums sta ∧ 14 < n := by
  rw [nums_staHigh, high_eq hsta, List.mem_filter, decide_eq_true_iff] at h
  exact h

theorem mem_second (hsta : (nums sta).Pairwise (· < ·)) (hap : ap.Pairwise (· < ·)) {n : ℕ}
    (h : n ∈ nums (if wireless.wireless11A then merged (staHigh sta) (high ap) else staHigh sta)) :
    14 < n ∧ (n ∈ nums sta ∨ n ∈ ap) := by
  split at h
  · rw [mem_merged, high_eq hap, List.mem_filter, decide_eq_true_iff] at h
    rcases h with h | ⟨hmem, hgt⟩
    · exact ⟨(mem_staHigh hsta h).2, .inl (mem_staHigh hsta h).1⟩
    · exact ⟨hgt, .inr hmem⟩
  · exact ⟨(mem_staHigh hsta h).2, .inl (mem_staHigh hsta h).1⟩

theorem mem_first (hsta : (nums sta).Pairwise (· < ·)) (hap : ap.Pairwise (· < ·)) (n : ℕ) :
    n ∈ nums (merged (staLow sta) (low ap)) ↔ n ≤ 14 ∧ (n ∈ nums sta ∨ n ∈ ap) := by
  rw [mem_merged, nums_staLow, low_eq hsta, low_eq hap, List.mem_filter, List.mem_filter, decide_eq_true_iff,
    ← or_and_right, and_comm]

theorem increasing_chplanNew (hG : wireless.wireless11G = true) (hsta : (nums sta).Pairwise (· < ·))
    (hap : ap.Pairwise (· < ·)) : (nums (chplanNew wireless sta ap)).Pairwise (· < ·) := by
  have hlow : (nums (staLow sta)).Pairwise (· < ·) := by
    rw [nums_staLow, low_eq hsta]
    exact hsta.filter _
  have hhigh : (nums (staHigh sta)).Pairwise (· < ·) := by
    rw [nums_staHigh, high_eq hsta]
    exact hsta.filter _
  have hlowAp : (low ap).Pairwise (· < ·) := by
    rw [low_eq hap]
    exact hap.filter _
  have hhighAp : (high ap).Pairwise (· < ·) := by
    rw [high_eq hap]
    exact hap.filter _
  rw [chplanNew_11G hG hsta hap, nums_append, List.pairwise_append]
  refine ⟨merged_increasing _ _ hlow hlowAp, ?_, fun n hn m hm => ?_⟩
  · split
    · exact merged_increasing _ _ hhigh hhighAp
    · exact hhigh
  · exact Nat.lt_of_le_of_lt ((mem_first hsta hap n).mp hn).1 (mem_second hsta hap hm).1

theorem mem_chplanNew (hG : wireless.wireless11G = true) (hsta : (nums sta).Pairwise (· < ·))
    (hap : ap.Pairwise (· < ·)) {n : ℕ} (hn : n ≤ 14) :
    n ∈ nums (chplanNew wireless sta ap) ↔ n ∈ nums sta ∨ n ∈ ap := by
  rw [chplanNew_11G hG hsta hap, nums_append, List.mem_append, mem_first hsta hap, and_iff_right hn, or_iff_left_iff_imp]
  exact fun h => (mem_second hsta hap h).2

theorem listed_of_mem (hG : wireless.wireless11G = true) (hsta : (nums sta).Pairwise (· < ·))
    (hap : ap.Pairwise (· < ·)) {n : ℕ} (h : n ∈ nums (chplanNew wireless sta ap)) : n ∈ nums sta ∨ n ∈ ap := by
  rw [chplanNew_11G hG hsta hap, nums_append, List.mem_append] at h
  rcases h with h | h
  · exact ((mem_first hsta hap n).mp h).2
  · exact (mem_second hsta hap h).2

theorem merged_type {e : RtChannelInfo} (h : e ∈ merged sta ap) : e.ScanType = .ACTIVE ∨ e.ScanType = .PASSIVE := by
  induction ap generalizing sta with
  | nil =>
    rw [merged] at h
    obtain ⟨s, -, rfl⟩ := List.mem_map.mp h
    exact .inr rfl
  | cons a ap ih =>
    rw [merged, List.mem_append, List.mem_cons] at h
    rcases h with h | rfl | h
    · obtain ⟨s, -, rfl⟩ := List.mem_map.mp h
      exact .inr rfl
    · exact .inl rfl
    · exact ih h

/-- Up to 14 the entries of the new set are active exactly on the channels of the access point, passive on the
others. -/
theorem chplanNew_type (hG : wireless.wireless11G = true) (hsta : (nums sta).Pairwise (· < ·))
    (hap : ap.Pairwise (· < ·)) {e : RtChannelInfo} (he : e ∈ chplanNew wireless sta ap) (hle : e.ChannelNum ≤ 14) :
    (e.ScanType = .ACTIVE ∨ e.ScanType = .PASSIVE) ∧ (e.ScanType = .ACTIVE ↔ e.ChannelNum ∈ ap) := by
  rw [chplanNew_11G hG hsta hap, List.mem_append] at he
  rcases he with he | he
  · refine ⟨merged_type he, ?_⟩
    rw [merged_active _ _ (by rw [low_eq hap]; exact hap.filter _) e he, low_eq hap, List.mem_filter,
      decide_eq_true_iff, and_iff_left hle]
  · exact absurd (mem_second hsta hap (List.mem_map.mpr ⟨e, he, rfl⟩)).1 (Nat.not_lt_of_le hle)

end

/-! ## The access point's own channel -/

/-- What the last loop makes of the entry of that channel. -/
def onOwn (channel : ℕ) (e : RtChannelInfo) : RtChannelInfo :=
  if e.ChannelNum = channel then
    if e.ScanType = .PASSIVE ∧ ¬ (52 ≤ channel ∧ channel ≤ 144) then ⟨e.ChannelNum, .ACTIVE⟩ else e
  else e

theorem onOwn_num (channel : ℕ) (e : RtChannelInfo) : (onOwn channel e).ChannelNum = e.ChannelNum := by
  rw [onOwn]
  split
  · split <;> rfl
  · rfl

theorem ownChannel_append (channel : ℕ) (es : List RtChannelInfo) (z : RtChannelInfo) (rest : List RtChannelInfo)
    (hnonzero : 0 ∉ nums es) (hz : z.ChannelNum = 0) :
    ownChannel channel (es ++ z :: rest) = ownChannel channel es ++ z :: rest := by
  induction es with
  | nil =>
    have h : ownChannel channel (z :: rest) = z :: rest := by rw [ownChannel, if_pos hz]
    exact h
  | cons e es ih =>
    rw [nums, List.map_cons, List.mem_cons, not_or] at hnonzero
    rw [List.cons_append, ownChannel, ownChannel, if_neg (Ne.symm hnonzero.1), if_neg (Ne.symm hnonzero.1)]
    split
    · rfl
    · rw [ih hnonzero.2]
      rfl

theorem ownChannel_eq_map (channel : ℕ) (es : List RtChannelInfo) (hinc : (nums es).Pairwise (· < ·))
    (hnonzero : 0 ∉ nums es) : ownChannel channel es = es.map (onOwn channel) := by
  induction es with
  | nil => rfl
  | cons e es ih =>
    rw [nums, List.map_cons, List.pairwise_cons] at hinc
    rw [nums, List.map_cons, List.mem_cons, not_or] at hnonzero
    rw [ownChannel, if_neg (Ne.symm hnonzero.1), List.map_cons, onOwn]
    by_cases hch : e.ChannelNum = channel
    · have hrest : es.map (onOwn channel) = es := by
        refine (List.map_congr_left fun e' he' => ?_).trans (List.map_id es)
        have hlt := hinc.1 e'.ChannelNum (List.mem_map.mpr ⟨e', he', rfl⟩)
        exact if_neg (by omega)
      rw [if_pos hch, if_pos hch, hrest]
    · rw [if_neg hch, if_neg hch, ih hinc.2 hnonzero.2]

/-! ## The claims of a beacon's country element -/

/-- The function merges: it is switched on, has not merged before, and the element is long enough. -/
def Merges (enable80211d update_channel_plan_by_ap_done : Bool) (country : Option (List ℕ)) (body : List ℕ) : Prop :=
  enable80211d = true ∧ update_channel_plan_by_ap_done = false ∧ country = some body ∧ 6 ≤ body.length

/-- The entries of a channel set in front of its end. -/
def listed (channel_set : List RtChannelInfo) : List RtChannelInfo := channel_set.takeWhile fun e => !decide (e.ChannelNum = 0)

/-- The new set: up to 14 the union in increasing order, active where the access point lists the channel or sends on it,
and searched exactly. -/
structure UnionPlan (set : ChannelSet) (ap : List ℕ) (dsConfig : ℕ) (channel_set : List RtChannelInfo) : Prop where
  increasing : ((nums (listed channel_set)).filter fun n => n ≤ 14).Pairwise (· < ·)
  union : ∀ n ≤ 14, n ∈ nums (listed channel_set) ↔ n ∈ set.numbers ∨ n ∈ ap
  active : ∀ e ∈ listed channel_set, e.ChannelNum ≤ 14 →
    (e.ScanType = .ACTIVE ↔ e.ChannelNum ∈ ap ∨ e.ChannelNum = dsConfig)
  found : ∀ n ∈ nums (listed channel_set), ∃ i : ℕ, rtwChSetSearchCh channel_set n = some (i : ℤ) ∧
    (channel_set[i]?).map RtChannelInfo.ChannelNum = some n
  absent : ∀ n ∉ nums (listed channel_set), rtwChSetSearchCh channel_set n = some (-1)

/-- Nothing is written behind an array, and what is merged is the union. -/
def PlanRight (enable80211d update_channel_plan_by_ap_done : Bool) (wireless : WirelessMode) (set : ChannelSet)
    (country : Option (List ℕ)) (dsConfig : ℕ) : Prop :=
  let p := process80211d enable80211d update_channel_plan_by_ap_done wireless set country dsConfig
  (∀ i ∈ p.apWritten, i < MAX_CHANNEL_NUM) ∧ (∀ i ∈ p.setWritten, i < MAX_CHANNEL_NUM) ∧
  ∀ body, Merges enable80211d update_channel_plan_by_ap_done country body → wireless.wireless11G = true →
    (apChannels body).Pairwise (· < ·) → p.setWritten.length ≤ MAX_CHANNEL_NUM →
    UnionPlan set (apChannels body) dsConfig p.channel_set

theorem process_of_merges {enable80211d done : Bool} {country : Option (List ℕ)} {body : List ℕ}
    (h : Merges enable80211d done country body) (wireless : WirelessMode) (set : ChannelSet) (dsConfig : ℕ) :
    process80211d enable80211d done wireless set country dsConfig =
      ⟨(apPlan body).written, List.range (chplanNew wireless set.entries (apPlan body).channels).length,
        ownChannel dsConfig ((chplanNew wireless set.entries (apPlan body).channels).take MAX_CHANNEL_NUM ++
          List.replicate (MAX_CHANNEL_NUM - (chplanNew wireless set.entries (apPlan body).channels).length)
            ⟨0, .PASSIVE⟩), true⟩ := by
  obtain ⟨rfl, rfl, rfl, hlen⟩ := h
  rw [process80211d, if_pos (by rfl)]
  dsimp only
  rw [if_neg (Nat.not_lt_of_le hlen)]

theorem process_of_not_merges {enable80211d done : Bool} {country : Option (List ℕ)}
    (h : ∀ body, ¬ Merges enable80211d done country body) (wireless : WirelessMode) (set : ChannelSet) (dsConfig : ℕ) :
    (process80211d enable80211d done wireless set country dsConfig).apWritten = [] ∧
      (process80211d enable80211d done wireless set country dsConfig).setWritten = [] := by
  unfold process80211d
  by_cases hon : (enable80211d && !done) = true
  · rw [if_pos hon]
    rw [Bool.and_eq_true, Bool.not_eq_true'] at hon
    cases country with
    | none => exact ⟨rfl, rfl⟩
    | some body =>
      have hshort : body.length < 6 := Nat.lt_of_not_le fun hlen => h body ⟨hon.1, hon.2, rfl, hlen⟩
      dsimp only
      rw [if_pos hshort]
      exact ⟨rfl, rfl⟩
  · rw [if_neg hon]
    exact ⟨rfl, rfl⟩

theorem nums_onOwn (dsConfig : ℕ) (new : List RtChannelInfo) : nums (new.map (onOwn dsConfig)) = nums new := by
  rw [nums, List.map_map]
  exact List.map_congr_left fun e _ => onOwn_num dsConfig e

theorem onOwn_nonzero (dsConfig : ℕ) {new : List RtChannelInfo} (hnonzero : 0 ∉ nums new) :
    ∀ e ∈ new.map (onOwn dsConfig), e.ChannelNum ≠ 0 := fun e he hzero =>
  hnonzero (nums_onOwn dsConfig new ▸ List.mem_map.mpr ⟨e, he, hzero⟩)

/-- A set that does not fill its array, in increasing order: what the last loop leaves of it is listed and searched
exactly. -/
theorem listed_ownChannel {new : List RtChannelInfo} (hlen : new.length < MAX_CHANNEL_NUM)
    (hinc : (nums new).Pairwise (· < ·)) (hnonzero : 0 ∉ nums new) (dsConfig : ℕ) :
    ∃ set' : ChannelSet, set'.entries = new.map (onOwn dsConfig) ∧ set'.numbers = nums new ∧
      ownChannel dsConfig (new.take MAX_CHANNEL_NUM ++
        List.replicate (MAX_CHANNEL_NUM - new.length) ⟨0, .PASSIVE⟩) = set'.array ∧
      listed set'.array = set'.entries := by
  have hne := onOwn_nonzero dsConfig hnonzero
  -- the array goes on behind the list with an entry of number zero
  obtain ⟨k, hk⟩ := Nat.exists_eq_succ_of_ne_zero (Nat.sub_ne_zero_of_lt hlen)
  refine ⟨⟨new.map (onOwn dsConfig), by rw [List.length_map]; omega, hne⟩, rfl, nums_onOwn dsConfig new, ?_, ?_⟩
  · change _ = new.map (onOwn dsConfig) ++
      List.replicate (MAX_CHANNEL_NUM - (new.map (onOwn dsConfig)).length) ⟨0, .PASSIVE⟩
    rw [List.length_map, List.take_of_length_le (Nat.le_of_lt hlen), hk, List.replicate_succ,
      ownChannel_append _ _ _ _ hnonzero rfl, ownChannel_eq_map _ _ hinc hnonzero]
  · change listed (new.map (onOwn dsConfig) ++
      List.replicate (MAX_CHANNEL_NUM - (new.map (onOwn dsConfig)).length) ⟨0, .PASSIVE⟩) = new.map (onOwn dsConfig)
    rw [List.length_map, hk, List.replicate_succ, listed, List.takeWhile_append_of_pos]
    · rw [List.takeWhile_cons_of_neg (by decide), List.append_nil]
    · intro e he
      rw [decide_eq_false (hne e he)]
      rfl

theorem chplanNew_nonzero {wireless : WirelessMode} {set : ChannelSet} {ap : List ℕ} (hG : wireless.wireless11G = true)
    (hsta : set.numbers.Pairwise (· < ·)) (hap : ap.Pairwise (· < ·)) (hzero : 0 ∉ ap) :
    0 ∉ nums (chplanNew wireless set.entries ap) := by
  intro h
  rcases listed_of_mem hG hsta hap h with h | h
  · exact set.nonzero_numbers h rfl
  · exact hzero h

theorem unionPlan_of_small {wireless : WirelessMode} {set : ChannelSet} {ap : List ℕ} (hG : wireless.wireless11G = true)
    (hsta : set.numbers.Pairwise (· < ·)) (hap : ap.Pairwise (· < ·)) (hzero : 0 ∉ ap)
    (hlen : (chplanNew wireless set.entries ap).length < MAX_CHANNEL_NUM) (dsConfig : ℕ) :
    UnionPlan set ap dsConfig (ownChannel dsConfig ((chplanNew wireless set.entries ap).take MAX_CHANNEL_NUM ++
      List.replicate (MAX_CHANNEL_NUM - (chplanNew wireless set.entries ap).length) ⟨0, .PASSIVE⟩)) := by
  have hinc := @increasing_chplanNew wireless set.entries ap hG hsta hap
  have hnonzero := chplanNew_nonzero hG hsta hap hzero
  obtain ⟨set', hentries, hnums, harray, hlisted⟩ := listed_ownChannel hlen hinc hnonzero dsConfig
  have hroom : set'.entries.length < MAX_CHANNEL_NUM := by
    rw [hentries, List.length_map]
    exact hlen
  have hincreasing : set'.numbers.Pairwise (· < ·) := hnums ▸ hinc
  have hset : nums (listed set'.array) = set'.numbers := congrArg nums hlisted
  rw [harray]
  refine ⟨?_, fun n hn => ?_, fun e he hle => ?_, fun n hn => ?_, fun n hn => ?_⟩
  · rw [hset]
    exact hincreasing.filter _
  · rw [hset, hnums]
    exact mem_chplanNew hG hsta hap hn
  · rw [hlisted, hentries] at he
    obtain ⟨e', he', rfl⟩ := List.mem_map.mp he
    rw [onOwn_num] at hle ⊢
    obtain ⟨htypes, hactive⟩ := chplanNew_type hG hsta hap he' hle
    rw [onOwn]
    by_cases hch : e'.ChannelNum = dsConfig
    · rw [if_pos hch, or_iff_right_of_imp fun _ => hch]
      refine iff_of_true ?_ hch
      rcases htypes with htype | htype
      · rw [if_neg (by rw [htype]; exact fun h => RtScanType.noConfusion h.1)]
        exact htype
      · rw [if_pos ⟨htype, by omega⟩]
    · rw [if_neg hch, or_iff_left hch]
      exact hactive
  · rw [hset] at hn
    refine ⟨set'.numbers.idxOf n, set'.search_increasing hincreasing hn, ?_⟩
    have hidx : set'.numbers.idxOf n < set'.entries.length := by
      have := List.idxOf_lt_length_of_mem hn
      rw [ChannelSet.numbers, List.length_map] at this
      exact this
    rw [ChannelSet.array, List.getElem?_append_left hidx, ← List.getElem?_map]
    exact List.getElem?_idxOf hn
  · rw [hset] at hn
    rw [set'.search_not_mem hn, if_pos hroom]

/-- With channel zero among those of the access point, or without room for an end, the set is not the union. -/
theorem small_of_unionPlan {wireless : WirelessMode} {set : ChannelSet} {ap : List ℕ} (hG : wireless.wireless11G = true)
    (hsta : set.numbers.Pairwise (· < ·)) (hap : ap.Pairwise (· < ·)) {dsConfig : ℕ}
    (hle : (chplanNew wireless set.entries ap).length ≤ MAX_CHANNEL_NUM)
    (h : UnionPlan set ap dsConfig (ownChannel dsConfig ((chplanNew wireless set.entries ap).take MAX_CHANNEL_NUM ++
      List.replicate (MAX_CHANNEL_NUM - (chplanNew wireless set.entries ap).length) ⟨0, .PASSIVE⟩))) :
    0 ∉ ap ∧ (chplanNew wireless set.entries ap).length < MAX_CHANNEL_NUM := by
  have hlisted (es : List RtChannelInfo) : 0 ∉ nums (listed es) := by
    intro h₀
    obtain ⟨e, he, hzero⟩ := List.mem_map.mp h₀
    have := List.mem_takeWhile_imp he
    rw [hzero] at this
    exact absurd this (by decide)
  have hzero : 0 ∉ ap := fun h₀ => hlisted _ ((h.union 0 (Nat.zero_le _)).mpr (.inr h₀))
  refine ⟨hzero, Nat.lt_of_le_of_ne hle fun hfull => ?_⟩
  have hinc := @increasing_chplanNew wireless set.entries ap hG hsta hap
  have hnonzero := chplanNew_nonzero hG hsta hap hzero
  have habsent := h.absent 0 (hlisted _)
  rw [hfull, Nat.sub_self, List.replicate_zero, List.append_nil, List.take_of_length_le (Nat.le_of_eq hfull),
    ownChannel_eq_map _ _ hinc hnonzero] at habsent
  have hown : 0 ∉ nums ((chplanNew wireless set.entries ap).map (onOwn dsConfig)) := by
    rw [nums_onOwn]
    exact hnonzero
  have hoff := @searchLoop_not_mem 0 _ [] 0 (onOwn_nonzero dsConfig hnonzero) hown
  rw [List.append_nil] at hoff
  rw [rtwChSetSearchCh, hoff] at habsent
  cases habsent

/-- The triplets and the merged set fit, and a merged 2.4 GHz band leaves room for the end of the set and has no channel
zero. -/
def PlanFits (wireless : WirelessMode) (set : ChannelSet) (ap : List ℕ) : Prop :=
  ap.length ≤ MAX_CHANNEL_NUM ∧ planLength wireless set.numbers ap ≤ MAX_CHANNEL_NUM ∧
  (wireless.wireless11G = true → ap.Pairwise (· < ·) →
    0 ∉ ap ∧ planLength wireless set.numbers ap < MAX_CHANNEL_NUM)

/-- The function stays inside its arrays and leaves the union exactly if what it merges fits. -/
theorem planRight_iff (enable80211d update_channel_plan_by_ap_done : Bool) (wireless : WirelessMode) (set : ChannelSet)
    (hinc : set.numbers.Pairwise (· < ·)) (country : Option (List ℕ)) (dsConfig : ℕ) :
    PlanRight enable80211d update_channel_plan_by_ap_done wireless set country dsConfig ↔
      ∀ body, Merges enable80211d update_channel_plan_by_ap_done country body →
        PlanFits wireless set (apChannels body) := by
  by_cases hmerges : ∃ body, Merges enable80211d update_channel_plan_by_ap_done country body
  · obtain ⟨body, hbody⟩ := hmerges
    have honly : ∀ body', Merges enable80211d update_channel_plan_by_ap_done country body' → body' = body := by
      rintro body' ⟨-, -, hcountry, -⟩
      rw [hbody.2.2.1] at hcountry
      exact (Option.some.inj hcountry).symm
    rw [PlanRight]
    simp only [process_of_merges hbody, apPlan_written, List.length_range]
    constructor
    · rintro ⟨hap, hset, hplan⟩ body' hbody'
      obtain rfl := honly body' hbody'
      have hsmall : (apChannels body').length < 256 := by
        have hmax : MAX_CHANNEL_NUM = 38 := rfl
        omega
      rw [apPlan_channels hsmall] at hset hplan
      have hcount : (chplanNew wireless set.entries (apChannels body')).length =
          planLength wireless set.numbers (apChannels body') := length_chplanNew _ _ _ hinc
      have hfits : planLength wireless set.numbers (apChannels body') ≤ MAX_CHANNEL_NUM := by
        by_contra hlong
        rw [hcount] at hset
        exact Nat.lt_irrefl _ (hset MAX_CHANNEL_NUM (List.mem_range.mpr (Nat.lt_of_not_le hlong)))
      refine ⟨hap, hfits, fun hG hincreasing => ?_⟩
      have hsmall' := small_of_unionPlan hG hinc hincreasing (hcount ▸ hfits)
        (hplan body' hbody' hG hincreasing (hcount ▸ hfits))
      rw [hcount] at hsmall'
      exact hsmall'
    · intro h
      obtain ⟨hap, hfits, hroom⟩ := h body hbody
      have hsmall : (apChannels body).length < 256 := by
        have hmax : MAX_CHANNEL_NUM = 38 := rfl
        omega
      have hcount : (chplanNew wireless set.entries (apChannels body)).length =
          planLength wireless set.numbers (apChannels body) := length_chplanNew _ _ _ hinc
      rw [apPlan_channels hsmall]
      refine ⟨hap, fun i hi => ?_, fun body' hbody' hG hincreasing _ => ?_⟩
      · rw [hcount, List.mem_range] at hi
        exact Nat.lt_of_lt_of_le hi hfits
      · obtain rfl := honly body' hbody'
        obtain ⟨hzero, hlt⟩ := hroom hG hincreasing
        exact unionPlan_of_small hG hinc hincreasing hzero (hcount ▸ hlt) dsConfig
  · have hnone : ∀ body, ¬ Merges enable80211d update_channel_plan_by_ap_done country body := not_exists.mp hmerges
    obtain ⟨hap, hset⟩ := process_of_not_merges hnone wireless set dsConfig
    refine iff_of_true ⟨?_, ?_, fun body h => absurd h (hnone body)⟩ fun body h => absurd h (hnone body)
    · rw [hap]
      exact fun i h => absurd h List.not_mem_nil
    · rw [hset]
      exact fun i h => absurd h List.not_mem_nil

def twoChannels : ChannelSet where
  entries := [⟨1, .ACTIVE⟩, ⟨6, .ACTIVE⟩]
  fits := by decide
  nonzero := by decide

theorem planRight_usa :
    PlanRight true false ⟨true, false⟩ twoChannels (some [0x55, 0x53, 0x20, 1, 11, 30]) 6 ↔
      ∀ body, Merges true false (some [0x55, 0x53, 0x20, 1, 11, 30]) body →
        PlanFits ⟨true, false⟩ twoChannels (apChannels body) :=
  planRight_iff true false ⟨true, false⟩ twoChannels (by decide) (some [0x55, 0x53, 0x20, 1, 11, 30]) 6

/-- One triplet of forty channels is written behind the plan of the access point. -/
theorem not_planRight_forty :
    ¬ PlanRight true false ⟨true, false⟩ twoChannels (some [0x55, 0x53, 0x20, 1, 40, 30]) 6 := by
  rintro ⟨hap, -, -⟩
  have hmem : 38 ∈ (process80211d true false ⟨true, false⟩ twoChannels (some [0x55, 0x53, 0x20, 1, 40, 30]) 6).apWritten := by
    change 38 ∈ (apPlan [0x55, 0x53, 0x20, 1, 40, 30]).written
    decide +kernel
  exact absurd (hap 38 hmem) (by decide)

end CountryIe

end Rtl8723au
