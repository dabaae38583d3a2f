import Mathlib.Data.List.Basic
import Mathlib.Data.Nat.Notation
import Mathlib.Tactic

/-! The channel set of `core/rtw_mlme_ext.c`: the plans it is made of, `init_channel_set`, and the search for a channel
in it. The array ends with a zero, unless it is full. -/
namespace Rtl8723au
set_option autoImplicit false

def MAX_CHANNEL_NUM : ℕ := 38

inductive RtScanType
  | PASSIVE | ACTIVE | MIX
  deriving DecidableEq

structure RtChannelInfo where
  ChannelNum : ℕ
  ScanType : RtScanType
  deriving DecidableEq

/-- The bits of `wireless_mode` that choose the bands. -/
structure WirelessMode where
  wireless11G : Bool
  wireless11A : Bool

structure ChannelSet where
  entries : List RtChannelInfo
  fits : entries.length ≤ MAX_CHANNEL_NUM
  nonzero : ∀ e ∈ entries, e.ChannelNum ≠ 0

namespace ChannelSet

def numbers (set : ChannelSet) : List ℕ := set.entries.map RtChannelInfo.ChannelNum

/-- `channel_set[MAX_CHANNEL_NUM]`. -/
def array (set : ChannelSet) : List RtChannelInfo :=
  set.entries ++ List.replicate (MAX_CHANNEL_NUM - set.entries.length) ⟨0, .PASSIVE⟩

/-- The loop of `rtw_ch_set_search_ch`: the index at which it stops with the number it finds there, `none` when it runs
off the array. -/
def searchLoop (ch : ℕ) : List RtChannelInfo → ℕ → Option (ℕ × ℕ)
  | [], _ => none
  | e :: rest, i =>
    if e.ChannelNum = 0 then some (i, 0)
    else if ch = e.ChannelNum then some (i, e.ChannelNum)
    else searchLoop ch rest (i + 1)

/-- `rtw_ch_set_search_ch`: the index is compared with the number that stands there. -/
def rtwChSetSearchCh (ch_set : List RtChannelInfo) (ch : ℕ) : Option ℤ :=
  (searchLoop ch ch_set 0).map fun r => if r.2 ≤ r.1 then -1 else (r.1 : ℤ)

/-! ## What the search finds -/

theorem searchLoop_mem {ch : ℕ} {es : List RtChannelInfo} (rest : List RtChannelInfo) (i : ℕ)
    (hnonzero : ∀ e ∈ es, e.ChannelNum ≠ 0) (h : ch ∈ es.map RtChannelInfo.ChannelNum) :
    searchLoop ch (es ++ rest) i = some (i + (es.map RtChannelInfo.ChannelNum).idxOf ch, ch) := by
  induction es generalizing i with
  | nil => cases h
  | cons e es ih =>
    have he : e.ChannelNum ≠ 0 := hnonzero e List.mem_cons_self
    rw [List.cons_append, searchLoop, if_neg he, List.map_cons]
    by_cases hch : ch = e.ChannelNum
    · rw [if_pos hch, ← hch, List.idxOf_cons_self, Nat.add_zero]
    · have hmem : ch ∈ es.map RtChannelInfo.ChannelNum := (List.mem_cons.mp h).resolve_left hch
      rw [if_neg hch, ih (i + 1) (fun e' h' => hnonzero e' (List.mem_cons_of_mem _ h')) hmem,
        List.idxOf_cons_ne _ (Ne.symm hch), Nat.add_right_comm, Nat.add_assoc]

theorem searchLoop_not_mem {ch : ℕ} {es : List RtChannelInfo} (rest : List RtChannelInfo) (i : ℕ)
    (hnonzero : ∀ e ∈ es, e.ChannelNum ≠ 0) (h : ch ∉ es.map RtChannelInfo.ChannelNum) :
    searchLoop ch (es ++ rest) i = searchLoop ch rest (i + es.length) := by
  induction es generalizing i with
  | nil => rfl
  | cons e es ih =>
    have he : e.ChannelNum ≠ 0 := hnonzero e List.mem_cons_self
    rw [List.map_cons, List.mem_cons, not_or] at h
    rw [List.cons_append, searchLoop, if_neg he, if_neg h.1, ih (i + 1) (fun e' h' =>
      hnonzero e' (List.mem_cons_of_mem _ h')) h.2, List.length_cons]
    congr 1
    omega

theorem nonzero_numbers (set : ChannelSet) {ch : ℕ} (h : ch ∈ set.numbers) : ch ≠ 0 := by
  obtain ⟨e, he, rfl⟩ := List.mem_map.mp h
  exact set.nonzero e he

theorem search_mem (set : ChannelSet) {ch : ℕ} (h : ch ∈ set.numbers) :
    rtwChSetSearchCh set.array ch =
      some (if ch ≤ set.numbers.idxOf ch then -1 else (set.numbers.idxOf ch : ℤ)) := by
  rw [rtwChSetSearchCh, array, searchLoop_mem _ 0 set.nonzero h, Nat.zero_add]
  rfl

theorem search_not_mem (set : ChannelSet) {ch : ℕ} (h : ch ∉ set.numbers) :
    rtwChSetSearchCh set.array ch = if set.entries.length < MAX_CHANNEL_NUM then some (-1) else none := by
  rw [rtwChSetSearchCh, array, searchLoop_not_mem _ 0 set.nonzero h]
  split
  · next hroom =>
    obtain ⟨k, hk⟩ := Nat.exists_eq_succ_of_ne_zero (Nat.sub_ne_zero_of_lt hroom)
    rw [hk, List.replicate_succ, searchLoop, if_pos rfl]
    exact congrArg some (if_pos (Nat.zero_le _))
  · next hfull =>
    rw [Nat.sub_eq_zero_of_le (Nat.le_of_not_lt hfull)]
    rfl

theorem idxOf_lt_of_increasing {nums : List ℕ} (hinc : nums.Pairwise (· < ·)) {ch bound : ℕ}
    (hbound : ∀ n ∈ nums, bound < n) (h : ch ∈ nums) : bound + nums.idxOf ch < ch := by
  induction nums generalizing bound with
  | nil => cases h
  | cons n nums ih =>
    obtain ⟨hfirst, htail⟩ := List.pairwise_cons.mp hinc
    have hn := hbound n List.mem_cons_self
    by_cases heq : n = ch
    · subst heq
      rw [List.idxOf_cons_self]
      exact hn
    · have hmem := (List.mem_cons.mp h).resolve_left (Ne.symm heq)
      have := ih htail hfirst hmem
      rw [List.idxOf_cons_ne _ heq]
      omega

/-- A set in increasing order is searched exactly: a channel of it is found, any other is not, unless the array is
full. -/
theorem search_increasing (set : ChannelSet) (hinc : set.numbers.Pairwise (· < ·)) {ch : ℕ} (h : ch ∈ set.numbers) :
    rtwChSetSearchCh set.array ch = some (set.numbers.idxOf ch : ℤ) := by
  have hlt : 0 + set.numbers.idxOf ch < ch :=
    idxOf_lt_of_increasing hinc (fun n hn => Nat.pos_of_ne_zero (set.nonzero_numbers hn)) h
  rw [search_mem set h, if_neg (by omega)]

/-! ## The sets the driver starts with -/

/-- `RTW_ChannelPlan2G`. -/
def rtwChannelPlan2G : List (List ℕ) :=
  [[1, 2, 3, 4, 5, 6, 7, 8, 9, 10, 11, 12, 13],
   [1, 2, 3, 4, 5, 6, 7, 8, 9, 10, 11, 12, 13],
   [1, 2, 3, 4, 5, 6, 7, 8, 9, 10, 11],
   [1, 2, 3, 4, 5, 6, 7, 8, 9, 10, 11, 12, 13, 14],
   [10, 11, 12, 13],
   []]

/-- `RTW_ChannelPlan5G`. -/
def rtwChannelPlan5G : List (List ℕ) :=
  [[],
   [36, 40, 44, 48, 52, 56, 60, 64, 100, 104, 108, 112, 116, 120, 124, 128, 132, 136, 140],
   [36, 40, 44, 48, 52, 56, 60, 64, 100, 104, 108, 112, 116, 120, 124, 128, 132, 136, 140, 149, 153, 157, 161, 165],
   [36, 40, 44, 48, 52, 56, 60, 64, 100, 104, 108, 112, 116, 120, 124, 128, 132, 149, 153, 157, 161, 165],
   [36, 40, 44, 48, 52, 56, 60, 64, 100, 104, 108, 112, 116, 120, 124, 128, 132, 136, 140, 149, 153, 157, 161, 165],
   [36, 40, 44, 48, 149, 153, 157, 161, 165],
   [36, 40, 44, 48, 52, 56, 60, 64, 149, 153, 157, 161, 165],
   [36, 40, 44, 48, 52, 56, 60, 64, 149, 153, 157, 161],
   [149, 153, 157, 161, 165],
   [36, 40, 44, 48, 52, 56, 60, 64],
   [36, 40, 44, 48, 52, 56, 60, 64, 100, 104, 108, 112, 116, 136, 140, 149, 153, 157, 161, 165],
   [36, 40, 44, 48, 52, 56, 60, 64, 100, 104, 108, 112, 116, 120, 124, 149, 153, 157, 161, 165],
   [36, 40, 44, 48, 52, 56, 60, 64, 100, 104, 108, 112, 116, 120, 124, 128, 132, 136, 140],
   [36, 40, 44, 48, 52, 56, 60, 64],
   [100, 104, 108, 112, 116, 120, 124, 128, 132, 136, 140],
   [56, 60, 64, 100, 104, 108, 112, 116, 136, 140, 149, 153, 157, 161, 165],
   [56, 60, 64, 149, 153, 157, 161, 165],
   [36, 40, 44, 48, 52, 56, 60, 64, 100, 104, 108, 112, 116, 132, 136, 140, 149, 153, 157, 161, 165],
   [36, 40, 44, 48],
   [36, 40, 44, 48, 149, 153, 157, 161]]

/-- `RTW_ChannelPlanMap`: the 2.4 GHz and the 5 GHz plan of each channel plan. -/
def rtwChannelPlanMap : List (ℕ × ℕ) :=
  [(0x02, 0x11), (0x02, 0x0A), (0x01, 0x01), (0x01, 0x00), (0x01, 0x00), (0x03, 0x00), (0x03, 0x00), (0x01, 0x09),
   (0x03, 0x09), (0x03, 0x00), (0x00, 0x00), (0x02, 0x0F), (0x01, 0x08), (0x02, 0x06), (0x02, 0x0B), (0x02, 0x09),
   (0x01, 0x01), (0x02, 0x05), (0x01, 0x12), (0x00, 0x04), (0x02, 0x10), (0x00, 0x12), (0x00, 0x13), (0x03, 0x12),
   (0x05, 0x08), (0x02, 0x08), (0x00, 0x00), (0x00, 0x00), (0x00, 0x00), (0x00, 0x00), (0x00, 0x00), (0x05, 0x04),
   (0x00, 0x00), (0x01, 0x00), (0x02, 0x00), (0x03, 0x00), (0x04, 0x00), (0x02, 0x04), (0x00, 0x01), (0x03, 0x0C),
   (0x00, 0x0B), (0x00, 0x05), (0x00, 0x00), (0x00, 0x00), (0x00, 0x00), (0x00, 0x00), (0x00, 0x00), (0x00, 0x00),
   (0x00, 0x06), (0x00, 0x07), (0x00, 0x08), (0x00, 0x09), (0x02, 0x0A), (0x00, 0x02), (0x00, 0x03), (0x03, 0x0D),
   (0x03, 0x0E), (0x02, 0x0F), (0x00, 0x00), (0x00, 0x00), (0x00, 0x00), (0x00, 0x00), (0x00, 0x00), (0x00, 0x00),
   (0x02, 0x10), (0x03, 0x00)]

def RT_CHANNEL_DOMAIN_GLOBAL_DOAMIN : ℕ := 0x09
def RT_CHANNEL_DOMAIN_WORLD_WIDE_13 : ℕ := 0x0A
def RT_CHANNEL_DOMAIN_WORLD_WIDE_5G : ℕ := 0x13
def RT_CHANNEL_DOMAIN_GLOBAL_DOAMIN_2G : ℕ := 0x41
def RT_CHANNEL_DOMAIN_MAX : ℕ := 0x42
def RT_CHANNEL_DOMAIN_REALTEK_DEFINE : ℕ := 0x7F
def RT_CHANNEL_DOMAIN_2G_WORLD : ℕ := 0x00

def scanType2G (channelPlan index2G num : ℕ) : RtScanType :=
  if channelPlan = RT_CHANNEL_DOMAIN_GLOBAL_DOAMIN ∨ channelPlan = RT_CHANNEL_DOMAIN_GLOBAL_DOAMIN_2G then
    if 1 ≤ num ∧ num ≤ 11 then .ACTIVE else .PASSIVE
  else if channelPlan = RT_CHANNEL_DOMAIN_WORLD_WIDE_13 ∨ channelPlan = RT_CHANNEL_DOMAIN_WORLD_WIDE_5G ∨
      index2G = RT_CHANNEL_DOMAIN_2G_WORLD then
    if num ≤ 11 then .ACTIVE else .PASSIVE
  else .ACTIVE

/-- `init_channel_set`: without DFS the channels between 48 and 149 are left out. -/
def initChannelSet (wireless : WirelessMode) (channelPlan : ℕ) : List RtChannelInfo :=
  if RT_CHANNEL_DOMAIN_MAX ≤ channelPlan ∧ channelPlan ≠ RT_CHANNEL_DOMAIN_REALTEK_DEFINE then []
  else
    let index :=
      if channelPlan = RT_CHANNEL_DOMAIN_REALTEK_DEFINE then (0x03, 0x02) else rtwChannelPlanMap.getD channelPlan (0, 0)
    (if wireless.wireless11G then
      (rtwChannelPlan2G.getD index.1 []).map fun num => ⟨num, scanType2G channelPlan index.1 num⟩
    else []) ++
    (if wireless.wireless11A then
      ((rtwChannelPlan5G.getD index.2 []).filter fun num => num ≤ 48 ∨ 149 ≤ num).map fun num =>
        ⟨num, if channelPlan = RT_CHANNEL_DOMAIN_WORLD_WIDE_5G then .PASSIVE else .ACTIVE⟩
    else [])

theorem getD_of_forall {α : Type} {plans : List α} {p : α → Prop} {d : α} (h : ∀ plan ∈ plans, p plan) (hd : p d) (i : ℕ) :
    p (plans.getD i d) := by
  rw [List.getD_eq_getElem?_getD]
  cases hget : plans[i]? with
  | none => exact hd
  | some plan => exact h plan (List.mem_of_getElem? hget)

theorem plan2G_increasing (i : ℕ) :
    (rtwChannelPlan2G.getD i []).Pairwise (· < ·) ∧ ∀ num ∈ rtwChannelPlan2G.getD i [], 0 < num ∧ num ≤ 14 :=
  @getD_of_forall _ rtwChannelPlan2G (fun plan => plan.Pairwise (· < ·) ∧ ∀ num ∈ plan, 0 < num ∧ num ≤ 14) []
    (by decide) (by decide) i

theorem plan5G_increasing (i : ℕ) :
    (rtwChannelPlan5G.getD i []).Pairwise (· < ·) ∧ ∀ num ∈ rtwChannelPlan5G.getD i [], 14 < num :=
  @getD_of_forall _ rtwChannelPlan5G (fun plan => plan.Pairwise (· < ·) ∧ ∀ num ∈ plan, 14 < num) []
    (by decide) (by decide) i

theorem initChannelSet_increasing (wireless : WirelessMode) (channelPlan : ℕ) :
    ((initChannelSet wireless channelPlan).map RtChannelInfo.ChannelNum).Pairwise (· < ·) := by
  unfold initChannelSet
  split
  · exact List.Pairwise.nil
  · generalize (if channelPlan = RT_CHANNEL_DOMAIN_REALTEK_DEFINE then (0x03, 0x02)
      else rtwChannelPlanMap.getD channelPlan (0, 0)) = index
    obtain ⟨h2, hle⟩ := plan2G_increasing index.1
    obtain ⟨h5, hgt⟩ := plan5G_increasing index.2
    have hmap (f : ℕ → RtScanType) (nums : List ℕ) :
        (nums.map fun num => (⟨num, f num⟩ : RtChannelInfo)).map RtChannelInfo.ChannelNum = nums := by
      rw [List.map_map]
      exact List.map_id nums
    rw [List.map_append, List.pairwise_append]
    refine ⟨?_, ?_, ?_⟩
    · split
      · rw [hmap]
        exact h2
      · exact List.Pairwise.nil
    · split
      · rw [hmap]
        exact h5.filter _
      · exact List.Pairwise.nil
    · intro a ha b hb
      split at ha
      · split at hb
        · rw [hmap] at ha hb
          exact Nat.lt_of_le_of_lt (hle a ha).2 (hgt b (List.mem_of_mem_filter hb))
        · cases hb
      · cases ha

end ChannelSet

end Rtl8723au
