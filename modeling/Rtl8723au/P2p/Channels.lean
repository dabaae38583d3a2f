import Rtl8723au.Library.WhileLoop
import Rtl8723au.Mlme.ChannelSet
import Rtl8723au.P2p.GoNego
import Mathlib.Data.List.Basic
import Mathlib.Data.List.GetD
import Mathlib.Data.Nat.Notation
import Mathlib.Tactic

/-! The channel lists of `core/rtw_p2p.c`: `rtw_p2p_get_peer_ch_list` takes the channels out of the attribute,
`rtw_p2p_ch_inclusion` keeps those of the own channel set. Its search goes on from where the last hit was. -/
namespace Rtl8723au
namespace PeerChannels
open ChannelSet
set_option autoImplicit false

/-! ## Reading the attribute -/

/-- The cursor in `ch_content`, `ch_cnt`, the entries of `peer_ch_list` up to `j`, and `ch_no`. -/
structure PeerCursor where
  pos : ℕ
  ch_cnt : ℕ
  peer_ch_list : List ℕ
  ch_no : ℕ

/-- A pass of the loop of `rtw_p2p_get_peer_ch_list` over one operating class. -/
def peerPass (ch_content : ℕ → ℕ) (s : PeerCursor) : (List ℕ × ℕ) ⊕ PeerCursor :=
  if 0 < s.ch_cnt then
    let temp := ch_content (s.pos + 1)
    .inr {
      pos := s.pos + 1 + (temp + 1)
      ch_cnt := (s.ch_cnt + 512 - 1 - (temp + 1)) % 256
      peer_ch_list := s.peer_ch_list ++ (List.range temp).map fun i => ch_content (s.pos + 1 + 1 + i)
      ch_no := (s.ch_no + temp) % 256 }
  else .inl (s.peer_ch_list, s.ch_no)

def rtwP2pGetPeerChList (fuel : ℕ) (ch_content : ℕ → ℕ) (ch_cnt : ℕ) : Option (List ℕ × ℕ) :=
  WhileLoop.passes (peerPass ch_content) fuel ⟨3, (ch_cnt + 256 - 3) % 256, [], 0⟩

/-! ## The common channels -/

/-- The search of `rtw_p2p_ch_inclusion` for one channel, from `temp` on. -/
def findFrom (nums : List ℕ) (temp ch : ℕ) : Option ℕ :=
  ((nums.drop temp).findIdx? fun n => ch = n).map (temp + ·)

/-- A pass of `rtw_p2p_ch_inclusion`: `temp` and the channels kept so far. -/
def inclusionPass (nums : List ℕ) (s : ℕ × List ℕ) (ch : ℕ) : ℕ × List ℕ :=
  match findFrom nums s.1 ch with
  | some j => (j, s.2 ++ [ch])
  | none => s

/-- `rtw_p2p_ch_inclusion`: `ch_list_inclusioned`. -/
def rtwP2pChInclusion (nums peer_ch_list : List ℕ) (peer_ch_num : ℕ) : List ℕ :=
  ((peer_ch_list.take peer_ch_num).foldl (inclusionPass nums) (0, [])).2

/-- What `process_p2p_group_negotation_req` makes of the two: a peer without a common channel is refused. -/
def withChannels (w : P2pDevice) (inclusion : List ℕ) : P2pDevice :=
  { w with commonCh := decide (inclusion.length ≠ 0) }

/-! ## The attribute -/

/-- A well-formed attribute: the country string and its operating classes, each with its channels. -/
structure ChListAttr where
  country : List ℕ
  classes : List (ℕ × List ℕ)
  country_length : country.length = 3
  size_le : country.length + (classes.map fun cls => 2 + cls.2.length).sum ≤ 50

namespace ChListAttr

def encodeClass (cls : ℕ × List ℕ) : List ℕ := cls.1 :: cls.2.length :: cls.2

def encode (attr : ChListAttr) : List ℕ := attr.country ++ attr.classes.flatMap encodeClass

/-- The array that the attribute has been copied to, with what it held before behind it. -/
def content (attr : ChListAttr) (behind : ℕ → ℕ) (k : ℕ) : ℕ :=
  if k < attr.encode.length then attr.encode.getD k 0 else behind k

/-- The channels in the order in which the attribute lists them. -/
def channels (attr : ChListAttr) : List ℕ := attr.classes.flatMap Prod.snd

end ChListAttr

theorem length_encodeClasses (classes : List (ℕ × List ℕ)) :
    (classes.flatMap ChListAttr.encodeClass).length = (classes.map fun cls => 2 + cls.2.length).sum := by
  induction classes with
  | nil => rfl
  | cons cls classes ih =>
    rw [List.flatMap_cons, List.length_append, ih, List.map_cons, List.sum_cons]
    simp only [ChListAttr.encodeClass, List.length_cons]
    omega

theorem length_encode (attr : ChListAttr) : attr.encode.length ≤ 50 := by
  rw [ChListAttr.encode, List.length_append, length_encodeClasses]
  exact attr.size_le

/-- The loop reads the classes one after the other and returns behind the last of them. -/
theorem peer_loop (ch_content : ℕ → ℕ) (classes : List (ℕ × List ℕ)) (s : PeerCursor)
    (hread : ∀ k < (classes.flatMap ChListAttr.encodeClass).length,
      ch_content (s.pos + k) = (classes.flatMap ChListAttr.encodeClass).getD k 0)
    (hcnt : s.ch_cnt = (classes.flatMap ChListAttr.encodeClass).length) (hsmall : s.ch_cnt < 256)
    (hno : s.ch_no + (classes.flatMap Prod.snd).length < 256) :
    WhileLoop.passes (peerPass ch_content) (classes.length + 1) s =
      some (s.peer_ch_list ++ classes.flatMap Prod.snd, s.ch_no + (classes.flatMap Prod.snd).length) := by
  induction classes generalizing s with
  | nil =>
    have hzero : ¬ 0 < s.ch_cnt := by
      rw [hcnt]
      exact Nat.lt_irrefl 0
    refine WhileLoop.passes_return ?_
    rw [peerPass, if_neg hzero, List.flatMap_nil, List.append_nil]
    rfl
  | cons cls classes ih =>
    rw [List.flatMap_cons] at hread hcnt hno ⊢
    have hlen : (ChListAttr.encodeClass cls).length = cls.2.length + 2 := rfl
    rw [List.length_append] at hread hcnt hno
    have hpos : 0 < s.ch_cnt := by omega
    have htemp : ch_content (s.pos + 1) = cls.2.length := hread 1 (by omega)
    have hchs : (List.range cls.2.length).map (fun i => ch_content (s.pos + 1 + 1 + i)) = cls.2 := by
      apply List.ext_getElem
      · rw [List.length_map, List.length_range]
      · intro i h₁ h₂
        have hat : s.pos + 1 + 1 + i = s.pos + (i + 2) := by omega
        rw [List.getElem_map, List.getElem_range, hat, hread (i + 2) (by omega),
          List.getD_append _ _ _ _ (by omega)]
        exact List.getD_eq_getElem cls.2 0 h₂
    have hpass : peerPass ch_content s = .inr {
        pos := s.pos + (cls.2.length + 2)
        ch_cnt := (classes.flatMap ChListAttr.encodeClass).length
        peer_ch_list := s.peer_ch_list ++ cls.2
        ch_no := s.ch_no + cls.2.length } := by
      have h₁ : s.pos + 1 + (cls.2.length + 1) = s.pos + (cls.2.length + 2) := by omega
      have h₂ : (s.ch_cnt + 512 - 1 - (cls.2.length + 1)) % 256 =
          (classes.flatMap ChListAttr.encodeClass).length := by omega
      have h₃ : (s.ch_no + cls.2.length) % 256 = s.ch_no + cls.2.length := Nat.mod_eq_of_lt (by omega)
      rw [peerPass, if_pos hpos]
      simp only [htemp, hchs, h₁, h₂, h₃]
    have hrest : ∀ k < (classes.flatMap ChListAttr.encodeClass).length,
        ch_content (s.pos + (cls.2.length + 2) + k) = (classes.flatMap ChListAttr.encodeClass).getD k 0 := by
      intro k hk
      rw [Nat.add_assoc, hread _ (by omega), List.getD_append_right _ _ _ _ (by omega), hlen, Nat.add_sub_cancel_left]
    rw [List.length_cons, WhileLoop.passes_next hpass, ih _ hrest rfl (by dsimp only; omega) (by dsimp only; omega),
      List.length_append, List.append_assoc, Nat.add_assoc]

theorem rtwP2pGetPeerChList_eq (attr : ChListAttr) (behind : ℕ → ℕ) :
    rtwP2pGetPeerChList (attr.classes.length + 1) (attr.content behind) attr.encode.length =
      some (attr.channels, attr.channels.length) := by
  have hread (k : ℕ) (hk : k < attr.encode.length) : attr.content behind k = attr.encode.getD k 0 := if_pos hk
  have hall := length_encode attr
  have hlen : attr.encode.length = 3 + (attr.classes.flatMap ChListAttr.encodeClass).length := by
    rw [ChListAttr.encode, List.length_append, attr.country_length]
  have hchs : (attr.classes.flatMap Prod.snd).length ≤ (attr.classes.flatMap ChListAttr.encodeClass).length := by
    rw [List.length_flatMap, length_encodeClasses]
    exact List.sum_le_sum fun cls _ => Nat.le_add_left _ 2
  have hcnt : (attr.encode.length + 256 - 3) % 256 = (attr.classes.flatMap ChListAttr.encodeClass).length := by omega
  have hrest : ∀ k < (attr.classes.flatMap ChListAttr.encodeClass).length,
      attr.content behind (3 + k) = (attr.classes.flatMap ChListAttr.encodeClass).getD k 0 := by
    intro k hk
    rw [hread _ (by omega), ChListAttr.encode, List.getD_append_right _ _ _ _ (by rw [attr.country_length]; omega),
      attr.country_length, Nat.add_sub_cancel_left]
  have hloop := peer_loop (attr.content behind) attr.classes
    ⟨3, (attr.classes.flatMap ChListAttr.encodeClass).length, [], 0⟩ hrest rfl (by dsimp only; omega) (by
      dsimp only; omega)
  rw [List.nil_append, Nat.zero_add] at hloop
  rw [rtwP2pGetPeerChList, hcnt]
  exact hloop

theorem rtwP2pGetPeerChList_unique {fuel fuel' : ℕ} {ch_content : ℕ → ℕ} {ch_cnt : ℕ} {r r' : List ℕ × ℕ}
    (h : rtwP2pGetPeerChList fuel ch_content ch_cnt = some r)
    (h' : rtwP2pGetPeerChList fuel' ch_content ch_cnt = some r') : r.1 = r'.1 ∧ r.2 = r'.2 := by
  have hmax := WhileLoop.passes_mono h (Nat.le_max_left fuel fuel')
  have hmax' := WhileLoop.passes_mono h' (Nat.le_max_right fuel fuel')
  have heq : r = r' := Option.some.inj (hmax.symm.trans hmax')
  exact ⟨congrArg Prod.fst heq, congrArg Prod.snd heq⟩

/-! ## What the running cursor finds -/

section
variable {nums : List ℕ}

/-- In a list without repetitions a channel is found from every place up to its own. -/
theorem findFrom_mem (hnodup : nums.Nodup) (temp : ℕ) {ch : ℕ} (h : ch ∈ nums) :
    findFrom nums temp ch = if temp ≤ nums.idxOf ch then some (nums.idxOf ch) else none := by
  induction nums generalizing temp with
  | nil => cases h
  | cons n nums ih =>
    obtain ⟨hn, htail⟩ := List.nodup_cons.mp hnodup
    cases temp with
    | zero =>
      rw [if_pos (Nat.zero_le _), findFrom, List.drop_zero, List.findIdx?_cons]
      by_cases hch : ch = n
      · rw [decide_eq_true hch, hch, List.idxOf_cons_self]
        rfl
      · have h' := ih htail 0 ((List.mem_cons.mp h).resolve_left hch)
        rw [if_pos (Nat.zero_le _), findFrom, List.drop_zero] at h'
        simp only [Nat.zero_add, Option.map_id_fun', id_eq] at h'
        rw [decide_eq_false hch, h', List.idxOf_cons_ne _ (Ne.symm hch)]
        simp only [Bool.false_eq_true, if_false, Option.map_some, Nat.zero_add]
    | succ temp =>
      have hdrop : findFrom (n :: nums) (temp + 1) ch = (findFrom nums temp ch).map (· + 1) := by
        rw [findFrom, findFrom, List.drop_succ_cons, Option.map_map]
        exact congrArg (Option.map · _) (funext fun i => Nat.add_right_comm temp 1 i)
      rw [hdrop]
      by_cases hch : ch = n
      · subst hch
        have hnone : (nums.drop temp).findIdx? (fun m => decide (ch = m)) = none := by
          rw [List.findIdx?_eq_none_iff]
          intro m hm
          exact decide_eq_false fun hm' => hn (hm' ▸ List.mem_of_mem_drop hm)
        rw [findFrom, hnone, List.idxOf_cons_self, if_neg (Nat.not_succ_le_zero temp)]
        rfl
      · rw [ih htail temp ((List.mem_cons.mp h).resolve_left hch), List.idxOf_cons_ne _ (Ne.symm hch)]
        by_cases hle : temp ≤ nums.idxOf ch
        · rw [if_pos hle, if_pos (Nat.succ_le_succ hle)]
          rfl
        · rw [if_neg hle, if_neg fun hle' => hle (Nat.le_of_succ_le_succ hle')]
          rfl

theorem findFrom_not_mem (temp : ℕ) {ch : ℕ} (h : ch ∉ nums) : findFrom nums temp ch = none := by
  rw [findFrom, Option.map_eq_none_iff, List.findIdx?_eq_none_iff]
  intro m hm
  exact decide_eq_false fun hm' => h (hm' ▸ List.mem_of_mem_drop hm)

/-- The state of `rtw_p2p_ch_inclusion` after some channels of the peer. -/
def inclusionRun (nums pre : List ℕ) : ℕ × List ℕ := pre.foldl (inclusionPass nums) (0, [])

theorem inclusionRun_concat (nums pre : List ℕ) (ch : ℕ) :
    inclusionRun nums (pre ++ [ch]) = inclusionPass nums (inclusionRun nums pre) ch :=
  List.foldl_concat _ _ _ _

theorem inclusionPass_of_le (hnodup : nums.Nodup) {s : ℕ × List ℕ} {ch : ℕ} (h : ch ∈ nums)
    (hle : s.1 ≤ nums.idxOf ch) : inclusionPass nums s ch = (nums.idxOf ch, s.2 ++ [ch]) := by
  rw [inclusionPass, findFrom_mem hnodup _ h, if_pos hle]

theorem inclusionPass_of_not {s : ℕ × List ℕ} (hnodup : nums.Nodup) {ch : ℕ} (h : ch ∈ nums → nums.idxOf ch < s.1) :
    inclusionPass nums s ch = s := by
  by_cases hmem : ch ∈ nums
  · rw [inclusionPass, findFrom_mem hnodup _ hmem, if_neg (Nat.not_le_of_lt (h hmem))]
  · rw [inclusionPass, findFrom_not_mem _ hmem]

theorem inclusionPass_cases (hnodup : nums.Nodup) (s : ℕ × List ℕ) (ch : ℕ) :
    (ch ∈ nums ∧ s.1 ≤ nums.idxOf ch ∧ inclusionPass nums s ch = (nums.idxOf ch, s.2 ++ [ch])) ∨
      (inclusionPass nums s ch = s ∧ (ch ∈ nums → nums.idxOf ch < s.1)) := by
  by_cases h : ch ∈ nums ∧ s.1 ≤ nums.idxOf ch
  · exact .inl ⟨h.1, h.2, inclusionPass_of_le hnodup h.1 h.2⟩
  · have hlt : ch ∈ nums → nums.idxOf ch < s.1 := fun hmem => Nat.lt_of_not_le fun hle => h ⟨hmem, hle⟩
    exact .inr ⟨inclusionPass_of_not hnodup hlt, hlt⟩

theorem idxOf_le_cursor (hnodup : nums.Nodup) (pre : List ℕ) {d : ℕ} (hd : d ∈ pre) (hdn : d ∈ nums) :
    nums.idxOf d ≤ (inclusionRun nums pre).1 := by
  induction pre using List.reverseRecOn with
  | nil => cases hd
  | append_singleton pre ch ih =>
    rw [inclusionRun_concat]
    rw [List.mem_append, List.mem_singleton] at hd
    rcases inclusionPass_cases hnodup (inclusionRun nums pre) ch with ⟨-, hle, hpass⟩ | ⟨hpass, hlt⟩
    · rw [hpass]
      rcases hd with hd | rfl
      · exact Nat.le_trans (ih hd) hle
      · exact Nat.le_refl _
    · rw [hpass]
      rcases hd with hd | rfl
      · exact ih hd
      · exact Nat.le_of_lt (hlt hdn)

theorem cursor_eq (hnodup : nums.Nodup) (pre : List ℕ) :
    (inclusionRun nums pre).1 = 0 ∨ ∃ d ∈ pre, d ∈ nums ∧ (inclusionRun nums pre).1 = nums.idxOf d := by
  induction pre using List.reverseRecOn with
  | nil => exact .inl rfl
  | append_singleton pre ch ih =>
    rw [inclusionRun_concat]
    rcases inclusionPass_cases hnodup (inclusionRun nums pre) ch with ⟨hmem, -, hpass⟩ | ⟨hpass, -⟩
    · rw [hpass]
      exact .inr ⟨ch, List.mem_append_right _ (List.mem_singleton.mpr rfl), hmem, rfl⟩
    · rw [hpass]
      exact ih.imp_right fun ⟨d, hd, hdn, heq⟩ => ⟨d, List.mem_append_left _ hd, hdn, heq⟩

theorem kept_before (hnodup : nums.Nodup) (pre : List ℕ) {ch : ℕ} (h : ch ∈ (inclusionRun nums pre).2) :
    ∃ before after, pre = before ++ ch :: after ∧ ch ∈ nums ∧ (inclusionRun nums before).1 ≤ nums.idxOf ch := by
  induction pre using List.reverseRecOn with
  | nil => cases h
  | append_singleton pre x ih =>
    have hold : ch ∈ (inclusionRun nums pre).2 → ∃ before after, pre ++ [x] = before ++ ch :: after ∧ ch ∈ nums ∧
        (inclusionRun nums before).1 ≤ nums.idxOf ch := by
      intro h'
      obtain ⟨before, after, rfl, hmem, hle⟩ := ih h'
      exact ⟨before, after ++ [x], by rw [List.append_assoc, List.cons_append], hmem, hle⟩
    rw [inclusionRun_concat] at h
    rcases inclusionPass_cases hnodup (inclusionRun nums pre) x with ⟨hmem, hle, hpass⟩ | ⟨hpass, -⟩
    · rw [hpass, List.mem_append, List.mem_singleton] at h
      rcases h with h | rfl
      · exact hold h
      · exact ⟨pre, [], rfl, hmem, hle⟩
    · rw [hpass] at h
      exact hold h

end

/-! ## The result is the intersection exactly if the order is the set's -/

/-- The common channels are first listed in the order of the channel set. -/
def FirstListedInOrder (nums chs : List ℕ) : Prop :=
  ∀ c d, c ∈ chs → c ∈ nums → d ∈ chs → d ∈ nums → chs.idxOf d < chs.idxOf c → nums.idxOf d < nums.idxOf c

/-- In the set's order every common channel is kept where it is first listed. -/
theorem kept_of_order {nums chs : List ℕ} (hnodup : nums.Nodup) (horder : FirstListedInOrder nums chs)
    (pre suf : List ℕ) (hsplit : chs = pre ++ suf) {c : ℕ} (hc : c ∈ pre) (hcn : c ∈ nums) :
    c ∈ (inclusionRun nums pre).2 := by
  induction pre using List.reverseRecOn generalizing suf with
  | nil => cases hc
  | append_singleton pre x ih =>
    have hstep : ∀ y ∈ (inclusionRun nums pre).2, y ∈ (inclusionPass nums (inclusionRun nums pre) x).2 := by
      intro y hy
      rcases inclusionPass_cases hnodup (inclusionRun nums pre) x with ⟨-, -, hpass⟩ | ⟨hpass, -⟩
      · rw [hpass]
        exact List.mem_append_left _ hy
      · rw [hpass]
        exact hy
    have hsplit' : chs = pre ++ x :: suf := by rw [hsplit, List.append_assoc, List.singleton_append]
    rw [inclusionRun_concat]
    by_cases hpre : c ∈ pre
    · exact hstep c (ih (x :: suf) hsplit' hpre)
    · rw [List.mem_append, List.mem_singleton] at hc
      obtain rfl := hc.resolve_left hpre
      have hplace : chs.idxOf c = pre.length := by
        rw [hsplit', List.idxOf_append_of_notMem hpre, List.idxOf_cons_self]
        rfl
      have hcursor : (inclusionRun nums pre).1 ≤ nums.idxOf c := by
        rcases cursor_eq hnodup pre with h₀ | ⟨d, hd, hdn, heq⟩
        · rw [h₀]
          exact Nat.zero_le _
        · have hlt : chs.idxOf d < chs.idxOf c := by
            rw [hplace, hsplit', List.idxOf_append_of_mem hd]
            exact List.idxOf_lt_length_of_mem hd
          have hmem : ∀ y ∈ pre ++ [c], y ∈ chs := fun y hy => hsplit ▸ List.mem_append_left suf hy
          rw [heq]
          exact Nat.le_of_lt (horder c d (hmem c (List.mem_append_right _ (List.mem_singleton.mpr rfl))) hcn
            (hmem d (List.mem_append_left _ hd)) hdn hlt)
      rw [inclusionPass_of_le hnodup hcn hcursor]
      exact List.mem_append_right _ (List.mem_singleton.mpr rfl)

theorem order_of_kept {nums chs : List ℕ} (hnodup : nums.Nodup) {c d : ℕ} (hkept : c ∈ (inclusionRun nums chs).2)
    (hdn : d ∈ nums) (hlt : chs.idxOf d < chs.idxOf c) : nums.idxOf d < nums.idxOf c := by
  obtain ⟨before, after, rfl, -, hle⟩ := kept_before hnodup chs hkept
  have hplace : (before ++ c :: after).idxOf c ≤ before.length := by
    by_cases hc : c ∈ before
    · rw [List.idxOf_append_of_mem hc]
      exact Nat.le_of_lt (List.idxOf_lt_length_of_mem hc)
    · rw [List.idxOf_append_of_notMem hc, List.idxOf_cons_self]
      exact Nat.le_refl _
  have hd : d ∈ before := by
    by_contra hd
    rw [List.idxOf_append_of_notMem hd] at hlt
    omega
  have hne : nums.idxOf d ≠ nums.idxOf c := by
    intro heq
    rw [(List.idxOf_inj hdn).mp heq] at hlt
    exact Nat.lt_irrefl _ hlt
  exact Nat.lt_of_le_of_ne (Nat.le_trans (idxOf_le_cursor hnodup before hd hdn) hle) hne

theorem kept_sound {nums chs : List ℕ} (hnodup : nums.Nodup) {c : ℕ} (h : c ∈ (inclusionRun nums chs).2) :
    c ∈ chs ∧ c ∈ nums := by
  obtain ⟨before, after, rfl, hmem, -⟩ := kept_before hnodup chs h
  exact ⟨List.mem_append_right _ List.mem_cons_self, hmem⟩

theorem inclusion_iff {nums chs : List ℕ} (hnodup : nums.Nodup) :
    (∀ c, c ∈ (inclusionRun nums chs).2 ↔ c ∈ chs ∧ c ∈ nums) ↔ FirstListedInOrder nums chs := by
  constructor
  · intro h c d hc hcn _ hdn hlt
    exact order_of_kept hnodup ((h c).mpr ⟨hc, hcn⟩) hdn hlt
  · intro horder c
    constructor
    · exact kept_sound hnodup
    · rintro ⟨hc, hcn⟩
      exact kept_of_order hnodup horder chs [] (List.append_nil chs).symm hc hcn

theorem kept_ne_nil {nums chs : List ℕ} (hnodup : nums.Nodup) {c : ℕ} (hc : c ∈ chs) (hcn : c ∈ nums) :
    (inclusionRun nums chs).2 ≠ [] := by
  induction chs using List.reverseRecOn generalizing c with
  | nil => cases hc
  | append_singleton chs x ih =>
    rw [inclusionRun_concat]
    rcases inclusionPass_cases hnodup (inclusionRun nums chs) x with ⟨-, -, hpass⟩ | ⟨hpass, hlt⟩
    · rw [hpass]
      exact List.append_ne_nil_of_right_ne_nil _ (List.cons_ne_nil _ _)
    · rw [hpass]
      rw [List.mem_append, List.mem_singleton] at hc
      rcases hc with hc | rfl
      · exact ih hc hcn
      · rcases cursor_eq hnodup chs with h₀ | ⟨d, hd, hdn, -⟩
        · exact absurd (hlt hcn) (by rw [h₀]; exact Nat.not_lt_zero _)
        · exact ih hd hdn

theorem processReq_no_common (w : P2pDevice) (peerIntent : ℕ)
    (h : (w.processReq peerIntent).2 = P2P_STATUS_FAIL_NO_COMMON_CH) : w.commonCh = false := by
  cases hcommon : w.commonCh with
  | false => rfl
  | true =>
    exfalso
    rw [P2pDevice.processReq] at h
    have hinfo : P2P_STATUS_FAIL_INFO_UNAVAILABLE ≠ P2P_STATUS_FAIL_NO_COMMON_CH := by decide
    have hboth : P2P_STATUS_FAIL_BOTH_GOINTENT_15 ≠ P2P_STATUS_FAIL_NO_COMMON_CH := by decide
    have hok : P2P_STATUS_SUCCESS ≠ P2P_STATUS_FAIL_NO_COMMON_CH := by decide
    split at h
    · exact hinfo h
    · dsimp only at h
      rw [hcommon] at h
      simp only [Bool.not_true, Bool.false_eq_true, if_false] at h
      split at h
      · exact hboth h
      · exact hok h

/-- The channels that the two functions return for an attribute are those that are both in it and in the channel set,
and a negotiation is refused for want of a common channel only if there is none. -/
def ReturnsCommon (set : ChannelSet) (attr : ChListAttr) (behind : ℕ → ℕ) : Prop :=
  ∃ fuel peer_ch_list peer_ch_num,
    rtwP2pGetPeerChList fuel (attr.content behind) attr.encode.length = some (peer_ch_list, peer_ch_num) ∧
    (∀ c, c ∈ rtwP2pChInclusion set.numbers peer_ch_list peer_ch_num ↔ c ∈ attr.channels ∧ c ∈ set.numbers) ∧
    ∀ (w : P2pDevice) (peerIntent : ℕ),
      ((withChannels w (rtwP2pChInclusion set.numbers peer_ch_list peer_ch_num)).processReq peerIntent).2 =
        P2P_STATUS_FAIL_NO_COMMON_CH → ∀ c ∈ attr.channels, c ∉ set.numbers

theorem rtwP2pChInclusion_all (nums chs : List ℕ) : rtwP2pChInclusion nums chs chs.length = (inclusionRun nums chs).2 := by
  rw [rtwP2pChInclusion, List.take_length]
  rfl

/-- The result is the intersection exactly if the attribute first lists the common channels in the order of the
channel set. -/
theorem returnsCommon_iff (set : ChannelSet) (hnodup : set.numbers.Nodup) (attr : ChListAttr) (behind : ℕ → ℕ) :
    ReturnsCommon set attr behind ↔ FirstListedInOrder set.numbers attr.channels := by
  have hread := rtwP2pGetPeerChList_eq attr behind
  constructor
  · rintro ⟨fuel, chs, num, hret, hall, -⟩
    obtain ⟨rfl, rfl⟩ := rtwP2pGetPeerChList_unique hret hread
    rw [rtwP2pChInclusion_all] at hall
    exact (inclusion_iff hnodup).mp hall
  · intro horder
    refine ⟨_, _, _, hread, ?_, ?_⟩
    · rw [rtwP2pChInclusion_all]
      exact (inclusion_iff hnodup).mpr horder
    · intro w peerIntent hstatus c hc hcn
      have hnone := processReq_no_common _ _ hstatus
      rw [withChannels, rtwP2pChInclusion_all, decide_eq_false_iff_not, not_not, List.length_eq_zero_iff] at hnone
      exact kept_ne_nil hnodup hc hcn hnone

def threeChannels : ChannelSet where
  entries := [⟨1, .ACTIVE⟩, ⟨6, .ACTIVE⟩, ⟨11, .ACTIVE⟩]
  fits := by decide
  nonzero := by decide

/-- The channels of one operating class, for the country XX. -/
def oneClass (chs : List ℕ) (h : chs.length ≤ 45) : ChListAttr where
  country := [0x58, 0x58, 0x04]
  classes := [(81, chs)]
  country_length := rfl
  size_le := by
    rw [List.map_singleton, List.sum_singleton]
    simp only [List.length_cons, List.length_nil]
    omega

theorem returnsCommon_oneClass :
    ReturnsCommon threeChannels (oneClass [1, 6] (by decide)) (fun _ => 0) ↔
      FirstListedInOrder threeChannels.numbers [1, 6] :=
  returnsCommon_iff threeChannels (by decide) (oneClass [1, 6] (by decide)) fun _ => 0

/-- A peer that lists 6 before 1 keeps only the former. -/
theorem not_returnsCommon_descending :
    ¬ ReturnsCommon threeChannels (oneClass [6, 1] (by decide)) (fun _ => 0) := by
  rintro ⟨fuel, chs, num, hret, hall, -⟩
  have hread : rtwP2pGetPeerChList 2 ((oneClass [6, 1] (by decide)).content fun _ => 0) 7 = some ([6, 1], 2) := by
    decide
  obtain ⟨rfl, rfl⟩ := rtwP2pGetPeerChList_unique hret hread
  exact absurd ((hall 1).mpr (by decide)) (by decide)

end PeerChannels

end Rtl8723au
