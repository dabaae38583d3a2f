import Mathlib.Data.Fintype.Card
import Mathlib.Data.List.Nodup
import Rtl8723au.Ap.StaMgt

/-! The access list of an access point: the entries of `aclnode`, those linked into `acl_node_q`, and their number. -/
namespace Rtl8723au
set_option autoImplicit false

def NUM_ACL : ℕ := 16

/-- `struct wlan_acl_pool`. `aclNodeQ` is what is linked, by its place in `aclnode`; an entry that is linked is never linked in
a second time (`IsSet.once`). -/
structure AclPool where
  mode : ℤ
  num : ℤ
  aclnode : Fin NUM_ACL → WlanAclNode
  aclNodeQ : List (Fin NUM_ACL)

namespace AclPool

def setNode (p : AclPool) (i : Fin NUM_ACL) (node : WlanAclNode) : AclPool :=
  { p with aclnode := Function.update p.aclnode i node }

def rtwSetMacaddrAcl (p : AclPool) (mode : ℤ) : AclPool := { p with mode }

/-- Whether a valid entry with the address is linked. -/
def search (p : AclPool) (addr : MacAddr) : Bool :=
  p.aclNodeQ.any fun i => (p.aclnode i).addr == addr && (p.aclnode i).valid

/-- `rtw_acl_add_sta`. -/
def rtwAclAddSta (p : AclPool) (addr : MacAddr) : ℤ × AclPool :=
  if (NUM_ACL : ℤ) - 1 < p.num then (-1, p)
  else if p.search addr then (0, p)
  else
    match (List.finRange NUM_ACL).find? fun i => !(p.aclnode i).valid with
    | none => (0, p)
    | some i => (0, { p.setNode i ⟨addr, true⟩ with num := p.num + 1, aclNodeQ := p.aclNodeQ ++ [i] })

/-- An entry that is valid is made invalid and taken out. -/
def dropNode (p : AclPool) (i : Fin NUM_ACL) : AclPool :=
  if (p.aclnode i).valid then
    { p.setNode i { p.aclnode i with valid := false } with num := p.num - 1, aclNodeQ := p.aclNodeQ.erase i }
  else p

/-- `rtw_acl_remove_sta`; the next entry is known before this one is taken out. -/
def rtwAclRemoveSta (p : AclPool) (addr : MacAddr) : AclPool :=
  p.aclNodeQ.foldl (fun p i => if (p.aclnode i).addr == addr then p.dropNode i else p) p

/-- `start_ap_mode`. -/
def startApMode (p : AclPool) : AclPool :=
  ⟨0, 0, fun i => { p.aclnode i with valid := false }, []⟩

/-- `stop_ap_mode`. -/
def stopApMode (p : AclPool) : AclPool := p.aclNodeQ.foldl dropNode p

/-- `rtw_access_ctrl`. -/
def rtwAccessCtrl (p : AclPool) (macAddr : MacAddr) : Bool :=
  if p.mode = 1 then !p.search macAddr
  else if p.mode = 2 then p.search macAddr
  else true

/-! ## What the pool is for -/

/-- The address is listed. -/
def Listed (p : AclPool) (addr : MacAddr) : Prop := ∃ i, (p.aclnode i).valid = true ∧ (p.aclnode i).addr = addr

/-- The entries that are linked are those that are valid, the number is theirs, and no address is listed twice. -/
structure IsSet (p : AclPool) : Prop where
  linked : ∀ i, i ∈ p.aclNodeQ ↔ (p.aclnode i).valid = true
  once : p.aclNodeQ.Nodup
  num : p.num = p.aclNodeQ.length
  distinct : ∀ i j, (p.aclnode i).valid = true → (p.aclnode j).valid = true → (p.aclnode i).addr = (p.aclnode j).addr → i = j

namespace IsSet
variable {p : AclPool} (h : p.IsSet)
include h

theorem num_eq_card : p.num = (Finset.univ.filter fun i => (p.aclnode i).valid = true).card := by
  have hset : p.aclNodeQ.toFinset = Finset.univ.filter fun i => (p.aclnode i).valid = true := by
    ext i
    simp [h.linked]
  rw [h.num, ← hset, List.toFinset_card_of_nodup h.once]

theorem num_bounds : 0 ≤ p.num ∧ p.num ≤ NUM_ACL := by
  have hlength : p.aclNodeQ.length ≤ NUM_ACL := by
    have hcard := h.once.length_le_card
    rwa [Fintype.card_fin] at hcard
  rw [h.num]
  omega

theorem search_iff (addr : MacAddr) : p.search addr = true ↔ p.Listed addr := by
  simp only [search, List.any_eq_true, Bool.and_eq_true, beq_iff_eq, Listed]
  constructor
  · rintro ⟨i, -, haddr, hvalid⟩
    exact ⟨i, hvalid, haddr⟩
  · rintro ⟨i, hvalid, haddr⟩
    exact ⟨i, (h.linked i).mpr hvalid, haddr, hvalid⟩

theorem accessCtrl_iff (addr : MacAddr) : p.rtwAccessCtrl addr = true ↔
    if p.mode = 1 then ¬p.Listed addr else if p.mode = 2 then p.Listed addr else True := by
  unfold rtwAccessCtrl
  rw [← h.search_iff]
  split
  · simp
  · split <;> simp

end IsSet

/-! ## Adding -/

section
variable {p : AclPool} (h : p.IsSet)
include h

theorem IsSet.link {i : Fin NUM_ACL} {addr : MacAddr} (hfree : (p.aclnode i).valid = false) (hnew : ¬p.Listed addr) :
    IsSet { p.setNode i ⟨addr, true⟩ with num := p.num + 1, aclNodeQ := p.aclNodeQ ++ [i] } := by
  have hloose : i ∉ p.aclNodeQ := fun hmem => by
    rw [h.linked, hfree] at hmem
    cases hmem
  refine ⟨fun j => ?_, ?_, ?_, fun j k hj hk haddr => ?_⟩
  · show j ∈ p.aclNodeQ ++ [i] ↔ (Function.update p.aclnode i ⟨addr, true⟩ j).valid = true
    rw [List.mem_append, List.mem_singleton]
    by_cases hji : j = i
    · rw [hji, Function.update_self]
      exact iff_of_true (.inr rfl) rfl
    · rw [Function.update_of_ne hji, h.linked]
      exact or_iff_left hji
  · exact h.once.append (List.nodup_singleton i) (List.disjoint_singleton.mpr hloose)
  · show p.num + 1 = ((p.aclNodeQ ++ [i]).length : ℤ)
    rw [h.num, List.length_append, List.length_singleton]
    push_cast
    rfl
  · simp only [setNode] at hj hk haddr
    by_cases hji : j = i <;> by_cases hki : k = i
    · exact hji.trans hki.symm
    · rw [hji, Function.update_self, Function.update_of_ne hki] at haddr
      rw [Function.update_of_ne hki] at hk
      exact absurd ⟨k, hk, haddr.symm⟩ hnew
    · rw [hki, Function.update_self, Function.update_of_ne hji] at haddr
      rw [Function.update_of_ne hji] at hj
      exact absurd ⟨j, hj, haddr⟩ hnew
    · rw [Function.update_of_ne hji, Function.update_of_ne hki] at haddr
      rw [Function.update_of_ne hji] at hj
      rw [Function.update_of_ne hki] at hk
      exact h.distinct j k hj hk haddr

theorem IsSet.exists_free (hroom : p.num < NUM_ACL) :
    ∃ i, ((List.finRange NUM_ACL).find? fun i => !(p.aclnode i).valid) = some i ∧ (p.aclnode i).valid = false := by
  cases hfind : (List.finRange NUM_ACL).find? fun i => !(p.aclnode i).valid with
  | some i =>
    refine ⟨i, rfl, ?_⟩
    have hvalid := List.find?_some hfind
    rwa [Bool.not_eq_true'] at hvalid
  | none =>
    have hall : ∀ i, (p.aclnode i).valid = true := by
      intro i
      have hnone := List.find?_eq_none.mp hfind i (List.mem_finRange i)
      simpa using hnone
    have hcard := h.num_eq_card
    simp only [hall, Finset.filter_true, Finset.card_univ, Fintype.card_fin] at hcard
    omega

/-- An address is added unless there is no room left; what is listed already stays. -/
theorem rtwAclAddSta_spec (addr : MacAddr) : (p.rtwAclAddSta addr).2.IsSet ∧
    ((p.rtwAclAddSta addr).1 = 0 → ∀ a, (p.rtwAclAddSta addr).2.Listed a ↔ p.Listed a ∨ a = addr) ∧
      ((p.rtwAclAddSta addr).1 ≠ 0 → (p.rtwAclAddSta addr).2 = p) := by
  unfold rtwAclAddSta
  by_cases hfull : (NUM_ACL : ℤ) - 1 < p.num
  · rw [if_pos hfull]
    exact ⟨h, fun hret => absurd hret (show (-1 : ℤ) ≠ 0 by decide), fun _ => rfl⟩
  rw [if_neg hfull]
  by_cases hlisted : p.search addr = true
  · rw [if_pos hlisted]
    refine ⟨h, fun _ a => ⟨.inl, fun ha => ha.elim id fun ha => ?_⟩, fun hret => absurd rfl hret⟩
    rw [ha]
    exact (h.search_iff addr).mp hlisted
  obtain ⟨i, hfind, hfree⟩ := h.exists_free (by omega)
  rw [if_neg hlisted, hfind]
  refine ⟨h.link hfree (mt (h.search_iff addr).mpr hlisted), fun _ a => ?_, fun hret => absurd rfl hret⟩
  simp only [Listed, setNode]
  constructor
  · rintro ⟨j, hvalid, ha⟩
    by_cases hji : j = i
    · rw [hji, Function.update_self] at ha
      exact .inr ha.symm
    · rw [Function.update_of_ne hji] at hvalid ha
      exact .inl ⟨j, hvalid, ha⟩
  · rintro (⟨j, hvalid, ha⟩ | rfl)
    · have hji : j ≠ i := by
        rintro rfl
        rw [hfree] at hvalid
        cases hvalid
      refine ⟨j, ?_⟩
      rw [Function.update_of_ne hji]
      exact ⟨hvalid, ha⟩
    · refine ⟨i, ?_⟩
      rw [Function.update_self]
      exact ⟨rfl, rfl⟩

end

/-! ## Taking out -/

section
variable {p : AclPool}

theorem IsSet.drop (h : p.IsSet) (i : Fin NUM_ACL) : (p.dropNode i).IsSet := by
  unfold dropNode
  by_cases hvalid : (p.aclnode i).valid = true
  · rw [if_pos hvalid]
    have hmem : i ∈ p.aclNodeQ := (h.linked i).mpr hvalid
    have hkept {j : Fin NUM_ACL} (hj : (Function.update p.aclnode i { p.aclnode i with valid := false } j).valid = true) :
        j ≠ i ∧ (p.aclnode j).valid = true := by
      by_cases hji : j = i
      · rw [hji, Function.update_self] at hj
        cases hj
      · rw [Function.update_of_ne hji] at hj
        exact ⟨hji, hj⟩
    refine ⟨fun j => ?_, h.once.erase i, ?_, fun j k hj hk haddr => ?_⟩
    · show j ∈ p.aclNodeQ.erase i ↔ (Function.update p.aclnode i { p.aclnode i with valid := false } j).valid = true
      rw [h.once.mem_erase_iff, h.linked]
      constructor
      · rintro ⟨hji, hj⟩
        rw [Function.update_of_ne hji]
        exact hj
      · exact hkept
    · show p.num - 1 = ((p.aclNodeQ.erase i).length : ℤ)
      have hpos := List.length_pos_of_mem hmem
      rw [h.num, List.length_erase_of_mem hmem]
      omega
    · obtain ⟨hji, hj⟩ := hkept hj
      obtain ⟨hki, hk⟩ := hkept hk
      simp only [setNode] at haddr
      rw [Function.update_of_ne hji, Function.update_of_ne hki] at haddr
      exact h.distinct j k hj hk haddr
  · rw [if_neg hvalid]
    exact h

theorem dropNode_node (i j : Fin NUM_ACL) : ((p.dropNode i).aclnode j).addr = (p.aclnode j).addr ∧
    (((p.dropNode i).aclnode j).valid = true ↔ (p.aclnode j).valid = true ∧ j ≠ i) := by
  unfold dropNode
  by_cases hvalid : (p.aclnode i).valid = true
  · rw [if_pos hvalid]
    simp only [setNode]
    by_cases hji : j = i
    · rw [hji, Function.update_self]
      exact ⟨rfl, iff_of_false (by simp) fun h => h.2 rfl⟩
    · rw [Function.update_of_ne hji]
      exact ⟨rfl, (and_iff_left hji).symm⟩
  · rw [if_neg hvalid]
    refine ⟨rfl, fun hj => ⟨hj, ?_⟩, And.left⟩
    rintro rfl
    exact hvalid hj

theorem dropNode_mode (i : Fin NUM_ACL) : (p.dropNode i).mode = p.mode := by
  unfold dropNode
  split <;> rfl

/-- The loop over linked entries that takes out those whose address meets a condition. By induction on the entries left. -/
theorem dropLoop_spec (c : MacAddr → Bool) (l : List (Fin NUM_ACL)) (h : p.IsSet) :
    let q := l.foldl (fun p i => if c (p.aclnode i).addr then p.dropNode i else p) p
    q.IsSet ∧ q.mode = p.mode ∧ ∀ j, (q.aclnode j).addr = (p.aclnode j).addr ∧
      ((q.aclnode j).valid = true ↔ (p.aclnode j).valid = true ∧ ¬(j ∈ l ∧ c (p.aclnode j).addr = true)) := by
  induction l generalizing p with
  | nil => exact ⟨h, rfl, fun j => ⟨rfl, by simp⟩⟩
  | cons i l ih =>
    rw [List.foldl_cons]
    by_cases hc : c (p.aclnode i).addr = true
    · rw [if_pos hc]
      obtain ⟨hset, hmode, hnodes⟩ := ih (h.drop i)
      refine ⟨hset, hmode.trans (dropNode_mode i), fun j => ?_⟩
      obtain ⟨haddr, hvalid⟩ := hnodes j
      obtain ⟨haddr', hvalid'⟩ := dropNode_node (p := p) i j
      rw [haddr'] at haddr hvalid
      refine ⟨haddr, hvalid.trans ?_⟩
      rw [hvalid', List.mem_cons]
      by_cases hji : j = i
      · rw [hji]
        simp [hc]
      · simp [hji]
    · rw [if_neg hc]
      obtain ⟨hset, hmode, hnodes⟩ := ih h
      refine ⟨hset, hmode, fun j => ⟨(hnodes j).1, (hnodes j).2.trans ?_⟩⟩
      rw [List.mem_cons]
      by_cases hji : j = i
      · rw [hji]
        simp [hc]
      · simp [hji]

theorem rtwAclRemoveSta_spec (h : p.IsSet) (addr : MacAddr) : (p.rtwAclRemoveSta addr).IsSet ∧
    ∀ a, (p.rtwAclRemoveSta addr).Listed a ↔ p.Listed a ∧ a ≠ addr := by
  obtain ⟨hset, -, hnodes⟩ := dropLoop_spec (fun a => a == addr) p.aclNodeQ h
  refine ⟨hset, fun a => ?_⟩
  have hlisted (j : Fin NUM_ACL) : ((p.rtwAclRemoveSta addr).aclnode j).valid = true ∧
      ((p.rtwAclRemoveSta addr).aclnode j).addr = a ↔ ((p.aclnode j).valid = true ∧ (p.aclnode j).addr = a) ∧ a ≠ addr := by
    obtain ⟨haddr, hvalid⟩ := hnodes j
    rw [rtwAclRemoveSta, haddr, hvalid, h.linked, beq_iff_eq]
    constructor
    · rintro ⟨⟨hj, hnot⟩, rfl⟩
      exact ⟨⟨hj, rfl⟩, fun heq => hnot ⟨hj, heq⟩⟩
    · rintro ⟨⟨hj, rfl⟩, hne⟩
      exact ⟨⟨hj, fun hand => hne hand.2⟩, rfl⟩
  simp only [Listed, hlisted, exists_and_right]

theorem stopApMode_spec (h : p.IsSet) : p.stopApMode.IsSet ∧ ∀ a, ¬p.stopApMode.Listed a := by
  obtain ⟨hset, -, hnodes⟩ := dropLoop_spec (fun _ => true) p.aclNodeQ h
  simp only [if_true] at hset hnodes
  refine ⟨hset, ?_⟩
  rintro a ⟨j, hvalid, -⟩
  obtain ⟨hj, hnot⟩ := (hnodes j).2.mp hvalid
  exact hnot ⟨(h.linked j).mpr hj, trivial⟩

end

theorem startApMode_spec (p : AclPool) : p.startApMode.IsSet ∧ ∀ a, ¬p.startApMode.Listed a :=
  ⟨⟨fun _ => iff_of_false List.not_mem_nil (by simp [startApMode]), List.nodup_nil, rfl,
    fun _ _ hi => absurd hi (by simp [startApMode])⟩, fun _ ⟨_, hi, _⟩ => absurd hi (by simp [startApMode])⟩

/-! ## Runs -/

inductive Op
  | startApMode
  | setMacaddrAcl (mode : ℤ)
  | addSta (addr : MacAddr)
  | removeSta (addr : MacAddr)
  | stopApMode

def step (p : AclPool) : Op → AclPool
  | .startApMode => p.startApMode
  | .setMacaddrAcl mode => p.rtwSetMacaddrAcl mode
  | .addSta addr => (p.rtwAclAddSta addr).2
  | .removeSta addr => p.rtwAclRemoveSta addr
  | .stopApMode => p.stopApMode

theorem IsSet.step {p : AclPool} (h : p.IsSet) (op : Op) : (p.step op).IsSet := by
  cases op with
  | startApMode => exact p.startApMode_spec.1
  | setMacaddrAcl mode => exact ⟨h.linked, h.once, h.num, h.distinct⟩
  | addSta addr => exact (rtwAclAddSta_spec h addr).1
  | removeSta addr => exact (rtwAclRemoveSta_spec h addr).1
  | stopApMode => exact (stopApMode_spec h).1

theorem IsSet.run {p : AclPool} (h : p.IsSet) (ops : List Op) : (ops.foldl AclPool.step p).IsSet := by
  induction ops generalizing p with
  | nil => exact h
  | cons op ops ih => exact ih (h.step op)

/-- **The access list is a set after every run** that begins with the start of the access point, whatever the pool held
before. -/
theorem acl_is_set (before : AclPool) (ops : List Op) :
    let p := ops.foldl step before.startApMode
    (∀ i, i ∈ p.aclNodeQ ↔ (p.aclnode i).valid = true) ∧ p.aclNodeQ.Nodup ∧
      p.num = (Finset.univ.filter fun i => (p.aclnode i).valid = true).card ∧ 0 ≤ p.num ∧ p.num ≤ NUM_ACL ∧
      (∀ i j, (p.aclnode i).valid = true → (p.aclnode j).valid = true → (p.aclnode i).addr = (p.aclnode j).addr → i = j) ∧
      (∀ addr, (p.rtwAclAddSta addr).1 = 0 → (p.rtwAclAddSta addr).2.Listed addr) ∧
      ∀ mac, p.rtwAccessCtrl mac = true ↔
        if p.mode = 1 then ¬p.Listed mac else if p.mode = 2 then p.Listed mac else True := by
  have h : (ops.foldl step before.startApMode).IsSet := (startApMode_spec before).1.run ops
  refine ⟨h.linked, h.once, h.num_eq_card, h.num_bounds.1, h.num_bounds.2, h.distinct, fun addr hret => ?_, h.accessCtrl_iff⟩
  exact ((rtwAclAddSta_spec h addr).2.1 hret addr).mpr (.inr rfl)

end AclPool

end Rtl8723au
