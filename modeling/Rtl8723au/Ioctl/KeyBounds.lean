import Rtl8723au.Ioctl.WpaSupplicantIoctl

/-! The keys of the private requests: which of the requests that set one are handled inside the copy of the request and
inside the arrays of keys. -/
namespace Rtl8723au
open Mem Security AccessM Regions
set_option autoImplicit false

namespace Ioctl

open IoctlRegion

/-! ## What a request says -/

def paramAddr (b : Mem) : MacAddr := Vector.ofFn fun j : Fin 6 => b (4 + (j : ℕ))

end Ioctl

/-- What a request that sets a key says, once the name of the algorithm ends. -/
def IeeeParamCrypt.ofMem (b : Mem) : IeeeParamCrypt where
  staAddr := Ioctl.paramAddr b
  alg := Vector.ofFn fun j : Fin 16 => if j.val = 15 then 0 else b (12 + (j : ℕ))
  setTx := b 28
  idx := b 36
  keyLen := UInt16.ofNat (leAt b 46 2)
  key := fun i => b (48 + i)

namespace Ioctl

open IoctlRegion

/-- The parts of a request for a key are where they were, and the name of the algorithm ends. -/
structure Cleared (b : Mem) (t : Regions IoctlRegion) : Prop where
  crypt : IeeeParamCrypt.ofMem (t .param) = IeeeParamCrypt.ofMem b
  alg : t .param 27 = 0

theorem leAt_two (m : Mem) (x : ℤ) : leAt m x 2 = (m x).toNat + 256 * (m (x + 1)).toNat := by
  simp [leAt, List.range_succ]

theorem leAt_one (m : Mem) (x : ℤ) : leAt m x 1 = (m x).toNat := by simp [leAt]

theorem leAt_two_lt (m : Mem) (x : ℤ) : leAt m x 2 < 2 ^ 16 := by
  rw [leAt_two]
  have hlo := (m x).toNat_lt
  have hhi := (m (x + 1)).toNat_lt
  omega

theorem ofMem_keyLen (b : Mem) : (IeeeParamCrypt.ofMem b).keyLen.toNat = leAt b 46 2 :=
  UInt16.toNat_ofNat_of_lt' (leAt_two_lt b 46)

theorem clearCrypt_param (s : Regions IoctlRegion) (x : ℤ) : (clearCrypt.run s).st .param x =
    if x = 27 ∨ 32 ≤ x ∧ x < 36 then 0 else s .param x := by
  have hfour : ∀ k : ℕ, ([0, 0, 0, 0] : List UInt8).getD k 0 = 0 := by
    rintro (_ | _ | _ | _ | k) <;> rfl
  have hone : ∀ k : ℕ, ([0] : List UInt8).getD k 0 = 0 := by
    rintro (_ | k) <;> rfl
  have hwrites : (clearCrypt.run s).st .param x = putBytes (putBytes (s .param) 32 [0, 0, 0, 0]) 27 [0] x := by
    simp [clearCrypt]
  rw [hwrites]
  unfold putBytes patch
  simp only [hfour, hone, List.length_cons, List.length_nil]
  split_ifs <;> first | rfl | omega

theorem clearCrypt_cleared (s : Regions IoctlRegion) : Cleared (s .param) (clearCrypt.run s).st := by
  have hsame : ∀ x : ℤ, x ≠ 27 → ¬(32 ≤ x ∧ x < 36) → (clearCrypt.run s).st .param x = s .param x := by
    intro x hx hx'
    rw [clearCrypt_param, if_neg (by tauto)]
  have haddr : paramAddr ((clearCrypt.run s).st .param) = paramAddr (s .param) := by
    unfold paramAddr
    ext j hj
    rw [Vector.getElem_ofFn, Vector.getElem_ofFn]
    exact congrArg UInt8.toNat (hsame _ (by omega) (by omega))
  have halg : (Vector.ofFn fun j : Fin 16 => if j.val = 15 then 0 else (clearCrypt.run s).st .param (12 + (j : ℕ))) =
      Vector.ofFn fun j : Fin 16 => if j.val = 15 then (0 : UInt8) else s .param (12 + (j : ℕ)) := by
    congr 1
    funext j
    split
    · rfl
    · exact hsame _ (by omega) (by omega)
  have hkey : (fun i : ℕ => (clearCrypt.run s).st .param (48 + (i : ℤ))) = fun i : ℕ => s .param (48 + (i : ℤ)) := by
    funext i
    exact hsame _ (by omega) (by omega)
  have hlen : leAt ((clearCrypt.run s).st .param) 46 2 = leAt (s .param) 46 2 := by
    rw [leAt_two, leAt_two, hsame 46 (by decide) (by decide), hsame (46 + 1) (by decide) (by decide)]
  refine ⟨?_, clearCrypt_param s 27⟩
  unfold IeeeParamCrypt.ofMem
  rw [haddr, halg, hkey, hlen, hsame 28 (by decide) (by decide), hsame 36 (by decide) (by decide)]

/-! ## `strcmp` -/

theorem strcmpIs_st (r : IoctlRegion) (x : ℤ) (l : List UInt8) (t : Regions IoctlRegion) :
    ((strcmpIs r x l).run t).st = t := by
  induction l generalizing x with
  | nil => rfl
  | cons a rest ih =>
    rw [strcmpIs, bind_st, ite_run]
    split
    · exact ih (x + 1)
    · rfl

/-- The answer of `strcmp` for a name, when the string ends at its `n`-th byte at the latest. -/
theorem strcmpIs_val (r : IoctlRegion) (l : List UInt8) (hl : ∀ a ∈ l, a ≠ 0) (t : Regions IoctlRegion) (n : ℕ) (x : ℤ)
    (hend : t r (x + n) = 0) (hn : l.length ≤ n) : ((strcmpIs r x l).run t).val =
      (((List.range n).map fun k : ℕ => t r (x + k)).takeWhile (· ≠ 0) == l) := by
  have hcons : ∀ (x : ℤ) (n : ℕ), ((List.range (n + 1)).map fun k : ℕ => t r (x + k)) =
      t r x :: (List.range n).map fun k : ℕ => t r (x + 1 + k) := by
    intro x n
    rw [List.range_succ_eq_map, List.map_cons, List.map_map, Nat.cast_zero, add_zero]
    congr 1
    refine List.map_congr_left fun k _ => ?_
    rw [Function.comp_apply, Nat.cast_succ, add_assoc, add_comm 1]
  induction l generalizing x n with
  | nil =>
    show (t r x == 0) = _
    cases n with
    | zero =>
      rw [Nat.cast_zero, add_zero] at hend
      rw [hend]
      rfl
    | succ n =>
      rw [hcons]
      by_cases hzero : t r x = 0
      · simp [hzero]
      · simp [hzero]
  | cons a rest ih =>
    cases n with
    | zero => cases hn
    | succ n =>
      have ha : a ≠ 0 := hl a List.mem_cons_self
      have hget : (region r).get t x = t r x := rfl
      rw [strcmpIs, bind_val, ite_run, hcons, peek_val, peek_st, hget]
      by_cases hhead : t r x = a
      · have hrest := ih (fun b hb => hl b (List.mem_cons_of_mem a hb)) n (x + 1)
          (by rw [add_assoc, add_comm 1, ← Nat.cast_succ]; exact hend) (Nat.le_of_succ_le_succ hn)
        rw [if_pos hhead, hrest, hhead]
        simp [ha]
      · rw [if_neg hhead]
        by_cases hzero : t r x = 0
        · simp [hzero]
        · simp [hzero, hhead]

theorem inside_strcmpIs {size : IoctlRegion → ℕ} (r : IoctlRegion) (x : ℤ) (l : List UInt8) (t : Regions IoctlRegion)
    (hx : 0 ≤ x) (hl : x + l.length < size r) : Inside (Fits size) (strcmpIs r x l) t := by
  have hone : ∀ x : ℤ, 0 ≤ x → x < size r → Within size r x 1 := fun x h0 h1 => .inr ⟨h0, by push_cast; omega⟩
  induction l generalizing x with
  | nil =>
    rw [strcmpIs, inside_bind, inside_peek_region]
    exact ⟨hone x hx (by simpa using hl), inside_pure _ _ _⟩
  | cons a rest ih =>
    rw [List.length_cons] at hl
    push_cast at hl
    rw [strcmpIs, inside_bind, inside_peek_region, inside_ite]
    refine ⟨hone x hx (by omega), ?_⟩
    split
    · exact ih (x + 1) (by omega) (by omega)
    · exact inside_pure _ _ _

section
variable {b : Mem} {t : Regions IoctlRegion} {length : ℕ}

@[simp] theorem algIs_st (name : String) : ((algIs name).run t).st = t := strcmpIs_st _ _ _ t

theorem Cleared.algIs_val (h : Cleared b t) {name : String} (hzero : (name.toList.all fun c => UInt8.ofNat c.toNat != 0) = true)
    (hlen : name.toList.length ≤ 15) : ((algIs name).run t).val = (IeeeParamCrypt.ofMem b).algIs name := by
  have hnames : ∀ a ∈ name.toList.map fun c => UInt8.ofNat c.toNat, a ≠ 0 := by
    intro a ha
    obtain ⟨c, hc, rfl⟩ := List.mem_map.mp ha
    exact bne_iff_ne.mp (List.all_eq_true.mp hzero c hc)
  have hbytes : ((IeeeParamCrypt.ofMem b).alg.toList.take 15) = (List.range 15).map fun k : ℕ => t .param (12 + k) := by
    rw [← h.crypt]
    refine List.ext_getElem (by simp) fun k hk hk' => ?_
    have hlt : k ≠ 15 := by
      rw [List.length_map, List.length_range] at hk'
      omega
    simp [IeeeParamCrypt.ofMem, hlt]
  rw [algIs, strcmpIs_val _ _ hnames t 15 12 h.alg (by simpa using hlen), IeeeParamCrypt.algIs, hbytes]

theorem inside_algIs (name : String) (hlen : name.toList.length ≤ 15) (h : 28 ≤ length) :
    Inside (Fits (size length)) (algIs name) t := by
  refine inside_strcmpIs .param 12 _ t (by decide) ?_
  rw [List.length_map]
  show (12 : ℤ) + name.toList.length < (length : ℤ)
  omega

/-! ## The parts of a request for a key -/

@[simp] theorem loadCmd_st : (loadCmd.run t).st = t := rfl
@[simp] theorem loadStaAddr_st : (loadStaAddr.run t).st = t := rfl
@[simp] theorem loadSetTx_st : (loadSetTx.run t).st = t := rfl
@[simp] theorem loadIdx_st : (loadIdx.run t).st = t := rfl
@[simp] theorem loadKeyLen_st : (loadKeyLen.run t).st = t := rfl

@[simp] theorem loadStaAddr_val : (loadStaAddr.run t).val = paramAddr (t .param) := loadVec_val _ _ _ t

namespace Cleared

variable (h : Cleared b t)
include h

theorem addr_val : paramAddr (t .param) = (IeeeParamCrypt.ofMem b).staAddr := congrArg IeeeParamCrypt.staAddr h.crypt

theorem setTx_val : (loadSetTx.run t).val = (IeeeParamCrypt.ofMem b).setTx.toNat :=
  (leAt_one _ _).trans (congrArg (fun c => c.setTx.toNat) h.crypt)

theorem idx_val : (loadIdx.run t).val = (IeeeParamCrypt.ofMem b).idx.toNat :=
  (leAt_one _ _).trans (congrArg (fun c => c.idx.toNat) h.crypt)

theorem keyLen_val : (loadKeyLen.run t).val = (IeeeParamCrypt.ofMem b).keyLen.toNat :=
  (ofMem_keyLen (t .param)).symm.trans (congrArg (fun c => c.keyLen.toNat) h.crypt)

theorem none_val : ((algIs "none").run t).val = (IeeeParamCrypt.ofMem b).algIs "none" :=
  h.algIs_val (by decide) (by decide)

theorem wep_val : ((algIs "WEP").run t).val = (IeeeParamCrypt.ofMem b).algIs "WEP" := h.algIs_val (by decide) (by decide)

theorem tkip_val : ((algIs "TKIP").run t).val = (IeeeParamCrypt.ofMem b).algIs "TKIP" :=
  h.algIs_val (by decide) (by decide)

theorem ccmp_val : ((algIs "CCMP").run t).val = (IeeeParamCrypt.ofMem b).algIs "CCMP" :=
  h.algIs_val (by decide) (by decide)

end Cleared

theorem within_param {x : ℤ} {k : ℕ} (hx : 0 ≤ x) : Within (size length) .param x k ↔ k = 0 ∨ x + k ≤ length := by
  unfold Within
  show k = 0 ∨ 0 ≤ x ∧ x + k ≤ (length : ℕ) ↔ _
  omega

@[simp] theorem inside_loadCmd : Inside (Fits (size length)) loadCmd t ↔ 4 ≤ length := by
  rw [loadCmd, inside_loadLe]
  exact (within_param (by decide)).trans (by omega)

@[simp] theorem inside_loadStaAddr : Inside (Fits (size length)) loadStaAddr t ↔ 10 ≤ length := by
  rw [loadStaAddr, inside_loadVec]
  exact (within_param (by decide)).trans (by omega)

@[simp] theorem inside_loadSetTx : Inside (Fits (size length)) loadSetTx t ↔ 29 ≤ length := by
  rw [loadSetTx, inside_loadLe]
  exact (within_param (by decide)).trans (by omega)

@[simp] theorem inside_loadIdx : Inside (Fits (size length)) loadIdx t ↔ 37 ≤ length := by
  rw [loadIdx, inside_loadLe]
  exact (within_param (by decide)).trans (by omega)

@[simp] theorem inside_loadKeyLen : Inside (Fits (size length)) loadKeyLen t ↔ 48 ≤ length := by
  rw [loadKeyLen, inside_loadLe]
  exact (within_param (by decide)).trans (by omega)

theorem inside_clearCrypt : Inside (Fits (size length)) clearCrypt t ↔ 36 ≤ length := by
  have herr : Within (size length) .param 32 4 ↔ 36 ≤ length := (within_param (by decide)).trans (by omega)
  have halg : Within (size length) .param 27 1 ↔ 28 ≤ length := (within_param (by decide)).trans (by omega)
  rw [clearCrypt, inside_bind, inside_store, inside_store]
  exact (and_congr herr halg).trans (by omega)

/-! ## The commands -/

theorem groupKeylen_le (alg : ℕ) : groupKeylen alg ≤ 16 := by
  unfold groupKeylen
  split_ifs <;> decide

theorem inside_setGroupKey (env : IoctlEnv) (src : IoctlRegion) (x : ℤ) (alg : ℕ) :
    Inside (Fits (size length)) (setGroupKey env src x alg) t ↔
      (env.cmd = true → Within (size length) src x (groupKeylen alg)) := by
  have hparm : Within (size length) .setkeyParm 0 (groupKeylen alg) := by
    have hle := groupKeylen_le alg
    refine .inr ⟨le_refl 0, ?_⟩
    show (0 : ℤ) + groupKeylen alg ≤ (16 : ℕ)
    omega
  unfold setGroupKey
  rw [inside_ite]
  split
  · rename_i hcmd
    rw [inside_memcpy]
    exact ⟨fun h _ => h.1, fun h => ⟨h hcmd, hparm⟩⟩
  · rename_i hcmd
    exact ⟨fun _ h => absurd h hcmd, fun _ => inside_pure _ _ _⟩

theorem inside_setGroupKey_param (env : IoctlEnv) (alg : ℕ) (h : 64 ≤ length) :
    Inside (Fits (size length)) (setGroupKey env .param keyOffset alg) t := by
  have hle := groupKeylen_le alg
  refine (inside_setGroupKey env _ _ alg).mpr fun _ => (within_param (by decide)).mpr (.inr ?_)
  show (48 : ℤ) + groupKeylen alg ≤ length
  omega

theorem inside_setPairwiseKey (env : IoctlEnv) (psta : StaId) :
    Inside (Fits (size length)) (setPairwiseKey env psta) t := by
  unfold setPairwiseKey
  rw [inside_ite]
  split
  · rw [inside_memcpy]
    exact ⟨.inr ⟨le_refl 0, le_refl _⟩, .inr ⟨le_refl 0, le_refl _⟩⟩
  · exact inside_pure _ _ _

/-! ## The keys that are copied -/

theorem within_key {k : ℕ} (x : ℕ) : Within (size length) .param (keyOffset + x) k ↔ k = 0 ∨ 48 + x + k ≤ length := by
  have hx : (0 : ℤ) ≤ keyOffset + x := by
    show (0 : ℤ) ≤ 48 + x
    omega
  refine (within_param hx).trans ?_
  show k = 0 ∨ (48 : ℤ) + x + k ≤ length ↔ _
  omega

theorem within_front {r : IoctlRegion} {k : ℕ} : Within (size length) r 0 k ↔ k ≤ size length r := by
  unfold Within
  omega

theorem defKey_size {idx : ℕ} (h : idx < WEP_KEYS) : size length (.dot11DefKey idx) = 16 := if_pos h

theorem le_keySize {idx k : ℕ} (hk : k ≤ 16) : k ≤ (if idx < WEP_KEYS then 16 else 0) ↔ k ≠ 0 → idx < WEP_KEYS := by
  split_ifs with h
  · exact ⟨fun _ _ => h, fun _ => hk⟩
  · constructor
    · intro hle hne
      omega
    · intro hall
      by_contra hne
      exact h (hall (by omega))

theorem inside_keepDefKey (env : IoctlEnv) {idx n : ℕ} (hidx : idx < WEP_KEYS) (hn : n = 5 ∨ n = 13) (hlen : 64 ≤ length) :
    Inside (Fits (size length)) (keepDefKey env idx n) t := by
  have halg : groupKeylen (setWepKeyAlg n) = n := by
    rcases hn with rfl | rfl <;> rfl
  have hle : n ≤ 13 := by
    rcases hn with rfl | rfl <;> decide
  have hparam : Within (size length) .param keyOffset n := (within_key 0).mpr (.inr (by omega))
  have hpwep : Within (size length) (.pwep n) 0 n := within_front.mpr (le_refl n)
  have hkey : Within (size length) (.dot11DefKey idx) 0 n := within_front.mpr (by rw [defKey_size hidx]; omega)
  unfold keepDefKey
  simp only [inside_bind, inside_memcpy, inside_loadSetTx, inside_setGroupKey, inside_pure, and_true, halg]
  exact ⟨⟨hparam, hpwep⟩, by omega, ⟨hpwep, hkey⟩, fun _ => hpwep⟩

theorem Cleared.inside_setDefKey {env : IoctlEnv} (h : Cleared b t) (hidx : (IeeeParamCrypt.ofMem b).idx.toNat < WEP_KEYS)
    (hlen : 64 ≤ length) : Inside (Fits (size length)) (setDefKey env) t := by
  unfold setDefKey
  simp only [inside_bind, inside_loadIdx, inside_loadKeyLen, loadIdx_st, loadKeyLen_st, h.idx_val, h.keyLen_val,
    inside_ite, inside_pure]
  refine ⟨by omega, by omega, ?_⟩
  split_ifs
  · exact inside_keepDefKey env hidx (.inl rfl) hlen
  · exact inside_keepDefKey env hidx (.inr rfl) hlen

/-- What a group key needs: for any but none, an index of the array when there are bytes to copy, and for TKIP the two
further keys. -/
def GrpKeyFits (c : IeeeParamCrypt) : Prop :=
  (c.algIs "WEP" = true ∨ c.algIs "CCMP" = true → c.keyLen.toNat ≠ 0 → c.idx.toNat < WEP_KEYS) ∧
    (c.algIs "TKIP" = true → c.idx.toNat < WEP_KEYS ∧ 16 ≤ c.keyLen.toNat)

theorem algIs_ne {c : IeeeParamCrypt} {n m : String} (h : c.algIs n = true)
    (hne : (n.toList.map fun c => UInt8.ofNat c.toNat) ≠ m.toList.map fun c => UInt8.ofNat c.toNat) :
    c.algIs m = false := by
  unfold IeeeParamCrypt.algIs at h ⊢
  rw [beq_iff_eq] at h
  rw [h]
  exact beq_false_of_ne hne

theorem within_grpKey {idx n : ℕ} : Within (size length) (.dot118021XGrpKey idx) 0 (min n 16) ↔ n ≠ 0 → idx < WEP_KEYS := by
  refine within_front.trans ((le_keySize (Nat.min_le_right n 16)).trans ?_)
  rw [show min n 16 ≠ 0 ↔ n ≠ 0 by omega]

theorem within_mic {r : IoctlRegion} {idx : ℕ} (hr : size length r = if idx < WEP_KEYS then 16 else 0) :
    Within (size length) r 0 8 ↔ idx < WEP_KEYS := by
  refine within_front.trans ?_
  rw [hr, le_keySize (by decide)]
  exact ⟨fun h => h (by decide), fun h _ => h⟩

theorem Cleared.inside_setGrpKey {env : IoctlEnv} (h : Cleared b t)
    (hlen : length = 64 + (IeeeParamCrypt.ofMem b).keyLen.toNat) :
    Inside (Fits (size length)) (setGrpKey env) t ↔ GrpKeyFits (IeeeParamCrypt.ofMem b) := by
  generalize hc : IeeeParamCrypt.ofMem b = c at *
  have hlong : 28 ≤ length := by omega
  have hwep : Inside (Fits (size length)) (algIs "WEP") t := inside_algIs "WEP" (by decide) hlong
  have htkip : Inside (Fits (size length)) (algIs "TKIP") t := inside_algIs "TKIP" (by decide) hlong
  have hccmp : Inside (Fits (size length)) (algIs "CCMP") t := inside_algIs "CCMP" (by decide) hlong
  have hset : ∀ alg u, Inside (Fits (size length)) (setGroupKey env .param keyOffset alg) u := fun alg u =>
    inside_setGroupKey_param env alg (by omega)
  have hcopy : Within (size length) .param keyOffset (min c.keyLen.toNat 16) := (within_key 0).mpr (by omega)
  have htx : Within (size length) (.dot118021XGrptxmickey c.idx.toNat) 0 8 ↔ c.idx.toNat < WEP_KEYS := within_mic rfl
  have hrx : Within (size length) (.dot118021XGrprxmickey c.idx.toNat) 0 8 ↔ c.idx.toNat < WEP_KEYS := within_mic rfl
  have hmic16 : Within (size length) .param (keyOffset + 16) 8 ↔ 72 ≤ length := (within_key 16).trans (by omega)
  have hmic24 : Within (size length) .param (keyOffset + 24) 8 ↔ 80 ≤ length := (within_key 24).trans (by omega)
  unfold setGrpKey GrpKeyFits
  simp only [inside_bind, inside_loadIdx, inside_loadKeyLen, loadIdx_st, loadKeyLen_st, h.idx_val, h.keyLen_val,
    inside_ite, inside_pure, algIs_st, h.wep_val, h.tkip_val, h.ccmp_val, hwep, htkip, hccmp, inside_memcpy, hset, hcopy,
    within_grpKey, htx, hrx, hmic16, hmic24, hc, and_true, true_and]
  cases hw : c.algIs "WEP" with
  | true =>
    have ht : c.algIs "TKIP" = false := algIs_ne hw (by decide)
    simp [ht]
    omega
  | false =>
    cases ht : c.algIs "TKIP" with
    | true =>
      have hcc : c.algIs "CCMP" = false := algIs_ne ht (by decide)
      simp [hcc]
      omega
    | false =>
      cases hcc : c.algIs "CCMP" with
      | true =>
        simp
        omega
      | false =>
        simp
        omega

theorem Cleared.update (h : Cleared b t) {r : IoctlRegion} (hr : r ≠ .param) (m : Mem) :
    Cleared b (Function.update t r m) := by
  have hparam : Function.update t r m .param = t .param := Function.update_of_ne hr.symm m t
  exact ⟨by rw [hparam, h.crypt], by rw [hparam, h.alg]⟩

theorem within_uncstKey {psta : StaId} {n : ℕ} : Within (size length) (.dot118021xUncstKey psta) 0 (min n 16) :=
  within_front.mpr (Nat.min_le_right n 16)

theorem Cleared.inside_setPairwise {env : IoctlEnv} {psta : StaId} (h : Cleared b t)
    (hlen : length = 64 + (IeeeParamCrypt.ofMem b).keyLen.toNat) : Inside (Fits (size length)) (setPairwise env psta) t ↔
      ((IeeeParamCrypt.ofMem b).algIs "TKIP" = true → 16 ≤ (IeeeParamCrypt.ofMem b).keyLen.toNat) := by
  have hnext : ∀ m : Mem, Cleared b (Function.update t (.dot118021xUncstKey psta) m) := fun m =>
    h.update (fun hne => IoctlRegion.noConfusion hne) m
  generalize hc : IeeeParamCrypt.ofMem b = c at *
  have halg : ∀ name u, name.toList.length ≤ 15 → Inside (Fits (size length)) (algIs name) u := fun name u hname =>
    inside_algIs name hname (by omega)
  have hcopy : Within (size length) .param keyOffset (min c.keyLen.toNat 16) := (within_key 0).mpr (by omega)
  have hmic16 : Within (size length) .param (keyOffset + 16) 8 ↔ 72 ≤ length := (within_key 16).trans (by omega)
  have hmic24 : Within (size length) .param (keyOffset + 24) 8 ↔ 80 ≤ length := (within_key 24).trans (by omega)
  have htx : Within (size length) (.dot11tkiptxmickey psta) 0 8 := within_front.mpr (show 8 ≤ 16 by decide)
  have hrx : Within (size length) (.dot11tkiprxmickey psta) 0 8 := within_front.mpr (show 8 ≤ 16 by decide)
  have hset : ∀ u, Inside (Fits (size length)) (setPairwiseKey env psta) u := fun u => inside_setPairwiseKey env psta
  unfold setPairwise
  simp only [inside_bind, inside_loadKeyLen, loadKeyLen_st, h.keyLen_val, inside_memcpy, memcpy_st, inside_ite, algIs_st,
    (hnext _).wep_val, (hnext _).tkip_val, inside_pure, halg "WEP" _ (by decide), halg "TKIP" _ (by decide),
    halg "CCMP" _ (by decide), hcopy, within_uncstKey, hmic16, hmic24, htx, hrx, hset, hc, and_true, true_and]
  cases hw : c.algIs "WEP" with
  | true =>
    have ht : c.algIs "TKIP" = false := algIs_ne hw (by decide)
    simp [ht]
    omega
  | false =>
    cases ht : c.algIs "TKIP" <;> simp <;> omega

theorem Cleared.inside_setKeyForAll {env : IoctlEnv} (h : Cleared b t)
    (hlen : length = 64 + (IeeeParamCrypt.ofMem b).keyLen.toNat)
    (hidx : (IeeeParamCrypt.ofMem b).idx.toNat < WEP_KEYS) : Inside (Fits (size length)) (setKeyForAll env) t ↔
      ((IeeeParamCrypt.ofMem b).algIs "TKIP" = true → checkAp env = true → (IeeeParamCrypt.ofMem b).setTx.toNat = 1 →
        16 ≤ (IeeeParamCrypt.ofMem b).keyLen.toNat) := by
  have hlong : 64 ≤ length := by omega
  have hgrp : Inside (Fits (size length)) (setGrpKey env) t ↔
      ((IeeeParamCrypt.ofMem b).algIs "TKIP" = true → 16 ≤ (IeeeParamCrypt.ofMem b).keyLen.toNat) :=
    (h.inside_setGrpKey hlen).trans
      ⟨fun hfits htkip => (hfits.2 htkip).2, fun hmic => ⟨fun _ _ => hidx, fun htkip => ⟨hidx, hmic htkip⟩⟩⟩
  have hdef : Inside (Fits (size length)) (setDefKey env) t := h.inside_setDefKey hidx hlong
  have hnone : Inside (Fits (size length)) (algIs "none") t := inside_algIs "none" (by decide) (by omega)
  have hwep : Inside (Fits (size length)) (algIs "WEP") t := inside_algIs "WEP" (by decide) (by omega)
  have htx : 29 ≤ length := by omega
  unfold setKeyForAll
  simp only [inside_bind, inside_ite, inside_pure, algIs_st, h.none_val, h.wep_val, hnone, hwep, hdef, hgrp,
    inside_loadSetTx, loadSetTx_st, h.setTx_val, htx, true_and]
  cases hn : (IeeeParamCrypt.ofMem b).algIs "none" with
  | true =>
    have ht : (IeeeParamCrypt.ofMem b).algIs "TKIP" = false := algIs_ne hn (by decide)
    simp [ht]
  | false =>
    cases hw : (IeeeParamCrypt.ofMem b).algIs "WEP" with
    | true =>
      have ht : (IeeeParamCrypt.ofMem b).algIs "TKIP" = false := algIs_ne hw (by decide)
      simp [ht]
    | false =>
      cases checkAp env with
      | false => simp
      | true =>
        by_cases hset : (IeeeParamCrypt.ofMem b).setTx.toNat = 1
        · simp [hset]
        · simp [hset]

theorem Cleared.inside_setKeyFor {env : IoctlEnv} {psta : StaId} (h : Cleared b t)
    (hlen : length = 64 + (IeeeParamCrypt.ofMem b).keyLen.toNat) : Inside (Fits (size length)) (setKeyFor env psta) t ↔
      (env.padapter.securitypriv.dot11AuthAlgrthm = dot11AuthAlgrthm_8021X → checkAp env = true →
        if (IeeeParamCrypt.ofMem b).setTx.toNat = 1 then
          (IeeeParamCrypt.ofMem b).algIs "TKIP" = true → 16 ≤ (IeeeParamCrypt.ofMem b).keyLen.toNat
        else GrpKeyFits (IeeeParamCrypt.ofMem b)) := by
  have hnone : Inside (Fits (size length)) (algIs "none") t := inside_algIs "none" (by decide) (by omega)
  have hwep : Inside (Fits (size length)) (algIs "WEP") t := inside_algIs "WEP" (by decide) (by omega)
  have htx : 29 ≤ length := by omega
  unfold setKeyFor
  simp only [inside_bind, inside_ite, inside_pure, algIs_st, hnone, hwep, inside_loadSetTx, loadSetTx_st, h.setTx_val, htx,
    h.inside_setGrpKey hlen, h.inside_setPairwise hlen, true_and]
  by_cases hauth : env.padapter.securitypriv.dot11AuthAlgrthm = dot11AuthAlgrthm_8021X ∧ checkAp env = true
  · simp [hauth]
  · rw [if_neg hauth]
    exact ⟨fun _ ha hap => absurd ⟨ha, hap⟩ hauth, fun _ => trivial⟩

end

/-! ## The requests for a key -/

/-- What `rtw_set_encryption` needs of a request of `length` bytes: the header that it reads before the length is
checked, for a key of TKIP the two further keys, and of a group key that is for one station its index. -/
def CryptFits (env : IoctlEnv) (c : IeeeParamCrypt) (length : ℕ) : Prop :=
  48 ≤ length ∧ (length = SIZEOF_IEEE_PARAM + c.keyLen.toNat →
    match c.station env.padapter with
    | .error _ => True
    | .ok none => c.algIs "TKIP" = true → checkAp env = true → c.setTx.toNat = 1 → 16 ≤ c.keyLen.toNat
    | .ok (some _) => env.padapter.securitypriv.dot11AuthAlgrthm = dot11AuthAlgrthm_8021X → checkAp env = true →
        if c.setTx.toNat = 1 then c.algIs "TKIP" = true → 16 ≤ c.keyLen.toNat else GrpKeyFits c)

theorem inside_rtwSetEncryption (env : IoctlEnv) (length : ℕ) (s : Regions IoctlRegion) :
    Inside (Fits (size length)) (rtwSetEncryption env length) s ↔
      CryptFits env (IeeeParamCrypt.ofMem (s .param)) length := by
  have h := clearCrypt_cleared s
  unfold rtwSetEncryption CryptFits
  simp only [inside_bind, inside_clearCrypt, inside_loadKeyLen, loadKeyLen_st, inside_ite, inside_pure, inside_loadStaAddr,
    loadStaAddr_st, loadStaAddr_val, inside_loadIdx, loadIdx_st, h.keyLen_val, h.addr_val, h.idx_val]
  generalize (clearCrypt.run s).st = t at h ⊢
  have hall := @Cleared.inside_setKeyForAll _ t length env h
  have hone := fun psta => @Cleared.inside_setKeyFor _ t length env psta h
  generalize IeeeParamCrypt.ofMem (s .param) = c at hall hone ⊢
  by_cases hlen : length = SIZEOF_IEEE_PARAM + c.keyLen.toNat
  · have hlong : 64 + c.keyLen.toNat = length := hlen.symm
    have hhead : (36 ≤ length ∧ 48 ≤ length) ∧ 10 ≤ length ∧ 37 ≤ length := by omega
    unfold IeeeParamCrypt.station
    rw [if_neg (not_not.mpr hlen)]
    by_cases haddr : c.staAddr = bcAddr
    · rw [if_pos haddr, if_pos haddr]
      by_cases hidx : WEP_KEYS ≤ c.idx.toNat
      · rw [if_pos hidx, if_pos hidx]
        simp only [implies_true, and_true]
        omega
      · rw [if_neg hidx, if_neg hidx, hall hlen (Nat.lt_of_not_le hidx)]
        simp only [hlen, true_imp_iff]
        rw [← hlen]
        tauto
    · rw [if_neg haddr, if_neg haddr]
      cases rtwGetStainfo env.padapter.stapriv (some c.staAddr) with
      | none =>
        simp only [inside_pure, implies_true, and_true]
        omega
      | some psta =>
        dsimp only
        rw [hone psta hlen]
        tauto
  · rw [if_pos hlen]
    simp only [hlen, false_imp_iff, and_true]
    omega

/-! ## The requests of a station -/

section
variable {b : Mem} {t : Regions IoctlRegion} {length : ℕ}

theorem inside_rtwSetKey (env : IoctlEnv) {alg idx : ℕ} (hidx : idx < WEP_KEYS) :
    Inside (Fits (size length)) (rtwSetKey env alg idx) t := by
  have hparm : ∀ n ≤ 16, Within (size length) .setkeyParm 0 n := fun n hn => within_front.mpr hn
  have hkey : ∀ n ≤ 16, Within (size length) (.dot11DefKey idx) 0 n := fun n hn => within_front.mpr (by
    rw [defKey_size hidx]
    exact hn)
  have hgrp : Within (size length) (.dot118021XGrpKey idx) 0 16 := within_front.mpr ((le_keySize (le_refl 16)).mpr fun _ => hidx)
  unfold rtwSetKey
  simp only [inside_ite, inside_bind, inside_memcpy, inside_pure, and_true, hgrp, hparm 5 (by decide), hparm 13 (by decide),
    hparm 16 (by decide), hkey 5 (by decide), hkey 13 (by decide), ite_self]

theorem inside_wpaKeepWep (env : IoctlEnv) {idx n : ℕ} (hidx : idx < WEP_KEYS) (hn : n ≤ 13) (hlen : 64 ≤ length) :
    Inside (Fits (size length)) (wpaKeepWep env idx n) t := by
  have hparam : Within (size length) .param keyOffset n := (within_key 0).mpr (.inr (by omega))
  have hpwep : Within (size length) (.pwep n) 0 n := within_front.mpr (le_refl n)
  have hkey : Within (size length) (.dot11DefKey idx) 0 n := within_front.mpr (by rw [defKey_size hidx]; omega)
  unfold wpaKeepWep
  simp only [inside_bind, inside_memcpy, inside_loadSetTx, inside_pure, and_true, inside_rtwSetKey env hidx,
    if_neg (Nat.not_le_of_lt hidx)]
  exact ⟨⟨hparam, hpwep⟩, by omega, hpwep, hkey⟩

theorem Cleared.inside_wpaSetWep {env : IoctlEnv} (h : Cleared b t) (hidx : (IeeeParamCrypt.ofMem b).idx.toNat < WEP_KEYS)
    (hlen : 64 ≤ length) : Inside (Fits (size length)) (wpaSetWep env) t := by
  unfold wpaSetWep
  simp only [inside_bind, inside_loadIdx, inside_loadKeyLen, loadIdx_st, loadKeyLen_st, h.idx_val, h.keyLen_val,
    inside_ite, inside_pure]
  refine ⟨by omega, by omega, ?_⟩
  split_ifs
  · exact inside_wpaKeepWep env hidx (by decide) hlen
  · exact inside_wpaKeepWep env hidx (by decide) hlen

/-- A key of a linked station: two further keys are read behind the first one but for a pairwise key not of TKIP. -/
theorem Cleared.inside_wpaSetStaKey {env : IoctlEnv} {psta : StaId} (h : Cleared b t)
    (hidx : (IeeeParamCrypt.ofMem b).idx.toNat < WEP_KEYS) (hlen : 48 + (IeeeParamCrypt.ofMem b).keyLen.toNat ≤ length)
    (hlong : 64 ≤ length) : Inside (Fits (size length)) (wpaSetStaKey env psta) t ↔
      (((IeeeParamCrypt.ofMem b).setTx.toNat = 1 → (IeeeParamCrypt.ofMem b).algIs "TKIP" = true) → 80 ≤ length) := by
  have hnext : ∀ m : Mem, Cleared b (Function.update t (.dot118021xUncstKey psta) m) := fun m =>
    h.update (fun hne => IoctlRegion.noConfusion hne) m
  generalize hc : IeeeParamCrypt.ofMem b = c at *
  have halg : ∀ name u, name.toList.length ≤ 15 → Inside (Fits (size length)) (algIs name) u := fun name u hname =>
    inside_algIs name hname (by omega)
  have hhead : 37 ≤ length ∧ 48 ≤ length ∧ 29 ≤ length := by omega
  have hcopy : Within (size length) .param keyOffset (min c.keyLen.toNat 16) := (within_key 0).mpr (by omega)
  have hmic16 : Within (size length) .param (keyOffset + 16) 8 ↔ 72 ≤ length := (within_key 16).trans (by omega)
  have hmic24 : Within (size length) .param (keyOffset + 24) 8 ↔ 80 ≤ length := (within_key 24).trans (by omega)
  have htx : Within (size length) (.dot11tkiptxmickey psta) 0 8 := within_front.mpr (show 8 ≤ 16 by decide)
  have hrx : Within (size length) (.dot11tkiprxmickey psta) 0 8 := within_front.mpr (show 8 ≤ 16 by decide)
  have hgrp : Within (size length) (.dot118021XGrpKey c.idx.toNat) 0 (min c.keyLen.toNat 16) :=
    within_grpKey.mpr fun _ => hidx
  have hgtx : Within (size length) (.dot118021XGrptxmickey c.idx.toNat) 0 8 := (within_mic rfl).mpr hidx
  have hgrx : Within (size length) (.dot118021XGrprxmickey c.idx.toNat) 0 8 := (within_mic rfl).mpr hidx
  have hset : ∀ u, Inside (Fits (size length)) (setPairwiseKey env psta) u := fun u => inside_setPairwiseKey env psta
  unfold wpaSetStaKey
  simp only [inside_bind, inside_loadIdx, inside_loadKeyLen, inside_loadSetTx, loadIdx_st, loadKeyLen_st, loadSetTx_st,
    h.idx_val, h.keyLen_val, h.setTx_val, inside_memcpy, memcpy_st, inside_ite, algIs_st, (hnext _).tkip_val, inside_pure,
    halg "none" _ (by decide), halg "TKIP" _ (by decide), hcopy, within_uncstKey, hmic16, hmic24, htx, hrx, hgrp, hgtx, hgrx,
    hset, inside_rtwSetKey env hidx, hc, hhead, and_true, true_and]
  by_cases hone : c.setTx.toNat = 1
  · cases ht : c.algIs "TKIP" with
    | false => simp [hone]
    | true =>
      simp [hone]
      omega
  · simp only [hone, if_false, false_imp_iff, true_imp_iff]
    omega

end

/-- What `wpa_set_encryption` needs of a request of `length` bytes: of a key that it keeps for the access point, all
but a pairwise key not of TKIP, the two further keys. -/
def WpaCryptFits (env : IoctlEnv) (c : IeeeParamCrypt) (length : ℕ) : Prop :=
  c.staAddr = bcAddr → 48 + c.keyLen.toNat ≤ length → c.idx.toNat < WEP_KEYS → c.algIs "WEP" = false →
    env.padapter.securitypriv.dot11AuthAlgrthm = dot11AuthAlgrthm_8021X →
    env.padapter.checkFwstate (WIFI_STATION_STATE ||| WIFI_MP_STATE) = true →
    ∀ psta, rtwGetStainfo env.padapter.stapriv (some env.padapter.bssid) = some psta →
      (c.setTx.toNat = 1 → c.algIs "TKIP" = true) → 80 ≤ length

theorem inside_wpaSetEncryption (env : IoctlEnv) {length : ℕ} (s : Regions IoctlRegion) (hlong : 64 ≤ length) :
    Inside (Fits (size length)) (wpaSetEncryption env length) s ↔
      WpaCryptFits env (IeeeParamCrypt.ofMem (s .param)) length := by
  have h := clearCrypt_cleared s
  have hclear : 36 ≤ length ∧ 48 ≤ length ∧ 10 ≤ length ∧ 37 ≤ length := by omega
  have hwepIn : ∀ t, Inside (Fits (size length)) (algIs "WEP") t := fun t => inside_algIs "WEP" (by decide) (by omega)
  unfold wpaSetEncryption WpaCryptFits
  simp only [inside_bind, inside_clearCrypt, inside_loadKeyLen, loadKeyLen_st, inside_ite, inside_pure, inside_loadStaAddr,
    loadStaAddr_st, loadStaAddr_val, inside_loadIdx, loadIdx_st, algIs_st, h.keyLen_val, h.addr_val, h.idx_val, h.wep_val,
    hclear, hwepIn, true_and]
  generalize (clearCrypt.run s).st = t at h ⊢
  have hwepKey := fun hidx => @Cleared.inside_wpaSetWep _ t length env h hidx hlong
  have hkey := fun psta hidx hlen => @Cleared.inside_wpaSetStaKey _ t length env psta h hidx hlen hlong
  generalize IeeeParamCrypt.ofMem (s .param) = c at hwepKey hkey ⊢
  by_cases hlen : 48 + c.keyLen.toNat ≤ length
  · have hle : ¬(length : ℤ) < keyOffset + c.keyLen.toNat := by
      show ¬(length : ℤ) < 48 + c.keyLen.toNat
      omega
    rw [if_neg hle]
    by_cases haddr : c.staAddr = bcAddr
    · rw [if_neg (not_not.mpr haddr)]
      by_cases hidx : c.idx.toNat < WEP_KEYS
      · rw [if_neg (Nat.not_le_of_lt hidx)]
        cases c.algIs "WEP" with
        | true => simp [hwepKey hidx]
        | false =>
          by_cases hauth : env.padapter.securitypriv.dot11AuthAlgrthm = dot11AuthAlgrthm_8021X ∧
            env.padapter.checkFwstate (WIFI_STATION_STATE ||| WIFI_MP_STATE) = true
          · rw [if_pos hauth]
            cases hsta : rtwGetStainfo env.padapter.stapriv (some env.padapter.bssid) with
            | none => simp
            | some psta =>
              simp [haddr, hlen, hidx, hauth, hkey psta hidx hlen]
          · rw [if_neg hauth]
            tauto
      · rw [if_pos (Nat.le_of_not_lt hidx)]
        tauto
    · rw [if_pos haddr]
      tauto
  · have hlt : (length : ℤ) < keyOffset + c.keyLen.toNat := by
      show (length : ℤ) < 48 + c.keyLen.toNat
      omega
    rw [if_pos hlt]
    tauto

end Ioctl

end Rtl8723au
