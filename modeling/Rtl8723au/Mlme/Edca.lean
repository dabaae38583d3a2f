import Mathlib.Data.Prod.Lex
import Rtl8723au.Library.InPlaceFilter

/-! `WMMOnAssocRsp` of `core/rtw_wlan_util.c`: the parameters of the access categories are handed to the hardware, and the
categories are put into the order in which `rtw_dequeue_xframe` serves them. -/
namespace Rtl8723au.Edca
open ExchangeSort
set_option autoImplicit false

def XMIT_VO_QUEUE : ℕ := 0
def XMIT_VI_QUEUE : ℕ := 1
def XMIT_BE_QUEUE : ℕ := 2
def XMIT_BK_QUEUE : ℕ := 3
def WIRELESS_11B : ℕ := 1

/-- `struct AC_param`; `TXOP_limit` as `le16_to_cpu` has it. -/
structure AcParam where
  aciAifsn : UInt8
  cw : UInt8
  txopLimit : UInt16
  deriving DecidableEq, Inhabited

namespace AcParam

def aci (p : AcParam) : ℕ := ((p.aciAifsn >>> 5) &&& 0x03).toNat

def acm (p : AcParam) : Bool := ((p.aciAifsn >>> 4) &&& 0x01) != 0

/-- `AIFS`, which is a byte. -/
def aifs (p : AcParam) (slotTime aSifsTime : ℕ) : ℕ := ((p.aciAifsn &&& 0x0f).toNat * slotTime + aSifsTime) % 256

def acParm (p : AcParam) (slotTime aSifsTime : ℕ) : ℕ :=
  let ecwMin := (p.cw &&& 0x0f).toNat
  let ecwMax := ((p.cw &&& 0xf0) >>> 4).toNat
  p.aifs slotTime aSifsTime ||| ecwMin <<< 8 ||| ecwMax <<< 12 ||| p.txopLimit.toNat <<< 16

def queue (p : AcParam) : ℕ :=
  match p.aci with
  | 0 => XMIT_BE_QUEUE
  | 1 => XMIT_BK_QUEUE
  | 2 => XMIT_VI_QUEUE
  | _ => XMIT_VO_QUEUE

/-- The bit of `acm_mask`. -/
def acmBit (p : AcParam) : ℕ :=
  if p.acm then
    match p.aci with
    | 0 => 2
    | 1 => 0
    | 2 => 4
    | _ => 8
  else 0

end AcParam

/-- What the function reads. -/
structure WmmInfo where
  wmmEnable : Bool
  acParam : Vector AcParam 4
  slotTime : UInt8
  curWirelessMode : ℕ
  acmMethod : ℕ
  wifiSpec : Bool

namespace WmmInfo

def aSifsTime (w : WmmInfo) : ℕ := if w.curWirelessMode = WIRELESS_11B then 10 else 16

def parm (w : WmmInfo) (p : AcParam) : ℕ := p.acParm w.slotTime.toNat w.aSifsTime

end WmmInfo

/-- `HW_VAR_AC_PARAM_*` of a queue, and `HW_VAR_ACM_CTRL`. -/
inductive SetHwreg
  | acParam (queue value : ℕ)
  | acmCtrl (mask : ℕ)
  deriving DecidableEq

/-! ## The sort -/

/-- The arrays `edca` and `inx`, and `change_inx`. -/
structure Arrays where
  edca : ℕ → ℕ
  inx : ℕ → ℕ
  changeInx : ℕ

/-- Whether `edca[j]` is before `edca[i]`: the bits of AIFS and CW, then TXOP. -/
def before (x y : ℕ) : Prop := x &&& 0xFFFF < y &&& 0xFFFF ∨ x &&& 0xFFFF = y &&& 0xFFFF ∧ x >>> 16 > y >>> 16

instance (x y : ℕ) : Decidable (before x y) := inferInstanceAs (Decidable (_ ∨ _))

def exchange (a : ℕ → ℕ) (i j : ℕ) : ℕ → ℕ := Function.update (Function.update a i (a j)) j (a i)

def innerPass (i : ℕ) (s : Arrays) (j : ℕ) : Arrays :=
  let changeInx :=
    if s.edca j &&& 0xFFFF < s.edca i &&& 0xFFFF then 1
    else if s.edca j &&& 0xFFFF = s.edca i &&& 0xFFFF then
      if s.edca j >>> 16 > s.edca i >>> 16 then 1 else s.changeInx
    else s.changeInx
  if changeInx ≠ 0 then ⟨exchange s.edca i j, exchange s.inx i j, 0⟩ else ⟨s.edca, s.inx, changeInx⟩

def outerPass (s : Arrays) (i : ℕ) : Arrays := (List.range' (i + 1) (3 - i)).foldl (innerPass i) s

/-! ## The function -/

/-- What `WMMOnAssocRsp` changes: what goes to the hardware, `acm_mask` and `wmm_para_seq`. -/
structure Effects where
  hwregs : List SetHwreg
  acmMask : Option ℕ
  wmmParaSeq : Option (List ℕ)

/-- `WMMOnAssocRsp`; `edca` and `changeInx` are what the locals hold at first. -/
def wmmOnAssocRsp (w : WmmInfo) (edca : ℕ → ℕ) (changeInx : ℕ) : Effects :=
  if !w.wmmEnable then ⟨[], some 0, none⟩
  else
    let params := w.acParam.toList
    let edca := params.foldl (fun edca p => Function.update edca p.queue (w.parm p)) edca
    let acmMask := params.foldl (fun mask p => mask ||| p.acmBit) 0
    let hwregs := params.map fun p => SetHwreg.acParam p.queue (w.parm p)
    let s : Arrays := ⟨edca, id, changeInx⟩
    let s := if w.wifiSpec then (List.range 4).foldl outerPass s else s
    let wmmParaSeq := (List.range 4).map s.inx
    if w.acmMethod = 1 then ⟨hwregs ++ [.acmCtrl acmMask], none, some wmmParaSeq⟩
    else ⟨hwregs, some acmMask, some wmmParaSeq⟩

/-! ## The service -/

/-- The loop of `rtw_dequeue_xframe`: the categories that are visited, and the frame that is found; `take` is what the queues of
a category give. -/
def visit {α : Type} (take : ℕ → Option α) : List ℕ → List ℕ × Option α
  | [] => ([], none)
  | ac :: rest =>
    match take ac with
    | some frame => ([ac], some frame)
    | none => let r := visit take rest; (ac :: r.1, r.2)

/-- `rtw_dequeue_xframe`. -/
def rtwDequeueXframe {α : Type} (wifiSpec : Bool) (wmmParaSeq : List ℕ) (take : ℕ → Option α) (entry : ℕ) :
    List ℕ × Option α :=
  let inx := if wifiSpec then wmmParaSeq else List.range 4
  visit take (inx.take entry)

/-! ## What is asked for -/

/-- The parameters of the category that has the queue. -/
def WmmInfo.paramOf (w : WmmInfo) (queue : ℕ) : AcParam :=
  (w.acParam.toList.find? fun p => p.queue = queue).getD default

/-- `edca` of the category that has the queue. -/
def WmmInfo.parmOf (w : WmmInfo) (queue : ℕ) : ℕ := w.parm (w.paramOf queue)

/-- Each category is listed once, none behind one that it is before, and they are visited in that order. -/
structure Ordered (w : WmmInfo) (seq : List ℕ) : Prop where
  perm : seq.Perm (List.range 4)
  sorted : seq.Pairwise fun ac ac' => ¬before (w.parmOf ac') (w.parmOf ac)
  visits : ∀ (α : Type) (take : ℕ → Option α), (rtwDequeueXframe true seq take 4).1 <+: seq ∧
    ((rtwDequeueXframe true seq take 4).2 = none → (rtwDequeueXframe true seq take 4).1 = seq)

theorem visit_prefix {α : Type} (take : ℕ → Option α) (l : List ℕ) :
    (visit take l).1 <+: l ∧ ((visit take l).2 = none → (visit take l).1 = l) := by
  induction l with
  | nil => exact ⟨List.prefix_rfl, fun _ => rfl⟩
  | cons ac rest ih =>
    rw [visit]
    cases take ac with
    | some frame => exact ⟨⟨rest, rfl⟩, fun h => by cases h⟩
    | none => exact ⟨List.prefix_cons_inj ac |>.mpr ih.1, fun h => congrArg (ac :: ·) (ih.2 h)⟩

theorem rtwDequeueXframe_prefix {α : Type} (take : ℕ → Option α) {seq : List ℕ} (h : seq.length = 4) :
    (rtwDequeueXframe true seq take 4).1 <+: seq ∧
      ((rtwDequeueXframe true seq take 4).2 = none → (rtwDequeueXframe true seq take 4).1 = seq) := by
  have hall : seq.take 4 = seq := List.take_of_length_le h.le
  rw [rtwDequeueXframe, if_pos rfl, hall]
  exact visit_prefix take seq

/-! ## The parameters of the categories -/

namespace AcParam

theorem aci_lt (p : AcParam) : p.aci < 4 := by
  have hthree : ((p.aciAifsn >>> 5) &&& 0x03).toNat ≤ 3 := by
    rw [UInt8.toNat_and]
    exact Nat.and_le_right
  rw [aci]
  omega

theorem queue_lt (p : AcParam) : p.queue < 4 := by
  unfold queue
  split <;> decide

theorem aci_eq (p : AcParam) : p.aci = if p.queue = 2 then 0 else if p.queue = 3 then 1 else if p.queue = 1 then 2 else 3 := by
  have hlt := p.aci_lt
  obtain h | h | h | h : p.aci = 0 ∨ p.aci = 1 ∨ p.aci = 2 ∨ p.aci = 3 := by omega
  all_goals
    rw [queue, h]
    rfl

theorem queue_inj {p p' : AcParam} (h : p.queue = p'.queue) : p.aci = p'.aci := by
  rw [aci_eq, aci_eq, h]

end AcParam

theorem edca_eq {f : AcParam → ℕ} {params : List AcParam} (hnodup : (params.map AcParam.queue).Nodup) (edca : ℕ → ℕ)
    {p : AcParam} (hp : p ∈ params) : params.foldl (fun edca p => Function.update edca p.queue (f p)) edca p.queue = f p := by
  have hother (params : List AcParam) (edca : ℕ → ℕ) {q : ℕ} (hq : q ∉ params.map AcParam.queue) :
      params.foldl (fun edca p => Function.update edca p.queue (f p)) edca q = edca q := by
    induction params generalizing edca with
    | nil => rfl
    | cons p rest ih =>
      rw [List.map_cons, List.mem_cons, not_or] at hq
      rw [List.foldl_cons, ih _ hq.2, Function.update_of_ne hq.1]
  induction params generalizing edca with
  | nil => exact absurd hp List.not_mem_nil
  | cons p' rest ih =>
    rw [List.map_cons, List.nodup_cons] at hnodup
    rw [List.foldl_cons]
    by_cases hmem : p ∈ rest
    · exact ih hnodup.2 _ hmem
    · obtain rfl := (List.mem_cons.mp hp).resolve_right hmem
      rw [hother rest _ hnodup.1, Function.update_self]

namespace WmmInfo
variable {w : WmmInfo} (hdistinct : (w.acParam.toList.map AcParam.aci).Nodup)
include hdistinct

theorem queues_nodup : (w.acParam.toList.map AcParam.queue).Nodup := by
  have hparams : w.acParam.toList.Nodup := hdistinct.of_map _
  refine hparams.map_on fun p hp p' hp' h => ?_
  exact List.inj_on_of_nodup_map hdistinct hp hp' (AcParam.queue_inj h)

theorem exists_queue {ac : ℕ} (hac : ac < 4) : ∃ p ∈ w.acParam.toList, p.queue = ac := by
  have hsub : w.acParam.toList.map AcParam.queue ⊆ List.range 4 := by
    intro q hq
    obtain ⟨p, -, rfl⟩ := List.mem_map.mp hq
    exact List.mem_range.mpr p.queue_lt
  have hperm : (w.acParam.toList.map AcParam.queue).Perm (List.range 4) :=
    ((queues_nodup hdistinct).subperm hsub).perm_of_length_le (by simp)
  exact List.mem_map.mp (hperm.mem_iff.mpr (List.mem_range.mpr hac))

theorem edca_parmOf (edca : ℕ → ℕ) {ac : ℕ} (hac : ac < 4) :
    w.acParam.toList.foldl (fun edca p => Function.update edca p.queue (w.parm p)) edca ac = w.parmOf ac := by
  obtain ⟨p, hp, rfl⟩ := exists_queue hdistinct hac
  have hfind : w.paramOf p.queue = p := by
    have hsome : (w.acParam.toList.find? fun p' => p'.queue = p.queue).isSome := by
      rw [List.find?_isSome]
      exact ⟨p, hp, by simp⟩
    obtain ⟨p', hp'⟩ := Option.isSome_iff_exists.mp hsome
    have hqueue : p'.queue = p.queue := by simpa using List.find?_some hp'
    rw [paramOf, hp', Option.getD_some]
    exact List.inj_on_of_nodup_map (queues_nodup hdistinct) (List.mem_of_find?_eq_some hp') hp hqueue
  rw [edca_eq (queues_nodup hdistinct) edca hp, parmOf, hfind]

end WmmInfo

/-! ## The arrays together -/

/-- What `before` compares. -/
def strength (x : ℕ) : ℕ ×ₗ ℕᵒᵈ := toLex (x &&& 0xFFFF, OrderDual.toDual (x >>> 16))

theorem strength_lt {x y : ℕ} : strength x < strength y ↔ before x y := by
  rw [strength, strength, Prod.Lex.toLex_lt_toLex]
  rfl

theorem not_before {x y : ℕ} : ¬before x y ↔ strength y ≤ strength x := by
  rw [← strength_lt, not_lt]

def Arrays.pair (s : Arrays) (k : ℕ) : ℕ × ℕ := (s.inx k, s.edca k)

def pairKey (x : ℕ × ℕ) : ℕ ×ₗ ℕᵒᵈ := strength x.2

theorem exchange_eq (a : ℕ → ℕ) (i j : ℕ) : exchange a i j = a ∘ Equiv.swap i j := by
  funext k
  rw [exchange, Function.comp_apply, Equiv.swap_apply_def]
  by_cases hj : k = j
  · rw [hj, Function.update_self]
    by_cases hi : j = i
    · rw [if_pos hi, hi]
    · rw [if_neg hi, if_pos rfl]
  · rw [Function.update_of_ne hj]
    by_cases hi : k = i
    · rw [hi, Function.update_self, if_pos rfl]
    · rw [Function.update_of_ne hi, if_neg hi, if_neg hj]

theorem flag_eq (x y flag : ℕ) : (if x &&& 0xFFFF < y &&& 0xFFFF then 1
    else if x &&& 0xFFFF = y &&& 0xFFFF then if x >>> 16 > y >>> 16 then 1 else flag else flag) =
      if before x y then 1 else flag := by
  by_cases hlt : x &&& 0xFFFF < y &&& 0xFFFF
  · have hbefore : before x y := .inl hlt
    rw [if_pos hlt, if_pos hbefore]
  rw [if_neg hlt]
  by_cases heq : x &&& 0xFFFF = y &&& 0xFFFF
  · have hbefore : before x y ↔ x >>> 16 > y >>> 16 :=
      ⟨fun h => (h.resolve_left hlt).2, fun h => .inr ⟨heq, h⟩⟩
    rw [if_pos heq]
    exact if_congr hbefore.symm rfl rfl
  · have hbefore : ¬before x y := fun h => h.elim hlt fun h => heq h.1
    rw [if_neg heq, if_neg hbefore]

theorem innerPass_exchange {i j : ℕ} {s : Arrays} (h : before (s.edca j) (s.edca i) ∨ s.changeInx ≠ 0) :
    innerPass i s j = ⟨exchange s.edca i j, exchange s.inx i j, 0⟩ := by
  unfold innerPass
  rw [flag_eq]
  refine if_pos ?_
  by_cases hbefore : before (s.edca j) (s.edca i)
  · rw [if_pos hbefore]
    exact Nat.one_ne_zero
  · rw [if_neg hbefore]
    exact h.resolve_left hbefore

theorem pair_exchange (i j flag : ℕ) (s : Arrays) :
    Arrays.pair ⟨exchange s.edca i j, exchange s.inx i j, flag⟩ = s.pair ∘ Equiv.swap i j := by
  funext k
  rw [Arrays.pair, exchange_eq, exchange_eq]
  rfl

/-- With `change_inx` clear the body compares and exchanges, and leaves it clear. -/
theorem innerPass_clear (i j : ℕ) {s : Arrays} (h : s.changeInx = 0) :
    (innerPass i s j).pair = compareExchange pairKey i s.pair j ∧ (innerPass i s j).changeInx = 0 := by
  have hlt : pairKey (s.pair j) < pairKey (s.pair i) ↔ before (s.edca j) (s.edca i) := strength_lt
  by_cases hbefore : before (s.edca j) (s.edca i)
  · rw [innerPass_exchange (.inl hbefore), compareExchange, if_pos (hlt.mpr hbefore)]
    exact ⟨pair_exchange i j 0 s, rfl⟩
  · have hsame : innerPass i s j = s := by
      unfold innerPass
      rw [flag_eq, if_neg hbefore, h]
      exact (if_neg (not_not.mpr rfl)).trans (h ▸ rfl)
    rw [hsame, compareExchange, if_neg (mt hlt.mp hbefore)]
    exact ⟨rfl, h⟩

theorem innerLoop_clear (i : ℕ) (js : List ℕ) {s : Arrays} (h : s.changeInx = 0) :
    (js.foldl (innerPass i) s).pair = scan pairKey i js s.pair ∧ (js.foldl (innerPass i) s).changeInx = 0 := by
  induction js generalizing s with
  | nil => exact ⟨rfl, h⟩
  | cons j js ih =>
    obtain ⟨hpair, hclear⟩ := innerPass_clear i j h
    obtain ⟨hrest, hlast⟩ := ih hclear
    rw [List.foldl_cons, hrest, hpair]
    exact ⟨rfl, hlast⟩

/-- The passes of the outer loop from `i` on. -/
theorem outerLoop_clear (count i : ℕ) (hcount : i + count = 4) {s : Arrays} (h : s.changeInx = 0) :
    ((List.range' i count).foldl outerPass s).pair = passes pairKey count i s.pair := by
  induction count generalizing i s with
  | zero => rfl
  | succ count ih =>
    obtain ⟨hpair, hclear⟩ := innerLoop_clear i (List.range' (i + 1) count) h
    have houter : outerPass s i = (List.range' (i + 1) count).foldl (innerPass i) s := by
      rw [outerPass, show 3 - i = count by omega]
    rw [List.range'_succ, List.foldl_cons, houter, passes, ← hpair]
    exact ih (i + 1) (by omega) hclear

/-! ## The order -/

/-- When the first two are exchanged before the rest of the first scan, the passes after it sort exactly when the first place
of the array was not the least one. -/
theorem exchanged_sorted_iff {a b r : ℕ → ℕ × ℕ} {σ τ : Equiv.Perm ℕ} (hb : b = (a ∘ Equiv.swap 0 1) ∘ τ) (hr : r = b ∘ σ)
    (hτ : ∀ k, k ≠ 0 → k ∉ [2, 3] → τ k = k) (hσ : ∀ k, k < 1 ∨ 1 + 3 ≤ k → σ k = k)
    (hle : ∀ j ∈ [2, 3], pairKey (b 0) ≤ pairKey (b j))
    (hsorted : ∀ p q, 1 ≤ p → p < q → q < 1 + 3 → pairKey (r p) ≤ pairKey (r q)) :
    (∀ p q, p < q → q < 4 → pairKey (r p) ≤ pairKey (r q)) ↔ ∃ ac ∈ [1, 2, 3], pairKey (a ac) ≤ pairKey (a 0) := by
  have hone : τ 1 = 1 := hτ 1 (by decide) (by decide)
  have hplace {k : ℕ} (hk : k < 4) : τ k < 4 :=
    (perm_mem (i := 0) (fun k hk => hτ k (by omega) (by simp; omega)) (Nat.zero_le k) hk).2
  have hfirst : b 1 = a 0 := by
    rw [hb, Function.comp_apply, hone, Function.comp_apply, Equiv.swap_apply_right]
  have hleast {j : ℕ} (hj : j < 4) (hj1 : j ≠ 1) : pairKey (b 0) ≤ pairKey (b j) := by
    obtain rfl | rfl | rfl : j = 0 ∨ j = 2 ∨ j = 3 := by omega
    · exact le_rfl
    · exact hle 2 (by decide)
    · exact hle 3 (by decide)
  constructor
  · intro h
    have hzero : r 0 = b 0 := by rw [hr, Function.comp_apply, hσ 0 (.inl Nat.one_pos)]
    obtain ⟨q, hq⟩ := σ.surjective 1
    have hq1 : 1 ≤ q := by
      by_contra hlow
      have hsame := hσ q (.inl (by omega))
      omega
    have hq4 : q < 4 := by
      by_contra hhigh
      have hsame := hσ q (.inr (by omega))
      omega
    have hfirstLe := h 0 q (by omega) hq4
    have hat : r q = a 0 := by rw [hr, Function.comp_apply, hq, hfirst]
    rw [hzero, hat] at hfirstLe
    have hne : τ 0 ≠ 1 := fun h => absurd (τ.injective (h.trans hone.symm)) (by decide)
    have hlt := hplace (k := 0) (by decide)
    refine ⟨Equiv.swap 0 1 (τ 0), ?_, ?_⟩
    · obtain h0 | h2 | h3 : τ 0 = 0 ∨ τ 0 = 2 ∨ τ 0 = 3 := by omega
      · rw [h0]
        decide
      · rw [h2]
        decide
      · rw [h3]
        decide
    · have hplaced : b 0 = a (Equiv.swap 0 1 (τ 0)) := by rw [hb, Function.comp_apply, Function.comp_apply]
      rw [← hplaced]
      exact hfirstLe
  · rintro ⟨ac, hac, hacLe⟩
    have hplaced : pairKey (b 0) ≤ pairKey (a ac) := by
      obtain ⟨j, hj⟩ := τ.surjective (Equiv.swap 0 1 ac)
      have hat : b j = a ac := by
        rw [hb, Function.comp_apply, hj, Function.comp_apply, Equiv.swap_apply_self]
      have hswap : Equiv.swap 0 1 ac < 4 ∧ Equiv.swap 0 1 ac ≠ 1 := by
        simp only [List.mem_cons, List.not_mem_nil, or_false] at hac
        obtain rfl | rfl | rfl := hac <;> decide
      have hj4 : j < 4 := by
        by_contra hhigh
        have hsame := hτ j (by omega) (by simp; omega)
        omega
      have hj1 : j ≠ 1 := by
        rintro rfl
        exact hswap.2 (hj.symm.trans hone)
      rw [← hat]
      exact hleast hj4 hj1
    intro p q hpq hq
    by_cases hp : p = 0
    · obtain ⟨hlow, hhigh⟩ := perm_mem hσ (show 1 ≤ q by omega) hq
      rw [hp, hr, Function.comp_apply, Function.comp_apply, hσ 0 (.inl Nat.one_pos)]
      by_cases hsame : σ q = 1
      · rw [hsame, hfirst]
        exact hplaced.trans hacLe
      · exact hleast hhigh hsame
    · exact hsorted p q (by omega) hpq hq

section
variable {w : WmmInfo} {σ : Equiv.Perm ℕ}

theorem ordered_iff (hfix : ∀ k, 4 ≤ k → σ k = k) : Ordered w ((List.range 4).map σ) ↔
    ∀ p q, p < q → q < 4 → strength (w.parmOf (σ p)) ≤ strength (w.parmOf (σ q)) := by
  have hrange : (List.range 4).map σ ⊆ List.range 4 := by
    intro ac hac
    obtain ⟨k, hk, rfl⟩ := List.mem_map.mp hac
    exact List.mem_range.mpr
      (perm_mem (fun k hk => hfix k (by omega)) (Nat.zero_le k) (List.mem_range.mp hk)).2
  have hperm : ((List.range 4).map σ).Perm (List.range 4) :=
    ((List.nodup_range.map σ.injective).subperm hrange).perm_of_length_le (by simp)
  constructor
  · intro h p q hpq hq
    have hsorted := List.pairwise_map.mp h.sorted
    rw [List.pairwise_iff_getElem] at hsorted
    have hle := hsorted p q (by simp; omega) (by simpa using hq) hpq
    rw [List.getElem_range, List.getElem_range, not_before] at hle
    exact hle
  · intro h
    refine ⟨hperm, List.pairwise_map.mpr ?_, fun α take => rtwDequeueXframe_prefix take (by simp)⟩
    rw [List.pairwise_iff_getElem]
    intro p q hp hq hpq
    rw [List.getElem_range, List.getElem_range, not_before]
    exact h p q hpq (by simpa using hq)

variable {s t : Arrays} (hinx : s.inx = id) (hparm : ∀ ac < 4, s.edca ac = w.parmOf ac)
include hinx hparm

theorem ordered_of_pair (hpair : t.pair = s.pair ∘ σ) (hfix : ∀ k, 4 ≤ k → σ k = k) :
    Ordered w ((List.range 4).map t.inx) ↔ ∀ p q, p < q → q < 4 → pairKey (t.pair p) ≤ pairKey (t.pair q) := by
  have hsame : t.inx = σ := by
    funext k
    have hk := congrArg Prod.fst (congrFun hpair k)
    rw [Function.comp_apply, Arrays.pair, Arrays.pair, hinx] at hk
    exact hk
  have hkey {k : ℕ} (hk : k < 4) : pairKey (t.pair k) = strength (w.parmOf (σ k)) := by
    have hlt := (perm_mem (i := 0) (fun k hk => hfix k (by omega)) (Nat.zero_le k) hk).2
    rw [hpair, Function.comp_apply, pairKey, Arrays.pair, hparm _ hlt]
  rw [hsame, ordered_iff hfix]
  refine forall₂_congr fun p q => forall₂_congr fun hpq hq => ?_
  rw [hkey (hpq.trans hq), hkey hq]

/-- With `change_inx` clear at first the order is right. -/
theorem ordered_clear (h : s.changeInx = 0) : Ordered w ((List.range 4).map ((List.range 4).foldl outerPass s).inx) := by
  have hpair := outerLoop_clear 4 0 rfl h
  obtain ⟨σ, hσ, hfix, hsorted⟩ := passes_spec pairKey 4 0 s.pair
  refine (ordered_of_pair hinx hparm (hpair.trans hσ) fun k hk => hfix k (.inr hk)).mpr fun p q hpq hq => ?_
  rw [hpair]
  exact hsorted p q (Nat.zero_le p) hpq hq

/-- Otherwise the first two are exchanged, and the order is right when there is one that VO is not before. -/
theorem ordered_set (h : s.changeInx ≠ 0) : Ordered w ((List.range 4).map ((List.range 4).foldl outerPass s).inx) ↔
    ∃ ac ∈ [XMIT_VI_QUEUE, XMIT_BE_QUEUE, XMIT_BK_QUEUE], ¬before (w.parmOf XMIT_VO_QUEUE) (w.parmOf ac) := by
  have hfirst := innerPass_exchange (i := 0) (j := 1) (s := s) (.inr h)
  obtain ⟨hscan, hclear⟩ := innerLoop_clear 0 [2, 3] (s := innerPass 0 s 1) (by rw [hfirst])
  rw [hfirst, pair_exchange] at hscan
  have hpair := outerLoop_clear 3 1 rfl hclear
  rw [hfirst, hscan] at hpair
  obtain ⟨τ, hτ, hfixτ, hle, hleft⟩ := scan_spec pairKey (show 0 ∉ [2, 3] by decide) (s.pair ∘ Equiv.swap 0 1)
  obtain ⟨σ, hσ, hfixσ, hsorted⟩ := passes_spec pairKey 3 1 (scan pairKey 0 [2, 3] (s.pair ∘ Equiv.swap 0 1))
  have hplaces : List.range 4 = 0 :: List.range' 1 3 := rfl
  have houter : outerPass s 0 = [2, 3].foldl (innerPass 0) (innerPass 0 s 1) := rfl
  have hrun : (List.range 4).foldl outerPass s = (List.range' 1 3).foldl outerPass ([2, 3].foldl (innerPass 0)
      (innerPass 0 s 1)) := by
    rw [hplaces, List.foldl_cons, houter]
  rw [hfirst] at hrun
  have hstrength {ac : ℕ} (hac : ac < 4) : pairKey (s.pair ac) = strength (w.parmOf ac) := by
    rw [pairKey, Arrays.pair, hparm ac hac]
  have hall := hpair.trans hσ
  rw [hτ] at hall
  have hwhole : ((List.range' 1 3).foldl outerPass ([2, 3].foldl (innerPass 0)
      ⟨exchange s.edca 0 1, exchange s.inx 0 1, 0⟩)).pair = s.pair ∘ ((Equiv.swap 0 1 : Equiv.Perm ℕ) * τ * σ) := hall
  rw [hrun, ordered_of_pair hinx hparm hwhole ?_, hpair,
    exchanged_sorted_iff hτ hσ hfixτ hfixσ hle hsorted]
  · refine exists_congr fun ac => and_congr_right fun hac => ?_
    have hlt : ac < 4 := by
      simp only [List.mem_cons, List.not_mem_nil, or_false] at hac
      omega
    rw [hstrength hlt, hstrength (by decide), not_before]
    rfl
  · intro k hk
    rw [Equiv.Perm.mul_apply, Equiv.Perm.mul_apply, hfixσ k (.inr hk), hfixτ k (by omega) (by simp; omega),
      Equiv.swap_apply_of_ne_of_ne (by omega) (by omega)]

end

theorem wmmParaSeq_eq (w : WmmInfo) (edca : ℕ → ℕ) (changeInx : ℕ) (hwmm : w.wmmEnable = true) (hspec : w.wifiSpec = true) :
    (wmmOnAssocRsp w edca changeInx).wmmParaSeq = some ((List.range 4).map ((List.range 4).foldl outerPass
      ⟨w.acParam.toList.foldl (fun edca p => Function.update edca p.queue (w.parm p)) edca, id, changeInx⟩).inx) := by
  simp only [wmmOnAssocRsp, hwmm, hspec, Bool.not_true, Bool.false_eq_true, if_false, if_true]
  split <;> rfl

/-- **The categories are ordered exactly when `change_inx` is clear at first, or VO is not before all others.** -/
theorem wmm_ordered_iff (w : WmmInfo) (edca : ℕ → ℕ) (changeInx : ℕ) (hwmm : w.wmmEnable = true) (hspec : w.wifiSpec = true)
    (hdistinct : (w.acParam.toList.map AcParam.aci).Nodup) :
    (∃ seq, (wmmOnAssocRsp w edca changeInx).wmmParaSeq = some seq ∧ Ordered w seq) ↔
      changeInx = 0 ∨ ∃ ac ∈ [XMIT_VI_QUEUE, XMIT_BE_QUEUE, XMIT_BK_QUEUE],
        ¬before (w.parmOf XMIT_VO_QUEUE) (w.parmOf ac) := by
  have hparm (ac : ℕ) (hac : ac < 4) := WmmInfo.edca_parmOf hdistinct edca hac
  rw [wmmParaSeq_eq w edca changeInx hwmm hspec]
  simp only [Option.some.injEq, exists_eq_left']
  by_cases hclear : changeInx = 0
  · exact iff_of_true (ordered_clear rfl hparm hclear) (.inl hclear)
  · rw [ordered_set rfl hparm hclear, or_iff_right hclear]

/-- The default parameters: AIFSN 2, 2, 3 and 7, with the windows that belong to them. -/
def defaultWmm : WmmInfo where
  wmmEnable := true
  acParam := #v[⟨0x03, 0xa4, 0⟩, ⟨0x27, 0xa4, 0⟩, ⟨0x42, 0x43, 94⟩, ⟨0x62, 0x32, 47⟩]
  slotTime := 9
  curWirelessMode := 11
  acmMethod := 0
  wifiSpec := true

theorem wmm_ordered_iff_default :
    (∃ seq, (wmmOnAssocRsp defaultWmm (fun _ => 0) 0).wmmParaSeq = some seq ∧ Ordered defaultWmm seq) ↔
      0 = 0 ∨ ∃ ac ∈ [XMIT_VI_QUEUE, XMIT_BE_QUEUE, XMIT_BK_QUEUE],
        ¬before (defaultWmm.parmOf XMIT_VO_QUEUE) (defaultWmm.parmOf ac) :=
  wmm_ordered_iff defaultWmm (fun _ => 0) 0 rfl rfl (by decide)

/-- When the flag happens to be set, voice is served behind video. -/
theorem wmm_videoFirst : (defaultWmm.acParam.toList.map AcParam.aci).Nodup ∧
    ¬∃ seq, (wmmOnAssocRsp defaultWmm (fun _ => 0) 1).wmmParaSeq = some seq ∧ Ordered defaultWmm seq := by
  have hdistinct : (defaultWmm.acParam.toList.map AcParam.aci).Nodup := by decide
  have hparm (ac : ℕ) (hac : ac < 4) := WmmInfo.edca_parmOf hdistinct (fun _ => 0) hac
  refine ⟨hdistinct, ?_⟩
  rintro ⟨seq, hseq, hordered⟩
  rw [wmmParaSeq_eq defaultWmm (fun _ => 0) 1 rfl rfl] at hseq
  obtain rfl := Option.some.inj hseq
  obtain ⟨ac, hac, hnot⟩ := (ordered_set rfl hparm Nat.one_ne_zero).mp hordered
  have hfirst : ∀ ac ∈ [XMIT_VI_QUEUE, XMIT_BE_QUEUE, XMIT_BK_QUEUE],
      before (defaultWmm.parmOf XMIT_VO_QUEUE) (defaultWmm.parmOf ac) := by decide +kernel
  exact hnot (hfirst ac hac)

end Rtl8723au.Edca
