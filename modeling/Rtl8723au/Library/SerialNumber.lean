import Mathlib.Data.List.Basic
import Mathlib.Data.List.Chain
import Mathlib.Tactic

/-! Serial numbers on a circle of `M` values: how far one number lies ahead of
another, and lists of items met in order when the circle is walked from a base.
A window protocol moves the base; the lemmas here say when the order survives. -/
namespace Rtl8723au.SerialNumber
set_option autoImplicit false

/-! ## Distance on the circle -/

/-- How many steps forward lead from `a` to `b` on the circle of `M` numbers. -/
def ahead (M a b : ℕ) : ℕ := (((b : ℤ) - a) % M).toNat

theorem ahead_cast (M a b : ℕ) (hM : 0 < M) : (ahead M a b : ℤ) = ((b : ℤ) - a) % M := by
  have h : 0 ≤ ((b : ℤ) - a) % M := Int.emod_nonneg _ (by omega)
  rw [ahead, Int.toNat_of_nonneg h]

theorem ahead_lt (M a b : ℕ) (hM : 0 < M) : ahead M a b < M := by
  have h := Int.emod_lt_of_pos ((b : ℤ) - a) (by omega : (0 : ℤ) < M)
  have e := ahead_cast M a b hM
  omega

@[simp] theorem ahead_self (M a : ℕ) : ahead M a a = 0 := by
  simp [ahead]

theorem ahead_trans_mod (M a b c : ℕ) (hM : 0 < M) :
    (ahead M a b + ahead M b c) % M = ahead M a c := by
  zify
  rw [ahead_cast M a b hM, ahead_cast M b c hM, ahead_cast M a c hM, ← Int.add_emod]
  congr 1
  ring

theorem ahead_trans (M a b c : ℕ) (hM : 0 < M) (h : ahead M a b + ahead M b c < M) :
    ahead M a c = ahead M a b + ahead M b c := by
  rw [← ahead_trans_mod M a b c hM, Nat.mod_eq_of_lt h]

/-- Moving the base forward to `b` shortens the way to every number at or after `b`. -/
theorem ahead_rebase (M a b c : ℕ) (hM : 0 < M) (h : ahead M a b ≤ ahead M a c) :
    ahead M b c = ahead M a c - ahead M a b := by
  have h1 := ahead_lt M a b hM
  have h2 := ahead_lt M b c hM
  have h3 := ahead_lt M a c hM
  have e := ahead_trans_mod M a b c hM
  by_cases hs : ahead M a b + ahead M b c < M
  · rw [Nat.mod_eq_of_lt hs] at e
    omega
  · rw [Nat.mod_eq_sub_mod (by omega), Nat.mod_eq_of_lt (by omega)] at e
    omega

theorem ahead_of_le (M a b : ℕ) (hab : a ≤ b) (hb : b < M) : ahead M a b = b - a := by
  have e := ahead_cast M a b (by omega)
  rw [Int.emod_eq_of_lt (by omega) (by omega)] at e
  omega

theorem ahead_of_lt (M a b : ℕ) (hab : b < a) (ha : a < M) : ahead M a b = M + b - a := by
  have e := ahead_cast M a b (by omega)
  rw [← Int.add_emod_right, Int.emod_eq_of_lt (by omega) (by omega)] at e
  omega

theorem ahead_eq_zero_iff (M a b : ℕ) (ha : a < M) (hb : b < M) : ahead M a b = 0 ↔ a = b := by
  constructor
  · intro h
    rcases Nat.lt_or_ge b a with hab | hab
    · rw [ahead_of_lt M a b hab ha] at h
      omega
    · rw [ahead_of_le M a b hab hb] at h
      omega
  · rintro rfl
    exact ahead_self M a

theorem ahead_inj (M a b c : ℕ) (hb : b < M) (hc : c < M)
    (h : ahead M a b = ahead M a c) : b = c := by
  have e := ahead_rebase M a b c (by omega) h.le
  rw [h, Nat.sub_self] at e
  exact (ahead_eq_zero_iff M b c hb hc).mp e

/-! ## Lists ordered from a base -/

section Ordered
variable {α : Type*} (M : ℕ) (key : α → ℕ)

/-- The items of `q` are met in this order, none twice, when the circle is walked from `base`. -/
def OrderedFrom (base : ℕ) (q : List α) : Prop :=
  q.Pairwise fun x y => ahead M base (key x) < ahead M base (key y)

variable {M} {key}

theorem OrderedFrom.nil (base : ℕ) : OrderedFrom M key base ([] : List α) := List.Pairwise.nil

theorem orderedFrom_cons {base : ℕ} {x : α} {q : List α} :
    OrderedFrom M key base (x :: q) ↔
      (∀ y ∈ q, ahead M base (key x) < ahead M base (key y)) ∧ OrderedFrom M key base q :=
  List.pairwise_cons

theorem orderedFrom_append {base : ℕ} {p q : List α} :
    OrderedFrom M key base (p ++ q) ↔
      OrderedFrom M key base p ∧ OrderedFrom M key base q ∧
        ∀ x ∈ p, ∀ y ∈ q, ahead M base (key x) < ahead M base (key y) :=
  List.pairwise_append

theorem OrderedFrom.rebase {a b : ℕ} {q : List α} (hM : 0 < M) (h : OrderedFrom M key a q)
    (hb : ∀ x ∈ q, ahead M a b ≤ ahead M a (key x)) : OrderedFrom M key b q := by
  refine List.Pairwise.imp_of_mem ?_ h
  intro x y hx hy hxy
  rw [ahead_rebase M a b (key x) hM (hb x hx), ahead_rebase M a b (key y) hM (hb y hy)]
  have h1 := hb x hx
  omega

theorem OrderedFrom.lt_of_head {base d : ℕ} {x : α} {q : List α} (h : OrderedFrom M key base (x :: q))
    (hd : d < ahead M base (key x)) : ∀ y ∈ x :: q, d < ahead M base (key y) := by
  intro y hy
  rcases List.mem_cons.mp hy with rfl | hy
  · exact hd
  · exact hd.trans ((orderedFrom_cons.mp h).1 y hy)

end Ordered

end Rtl8723au.SerialNumber
