import Mathlib.Data.List.Basic
import Mathlib.Data.Nat.ModEq
import Mathlib.Logic.Function.Basic
import Mathlib.Tactic

/-! A queue in a ring of `n` cells. The writer and the reader each have a cursor of their own; a flag at
each cell says whether it holds something. -/
namespace Ring
set_option autoImplicit false

variable {β : Type*} {n head : ℕ} {full full' : ℕ → Prop} {cell cell' : ℕ → β} {l : List β} {b : β}

/-- The cells from `head` on hold `l`, the others nothing. -/
structure Holds (n : ℕ) (full : ℕ → Prop) (cell : ℕ → β) (head : ℕ) (l : List β) : Prop where
  head_lt : head < n
  length_le : l.length ≤ n
  full_iff : ∀ k < n, full k ↔ ∃ i < l.length, (head + i) % n = k
  cell_eq : ∀ i (hi : i < l.length), cell ((head + i) % n) = l[i]

def tail (n head : ℕ) (l : List β) : ℕ := (head + l.length) % n

theorem length_eq_sub (hhead : head < n) (hroom : l.length < n) : (tail n head l + n - head) % n = l.length := by
  unfold tail
  by_cases hwrap : head + l.length < n
  · rw [Nat.mod_eq_of_lt hwrap, show head + l.length + n - head = l.length + n by omega, Nat.add_mod_right,
      Nat.mod_eq_of_lt hroom]
  · rw [Nat.mod_eq_sub_mod (not_lt.mp hwrap), Nat.mod_eq_of_lt (by omega : head + l.length - n < n),
      show head + l.length - n + n - head = l.length by omega, Nat.mod_eq_of_lt hroom]

theorem tail_eq_head (hhead : head < n) (hroom : l.length < n) : tail n head l = head ↔ l = [] := by
  constructor
  · intro h
    have hlength := length_eq_sub hhead hroom
    rw [h, Nat.add_sub_cancel_left, Nat.mod_self] at hlength
    exact List.length_eq_zero_iff.mp hlength.symm
  · rintro rfl
    exact Nat.mod_eq_of_lt hhead

/-- Cells less than `n` apart are different cells. -/
theorem index_inj {i j : ℕ} (hi : i < n) (hj : j < n) (h : (head + i) % n = (head + j) % n) : i = j := by
  have hmod : i ≡ j [MOD n] := Nat.ModEq.add_left_cancel' head h
  exact Nat.ModEq.eq_of_lt_of_lt hmod hi hj

namespace Holds

theorem nil (h : head < n) : Holds n (fun _ => False) cell head [] where
  head_lt := h
  length_le := Nat.zero_le n
  full_iff _ _ := ⟨False.elim, fun ⟨i, hi, _⟩ => absurd hi (Nat.not_lt_zero i)⟩
  cell_eq i hi := absurd hi (Nat.not_lt_zero i)

variable (h : Holds n full cell head l)
include h

theorem index_full {i : ℕ} (hi : i < l.length) : full ((head + i) % n) :=
  (h.full_iff _ (Nat.mod_lt _ (Nat.zero_lt_of_lt h.head_lt))).mpr ⟨i, hi, rfl⟩

theorem congr (hfull : ∀ k < n, full' k ↔ full k) (hcell : ∀ k < n, full k → cell' k = cell k) :
    Holds n full' cell' head l where
  head_lt := h.head_lt
  length_le := h.length_le
  full_iff k hk := (hfull k hk).trans (h.full_iff k hk)
  cell_eq i hi := by
    rw [hcell _ (Nat.mod_lt _ (Nat.zero_lt_of_lt h.head_lt)) (h.index_full hi), h.cell_eq i hi]

theorem length_lt (hfree : ¬ full (tail n head l)) : l.length < n := by
  refine lt_of_le_of_ne h.length_le fun heq => hfree ?_
  have htail : tail n head l = (head + 0) % n := by
    unfold tail
    rw [heq, Nat.add_mod_right, add_zero]
  have hpos : 0 < l.length := heq ▸ Nat.zero_lt_of_lt h.head_lt
  exact htail ▸ h.index_full hpos

theorem free_tail (hroom : l.length < n) : ¬ full (tail n head l) := by
  intro hfull
  obtain ⟨i, hi, heq⟩ := (h.full_iff _ (Nat.mod_lt _ (Nat.zero_lt_of_lt h.head_lt))).mp hfull
  exact Nat.ne_of_lt hi (index_inj (hi.trans hroom) hroom heq)

theorem push (hfree : ¬ full (tail n head l)) : Holds n (fun k => k = tail n head l ∨ full k)
    (Function.update cell (tail n head l) b) head (l ++ [b]) := by
  have hlt := h.length_lt hfree
  have hlen : (l ++ [b]).length = l.length + 1 := by rw [List.length_append, List.length_singleton]
  refine ⟨h.head_lt, hlen ▸ hlt, fun k hk => ?_, fun i hi => ?_⟩
  · rw [hlen]
    constructor
    · rintro (rfl | hk')
      · exact ⟨l.length, Nat.lt_succ_self _, rfl⟩
      · obtain ⟨i, hi, rfl⟩ := (h.full_iff k hk).mp hk'
        exact ⟨i, Nat.lt_succ_of_lt hi, rfl⟩
    · rintro ⟨i, hi, rfl⟩
      rcases Nat.lt_succ_iff_lt_or_eq.mp hi with hi | rfl
      · exact Or.inr (h.index_full hi)
      · exact Or.inl rfl
  · rw [hlen] at hi
    rcases Nat.lt_succ_iff_lt_or_eq.mp hi with hi | rfl
    · have hne : (head + i) % n ≠ tail n head l := fun heq =>
        Nat.ne_of_lt hi (index_inj (hi.trans hlt) hlt heq)
      rw [Function.update_of_ne hne, h.cell_eq i hi, List.getElem_append_left hi]
    · rw [List.getElem_concat_length rfl]
      exact Function.update_self ..

theorem pop (hhead : full head) : ∃ rest, l = cell head :: rest ∧
    Holds n (fun k => k ≠ head ∧ full k) cell ((head + 1) % n) rest := by
  have hzero : (head + 0) % n = head := by rw [add_zero, Nat.mod_eq_of_lt h.head_lt]
  obtain ⟨i, hi, -⟩ := (h.full_iff head h.head_lt).mp hhead
  cases l with
  | nil => exact absurd hi (Nat.not_lt_zero i)
  | cons x rest =>
    have hx : cell head = x := by
      have hcell := h.cell_eq 0 (Nat.succ_pos _)
      rw [hzero] at hcell
      exact hcell
    have hle : rest.length + 1 ≤ n := h.length_le
    have hnext : ∀ j, ((head + 1) % n + j) % n = (head + (j + 1)) % n := by
      intro j
      rw [Nat.mod_add_mod]
      congr 1
      ring
    refine ⟨rest, by rw [hx], Nat.mod_lt _ (Nat.zero_lt_of_lt h.head_lt), Nat.le_of_succ_le hle,
      fun k hk => ?_, fun j hj => ?_⟩
    · rw [h.full_iff k hk]
      constructor
      · rintro ⟨hne, i, hi, rfl⟩
        cases i with
        | zero => exact absurd hzero hne
        | succ j => exact ⟨j, Nat.lt_of_succ_lt_succ hi, hnext j⟩
      · rintro ⟨j, hj, rfl⟩
        refine ⟨fun heq => ?_, j + 1, Nat.succ_lt_succ hj, (hnext j).symm⟩
        rw [hnext j] at heq
        exact absurd (index_inj (by omega) (Nat.zero_lt_of_lt h.head_lt) (heq.trans hzero.symm)) (Nat.succ_ne_zero j)
    · rw [hnext j, h.cell_eq (j + 1) (Nat.succ_lt_succ hj)]
      rfl

theorem eq_nil (hhead : ¬ full head) : l = [] := by
  cases l with
  | nil => rfl
  | cons x rest =>
    have hfull := h.index_full (i := 0) (Nat.succ_pos _)
    rw [add_zero, Nat.mod_eq_of_lt h.head_lt] at hfull
    exact absurd hfull hhead

end Holds

end Ring
