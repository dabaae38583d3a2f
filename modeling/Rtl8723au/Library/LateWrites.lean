import Mathlib.Logic.Function.Basic
import Mathlib.Tactic

/-! Writes that wait in a queue and find their cell only when their turn comes. Who owns a cell may have
changed by then; the lemmas say what a change of owner does to the cells the queue will leave. -/
namespace LateWrites
set_option autoImplicit false

variable {K C V : Type*} [DecidableEq C]

/-- A value for the cell of an owner, or a cell to be cleared. -/
inductive Write (K C V : Type*) where
  | put (k : K) (v : V)
  | clear (c : C)

/-- A write takes its turn; one for nobody is dropped. -/
def exec (cell : K → Option C) (empty : V) (cells : C → V) : Write K C V → C → V
  | .put k v =>
    match cell k with
    | some c => Function.update cells c v
    | none => cells
  | .clear c => Function.update cells c empty

def flush (cell : K → Option C) (empty : V) (q : List (Write K C V)) (cells : C → V) : C → V :=
  q.foldl (exec cell empty) cells

/-- The last write of the queue that meets cell `c`, should `k` own it, is one of `k`. -/
def endsWith [DecidableEq K] (k : K) (c : C) (q : List (Write K C V)) : Bool :=
  q.foldl (fun b w =>
    match w with
    | .put k' _ => b || decide (k' = k)
    | .clear c' => b && decide (c' ≠ c)) false

variable {cell cell' : K → Option C} {empty : V} {cells cells' : C → V} {q : List (Write K C V)} {k : K}
  {c c' : C}

theorem exec_put {v : V} (h : cell k = some c) :
    exec cell empty cells (.put k v) = Function.update cells c v := by
  simp only [exec, h]

theorem exec_put_none {v : V} (h : cell k = none) : exec cell empty cells (.put k v) = cells := by
  simp only [exec, h]

theorem exec_put_of_ne {v : V} (h : cell k ≠ some c) : exec cell empty cells (.put k v) c = cells c := by
  cases hcell : cell k with
  | none => rw [exec_put_none hcell]
  | some c' =>
    rw [exec_put hcell]
    apply Function.update_of_ne
    rintro rfl
    exact h hcell

theorem exec_clear : exec cell empty cells (.clear c : Write K C V) = Function.update cells c empty := rfl

theorem flush_cons (w : Write K C V) :
    flush cell empty (w :: q) cells = flush cell empty q (exec cell empty cells w) := rfl

theorem flush_append (w : Write K C V) :
    flush cell empty (q ++ [w]) cells = exec cell empty (flush cell empty q cells) w := by
  unfold flush
  rw [List.foldl_append]
  rfl

theorem flush_congr_of_ne (hothers : ∀ k', k' ≠ k → cell' k' = cell k') (hk : cell k ≠ some c')
    (hk' : cell' k ≠ some c') (h : cells' c' = cells c') :
    flush cell' empty q cells' c' = flush cell empty q cells c' := by
  induction q generalizing cells cells' with
  | nil => exact h
  | cons w q ih =>
    rw [flush_cons, flush_cons]
    apply ih
    cases w with
    | clear c =>
      rw [exec_clear, exec_clear]
      by_cases heq : c' = c
      · rw [heq, Function.update_self, Function.update_self]
      · rw [Function.update_of_ne heq, Function.update_of_ne heq, h]
    | put k₁ v =>
      by_cases heq : k₁ = k
      · rw [heq, exec_put_of_ne hk', exec_put_of_ne hk, h]
      · have hsame := hothers k₁ heq
        cases hcell : cell k₁ with
        | none => rw [exec_put_none (hsame.trans hcell), exec_put_none hcell, h]
        | some c =>
          rw [exec_put (hsame.trans hcell), exec_put hcell]
          by_cases hc : c' = c
          · rw [hc, Function.update_self, Function.update_self]
          · rw [Function.update_of_ne hc, Function.update_of_ne hc, h]

/-- An owner that comes to a cell nobody had finds it as it was left, unless the queue ends with an old
write of its own. -/
theorem flush_of_new [DecidableEq K] (hothers : ∀ k', k' ≠ k → cell' k' = cell k')
    (hnobody : ∀ k', k' ≠ k → cell k' ≠ some c) (hends : endsWith k c q = false) :
    flush cell' empty q cells c = flush cell empty q cells c := by
  suffices hgen : ∀ (b : Bool) (x y : C → V), (b = false → x c = y c) →
      q.foldl (fun b w =>
        match w with
        | .put k' _ => b || decide (k' = k)
        | .clear c' => b && decide (c' ≠ c)) b = false →
      flush cell' empty q x c = flush cell empty q y c from hgen false cells cells (fun _ => rfl) hends
  clear hends
  induction q with
  | nil => exact fun b x y h hb => h hb
  | cons w q ih =>
    intro b x y h hb
    rw [flush_cons, flush_cons]
    refine ih _ _ _ (fun hb' => ?_) hb
    cases w with
    | clear c' =>
      rw [exec_clear, exec_clear]
      by_cases heq : c = c'
      · rw [heq, Function.update_self, Function.update_self]
      · rw [Function.update_of_ne heq, Function.update_of_ne heq]
        apply h
        simpa [Ne.symm heq] using hb'
    | put k' v =>
      have hparts : b = false ∧ k' ≠ k := by simpa using hb'
      have hnot := hnobody k' hparts.2
      rw [exec_put_of_ne hnot, exec_put_of_ne (hothers k' hparts.2 ▸ hnot)]
      exact h hparts.1

end LateWrites
