import Mathlib.Logic.Relation
import Mathlib.Order.WellFounded
import Mathlib.Tactic
import Mathlib.Data.List.Basic

/-! Loops that go on until a pass returns. The count of passes that is allowed is not part of the loop: once it has
returned, more passes change nothing. -/
namespace WhileLoop
open Relation
set_option autoImplicit false

variable {S R : Type*}

/-- At most so many passes, each of which returns or goes on with another state. -/
def passes (pass : S → R ⊕ S) : ℕ → S → Option R
  | 0, _ => none
  | fuel + 1, s =>
    match pass s with
    | .inl r => some r
    | .inr t => passes pass fuel t

def Comes (pass : S → R ⊕ S) : S → S → Prop := ReflTransGen fun s t => pass s = .inr t

section
variable {pass : S → R ⊕ S} {s t : S} {r : R} {fuel : ℕ}

theorem passes_return (h : pass s = .inl r) : passes pass (fuel + 1) s = some r := by
  rw [passes, h]

theorem passes_next (h : pass s = .inr t) : passes pass (fuel + 1) s = passes pass fuel t := by
  rw [passes, h]

theorem passes_mono {fuel' : ℕ} (h : passes pass fuel s = some r) (hle : fuel ≤ fuel') : passes pass fuel' s = some r := by
  induction fuel generalizing s fuel' with
  | zero => cases h
  | succ fuel ih =>
    obtain ⟨fuel', rfl⟩ := Nat.exists_eq_succ_of_ne_zero (Nat.ne_zero_of_lt (Nat.lt_of_succ_le hle))
    cases hpass : pass s with
    | inl r' =>
      rw [passes_return hpass] at h ⊢
      exact h
    | inr t =>
      rw [passes_next hpass] at h ⊢
      exact ih h (Nat.le_of_succ_le_succ hle)

theorem passes_eq_some_iff : (∃ fuel, passes pass fuel s = some r) ↔ ∃ t, Comes pass s t ∧ pass t = .inl r := by
  constructor
  · rintro ⟨fuel, h⟩
    induction fuel generalizing s with
    | zero => cases h
    | succ fuel ih =>
      cases hpass : pass s with
      | inl r' =>
        rw [passes_return hpass] at h
        cases h
        exact ⟨s, ReflTransGen.refl, hpass⟩
      | inr u =>
        rw [passes_next hpass] at h
        obtain ⟨t, hcomes, ht⟩ := ih h
        exact ⟨t, ReflTransGen.head hpass hcomes, ht⟩
  · rintro ⟨t, hcomes, ht⟩
    induction hcomes using ReflTransGen.head_induction_on with
    | refl => exact ⟨1, passes_return ht⟩
    | head hpass _ ih =>
      obtain ⟨fuel, h⟩ := ih
      exact ⟨fuel + 1, (passes_next hpass).trans h⟩

theorem returns_of_descends {α : Type*} [Preorder α] [WellFoundedLT α] (size : S → α)
    (h : ∀ t u, Comes pass s t → pass t = .inr u → size u < size t) : ∃ fuel r, passes pass fuel s = some r := by
  induction hs : size s using WellFoundedLT.induction generalizing s with
  | ind a ih =>
    subst hs
    cases hpass : pass s with
    | inl r => exact ⟨1, r, passes_return hpass⟩
    | inr u =>
      have hless := h s u ReflTransGen.refl hpass
      obtain ⟨fuel, r, hrun⟩ := ih (size u) hless (fun v w hv => h v w (ReflTransGen.head hpass hv)) rfl
      exact ⟨fuel + 1, r, (passes_next hpass).trans hrun⟩

end

end WhileLoop

/-! Runs of a step relation, and loops whose rounds are such runs. A loop is a fold over a list that is
fixed before it starts; its invariant speaks about the items that are left. -/
namespace LoopRun
open Relation
set_option autoImplicit false

section
variable {S T α : Type*} {r r' : S → S → Prop}

theorem run_invariant {I : S → Prop} (keeps : ∀ s s', I s → r s s' → I s') {s s' : S}
    (h : ReflTransGen r s s') (hi : I s) : I s' := by
  induction h with
  | refl => exact hi
  | tail _ step ih => exact keeps _ _ ih step

theorem foldl_run (proj : T → S) (f : T → α → T) (J : List α → T → Prop)
    (round : ∀ x rest t, J (x :: rest) t → ReflTransGen r (proj t) (proj (f t x)) ∧ J rest (f t x))
    (l : List α) (t : T) (hJ : J l t) :
    ReflTransGen r (proj t) (proj (l.foldl f t)) ∧ J [] (l.foldl f t) := by
  induction l generalizing t with
  | nil => exact ⟨ReflTransGen.refl, hJ⟩
  | cons x rest ih =>
    have hround := round x rest t hJ
    have hrest := ih (f t x) hround.2
    exact ⟨hround.1.trans hrest.1, hrest.2⟩

theorem foldlM_run (proj : T → S) (f : T → α → Option T) (J : List α → T → Prop)
    (round : ∀ x rest t, J (x :: rest) t →
      ∃ t', f t x = some t' ∧ ReflTransGen r (proj t) (proj t') ∧ J rest t')
    (l : List α) (t : T) (hJ : J l t) :
    ∃ t', l.foldlM f t = some t' ∧ ReflTransGen r (proj t) (proj t') ∧ J [] t' := by
  induction l generalizing t with
  | nil => exact ⟨t, rfl, ReflTransGen.refl, hJ⟩
  | cons x rest ih =>
    obtain ⟨u, hu, hrun, hJu⟩ := round x rest t hJ
    obtain ⟨t', ht', hrun', hJ'⟩ := ih u hJu
    refine ⟨t', ?_, hrun.trans hrun', hJ'⟩
    rw [List.foldlM_cons, hu]
    exact ht'

end

end LoopRun
