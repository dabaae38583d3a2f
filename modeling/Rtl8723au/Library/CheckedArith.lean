import Mathlib.Data.Int.Init
import Mathlib.Tactic

/-! Arithmetic on machine integers that keeps the exact result of every operation, so that "nothing wraps" is one
condition on a whole computation. -/
namespace CheckedArith
set_option autoImplicit false

/-- A machine integer type. -/
structure CType where
  bits : ℕ
  signed : Bool

def u8 : CType := ⟨8, false⟩
def u32 : CType := ⟨32, false⟩
def s32 : CType := ⟨32, true⟩

/-- The values of the type. -/
def CType.Holds (t : CType) (x : ℤ) : Prop :=
  if t.signed then -2 ^ (t.bits - 1) ≤ x ∧ x < 2 ^ (t.bits - 1) else 0 ≤ x ∧ x < 2 ^ t.bits

instance (t : CType) (x : ℤ) : Decidable (t.Holds x) := inferInstanceAs (Decidable (ite _ _ _))

def CType.wrap (t : CType) (x : ℤ) : ℤ := if t.signed then x.bmod (2 ^ t.bits) else x % 2 ^ t.bits

theorem holds_u8 (x : ℤ) : u8.Holds x ↔ 0 ≤ x ∧ x < 256 := Iff.rfl
theorem holds_u32 (x : ℤ) : u32.Holds x ↔ 0 ≤ x ∧ x < 4294967296 := Iff.rfl
theorem holds_s32 (x : ℤ) : s32.Holds x ↔ -2147483648 ≤ x ∧ x < 2147483648 := Iff.rfl

@[simp] theorem wrap_u8 (x : ℤ) : u8.wrap x = x % 256 := rfl
@[simp] theorem wrap_u32 (x : ℤ) : u32.wrap x = x % 4294967296 := rfl
@[simp] theorem wrap_s32 (x : ℤ) : s32.wrap x = x.bmod 4294967296 := rfl

/-- A value with the exact results of the operations that led to it, each with the type it was computed in. -/
structure Arith (α : Type) where
  value : α
  results : List (CType × ℤ)

variable {α β : Type}

instance : Monad Arith where
  pure a := ⟨a, []⟩
  bind m f := ⟨(f m.value).value, m.results ++ (f m.value).results⟩

/-- The result of an operation in the type `t`. -/
def result (t : CType) (x : ℤ) : Arith ℤ := ⟨t.wrap x, [(t, x)]⟩

/-- Every result is a value of its type. -/
def NoWrap (m : Arith α) : Prop := ∀ r ∈ m.results, r.1.Holds r.2

/-- The computation leads to `a`, and nothing wraps on the way. -/
def Yields (m : Arith α) (a : α) : Prop := m.value = a ∧ NoWrap m

theorem yields_pure (a : α) : Yields (pure a) a := ⟨rfl, fun _ h => absurd h List.not_mem_nil⟩

theorem Yields.bind {m : Arith α} {f : α → Arith β} {a : α} {b : β} (hm : Yields m a) (hf : Yields (f a) b) :
    Yields (m >>= f) b := by
  obtain ⟨rfl, hm⟩ := hm
  refine ⟨hf.1, fun r hr => ?_⟩
  rcases List.mem_append.mp hr with hr | hr
  · exact hm r hr
  · exact hf.2 r hr

theorem yields_ite {c : Prop} [Decidable c] {m n : Arith α} {a : α} (hm : c → Yields m a) (hn : ¬ c → Yields n a) :
    Yields (if c then m else n) a := by
  by_cases h : c
  · rw [if_pos h]
    exact hm h
  · rw [if_neg h]
    exact hn h

theorem yields_u8 {x : ℤ} (h0 : 0 ≤ x) (h1 : x < 256) : Yields (result u8 x) x :=
  ⟨Int.emod_eq_of_lt h0 h1, List.forall_mem_singleton.mpr ((holds_u8 x).mpr ⟨h0, h1⟩)⟩

theorem yields_u32 {x : ℤ} (h0 : 0 ≤ x) (h1 : x < 4294967296) : Yields (result u32 x) x :=
  ⟨Int.emod_eq_of_lt h0 h1, List.forall_mem_singleton.mpr ((holds_u32 x).mpr ⟨h0, h1⟩)⟩

theorem yields_s32 {x : ℤ} (h0 : -2147483648 ≤ x) (h1 : x < 2147483648) : Yields (result s32 x) x := by
  have hsmall : x.bmod 4294967296 = x := Int.bmod_eq_of_le (by omega) (by omega)
  exact ⟨hsmall, List.forall_mem_singleton.mpr ((holds_s32 x).mpr ⟨h0, h1⟩)⟩

theorem Yields.foldlM {σ : Type} {step : σ → α → Arith σ} (Inv : List α → σ → Prop) {s : σ} (hs : Inv [] s)
    (l : List α) (hstep : ∀ pre a post s, l = pre ++ a :: post → Inv pre s → ∃ s', Yields (step s a) s' ∧ Inv (pre ++ [a]) s') :
    ∃ s', Yields (l.foldlM step s) s' ∧ Inv l s' := by
  suffices h : ∀ pre post s, l = pre ++ post → Inv pre s → ∃ s', Yields (post.foldlM step s) s' ∧ Inv l s' from
    h [] l s rfl hs
  intro pre post
  induction post generalizing pre with
  | nil =>
    intro s hl hpre
    rw [List.append_nil] at hl
    subst hl
    exact ⟨s, yields_pure s, hpre⟩
  | cons a post ih =>
    intro s hl hpre
    obtain ⟨t, hyields, ht⟩ := hstep pre a post s hl hpre
    obtain ⟨s', hrest, hs'⟩ := ih (pre ++ [a]) t (by rw [hl, List.append_assoc]; rfl) ht
    refine ⟨s', ?_, hs'⟩
    rw [List.foldlM_cons]
    exact hyields.bind hrest

end CheckedArith
