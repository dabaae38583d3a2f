import Mathlib.Data.List.Basic
import Mathlib.Data.List.GetD
import Mathlib.Data.Nat.Notation
import Mathlib.Tactic
import Mathlib.Logic.Equiv.Basic
import Mathlib.Order.Basic

/-! Two ways to filter an array in place. The one moves every kept entry to the next free place, and the first places
are then the kept entries. The other blanks the entries that are dropped where they stand and counts the kept ones: the
first places are the kept entries only if no dropped entry stood before a kept one. -/
namespace InPlaceFilter
set_option autoImplicit false

variable {α : Type*}

/-- Every kept entry is moved to the next free place: `n` entries from `i` on, `kept` places are taken. -/
def compactLoop (p : α → Bool) (d : α) : ℕ → ℕ → ℕ → List α → List α × ℕ
  | 0, _, kept, out => (out, kept)
  | n + 1, i, kept, out =>
    if p (out.getD i d) then compactLoop p d n (i + 1) (kept + 1) (out.set kept (out.getD i d))
    else compactLoop p d n (i + 1) kept out

def blanked (p : α → Bool) (z : α) (l : List α) : List α := l.map fun a => if p a then a else z

theorem filter_blanked {p q : α → Bool} {z : α} (hq : ∀ a, q a = true → p a = true) (hz : ¬ q z = true) (l : List α) :
    (blanked p z l).filter q = l.filter q := by
  induction l with
  | nil => rfl
  | cons a l ih =>
    rw [blanked, List.map_cons]
    by_cases ha : p a = true
    · rw [if_pos ha, List.filter_cons, List.filter_cons]
      exact congrArg (fun l' => if q a = true then a :: l' else l') ih
    · rw [if_neg ha, List.filter_cons_of_neg hz, List.filter_cons_of_neg fun h => ha (hq a h)]
      exact ih

/-- In front of the cursor stand the entries kept so far and what is no longer needed. -/
theorem compactLoop_eq (p : α → Bool) (d : α) (rest kept junk behind : List α) :
    ∃ junk', compactLoop p d rest.length (kept.length + junk.length) kept.length (kept ++ junk ++ (rest ++ behind)) =
      (kept ++ rest.filter p ++ junk' ++ behind, kept.length + (rest.filter p).length) := by
  induction rest generalizing kept junk with
  | nil => exact ⟨junk, by rw [List.filter_nil, List.append_nil, List.nil_append]; rfl⟩
  | cons a rest ih =>
    have hget : (kept ++ junk ++ (a :: rest ++ behind)).getD (kept.length + junk.length) d = a := by
      rw [List.getD_append_right _ _ _ _ (by rw [List.length_append]), List.length_append, Nat.sub_self]
      rfl
    rw [List.length_cons, compactLoop, hget]
    by_cases ha : p a = true
    · rw [if_pos ha, List.filter_cons_of_pos ha]
      cases junk with
      | nil =>
        obtain ⟨junk', h⟩ := ih (kept ++ [a]) []
        have hset : (kept ++ [] ++ (a :: rest ++ behind)).set kept.length a = kept ++ [a] ++ [] ++ (rest ++ behind) := by
          rw [List.append_nil, List.append_nil, List.set_append_right _ _ (Nat.le_refl _), Nat.sub_self,
            List.append_assoc]
          rfl
        refine ⟨junk', ?_⟩
        rw [hset]
        rw [List.length_append, List.length_singleton] at h
        simp only [List.length_nil, Nat.add_zero] at h ⊢
        rw [h, List.append_assoc kept, List.singleton_append, List.length_cons]
        exact congrArg _ (by omega)
      | cons b junk =>
        obtain ⟨junk', h⟩ := ih (kept ++ [a]) (junk ++ [a])
        have hset : (kept ++ b :: junk ++ (a :: rest ++ behind)).set kept.length a =
            kept ++ [a] ++ (junk ++ [a]) ++ (rest ++ behind) := by
          rw [List.append_assoc, List.set_append_right _ _ (Nat.le_refl _), Nat.sub_self]
          simp only [List.cons_append, List.set_cons_zero, List.append_assoc, List.nil_append]
        have hlen : kept.length + 1 + (junk.length + 1) = kept.length + (junk.length + 1) + 1 := by omega
        refine ⟨junk', ?_⟩
        rw [hset]
        simp only [List.length_append, List.length_cons, List.length_nil, Nat.zero_add] at h ⊢
        rw [← hlen, h, List.append_assoc kept, List.singleton_append]
        exact congrArg _ (by omega)
    · obtain ⟨junk', h⟩ := ih kept (junk ++ [a])
      have happ : kept ++ junk ++ (a :: rest ++ behind) = kept ++ (junk ++ [a]) ++ (rest ++ behind) := by
        simp only [List.append_assoc, List.cons_append, List.nil_append]
      refine ⟨junk', ?_⟩
      rw [if_neg ha, List.filter_cons_of_neg ha, happ]
      rw [List.length_append, List.length_singleton, ← Nat.add_assoc] at h
      exact h

theorem take_compactLoop (p : α → Bool) (d : α) (l behind : List α) :
    let r := compactLoop p d l.length 0 0 (l ++ behind)
    r.1.take r.2 = l.filter p ∧ r.2 = (l.filter p).length := by
  obtain ⟨junk, h⟩ := compactLoop_eq p d l [] [] behind
  rw [List.nil_append, List.nil_append, List.length_nil, Nat.zero_add] at h
  dsimp only
  rw [h, List.append_assoc]
  exact ⟨List.take_left' (Nat.zero_add _).symm, Nat.zero_add _⟩

section
variable {p : α → Bool} {z : α} {l : List α}

theorem countP_eq_zero_of_head_dropped {a : α} (h : (a :: l).Pairwise fun x y => p y = true → p x = true)
    (ha : ¬ p a = true) : l.countP p = 0 := by
  rw [List.countP_eq_zero]
  intro b hb hpb
  exact ha ((List.pairwise_cons.mp h).1 b hb hpb)

theorem take_blanked (h : l.Pairwise fun x y => p y = true → p x = true) :
    (blanked p z l).take (l.countP p) = l.filter p := by
  induction l with
  | nil => rfl
  | cons a l ih =>
    by_cases ha : p a = true
    · rw [List.countP_cons_of_pos ha, List.filter_cons_of_pos ha, blanked, List.map_cons, List.take_succ_cons,
        if_pos ha]
      exact congrArg (a :: ·) (ih h.of_cons)
    · have hnone := countP_eq_zero_of_head_dropped h ha
      rw [List.countP_cons_of_neg ha, List.filter_cons_of_neg ha, hnone, List.take_zero]
      exact (List.eq_nil_of_length_eq_zero (by rw [← List.countP_eq_length_filter, hnone])).symm

theorem blank_mem_take (h : ¬ l.Pairwise fun x y => p y = true → p x = true) :
    z ∈ (blanked p z l).take (l.countP p) := by
  induction l with
  | nil => exact absurd List.Pairwise.nil h
  | cons a l ih =>
    by_cases ha : p a = true
    · have hrest : ¬ l.Pairwise fun x y => p y = true → p x = true := fun hp =>
        h (List.pairwise_cons.mpr ⟨fun _ _ _ => ha, hp⟩)
      rw [List.countP_cons_of_pos ha, blanked, List.map_cons, List.take_succ_cons]
      exact List.mem_cons_of_mem _ (ih hrest)
    · have hpos : 0 < l.countP p := by
        rw [Nat.pos_iff_ne_zero]
        intro hzero
        rw [List.countP_eq_zero] at hzero
        exact h (List.pairwise_cons.mpr ⟨fun b hb hpb => absurd hpb (hzero b hb),
          List.pairwise_of_forall_mem_list fun x _ y hy hpy => absurd hpy (hzero y hy)⟩)
      obtain ⟨k, hk⟩ := Nat.exists_eq_succ_of_ne_zero (Nat.ne_of_gt hpos)
      rw [List.countP_cons_of_neg ha, hk, blanked, List.map_cons, List.take_succ_cons, if_neg ha]
      exact List.mem_cons_self

end

end InPlaceFilter

/-! The sort that compares each place of an array with all that are behind it and exchanges what stands in the wrong order.
Arrays are functions on places; what a sort does to them is a permutation of the places. -/
namespace ExchangeSort
set_option autoImplicit false

variable {α β : Type*} [LinearOrder β] (key : α → β)

/-- Place `i` is compared with a place behind it. -/
def compareExchange (i : ℕ) (a : ℕ → α) (j : ℕ) : ℕ → α := if key (a j) < key (a i) then a ∘ Equiv.swap i j else a

/-- Place `i` is compared with one place after the other. -/
def scan (i : ℕ) (js : List ℕ) (a : ℕ → α) : ℕ → α := js.foldl (compareExchange key i) a

/-- The passes for `count` places from `i` on, the last of which has nothing behind it. -/
def passes : ℕ → ℕ → (ℕ → α) → ℕ → α
  | 0, _, a => a
  | count + 1, i, a => passes count (i + 1) (scan key i (List.range' (i + 1) count) a)

theorem compareExchange_spec (i j : ℕ) (a : ℕ → α) : ∃ σ : Equiv.Perm ℕ, compareExchange key i a j = a ∘ σ ∧
    (∀ k, k ≠ i → k ≠ j → σ k = k) ∧ key (compareExchange key i a j i) ≤ key (compareExchange key i a j j) ∧
      key (compareExchange key i a j i) ≤ key (a i) := by
  unfold compareExchange
  by_cases h : key (a j) < key (a i)
  · rw [if_pos h]
    refine ⟨Equiv.swap i j, rfl, fun k hi hj => Equiv.swap_apply_of_ne_of_ne hi hj, ?_, ?_⟩
    · rw [Function.comp_apply, Function.comp_apply, Equiv.swap_apply_left, Equiv.swap_apply_right]
      exact h.le
    · rw [Function.comp_apply, Equiv.swap_apply_left]
      exact h.le
  · rw [if_neg h]
    exact ⟨1, rfl, fun _ _ _ => rfl, not_lt.mp h, le_rfl⟩

/-- The least of what was compared ends at `i`; no other place is touched. By induction on the places that are left. -/
theorem scan_spec {i : ℕ} {js : List ℕ} (hi : i ∉ js) (a : ℕ → α) : ∃ σ : Equiv.Perm ℕ, scan key i js a = a ∘ σ ∧
    (∀ k, k ≠ i → k ∉ js → σ k = k) ∧ (∀ j ∈ js, key (scan key i js a i) ≤ key (scan key i js a j)) ∧
      key (scan key i js a i) ≤ key (a i) := by
  induction js generalizing a with
  | nil => exact ⟨1, rfl, fun _ _ _ => rfl, fun _ h => absurd h List.not_mem_nil, le_rfl⟩
  | cons j js ih =>
    rw [List.mem_cons, not_or] at hi
    obtain ⟨τ, hτ, hfix, hle, hleft⟩ := compareExchange_spec key i j a
    obtain ⟨σ, hσ, hfix', hle', hleft'⟩ := ih hi.2 (compareExchange key i a j)
    rw [scan, List.foldl_cons]
    refine ⟨τ * σ, ?_, ?_, ?_, hleft'.trans hleft⟩
    · rw [← scan, hσ, hτ]
      rfl
    · intro k hk hkjs
      rw [List.mem_cons, not_or] at hkjs
      rw [Equiv.Perm.mul_apply, hfix' k hk hkjs.2, hfix k hk hkjs.1]
    · intro k hk
      by_cases hmem : k ∈ js
      · exact hle' k hmem
      · obtain rfl := (List.mem_cons.mp hk).resolve_right hmem
        have hsame : scan key i js (compareExchange key i a k) k = compareExchange key i a k k := by
          rw [hσ, Function.comp_apply, hfix' k (Ne.symm hi.1) hmem]
        rw [← scan, hsame]
        exact hleft'.trans hle

/-- What a permutation that leaves all places but those from `i` to `n` makes of such a place is one. -/
theorem perm_mem {σ : Equiv.Perm ℕ} {i n k : ℕ} (hfix : ∀ k, k < i ∨ n ≤ k → σ k = k) (hi : i ≤ k) (hn : k < n) :
    i ≤ σ k ∧ σ k < n := by
  by_contra h
  have hout : σ k < i ∨ n ≤ σ k := by omega
  have hsame := σ.injective (hfix (σ k) hout)
  omega

/-- **The places are sorted.** The passes from `i` on sort the places from `i` on, and touch no other. By induction on the
passes. -/
theorem passes_spec (count i : ℕ) (a : ℕ → α) : ∃ σ : Equiv.Perm ℕ, passes key count i a = a ∘ σ ∧
    (∀ k, k < i ∨ i + count ≤ k → σ k = k) ∧
      ∀ p q, i ≤ p → p < q → q < i + count → key (passes key count i a p) ≤ key (passes key count i a q) := by
  induction count generalizing i a with
  | zero => exact ⟨1, rfl, fun _ _ => rfl, fun p q hp hpq hq => absurd hq (by omega)⟩
  | succ count ih =>
    have hi : i ∉ List.range' (i + 1) count := fun h => absurd (List.mem_range'_1.mp h).1 (by omega)
    obtain ⟨τ, hτ, hfix, hle, -⟩ := scan_spec key hi a
    obtain ⟨σ, hσ, hfix', hsorted⟩ := ih (i + 1) (scan key i (List.range' (i + 1) count) a)
    rw [passes]
    refine ⟨τ * σ, ?_, ?_, ?_⟩
    · rw [hσ, hτ]
      rfl
    · intro k hk
      rw [Equiv.Perm.mul_apply, hfix' k (by omega)]
      refine hfix k (by omega) fun hmem => ?_
      obtain ⟨hlow, hhigh⟩ := List.mem_range'_1.mp hmem
      omega
    · intro p q hp hpq hq
      by_cases hfirst : p = i
      · obtain ⟨hlow, hhigh⟩ := perm_mem hfix' (show i + 1 ≤ q by omega) (by omega)
        rw [hfirst, hσ, Function.comp_apply, Function.comp_apply, hfix' i (.inl (Nat.lt_succ_self i))]
        exact hle (σ q) (List.mem_range'_1.mpr ⟨hlow, hhigh⟩)
      · exact hsorted p q (by omega) hpq (by omega)

end ExchangeSort
