import Mathlib.Data.List.Nodup
import Mathlib.Logic.Function.Basic
import Mathlib.Tactic
import Mathlib.Data.List.Perm.Basic

/-! A list of free items, and holders that have taken one of them each. An item is free or has one holder. -/
namespace FreePool
set_option autoImplicit false

variable {ι α : Type*} {free : List α} {held held' : ι → Option α} {i : ι} {x : α}

structure Kept (free : List α) (held : ι → Option α) : Prop where
  nodup : free.Nodup
  away : ∀ i x, held i = some x → x ∉ free
  single : ∀ i j x, held i = some x → held j = some x → i = j

namespace Kept

theorem start (h : free.Nodup) : Kept free (fun _ : ι => none) :=
  ⟨h, fun _ _ hx => absurd hx (by simp), fun _ _ _ hx => absurd hx (by simp)⟩

theorem take [DecidableEq ι] (h : Kept (x :: free) held) (hi : held i = none) :
    Kept free (Function.update held i (some x)) := by
  obtain ⟨hx, hfree⟩ := List.nodup_cons.mp h.nodup
  refine ⟨hfree, fun j y hj => ?_, fun j k y hj hk => ?_⟩
  · by_cases hji : j = i
    · subst hji
      rw [Function.update_self, Option.some.injEq] at hj
      exact hj ▸ hx
    · rw [Function.update_of_ne hji] at hj
      exact fun hmem => h.away j y hj (List.mem_cons_of_mem x hmem)
  · by_cases hji : j = i <;> by_cases hki : k = i
    · rw [hji, hki]
    · subst hji
      rw [Function.update_self, Option.some.injEq] at hj
      rw [Function.update_of_ne hki] at hk
      exact absurd List.mem_cons_self (hj ▸ h.away k y hk)
    · subst hki
      rw [Function.update_self, Option.some.injEq] at hk
      rw [Function.update_of_ne hji] at hj
      exact absurd List.mem_cons_self (hk ▸ h.away j y hj)
    · rw [Function.update_of_ne hji] at hj
      rw [Function.update_of_ne hki] at hk
      exact h.single j k y hj hk

theorem give [DecidableEq ι] (h : Kept free held) (hi : held i = some x) :
    Kept (free ++ [x]) (Function.update held i none) := by
  have hx := h.away i x hi
  have hold : ∀ j y, Function.update held i none j = some y → j ≠ i ∧ held j = some y := by
    intro j y hj
    by_cases hji : j = i
    · subst hji
      simp at hj
    · rw [Function.update_of_ne hji] at hj
      exact ⟨hji, hj⟩
  refine ⟨?_, fun j y hj => ?_, fun j k y hj hk => h.single j k y (hold j y hj).2 (hold k y hk).2⟩
  · rw [List.nodup_append]
    refine ⟨h.nodup, List.nodup_singleton x, fun a ha b hb heq => ?_⟩
    rw [List.mem_singleton] at hb
    exact hx (hb ▸ heq ▸ ha)
  · obtain ⟨hji, hj⟩ := hold j y hj
    intro hmem
    rcases List.mem_append.mp hmem with hfree | hlast
    · exact h.away j y hj hfree
    · rw [List.mem_singleton] at hlast
      exact hji (h.single j i x (hlast ▸ hj) hi)

theorem rotate (h : Kept (x :: free) held) : Kept (free ++ [x]) held := by
  refine ⟨?_, fun i y hi hmem => ?_, h.single⟩
  · exact (List.perm_append_singleton x free).nodup_iff.mpr h.nodup
  · exact h.away i y hi ((List.perm_append_singleton x free).mem_iff.mp hmem)

end Kept

end FreePool

/-! A ledger: items arrive, some are still held, and all pieces of the others have been given back, each of
them once. Of one item that is held some pieces may have been given back already. -/
namespace Ledger
set_option autoImplicit false

variable {α β : Type*} {pieces : α → List β} {arrived held held' : List α} {partly back x : List β} {a : α}

/-- `partly` are the pieces that were given back of what is held. -/
def Balanced (pieces : α → List β) (arrived held : List α) (partly back : List β) : Prop :=
  ∃ gone : List α, arrived.Perm (gone ++ held) ∧ back.Perm (gone.flatMap pieces ++ partly)

namespace Balanced

theorem start : Balanced pieces [] [] [] [] := ⟨[], .nil, .nil⟩

theorem arrive (h : Balanced pieces arrived held partly back) (a : α) :
    Balanced pieces (arrived ++ [a]) (held ++ [a]) partly back := by
  obtain ⟨gone, hin, hout⟩ := h
  refine ⟨gone, ?_, hout⟩
  rw [← List.append_assoc]
  exact hin.append_right [a]

theorem refuse (h : Balanced pieces arrived held partly back) (hx : x.Perm (pieces a)) :
    Balanced pieces (arrived ++ [a]) held partly (back ++ x) := by
  obtain ⟨gone, hin, hout⟩ := h
  refine ⟨a :: gone, ?_, ?_⟩
  · exact (List.perm_append_singleton a arrived).trans (hin.cons a)
  · rw [List.flatMap_cons, List.append_assoc]
    exact (hout.append hx).trans List.perm_append_comm

theorem give (h : Balanced pieces arrived held [] back) (x : List β) : Balanced pieces arrived held x (back ++ x) := by
  obtain ⟨gone, hin, hout⟩ := h
  rw [List.append_nil] at hout
  exact ⟨gone, hin, hout.append_right x⟩

theorem settle (h : Balanced pieces arrived (a :: held) partly back) (hx : (partly ++ x).Perm (pieces a)) :
    Balanced pieces arrived held [] (back ++ x) := by
  obtain ⟨gone, hin, hout⟩ := h
  refine ⟨a :: gone, hin.trans List.perm_middle, ?_⟩
  have hall : (back ++ x).Perm (gone.flatMap pieces ++ pieces a) := by
    have hx' := hx.append_left (gone.flatMap pieces)
    rw [← List.append_assoc] at hx'
    exact (hout.append_right x).trans hx'
  rw [List.append_nil, List.flatMap_cons]
  exact hall.trans List.perm_append_comm

theorem closed (h : Balanced pieces arrived [] [] back) : back.Perm (arrived.flatMap pieces) := by
  obtain ⟨gone, hin, hout⟩ := h
  rw [List.append_nil] at hin hout
  exact hout.trans (hin.symm.flatMap_right pieces)

theorem given (h : Balanced pieces arrived held partly back) (hpartly : ∀ b ∈ partly, ∃ a ∈ held, b ∈ pieces a)
    {b : β} (hb : b ∈ back) : ∃ a ∈ arrived, b ∈ pieces a := by
  obtain ⟨gone, hin, hout⟩ := h
  rcases List.mem_append.mp (hout.mem_iff.mp hb) with hgone | hheld
  · obtain ⟨a, ha, hb⟩ := List.mem_flatMap.mp hgone
    exact ⟨a, hin.mem_iff.mpr (List.mem_append_left held ha), hb⟩
  · obtain ⟨a, ha, hb⟩ := hpartly b hheld
    exact ⟨a, hin.mem_iff.mpr (List.mem_append_right gone ha), hb⟩

end Balanced

end Ledger
