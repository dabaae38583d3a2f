import Mathlib.Data.List.Perm.Basic
import Mathlib.Logic.Function.Basic
import Mathlib.Tactic

/-! Lists that are linked through one member of their elements, so that an element is in one of them at
most. A family of lists gives each list the elements linked into it. -/
namespace Intrusive
set_option autoImplicit false

variable {Q α : Type*}

/-- No element is linked in twice. -/
structure Once (ls : Q → List α) : Prop where
  nodup : ∀ q, (ls q).Nodup
  one : ∀ a q q', a ∈ ls q → a ∈ ls q' → q = q'

/-- The element is linked in nowhere. -/
def Loose (ls : Q → List α) (a : α) : Prop := ∀ q, a ∉ ls q

/-! ## Linking in -/

section Add
variable [DecidableEq Q]

/-- Links the element in at the end of a list. -/
def addTail (ls : Q → List α) (q : Q) (a : α) : Q → List α := Function.update ls q (ls q ++ [a])

variable {ls : Q → List α} {a b : α} {q q' : Q}

@[simp] theorem addTail_self (ls : Q → List α) (q : Q) (a : α) : addTail ls q a q = ls q ++ [a] :=
  Function.update_self ..

theorem addTail_of_ne (ls : Q → List α) (a : α) (h : q' ≠ q) : addTail ls q a q' = ls q' :=
  Function.update_of_ne h ..

theorem mem_addTail : b ∈ addTail ls q a q' ↔ b ∈ ls q' ∨ (b = a ∧ q' = q) := by
  by_cases h : q' = q
  · subst h
    rw [addTail_self, List.mem_append, List.mem_singleton]
    exact ⟨fun h => h.imp_right (⟨·, rfl⟩), fun h => h.imp_right (·.1)⟩
  · rw [addTail_of_ne _ _ h]
    exact ⟨Or.inl, fun hb => hb.resolve_right fun hq => h hq.2⟩

theorem mem_addTail_of_ne (h : b ≠ a) : b ∈ addTail ls q a q' ↔ b ∈ ls q' :=
  mem_addTail.trans (or_iff_left fun hb => h hb.1)

theorem Once.addTail (h : Once ls) (ha : Loose ls a) : Once (addTail ls q a) := by
  constructor
  · intro q'
    by_cases hq : q' = q
    · subst hq
      rw [addTail_self]
      refine (h.nodup q').append (List.nodup_singleton a) ?_
      intro b hb hba
      rw [List.mem_singleton] at hba
      exact ha q' (hba ▸ hb)
    · rw [addTail_of_ne _ _ hq]
      exact h.nodup q'
  · intro b q₁ q₂ h₁ h₂
    rcases mem_addTail.mp h₁ with h₁ | ⟨hb₁, hq₁⟩
    · rcases mem_addTail.mp h₂ with h₂ | ⟨hb₂, -⟩
      · exact h.one b q₁ q₂ h₁ h₂
      · exact absurd (hb₂ ▸ h₁) (ha q₁)
    · rcases mem_addTail.mp h₂ with h₂ | ⟨-, hq₂⟩
      · exact absurd (hb₁ ▸ h₂) (ha q₂)
      · rw [hq₁, hq₂]

end Add

/-! ## Unlinking -/

section Del
variable [DecidableEq α]

def delInit (ls : Q → List α) (a : α) : Q → List α := fun q => (ls q).erase a

variable {ls : Q → List α} {a b : α} {q q' : Q}

theorem delInit_of_not_mem (h : a ∉ ls q) : delInit ls a q = ls q := List.erase_of_not_mem h

theorem delInit_head {rest : List α} (h : ls q = a :: rest) : delInit ls a q = rest := by
  rw [delInit, h, List.erase_cons_head]

theorem mem_of_delInit (h : b ∈ delInit ls a q) : b ∈ ls q := List.mem_of_mem_erase h

theorem mem_delInit_of_ne (h : b ≠ a) : b ∈ delInit ls a q ↔ b ∈ ls q := List.mem_erase_of_ne h

theorem length_delInit (h : a ∈ ls q) : (delInit ls a q).length + 1 = (ls q).length := by
  rw [delInit, List.length_erase_of_mem h]
  have hpos := List.length_pos_of_mem h
  omega

theorem Loose.delInit (h : Loose ls a) : delInit ls a = ls := by
  funext q
  exact delInit_of_not_mem (h q)

namespace Once
variable (h : Once ls)
include h

theorem mem_delInit : b ∈ delInit ls a q ↔ b ∈ ls q ∧ b ≠ a := by
  rw [Intrusive.delInit, (h.nodup q).mem_erase_iff]
  exact and_comm

theorem delInit (a : α) : Once (delInit ls a) :=
  ⟨fun q => (h.nodup q).erase a,
    fun b q q' hb hb' => h.one b q q' (mem_of_delInit hb) (mem_of_delInit hb')⟩

theorem loose_delInit (a : α) : Loose (Intrusive.delInit ls a) a :=
  fun _ ha => (h.mem_delInit.mp ha).2 rfl

theorem delInit_other (ha : a ∈ ls q) (hq : q' ≠ q) : Intrusive.delInit ls a q' = ls q' :=
  delInit_of_not_mem fun ha' => hq (h.one a q' q ha' ha)

end Once

end Del

/-! ## Moving -/

section Move
variable [DecidableEq Q] [DecidableEq α]

def moveTail (ls : Q → List α) (q : Q) (a : α) : Q → List α := addTail (delInit ls a) q a

variable {ls : Q → List α} {a b : α} {q q' : Q}

theorem mem_moveTail_of_ne (h : b ≠ a) : b ∈ moveTail ls q a q' ↔ b ∈ ls q' :=
  (mem_addTail_of_ne h).trans (mem_delInit_of_ne h)

theorem Loose.moveTail (h : Loose ls a) (q : Q) : moveTail ls q a = addTail ls q a := by
  rw [Intrusive.moveTail, h.delInit]

theorem Once.moveTail (h : Once ls) (q : Q) (a : α) : Once (moveTail ls q a) :=
  (h.delInit a).addTail (h.loose_delInit a)

theorem Once.mem_moveTail (h : Once ls) :
    b ∈ Intrusive.moveTail ls q a q' ↔ (b ∈ ls q' ∧ b ≠ a) ∨ (b = a ∧ q' = q) := by
  rw [Intrusive.moveTail, mem_addTail, h.mem_delInit]

end Move

/-! ## Moving whole lists -/

/-- All that was in the lists `qs` is at the end of `q₀`. -/
structure Drained (ls ls' : Q → List α) (q₀ : Q) (qs : List Q) : Prop where
  once : Once ls'
  target : ls' q₀ = ls q₀ ++ qs.flatMap ls
  empty : ∀ q ∈ qs, ls' q = []
  other : ∀ q, q ≠ q₀ → q ∉ qs → ls' q = ls q

namespace Drained
variable {ls ls' ls'' : Q → List α} {q₀ : Q} {qs qs' : List Q}

theorem refl (h : Once ls) : Drained ls ls q₀ [] :=
  ⟨h, (List.append_nil _).symm, fun _ hq => absurd hq List.not_mem_nil, fun _ _ _ => rfl⟩

theorem trans (h : Drained ls ls' q₀ qs) (h' : Drained ls' ls'' q₀ qs') (hdisjoint : qs.Disjoint qs')
    (hqs : q₀ ∉ qs) (hqs' : q₀ ∉ qs') : Drained ls ls'' q₀ (qs ++ qs') where
  once := h'.once
  target := by
    have hsame : qs'.flatMap ls' = qs'.flatMap ls :=
      List.flatMap_congr fun q hq => h.other q (fun he => hqs' (he ▸ hq)) fun hin => hdisjoint hin hq
    rw [h'.target, h.target, hsame, List.flatMap_append, List.append_assoc]
  empty q hq := by
    by_cases hin : q ∈ qs'
    · exact h'.empty q hin
    · have hleft : q ∈ qs := (List.mem_append.mp hq).resolve_right hin
      rw [h'.other q (fun he => hqs (he ▸ hleft)) hin]
      exact h.empty q hleft
  other q h₀ hq := by
    rw [List.mem_append, not_or] at hq
    rw [h'.other q h₀ hq.2, h.other q h₀ hq.1]

end Drained

section Drain
variable [DecidableEq Q] [DecidableEq α] {ls : Q → List α} {q₀ q : Q} {qs : List Q}

/-- Each element of a list is moved to the end of `q₀`, the first first. -/
def drain (ls : Q → List α) (q₀ q : Q) : Q → List α := (ls q).foldl (fun ls a => moveTail ls q₀ a) ls

theorem drainLoop (l : List α) (ls : Q → List α) (h : Once ls) (hq : q ≠ q₀) (hl : ls q = l) :
    Once (l.foldl (fun ls a => moveTail ls q₀ a) ls) ∧
      l.foldl (fun ls a => moveTail ls q₀ a) ls q₀ = ls q₀ ++ l ∧
      l.foldl (fun ls a => moveTail ls q₀ a) ls q = [] ∧
      ∀ q', q' ≠ q₀ → q' ≠ q → l.foldl (fun ls a => moveTail ls q₀ a) ls q' = ls q' := by
  induction l generalizing ls with
  | nil => exact ⟨h, (List.append_nil _).symm, hl, fun _ _ _ => rfl⟩
  | cons a rest ih =>
    have ha : a ∈ ls q := hl ▸ List.mem_cons_self
    have htarget : moveTail ls q₀ a q₀ = ls q₀ ++ [a] := by
      rw [Intrusive.moveTail, addTail_self, h.delInit_other ha hq.symm]
    have hrest : moveTail ls q₀ a q = rest := by
      rw [Intrusive.moveTail, addTail_of_ne _ _ hq, delInit_head hl]
    obtain ⟨honce, htail, hempty, hother⟩ := ih (moveTail ls q₀ a) (h.moveTail q₀ a) hrest
    refine ⟨honce, ?_, hempty, fun q' h₀ h' => ?_⟩
    · rw [List.foldl_cons, htail, htarget, List.append_assoc]
      rfl
    · rw [List.foldl_cons, hother q' h₀ h', Intrusive.moveTail, addTail_of_ne _ _ h₀, h.delInit_other ha h']

theorem Once.drain (h : Once ls) (hq : q ≠ q₀) : Drained ls (drain ls q₀ q) q₀ [q] := by
  obtain ⟨honce, htarget, hempty, hother⟩ := drainLoop (ls q) ls h hq rfl
  refine ⟨honce, ?_, ?_, fun q' h₀ h' => hother q' h₀ fun he => h' (List.mem_singleton.mpr he)⟩
  · rw [List.flatMap_singleton]
    exact htarget
  · intro q' hq'
    rw [List.mem_singleton] at hq'
    exact hq' ▸ hempty

end Drain

/-! ## What elements carry -/

section Carry
variable {β : Type*} [Fintype α] [DecidableEq α] [DecidableEq β]

/-- How many elements carry `b`. -/
def carried (load : α → Option β) (b : β) : ℕ := ∑ a, (load a).toList.count b

theorem carried_update (load : α → Option β) (a : α) (x : Option β) (b : β) :
    carried (Function.update load a x) b + (load a).toList.count b = carried load b + x.toList.count b := by
  have hrest : ∀ c ∈ Finset.univ.erase a,
      (Function.update load a x c).toList.count b = (load c).toList.count b := by
    intro c hc
    rw [Function.update_of_ne (Finset.ne_of_mem_erase hc)]
  unfold carried
  rw [← Finset.add_sum_erase _ _ (Finset.mem_univ a), ← Finset.add_sum_erase _ _ (Finset.mem_univ a),
    Finset.sum_congr rfl hrest, Function.update_self]
  omega

theorem carried_unload (load : α → Option β) (a : α) (b : β) (done : List β) :
    (done ++ (load a).toList).count b + carried (Function.update load a none) b =
      done.count b + carried load b := by
  have hshare := carried_update load a none b
  rw [Option.toList_none, List.count_nil] at hshare
  rw [List.count_append]
  omega

theorem carried_load (load : α → Option β) (a : α) (x b : β) (h : load a = none) :
    carried (Function.update load a (some x)) b = carried load b + [x].count b := by
  have hshare := carried_update load a (some x) b
  rw [h, Option.toList_none, List.count_nil, Option.toList_some] at hshare
  omega

end Carry

end Intrusive
