import Rtl8723au.Recv.Reorder

/-! The invariant of the reorder buffer: the queue ordered inside the window, the
frames handed up so far in order, and the last of these tied to the window. An
arrival or a timeout first moves the window (`Advancing`), then drains the queue. -/
namespace Rtl8723au.Reorder
open SerialNumber
set_option autoImplicit false

section Invariant
variable {F : Type} (seqOf : F → ℕ)

/-- Frame `n` may be handed up right after frame `d`. -/
def NextInOrder (d n : F) : Prop :=
  1 ≤ ahead 4096 (seqOf d) (seqOf n) ∧ ahead 4096 (seqOf d) (seqOf n) ≤ 2048

/-- The window starts at `w`, holds the queue `q`, and `log` went up already. -/
structure InWindow (w : ℕ) (q log : List F) : Prop where
  lt : w < 4096
  seq_lt : ∀ f ∈ q, seqOf f < 4096
  ordered : OrderedFrom 4096 seqOf w q
  offset : ∀ f ∈ q, 1 ≤ ahead 4096 w (seqOf f) ∧ ahead 4096 w (seqOf f) ≤ 63
  chain : log.IsChain (NextInOrder seqOf)
  last : ∀ l ∈ log.getLast?, 1 ≤ ahead 4096 (seqOf l) w ∧ (q = [] → ahead 4096 (seqOf l) w = 1) ∧
    ∀ h ∈ q.head?, ahead 4096 (seqOf l) w + ahead 4096 w (seqOf h) ≤ 2048

/-- The window has moved from `base` to `w`, the queue is not drained yet. -/
structure Advancing (base w : ℕ) (q log : List F) : Prop where
  lt : w < 4096
  ne_nil : q ≠ []
  moved : ahead 4096 base w < 2048
  seq_lt : ∀ f ∈ q, seqOf f < 4096
  ordered : OrderedFrom 4096 seqOf base q
  near : ∀ f ∈ q, ahead 4096 base (seqOf f) < 2048 ∧ ahead 4096 base (seqOf f) ≤ ahead 4096 base w + 63
  reach : ahead 4096 base w ≤ 1 ∨ ∃ f ∈ q, ahead 4096 base w ≤ ahead 4096 base (seqOf f)
  chain : log.IsChain (NextInOrder seqOf)
  last : ∀ l ∈ log.getLast?, 1 ≤ ahead 4096 (seqOf l) base ∧
    ∀ h ∈ q.head?, ahead 4096 (seqOf l) base + ahead 4096 base (seqOf h) ≤ 2048

variable {seqOf}

/-! ## Moving the window -/

theorem InWindow.force {w : ℕ} {h : F} {rest log : List F} (hI : InWindow seqOf w (h :: rest) log) :
    Advancing seqOf w (seqOf h) (h :: rest) log where
  lt := hI.seq_lt h List.mem_cons_self
  ne_nil := by simp
  moved := by
    have := (hI.offset h List.mem_cons_self).2
    omega
  seq_lt := hI.seq_lt
  ordered := hI.ordered
  near := by
    intro f hf
    have := (hI.offset f hf).2
    omega
  reach := .inr ⟨h, List.mem_cons_self, le_rfl⟩
  chain := hI.chain
  last := fun l hl => ⟨(hI.last l hl).1, (hI.last l hl).2.2⟩

/-- A frame ahead of the window's start goes to its place, and the window moves so that it fits. -/
theorem InWindow.insert {w w' : ℕ} {q log : List F} {f : F} {n : ℕ} (hI : InWindow seqOf w q log)
    (hw' : w' < 4096) (hf : seqOf f < 4096) (hd : ahead 4096 w (seqOf f) < 2048)
    (hshift : ahead 4096 w w' = windowShift (ahead 4096 w (seqOf f)))
    (hbefore : ∀ x ∈ q.take n, ahead 4096 w (seqOf x) < ahead 4096 w (seqOf f))
    (hafter : ∀ x ∈ q.drop n, ahead 4096 w (seqOf f) < ahead 4096 w (seqOf x)) :
    Advancing seqOf w w' (q.take n ++ f :: q.drop n) log := by
  have hmem : ∀ x ∈ q.take n ++ f :: q.drop n, x = f ∨ x ∈ q := by
    intro x hx
    rcases List.mem_append.mp hx with hx | hx
    · exact .inr (List.mem_of_mem_take hx)
    · rcases List.mem_cons.mp hx with rfl | hx
      · exact .inl rfl
      · exact .inr (List.mem_of_mem_drop hx)
  have hsplit : OrderedFrom 4096 seqOf w (q.take n ++ q.drop n) := by
    rw [List.take_append_drop]
    exact hI.ordered
  obtain ⟨hpre, hpost, hcross⟩ := orderedFrom_append.mp hsplit
  refine ⟨hw', by simp, ?_, ?_, ?_, ?_, ?_, hI.chain, ?_⟩
  · rw [hshift, windowShift]
    split <;> omega
  · intro x hx
    rcases hmem x hx with rfl | hx
    · exact hf
    · exact hI.seq_lt x hx
  · refine orderedFrom_append.mpr ⟨hpre, orderedFrom_cons.mpr ⟨hafter, hpost⟩, ?_⟩
    intro x hx y hy
    rcases List.mem_cons.mp hy with rfl | hy
    · exact hbefore x hx
    · exact hcross x hx y hy
  · intro x hx
    rw [hshift, windowShift]
    rcases hmem x hx with rfl | hx
    · split <;> omega
    · have := (hI.offset x hx).2
      omega
  · rw [hshift, windowShift]
    split
    · exact .inl le_rfl
    · exact .inr ⟨f, by simp, Nat.sub_le _ _⟩
  · intro l hl
    obtain ⟨h1, h2, h3⟩ := hI.last l hl
    refine ⟨h1, ?_⟩
    -- the head is either the old head or the new frame in front of it
    intro h hh
    cases hq : q with
    | nil =>
      rw [hq] at hh
      have hhf : f = h := by simpa using hh
      have := h2 hq
      rw [← hhf]
      omega
    | cons x rest =>
      have hold := h3 x (by rw [hq]; rfl)
      cases n with
      | zero =>
        rw [hq] at hh hafter
        have hhf : f = h := by simpa using hh
        have := hafter x (by simp)
        rw [← hhf]
        omega
      | succ n =>
        rw [hq] at hh
        have hhx : x = h := by simpa using hh
        rw [← hhx]
        exact hold

/-! ## Draining the queue -/

theorem Advancing.drained {base w : ℕ} {q log : List F} (hA : Advancing seqOf base w q log) :
    Drained seqOf base w q :=
  drain_spec seqOf base w q hA.lt hA.ordered (fun f hf => ⟨hA.seq_lt f hf, (hA.near f hf).1⟩)
    fun _ => hA.moved

theorem nextInOrder_of_lt {base : ℕ} {x y : F} (hxy : ahead 4096 base (seqOf x) < ahead 4096 base (seqOf y))
    (hy : ahead 4096 base (seqOf y) < 2048) : NextInOrder seqOf x y := by
  have e := ahead_rebase 4096 base (seqOf x) (seqOf y) (by norm_num) hxy.le
  rw [NextInOrder, e]
  omega

theorem Advancing.chain_taken {base w : ℕ} {q log : List F} (hA : Advancing seqOf base w q log) :
    (log ++ (drain seqOf w q).2.1).IsChain (NextInOrder seqOf) := by
  have hq := drain_append seqOf w q
  have hord := hA.ordered
  rw [← hq, orderedFrom_append] at hord
  have hmem : ∀ x ∈ (drain seqOf w q).2.1, x ∈ q := fun x hx => by
    rw [← hq]
    exact List.mem_append_left _ hx
  have htaken : (drain seqOf w q).2.1.Pairwise (NextInOrder seqOf) := by
    refine List.Pairwise.imp_of_mem ?_ hord.1
    intro x y _ hy hxy
    exact nextInOrder_of_lt hxy (hA.near y (hmem y hy)).1
  rw [List.isChain_append]
  refine ⟨hA.chain, htaken.isChain, ?_⟩
  intro l hl h hh
  have hhq : h ∈ q.head? := by
    cases ht : (drain seqOf w q).2.1 with
    | nil => simp [ht] at hh
    | cons y tl =>
      have hyh : y = h := by simpa [ht] using hh
      rw [← hq, ht, ← hyh]
      rfl
  obtain ⟨h1, h2⟩ := hA.last l hl
  have h3 := h2 h hhq
  have e := ahead_trans 4096 (seqOf l) base (seqOf h) (by norm_num) (by omega)
  rw [NextInOrder, e]
  omega

/-- **Draining restores the invariant**: what is left lies strictly inside the window, and what
went up ends right behind it. -/
theorem Advancing.drain {base w : ℕ} {q log : List F} (hA : Advancing seqOf base w q log) :
    InWindow seqOf (Reorder.drain seqOf w q).1 (Reorder.drain seqOf w q).2.2
      (log ++ (Reorder.drain seqOf w q).2.1) := by
  obtain ⟨hlt, hle, htaken, hkept, hstop⟩ := hA.drained
  have hq := drain_append seqOf w q
  have hchain := hA.chain_taken
  have hord := hA.ordered
  rw [← hq, orderedFrom_append] at hord
  obtain ⟨-, hord, hcross⟩ := hord
  have hmem : ∀ x ∈ (Reorder.drain seqOf w q).2.2, x ∈ q := fun x hx => by
    rw [← hq]
    exact List.mem_append_right _ hx
  have hmemt : ∀ x ∈ (Reorder.drain seqOf w q).2.1, x ∈ q := fun x hx => by
    rw [← hq]
    exact List.mem_append_left _ hx
  generalize Reorder.drain seqOf w q = r at *
  obtain ⟨w', taken, rest⟩ := r
  simp only at *
  have hrebase : ∀ x ∈ rest, ahead 4096 w' (seqOf x) = ahead 4096 base (seqOf x) - ahead 4096 base w' :=
    fun x hx => ahead_rebase 4096 base w' (seqOf x) (by norm_num) (hkept x hx).le
  refine ⟨hlt, fun x hx => hA.seq_lt x (hmem x hx),
    hord.rebase (by norm_num) fun x hx => (hkept x hx).le, ?_, hchain, ?_⟩
  · intro x hx
    have h1 := hkept x hx
    have h2 := (hA.near x (hmem x hx)).2
    rw [hrebase x hx]
    omega
  · intro l hl
    rw [List.getLast?_append] at hl
    cases ht : taken.getLast? with
    | none =>
      -- nothing went up: the window stood still, the old last frame still leads to it
      have htn : taken = [] := List.getLast?_eq_none_iff.mp ht
      subst htn
      have hl' : l ∈ log.getLast? := by simpa using hl
      obtain ⟨h1, h2⟩ := hA.last l hl'
      have hqr : rest = q := by simpa using hq
      obtain ⟨h, tl, hh⟩ := List.exists_cons_of_ne_nil hA.ne_nil
      have h3 := h2 h (by simp [hh])
      have h4 := hkept h (by simp [hqr, hh])
      have e := ahead_trans 4096 (seqOf l) base w' (by norm_num) (by omega)
      refine ⟨by omega, by simp [hqr, hh], ?_⟩
      intro h' hh'
      have hhh : h = h' := by simpa [hqr, hh] using hh'
      rw [← hhh, hrebase h (by simp [hqr, hh]), e]
      omega
    | some g =>
      have hlg : g = l := by simpa [ht] using hl
      subst hlg
      have hg : g ∈ taken := List.mem_of_getLast? ht
      have h1 := htaken g hg
      have e := ahead_rebase 4096 base (seqOf g) w' (by norm_num) h1.le
      refine ⟨by omega, ?_, ?_⟩
      · rintro rfl
        rcases hstop with hs | ⟨g', hg', hs⟩
        · -- the window did not move: then it stood one past the base, and `g` is the base itself
          rcases hA.reach with hr | ⟨f, hf, hr⟩
          · omega
          · have hft : f ∈ taken := by simpa [← hq] using hf
            have := htaken f hft
            omega
        · have hgg : g = g' := by simpa [ht] using hg'
          rw [← hgg] at hs
          omega
      · intro h hh
        have hhr : h ∈ rest := List.mem_of_mem_head? hh
        have h2 := hcross g hg h hhr
        have h3 := (hA.near h (hmem h hhr)).1
        have h4 := hkept h hhr
        rw [hrebase h hhr]
        omega

end Invariant

end Rtl8723au.Reorder
