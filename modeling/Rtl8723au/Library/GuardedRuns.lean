import Mathlib.Data.Option.Basic
import Mathlib.Tactic

/-! Runs of a partial step function, and runs in which each step meets a condition on the state before it. An
invariant that such steps keep holds in every state of such a run. -/
namespace GuardedRuns
set_option autoImplicit false

variable {σ ε : Type*} (step : σ → ε → Option σ) (P : σ → ε → Prop)

/-- The state after the events; nothing when one of them cannot happen. -/
def run : σ → List ε → Option σ
  | s, [] => some s
  | s, e :: l => (step s e).bind fun s' => run s' l

/-- Each event meets the condition in the state it happens in. -/
def Meets : σ → List ε → Prop
  | _, [] => True
  | s, e :: l => P s e ∧ (step s e).elim True fun s' => Meets s' l

instance decidableMeets [∀ s e, Decidable (P s e)] : ∀ s l, Decidable (Meets step P s l)
  | _, [] => isTrue trivial
  | s, e :: l =>
    match h : step s e with
    | none => decidable_of_iff (P s e) (by simp [Meets, h])
    | some s' =>
      have := decidableMeets s' l
      decidable_of_iff (P s e ∧ Meets step P s' l) (by simp [Meets, h])

variable {step P}

theorem run_cons {s s' : σ} {e : ε} {l : List ε} :
    run step s (e :: l) = some s' ↔ ∃ t, step s e = some t ∧ run step t l = some s' := by
  rw [run, Option.bind_eq_some_iff]

theorem Meets.tail {s t : σ} {e : ε} {l : List ε} (h : Meets step P s (e :: l)) (hstep : step s e = some t) :
    Meets step P t l := by
  have hrest := h.2
  rwa [hstep] at hrest

theorem Meets.cons {s : σ} {e : ε} {l : List ε} (he : P s e) (hrest : ∀ t, step s e = some t → Meets step P t l) :
    Meets step P s (e :: l) := by
  refine ⟨he, ?_⟩
  cases hstep : step s e with
  | none => trivial
  | some t => exact hrest t hstep

theorem run_inv {I : σ → Prop} (hkeep : ∀ s e s', I s → P s e → step s e = some s' → I s') {s s' : σ} {l : List ε}
    (hinit : I s) (hmeets : Meets step P s l) (hrun : run step s l = some s') : I s' := by
  induction l generalizing s with
  | nil =>
    cases hrun
    exact hinit
  | cons e l ih =>
    obtain ⟨t, hstep, hrest⟩ := run_cons.mp hrun
    exact ih (hkeep s e t hinit hmeets.1 hstep) (hmeets.tail hstep) hrest

theorem run_keeps {I : σ → Prop} (hkeep : ∀ s e s', I s → step s e = some s' → I s') {s s' : σ} {l : List ε}
    (hinit : I s) (hrun : run step s l = some s') : I s' := by
  induction l generalizing s with
  | nil =>
    cases hrun
    exact hinit
  | cons e l ih =>
    obtain ⟨t, hstep, hrest⟩ := run_cons.mp hrun
    exact ih (hkeep s e t hinit hstep) hrest

theorem run_keeps_of {I : σ → Prop} {Q : ε → Prop} (hkeep : ∀ s e s', I s → Q e → step s e = some s' → I s') {s s' : σ}
    {l : List ε} (hinit : I s) (hall : ∀ e ∈ l, Q e) (hrun : run step s l = some s') : I s' := by
  induction l generalizing s with
  | nil =>
    cases hrun
    exact hinit
  | cons e l ih =>
    obtain ⟨t, hstep, hrest⟩ := run_cons.mp hrun
    exact ih (hkeep s e t hinit (hall e List.mem_cons_self) hstep) (fun x hx => hall x (List.mem_cons_of_mem e hx)) hrest

theorem Meets.of_inv {I : σ → Prop} {Q : σ → ε → Prop} (hkeep : ∀ s e s', I s → P s e → step s e = some s' → I s')
    (hweak : ∀ s e, I s → P s e → Q s e) {s : σ} {l : List ε} (hinit : I s) (h : Meets step P s l) :
    Meets step Q s l := by
  induction l generalizing s with
  | nil => trivial
  | cons e l ih =>
    refine ⟨hweak s e hinit h.1, ?_⟩
    cases hstep : step s e with
    | none => trivial
    | some t => exact ih (hkeep s e t hinit h.1 hstep) (h.tail hstep)

theorem Meets.congr {I : σ → Prop} {Q : σ → ε → Prop} (hkeep : ∀ s e s', I s → P s e → step s e = some s' → I s')
    (hiff : ∀ s e, I s → (Q s e ↔ P s e)) {s : σ} {l : List ε} (hinit : I s) : Meets step Q s l ↔ Meets step P s l :=
  ⟨fun h => h.of_inv (fun s e s' hs he => hkeep s e s' hs ((hiff s e hs).mp he)) (fun s e hs => (hiff s e hs).mp) hinit,
    fun h => h.of_inv hkeep (fun s e hs => (hiff s e hs).mpr) hinit⟩

/-- A predicate that a step can only destroy, and does destroy when it does not meet the condition: when it holds at the
end of a run, all steps have met the condition. -/
theorem meets_of_end {J : σ → Prop} (hback : ∀ s e s', step s e = some s' → J s' → J s ∧ P s e) {s s' : σ} {l : List ε}
    (hrun : run step s l = some s') (hend : J s') : J s ∧ Meets step P s l := by
  induction l generalizing s with
  | nil =>
    cases hrun
    exact ⟨hend, trivial⟩
  | cons e l ih =>
    obtain ⟨t, hstep, hrest⟩ := run_cons.mp hrun
    obtain ⟨ht, hmeets⟩ := ih hrest
    obtain ⟨hs, he⟩ := hback s e t hstep ht
    refine ⟨hs, he, ?_⟩
    rw [hstep]
    exact hmeets

/-- The predicate holds in every state of the run. -/
def Always (step : σ → ε → Option σ) (I : σ → Prop) : σ → List ε → Prop
  | s, [] => I s
  | s, e :: l => I s ∧ (step s e).elim True fun s' => Always step I s' l

theorem Always.head {I : σ → Prop} {s : σ} {l : List ε} (h : Always step I s l) : I s := by
  cases l with
  | nil => exact h
  | cons e l => exact h.1

theorem Always.last {I : σ → Prop} {s s' : σ} {l : List ε} (h : Always step I s l) (hrun : run step s l = some s') :
    I s' := by
  induction l generalizing s with
  | nil =>
    cases hrun
    exact h
  | cons e l ih =>
    obtain ⟨t, hstep, hrest⟩ := run_cons.mp hrun
    have htail := h.2
    rw [hstep] at htail
    exact ih htail hrest

theorem Always.of_inv {I J : σ → Prop} (hkeep : ∀ s e s', I s → P s e → step s e = some s' → I s')
    (hweak : ∀ s, I s → J s) {s : σ} {l : List ε} (hinit : I s) (h : Meets step P s l) : Always step J s l := by
  induction l generalizing s with
  | nil => exact hweak s hinit
  | cons e l ih =>
    refine ⟨hweak s hinit, ?_⟩
    cases hstep : step s e with
    | none => trivial
    | some t => exact ih (hkeep s e t hinit h.1 hstep) (h.tail hstep)

/-- When steps can always be made and the condition is what a step needs to keep the predicate, it holds in every state
exactly when each step meets the condition. -/
theorem always_iff_meets {I : σ → Prop} (htotal : ∀ s e, ∃ s', step s e = some s')
    (hkeep : ∀ s e s', I s → step s e = some s' → (I s' ↔ P s e)) {s : σ} {l : List ε} (hinit : I s) :
    Always step I s l ↔ Meets step P s l := by
  induction l generalizing s with
  | nil => exact ⟨fun _ => trivial, fun _ => hinit⟩
  | cons e l ih =>
    obtain ⟨t, hstep⟩ := htotal s e
    have hiff := hkeep s e t hinit hstep
    rw [Always, Meets, hstep, Option.elim_some, Option.elim_some]
    constructor
    · rintro ⟨-, hrest⟩
      exact ⟨hiff.mp hrest.head, (ih hrest.head).mp hrest⟩
    · rintro ⟨hp, hrest⟩
      exact ⟨hinit, (ih (hiff.mpr hp)).mpr hrest⟩

/-- In runs whose steps all meet `Q`, with what such steps keep in any case: a predicate holds in every state exactly when
each step meets the condition it needs. -/
theorem always_iff_meets_of_inv {A J : σ → Prop} {Q : σ → ε → Prop} (htotal : ∀ s e, ∃ s', step s e = some s')
    (hkeep : ∀ s e s', A s → J s → Q s e → step s e = some s' → A s' ∧ (J s' ↔ P s e)) {s : σ} {l : List ε}
    (hinv : A s) (hinit : J s) (hmeets : Meets step Q s l) : Always step J s l ↔ Meets step P s l := by
  induction l generalizing s with
  | nil => exact ⟨fun _ => trivial, fun _ => hinit⟩
  | cons e l ih =>
    obtain ⟨t, hstep⟩ := htotal s e
    obtain ⟨ht, hiff⟩ := hkeep s e t hinv hinit hmeets.1 hstep
    have hrest := hmeets.tail hstep
    rw [Always, Meets, hstep, Option.elim_some, Option.elim_some]
    constructor
    · rintro ⟨-, htail⟩
      exact ⟨hiff.mp htail.head, (ih ht htail.head hrest).mp htail⟩
    · rintro ⟨hp, htail⟩
      exact ⟨hinit, (ih ht (hiff.mpr hp) hrest).mpr htail⟩

theorem run_append {s s' : σ} {l₁ l₂ : List ε} :
    run step s (l₁ ++ l₂) = some s' ↔ ∃ t, run step s l₁ = some t ∧ run step t l₂ = some s' := by
  induction l₁ generalizing s with
  | nil => exact ⟨fun h => ⟨s, rfl, h⟩, fun ⟨t, ht, h⟩ => by cases ht; exact h⟩
  | cons e l₁ ih =>
    rw [List.cons_append, run_cons]
    constructor
    · rintro ⟨t, hstep, hrest⟩
      obtain ⟨u, hu, hend⟩ := ih.mp hrest
      exact ⟨u, run_cons.mpr ⟨t, hstep, hu⟩, hend⟩
    · rintro ⟨u, hu, hend⟩
      obtain ⟨t, hstep, hrest⟩ := run_cons.mp hu
      exact ⟨t, hstep, ih.mpr ⟨u, hrest, hend⟩⟩

/-- A predicate that some steps make true and some events end, and that no other step changes: it holds at the end of a run
exactly when a step has made it true and nothing has ended it since. -/
theorem holds_iff_made (J : σ → Prop) (Makes : σ → ε → Prop) (Ends : ε → Prop)
    (hmake : ∀ s e s', step s e = some s' → Makes s e → J s') (hkeep : ∀ s e s', step s e = some s' → J s → ¬ Ends e → J s')
    (hend : ∀ s e s', step s e = some s' → Ends e → ¬ J s')
    (honly : ∀ s e s', step s e = some s' → ¬ J s → J s' → Makes s e) {s s' : σ} {l : List ε} (hinit : ¬ J s)
    (hrun : run step s l = some s') :
    J s' ↔ ∃ l₁ e l₂ t, l = l₁ ++ e :: l₂ ∧ run step s l₁ = some t ∧ Makes t e ∧ ∀ x ∈ l₂, ¬ Ends x := by
  induction l using List.reverseRecOn generalizing s' with
  | nil =>
    cases hrun
    refine ⟨fun h => absurd h hinit, ?_⟩
    rintro ⟨l₁, e, l₂, -, hl, -⟩
    cases l₁ <;> cases hl
  | append_singleton l e ih =>
    obtain ⟨t, hrun, hlast⟩ := run_append.mp hrun
    obtain ⟨t', hstep, hdone⟩ := run_cons.mp hlast
    cases hdone
    have ih := ih hrun
    constructor
    · intro hj
      by_cases ht : J t
      · obtain ⟨l₁, e', l₂, u, hl, hu, hmakes, hrest⟩ := ih.mp ht
        refine ⟨l₁, e', l₂ ++ [e], u, by rw [hl, List.append_assoc, List.cons_append], hu, hmakes, fun x hx => ?_⟩
        rcases List.mem_append.mp hx with hx | hx
        · exact hrest x hx
        · rw [List.mem_singleton.mp hx]
          exact fun hends => hend t e s' hstep hends hj
      · exact ⟨l, e, [], t, rfl, hrun, honly t e s' hstep ht hj, fun x hx => absurd hx List.not_mem_nil⟩
    · rintro ⟨l₁, e', l₂, u, hl, hu, hmakes, hrest⟩
      rcases List.eq_nil_or_concat l₂ with rfl | ⟨l₃, x, rfl⟩
      · obtain ⟨rfl, he⟩ := List.append_inj' hl rfl
        cases he
        rw [hrun] at hu
        cases hu
        exact hmake t e s' hstep hmakes
      · rw [List.concat_eq_append, ← List.cons_append, ← List.append_assoc] at hl
        obtain ⟨rfl, he⟩ := List.append_inj' hl rfl
        cases he
        rw [List.concat_eq_append] at hrest
        have ht : J t := ih.mpr ⟨l₁, e', l₃, u, rfl, hu, hmakes, fun x hx => hrest x (List.mem_append_left _ hx)⟩
        exact hkeep t e s' hstep ht (hrest e (List.mem_append_right _ List.mem_cons_self))

end GuardedRuns
