import Mathlib.Data.List.Basic
import Mathlib.Tactic

/-! A register that takes commands and is polled until the last one is done. The device answers a poll as it likes: what it
answers may depend on everything that went over the bus before. -/
namespace PolledWrites
set_option autoImplicit false

variable {W : Type*}

inductive Access (W : Type*) where
  | write (w : W)
  | read (w : W)

/-- What the register reads as, after the accesses so far. -/
abbrev Device (W : Type*) := List (Access W) → W

def Access.written : Access W → Option W
  | .write w => some w
  | .read _ => none

def writes (trace : List (Access W)) : List W := trace.filterMap Access.written

@[simp] theorem writes_nil : writes ([] : List (Access W)) = [] := rfl
@[simp] theorem writes_write (w : W) (trace : List (Access W)) : writes (.write w :: trace) = w :: writes trace := rfl
@[simp] theorem writes_read (w : W) (trace : List (Access W)) : writes (.read w :: trace) = writes trace := rfl

section
variable (idle : W → Prop)

/-- A poll reports that the register is free, before the next command goes out. -/
def SeenIdle : List (Access W) → Prop
  | .read w :: trace => idle w ∨ SeenIdle trace
  | _ => False

/-- Every command was seen to be done before the next was given. -/
def AllSeenIdle : List (Access W) → Prop
  | .write _ :: trace => SeenIdle idle trace ∧ AllSeenIdle trace
  | .read _ :: trace => AllSeenIdle trace
  | [] => True

variable (device : Device W)

/-- The trace after `n` polls behind `h`. -/
def polled (h : List (Access W)) : ℕ → List (Access W)
  | 0 => h
  | n + 1 => polled h n ++ [.read (device (polled h n))]

/-- None of the first `n` polls behind `h` finds the register free. -/
def BusyFor (n : ℕ) (h : List (Access W)) : Prop := ∀ k < n, ¬ idle (device (polled device h k))

/-! ## One poll for each command -/

/-- The bus when each command is polled once, behind `h`. -/
def singlePolls (h : List (Access W)) : List W → List (Access W)
  | [] => []
  | w :: ws =>
    .write w :: .read (device (h ++ [.write w])) ::
      singlePolls (h ++ [.write w, .read (device (h ++ [.write w]))]) ws

/-- The device is done by the first poll behind each command. -/
def FirstIdle (h : List (Access W)) : List W → Prop
  | [] => True
  | w :: ws =>
    idle (device (h ++ [.write w])) ∧ FirstIdle (h ++ [.write w, .read (device (h ++ [.write w]))]) ws

variable {idle device}

@[simp] theorem writes_singlePolls (h : List (Access W)) (ws : List W) : writes (singlePolls device h ws) = ws := by
  induction ws generalizing h with
  | nil => rfl
  | cons w ws ih =>
    rw [singlePolls, writes_write, writes_read, ih]

theorem singlePolls_append (h : List (Access W)) (us ws : List W) :
    singlePolls device h (us ++ ws) =
      singlePolls device h us ++ singlePolls device (h ++ singlePolls device h us) ws := by
  induction us generalizing h with
  | nil => simp [singlePolls]
  | cons u us ih =>
    rw [List.cons_append, singlePolls, ih, singlePolls]
    simp

theorem not_seenIdle_singlePolls (h : List (Access W)) (ws : List W) : ¬ SeenIdle idle (singlePolls device h ws) := by
  cases ws with
  | nil => exact id
  | cons w ws => exact id

theorem allSeenIdle_singlePolls (h : List (Access W)) (ws : List W) :
    AllSeenIdle idle (singlePolls device h ws) ↔ FirstIdle idle device h ws := by
  induction ws generalizing h with
  | nil => exact Iff.rfl
  | cons w ws ih =>
    have hlast : ¬ SeenIdle idle (singlePolls device (h ++ [.write w, .read (device (h ++ [.write w]))]) ws) :=
      not_seenIdle_singlePolls _ ws
    rw [singlePolls, AllSeenIdle, AllSeenIdle, SeenIdle, FirstIdle, ih, or_iff_left hlast]

theorem FirstIdle.split {h : List (Access W)} {us ws : List W} {w : W} (hidle : FirstIdle idle device h (us ++ w :: ws)) :
    idle (device (h ++ singlePolls device h us ++ [.write w])) := by
  induction us generalizing h with
  | nil =>
    rw [singlePolls, List.append_nil]
    exact hidle.1
  | cons u us ih =>
    have hrest := ih hidle.2
    rw [singlePolls]
    simpa using hrest

theorem singlePolls_split {h pre post : List (Access W)} {ws : List W} {w : W}
    (heq : singlePolls device h ws = pre ++ .write w :: post) :
    ∃ us vs, ws = us ++ w :: vs ∧ pre = singlePolls device h us := by
  induction ws generalizing h pre with
  | nil =>
    rw [singlePolls] at heq
    exact absurd heq.symm (List.append_ne_nil_of_right_ne_nil _ (List.cons_ne_nil _ _))
  | cons x xs ih =>
    rw [singlePolls] at heq
    match pre with
    | [] =>
      obtain ⟨hx, -⟩ := List.cons.inj heq
      obtain rfl := Access.write.inj hx
      exact ⟨[], xs, rfl, rfl⟩
    | [p] =>
      obtain ⟨-, hread⟩ := List.cons.inj heq
      exact absurd (List.cons.inj hread).1 (by simp)
    | p :: q :: pre =>
      obtain ⟨rfl, hread⟩ := List.cons.inj heq
      obtain ⟨rfl, hrest⟩ := List.cons.inj hread
      obtain ⟨us, vs, rfl, rfl⟩ := ih hrest
      exact ⟨x :: us, vs, rfl, rfl⟩

end

end PolledWrites
