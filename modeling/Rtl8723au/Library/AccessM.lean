import Mathlib.Data.List.Basic
import Mathlib.Data.List.GetD
import Mathlib.Logic.Function.Basic
import Mathlib.Tactic

/-! State computations that keep a trace of every address they touch. The trace
is an output, so the trace of a sequence is the traces in sequence, and "every
access is inside" becomes one condition for each primitive access. -/
namespace Rtl8723au
set_option autoImplicit false

/-- What a computation leaves behind: its value, the state, the addresses it touched in order. -/
@[ext]
structure Outcome (A S α : Type) where
  val : α
  st : S
  log : List A

/-- Computations over a state `S` whose accesses have addresses in `A`. -/
structure AccessM (A S α : Type) where
  run : S → Outcome A S α

namespace AccessM

variable {A B S T α β : Type}

instance : Monad (AccessM A S) where
  pure a := ⟨fun s => ⟨a, s, []⟩⟩
  bind m f := ⟨fun s =>
    let o := m.run s
    let p := (f o.val).run o.st
    ⟨p.val, p.st, o.log ++ p.log⟩⟩

def get : AccessM A S S := ⟨fun s => ⟨s, s, []⟩⟩

def modify (f : S → S) : AccessM A S Unit := ⟨fun s => ⟨(), f s, []⟩⟩

/-- Touch the addresses `l` without looking at them. -/
def touch (l : List A) : AccessM A S Unit := ⟨fun s => ⟨(), s, l⟩⟩

/-! ## Running the primitives -/

@[simp] theorem pure_val (a : α) (s : S) : ((pure a : AccessM A S α).run s).val = a := rfl
@[simp] theorem pure_st (a : α) (s : S) : ((pure a : AccessM A S α).run s).st = s := rfl
@[simp] theorem pure_log (a : α) (s : S) : ((pure a : AccessM A S α).run s).log = [] := rfl

@[simp] theorem bind_val (m : AccessM A S α) (f : α → AccessM A S β) (s : S) :
    ((m >>= f).run s).val = ((f (m.run s).val).run (m.run s).st).val := rfl
@[simp] theorem bind_st (m : AccessM A S α) (f : α → AccessM A S β) (s : S) :
    ((m >>= f).run s).st = ((f (m.run s).val).run (m.run s).st).st := rfl
@[simp] theorem bind_log (m : AccessM A S α) (f : α → AccessM A S β) (s : S) :
    ((m >>= f).run s).log = (m.run s).log ++ ((f (m.run s).val).run (m.run s).st).log := rfl

theorem run_bind {m : AccessM A S α} {f : α → AccessM A S β} {s : S} {o : Outcome A S α} (h : m.run s = o) :
    (m >>= f).run s = ⟨((f o.val).run o.st).val, ((f o.val).run o.st).st, o.log ++ ((f o.val).run o.st).log⟩ := by
  rw [← h]
  rfl

@[simp] theorem map_val (f : α → β) (m : AccessM A S α) (s : S) :
    ((f <$> m).run s).val = f (m.run s).val := rfl
@[simp] theorem map_st (f : α → β) (m : AccessM A S α) (s : S) :
    ((f <$> m).run s).st = (m.run s).st := rfl
@[simp] theorem map_log (f : α → β) (m : AccessM A S α) (s : S) :
    ((f <$> m).run s).log = (m.run s).log := List.append_nil _

@[simp] theorem get_val (s : S) : ((get : AccessM A S S).run s).val = s := rfl
@[simp] theorem get_st (s : S) : ((get : AccessM A S S).run s).st = s := rfl
@[simp] theorem get_log (s : S) : ((get : AccessM A S S).run s).log = [] := rfl

@[simp] theorem modify_val (f : S → S) (s : S) : ((modify f : AccessM A S Unit).run s).val = () := rfl
@[simp] theorem modify_st (f : S → S) (s : S) : ((modify f : AccessM A S Unit).run s).st = f s := rfl
@[simp] theorem modify_log (f : S → S) (s : S) : ((modify f : AccessM A S Unit).run s).log = [] := rfl

@[simp] theorem touch_st (l : List A) (s : S) : ((touch l : AccessM A S Unit).run s).st = s := rfl
@[simp] theorem touch_log (l : List A) (s : S) : ((touch l : AccessM A S Unit).run s).log = l := rfl

@[simp] theorem ite_run (c : Prop) [Decidable c] (m n : AccessM A S α) (s : S) :
    (if c then m else n).run s = if c then m.run s else n.run s := by
  split <;> rfl

/-! ## Accesses inside a region -/

/-- Every address the run touches satisfies `P`. -/
def Inside (P : A → Prop) (m : AccessM A S α) (s : S) : Prop := ∀ a ∈ (m.run s).log, P a

@[simp] theorem inside_pure (P : A → Prop) (a : α) (s : S) :
    Inside P (pure a : AccessM A S α) s := by
  simp [Inside]

@[simp] theorem inside_bind (P : A → Prop) (m : AccessM A S α) (f : α → AccessM A S β) (s : S) :
    Inside P (m >>= f) s ↔ Inside P m s ∧ Inside P (f (m.run s).val) (m.run s).st := by
  simp only [Inside, bind_log, List.mem_append]
  constructor
  · intro h
    exact ⟨fun a ha => h a (.inl ha), fun a ha => h a (.inr ha)⟩
  · rintro ⟨h1, h2⟩ a (ha | ha)
    · exact h1 a ha
    · exact h2 a ha

@[simp] theorem inside_map (P : A → Prop) (f : α → β) (m : AccessM A S α) (s : S) :
    Inside P (f <$> m) s ↔ Inside P m s := by
  simp [Inside]

@[simp] theorem inside_get (P : A → Prop) (s : S) : Inside P (get : AccessM A S S) s := by
  simp [Inside]

@[simp] theorem inside_modify (P : A → Prop) (f : S → S) (s : S) :
    Inside P (modify f : AccessM A S Unit) s := by
  simp [Inside]

@[simp] theorem inside_touch (P : A → Prop) (l : List A) (s : S) :
    Inside P (touch l : AccessM A S Unit) s ↔ ∀ a ∈ l, P a := Iff.rfl

@[simp] theorem inside_ite (P : A → Prop) (c : Prop) [Decidable c] (m n : AccessM A S α) (s : S) :
    Inside P (if c then m else n) s ↔ if c then Inside P m s else Inside P n s := by
  split <;> rfl

/-! ## Counted loops -/

/-- `for (i = 0; i < n; i++) body(i)`. -/
def loop (body : ℕ → AccessM A S Unit) : ℕ → AccessM A S Unit
  | 0 => pure ()
  | n + 1 => do
    loop body n
    body n

/-- The same loop with a value carried from turn to turn. -/
def loopAcc (body : ℕ → α → AccessM A S α) (init : α) : ℕ → AccessM A S α
  | 0 => pure init
  | n + 1 => do
    let a ← loopAcc body init n
    body n a

@[simp] theorem loop_zero (body : ℕ → AccessM A S Unit) : loop body 0 = pure () := rfl

theorem loop_succ_st (body : ℕ → AccessM A S Unit) (n : ℕ) (s : S) :
    ((loop body (n+1)).run s).st = ((body n).run ((loop body n).run s).st).st := rfl

theorem loop_invariant (body : ℕ → AccessM A S Unit) (Inv : ℕ → S → Prop) (s : S) (n : ℕ)
    (h0 : Inv 0 s) (hstep : ∀ i < n, ∀ t, Inv i t → Inv (i+1) ((body i).run t).st) :
    Inv n ((loop body n).run s).st := by
  induction n with
  | zero => exact h0
  | succ n ih =>
    rw [loop_succ_st]
    exact hstep n (Nat.lt_succ_self n) _ (ih fun i hi => hstep i (Nat.lt_succ_of_lt hi))

theorem loopAcc_invariant (body : ℕ → α → AccessM A S α) (Inv : ℕ → α → S → Prop) (a : α) (s : S)
    (n : ℕ) (h0 : Inv 0 a s)
    (hstep : ∀ i < n, ∀ b t, Inv i b t → Inv (i+1) ((body i b).run t).val ((body i b).run t).st) :
    Inv n ((loopAcc body a n).run s).val ((loopAcc body a n).run s).st := by
  induction n with
  | zero => exact h0
  | succ n ih =>
    exact hstep n (Nat.lt_succ_self n) _ _ (ih fun i hi => hstep i (Nat.lt_succ_of_lt hi))

theorem inside_loop (P : A → Prop) (body : ℕ → AccessM A S Unit) (n : ℕ) (s : S) :
    Inside P (loop body n) s ↔ ∀ i < n, Inside P (body i) ((loop body i).run s).st := by
  induction n with
  | zero => simp
  | succ n ih =>
    rw [loop, inside_bind, ih]
    constructor
    · rintro ⟨h1, h2⟩ i hi
      rcases Nat.lt_succ_iff_lt_or_eq.mp hi with hi | rfl
      · exact h1 i hi
      · exact h2
    · intro h
      exact ⟨fun i hi => h i (Nat.lt_succ_of_lt hi), h n (Nat.lt_succ_self n)⟩

theorem inside_loopAcc (P : A → Prop) (body : ℕ → α → AccessM A S α) (a : α) (n : ℕ) (s : S) :
    Inside P (loopAcc body a n) s ↔ ∀ i < n, Inside P
      (body i ((loopAcc body a i).run s).val) ((loopAcc body a i).run s).st := by
  induction n with
  | zero => simp [loopAcc]
  | succ n ih =>
    rw [loopAcc, inside_bind, ih]
    constructor
    · rintro ⟨h1, h2⟩ i hi
      rcases Nat.lt_succ_iff_lt_or_eq.mp hi with hi | rfl
      · exact h1 i hi
      · exact h2
    · intro h
      exact ⟨fun i hi => h i (Nat.lt_succ_of_lt hi), h n (Nat.lt_succ_self n)⟩

/-! ## Working on a part of the state -/

/-- A part of the state with addresses of its own. -/
structure Part (A S B T : Type) where
  get : S → T
  set : T → S → S
  addr : B → A

/-- Run a computation on a part of the state. -/
def zoom (p : Part A S B T) (m : AccessM B T α) : AccessM A S α :=
  ⟨fun s =>
    let o := m.run (p.get s)
    ⟨o.val, p.set o.st s, o.log.map p.addr⟩⟩

@[simp] theorem zoom_val (p : Part A S B T) (m : AccessM B T α) (s : S) :
    ((zoom p m).run s).val = (m.run (p.get s)).val := rfl
@[simp] theorem zoom_st (p : Part A S B T) (m : AccessM B T α) (s : S) :
    ((zoom p m).run s).st = p.set (m.run (p.get s)).st s := rfl

@[simp] theorem inside_zoom (P : A → Prop) (p : Part A S B T) (m : AccessM B T α) (s : S) :
    Inside P (zoom p m) s ↔ Inside (fun b => P (p.addr b)) m (p.get s) := by
  simp [Inside, zoom]

end AccessM

/-! ## Byte memory -/

/-- Memory around a buffer: a byte at every offset, also outside the part that was allocated. -/
abbrev Mem := ℤ → UInt8

namespace Mem

/-- Computations on one buffer, traced by offset. -/
abbrev M (α : Type) := AccessM ℤ Mem α

def read (i : ℤ) : M UInt8 := ⟨fun m => ⟨m i, m, [i]⟩⟩

def write (i : ℤ) (v : UInt8) : M Unit := ⟨fun m => ⟨(), Function.update m i v, [i]⟩⟩

/-- Read `n` bytes from `p` on. -/
def readVec (p : ℤ) (n : ℕ) : M (Vector UInt8 n) :=
  ⟨fun m => ⟨Vector.ofFn fun j => m (p + (j : ℕ)), m, (List.range n).map fun j : ℕ => p + j⟩⟩

/-- Read `r` bytes at the given addresses into the front of a zeroed vector. -/
def readPadded (addr : ℕ → ℤ) (r n : ℕ) : M (Vector UInt8 n) :=
  ⟨fun m => ⟨Vector.ofFn fun j => if (j : ℕ) < r then m (addr j) else 0, m, (List.range r).map addr⟩⟩

/-- `for (j = 0; j < n; j++) p[addr(j)] = v(j)`. -/
def writeLoop (addr : ℕ → ℤ) (v : ℕ → UInt8) (n : ℕ) : M Unit :=
  AccessM.loop (fun j => write (addr j) (v j)) n

@[simp] theorem read_val (i : ℤ) (m : Mem) : ((read i).run m).val = m i := rfl
@[simp] theorem read_st (i : ℤ) (m : Mem) : ((read i).run m).st = m := rfl
@[simp] theorem write_st (i : ℤ) (v : UInt8) (m : Mem) :
    ((write i v).run m).st = Function.update m i v := rfl
@[simp] theorem readVec_val (p : ℤ) (n : ℕ) (m : Mem) :
    ((readVec p n).run m).val = Vector.ofFn fun j => m (p + (j : ℕ)) := rfl
@[simp] theorem readVec_st (p : ℤ) (n : ℕ) (m : Mem) : ((readVec p n).run m).st = m := rfl
@[simp] theorem readPadded_val (addr : ℕ → ℤ) (r n : ℕ) (m : Mem) :
    ((readPadded addr r n).run m).val = Vector.ofFn fun j => if (j : ℕ) < r then m (addr j) else 0 := rfl
@[simp] theorem readPadded_st (addr : ℕ → ℤ) (r n : ℕ) (m : Mem) :
    ((readPadded addr r n).run m).st = m := rfl

@[simp] theorem inside_read (P : ℤ → Prop) (i : ℤ) (m : Mem) :
    AccessM.Inside P (read i) m ↔ P i := by
  simp [AccessM.Inside, read]

@[simp] theorem inside_write (P : ℤ → Prop) (i : ℤ) (v : UInt8) (m : Mem) :
    AccessM.Inside P (write i v) m ↔ P i := by
  simp [AccessM.Inside, write]

@[simp] theorem inside_readVec (P : ℤ → Prop) (p : ℤ) (n : ℕ) (m : Mem) :
    AccessM.Inside P (readVec p n) m ↔ ∀ j < n, P (p + (j : ℕ)) := by
  simp [AccessM.Inside, readVec]

@[simp] theorem inside_readPadded (P : ℤ → Prop) (addr : ℕ → ℤ) (r n : ℕ) (m : Mem) :
    AccessM.Inside P (readPadded addr r n) m ↔ ∀ j < r, P (addr j) := by
  simp [AccessM.Inside, readPadded]

@[simp] theorem inside_writeLoop (P : ℤ → Prop) (addr : ℕ → ℤ) (v : ℕ → UInt8) (n : ℕ) (m : Mem) :
    AccessM.Inside P (writeLoop addr v n) m ↔ ∀ j < n, P (addr j) := by
  simp [writeLoop, AccessM.inside_loop]

/-! ## Replacing a block -/

/-- `m` with the `n` bytes from `base` on taken from `v`. -/
def patch (m : Mem) (base : ℤ) (n : ℕ) (v : ℕ → UInt8) : Mem :=
  fun x => if base ≤ x ∧ x < base + n then v (x - base).toNat else m x

theorem patch_outside (m : Mem) (base : ℤ) (n : ℕ) (v : ℕ → UInt8) (x : ℤ)
    (h : x < base ∨ base + n ≤ x) : patch m base n v x = m x :=
  if_neg (by omega)

theorem patch_inside (m : Mem) (base : ℤ) (n : ℕ) (v : ℕ → UInt8) (k : ℕ) (hk : k < n) :
    patch m base n v (base + k) = v k := by
  have h : base ≤ base + (k : ℤ) ∧ base + (k : ℤ) < base + n := by omega
  have e : (base + (k : ℤ) - base).toNat = k := by omega
  rw [patch, if_pos h, e]

theorem patch_congr (m : Mem) (base : ℤ) (n : ℕ) (v w : ℕ → UInt8) (h : ∀ k < n, v k = w k) :
    patch m base n v = patch m base n w := by
  funext x
  unfold patch
  split
  · exact h _ (by omega)
  · rfl

theorem patch_zero (m : Mem) (base : ℤ) (v : ℕ → UInt8) : patch m base 0 v = m := by
  funext x
  exact patch_outside m base 0 v x (by omega)

theorem patch_append (m : Mem) (base : ℤ) (n r : ℕ) (v : ℕ → UInt8) :
    patch (patch m base n v) (base + n) r (fun k => v (n + k)) = patch m base (n + r) v := by
  funext x
  by_cases h1 : base ≤ x ∧ x < base + n
  · rw [patch_outside _ _ _ _ _ (by omega), patch, patch, if_pos h1, if_pos (by omega)]
  · by_cases h2 : base + n ≤ x ∧ x < base + n + r
    · have e : n + (x - (base + n)).toNat = (x - base).toNat := by omega
      rw [patch, if_pos h2, patch, if_pos (by omega), e]
    · rw [patch_outside _ _ _ _ _ (by omega), patch_outside _ _ _ _ _ (by omega),
        patch_outside _ _ _ _ _ (by omega)]

/-- `memcpy(p, l, l.length)`. -/
def putBytes (m : Mem) (p : ℤ) (l : List UInt8) : Mem := patch m p l.length fun k => l.getD k 0

theorem putBytes_outside (m : Mem) (p : ℤ) (l : List UInt8) (x : ℤ) (h : x < p ∨ p + l.length ≤ x) :
    putBytes m p l x = m x :=
  patch_outside m p l.length _ x h

theorem putBytes_inside (m : Mem) (p : ℤ) (l : List UInt8) (k : ℕ) (hk : k < l.length) :
    putBytes m p l (p + k) = l.getD k 0 :=
  patch_inside m p l.length _ k hk

theorem putBytes_nil (m : Mem) (p : ℤ) : putBytes m p [] = m :=
  patch_zero m p _

theorem putBytes_append (m : Mem) (p : ℤ) (a b : List UInt8) :
    putBytes (putBytes m p a) (p + a.length) b = putBytes m p (a ++ b) := by
  have hleft : putBytes m p a = patch m p a.length fun k => (a ++ b).getD k 0 :=
    patch_congr m p a.length _ _ fun k hk => (List.getD_append a b 0 k hk).symm
  have hright : ∀ n : Mem, putBytes n (p + a.length) b
      = patch n (p + a.length) b.length fun k => (a ++ b).getD (a.length + k) 0 := by
    intro n
    refine patch_congr n (p + a.length) b.length _ _ fun k _ => ?_
    rw [List.getD_append_right _ _ _ _ (Nat.le_add_right _ _), Nat.add_sub_cancel_left]
  rw [hright, hleft, patch_append, putBytes, List.length_append]

theorem writeLoop_st (base : ℤ) (addr : ℕ → ℤ) (v : ℕ → UInt8) (n : ℕ) (m : Mem)
    (haddr : ∀ j < n, addr j = base + (j : ℕ)) :
    ((writeLoop addr v n).run m).st = patch m base n v := by
  induction n with
  | zero => exact (patch_zero m base v).symm
  | succ n ih =>
    have hrun : ((writeLoop addr v (n+1)).run m).st
        = Function.update ((writeLoop addr v n).run m).st (addr n) (v n) := rfl
    rw [hrun, ih fun j hj => haddr j (Nat.lt_succ_of_lt hj), haddr n (Nat.lt_succ_self n)]
    funext x
    by_cases hx : x = base + (n : ℕ)
    · rw [hx, Function.update_self, patch_inside _ _ _ _ _ (Nat.lt_succ_self n)]
    · rw [Function.update_of_ne hx, patch, patch]
      by_cases hin : base ≤ x ∧ x < base + (n : ℕ)
      · rw [if_pos hin, if_pos (by omega)]
      · rw [if_neg hin, if_neg (by omega)]

/-- A block inside `[lo, hi)` is a statement about its two ends. -/
theorem block_inside_iff (lo hi i : ℤ) (n : ℕ) (hn : 0 < n) :
    (∀ j < n, lo ≤ i + (j : ℤ) ∧ i + (j : ℤ) < hi) ↔ lo ≤ i ∧ i + n ≤ hi := by
  constructor
  · intro h
    have h0 := h 0 hn
    have h1 := h (n - 1) (by omega)
    omega
  · intro h j hj
    omega

end Mem

end Rtl8723au
