import Rtl8723au.Library.AccessM
import Rtl8723au.Library.Tlv

/-! Walks over a list of elements in memory, as a loop that adds the length byte of an element, and two, to
its index. What a pass does is a parameter; it may end the walk and it may write to the memory. -/
namespace Rtl8723au
open Mem
set_option autoImplicit false

namespace AccessM

variable {A S : Type}

/-! ## Bytes of a part -/

def peek (part : Part A S ℤ Mem) (i : ℤ) : AccessM A S UInt8 := ⟨fun s => ⟨part.get s i, s, [part.addr i]⟩⟩

/-- Read `n` bytes of a part of the state. -/
def peekList (part : Part A S ℤ Mem) (p : ℤ) (n : ℕ) : AccessM A S (List UInt8) :=
  ⟨fun s => ⟨(List.range n).map fun k : ℕ => part.get s (p + k), s, (List.range n).map fun k : ℕ => part.addr (p + k)⟩⟩

def poke (part : Part A S ℤ Mem) (i : ℤ) (v : UInt8) : AccessM A S Unit :=
  ⟨fun s => ⟨(), part.set (Function.update (part.get s) i v) s, [part.addr i]⟩⟩

section
variable (part : Part A S ℤ Mem) (P : A → Prop) (p : ℤ) (n : ℕ) (v : UInt8) (s : S)

@[simp] theorem peek_val : ((peek part p).run s).val = part.get s p := rfl
@[simp] theorem peek_st : ((peek part p).run s).st = s := rfl
@[simp] theorem peekList_val : ((peekList part p n).run s).val = (List.range n).map fun k : ℕ => part.get s (p + k) := rfl
@[simp] theorem peekList_st : ((peekList part p n).run s).st = s := rfl
@[simp] theorem poke_st : ((poke part p v).run s).st = part.set (Function.update (part.get s) p v) s := rfl

@[simp] theorem inside_peek : Inside P (peek part p) s ↔ P (part.addr p) := by
  simp [Inside, peek]

@[simp] theorem inside_peekList : Inside P (peekList part p n) s ↔ ∀ k < n, P (part.addr (p + (k : ℕ))) := by
  simp [Inside, peekList]

@[simp] theorem inside_poke : Inside P (poke part p v) s ↔ P (part.addr p) := by
  simp [Inside, poke]

end

def whole : Part ℤ Mem ℤ Mem := ⟨id, fun m _ => m, id⟩

@[simp] theorem whole_get (m : Mem) : whole.get m = m := rfl
@[simp] theorem whole_addr (x : ℤ) : whole.addr x = x := rfl

/-! ## The walk -/

section Walk
variable (part : Part A S ℤ Mem) (visit : UInt8 → ℤ → AccessM A S Bool) (limit : ℤ)

/-- `for (i = start; i < limit; i += length(i) + 2) if (visit(id(i), i)) return true; return false;` where a pass
goes on two bytes at least. -/
def walk : ℕ → ℤ → AccessM A S Bool
  | 0, _ => pure false
  | fuel + 1, i =>
    if i < limit then do
      let id ← peek part i
      let found ← visit id i
      if found then pure true
      else do
        let length ← peek part (i + 1)
        walk fuel (i + length.toNat + 2)
    else pure false

variable {part visit limit} {fuel : ℕ} {i : ℤ} {s : S}

theorem walk_end (h : limit ≤ i) : walk part visit limit fuel i = pure false := by
  cases fuel with
  | zero => rfl
  | succ fuel => exact if_neg (by omega)

theorem walk_pass (h : i < limit) :
    walk part visit limit (fuel + 1) i = (do
      let id ← peek part i
      let found ← visit id i
      if found then pure true
      else do
        let length ← peek part (i + 1)
        walk part visit limit fuel (i + length.toNat + 2)) :=
  if_pos h

/-- The pass at `i`, told with the element there. -/
def visited (visit : UInt8 → ℤ → AccessM A S Bool) (e : Tlv) (i : ℤ) (s : S) : Outcome A S Bool := (visit e.id i).run s

variable {e : Tlv} (hi : i < limit) (hid : part.get s i = e.id)
include hi hid

variable (hnext : (visited visit e i s).val = false)
  (hlength : (part.get (visited visit e i s).st (i + 1)).toNat = e.body.length)
include hnext hlength

theorem walk_next :
    ((walk part visit limit (fuel + 1) i).run s).val =
      ((walk part visit limit fuel (i + e.size)).run (visited visit e i s).st).val ∧
    ((walk part visit limit (fuel + 1) i).run s).st =
      ((walk part visit limit fuel (i + e.size)).run (visited visit e i s).st).st := by
  rw [visited, ← hid] at hnext hlength ⊢
  have hsize : i + (e.size : ℤ) = i + e.body.length + 2 := by
    rw [Tlv.size]
    push_cast
    ring
  rw [hsize, ← hlength]
  rw [walk_pass hi]
  simp [hnext]

theorem inside_walk_next (P : A → Prop) :
    Inside P (walk part visit limit (fuel + 1) i) s ↔
      P (part.addr i) ∧ Inside P (visit e.id i) s ∧ P (part.addr (i + 1)) ∧
        Inside P (walk part visit limit fuel (i + e.size)) (visited visit e i s).st := by
  rw [visited, ← hid] at hnext hlength ⊢
  have hsize : i + (e.size : ℤ) = i + e.body.length + 2 := by
    rw [Tlv.size]
    push_cast
    ring
  rw [hsize, ← hlength]
  rw [walk_pass hi]
  simp [hnext]

omit hnext hlength

theorem inside_walk_found (P : A → Prop) (hfound : (visited visit e i s).val = true) :
    Inside P (walk part visit limit (fuel + 1) i) s ↔ P (part.addr i) ∧ Inside P (visit e.id i) s := by
  rw [visited, ← hid] at hfound
  rw [← hid, walk_pass hi]
  simp [hfound]

end Walk

end AccessM

end Rtl8723au
