import Mathlib.Data.Nat.Bitwise
import Mathlib.Data.Int.Init
import Mathlib.Tactic

/-! Four numbers in one 32-bit word, eight bits for each: how the word is put together and taken apart, and what becomes of
a number that does not fit its eight bits. -/
namespace PackedLanes
set_option autoImplicit false

-- the literals of a lane
instance neZero_lanes : NeZero 4 := ⟨by decide⟩

/-- The word of four bytes, the first in the low bits. -/
def ofLanes (b0 b1 b2 b3 : BitVec 32) : BitVec 32 := b3 <<< 24 ||| b2 <<< 16 ||| b1 <<< 8 ||| b0

/-- The low seven bits of the byte `i`. -/
def lowSeven (w : BitVec 32) (i : ℕ) : BitVec 8 := ((w &&& 0x7f#32 <<< (i * 8)) >>> (i * 8)).setWidth 8

/-- The byte `i`. -/
def byteOf (w : BitVec 32) (i : ℕ) : ℕ := w.toNat / 2 ^ (i * 8) % 256

theorem toNat_lowSeven (w : BitVec 32) {i : ℕ} (hi : i < 4) : (lowSeven w i).toNat = w.toNat / 2 ^ (i * 8) % 128 := by
  have hmask : (0x7f#32 <<< (i * 8)).toNat = 127 <<< (i * 8) := by
    interval_cases i <;> rfl
  have hcut : w.toNat / 2 ^ (i * 8) % 128 < 2 ^ 8 := (Nat.mod_lt _ (by decide)).trans (by decide)
  have hand : (w.toNat >>> (i * 8)) &&& 127 = w.toNat / 2 ^ (i * 8) % 128 := by
    rw [Nat.shiftRight_eq_div_pow]
    exact Nat.and_two_pow_sub_one_eq_mod _ 7
  rw [lowSeven, BitVec.toNat_setWidth, BitVec.toNat_ushiftRight, BitVec.toNat_and, hmask, Nat.shiftRight_and_distrib,
    Nat.shiftLeft_shiftRight, hand, Nat.mod_eq_of_lt hcut]

@[simp] theorem byteOf_zero (i : ℕ) : byteOf 0 i = 0 := by simp [byteOf]

theorem toNat_eq_bytes (w : BitVec 32) :
    w.toNat = byteOf w 0 + 256 * byteOf w 1 + 65536 * byteOf w 2 + 16777216 * byteOf w 3 := by
  have hlt := w.isLt
  simp only [byteOf]
  omega

theorem toNat_ofLanes {b0 b1 b2 b3 : BitVec 32} (h0 : b0.toNat < 256) (h1 : b1.toNat < 256) (h2 : b2.toNat < 256)
    (h3 : b3.toNat < 256) :
    (ofLanes b0 b1 b2 b3).toNat = b0.toNat + 256 * b1.toNat + 65536 * b2.toNat + 16777216 * b3.toNat := by
  have hs1 : (b1 <<< 8).toNat = b1.toNat <<< 8 := by
    rw [BitVec.toNat_shiftLeft, Nat.shiftLeft_eq]
    exact Nat.mod_eq_of_lt (by omega)
  have hs2 : (b2 <<< 16).toNat = b2.toNat <<< 16 := by
    rw [BitVec.toNat_shiftLeft, Nat.shiftLeft_eq]
    exact Nat.mod_eq_of_lt (by omega)
  have hs3 : (b3 <<< 24).toNat = b3.toNat <<< 24 := by
    rw [BitVec.toNat_shiftLeft, Nat.shiftLeft_eq]
    exact Nat.mod_eq_of_lt (by omega)
  have hlow : b1.toNat <<< 8 ||| b0.toNat = b1.toNat <<< 8 + b0.toNat := (Nat.shiftLeft_add_eq_or_of_lt h0 _).symm
  have hmid : b2.toNat <<< 16 ||| (b1.toNat <<< 8 + b0.toNat) = b2.toNat <<< 16 + (b1.toNat <<< 8 + b0.toNat) := by
    refine (Nat.shiftLeft_add_eq_or_of_lt ?_ _).symm
    rw [Nat.shiftLeft_eq]
    omega
  have hhigh : b3.toNat <<< 24 ||| (b2.toNat <<< 16 + (b1.toNat <<< 8 + b0.toNat)) =
      b3.toNat <<< 24 + (b2.toNat <<< 16 + (b1.toNat <<< 8 + b0.toNat)) := by
    refine (Nat.shiftLeft_add_eq_or_of_lt ?_ _).symm
    rw [Nat.shiftLeft_eq, Nat.shiftLeft_eq]
    omega
  rw [ofLanes, BitVec.toNat_or, BitVec.toNat_or, BitVec.toNat_or, hs1, hs2, hs3, Nat.lor_assoc, Nat.lor_assoc, hlow, hmid,
    hhigh, Nat.shiftLeft_eq, Nat.shiftLeft_eq, Nat.shiftLeft_eq]
  omega

theorem byteOf_ofLanes {b0 b1 b2 b3 : BitVec 32} (h0 : b0.toNat < 256) (h1 : b1.toNat < 256) (h2 : b2.toNat < 256)
    (h3 : b3.toNat < 256) :
    byteOf (ofLanes b0 b1 b2 b3) 0 = b0.toNat ∧ byteOf (ofLanes b0 b1 b2 b3) 1 = b1.toNat ∧
      byteOf (ofLanes b0 b1 b2 b3) 2 = b2.toNat ∧ byteOf (ofLanes b0 b1 b2 b3) 3 = b3.toNat := by
  simp only [byteOf, toNat_ofLanes h0 h1 h2 h3]
  omega

/-! ## Numbers that need not fit -/

/-- Four integers at the places of the bytes. -/
def pack (x : Fin 4 → ℤ) : ℤ := x 0 + 256 * x 1 + 65536 * x 2 + 16777216 * x 3

/-- The low seven bits of the byte `i` of a packed word. -/
def seven (x : Fin 4 → ℤ) (i : Fin 4) : ℤ := pack x % 4294967296 / 256 ^ (i : ℕ) % 128

theorem seven_eq {x : Fin 4 → ℤ} {i : Fin 4} (hbelow : ∀ j < i, 0 ≤ x j ∧ x j < 256) : seven x i = x i % 128 := by
  rw [seven, pack]
  match i with
  | 0 =>
    show (x 0 + 256 * x 1 + 65536 * x 2 + 16777216 * x 3) % 4294967296 / 1 % 128 = _
    omega
  | 1 =>
    have h0 := hbelow 0 (by decide)
    show (x 0 + 256 * x 1 + 65536 * x 2 + 16777216 * x 3) % 4294967296 / 256 % 128 = _
    omega
  | 2 =>
    have h0 := hbelow 0 (by decide)
    have h1 := hbelow 1 (by decide)
    show (x 0 + 256 * x 1 + 65536 * x 2 + 16777216 * x 3) % 4294967296 / 65536 % 128 = _
    omega
  | 3 =>
    have h0 := hbelow 0 (by decide)
    have h1 := hbelow 1 (by decide)
    have h2 := hbelow 2 (by decide)
    show (x 0 + 256 * x 1 + 65536 * x 2 + 16777216 * x 3) % 4294967296 / 16777216 % 128 = _
    omega

/-- Of four statements about the bytes of which each speaks of its own number once the ones below are in order, all hold
exactly if all numbers are in order. -/
theorem forall_lane_iff {P Q : Fin 4 → Prop} (h : ∀ i, (∀ j < i, Q j) → (P i ↔ Q i)) : (∀ i, P i) ↔ ∀ i, Q i := by
  constructor
  · intro hp i
    refine wellFounded_lt.induction i ?_
    exact fun i ih => (h i ih).mp (hp i)
  · exact fun hq i => (h i fun j _ => hq j).mpr (hq i)

end PackedLanes
