import Mathlib.Data.List.Basic
import Mathlib.Tactic

/-! CRC-32 with the reflected polynomial, bit by bit, and the step that takes a byte
at a time from a table of 256 words. A shift of the remainder is linear in the
exclusive or, which is all the table needs. -/
namespace Rtl8723au.Crc32
set_option autoImplicit false

def polynomial : BitVec 32 := 0xEDB88320#32

def bitStep (c : BitVec 32) : BitVec 32 :=
  if c.getLsbD 0 then (c >>> 1) ^^^ polynomial else c >>> 1

def bitSteps : ℕ → BitVec 32 → BitVec 32
  | 0, c => c
  | n + 1, c => bitStep (bitSteps n c)

def byteStep (c : BitVec 32) (b : UInt8) : BitVec 32 := bitSteps 8 (c ^^^ b.toBitVec.setWidth 32)

/-- The checksum of a list of bytes: preloaded with ones and complemented at the end. -/
def crc32 (l : List UInt8) : BitVec 32 := ~~~ l.foldl byteStep 0xffffffff#32

/-- The check value of the digits 1 to 9. -/
example : crc32 [0x31, 0x32, 0x33, 0x34, 0x35, 0x36, 0x37, 0x38, 0x39] = 0xcbf43926#32 := by
  decide +kernel

/-! ## A byte at a time -/

theorem bitStep_xor (a b : BitVec 32) : bitStep (a ^^^ b) = bitStep a ^^^ bitStep b := by
  have hcancel : ∀ x y : BitVec 32, x ^^^ y = (x ^^^ polynomial) ^^^ (y ^^^ polynomial) := by
    intro x y
    have h : (x ^^^ polynomial) ^^^ (y ^^^ polynomial) = (x ^^^ y) ^^^ (polynomial ^^^ polynomial) := by
      ac_rfl
    rw [h, BitVec.xor_self, BitVec.xor_zero]
  unfold bitStep
  simp only [BitVec.getLsbD_xor, BitVec.ushiftRight_xor_distrib]
  cases a.getLsbD 0 <;> cases b.getLsbD 0 <;> simp only [Bool.false_xor, Bool.true_xor, Bool.not_false,
    Bool.not_true, Bool.false_eq_true, if_true, if_false]
  · ac_rfl
  · ac_rfl
  · exact hcancel _ _

theorem bitSteps_xor (n : ℕ) (a b : BitVec 32) : bitSteps n (a ^^^ b) = bitSteps n a ^^^ bitSteps n b := by
  induction n with
  | zero => rfl
  | succ n ih => rw [bitSteps, ih, bitStep_xor, bitSteps, bitSteps]

theorem bitSteps_of_low_clear (c : BitVec 32) (n : ℕ) (hc : ∀ i < n, c.getLsbD i = false) :
    bitSteps n c = c >>> n := by
  induction n with
  | zero => rw [bitSteps, BitVec.ushiftRight_zero]
  | succ n ih =>
    have hlow : (c >>> n).getLsbD 0 = false := by
      rw [BitVec.getLsbD_ushiftRight]
      exact hc n (Nat.lt_succ_self n)
    rw [bitSteps, ih fun i hi => hc i (Nat.lt_succ_of_lt hi), bitStep, hlow, if_neg Bool.false_ne_true,
      BitVec.shiftRight_add]

theorem getLsbD_mask (i : ℕ) (hi : i < 32) : (0xff#32).getLsbD i = decide (i < 8) := by
  interval_cases i <;> rfl

theorem and_xor_and_not (c m : BitVec 32) : (c &&& m) ^^^ (c &&& ~~~m) = c := by
  apply BitVec.eq_of_getLsbD_eq
  intro i hi
  rw [BitVec.getLsbD_xor, BitVec.getLsbD_and, BitVec.getLsbD_and, BitVec.getLsbD_not, decide_eq_true hi]
  cases m.getLsbD i <;> simp

/-- **The table step**: the word for the low byte, and the rest moved down by one byte. -/
theorem byteStep_table (c : BitVec 32) (b : UInt8) :
    byteStep c b = bitSteps 8 ((c ^^^ b.toBitVec.setWidth 32) &&& 0xff#32) ^^^ (c >>> 8) := by
  set x := c ^^^ b.toBitVec.setWidth 32 with hx
  have hclear : ∀ i < 8, (x &&& ~~~0xff#32).getLsbD i = false := by
    intro i hi
    rw [BitVec.getLsbD_and, BitVec.getLsbD_not, getLsbD_mask i (by omega), decide_eq_true hi]
    simp
  have hhigh : (x &&& ~~~0xff#32) >>> 8 = c >>> 8 := by
    apply BitVec.eq_of_getLsbD_eq
    intro i hi
    have hb : (b.toBitVec.setWidth 32).getLsbD (8 + i) = false := by
      rw [BitVec.getLsbD_setWidth, BitVec.getLsbD_of_ge _ _ (by omega), Bool.and_false]
    rw [BitVec.getLsbD_ushiftRight, BitVec.getLsbD_ushiftRight, BitVec.getLsbD_and]
    by_cases hlt : 8 + i < 32
    · have hm : (~~~0xff#32).getLsbD (8 + i) = true := by
        rw [BitVec.getLsbD_not, getLsbD_mask _ hlt]
        simp [hlt]
      rw [hm, Bool.and_true, hx, BitVec.getLsbD_xor, hb, Bool.xor_false]
    · rw [BitVec.getLsbD_of_ge _ _ (by omega), BitVec.getLsbD_of_ge c _ (by omega), Bool.false_and]
  have hsplit : bitSteps 8 x = bitSteps 8 (x &&& 0xff#32) ^^^ bitSteps 8 (x &&& ~~~0xff#32) := by
    rw [← bitSteps_xor, and_xor_and_not]
  rw [byteStep, ← hx, hsplit, bitSteps_of_low_clear _ 8 hclear, hhigh]

end Rtl8723au.Crc32

/-! A cyclic redundancy check bit by bit. The register of the standard takes the message at its top end and
drops its top bit; the reflected one is its mirror image and takes whole bytes at its low end. -/
namespace Rtl8723au.ShiftRegister
set_option autoImplicit false

/-! ## One bit, either way round -/

section Width
variable {w : ℕ} (poly : BitVec w)

/-- One bit of the message: against the top bit, which falls out, it decides whether the polynomial is
subtracted. -/
def step (c : BitVec w) (b : Bool) : BitVec w :=
  if c.msb ^^ b then (c <<< 1) ^^^ poly else c <<< 1

/-- The same, with the register the other way round. -/
def reflectedStep (c : BitVec w) (b : Bool) : BitVec w :=
  if c.getLsbD 0 ^^ b then (c >>> 1) ^^^ poly else c >>> 1

/-- The bits of a byte in the order they go on the wire, the low one first. -/
def wireBits (b : UInt8) : List Bool := (List.range 8).map b.toBitVec.getLsbD

/-- **The check of a message, bit by bit**: bytes go in low bit first, the register starts with ones, and
comes out mirrored and complemented. -/
def reflectedCrc (l : List UInt8) : BitVec w :=
  ~~~ ((l.flatMap wireBits).foldl (step poly) (BitVec.allOnes w)).reverse

variable {poly}

theorem reverse_shiftLeft_one (c : BitVec w) : (c <<< 1).reverse = c.reverse >>> 1 := by
  apply BitVec.eq_of_getLsbD_eq
  intro i hi
  rw [BitVec.getLsbD_reverse, BitVec.getLsbD_ushiftRight, BitVec.getLsbD_reverse, BitVec.getMsbD_shiftLeft,
    Nat.add_comm]

theorem reverse_xor (c d : BitVec w) : (c ^^^ d).reverse = c.reverse ^^^ d.reverse := by
  apply BitVec.eq_of_getLsbD_eq
  intro i hi
  simp only [BitVec.getLsbD_xor, BitVec.getLsbD_reverse, BitVec.getMsbD_xor]

theorem reverse_step (c : BitVec w) (b : Bool) :
    (step poly c b).reverse = reflectedStep poly.reverse c.reverse b := by
  have hlow : c.reverse.getLsbD 0 = c.msb := by
    rw [BitVec.getLsbD_reverse, BitVec.msb]
  unfold step reflectedStep
  rw [hlow]
  split
  · rw [reverse_xor, reverse_shiftLeft_one]
  · exact reverse_shiftLeft_one c

theorem reverse_run (l : List Bool) (c : BitVec w) :
    (l.foldl (step poly) c).reverse = l.foldl (reflectedStep poly.reverse) c.reverse := by
  induction l generalizing c with
  | nil => rfl
  | cons b l ih => rw [List.foldl_cons, List.foldl_cons, ih, reverse_step]

theorem reverse_allOnes : (BitVec.allOnes w).reverse = BitVec.allOnes w := by
  apply BitVec.eq_of_getLsbD_eq
  intro i hi
  rw [BitVec.getLsbD_reverse, BitVec.getMsbD_allOnes, BitVec.getLsbD_allOnes]

theorem reflectedStep_xor (c y : BitVec w) :
    reflectedStep poly (c ^^^ y) false = reflectedStep poly c (y.getLsbD 0) ^^^ (y >>> 1) := by
  unfold reflectedStep
  rw [BitVec.getLsbD_xor, Bool.xor_false, BitVec.ushiftRight_xor_distrib]
  split
  · ac_rfl
  · rfl

/-- **The bits of a word may all go in at once**, before as many turns as it has bits. -/
theorem foldl_bits (n : ℕ) (c y : BitVec w) (hy : ∀ i, n ≤ i → y.getLsbD i = false) :
    ((List.range n).map y.getLsbD).foldl (reflectedStep poly) c
      = (fun x => reflectedStep poly x false)^[n] (c ^^^ y) := by
  induction n generalizing c y with
  | zero =>
    have hzero : y = 0#w := by
      apply BitVec.eq_of_getLsbD_eq
      intro i _
      rw [hy i (Nat.zero_le i), BitVec.getLsbD_zero]
    rw [hzero, BitVec.xor_zero]
    rfl
  | succ n ih =>
    have hshift : (y.getLsbD ∘ Nat.succ) = (y >>> 1).getLsbD := by
      funext i
      rw [Function.comp_apply, BitVec.getLsbD_ushiftRight, Nat.add_comm]
    rw [List.range_succ_eq_map, List.map_cons, List.map_map, hshift, List.foldl_cons, Function.iterate_succ_apply,
      reflectedStep_xor]
    apply ih
    intro i hi
    rw [BitVec.getLsbD_ushiftRight]
    exact hy _ (by omega)

end Width

/-! ## The 32-bit check -/

theorem reverse_polynomial : (0x04c11db7#32).reverse = Crc32.polynomial := by decide +kernel

theorem iterate_bitStep (n : ℕ) (c : BitVec 32) :
    (fun x => reflectedStep Crc32.polynomial x false)^[n] c = Crc32.bitSteps n c := by
  have hstep : (fun x => reflectedStep Crc32.polynomial x false) = Crc32.bitStep := by
    funext x
    unfold reflectedStep Crc32.bitStep
    rw [Bool.xor_false]
  rw [hstep]
  induction n with
  | zero => rfl
  | succ n ih => rw [Function.iterate_succ_apply', ih, Crc32.bitSteps]

theorem foldl_wireBits (c : BitVec 32) (b : UInt8) :
    (wireBits b).foldl (reflectedStep Crc32.polynomial) c = Crc32.byteStep c b := by
  have hbits : wireBits b = (List.range 8).map (b.toBitVec.setWidth 32).getLsbD := by
    apply List.map_congr_left
    intro i hi
    have hi' := List.mem_range.mp hi
    rw [BitVec.getLsbD_setWidth, decide_eq_true (by omega), Bool.true_and]
  have hhigh : ∀ i, 8 ≤ i → (b.toBitVec.setWidth 32).getLsbD i = false := by
    intro i hi
    rw [BitVec.getLsbD_setWidth, BitVec.getLsbD_of_ge _ _ hi, Bool.and_false]
  rw [hbits, foldl_bits 8 c _ hhigh, iterate_bitStep, Crc32.byteStep]

/-- **The byte-wise CRC-32 is the check of the standard polynomial**, bit by bit. -/
theorem crc32_eq_reflectedCrc (l : List UInt8) : Crc32.crc32 l = reflectedCrc 0x04c11db7#32 l := by
  have hrun : ∀ c : BitVec 32, (l.flatMap wireBits).foldl (reflectedStep Crc32.polynomial) c
      = l.foldl Crc32.byteStep c := by
    induction l with
    | nil => exact fun _ => rfl
    | cons b l ih =>
      intro c
      rw [List.flatMap_cons, List.foldl_append, foldl_wireBits, ih, List.foldl_cons]
  rw [reflectedCrc, reverse_run, reverse_polynomial, reverse_allOnes, hrun]
  rfl

end Rtl8723au.ShiftRegister
