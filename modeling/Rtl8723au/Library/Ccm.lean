import Mathlib.Data.List.Basic
import Mathlib.Tactic

/-! Counter mode with CBC-MAC over 16-byte blocks, for any block function: the MAC
of a block list, the key stream of a counter, sealing and opening a payload. A
payload is a byte at every index; only the first `p` bytes of it matter. -/
namespace Rtl8723au.Ccm
set_option autoImplicit false

abbrev Block := Vector UInt8 16

def zeroBlock : Block := Vector.replicate 16 0

def xorBlock (a b : Block) : Block := Vector.zipWith (· ^^^ ·) a b

@[simp] theorem getElem_xorBlock (a b : Block) (i : ℕ) (hi : i < 16) :
    (xorBlock a b)[i] = a[i] ^^^ b[i] := by
  simp [xorBlock]

@[simp] theorem getElem_zeroBlock (i : ℕ) (hi : i < 16) : zeroBlock[i] = 0 := by
  simp [zeroBlock]

@[simp] theorem xorBlock_zeroBlock (b : Block) : xorBlock zeroBlock b = b := by
  ext i hi
  simp

/-! ## Blocks of a payload -/

/-- Block `j` of the first `p` bytes of `f`, filled up with zeros. -/
def blockAt (f : ℕ → UInt8) (p j : ℕ) : Block :=
  Vector.ofFn fun k => if 16 * j + k < p then f (16 * j + k) else 0

def payloadBlocks (f : ℕ → UInt8) (p : ℕ) : List Block :=
  (List.range ((p + 15) / 16)).map (blockAt f p)

theorem getElem_blockAt (f : ℕ → UInt8) (p j k : ℕ) (hk : k < 16) :
    (blockAt f p j)[k] = if 16 * j + k < p then f (16 * j + k) else 0 := by
  simp [blockAt]

theorem blockAt_congr (f g : ℕ → UInt8) (p j : ℕ) (h : ∀ k < p, f k = g k) :
    blockAt f p j = blockAt g p j := by
  ext k hk
  rw [getElem_blockAt, getElem_blockAt]
  split
  · rename_i hlt
    rw [h _ hlt]
  · rfl

theorem payloadBlocks_congr (f g : ℕ → UInt8) (p : ℕ) (h : ∀ k < p, f k = g k) :
    payloadBlocks f p = payloadBlocks g p :=
  List.map_congr_left fun j _ => blockAt_congr f g p j h

theorem payloadBlocks_inj (f g : ℕ → UInt8) (p : ℕ) (h : payloadBlocks f p = payloadBlocks g p) :
    ∀ k < p, f k = g k := by
  intro k hk
  have hj : k / 16 ∈ List.range ((p + 15) / 16) := List.mem_range.mpr (by omega)
  have hb : blockAt f p (k / 16) = blockAt g p (k / 16) := List.map_inj_left.mp h _ hj
  have he : 16 * (k / 16) + k % 16 = k := Nat.div_add_mod k 16
  have hf := getElem_blockAt f p (k / 16) (k % 16) (Nat.mod_lt _ (by norm_num))
  have hg := getElem_blockAt g p (k / 16) (k % 16) (Nat.mod_lt _ (by norm_num))
  rw [he, if_pos hk] at hf hg
  rw [← hf, ← hg, hb]

theorem payloadBlocks_split (f : ℕ → UInt8) (p : ℕ) :
    payloadBlocks f p = (List.range (p / 16)).map (blockAt f p) ++
      if p % 16 = 0 then [] else [blockAt f p (p / 16)] := by
  rw [payloadBlocks]
  split
  · have h : (p + 15) / 16 = p / 16 := by omega
    rw [h, List.append_nil]
  · have h : (p + 15) / 16 = p / 16 + 1 := by omega
    rw [h, List.range_succ, List.map_append]
    rfl

attribute [irreducible] payloadBlocks

/-! ## CBC-MAC -/

section Suite
variable (E : Block → Block)

/-- CBC over a block list with a zero initial value. -/
def cbcMac (blocks : List Block) : Block := blocks.foldl (fun c b => E (xorBlock c b)) zeroBlock

@[simp] theorem cbcMac_append_singleton (l : List Block) (b : Block) :
    cbcMac E (l ++ [b]) = E (xorBlock (cbcMac E l) b) := by
  simp [cbcMac]

theorem mod_block (k : ℕ) : k % 16 < 16 := Nat.mod_lt k (by decide)

/-- Key stream byte `k` of a payload; block zero of the counter is kept for the tag. -/
def stream (ctr : ℕ → Block) (k : ℕ) : UInt8 := getElem (E (ctr (k / 16 + 1))) (k % 16) (mod_block k)

/-- The eight tag bytes: the MAC under counter block zero. -/
def tag (ctr : ℕ → Block) (header : List Block) (f : ℕ → UInt8) (p : ℕ) (i : ℕ) : UInt8 :=
  getElem (cbcMac E (header ++ payloadBlocks f p)) (i % 16) (mod_block i) ^^^ getElem (E (ctr 0)) (i % 16) (mod_block i)

/-- The sealed payload: `p` bytes under the key stream, then the tag. -/
def sealed (ctr : ℕ → Block) (header : List Block) (f : ℕ → UInt8) (p : ℕ) (k : ℕ) : UInt8 :=
  if k < p then f k ^^^ stream E ctr k else tag E ctr header f p (k - p)

/-- The payload read back from under the key stream. -/
def opened (ctr : ℕ → Block) (g : ℕ → UInt8) (k : ℕ) : UInt8 := g k ^^^ stream E ctr k

/-- The eight bytes after the payload are the tag of the opened payload. -/
def Verifies (ctr : ℕ → Block) (header : List Block) (g : ℕ → UInt8) (p : ℕ) : Prop :=
  ∀ i < 8, g (p + i) = tag E ctr header (opened E ctr g) p i

variable {E}

theorem tag_congr (ctr : ℕ → Block) (header : List Block) (f g : ℕ → UInt8) (p i : ℕ)
    (h : ∀ k < p, f k = g k) : tag E ctr header f p i = tag E ctr header g p i := by
  rw [tag, tag, payloadBlocks_congr f g p h]

theorem opened_sealed (ctr : ℕ → Block) (header : List Block) (f : ℕ → UInt8) (p k : ℕ) (hk : k < p) :
    opened E ctr (sealed E ctr header f p) k = f k := by
  rw [opened, sealed, if_pos hk, UInt8.xor_assoc, UInt8.xor_self, UInt8.xor_zero]

/-- **A sealed payload verifies**, and opens to what was sealed by `opened_sealed`. -/
theorem verifies_sealed (ctr : ℕ → Block) (header : List Block) (f : ℕ → UInt8) (p : ℕ) :
    Verifies E ctr header (sealed E ctr header f p) p := by
  intro i _
  have hcongr := tag_congr (E := E) ctr header _ _ p i
    fun k hk => opened_sealed (E := E) ctr header f p k hk
  rw [hcongr, sealed, if_neg (by omega), Nat.add_sub_cancel_left]

end Suite

end Rtl8723au.Ccm
