import Rtl8723au.Library.AccessM
import Rtl8723au.Library.Crc32

/-! RC4 and the ICV of `core/rtw_security.c`: `arcfour_init`, `arcfour_byte`,
`arcfour_encrypt`, `crc32_init`, `getcrc32` and the comparison both WEP and TKIP make. -/
namespace Rtl8723au.Security
open Mem
set_option autoImplicit false

/-! ## RC4 -/

/-- `struct arc4context`; `x` and `y` are kept under `0xff`. -/
structure Arc4context where
  x : UInt8
  y : UInt8
  state : Vector UInt8 256

def stateGet (state : Vector UInt8 256) (i : UInt8) : UInt8 := state.get i.toFin

def stateSet (state : Vector UInt8 256) (i v : UInt8) : Vector UInt8 256 := state.set i.toFin v

/-- One turn of the loop of `arcfour_init` on the state, `stateindex` and `keyindex`. -/
def arcfourInitStep (key : List UInt8) (s : Vector UInt8 256 × UInt8 × ℕ) (counter : UInt8) :
    Vector UInt8 256 × UInt8 × ℕ :=
  let (state, stateindex, keyindex) := s
  let t := stateGet state counter
  let stateindex := stateindex + key.getD keyindex 0 + t
  let u := stateGet state stateindex
  let state := stateSet (stateSet state stateindex t) counter u
  (state, stateindex, if keyindex + 1 ≥ key.length then 0 else keyindex + 1)

def arcfourInit (key : List UInt8) : Arc4context :=
  let s := (List.range 256).foldl (fun s counter => arcfourInitStep key s (UInt8.ofNat counter))
    (Vector.ofFn fun i => UInt8.ofNat i, 0, 0)
  ⟨0, 0, s.1⟩

attribute [irreducible] arcfourInit

def arcfourByte (ctx : Arc4context) : UInt8 × Arc4context :=
  let x := ctx.x + 1
  let sx := stateGet ctx.state x
  let y := sx + ctx.y
  let sy := stateGet ctx.state y
  let state := stateSet (stateSet ctx.state y sx) x sy
  (stateGet state (sx + sy), ⟨x, y, state⟩)

def arcfourEncrypt (ctx : Arc4context) (dest src : ℤ) (len : ℕ) : M Arc4context :=
  AccessM.loopAcc (fun i ctx => do
    let b ← read (src + i)
    let (k, ctx) := arcfourByte ctx
    write (dest + i) (b ^^^ k)
    pure ctx) ctx len

/-- The context after `n` bytes. -/
def arcfourAfter (ctx : Arc4context) (n : ℕ) : Arc4context := (fun c => (arcfourByte c).2)^[n] ctx

def arcfourStream (ctx : Arc4context) (n : ℕ) : UInt8 := (arcfourByte (arcfourAfter ctx n)).1

theorem arcfourAfter_succ (ctx : Arc4context) (n : ℕ) :
    arcfourAfter ctx (n + 1) = (arcfourByte (arcfourAfter ctx n)).2 :=
  Function.iterate_succ_apply' _ n ctx

/-- **`arcfour_encrypt` in place** puts its bytes under the key stream. -/
theorem arcfourEncrypt_st (ctx : Arc4context) (p : ℤ) (len : ℕ) (m : Mem) :
    ((arcfourEncrypt ctx p p len).run m).st
      = patch m p len fun k => m (p + k) ^^^ arcfourStream ctx k := by
  set v : ℕ → UInt8 := fun k => m (p + k) ^^^ arcfourStream ctx k with hv
  refine (AccessM.loopAcc_invariant _ (fun i c t => c = arcfourAfter ctx i ∧ t = patch m p i v) ctx m len
    ⟨rfl, (patch_zero m p v).symm⟩ ?_).2
  rintro i _ c t ⟨rfl, rfl⟩
  refine ⟨(arcfourAfter_succ ctx i).symm, ?_⟩
  have hread : patch m p i v (p + i) = m (p + i) := patch_outside _ _ _ _ _ (.inr le_rfl)
  show Function.update (patch m p i v) (p + i) (patch m p i v (p + i) ^^^ arcfourStream ctx i)
    = patch m p (i + 1) v
  rw [hread, ← patch_append m p i 1 v]
  funext x
  by_cases hx : x = p + i
  · have hone := patch_inside (patch m p i v) (p + i) 1 (fun k => v (i + k)) 0 Nat.one_pos
    rw [Nat.cast_zero, add_zero] at hone
    rw [hx, Function.update_self, hone]
    rfl
  · rw [Function.update_of_ne hx, patch_outside _ (p + i) 1 _ _ (by omega)]

theorem inside_arcfourEncrypt (P : ℤ → Prop) (ctx : Arc4context) (p : ℤ) (len : ℕ) (m : Mem) :
    AccessM.Inside P (arcfourEncrypt ctx p p len) m ↔ ∀ i < len, P (p + (i : ℕ)) := by
  unfold arcfourEncrypt
  rw [AccessM.inside_loopAcc]
  simp

/-! ## The ICV -/

def crc32ReverseBit (data : UInt8) : UInt8 :=
  ((data <<< 7) &&& (0x80 : UInt8)) ||| ((data <<< 5) &&& (0x40 : UInt8)) |||
    ((data <<< 3) &&& (0x20 : UInt8)) ||| ((data <<< 1) &&& (0x10 : UInt8)) |||
    ((data >>> 1) &&& (0x08 : UInt8)) ||| ((data >>> 3) &&& (0x04 : UInt8)) |||
    ((data >>> 5) &&& (0x02 : UInt8)) ||| ((data >>> 7) &&& (0x01 : UInt8))

def byteOf (c : BitVec 32) (k : ℕ) : UInt8 := UInt8.ofBitVec ((c >>> (8 * k)).setWidth 8)

/-- The entry `crc32_init` computes for `i`: the bytes of `c` from the top down, each reversed. -/
def crc32Table (i : UInt8) : BitVec 32 :=
  let k := crc32ReverseBit i
  let c := (List.range 8).foldl (fun (c : BitVec 32) _ =>
    if c &&& 0x80000000#32 != 0#32 then (c <<< 1) ^^^ 0x04c11db7#32 else c <<< 1)
      (k.toBitVec.setWidth 32 <<< 24)
  (crc32ReverseBit (byteOf c 0)).toBitVec ++ (crc32ReverseBit (byteOf c 1)).toBitVec ++
    (crc32ReverseBit (byteOf c 2)).toBitVec ++ (crc32ReverseBit (byteOf c 3)).toBitVec

/-- One turn of the loop of `getcrc32`. -/
def crc32Step (crc : BitVec 32) (b : UInt8) : BitVec 32 :=
  crc32Table (byteOf (crc ^^^ b.toBitVec.setWidth 32) 0) ^^^ (crc >>> 8)

/-- `getcrc32`; a length below one runs no turn. -/
def getcrc32 (buf : ℤ) (len : ℤ) : M (BitVec 32) := do
  let crc ← AccessM.loopAcc (fun i crc => do
    let b ← read (buf + i)
    pure (crc32Step crc b)) 0xffffffff#32 len.toNat
  pure (~~~crc)

theorem crc32Table_eq (i : UInt8) : crc32Table i = Crc32.bitSteps 8 (i.toBitVec.setWidth 32) := by
  have h : ∀ j : Fin 256, crc32Table (UInt8.ofFin j) = Crc32.bitSteps 8 ((UInt8.ofFin j).toBitVec.setWidth 32) := by
    decide +kernel
  exact h i.toFin

theorem crc32Step_eq (crc : BitVec 32) (b : UInt8) : crc32Step crc b = Crc32.byteStep crc b := by
  set x := crc ^^^ b.toBitVec.setWidth 32 with hx
  have hlow : (byteOf x 0).toBitVec.setWidth 32 = x &&& 0xff#32 := by
    apply BitVec.eq_of_getLsbD_eq
    intro i hi
    rw [BitVec.getLsbD_and, Crc32.getLsbD_mask i hi]
    by_cases h8 : i < 8 <;> simp [byteOf, h8, hi]
  rw [crc32Step, ← hx, crc32Table_eq, hlow, hx, Crc32.byteStep_table]

/-- The bytes from `p` on. -/
def bytesAt (m : Mem) (p : ℤ) (n : ℕ) : List UInt8 := (List.range n).map fun i : ℕ => m (p + i)

section Bytes
variable {m m' : Mem} {p : ℤ}

theorem bytesAt_congr (n : ℕ) (h : ∀ k < n, m' (p + (k : ℕ)) = m (p + (k : ℕ))) :
    bytesAt m' p n = bytesAt m p n := by
  apply List.map_congr_left
  intro k hk
  exact h k (List.mem_range.mp hk)

theorem bytesAt_length (n : ℕ) : (bytesAt m p n).length = n := by
  rw [bytesAt, List.length_map, List.length_range]

theorem bytesAt_eq (l : List UInt8) (h : ∀ k < l.length, m (p + (k : ℕ)) = l.getD k 0) :
    bytesAt m p l.length = l := by
  apply List.ext_getElem
  · exact bytesAt_length _
  · intro k hk hk'
    simp only [bytesAt, List.getElem_map, List.getElem_range]
    rw [h k hk', List.getD_eq_getElem _ _ hk']

theorem getD_bytesAt {l : List UInt8} (p : ℤ) (h : bytesAt m p l.length = l) (k : ℕ) (hk : k < l.length) :
    m (p + (k : ℕ)) = l.getD k 0 := by
  conv_rhs => rw [← h]
  rw [List.getD_eq_getElem _ _ (by rw [bytesAt_length]; exact hk)]
  simp [bytesAt]

theorem bytesAt_add (n r : ℕ) : bytesAt m p (n + r) = bytesAt m p n ++ bytesAt m (p + n) r := by
  unfold bytesAt
  rw [List.range_add, List.map_append, List.map_map]
  congr 1
  apply List.map_congr_left
  intro k _
  show m (p + ((n + k : ℕ) : ℤ)) = m (p + n + k)
  rw [Nat.cast_add, add_assoc]

theorem bytesAt_putBytes (a b c : List UInt8) : bytesAt (putBytes m p (a ++ b ++ c)) (p + a.length) b.length = b := by
  apply bytesAt_eq
  intro k hk
  have haddr : p + (a.length : ℤ) + k = p + ((a.length + k : ℕ) : ℤ) := by
    push_cast
    ring
  have hlen : a.length + k < (a ++ b ++ c).length := by
    rw [List.length_append, List.length_append]
    omega
  rw [haddr, putBytes_inside _ _ _ _ hlen, List.append_assoc, List.getD_append_right _ _ _ _ (by omega),
    Nat.add_sub_cancel_left, List.getD_append _ _ _ _ hk]

end Bytes

/-- **`getcrc32`** is the CRC-32 of the bytes it reads. -/
theorem getcrc32_val (buf : ℤ) (len : ℤ) (m : Mem) :
    ((getcrc32 buf len).run m).val = Crc32.crc32 (bytesAt m buf len.toNat) ∧
    ((getcrc32 buf len).run m).st = m := by
  have h := AccessM.loopAcc_invariant (fun i crc => do
      let b ← read (buf + i)
      pure (crc32Step crc b)) (fun i crc t =>
        crc = (bytesAt m buf i).foldl Crc32.byteStep 0xffffffff#32 ∧ t = m) 0xffffffff#32 m len.toNat
    ⟨rfl, rfl⟩ (by
      rintro i _ c t ⟨rfl, rfl⟩
      refine ⟨?_, rfl⟩
      have happ : bytesAt t buf (i + 1) = bytesAt t buf i ++ [t (buf + (i : ℕ))] := by
        rw [bytesAt, List.range_succ, List.map_append]
        rfl
      rw [happ, List.foldl_append]
      exact crc32Step_eq _ _)
  exact ⟨congrArg (~~~ ·) h.1, h.2⟩

theorem inside_getcrc32 (P : ℤ → Prop) (buf : ℤ) (len : ℤ) (m : Mem) :
    AccessM.Inside P (getcrc32 buf len) m ↔ ∀ i < len.toNat, P (buf + (i : ℕ)) := by
  unfold getcrc32
  rw [AccessM.inside_bind, AccessM.inside_loopAcc]
  simp

/-- `crc[n-1] != payload[length-5+n] || ..` down to `crc[0]`, where `q` is the end of the payload: the
next byte is read only when the last one agreed. -/
def compareIcvFrom (crc : BitVec 32) (q : ℤ) : ℕ → M Bool
  | 0 => pure true
  | n + 1 => do
    let b ← read (q - 4 + n)
    if byteOf crc n != b then pure false else compareIcvFrom crc q n

/-- The four comparisons, from `payload[length-1]` down; `true` when no byte differs. -/
def compareIcv (crc : BitVec 32) (q : ℤ) : M Bool := compareIcvFrom crc q 4

theorem compareIcvFrom_val (crc : BitVec 32) (q : ℤ) (m : Mem) (n : ℕ) :
    ((compareIcvFrom crc q n).run m).val = true ↔ ∀ k < n, m (q - 4 + (k : ℕ)) = byteOf crc k := by
  induction n with
  | zero => simp [compareIcvFrom]
  | succ n ih =>
    simp only [compareIcvFrom, AccessM.bind_val, AccessM.ite_run]
    by_cases h : byteOf crc n = m (q - 4 + (n : ℕ))
    · have hne : (byteOf crc n != ((read (q - 4 + n)).run m).val) = false := by simp [h]
      rw [hne, if_neg Bool.false_ne_true, read_st, ih]
      constructor
      · intro hall k hk
        rcases Nat.lt_succ_iff_lt_or_eq.mp hk with hk | rfl
        · exact hall k hk
        · exact h.symm
      · intro hall k hk
        exact hall k (Nat.lt_succ_of_lt hk)
    · have hne : (byteOf crc n != ((read (q - 4 + n)).run m).val) = true := by simp [h]
      rw [hne, if_pos rfl]
      constructor
      · intro hfalse
        exact absurd hfalse Bool.false_ne_true
      · intro hall
        exact absurd (hall n (Nat.lt_succ_self n)).symm h

theorem compareIcv_val (crc : BitVec 32) (q : ℤ) (m : Mem) :
    ((compareIcv crc q).run m).val = true ↔ ∀ k < 4, m (q - 4 + (k : ℕ)) = byteOf crc k :=
  compareIcvFrom_val crc q m 4

theorem compareIcvFrom_st (crc : BitVec 32) (q : ℤ) (m : Mem) (n : ℕ) :
    ((compareIcvFrom crc q n).run m).st = m := by
  induction n with
  | zero => rfl
  | succ n ih =>
    simp only [compareIcvFrom, AccessM.bind_st, AccessM.ite_run]
    split
    · rfl
    · exact ih

theorem compareIcv_st (crc : BitVec 32) (q : ℤ) (m : Mem) : ((compareIcv crc q).run m).st = m :=
  compareIcvFrom_st crc q m 4

theorem inside_compareIcvFrom (P : ℤ → Prop) (crc : BitVec 32) (q : ℤ) (m : Mem) (n : ℕ)
    (h : ∀ k < n, P (q - 4 + (k : ℕ))) : AccessM.Inside P (compareIcvFrom crc q n) m := by
  induction n with
  | zero => simp [compareIcvFrom]
  | succ n ih =>
    rw [compareIcvFrom, AccessM.inside_bind, AccessM.inside_ite]
    refine ⟨(inside_read P _ m).mpr (h n (Nat.lt_succ_self n)), ?_⟩
    split
    · exact AccessM.inside_pure P _ _
    · exact ih fun k hk => h k (Nat.lt_succ_of_lt hk)

end Rtl8723au.Security
