import Rtl8723au.Library.Crc32
import Rtl8723au.Security.DecryptVerified
import Rtl8723au.Security.SwEncrypt

/-! The table behind `getcrc32` of `core/rtw_security.c`: `crc32_init` fills it once, most significant bit first
and mirrored byte by byte through a pointer into a word. Whatever the byte order of the machine the check is
the bit-by-bit CRC-32, and its four bytes behind a text are what the decrypt routines look for. -/
namespace Rtl8723au.Security
open Mem
set_option autoImplicit false

/-! ## Words in memory -/

inductive ByteOrder where
  | little
  | big
  deriving DecidableEq, Repr

/-- `((u8 *)&c)[k]` -/
def byteAt : ByteOrder → BitVec 32 → ℕ → UInt8
  | .little, c, k => byteOf c k
  | .big, c, k => byteOf c (3 - k)

/-- The word whose bytes in memory are these four. -/
def wordAt : ByteOrder → UInt8 → UInt8 → UInt8 → UInt8 → BitVec 32
  | .little, p0, p1, p2, p3 => p3.toBitVec ++ p2.toBitVec ++ p1.toBitVec ++ p0.toBitVec
  | .big, p0, p1, p2, p3 => p0.toBitVec ++ p1.toBitVec ++ p2.toBitVec ++ p3.toBitVec

/-! ## The table -/

/-- `bcrc32initialized` and `crc32_table`, which live as long as the driver. -/
structure Crc32Globals where
  bcrc32initialized : ℤ
  crc32Table : Vector (BitVec 32) 256

/-- The word `c` of `crc32_init` behind its eight turns for `i`. -/
def crc32InitWord (i : UInt8) : BitVec 32 :=
  (List.range 8).foldl (fun c _ => if c &&& 0x80000000#32 != 0#32 then (c <<< 1) ^^^ 0x04c11db7#32 else c <<< 1)
    ((crc32ReverseBit i).toBitVec.setWidth 32 <<< 24)

/-- `p1[0]` to `p1[3]`, from `p[3]` down to `p[0]`. -/
def crc32InitEntry (order : ByteOrder) (i : UInt8) : BitVec 32 :=
  let p := byteAt order (crc32InitWord i)
  wordAt order (crc32ReverseBit (p 3)) (crc32ReverseBit (p 2)) (crc32ReverseBit (p 1)) (crc32ReverseBit (p 0))

def crc32Init (order : ByteOrder) (g : Crc32Globals) : Crc32Globals :=
  if g.bcrc32initialized = 1 then g
  else ⟨1, (List.range 256).foldl (fun table i => table.setIfInBounds i (crc32InitEntry order (UInt8.ofNat i)))
    g.crc32Table⟩

/-- `getcrc32` with the globals it reads and leaves. -/
def getcrc32With (order : ByteOrder) (g : Crc32Globals) (buf len : ℤ) : M (BitVec 32 × Crc32Globals) := do
  let g := if g.bcrc32initialized = 0 then crc32Init order g else g
  let crc ← AccessM.loopAcc (fun i crc => do
    let b ← read (buf + i)
    pure (g.crc32Table.get (byteOf (crc ^^^ b.toBitVec.setWidth 32) 0).toFin ^^^ (crc >>> 8))) 0xffffffff#32 len.toNat
  pure (~~~crc, g)

/-- The globals from the start of the driver on, over any number of calls. -/
inductive Called (order : ByteOrder) : Crc32Globals → Prop
  | boot : Called order ⟨0, Vector.replicate 256 0⟩
  | call {g : Crc32Globals} (buf len : ℤ) (m : Mem) (h : Called order g) :
      Called order ((getcrc32With order g buf len).run m).val.2

section Table
variable {order : ByteOrder} {g : Crc32Globals}

theorem crc32InitEntry_eq (order : ByteOrder) (i : UInt8) : crc32InitEntry order i = crc32Table i := by
  cases order <;> rfl

theorem setEach_get {α : Type} {n : ℕ} (f : ℕ → α) (v : Vector α n) (k : ℕ) (i : Fin n) (hi : i < k) :
    ((List.range k).foldl (fun t j => t.setIfInBounds j (f j)) v).get i = f i := by
  induction k with
  | zero => exact absurd hi (Nat.not_lt_zero _)
  | succ k ih =>
    rw [List.range_succ, List.foldl_append, List.foldl_cons, List.foldl_nil]
    show (Vector.setIfInBounds _ k (f k))[(i : ℕ)] = f i
    rw [Vector.getElem_setIfInBounds]
    split
    · rename_i heq
      rw [heq]
    · rename_i hne
      exact ih (by omega)

/-- The table is either still to be filled or right. -/
structure TableReady (g : Crc32Globals) : Prop where
  flag : g.bcrc32initialized = 0 ∨ g.bcrc32initialized = 1
  table : g.bcrc32initialized = 1 → ∀ i : UInt8, g.crc32Table.get i.toFin = crc32Table i

theorem crc32Init_ready (h : g.bcrc32initialized = 0) : TableReady (crc32Init order g) ∧
    (crc32Init order g).bcrc32initialized = 1 := by
  have hne : ¬ g.bcrc32initialized = 1 := by omega
  rw [crc32Init, if_neg hne]
  refine ⟨⟨.inr rfl, fun _ i => ?_⟩, rfl⟩
  have hset := setEach_get (fun j => crc32InitEntry order (UInt8.ofNat j)) g.crc32Table 256 i.toFin i.toFin.isLt
  have hself : UInt8.ofNat (i.toFin : ℕ) = i := UInt8.ofNat_toNat
  rw [hset, hself, crc32InitEntry_eq]

def initialised (order : ByteOrder) (g : Crc32Globals) : Crc32Globals :=
  if g.bcrc32initialized = 0 then crc32Init order g else g

theorem initialised_ready (h : TableReady g) : TableReady (initialised order g) ∧
    (initialised order g).bcrc32initialized = 1 := by
  unfold initialised
  split
  · exact crc32Init_ready ‹_›
  · exact ⟨h, h.flag.resolve_left ‹_›⟩

/-- **A call with the table is the call with its entries**, and leaves the table filled. -/
theorem getcrc32With_run (h : TableReady g) (buf len : ℤ) (m : Mem) : (getcrc32With order g buf len).run m =
    ⟨(((getcrc32 buf len).run m).val, initialised order g), ((getcrc32 buf len).run m).st,
      ((getcrc32 buf len).run m).log⟩ := by
  obtain ⟨hready, hone⟩ := @initialised_ready order g h
  have hinit : (if g.bcrc32initialized = 0 then crc32Init order g else g) = initialised order g := rfl
  simp only [getcrc32With, hinit, hready.table hone]
  rfl

theorem Called.ready (h : Called order g) : TableReady g := by
  induction h with
  | boot => exact ⟨.inl rfl, fun h => absurd h (by decide)⟩
  | @call g buf len m _ ih =>
    rw [getcrc32With_run ih]
    exact (initialised_ready ih).1

end Table

/-! ## The four bytes of the ICV -/

/-- The check as the bytes a sender puts behind the text. -/
def icvBytes (c : BitVec 32) : List UInt8 := (List.range 4).map (byteOf c)

def rc4Bytes (key l : List UInt8) : List UInt8 := l.mapIdx fun k b => b ^^^ arcfourStream (arcfourInit key) k

/-- The comparison in `rtw_wep_decrypt`, which prints a line when it fails. -/
def wepIcv (adapter : RtwAdapter) (a : RxPktAttrib) (len : ℕ) : M Bool := do
  let iv ← readVec a.hdrlen 3
  arcfourDecrypt (iv.toList ++ wepSecret adapter a) (a.ivLen + a.hdrlen) (payloadLength a len)

/-- The payload of the frame is `text` and these four bytes under the key stream of its routine. -/
structure Carrying (a : RxPktAttrib) (len : ℕ) (m : Mem) (key text icv : List UInt8) : Prop where
  length : payloadLength a len = text.length + 4
  payload : bytesAt m (a.ivLen + a.hdrlen) (text.length + 4) = rc4Bytes key (text ++ icv)

/-- The ICV comparison of both routines succeeds on every frame that carries `text` and these four bytes. -/
structure IcvAccepted (text icv : List UInt8) : Prop where
  wep : ∀ (adapter : RtwAdapter) (a : RxPktAttrib) (len : ℕ) (m : Mem),
    Carrying a len m (((readVec a.hdrlen 3).run m).val.toList ++ wepSecret adapter a) text icv →
      ((wepIcv adapter a len).run m).val = true
  tkip : ∀ (adapter : RtwAdapter) (a : RxPktAttrib) (len : ℕ) (m : Mem) (prwskey : Skey), a.encrypt = TKIP →
    tkipPrwskey adapter a = some prwskey →
    Carrying a len m (tkipRc4key prwskey a.ta ((readVec a.hdrlen 8).run m).val).toList text icv →
      ((rtwTkipDecrypt adapter a len).run m).val = true

section Accepted
variable {a : RxPktAttrib} {len : ℕ} {m : Mem} {key text icv : List UInt8}

theorem cint_lt (z : ℤ) : cint z < 2 ^ 31 := by
  have h : cint z < ((2 ^ 32 : ℕ) + 1) / 2 := Int.bmod_lt (by norm_num)
  norm_num at h ⊢
  omega

theorem wepIcv_val (adapter : RtwAdapter) (a : RxPktAttrib) (len : ℕ) (m : Mem) : ((wepIcv adapter a len).run m).val
    = rc4Verdict (((readVec a.hdrlen 3).run m).val.toList ++ wepSecret adapter a)
        ((a.ivLen : ℤ) + a.hdrlen) (payloadLength a len) m := by
  rw [wepIcv, AccessM.bind_val, readVec_st, rc4Verdict]

theorem icvBytes_length (c : BitVec 32) : (icvBytes c).length = 4 := by
  rw [icvBytes, List.length_map, List.length_range]

theorem Carrying.opened (h : Carrying a len m key text icv) (hicv : icv.length = 4) (k : ℕ) (hk : k < text.length + 4) :
    rc4Mem key (a.ivLen + a.hdrlen) (payloadLength a len) m (a.ivLen + a.hdrlen + (k : ℕ)) = (text ++ icv).getD k 0 := by
  have hlt : payloadLength a len < 2 ^ 31 := cint_lt _
  have hlen := h.length
  have hall : (text ++ icv).length = text.length + 4 := by rw [List.length_append, hicv]
  have hrc4 : (rc4Bytes key (text ++ icv)).length = text.length + 4 := by rw [rc4Bytes, List.length_mapIdx, hall]
  have huint := uint_of_nonneg (payloadLength a len) (by omega) (by omega)
  have hbytes : bytesAt m (a.ivLen + a.hdrlen) (rc4Bytes key (text ++ icv)).length = rc4Bytes key (text ++ icv) := by
    rw [hrc4]
    exact h.payload
  have hcipher := getD_bytesAt _ hbytes k (by omega)
  rw [(arcfourDecrypt_spec key _ _ m (by omega)).1, patch_inside _ _ _ _ _ (by omega), hcipher,
    List.getD_eq_getElem _ _ (by omega), List.getD_eq_getElem _ _ (by omega)]
  unfold rc4Bytes
  rw [List.getElem_mapIdx]
  exact rc4_cancel _ _

theorem Carrying.verdict (h : Carrying a len m key text (icvBytes (Crc32.crc32 text))) :
    rc4Verdict key (a.ivLen + a.hdrlen) (payloadLength a len) m = true := by
  have hlt : payloadLength a len < 2 ^ 31 := cint_lt _
  have hlen := h.length
  have hopened := h.opened (icvBytes_length _)
  have htext : bytesAt (rc4Mem key (a.ivLen + a.hdrlen) (payloadLength a len) m) (a.ivLen + a.hdrlen)
      (payloadLength a len - 4).toNat = text := by
    have hcount : (payloadLength a len - 4).toNat = text.length := by omega
    rw [hcount]
    apply bytesAt_eq
    intro k hk
    rw [hopened k (by omega), List.getD_append _ _ _ _ hk]
  refine (arcfourDecrypt_spec key _ _ m (by omega)).2.mpr fun k hk => ?_
  have haddr : (a.ivLen : ℤ) + a.hdrlen + payloadLength a len - 4 + (k : ℕ)
      = a.ivLen + a.hdrlen + ((text.length + k : ℕ) : ℤ) := by
    rw [hlen]
    push_cast
    ring
  rw [htext, haddr, hopened _ (by omega), List.getD_append_right _ _ _ _ (by omega), Nat.add_sub_cancel_left,
    List.getD_eq_getElem _ _ (by rw [icvBytes_length]; exact hk)]
  simp [icvBytes]

theorem icvAccepted (text : List UInt8) : IcvAccepted text (icvBytes (Crc32.crc32 text)) where
  wep adapter a len m h := by
    rw [wepIcv_val]
    exact h.verdict
  tkip adapter a len m prwskey ht hkey h := by
    rw [(rtwTkipDecrypt_run adapter a len m prwskey ht hkey).2]
    exact h.verdict

/-- **`getcrc32` with its table is the CRC-32 bit by bit**, and its bytes behind the text pass the comparison
of the decrypt routines. -/
theorem getcrc32With_bitwise {order : ByteOrder} {g : Crc32Globals} (hg : Called order g) {buf : ℤ}
    (htext : bytesAt m buf text.length = text) :
    ((getcrc32With order g buf text.length).run m).val.1 = ShiftRegister.reflectedCrc 0x04c11db7#32 text ∧
    IcvAccepted text (icvBytes ((getcrc32With order g buf text.length).run m).val.1) := by
  have hcrc : ((getcrc32With order g buf text.length).run m).val.1 = Crc32.crc32 text := by
    rw [getcrc32With_run hg.ready, (getcrc32_val _ _ _).1, Int.toNat_natCast, htext]
  rw [hcrc]
  exact ⟨ShiftRegister.crc32_eq_reflectedCrc text, icvAccepted text⟩

end Accepted

def digits : List UInt8 := (List.range 9).map fun i => UInt8.ofNat (0x31 + i)

/-- A WEP frame that carries the digits, under an IV of zeros. -/
def digitsFrame : Mem :=
  putBytes (fun _ => 0) 28 (rc4Bytes ((Vector.replicate 3 0).toList ++ wepSecret {} wepAttrib)
    (digits ++ icvBytes (Crc32.crc32 digits)))

/-- The check value of the digits, from a driver that has just started; and their frame passes. -/
theorem getcrc32With_digits :
    ((getcrc32With .big ⟨0, Vector.replicate 256 0⟩ 0 9).run (putBytes (fun _ => 0) 0 digits)).val.1 = 0xcbf43926#32 ∧
    ((wepIcv {} wepAttrib 41).run digitsFrame).val = true := by
  have htext : bytesAt (putBytes (fun _ => 0) 0 digits) 0 digits.length = digits := by decide +kernel
  obtain ⟨hcrc, haccepted⟩ := getcrc32With_bitwise (Called.boot : Called .big _) htext
  have hcheck : Crc32.crc32 digits = 0xcbf43926#32 := by decide +kernel
  rw [hcrc, ← ShiftRegister.crc32_eq_reflectedCrc] at haccepted
  refine ⟨hcrc.trans ((ShiftRegister.crc32_eq_reflectedCrc digits).symm.trans hcheck), ?_⟩
  have hiv : ((readVec wepAttrib.hdrlen 3).run digitsFrame).val = Vector.replicate 3 0 := by
    apply Vector.ext
    intro i hi
    rw [readVec_val, Vector.getElem_ofFn, Vector.getElem_replicate]
    exact putBytes_outside _ _ _ _ (.inl (by show (24 : ℤ) + (i : ℕ) < 28; omega))
  refine haccepted.wep {} wepAttrib 41 digitsFrame ⟨by decide +kernel, ?_⟩
  rw [hiv]
  have hlen : (rc4Bytes ((Vector.replicate 3 0).toList ++ wepSecret {} wepAttrib)
      (digits ++ icvBytes (Crc32.crc32 digits))).length = digits.length + 4 := by
    rw [rc4Bytes, List.length_mapIdx, List.length_append, icvBytes_length]
  rw [← hlen]
  exact bytesAt_eq _ fun k hk => putBytes_inside _ _ _ k hk

end Rtl8723au.Security
