import Rtl8723au.Include.RecvFrame
import Rtl8723au.Include.Wifi
import Rtl8723au.Security.Arcfour

/-! Michael, the TKIP message integrity code of `core/rtw_security.c`: `rtw_secmicsetkey`,
`rtw_secmicappendbyte`, `rtw_secmicappend`, `rtw_secgetmic` and `rtw_seccalctkipmic`. -/
namespace Rtl8723au.Security
open Mem
set_option autoImplicit false

def rol32 (a n : UInt32) : UInt32 := (a <<< n) ||| ((a >>> (32 - n)) &&& ((1 <<< n) - 1))
def ror32 (a n : UInt32) : UInt32 := rol32 a (32 - n)

/-- `struct mic_data`. -/
structure MicData where
  k0 : UInt32
  k1 : UInt32
  l : UInt32
  r : UInt32
  m : UInt32
  nBytesInM : ℕ
  deriving DecidableEq

def secmicgetuint32 (p0 p1 p2 p3 : UInt8) : UInt32 :=
  p0.toUInt32 ||| (p1.toUInt32 <<< 8) ||| (p2.toUInt32 <<< 16) ||| (p3.toUInt32 <<< 24)

def secmicputuint32 (val : UInt32) : List UInt8 :=
  [val.toUInt8, (val >>> 8).toUInt8, (val >>> 16).toUInt8, (val >>> 24).toUInt8]

def secmicclear (d : MicData) : MicData := { d with l := d.k0, r := d.k1, nBytesInM := 0, m := 0 }

/-- `rtw_secmicsetkey`; the first eight bytes of the key are used. -/
def rtwSecmicsetkey (key : Vector UInt8 16) : MicData :=
  secmicclear ⟨secmicgetuint32 (key.get 0) (key.get 1) (key.get 2) (key.get 3),
    secmicgetuint32 (key.get 4) (key.get 5) (key.get 6) (key.get 7), 0, 0, 0, 0⟩

/-- `R ^= f(L); L += R`. -/
def micMix (f : UInt32 → UInt32) (lr : UInt32 × UInt32) : UInt32 × UInt32 :=
  (lr.1 + (lr.2 ^^^ f lr.1), lr.2 ^^^ f lr.1)

/-- The four turns on `L` and `R` once a word is full. -/
def micBlock (lr : UInt32 × UInt32) : UInt32 × UInt32 :=
  let lr := micMix (rol32 · 17) lr
  let lr := micMix (fun l => ((l &&& 0xff00ff00) >>> 8) ||| ((l &&& 0x00ff00ff) <<< 8)) lr
  let lr := micMix (rol32 · 3) lr
  micMix (ror32 · 2) lr

def rtwSecmicappendbyte (d : MicData) (b : UInt8) : MicData :=
  let m := d.m ||| (b.toUInt32 <<< UInt32.ofNat (8 * d.nBytesInM))
  if d.nBytesInM + 1 ≥ 4 then
    let lr := micBlock (d.l ^^^ m, d.r)
    { d with l := lr.1, r := lr.2, m := 0, nBytesInM := 0 }
  else { d with m := m, nBytesInM := d.nBytesInM + 1 }

def rtwSecmicappend (d : MicData) (src : List UInt8) : MicData := src.foldl rtwSecmicappendbyte d

/-- `while (nBytesInM != 0)` with at most `n` turns. -/
def micZeroes : ℕ → MicData → MicData
  | 0, d => d
  | n + 1, d => if d.nBytesInM ≠ 0 then micZeroes n (rtwSecmicappendbyte d 0) else d

/-- The state `rtw_secgetmic` reads the code from; three turns fill any word. -/
def micFinal (d : MicData) : MicData := micZeroes 3 (rtwSecmicappend d [0x5a, 0, 0, 0, 0])

/-- The eight bytes `rtw_secgetmic` puts out. -/
def rtwSecgetmic (d : MicData) : List UInt8 :=
  secmicputuint32 (micFinal d).l ++ secmicputuint32 (micFinal d).r

/-- Where the header has the destination address, and where the source. -/
def micAddrs (b1 : UInt8) : ℤ × ℤ :=
  if b1 &&& 1 ≠ 0 then (16, if b1 &&& 2 ≠ 0 then 24 else 10)
  else (4, if b1 &&& 2 ≠ 0 then 16 else 10)

/-- The addresses of the header at `p` and the priority, appended. -/
def micPseudoHeader (d : MicData) (m : Mem) (p : ℤ) (pri : UInt8) : MicData :=
  let d := rtwSecmicappend d (bytesAt m (p + (micAddrs (m (p + 1))).1) 6)
  let d := rtwSecmicappend d (bytesAt m (p + (micAddrs (m (p + 1))).2) 6)
  rtwSecmicappend d [pri, 0, 0, 0]

def rtwSeccalctkipmic (key : Vector UInt8 16) (m : Mem) (header data : ℤ) (dataLen : ℕ) (pri : UInt8) :
    List UInt8 :=
  rtwSecgetmic (rtwSecmicappend (micPseudoHeader (rtwSecmicsetkey key) m header pri) (bytesAt m data dataLen))

/-! ## Appending -/

theorem rtwSecmicappend_append (d : MicData) (a b : List UInt8) :
    rtwSecmicappend d (a ++ b) = rtwSecmicappend (rtwSecmicappend d a) b :=
  List.foldl_append

/-- Fewer than four bytes wait, and none waits in an empty word. -/
structure MicData.Pending (d : MicData) (n : ℕ) : Prop where
  count : d.nBytesInM = n % 4
  empty : d.nBytesInM = 0 → d.m = 0

theorem pending_setkey (key : Vector UInt8 16) : (rtwSecmicsetkey key).Pending 0 := ⟨rfl, fun _ => rfl⟩

theorem pending_appendbyte (d : MicData) (n : ℕ) (b : UInt8) (h : d.Pending n) :
    (rtwSecmicappendbyte d b).Pending (n + 1) := by
  obtain ⟨hcount, -⟩ := h
  unfold rtwSecmicappendbyte
  split
  · exact ⟨by dsimp only; omega, fun _ => rfl⟩
  · exact ⟨by dsimp only; omega, fun hz => absurd hz (Nat.succ_ne_zero _)⟩

theorem pending_append (d : MicData) (n : ℕ) (l : List UInt8) (h : d.Pending n) :
    (rtwSecmicappend d l).Pending (n + l.length) := by
  induction l generalizing d n with
  | nil => exact h
  | cons b l ih =>
    have hnext := ih (rtwSecmicappendbyte d b) (n + 1) (pending_appendbyte d n b h)
    rw [List.length_cons, Nat.add_comm l.length 1, ← Nat.add_assoc]
    exact hnext

/-! ## A difference is never lost -/

theorem micMix_injective (f : UInt32 → UInt32) : Function.Injective (micMix f) := by
  rintro ⟨l, r⟩ ⟨l', r'⟩ h
  have hr : r ^^^ f l = r' ^^^ f l' := congrArg Prod.snd h
  have hl : l + (r ^^^ f l) = l' + (r' ^^^ f l') := congrArg Prod.fst h
  rw [hr] at hl
  have hleq : l = l' := UInt32.add_left_inj _ |>.mp hl
  subst hleq
  have hcancel : r ^^^ f l ^^^ f l = r' ^^^ f l ^^^ f l := congrArg (· ^^^ f l) hr
  rw [UInt32.xor_assoc, UInt32.xor_self, UInt32.xor_zero, UInt32.xor_assoc, UInt32.xor_self,
    UInt32.xor_zero] at hcancel
  rw [hcancel]

theorem micBlock_injective : Function.Injective micBlock := by
  intro lr lr' h
  apply micMix_injective (rol32 · 17)
  apply micMix_injective
  apply micMix_injective (rol32 · 3)
  exact micMix_injective (ror32 · 2) h

/-- Two states that agree on what waits and differ in what was processed. -/
structure Diverged (d e : MicData) : Prop where
  count : d.nBytesInM = e.nBytesInM
  word : d.m = e.m
  differ : (d.l, d.r) ≠ (e.l, e.r)

theorem micBlock_differ (l l' r r' m m' : UInt32) (h : m = m' → (l, r) ≠ (l', r')) (hword : m ≠ m' → l = l') :
    micBlock (l ^^^ m, r) ≠ micBlock (l' ^^^ m', r') := by
  intro heq
  have hpair := micBlock_injective heq
  have hl : l ^^^ m = l' ^^^ m' := congrArg Prod.fst hpair
  have hr : r = r' := congrArg Prod.snd hpair
  by_cases hm : m = m'
  · have hcancel : l ^^^ m ^^^ m = l' ^^^ m' ^^^ m' := by rw [hl, hm]
    rw [UInt32.xor_assoc, UInt32.xor_self, UInt32.xor_zero, UInt32.xor_assoc, UInt32.xor_self,
      UInt32.xor_zero] at hcancel
    exact h hm (by rw [hcancel, hr])
  · apply hm
    have hcancel : l ^^^ (l ^^^ m) = l' ^^^ (l' ^^^ m') := by rw [hword hm, ← hl, hword hm]
    rw [← UInt32.xor_assoc, UInt32.xor_self, UInt32.zero_xor, ← UInt32.xor_assoc, UInt32.xor_self,
      UInt32.zero_xor] at hcancel
    exact hcancel

theorem diverged_appendbyte (d e : MicData) (b : UInt8) (h : Diverged d e) :
    Diverged (rtwSecmicappendbyte d b) (rtwSecmicappendbyte e b) := by
  obtain ⟨hcount, hword, hdiffer⟩ := h
  unfold rtwSecmicappendbyte
  rw [hcount, hword]
  split
  · refine ⟨rfl, rfl, ?_⟩
    exact micBlock_differ d.l e.l d.r e.r _ _ (fun _ => hdiffer) fun hne => absurd rfl hne
  · exact ⟨rfl, rfl, hdiffer⟩

theorem diverged_append (d e : MicData) (l : List UInt8) (h : Diverged d e) :
    Diverged (rtwSecmicappend d l) (rtwSecmicappend e l) := by
  induction l generalizing d e with
  | nil => exact h
  | cons b l ih => exact ih _ _ (diverged_appendbyte d e b h)

theorem diverged_zeroes (n : ℕ) (d e : MicData) (h : Diverged d e) :
    Diverged (micZeroes n d) (micZeroes n e) := by
  induction n generalizing d e with
  | zero => exact h
  | succ n ih =>
    rw [micZeroes, micZeroes, h.count]
    split
    · exact ih _ _ (diverged_appendbyte d e 0 h)
    · exact h

theorem secmicputuint32_injective : Function.Injective secmicputuint32 := by
  intro v w h
  unfold secmicputuint32 at h
  simp only [List.cons.injEq, and_true, ← UInt8.toNat_inj, UInt32.toNat_toUInt8, UInt32.toNat_shiftRight,
    UInt32.toNat_ofNat, Nat.shiftRight_eq_div_pow, Nat.reduceMod, Nat.reducePow] at h
  obtain ⟨h0, h1, h2, h3⟩ := h
  have hv := v.toNat_lt
  have hw := w.toNat_lt
  apply UInt32.toNat_inj.mp
  omega

theorem length_putuint32 (v : UInt32) : (secmicputuint32 v).length = 4 := rfl

theorem diverged_getmic (d e : MicData) (h : Diverged d e) : rtwSecgetmic d ≠ rtwSecgetmic e := by
  intro heq
  have hfinal := diverged_zeroes 3 _ _ (diverged_append d e [0x5a, 0, 0, 0, 0] h)
  unfold rtwSecgetmic at heq
  have hparts := List.append_inj heq (by rw [length_putuint32, length_putuint32])
  apply hfinal.differ
  rw [Prod.mk.injEq]
  exact ⟨secmicputuint32_injective hparts.1, secmicputuint32_injective hparts.2⟩

theorem append_priority (d : MicData) (pri : UInt8) (hcount : d.nBytesInM = 0) (hword : d.m = 0) :
    rtwSecmicappend d [pri, 0, 0, 0] = { d with
      l := (micBlock (d.l ^^^ pri.toUInt32, d.r)).1
      r := (micBlock (d.l ^^^ pri.toUInt32, d.r)).2
      m := 0, nBytesInM := 0 } := by
  simp [rtwSecmicappend, rtwSecmicappendbyte, hcount, hword]

theorem diverged_priority (d : MicData) (m : Mem) (p : ℤ) (pri pri' : UInt8) (hd : d.Pending 0)
    (hne : pri ≠ pri') : Diverged (micPseudoHeader d m p pri) (micPseudoHeader d m p pri') := by
  have hlen : ∀ q, (bytesAt m q 6).length = 6 := by
    intro q
    rw [bytesAt, List.length_map, List.length_range]
  have h1 := pending_append _ _ (bytesAt m (p + (micAddrs (m (p + 1))).1) 6) hd
  have h2 := pending_append _ _ (bytesAt m (p + (micAddrs (m (p + 1))).2) 6) h1
  dsimp only [micPseudoHeader]
  generalize rtwSecmicappend (rtwSecmicappend d _) _ = c at h2 ⊢
  rw [hlen, hlen] at h2
  have hcount : c.nBytesInM = 0 := h2.count
  have hword : c.m = 0 := h2.empty hcount
  rw [append_priority c pri hcount hword, append_priority c pri' hcount hword]
  refine ⟨rfl, rfl, ?_⟩
  have hwords : pri.toUInt32 ≠ pri'.toUInt32 := by
    intro heq
    apply hne
    have hnat := congrArg UInt32.toNat heq
    rw [UInt8.toNat_toUInt32, UInt8.toNat_toUInt32] at hnat
    exact UInt8.toNat_inj.mp hnat
  exact micBlock_differ c.l c.l c.r c.r _ _ (fun heq => absurd heq hwords) fun _ => rfl

end Rtl8723au.Security
