import Rtl8723au.Ieee80211.Attributes
import Rtl8723au.Ieee80211.RemoveIe
import Rtl8723au.Ieee80211.SecurityIeExact

/-! `rtw_WLAN_BSSID_EX_remove_p2p_attr` of `core/rtw_ieee80211.c`: the attributes of an identifier are taken out of the first
P2P element of a network, and the elements behind it are moved up. -/
namespace Rtl8723au.Ieee80211
open Mem Security AccessM Search WhileLoop
set_option autoImplicit false

/-- The elements of `WLAN_BSSID_EX`, behind twelve fixed bytes. -/
structure WlanBssidEx where
  ies : Mem
  ieLength : ℕ

/-- `rtw_WLAN_BSSID_EX_remove_p2p_attr`, with at most so many passes of its loops. -/
def rtwWLANBSSIDExRemoveP2pAttr (bssEx : WlanBssidEx) (attrId fuel : ℕ) : Option WlanBssidEx :=
  match ((rtwGetP2pIe _FIXED_IE_LENGTH_ ((bssEx.ieLength : ℤ) - _FIXED_IE_LENGTH_) false).run bssEx.ies).val with
  | none => some bssEx
  | some p2pIe =>
    match rtwP2pAttrRemove p2pIe.ptr attrId fuel (bssEx.ies, p2pIe.size) with
    | none => none
    | some (m, p2pIelen) =>
      if p2pIelen = p2pIe.size then some { bssEx with ies := m }
      else
        let nextIeOri := p2pIe.ptr + p2pIe.size
        let nextIe := p2pIe.ptr + p2pIelen
        let remainLen := uint (bssEx.ieLength - nextIeOri)
        let m := memcpyDown m nextIe nextIeOri remainLen
        let m := memset m (nextIe + remainLen) (uint (p2pIe.size - p2pIelen))
        some ⟨m, uint (bssEx.ieLength - (p2pIe.size - p2pIelen))⟩

/-! ## Lists of attributes -/

/-- An attribute of P2P. -/
structure P2pAttr where
  id : UInt8
  body : List UInt8
  short : body.length < 2 ^ 16

namespace P2pAttr

def size (a : P2pAttr) : ℕ := a.body.length + 3

def encode (a : P2pAttr) : List UInt8 := a.id :: (le16 a.body.length ++ a.body)

def encodeAll (as : List P2pAttr) : List UInt8 := as.flatMap encode

@[simp] theorem encodeAll_nil : encodeAll [] = [] := rfl

@[simp] theorem encodeAll_cons (a : P2pAttr) (as : List P2pAttr) : encodeAll (a :: as) = a.encode ++ encodeAll as := rfl

@[simp] theorem encodeAll_append (as bs : List P2pAttr) : encodeAll (as ++ bs) = encodeAll as ++ encodeAll bs :=
  List.flatMap_append

@[simp] theorem encode_length (a : P2pAttr) : a.encode.length = a.size := by
  simp [encode, size, le16]

def without (id : UInt8) (as : List P2pAttr) : List P2pAttr := as.filter fun a => a.id ≠ id

theorem encodeAll_without_le (id : UInt8) (as : List P2pAttr) :
    (encodeAll (without id as)).length ≤ (encodeAll as).length := by
  induction as with
  | nil => exact le_rfl
  | cons a as ih =>
    rw [without, List.filter_cons]
    split
    · rw [encodeAll_cons, encodeAll_cons, List.length_append, List.length_append]
      exact Nat.add_le_add_left ih _
    · rw [encodeAll_cons, List.length_append]
      exact ih.trans (Nat.le_add_left _ _)

theorem encodeAll_without_eq_iff (id : UInt8) (as : List P2pAttr) :
    (encodeAll (without id as)).length = (encodeAll as).length ↔ ∀ a ∈ as, a.id ≠ id := by
  constructor
  · intro h
    induction as with
    | nil => exact fun a ha => absurd ha List.not_mem_nil
    | cons a as ih =>
      have hle := encodeAll_without_le id as
      have hsize : 3 ≤ a.size := Nat.le_add_left 3 _
      rw [without, List.filter_cons] at h
      by_cases hid : a.id = id
      · rw [if_neg (by simpa using hid), encodeAll_cons, List.length_append, encode_length] at h
        rw [without] at hle
        omega
      · rw [if_pos (decide_eq_true hid), encodeAll_cons, encodeAll_cons, List.length_append, List.length_append] at h
        intro b hb
        rcases List.mem_cons.mp hb with rfl | hb
        · exact hid
        · exact ih (Nat.add_left_cancel h) b hb
  · intro h
    rw [without, List.filter_eq_self.mpr fun a ha => decide_eq_true (h a ha)]

end P2pAttr

/-- A P2P element with its attributes. -/
structure P2pIe where
  attrs : List P2pAttr
  fits : (P2pAttr.encodeAll attrs).length + 4 < 256

namespace P2pIe

def toTlv (p : P2pIe) : Tlv where
  id := _VENDOR_SPECIFIC_IE_
  body := p2pOui ++ P2pAttr.encodeAll p.attrs
  short := by
    rw [List.length_append, Nat.add_comm]
    exact p.fits

/-- The element without the attributes of an identifier. -/
def without (p : P2pIe) (id : UInt8) : P2pIe where
  attrs := P2pAttr.without id p.attrs
  fits := (Nat.add_le_add_right (P2pAttr.encodeAll_without_le id p.attrs) 4).trans_lt p.fits

theorem toTlv_size (p : P2pIe) : p.toTlv.size = 6 + (P2pAttr.encodeAll p.attrs).length := by
  show (p2pOui ++ P2pAttr.encodeAll p.attrs).length + 2 = _
  rw [List.length_append, show p2pOui.length = 4 from rfl]
  omega

end P2pIe

/-! ## What it is for -/

/-- The network is its twelve fixed bytes and a list of elements. -/
structure HoldsIes (bssEx : WlanBssidEx) (fixed : List UInt8) (es : List Tlv) : Prop where
  fixed_length : fixed.length = _FIXED_IE_LENGTH_
  length : bssEx.ieLength = _FIXED_IE_LENGTH_ + (Tlv.encodeAll es).length
  bytes : bytesAt bssEx.ies 0 (_FIXED_IE_LENGTH_ + (Tlv.encodeAll es).length) = fixed ++ Tlv.encodeAll es

/-- An element of the P2P vendor. -/
def IsP2p (e : Tlv) : Prop := Matches _VENDOR_SPECIFIC_IE_ (some p2pOui) e

/-- No element of a list looks like one of the P2P vendor, with the bytes behind it. -/
def NoneLooksP2p (pre : List Tlv) (behind : List UInt8) : Prop :=
  ∀ l e r, pre = l ++ e :: r → ¬LooksLike _VENDOR_SPECIFIC_IE_ (some p2pOui) e (Tlv.encodeAll r ++ behind)

/-! ## The search for an attribute -/

section
variable {m : Mem} {ie : ℤ} {id : UInt8} {ielen : ℕ}

theorem le16At_eq (p : ℤ) (n : ℕ) (hn : n < 2 ^ 16) (h : bytesAt m p 2 = le16 n) : le16At m p = n :=
  ((bytesAt_eq_le16 n hn).mp h).symm

theorem attr_at {a : P2pAttr} {p : ℤ} (hshort : a.size < 2 ^ 16) (h : bytesAt m p a.size = a.encode) :
    p2pAttr.attrId m p = a.id.toNat ∧ p2pAttr.attrLen m p = a.size := by
  have hsplit : a.encode = [a.id] ++ (le16 a.body.length ++ a.body) := rfl
  rw [hsplit, bytesAt_eq_append] at h
  obtain ⟨-, hid, hrest⟩ := h
  obtain ⟨-, hlen, -⟩ := bytesAt_eq_append.mp hrest
  constructor
  · show (m p).toNat = a.id.toNat
    have hbyte : bytesAt m p 1 = [m (p + 0)] := rfl
    have hid : bytesAt m p 1 = [a.id] := hid
    rw [hbyte, add_zero, List.cons.injEq] at hid
    rw [hid.1]
  · show (le16At m (p + 1) + 3) % 2 ^ 16 = a.size
    have hlen : bytesAt m (p + 1) 2 = le16 a.body.length := hlen
    rw [le16At_eq _ _ a.short hlen]
    exact Nat.mod_eq_of_lt hshort

theorem passes_others {l : List P2pAttr} (hl : ∀ a ∈ l, a.id ≠ id) (k fuel : ℕ)
    (hend : k + (P2pAttr.encodeAll l).length ≤ ielen) (hshort : ielen < 2 ^ 16)
    (h : bytesAt m (ie + k) (P2pAttr.encodeAll l).length = P2pAttr.encodeAll l) :
    passes (p2pAttr.pass m ie ielen id.toNat false) (l.length + fuel) k =
      passes (p2pAttr.pass m ie ielen id.toNat false) fuel (k + (P2pAttr.encodeAll l).length) := by
  induction l generalizing k with
  | nil => rw [List.length_nil, Nat.zero_add, P2pAttr.encodeAll_nil, List.length_nil, Nat.add_zero]
  | cons a l ih =>
    rw [P2pAttr.encodeAll_cons, bytesAt_eq_append, P2pAttr.encode_length] at h
    obtain ⟨-, hfirst, hrest⟩ := h
    rw [P2pAttr.encodeAll_cons, List.length_append, P2pAttr.encode_length] at hend
    have hsize : 3 ≤ a.size := Nat.le_add_left 3 _
    obtain ⟨hid, hlen⟩ := attr_at (by omega) hfirst
    have hpass : p2pAttr.pass m ie ielen id.toNat false k = .inr (k + a.size) := by
      refine pass_next_iff.mpr ⟨by omega, ?_, by rw [hlen]⟩
      rw [hid]
      exact fun heq => hl a List.mem_cons_self (UInt8.toNat_inj.mp heq)
    have hplace : ie + (k : ℤ) + (a.size : ℤ) = ie + (k + a.size : ℕ) := by
      push_cast
      ring
    rw [hplace] at hrest
    rw [List.length_cons, Nat.succ_add, passes_next hpass,
      ih (fun b hb => hl b (List.mem_cons_of_mem a hb)) (k + a.size) (by omega) hrest, P2pAttr.encodeAll_cons,
      List.length_append, P2pAttr.encode_length, Nat.add_assoc]

theorem bytesAt_memcpyDown (dst src : ℤ) (n : ℕ) : bytesAt (memcpyDown m dst src n) dst n = bytesAt m src n := by
  have hput := bytesAt_putBytes (m := m) (p := dst) [] (bytesAt m src n) []
  rw [List.nil_append, List.append_nil, bytesAt_length] at hput
  simpa [memcpyDown] using hput

theorem memcpyDown_outside (dst src x : ℤ) (n : ℕ) (hx : x < dst ∨ dst + n ≤ x) : memcpyDown m dst src n x = m x :=
  putBytes_outside _ _ _ _ (by rw [bytesAt_length]; exact hx)

theorem memset_outside (p x : ℤ) (n : ℕ) (hx : x < p ∨ p + n ≤ x) : memset m p n x = m x :=
  putBytes_outside _ _ _ _ (by rw [List.length_replicate]; exact hx)

/-- A P2P element in memory. -/
structure HoldsAttrs (m : Mem) (ie : ℤ) (as : List P2pAttr) : Prop where
  id : m ie = _VENDOR_SPECIFIC_IE_
  length : m (ie + 1) = UInt8.ofNat (4 + (P2pAttr.encodeAll as).length)
  oui : bytesAt m (ie + 2) 4 = p2pOui
  attrs : bytesAt m (ie + (6 : ℕ)) (P2pAttr.encodeAll as).length = P2pAttr.encodeAll as

variable {as : List P2pAttr} (h : HoldsAttrs m ie as)
include h

theorem getAttr_none (hnone : ∀ a ∈ as, a.id ≠ id) (hshort : 6 + (P2pAttr.encodeAll as).length < 2 ^ 16) (fuel : ℕ)
    (hfuel : as.length < fuel) :
    rtwGetP2pAttr m ie (6 + (P2pAttr.encodeAll as).length) id.toNat false fuel = some none := by
  have hvendor : p2pAttr.Vendor m ie := ⟨h.id, h.oui⟩
  obtain ⟨fuel, rfl⟩ := Nat.exists_eq_add_of_lt hfuel
  unfold rtwGetP2pAttr AttrKind.getAttr
  rw [if_pos hvendor, Nat.add_assoc as.length, passes_others hnone 6 _ le_rfl hshort h.attrs]
  exact passes_return (if_pos le_rfl)

theorem getAttr_found {l r : List P2pAttr} {a : P2pAttr} (has : as = l ++ a :: r) (hl : ∀ b ∈ l, b.id ≠ id) (ha : a.id = id)
    (hshort : 6 + (P2pAttr.encodeAll as).length < 2 ^ 16) (fuel : ℕ) (hfuel : as.length < fuel) :
    rtwGetP2pAttr m ie (6 + (P2pAttr.encodeAll as).length) id.toNat false fuel =
      some (some ⟨ie + (6 + (P2pAttr.encodeAll l).length : ℕ), a.size, []⟩) := by
  have hvendor : p2pAttr.Vendor m ie := ⟨h.id, h.oui⟩
  have hlength : (P2pAttr.encodeAll as).length =
      (P2pAttr.encodeAll l).length + (a.size + (P2pAttr.encodeAll r).length) := by
    rw [has, P2pAttr.encodeAll_append, P2pAttr.encodeAll_cons, List.length_append, List.length_append,
      P2pAttr.encode_length]
  have hcount : as.length = l.length + (r.length + 1) := by
    rw [has, List.length_append, List.length_cons]
  have hattrs := h.attrs
  rw [has, P2pAttr.encodeAll_append, bytesAt_eq_append, P2pAttr.encodeAll_cons, bytesAt_eq_append,
    P2pAttr.encode_length] at hattrs
  obtain ⟨-, hbefore, -, hattr, -⟩ := hattrs
  have hsize : 3 ≤ a.size := Nat.le_add_left 3 _
  have hplace : ie + (6 : ℕ) + ((P2pAttr.encodeAll l).length : ℤ) = ie + (6 + (P2pAttr.encodeAll l).length : ℕ) := by
    push_cast
    ring
  rw [hplace] at hattr
  obtain ⟨hid, hlen⟩ := attr_at (by omega) hattr
  obtain ⟨fuel, rfl⟩ := Nat.exists_eq_add_of_lt hfuel
  unfold rtwGetP2pAttr AttrKind.getAttr
  rw [if_pos hvendor, hcount, Nat.add_assoc l.length, Nat.add_assoc l.length,
    passes_others hl 6 _ (by omega) hshort hbefore]
  apply passes_return
  unfold AttrKind.pass
  rw [if_neg (by omega), hid, ha, if_pos rfl, hlen, if_neg Bool.false_ne_true]

/-! ## The removal of an attribute -/

theorem removeAttr_holds {l r : List P2pAttr} {a : P2pAttr} (has : as = l ++ a :: r)
    (hfits : 4 + (P2pAttr.encodeAll as).length < 256) :
    let b := removeAttr m ie (6 + (P2pAttr.encodeAll as).length) ⟨ie + (6 + (P2pAttr.encodeAll l).length : ℕ), a.size, []⟩
    b.2 = 6 + (P2pAttr.encodeAll (l ++ r)).length ∧ HoldsAttrs b.1 ie (l ++ r) ∧
      ∀ x, x < ie ∨ ie + (6 + (P2pAttr.encodeAll as).length : ℕ) ≤ x → b.1 x = m x := by
  have hlength : (P2pAttr.encodeAll as).length =
      (P2pAttr.encodeAll l).length + (a.size + (P2pAttr.encodeAll r).length) := by
    rw [has, P2pAttr.encodeAll_append, P2pAttr.encodeAll_cons, List.length_append, List.length_append,
      P2pAttr.encode_length]
  have hlength' : (P2pAttr.encodeAll (l ++ r)).length = (P2pAttr.encodeAll l).length + (P2pAttr.encodeAll r).length := by
    rw [P2pAttr.encodeAll_append, List.length_append]
  have hattrs := h.attrs
  rw [has, P2pAttr.encodeAll_append, bytesAt_eq_append, P2pAttr.encodeAll_cons, bytesAt_eq_append,
    P2pAttr.encode_length] at hattrs
  obtain ⟨-, hbefore, -, -, hbehind⟩ := hattrs
  set target : ℤ := ie + (6 + (P2pAttr.encodeAll l).length : ℕ) with htarget
  have hplace : ie + (6 : ℕ) + ((P2pAttr.encodeAll l).length : ℤ) + (a.size : ℤ) = target + a.size := by
    rw [htarget]
    push_cast
    ring
  rw [hplace] at hbehind
  have hremain : uint ((6 + (P2pAttr.encodeAll as).length : ℕ) - (target + a.size - ie)) =
      (P2pAttr.encodeAll r).length := by
    unfold uint
    omega
  have hielen : uint ((6 + (P2pAttr.encodeAll as).length : ℕ) - (a.size : ℤ)) = 6 + (P2pAttr.encodeAll (l ++ r)).length := by
    unfold uint
    omega
  dsimp only
  rw [removeAttr]
  dsimp only
  rw [hremain, hielen]
  -- the memory behind the copies, without the length byte
  set moved := memset (memcpyDown (memset m target a.size) target (target + a.size) (P2pAttr.encodeAll r).length)
    (target + (P2pAttr.encodeAll r).length) a.size with hmoved
  have hbelow (x : ℤ) (hx : x < target) : moved x = m x := by
    rw [hmoved, memset_outside _ _ _ (.inl (by omega)), memcpyDown_outside _ _ _ _ (.inl hx), memset_outside _ _ _ (.inl hx)]
  have habove (x : ℤ) (hx : target + a.size + (P2pAttr.encodeAll r).length ≤ x) : moved x = m x := by
    rw [hmoved, memset_outside _ _ _ (.inr (by omega)), memcpyDown_outside _ _ _ _ (.inr (by omega)),
      memset_outside _ _ _ (.inr (by omega))]
  have hrest : bytesAt moved target (P2pAttr.encodeAll r).length = P2pAttr.encodeAll r := by
    have hsource : bytesAt (memset m target a.size) (target + a.size) (P2pAttr.encodeAll r).length =
        P2pAttr.encodeAll r := by
      refine (bytesAt_congr _ fun k _ => ?_).trans hbehind
      exact memset_outside _ _ _ (.inr (by omega))
    refine (bytesAt_congr _ fun k hk => ?_).trans ((bytesAt_memcpyDown _ _ _).trans hsource)
    exact memset_outside _ _ _ (.inl (by omega))
  have hother (x : ℤ) (hx : x ≠ ie + 1) :
      Function.update moved (ie + 1) (moved (ie + 1) - UInt8.ofNat a.size) x = moved x := Function.update_of_ne hx _ _
  refine ⟨rfl, ⟨?_, ?_, ?_, ?_⟩, fun x hx => ?_⟩
  · rw [hother ie (by omega), hbelow ie (by omega)]
    exact h.id
  · rw [Function.update_self, hbelow _ (by omega), h.length, ← UInt8.toNat_inj, UInt8.toNat_sub, UInt8.toNat_ofNat',
      UInt8.toNat_ofNat', UInt8.toNat_ofNat']
    omega
  · refine (bytesAt_congr _ fun k hk => ?_).trans h.oui
    rw [hother _ (by omega), hbelow _ (by omega)]
  · rw [P2pAttr.encodeAll_append, bytesAt_eq_append, List.length_append]
    refine ⟨rfl, (bytesAt_congr _ fun k hk => ?_).trans hbefore, ?_⟩
    · rw [hother _ (by omega), hbelow _ (by omega)]
    · have hpoint : ie + (6 : ℕ) + ((P2pAttr.encodeAll l).length : ℤ) = target := by
        rw [htarget]
        push_cast
        ring
      rw [hpoint]
      refine (bytesAt_congr _ fun k hk => ?_).trans hrest
      exact hother _ (by omega)
  · rw [hother x (by omega)]
    rcases hx with hx | hx
    · exact hbelow x (by omega)
    · exact habove x (by omega)

omit h in
/-- The removal leaves the attributes of other identifiers. By induction on the number of attributes. -/
theorem attrRemove_run (h : HoldsAttrs m ie as) (hfits : 4 + (P2pAttr.encodeAll as).length < 256) (fuel : ℕ)
    (hfuel : as.length < fuel) :
    ∃ m', rtwP2pAttrRemove ie id.toNat fuel (m, 6 + (P2pAttr.encodeAll as).length) =
        some (m', 6 + (P2pAttr.encodeAll (P2pAttr.without id as)).length) ∧
      HoldsAttrs m' ie (P2pAttr.without id as) ∧
        ∀ x, x < ie ∨ ie + (6 + (P2pAttr.encodeAll as).length : ℕ) ≤ x → m' x = m x := by
  induction hn : as.length using Nat.strong_induction_on generalizing m as fuel with
  | _ n ih =>
    obtain ⟨fuel, rfl⟩ := Nat.exists_eq_succ_of_ne_zero (Nat.ne_zero_of_lt hfuel)
    by_cases hnone : ∀ a ∈ as, a.id ≠ id
    · have hsame : P2pAttr.without id as = as := List.filter_eq_self.mpr fun a ha => decide_eq_true (hnone a ha)
      refine ⟨m, ?_, hsame.symm ▸ h, fun _ _ => rfl⟩
      rw [hsame, rtwP2pAttrRemove, getAttr_none h hnone (by omega) _ hfuel]
    · have hsome : (as.find? (·.id == id)).isSome := by
        rw [List.find?_isSome]
        push Not at hnone
        obtain ⟨a, ha, hid⟩ := hnone
        exact ⟨a, ha, by simpa using hid⟩
      obtain ⟨a, hfound⟩ := Option.isSome_iff_exists.mp hsome
      obtain ⟨hid, l, r, has, hl⟩ := List.find?_eq_some_iff_append.mp hfound
      have hid : a.id = id := by simpa using hid
      have hl : ∀ b ∈ l, b.id ≠ id := fun b hb => by simpa using hl b hb
      have hwithout : P2pAttr.without id (l ++ r) = P2pAttr.without id as := by
        rw [has, P2pAttr.without, P2pAttr.without, List.filter_append, List.filter_append,
          List.filter_cons_of_neg (by simpa using hid)]
      have hlength : (P2pAttr.encodeAll (l ++ r)).length + a.size = (P2pAttr.encodeAll as).length := by
        rw [has, P2pAttr.encodeAll_append, P2pAttr.encodeAll_append, P2pAttr.encodeAll_cons, List.length_append,
          List.length_append, List.length_append, P2pAttr.encode_length]
        omega
      have hcount : (l ++ r).length + 1 = as.length := by
        rw [has, List.length_append, List.length_append, List.length_cons]
        omega
      have hsize : a.size ≠ 0 := Nat.succ_ne_zero _
      obtain ⟨hielen, hholds, houtside⟩ := removeAttr_holds h has hfits
      obtain ⟨m', hrun, hholds', houtside'⟩ := ih (l ++ r).length (by omega) hholds (by omega) fuel (by omega) rfl
      refine ⟨m', ?_, hwithout ▸ hholds', fun x hx => ?_⟩
      · rw [rtwP2pAttrRemove, getAttr_found h has hl hid (by omega) _ hfuel]
        dsimp only
        rw [if_neg hsize, ← hwithout, ← hrun, ← hielen]
      · rw [houtside' x (by omega), houtside x hx]

end

/-! ## The search for the element -/

section
variable {m : Mem} {ie : ℤ}

theorem holdsAttrs_iff (p : P2pIe) : HoldsAttrs m ie p.attrs ↔ bytesAt m ie p.toTlv.encode.length = p.toTlv.encode := by
  have hsplit : p.toTlv.encode = [_VENDOR_SPECIFIC_IE_, UInt8.ofNat (4 + (P2pAttr.encodeAll p.attrs).length)] ++
      (p2pOui ++ P2pAttr.encodeAll p.attrs) := by
    show _ :: UInt8.ofNat (p2pOui ++ P2pAttr.encodeAll p.attrs).length :: _ = _
    rw [List.length_append]
    rfl
  rw [hsplit, bytesAt_eq_append, bytesAt_eq_append]
  show _ ↔ _ ∧ bytesAt m ie 2 = _ ∧ _ ∧ bytesAt m (ie + (2 : ℕ)) 4 = _ ∧ bytesAt m (ie + (2 : ℕ) + (4 : ℕ)) _ = _
  rw [bytesAt_two, List.cons.injEq, List.cons.injEq, show ie + (2 : ℕ) + (4 : ℕ) = ie + (6 : ℕ) by push_cast; ring]
  constructor
  · rintro ⟨hid, hlength, houi, hattrs⟩
    exact ⟨List.length_append, ⟨hid, hlength, rfl⟩, List.length_append, houi, hattrs⟩
  · rintro ⟨-, ⟨hid, hlength, -⟩, -, houi, hattrs⟩
    exact ⟨hid, hlength, houi, hattrs⟩

/-- The search answers the first element that looks like one of the P2P vendor. -/
theorem search_p2p {l r : List Tlv} {e : Tlv} (hlong : 4 ≤ (e.body ++ Tlv.encodeAll r).length)
    (hl : NoneLooksP2p l (Tlv.encodeAll (e :: r)))
    (he : LooksLike _VENDOR_SPECIFIC_IE_ (some p2pOui) e (Tlv.encodeAll r)) (fuel k n : ℕ)
    (hn : n = k + (Tlv.encodeAll (l ++ e :: r)).length) (hfuel : n ≤ k + fuel) (hsize : n ≤ MAX_IE_SZ)
    (h : bytesAt m (ie + k) (Tlv.encodeAll (l ++ e :: r)).length = Tlv.encodeAll (l ++ e :: r)) :
    ((search ie n false (lookP2p ie) fuel k).run m).val = some ⟨ie + k + (Tlv.encodeAll l).length, e.size, []⟩ := by
  have hval : ∀ k, ((lookP2p ie k).run m).val = answerP2p m ie k := fun _ => lookP2p_val
  have hst : ∀ k, ((lookP2p ie k).run m).st = m := fun _ => lookP2p_st
  induction l generalizing k fuel with
  | nil =>
    rw [List.nil_append, Tlv.encodeAll_cons, List.length_append, Tlv.encode_length] at hn
    rw [List.nil_append, Tlv.encodeAll_cons] at h
    have htwo : 2 ≤ e.size := Nat.le_add_left 2 _
    obtain ⟨fuel, rfl⟩ := Nat.exists_eq_succ_of_ne_zero (show fuel ≠ 0 by omega)
    have hanswer : answerP2p m ie k = .found := by
      have hone : answerIe m ie _VENDOR_SPECIFIC_IE_ (some p2pOui) k = if LooksLike _VENDOR_SPECIFIC_IE_ (some p2pOui) e
          (Tlv.encodeAll r) then .found else .next := by
        refine answerIe_encode k h fun o ho => ?_
        cases ho
        exact hlong
      rw [answerP2p, if_neg (by omega), hone, if_pos he]
    obtain ⟨-, hlen, -⟩ := encode_at h
    have hsize : sizeAt m ie k = e.size := by
      unfold sizeAt
      rw [hlen]
      rfl
    rw [search, if_pos (by omega), bind_val, hval, hst, hanswer]
    show some (⟨ie + k, sizeAt m ie k, []⟩ : Target) = _
    rw [hsize, Tlv.encodeAll_nil, List.length_nil, Nat.cast_zero, add_zero]
  | cons x l ih =>
    rw [List.cons_append, Tlv.encodeAll_cons, List.length_append, Tlv.encode_length] at hn
    rw [List.cons_append, Tlv.encodeAll_cons] at h
    have htwo : 2 ≤ x.size := Nat.le_add_left 2 _
    obtain ⟨fuel, rfl⟩ := Nat.exists_eq_succ_of_ne_zero (show fuel ≠ 0 by omega)
    have hrest : (Tlv.encodeAll (l ++ e :: r)).length = (Tlv.encodeAll l).length + (e.size + (Tlv.encodeAll r).length) := by
      rw [Tlv.encodeAll_append, Tlv.encodeAll_cons, List.length_append, List.length_append, Tlv.encode_length]
    have hno : ¬LooksLike _VENDOR_SPECIFIC_IE_ (some p2pOui) x (Tlv.encodeAll (l ++ e :: r)) := by
      rw [Tlv.encodeAll_append]
      exact hl [] x l rfl
    have hanswer : answerP2p m ie k = .next := by
      have hone : answerIe m ie _VENDOR_SPECIFIC_IE_ (some p2pOui) k = if LooksLike _VENDOR_SPECIFIC_IE_ (some p2pOui) x
          (Tlv.encodeAll (l ++ e :: r)) then .found else .next := by
        refine answerIe_encode k h fun o ho => ?_
        cases ho
        rw [List.length_append] at hlong ⊢
        rw [hrest, show e.size = e.body.length + 2 from rfl]
        show 4 ≤ _
        omega
      rw [answerP2p, if_neg (by omega), hone, if_neg hno]
    obtain ⟨-, hlen, htail⟩ := encode_at h
    have hsize' : sizeAt m ie k = x.size := by
      unfold sizeAt
      rw [hlen]
      rfl
    have hplace : ie + (k : ℤ) + (x.size : ℤ) = ie + (k + x.size : ℕ) := by
      push_cast
      ring
    rw [hplace] at htail
    have hl' : NoneLooksP2p l (Tlv.encodeAll (e :: r)) := fun l' y r' hy => hl (x :: l') y r' (by rw [hy]; rfl)
    rw [search_next hval hst (by omega) hanswer, hsize', ih hl' fuel (k + x.size) (by omega) (by omega) htail,
      Tlv.encodeAll_cons, List.length_append, Tlv.encode_length]
    congr 2
    push_cast
    ring

/-! ## The network -/

/-- Where some element looks like one of the P2P vendor, there is a first. -/
theorem exists_first_looks {pre : List Tlv} {behind : List UInt8} (h : ¬NoneLooksP2p pre behind) :
    ∃ l e r, pre = l ++ e :: r ∧ NoneLooksP2p l (Tlv.encodeAll (e :: r) ++ behind) ∧
      LooksLike _VENDOR_SPECIFIC_IE_ (some p2pOui) e (Tlv.encodeAll r ++ behind) := by
  induction pre with
  | nil => exact absurd (fun l e r hnil _ => List.append_ne_nil_of_right_ne_nil l (List.cons_ne_nil e r) hnil.symm) h
  | cons x pre ih =>
    by_cases hx : LooksLike _VENDOR_SPECIFIC_IE_ (some p2pOui) x (Tlv.encodeAll pre ++ behind)
    · refine ⟨[], x, pre, rfl, ?_, hx⟩
      intro l e r hnil
      exact absurd hnil.symm (List.append_ne_nil_of_right_ne_nil l (List.cons_ne_nil e r))
    · have htail : ¬NoneLooksP2p pre behind := by
        intro hnone
        apply h
        intro l e r hsplit
        cases l with
        | nil =>
          obtain ⟨rfl, rfl⟩ := List.cons.inj hsplit
          exact hx
        | cons y l =>
          obtain ⟨-, hsplit⟩ := List.cons.inj hsplit
          exact hnone l e r hsplit
      obtain ⟨l, e, r, hpre, hl, he⟩ := ih htail
      refine ⟨x :: l, e, r, by rw [hpre]; rfl, ?_, he⟩
      intro l' y r' hsplit
      cases l' with
      | nil =>
        obtain ⟨rfl, rfl⟩ := List.cons.inj hsplit
        rw [hpre, Tlv.encodeAll_append, List.append_assoc] at hx
        exact hx
      | cons z l' =>
        obtain ⟨-, hsplit⟩ := List.cons.inj hsplit
        exact hl l' y r' hsplit

variable {id : UInt8} {p : P2pIe} {pre post : List Tlv}

theorem without_eq_iff : P2pAttr.without id p.attrs = p.attrs ↔ ∀ a ∈ p.attrs, a.id ≠ id := by
  rw [P2pAttr.without, List.filter_eq_self]
  simp

theorem encodeAll_without_length : (Tlv.encodeAll (pre ++ (p.without id).toTlv :: post)).length +
    (P2pAttr.encodeAll p.attrs).length = (Tlv.encodeAll (pre ++ p.toTlv :: post)).length +
      (P2pAttr.encodeAll (P2pAttr.without id p.attrs)).length := by
  rw [Tlv.encodeAll_append, Tlv.encodeAll_append, Tlv.encodeAll_cons, Tlv.encodeAll_cons, List.length_append,
    List.length_append, List.length_append, List.length_append, Tlv.encode_length, Tlv.encode_length, P2pIe.toTlv_size,
    P2pIe.toTlv_size]
  show _ + (6 + (P2pAttr.encodeAll (P2pAttr.without id p.attrs)).length + _) + _ = _
  omega

theorem attrRemove_short (attrId fuel ielen : ℕ) (hfuel : 0 < fuel) (hshort : ielen ≤ 6) :
    rtwP2pAttrRemove ie attrId fuel (m, ielen) = some (m, ielen) := by
  obtain ⟨fuel, rfl⟩ := Nat.exists_eq_succ_of_ne_zero (Nat.ne_of_gt hfuel)
  have hget : rtwGetP2pAttr m ie ielen attrId false (fuel + 1) = some none := by
    unfold rtwGetP2pAttr AttrKind.getAttr
    split
    · exact passes_return (if_pos hshort)
    · rfl
  rw [Nat.succ_eq_add_one, rtwP2pAttrRemove, hget]

theorem holdsIes_of_memory {bssEx : WlanBssidEx} {fixed : List UInt8} (hfixed : fixed.length = _FIXED_IE_LENGTH_)
    (hbefore : bytesAt bssEx.ies 0 (_FIXED_IE_LENGTH_ + (Tlv.encodeAll pre).length) = fixed ++ Tlv.encodeAll pre)
    (hie : HoldsAttrs bssEx.ies (_FIXED_IE_LENGTH_ + (Tlv.encodeAll pre).length : ℕ) p.attrs)
    (hpost : bytesAt bssEx.ies ((_FIXED_IE_LENGTH_ + (Tlv.encodeAll pre).length : ℕ) + (p.toTlv.size : ℤ))
      (Tlv.encodeAll post).length = Tlv.encodeAll post)
    (hlength : bssEx.ieLength = _FIXED_IE_LENGTH_ + (Tlv.encodeAll (pre ++ p.toTlv :: post)).length) :
    HoldsIes bssEx fixed (pre ++ p.toTlv :: post) := by
  have hp := (holdsAttrs_iff p).mp hie
  refine ⟨hfixed, hlength, ?_⟩
  have hsplit : fixed ++ Tlv.encodeAll (pre ++ p.toTlv :: post) =
      (fixed ++ Tlv.encodeAll pre) ++ (p.toTlv.encode ++ Tlv.encodeAll post) := by
    rw [Tlv.encodeAll_append, Tlv.encodeAll_cons, List.append_assoc]
  have hfront : (fixed ++ Tlv.encodeAll pre).length = _FIXED_IE_LENGTH_ + (Tlv.encodeAll pre).length := by
    rw [List.length_append, hfixed]
  have htail : bytesAt bssEx.ies (_FIXED_IE_LENGTH_ + (Tlv.encodeAll pre).length : ℕ)
      (p.toTlv.encode ++ Tlv.encodeAll post).length = p.toTlv.encode ++ Tlv.encodeAll post :=
    bytesAt_eq_append.mpr ⟨List.length_append, hp, hpost⟩
  rw [hsplit, bytesAt_eq_append, hfront, zero_add]
  refine ⟨?_, hbefore, htail⟩
  rw [Tlv.encodeAll_append, Tlv.encodeAll_cons, List.length_append]
  omega

/-- When the P2P element itself is found, its attributes are removed and the rest is moved up. -/
theorem removeP2pAttr_found {bssEx : WlanBssidEx} {fixed : List UInt8} (hfixed : fixed.length = _FIXED_IE_LENGTH_)
    (hlength : bssEx.ieLength = _FIXED_IE_LENGTH_ + (Tlv.encodeAll (pre ++ p.toTlv :: post)).length)
    (hbytes : bytesAt bssEx.ies 0 (_FIXED_IE_LENGTH_ + (Tlv.encodeAll (pre ++ p.toTlv :: post)).length) =
      fixed ++ Tlv.encodeAll (pre ++ p.toTlv :: post))
    (hsize : bssEx.ieLength ≤ MAX_IE_SZ) (hnone : NoneLooksP2p pre (Tlv.encodeAll (p.toTlv :: post))) (id : UInt8)
    (fuel : ℕ) (hfuel : p.attrs.length < fuel) :
    ∃ out, rtwWLANBSSIDExRemoveP2pAttr bssEx id.toNat fuel = some out ∧
      HoldsIes out fixed (pre ++ (p.without id).toTlv :: post) := by
  have hes : bytesAt bssEx.ies (_FIXED_IE_LENGTH_ : ℕ) (Tlv.encodeAll (pre ++ p.toTlv :: post)).length =
      Tlv.encodeAll (pre ++ p.toTlv :: post) := by
    have hrest := (bytesAt_eq_append.mp hbytes).2.2
    rwa [hfixed, zero_add] at hrest
  have hbound : bssEx.ieLength ≤ 768 := hsize
  -- the place of the element
  set place : ℕ := _FIXED_IE_LENGTH_ + (Tlv.encodeAll pre).length with hplace
  have htotal : (Tlv.encodeAll (pre ++ p.toTlv :: post)).length =
      (Tlv.encodeAll pre).length + (p.toTlv.size + (Tlv.encodeAll post).length) := by
    rw [Tlv.encodeAll_append, Tlv.encodeAll_cons, List.length_append, List.length_append, Tlv.encode_length]
  have hparts := hes
  rw [Tlv.encodeAll_append, bytesAt_eq_append, Tlv.encodeAll_cons, bytesAt_eq_append, Tlv.encode_length] at hparts
  obtain ⟨-, hpre, -, hp, hpost⟩ := hparts
  have hpoint : ((_FIXED_IE_LENGTH_ : ℕ) : ℤ) + ((Tlv.encodeAll pre).length : ℤ) = place := by
    rw [hplace, Nat.cast_add]
  rw [hpoint] at hp hpost
  have hbefore : bytesAt bssEx.ies 0 place = fixed ++ Tlv.encodeAll pre := by
    have hfront := (bytesAt_eq_append.mp hbytes).2.1
    rw [hplace, bytesAt_eq_append, hfixed, zero_add]
    exact ⟨rfl, hfixed ▸ hfront, hpre⟩
  have hie : HoldsAttrs bssEx.ies place p.attrs := (holdsAttrs_iff p).mpr (by rw [Tlv.encode_length]; exact hp)
  have hpsize := p.toTlv_size
  have hfits := p.fits
  have hlong : 4 ≤ (p.toTlv.body ++ Tlv.encodeAll post).length := by
    have hbody : p.toTlv.size = p.toTlv.body.length + 2 := rfl
    rw [List.length_append]
    omega
  have hlimit : (bssEx.ieLength : ℤ) - _FIXED_IE_LENGTH_ = (Tlv.encodeAll (pre ++ p.toTlv :: post)).length := by omega
  have hfound : ((rtwGetP2pIe _FIXED_IE_LENGTH_ ((bssEx.ieLength : ℤ) - _FIXED_IE_LENGTH_) false).run bssEx.ies).val =
      some ⟨place, p.toTlv.size, []⟩ := by
    have hlooks : LooksLike _VENDOR_SPECIFIC_IE_ (some p2pOui) p.toTlv (Tlv.encodeAll post) :=
      LooksLike.of_matches ⟨rfl, fun o ho => Option.some.inj ho ▸ List.prefix_append _ _⟩
    have hsearch := search_p2p hlong hnone hlooks (Tlv.encodeAll (pre ++ p.toTlv :: post)).length 0
      (Tlv.encodeAll (pre ++ p.toTlv :: post)).length (Nat.zero_add _).symm (by omega) (by omega)
      (by rw [Nat.cast_zero, add_zero]; exact hes)
    rw [Nat.cast_zero, add_zero, hpoint] at hsearch
    rw [hlimit, rtwGetP2pIe, if_neg (by omega)]
    exact hsearch
  obtain ⟨m', hrun, hattrs, hother⟩ := attrRemove_run hie (by omega) fuel hfuel
  have hle := P2pAttr.encodeAll_without_le id p.attrs
  have hnewsize := (p.without id).toTlv_size
  have hnewattrs : (p.without id).attrs = P2pAttr.without id p.attrs := rfl
  rw [hnewattrs] at hnewsize
  have hnewtotal : (Tlv.encodeAll (pre ++ (p.without id).toTlv :: post)).length =
      (Tlv.encodeAll pre).length + ((p.without id).toTlv.size + (Tlv.encodeAll post).length) := by
    rw [Tlv.encodeAll_append, Tlv.encodeAll_cons, List.length_append, List.length_append, Tlv.encode_length]
  have hbefore' : bytesAt m' 0 place = fixed ++ Tlv.encodeAll pre :=
    (bytesAt_congr _ fun k hk => hother _ (.inl (by omega))).trans hbefore
  have hpost' : bytesAt m' (place + (p.toTlv.size : ℤ)) (Tlv.encodeAll post).length = Tlv.encodeAll post :=
    (bytesAt_congr _ fun k hk => hother _ (.inr (by omega))).trans hpost
  rw [← hpsize, ← hnewsize] at hrun
  rw [rtwWLANBSSIDExRemoveP2pAttr, hfound]
  dsimp only
  rw [hrun]
  dsimp only
  by_cases hsame : (p.without id).toTlv.size = p.toTlv.size
  · rw [if_pos hsame]
    refine ⟨_, rfl, holdsIes_of_memory hfixed hbefore' hattrs ?_ ?_⟩
    · rw [hsame]
      exact hpost'
    · show bssEx.ieLength = _
      omega
  · rw [if_neg hsame]
    refine ⟨_, rfl, ?_⟩
    have hremain : uint (bssEx.ieLength - ((place : ℤ) + (p.toTlv.size : ℕ))) = (Tlv.encodeAll post).length := by
      unfold uint
      omega
    have hnew : uint (bssEx.ieLength - ((p.toTlv.size : ℤ) - (p.without id).toTlv.size)) =
        _FIXED_IE_LENGTH_ + (Tlv.encodeAll (pre ++ (p.without id).toTlv :: post)).length := by
      unfold uint
      omega
    rw [hremain, hnew]
    -- the element ends where the rest is moved to, and the stretch behind the rest is cleared
    have hbelow (m : Mem) (x : ℤ) (n : ℕ) (hx : x < (place : ℤ) + (p.without id).toTlv.size) :
        memset (memcpyDown m ((place : ℤ) + (p.without id).toTlv.size) ((place : ℤ) + p.toTlv.size)
          (Tlv.encodeAll post).length) ((place : ℤ) + (p.without id).toTlv.size + (Tlv.encodeAll post).length) n x = m x := by
      rw [memset_outside _ _ _ (.inl (by omega)), memcpyDown_outside _ _ _ _ (.inl hx)]
    refine holdsIes_of_memory hfixed ?_ ?_ ?_ rfl
    · exact (bytesAt_congr _ fun k hk => hbelow _ _ _ (by omega)).trans hbefore'
    · have hp' := (holdsAttrs_iff (p.without id)).mp hattrs
      rw [Tlv.encode_length] at hp'
      refine (holdsAttrs_iff (p.without id)).mpr ?_
      rw [Tlv.encode_length]
      exact (bytesAt_congr _ fun k hk => hbelow _ _ _ (by omega)).trans hp'
    · refine (bytesAt_congr _ fun k hk => ?_).trans ((bytesAt_memcpyDown _ _ _).trans hpost')
      exact memset_outside _ _ _ (.inl (by omega))

end

/-- **The rest of the network is preserved, and just the attributes are removed, exactly when no element before the P2P one
looks like it**, or there is nothing to remove. -/
theorem removeP2pAttr_preserves_iff (bssEx : WlanBssidEx) (fixed : List UInt8) (pre post : List Tlv) (p : P2pIe) (id : UInt8)
    (hholds : HoldsIes bssEx fixed (pre ++ p.toTlv :: post)) (hfirst : ∀ e ∈ pre, ¬IsP2p e)
    (hsize : bssEx.ieLength ≤ MAX_IE_SZ) (fuel : ℕ) (hfuel : p.attrs.length < fuel) :
    ∃ out, rtwWLANBSSIDExRemoveP2pAttr bssEx id.toNat fuel = some out ∧
      (HoldsIes out fixed (pre ++ (p.without id).toTlv :: post) ↔
        NoneLooksP2p pre (Tlv.encodeAll (p.toTlv :: post)) ∨ ∀ a ∈ p.attrs, a.id ≠ id) := by
  obtain ⟨hfixed, hlength, hbytes⟩ := hholds
  have hes : bytesAt bssEx.ies (_FIXED_IE_LENGTH_ : ℕ) (Tlv.encodeAll (pre ++ p.toTlv :: post)).length =
      Tlv.encodeAll (pre ++ p.toTlv :: post) := by
    have hrest := (bytesAt_eq_append.mp hbytes).2.2
    rwa [hfixed, zero_add] at hrest
  have hlimit : (bssEx.ieLength : ℤ) - _FIXED_IE_LENGTH_ = (Tlv.encodeAll (pre ++ p.toTlv :: post)).length := by omega
  have hcount : _ = (Tlv.encodeAll (pre ++ p.toTlv :: post)).length +
      (P2pAttr.encodeAll (P2pAttr.without id p.attrs)).length := encodeAll_without_length
  have hsearch (ie : ℤ) (n : ℕ) : rtwGetP2pIe ie n false = search ie n false (lookP2p ie) n 0 :=
    if_neg (by omega)
  by_cases hnone : NoneLooksP2p pre (Tlv.encodeAll (p.toTlv :: post))
  · obtain ⟨out, hout, hholds⟩ := removeP2pAttr_found hfixed hlength hbytes hsize hnone id fuel hfuel
    exact ⟨out, hout, ⟨fun _ => .inl hnone, fun _ => hholds⟩⟩
  · obtain ⟨l, e, r, hpre, hl, he⟩ := exists_first_looks hnone
    have hsplit : pre ++ p.toTlv :: post = l ++ e :: (r ++ p.toTlv :: post) := by
      rw [hpre, List.append_assoc, List.cons_append]
    have hshort : e.size ≤ 6 := by
      by_contra hlong
      apply hfirst e (by rw [hpre]; exact List.mem_append_right l List.mem_cons_self)
      refine he.matches fun o ho => ?_
      cases ho
      show 4 ≤ _
      have hesize : e.size = e.body.length + 2 := rfl
      omega
    have hlong : 4 ≤ (e.body ++ Tlv.encodeAll (r ++ p.toTlv :: post)).length := by
      rw [List.length_append, Tlv.encodeAll_append, List.length_append, Tlv.encodeAll_cons, List.length_append,
        Tlv.encode_length, P2pIe.toTlv_size]
      omega
    rw [← Tlv.encodeAll_append, List.cons_append] at hl
    rw [← Tlv.encodeAll_append] at he
    have htotal : (Tlv.encodeAll (l ++ e :: (r ++ p.toTlv :: post))).length =
        (Tlv.encodeAll (pre ++ p.toTlv :: post)).length := by
      rw [hsplit]
    have hplace : bytesAt bssEx.ies ((_FIXED_IE_LENGTH_ : ℕ) + (0 : ℕ))
        (Tlv.encodeAll (l ++ e :: (r ++ p.toTlv :: post))).length =
          Tlv.encodeAll (l ++ e :: (r ++ p.toTlv :: post)) := by
      rw [← hsplit, Nat.cast_zero, add_zero]
      exact hes
    have hfound := search_p2p hlong hl he (Tlv.encodeAll (pre ++ p.toTlv :: post)).length 0
      (Tlv.encodeAll (pre ++ p.toTlv :: post)).length (by omega) (by omega) (by omega) hplace
    refine ⟨bssEx, ?_, ?_⟩
    · rw [rtwWLANBSSIDExRemoveP2pAttr, hlimit, hsearch, hfound]
      dsimp only
      rw [attrRemove_short _ _ _ (by omega) hshort]
      exact if_pos rfl
    · constructor
      · rintro ⟨-, hlength', -⟩
        refine .inr ((P2pAttr.encodeAll_without_eq_iff id p.attrs).mp ?_)
        omega
      · rintro (hno | hall)
        · exact absurd hno hnone
        · have hsame : p.without id = p := by
            obtain ⟨attrs, fits⟩ := p
            unfold P2pIe.without
            congr 1
            exact without_eq_iff.mpr hall
          rw [hsame]
          exact ⟨hfixed, hlength, hbytes⟩

/-- A network with no fixed bytes set and a list of elements. -/
def networkOf (es : List Tlv) : WlanBssidEx where
  ies x := (List.replicate 12 0 ++ Tlv.encodeAll es).getD x.toNat 0
  ieLength := 12 + (Tlv.encodeAll es).length

/-- The status, the capability and the status once more. -/
def threeAttrs : P2pIe := ⟨[⟨0, [1], by decide⟩, ⟨2, [0x25, 0], by decide⟩, ⟨0, [], by decide⟩], by decide⟩

theorem removeP2pAttr_preserves_iff_threeAttrs :
    ∃ out, rtwWLANBSSIDExRemoveP2pAttr (networkOf [threeAttrs.toTlv]) 0 4 = some out ∧
      (HoldsIes out (List.replicate 12 0) [(threeAttrs.without 0).toTlv] ↔
        NoneLooksP2p [] (Tlv.encodeAll [threeAttrs.toTlv]) ∨ ∀ a ∈ threeAttrs.attrs, a.id ≠ 0) :=
  removeP2pAttr_preserves_iff (networkOf [threeAttrs.toTlv]) (List.replicate 12 0) [] [] threeAttrs 0
    ⟨rfl, rfl, by decide +kernel⟩ (fun _ he => absurd he List.not_mem_nil) (by decide) 4 (by decide)

/-- Behind a short vendor element that goes on like one of P2P, no attribute is removed. -/
theorem removeP2pAttr_shortVendor :
    HoldsIes (networkOf (shortVendor ++ [threeAttrs.toTlv])) (List.replicate 12 0) (shortVendor ++ [threeAttrs.toTlv]) ∧
      (∀ e ∈ shortVendor, ¬IsP2p e) ∧
      ¬∃ out, rtwWLANBSSIDExRemoveP2pAttr (networkOf (shortVendor ++ [threeAttrs.toTlv])) 0 4 = some out ∧
        HoldsIes out (List.replicate 12 0) (shortVendor ++ [(threeAttrs.without 0).toTlv]) := by
  refine ⟨⟨rfl, rfl, by decide +kernel⟩, ?_, ?_⟩
  · intro e he hp2p
    have hprefix := hp2p.2 p2pOui rfl
    rcases List.mem_cons.mp he with rfl | he
    · exact absurd hprefix (by decide)
    · rw [List.mem_singleton] at he
      subst he
      exact absurd hp2p.1 (by decide)
  · rintro ⟨out, hout, hholds⟩
    have hkept : (rtwWLANBSSIDExRemoveP2pAttr (networkOf (shortVendor ++ [threeAttrs.toTlv])) 0 4).map
        WlanBssidEx.ieLength = some 45 := by decide +kernel
    rw [hout] at hkept
    have hlength : out.ieLength = 45 := Option.some.inj hkept
    exact absurd (hlength.symm.trans hholds.length) (by decide +kernel)

end Rtl8723au.Ieee80211
