import Rtl8723au.Ieee80211.RemoveP2pAttr
import Rtl8723au.Ieee80211.SetIe

/-! `rtw_add_bcn_ie` and `rtw_remove_bcn_ie` of `core/rtw_ap.c`: an element is put among the elements of the network,
which are sorted by name, or taken out. What lies behind it is saved and copied back. Local variables that a path does
not assign keep what the stack holds. -/
namespace Rtl8723au
namespace BcnIe
open Mem Security AccessM Ieee80211
set_option autoImplicit false

/-- What `p`, `ielen` and `dst_ie` hold before they are assigned; `none` is the null pointer, and addresses count from
`pnetwork->IEs`. -/
structure Stack where
  p : Option ℤ
  ielen : ℕ
  dst_ie : ℤ

/-- `p`, `ielen` and `bmatch` behind the first loop. -/
structure Place where
  p : Option ℤ
  ielen : ℕ
  bmatch : Bool

/-- The first loop of `rtw_add_bcn_ie`: it goes past the elements of smaller names. -/
def findPlace (m : Mem) (ieLength : ℕ) (index : UInt8) : ℕ → ℕ → Option ℤ → ℕ → Place
  | 0, _, p, ielen => ⟨p, ielen, false⟩
  | fuel + 1, i, p, ielen =>
    if i < ieLength then
      if index < m i then ⟨p, ielen, false⟩
      else if m i = index then ⟨some i, (m (i + 1)).toNat, true⟩
      else findPlace m ieLength index fuel (i + ((m (i + 1)).toNat + 2)) (some i) (m (i + 1)).toNat
    else ⟨p, ielen, false⟩

/-- `dst_ie`, and the remainder that is saved. -/
def cut (stack : Stack) (bss : Ieee80211.WlanBssidEx) (place : Place) : ℤ × List UInt8 :=
  match place.p with
  | none => (stack.dst_ie, [])
  | some p =>
    if 0 < place.ielen then
      let ielen := uint (place.ielen + 2)
      (if place.bmatch then p else p + ielen, bytesAt bss.ies (p + ielen) (uint (bss.ieLength - p - ielen)))
    else (stack.dst_ie, [])

/-- `rtw_add_bcn_ie`; the memory for the remainder is there. -/
def rtwAddBcnIe (stack : Stack) (bss : Ieee80211.WlanBssidEx) (index : UInt8) (data : List UInt8) :
    Ieee80211.WlanBssidEx :=
  let dst := cut stack bss (findPlace bss.ies bss.ieLength index bss.ieLength _FIXED_IE_LENGTH_ stack.p stack.ielen)
  let element := index :: UInt8.ofNat data.length :: data
  ⟨putBytes (putBytes bss.ies dst.1 element) (dst.1 + element.length) dst.2,
    uint (uint (dst.1 + element.length) + dst.2.length)⟩

/-- `rtw_remove_bcn_ie`. -/
def rtwRemoveBcnIe (dst_ie : ℤ) (bss : Ieee80211.WlanBssidEx) (index : UInt8) : Ieee80211.WlanBssidEx :=
  match ((rtwGetIe _FIXED_IE_LENGTH_ index (asInt (uint (bss.ieLength - _FIXED_IE_LENGTH_)))).run bss.ies).val with
  | none => ⟨bss.ies, uint dst_ie⟩
  | some (p, len) =>
    if 0 < len then
      let ielen := len + 2
      let remainder := bytesAt bss.ies (p + ielen) (uint (bss.ieLength - p - ielen))
      ⟨putBytes bss.ies p remainder, uint (uint p + remainder.length)⟩
    else ⟨bss.ies, uint dst_ie⟩

/-! ## What they are for -/

def Sorted (es : List Tlv) : Prop := es.Pairwise fun a b => a.id ≤ b.id

/-- The first element of the name is replaced; if there is none, the element stands behind those of smaller names. -/
def Added (e : Tlv) (es es' : List Tlv) : Prop :=
  (∃ lower old upper, es = lower ++ old :: upper ∧ old.id = e.id ∧ (∀ x ∈ lower, x.id ≠ e.id) ∧
    es' = lower ++ e :: upper) ∨
  ((∀ x ∈ es, x.id ≠ e.id) ∧ ∃ lower upper, es = lower ++ upper ∧ (∀ x ∈ lower, x.id < e.id) ∧
    (∀ x ∈ upper, e.id < x.id) ∧ es' = lower ++ e :: upper)

/-- The first element of the name is taken out, if there is one. -/
def Removed (index : UInt8) (es es' : List Tlv) : Prop :=
  (∃ lower old upper, es = lower ++ old :: upper ∧ old.id = index ∧ (∀ x ∈ lower, x.id ≠ index) ∧
    es' = lower ++ upper) ∨
  ((∀ x ∈ es, x.id ≠ index) ∧ es' = es)

def AddsElement (bss : Ieee80211.WlanBssidEx) (fixed : List UInt8) (es : List Tlv) (e : Tlv) : Prop :=
  ∀ stack, ∃ es', Added e es es' ∧ Sorted es' ∧ HoldsIes (rtwAddBcnIe stack bss e.id e.body) fixed es'

def RemovesElement (bss : Ieee80211.WlanBssidEx) (fixed : List UInt8) (es : List Tlv) (index : UInt8) : Prop :=
  ∀ dst_ie, ∃ es', Removed index es es' ∧ HoldsIes (rtwRemoveBcnIe dst_ie bss index) fixed es'

/-- An element that is put in and taken out again leaves the buffer as it was. -/
def RestoresBuffer (bss : Ieee80211.WlanBssidEx) (fixed : List UInt8) (es : List Tlv) (e : Tlv) : Prop :=
  ∀ stack dst_ie, HoldsIes (rtwRemoveBcnIe dst_ie (rtwAddBcnIe stack bss e.id e.body) e.id) fixed es

/-- Where the element can be put: an element of its name, or else the last one of a smaller name, has a body. -/
def HasPlace (es : List Tlv) (index : UInt8) : Prop :=
  (∃ lower old upper, es = lower ++ old :: upper ∧ old.id = index ∧ (∀ x ∈ lower, x.id ≠ index) ∧ old.body ≠ []) ∨
  ((∀ x ∈ es, x.id ≠ index) ∧ ∃ lower last upper, es = lower ++ last :: upper ∧ last.id < index ∧
    (∀ x ∈ upper, index < x.id) ∧ last.body ≠ [])

/-- The first element of the name is there and has a body. -/
def HasElement (es : List Tlv) (index : UInt8) : Prop :=
  ∃ lower old upper, es = lower ++ old :: upper ∧ old.id = index ∧ (∀ x ∈ lower, x.id ≠ index) ∧ old.body ≠ []

/-! ## Cutting and joining -/

section
variable {bss : Ieee80211.WlanBssidEx} {fixed : List UInt8}

theorem encodeAll_one (e : Tlv) : Tlv.encodeAll [e] = e.encode := by
  rw [Tlv.encodeAll_cons, Tlv.encodeAll_nil, List.append_nil]

theorem bytes_behind {pre post : List Tlv} (h : HoldsIes bss fixed (pre ++ post)) :
    bytesAt bss.ies (_FIXED_IE_LENGTH_ + (Tlv.encodeAll pre).length : ℕ) (Tlv.encodeAll post).length =
      Tlv.encodeAll post := by
  have hbytes := h.bytes
  rw [Tlv.encodeAll_append, ← List.append_assoc] at hbytes
  have hpost := (bytesAt_eq_append.mp hbytes).2.2
  rw [List.length_append, h.fixed_length, zero_add] at hpost
  exact hpost

theorem bytes_list {es : List Tlv} (h : HoldsIes bss fixed es) :
    bytesAt bss.ies (_FIXED_IE_LENGTH_ : ℕ) (Tlv.encodeAll es).length = Tlv.encodeAll es := by
  have hall := @bytes_behind bss fixed [] es h
  rw [Tlv.encodeAll_nil, List.length_nil, Nat.add_zero] at hall
  exact hall

theorem holds_splice {pre post : List Tlv} (new : List Tlv)
    (h : bytesAt bss.ies 0 (_FIXED_IE_LENGTH_ + (Tlv.encodeAll pre).length) = fixed ++ Tlv.encodeAll pre)
    (hfixed : fixed.length = _FIXED_IE_LENGTH_) (n : ℕ)
    (hn : n = _FIXED_IE_LENGTH_ + (Tlv.encodeAll (pre ++ (new ++ post))).length) :
    HoldsIes ⟨putBytes bss.ies (_FIXED_IE_LENGTH_ + (Tlv.encodeAll pre).length : ℕ)
      (Tlv.encodeAll new ++ Tlv.encodeAll post), n⟩ fixed (pre ++ (new ++ post)) := by
  refine ⟨hfixed, hn, ?_⟩
  have hpre : bytesAt (putBytes bss.ies (_FIXED_IE_LENGTH_ + (Tlv.encodeAll pre).length : ℕ)
      (Tlv.encodeAll new ++ Tlv.encodeAll post)) 0 (_FIXED_IE_LENGTH_ + (Tlv.encodeAll pre).length) =
      fixed ++ Tlv.encodeAll pre := by
    rw [← h]
    exact bytesAt_congr _ fun k hk => putBytes_outside _ _ _ _ (.inl (by omega))
  have hnew := bytesAt_written bss.ies (_FIXED_IE_LENGTH_ + (Tlv.encodeAll pre).length : ℕ)
    (Tlv.encodeAll new ++ Tlv.encodeAll post)
  rw [Tlv.encodeAll_append, Tlv.encodeAll_append, List.length_append, ← Nat.add_assoc, bytesAt_add, hpre, zero_add, hnew,
    List.append_assoc]

theorem bytes_front {pre post : List Tlv} (h : HoldsIes bss fixed (pre ++ post)) :
    bytesAt bss.ies 0 (_FIXED_IE_LENGTH_ + (Tlv.encodeAll pre).length) = fixed ++ Tlv.encodeAll pre := by
  have hbytes := h.bytes
  rw [Tlv.encodeAll_append, ← List.append_assoc] at hbytes
  have hpre := (bytesAt_eq_append.mp hbytes).2.1
  rw [List.length_append, h.fixed_length] at hpre
  exact hpre

end

/-! ## The place that is found -/

/-- `p` and `ielen` behind some elements of smaller names. -/
def lastOf (c : Option ℤ × ℕ) (i : ℕ) : List Tlv → Option ℤ × ℕ
  | [] => c
  | e :: es => lastOf (some i, e.body.length) (i + e.size) es

theorem lastOf_concat (c : Option ℤ × ℕ) (i : ℕ) (es : List Tlv) (e : Tlv) :
    lastOf c i (es ++ [e]) = (some ((i + (Tlv.encodeAll es).length : ℕ) : ℤ), e.body.length) := by
  induction es generalizing c i with
  | nil => rfl
  | cons x es ih =>
    rw [List.cons_append, lastOf, ih, Tlv.encodeAll_cons, List.length_append, Tlv.encode_length, Nat.add_assoc]

section
variable {m : Mem} {index : UInt8} {ieLength : ℕ}

theorem findPlace_lower (lower rest : List Tlv) (hlower : ∀ x ∈ lower, x.id < index) (fuel i : ℕ) (c : Option ℤ × ℕ)
    (h : bytesAt m i (Tlv.encodeAll (lower ++ rest)).length = Tlv.encodeAll (lower ++ rest))
    (hend : i + (Tlv.encodeAll (lower ++ rest)).length = ieLength) :
    findPlace m ieLength index (lower.length + fuel) i c.1 c.2 =
      findPlace m ieLength index fuel (i + (Tlv.encodeAll lower).length) (lastOf c i lower).1 (lastOf c i lower).2 := by
  induction lower generalizing i c with
  | nil => rw [List.length_nil, Nat.zero_add, Tlv.encodeAll_nil, List.length_nil, Nat.add_zero, lastOf]
  | cons x lower ih =>
    obtain ⟨hid, hlen, hrest⟩ := encode_at h
    have hx : x.id < index := hlower x List.mem_cons_self
    rw [List.cons_append, Tlv.encodeAll_cons, List.length_append, Tlv.encode_length] at hend
    have hmore : i < ieLength := by
      rw [Tlv.size] at hend
      omega
    have hplace : i + (x.body.length + 2) = i + x.size := rfl
    have hstep : findPlace m ieLength index (lower.length + fuel + 1) i c.1 c.2 =
        findPlace m ieLength index (lower.length + fuel) (i + x.size) (some i) x.body.length := by
      rw [findPlace, if_pos hmore, hid, if_neg (UInt8.lt_asymm hx), if_neg (UInt8.ne_of_lt hx), hlen, hplace]
    have hih := ih (fun y hy => hlower y (List.mem_cons_of_mem x hy)) (i + x.size) (some (i : ℤ), x.body.length)
      (by push_cast; exact hrest) (by omega)
    rw [List.length_cons, Nat.add_right_comm, hstep, hih, lastOf, Tlv.encodeAll_cons, List.length_append,
      Tlv.encode_length, Nat.add_assoc i]

end

section
variable {bss : Ieee80211.WlanBssidEx} {fixed : List UInt8} {es : List Tlv}

theorem passes_enough {lower rest : List Tlv} (h : HoldsIes bss fixed (lower ++ rest)) :
    ∃ fuel, bss.ieLength = lower.length + (fuel + 1) := by
  have hcount := length_le_encodeAll lower
  have hlen := h.length
  rw [Tlv.encodeAll_append, List.length_append] at hlen
  have hfixed : _FIXED_IE_LENGTH_ = 12 := rfl
  exact ⟨bss.ieLength - lower.length - 1, by omega⟩

theorem findPlace_match {lower upper : List Tlv} {old : Tlv} (h : HoldsIes bss fixed (lower ++ old :: upper))
    (hlower : ∀ x ∈ lower, x.id < old.id) (p : Option ℤ) (ielen : ℕ) :
    findPlace bss.ies bss.ieLength old.id bss.ieLength _FIXED_IE_LENGTH_ p ielen =
      ⟨some ((_FIXED_IE_LENGTH_ + (Tlv.encodeAll lower).length : ℕ) : ℤ), old.body.length, true⟩ := by
  obtain ⟨fuel, hfuel⟩ := passes_enough h
  have hrun := findPlace_lower lower (old :: upper) hlower (fuel + 1) _FIXED_IE_LENGTH_ (p, ielen) (bytes_list h)
    h.length.symm
  obtain ⟨hid, hlen, -⟩ := encode_at (bytes_behind h)
  have hmore : _FIXED_IE_LENGTH_ + (Tlv.encodeAll lower).length < bss.ieLength := by
    rw [h.length, Tlv.encodeAll_append, Tlv.encodeAll_cons, List.length_append, List.length_append, Tlv.encode_length,
      Tlv.size]
    omega
  have hirrefl : ¬ old.id < old.id := UInt8.lt_irrefl _
  rw [← hfuel] at hrun
  rw [hrun, findPlace, if_pos hmore, hid, if_neg hirrefl, if_pos rfl, hlen]

theorem findPlace_absent {index : UInt8} {lower upper : List Tlv} (h : HoldsIes bss fixed (lower ++ upper))
    (hlower : ∀ x ∈ lower, x.id < index) (hupper : ∀ x ∈ upper, index < x.id) (p : Option ℤ) (ielen : ℕ) :
    findPlace bss.ies bss.ieLength index bss.ieLength _FIXED_IE_LENGTH_ p ielen =
      ⟨(lastOf (p, ielen) _FIXED_IE_LENGTH_ lower).1, (lastOf (p, ielen) _FIXED_IE_LENGTH_ lower).2, false⟩ := by
  obtain ⟨fuel, hfuel⟩ := passes_enough h
  have hrun := findPlace_lower lower upper hlower (fuel + 1) _FIXED_IE_LENGTH_ (p, ielen) (bytes_list h) h.length.symm
  rw [← hfuel] at hrun
  rw [hrun, findPlace]
  cases upper with
  | nil =>
    have hlen := h.length
    rw [List.append_nil] at hlen
    rw [if_neg (by omega)]
  | cons u upper =>
    obtain ⟨hid, -, -⟩ := encode_at (bytes_behind h)
    have hmore : _FIXED_IE_LENGTH_ + (Tlv.encodeAll lower).length < bss.ieLength := by
      rw [h.length, Tlv.encodeAll_append, Tlv.encodeAll_cons, List.length_append, List.length_append,
        Tlv.encode_length, Tlv.size]
      omega
    rw [if_pos hmore, hid, if_pos (hupper u List.mem_cons_self)]

/-! ## What is written -/

theorem write_element {pre post : List Tlv} {e : Tlv} {m : Mem} {dst : ℤ}
    (hdst : dst = (_FIXED_IE_LENGTH_ + (Tlv.encodeAll pre).length : ℕ))
    (h : bytesAt m 0 (_FIXED_IE_LENGTH_ + (Tlv.encodeAll pre).length) = fixed ++ Tlv.encodeAll pre)
    (hfixed : fixed.length = _FIXED_IE_LENGTH_)
    (hroom : _FIXED_IE_LENGTH_ + (Tlv.encodeAll (pre ++ e :: post)).length < 2 ^ 32) :
    HoldsIes ⟨putBytes (putBytes m dst (e.id :: UInt8.ofNat e.body.length :: e.body))
        (dst + (e.id :: UInt8.ofNat e.body.length :: e.body).length) (Tlv.encodeAll post),
      uint (uint (dst + (e.id :: UInt8.ofNat e.body.length :: e.body).length) + (Tlv.encodeAll post).length)⟩
      fixed (pre ++ e :: post) := by
  have hlen : (Tlv.encodeAll (pre ++ e :: post)).length =
      (Tlv.encodeAll pre).length + (e.size + (Tlv.encodeAll post).length) := by
    rw [Tlv.encodeAll_append, Tlv.encodeAll_cons, List.length_append, List.length_append, Tlv.encode_length]
  have helement : e.id :: UInt8.ofNat e.body.length :: e.body = Tlv.encodeAll [e] := (encodeAll_one e).symm
  have hsize : (Tlv.encodeAll [e]).length = e.size := by rw [encodeAll_one, Tlv.encode_length]
  have hoffset : uint (dst + (Tlv.encodeAll [e]).length) = _FIXED_IE_LENGTH_ + (Tlv.encodeAll pre).length + e.size := by
    rw [hdst, hsize, ← Nat.cast_add]
    exact uint_natCast _ (by omega)
  rw [helement, hoffset, putBytes_append, ← Nat.cast_add, uint_natCast _ (by omega), hdst]
  exact @holds_splice ⟨m, 0⟩ fixed pre post [e] h hfixed _ (by rw [List.singleton_append, hlen]; omega)

end

/-! ## Sorted lists -/

theorem sorted_iff (es : List Tlv) : Sorted es ↔ (es.map Tlv.id).Pairwise (· ≤ ·) := List.pairwise_map.symm

theorem sorted_split (index : UInt8) {es : List Tlv} (h : Sorted es) :
    (∃ lower old upper, es = lower ++ old :: upper ∧ old.id = index ∧ ∀ x ∈ lower, x.id < index) ∨
    ∃ lower upper, es = lower ++ upper ∧ (∀ x ∈ lower, x.id < index) ∧ ∀ x ∈ upper, index < x.id := by
  induction es with
  | nil => exact .inr ⟨[], [], rfl, fun x hx => absurd hx List.not_mem_nil, fun x hx => absurd hx List.not_mem_nil⟩
  | cons e es ih =>
    obtain ⟨hfirst, htail⟩ := List.pairwise_cons.mp h
    have hcons {lower : List Tlv} (he : e.id < index) (hlower : ∀ x ∈ lower, x.id < index) :
        ∀ x ∈ e :: lower, x.id < index := by
      intro x hx
      rcases List.mem_cons.mp hx with rfl | hx
      · exact he
      · exact hlower x hx
    by_cases heq : e.id = index
    · exact .inl ⟨[], e, es, rfl, heq, fun x hx => absurd hx List.not_mem_nil⟩
    rcases UInt8.lt_or_lt_of_ne heq with he | he
    · rcases ih htail with ⟨lower, old, upper, rfl, hid, hlower⟩ | ⟨lower, upper, rfl, hlower, hupper⟩
      · exact .inl ⟨e :: lower, old, upper, rfl, hid, hcons he hlower⟩
      · exact .inr ⟨e :: lower, upper, rfl, hcons he hlower, hupper⟩
    · refine .inr ⟨[], e :: es, rfl, fun x hx => absurd hx List.not_mem_nil, fun x hx => ?_⟩
      rcases List.mem_cons.mp hx with rfl | hx
      · exact he
      · exact UInt8.lt_of_lt_of_le he (hfirst x hx)

theorem lower_lt {lower upper : List Tlv} {old : Tlv} (h : Sorted (lower ++ old :: upper))
    (hne : ∀ x ∈ lower, x.id ≠ old.id) : ∀ x ∈ lower, x.id < old.id := fun x hx =>
  UInt8.lt_of_le_of_ne ((List.pairwise_append.mp h).2.2 x hx old List.mem_cons_self) (hne x hx)

theorem sorted_replace {lower upper : List Tlv} {old e : Tlv} (h : Sorted (lower ++ old :: upper))
    (hid : old.id = e.id) : Sorted (lower ++ e :: upper) := by
  rw [sorted_iff, List.map_append, List.map_cons] at h ⊢
  rw [← hid]
  exact h

theorem sorted_insert {lower upper : List Tlv} {e : Tlv} (h : Sorted (lower ++ upper))
    (hlower : ∀ x ∈ lower, x.id < e.id) (hupper : ∀ x ∈ upper, e.id < x.id) : Sorted (lower ++ e :: upper) := by
  obtain ⟨hl, hu, hcross⟩ := List.pairwise_append.mp h
  have hbehind : (e :: upper).Pairwise fun a b => a.id ≤ b.id :=
    List.pairwise_cons.mpr ⟨fun x hx => UInt8.le_of_lt (hupper x hx), hu⟩
  refine List.pairwise_append.mpr ⟨hl, hbehind, fun a ha b hb => ?_⟩
  rcases List.mem_cons.mp hb with rfl | hb
  · exact UInt8.le_of_lt (hlower a ha)
  · exact hcross a ha b hb

/-! ## The two functions on a sorted list -/

section
variable {bss : Ieee80211.WlanBssidEx} {fixed : List UInt8} {es : List Tlv}

theorem uint_body (e : Tlv) : uint ((e.body.length : ℤ) + 2) = e.body.length + 2 := by
  have hcast : (e.body.length : ℤ) + 2 = (e.body.length + 2 : ℕ) := by
    push_cast
    ring
  have hshort := e.short
  rw [hcast]
  exact uint_natCast _ (by omega)

/-- The limit that `rtw_remove_bcn_ie` gives `rtw_get_ie`. -/
theorem limit_of_holds (h : HoldsIes bss fixed es) (hroom : _FIXED_IE_LENGTH_ + (Tlv.encodeAll es).length < 2 ^ 31) :
    asInt (uint ((bss.ieLength : ℤ) - (_FIXED_IE_LENGTH_ : ℕ))) = (Tlv.encodeAll es).length := by
  have hlen := h.length
  have hcast : (bss.ieLength : ℤ) - (_FIXED_IE_LENGTH_ : ℕ) = (Tlv.encodeAll es).length := by omega
  rw [hcast, uint_natCast _ (by omega)]
  exact if_pos (by omega)

theorem cut_of_place {pre post : List Tlv} {last : Tlv} (h : HoldsIes bss fixed (pre ++ last :: post))
    (hbody : last.body ≠ []) (hroom : _FIXED_IE_LENGTH_ + (Tlv.encodeAll (pre ++ last :: post)).length < 2 ^ 32)
    (stack : Stack) (bmatch : Bool) :
    cut stack bss ⟨some ((_FIXED_IE_LENGTH_ + (Tlv.encodeAll pre).length : ℕ) : ℤ), last.body.length, bmatch⟩ =
      (if bmatch then ((_FIXED_IE_LENGTH_ + (Tlv.encodeAll pre).length : ℕ) : ℤ)
        else ((_FIXED_IE_LENGTH_ + (Tlv.encodeAll (pre ++ [last])).length : ℕ) : ℤ), Tlv.encodeAll post) := by
  have hpos : 0 < last.body.length := List.length_pos_of_ne_nil hbody
  have hall : (Tlv.encodeAll (pre ++ last :: post)).length =
      (Tlv.encodeAll pre).length + (last.size + (Tlv.encodeAll post).length) := by
    rw [Tlv.encodeAll_append, Tlv.encodeAll_cons, List.length_append, List.length_append, Tlv.encode_length]
  have hpre : (Tlv.encodeAll (pre ++ [last])).length = (Tlv.encodeAll pre).length + last.size := by
    rw [Tlv.encodeAll_append, List.length_append, encodeAll_one, Tlv.encode_length]
  have hsize : last.size = last.body.length + 2 := rfl
  have hlen := h.length
  have hremainder : uint ((bss.ieLength : ℤ) - ((_FIXED_IE_LENGTH_ + (Tlv.encodeAll pre).length : ℕ) : ℤ) -
      ((last.body.length + 2 : ℕ) : ℤ)) = (Tlv.encodeAll post).length := by
    have hcast : (bss.ieLength : ℤ) - ((_FIXED_IE_LENGTH_ + (Tlv.encodeAll pre).length : ℕ) : ℤ) -
        ((last.body.length + 2 : ℕ) : ℤ) = (Tlv.encodeAll post).length := by omega
    rw [hcast]
    exact uint_natCast _ (by omega)
  have hplace : ((_FIXED_IE_LENGTH_ + (Tlv.encodeAll pre).length : ℕ) : ℤ) + ((last.body.length + 2 : ℕ) : ℤ) =
      ((_FIXED_IE_LENGTH_ + (Tlv.encodeAll (pre ++ [last])).length : ℕ) : ℤ) := by omega
  have hpost := @bytes_behind bss fixed (pre ++ [last]) post (by
    rw [List.append_assoc]
    exact h)
  unfold cut
  dsimp only
  rw [if_pos hpos, uint_body, hremainder, hplace, hpost]

theorem cut_junk (d : ℤ) {place : Place} (h : place.p = none ∨ place.ielen = 0) :
    cut ⟨none, 0, d⟩ bss place = (d, []) := by
  obtain ⟨p, ielen, bmatch⟩ := place
  cases p with
  | none => rfl
  | some p =>
    have hzero : ¬ 0 < ielen := by
      rcases h with h | h
      · cases h
      · exact Nat.not_lt.mpr (Nat.le_of_eq h)
    exact if_neg hzero

theorem add_replaces {lower upper : List Tlv} {old e : Tlv} (h : HoldsIes bss fixed (lower ++ old :: upper))
    (hlower : ∀ x ∈ lower, x.id < old.id) (hid : old.id = e.id) (hbody : old.body ≠ [])
    (hroom : _FIXED_IE_LENGTH_ + (Tlv.encodeAll (lower ++ old :: upper)).length + e.size ≤ MAX_IE_SZ) (stack : Stack) :
    HoldsIes (rtwAddBcnIe stack bss e.id e.body) fixed (lower ++ e :: upper) := by
  have hmax : MAX_IE_SZ = 768 := rfl
  have hlen : (Tlv.encodeAll (lower ++ e :: upper)).length + old.size =
      (Tlv.encodeAll (lower ++ old :: upper)).length + e.size := by
    rw [Tlv.encodeAll_append, Tlv.encodeAll_cons, Tlv.encodeAll_append, Tlv.encodeAll_cons]
    simp only [List.length_append, Tlv.encode_length]
    omega
  rw [rtwAddBcnIe, ← hid, findPlace_match h hlower, cut_of_place h hbody (by omega)]
  rw [hid]
  exact write_element rfl (bytes_front h) h.fixed_length (by omega)

theorem add_inserts {lower upper : List Tlv} {last e : Tlv} (h : HoldsIes bss fixed (lower ++ last :: upper))
    (hlower : ∀ x ∈ lower ++ [last], x.id < e.id) (hupper : ∀ x ∈ upper, e.id < x.id) (hbody : last.body ≠ [])
    (hroom : _FIXED_IE_LENGTH_ + (Tlv.encodeAll (lower ++ last :: upper)).length + e.size ≤ MAX_IE_SZ) (stack : Stack) :
    HoldsIes (rtwAddBcnIe stack bss e.id e.body) fixed (lower ++ [last] ++ e :: upper) := by
  have hmax : MAX_IE_SZ = 768 := rfl
  have hsplit : lower ++ last :: upper = lower ++ [last] ++ upper := by rw [List.append_assoc, List.singleton_append]
  have hlen : (Tlv.encodeAll (lower ++ [last] ++ e :: upper)).length =
      (Tlv.encodeAll (lower ++ last :: upper)).length + e.size := by
    rw [hsplit, Tlv.encodeAll_append _ (e :: upper), Tlv.encodeAll_append _ upper, Tlv.encodeAll_cons]
    simp only [List.length_append, Tlv.encode_length]
    omega
  have hbefore : HoldsIes bss fixed (lower ++ [last] ++ upper) := hsplit ▸ h
  rw [rtwAddBcnIe, findPlace_absent hbefore hlower hupper, lastOf_concat, cut_of_place h hbody (by omega)]
  exact write_element rfl (bytes_front hbefore) h.fixed_length (by omega)

theorem remove_takes {lower upper : List Tlv} {old : Tlv} (h : HoldsIes bss fixed (lower ++ old :: upper))
    (hlower : ∀ x ∈ lower, x.id ≠ old.id) (hbody : old.body ≠ [])
    (hroom : _FIXED_IE_LENGTH_ + (Tlv.encodeAll (lower ++ old :: upper)).length < 2 ^ 31) (dst_ie : ℤ) :
    HoldsIes (rtwRemoveBcnIe dst_ie bss old.id) fixed (lower ++ upper) := by
  have hpos : 0 < old.body.length := List.length_pos_of_ne_nil hbody
  have hfound := rtwGetIe_found (bytes_list h) rfl hlower
  have hcut := cut_of_place h hbody (by omega) ⟨none, 0, 0⟩ true
  have hremainder := congrArg Prod.snd hcut
  unfold cut at hremainder
  dsimp only at hremainder
  have hplace : (_FIXED_IE_LENGTH_ : ℤ) + (Tlv.encodeAll lower).length =
      ((_FIXED_IE_LENGTH_ + (Tlv.encodeAll lower).length : ℕ) : ℤ) := by
    push_cast
    ring
  rw [if_pos hpos, uint_body] at hremainder
  dsimp only at hremainder
  have hall : (Tlv.encodeAll (lower ++ old :: upper)).length =
      (Tlv.encodeAll (lower ++ upper)).length + old.size := by
    rw [Tlv.encodeAll_append, Tlv.encodeAll_cons, Tlv.encodeAll_append]
    simp only [List.length_append, Tlv.encode_length]
    omega
  have htwo : (Tlv.encodeAll (lower ++ upper)).length = (Tlv.encodeAll lower).length + (Tlv.encodeAll upper).length := by
    rw [Tlv.encodeAll_append, List.length_append]
  rw [rtwRemoveBcnIe, limit_of_holds h hroom, hfound]
  dsimp only
  rw [if_pos hpos, hplace, hremainder, uint_natCast _ (by omega), ← Nat.cast_add, uint_natCast _ (by omega)]
  exact @holds_splice bss fixed lower upper [] (bytes_front h) h.fixed_length _ (by rw [List.nil_append]; omega)

/-! ## Where the stack decides -/

/-- Without a place for the element the length is what the stack makes of it. -/
theorem add_length_of_stack (e : Tlv) {n : ℕ} (hn : n < 2 ^ 32) (h : HoldsIes bss fixed es) (hsorted : Sorted es)
    (hplace : ¬ HasPlace es e.id) : ∃ stack, (rtwAddBcnIe stack bss e.id e.body).ieLength = n := by
  let d : ℤ := n - (e.id :: UInt8.ofNat e.body.length :: e.body).length
  have hfound : (findPlace bss.ies bss.ieLength e.id bss.ieLength _FIXED_IE_LENGTH_ none 0).p = none ∨
      (findPlace bss.ies bss.ieLength e.id bss.ieLength _FIXED_IE_LENGTH_ none 0).ielen = 0 := by
    rcases sorted_split e.id hsorted with ⟨lower, old, upper, rfl, hid, hlower⟩ | ⟨lower, upper, rfl, hlower, hupper⟩
    · have hempty : old.body = [] := by
        by_contra hbody
        exact hplace (.inl ⟨lower, old, upper, rfl, hid, fun x hx => UInt8.ne_of_lt (hlower x hx), hbody⟩)
      rw [← hid, findPlace_match h (by rw [hid]; exact hlower), hempty]
      exact .inr rfl
    · rw [findPlace_absent h hlower hupper]
      rcases List.eq_nil_or_concat' lower with rfl | ⟨lower, last, rfl⟩
      · exact .inl rfl
      · have hsmall : last.id < e.id := hlower last (List.mem_append_right _ List.mem_cons_self)
        have habsent : ∀ x ∈ lower ++ [last] ++ upper, x.id ≠ e.id := by
          intro x hx
          rcases List.mem_append.mp hx with hx | hx
          · exact UInt8.ne_of_lt (hlower x hx)
          · exact (UInt8.ne_of_lt (hupper x hx)).symm
        have hempty : last.body = [] := by
          by_contra hbody
          exact hplace (.inr ⟨habsent, lower, last, upper, by rw [List.append_assoc, List.singleton_append], hsmall,
            hupper, hbody⟩)
        rw [lastOf_concat, hempty]
        exact .inr rfl
  have hoffset : uint (d + (e.id :: UInt8.ofNat e.body.length :: e.body).length) = n := by
    rw [sub_add_cancel]
    exact uint_natCast n hn
  refine ⟨⟨none, 0, d⟩, ?_⟩
  rw [rtwAddBcnIe, cut_junk d hfound]
  dsimp only
  rw [hoffset, List.length_nil, Nat.cast_zero, add_zero]
  exact uint_natCast n hn

theorem remove_length_of_stack {index : UInt8} (h : HoldsIes bss fixed es)
    (hroom : _FIXED_IE_LENGTH_ + (Tlv.encodeAll es).length < 2 ^ 31) (helement : ¬ HasElement es index) (dst_ie : ℤ) :
    (rtwRemoveBcnIe dst_ie bss index).ieLength = uint dst_ie := by
  rw [rtwRemoveBcnIe, limit_of_holds h hroom]
  rcases exists_first (fun e => e.id = index) es with hnone | ⟨pre, e, post, rfl, he, hpre⟩
  · rw [rtwGetIe_none (bytes_list h) fun x hx hid => hnone x hx (decide_eq_true hid)]
  · have hid : e.id = index := of_decide_eq_true he
    have hpre' : ∀ x ∈ pre, x.id ≠ index := fun x hx hid' => hpre x hx (decide_eq_true hid')
    have hempty : e.body = [] := by
      by_contra hbody
      exact helement ⟨pre, e, post, rfl, hid, hpre', hbody⟩
    have hfound := rtwGetIe_found (bytes_list h) rfl fun x hx hid' => hpre' x hx (hid'.trans hid)
    rw [hid, hempty] at hfound
    rw [hfound]
    rfl

/-- A length shorter than the fixed part gives `rtw_get_ie` a negative limit. -/
theorem remove_short {index : UInt8} (hshort : bss.ieLength < _FIXED_IE_LENGTH_) (dst_ie : ℤ) :
    (rtwRemoveBcnIe dst_ie bss index).ieLength = uint dst_ie := by
  have hfixed : _FIXED_IE_LENGTH_ = 12 := rfl
  have hlimit : asInt (uint ((bss.ieLength : ℤ) - (_FIXED_IE_LENGTH_ : ℕ))) < 1 := by
    have hwrap : uint ((bss.ieLength : ℤ) - (_FIXED_IE_LENGTH_ : ℕ)) = 2 ^ 32 + bss.ieLength - 12 := by
      rw [uint]
      omega
    rw [hwrap, asInt, if_neg (by omega)]
    omega
  have hnone : ((rtwGetIe _FIXED_IE_LENGTH_ index (asInt (uint ((bss.ieLength : ℤ) - _FIXED_IE_LENGTH_)))).run
      bss.ies).val = none := by
    rw [rtwGetIe, if_pos hlimit]
    rfl
  rw [rtwRemoveBcnIe, hnone]

theorem not_holds_short {out : Ieee80211.WlanBssidEx} (hshort : out.ieLength < _FIXED_IE_LENGTH_) :
    ¬ HoldsIes out fixed es := by
  intro h
  have hlen := h.length
  omega

/-! ## Exactly when they do what they are for -/

theorem added_of_place (e : Tlv) (h : HoldsIes bss fixed es) (hsorted : Sorted es)
    (hroom : _FIXED_IE_LENGTH_ + (Tlv.encodeAll es).length + e.size ≤ MAX_IE_SZ) (hplace : HasPlace es e.id) :
    AddsElement bss fixed es e := by
  intro stack
  rcases hplace with ⟨lower, old, upper, rfl, hid, hlower, hbody⟩ |
    ⟨habsent, lower, last, upper, rfl, hlast, hupper, hbody⟩
  · have hsmall := lower_lt hsorted fun x hx heq => hlower x hx (heq.trans hid)
    exact ⟨lower ++ e :: upper, .inl ⟨lower, old, upper, rfl, hid, hlower, rfl⟩, sorted_replace hsorted hid,
      add_replaces h hsmall hid hbody hroom stack⟩
  · have hlower : ∀ x ∈ lower ++ [last], x.id < e.id := by
      intro x hx
      rcases List.mem_append.mp hx with hx | hx
      · have hle : x.id ≤ last.id := (List.pairwise_append.mp hsorted).2.2 x hx last List.mem_cons_self
        exact UInt8.lt_of_le_of_lt hle hlast
      · rw [List.mem_singleton.mp hx]
        exact hlast
    have hsplit : lower ++ last :: upper = lower ++ [last] ++ upper := by rw [List.append_assoc, List.singleton_append]
    exact ⟨lower ++ [last] ++ e :: upper, .inr ⟨habsent, lower ++ [last], upper, hsplit, hlower, hupper, rfl⟩,
      sorted_insert (hsplit ▸ hsorted) hlower hupper, add_inserts h hlower hupper hbody hroom stack⟩

theorem addsElement_iff (e : Tlv) (h : HoldsIes bss fixed es) (hsorted : Sorted es)
    (hroom : _FIXED_IE_LENGTH_ + (Tlv.encodeAll es).length + e.size ≤ MAX_IE_SZ) :
    AddsElement bss fixed es e ↔ HasPlace es e.id := by
  refine ⟨fun hadds => ?_, added_of_place e h hsorted hroom⟩
  by_contra hplace
  obtain ⟨stack, hzero⟩ := add_length_of_stack e (by norm_num : 0 < 2 ^ 32) h hsorted hplace
  obtain ⟨es', -, -, hholds⟩ := hadds stack
  exact not_holds_short (by rw [hzero]; exact Nat.succ_pos 11) hholds

theorem removesElement_iff (index : UInt8) (h : HoldsIes bss fixed es)
    (hroom : _FIXED_IE_LENGTH_ + (Tlv.encodeAll es).length < 2 ^ 31) :
    RemovesElement bss fixed es index ↔ HasElement es index := by
  constructor
  · intro hremoves
    by_contra helement
    obtain ⟨es', -, hholds⟩ := hremoves 0
    have hzero := remove_length_of_stack h hroom helement 0
    exact not_holds_short (by rw [hzero]; exact Nat.succ_pos 11) hholds
  · rintro ⟨lower, old, upper, rfl, rfl, hlower, hbody⟩ dst_ie
    exact ⟨lower ++ upper, .inl ⟨lower, old, upper, rfl, rfl, hlower, rfl⟩, remove_takes h hlower hbody hroom dst_ie⟩

theorem restoresBuffer_iff (e : Tlv) (h : HoldsIes bss fixed es) (hsorted : Sorted es) (hbody : e.body ≠ [])
    (hroom : _FIXED_IE_LENGTH_ + (Tlv.encodeAll es).length + e.size ≤ MAX_IE_SZ) (habsent : ∀ x ∈ es, x.id ≠ e.id) :
    RestoresBuffer bss fixed es e ↔ HasPlace es e.id := by
  constructor
  · intro hrestores
    by_contra hplace
    obtain ⟨stack, hfive⟩ := add_length_of_stack e (by norm_num : 5 < 2 ^ 32) h hsorted hplace
    have hshort : (rtwAddBcnIe stack bss e.id e.body).ieLength < _FIXED_IE_LENGTH_ := by
      rw [hfive]
      decide
    have hzero := @remove_short _ e.id hshort 0
    exact not_holds_short (by rw [hzero]; exact Nat.succ_pos 11) (hrestores stack 0)
  · intro hplace stack dst_ie
    obtain ⟨es', hadded, -, hholds⟩ := added_of_place e h hsorted hroom hplace stack
    rcases hadded with ⟨lower, old, upper, rfl, hid, -, -⟩ | ⟨-, lower, upper, rfl, hlower, -, rfl⟩
    · exact absurd hid (habsent old (List.mem_append_right _ List.mem_cons_self))
    · have hlen : (Tlv.encodeAll (lower ++ e :: upper)).length = (Tlv.encodeAll (lower ++ upper)).length + e.size := by
        rw [Tlv.encodeAll_append, Tlv.encodeAll_cons, Tlv.encodeAll_append]
        simp only [List.length_append, Tlv.encode_length]
        omega
      have hmax : MAX_IE_SZ = 768 := rfl
      exact remove_takes hholds (fun x hx => UInt8.ne_of_lt (hlower x hx)) hbody (by omega) dst_ie

/-- An element is put in, and taken out again, exactly if one of its name, or else the last of a smaller name, has a
body; and the first of a name is taken out exactly if it is there and has a body. -/
theorem bcn_ie_iff (bss : Ieee80211.WlanBssidEx) (fixed : List UInt8) (es : List Tlv) (e : Tlv)
    (h : HoldsIes bss fixed es) (hsorted : Sorted es) (hbody : e.body ≠ [])
    (hroom : _FIXED_IE_LENGTH_ + (Tlv.encodeAll es).length + e.size ≤ MAX_IE_SZ) :
    (AddsElement bss fixed es e ↔ HasPlace es e.id) ∧ (RemovesElement bss fixed es e.id ↔ HasElement es e.id) ∧
    ((∀ x ∈ es, x.id ≠ e.id) → (RestoresBuffer bss fixed es e ↔ HasPlace es e.id)) := by
  have hmax : MAX_IE_SZ = 768 := rfl
  exact ⟨addsElement_iff e h hsorted hroom, removesElement_iff e.id h (by omega),
    restoresBuffer_iff e h hsorted hbody hroom⟩

end

/-- A rate and a channel, and an ERP element for behind them. -/
def rateChannel : List Tlv := [⟨0x01, [0x82], by decide⟩, ⟨0x03, [0x01], by decide⟩]

def erpInfo : Tlv := ⟨0x2a, [0x04], by decide⟩

theorem bcn_ie_iff_rateChannel :
    (AddsElement (networkOf rateChannel) (List.replicate 12 0) rateChannel erpInfo ↔ HasPlace rateChannel 0x2a) ∧
    (RemovesElement (networkOf rateChannel) (List.replicate 12 0) rateChannel 0x2a ↔ HasElement rateChannel 0x2a) ∧
    (RestoresBuffer (networkOf rateChannel) (List.replicate 12 0) rateChannel erpInfo ↔ HasPlace rateChannel 0x2a) := by
  have hholds : HoldsIes (networkOf rateChannel) (List.replicate 12 0) rateChannel := ⟨rfl, rfl, by decide +kernel⟩
  have hsorted : Sorted rateChannel := by
    rw [Sorted, rateChannel]
    decide
  obtain ⟨hadd, hremove, hrestore⟩ := bcn_ie_iff (networkOf rateChannel) (List.replicate 12 0) rateChannel erpInfo
    hholds hsorted (List.cons_ne_nil _ _) (by decide)
  exact ⟨hadd, hremove, hrestore (by decide)⟩

/-- An element put into an empty list, by a stack that holds the null pointer. -/
theorem not_adds_empty : HoldsIes (networkOf []) (List.replicate 12 0) [] ∧ Sorted [] ∧
    ¬ AddsElement (networkOf []) (List.replicate 12 0) [] erpInfo ∧
    ¬ RemovesElement (networkOf []) (List.replicate 12 0) [] 0x2a := by
  refine ⟨⟨rfl, rfl, by decide +kernel⟩, List.Pairwise.nil, fun hadds => ?_, fun hremoves => ?_⟩
  · obtain ⟨es', -, -, hholds⟩ := hadds ⟨none, 0, -3⟩
    exact not_holds_short (by decide +kernel) hholds
  · obtain ⟨es', -, hholds⟩ := hremoves 0
    exact not_holds_short (by decide +kernel) hholds

end BcnIe

end Rtl8723au
