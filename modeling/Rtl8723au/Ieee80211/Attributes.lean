import Rtl8723au.Ieee80211.GetIe
import Rtl8723au.Include.RecvFrame
import Rtl8723au.Library.WhileLoop

/-! The attributes inside the elements of the protected setup and of P2P: the walks of `core/rtw_ieee80211.c` over them, and
when these end. An attribute has a length of 16 bits, to which that of its header is added in 16 bits. -/
namespace Rtl8723au.Ieee80211
open Mem Security WhileLoop Relation
set_option autoImplicit false

/-- How an attribute is told: by what vendor, and where its identifier and its length are. -/
structure AttrKind where
  oui : List UInt8
  attrId : Mem → ℤ → ℕ
  attrDataLen : Mem → ℤ → ℕ
  header : ℕ
  short : ∀ m p, attrDataLen m p < 2 ^ 16
  header_pos : 0 < header
  header_short : header < 2 ^ 16

def be16At (m : Mem) (p : ℤ) : ℕ := 256 * (m p).toNat + (m (p + 1)).toNat
def le16At (m : Mem) (p : ℤ) : ℕ := (m p).toNat + 256 * (m (p + 1)).toNat

theorem be16At_lt (m : Mem) (p : ℤ) : be16At m p < 2 ^ 16 := by
  have hhi := (m p).toNat_lt
  have hlo := (m (p + 1)).toNat_lt
  unfold be16At
  omega

theorem le16At_lt (m : Mem) (p : ℤ) : le16At m p < 2 ^ 16 := by
  have hlo := (m p).toNat_lt
  have hhi := (m (p + 1)).toNat_lt
  unfold le16At
  omega

theorem wpsHeader_pos : 0 < 4 := by decide

def wpsAttr : AttrKind where
  oui := wpsOui
  attrId := be16At
  attrDataLen m p := be16At m (p + 2)
  header := 4
  short m p := be16At_lt m (p + 2)
  header_pos := wpsHeader_pos
  header_short := by decide

def p2pAttr : AttrKind where
  oui := p2pOui
  attrId m p := (m p).toNat
  attrDataLen m p := le16At m (p + 1)
  header := 3
  short m p := le16At_lt m (p + 1)
  header_pos := by decide
  header_short := by decide

namespace AttrKind

variable (kind : AttrKind) (m : Mem) (ie : ℤ) (ielen target : ℕ)

/-- The element is one of the vendor. -/
def Vendor : Prop := m ie = _VENDOR_SPECIFIC_IE_ ∧ bytesAt m (ie + 2) kind.oui.length = kind.oui

instance : Decidable (kind.Vendor m ie) := inferInstanceAs (Decidable (_ ∧ _))

/-- `u16 attr_len`. -/
def attrLen (p : ℤ) : ℕ := (kind.attrDataLen m p + kind.header) % 2 ^ 16

/-- A pass of the search, at an offset from the element. -/
def pass (copies : Bool) (k : ℕ) : Option Target ⊕ ℕ :=
  if ielen ≤ k then .inl none
  else if kind.attrId m (ie + k) = target then
    .inl (some ⟨ie + k, kind.attrLen m (ie + k), if copies then bytesAt m (ie + k) (kind.attrLen m (ie + k)) else []⟩)
  else .inr (k + kind.attrLen m (ie + k))

/-- The search for an attribute with at most so many passes. -/
def getAttr (copies : Bool) (fuel : ℕ) : Option (Option Target) :=
  if kind.Vendor m ie then passes (kind.pass m ie ielen target copies) fuel 6 else some none

end AttrKind

/-- `rtw_get_wps_attr`. -/
def rtwGetWpsAttr (m : Mem) (wpsIe : ℤ) (wpsIelen targetAttrId : ℕ) (bufAttr : Bool) (fuel : ℕ) : Option (Option Target) :=
  wpsAttr.getAttr m wpsIe wpsIelen targetAttrId bufAttr fuel

/-- `rtw_get_p2p_attr`. -/
def rtwGetP2pAttr (m : Mem) (p2pIe : ℤ) (p2pIelen targetAttrId : ℕ) (bufAttr : Bool) (fuel : ℕ) : Option (Option Target) :=
  p2pAttr.getAttr m p2pIe p2pIelen targetAttrId bufAttr fuel

def memset (m : Mem) (p : ℤ) (n : ℕ) : Mem := putBytes m p (List.replicate n 0)

/-- `memcpy` to a lower address, which the copy of the kernel makes from the front. -/
def memcpyDown (m : Mem) (dst src : ℤ) (n : ℕ) : Mem := putBytes m dst (bytesAt m src n)

/-- The end of the element is moved over an attribute; `ielen` has 32 bits. -/
def removeAttr (m : Mem) (ie : ℤ) (ielen : ℕ) (t : Target) : Mem × ℕ :=
  let nextAttr := t.ptr + t.size
  let remainLen := uint (ielen - (nextAttr - ie))
  let m := memset m t.ptr t.size
  let m := memcpyDown m t.ptr nextAttr remainLen
  let m := memset m (t.ptr + remainLen) t.size
  let m := Function.update m (ie + 1) (m (ie + 1) - UInt8.ofNat t.size)
  (m, uint (ielen - t.size))

/-- `rtw_p2p_attr_remove` with at most so many passes, and at most so many of each search. -/
def rtwP2pAttrRemove (ie : ℤ) (attrId : ℕ) : ℕ → Mem × ℕ → Option (Mem × ℕ)
  | 0, _ => none
  | fuel + 1, (m, ielen) =>
    match rtwGetP2pAttr m ie ielen attrId false (fuel + 1) with
    | none => none
    | some none => some (m, ielen)
    | some (some t) =>
      if t.size = 0 then some (m, ielen) else rtwP2pAttrRemove ie attrId fuel (removeAttr m ie ielen t)

/-! ## The walks end -/

namespace AttrKind

variable (kind : AttrKind) (m : Mem) (ie : ℤ) (ielen target : ℕ) (copies : Bool)

/-- Every pass of the search that does not return goes to a higher offset. -/
def Advances : Prop :=
  kind.Vendor m ie → ∀ k u, Comes (kind.pass m ie ielen target copies) 6 k →
    kind.pass m ie ielen target copies k = .inr u → k < u

/-- The search returns, and advances. -/
def Ends : Prop := (∃ fuel r, kind.getAttr m ie ielen target copies fuel = some r) ∧ kind.Advances m ie ielen target copies

/-- No attribute that the search passes has the length that comes to nothing with its header. -/
def NoneEmpty : Prop :=
  kind.Vendor m ie → ∀ k, Comes (kind.pass m ie ielen target copies) 6 k → k < ielen →
    kind.attrId m (ie + k) ≠ target → kind.attrDataLen m (ie + k) ≠ 2 ^ 16 - kind.header

end AttrKind

section
variable {kind : AttrKind} {m : Mem} {ie : ℤ} {ielen target k u : ℕ} {copies : Bool}

theorem attrLen_eq_zero_iff (p : ℤ) : kind.attrLen m p = 0 ↔ kind.attrDataLen m p = 2 ^ 16 - kind.header := by
  have hshort := kind.short m p
  have hpos := kind.header_pos
  have hheader := kind.header_short
  unfold AttrKind.attrLen
  omega

theorem pass_next_iff : kind.pass m ie ielen target copies k = .inr u ↔
    k < ielen ∧ kind.attrId m (ie + k) ≠ target ∧ u = k + kind.attrLen m (ie + k) := by
  unfold AttrKind.pass
  split_ifs with hend hid
  · exact ⟨fun h => h.elim, fun h => absurd hend (not_le.mpr h.1)⟩
  · exact ⟨fun h => h.elim, fun h => absurd hid h.2.1⟩
  · rw [Sum.inr.injEq]
    exact ⟨fun h => ⟨not_le.mp hend, hid, h.symm⟩, fun h => h.2.2.symm⟩

theorem advances_iff : kind.Advances m ie ielen target copies ↔ kind.NoneEmpty m ie ielen target copies := by
  refine forall_congr' fun _ => ?_
  constructor
  · intro h k hk hend hid
    have hless := h k _ hk (pass_next_iff.mpr ⟨hend, hid, rfl⟩)
    rw [ne_eq, ← attrLen_eq_zero_iff]
    omega
  · intro h k u hk hpass
    obtain ⟨hend, hid, rfl⟩ := pass_next_iff.mp hpass
    have hlen := h k hk hend hid
    rw [ne_eq, ← attrLen_eq_zero_iff] at hlen
    omega

theorem getAttr_returns (h : kind.Advances m ie ielen target copies) :
    ∃ fuel r, kind.getAttr m ie ielen target copies fuel = some r := by
  unfold AttrKind.getAttr
  by_cases hvendor : kind.Vendor m ie
  · simp only [if_pos hvendor]
    apply returns_of_descends fun k => ielen - k
    intro k u hk hpass
    have hless := h hvendor k u hk hpass
    have hend := (pass_next_iff.mp hpass).1
    omega
  · exact ⟨0, none, if_neg hvendor⟩

theorem ends_iff : kind.Ends m ie ielen target copies ↔ kind.NoneEmpty m ie ielen target copies := by
  rw [← advances_iff]
  exact ⟨fun h => h.2, fun h => ⟨getAttr_returns h, h⟩⟩

end

/-! ## The removal ends -/

/-- A pass of the removal: an attribute is found and removed. -/
def RemovePass (ie : ℤ) (attrId : ℕ) (a b : Mem × ℕ) : Prop :=
  ∃ fuel t, rtwGetP2pAttr a.1 ie a.2 attrId false fuel = some (some t) ∧ t.size ≠ 0 ∧ b = removeAttr a.1 ie a.2 t

/-- The removal returns, each of its searches advances, and each pass makes the element shorter. -/
structure RemoveEnds (ie : ℤ) (attrId : ℕ) (s : Mem × ℕ) : Prop where
  returns : ∃ fuel r, rtwP2pAttrRemove ie attrId fuel s = some r
  advances : ∀ a, ReflTransGen (RemovePass ie attrId) s a → p2pAttr.Advances a.1 ie a.2 attrId false
  shortens : ∀ a b, ReflTransGen (RemovePass ie attrId) s a → RemovePass ie attrId a b → b.2 < a.2

/-- The attributes that a search comes to: none that it passes comes to nothing, and the one that it looks for is not longer
than the element. -/
def AttrsFit (ie : ℤ) (attrId : ℕ) (a : Mem × ℕ) : Prop :=
  p2pAttr.NoneEmpty a.1 ie a.2 attrId false ∧ (p2pAttr.Vendor a.1 ie →
    ∀ k, Comes (p2pAttr.pass a.1 ie a.2 attrId false) 6 k → k < a.2 → p2pAttr.attrId a.1 (ie + k) = attrId →
      p2pAttr.attrLen a.1 (ie + k) ≤ a.2)

section
variable {ie : ℤ} {attrId : ℕ} {a b s : Mem × ℕ} {fuel : ℕ} {t : Target}

theorem found_iff : (∃ fuel, rtwGetP2pAttr a.1 ie a.2 attrId false fuel = some (some t)) ↔
    p2pAttr.Vendor a.1 ie ∧ ∃ k, Comes (p2pAttr.pass a.1 ie a.2 attrId false) 6 k ∧ k < a.2 ∧
      p2pAttr.attrId a.1 (ie + k) = attrId ∧ t = ⟨ie + k, p2pAttr.attrLen a.1 (ie + k), []⟩ := by
  unfold rtwGetP2pAttr AttrKind.getAttr
  by_cases hvendor : p2pAttr.Vendor a.1 ie
  · simp only [if_pos hvendor]
    rw [passes_eq_some_iff, and_iff_right hvendor]
    refine exists_congr fun k => and_congr_right fun _ => ?_
    unfold AttrKind.pass
    rw [if_neg Bool.false_ne_true]
    split_ifs with hend hid
    · rw [Sum.inl.injEq]
      exact ⟨fun h => absurd h.symm (Option.some_ne_none t), fun h => absurd hend (not_le.mpr h.1)⟩
    · rw [Sum.inl.injEq, Option.some.injEq]
      exact ⟨fun h => ⟨not_le.mp hend, hid, h.symm⟩, fun h => h.2.2.symm⟩
    · exact ⟨fun h => h.elim, fun h => absurd h.2.1 hid⟩
  · simp only [if_neg hvendor]
    constructor
    · rintro ⟨-, h⟩
      cases h
    · exact fun h => absurd h.1 hvendor

theorem getAttr_mono {kind : AttrKind} {m : Mem} {ielen target fuel' : ℕ} {copies : Bool} {r : Option Target}
    (h : kind.getAttr m ie ielen target copies fuel = some r) (hle : fuel ≤ fuel') :
    kind.getAttr m ie ielen target copies fuel' = some r := by
  unfold AttrKind.getAttr at h ⊢
  split_ifs at h ⊢ with hvendor
  · exact passes_mono h hle
  · exact h

theorem rtwP2pAttrRemove_mono {fuel' : ℕ} {r : Mem × ℕ} (h : rtwP2pAttrRemove ie attrId fuel s = some r)
    (hle : fuel ≤ fuel') : rtwP2pAttrRemove ie attrId fuel' s = some r := by
  induction fuel generalizing s fuel' with
  | zero => cases h
  | succ fuel ih =>
    obtain ⟨fuel', rfl⟩ := Nat.exists_eq_succ_of_ne_zero (Nat.ne_zero_of_lt (Nat.lt_of_succ_le hle))
    obtain ⟨m, ielen⟩ := s
    rw [rtwP2pAttrRemove] at h ⊢
    cases hget : rtwGetP2pAttr m ie ielen attrId false (fuel + 1) with
    | none =>
      rw [hget] at h
      cases h
    | some found =>
      rw [hget] at h
      rw [show rtwGetP2pAttr m ie ielen attrId false (fuel' + 1) = some found from getAttr_mono hget hle]
      cases found with
      | none => exact h
      | some t =>
        dsimp only at h ⊢
        split_ifs at h ⊢ with hsize
        · exact h
        · exact ih h (Nat.le_of_succ_le_succ hle)

theorem removeAttr_shorter_iff (hsize : t.size ≠ 0) (hshort : t.size < 2 ^ 16) :
    (removeAttr a.1 ie a.2 t).2 < a.2 ↔ t.size ≤ a.2 := by
  show uint _ < _ ↔ _
  unfold uint
  omega

theorem remove_returns (hadvances : ∀ a, ReflTransGen (RemovePass ie attrId) s a → p2pAttr.Advances a.1 ie a.2 attrId false)
    (hshortens : ∀ a b, ReflTransGen (RemovePass ie attrId) s a → RemovePass ie attrId a b → b.2 < a.2) :
    ∃ fuel r, rtwP2pAttrRemove ie attrId fuel s = some r := by
  induction hlen : s.2 using Nat.strong_induction_on generalizing s with
  | _ len ih =>
    obtain ⟨fuel, r, hget⟩ := getAttr_returns (hadvances s ReflTransGen.refl)
    have hget' : rtwGetP2pAttr s.1 ie s.2 attrId false (fuel + 1) = some r := getAttr_mono hget (Nat.le_succ fuel)
    cases r with
    | none =>
      refine ⟨fuel + 1, s, ?_⟩
      rw [rtwP2pAttrRemove, hget']
    | some t =>
      by_cases hsize : t.size = 0
      · refine ⟨fuel + 1, s, ?_⟩
        rw [rtwP2pAttrRemove, hget']
        exact if_pos hsize
      · have hpass : RemovePass ie attrId s (removeAttr s.1 ie s.2 t) := ⟨fuel, t, hget, hsize, rfl⟩
        obtain ⟨fuel', r, hrest⟩ := ih _ (hlen ▸ hshortens s _ ReflTransGen.refl hpass)
          (fun a ha => hadvances a (ReflTransGen.head hpass ha)) (fun a b ha => hshortens a b (ReflTransGen.head hpass ha)) rfl
        refine ⟨max fuel fuel' + 1, r, ?_⟩
        have hget'' : rtwGetP2pAttr s.1 ie s.2 attrId false (max fuel fuel' + 1) = some (some t) :=
          getAttr_mono hget ((le_max_left _ _).trans (Nat.le_succ _))
        rw [rtwP2pAttrRemove, hget'']
        exact (if_neg hsize).trans (rtwP2pAttrRemove_mono hrest (le_max_right _ _))

theorem removeEnds_iff : RemoveEnds ie attrId s ↔ ∀ a, ReflTransGen (RemovePass ie attrId) s a → AttrsFit ie attrId a := by
  constructor
  · intro h a ha
    refine ⟨advances_iff.mp (h.advances a ha), fun hvendor k hk hend hid => ?_⟩
    by_cases hlen : p2pAttr.attrLen a.1 (ie + k) = 0
    · omega
    · obtain ⟨fuel, hget⟩ := found_iff.mpr ⟨hvendor, k, hk, hend, hid, rfl⟩
      have hless := h.shortens a _ ha ⟨fuel, _, hget, hlen, rfl⟩
      exact (removeAttr_shorter_iff hlen (Nat.mod_lt _ (by decide))).mp hless
  · intro h
    have hadvances : ∀ a, ReflTransGen (RemovePass ie attrId) s a → p2pAttr.Advances a.1 ie a.2 attrId false :=
      fun a ha => advances_iff.mpr (h a ha).1
    have hshortens : ∀ a b, ReflTransGen (RemovePass ie attrId) s a → RemovePass ie attrId a b → b.2 < a.2 := by
      rintro a b ha ⟨fuel, t, hget, hsize, rfl⟩
      obtain ⟨hvendor, k, hk, hend, hid, rfl⟩ := found_iff.mp ⟨fuel, hget⟩
      exact (removeAttr_shorter_iff hsize (Nat.mod_lt _ (by decide))).mpr ((h a ha).2 hvendor k hk hend hid)
    exact ⟨remove_returns hadvances hshortens, hadvances, hshortens⟩

end

/-- **The walks end exactly when no attribute that they pass comes to nothing with its header**, and for the removal when no
attribute that is removed is longer than the element. -/
theorem attrWalks_end_iff (m : Mem) (ie : ℤ) (ielen target : ℕ) (copies : Bool) :
    (wpsAttr.Ends m ie ielen target copies ↔ wpsAttr.NoneEmpty m ie ielen target copies) ∧
    (p2pAttr.Ends m ie ielen target copies ↔ p2pAttr.NoneEmpty m ie ielen target copies) ∧
      (RemoveEnds ie target (m, ielen) ↔
        ∀ a, ReflTransGen (RemovePass ie target) (m, ielen) a → AttrsFit ie target a) :=
  ⟨ends_iff, ends_iff, removeEnds_iff⟩

/-- A P2P element whose first attribute, of another identifier, comes to nothing. -/
def emptyAttr : Mem := fun x => [0xdd, 0x07, 0x50, 0x6f, 0x9a, 0x09, 0x02, 0xfd, 0xff].getD x.toNat 0

/-- The search stays at that attribute. -/
theorem p2pAttr_emptyAttr : ¬p2pAttr.Ends emptyAttr 0 9 1 false := by
  rintro ⟨-, hadvances⟩
  exact absurd (hadvances (by decide) 6 6 ReflTransGen.refl (pass_next_iff.mpr (by decide))) (lt_irrefl 6)

end Rtl8723au.Ieee80211
