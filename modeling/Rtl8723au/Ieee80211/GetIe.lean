import Rtl8723au.Ap.Beacon
import Rtl8723au.Library.ElementSearch

/-! The searches for an element of `core/rtw_ieee80211.c`, and what each of them needs of the elements that it comes to. -/
namespace Rtl8723au.Ieee80211
open Mem Security AccessM Search
set_option autoImplicit false

def _VENDOR_SPECIFIC_IE_ : UInt8 := 0xdd
def wpaOuiType : List UInt8 := [0x00, 0x50, 0xf2, 0x01]
def wpsOui : List UInt8 := [0x00, 0x50, 0xf2, 0x04]
def p2pOui : List UInt8 := [0x50, 0x6f, 0x9a, 0x09]

/-- `memcmp` with the bytes behind the length of an element. -/
def lookOui (inIe : ℤ) (cnt : ℕ) (oui : List UInt8) : M Look := do
  let b ← peekList whole (inIe + cnt + 2) oui.length
  pure (if b = oui then .found else .next)

def lookIe (inIe : ℤ) (eid : UInt8) (oui : Option (List UInt8)) (cnt : ℕ) : M Look := do
  let id ← read (inIe + cnt)
  if id ≠ eid then pure .next
  else
    match oui with
    | none => pure .found
    | some oui => lookOui inIe cnt oui

/-- `rtw_get_ie_ex`. -/
def rtwGetIeEx (inIe : ℤ) (inLen : ℕ) (eid : UInt8) (oui : Option (List UInt8)) (ie : Bool) : M (Option Target) :=
  search inIe inLen ie (lookIe inIe eid oui) inLen 0

/-- `rtw_get_wps_ie`. -/
def rtwGetWpsIe (inIe : ℤ) (inLen : ℕ) (wpsIe : Bool) : M (Option Target) :=
  search inIe inLen wpsIe (lookIe inIe _VENDOR_SPECIFIC_IE_ (some wpsOui)) inLen 0

def lookP2p (inIe : ℤ) (cnt : ℕ) : M Look := do
  let eid ← read (inIe + cnt)
  if MAX_IE_SZ < cnt then pure .giveUp
  else if eid ≠ _VENDOR_SPECIFIC_IE_ then pure .next
  else lookOui inIe cnt p2pOui

/-- `rtw_get_p2p_ie`; a length below zero is found out once the first byte has been read. -/
def rtwGetP2pIe (inIe inLen : ℤ) (p2pIe : Bool) : M (Option Target) :=
  if inLen < 0 then do
    let _ ← read inIe
    pure none
  else search inIe inLen.toNat p2pIe (lookP2p inIe) inLen.toNat 0

/-- A pass of `rtw_get_wpa_ie` for the vendor's element at `pbuf`, with what comes behind it. -/
def checkWpaIe (pbuf : ℤ) (checkNextIe : M (Option (ℤ × ℕ))) : M (Option (ℤ × ℕ)) := do
  let oui ← peekList whole (pbuf + 2) 4
  if oui ≠ wpaOuiType then checkNextIe
  else do
    let val16 ← peekList whole (pbuf + 6) 2
    if val16 ≠ [0x01, 0x00] then checkNextIe
    else do
      let wpaIeLen ← read (pbuf + 1)
      pure (some (pbuf, wpaIeLen.toNat))

/-- The loop of `rtw_get_wpa_ie`, whose search starts at `pbuf`. -/
def rtwGetWpaIeLoop (pie limit : ℤ) : ℕ → ℤ → ℤ → M (Option (ℤ × ℕ))
  | 0, _, _ => pure none
  | fuel + 1, pbuf, limitNew => do
    let found ← rtwGetIe pbuf _VENDOR_SPECIFIC_IE_ limitNew
    match found with
    | none => pure none
    | some (pbuf, len) =>
      let limitNew := limit - (pbuf - pie) - 2 - len
      checkWpaIe pbuf (if limitNew ≤ 0 then pure none else rtwGetWpaIeLoop pie limit fuel (pbuf + (2 + len)) limitNew)

/-- `rtw_get_wpa_ie`. -/
def rtwGetWpaIe (pie limit : ℤ) : M (Option (ℤ × ℕ)) := rtwGetWpaIeLoop pie limit limit.toNat pie limit

/-! ## What a look finds -/

/-- The bytes behind the length of the element at an index are those of the vendor. -/
def HasOui (m : Mem) (inIe : ℤ) (k : ℕ) (oui : List UInt8) : Prop := bytesAt m (inIe + k + 2) oui.length = oui

instance (m : Mem) (inIe : ℤ) (k : ℕ) (oui : List UInt8) : Decidable (HasOui m inIe k oui) :=
  inferInstanceAs (Decidable (_ = _))

/-- The element at an index is the one, for a search by identifier and vendor. -/
def IsIe (m : Mem) (inIe : ℤ) (eid : UInt8) (oui : Option (List UInt8)) (k : ℕ) : Prop :=
  m (inIe + k) = eid ∧ ∀ o ∈ oui, HasOui m inIe k o

instance (m : Mem) (inIe : ℤ) (eid : UInt8) (oui : Option (List UInt8)) (k : ℕ) : Decidable (IsIe m inIe eid oui k) :=
  inferInstanceAs (Decidable (_ ∧ _))

def answerIe (m : Mem) (inIe : ℤ) (eid : UInt8) (oui : Option (List UInt8)) (k : ℕ) : Look :=
  if IsIe m inIe eid oui k then .found else .next

def answerP2p (m : Mem) (inIe : ℤ) (k : ℕ) : Look :=
  if MAX_IE_SZ < k then .giveUp else answerIe m inIe _VENDOR_SPECIFIC_IE_ (some p2pOui) k

section
variable {m : Mem} {inIe : ℤ} {eid : UInt8} {oui : Option (List UInt8)} {k : ℕ}

theorem lookOui_val (o : List UInt8) : ((lookOui inIe k o).run m).val = if HasOui m inIe k o then .found else .next := rfl

theorem lookIe_val : ((lookIe inIe eid oui k).run m).val = answerIe m inIe eid oui k := by
  unfold lookIe
  rw [bind_val, read_val, read_st, answerIe, ite_run]
  by_cases hid : m (inIe + k) = eid
  · rw [if_neg (not_not.mpr hid)]
    cases oui with
    | none => exact (if_pos ⟨hid, fun o ho => absurd ho (Option.not_mem_none o)⟩).symm
    | some o =>
      dsimp only
      rw [lookOui_val]
      exact if_congr ⟨fun h => ⟨hid, fun _ ho => Option.some.inj ho ▸ h⟩, fun h => h.2 o rfl⟩ rfl rfl
  · rw [if_pos hid, if_neg fun h => hid h.1]
    rfl

theorem lookIe_st : ((lookIe inIe eid oui k).run m).st = m := by
  unfold lookIe
  rw [bind_st, read_st, ite_run]
  split
  · rfl
  · cases oui with
    | none => rfl
    | some o => rfl

theorem lookP2p_val : ((lookP2p inIe k).run m).val = answerP2p m inIe k := by
  rw [lookP2p, bind_val, read_val, read_st, answerP2p, ite_run]
  split
  · rfl
  · rw [← lookIe_val]
    rfl

theorem lookP2p_st : ((lookP2p inIe k).run m).st = m := by
  rw [lookP2p, bind_st, read_st, ite_run]
  split
  · rfl
  · rw [ite_run]
    split
    · rfl
    · rfl

end

end Rtl8723au.Ieee80211
