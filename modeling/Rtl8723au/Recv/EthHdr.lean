import Rtl8723au.Include.Adapter

/-! `wlanhdr_to_ethhdr` of `core/rtw_recv.c`: the 802.11 header of a received data
frame, with the IV and a SNAP header behind it, gives way to an Ethernet header. The
trace holds what is read; the header is written through what `recvframe_pull` returns. -/
namespace Rtl8723au
open Mem
set_option autoImplicit false

abbrev SNAP_SIZE : ℕ := 6
def ETH_HLEN : ℕ := 14

def rtwRfc1042Header : Vector UInt8 6 := #v[0xaa, 0xaa, 0x03, 0x00, 0x00, 0x00]
def rtwBridgeTunnelHeader : Vector UInt8 6 := #v[0xaa, 0xaa, 0x03, 0x00, 0x00, 0xf8]
def SNAP_ETH_TYPE_IPX : Vector UInt8 2 := #v[0x81, 0x37]
def SNAP_ETH_TYPE_APPLETALK_AARP : Vector UInt8 2 := #v[0x80, 0xf3]

/-- The left half of the condition: RFC 1042 and neither IPX nor AARP. -/
def rfc1042Snap (psnap : ℤ) : M Bool := do
  let snap ← readVec psnap SNAP_SIZE
  if snap = rtwRfc1042Header then
    let snapType ← readVec (psnap + SNAP_SIZE) 2
    if snapType = SNAP_ETH_TYPE_IPX then pure false
    else
      let snapType ← readVec (psnap + SNAP_SIZE) 2
      pure (snapType != SNAP_ETH_TYPE_APPLETALK_AARP)
  else pure false

/-- `bsnaphdr`: the encapsulation is removed with the header. -/
def readBsnaphdr (psnap : ℤ) : M Bool := do
  let rfc1042 ← rfc1042Snap psnap
  if rfc1042 then pure true
  else
    let snap ← readVec psnap SNAP_SIZE
    pure (snap == rtwBridgeTunnelHeader)

/-- The value a C `u16` keeps of an integer. -/
def u16 (z : ℤ) : ℕ := (z % 2 ^ 16).toNat

/-- `memcpy` of given bytes to `p`. -/
def putVec {n : ℕ} (p : ℤ) (v : Vector UInt8 n) : M Unit :=
  AccessM.modify fun m => patch m p n fun k => v.toList.getD k 0

/-- What `wlanhdr_to_ethhdr` leaves: the frame, its locals `rmv_len` and `len`, and the pointer it writes
the Ethernet header through. -/
structure Ethhdr where
  frame : RecvFrame
  rmvLen : ℕ
  len : ℕ
  ptr : Option ℤ

/-- The two addresses and, in front of an LLC header, the length. -/
def writeEthhdr (a : RxPktAttrib) (bsnaphdr : Bool) (len : ℕ) (ptr : ℤ) : M Unit := do
  putVec ptr a.dst
  putVec (ptr + 6) a.src
  if bsnaphdr then pure ()
  else putVec (ptr + 12) #v[UInt8.ofNat (len / 256), UInt8.ofNat (len % 256)]

/-- The pull that makes room for the Ethernet header; in MP mode the 24 bytes from `rx_head` on are put
in front of it. Offsets count from `data`, the `rx_data` of the frame as it came in. -/
def pullEthhdr (adapter : RtwAdapter) (data : ℤ) (f : RecvFrame) (rmvLen : ℕ) (bsnaphdr : Bool) (len : ℕ) :
    M Ethhdr :=
  if adapter.checkFwstate WIFI_MP_STATE then do
    putVec rmvLen #v[0x87, 0x12]
    let pulled := f.recvframePull (rmvLen - ETH_HLEN + 2 - 24)
    let rxmem ← readVec (f.rxHead - data) 24
    match pulled.1 with
    | none => pure ⟨pulled.2, rmvLen, len, none⟩
    | some ptr => do
      putVec (ptr - data) rxmem
      writeEthhdr f.attrib bsnaphdr len (ptr - data + 24)
      pure ⟨pulled.2, rmvLen, len, some ptr⟩
  else
    let pulled := f.recvframePull (rmvLen - ETH_HLEN + if bsnaphdr then 2 else 0)
    match pulled.1 with
    | none => pure ⟨pulled.2, rmvLen, len, none⟩
    | some ptr => do
      writeEthhdr f.attrib bsnaphdr len (ptr - data)
      pure ⟨pulled.2, rmvLen, len, some ptr⟩

/-- The first step: the ICV comes off the tail of an encrypted frame. -/
def pullIcv (f : RecvFrame) : RecvFrame :=
  if f.attrib.encrypt ≠ 0 then (f.recvframePullTail f.attrib.icvLen).2 else f

/-- `pattrib->eth_type`, in network order. -/
def setEthType (f : RecvFrame) (ethType : Vector UInt8 2) : RecvFrame :=
  { f with attrib := { f.attrib with ethType := 256 * (getElem ethType 0 Nat.two_pos).toNat + (getElem ethType 1 Nat.one_lt_two).toNat } }

def wlanhdrToEthhdr (adapter : RtwAdapter) (f : RecvFrame) : M Ethhdr := do
  let g := pullIcv f
  let hdrIv := f.attrib.hdrlen + f.attrib.ivLen
  let bsnaphdr ← readBsnaphdr hdrIv
  let rmvLen := hdrIv + if bsnaphdr then SNAP_SIZE else 0
  let ethType ← readVec rmvLen 2
  pullEthhdr adapter f.rxData (setEthType g ethType) rmvLen bsnaphdr (u16 (g.len - rmvLen))

/-! ## The encapsulation test -/

section Snap
variable (m : Mem) (psnap : ℤ)

/-- The six bytes behind the IV, and the two behind them. -/
def snapAt : Vector UInt8 6 := Vector.ofFn fun j => m (psnap + (j : ℕ))
def snapTypeAt : Vector UInt8 2 := Vector.ofFn fun j => m (psnap + SNAP_SIZE + (j : ℕ))

theorem readVec_snap : ((readVec psnap SNAP_SIZE).run m).val = snapAt m psnap := rfl
theorem readVec_snapType : ((readVec (psnap + SNAP_SIZE) 2).run m).val = snapTypeAt m psnap := rfl

/-- `bsnaphdr` as a condition on the bytes. -/
def HasSnapHdr : Prop :=
  (snapAt m psnap = rtwRfc1042Header ∧ snapTypeAt m psnap ≠ SNAP_ETH_TYPE_IPX ∧
    snapTypeAt m psnap ≠ SNAP_ETH_TYPE_APPLETALK_AARP) ∨ snapAt m psnap = rtwBridgeTunnelHeader

instance : Decidable (HasSnapHdr m psnap) := inferInstanceAs (Decidable (_ ∨ _))

theorem rfc1042Snap_st : ((rfc1042Snap psnap).run m).st = m := by
  unfold rfc1042Snap
  simp only [AccessM.bind_st, AccessM.ite_run]
  split
  · simp only [AccessM.bind_st, AccessM.ite_run]
    split <;> rfl
  · rfl

theorem rfc1042Snap_val : ((rfc1042Snap psnap).run m).val = true ↔ snapAt m psnap = rtwRfc1042Header ∧
    snapTypeAt m psnap ≠ SNAP_ETH_TYPE_IPX ∧ snapTypeAt m psnap ≠ SNAP_ETH_TYPE_APPLETALK_AARP := by
  unfold rfc1042Snap
  rw [AccessM.bind_val, AccessM.ite_run, readVec_snap, readVec_st]
  by_cases hsnap : snapAt m psnap = rtwRfc1042Header
  · rw [if_pos hsnap, AccessM.bind_val, AccessM.ite_run, readVec_snapType, readVec_st]
    by_cases hipx : snapTypeAt m psnap = SNAP_ETH_TYPE_IPX
    · rw [if_pos hipx]
      simp [hipx]
    · rw [if_neg hipx, AccessM.bind_val]
      show (snapTypeAt m psnap != SNAP_ETH_TYPE_APPLETALK_AARP) = true ↔ _
      simp [hsnap, hipx]
  · rw [if_neg hsnap]
    simp [hsnap]

theorem readBsnaphdr_st : ((readBsnaphdr psnap).run m).st = m := by
  unfold readBsnaphdr
  rw [AccessM.bind_st, AccessM.ite_run, rfc1042Snap_st]
  split <;> rfl

theorem readBsnaphdr_val : ((readBsnaphdr psnap).run m).val = decide (HasSnapHdr m psnap) := by
  unfold readBsnaphdr
  rw [AccessM.bind_val, AccessM.ite_run, rfc1042Snap_st]
  by_cases h : ((rfc1042Snap psnap).run m).val = true
  · rw [if_pos h]
    exact (decide_eq_true (Or.inl ((rfc1042Snap_val m psnap).mp h))).symm
  · rw [if_neg h]
    show (snapAt m psnap == rtwBridgeTunnelHeader) = _
    rw [rfc1042Snap_val] at h
    rw [Bool.eq_iff_iff, beq_iff_eq, decide_eq_true_iff, HasSnapHdr]
    exact (or_iff_right h).symm

theorem inside_readBsnaphdr (P : ℤ → Prop) : AccessM.Inside P (readBsnaphdr psnap) m ↔
    (∀ j < SNAP_SIZE, P (psnap + (j : ℕ))) ∧
      (snapAt m psnap = rtwRfc1042Header → ∀ j < 2, P (psnap + SNAP_SIZE + (j : ℕ))) := by
  have hrfc : AccessM.Inside P (rfc1042Snap psnap) m ↔ (∀ j < SNAP_SIZE, P (psnap + (j : ℕ))) ∧
      (snapAt m psnap = rtwRfc1042Header → ∀ j < 2, P (psnap + SNAP_SIZE + (j : ℕ))) := by
    unfold rfc1042Snap
    rw [AccessM.inside_bind, AccessM.inside_ite, inside_readVec, readVec_snap, readVec_st]
    refine and_congr_right fun _ => ?_
    by_cases hsnap : snapAt m psnap = rtwRfc1042Header
    · rw [if_pos hsnap, AccessM.inside_bind, AccessM.inside_ite, inside_readVec, forall_prop_of_true hsnap]
      refine and_iff_left_of_imp fun h => ?_
      split
      · exact AccessM.inside_pure _ _ _
      · rw [AccessM.inside_bind, inside_readVec]
        exact ⟨h, AccessM.inside_pure _ _ _⟩
    · rw [if_neg hsnap]
      exact ⟨fun _ h => absurd h hsnap, fun _ => AccessM.inside_pure _ _ _⟩
  unfold readBsnaphdr
  rw [AccessM.inside_bind, AccessM.inside_ite, hrfc, rfc1042Snap_st]
  refine and_iff_left_of_imp fun h => ?_
  split
  · exact AccessM.inside_pure _ _ _
  · rw [AccessM.inside_bind, inside_readVec]
    exact ⟨h.1, AccessM.inside_pure _ _ _⟩

end Snap

/-! ## The pull -/

section Pull
variable (adapter : RtwAdapter) (data : ℤ) (f : RecvFrame) (rmvLen len : ℕ) (bsnaphdr : Bool) (m : Mem)

/-- What `recvframe_pull` is asked to take off. -/
def pullSize : ℤ :=
  if adapter.checkFwstate WIFI_MP_STATE then rmvLen - ETH_HLEN + 2 - 24
  else rmvLen - ETH_HLEN + if bsnaphdr then 2 else 0

theorem inside_putVec {n : ℕ} (P : ℤ → Prop) (p : ℤ) (v : Vector UInt8 n) :
    AccessM.Inside P (putVec p v) m :=
  AccessM.inside_modify P _ m

theorem inside_writeEthhdr (P : ℤ → Prop) (a : RxPktAttrib) (ptr : ℤ) :
    AccessM.Inside P (writeEthhdr a bsnaphdr len ptr) m := by
  unfold writeEthhdr
  rw [AccessM.inside_bind, AccessM.inside_bind, AccessM.inside_ite]
  refine ⟨inside_putVec m P _ _, inside_putVec _ P _ _, ?_⟩
  split
  · exact AccessM.inside_pure _ _ _
  · exact inside_putVec _ P _ _

theorem pullEthhdr_val : ∃ g, ((pullEthhdr adapter data f rmvLen bsnaphdr len).run m).val =
    ⟨g, rmvLen, len, (f.recvframePull (pullSize adapter rmvLen bsnaphdr)).1⟩ := by
  unfold pullEthhdr pullSize
  split
  · generalize f.recvframePull (rmvLen - ETH_HLEN + 2 - 24) = pulled
    obtain ⟨_ | ptr, g⟩ := pulled
    · exact ⟨g, rfl⟩
    · exact ⟨g, rfl⟩
  · generalize f.recvframePull (rmvLen - ETH_HLEN + if bsnaphdr then 2 else 0) = pulled
    obtain ⟨_ | ptr, g⟩ := pulled
    · exact ⟨g, rfl⟩
    · exact ⟨g, rfl⟩

theorem inside_pullEthhdr (P : ℤ → Prop) : AccessM.Inside P (pullEthhdr adapter data f rmvLen bsnaphdr len) m ↔
    (adapter.checkFwstate WIFI_MP_STATE = true → ∀ j < 24, P (f.rxHead - data + (j : ℕ))) := by
  unfold pullEthhdr
  by_cases hmp : adapter.checkFwstate WIFI_MP_STATE = true
  · generalize f.recvframePull (rmvLen - ETH_HLEN + 2 - 24) = pulled
    rw [if_pos hmp, AccessM.inside_bind, AccessM.inside_bind, inside_readVec, forall_prop_of_true hmp]
    constructor
    · intro h
      exact h.2.1
    · intro h
      refine ⟨inside_putVec m P _ _, h, ?_⟩
      obtain ⟨_ | ptr, g⟩ := pulled
      · exact AccessM.inside_pure _ _ _
      · show AccessM.Inside P (_ >>= _) _
        rw [AccessM.inside_bind, AccessM.inside_bind]
        exact ⟨inside_putVec _ P _ _, inside_writeEthhdr _ _ _ P _ _, AccessM.inside_pure _ _ _⟩
  · generalize f.recvframePull (rmvLen - ETH_HLEN + if bsnaphdr then 2 else 0) = pulled
    rw [if_neg hmp]
    refine iff_of_true ?_ fun h => absurd h hmp
    obtain ⟨_ | ptr, g⟩ := pulled
    · exact AccessM.inside_pure _ _ _
    · show AccessM.Inside P (_ >>= _) _
      rw [AccessM.inside_bind]
      exact ⟨inside_writeEthhdr _ _ _ P _ _, AccessM.inside_pure _ _ _⟩

end Pull

/-! ## The whole function -/

section Convert
variable (adapter : RtwAdapter) (f : RecvFrame)

/-- Where the payload of the 802.11 frame starts. -/
def payloadAt : ℕ := f.attrib.hdrlen + f.attrib.ivLen

/-- The encapsulation of this frame is one that is removed. -/
def bsnaphdrOf : Bool := decide (HasSnapHdr f.rxDataMem (payloadAt f))

/-- `rmv_len`. -/
def rmvLength : ℕ := payloadAt f + if bsnaphdrOf f then SNAP_SIZE else 0

/-- `hdr.len` once the ICV is off the tail; a frame shorter than its ICV keeps it. -/
def lenWithoutIcv : ℕ :=
  if f.attrib.encrypt ≠ 0 ∧ f.attrib.icvLen ≤ f.len then f.len - f.attrib.icvLen else f.len

theorem pullIcv_eq (htail : f.rxTail = f.rxData + f.len) (hlen : f.len < 2 ^ 32) :
    pullIcv f = { f with rxTail := f.rxData + lenWithoutIcv f, len := lenWithoutIcv f } := by
  unfold pullIcv lenWithoutIcv
  by_cases henc : f.attrib.encrypt ≠ 0
  · rw [if_pos henc, RecvFrame.recvframePullTail]
    by_cases hle : f.attrib.icvLen ≤ f.len
    · have hz : (f.len : ℤ) - f.attrib.icvLen = ((f.len - f.attrib.icvLen : ℕ) : ℤ) := by omega
      have ht : f.rxTail - f.attrib.icvLen = f.rxData + ((f.len - f.attrib.icvLen : ℕ) : ℤ) := by omega
      rw [if_neg (by omega), if_pos ⟨henc, hle⟩, ht, hz, uint_natCast _ (by omega)]
    · rw [if_pos (by omega), if_neg (fun h => hle h.2), ← htail]
  · rw [if_neg henc, if_neg (fun h => henc h.1), ← htail]

theorem recvframePull_setEthType (ethType : Vector UInt8 2) (sz : ℤ) :
    ((setEthType f ethType).recvframePull sz).1 = (f.recvframePull sz).1 := by
  unfold RecvFrame.recvframePull setEthType
  dsimp only
  split <;> rfl

theorem wlanhdrToEthhdr_val : ∃ g, ((wlanhdrToEthhdr adapter f).run f.rxDataMem).val =
    ⟨g, rmvLength f, u16 ((pullIcv f).len - rmvLength f),
      ((pullIcv f).recvframePull (pullSize adapter (rmvLength f) (bsnaphdrOf f))).1⟩ := by
  unfold wlanhdrToEthhdr
  rw [AccessM.bind_val, readBsnaphdr_st, readBsnaphdr_val, AccessM.bind_val]
  obtain ⟨g, hg⟩ := pullEthhdr_val adapter f.rxData
    (setEthType (pullIcv f) ((readVec (rmvLength f) 2).run f.rxDataMem).val) (rmvLength f)
    (u16 ((pullIcv f).len - rmvLength f)) (bsnaphdrOf f) f.rxDataMem
  rw [recvframePull_setEthType] at hg
  exact ⟨g, hg⟩

/-- The header, the bytes that decide the encapsulation, the type behind it and, in MP mode, the start of
the buffer are what is read. -/
theorem inside_wlanhdrToEthhdr (P : ℤ → Prop) : AccessM.Inside P (wlanhdrToEthhdr adapter f) f.rxDataMem ↔
    (∀ j < SNAP_SIZE, P (payloadAt f + (j : ℕ))) ∧
    (snapAt f.rxDataMem (payloadAt f) = rtwRfc1042Header → ∀ j < 2, P (payloadAt f + SNAP_SIZE + (j : ℕ))) ∧
    (∀ j < 2, P (rmvLength f + (j : ℕ))) ∧
    (adapter.checkFwstate WIFI_MP_STATE = true → ∀ j < 24, P ((pullIcv f).rxHead - f.rxData + (j : ℕ))) := by
  unfold wlanhdrToEthhdr
  rw [AccessM.inside_bind, readBsnaphdr_st, readBsnaphdr_val, AccessM.inside_bind, inside_readBsnaphdr,
    inside_readVec, inside_pullEthhdr, and_assoc]
  exact Iff.rfl

end Convert

end Rtl8723au
