import Rtl8723au.Recv.ShortFrames

/-! What the receive path takes from the header of a data frame: the attributes of a frame that
`validate_recv_frame` passes on depend on its bytes alone, but for the cipher. -/
namespace Rtl8723au
open Mem Wifi
set_option autoImplicit false

/-- The addresses by the direction of the frame. -/
def dataAddrs (m : Mem) (a : RxPktAttrib) : RxPktAttrib :=
  let addr := fun p => ((readVec p 6).run m).val
  let a := { a with
    dst := addr (getDa a.toFrDs), src := addr (getSa a.toFrDs), bssid := addr (getHdrBssid a.toFrDs) }
  match a.toFrDs with
  | 0 => { a with ra := a.dst, ta := a.src }
  | 1 => { a with ra := a.dst, ta := a.bssid }
  | 2 => { a with ra := a.bssid, ta := a.src }
  | _ => a

/-- The addresses, the QoS control field and the header length. -/
def dataAttrib (m : Mem) (a : RxPktAttrib) : RxPktAttrib := ((parseQc (dataAddrs m a)).run m).val

/-- The frame `validate_recv_data_frame` passes on for the station `psta`. -/
def parsedFrame (adapter : RtwAdapter) (psta : StaId) (f : RecvFrame) : RecvFrame :=
  let a := dataAttrib f.rxDataMem (dataFrame f).attrib
  { f with
    attrib := setCipher adapter psta a
    psta := some psta
    preorderCtrl := some (psta, Fin.ofNat 16 a.priority) }

section Directions
variable (adapter : RtwAdapter) (a : RxPktAttrib) (m : Mem)

theorem sta2staDataFrame_attrib (hmp : adapter.checkFwstate WIFI_MP_STATE = false) :
    ((sta2staDataFrame adapter a).run m).val.2.1 = a := by
  unfold sta2staDataFrame
  dsimp only
  rw [hmp]
  split
  · split <;> rfl
  · split
    · split <;> rfl
    · split
      · split
        · split <;> rfl
        · split <;> rfl
      · rfl

theorem ap2staDataFrame_attrib (hmp : adapter.checkFwstate WIFI_MP_STATE = false) :
    ((ap2staDataFrame adapter a).run m).val.2.1 = a := by
  unfold ap2staDataFrame
  dsimp only
  rw [hmp, Bool.false_and]
  split
  · split
    · rfl
    · generalize (if isMulticastEtherAddr a.dst = true then rtwGetBcmcStainfo adapter.stapriv
        else rtwGetStainfo adapter.stapriv (some a.bssid)) = psta
      cases psta with
      | none => rfl
      | some psta => rfl
  · rw [if_neg Bool.false_ne_true]
    split <;> rfl

theorem sta2apDataFrame_attrib : ((sta2apDataFrame adapter a).run m).val.2.1 = a := by
  unfold sta2apDataFrame
  split
  · split
    · rfl
    · cases rtwGetStainfo adapter.stapriv (some a.src) with
      | none => rfl
      | some psta => rfl
  · rfl

theorem checkDirection_attrib (hmp : adapter.checkFwstate WIFI_MP_STATE = false)
    (hdir : a.toFrDs = getTofrDs (le16 m 0)) (h : ((checkDirection adapter a).run m).val.1 = .success) :
    ((checkDirection adapter a).run m).val.2.1 = dataAddrs m a := by
  have h3 := checkDirection_success adapter a m h
  have hle : a.toFrDs ≤ 3 := hdir ▸ getTofrDs_le _
  unfold checkDirection dataAddrs toFrDsCheck
  simp only [AccessM.bind_val, readLe16_val, readLe16_st, readVec_st, ← hdir]
  obtain h0 | h0 | h0 : a.toFrDs = 0 ∨ a.toFrDs = 1 ∨ a.toFrDs = 2 := by omega
  · simp only [h0]
    exact sta2staDataFrame_attrib adapter _ m hmp
  · simp only [h0]
    exact ap2staDataFrame_attrib adapter _ m hmp
  · simp only [h0]
    exact sta2apDataFrame_attrib adapter _ m

end Directions

section Validate
variable (adapter : RtwAdapter) (f : RecvFrame)

theorem validateDataTail_parsed (a : RxPktAttrib) (psta : StaId) (m : Mem)
    (h : ((validateDataTail adapter f a psta).run m).val.1 = .success) :
    ((validateDataTail adapter f a psta).run m).val.2.1 = { f with
      attrib := setCipher adapter psta ((parseQc a).run m).val
      psta := some psta
      preorderCtrl := some (psta, Fin.ofNat 16 ((parseQc a).run m).val.priority) } := by
  unfold validateDataTail at h ⊢
  rw [AccessM.bind_val] at h ⊢
  generalize ((parseQc a).run m).val = b at h ⊢
  dsimp only at h ⊢
  generalize recvDecache _ _ = decached at h ⊢
  obtain ⟨_ | _, tidRxseq⟩ := decached
  · exact absurd h (by simp)
  · rfl

/-- **What is passed on** was parsed from the header. -/
theorem validateRecvFrame_parsed (hmp : adapter.checkFwstate WIFI_MP_STATE = false)
    (h : ((validateRecvFrame adapter f).run f.rxDataMem).val.1 = .success) :
    ∃ psta, ((validateRecvFrame adapter f).run f.rxDataMem).val.2.1 = parsedFrame adapter psta f := by
  unfold validateRecvFrame at h ⊢
  rw [AccessM.bind_val, AccessM.ite_run] at h ⊢
  split at h
  · exact absurd h (by simp)
  · rename_i hver
    rw [if_neg hver]
    simp only [AccessM.bind_val, readLe16_st, readLe16_val, read_st, dumpRxPkt_st] at h ⊢
    unfold validateByType at h ⊢
    split at h
    · exact absurd h (by simp)
    · rename_i h0
      rw [if_neg h0]
      split at h
      · exact absurd h (by simp)
      · rename_i h1
        rw [if_neg h1]
        split at h
        · rename_i h2
          rw [if_pos h2]
          have hattrib := checkDirection_attrib adapter (dataFrame f).attrib f.rxDataMem hmp rfl
          change ((validateRecvDataFrame adapter (dataFrame f)).run f.rxDataMem).val.1 = _ at h
          show ∃ psta, ((validateRecvDataFrame adapter (dataFrame f)).run f.rxDataMem).val.2.1 = _
          unfold validateRecvDataFrame at h ⊢
          rw [AccessM.bind_val, checkDirection_st] at h ⊢
          generalize ((checkDirection adapter (dataFrame f).attrib).run f.rxDataMem).val = r at h hattrib ⊢
          obtain ⟨ret, a, psta⟩ := r
          cases ret with
          | success =>
            cases psta with
            | none => exact absurd h (by simp)
            | some psta =>
              refine ⟨psta, ?_⟩
              have ha : a = dataAddrs f.rxDataMem (dataFrame f).attrib := hattrib rfl
              dsimp only at h ⊢
              rw [validateDataTail_parsed adapter _ a psta _ h, ha]
              rfl
          | fail => exact absurd h (by simp)
          | handled => exact absurd h (by simp)
        · exact absurd h (by simp)

end Validate

end Rtl8723au
