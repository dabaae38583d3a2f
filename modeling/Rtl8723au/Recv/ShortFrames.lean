import Rtl8723au.Recv.EthHdr
import Rtl8723au.Recv.Validate
import Rtl8723au.Security.DecryptBounds

/-! Which bytes of a short frame are read. `recvbuf2recvframe` delivers anything that is
not empty, and the fixed header, the QoS field, the fourth address and the SNAP header are
taken for granted on the way up. -/
namespace Rtl8723au
open Mem Wifi Security
set_option autoImplicit false

/-! ## The directions -/

section Directions
variable (adapter : RtwAdapter) (a : RxPktAttrib) (m : Mem) (n : ℕ)

/-- What `r` adds to `a` are addresses. -/
def AddrsOf (a : RxPktAttrib) (r : RxRet × RxPktAttrib × Option StaId) : Prop :=
  ∃ dst src bssid ra ta, r.2.1 = { a with dst := dst, src := src, bssid := bssid, ra := ra, ta := ta }

/-- A computation that reads nothing behind the three addresses and only sets addresses. -/
structure ReadsAddrs (a : RxPktAttrib) (c : M (RxRet × RxPktAttrib × Option StaId)) : Prop where
  inside : 24 ≤ n → AccessM.Inside (InFrame n) c m
  st : (c.run m).st = m
  addrs : AddrsOf a (c.run m).val

theorem readsAddrs_pure (ret : RxRet) (psta : Option StaId) : ReadsAddrs m n a (pure (ret, a, psta)) :=
  ⟨fun _ => AccessM.inside_pure _ _ _, rfl, ⟨a.dst, a.src, a.bssid, a.ra, a.ta, rfl⟩⟩

theorem readsAddrs_ite {c : Prop} [Decidable c] {x y : M (RxRet × RxPktAttrib × Option StaId)}
    (hx : ReadsAddrs m n a x) (hy : ReadsAddrs m n a y) : ReadsAddrs m n a (if c then x else y) := by
  split
  · exact hx
  · exact hy

theorem inFrame_of_lt (i : ℤ) (hn : 24 ≤ n) (h0 : 0 ≤ i) (h : i < 24) : InFrame n i :=
  ⟨h0, by omega⟩

theorem readsAddrs_frameControl (k : ℕ → RxRet × RxPktAttrib × Option StaId) (hk : ∀ fc, AddrsOf a (k fc)) :
    ReadsAddrs m n a (do let fc ← readLe16 0; pure (k fc)) := by
  refine ⟨fun hn => ?_, rfl, hk _⟩
  rw [AccessM.inside_bind, inside_readLe16]
  exact ⟨⟨inFrame_of_lt n _ hn (by omega) (by omega), inFrame_of_lt n _ hn (by omega) (by omega)⟩,
    AccessM.inside_pure _ _ _⟩

theorem readsAddrs_mpAddrs (k : RxPktAttrib → RxRet × RxPktAttrib × Option StaId)
    (hk : ∀ dst src bssid ra ta, AddrsOf a (k { a with dst := dst, src := src, bssid := bssid, ra := ra, ta := ta })) :
    ReadsAddrs m n a (do let b ← mpAddrs a; pure (k b)) := by
  refine ⟨fun hn => ?_, rfl, hk _ _ _ _ _⟩
  unfold mpAddrs
  simp only [AccessM.inside_bind, inside_readVec, AccessM.inside_pure, and_true, getAddr1Ptr, getAddr2Ptr,
    getAddr3Ptr]
  refine ⟨fun j hj => ?_, fun j hj => ?_, fun j hj => ?_⟩ <;>
    exact inFrame_of_lt n _ hn (by omega) (by omega)

theorem addrsOf_self (ret : RxRet) (psta : Option StaId) : AddrsOf a (ret, a, psta) :=
  ⟨a.dst, a.src, a.bssid, a.ra, a.ta, rfl⟩

theorem readsAddrs_sta2sta : ReadsAddrs m n a (sta2staDataFrame adapter a) := by
  unfold sta2staDataFrame
  refine readsAddrs_ite a m n ?_ (readsAddrs_ite a m n ?_ (readsAddrs_ite a m n ?_ (readsAddrs_ite a m n ?_ ?_)))
  · exact readsAddrs_ite a m n (readsAddrs_pure a m n _ _) (readsAddrs_pure a m n _ _)
  · exact readsAddrs_ite a m n (readsAddrs_pure a m n _ _) (readsAddrs_pure a m n _ _)
  · refine readsAddrs_ite a m n ?_ ?_
    · exact readsAddrs_ite a m n (readsAddrs_pure a m n _ _) (readsAddrs_pure a m n _ _)
    · exact readsAddrs_ite a m n (readsAddrs_pure a m n _ _) (readsAddrs_pure a m n _ _)
  · refine readsAddrs_mpAddrs a m n _ fun dst src bssid ra ta => ⟨dst, src, bssid, ra, ta, rfl⟩
  · exact readsAddrs_pure a m n _ _

theorem readsAddrs_ap2sta : ReadsAddrs m n a (ap2staDataFrame adapter a) := by
  unfold ap2staDataFrame
  refine readsAddrs_ite a m n ?_ (readsAddrs_ite a m n ?_ (readsAddrs_ite a m n ?_ ?_))
  · refine readsAddrs_ite a m n (readsAddrs_pure a m n _ _) ?_
    generalize (if isMulticastEtherAddr a.dst = true then rtwGetBcmcStainfo adapter.stapriv
      else rtwGetStainfo adapter.stapriv (some a.bssid)) = psta
    cases psta with
    | none => exact readsAddrs_pure a m n _ _
    | some psta => exact readsAddrs_frameControl a m n _ fun fc => addrsOf_self a _ _
  · refine readsAddrs_mpAddrs a m n _ fun dst src bssid ra ta => ⟨dst, src, adapter.bssid, ra, ta, rfl⟩
  · exact readsAddrs_pure a m n _ _
  · exact readsAddrs_pure a m n _ _

theorem readsAddrs_sta2ap : ReadsAddrs m n a (sta2apDataFrame adapter a) := by
  unfold sta2apDataFrame
  refine readsAddrs_ite a m n (readsAddrs_ite a m n (readsAddrs_pure a m n _ _) ?_) (readsAddrs_pure a m n _ _)
  cases rtwGetStainfo adapter.stapriv (some a.src) with
  | none => exact readsAddrs_pure a m n _ _
  | some psta => exact readsAddrs_frameControl a m n _ fun fc => addrsOf_self a _ _

theorem ReadsAddrs.weaken {b : RxPktAttrib} {c : M (RxRet × RxPktAttrib × Option StaId)}
    (h : ReadsAddrs m n b c) (hb : AddrsOf a (.success, b, none)) : ReadsAddrs m n a c := by
  obtain ⟨dst, src, bssid, ra, ta, hval⟩ := h.addrs
  obtain ⟨dst', src', bssid', ra', ta', hb⟩ := hb
  refine ⟨h.inside, h.st, dst, src, bssid, ra, ta, hval.trans ?_⟩
  simp only at hb
  rw [hb]

theorem readsAddrs_toFrDsCheck : ReadsAddrs m n a (toFrDsCheck adapter a) := by
  unfold toFrDsCheck
  split
  · exact (readsAddrs_sta2sta adapter _ m n).weaken a m n ⟨_, _, _, _, _, rfl⟩
  · exact (readsAddrs_ap2sta adapter _ m n).weaken a m n ⟨_, _, _, _, _, rfl⟩
  · exact (readsAddrs_sta2ap adapter _ m n).weaken a m n ⟨_, _, _, _, _, rfl⟩
  · refine ⟨fun hn => ?_, rfl, ⟨_, _, _, _, _, rfl⟩⟩
    simp only [AccessM.inside_bind, inside_readVec, AccessM.inside_pure, and_true, getAddr1Ptr, getAddr2Ptr]
    refine ⟨fun j hj => ?_, fun j hj => ?_⟩ <;> exact inFrame_of_lt n _ hn (by omega) (by omega)
  · exact readsAddrs_pure a m n _ _

theorem getTofrDs_le (fc : ℕ) : getTofrDs fc ≤ 3 := by
  unfold getTofrDs
  cases getToDs fc <;> cases getFrDs fc <;> decide

theorem addressOffsets (toFrDs : ℕ) (h : toFrDs ≤ 3) :
    (getDa toFrDs = 4 ∨ getDa toFrDs = 16) ∧
    (getSa toFrDs = 10 ∨ getSa toFrDs = 16 ∨ toFrDs = 3 ∧ getSa toFrDs = 24) ∧
    (getHdrBssid toFrDs = 4 ∨ getHdrBssid toFrDs = 10 ∨ getHdrBssid toFrDs = 16) := by
  interval_cases toFrDs <;> simp [getDa, getSa, getHdrBssid, getAddr1Ptr, getAddr2Ptr, getAddr3Ptr, getAddr4Ptr]

theorem inside_checkDirection (hn : 24 ≤ n) : AccessM.Inside (InFrame n) (checkDirection adapter a) m ↔
    (getTofrDs (le16 m 0) = 3 → 30 ≤ n) := by
  obtain ⟨hda, hsa, hbssid⟩ := addressOffsets (getTofrDs (le16 m 0)) (getTofrDs_le _)
  unfold checkDirection
  simp only [AccessM.inside_bind, inside_readLe16, readLe16_val, readLe16_st, inside_readVec, readVec_st]
  constructor
  · rintro ⟨-, -, hsrc, -⟩ h3
    have h := (hsrc 5 (by norm_num)).2
    rw [h3] at h
    simp only [getSa, getAddr4Ptr] at h
    omega
  · intro h
    refine ⟨⟨inFrame_of_lt n _ hn (by omega) (by omega), inFrame_of_lt n _ hn (by omega) (by omega)⟩,
      fun j hj => ⟨by omega, by omega⟩, fun j hj => ⟨by omega, ?_⟩, fun j hj => ⟨by omega, by omega⟩,
      (readsAddrs_toFrDsCheck adapter _ m n).inside hn⟩
    obtain hs | hs | ⟨h3, hs⟩ := hsa
    · omega
    · omega
    · have h30 := h h3
      omega

theorem checkDirection_st : ((checkDirection adapter a).run m).st = m :=
  (readsAddrs_toFrDsCheck adapter _ m 0).st

theorem checkDirection_addrs : AddrsOf a ((checkDirection adapter a).run m).val := by
  obtain ⟨dst, src, bssid, ra, ta, h⟩ := (readsAddrs_toFrDsCheck adapter { a with
    dst := ((readVec (getDa (getTofrDs (le16 m 0))) 6).run m).val
    src := ((readVec (getSa (getTofrDs (le16 m 0))) 6).run m).val
    bssid := ((readVec (getHdrBssid (getTofrDs (le16 m 0))) 6).run m).val } m 0).addrs
  exact ⟨dst, src, bssid, ra, ta, h⟩

theorem checkDirection_success (h : ((checkDirection adapter a).run m).val.1 = .success) : a.toFrDs ≠ 3 := by
  intro h3
  unfold checkDirection toFrDsCheck at h
  simp only [AccessM.bind_val, h3] at h
  exact absurd h (by simp)

end Directions

/-! ## Data frames -/

section Data
variable (adapter : RtwAdapter) (f : RecvFrame) (m : Mem) (n : ℕ)

theorem inside_parseQc (a : RxPktAttrib) :
    AccessM.Inside (InFrame n) (parseQc a) m ↔ (a.qos = true → 26 ≤ n) := by
  unfold parseQc
  simp only
  by_cases hq : a.qos = true
  · rw [if_pos hq, forall_prop_of_true hq]
    simp only [AccessM.inside_bind, inside_readLe16, AccessM.inside_pure, and_true, InFrame]
    omega
  · rw [if_neg hq]
    simp only [AccessM.inside_bind, AccessM.inside_pure, and_true, true_iff]
    intro h
    exact absurd h hq

theorem inside_validateDataTail (a : RxPktAttrib) (psta : StaId) :
    AccessM.Inside (InFrame n) (validateDataTail adapter f a psta) m ↔ (a.qos = true → 26 ≤ n) := by
  unfold validateDataTail
  rw [AccessM.inside_bind, inside_parseQc m n a]
  refine and_iff_left ?_
  generalize recvDecache _ _ = decached
  obtain ⟨_ | _, tidRxseq⟩ := decached
  · exact AccessM.inside_pure _ _ _
  · exact AccessM.inside_pure _ _ _

/-- The direction is one the adapter takes frames from, and the station is known. -/
def DirectionAccepted : Prop :=
  ((checkDirection adapter f.attrib).run m).val.1 = .success ∧
    ((checkDirection adapter f.attrib).run m).val.2.2 ≠ none

theorem inside_validateRecvDataFrame (hn : 24 ≤ n) :
    AccessM.Inside (InFrame n) (validateRecvDataFrame adapter f) m ↔ (getTofrDs (le16 m 0) = 3 → 30 ≤ n) ∧
      (DirectionAccepted adapter f m → f.attrib.qos = true → 26 ≤ n) := by
  have haddrs := checkDirection_addrs adapter f.attrib m
  unfold validateRecvDataFrame DirectionAccepted
  rw [AccessM.inside_bind, inside_checkDirection adapter f.attrib m n hn, checkDirection_st]
  refine and_congr_right fun _ => ?_
  generalize ((checkDirection adapter f.attrib).run m).val = r at haddrs ⊢
  obtain ⟨ret, a, psta⟩ := r
  obtain ⟨dst, src, bssid, ra, ta, ha⟩ := haddrs
  simp only at ha
  cases ret with
  | success =>
    cases psta with
    | none => simp
    | some psta =>
      rw [inside_validateDataTail adapter f m n a psta, ha]
      simp
  | fail => simp
  | handled => simp

/-- A frame that is passed on has the lengths of its header and cipher, and its buffer where it was. -/
structure PassedOn (f g : RecvFrame) : Prop where
  lengths : ValidatedLengths g.attrib
  len : g.len = f.len
  rxHead : g.rxHead = f.rxHead
  rxData : g.rxData = f.rxData
  rxTail : g.rxTail = f.rxTail

theorem parseQc_hdrlen (a : RxPktAttrib) (h3 : a.toFrDs ≠ 3) : ((parseQc a).run m).val.hdrlen = 24 ∨
    ((parseQc a).run m).val.hdrlen = 26 ∨ ((parseQc a).run m).val.hdrlen = 28 ∨
    ((parseQc a).run m).val.hdrlen = 30 := by
  unfold parseQc
  cases hq : a.qos <;> cases a.order <;> simp [h3]

theorem setCipher_lengths (psta : StaId) (a : RxPktAttrib)
    (h : a.hdrlen = 24 ∨ a.hdrlen = 26 ∨ a.hdrlen = 28 ∨ a.hdrlen = 30) :
    ValidatedLengths (setCipher adapter psta a) := by
  unfold setCipher
  split
  · exact ⟨h, rfl⟩
  · exact ⟨h, rfl⟩

theorem validateDataTail_success (a : RxPktAttrib) (psta : StaId) (h3 : a.toFrDs ≠ 3)
    (h : ((validateDataTail adapter f a psta).run m).val.1 = .success) :
    PassedOn f ((validateDataTail adapter f a psta).run m).val.2.1 := by
  have hhdr := parseQc_hdrlen m a h3
  unfold validateDataTail at h ⊢
  rw [AccessM.bind_val] at h ⊢
  generalize ((parseQc a).run m).val = b at h hhdr ⊢
  simp only at h ⊢
  generalize recvDecache _ _ = decached at h ⊢
  obtain ⟨_ | _, tidRxseq⟩ := decached
  · exact absurd h (by simp)
  · exact ⟨setCipher_lengths adapter psta b hhdr, rfl, rfl, rfl, rfl⟩

theorem validateRecvDataFrame_success
    (h : ((validateRecvDataFrame adapter f).run m).val.1 = .success) :
    PassedOn f ((validateRecvDataFrame adapter f).run m).val.2.1 := by
  have haddrs := checkDirection_addrs adapter f.attrib m
  have h3 := checkDirection_success adapter f.attrib m
  unfold validateRecvDataFrame at h ⊢
  rw [AccessM.bind_val] at h ⊢
  generalize ((checkDirection adapter f.attrib).run m).val = r at h haddrs h3 ⊢
  obtain ⟨ret, a, psta⟩ := r
  obtain ⟨dst, src, bssid, ra, ta, ha⟩ := haddrs
  simp only at ha h3
  cases ret with
  | success =>
    cases psta with
    | none => exact absurd h (by simp)
    | some psta => exact validateDataTail_success adapter f _ a psta (by rw [ha]; exact h3 rfl) h
  | fail => exact absurd h (by simp)
  | handled => exact absurd h (by simp)

end Data

/-! ## All frames -/

section Validate
variable (adapter : RtwAdapter) (f : RecvFrame)

/-- The type of the frame, from its first byte. -/
def frameType : ℕ := getFrameType (le16 f.rxDataMem 0)

/-- `ver`: any version but zero is refused. -/
def version : UInt8 := f.rxDataMem 0 &&& 0x3

/-- The frame as `validate_recv_data_frame` takes it over. -/
def dataFrame : RecvFrame :=
  let fc := le16 f.rxDataMem 0
  { f with attrib := { headerAttrib f.attrib fc (le16 f.rxDataMem 22) with
      qos := getFrameSubType fc &&& 0x80 != 0 } }

/-- The frame is as long as validation takes it to be. -/
structure FitsValidate : Prop where
  header : 24 ≤ f.len
  dump : dumps adapter (frameType f) = true → 64 ≤ f.len
  address4 : frameType f = WIFI_DATA_TYPE → (dataFrame f).attrib.toFrDs = 3 → 30 ≤ f.len
  qc : frameType f = WIFI_DATA_TYPE → DirectionAccepted adapter (dataFrame f) f.rxDataMem →
    (dataFrame f).attrib.qos = true → 26 ≤ f.len

theorem inside_address (n : ℕ) (hn : 24 ≤ n) (i : ℤ) (h0 : 0 ≤ i) (h18 : i ≤ 18) :
    ∀ j < 6, InFrame n (i + (j : ℕ)) :=
  fun j hj => inFrame_of_lt n _ hn (by omega) (by omega)

theorem inside_field (n : ℕ) (hn : 24 ≤ n) (i : ℤ) (h0 : 0 ≤ i) (h22 : i ≤ 22) :
    InFrame n i ∧ InFrame n (i + 1) :=
  ⟨inFrame_of_lt n _ hn h0 (by omega), inFrame_of_lt n _ hn (by omega) (by omega)⟩

theorem inside_mgntStatistics (m : Mem) (n : ℕ) (hn : 24 ≤ n) :
    AccessM.Inside (InFrame n) (mgntStatistics adapter) m := by
  unfold mgntStatistics
  rw [AccessM.inside_bind, inside_readVec]
  refine ⟨inside_address n hn _ (by decide) (by decide), ?_⟩
  split
  · exact AccessM.inside_pure _ _ _
  · rw [AccessM.inside_bind, inside_readLe16]
    refine ⟨inside_field n hn 0 (by omega) (by omega), ?_⟩
    split
    · rw [AccessM.inside_bind, inside_readVec]
      exact ⟨inside_address n hn _ (by decide) (by decide), AccessM.inside_pure _ _ _⟩
    · exact AccessM.inside_pure _ _ _

theorem inside_validateRecvMgntFrame (a : RxPktAttrib) (m : Mem) (n : ℕ) (hn : 24 ≤ n) :
    AccessM.Inside (InFrame n) (validateRecvMgntFrame adapter a) m := by
  unfold validateRecvMgntFrame
  rw [AccessM.inside_bind, AccessM.inside_ite]
  constructor
  · unfold chkDefragType
    split
    · rw [AccessM.inside_touch]
      simpa using inside_field n hn 0 (by omega) (by omega)
    · exact AccessM.inside_pure _ _ _
  · split
    · exact AccessM.inside_pure _ _ _
    · exact inside_mgntStatistics adapter _ n hn

theorem inside_validateRecvCtrlFrame (m : Mem) (n : ℕ) (hn : 24 ≤ n) :
    AccessM.Inside (InFrame n) (validateRecvCtrlFrame adapter) m := by
  unfold validateRecvCtrlFrame
  rw [AccessM.inside_bind, inside_readLe16]
  refine ⟨inside_field n hn 0 (by omega) (by omega), ?_⟩
  split
  · exact AccessM.inside_pure _ _ _
  · rw [AccessM.inside_bind, inside_readVec]
    refine ⟨inside_address n hn _ (by decide) (by decide), ?_⟩
    split
    · exact AccessM.inside_pure _ _ _
    · split
      · rw [AccessM.inside_bind, AccessM.inside_bind, inside_readLe16, inside_readVec]
        exact ⟨inside_field n hn 2 (by omega) (by omega), inside_address n hn _ (by decide) (by decide),
          AccessM.inside_pure _ _ _⟩
      · exact AccessM.inside_pure _ _ _

theorem inside_dumpRxPkt (type n : ℕ) (m : Mem) : AccessM.Inside (InFrame n) (dumpRxPkt adapter type) m ↔
    (dumps adapter type = true → 64 ≤ n) := by
  unfold dumpRxPkt
  by_cases hd : dumps adapter type = true
  · rw [if_pos hd, AccessM.inside_touch, forall_prop_of_true hd]
    simp only [List.mem_map, List.mem_range, InFrame]
    constructor
    · intro h
      have h63 := h 63 ⟨63, by norm_num, rfl⟩
      omega
    · rintro h i ⟨j, hj, rfl⟩
      omega
  · rw [if_neg hd]
    exact iff_of_true (AccessM.inside_pure _ _ _) fun h => absurd h hd

theorem dumpRxPkt_st (type : ℕ) (m : Mem) : ((dumpRxPkt adapter type).run m).st = m := by
  unfold dumpRxPkt
  split <;> rfl

/-- What the `switch` on the type reads beyond the fixed header. -/
theorem inside_validateByType (g : RecvFrame) (fc n : ℕ) (m : Mem) (hn : 24 ≤ n) :
    AccessM.Inside (InFrame n) (validateByType adapter g fc) m ↔ (getFrameType fc = WIFI_DATA_TYPE →
      (getTofrDs (le16 m 0) = 3 → 30 ≤ n) ∧
      (DirectionAccepted adapter
        { g with attrib := { g.attrib with qos := getFrameSubType fc &&& 0x80 != 0 } } m →
        (getFrameSubType fc &&& 0x80 != 0) = true → 26 ≤ n)) := by
  have hmgt : WIFI_MGT_TYPE ≠ WIFI_DATA_TYPE := by decide
  have hctrl : WIFI_CTRL_TYPE ≠ WIFI_DATA_TYPE := by decide
  unfold validateByType
  by_cases h0 : getFrameType fc = WIFI_MGT_TYPE
  · rw [if_pos h0, AccessM.inside_bind, and_iff_left (AccessM.inside_pure _ _ _)]
    exact iff_of_true (inside_validateRecvMgntFrame adapter _ m n hn)
      fun h => absurd (h0.symm.trans h) hmgt
  · rw [if_neg h0]
    by_cases h1 : getFrameType fc = WIFI_CTRL_TYPE
    · rw [if_pos h1, AccessM.inside_bind, and_iff_left (AccessM.inside_pure _ _ _)]
      exact iff_of_true (inside_validateRecvCtrlFrame adapter m n hn)
        fun h => absurd (h1.symm.trans h) hctrl
    · rw [if_neg h1]
      by_cases h2 : getFrameType fc = WIFI_DATA_TYPE
      · rw [if_pos h2, forall_prop_of_true h2, inside_validateRecvDataFrame adapter _ m n hn]
      · rw [if_neg h2]
        exact iff_of_true (AccessM.inside_pure _ _ _) fun h => absurd h h2

theorem inside_validateRecvFrame (hlen : 1 ≤ f.len) :
    AccessM.Inside (InFrame f.len) (validateRecvFrame adapter f) f.rxDataMem ↔
      version f ≠ 0 ∨ FitsValidate adapter f := by
  unfold validateRecvFrame
  rw [AccessM.inside_bind, inside_read, AccessM.inside_ite, read_val, read_st]
  by_cases hver : f.rxDataMem 0 &&& 0x3 ≠ 0
  · rw [if_pos hver]
    exact iff_of_true ⟨⟨by omega, by omega⟩, AccessM.inside_pure _ _ _⟩ (.inl hver)
  · rw [if_neg hver, AccessM.inside_bind, AccessM.inside_bind, AccessM.inside_bind, inside_readLe16,
      inside_readLe16, inside_dumpRxPkt, dumpRxPkt_st]
    have hor : (version f ≠ 0 ∨ FitsValidate adapter f) ↔ FitsValidate adapter f := or_iff_right hver
    rw [hor]
    constructor
    · rintro ⟨-, -, hsc, hdump, htype⟩
      have h24 : 24 ≤ f.len := by
        have := hsc.2.2
        omega
      have hdata := (inside_validateByType adapter _ _ f.len f.rxDataMem h24).mp htype
      exact ⟨h24, hdump, fun h2 => (hdata h2).1, fun h2 => (hdata h2).2⟩
    · intro hfit
      refine ⟨⟨by omega, by omega⟩, inside_field _ hfit.header 0 (by omega) (by omega),
        inside_field _ hfit.header 22 (by omega) (by omega), hfit.dump, ?_⟩
      exact (inside_validateByType adapter _ _ f.len f.rxDataMem hfit.header).mpr
        fun h2 => ⟨hfit.address4 h2, hfit.qc h2⟩

theorem validateRecvFrame_success
    (h : ((validateRecvFrame adapter f).run f.rxDataMem).val.1 = .success) :
    PassedOn f ((validateRecvFrame adapter f).run f.rxDataMem).val.2.1 := by
  unfold validateRecvFrame at h ⊢
  rw [AccessM.bind_val, AccessM.ite_run] at h ⊢
  split at h
  · exact absurd h (by simp)
  · rename_i hver
    rw [if_neg hver]
    simp only [AccessM.bind_val, readLe16_st, readLe16_val, read_st, dumpRxPkt_st] at h ⊢
    unfold validateByType at h ⊢
    split at h
    · exact absurd h (by simp)
    · rename_i h0
      rw [if_neg h0]
      split at h
      · exact absurd h (by simp)
      · rename_i h1
        rw [if_neg h1]
        split at h
        · rename_i h2
          rw [if_pos h2]
          have hp := validateRecvDataFrame_success adapter _ _ h
          exact ⟨hp.lengths, hp.len, hp.rxHead, hp.rxData, hp.rxTail⟩
        · exact absurd h (by simp)

end Validate

/-! ## The Ethernet header -/

section Convert
variable (adapter : RtwAdapter) (f : RecvFrame)

/-- `wlanhdr_to_ethhdr` does to a packet of `n` bytes what it should: every byte it reads is one of them,
its sixteen-bit length is the difference it is computed from, and there is room for the header. -/
structure EthhdrSafe (n : ℕ) : Prop where
  inside : AccessM.Inside (InFrame n) (wlanhdrToEthhdr adapter f) f.rxDataMem
  len_exact : (((wlanhdrToEthhdr adapter f).run f.rxDataMem).val.len : ℤ) =
    (pullIcv f).len - ((wlanhdrToEthhdr adapter f).run f.rxDataMem).val.rmvLen
  ptr : ((wlanhdrToEthhdr adapter f).run f.rxDataMem).val.ptr ≠ none

/-- The frame is as long as `wlanhdr_to_ethhdr` takes it to be. -/
structure FitsEthhdr : Prop where
  snap : payloadAt f + 6 ≤ f.len
  snapType : snapAt f.rxDataMem (payloadAt f) = rtwRfc1042Header ∨
    snapAt f.rxDataMem (payloadAt f) = rtwBridgeTunnelHeader → payloadAt f + 8 ≤ f.len
  icv : rmvLength f ≤ lenWithoutIcv f

theorem u16_exact_iff (n r : ℕ) (hn : n < 2 ^ 16) (hr : r ≤ 100) :
    ((u16 ((n : ℤ) - r) : ℕ) : ℤ) = (n : ℤ) - r ↔ r ≤ n := by
  have h0 := Int.emod_nonneg ((n : ℤ) - r) (by norm_num : (2 : ℤ) ^ 16 ≠ 0)
  unfold u16
  rw [Int.toNat_of_nonneg h0]
  omega

theorem rmvLength_cases : (bsnaphdrOf f = true ∧ rmvLength f = payloadAt f + 6) ∨
    (bsnaphdrOf f = false ∧ rmvLength f = payloadAt f) := by
  unfold rmvLength
  cases bsnaphdrOf f
  · exact .inr ⟨rfl, rfl⟩
  · exact .inl ⟨rfl, rfl⟩

theorem bsnaphdrOf_true (h : bsnaphdrOf f = true) :
    snapAt f.rxDataMem (payloadAt f) = rtwRfc1042Header ∨
      snapAt f.rxDataMem (payloadAt f) = rtwBridgeTunnelHeader := by
  obtain ⟨hrfc, -⟩ | hbridge := of_decide_eq_true h
  · exact .inl hrfc
  · exact .inr hbridge

theorem ValidatedLengths.payloadAt_bounds (h : ValidatedLengths f.attrib) :
    24 ≤ payloadAt f ∧ payloadAt f ≤ 48 := by
  obtain ⟨hlo, hhi⟩ := h.bounds
  have hiv : f.attrib.ivLen ≤ 18 := by
    have := congrArg Prod.fst h.iceIvLen
    simp only at this
    rw [this]
    unfold setIceIvLen
    split <;> simp
  unfold payloadAt
  omega

theorem pullSize_le (r : ℕ) (b : Bool) : pullSize adapter r b ≤ r - 12 := by
  have hE : (ETH_HLEN : ℤ) = 14 := rfl
  unfold pullSize
  split
  · omega
  · split <;> omega

/-- Conversion is safe exactly for frames that are as long as it takes them to be. -/
theorem ethhdrSafe_iff (hv : ValidatedLengths f.attrib) (hhead : f.rxHead = f.rxData)
    (htail : f.rxTail = f.rxData + f.len) (hlen : f.len < 2 ^ 14) :
    EthhdrSafe adapter f f.len ↔ FitsEthhdr f := by
  obtain ⟨hlo, hhi⟩ := ValidatedLengths.payloadAt_bounds f hv
  have hpull := pullIcv_eq f htail (by omega)
  have hle : lenWithoutIcv f ≤ f.len := by
    unfold lenWithoutIcv
    split <;> omega
  have hrmv := rmvLength_cases f
  obtain ⟨g, hval⟩ := wlanhdrToEthhdr_val adapter f
  have hlenIff := u16_exact_iff (lenWithoutIcv f) (rmvLength f) (by omega) (by omega)
  constructor
  · rintro ⟨hin, hexact, -⟩
    rw [inside_wlanhdrToEthhdr] at hin
    obtain ⟨hsnap, htype, hrest, -⟩ := hin
    rw [hval, hpull] at hexact
    have h5 := (hsnap 5 (by norm_num)).2
    refine ⟨by omega, ?_, hlenIff.mp hexact⟩
    rintro (hrfc | hbridge)
    · have h1 := (htype hrfc 1 (by norm_num)).2
      simp only [SNAP_SIZE] at h1
      omega
    · have hb : bsnaphdrOf f = true := decide_eq_true (Or.inr hbridge)
      have h1 := (hrest 1 (by norm_num)).2
      simp only [hb, Bool.true_eq_false, false_and, or_false, true_and] at hrmv
      omega
  · rintro ⟨hsnap, htype, hicv⟩
    have htwo : rmvLength f + 2 ≤ f.len := by
      obtain ⟨hb, hr⟩ | ⟨-, hr⟩ := hrmv
      · have := htype (bsnaphdrOf_true f hb)
        omega
      · omega
    refine ⟨?_, ?_, ?_⟩
    · rw [inside_wlanhdrToEthhdr, hpull]
      have hS : SNAP_SIZE = 6 := rfl
      refine ⟨fun j hj => ⟨by omega, by omega⟩, fun hrfc j hj => ?_, fun j hj => ⟨by omega, by omega⟩,
        fun _ j hj => ⟨by simp only [hhead]; omega, by simp only [hhead]; omega⟩⟩
      have := htype (.inl hrfc)
      exact ⟨by simp only [SNAP_SIZE]; omega, by simp only [SNAP_SIZE]; omega⟩
    · rw [hval, hpull]
      exact hlenIff.mpr hicv
    · rw [hval, hpull]
      have hsize := pullSize_le adapter (rmvLength f) (bsnaphdrOf f)
      show (RecvFrame.recvframePull _ _).1 ≠ none
      rw [ne_eq, RecvFrame.recvframePull_none]
      simp only
      omega

end Convert

/-! ## A received packet -/

/-- A frame as `recvbuf2recvframe` delivers it, with a length of fourteen bits from the descriptor. -/
structure Delivered (f : RecvFrame) : Prop where
  head : f.rxHead = f.rxData
  tail : f.rxTail = f.rxData + f.len
  pos : 1 ≤ f.len
  lt : f.len < 2 ^ 14

section Packet
variable (adapter later : RtwAdapter) (message : Mem) (f : RecvFrame)

/-- `g` is the frame that passed validation and decryption. It may have waited for its keys in
`uc_swdec_pending_queue`, so that it is decrypted in a `later` state. -/
def Passes (g : RecvFrame) : Prop :=
  ((validateRecvFrame adapter f).run f.rxDataMem).val.1 = .success ∧
    (decryptor later ((validateRecvFrame adapter f).run f.rxDataMem).val.2.1 message).returnPacket = some g

/-- Nothing behind the packet is read on its way up, and its Ethernet header has a place. -/
structure StaysInPacket : Prop where
  validate : AccessM.Inside (InFrame f.len) (validateRecvFrame adapter f) f.rxDataMem
  ethhdr : ∀ g, Passes adapter later message f g → EthhdrSafe later g f.len

theorem PassedOn.decryptor {g g' : RecvFrame} (h : PassedOn f g)
    (hr : (decryptor later g message).returnPacket = some g') : PassedOn f g' := by
  have hkey : ∀ k m, PassedOn f ({ g with attrib := { g.attrib with keyIndex := k } }.setRxDataMem m) :=
    fun k m => ⟨⟨h.lengths.hdrlen, h.lengths.iceIvLen⟩, h.len, h.rxHead, h.rxData, h.rxTail⟩
  have hkey' : ∀ k, PassedOn f { g with attrib := { g.attrib with keyIndex := k } } :=
    fun k => ⟨⟨h.lengths.hdrlen, h.lengths.iceIvLen⟩, h.len, h.rxHead, h.rxData, h.rxTail⟩
  unfold Security.decryptor at hr
  simp only at hr
  split at hr
  · split at hr
    · rw [← Option.some.inj hr]
      exact hkey _ _
    · exact absurd hr (by simp)
  · split at hr
    · rw [← Option.some.inj hr]
      exact hkey' _
    · rw [← Option.some.inj hr]
      exact hkey' _

theorem Passes.passedOn {g : RecvFrame} (h : Passes adapter later message f g) : PassedOn f g :=
  (validateRecvFrame_success adapter f h.1).decryptor later message f h.2

/-- **A received packet is not read past its end**, and finds room for its Ethernet header, exactly when it
is as long as validation and, once decrypted, the conversion take it to be. -/
theorem staysInPacket_iff (hf : Delivered f) : StaysInPacket adapter later message f ↔
    (version f ≠ 0 ∨ FitsValidate adapter f) ∧ ∀ g, Passes adapter later message f g → FitsEthhdr g := by
  have hconv : ∀ g, Passes adapter later message f g → (EthhdrSafe later g f.len ↔ FitsEthhdr g) := by
    intro g hg
    have hp := hg.passedOn
    have hlen := hp.len
    rw [← hlen]
    exact ethhdrSafe_iff later g hp.lengths (by rw [hp.rxHead, hp.rxData, hf.head])
      (by rw [hp.rxTail, hp.rxData, hlen, hf.tail]) (by rw [hlen]; exact hf.lt)
  constructor
  · rintro ⟨hval, heth⟩
    exact ⟨(inside_validateRecvFrame adapter f hf.pos).mp hval, fun g hg => (hconv g hg).mp (heth g hg)⟩
  · rintro ⟨hval, heth⟩
    exact ⟨(inside_validateRecvFrame adapter f hf.pos).mpr hval, fun g hg => (hconv g hg).mpr (heth g hg)⟩

theorem fitsValidate_of_long (h : 70 ≤ f.len) : FitsValidate adapter f :=
  ⟨by omega, fun _ => by omega, fun _ _ => by omega, fun _ _ _ => by omega⟩

theorem fitsEthhdr_of_long (hv : ValidatedLengths f.attrib) (h : 70 ≤ f.len) : FitsEthhdr f := by
  obtain ⟨hlo, hhi⟩ := ValidatedLengths.payloadAt_bounds f hv
  have hrmv := rmvLength_cases f
  have hicv : f.attrib.icvLen ≤ 16 := by
    have := congrArg Prod.snd hv.iceIvLen
    simp only at this
    rw [this]
    unfold setIceIvLen
    split <;> simp
  have hlen : 54 ≤ lenWithoutIcv f := by
    unfold lenWithoutIcv
    split <;> omega
  exact ⟨by omega, fun _ => by omega, by omega⟩

end Packet

def zeroPacket (len : ℕ) : RecvFrame where
  mem := fun _ => 0
  len := len
  rxHead := 0
  rxData := 0
  rxTail := len
  rxEnd := len

theorem delivered_zeroPacket (len : ℕ) (hpos : 1 ≤ len) (hlt : len < 2 ^ 14) : Delivered (zeroPacket len) :=
  ⟨rfl, by simp [zeroPacket], hpos, hlt⟩

theorem staysInPacket_zeroPacket : StaysInPacket {} {} (fun _ => 0) (zeroPacket 100) :=
  (staysInPacket_iff {} {} (fun _ => 0) (zeroPacket 100)
    (delivered_zeroPacket 100 (by norm_num) (by norm_num))).mpr
    ⟨.inr (fitsValidate_of_long {} _ (by decide)), fun g hg =>
      fitsEthhdr_of_long g hg.passedOn.lengths (hg.passedOn.len.symm ▸ by decide)⟩

/-- Of a packet of one byte the whole header is read. -/
theorem not_staysInPacket_short : ¬ ∀ (adapter later : RtwAdapter) (message : Mem) (f : RecvFrame),
    Delivered f → StaysInPacket adapter later message f := by
  intro h
  have hstay := h {} {} (fun _ => 0) (zeroPacket 1) (delivered_zeroPacket 1 (by norm_num) (by norm_num))
  obtain hver | hfit := (inside_validateRecvFrame {} (zeroPacket 1) (by decide)).mp hstay.validate
  · exact hver (by decide)
  · exact absurd hfit.header (by decide)

end Rtl8723au
