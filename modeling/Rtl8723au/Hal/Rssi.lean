import Rtl8723au.Library.CheckedArith
import Mathlib.Data.List.Basic

/-! The smoothed signal strength of a station: `odm_Process_RSSIForDM` of `hal/odm_HWConfig.c`, from the entry that
`rtw_alloc_stainfo` leaves. -/
namespace Rtl8723au
namespace Rssi
open CheckedArith
set_option autoImplicit false

def DESC92C_RATE11M : UInt8 := 0x03
def Rx_Smooth_Factor : ℤ := 20

/-- `RSSI_STA`. -/
structure RssiSta where
  undecoratedSmoothedPWDB : ℤ := 0
  undecoratedSmoothedCCK : ℤ := 0
  undecoratedSmoothedOFDM : ℤ := 0
  packetMap : BitVec 64 := 0
  validBit : ℤ := 0

/-- `rssi_stat` behind `_rtw_init_stainfo`, which clears the entry. -/
def rtwInitStainfo : RssiSta := {}

/-- `rssi_stat` behind `rtw_alloc_stainfo`; the OFDM average is not among the fields it sets. -/
def rtwAllocStainfo : RssiSta :=
  { rtwInitStainfo with undecoratedSmoothedPWDB := -1, undecoratedSmoothedCCK := -1 }

/-- A received packet: what `odm_Process_RSSIForDM` reads of `ODM_PHY_INFO_T` and `ODM_PACKET_INFO_T`. -/
structure Packet where
  rxPWDBAll : UInt8
  pathA : UInt8
  pathB : UInt8
  rate : UInt8
  stationID : UInt8
  bPacketMatchBSSID : Bool
  bPacketToSelf : Bool
  bPacketBeacon : Bool

def Packet.isCCKrate (p : Packet) : Bool := p.rate ≤ DESC92C_RATE11M

def Packet.strength (p : Packet) : ℤ := p.rxPWDBAll.toNat

/-! ## The function -/

/-- `RSSI_Ave` of an OFDM packet, from the strengths of the two paths. -/
def rssiAve (pathA pathB : ℤ) : Arith ℤ :=
  if pathB = 0 then pure pathA
  else do
    let rssiMax := if pathB < pathA then pathA else pathB
    let rssiMin := if pathB < pathA then pathB else pathA
    let difference ← result s32 (rssiMax - rssiMin)
    if difference < 3 then pure rssiMax
    else if difference < 6 then result s32 (rssiMax - 1)
    else if difference < 10 then result s32 (rssiMax - 2)
    else result s32 (rssiMax - 3)

/-- One step of an average. The comparison is of unsigned numbers. -/
def smooth (average rxPWDBAll x : ℤ) : Arith ℤ :=
  if average ≤ 0 then pure rxPWDBAll
  else do
    let factor ← result s32 (Rx_Smooth_Factor - 1)
    let weighted ← result s32 (average * factor)
    let sum ← result s32 (weighted + x)
    let quotient ← result s32 (sum.tdiv Rx_Smooth_Factor)
    if u32.wrap average < rxPWDBAll then result s32 (quotient + 1) else pure quotient

/-- The loop that counts the OFDM packets in the low bits of `PacketMap`. -/
def ofdmPkt (packetMap : BitVec 64) : ℕ → Arith ℤ
  | 0 => pure 0
  | i + 1 => do
    let n ← ofdmPkt packetMap i
    result u32 (n + ((packetMap >>> i).setWidth 8 &&& 1).toNat)

/-- The average of both kinds once `PacketMap` is full. The operands of a product are unsigned; what is kept is the
product of the signed average, so a negative one with any weight would show. -/
def weighted64 (ofdmPkt ofdm cck : ℤ) : Arith ℤ := do
  let shifted ← result u32 (ofdmPkt * 16)
  let weighting := if 64 < shifted then 64 else shifted
  let ofdmPart ← result u32 (weighting * ofdm)
  let rest ← result u32 (64 - weighting)
  let cckPart ← result u32 (rest * cck)
  let sum ← result u32 (ofdmPart + cckPart)
  let quotient ← result u32 (sum / 64)
  result s32 quotient

def weightedFew (ofdmPkt validBit ofdm cck : ℤ) : Arith ℤ := do
  let ofdmPart ← result u32 (ofdmPkt * ofdm)
  let rest ← result u32 (validBit - ofdmPkt)
  let cckPart ← result u32 (rest * cck)
  let sum ← result u32 (ofdmPart + cckPart)
  let quotient ← result u32 (sum / validBit)
  result s32 quotient

/-- The two averages and the bitmap with a packet for us. -/
def average (p : Packet) (s : RssiSta) : Arith RssiSta :=
  if p.isCCKrate then do
    let cck ← smooth s.undecoratedSmoothedCCK p.strength p.strength
    pure { s with undecoratedSmoothedCCK := cck, packetMap := s.packetMap <<< 1 }
  else do
    let ave ← rssiAve p.pathA.toNat p.pathB.toNat
    let ofdm ← smooth s.undecoratedSmoothedOFDM p.strength ave
    pure { s with undecoratedSmoothedOFDM := ofdm, packetMap := s.packetMap <<< 1 ||| 1 }

def nextValidBit (validBit : ℤ) : Arith ℤ := if 64 ≤ validBit then pure 64 else result u8 (validBit + 1)

def smoothedPWDB (ofdmPkt validBit ofdm cck : ℤ) : Arith ℤ :=
  if validBit = 64 then weighted64 ofdmPkt ofdm cck
  else if validBit ≠ 0 then weightedFew ofdmPkt validBit ofdm cck
  else pure 0

/-- `ValidBit`, and the blend of the averages. -/
def blend (s : RssiSta) : Arith RssiSta := do
  let validBit ← nextValidBit s.validBit
  let count ← ofdmPkt s.packetMap validBit.toNat
  let pwdb ← smoothedPWDB count validBit s.undecoratedSmoothedOFDM s.undecoratedSmoothedCCK
  pure { s with validBit := validBit, undecoratedSmoothedPWDB := pwdb }

/-- The packets that count. -/
def Packet.Counts (p : Packet) : Prop := p.bPacketMatchBSSID = true ∧ (p.bPacketToSelf = true ∨ p.bPacketBeacon = true)

instance (p : Packet) : Decidable p.Counts := inferInstanceAs (Decidable (_ ∧ _))

/-- What a packet does to the entry of its station. -/
def rssiStep (s : RssiSta) (p : Packet) : Arith RssiSta :=
  if p.Counts then do
    let s ← average p s
    blend s
  else pure s

/-- `pODM_StaInfo`, with the entries that are not valid left out. -/
abbrev StaTable := UInt8 → Option RssiSta

def odmProcessRSSIForDM (sta : StaTable) (p : Packet) : Arith StaTable :=
  if p.stationID = 0xFF then pure sta
  else
    match sta p.stationID with
    | none => pure sta
    | some entry => do
      let entry ← rssiStep entry p
      pure (Function.update sta p.stationID (some entry))

def processAll (sta : StaTable) (packets : List Packet) : Arith StaTable := packets.foldlM odmProcessRSSIForDM sta

/-! ## What it is to do -/

/-- The strengths are percentages. -/
structure Packet.Percent (p : Packet) : Prop where
  rxPWDBAll : p.rxPWDBAll.toNat ≤ 100
  pathA : p.pathA.toNat ≤ 100
  pathB : p.pathB.toNat ≤ 100

/-- The averages whose kind is among the last `ValidBit` packets. -/
def averagesSeen (packets : List Packet) (s : RssiSta) : List ℤ :=
  let recent := packets.reverse.take s.validBit.toNat
  (if ∃ p ∈ recent, p.isCCKrate = false then [s.undecoratedSmoothedOFDM] else []) ++
    if ∃ p ∈ recent, p.isCCKrate = true then [s.undecoratedSmoothedCCK] else []

/-- `x` lies between the smallest and the largest of `l`. -/
def Between (x : ℤ) (l : List ℤ) : Prop := (∃ lo ∈ l, lo ≤ x) ∧ ∃ hi ∈ l, x ≤ hi

/-- The entry after `packets`. -/
structure Smoothed (packets : List Packet) (s : RssiSta) : Prop where
  validBit : s.validBit = min 64 packets.length
  cck_le : s.undecoratedSmoothedCCK ≤ 100
  ofdm_le : s.undecoratedSmoothedOFDM ≤ 100
  cck_nonneg : (∃ p ∈ packets, p.isCCKrate = true) → 0 ≤ s.undecoratedSmoothedCCK
  ofdm_nonneg : (∃ p ∈ packets, p.isCCKrate = false) → 0 ≤ s.undecoratedSmoothedOFDM
  pwdb : packets ≠ [] → 0 ≤ s.undecoratedSmoothedPWDB ∧ s.undecoratedSmoothedPWDB ≤ 100 ∧
    Between s.undecoratedSmoothedPWDB (averagesSeen packets s)

/-! ## One average -/

theorem Packet.Percent.strength {p : Packet} (hp : p.Percent) : 0 ≤ p.strength ∧ p.strength ≤ 100 :=
  ⟨Int.natCast_nonneg _, Int.ofNat_le.mpr hp.rxPWDBAll⟩

theorem rssiAve_yields {a b : ℤ} (ha0 : 0 ≤ a) (ha : a ≤ 100) (hb0 : 0 ≤ b) (hb : b ≤ 100) :
    ∃ x, Yields (rssiAve a b) x ∧ 0 ≤ x ∧ x ≤ 100 := by
  rw [rssiAve]
  by_cases hzero : b = 0
  · rw [if_pos hzero]
    exact ⟨a, yields_pure a, ha0, ha⟩
  rw [if_neg hzero]
  dsimp only
  have hmax : (if b < a then a else b) = max a b := by grind
  have hmin : (if b < a then b else a) = min a b := by grind
  rw [hmax, hmin]
  have hdiff : Yields (result s32 (max a b - min a b)) (max a b - min a b) := yields_s32 (by omega) (by omega)
  by_cases h3 : max a b - min a b < 3
  · refine ⟨max a b, hdiff.bind ?_, by omega, by omega⟩
    rw [if_pos h3]
    exact yields_pure _
  by_cases h6 : max a b - min a b < 6
  · refine ⟨max a b - 1, hdiff.bind ?_, by omega, by omega⟩
    rw [if_neg h3, if_pos h6]
    exact yields_s32 (by omega) (by omega)
  by_cases h10 : max a b - min a b < 10
  · refine ⟨max a b - 2, hdiff.bind ?_, by omega, by omega⟩
    rw [if_neg h3, if_neg h6, if_pos h10]
    exact yields_s32 (by omega) (by omega)
  · refine ⟨max a b - 3, hdiff.bind ?_, by omega, by omega⟩
    rw [if_neg h3, if_neg h6, if_neg h10]
    exact yields_s32 (by omega) (by omega)

theorem smooth_yields {average strength x : ℤ} (haverage : average ≤ 100) (hs0 : 0 ≤ strength) (hs : strength ≤ 100)
    (hx0 : 0 ≤ x) (hx : x ≤ 100) : ∃ next, Yields (smooth average strength x) next ∧ 0 ≤ next ∧ next ≤ 100 := by
  rw [smooth]
  by_cases hfirst : average ≤ 0
  · rw [if_pos hfirst]
    exact ⟨strength, yields_pure strength, hs0, hs⟩
  rw [if_neg hfirst]
  have hfactor : Yields (result s32 (Rx_Smooth_Factor - 1)) 19 := yields_s32 (by decide) (by decide)
  have hweighted : Yields (result s32 (average * 19)) (average * 19) := yields_s32 (by omega) (by omega)
  have hsum : Yields (result s32 (average * 19 + x)) (average * 19 + x) := yields_s32 (by omega) (by omega)
  have hdiv : (average * 19 + x).tdiv Rx_Smooth_Factor = (average * 19 + x) / 20 :=
    Int.tdiv_eq_ediv_of_nonneg (by omega)
  have hquotient : Yields (result s32 ((average * 19 + x).tdiv Rx_Smooth_Factor)) ((average * 19 + x) / 20) := by
    rw [hdiv]
    exact yields_s32 (by omega) (by omega)
  have hunsigned : u32.wrap average = average := (wrap_u32 average).trans (Int.emod_eq_of_lt (by omega) (by omega))
  by_cases hup : u32.wrap average < strength
  · refine ⟨(average * 19 + x) / 20 + 1,
      hfactor.bind (hweighted.bind (hsum.bind (hquotient.bind ?_))), by omega, by omega⟩
    rw [if_pos hup]
    exact yields_s32 (by omega) (by omega)
  · refine ⟨(average * 19 + x) / 20, hfactor.bind (hweighted.bind (hsum.bind (hquotient.bind ?_))), by omega, by omega⟩
    rw [if_neg hup]
    exact yields_pure _

/-! ## The blend -/

section
variable {w r o c : ℤ}

theorem mix_ge {lo : ℤ} (hw : 0 ≤ w) (hr : 0 ≤ r) (hsum : 0 < w + r) (ho : 0 < w → lo ≤ o) (hc : 0 < r → lo ≤ c) :
    lo ≤ (w * o + r * c) / (w + r) := by
  rw [Int.le_ediv_iff_mul_le hsum, mul_add, mul_comm lo w, mul_comm lo r]
  have how : w * lo ≤ w * o := by
    rcases hw.eq_or_lt with rfl | hpos
    · rw [zero_mul, zero_mul]
    · exact mul_le_mul_of_nonneg_left (ho hpos) hw
  have hcr : r * lo ≤ r * c := by
    rcases hr.eq_or_lt with rfl | hpos
    · rw [zero_mul, zero_mul]
    · exact mul_le_mul_of_nonneg_left (hc hpos) hr
  exact add_le_add how hcr

theorem mix_le {hi : ℤ} (hw : 0 ≤ w) (hr : 0 ≤ r) (hsum : 0 < w + r) (ho : 0 < w → o ≤ hi) (hc : 0 < r → c ≤ hi) :
    (w * o + r * c) / (w + r) ≤ hi := by
  have how : w * o ≤ w * hi := by
    rcases hw.eq_or_lt with rfl | hpos
    · rw [zero_mul, zero_mul]
    · exact mul_le_mul_of_nonneg_left (ho hpos) hw
  have hcr : r * c ≤ r * hi := by
    rcases hr.eq_or_lt with rfl | hpos
    · rw [zero_mul, zero_mul]
    · exact mul_le_mul_of_nonneg_left (hc hpos) hr
  have htotal : w * o + r * c ≤ hi * (w + r) := by
    rw [mul_add, mul_comm hi w, mul_comm hi r]
    exact add_le_add how hcr
  exact Int.ediv_le_of_le_mul hsum htotal

theorem between_mix {l : List ℤ} (hw : 0 ≤ w) (hr : 0 ≤ r) (hsum : 0 < w + r) (ho : 0 < w → o ∈ l) (hc : 0 < r → c ∈ l) :
    Between ((w * o + r * c) / (w + r)) l := by
  rcases hw.eq_or_lt with hw0 | hwpos
  · have hcl := hc (by omega)
    exact ⟨⟨c, hcl, mix_ge hw hr hsum (by omega) fun _ => le_rfl⟩, c, hcl, mix_le hw hr hsum (by omega) fun _ => le_rfl⟩
  rcases hr.eq_or_lt with hr0 | hrpos
  · have hol := ho hwpos
    exact ⟨⟨o, hol, mix_ge hw hr hsum (fun _ => le_rfl) (by omega)⟩, o, hol, mix_le hw hr hsum (fun _ => le_rfl) (by omega)⟩
  rcases le_total o c with hle | hle
  · exact ⟨⟨o, ho hwpos, mix_ge hw hr hsum (fun _ => le_rfl) fun _ => hle⟩,
      c, hc hrpos, mix_le hw hr hsum (fun _ => hle) fun _ => le_rfl⟩
  · exact ⟨⟨c, hc hrpos, mix_ge hw hr hsum (fun _ => hle) fun _ => le_rfl⟩,
      o, ho hwpos, mix_le hw hr hsum (fun _ => le_rfl) fun _ => hle⟩

theorem part_bounds {x : ℤ} (hw : 0 ≤ w) (hx : 0 < w → 0 ≤ x ∧ x ≤ 100) : 0 ≤ w * x ∧ w * x ≤ w * 100 := by
  rcases hw.eq_or_lt with rfl | hpos
  · rw [zero_mul, zero_mul]
    exact ⟨le_rfl, le_rfl⟩
  · exact ⟨mul_nonneg hw (hx hpos).1, mul_le_mul_of_nonneg_left (hx hpos).2 hw⟩

end

/-- A count of OFDM packets among `v`, with averages that are percentages where their kind occurs, is blended by weights of
which one is positive only if the kind occurs. -/
def Blends (m : Arith ℤ) (k v o c : ℤ) : Prop :=
  ∃ w r, 0 ≤ w ∧ 0 ≤ r ∧ 0 < w + r ∧ (0 < w → 0 < k) ∧ (0 < r → k < v) ∧ Yields m ((w * o + r * c) / (w + r))

theorem weighted64_blends {k o c : ℤ} (hk0 : 0 ≤ k) (hk : k ≤ 64) (ho : 0 < k → 0 ≤ o ∧ o ≤ 100)
    (hc : k < 64 → 0 ≤ c ∧ c ≤ 100) : Blends (weighted64 k o c) k 64 o c := by
  obtain ⟨w, hw⟩ : ∃ w, w = if 64 < k * 16 then 64 else k * 16 := ⟨_, rfl⟩
  have hwk : 0 ≤ w ∧ w ≤ 64 ∧ (0 < w → 0 < k) ∧ (w < 64 → k < 64) := by
    rw [hw]
    split <;> omega
  obtain ⟨hw0, hw64, hwpos, hwlt⟩ := hwk
  have hopart := part_bounds hw0 fun h => ho (hwpos h)
  have hcpart : 0 ≤ (64 - w) * c ∧ (64 - w) * c ≤ (64 - w) * 100 :=
    part_bounds (by omega) fun h => hc (hwlt (by omega))
  refine ⟨w, 64 - w, hw0, by omega, by omega, hwpos, fun h => hwlt (by omega), ?_⟩
  have hshift : Yields (result u32 (k * 16)) (k * 16) := yields_u32 (by omega) (by omega)
  rw [add_sub_cancel, weighted64]
  refine hshift.bind ?_
  dsimp only
  rw [← hw]
  exact (yields_u32 (by omega) (by omega)).bind ((yields_u32 (by omega) (by omega)).bind
    ((yields_u32 (by omega) (by omega)).bind ((yields_u32 (by omega) (by omega)).bind
    ((yields_u32 (by omega) (by omega)).bind (yields_s32 (by omega) (by omega))))))

theorem weightedFew_blends {k v o c : ℤ} (hv0 : 0 < v) (hv : v ≤ 64) (hk0 : 0 ≤ k) (hk : k ≤ v)
    (ho : 0 < k → 0 ≤ o ∧ o ≤ 100) (hc : k < v → 0 ≤ c ∧ c ≤ 100) : Blends (weightedFew k v o c) k v o c := by
  have hopart := part_bounds hk0 ho
  have hcpart : 0 ≤ (v - k) * c ∧ (v - k) * c ≤ (v - k) * 100 := part_bounds (by omega) fun h => hc (by omega)
  have hquotient : 0 ≤ (k * o + (v - k) * c) / v ∧ (k * o + (v - k) * c) / v ≤ 100 :=
    ⟨Int.ediv_nonneg (by omega) hv0.le, Int.ediv_le_of_le_mul hv0 (by omega)⟩
  refine ⟨k, v - k, hk0, by omega, by omega, id, fun h => by omega, ?_⟩
  rw [add_sub_cancel, weightedFew]
  exact (yields_u32 (by omega) (by omega)).bind ((yields_u32 (by omega) (by omega)).bind
    ((yields_u32 (by omega) (by omega)).bind ((yields_u32 (by omega) (by omega)).bind
    ((yields_u32 (by omega) (by omega)).bind (yields_s32 (by omega) (by omega))))))

/-! ## The bitmap -/

/-- The bits of `PacketMap` are the kinds of the last packets, the newest in bit 0. -/
def MapOf (recent : List Packet) (packetMap : BitVec 64) : Prop :=
  ∀ i (h : i < recent.length), i < 64 → packetMap.getLsbD i = !recent[i].isCCKrate

theorem MapOf.shift {recent : List Packet} {packetMap : BitVec 64} (hmap : MapOf recent packetMap) (p : Packet) :
    MapOf (p :: recent) (if p.isCCKrate then packetMap <<< 1 else packetMap <<< 1 ||| 1) := by
  intro i hi h64
  cases i with
  | zero =>
    cases hkind : p.isCCKrate <;> simp [hkind]
  | succ i =>
    have hi' := hmap i (Nat.lt_of_succ_lt_succ hi) (by omega)
    have hshift : (packetMap <<< 1).getLsbD (i + 1) = packetMap.getLsbD i := by
      rw [BitVec.getLsbD_shiftLeft, Nat.add_sub_cancel]
      simp [h64]
    have hone : (1 : BitVec 64).getLsbD (i + 1) = false := by simp
    rw [List.getElem_cons_succ, ← hi']
    cases p.isCCKrate with
    | true => exact hshift
    | false =>
      show (packetMap <<< 1 ||| 1).getLsbD (i + 1) = _
      rw [BitVec.getLsbD_or, hshift, hone, Bool.or_false]

theorem low_bit (packetMap : BitVec 64) (i : ℕ) :
    ((packetMap >>> i).setWidth 8 &&& 1).toNat = (packetMap.getLsbD i).toNat := by
  have hone : (packetMap >>> i).setWidth 8 &&& 1 = _ := BitVec.and_one_eq_setWidth_ofBool_getLsbD
  rw [hone, BitVec.getLsbD_setWidth, BitVec.getLsbD_ushiftRight, Nat.add_zero]
  cases packetMap.getLsbD i <;> rfl

/-- The OFDM packets among the last `n`. -/
def ofdmAmong (recent : List Packet) (n : ℕ) : ℕ := (recent.take n).countP fun p => !p.isCCKrate

theorem ofdmPkt_yields {recent : List Packet} {packetMap : BitVec 64} (hmap : MapOf recent packetMap) {n : ℕ}
    (hn : n ≤ recent.length) (h64 : n ≤ 64) : Yields (ofdmPkt packetMap n) (ofdmAmong recent n) := by
  induction n with
  | zero => exact yields_pure _
  | succ n ih =>
    have hlt : n < recent.length := by omega
    have hcount : (ofdmAmong recent n : ℤ) + ((packetMap >>> n).setWidth 8 &&& 1).toNat = ofdmAmong recent (n + 1) := by
      rw [low_bit, hmap n hlt (by omega), ofdmAmong, ofdmAmong, List.take_succ_eq_append_getElem hlt, List.countP_append,
        Nat.cast_add, List.countP_singleton]
      cases recent[n].isCCKrate <;> rfl
    have hle : ofdmAmong recent (n + 1) ≤ n + 1 := (List.countP_le_length).trans (List.length_take_le _ _)
    refine (ih (by omega) (by omega)).bind ?_
    rw [hcount]
    exact yields_u32 (by omega) (by omega)

theorem exists_ofdm {recent : List Packet} {n : ℕ} (h : 0 < ofdmAmong recent n) :
    ∃ p ∈ recent.take n, p.isCCKrate = false := by
  obtain ⟨p, hp, hkind⟩ := List.countP_pos_iff.mp h
  exact ⟨p, hp, by simpa using hkind⟩

theorem exists_cck {recent : List Packet} {n : ℕ} (hn : n ≤ recent.length) (h : ofdmAmong recent n < n) :
    ∃ p ∈ recent.take n, p.isCCKrate = true := by
  by_contra hnone
  have hall : ∀ p ∈ recent.take n, (!p.isCCKrate) = true := by
    intro p hp
    rw [Bool.eq_false_iff.mpr fun hcck => hnone ⟨p, hp, hcck⟩]
    rfl
  have hcount := List.countP_eq_length.mpr hall
  rw [List.length_take_of_le hn] at hcount
  exact absurd hcount h.ne

/-! ## The invariant -/

/-- What the entry remembers of the packets: the averages, and the kinds of the last ones. -/
structure Tracks (packets : List Packet) (s : RssiSta) : Prop where
  map : MapOf packets.reverse s.packetMap
  cck_le : s.undecoratedSmoothedCCK ≤ 100
  ofdm_le : s.undecoratedSmoothedOFDM ≤ 100
  cck_nonneg : (∃ p ∈ packets, p.isCCKrate = true) → 0 ≤ s.undecoratedSmoothedCCK
  ofdm_nonneg : (∃ p ∈ packets, p.isCCKrate = false) → 0 ≤ s.undecoratedSmoothedOFDM

theorem average_yields {packets : List Packet} {s : RssiSta} (hs : Tracks packets s) {p : Packet} (hp : p.Percent) :
    ∃ s', Yields (average p s) s' ∧ Tracks (packets ++ [p]) s' ∧ s'.validBit = s.validBit := by
  have hrev : (packets ++ [p]).reverse = p :: packets.reverse := List.reverse_concat
  have hmap := hs.map.shift p
  rw [average]
  cases hkind : p.isCCKrate with
  | true =>
    obtain ⟨cck, hcck, h0, h100⟩ :=
      smooth_yields hs.cck_le hp.strength.1 hp.strength.2 hp.strength.1 hp.strength.2
    refine ⟨_, hcck.bind (yields_pure _), ⟨?_, h100, hs.ofdm_le, fun _ => h0, fun hofdm => ?_⟩, rfl⟩
    · rw [hrev]
      rwa [hkind] at hmap
    · obtain ⟨q, hq, hqkind⟩ := hofdm
      refine hs.ofdm_nonneg ⟨q, (List.mem_append.mp hq).resolve_right fun h => ?_, hqkind⟩
      rw [List.mem_singleton.mp h, hkind] at hqkind
      exact absurd hqkind (by decide)
  | false =>
    obtain ⟨ave, have_, ha0, ha⟩ := rssiAve_yields (Int.natCast_nonneg p.pathA.toNat) (Int.ofNat_le.mpr hp.pathA)
      (Int.natCast_nonneg p.pathB.toNat) (Int.ofNat_le.mpr hp.pathB)
    obtain ⟨ofdm, hofdm, h0, h100⟩ := smooth_yields hs.ofdm_le hp.strength.1 hp.strength.2 ha0 ha
    refine ⟨_, have_.bind (hofdm.bind (yields_pure _)), ⟨?_, hs.cck_le, h100, fun hcck => ?_, fun _ => h0⟩, rfl⟩
    · rw [hrev]
      rwa [hkind] at hmap
    · obtain ⟨q, hq, hqkind⟩ := hcck
      refine hs.cck_nonneg ⟨q, (List.mem_append.mp hq).resolve_right fun h => ?_, hqkind⟩
      rw [List.mem_singleton.mp h, hkind] at hqkind
      exact absurd hqkind (by decide)

theorem mem_of_recent {packets : List Packet} {n : ℕ} {q : Packet} (h : q ∈ packets.reverse.take n) : q ∈ packets :=
  List.mem_reverse.mp (List.mem_of_mem_take h)

theorem ofdm_mem_averagesSeen {packets : List Packet} {s : RssiSta}
    (h : ∃ p ∈ packets.reverse.take s.validBit.toNat, p.isCCKrate = false) :
    s.undecoratedSmoothedOFDM ∈ averagesSeen packets s := by
  rw [averagesSeen, if_pos h]
  exact List.mem_append_left _ (List.mem_singleton_self _)

theorem cck_mem_averagesSeen {packets : List Packet} {s : RssiSta}
    (h : ∃ p ∈ packets.reverse.take s.validBit.toNat, p.isCCKrate = true) :
    s.undecoratedSmoothedCCK ∈ averagesSeen packets s := by
  rw [averagesSeen]
  apply List.mem_append_right
  rw [if_pos h]
  exact List.mem_singleton_self _

theorem blend_yields {packets : List Packet} {s : RssiSta} (hs : Tracks packets s) (hne : packets ≠ [])
    (hvalid : s.validBit = min 64 (packets.length - 1 : ℕ)) :
    ∃ s', Yields (blend s) s' ∧ Tracks packets s' ∧ Smoothed packets s' := by
  have hlen : 0 < packets.length := List.length_pos_iff.mpr hne
  obtain ⟨n, hn⟩ : ∃ n, n = min 64 packets.length := ⟨_, rfl⟩
  have hnrev : n ≤ packets.reverse.length := by
    rw [List.length_reverse]
    omega
  have hbits : Yields (nextValidBit s.validBit) (n : ℤ) := by
    refine yields_ite (fun h => ?_) fun h => ?_
    · have h64 : (64 : ℤ) = n := by omega
      rw [h64]
      exact yields_pure _
    · have hnext : s.validBit + 1 = n := by omega
      rw [hnext]
      exact yields_u8 (by omega) (by omega)
  obtain ⟨k, hk⟩ : ∃ k, k = ofdmAmong packets.reverse n := ⟨_, rfl⟩
  have hcount : Yields (ofdmPkt s.packetMap (n : ℤ).toNat) (k : ℤ) := by
    rw [hk, Int.toNat_natCast]
    exact ofdmPkt_yields hs.map hnrev (by omega)
  have hkn : k ≤ n := by
    rw [hk]
    exact (List.countP_le_length).trans (List.length_take_le _ _)
  have hofdm : 0 < (k : ℤ) → ∃ p ∈ packets.reverse.take n, p.isCCKrate = false := fun h => exists_ofdm (by omega)
  have hcck : (k : ℤ) < n → ∃ p ∈ packets.reverse.take n, p.isCCKrate = true := fun h => exists_cck hnrev (by omega)
  have ho : 0 < (k : ℤ) → 0 ≤ s.undecoratedSmoothedOFDM ∧ s.undecoratedSmoothedOFDM ≤ 100 := fun h =>
    ⟨hs.ofdm_nonneg ((hofdm h).imp fun _ hq => ⟨mem_of_recent hq.1, hq.2⟩), hs.ofdm_le⟩
  have hc : (k : ℤ) < n → 0 ≤ s.undecoratedSmoothedCCK ∧ s.undecoratedSmoothedCCK ≤ 100 := fun h =>
    ⟨hs.cck_nonneg ((hcck h).imp fun _ hq => ⟨mem_of_recent hq.1, hq.2⟩), hs.cck_le⟩
  have hblends : Blends (smoothedPWDB k n s.undecoratedSmoothedOFDM s.undecoratedSmoothedCCK)
      k n s.undecoratedSmoothedOFDM s.undecoratedSmoothedCCK := by
    rw [smoothedPWDB]
    by_cases hfull : (n : ℤ) = 64
    · rw [if_pos hfull, hfull]
      exact weighted64_blends (by omega) (by omega) ho (hfull ▸ hc)
    · rw [if_neg hfull, if_pos (by omega)]
      exact weightedFew_blends (by omega) (by omega) (by omega) (by omega) ho hc
  obtain ⟨w, r, hw, hr, hsum, hwk, hrk, hpwdb⟩ := hblends
  refine ⟨_, hbits.bind (hcount.bind (hpwdb.bind (yields_pure _))), ⟨hs.map, hs.cck_le, hs.ofdm_le, hs.cck_nonneg,
    hs.ofdm_nonneg⟩, ⟨?_, hs.cck_le, hs.ofdm_le, hs.cck_nonneg, hs.ofdm_nonneg, fun _ => ⟨?_, ?_, ?_⟩⟩⟩
  · show (n : ℤ) = _
    omega
  · exact mix_ge hw hr hsum (fun h => (ho (hwk h)).1) fun h => (hc (hrk h)).1
  · exact mix_le hw hr hsum (fun h => (ho (hwk h)).2) fun h => (hc (hrk h)).2
  · apply between_mix hw hr hsum
    · exact fun h => ofdm_mem_averagesSeen (hofdm (hwk h))
    · exact fun h => cck_mem_averagesSeen (hcck (hrk h))

/-! ## Runs -/

theorem tracks_alloc : Tracks [] rtwAllocStainfo where
  map := fun i h => absurd h (Nat.not_lt_zero i)
  cck_le := by decide
  ofdm_le := by decide
  cck_nonneg := fun h => absurd h (by simp)
  ofdm_nonneg := fun h => absurd h (by simp)

theorem smoothed_alloc : Smoothed [] rtwAllocStainfo where
  validBit := rfl
  cck_le := by decide
  ofdm_le := by decide
  cck_nonneg := tracks_alloc.cck_nonneg
  ofdm_nonneg := tracks_alloc.ofdm_nonneg
  pwdb := fun h => absurd rfl h

theorem rssiStep_yields {packets : List Packet} {s : RssiSta} (htracks : Tracks packets s) (hs : Smoothed packets s)
    {p : Packet} (hp : p.Percent) (hcounts : p.Counts) :
    ∃ s', Yields (rssiStep s p) s' ∧ Tracks (packets ++ [p]) s' ∧ Smoothed (packets ++ [p]) s' := by
  obtain ⟨t, haverage, ht, hvalid⟩ := average_yields htracks hp
  have hbefore : t.validBit = min 64 ((packets ++ [p]).length - 1 : ℕ) := by
    rw [hvalid, hs.validBit, List.length_append, List.length_singleton, Nat.add_sub_cancel]
  obtain ⟨s', hblend, hs'⟩ := blend_yields ht (List.append_ne_nil_of_right_ne_nil _ (List.cons_ne_nil _ _)) hbefore
  refine ⟨s', ?_, hs'⟩
  rw [rssiStep, if_pos hcounts]
  exact haverage.bind hblend

theorem processAll_yields {sta : StaTable} {id : UInt8} (hid : id ≠ 0xFF) (halloc : sta id = some rtwAllocStainfo)
    (packets : List Packet) (hfor : ∀ p ∈ packets, p.stationID = id ∧ p.Counts ∧ p.Percent) :
    ∃ sta', Yields (processAll sta packets) sta' ∧ ∃ s, sta' id = some s ∧ Smoothed packets s := by
  obtain ⟨sta', hyields, s, hentry, -, hs⟩ := @Yields.foldlM _ _ odmProcessRSSIForDM
    (fun pre t => ∃ s, t id = some s ∧ Tracks pre s ∧ Smoothed pre s) sta
    ⟨_, halloc, tracks_alloc, smoothed_alloc⟩ packets (by
      rintro pre p post t rfl ⟨s, hentry, htracks, hs⟩
      obtain ⟨rfl, hcounts, hpercent⟩ := hfor p (List.mem_append_right _ List.mem_cons_self)
      obtain ⟨s', hstep, hs'⟩ := rssiStep_yields htracks hs hpercent hcounts
      refine ⟨Function.update t p.stationID (some s'), ?_, s', Function.update_self .., hs'⟩
      rw [odmProcessRSSIForDM, if_neg hid]
      simp only [hentry]
      exact hstep.bind (yields_pure _))
  exact ⟨sta', hyields, s, hentry, hs⟩

/-- **The smoothed strength stays a percentage, between the averages that have a say in it**, and nothing wraps. -/
theorem smoothed_percentage (sta : StaTable) (id : UInt8) (hid : id ≠ 0xFF) (halloc : sta id = some rtwAllocStainfo)
    (packets : List Packet) (hfor : ∀ p ∈ packets, p.stationID = id ∧ p.Counts ∧ p.Percent) :
    NoWrap (processAll sta packets) ∧ ∃ s, (processAll sta packets).value id = some s ∧ Smoothed packets s := by
  obtain ⟨sta', hyields, hs⟩ := processAll_yields hid halloc packets hfor
  exact ⟨hyields.2, hyields.1.symm ▸ hs⟩

/-- A beacon at the lowest OFDM rate, received by one path. -/
def beaconSample : Packet where
  rxPWDBAll := 47
  pathA := 46
  pathB := 0
  rate := 0x04
  stationID := 0
  bPacketMatchBSSID := true
  bPacketToSelf := false
  bPacketBeacon := true

theorem smoothed_percentage_beacon :
    NoWrap (processAll (fun _ => some rtwAllocStainfo) [beaconSample]) ∧
      ∃ s, (processAll (fun _ => some rtwAllocStainfo) [beaconSample]).value 0 = some s ∧ Smoothed [beaconSample] s :=
  smoothed_percentage (fun _ => some rtwAllocStainfo) 0 (by decide) rfl [beaconSample]
    (List.forall_mem_singleton.mpr ⟨rfl, by decide, by decide, by decide, by decide⟩)

end Rssi

end Rtl8723au
