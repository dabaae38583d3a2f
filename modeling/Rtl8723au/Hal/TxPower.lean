import Rtl8723au.Library.PackedLanes
import Mathlib.Data.Fin.VecNotation

/-! The transmit power of the OFDM and HT rates on path A: the calibration data from the efuse (`hal/rtl8723a_hal_init.c`),
the power level of a channel (`hal/rtl8723a_phycfg.c`) and the TxAGC registers (`hal/rtl8723a_rf6052.c`). -/
namespace Rtl8723au
namespace TxPower
open PackedLanes
set_option autoImplicit false

/-! ## The calibration data -/

def EEPROM_HT40_1S_TX_PWR_INX_8723A : ℕ := 0x16
def EEPROM_HT20_TX_PWR_INX_DIFF_8723A : ℕ := 0x1C
def EEPROM_OFDM_TX_PWR_INX_DIFF_8723A : ℕ := 0x1F
def EEPROM_HT40_MAX_PWR_OFFSET_8723A : ℕ := 0x22
def EEPROM_HT20_MAX_PWR_OFFSET_8723A : ℕ := 0x25
def EEPROM_Default_TxPowerLevel : BitVec 8 := 0x22
def EEPROM_Default_HT40_2SDiff : BitVec 8 := 0x0
def EEPROM_Default_HT20_Diff : BitVec 8 := 2
def EEPROM_Default_LegacyHTTxPowerDiff : BitVec 8 := 0x3
def EEPROM_Default_HT40_PwrMaxOffset : BitVec 8 := 0
def EEPROM_Default_HT20_PwrMaxOffset : BitVec 8 := 0

/-- `Hal_EEValueCheck` for `EETYPE_TX_PWR`. -/
def halEEValueCheck (x : BitVec 8) : BitVec 8 := if x ≤ 63 then x else EEPROM_Default_TxPowerLevel

/-- `TxPowerInfo` for path A, by channel group. -/
structure TxPowerInfo where
  ht40_1SIndex : ℕ → BitVec 8
  ht40_2SIndexDiff : ℕ → BitVec 8
  ht20IndexDiff : ℕ → BitVec 8
  ofdmIndexDiff : ℕ → BitVec 8
  ht40MaxOffset : ℕ → BitVec 8
  ht20MaxOffset : ℕ → BitVec 8

def signedNibble (x : BitVec 8) : BitVec 8 := if x &&& 0x08 ≠ 0 then x ||| 0xF0 else x

/-- `Hal_ReadPowerValueFromPROM_8723A`. -/
def halReadPowerValueFromPROM (promContent : ℕ → BitVec 8) (autoLoadFail : Bool) : TxPowerInfo :=
  if autoLoadFail then
    { ht40_1SIndex := fun _ => EEPROM_Default_TxPowerLevel
      ht40_2SIndexDiff := fun _ => EEPROM_Default_HT40_2SDiff
      ht20IndexDiff := fun _ => EEPROM_Default_HT20_Diff
      ofdmIndexDiff := fun _ => EEPROM_Default_LegacyHTTxPowerDiff
      ht40MaxOffset := fun _ => EEPROM_Default_HT40_PwrMaxOffset
      ht20MaxOffset := fun _ => EEPROM_Default_HT20_PwrMaxOffset }
  else
    { ht40_1SIndex := fun group => halEEValueCheck (promContent (EEPROM_HT40_1S_TX_PWR_INX_8723A + group))
      ht40_2SIndexDiff := fun _ => 0
      ht20IndexDiff := fun group => signedNibble (promContent (EEPROM_HT20_TX_PWR_INX_DIFF_8723A + group) &&& 0xF)
      ofdmIndexDiff := fun group => promContent (EEPROM_OFDM_TX_PWR_INX_DIFF_8723A + group) &&& 0xF
      ht40MaxOffset := fun group => promContent (EEPROM_HT40_MAX_PWR_OFFSET_8723A + group) &&& 0xF
      ht20MaxOffset := fun group => promContent (EEPROM_HT20_MAX_PWR_OFFSET_8723A + group) &&& 0xF }

/-- `Hal_GetChnlGroup`, of a channel that is counted from 0. -/
def halGetChnlGroup (chnl : ℕ) : ℕ := if chnl < 3 then 0 else if chnl < 9 then 1 else 2

/-- The fields of `HAL_DATA_TYPE` that `Hal_EfuseParseTxPowerInfo_8723A` fills, for path A. -/
structure PowerData where
  txPwrLevelHT40_1S : ℕ → BitVec 8
  txPwrLevelHT40_2S : ℕ → BitVec 8
  txPwrHt20Diff : ℕ → BitVec 8
  txPwrLegacyHtDiff : ℕ → BitVec 8
  pwrGroupHT20 : ℕ → BitVec 8
  pwrGroupHT40 : ℕ → BitVec 8
  bTXPowerDataReadFromEEPORM : Bool

/-- `Hal_EfuseParseTxPowerInfo_8723A`. -/
def halEfuseParseTxPowerInfo (promContent : ℕ → BitVec 8) (autoLoadFail : Bool) : PowerData :=
  let pwrInfo := halReadPowerValueFromPROM promContent autoLoadFail
  { txPwrLevelHT40_1S := fun ch => pwrInfo.ht40_1SIndex (halGetChnlGroup ch)
    txPwrLevelHT40_2S := fun ch =>
      let pwr := pwrInfo.ht40_1SIndex (halGetChnlGroup ch)
      let diff := pwrInfo.ht40_2SIndexDiff (halGetChnlGroup ch)
      if diff < pwr then pwr - diff else 0
    txPwrHt20Diff := fun ch => pwrInfo.ht20IndexDiff (halGetChnlGroup ch)
    txPwrLegacyHtDiff := fun ch => pwrInfo.ofdmIndexDiff (halGetChnlGroup ch)
    pwrGroupHT20 := fun ch => pwrInfo.ht20MaxOffset (halGetChnlGroup ch)
    pwrGroupHT40 := fun ch => pwrInfo.ht40MaxOffset (halGetChnlGroup ch)
    bTXPowerDataReadFromEEPORM := !autoLoadFail }

/-! ## The registers -/

def RF6052_MAX_TX_PWR : BitVec 8 := 0x3F
def TxHighPwrLevel_Normal : ℕ := 0
def TxHighPwrLevel_Level1 : ℕ := 1
def TxHighPwrLevel_Level2 : ℕ := 2
def TxHighPwrLevel_BT1 : ℕ := 3

/-- What the power of a channel depends on besides the calibration data. `offset` is `MCSTxPowerLevelOriginalOffset`, with
what stands behind it. -/
structure HalData where
  power : PowerData
  rf2T2R : Bool
  bw40 : Bool
  eepromRegulatory : ℕ
  pwrGroupCnt : ℕ
  offset : ℕ → ℕ → BitVec 32
  dynamicTxHighPowerLvl : ℕ

variable (hal : HalData)

/-- A byte at all four places, as `getPowerBase` puts it there. -/
def fourTimes (p : BitVec 32) : BitVec 32 := p <<< 24 ||| p <<< 16 ||| p <<< 8 ||| p

/-- `powerBase0` of `getPowerBase`. -/
def powerBase0 (pPowerLevel : BitVec 8) (channel : ℕ) : BitVec 32 :=
  fourTimes (pPowerLevel.setWidth 32 + (hal.power.txPwrLegacyHtDiff (channel - 1)).setWidth 32)

/-- `powerBase1` of `getPowerBase`; the signed difference is added to a `u8`. -/
def powerBase1 (pPowerLevel : BitVec 8) (channel : ℕ) : BitVec 32 :=
  let powerlevel := if hal.bw40 then pPowerLevel else pPowerLevel + hal.power.txPwrHt20Diff (channel - 1)
  fourTimes (powerlevel.setWidth 32)

/-- The group of `EEPROMRegulatory` 1. With two groups the variable keeps what it held before. -/
def regulatoryGroup (channel : ℕ) (chnlGroup : ℕ) : ℕ :=
  if hal.pwrGroupCnt = 1 then 0
  else if 3 ≤ hal.pwrGroupCnt then
    let group := if channel ≤ 3 then 0 else if channel ≤ 9 then 1 else 2
    if hal.bw40 then group + 4 else group + 1
  else chnlGroup

/-- One of the four bytes of the customer's limit. -/
def pwrDiffLimit (channel index i : ℕ) : BitVec 8 :=
  let limit := lowSeven (hal.offset 0 index) i
  let group := if hal.bw40 then hal.power.pwrGroupHT40 (channel - 1) else hal.power.pwrGroupHT20 (channel - 1)
  if group < limit then group else limit

def customerLimit (channel index : ℕ) : BitVec 32 :=
  ofLanes ((pwrDiffLimit hal channel index 0).setWidth 32) ((pwrDiffLimit hal channel index 1).setWidth 32)
    ((pwrDiffLimit hal channel index 2).setWidth 32) ((pwrDiffLimit hal channel index 3).setWidth 32)

/-- What the regulatory mode adds to the base. -/
def regulatoryOffset (channel index chnlGroup : ℕ) : BitVec 32 :=
  if hal.eepromRegulatory = 1 then hal.offset (regulatoryGroup hal channel chnlGroup) index
  else if hal.eepromRegulatory = 2 then 0
  else if hal.eepromRegulatory = 3 then customerLimit hal channel index
  else hal.offset 0 index

/-- `getTxPowerWriteValByRegulatory`; `chnlGroup` is what the variable of that name happens to hold. -/
def getTxPowerWriteValByRegulatory (channel index chnlGroup : ℕ) (base0 base1 : BitVec 32) : BitVec 32 :=
  let writeVal := regulatoryOffset hal channel index chnlGroup + if index < 2 then base0 else base1
  let writeVal :=
    if hal.dynamicTxHighPowerLvl = TxHighPwrLevel_Level1 then 0x14141414
    else if hal.dynamicTxHighPowerLvl = TxHighPwrLevel_Level2 then 0x00000000 else writeVal
  if hal.dynamicTxHighPowerLvl = TxHighPwrLevel_BT1 then writeVal - 0x06060606 else writeVal

/-- A write of a baseband register, or of one byte. -/
inductive RegWrite where
  | bb (reg : ℕ) (value : BitVec 32)
  | byte (reg : ℕ) (value : BitVec 8)
  deriving DecidableEq

/-- `RegOffset_A`. -/
def regOffsetA : Fin 6 → ℕ := ![0xe00, 0xe04, 0xe10, 0xe14, 0xe18, 0xe1c]

def pwrVal (writeVal : BitVec 32) (i : ℕ) : BitVec 8 :=
  let power := lowSeven writeVal i
  if RF6052_MAX_TX_PWR < power then RF6052_MAX_TX_PWR else power

/-- The value that `writeOFDMPowerReg` writes. -/
def outWord (writeVal : BitVec 32) : BitVec 32 :=
  ofLanes ((pwrVal writeVal 0).setWidth 32) ((pwrVal writeVal 1).setWidth 32) ((pwrVal writeVal 2).setWidth 32)
    ((pwrVal writeVal 3).setWidth 32)

def trainingBytes (power : BitVec 8) : List RegWrite :=
  let w0 := if 8 < power then power - 8 else 0
  let w1 := if 8 < w0 then w0 - 8 else 0
  let w2 := if 6 < w1 then w1 - 6 else 0
  [.byte 0xc90 w0, .byte 0xc91 w1, .byte 0xc92 w2]

/-- `writeOFDMPowerReg`, the pass of path A. -/
def writeOFDMPowerReg (index : Fin 6) (writeVal : BitVec 32) : List RegWrite :=
  .bb (regOffsetA index) (outWord writeVal) ::
    if (hal.rf2T2R = true ∧ regOffsetA index = 0xe1c) ∨ (hal.rf2T2R = false ∧ regOffsetA index = 0xe14) then
      trainingBytes (pwrVal writeVal 3) else []

/-- `rtl8192c_PHY_RF6052SetOFDMTxPower`; `stack` is what each call finds in `chnlGroup`. -/
def phyRF6052SetOFDMTxPower (pPowerLevel : BitVec 8) (channel : ℕ) (stack : Fin 6 → ℕ) : List RegWrite :=
  (List.finRange 6).flatMap fun index =>
    writeOFDMPowerReg hal index (getTxPowerWriteValByRegulatory hal channel index (stack index)
      (powerBase0 hal pPowerLevel channel) (powerBase1 hal pPowerLevel channel))

/-- `getTxPowerIndex`, the level of the OFDM rates. -/
def getTxPowerIndex (channel : ℕ) : BitVec 8 :=
  if hal.rf2T2R then hal.power.txPwrLevelHT40_2S (channel - 1) else hal.power.txPwrLevelHT40_1S (channel - 1)

/-- `PHY_SetTxPowerLevel8192C`, without the CCK rates. -/
def phySetTxPowerLevel (channel : ℕ) (stack : Fin 6 → ℕ) : List RegWrite :=
  if hal.power.bTXPowerDataReadFromEEPORM = false then []
  else phyRF6052SetOFDMTxPower hal (getTxPowerIndex hal channel) channel stack

/-! ## The power that is asked for -/

section
variable (promContent : ℕ → BitVec 8) (channel : ℕ)

def channelGroup : ℕ := if channel ≤ 3 then 0 else if channel ≤ 9 then 1 else 2

/-- The HT40 index, or its default where the efuse holds none. -/
def base : ℤ :=
  let index := (promContent (EEPROM_HT40_1S_TX_PWR_INX_8723A + channelGroup channel)).toNat
  if index ≤ 63 then index else 0x22

def signed4 (n : ℕ) : ℤ := if n < 8 then n else n - 16

-- the literals of a register
local instance neZero_index : NeZero 6 := ⟨by decide⟩

def diff (bw40 : Bool) (index : Fin 6) : ℤ :=
  if index < 2 then (promContent (EEPROM_OFDM_TX_PWR_INX_DIFF_8723A + channelGroup channel)).toNat % 16
  else if bw40 then 0
  else signed4 ((promContent (EEPROM_HT20_TX_PWR_INX_DIFF_8723A + channelGroup channel)).toNat % 16)

def maxOffset (bw40 : Bool) : ℕ :=
  (promContent ((if bw40 then EEPROM_HT40_MAX_PWR_OFFSET_8723A else EEPROM_HT20_MAX_PWR_OFFSET_8723A) +
    channelGroup channel)).toNat % 16

end

/-- The group of the table that mode 1 selects, if it selects one. -/
def selectedGroup (channel : ℕ) : Option ℕ :=
  if hal.pwrGroupCnt = 1 then some 0
  else if 3 ≤ hal.pwrGroupCnt then some (channelGroup channel + if hal.bw40 then 4 else 1)
  else none

/-- The offset the regulatory mode selects, if it selects one. -/
def selectedOffset (promContent : ℕ → BitVec 8) (channel : ℕ) (index : Fin 6) (i : Fin 4) : Option ℤ :=
  if hal.eepromRegulatory = 1 then (selectedGroup hal channel).map fun group => (byteOf (hal.offset group index) i : ℤ)
  else if hal.eepromRegulatory = 2 then some 0
  else if hal.eepromRegulatory = 3 then
    some (min (byteOf (hal.offset 0 index) i) (maxOffset promContent channel hal.bw40) : ℕ)
  else some (byteOf (hal.offset 0 index) i : ℤ)

def back : ℤ := if hal.dynamicTxHighPowerLvl = TxHighPwrLevel_BT1 then 6 else 0

def RegWrite.valueAt (reg : ℕ) : RegWrite → Option (BitVec 32)
  | .bb r value => if r = reg then some value else none
  | .byte _ _ => none

/-- The values that are written to a register. -/
def valuesWritten (reg : ℕ) (writes : List RegWrite) : List (BitVec 32) := writes.filterMap (RegWrite.valueAt reg)

/-- Each register is written once, and each byte of it is the clamped sum. -/
def ClampedSums (promContent : ℕ → BitVec 8) (channel : ℕ) (writes : List RegWrite) : Prop :=
  ∀ index : Fin 6, ∃ value, valuesWritten (regOffsetA index) writes = [value] ∧
    ∀ i : Fin 4, ∃ offset, selectedOffset hal promContent channel index i = some offset ∧
      (byteOf value i : ℤ) = max 0 (min (RF6052_MAX_TX_PWR.toNat : ℤ)
        (base promContent channel + diff promContent channel hal.bw40 index + offset - back hal))

/-- When the packed sum of a register comes out right: no rate is below zero; or the sum of base and difference is, and the
offsets bring the first rate back to zero at least and each other rate to just below. -/
def InOrder (s : ℤ) (t : Fin 4 → ℤ) : Prop :=
  (0 ≤ s ∧ ∀ i, 0 ≤ t i) ∨ (s < 0 ∧ ∀ i, if i = 0 then 0 ≤ t i else t i = -1)

/-- The condition on the calibration data, the table and the mode. -/
def NoBorrow (promContent : ℕ → BitVec 8) (channel : ℕ) : Prop :=
  ∀ index : Fin 6, ∃ offset : Fin 4 → ℤ,
    (∀ i, selectedOffset hal promContent channel index i = some (offset i)) ∧
    InOrder (base promContent channel + diff promContent channel hal.bw40 index) fun i =>
      base promContent channel + diff promContent channel hal.bw40 index + offset i - back hal

/-! ## Four sums in one word -/

/-- The packed word of a register: `u` is the base as the `u8` it has become. -/
def wordOf (o : Fin 4 → ℤ) (s k : ℤ) (i : Fin 4) : ℤ := o i + s % 256 - k

theorem seven_wordOf_nonneg {o : Fin 4 → ℤ} {s k : ℤ} (hs : 0 ≤ s) (hs' : s < 256) :
    seven (wordOf o s k) = seven fun i => s + o i - k := by
  have hword : wordOf o s k = fun i => s + o i - k := by
    funext i
    rw [wordOf, Int.emod_eq_of_lt hs hs']
    ring
  rw [hword]

theorem seven_wordOf_neg {o : Fin 4 → ℤ} {s k : ℤ} (hs : s < 0) (hs' : -256 ≤ s) :
    seven (wordOf o s k) = seven fun i => if i = 0 then s + o i - k else s + o i - k + 1 := by
  have hmod : s % 256 = s + 256 := by omega
  funext i
  rw [seven, seven]
  have hpack : pack (wordOf o s k) =
      pack (fun i => if i = 0 then s + o i - k else s + o i - k + 1) + 4294967296 := by
    simp only [pack, wordOf, hmod]
    simp
    ring
  rw [hpack, Int.add_emod_right]

theorem clamped_iff {x : ℤ} (h0 : -6 ≤ x) (h1 : x < 128) : min 63 (x % 128) = max 0 (min 63 x) ↔ 0 ≤ x := by
  omega

theorem clamped_succ_iff {x : ℤ} (h0 : -14 ≤ x) (h1 : x < 63) : min 63 ((x + 1) % 128) = max 0 (min 63 x) ↔ x = -1 := by
  omega

theorem clamped_first_iff {x : ℤ} (h0 : -14 ≤ x) (h1 : x < 63) : min 63 (x % 128) = max 0 (min 63 x) ↔ 0 ≤ x := by
  omega

/-- **The four bytes are the clamped sums exactly if nothing is borrowed.** -/
theorem clamped_wordOf_iff {o : Fin 4 → ℤ} {s k : ℤ} (hs0 : -8 ≤ s) (hs : s ≤ 78) (ho : ∀ i, 0 ≤ o i ∧ o i ≤ 31)
    (hk : k = 0 ∨ k = 6) :
    (∀ i, min 63 (seven (wordOf o s k) i) = max 0 (min 63 (s + o i - k))) ↔ InOrder s fun i => s + o i - k := by
  by_cases hneg : s < 0
  · have hiff : InOrder s (fun i => s + o i - k) ↔ ∀ i, if i = 0 then 0 ≤ s + o i - k else s + o i - k = -1 :=
      ⟨fun h => (h.resolve_left fun h' => absurd h'.1 (by omega)).2, fun h => Or.inr ⟨hneg, h⟩⟩
    rw [seven_wordOf_neg hneg (by omega), hiff]
    apply forall_lane_iff
    intro i hbelow
    have hoi := ho i
    rw [seven_eq]
    · by_cases hi : i = 0
      · rw [if_pos hi, if_pos hi]
        exact clamped_first_iff (by omega) (by omega)
      · rw [if_neg hi, if_neg hi]
        exact clamped_succ_iff (by omega) (by omega)
    · intro j hj
      have hq := hbelow j hj
      have hoj := ho j
      by_cases hj0 : j = 0
      · rw [if_pos hj0] at hq ⊢
        omega
      · rw [if_neg hj0] at hq ⊢
        omega
  · have hiff : InOrder s (fun i => s + o i - k) ↔ ∀ i, 0 ≤ s + o i - k :=
      ⟨fun h => (h.resolve_right fun h' => absurd h'.1 hneg).2, fun h => Or.inl ⟨by omega, h⟩⟩
    rw [seven_wordOf_nonneg (by omega) (by omega), hiff]
    apply forall_lane_iff
    intro i hbelow
    have hoi := ho i
    rw [seven_eq]
    · exact clamped_iff (by omega) (by omega)
    · intro j hj
      have hq := hbelow j hj
      have hoj := ho j
      omega

/-! ## What the efuse says -/

section
variable {promContent : ℕ → BitVec 8} {channel : ℕ}

theorem halGetChnlGroup_pred (h : 1 ≤ channel) : halGetChnlGroup (channel - 1) = channelGroup channel := by
  have h3 : channel - 1 < 3 ↔ channel ≤ 3 := by omega
  have h9 : channel - 1 < 9 ↔ channel ≤ 9 := by omega
  exact if_congr h3 rfl (if_congr h9 rfl rfl)

theorem toNat_low_nibble (x : BitVec 8) : (x &&& 0xF).toNat = x.toNat % 16 := by
  rw [BitVec.toNat_and]
  exact Nat.and_two_pow_sub_one_eq_mod _ 4

theorem signedNibble_toNat (x : BitVec 8) : ((signedNibble (x &&& 0xF)).toNat : ℤ) = signed4 (x.toNat % 16) % 256 := by
  have hall : ∀ n < 16, ((signedNibble (BitVec.ofNat 8 n)).toNat : ℤ) = signed4 n % 256 := by decide
  have hx : x &&& 0xF = BitVec.ofNat 8 (x.toNat % 16) := by
    apply BitVec.eq_of_toNat_eq
    rw [toNat_low_nibble, BitVec.toNat_ofNat]
    omega
  rw [hx]
  exact hall _ (Nat.mod_lt _ (by decide))

theorem base_mem : 0 ≤ base promContent channel ∧ base promContent channel ≤ 63 := by
  rw [base]
  split <;> omega

theorem txPwrLevelHT40_1S_toNat (h : 1 ≤ channel) :
    (((halEfuseParseTxPowerInfo promContent false).txPwrLevelHT40_1S (channel - 1)).toNat : ℤ) =
      base promContent channel := by
  show ((halEEValueCheck (promContent (_ + halGetChnlGroup (channel - 1)))).toNat : ℤ) = _
  rw [halGetChnlGroup_pred h, halEEValueCheck, base, apply_ite (fun x : BitVec 8 => (x.toNat : ℤ))]
  exact if_congr BitVec.le_def rfl rfl

theorem txPwrLegacyHtDiff_toNat (h : 1 ≤ channel) :
    ((halEfuseParseTxPowerInfo promContent false).txPwrLegacyHtDiff (channel - 1)).toNat =
      (promContent (EEPROM_OFDM_TX_PWR_INX_DIFF_8723A + channelGroup channel)).toNat % 16 := by
  show (promContent (_ + halGetChnlGroup (channel - 1)) &&& 0xF).toNat = _
  rw [halGetChnlGroup_pred h, toNat_low_nibble]

theorem txPwrHt20Diff_toNat (h : 1 ≤ channel) :
    (((halEfuseParseTxPowerInfo promContent false).txPwrHt20Diff (channel - 1)).toNat : ℤ) =
      signed4 ((promContent (EEPROM_HT20_TX_PWR_INX_DIFF_8723A + channelGroup channel)).toNat % 16) % 256 := by
  show ((signedNibble (promContent (_ + halGetChnlGroup (channel - 1)) &&& 0xF)).toNat : ℤ) = _
  rw [halGetChnlGroup_pred h, signedNibble_toNat]

theorem pwrGroup_toNat (h : 1 ≤ channel) (bw40 : Bool) :
    (if bw40 then (halEfuseParseTxPowerInfo promContent false).pwrGroupHT40 (channel - 1)
      else (halEfuseParseTxPowerInfo promContent false).pwrGroupHT20 (channel - 1)).toNat =
      maxOffset promContent channel bw40 := by
  cases bw40 with
  | false =>
    show (promContent (_ + halGetChnlGroup (channel - 1)) &&& 0xF).toNat = _
    rw [halGetChnlGroup_pred h, toNat_low_nibble]
    rfl
  | true =>
    show (promContent (_ + halGetChnlGroup (channel - 1)) &&& 0xF).toNat = _
    rw [halGetChnlGroup_pred h, toNat_low_nibble]
    rfl

theorem signed4_mem {n : ℕ} (h : n < 16) : -8 ≤ signed4 n ∧ signed4 n ≤ 7 := by
  rw [signed4]
  split <;> omega

theorem diff_mem (bw40 : Bool) (index : Fin 6) :
    -8 ≤ diff promContent channel bw40 index ∧ diff promContent channel bw40 index ≤ 15 := by
  have hsigned := signed4_mem (Nat.mod_lt
    (promContent (EEPROM_HT20_TX_PWR_INX_DIFF_8723A + channelGroup channel)).toNat (by decide : 0 < 16))
  rw [diff]
  split
  · omega
  split <;> omega

end

/-! ## The words of the code -/

section
variable {hal} {promContent : ℕ → BitVec 8} {channel : ℕ}

theorem toNat_fourTimes {p : BitVec 32} (h : p.toNat < 256) : (fourTimes p).toNat = 16843009 * p.toNat := by
  have hlanes : (fourTimes p).toNat = _ := toNat_ofLanes h h h h
  omega

theorem toNat_setWidth_byte (x : BitVec 8) : (x.setWidth 32).toNat = x.toNat := by
  rw [BitVec.toNat_setWidth]
  exact Nat.mod_eq_of_lt (x.isLt.trans (by decide))

/-- The base of a register is the sum of index and difference, as a `u8`, at all four places. -/
theorem toNat_powerBase (hpower : hal.power = halEfuseParseTxPowerInfo promContent false) (hrf : hal.rf2T2R = false)
    (hchannel : 1 ≤ channel) (index : Fin 6) :
    ((if (index : ℕ) < 2 then powerBase0 hal (getTxPowerIndex hal channel) channel
      else powerBase1 hal (getTxPowerIndex hal channel) channel).toNat : ℤ) =
      16843009 * ((base promContent channel + diff promContent channel hal.bw40 index) % 256) := by
  have hlevel : (getTxPowerIndex hal channel).toNat = base promContent channel := by
    rw [getTxPowerIndex, hrf, hpower]
    exact txPwrLevelHT40_1S_toNat hchannel
  have hbase : 0 ≤ base promContent channel ∧ base promContent channel ≤ 63 := base_mem
  have hindex : index < 2 ↔ (index : ℕ) < 2 := Iff.rfl
  by_cases hofdm : (index : ℕ) < 2
  · have hlegacy : (hal.power.txPwrLegacyHtDiff (channel - 1)).toNat = _ := hpower ▸ txPwrLegacyHtDiff_toNat hchannel
    have hsum : ((getTxPowerIndex hal channel).setWidth 32 +
        (hal.power.txPwrLegacyHtDiff (channel - 1)).setWidth 32).toNat =
        (getTxPowerIndex hal channel).toNat + (hal.power.txPwrLegacyHtDiff (channel - 1)).toNat := by
      rw [BitVec.toNat_add, toNat_setWidth_byte, toNat_setWidth_byte]
      omega
    rw [if_pos hofdm, powerBase0, toNat_fourTimes (by omega), hsum, hlegacy, diff, if_pos (hindex.mpr hofdm)]
    omega
  · have hlt : ∀ x : BitVec 8, (x.setWidth 32).toNat < 256 := fun x => by
      rw [toNat_setWidth_byte]
      exact x.isLt
    rw [if_neg hofdm, powerBase1, toNat_fourTimes (hlt _), toNat_setWidth_byte, diff, if_neg (hindex.not.mpr hofdm)]
    cases hbw : hal.bw40 with
    | true =>
      rw [if_pos rfl, if_pos rfl, Nat.cast_mul, hlevel]
      omega
    | false =>
      have hht20 : ((hal.power.txPwrHt20Diff (channel - 1)).toNat : ℤ) = _ := hpower ▸ txPwrHt20Diff_toNat hchannel
      rw [if_neg Bool.false_ne_true, if_neg Bool.false_ne_true, BitVec.toNat_add]
      omega

theorem toNat_limited (x y : BitVec 8) : (if y < x then y else x).toNat = min x.toNat y.toNat := by
  split
  next h =>
    have hlt := BitVec.lt_def.mp h
    omega
  next h =>
    have hle := mt BitVec.lt_def.mpr h
    omega

/-- The bytes of the table are small. -/
def SmallOffsets (hal : HalData) : Prop := ∀ group < 7, ∀ index < 16, ∀ i < 4, byteOf (hal.offset group index) i ≤ 0x1f

theorem selectedGroup_lt {group : ℕ} (h : selectedGroup hal channel = some group) : group < 7 := by
  have hchannel : channelGroup channel ≤ 2 := by
    rw [channelGroup]
    split
    · omega
    split <;> omega
  rw [selectedGroup] at h
  split at h
  · obtain rfl := Option.some.inj h
    omega
  split at h
  · obtain rfl := Option.some.inj h
    split <;> omega
  · exact absurd h (by simp)

theorem regulatoryGroup_eq {group : ℕ} (h : selectedGroup hal channel = some group) (chnlGroup : ℕ) :
    regulatoryGroup hal channel chnlGroup = group := by
  rw [selectedGroup] at h
  rw [regulatoryGroup]
  split at h
  next hone =>
    rw [if_pos hone]
    exact Option.some.inj h
  next hone =>
    split at h
    next hthree =>
      obtain rfl := Option.some.inj h
      rw [if_neg hone, if_pos hthree, channelGroup]
      cases hal.bw40 <;> rfl
    · exact absurd h (by simp)

theorem toNat_pwrDiffLimit (hpower : hal.power = halEfuseParseTxPowerInfo promContent false) (hchannel : 1 ≤ channel)
    (hsmall : SmallOffsets hal) (index : Fin 6) {i : ℕ} (hi : i < 4) : (pwrDiffLimit hal channel index i).toNat =
      min (byteOf (hal.offset 0 index) i) (maxOffset promContent channel hal.bw40) := by
  have hbyte := hsmall 0 (by decide) index (by omega) i hi
  have hlow : (lowSeven (hal.offset 0 index) i).toNat = byteOf (hal.offset 0 index) i := by
    rw [toNat_lowSeven _ hi]
    rw [byteOf] at hbyte ⊢
    omega
  have hgroup : (if hal.bw40 then hal.power.pwrGroupHT40 (channel - 1) else hal.power.pwrGroupHT20 (channel - 1)).toNat =
      maxOffset promContent channel hal.bw40 := hpower ▸ pwrGroup_toNat hchannel hal.bw40
  rw [pwrDiffLimit, toNat_limited, hlow, hgroup]

/-- What the code adds is the word of the offsets that the mode selects. -/
theorem toNat_regulatoryOffset (hpower : hal.power = halEfuseParseTxPowerInfo promContent false) (hchannel : 1 ≤ channel)
    (hsmall : SmallOffsets hal) (index : Fin 6) (chnlGroup : ℕ) {offset : Fin 4 → ℤ}
    (hoffset : ∀ i, selectedOffset hal promContent channel index i = some (offset i)) :
    ((regulatoryOffset hal channel index chnlGroup).toNat : ℤ) = pack offset ∧ ∀ i, 0 ≤ offset i ∧ offset i ≤ 31 := by
  have htable : ∀ group < 7, (∀ i : Fin 4, offset i = byteOf (hal.offset group index) i) →
      ((hal.offset group index).toNat : ℤ) = pack offset ∧ ∀ i, 0 ≤ offset i ∧ offset i ≤ 31 := by
    intro group hgroup heq
    have hbytes := toNat_eq_bytes (hal.offset group index)
    refine ⟨?_, fun i => ?_⟩
    · rw [pack, heq 0, heq 1, heq 2, heq 3]
      exact_mod_cast hbytes
    · have hi := hsmall group hgroup index (by omega) i i.isLt
      rw [heq i]
      omega
  rw [regulatoryOffset]
  by_cases hone : hal.eepromRegulatory = 1
  · rw [if_pos hone]
    have hmap : ∀ i : Fin 4, (selectedGroup hal channel).map (fun group => (byteOf (hal.offset group index) i : ℤ)) =
        some (offset i) := by
      intro i
      rw [← hoffset i, selectedOffset, if_pos hone]
    obtain ⟨group, hgroup, -⟩ := Option.map_eq_some_iff.mp (hmap 0)
    rw [regulatoryGroup_eq hgroup]
    refine htable group (selectedGroup_lt hgroup) fun i => ?_
    have hi := hmap i
    rw [hgroup] at hi
    exact (Option.some.inj hi).symm
  rw [if_neg hone]
  by_cases htwo : hal.eepromRegulatory = 2
  · rw [if_pos htwo]
    have hzero : offset = fun _ => 0 := by
      funext i
      have hi := hoffset i
      rw [selectedOffset, if_neg hone, if_pos htwo] at hi
      exact (Option.some.inj hi).symm
    rw [hzero]
    exact ⟨rfl, fun _ => ⟨le_rfl, Int.natCast_nonneg 31⟩⟩
  rw [if_neg htwo]
  by_cases hthree : hal.eepromRegulatory = 3
  · rw [if_pos hthree]
    have hlimit : ∀ i : Fin 4, offset i = (pwrDiffLimit hal channel index i).toNat := by
      intro i
      have hi := hoffset i
      rw [selectedOffset, if_neg hone, if_neg htwo, if_pos hthree] at hi
      rw [toNat_pwrDiffLimit hpower hchannel hsmall index i.isLt]
      exact (Option.some.inj hi).symm
    have hlt : ∀ i, ((pwrDiffLimit hal channel index i).setWidth 32).toNat < 256 := fun i => by
      rw [toNat_setWidth_byte]
      exact (pwrDiffLimit hal channel index i).isLt
    refine ⟨?_, fun i => ?_⟩
    · rw [customerLimit, toNat_ofLanes (hlt 0) (hlt 1) (hlt 2) (hlt 3), toNat_setWidth_byte, toNat_setWidth_byte,
        toNat_setWidth_byte, toNat_setWidth_byte, pack, hlimit 0, hlimit 1, hlimit 2, hlimit 3]
      push_cast
      rfl
    · have hbyte := hsmall 0 (by decide) index (by omega) i i.isLt
      rw [hlimit i, toNat_pwrDiffLimit hpower hchannel hsmall index i.isLt]
      omega
  · rw [if_neg hthree]
    refine htable 0 (by decide) fun i => ?_
    have hi := hoffset i
    rw [selectedOffset, if_neg hone, if_neg htwo, if_neg hthree] at hi
    exact (Option.some.inj hi).symm

theorem pack_wordOf (o : Fin 4 → ℤ) (s k : ℤ) : pack (wordOf o s k) = pack o + 16843009 * (s % 256) - 16843009 * k := by
  simp only [pack, wordOf]
  ring

theorem toNat_writeVal (hpower : hal.power = halEfuseParseTxPowerInfo promContent false) (hrf : hal.rf2T2R = false)
    (hchannel : 1 ≤ channel) (hsmall : SmallOffsets hal) (hlevel : hal.dynamicTxHighPowerLvl = TxHighPwrLevel_Normal ∨
      hal.dynamicTxHighPowerLvl = TxHighPwrLevel_BT1) (index : Fin 6) (chnlGroup : ℕ) {offset : Fin 4 → ℤ}
    (hoffset : ∀ i, selectedOffset hal promContent channel index i = some (offset i)) :
    ((getTxPowerWriteValByRegulatory hal channel index chnlGroup (powerBase0 hal (getTxPowerIndex hal channel) channel)
      (powerBase1 hal (getTxPowerIndex hal channel) channel)).toNat : ℤ) = pack (wordOf offset
        (base promContent channel + diff promContent channel hal.bw40 index) (back hal)) % 4294967296 := by
  have hoff := (toNat_regulatoryOffset hpower hchannel hsmall index chnlGroup hoffset).1
  have hbase := toNat_powerBase hpower hrf hchannel index
  rw [getTxPowerWriteValByRegulatory, pack_wordOf, ← hoff, ← hbase]
  rcases hlevel with hnormal | hbt1
  · have hback : back hal = 0 := by
      rw [back, if_neg]
      rw [hnormal]
      decide
    rw [hnormal, if_neg (by decide), if_neg (by decide), if_neg (by decide), BitVec.toNat_add, hback]
    push_cast
    omega
  · have hback : back hal = 6 := by
      rw [back, if_pos hbt1]
    rw [hbt1, if_pos rfl, if_neg (by decide), if_neg (by decide), BitVec.toNat_sub, BitVec.toNat_add, hback]
    have hsix : (0x06060606 : BitVec 32).toNat = 101058054 := rfl
    rw [hsix]
    push_cast
    omega

/-! ## What is written -/

theorem regOffsetA_inj {i j : Fin 6} (h : regOffsetA i = regOffsetA j) : i = j := by
  revert i j
  decide

theorem byteOf_outWord (writeVal : BitVec 32) (i : Fin 4) : byteOf (outWord writeVal) i = (pwrVal writeVal i).toNat := by
  have hlt : ∀ i, ((pwrVal writeVal i).setWidth 32).toNat < 256 := fun i => by
    rw [toNat_setWidth_byte]
    exact (pwrVal writeVal i).isLt
  obtain ⟨h0, h1, h2, h3⟩ := byteOf_ofLanes (hlt 0) (hlt 1) (hlt 2) (hlt 3)
  match i with
  | 0 => exact h0.trans (toNat_setWidth_byte _)
  | 1 => exact h1.trans (toNat_setWidth_byte _)
  | 2 => exact h2.trans (toNat_setWidth_byte _)
  | 3 => exact h3.trans (toNat_setWidth_byte _)

theorem toNat_pwrVal {writeVal : BitVec 32} {x : Fin 4 → ℤ} (h : (writeVal.toNat : ℤ) = pack x % 4294967296) (i : Fin 4) :
    ((pwrVal writeVal i).toNat : ℤ) = min 63 (seven x i) := by
  have hmax : RF6052_MAX_TX_PWR.toNat = 63 := rfl
  have hpow : (2 : ℤ) ^ ((i : ℕ) * 8) = 256 ^ (i : ℕ) := by
    rw [mul_comm, pow_mul]
    rfl
  rw [pwrVal, toNat_limited, toNat_lowSeven _ i.isLt, hmax, seven, ← h, ← hpow]
  push_cast
  exact min_comm _ _

theorem valuesWritten_writeOFDMPowerReg (index j : Fin 6) (writeVal : BitVec 32) :
    valuesWritten (regOffsetA index) (writeOFDMPowerReg hal j writeVal) = if j = index then [outWord writeVal] else [] := by
  have htail : ∀ c : Prop, [Decidable c] → valuesWritten (regOffsetA index)
      (if c then trainingBytes (pwrVal writeVal 3) else []) = [] := by
    intro c _
    split <;> rfl
  by_cases hj : j = index
  · rw [if_pos hj, hj, writeOFDMPowerReg]
    have hcons := htail ((hal.rf2T2R = true ∧ regOffsetA index = 0xe1c) ∨ (hal.rf2T2R = false ∧ regOffsetA index = 0xe14))
    rw [valuesWritten] at hcons ⊢
    have hhead : RegWrite.valueAt (regOffsetA index) (.bb (regOffsetA index) _) = some (outWord writeVal) := if_pos rfl
    rw [List.filterMap_cons_some hhead, hcons]
  · rw [if_neg hj, writeOFDMPowerReg]
    have hcons := htail ((hal.rf2T2R = true ∧ regOffsetA j = 0xe1c) ∨ (hal.rf2T2R = false ∧ regOffsetA j = 0xe14))
    rw [valuesWritten] at hcons ⊢
    have hhead : RegWrite.valueAt (regOffsetA index) (.bb (regOffsetA j) (outWord writeVal)) = none :=
      if_neg fun h => hj (regOffsetA_inj h)
    rw [List.filterMap_cons_none hhead, hcons]

theorem flatMap_single {α : Type} (f : Fin 6 → α) (index : Fin 6) :
    ((List.finRange 6).flatMap fun j => if j = index then [f j] else []) = [f index] := by
  fin_cases index <;> rfl

theorem valuesWritten_phySetTxPowerLevel (hpower : hal.power = halEfuseParseTxPowerInfo promContent false)
    (stack : Fin 6 → ℕ) (index : Fin 6) : valuesWritten (regOffsetA index) (phySetTxPowerLevel hal channel stack) =
      [outWord (getTxPowerWriteValByRegulatory hal channel index (stack index)
        (powerBase0 hal (getTxPowerIndex hal channel) channel)
        (powerBase1 hal (getTxPowerIndex hal channel) channel))] := by
  have hread : hal.power.bTXPowerDataReadFromEEPORM ≠ false := by
    rw [hpower]
    exact Bool.noConfusion
  rw [phySetTxPowerLevel, if_neg hread, phyRF6052SetOFDMTxPower, valuesWritten, List.filterMap_flatMap]
  have hone : ∀ j : Fin 6, List.filterMap (RegWrite.valueAt (regOffsetA index)) (writeOFDMPowerReg hal j _) = _ := fun j =>
    valuesWritten_writeOFDMPowerReg index j (getTxPowerWriteValByRegulatory hal channel j (stack j)
      (powerBase0 hal (getTxPowerIndex hal channel) channel) (powerBase1 hal (getTxPowerIndex hal channel) channel))
  simp only [hone]
  exact flatMap_single _ index

end

/-! ## When the powers are the clamped sums -/

/-- **Every byte of every register is the clamped sum exactly if nothing is borrowed and the mode selects a group.** -/
theorem clampedSums_iff (hal : HalData) (promContent : ℕ → BitVec 8)
    (hpower : hal.power = halEfuseParseTxPowerInfo promContent false) (hrf : hal.rf2T2R = false) (channel : ℕ)
    (hlow : 1 ≤ channel) (_hhigh : channel ≤ 14) (_hgroups : 1 ≤ hal.pwrGroupCnt) (hsmall : SmallOffsets hal)
    (hlevel : hal.dynamicTxHighPowerLvl = TxHighPwrLevel_Normal ∨ hal.dynamicTxHighPowerLvl = TxHighPwrLevel_BT1)
    (stack : Fin 6 → ℕ) :
    ClampedSums hal promContent channel (phySetTxPowerLevel hal channel stack) ↔ NoBorrow hal promContent channel := by
  apply forall_congr'
  intro index
  have hwritten : valuesWritten (regOffsetA index) (phySetTxPowerLevel hal channel stack) = _ :=
    valuesWritten_phySetTxPowerLevel hpower stack index
  have hbase : 0 ≤ base promContent channel ∧ base promContent channel ≤ 63 := base_mem
  have hdiff : -8 ≤ diff promContent channel hal.bw40 index ∧ diff promContent channel hal.bw40 index ≤ 15 :=
    diff_mem hal.bw40 index
  have hk : back hal = 0 ∨ back hal = 6 := by
    rw [back]
    split
    · exact Or.inr rfl
    · exact Or.inl rfl
  have hmax : (RF6052_MAX_TX_PWR.toNat : ℤ) = 63 := rfl
  have hbytes : ∀ offset : Fin 4 → ℤ, (∀ i, selectedOffset hal promContent channel index i = some (offset i)) →
      ((∀ i : Fin 4, (byteOf (outWord (getTxPowerWriteValByRegulatory hal channel index (stack index)
        (powerBase0 hal (getTxPowerIndex hal channel) channel)
        (powerBase1 hal (getTxPowerIndex hal channel) channel))) i : ℤ) =
          max 0 (min 63 (base promContent channel + diff promContent channel hal.bw40 index + offset i - back hal))) ↔
        InOrder (base promContent channel + diff promContent channel hal.bw40 index) fun i =>
          base promContent channel + diff promContent channel hal.bw40 index + offset i - back hal) := by
    intro offset hoffset
    have hword := toNat_writeVal hpower hrf hlow hsmall hlevel index (stack index) hoffset
    have hrange := (toNat_regulatoryOffset hpower hlow hsmall index (stack index) hoffset).2
    rw [← clamped_wordOf_iff (by omega) (by omega) hrange hk]
    refine forall_congr' fun i => ?_
    rw [byteOf_outWord, toNat_pwrVal hword]
  constructor
  · rintro ⟨value, hvalue, hall⟩
    rw [hwritten] at hvalue
    obtain rfl := List.head_eq_of_cons_eq hvalue
    choose offset hoffset hsum using hall
    exact ⟨offset, hoffset, (hbytes offset hoffset).mp hsum⟩
  · rintro ⟨offset, hoffset, horder⟩
    exact ⟨_, hwritten, fun i => ⟨offset i, hoffset i, (hbytes offset hoffset).mpr horder i⟩⟩

/-- An efuse whose HT40 indices and differences all are zero, at 40 MHz in mode 2. -/
def zeroHal (level : ℕ) : HalData where
  power := halEfuseParseTxPowerInfo (fun _ => 0) false
  rf2T2R := false
  bw40 := true
  eepromRegulatory := 2
  pwrGroupCnt := 1
  offset := fun _ _ => 0
  dynamicTxHighPowerLvl := level

theorem clampedSums_iff_zero :
    ClampedSums (zeroHal TxHighPwrLevel_Normal) (fun _ => 0) 6 (phySetTxPowerLevel (zeroHal TxHighPwrLevel_Normal) 6 0) ↔
      NoBorrow (zeroHal TxHighPwrLevel_Normal) (fun _ => 0) 6 :=
  clampedSums_iff (zeroHal TxHighPwrLevel_Normal) (fun _ => 0) rfl rfl 6 (by decide) (by decide) (by decide)
    (fun _ _ _ _ i _ => (byteOf_zero i).le.trans (Nat.zero_le _)) (Or.inl rfl) 0

/-- In the BT1 mode the first rate is six below zero, and the largest power is written for it. -/
theorem not_clampedSums_bt1 : ¬ ClampedSums (zeroHal TxHighPwrLevel_BT1) (fun _ => 0) 6
    (phySetTxPowerLevel (zeroHal TxHighPwrLevel_BT1) 6 0) := by
  intro h
  obtain ⟨value, hvalue, hall⟩ := h 0
  have hwritten : valuesWritten (regOffsetA 0) (phySetTxPowerLevel (zeroHal TxHighPwrLevel_BT1) 6 0) = [0x3f3f3f3f] := by
    decide
  rw [hwritten] at hvalue
  obtain rfl := List.head_eq_of_cons_eq hvalue
  obtain ⟨offset, hoffset, hsum⟩ := hall 0
  obtain rfl := Option.some.inj (hoffset : some (0 : ℤ) = some offset)
  revert hsum
  decide

end TxPower

end Rtl8723au
