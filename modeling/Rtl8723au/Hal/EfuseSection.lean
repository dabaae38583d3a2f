import Rtl8723au.Hal.Efuse
import Rtl8723au.Hal.EfuseLog

/-! `Hal_EfusePgPacketRead` of `hal/rtl8723a_hal_init.c`: the eight bytes of one section, out of the log that
`hal_ReadEFuse_WiFi` makes the whole map of. -/
namespace Rtl8723au.Efuse
open AccessM
set_option autoImplicit false

variable (o : Outcomes)

/-- A word of a packet of the section: the address behind it and the data. -/
def sectionWord (hworden i : ℕ) (s : ℕ × Map) : EfuseM (ℕ × Map) :=
  if wordEnabled hworden i then do
    let low ← readEFuseByte s.1
    let high ← readEFuseByte (s.1 + 1)
    pure (s.1 + 2, Function.update (Function.update s.2 (i * 2) low) (i * 2 + 1) high)
  else pure s

/-- The words of a packet; those of another section are skipped. -/
def sectionWords (offset hoffset hworden addr : ℕ) (data : Map) : EfuseM (ℕ × Map) :=
  if hoffset = offset then loopAcc (sectionWord hworden) (addr, data) EFUSE_MAX_WORD_UNIT
  else pure (addr + calculateWordCnts hworden * 2, data)

/-- A pass at the header at `addr`: what is returned when it is the last, or where the next header is. -/
def sectionPass (offset addr : ℕ) (data : Map) : EfuseM (Bool ⊕ ℕ × Map) := do
  let header ← efuseOneByteRead o addr
  if !header.1 then pure (.inl false)
  else if header.2 = 0xFF then pure (.inl true)
  else if extHeader header.2 then do
    let ext ← efuseOneByteRead o (addr + 1)
    if allWordsDisabled ext.2 then pure (.inr (addr + 2, data))
    else .inr <$> sectionWords offset (extHdrOffset header.2 ext.2) (hdrWordEn ext.2) (addr + 2) data
  else .inr <$> sectionWords offset (hdrOffset header.2) (hdrWordEn header.2) (addr + 1) data

/-- The loop; a pass goes on one byte at least. -/
def sectionLoop (offset : ℕ) : ℕ → ℕ → Map → EfuseM (Bool × Map)
  | 0, _, data => pure (true, data)
  | fuel + 1, addr, data =>
    if addr < EFUSE_REAL_CONTENT_LEN then do
      match ← sectionPass o offset addr data with
      | .inl ret => pure (ret, data)
      | .inr (next, data) => sectionLoop offset fuel next data
    else pure (true, data)

/-- `Hal_EfusePgPacketRead`, with the buffer if there is one. -/
def halEfusePgPacketRead (offset : ℕ) (data : Option Map) : EfuseM (Bool × Option Map) :=
  match data with
  | none => pure (false, none)
  | some data =>
    if offset > maxSection .WIFI then pure (false, some data)
    else (fun r => (r.1, some r.2)) <$> sectionLoop o offset EFUSE_REAL_CONTENT_LEN 0 blankMap

/-! ## The section and the map -/

/-- The data are those of the section in the map. -/
def Sees (offset : ℕ) (data tbl : Map) : Prop := ∀ k < PGPKT_DATA_SIZE, data k = tbl (PGPKT_DATA_SIZE * offset + k)

section
variable {offset hoffset hworden addr : ℕ} {data tbl : Map} {s : Session}

theorem sectionWord_st (i : ℕ) (t : ℕ × Map) : ((sectionWord hworden i t).run s).st = s := by
  unfold sectionWord
  split <;> rfl

theorem sectionWord_val (i : ℕ) (t : ℕ × Map) :
    ((sectionWord hworden i t).run s).val = readWord (s.hw.cells s.hw.bank) 0 hworden t i := by
  unfold sectionWord readWord
  split
  · rw [Nat.zero_mul, Nat.zero_add, Nat.mul_comm 2 i]
    rfl
  · rfl

theorem loop_sectionWord_st (n : ℕ) : ((loopAcc (sectionWord hworden) (addr, data) n).run s).st = s := by
  induction n with
  | zero => rfl
  | succ n ih =>
    rw [loopAcc, bind_st, ih]
    exact sectionWord_st _ _

theorem loop_sectionWord_val (n : ℕ) : ((loopAcc (sectionWord hworden) (addr, data) n).run s).val =
    (List.range n).foldl (readWord (s.hw.cells s.hw.bank) 0 hworden) (addr, data) := by
  induction n with
  | zero => rfl
  | succ n ih =>
    rw [loopAcc, bind_val, loop_sectionWord_st, sectionWord_val, ih, List.range_succ, List.foldl_append]
    rfl

theorem sectionWords_st : ((sectionWords offset hoffset hworden addr data).run s).st = s := by
  unfold sectionWords
  split
  · exact loop_sectionWord_st _
  · rfl

theorem storeWords_sees {tbl : Map} (bytes : ℕ → UInt8) (h : Sees offset data tbl) :
    Sees offset (storeWords 0 hworden 4 bytes data) (storeWords offset hworden 4 bytes tbl) := by
  intro k hk
  have hbase : PGPKT_DATA_SIZE * offset + k - offset * 8 = k := by
    show 8 * offset + k - _ = _
    omega
  have hlow : offset * 8 ≤ PGPKT_DATA_SIZE * offset + k := by
    show _ ≤ 8 * offset + k
    omega
  have hhigh : PGPKT_DATA_SIZE * offset + k < offset * 8 + 2 * 4 := by
    have hk : k < 8 := hk
    show 8 * offset + k < _
    omega
  unfold storeWords
  have hk8 : k < 2 * 4 := hk
  rw [hbase, Nat.zero_mul, Nat.sub_zero, h k hk]
  simp only [Nat.zero_le, Nat.zero_add, hlow, hhigh, hk8, true_and]

theorem storeWords_other {tbl : Map} (bytes : ℕ → UInt8) (hne : hoffset ≠ offset) (h : Sees offset data tbl) :
    Sees offset data (storeWords hoffset hworden 4 bytes tbl) := by
  intro k hk
  rw [h k hk]
  refine (if_neg ?_).symm
  have hk : k < 8 := hk
  rintro ⟨hlow, hhigh, -⟩
  have hlow : hoffset * 8 ≤ 8 * offset + k := hlow
  have hhigh : 8 * offset + k < hoffset * 8 + 2 * 4 := hhigh
  omega

theorem sectionWords_sees {tbl : Map} (hoffset32 : offset < EFUSE_MAX_SECTION_8723A) (h : Sees offset data tbl) :
    ∃ data', ((sectionWords offset hoffset hworden addr data).run s).val =
        ((readWords (s.hw.cells s.hw.bank) EFUSE_MAX_SECTION_8723A hoffset hworden addr tbl).1, data') ∧
      Sees offset data' (readWords (s.hw.cells s.hw.bank) EFUSE_MAX_SECTION_8723A hoffset hworden addr tbl).2 := by
  rw [readWords_eq]
  unfold sectionWords
  by_cases hsame : hoffset = offset
  · subst hsame
    rw [if_pos rfl, if_pos hoffset32, loop_sectionWord_val, show EFUSE_MAX_WORD_UNIT = 4 from rfl, foldl_readWord]
    exact ⟨_, rfl, storeWords_sees _ h⟩
  · rw [if_neg hsame, calculateWordCnts_eq, Nat.mul_comm]
    refine ⟨data, rfl, ?_⟩
    dsimp only
    split
    · exact storeWords_other _ hsame h
    · exact h

variable {o}

theorem sectionPass_hw : ((sectionPass o offset addr data).run s).st.hw = s.hw := by
  rw [sectionPass, bind_st]
  split
  · rfl
  · split
    · rfl
    · split
      · rw [bind_st]
        split
        · rfl
        · rw [map_st, sectionWords_st]
          rfl
      · rw [map_st, sectionWords_st]
        rfl

theorem sectionPass_sees {tbl : Map} (addr : ℕ) (ho : Readable o) (hoffset32 : offset < EFUSE_MAX_SECTION_8723A)
    (h : Sees offset data tbl) :
    match readPacket (s.hw.cells s.hw.bank) EFUSE_MAX_SECTION_8723A addr tbl with
    | none => ((sectionPass o offset addr data).run s).val = .inl true
    | some (next, tbl') => ∃ data', ((sectionPass o offset addr data).run s).val = .inr (next, data') ∧
        Sees offset data' tbl' := by
  have hsuccess : ¬(!true) = true := Bool.false_ne_true
  rw [sectionPass, bind_val, efuseOneByteRead_val ho]
  dsimp only
  rw [if_neg hsuccess]
  set c := s.hw.cells s.hw.bank with hc
  have hread (a : ℕ) : s.hw.oneByteRead a = c a := rfl
  rw [hread]
  by_cases hblank : c addr = 0xFF
  · rw [readPacket_blank hblank, if_pos hblank]
    rfl
  rw [if_neg hblank]
  by_cases hext : extHeader (c addr) = true
  · rw [if_pos hext, bind_val, efuseOneByteRead_val ho]
    dsimp only
    rw [efuseOneByteRead_hw, hread]
    by_cases hwde : allWordsDisabled (c (addr + 1)) = true
    · rw [readPacket_disabled hblank hext hwde, if_pos hwde]
      exact ⟨data, rfl, h⟩
    · rw [readPacket_ext hblank hext hwde, if_neg hwde, map_val]
      obtain ⟨data', hval, hsees⟩ := sectionWords_sees hoffset32 h
      exact ⟨data', congrArg Sum.inr hval, hsees⟩
  · rw [readPacket_short hblank hext, if_neg hext, map_val]
    obtain ⟨data', hval, hsees⟩ := sectionWords_sees hoffset32 h
    exact ⟨data', congrArg Sum.inr hval, hsees⟩

/-- The loops run side by side; by induction on the passes that are allowed. -/
theorem sectionLoop_sees {tbl : Map} (ho : Readable o) (hoffset32 : offset < EFUSE_MAX_SECTION_8723A) (fuel addr : ℕ)
    (h : Sees offset data tbl) :
    ((sectionLoop o offset fuel addr data).run s).val.1 = true ∧
      Sees offset ((sectionLoop o offset fuel addr data).run s).val.2
        (readLoop (s.hw.cells s.hw.bank) EFUSE_MAX_SECTION_8723A fuel addr tbl).tbl := by
  induction fuel generalizing addr data tbl s with
  | zero => exact ⟨rfl, h⟩
  | succ fuel ih =>
    rw [sectionLoop, readLoop]
    by_cases hinside : addr < EFUSE_REAL_CONTENT_LEN
    · have hpass := sectionPass_sees (s := s) addr ho hoffset32 h
      rw [if_pos hinside, if_pos hinside, bind_val]
      cases hread : readPacket (s.hw.cells s.hw.bank) EFUSE_MAX_SECTION_8723A addr tbl with
      | none =>
        rw [hread] at hpass
        rw [hpass]
        exact ⟨rfl, h⟩
      | some r =>
        rw [hread] at hpass
        obtain ⟨data', hval, hsees⟩ := hpass
        rw [hval]
        have hrest := ih (s := ((sectionPass o offset addr data).run s).st) r.1 hsees
        rw [sectionPass_hw] at hrest
        exact hrest
    · rw [if_neg hinside, if_neg hinside]
      exact ⟨rfl, h⟩

end

/-- The section is what `hal_ReadEFuse_WiFi` would make of the content that is selected. -/
theorem pgPacketRead_readBank (o : Outcomes) (s : Session) (offset : ℕ) (data : Map) (ho : Readable o)
    (hoffset : offset < EFUSE_MAX_SECTION_8723A) :
    ∃ data', ((halEfusePgPacketRead o offset (some data)).run s).val = (true, some data') ∧
      Sees offset data' (readBank (s.hw.cells s.hw.bank) EFUSE_MAX_SECTION_8723A blankMap).tbl := by
  have hblank : Sees offset blankMap blankMap := fun _ _ => rfl
  obtain ⟨hret, hsees⟩ := sectionLoop_sees (s := s) ho hoffset EFUSE_REAL_CONTENT_LEN 0 hblank
  have hlegal : ¬offset > maxSection .WIFI := not_lt_of_ge hoffset.le
  refine ⟨((sectionLoop o offset EFUSE_REAL_CONTENT_LEN 0 blankMap).run s).val.2, ?_, hsees⟩
  rw [halEfusePgPacketRead, if_neg hlegal, map_val, hret]

/-- **The section is that of the map.** Every section that exists is read as the bytes that the map has of it, when the
content that is selected is the one the map is made of. -/
theorem pgPacketRead_section (o : Outcomes) (s : Session) (offset : ℕ) (data : Map) (ho : Readable o)
    (hoffset : offset < EFUSE_MAX_SECTION_8723A) (hcontent : s.hw.cells s.hw.bank = s.hw.cells 0) :
    ∃ data', ((halEfusePgPacketRead o offset (some data)).run s).val = (true, some data') ∧
      ∀ k < PGPKT_DATA_SIZE, data' k = s.hw.readEFuseWiFi.1 (PGPKT_DATA_SIZE * offset + k) := by
  have hread := pgPacketRead_readBank o s offset data ho hoffset
  rw [hcontent] at hread
  exact hread

/-- A log with two packets of section 3 and one of section 17 between them. -/
def threePackets : EfuseHal where
  cells _ a := [0x3E, 0x12, 0x34, 0x2F, 0x2D, 0x56, 0x78, 0x3E, 0xAB, 0xCD].getD a 0xFF
  bank := 0
  usedBytes := 0
  btUsedBytes := 0

theorem pgPacketRead_section_threePackets :
    ∃ data', ((halEfusePgPacketRead ⟨fun _ => true, fun _ _ v => v⟩ 3 (some blankMap)).run ⟨threePackets, 0⟩).val =
        (true, some data') ∧
      ∀ k < PGPKT_DATA_SIZE, data' k = threePackets.readEFuseWiFi.1 (PGPKT_DATA_SIZE * 3 + k) :=
  pgPacketRead_section ⟨fun _ => true, fun _ _ v => v⟩ ⟨threePackets, 0⟩ 3 blankMap (fun _ => rfl) (by decide) rfl

end Rtl8723au.Efuse
