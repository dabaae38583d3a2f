import Rtl8723au.Hal.EfuseWrite

/-! What a device stores, its cursors, and the packet writers. The Bluetooth log goes on in the next bank once it has
passed the protected bytes of one; the readers, the size scan and the writers all take that for the end of a bank. -/
namespace Rtl8723au.Efuse
set_option autoImplicit false

/-! ## The Bluetooth banks -/

/-- The log over the banks from `bank` on, with the bank and the address where it ends: each bank is full before the
next is used. -/
inductive BanksFrom (cells : ℕ → Bank) : ℕ → Map → Map → ℕ → ℕ → Prop
  | none (tbl : Map) : BanksFrom cells EFUSE_MAX_BANK tbl tbl EFUSE_MAX_BANK 0
  | last {bank size : ℕ} {tbl tbl' : Map} (inside : bank < EFUSE_MAX_BANK)
    (log : Log (cells bank) EFUSE_BT_MAX_SECTION size tbl tbl') (room : size < availableBytesBank .BT)
    (blank : ∀ b, bank < b → b < EFUSE_MAX_BANK → BlankFrom (cells b) 0) : BanksFrom cells bank tbl tbl' bank size
  | full {bank size endBank endAddr : ℕ} {tbl tbl' tbl'' : Map} (inside : bank < EFUSE_MAX_BANK)
    (log : Log (cells bank) EFUSE_BT_MAX_SECTION size tbl tbl') (full : availableBytesBank .BT ≤ size)
    (rest : BanksFrom cells (bank + 1) tbl' tbl'' endBank endAddr) : BanksFrom cells bank tbl tbl'' endBank endAddr

/-- What the efuse of a type stores: the map in a well-formed log, followed by blank cells. -/
def Stored (cells : ℕ → Bank) : EfuseType → Map → Prop
  | .WIFI, tbl => ∃ last, Log (cells 0) EFUSE_MAX_SECTION_8723A last blankMap tbl
  | .BT, tbl => ∃ endBank endAddr, BanksFrom cells 1 blankMap tbl endBank endAddr

section Banks
variable {cells : ℕ → Bank} {bank size endBank endAddr addr : ℕ} {tbl tbl' : Map}

theorem range'_bank (h : bank < EFUSE_MAX_BANK) :
    List.range' bank (EFUSE_MAX_BANK - bank) = bank :: List.range' (bank + 1) (EFUSE_MAX_BANK - (bank + 1)) := by
  have hlen : EFUSE_MAX_BANK - bank = EFUSE_MAX_BANK - (bank + 1) + 1 := by omega
  rw [hlen, List.range'_succ]

theorem Log.empty {c : Bank} (sections : ℕ) (tbl : Map) (h : BlankFrom c 0) : Log c sections 0 tbl tbl :=
  ⟨.refl, Nat.zero_le _, h⟩

theorem BanksFrom.empty (hle : bank ≤ EFUSE_MAX_BANK) (tbl : Map)
    (h : ∀ b, bank ≤ b → b < EFUSE_MAX_BANK → BlankFrom (cells b) 0) : BanksFrom cells bank tbl tbl bank 0 := by
  obtain hlt | rfl := Nat.lt_or_eq_of_le hle
  · exact .last hlt (Log.empty _ tbl (h bank le_rfl hlt)) (by decide) fun b hb => h b hb.le
  · exact .none tbl

theorem BanksFrom.endBank_le (h : BanksFrom cells bank tbl tbl' endBank endAddr) :
    bank ≤ endBank ∧ endBank ≤ EFUSE_MAX_BANK := by
  induction h with
  | none tbl => exact ⟨le_rfl, le_rfl⟩
  | last inside log room blank => exact ⟨le_rfl, inside.le⟩
  | full inside log full rest ih => exact ⟨(Nat.le_succ _).trans ih.1, ih.2⟩

theorem BanksFrom.room (h : BanksFrom cells bank tbl tbl' endBank endAddr) : endAddr < availableBytesBank .BT := by
  induction h with
  | none tbl => decide
  | last inside log room blank => exact room
  | full inside log full rest ih => exact ih

theorem BanksFrom.blank (h : BanksFrom cells bank tbl tbl' endBank endAddr) (hend : endBank < EFUSE_MAX_BANK) :
    BlankFrom (cells endBank) endAddr ∧ ∀ b, endBank < b → b < EFUSE_MAX_BANK → BlankFrom (cells b) 0 := by
  induction h with
  | none tbl => exact absurd hend (Nat.lt_irrefl _)
  | last inside log room blank => exact ⟨log.blank, blank⟩
  | full inside log full rest ih => exact ih hend

theorem Log.readBank_addr {c : Bank} {sections : ℕ} (h : Log c sections size tbl tbl') :
    (Efuse.readBank c sections tbl).addr - 1 < availableBytesBank .BT ↔ size < availableBytesBank .BT := by
  have hlen : availableBytesBank .BT = 496 := rfl
  have hcontent : EFUSE_REAL_CONTENT_LEN = 512 := rfl
  have hinside := h.inside
  rw [h.readBank]
  dsimp only
  split <;> omega

theorem BanksFrom.readBanks (h : BanksFrom cells bank tbl tbl' endBank endAddr) (addr : ℕ)
    (haddr : bank = EFUSE_MAX_BANK → 0 < addr) :
    ∃ last, readBanks cells (List.range' bank (EFUSE_MAX_BANK - bank)) addr tbl = (last, endBank, tbl') ∧ 0 < last ∧
      (endBank < EFUSE_MAX_BANK → last = endAddr + 1) := by
  induction h generalizing addr with
  | none tbl => exact ⟨addr, rfl, haddr rfl, fun hlt => absurd hlt (Nat.lt_irrefl _)⟩
  | @last bank size tbl tbl' inside log room blank =>
    rw [range'_bank inside, Efuse.readBanks]
    have hsize : size < EFUSE_REAL_CONTENT_LEN := room.trans (by decide)
    rw [if_pos (log.readBank_addr.mpr room), log.readBank, if_pos hsize]
    exact ⟨size + 1, rfl, Nat.succ_pos size, fun _ => rfl⟩
  | @full bank size endBank endAddr tbl tbl' tbl'' inside log full rest ih =>
    rw [range'_bank inside, Efuse.readBanks]
    have hpos : 0 < (readBank (cells bank) EFUSE_BT_MAX_SECTION tbl).addr := by
      have hfull : (0 : ℕ) < size := lt_of_lt_of_le (by decide) full
      rw [log.readBank]
      dsimp only
      split <;> omega
    rw [if_neg fun hlt => absurd (log.readBank_addr.mp hlt) (Nat.not_lt_of_le full)]
    have htbl : (readBank (cells bank) EFUSE_BT_MAX_SECTION tbl).tbl = tbl' := by rw [log.readBank]
    rw [htbl]
    exact ih _ fun _ => hpos

theorem sizeBank_blank {c : Bank} {skip : ℕ} (h : c addr = 0xFF) : sizeBank c skip addr = addr := sizeLoop_blank h

theorem BanksFrom.sizeBanks (h : BanksFrom cells bank tbl tbl' endBank endAddr) (hend : endBank < EFUSE_MAX_BANK)
    (selected : ℕ) :
    sizeBanks cells (List.range' endBank (EFUSE_MAX_BANK - endBank)) selected endAddr = (endBank, endAddr, endBank) := by
  have hroom := h.room
  have hblank := (h.blank hend).1 endAddr le_rfl (hroom.trans (by decide))
  rw [range'_bank hend, Efuse.sizeBanks, sizeBank_blank hblank, if_pos hroom]

end Banks

/-! ## Cursors -/

/-- The device stores the map and its cursor leads the size scan to the end of the log, or past the bytes that may be
used. -/
def Content (hw : EfuseHal) : EfuseType → Map → Prop
  | .WIFI, tbl => ∃ last, Log (hw.cells 0) EFUSE_MAX_SECTION_8723A last blankMap tbl ∧
      (last < availableBytesTotal .WIFI → hw.getCurrentSizeWiFi.1 = last) ∧
      (availableBytesTotal .WIFI ≤ last → availableBytesTotal .WIFI ≤ hw.getCurrentSizeWiFi.1)
  | .BT, tbl => ∃ endBank endAddr, BanksFrom hw.cells 1 blankMap tbl endBank endAddr ∧
      (endBank < EFUSE_MAX_BANK → hw.getCurrentSizeBT.1 = (endBank - 1) * EFUSE_BT_REAL_BANK_CONTENT_LEN + endAddr ∧
        hw.getCurrentSizeBT.2.bank = endBank) ∧
      (endBank = EFUSE_MAX_BANK → availableBytesTotal .BT ≤ hw.getCurrentSizeBT.1)

theorem le_sizeLoop (c : Bank) (skip fuel addr : ℕ) : addr ≤ sizeLoop c skip fuel addr := by
  induction fuel generalizing addr with
  | zero => exact le_rfl
  | succ fuel ih =>
    rw [sizeLoop]
    split
    · split
      · exact le_rfl
      · rename_i next hstep
        refine le_trans ?_ (ih next)
        unfold sizePacket at hstep
        dsimp only at hstep
        split at hstep
        · exact absurd hstep.symm (Option.some_ne_none _)
        split at hstep
        · split at hstep <;> (rw [Option.some.injEq] at hstep; omega)
        · rw [Option.some.injEq] at hstep
          omega
    · exact le_rfl

theorem Content.stored {hw : EfuseHal} {type : EfuseType} {tbl : Map} (h : Content hw type tbl) :
    Stored hw.cells type tbl := by
  cases type with
  | WIFI =>
    obtain ⟨last, hlog, -, -⟩ := h
    exact ⟨last, hlog⟩
  | BT =>
    obtain ⟨endBank, endAddr, hbanks, -, -⟩ := h
    exact ⟨endBank, endAddr, hbanks⟩

theorem Stored.readEFuse {hw : EfuseHal} {type : EfuseType} {tbl : Map} (h : Stored hw.cells type tbl) :
    (hw.readEFuse type).1 = tbl ∧ Content (hw.readEFuse type).2 type tbl := by
  cases type with
  | WIFI =>
    obtain ⟨last, hlog⟩ := h
    have hread := hlog.readBank
    have htbl : (hw.readEFuse .WIFI).1 = (readBank (hw.cells 0) EFUSE_MAX_SECTION_8723A blankMap).tbl := rfl
    have hsize : (hw.readEFuse .WIFI).2.getCurrentSizeWiFi.1 =
        sizeBank (hw.cells 0) 1 ((readBank (hw.cells 0) EFUSE_MAX_SECTION_8723A blankMap).addr - 1) := rfl
    rw [hread] at htbl hsize
    refine ⟨htbl, last, hlog, fun hlt => ?_, fun hge => ?_⟩
    · have hinside : last < EFUSE_REAL_CONTENT_LEN := hlt.trans (by decide)
      rw [hsize]
      dsimp only
      rw [if_pos hinside, Nat.add_sub_cancel]
      exact sizeBank_blank (hlog.blank last le_rfl hinside)
    · rw [hsize]
      refine le_trans ?_ (le_sizeLoop (hw.cells 0) 1 EFUSE_REAL_CONTENT_LEN _)
      have htotal : availableBytesTotal .WIFI = 497 := rfl
      have hcontent : EFUSE_REAL_CONTENT_LEN = 512 := rfl
      dsimp only
      split <;> omega
  | BT =>
    obtain ⟨endBank, endAddr, hbanks⟩ := h
    obtain ⟨last, hread, hpos, hlast⟩ := hbanks.readBanks 0 fun h1 => absurd h1 (by decide)
    have hrun : readBanks hw.cells [1, 2, 3] 0 blankMap = (last, endBank, tbl) := hread
    have hefuse : hw.readEFuse .BT = (tbl, { hw.switchToBank 0 with
        btUsedBytes := EFUSE_BT_REAL_BANK_CONTENT_LEN * (endBank - 1) + last - 1 }) := by
      show hw.readEFuseBT = _
      unfold EfuseHal.readEFuseBT
      rw [hrun]
    rw [hefuse]
    obtain ⟨hfirst, hle⟩ := hbanks.endBank_le
    have hroom := hbanks.room
    have hcontent : EFUSE_BT_REAL_BANK_CONTENT_LEN = 512 := rfl
    have havailable : availableBytesBank .BT = 496 := rfl
    refine ⟨rfl, endBank, endAddr, hbanks, fun hlt => ?_, fun heq => ?_⟩
    · have hused : EFUSE_BT_REAL_BANK_CONTENT_LEN * (endBank - 1) + last - 1 =
          EFUSE_BT_REAL_BANK_CONTENT_LEN * (endBank - 1) + endAddr := by
        rw [hlast hlt]
        omega
      have hdiv : 1 + (EFUSE_BT_REAL_BANK_CONTENT_LEN * (endBank - 1) + endAddr) / EFUSE_BT_REAL_BANK_CONTENT_LEN =
          endBank := by
        rw [hcontent]
        omega
      have hmod : (EFUSE_BT_REAL_BANK_CONTENT_LEN * (endBank - 1) + endAddr) % EFUSE_BT_REAL_BANK_CONTENT_LEN =
          endAddr := by
        rw [hcontent]
        omega
      unfold EfuseHal.getCurrentSizeBT
      dsimp only
      rw [hused, hdiv, hmod]
      have hsize := hbanks.sizeBanks hlt (hw.switchToBank 0).bank
      have hcells : (hw.switchToBank 0).cells = hw.cells := rfl
      rw [hcells, hsize]
      exact ⟨rfl, rfl⟩
    · have hdiv : 1 + (EFUSE_BT_REAL_BANK_CONTENT_LEN * (endBank - 1) + last - 1) / EFUSE_BT_REAL_BANK_CONTENT_LEN ≥
          EFUSE_MAX_BANK := by
        rw [hcontent, heq, show EFUSE_MAX_BANK = 4 from rfl]
        omega
      unfold EfuseHal.getCurrentSizeBT
      dsimp only
      rw [Nat.sub_eq_zero_of_le hdiv]
      show availableBytesTotal .BT ≤ (EFUSE_MAX_BANK - 1) * EFUSE_BT_REAL_BANK_CONTENT_LEN + _
      exact le_trans (by decide) (Nat.le_add_right _ _)

/-! ## One packet more -/

section Append
variable {cells : ℕ → Bank} {bank endBank endAddr next : ℕ} {tbl tbl' : Map} {c' : Bank} {f : Map → Map}

/-- A packet at the end of the log: in the same bank, or at the start of the next one if it was the last to fit. -/
theorem BanksFrom.append (h : BanksFrom cells bank tbl tbl' endBank endAddr) (hend : endBank < EFUSE_MAX_BANK)
    (hc : ∀ u u', Log (cells endBank) EFUSE_BT_MAX_SECTION endAddr u u' → Log c' EFUSE_BT_MAX_SECTION next u (f u')) :
    ∃ newBank newAddr, BanksFrom (Function.update cells endBank c') bank tbl (f tbl') newBank newAddr ∧
      (next < availableBytesBank .BT → newBank = endBank ∧ newAddr = next) ∧
      (availableBytesBank .BT ≤ next → newBank = endBank + 1 ∧ newAddr = 0) := by
  induction h with
  | none tbl => exact absurd hend (Nat.lt_irrefl _)
  | @last bank size tbl tbl' inside log room blank =>
    have hlog : Log (Function.update cells bank c' bank) EFUSE_BT_MAX_SECTION next tbl (f tbl') := by
      rw [Function.update_self]
      exact hc tbl tbl' log
    have hblank : ∀ b, bank < b → b < EFUSE_MAX_BANK → BlankFrom (Function.update cells bank c' b) 0 := by
      intro b hlo hhi
      rw [Function.update_of_ne (Nat.ne_of_gt hlo)]
      exact blank b hlo hhi
    by_cases hroom : next < availableBytesBank .BT
    · exact ⟨bank, next, .last inside hlog hroom hblank, fun _ => ⟨rfl, rfl⟩,
        fun hfull => absurd hroom (Nat.not_lt_of_le hfull)⟩
    · refine ⟨bank + 1, 0, .full inside hlog (Nat.le_of_not_lt hroom) ?_, fun hlt => absurd hlt hroom,
        fun _ => ⟨rfl, rfl⟩⟩
      exact .empty inside (f tbl') fun b hlo hhi => hblank b hlo hhi
  | @full bank size endBank endAddr tbl tbl' tbl'' inside log full rest ih =>
    obtain ⟨newBank, newAddr, hrest, hroom, hnext⟩ := ih hend hc
    refine ⟨newBank, newAddr, .full inside ?_ full hrest, hroom, hnext⟩
    have hne : bank ≠ endBank := Nat.ne_of_lt rest.endBank_le.1
    rw [Function.update_of_ne hne]
    exact log

end Append

section Write
variable {fuse : Fuse} {hw hw' : EfuseHal} {tbl : Map} {offset wordEn : ℕ} {data : ℕ → UInt8}

theorem pgPacketWrite_of_start (fuse : Fuse) (data : ℕ → UInt8) {type : EfuseType} {start : ℕ} {hw1 : EfuseHal}
    (hstart : hw.pgPacketStart type = (some start, hw1)) (hblank : BlankFrom (hw1.cells hw1.bank) start)
    (hroom : start + 10 ≤ EFUSE_REAL_CONTENT_LEN) (hbank : start < availableBytesBank type)
    (hoffset : offset < maxSection type) (hwordEn : wordEn < 15) :
    ∃ c' next, EfuseHal.Appended (hw1.cells hw1.bank) c' (maxSection type) start next offset wordEn data ∧
      hw.pgPacketWrite fuse type offset wordEn data = (true, hw1.withBank c') := by
  obtain ⟨c', next, addr, happended, hheader, hdata⟩ := EfuseHal.packet_written fuse hw1 data
    hblank hroom hbank hoffset hwordEn
  rw [EfuseHal.withBank_self] at hheader hdata
  refine ⟨c', next, happended, ?_⟩
  unfold EfuseHal.pgPacketWrite
  rw [hstart]
  dsimp only
  generalize hw1.pgPacketWriteHeader fuse type start offset wordEn = o at hheader hdata
  obtain ⟨o, hw2⟩ := o
  obtain rfl : o = some addr := hheader
  exact hdata

theorem Content.pgPacketWrite_wifi (h : Content hw .WIFI tbl) (hoffset : offset < maxSection .WIFI)
    (hwordEn : wordEn < 15) (hrun : hw.pgPacketWrite fuse .WIFI offset wordEn data = (true, hw')) :
    Content hw' .WIFI (storeWords offset wordEn 4 data tbl) := by
  obtain ⟨last, hlog, hroom, hfull⟩ := h
  have htotal : availableBytesTotal .WIFI = 497 := rfl
  have hcontent : EFUSE_REAL_CONTENT_LEN = 512 := rfl
  have hstart : hw.pgPacketStart .WIFI =
      (if decide (hw.getCurrentSizeWiFi.1 < availableBytesTotal .WIFI) then
        hw.getCurrentSizeWiFi.2.partialWriteCheck .WIFI else none, hw.getCurrentSizeWiFi.2) := rfl
  by_cases hlast : last < availableBytesTotal .WIFI
  · have hsize := hroom hlast
    have hblank := hlog.blank last le_rfl (by omega)
    have hcheck : hw.getCurrentSizeWiFi.2.partialWriteCheck .WIFI = some last := by
      have hcursor : hw.getCurrentSizeWiFi.2.cursor .WIFI = hw.getCurrentSizeWiFi.1 := rfl
      have hread : ∀ a, hw.getCurrentSizeWiFi.2.oneByteRead a = hw.cells 0 a := fun _ => rfl
      unfold EfuseHal.partialWriteCheck
      rw [hcursor, hsize, Nat.mod_eq_of_lt (by omega), if_neg (by omega), hread, if_neg (not_not.mpr hblank)]
    rw [hsize, if_pos (decide_eq_true hlast), hcheck] at hstart
    obtain ⟨c', next, happended, hwrite⟩ := pgPacketWrite_of_start fuse data hstart hlog.blank
      (by omega) hlast hoffset hwordEn
    rw [hwrite, Prod.mk.injEq] at hrun
    obtain ⟨-, rfl⟩ := hrun
    have hle := happended.le
    have hcells : (hw.getCurrentSizeWiFi.2.withBank c').cells 0 = c' := EfuseHal.withBank_cells hw.getCurrentSizeWiFi.2 c'
    have hnext : (hw.getCurrentSizeWiFi.2.withBank c').getCurrentSizeWiFi.1 = next := by
      show sizeBank ((hw.getCurrentSizeWiFi.2.withBank c').cells 0) 1 hw.getCurrentSizeWiFi.1 = next
      rw [hcells, hsize]
      obtain ⟨rest, -, hloop⟩ := sizeLoop_step EFUSE_REAL_CONTENT_LEN (by omega) (by omega) happended.lt
        (happended.size 1)
      exact hloop.trans (sizeLoop_blank (happended.blank next le_rfl (by omega)))
    refine ⟨next, ?_, fun _ => hnext, fun hge => hnext ▸ hge⟩
    rw [hcells]
    exact happended.log (by omega) hlog
  · have hno : ¬ hw.getCurrentSizeWiFi.1 < availableBytesTotal .WIFI := Nat.not_lt_of_le (hfull (Nat.le_of_not_lt hlast))
    rw [decide_eq_false hno, if_neg Bool.false_ne_true] at hstart
    unfold EfuseHal.pgPacketWrite at hrun
    rw [hstart] at hrun
    exact absurd (congrArg Prod.fst hrun) Bool.false_ne_true

theorem cursor_div {endBank endAddr : ℕ} (hfirst : 1 ≤ endBank) (haddr : endAddr < availableBytesBank .BT) :
    1 + ((endBank - 1) * EFUSE_BT_REAL_BANK_CONTENT_LEN + endAddr) / EFUSE_BT_REAL_BANK_CONTENT_LEN = endBank ∧
      ((endBank - 1) * EFUSE_BT_REAL_BANK_CONTENT_LEN + endAddr) % EFUSE_BT_REAL_BANK_CONTENT_LEN = endAddr := by
  have hcontent : EFUSE_BT_REAL_BANK_CONTENT_LEN = 512 := rfl
  have havailable : availableBytesBank .BT = 496 := rfl
  rw [hcontent]
  omega

/-- The size scan from the start of a packet that ends at `next`. -/
theorem sizeBanks_appended {cells : ℕ → Bank} {endBank endAddr next selected : ℕ} (hend : endBank < EFUSE_MAX_BANK)
    (hinside : next < EFUSE_REAL_CONTENT_LEN) (hlt : endAddr < next)
    (hstep : sizePacket (cells endBank) 2 endAddr = some next) (hblank : cells endBank next = 0xFF)
    (hothers : ∀ b, endBank < b → b < EFUSE_MAX_BANK → BlankFrom (cells b) 0) :
    sizeBanks cells (List.range' endBank (EFUSE_MAX_BANK - endBank)) selected endAddr =
      if next < availableBytesBank .BT then (endBank, next, endBank)
      else if endBank + 1 < EFUSE_MAX_BANK then (endBank + 1, 0, endBank + 1) else (endBank, next, EFUSE_MAX_BANK) := by
  have hsize : sizeBank (cells endBank) 2 endAddr = next := by
    obtain ⟨rest, -, hloop⟩ := sizeLoop_step EFUSE_REAL_CONTENT_LEN (by omega) (by omega) hlt hstep
    exact hloop.trans (sizeLoop_blank hblank)
  rw [range'_bank hend, sizeBanks, hsize]
  by_cases hroom : next < availableBytesBank .BT
  · rw [if_pos hroom, if_pos hroom]
  rw [if_neg hroom, if_neg hroom]
  by_cases hmore : endBank + 1 < EFUSE_MAX_BANK
  · have hfirst := hothers (endBank + 1) (Nat.lt_succ_self endBank) hmore 0 le_rfl (by decide)
    have hpos : 0 < availableBytesBank .BT := by decide
    rw [if_pos hmore, range'_bank hmore, sizeBanks, List.isEmpty_cons, if_neg Bool.false_ne_true, sizeBank_blank hfirst,
      if_pos hpos]
  · rw [if_neg hmore, Nat.sub_eq_zero_of_le (Nat.le_of_not_lt hmore)]
    rfl

theorem Content.pgPacketWrite_bt (h : Content hw .BT tbl) (hoffset : offset < maxSection .BT)
    (hwordEn : wordEn < 15) (hrun : hw.pgPacketWrite fuse .BT offset wordEn data = (true, hw')) :
    Content hw' .BT (storeWords offset wordEn 4 data tbl) := by
  obtain ⟨endBank, endAddr, hbanks, hroom, hfull⟩ := h
  have htotal : availableBytesTotal .BT = 1488 := rfl
  have havailable : availableBytesBank .BT = 496 := rfl
  have hcontent : EFUSE_REAL_CONTENT_LEN = 512 := rfl
  have hbankLen : EFUSE_BT_REAL_BANK_CONTENT_LEN = 512 := rfl
  have hmax : EFUSE_MAX_BANK = 4 := rfl
  have hstart : hw.pgPacketStart .BT =
      (if decide (hw.getCurrentSizeBT.1 < availableBytesTotal .BT) then
        hw.getCurrentSizeBT.2.partialWriteCheck .BT else none, hw.getCurrentSizeBT.2) := rfl
  by_cases havail : hw.getCurrentSizeBT.1 < availableBytesTotal .BT
  · have hend : endBank < EFUSE_MAX_BANK := by
      refine lt_of_le_of_ne hbanks.endBank_le.2 fun heq => ?_
      exact absurd havail (Nat.not_lt_of_le (hfull heq))
    obtain ⟨hsize, hbank⟩ := hroom hend
    have haddr := hbanks.room
    obtain ⟨hdiv, hmod⟩ := cursor_div hbanks.endBank_le.1 haddr
    obtain ⟨hblank, hothers⟩ := hbanks.blank hend
    have hcells : hw.getCurrentSizeBT.2.cells = hw.cells := rfl
    have hcursor : hw.getCurrentSizeBT.2.btUsedBytes = hw.getCurrentSizeBT.1 := rfl
    have hcheck : hw.getCurrentSizeBT.2.partialWriteCheck .BT = some endAddr := by
      have hread : hw.getCurrentSizeBT.2.oneByteRead endAddr = 0xFF := by
        show hw.getCurrentSizeBT.2.cells hw.getCurrentSizeBT.2.bank endAddr = 0xFF
        rw [hcells, hbank]
        exact hblank endAddr le_rfl (by omega)
      have hstartAddr : hw.getCurrentSizeBT.2.cursor .BT % EFUSE_REAL_CONTENT_LEN = endAddr := by
        show hw.getCurrentSizeBT.2.btUsedBytes % EFUSE_REAL_CONTENT_LEN = endAddr
        rw [hcursor, hsize]
        exact hmod
      unfold EfuseHal.partialWriteCheck
      dsimp only
      rw [hstartAddr, hread, if_neg (by omega), if_neg (not_not.mpr rfl)]
    rw [if_pos (decide_eq_true havail), hcheck] at hstart
    generalize hw.getCurrentSizeBT.2 = hw1 at hstart hcells hcursor hbank
    rw [← hcells, ← hbank] at hblank
    obtain ⟨c', next, happended, hwrite⟩ := pgPacketWrite_of_start fuse data hstart hblank
      (by omega) haddr hoffset hwordEn
    rw [hwrite, Prod.mk.injEq] at hrun
    obtain ⟨-, rfl⟩ := hrun
    rw [hcells, hbank] at happended
    have hle := happended.le
    have hnewCells : (hw1.withBank c').cells = Function.update hw.cells endBank c' := by
      rw [← hcells, ← hbank]
      rfl
    obtain ⟨newBank, newAddr, hnew, hsame, hmoved⟩ := hbanks.append hend fun u u' hlog => happended.log (by omega) hlog
    -- the size scan starts at the packet
    have hnewSize : (hw1.withBank c').getCurrentSizeBT = (let o := if next < availableBytesBank .BT then (endBank, next, endBank)
        else if endBank + 1 < EFUSE_MAX_BANK then (endBank + 1, 0, endBank + 1) else (endBank, next, EFUSE_MAX_BANK)
        ((o.2.2 - 1) * EFUSE_BT_REAL_BANK_CONTENT_LEN + o.2.1,
          { (hw1.withBank c').switchToBank o.1 with
            btUsedBytes := (o.2.2 - 1) * EFUSE_BT_REAL_BANK_CONTENT_LEN + o.2.1 })) := by
      unfold EfuseHal.getCurrentSizeBT
      rw [EfuseHal.withBank_btUsedBytes, hcursor, hsize]
      dsimp only
      rw [hdiv, hmod, hnewCells, sizeBanks_appended hend (by omega) happended.lt]
      · rw [Function.update_self]
        exact happended.size 2
      · rw [Function.update_self]
        exact happended.blank next le_rfl (by omega)
      · intro b hlo hhi
        rw [Function.update_of_ne (Nat.ne_of_gt hlo)]
        exact hothers b hlo hhi
    dsimp only at hnewSize
    rw [← hnewCells] at hnew
    refine ⟨newBank, newAddr, hnew, fun hlt => ?_, fun heq => ?_⟩
    · by_cases hnext : next < availableBytesBank .BT
      · obtain ⟨rfl, rfl⟩ := hsame hnext
        rw [hnewSize, if_pos hnext]
        exact ⟨rfl, rfl⟩
      · obtain ⟨rfl, rfl⟩ := hmoved (Nat.le_of_not_lt hnext)
        rw [hnewSize, if_neg hnext, if_pos hlt]
        exact ⟨rfl, rfl⟩
    · by_cases hnext : next < availableBytesBank .BT
      · obtain ⟨rfl, -⟩ := hsame hnext
        exact absurd hend (Nat.not_lt_of_le heq.ge)
      · obtain ⟨rfl, -⟩ := hmoved (Nat.le_of_not_lt hnext)
        rw [hnewSize, if_neg hnext, if_neg (Nat.not_lt_of_le heq.ge)]
        show availableBytesTotal .BT ≤ (EFUSE_MAX_BANK - 1) * EFUSE_BT_REAL_BANK_CONTENT_LEN + next
        exact le_trans (by decide) (Nat.le_add_right _ _)
  · rw [decide_eq_false havail, if_neg Bool.false_ne_true] at hstart
    unfold EfuseHal.pgPacketWrite at hrun
    rw [hstart] at hrun
    exact absurd (congrArg Prod.fst hrun) Bool.false_ne_true

theorem Content.pgPacketWrite {type : EfuseType} (h : Content hw type tbl) (hoffset : offset < maxSection type)
    (hwordEn : wordEn < 15) (hrun : hw.pgPacketWrite fuse type offset wordEn data = (true, hw')) :
    Content hw' type (storeWords offset wordEn 4 data tbl) := by
  cases type with
  | WIFI => exact h.pgPacketWrite_wifi hoffset hwordEn hrun
  | BT => exact h.pgPacketWrite_bt hoffset hwordEn hrun

end Write

end Rtl8723au.Efuse
