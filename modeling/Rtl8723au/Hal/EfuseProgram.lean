import Rtl8723au.Hal.Efuse

/-! `Hal_EfusePgPacketWrite` and `Hal_EfusePgPacketWrite_BT` of `hal/rtl8723a_hal_init.c`, whatever becomes of the bytes
that they read and write: which cells they program. -/
namespace Rtl8723au.Efuse
open AccessM EfuseHal
set_option autoImplicit false

def EFUSE_IC_ID_OFFSET : ℕ := 506

section
variable (o : Outcomes)

/-! ## The end of the log -/

/-- A pass of `hal_EfuseGetCurrentSize_WiFi` and `hal_EfuseGetCurrentSize_BT`: whether the read has failed and the address
when it is the last, or where the next header is. -/
def currentSizePass (skip addr : ℕ) : EfuseM (Bool × ℕ ⊕ ℕ) := do
  let header ← efuseOneByteRead o addr
  if !header.1 then pure (.inl (true, addr))
  else if header.2 = 0xFF then pure (.inl (false, addr))
  else if extHeader header.2 then do
    let ext ← efuseOneByteRead o (addr + 1)
    if allWordsDisabled ext.2 then pure (.inr (addr + skip))
    else pure (.inr (addr + 1 + (calculateWordCnts (hdrWordEn ext.2) * 2 + 1)))
  else pure (.inr (addr + (calculateWordCnts (hdrWordEn header.2) * 2 + 1)))

def currentSizeLoop (skip : ℕ) : ℕ → ℕ → EfuseM (Bool × ℕ)
  | 0, addr => pure (false, addr)
  | fuel + 1, addr =>
    if addr < EFUSE_REAL_CONTENT_LEN then do
      match ← currentSizePass o skip addr with
      | .inl last => pure last
      | .inr next => currentSizeLoop skip fuel next
    else pure (false, addr)

/-- `hal_EfuseGetCurrentSize_WiFi`. -/
def halEfuseGetCurrentSizeWiFi : EfuseM ℕ := do
  let s ← get
  onHw fun hw => hw.switchToBank 0
  let last ← currentSizeLoop o 1 EFUSE_REAL_CONTENT_LEN s.hw.usedBytes
  onHw fun hw => { hw with usedBytes := last.2 }
  pure last.2

/-- The loop over the banks from `bank` on: the bank and the address it ends with. -/
def currentSizeBanks : ℕ → ℕ → ℕ → EfuseM (ℕ × ℕ)
  | 0, bank, addr => pure (bank, addr)
  | fuel + 1, bank, addr =>
    if bank < EFUSE_MAX_BANK then do
      onHw fun hw => hw.switchToBank bank
      let last ← currentSizeLoop o 2 EFUSE_REAL_CONTENT_LEN addr
      let bank := if last.1 then EFUSE_MAX_BANK else bank
      if last.2 < availableBytesBank .BT then pure (bank, last.2)
      else currentSizeBanks fuel (bank + 1) (if bank + 1 < EFUSE_MAX_BANK then 0 else last.2)
    else pure (bank, addr)

/-- `hal_EfuseGetCurrentSize_BT`. -/
def halEfuseGetCurrentSizeBT : EfuseM ℕ := do
  let s ← get
  let last ← currentSizeBanks o EFUSE_MAX_BANK (1 + s.hw.btUsedBytes / EFUSE_BT_REAL_BANK_CONTENT_LEN)
    (s.hw.btUsedBytes % EFUSE_BT_REAL_BANK_CONTENT_LEN)
  let size := (last.1 - 1) * EFUSE_BT_REAL_BANK_CONTENT_LEN + last.2
  onHw fun hw => { hw with btUsedBytes := size }
  pure size

/-- `Hal_EfuseGetCurrentSize`. -/
def halEfuseGetCurrentSize : EfuseType → EfuseM ℕ
  | .WIFI => halEfuseGetCurrentSizeWiFi o
  | .BT => halEfuseGetCurrentSizeBT o

/-- `hal_EfusePgCheckAvailableAddr`. -/
def halEfusePgCheckAvailableAddr (type : EfuseType) : EfuseM Bool :=
  (fun size => !decide (size ≥ availableBytesTotal type)) <$> halEfuseGetCurrentSize o type

/-- `hal_EfusePartialWriteCheck`: where the packet starts. A cell that cannot be read is taken for a blank one. -/
def halEfusePartialWriteCheck (type : EfuseType) : EfuseM (Option ℕ) := do
  let s ← get
  let startAddr := s.hw.cursor type % EFUSE_REAL_CONTENT_LEN
  if startAddr ≥ availableBytesTotal type then pure none
  else do
    let first ← efuseOneByteRead o startAddr
    pure (if first.1 ∧ first.2 ≠ 0xFF then none else some startAddr)

/-! ## The header -/

/-- A byte of a header, written until it no longer reads as a blank one: the byte that is read and how many writes are left.
Both bytes of an extended header share the count. -/
def pgHeaderByte (addr : ℕ) (header : UInt8) : ℕ → EfuseM (Option (UInt8 × ℕ))
  | 0 => pure none
  | left + 1 => do
    efuseOneByteWrite o addr header
    let tmp ← efuseOneByteRead o addr
    if tmp.2 ≠ 0xFF then pure (some (tmp.2, left + 1)) else pgHeaderByte addr header left

/-- `hal_EfusePgPacketWrite1ByteHeader`: the address of the last byte of the header. -/
def halEfusePgPacketWrite1ByteHeader (addr offset wordEn : ℕ) : EfuseM (Option ℕ) := do
  match ← pgHeaderByte o addr (pgHeader offset wordEn) (EFUSE_REPEAT_THRESHOLD_ + 2) with
  | none => pure none
  | some tmp => pure (if tmp.1 ≠ pgHeader offset wordEn then none else some addr)

/-- `hal_EfusePgPacketWrite2ByteHeader`. -/
def halEfusePgPacketWrite2ByteHeader (type : EfuseType) (addr offset wordEn : ℕ) : EfuseM (Option ℕ) :=
  if addr ≥ availableBytesBank type then pure none
  else do
    match ← pgHeaderByte o addr (pgHeader1 offset) (EFUSE_REPEAT_THRESHOLD_ + 2) with
    | none => pure none
    | some tmp =>
      if tmp.1 ≠ pgHeader1 offset then pure none
      else do
        match ← pgHeaderByte o (addr + 1) (pgHeader2 offset wordEn) tmp.2 with
        | none => pure none
        | some tmp => pure (if tmp.1 ≠ pgHeader2 offset wordEn then none else some (addr + 1))

/-- `hal_EfusePgPacketWriteHeader`. -/
def halEfusePgPacketWriteHeader (type : EfuseType) (addr offset wordEn : ℕ) : EfuseM (Option ℕ) :=
  if offset ≥ EFUSE_MAX_SECTION_BASE then halEfusePgPacketWrite2ByteHeader o type addr offset wordEn
  else halEfusePgPacketWrite1ByteHeader o addr offset wordEn

/-! ## The data -/

/-- The two bytes of a word: the address behind them and the words that are not bad. -/
def wordDataWrite (wordEn : ℕ) (data : ℕ → UInt8) (i : ℕ) (s : ℕ × UInt8) : EfuseM (ℕ × UInt8) :=
  if wordEnabled wordEn i then do
    efuseOneByteWrite o s.1 (data (2 * i))
    efuseOneByteWrite o (s.1 + 1) (data (2 * i + 1))
    let low ← efuseOneByteRead o s.1
    let high ← efuseOneByteRead o (s.1 + 1)
    pure (s.1 + 2, if data (2 * i) ≠ low.2 ∨ data (2 * i + 1) ≠ high.2 then s.2 &&& ~~~(1 <<< UInt8.ofNat i) else s.2)
  else pure s

/-- `Hal_EfuseWordEnableDataWrite`: the words that are not bad. -/
def halEfuseWordEnableDataWrite (addr wordEn : ℕ) (data : ℕ → UInt8) : EfuseM UInt8 :=
  (fun s => s.2) <$> loopAcc (wordDataWrite o wordEn data) (addr, 0x0F) EFUSE_MAX_WORD_UNIT

/-- `hal_EfusePgPacketWriteData`. -/
def halEfusePgPacketWriteData (addr wordEn : ℕ) (data : ℕ → UInt8) : EfuseM Bool :=
  (fun badworden => badworden == 0x0F) <$> halEfuseWordEnableDataWrite o (addr + 1) wordEn data

/-- The packet from the cell on that has been found for it. -/
def pgPacketFrom (type : EfuseType) (startAddr offset wordEn : ℕ) (data : ℕ → UInt8) : EfuseM Bool := do
  match ← halEfusePgPacketWriteHeader o type startAddr offset wordEn with
  | none => pure false
  | some addr => halEfusePgPacketWriteData o addr wordEn (constructData wordEn data)

/-- `Hal_EfusePgPacketWrite` and `Hal_EfusePgPacketWrite_BT`. -/
def halEfusePgPacketWrite (type : EfuseType) (offset wordEn : ℕ) (data : ℕ → UInt8) : EfuseM Bool := do
  let available ← halEfusePgCheckAvailableAddr o type
  if !available then pure false
  else do
    match ← halEfusePartialWriteCheck o type with
    | none => pure false
    | some startAddr => pgPacketFrom o type startAddr offset wordEn data

end

/-! ## Computations that only read -/

/-- The device is left as it was, and nothing is programmed. -/
def OnlyReads {α : Type} (m : EfuseM α) : Prop := ∀ s, (m.run s).st.hw = s.hw ∧ (m.run s).log = []

namespace OnlyReads
variable {α β : Type} {m : EfuseM α}

theorem pure (a : α) : OnlyReads (Pure.pure a : EfuseM α) := fun _ => ⟨rfl, rfl⟩

theorem bind {f : α → EfuseM β} (hm : OnlyReads m) (hf : ∀ a, OnlyReads (f a)) : OnlyReads (m >>= f) := by
  intro s
  obtain ⟨hhw, hlog⟩ := hm s
  obtain ⟨hhw', hlog'⟩ := hf (m.run s).val (m.run s).st
  rw [bind_st, bind_log, hhw', hhw, hlog, hlog']
  exact ⟨rfl, rfl⟩

theorem ite {c : Prop} [Decidable c] {n : EfuseM α} (hm : OnlyReads m) (hn : OnlyReads n) :
    OnlyReads (if c then m else n) := by
  split
  · exact hm
  · exact hn

theorem read (o : Outcomes) (addr : ℕ) : OnlyReads (efuseOneByteRead o addr) := fun _ => ⟨rfl, rfl⟩

end OnlyReads

section
variable {o : Outcomes}

theorem currentSizePass_reads (skip addr : ℕ) : OnlyReads (currentSizePass o skip addr) :=
  .bind (.read o addr) fun _ => .ite (.pure _) (.ite (.pure _) (.ite
    (.bind (.read o _) fun _ => .ite (.pure _) (.pure _)) (.pure _)))

theorem currentSizeLoop_reads (skip fuel addr : ℕ) : OnlyReads (currentSizeLoop o skip fuel addr) := by
  induction fuel generalizing addr with
  | zero => exact .pure _
  | succ fuel ih =>
    refine .ite (.bind (currentSizePass_reads skip addr) fun r => ?_) (.pure _)
    cases r with
    | inl last => exact .pure last
    | inr next => exact ih next

end

/-! ## Computations that program a stretch of cells -/

/-- Of the bank that is selected, only cells of a stretch are programmed, and the others are what they were. -/
structure Programs {α : Type} (lo hi : ℕ) (m : EfuseM α) (s : Session) : Prop where
  bank : (m.run s).st.hw.bank = s.hw.bank
  inside : Inside (fun c => c.1 = s.hw.bank ∧ lo ≤ c.2 ∧ c.2 < hi) m s
  others : ∀ b a, ¬(b = s.hw.bank ∧ lo ≤ a ∧ a < hi) → (m.run s).st.hw.cells b a = s.hw.cells b a

namespace Programs
variable {α β : Type} {lo hi : ℕ} {m : EfuseM α} {s : Session}

theorem of_reads (h : OnlyReads m) : Programs lo hi m s := by
  obtain ⟨hhw, hlog⟩ := h s
  refine ⟨congrArg EfuseHal.bank hhw, fun c hc => ?_, fun b a _ => ?_⟩
  · rw [hlog] at hc
    exact absurd hc List.not_mem_nil
  · rw [hhw]

theorem pure (a : α) : Programs lo hi (Pure.pure a : EfuseM α) s := of_reads (.pure a)

theorem mono {lo' hi' : ℕ} (h : Programs lo hi m s) (hlo : lo' ≤ lo) (hhi : hi ≤ hi') : Programs lo' hi' m s := by
  refine ⟨h.bank, fun c hc => ?_, fun b a hnot => h.others b a fun hin => hnot ?_⟩
  · obtain ⟨hb, hlow, hhigh⟩ := h.inside c hc
    exact ⟨hb, hlo.trans hlow, hhigh.trans_le hhi⟩
  · exact ⟨hin.1, hlo.trans hin.2.1, hin.2.2.trans_le hhi⟩

theorem bind {f : α → EfuseM β} (hm : Programs lo hi m s) (hf : Programs lo hi (f (m.run s).val) (m.run s).st) :
    Programs lo hi (m >>= f) s := by
  refine ⟨hf.bank.trans hm.bank, (inside_bind _ _ _ _).mpr ⟨hm.inside, ?_⟩, fun b a h => ?_⟩
  · intro c hc
    rw [← hm.bank]
    exact hf.inside c hc
  · have hrest := hf.others b a (by rw [hm.bank]; exact h)
    exact hrest.trans (hm.others b a h)

theorem map {f : α → β} (hm : Programs lo hi m s) : Programs lo hi (f <$> m) s :=
  ⟨hm.bank, (inside_map _ _ _ _).mpr hm.inside, hm.others⟩

theorem write (o : Outcomes) {addr : ℕ} {v : UInt8} (hlo : lo ≤ addr) (hhi : addr < hi) :
    Programs lo hi (efuseOneByteWrite o addr v) s := by
  refine ⟨rfl, fun c hc => ?_, fun b a h => ?_⟩
  · obtain rfl : c = (s.hw.bank, addr) := List.mem_singleton.mp hc
    exact ⟨rfl, hlo, hhi⟩
  · refine setCell_cells _ _ _ fun heq => h ?_
    obtain ⟨rfl, rfl⟩ := Prod.mk.inj heq
    exact ⟨rfl, hlo, hhi⟩

end Programs

section
variable {o : Outcomes} {type : EfuseType} {s : Session}

theorem pgHeaderByte_programs {lo hi addr : ℕ} (header : UInt8) (left : ℕ) (hlo : lo ≤ addr) (hhi : addr < hi) :
    Programs lo hi (pgHeaderByte o addr header left) s := by
  induction left generalizing s with
  | zero => exact .pure _
  | succ left ih =>
    refine .bind (.write o hlo hhi) (.bind (.of_reads (.read o addr)) ?_)
    split
    · exact .pure _
    · exact ih

theorem writeHeader_programs (addr offset wordEn : ℕ) :
    Programs addr (addr + 2) (halEfusePgPacketWriteHeader o type addr offset wordEn) s := by
  unfold halEfusePgPacketWriteHeader
  split
  · unfold halEfusePgPacketWrite2ByteHeader
    split
    · exact .pure _
    · refine .bind (pgHeaderByte_programs _ _ le_rfl (by omega)) ?_
      split
      · exact .pure _
      · split
        · exact .pure _
        · refine .bind (pgHeaderByte_programs _ _ (by omega) (by omega)) ?_
          split <;> exact .pure _
  · refine .bind (pgHeaderByte_programs _ _ le_rfl (by omega)) ?_
    split <;> exact .pure _

theorem writeHeader_last (addr offset wordEn : ℕ) {last : ℕ}
    (h : ((halEfusePgPacketWriteHeader o type addr offset wordEn).run s).val = some last) :
    addr ≤ last ∧ last ≤ addr + 1 := by
  unfold halEfusePgPacketWriteHeader at h
  split at h
  · unfold halEfusePgPacketWrite2ByteHeader at h
    split at h
    · exact absurd h.symm (Option.some_ne_none _)
    · rw [bind_val] at h
      split at h
      · exact absurd h.symm (Option.some_ne_none _)
      · split at h
        · exact absurd h.symm (Option.some_ne_none _)
        · rw [bind_val] at h
          split at h
          · exact absurd h.symm (Option.some_ne_none _)
          · rw [pure_val] at h
            split at h
            · exact absurd h.symm (Option.some_ne_none _)
            · cases h
              omega
  · unfold halEfusePgPacketWrite1ByteHeader at h
    rw [bind_val] at h
    split at h
    · exact absurd h.symm (Option.some_ne_none _)
    · rw [pure_val] at h
      split at h
      · exact absurd h.symm (Option.some_ne_none _)
      · cases h
        omega

theorem wordDataWrite_programs {lo hi : ℕ} (wordEn : ℕ) (data : ℕ → UInt8) (i : ℕ) (t : ℕ × UInt8) (hlo : lo ≤ t.1)
    (hhi : t.1 + 2 ≤ hi) : Programs lo hi (wordDataWrite o wordEn data i t) s ∧
      t.1 ≤ ((wordDataWrite o wordEn data i t).run s).val.1 ∧
        ((wordDataWrite o wordEn data i t).run s).val.1 ≤ t.1 + 2 := by
  unfold wordDataWrite
  split
  · refine ⟨.bind (.write o hlo (by omega)) (.bind (.write o (by omega) (by omega)) (.of_reads ?_)), ?_, ?_⟩
    · exact .bind (.read o _) fun _ => .bind (.read o _) fun _ => .pure _
    · exact Nat.le_add_right t.1 2
    · exact le_rfl
  · exact ⟨.pure _, le_rfl, Nat.le_add_right t.1 2⟩

theorem loop_wordDataWrite {lo hi : ℕ} (wordEn : ℕ) (data : ℕ → UInt8) (n : ℕ) (t : ℕ × UInt8) (hlo : lo ≤ t.1)
    (hhi : t.1 + 2 * n ≤ hi) : Programs lo hi (loopAcc (wordDataWrite o wordEn data) t n) s ∧
      t.1 ≤ ((loopAcc (wordDataWrite o wordEn data) t n).run s).val.1 ∧
        ((loopAcc (wordDataWrite o wordEn data) t n).run s).val.1 ≤ t.1 + 2 * n := by
  induction n with
  | zero => exact ⟨.pure _, le_rfl, le_rfl⟩
  | succ n ih =>
    obtain ⟨hprograms, hlow, hhigh⟩ := ih (by omega)
    obtain ⟨hword, hlow', hhigh'⟩ : Programs lo hi _ ((loopAcc (wordDataWrite o wordEn data) t n).run s).st ∧ _ ∧ _ :=
      wordDataWrite_programs wordEn data n ((loopAcc (wordDataWrite o wordEn data) t n).run s).val (by omega) (by omega)
    refine ⟨.bind hprograms hword, ?_, ?_⟩
    · rw [loopAcc, bind_val]
      exact hlow.trans hlow'
    · rw [loopAcc, bind_val]
      omega

theorem pgPacketFrom_programs (addr offset wordEn : ℕ) (data : ℕ → UInt8) :
    Programs addr (addr + 10) (pgPacketFrom o type addr offset wordEn data) s := by
  refine .bind ((writeHeader_programs addr offset wordEn).mono le_rfl (by omega)) ?_
  split
  · exact .pure _
  · rename_i last hlast
    obtain ⟨hlow, hhigh⟩ := writeHeader_last addr offset wordEn hlast
    have hloop (t : Session) : Programs addr (addr + 10)
        (loopAcc (wordDataWrite o wordEn (constructData wordEn data)) (last + 1, 0x0F) EFUSE_MAX_WORD_UNIT) t :=
      (loop_wordDataWrite wordEn (constructData wordEn data) EFUSE_MAX_WORD_UNIT (last + 1, 0x0F)
        (show addr ≤ last + 1 by omega) (show last + 1 + 2 * 4 ≤ addr + 10 by omega)).1
    exact (hloop _).map.map

/-! ## Where the log ends -/

/-- The bank and the address of an end of the log. -/
def endBank (cursor : ℕ) : EfuseType → ℕ
  | .WIFI => 0
  | .BT => cursor / EFUSE_BT_REAL_BANK_CONTENT_LEN + 1

/-- Looking for the end programs nothing; a bank is selected and the end is noted. -/
structure Sized (type : EfuseType) (s s' : Session) (size : ℕ) : Prop where
  cells : s'.hw.cells = s.hw.cells
  cursor : s'.hw.cursor type = size
  bank : size < availableBytesTotal type → s'.hw.bank = endBank size type
  inside : size < availableBytesTotal type → size % EFUSE_REAL_CONTENT_LEN < 497

theorem currentSizeWiFi_sized :
    Sized .WIFI s ((halEfuseGetCurrentSizeWiFi o).run s).st ((halEfuseGetCurrentSizeWiFi o).run s).val ∧
      ((halEfuseGetCurrentSizeWiFi o).run s).log = [] := by
  obtain ⟨hhw, hlog⟩ := currentSizeLoop_reads (o := o) 1 EFUSE_REAL_CONTENT_LEN s.hw.usedBytes
    { s with hw := s.hw.switchToBank 0 }
  set run := (currentSizeLoop o 1 EFUSE_REAL_CONTENT_LEN s.hw.usedBytes).run { s with hw := s.hw.switchToBank 0 }
  refine ⟨⟨?_, rfl, fun _ => ?_, fun hsize => ?_⟩, ?_⟩
  · show run.st.hw.cells = _
    rw [hhw]
    rfl
  · show run.st.hw.bank = _
    rw [hhw]
    rfl
  · exact (Nat.mod_le _ _).trans_lt hsize
  · show [] ++ ([] ++ (run.log ++ ([] ++ []))) = []
    rw [hlog]
    rfl

/-- Where the loop over the banks ends inside of what is available, that bank is selected. By induction on the banks that are
left. -/
theorem currentSizeBanks_sized (fuel bank addr : ℕ) (hbank : 1 ≤ bank) (hfuel : EFUSE_MAX_BANK ≤ bank + fuel) :
    let r := (currentSizeBanks o fuel bank addr).run s
    r.log = [] ∧ r.st.hw.cells = s.hw.cells ∧
      ((r.val.1 - 1) * EFUSE_BT_REAL_BANK_CONTENT_LEN + r.val.2 < availableBytesTotal .BT →
        1 ≤ r.val.1 ∧ r.st.hw.bank = r.val.1 ∧ r.val.2 < availableBytesBank .BT) := by
  have hfull (bank addr : ℕ) (h : 4 ≤ bank) : ¬(bank - 1) * 512 + addr < 1488 := by omega
  induction fuel generalizing bank addr s with
  | zero => exact ⟨rfl, rfl, fun h => absurd h (hfull bank addr hfuel)⟩
  | succ fuel ih =>
    have hfuel : 4 ≤ bank + (fuel + 1) := hfuel
    dsimp only
    rw [currentSizeBanks]
    by_cases hmore : bank < EFUSE_MAX_BANK
    · obtain ⟨hhw, hlog⟩ := currentSizeLoop_reads (o := o) 2 EFUSE_REAL_CONTENT_LEN addr
        ((onHw fun hw => hw.switchToBank bank).run s).st
      have hcells := congrArg EfuseHal.cells hhw
      have hselected := congrArg EfuseHal.bank hhw
      rw [if_pos hmore, bind_val, bind_st, bind_log, bind_val, bind_st, bind_log]
      change _ = s.hw.cells at hcells
      change _ = bank at hselected
      set run := (currentSizeLoop o 2 EFUSE_REAL_CONTENT_LEN addr).run ((onHw fun hw => hw.switchToBank bank).run s).st
      dsimp only
      rw [hlog]
      by_cases hends : run.val.2 < availableBytesBank .BT
      · rw [if_pos hends]
        refine ⟨rfl, hcells, fun hsize => ?_⟩
        have hsize : ((if run.val.1 then EFUSE_MAX_BANK else bank) - 1) * 512 + run.val.2 < 1488 := hsize
        show 1 ≤ (if run.val.1 then EFUSE_MAX_BANK else bank) ∧ run.st.hw.bank = (if run.val.1 then EFUSE_MAX_BANK else bank) ∧ _
        cases hfailed : run.val.1 with
        | true =>
          rw [hfailed] at hsize
          exact absurd hsize (hfull 4 _ le_rfl)
        | false => exact ⟨hbank, hselected, hends⟩
      · rw [if_neg hends]
        have hnext : bank ≤ (if run.val.1 then EFUSE_MAX_BANK else bank) := by
          split
          · exact hmore.le
          · exact le_rfl
        obtain ⟨hlog', hcells', hrest⟩ := ih (s := run.st) ((if run.val.1 then EFUSE_MAX_BANK else bank) + 1)
          (if (if run.val.1 then EFUSE_MAX_BANK else bank) + 1 < EFUSE_MAX_BANK then 0 else run.val.2) (by omega)
          (show 4 ≤ _ by omega)
        refine ⟨?_, hcells'.trans hcells, hrest⟩
        show [] ++ ([] ++ _) = []
        exact hlog'
    · rw [if_neg hmore]
      exact ⟨rfl, rfl, fun h => absurd h (hfull bank addr (Nat.le_of_not_lt hmore))⟩

theorem currentSizeBT_sized :
    Sized .BT s ((halEfuseGetCurrentSizeBT o).run s).st ((halEfuseGetCurrentSizeBT o).run s).val ∧
      ((halEfuseGetCurrentSizeBT o).run s).log = [] := by
  obtain ⟨hlog, hcells, hends⟩ := currentSizeBanks_sized (o := o) (s := s) EFUSE_MAX_BANK
    (1 + s.hw.btUsedBytes / EFUSE_BT_REAL_BANK_CONTENT_LEN) (s.hw.btUsedBytes % EFUSE_BT_REAL_BANK_CONTENT_LEN)
    (Nat.le_add_right 1 _) (Nat.le_add_left _ _)
  set run := (currentSizeBanks o EFUSE_MAX_BANK (1 + s.hw.btUsedBytes / EFUSE_BT_REAL_BANK_CONTENT_LEN)
    (s.hw.btUsedBytes % EFUSE_BT_REAL_BANK_CONTENT_LEN)).run s
  refine ⟨⟨hcells, rfl, fun hsize => ?_, fun hsize => ?_⟩, ?_⟩
  · obtain ⟨hone, hbank, haddr⟩ := hends hsize
    have haddr : run.val.2 < 496 := haddr
    show run.st.hw.bank = ((run.val.1 - 1) * 512 + run.val.2) / 512 + 1
    omega
  · obtain ⟨-, -, haddr⟩ := hends hsize
    have haddr : run.val.2 < 496 := haddr
    show ((run.val.1 - 1) * 512 + run.val.2) % 512 < 497
    omega
  · show [] ++ (run.log ++ ([] ++ [])) = []
    rw [hlog]
    rfl

theorem currentSize_sized (type : EfuseType) :
    Sized type s ((halEfuseGetCurrentSize o type).run s).st ((halEfuseGetCurrentSize o type).run s).val ∧
      ((halEfuseGetCurrentSize o type).run s).log = [] := by
  cases type with
  | WIFI => exact currentSizeWiFi_sized
  | BT => exact currentSizeBT_sized

theorem partialWriteCheck_reads (type : EfuseType) : OnlyReads (halEfusePartialWriteCheck o type) :=
  .bind (fun _ => ⟨rfl, rfl⟩) fun _ => .ite (.pure _) (.bind (.read o _) fun _ => .pure _)

theorem partialWriteCheck_val {startAddr : ℕ} (h : ((halEfusePartialWriteCheck o type).run s).val = some startAddr) :
    startAddr = s.hw.cursor type % EFUSE_REAL_CONTENT_LEN := by
  unfold halEfusePartialWriteCheck at h
  rw [bind_val] at h
  dsimp only at h
  split at h
  · exact absurd h.symm (Option.some_ne_none _)
  · rw [bind_val, pure_val] at h
    split at h
    · exact absurd h.symm (Option.some_ne_none _)
    · exact (Option.some.inj h).symm

end

/-! ## What is programmed -/

/-- The cells of a type, one bank behind the other, and the place of each. -/
def OfType : EfuseType → ℕ × ℕ → Prop
  | .WIFI, c => c.1 = 0
  | .BT, c => 1 ≤ c.1

def cellPlace : EfuseType → ℕ × ℕ → ℕ
  | .WIFI, c => c.2
  | .BT, c => (c.1 - 1) * EFUSE_BT_REAL_BANK_CONTENT_LEN + c.2

theorem cellPlace_end {type : EfuseType} {cursor addr : ℕ} (hcursor : cursor < availableBytesTotal type)
    (haddr : cursor % EFUSE_REAL_CONTENT_LEN ≤ addr) :
    OfType type (endBank cursor type, addr) ∧ cursor ≤ cellPlace type (endBank cursor type, addr) := by
  have haddr : cursor % 512 ≤ addr := haddr
  cases type with
  | WIFI =>
    have hcursor : cursor < 497 := hcursor
    refine ⟨rfl, ?_⟩
    show cursor ≤ addr
    omega
  | BT =>
    refine ⟨Nat.le_add_left 1 _, ?_⟩
    show cursor ≤ (cursor / 512 + 1 - 1) * 512 + addr
    omega

/-- **Programming appends.** Whatever becomes of the reads and of the writes, only cells from the end of the log on are
programmed, none of them in the tail that is reserved, and all cells before the end are what they were. -/
theorem pgPacketWrite_appends (o : Outcomes) (s : Session) (type : EfuseType) (offset wordEn : ℕ) (data : ℕ → UInt8) :
    let cursor := ((halEfuseGetCurrentSize o type).run s).val
    let out := (halEfusePgPacketWrite o type offset wordEn data).run s
    (∀ c ∈ out.log, OfType type c ∧ cursor ≤ cellPlace type c ∧ c.2 < EFUSE_IC_ID_OFFSET) ∧
      ∀ c : ℕ × ℕ, ¬(OfType type c ∧ cursor ≤ cellPlace type c) → out.st.hw.cells c.1 c.2 = s.hw.cells c.1 c.2 := by
  obtain ⟨hsized, hlog⟩ := currentSize_sized (o := o) (s := s) type
  set size := (halEfuseGetCurrentSize o type).run s with hsize
  dsimp only
  rw [halEfusePgPacketWrite, bind_log, bind_st, halEfusePgCheckAvailableAddr, map_log, map_st, map_val, ← hsize, hlog,
    List.nil_append]
  by_cases hroom : size.val < availableBytesTotal type
  · have havailable : ¬(!!decide (size.val ≥ availableBytesTotal type)) = true := by simpa using hroom
    obtain ⟨hhw, hcheck⟩ := partialWriteCheck_reads (o := o) type size.st
    rw [if_neg havailable, bind_log, bind_st, hcheck, List.nil_append]
    cases hstart : ((halEfusePartialWriteCheck o type).run size.st).val with
    | none =>
      refine ⟨fun c hc => absurd hc List.not_mem_nil, fun c _ => ?_⟩
      show ((halEfusePartialWriteCheck o type).run size.st).st.hw.cells c.1 c.2 = _
      rw [hhw, hsized.cells]
    | some startAddr =>
      have hplace := partialWriteCheck_val hstart
      rw [hsized.cursor] at hplace
      have hprograms : Programs startAddr (startAddr + 10) (pgPacketFrom o type startAddr offset wordEn data)
          ((halEfusePartialWriteCheck o type).run size.st).st :=
        pgPacketFrom_programs startAddr offset wordEn data
      have hbank : ((halEfusePartialWriteCheck o type).run size.st).st.hw.bank = endBank size.val type := by
        rw [hhw, hsized.bank hroom]
      have hinside : startAddr < 497 := hplace ▸ hsized.inside hroom
      constructor
      · intro c hc
        obtain ⟨hb, hlow, hhigh⟩ := hprograms.inside c hc
        rw [hbank] at hb
        obtain ⟨htype, hend⟩ := cellPlace_end hroom (hplace ▸ hlow)
        rw [← hb] at htype hend
        exact ⟨htype, hend, show c.2 < 506 by omega⟩
      · intro c hc
        rw [hprograms.others c.1 c.2 fun hin => hc ?_, hhw, hsized.cells]
        obtain ⟨hb, hlow, -⟩ := hin
        rw [hbank] at hb
        obtain ⟨htype, hend⟩ := cellPlace_end hroom (hplace ▸ hlow)
        rw [← hb] at htype hend
        exact ⟨htype, hend⟩
  · have hrefused : (!!decide (size.val ≥ availableBytesTotal type)) = true := by simpa using hroom
    rw [if_pos hrefused]
    refine ⟨fun c hc => absurd hc List.not_mem_nil, fun c _ => ?_⟩
    show size.st.hw.cells c.1 c.2 = _
    rw [hsized.cells]

end Rtl8723au.Efuse
