import Rtl8723au.Hal.EfuseScan

/-! A packet written behind the log of a bank: its header and its words read back as they were meant, so the log goes
on with it and what follows stays blank. -/
namespace Rtl8723au.Efuse
set_option autoImplicit false

namespace EfuseHal

/-! ## Headers -/

theorem pgHeader_reads {offset wordEn : ℕ} (ho : offset < EFUSE_MAX_SECTION_BASE) (hw : wordEn < 15) :
    pgHeader offset wordEn ≠ 0xFF ∧ ¬ extHeader (pgHeader offset wordEn) = true ∧
      hdrOffset (pgHeader offset wordEn) = offset ∧ hdrWordEn (pgHeader offset wordEn) = wordEn := by
  have hall : ∀ o < 16, ∀ w < 15, pgHeader o w ≠ 0xFF ∧ ¬ extHeader (pgHeader o w) = true ∧
      hdrOffset (pgHeader o w) = o ∧ hdrWordEn (pgHeader o w) = w := by
    decide +kernel
  exact hall offset ho wordEn hw

theorem pgHeader2_reads {offset wordEn : ℕ} (ho : offset < EFUSE_BT_MAX_SECTION) (hw : wordEn < 15) :
    pgHeader1 offset ≠ 0xFF ∧ extHeader (pgHeader1 offset) = true ∧ pgHeader2 offset wordEn ≠ 0xFF ∧
      ¬ allWordsDisabled (pgHeader2 offset wordEn) = true ∧
      extHdrOffset (pgHeader1 offset) (pgHeader2 offset wordEn) = offset ∧
      hdrWordEn (pgHeader2 offset wordEn) = wordEn := by
  have hall : ∀ o < 128, ∀ w < 15, pgHeader1 o ≠ 0xFF ∧ extHeader (pgHeader1 o) = true ∧ pgHeader2 o w ≠ 0xFF ∧
      ¬ allWordsDisabled (pgHeader2 o w) = true ∧ extHdrOffset (pgHeader1 o) (pgHeader2 o w) = o ∧
      hdrWordEn (pgHeader2 o w) = w := by
    decide +kernel
  exact hall offset ho wordEn hw

/-! ## Writing blank cells -/

/-- The device with another content of the selected bank. -/
def withBank (hw : EfuseHal) (c : Bank) : EfuseHal := { hw with cells := Function.update hw.cells hw.bank c }

section WithBank
variable (hw : EfuseHal) (c c' : Bank)

@[simp] theorem withBank_bank : (hw.withBank c).bank = hw.bank := rfl
@[simp] theorem withBank_cells : (hw.withBank c).cells hw.bank = c := by
  unfold withBank
  exact Function.update_self hw.bank c hw.cells
@[simp] theorem withBank_usedBytes : (hw.withBank c).usedBytes = hw.usedBytes := rfl
@[simp] theorem withBank_btUsedBytes : (hw.withBank c).btUsedBytes = hw.btUsedBytes := rfl

@[simp] theorem withBank_withBank : (hw.withBank c).withBank c' = hw.withBank c' := by
  unfold withBank
  rw [Function.update_idem]

theorem withBank_self : hw.withBank (hw.cells hw.bank) = hw := by
  unfold withBank
  rw [Function.update_eq_self]

end WithBank

variable {fuse : Fuse} {hw : EfuseHal} {c : Bank} {addr : ℕ} {v : UInt8}

theorem oneByteWrite_blank (h : c addr = 0xFF) :
    (hw.withBank c).oneByteWrite fuse addr v = hw.withBank (Function.update c addr v) := by
  have hrun : (hw.withBank c).oneByteWrite fuse addr v = (hw.withBank c).withBank
      (Function.update ((hw.withBank c).cells hw.bank) addr (fuse.program ((hw.withBank c).cells hw.bank addr) v)) := rfl
  rw [hrun, withBank_cells, withBank_withBank, h, fuse.blank]

theorem oneByteRead_withBank : (hw.withBank c).oneByteRead addr = c addr := by
  have hrun : (hw.withBank c).oneByteRead addr = (hw.withBank c).cells hw.bank addr := rfl
  rw [hrun, withBank_cells]

theorem writeHeaderByte_blank (h : c addr = 0xFF) (hv : v ≠ 0xFF) (repeats : ℕ) :
    writeHeaderByte fuse addr v (repeats + 1) (hw.withBank c) = (true, hw.withBank (Function.update c addr v)) := by
  rw [writeHeaderByte, oneByteWrite_blank h, oneByteRead_withBank, Function.update_self, if_pos hv, decide_eq_true rfl]

/-! ## The words -/

/-- Words written into blank cells read back, and lie where a reader looks for them. -/
theorem foldl_writeWord (fuse : Fuse) (hw : EfuseHal) (wordEn : ℕ) (data : ℕ → UInt8) (n : ℕ)
    (h : ∀ k, addr ≤ k → k < addr + 2 * n → c k = 0xFF) :
    ∃ c', (List.range n).foldl (writeWord fuse wordEn data) (addr, hw.withBank c, true) =
        (addr + 2 * wordsBefore wordEn n, hw.withBank c', true) ∧
      (∀ k, k < addr ∨ addr + 2 * wordsBefore wordEn n ≤ k → c' k = c k) ∧
      ∀ j < 2 * n, wordEnabled wordEn (j / 2) = true → packed c' wordEn addr j = data j := by
  induction n with
  | zero => exact ⟨c, rfl, fun _ _ => rfl, fun j hj => absurd hj (Nat.not_lt_zero j)⟩
  | succ n ih =>
    obtain ⟨c', hrun, hout, hin⟩ := ih fun k hlo hhi => h k hlo (by omega)
    have hbefore := wordsBefore_le wordEn n
    rw [List.range_succ, List.foldl_append, hrun, List.foldl_cons, List.foldl_nil, writeWord, wordsBefore_succ]
    split
    · rename_i hen
      dsimp only
      generalize hat : addr + 2 * wordsBefore wordEn n = p at hout
      have hblank : c' p = 0xFF := (hout p (.inr le_rfl)).trans (h p (by omega) (by omega))
      have hblank1 : Function.update c' p (data (2 * n)) (p + 1) = 0xFF := by
        rw [Function.update_of_ne (by omega)]
        exact (hout (p + 1) (by omega)).trans (h (p + 1) (by omega) (by omega))
      rw [oneByteWrite_blank hblank, oneByteWrite_blank hblank1, oneByteRead_withBank, oneByteRead_withBank,
        Function.update_self, Function.update_of_ne (by omega : p ≠ p + 1), Function.update_self, beq_self_eq_true,
        beq_self_eq_true]
      refine ⟨Function.update (Function.update c' p (data (2 * n))) (p + 1) (data (2 * n + 1)), ?_, fun k hk => ?_,
        fun j hj hj2 => ?_⟩
      · rw [mul_add, ← add_assoc, hat]
        rfl
      · rw [Function.update_of_ne (by omega), Function.update_of_ne (by omega)]
        exact hout k (by omega)
      · by_cases hlast : j < 2 * n
        · have hlt : wordsBefore wordEn (j / 2) < wordsBefore wordEn n := wordsBefore_lt (by omega) hj2
          have hold := hin j hlast hj2
          rw [packed] at hold ⊢
          rw [Function.update_of_ne (by omega), Function.update_of_ne (by omega)]
          exact hold
        · have hhalf : j / 2 = n := by omega
          rw [packed, hhalf, hat]
          obtain hj0 | hj1 : j = 2 * n ∨ j = 2 * n + 1 := by omega
          · rw [show j % 2 = 0 by omega, add_zero, Function.update_of_ne (by omega), Function.update_self, hj0]
          · rw [show j % 2 = 1 by omega, Function.update_self, hj1]
    · rename_i hen
      refine ⟨c', rfl, hout, fun j hj hj2 => hin j ?_ hj2⟩
      by_contra hge
      rw [show j / 2 = n by omega] at hj2
      exact hen hj2

/-! ## A packet -/

variable {type : EfuseType} {offset wordEn last : ℕ} {tbl tbl' : Map} {data : ℕ → UInt8}

theorem packet_data (fuse : Fuse) (hw : EfuseHal) (wordEn : ℕ) (data : ℕ → UInt8) (h : ∀ k, addr ≤ k → k < addr + 8 → c k = 0xFF) :
    ∃ c', (hw.withBank c).wordEnableDataWrite fuse addr wordEn (constructData wordEn data) = (true, hw.withBank c') ∧
      (∀ k, k < addr ∨ addr + 2 * wordsBefore wordEn 4 ≤ k → c' k = c k) ∧
      ∀ offset tbl, storeWords offset wordEn 4 (packed c' wordEn addr) tbl = storeWords offset wordEn 4 data tbl := by
  obtain ⟨c', hrun, hout, hin⟩ := foldl_writeWord fuse hw wordEn (constructData wordEn data) 4 h
  refine ⟨c', ?_, hout, fun offset tbl => storeWords_congr offset wordEn 4 tbl fun j hj hen => ?_⟩
  · have hgood : (hw.withBank c).wordEnableDataWrite fuse addr wordEn (constructData wordEn data) =
        ((List.range 4).foldl (writeWord fuse wordEn (constructData wordEn data)) (addr, hw.withBank c, true)).2.swap := rfl
    rw [hgood, hrun]
    rfl
  · rw [hin j hj hen]
    exact if_pos hen

/-- The bank after a packet has been written at the end of its log. -/
structure Appended (c c' : Bank) (sections last next offset wordEn : ℕ) (data : ℕ → UInt8) : Prop where
  same : ∀ k < last, c' k = c k
  lt : last < next
  le : next ≤ last + 10
  blank : BlankFrom c' next
  read : ∀ tbl, readPacket c' sections last tbl = some (next, storeWords offset wordEn 4 data tbl)
  size : ∀ skip, sizePacket c' skip last = some next

theorem Appended.log {c c' : Bank} {sections next : ℕ} (h : Appended c c' sections last next offset wordEn data)
    (hroom : last + 10 ≤ EFUSE_REAL_CONTENT_LEN) (hlog : Log c sections last tbl tbl') :
    Log c' sections next tbl (storeWords offset wordEn 4 data tbl') := by
  have hle := h.le
  refine ⟨.packet (hlog.replays.congr fun k _ hk => h.same k hk) (by omega) (h.read _), by omega, h.blank⟩

/-- The header and the words of a packet, written where the cells are blank. -/
theorem packet_written (fuse : Fuse) (hw : EfuseHal) (data : ℕ → UInt8) (hblank : BlankFrom c last) (hroom : last + 10 ≤ EFUSE_REAL_CONTENT_LEN)
    (hbank : last < availableBytesBank type) (hoffset : offset < maxSection type) (hwordEn : wordEn < 15) :
    ∃ c' next addr, Appended c c' (maxSection type) last next offset wordEn data ∧
      ((hw.withBank c).pgPacketWriteHeader fuse type last offset wordEn).1 = some addr ∧
      ((hw.withBank c).pgPacketWriteHeader fuse type last offset wordEn).2.wordEnableDataWrite fuse (addr + 1) wordEn
        (constructData wordEn data) = (true, hw.withBank c') := by
  have hcell : ∀ k, last ≤ k → k < last + 10 → c k = 0xFF := fun k hlo hhi => hblank k hlo (by omega)
  have hwords := wordsBefore_le wordEn 4
  unfold pgPacketWriteHeader
  split
  · have hbt : offset < EFUSE_BT_MAX_SECTION := by
      cases type with
      | WIFI => exact hoffset.trans (by decide)
      | BT => exact hoffset
    obtain ⟨hne1, hext, hne2, hwde, hreadOffset, hreadWords⟩ := pgHeader2_reads hbt hwordEn
    have hblank0 : c last = 0xFF := hcell last le_rfl (by omega)
    have hblank1 : Function.update c last (pgHeader1 offset) (last + 1) = 0xFF := by
      rw [Function.update_of_ne (by omega)]
      exact hcell (last + 1) (by omega) (by omega)
    generalize hcb : Function.update (Function.update c last (pgHeader1 offset)) (last + 1) (pgHeader2 offset wordEn) = cb
    have hout : ∀ k, k < last ∨ last + 2 ≤ k → cb k = c k := by
      intro k hk
      rw [← hcb, Function.update_of_ne (by omega), Function.update_of_ne (by omega)]
    obtain ⟨c', hrun, hsame, hstore⟩ := packet_data fuse hw wordEn data (c := cb) fun k hlo hhi => (hout k (.inr hlo)).trans (hcell k (by omega) (by omega))
    have hheader : (hw.withBank c).pgPacketWrite2ByteHeader fuse type last offset wordEn =
        (some (last + 1), hw.withBank cb) := by
      unfold pgPacketWrite2ByteHeader
      rw [if_neg (by omega), writeHeaderByte_blank hblank0 hne1]
      dsimp only
      rw [if_pos rfl, writeHeaderByte_blank hblank1 hne2, hcb]
      rfl
    have h0 : c' last = pgHeader1 offset := by
      rw [hsame last (by omega), ← hcb, Function.update_of_ne (by omega), Function.update_self]
    have h1 : c' (last + 1) = pgHeader2 offset wordEn := by
      rw [hsame (last + 1) (by omega), ← hcb, Function.update_self]
    refine ⟨c', last + 2 + 2 * wordsBefore wordEn 4, last + 1, ⟨fun k hk => ?_, by omega, by omega, fun k hlo hhi => ?_,
      fun tbl => ?_, fun skip => ?_⟩, ?_, ?_⟩
    · rw [hsame k (by omega), hout k (by omega)]
    · rw [hsame k (by omega), hout k (by omega)]
      exact hblank k (by omega) hhi
    · rw [readPacket_ext (by rw [h0]; exact hne1) (by rw [h0]; exact hext) (by rw [h1]; exact hwde), h0, h1, hreadOffset,
        hreadWords, readWords_eq, if_pos hoffset, hstore]
    · rw [sizePacket_ext skip (by rw [h0]; exact hext) (by rw [h1]; exact hwde), h1, hreadWords, calculateWordCnts_eq]
      congr 1
      omega
    · rw [hheader]
    · rw [hheader]
      exact hrun
  · rename_i hshort
    obtain ⟨hne, hext, hreadOffset, hreadWords⟩ := pgHeader_reads (Nat.lt_of_not_le hshort) hwordEn
    have hblank0 : c last = 0xFF := hcell last le_rfl (by omega)
    generalize hcb : Function.update c last (pgHeader offset wordEn) = cb
    have hout : ∀ k, k < last ∨ last + 1 ≤ k → cb k = c k := by
      intro k hk
      rw [← hcb, Function.update_of_ne (by omega)]
    obtain ⟨c', hrun, hsame, hstore⟩ := packet_data fuse hw wordEn data (c := cb) fun k hlo hhi => (hout k (.inr hlo)).trans (hcell k (by omega) (by omega))
    have hheader : (hw.withBank c).pgPacketWrite1ByteHeader fuse last offset wordEn = (some last, hw.withBank cb) := by
      unfold pgPacketWrite1ByteHeader
      rw [writeHeaderByte_blank hblank0 hne, hcb]
      rfl
    have h0 : c' last = pgHeader offset wordEn := by
      rw [hsame last (by omega), ← hcb, Function.update_self]
    refine ⟨c', last + 1 + 2 * wordsBefore wordEn 4, last, ⟨fun k hk => ?_, by omega, by omega, fun k hlo hhi => ?_,
      fun tbl => ?_, fun skip => ?_⟩, ?_, ?_⟩
    · rw [hsame k (by omega), hout k (by omega)]
    · rw [hsame k (by omega), hout k (by omega)]
      exact hblank k (by omega) hhi
    · rw [readPacket_short (by rw [h0]; exact hne) (by rw [h0]; exact hext), h0, hreadOffset, hreadWords, readWords_eq,
        if_pos hoffset, hstore]
    · rw [sizePacket_short skip (by rw [h0]; exact hext) (by rw [h0]; exact hne), h0, hreadWords, calculateWordCnts_eq]
      congr 1
      omega
    · rw [hheader]
    · rw [hheader]
      exact hrun

end EfuseHal

end Rtl8723au.Efuse
