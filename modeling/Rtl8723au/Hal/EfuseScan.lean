import Rtl8723au.Hal.EfuseLog

/-! The two scanners of the Wi-Fi efuse. `hal_EfuseGetCurrentSize_WiFi` goes on one byte behind an extended header
without words, so it takes the second byte of that header for a header. It falls into step with the reader again
unless that byte is blank. -/
namespace Rtl8723au.Efuse
set_option autoImplicit false

/-! ## The addresses the reader takes for headers -/

/-- The Bluetooth scan goes from header to header as the readers do. -/
theorem sizePacket_two (c : Bank) (sections addr : ℕ) (tbl : Map) :
    sizePacket c 2 addr = (readPacket c sections addr tbl).map Prod.fst := by
  have hadd : ∀ wden, addr + 1 + (calculateWordCnts wden * 2 + 1) = addr + 2 + 2 * wordsBefore wden 4 := by
    intro wden
    rw [calculateWordCnts_eq]
    omega
  have hadd' : ∀ wden, addr + (calculateWordCnts wden * 2 + 1) = addr + 1 + 2 * wordsBefore wden 4 := by
    intro wden
    rw [calculateWordCnts_eq]
    omega
  unfold sizePacket
  dsimp only
  split
  · rename_i hblank
    rw [readPacket_blank hblank]
    rfl
  rename_i hblank
  split
  · rename_i hext
    split
    · rename_i hwde
      rw [readPacket_disabled hblank hext hwde]
      rfl
    · rename_i hwde
      rw [readPacket_ext hblank hext hwde, readWords_eq, hadd]
      rfl
  · rename_i hext
    rw [readPacket_short hblank hext, readWords_eq, hadd']
    rfl

/-- The reader comes from the header at `addr` to the one at `last`. -/
inductive Headers (c : Bank) : ℕ → ℕ → Prop
  | here (addr : ℕ) : Headers c addr addr
  | next {addr mid last : ℕ} {tbl tbl' : Map} (inside : addr < EFUSE_REAL_CONTENT_LEN)
    (read : readPacket c EFUSE_MAX_SECTION_8723A addr tbl = some (mid, tbl')) (rest : Headers c mid last) :
    Headers c addr last

theorem sizePacket_blank {c : Bank} {skip addr : ℕ} (h : c addr = 0xFF) : sizePacket c skip addr = none := by
  unfold sizePacket
  exact if_pos h

namespace Headers
variable {c : Bank} {addr mid last q : ℕ}

theorem step (inside : addr < EFUSE_REAL_CONTENT_LEN) (h : sizePacket c 2 addr = some mid) (rest : Headers c mid last) :
    Headers c addr last := by
  rw [sizePacket_two c EFUSE_MAX_SECTION_8723A addr blankMap, Option.map_eq_some_iff] at h
  obtain ⟨⟨mid, tbl'⟩, ho, rfl⟩ := h
  exact .next inside ho rest

theorem le (h : Headers c addr last) : addr ≤ last := by
  induction h with
  | here addr => exact le_rfl
  | next inside read rest ih => exact (readPacket_lt read).le.trans ih

theorem tail (h : Headers c addr q) (hne : q ≠ addr) (hstep : sizePacket c 2 addr = some mid) : Headers c mid q := by
  cases h with
  | here => exact absurd rfl hne
  | next inside read rest =>
    rw [sizePacket_two, read, Option.map_some, Option.some.injEq] at hstep
    subst hstep
    exact rest

theorem trans (h : Headers c addr mid) (h' : Headers c mid last) : Headers c addr last := by
  induction h with
  | here addr => exact h'
  | next inside read rest ih => exact .next inside read (ih h')

theorem concat (h : Headers c addr mid) (inside : mid < EFUSE_REAL_CONTENT_LEN)
    (hstep : sizePacket c 2 mid = some last) : Headers c addr last :=
  h.trans (step inside hstep (here last))

theorem eq_of_blank (h : Headers c addr q) (hblank : c addr = 0xFF) : q = addr := by
  cases h with
  | here => rfl
  | next inside read rest =>
    rw [readPacket_blank hblank] at read
    exact absurd read.symm (Option.some_ne_none _)

end Headers

theorem sizePacket_lt {c : Bank} {addr next : ℕ} (h : sizePacket c 2 addr = some next) : addr < next := by
  rw [sizePacket_two c 0 addr blankMap, Option.map_eq_some_iff] at h
  obtain ⟨⟨next, tbl'⟩, ho, rfl⟩ := h
  exact readPacket_lt ho

theorem readLoop_headers {c : Bank} {fuel addr a : ℕ} {tbl : Map}
    (hblank : (readLoop c EFUSE_MAX_SECTION_8723A fuel addr tbl).blank = true)
    (haddr : (readLoop c EFUSE_MAX_SECTION_8723A fuel addr tbl).addr = a + 1) :
    Headers c addr a ∧ a < EFUSE_REAL_CONTENT_LEN ∧ c a = 0xFF := by
  induction fuel generalizing addr tbl with
  | zero => exact absurd hblank Bool.false_ne_true
  | succ fuel ih =>
    rw [readLoop] at hblank haddr
    by_cases hinside : addr < EFUSE_REAL_CONTENT_LEN
    · rw [if_pos hinside] at hblank haddr
      cases hread : readPacket c EFUSE_MAX_SECTION_8723A addr tbl with
      | none =>
        rw [hread] at haddr
        obtain rfl : addr = a := Nat.succ.inj haddr
        refine ⟨.here addr, hinside, ?_⟩
        by_contra hne
        rw [readPacket] at hread
        dsimp only at hread
        rw [if_neg hne] at hread
        split at hread
        · split at hread <;> exact Option.some_ne_none _ hread
        · exact Option.some_ne_none _ hread
      | some o =>
        rw [hread] at hblank haddr
        obtain ⟨hrest, hlt, hc⟩ := ih hblank haddr
        exact ⟨.next hinside hread hrest, hlt, hc⟩
    · rw [if_neg hinside] at hblank
      exact absurd hblank Bool.false_ne_true

/-! ## Falling into step -/

/-- An extended header whose second byte is blank. -/
def Torn (c : Bank) (addr : ℕ) : Prop := extHeader (c addr) = true ∧ c (addr + 1) = 0xFF

theorem low_of_ext {b : UInt8} (h : extHeader b = true) : allWordsDisabled b = true := by
  have hall : ∀ y : BitVec 8, extHeader (UInt8.ofBitVec y) = true → allWordsDisabled (UInt8.ofBitVec y) = true := by
    decide +kernel
  exact hall b.toBitVec h

theorem words_of_disabled {b : UInt8} (h : allWordsDisabled b = true) : calculateWordCnts (hdrWordEn b) = 0 := by
  have hall : ∀ y : BitVec 8, allWordsDisabled (UInt8.ofBitVec y) = true →
      calculateWordCnts (hdrWordEn (UInt8.ofBitVec y)) = 0 := by
    decide +kernel
  exact hall b.toBitVec h

theorem blank_disabled {b : UInt8} (h : ¬ allWordsDisabled b = true) : b ≠ 0xFF := by
  rintro rfl
  exact h (by decide)

theorem ext_ne_blank {b : UInt8} (h : extHeader b = true) : b ≠ 0xFF := by
  rintro rfl
  exact absurd h (by decide)

variable {c : Bank} {addr a : ℕ}

theorem sizeLoop_step (fuel : ℕ) {next : ℕ} (hinside : addr < EFUSE_REAL_CONTENT_LEN)
    (hfuel : EFUSE_REAL_CONTENT_LEN ≤ addr + fuel) (hlt : addr < next) {skip : ℕ}
    (hstep : sizePacket c skip addr = some next) :
    ∃ rest, EFUSE_REAL_CONTENT_LEN ≤ next + rest ∧ sizeLoop c skip fuel addr = sizeLoop c skip rest next := by
  obtain ⟨fuel, rfl⟩ := Nat.exists_eq_succ_of_ne_zero (n := fuel) (by omega)
  refine ⟨fuel, by omega, ?_⟩
  rw [sizeLoop, if_pos hinside, hstep]

theorem sizeLoop_blank {skip fuel : ℕ} (hblank : c addr = 0xFF) : sizeLoop c skip fuel addr = addr := by
  cases fuel with
  | zero => rfl
  | succ fuel =>
    rw [sizeLoop, sizePacket_blank hblank]
    exact ite_self addr

theorem sizePacket_short (skip : ℕ) (hext : ¬ extHeader (c addr) = true) (hblank : c addr ≠ 0xFF) :
    sizePacket c skip addr = some (addr + (calculateWordCnts (hdrWordEn (c addr)) * 2 + 1)) := by
  unfold sizePacket
  dsimp only
  rw [if_neg hblank, if_neg hext]

theorem sizePacket_ext (skip : ℕ) (hext : extHeader (c addr) = true) (hwde : ¬ allWordsDisabled (c (addr + 1)) = true) :
    sizePacket c skip addr = some (addr + 1 + (calculateWordCnts (hdrWordEn (c (addr + 1))) * 2 + 1)) := by
  unfold sizePacket
  dsimp only
  rw [if_neg (ext_ne_blank hext), if_pos hext, if_neg hwde]

theorem sizePacket_disabled (skip : ℕ) (hext : extHeader (c addr) = true)
    (hwde : allWordsDisabled (c (addr + 1)) = true) : sizePacket c skip addr = some (addr + skip) := by
  unfold sizePacket
  dsimp only
  rw [if_neg (ext_ne_blank hext), if_pos hext, if_pos hwde]

/-- The scan has come to a later header of the reader, past no torn one. -/
structure Resync (c : Bank) (addr a fuel next rest : ℕ) : Prop where
  lt : addr < next
  reach : Headers c addr next
  toEnd : Headers c next a
  left : EFUSE_REAL_CONTENT_LEN ≤ next + rest
  run : sizeLoop c 1 fuel addr = sizeLoop c 1 rest next
  past : ∀ q, Headers c addr q → Torn c q → Headers c next q

theorem sizeLoop_resync (h : Headers c addr a) (hne : addr ≠ a) (ha : a < EFUSE_REAL_CONTENT_LEN) (hblank : c a = 0xFF)
    (htorn : ¬ Torn c addr) {fuel : ℕ} (hfuel : EFUSE_REAL_CONTENT_LEN ≤ addr + fuel) :
    ∃ next rest, Resync c addr a fuel next rest := by
  have hinside : addr < EFUSE_REAL_CONTENT_LEN := h.le.trans_lt ha
  -- a step the two scans take alike
  have halike : ∀ next, sizePacket c 1 addr = some next → sizePacket c 2 addr = some next →
      ∃ next rest, Resync c addr a fuel next rest := by
    intro next h1 h2
    obtain ⟨rest, hrest, hrun⟩ := sizeLoop_step fuel hinside hfuel (sizePacket_lt h2) h1
    refine ⟨next, rest, sizePacket_lt h2, .step hinside h2 (.here next), h.tail hne.symm h2, hrest, hrun,
      fun q hq hqt => hq.tail ?_ h2⟩
    rintro rfl
    exact htorn hqt
  by_cases hext : extHeader (c addr) = true
  · by_cases hwde : allWordsDisabled (c (addr + 1)) = true
    · -- the reader is at `addr + 2`, the scan at `addr + 1`
      have h2 : sizePacket c 2 addr = some (addr + 2) := sizePacket_disabled 2 hext hwde
      have h1 : sizePacket c 1 addr = some (addr + 1) := sizePacket_disabled 1 hext hwde
      have hreader : Headers c (addr + 2) a := h.tail hne.symm h2
      have hreach : Headers c addr (addr + 2) := .step hinside h2 (.here _)
      have hpast : ∀ q, Headers c addr q → Torn c q → Headers c (addr + 2) q := by
        intro q hq hqt
        refine hq.tail ?_ h2
        rintro rfl
        exact htorn hqt
      have hle := hreader.le
      obtain ⟨rest, hrest, hrun⟩ := sizeLoop_step fuel hinside hfuel (Nat.lt_succ_self addr) h1
      have hsecond : c (addr + 1) ≠ 0xFF := fun hb => htorn ⟨hext, hb⟩
      by_cases hext1 : extHeader (c (addr + 1)) = true
      · by_cases hwde2 : allWordsDisabled (c (addr + 1 + 1)) = true
        · obtain ⟨rest', hrest', hrun'⟩ := sizeLoop_step rest (by omega) hrest (Nat.lt_succ_self (addr + 1))
            (sizePacket_disabled 1 hext1 hwde2)
          exact ⟨addr + 2, rest', by omega, hreach, hreader, hrest', hrun.trans hrun', hpast⟩
        · -- the reader takes the third byte for a header, the scan for the second byte of one
          have hext2 : ¬ extHeader (c (addr + 2)) = true := fun h => hwde2 (low_of_ext h)
          have hsame : addr + 1 + 1 + (calculateWordCnts (hdrWordEn (c (addr + 1 + 1))) * 2 + 1) =
              addr + 2 + (calculateWordCnts (hdrWordEn (c (addr + 2))) * 2 + 1) := rfl
          have hscan := sizePacket_ext 1 hext1 hwde2
          have hthird := sizePacket_short 2 hext2 (blank_disabled hwde2)
          rw [hsame] at hscan
          obtain ⟨rest', hrest', hrun'⟩ := sizeLoop_step rest (by omega) hrest (by omega) hscan
          have hne2 : addr + 2 ≠ a := by
            rintro rfl
            exact blank_disabled hwde2 hblank
          refine ⟨_, rest', by omega, hreach.concat (by omega) hthird, hreader.tail hne2.symm hthird, hrest',
            hrun.trans hrun', fun q hq hqt => ?_⟩
          refine (hpast q hq hqt).tail ?_ hthird
          rintro rfl
          exact hext2 hqt.1
      · have hscan := sizePacket_short 1 hext1 hsecond
        rw [words_of_disabled hwde] at hscan
        obtain ⟨rest', hrest', hrun'⟩ := sizeLoop_step rest (by omega) hrest (by omega) hscan
        exact ⟨addr + 2, rest', by omega, hreach, hreader, hrest', hrun.trans hrun', hpast⟩
    · exact halike _ (sizePacket_ext 1 hext hwde) (sizePacket_ext 2 hext hwde)
  · have hfull : c addr ≠ 0xFF := by
      intro hb
      exact hne (h.eq_of_blank hb).symm
    exact halike _ (sizePacket_short 1 hext hfull) (sizePacket_short 2 hext hfull)

/-- The scan finds the end of the reader's log, or a torn header and an address before the end. -/
theorem sizeLoop_end (h : Headers c addr a) (ha : a < EFUSE_REAL_CONTENT_LEN) (hblank : c a = 0xFF) (fuel : ℕ)
    (hfuel : EFUSE_REAL_CONTENT_LEN ≤ addr + fuel) :
    ((∃ q, Headers c addr q ∧ Torn c q) → sizeLoop c 1 fuel addr < a) ∧
      ((¬ ∃ q, Headers c addr q ∧ Torn c q) → sizeLoop c 1 fuel addr = a) := by
  have hrun : ∀ n, ∀ addr fuel, a - addr ≤ n → Headers c addr a → EFUSE_REAL_CONTENT_LEN ≤ addr + fuel →
      ((∃ q, Headers c addr q ∧ Torn c q) → sizeLoop c 1 fuel addr < a) ∧
      ((¬ ∃ q, Headers c addr q ∧ Torn c q) → sizeLoop c 1 fuel addr = a) := by
    intro n
    induction n with
    | zero =>
      intro addr fuel hn h hfuel
      obtain rfl : addr = a := by
        have := h.le
        omega
      refine ⟨fun ⟨q, hq, hqt⟩ => ?_, fun _ => sizeLoop_blank hblank⟩
      obtain rfl := hq.eq_of_blank hblank
      exact absurd hblank (ext_ne_blank hqt.1)
    | succ n ih =>
      intro addr fuel hn h hfuel
      by_cases heq : addr = a
      · subst heq
        exact ih addr fuel (by omega) h hfuel
      have hinside : addr < EFUSE_REAL_CONTENT_LEN := h.le.trans_lt ha
      by_cases htorn : Torn c addr
      · -- the scan stops at the second byte
        have hwde : allWordsDisabled (c (addr + 1)) = true := by
          rw [htorn.2]
          decide
        have hreader : Headers c (addr + 2) a := h.tail (Ne.symm heq) (sizePacket_disabled 2 htorn.1 hwde)
        have hle := hreader.le
        obtain ⟨rest, hrest, hrun⟩ := sizeLoop_step fuel hinside hfuel (Nat.lt_succ_self addr)
          (sizePacket_disabled 1 htorn.1 hwde)
        refine ⟨fun _ => ?_, fun hno => absurd ⟨addr, .here addr, htorn⟩ hno⟩
        rw [hrun, sizeLoop_blank htorn.2]
        omega
      · obtain ⟨next, rest, hsync⟩ := sizeLoop_resync h heq ha hblank htorn hfuel
        obtain ⟨hlt, hreach, hnext, hrest, hrun, hpast⟩ := hsync
        obtain ⟨hbad, hgood⟩ := ih next rest (by omega) hnext hrest
        rw [hrun]
        exact ⟨fun ⟨q, hq, hqt⟩ => hbad ⟨q, hpast q hq hqt, hqt⟩,
          fun hno => hgood fun ⟨q, hq, hqt⟩ => hno ⟨q, hreach.trans hq, hqt⟩⟩
  exact hrun (a - addr) addr fuel le_rfl h hfuel

/-! ## Where the writer starts -/

/-- What one scan says about where the other ends: the size is the end of the reader's log, and no packet starts
before it. -/
def Agrees (hw : EfuseHal) (a : ℕ) : Prop :=
  hw.getCurrentSizeWiFi.1 = a ∧ ∀ start, (hw.pgPacketStart .WIFI).1 = some start → a ≤ start

theorem pgPacketStart_wifi {hw : EfuseHal} {start : ℕ} (h : (hw.pgPacketStart .WIFI).1 = some start) :
    start = hw.getCurrentSizeWiFi.1 % EFUSE_REAL_CONTENT_LEN := by
  unfold EfuseHal.pgPacketStart EfuseHal.pgCheckAvailableAddr EfuseHal.partialWriteCheck at h
  dsimp only at h
  split at h
  · split at h
    · exact absurd h.symm (Option.some_ne_none _)
    split at h
    · exact absurd h.symm (Option.some_ne_none _)
    · exact (Option.some.inj h).symm
  · exact absurd h.symm (Option.some_ne_none _)

/-- The two scanners of the Wi-Fi efuse agree, whatever it holds, unless the reader's log has an extended header whose
second byte is blank. -/
theorem scanners_agree (hw : EfuseHal) (a : ℕ) (hused : hw.usedBytes = 0)
    (hblank : (readBank (hw.cells 0) EFUSE_MAX_SECTION_8723A blankMap).blank = true)
    (ha : (readBank (hw.cells 0) EFUSE_MAX_SECTION_8723A blankMap).addr = a + 1) :
    Agrees hw a ↔ ∀ addr, Headers (hw.cells 0) 0 addr → ¬ Torn (hw.cells 0) addr := by
  obtain ⟨hlog, hlt, hc⟩ := readLoop_headers hblank ha
  obtain ⟨hbad, hgood⟩ := sizeLoop_end hlog hlt hc EFUSE_REAL_CONTENT_LEN (by omega)
  have hsize : hw.getCurrentSizeWiFi.1 = sizeLoop (hw.cells 0) 1 EFUSE_REAL_CONTENT_LEN 0 := by
    show sizeBank (hw.cells 0) 1 hw.usedBytes = _
    rw [hused]
    rfl
  rw [← hsize] at hbad hgood
  constructor
  · intro h addr haddr htorn
    exact absurd h.1 (Nat.ne_of_lt (hbad ⟨addr, haddr, htorn⟩))
  · intro h
    have heq := hgood fun ⟨addr, haddr, htorn⟩ => h addr haddr htorn
    refine ⟨heq, fun start hstart => ?_⟩
    rw [pgPacketStart_wifi hstart, heq, Nat.mod_eq_of_lt hlt]

/-- A device whose Wi-Fi bank starts with some bytes. -/
def programmed (l : List UInt8) : EfuseHal where
  cells _ k := l.getD k 0xFF
  bank := 0
  usedBytes := 0
  btUsedBytes := 0

/-- An extended header without words, then a packet of one word. -/
theorem scanners_agree_skipped : Agrees (programmed [0x0F, 0x1F, 0x1E, 0x12, 0x34]) 5 ↔
    ∀ addr, Headers ((programmed [0x0F, 0x1F, 0x1E, 0x12, 0x34]).cells 0) 0 addr →
      ¬ Torn ((programmed [0x0F, 0x1F, 0x1E, 0x12, 0x34]).cells 0) addr :=
  scanners_agree _ 5 rfl (by decide +kernel) (by decide +kernel)

/-- The reader ends at the third cell, the other scan at the second. -/
theorem scanners_disagree : (readBank ((programmed [0x0F]).cells 0) EFUSE_MAX_SECTION_8723A blankMap).blank = true ∧
    (readBank ((programmed [0x0F]).cells 0) EFUSE_MAX_SECTION_8723A blankMap).addr = 2 + 1 ∧
    ¬ Agrees (programmed [0x0F]) 2 :=
  ⟨by decide +kernel, by decide +kernel, fun h => absurd h.1 (by decide +kernel)⟩

end Rtl8723au.Efuse
