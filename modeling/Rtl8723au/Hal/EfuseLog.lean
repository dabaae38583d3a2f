import Rtl8723au.Hal.Efuse

/-! The log in one bank: packets one behind the other, and blank cells behind the last. The readers replay it and the
other scan finds its end. Only the cells of a packet decide what reading it does. -/
namespace Rtl8723au.Efuse
set_option autoImplicit false

/-! ## The words of a packet -/

/-- How many of the first `n` words take part. -/
def wordsBefore (wden n : ℕ) : ℕ := (List.range n).countP (wordEnabled wden)

theorem wordsBefore_succ (wden n : ℕ) :
    wordsBefore wden (n + 1) = wordsBefore wden n + if wordEnabled wden n then 1 else 0 := by
  rw [wordsBefore, List.range_succ, List.countP_append, List.countP_singleton]
  rfl

theorem wordsBefore_mono (wden : ℕ) {m n : ℕ} (h : m ≤ n) : wordsBefore wden m ≤ wordsBefore wden n := by
  induction n, h using Nat.le_induction with
  | base => exact le_rfl
  | succ n _ ih =>
    rw [wordsBefore_succ]
    omega

theorem wordsBefore_le (wden n : ℕ) : wordsBefore wden n ≤ n := by
  induction n with
  | zero => exact le_rfl
  | succ n ih =>
    rw [wordsBefore_succ]
    split <;> omega

theorem wordsBefore_lt {wden m n : ℕ} (h : m < n) (hm : wordEnabled wden m = true) :
    wordsBefore wden m < wordsBefore wden n := by
  have hstep : wordsBefore wden (m + 1) = wordsBefore wden m + 1 := by
    rw [wordsBefore_succ, if_pos hm]
  have hmono : wordsBefore wden (m + 1) ≤ wordsBefore wden n := wordsBefore_mono wden h
  omega

/-- The map with the first `n` words of a section taken from `bytes` where they take part. -/
def storeWords (offset wden n : ℕ) (bytes : ℕ → UInt8) (tbl : Map) : Map := fun k =>
  if offset * 8 ≤ k ∧ k < offset * 8 + 2 * n ∧ wordEnabled wden ((k - offset * 8) / 2) then bytes (k - offset * 8)
  else tbl k

theorem storeWords_zero (offset wden : ℕ) (bytes : ℕ → UInt8) (tbl : Map) : storeWords offset wden 0 bytes tbl = tbl := by
  funext k
  exact if_neg (by omega)

theorem storeWords_congr (offset wden n : ℕ) {b b' : ℕ → UInt8} (tbl : Map)
    (h : ∀ j < 2 * n, wordEnabled wden (j / 2) = true → b j = b' j) :
    storeWords offset wden n b tbl = storeWords offset wden n b' tbl := by
  funext k
  unfold storeWords
  split
  · rename_i hk
    exact h _ (by omega) hk.2.2
  · rfl

theorem storeWords_succ (offset wden n : ℕ) (bytes : ℕ → UInt8) (tbl : Map) :
    storeWords offset wden (n + 1) bytes tbl =
      if wordEnabled wden n then
        Function.update (Function.update (storeWords offset wden n bytes tbl) (offset * 8 + 2 * n) (bytes (2 * n)))
          (offset * 8 + 2 * n + 1) (bytes (2 * n + 1))
      else storeWords offset wden n bytes tbl := by
  split
  · rename_i hn
    funext k
    by_cases h1 : k = offset * 8 + 2 * n + 1
    · subst h1
      have hk : offset * 8 + 2 * n + 1 - offset * 8 = 2 * n + 1 := by omega
      have hhalf : (2 * n + 1) / 2 = n := by omega
      rw [Function.update_self, storeWords, hk, hhalf, if_pos ⟨by omega, by omega, hn⟩]
    · rw [Function.update_of_ne h1]
      by_cases h0 : k = offset * 8 + 2 * n
      · subst h0
        have hk : offset * 8 + 2 * n - offset * 8 = 2 * n := by omega
        have hhalf : 2 * n / 2 = n := by omega
        rw [Function.update_self, storeWords, hk, hhalf, if_pos ⟨by omega, by omega, hn⟩]
      · rw [Function.update_of_ne h0, storeWords, storeWords]
        have hiff : k < offset * 8 + 2 * (n + 1) ↔ k < offset * 8 + 2 * n := by omega
        simp only [hiff]
  · rename_i hn
    funext k
    rw [storeWords, storeWords]
    by_cases hk : offset * 8 ≤ k ∧ k < offset * 8 + 2 * n
    · have h1 : k < offset * 8 + 2 * (n + 1) := by omega
      simp only [hk.1, hk.2, h1, true_and]
    · have hlast : ¬ (offset * 8 ≤ k ∧ k < offset * 8 + 2 * (n + 1) ∧ wordEnabled wden ((k - offset * 8) / 2) = true) := by
        rintro ⟨hlo, hhi, hen⟩
        have hhalf : (k - offset * 8) / 2 = n := by omega
        rw [hhalf] at hen
        exact hn hen
      have hnot : ¬ (offset * 8 ≤ k ∧ k < offset * 8 + 2 * n ∧ wordEnabled wden ((k - offset * 8) / 2) = true) :=
        fun h => hk ⟨h.1, h.2.1⟩
      rw [if_neg hlast, if_neg hnot]

/-- The byte of the packet at `addr` that goes to byte `j` of the section. -/
def packed (c : Bank) (wden addr : ℕ) : ℕ → UInt8 := fun j => c (addr + 2 * wordsBefore wden (j / 2) + j % 2)

theorem foldl_readWord (c : Bank) (offset wden addr n : ℕ) (tbl : Map) :
    (List.range n).foldl (readWord c offset wden) (addr, tbl) =
      (addr + 2 * wordsBefore wden n, storeWords offset wden n (packed c wden addr) tbl) := by
  induction n with
  | zero =>
    rw [storeWords_zero]
    rfl
  | succ n ih =>
    rw [List.range_succ, List.foldl_append, ih, List.foldl_cons, List.foldl_nil, readWord, wordsBefore_succ,
      storeWords_succ]
    split
    · have h0 : packed c wden addr (2 * n) = c (addr + 2 * wordsBefore wden n) := by
        rw [packed, show 2 * n / 2 = n by omega, show 2 * n % 2 = 0 by omega]
        rfl
      have h1 : packed c wden addr (2 * n + 1) = c (addr + 2 * wordsBefore wden n + 1) := by
        rw [packed, show (2 * n + 1) / 2 = n by omega, show (2 * n + 1) % 2 = 1 by omega]
      rw [h0, h1]
      rfl
    · rfl

theorem calculateWordCnts_eq (wden : ℕ) : calculateWordCnts wden = wordsBefore wden 4 := rfl

theorem readWords_eq (c : Bank) (sections offset wden addr : ℕ) (tbl : Map) :
    readWords c sections offset wden addr tbl = (addr + 2 * wordsBefore wden 4,
      if offset < sections then storeWords offset wden 4 (packed c wden addr) tbl else tbl) := by
  unfold readWords
  split
  · exact foldl_readWord c offset wden addr 4 tbl
  · rw [calculateWordCnts_eq, mul_comm]

theorem readWords_congr {c c' : Bank} (sections offset wden addr : ℕ) (tbl : Map)
    (h : ∀ k, addr ≤ k → k < addr + 2 * wordsBefore wden 4 → c' k = c k) :
    readWords c' sections offset wden addr tbl = readWords c sections offset wden addr tbl := by
  rw [readWords_eq, readWords_eq]
  have hbytes : storeWords offset wden 4 (packed c' wden addr) tbl = storeWords offset wden 4 (packed c wden addr) tbl := by
    refine storeWords_congr offset wden 4 tbl fun j hj hen => ?_
    have hbefore : wordsBefore wden (j / 2) < wordsBefore wden 4 := wordsBefore_lt (by omega) hen
    exact h _ (by omega) (by omega)
  rw [hbytes]

/-! ## Packets -/

section Packet
variable {c c' : Bank} {sections addr next : ℕ} {tbl tbl' : Map}

theorem readPacket_blank (h : c addr = 0xFF) : readPacket c sections addr tbl = none := by
  unfold readPacket
  exact if_pos h

theorem readPacket_disabled (h : c addr ≠ 0xFF) (hext : extHeader (c addr) = true)
    (hwde : allWordsDisabled (c (addr + 1)) = true) : readPacket c sections addr tbl = some (addr + 2, tbl) := by
  unfold readPacket
  dsimp only
  rw [if_neg h, if_pos hext, if_pos hwde]

theorem readPacket_ext (h : c addr ≠ 0xFF) (hext : extHeader (c addr) = true)
    (hwde : ¬ allWordsDisabled (c (addr + 1)) = true) :
    readPacket c sections addr tbl = some (readWords c sections (extHdrOffset (c addr) (c (addr + 1)))
      (hdrWordEn (c (addr + 1))) (addr + 2) tbl) := by
  unfold readPacket
  dsimp only
  rw [if_neg h, if_pos hext, if_neg hwde]

theorem readPacket_short (h : c addr ≠ 0xFF) (hext : ¬ extHeader (c addr) = true) :
    readPacket c sections addr tbl =
      some (readWords c sections (hdrOffset (c addr)) (hdrWordEn (c addr)) (addr + 1) tbl) := by
  unfold readPacket
  dsimp only
  rw [if_neg h, if_neg hext]

theorem readPacket_lt (h : readPacket c sections addr tbl = some (next, tbl')) : addr < next := by
  by_cases hblank : c addr = 0xFF
  · rw [readPacket_blank hblank] at h
    exact absurd h.symm (Option.some_ne_none _)
  by_cases hext : extHeader (c addr) = true
  · by_cases hwde : allWordsDisabled (c (addr + 1)) = true
    · rw [readPacket_disabled hblank hext hwde, Option.some.injEq, Prod.mk.injEq] at h
      omega
    · rw [readPacket_ext hblank hext hwde, readWords_eq, Option.some.injEq, Prod.mk.injEq] at h
      omega
  · rw [readPacket_short hblank hext, readWords_eq, Option.some.injEq, Prod.mk.injEq] at h
    omega

theorem readPacket_congr (h : readPacket c sections addr tbl = some (next, tbl'))
    (hc : ∀ k, addr ≤ k → k < next → c' k = c k) : readPacket c' sections addr tbl = some (next, tbl') := by
  have hlt := readPacket_lt h
  have hhead : c' addr = c addr := hc addr le_rfl hlt
  by_cases hblank : c addr = 0xFF
  · rw [readPacket_blank hblank] at h
    exact absurd h.symm (Option.some_ne_none _)
  by_cases hext : extHeader (c addr) = true
  · by_cases hwde : allWordsDisabled (c (addr + 1)) = true
    · have hnext := h
      rw [readPacket_disabled hblank hext hwde, Option.some.injEq, Prod.mk.injEq] at hnext
      have hsecond : c' (addr + 1) = c (addr + 1) := hc (addr + 1) (by omega) (by omega)
      rw [readPacket_disabled (hhead ▸ hblank) (hhead ▸ hext) (hsecond ▸ hwde), hnext.1, hnext.2]
    · have hnext := h
      rw [readPacket_ext hblank hext hwde, readWords_eq, Option.some.injEq, Prod.mk.injEq] at hnext
      have hsecond : c' (addr + 1) = c (addr + 1) := hc (addr + 1) (by omega) (by omega)
      rw [readPacket_ext (hhead ▸ hblank) (hhead ▸ hext) (hsecond ▸ hwde), hhead, hsecond,
        readWords_congr sections _ _ _ tbl (c := c), ← readPacket_ext hblank hext hwde]
      · exact h
      · intro k hlo hhi
        exact hc k (by omega) (by omega)
  · have hnext := h
    rw [readPacket_short hblank hext, readWords_eq, Option.some.injEq, Prod.mk.injEq] at hnext
    rw [readPacket_short (hhead ▸ hblank) (hhead ▸ hext), hhead, readWords_congr sections _ _ _ tbl (c := c),
      ← readPacket_short hblank hext]
    · exact h
    · intro k hlo hhi
      exact hc k (by omega) (by omega)

end Packet

/-! ## The log -/

/-- Reading goes from one header to a later one and makes one map out of another. -/
inductive Replays (c : Bank) (sections : ℕ) (addr : ℕ) (tbl : Map) : ℕ → Map → Prop
  | refl : Replays c sections addr tbl addr tbl
  | packet {mid next : ℕ} {tbl' tbl'' : Map} (log : Replays c sections addr tbl mid tbl')
    (inside : mid < EFUSE_REAL_CONTENT_LEN) (read : readPacket c sections mid tbl' = some (next, tbl'')) :
    Replays c sections addr tbl next tbl''

/-- The cells from an address on are blank. -/
def BlankFrom (c : Bank) (addr : ℕ) : Prop := ∀ k, addr ≤ k → k < EFUSE_REAL_CONTENT_LEN → c k = 0xFF

/-- A well-formed log of packets that ends at `last`, followed by blank cells only; it makes `tbl'` out of `tbl`. -/
structure Log (c : Bank) (sections last : ℕ) (tbl tbl' : Map) : Prop where
  replays : Replays c sections 0 tbl last tbl'
  inside : last ≤ EFUSE_REAL_CONTENT_LEN
  blank : BlankFrom c last

namespace Replays
variable {c c' : Bank} {sections addr last : ℕ} {tbl tbl' : Map}

theorem le (h : Replays c sections addr tbl last tbl') : addr ≤ last := by
  induction h with
  | refl => exact le_rfl
  | packet log inside read ih => exact ih.trans (readPacket_lt read).le

theorem congr (h : Replays c sections addr tbl last tbl') (hc : ∀ k, addr ≤ k → k < last → c' k = c k) :
    Replays c' sections addr tbl last tbl' := by
  induction h with
  | refl => exact .refl
  | packet log inside read ih =>
    have hlt := readPacket_lt read
    refine .packet (ih fun k hlo hhi => hc k hlo (by omega)) inside (readPacket_congr read fun k hlo hhi => ?_)
    exact hc k (log.le.trans hlo) hhi

theorem readLoop (h : Replays c sections addr tbl last tbl') (fuel : ℕ) (hfuel : EFUSE_REAL_CONTENT_LEN ≤ addr + fuel) :
    ∃ rest, EFUSE_REAL_CONTENT_LEN ≤ last + rest ∧
      readLoop c sections fuel addr tbl = Efuse.readLoop c sections rest last tbl' := by
  induction h with
  | refl => exact ⟨fuel, hfuel, rfl⟩
  | packet log inside read ih =>
    obtain ⟨rest, hrest, hrun⟩ := ih
    obtain ⟨rest, rfl⟩ := Nat.exists_eq_succ_of_ne_zero (n := rest) (by omega)
    have hlt := readPacket_lt read
    refine ⟨rest, by omega, hrun.trans ?_⟩
    rw [Efuse.readLoop, if_pos inside, read]

end Replays

theorem readLoop_blank {c : Bank} {sections fuel addr : ℕ} {tbl : Map} (haddr : addr < EFUSE_REAL_CONTENT_LEN)
    (hfuel : EFUSE_REAL_CONTENT_LEN ≤ addr + fuel) (hblank : c addr = 0xFF) :
    readLoop c sections fuel addr tbl = ⟨addr + 1, tbl, true⟩ := by
  obtain ⟨fuel, rfl⟩ := Nat.exists_eq_succ_of_ne_zero (n := fuel) (by omega)
  rw [readLoop, if_pos haddr, readPacket_blank hblank]

theorem readLoop_full {c : Bank} {sections fuel addr : ℕ} {tbl : Map} (haddr : EFUSE_REAL_CONTENT_LEN ≤ addr) :
    readLoop c sections fuel addr tbl = ⟨addr, tbl, false⟩ := by
  cases fuel with
  | zero => rfl
  | succ fuel =>
    rw [readLoop, if_neg (by omega)]

theorem Log.readBank {c : Bank} {sections last : ℕ} {tbl tbl' : Map} (h : Log c sections last tbl tbl') :
    readBank c sections tbl = ⟨if last < EFUSE_REAL_CONTENT_LEN then last + 1 else last, tbl',
      decide (last < EFUSE_REAL_CONTENT_LEN)⟩ := by
  obtain ⟨rest, hrest, hrun⟩ := h.replays.readLoop EFUSE_REAL_CONTENT_LEN (by omega)
  rw [Efuse.readBank, hrun]
  by_cases hlast : last < EFUSE_REAL_CONTENT_LEN
  · rw [readLoop_blank hlast hrest (h.blank last le_rfl hlast), if_pos hlast, decide_eq_true hlast]
  · rw [readLoop_full (by omega), if_neg hlast, decide_eq_false hlast]

end Rtl8723au.Efuse
