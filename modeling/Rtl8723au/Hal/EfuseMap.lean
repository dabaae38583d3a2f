import Rtl8723au.Hal.EfuseBanks

/-! Writing a range of the map and reading it back. The packing goes through the range word by word; a word takes part
in the packet of its section when one of its bytes changes. -/
namespace Rtl8723au.Efuse
set_option autoImplicit false

/-! ## The bits of the words -/

theorem wordEnabled_clear {wordEn j i : ℕ} (hw : wordEn < 16) (hj : j < 4) (hi : i < 4) :
    wordEnabled (wordEn &&& (0xF ^^^ 1 <<< j)) i = (decide (i = j) || wordEnabled wordEn i) := by
  have hall : ∀ w < 16, ∀ j < 4, ∀ i < 4,
      wordEnabled (w &&& (0xF ^^^ 1 <<< j)) i = (decide (i = j) || wordEnabled w i) := by
    decide +kernel
  exact hall wordEn hw j hj i hi

theorem eq_full_iff {wordEn : ℕ} (hw : wordEn < 16) : wordEn = 0xF ↔ ∀ i < 4, ¬ wordEnabled wordEn i = true := by
  have hall : ∀ w < 16, w = 0xF ↔ ∀ i < 4, ¬ wordEnabled w i = true := by
    decide +kernel
  exact hall wordEn hw

/-! ## The packing of a section -/

def target (addr cnts : ℕ) (data map : ℕ → UInt8) : Map := fun k =>
  if addr ≤ k ∧ k < addr + cnts then data (k - addr) else map k

section Packing
variable {addr cnts : ℕ} {data map : ℕ → UInt8} {offset m : ℕ} {s : Packing}

theorem target_inside {k : ℕ} (hk : k < cnts) : target addr cnts data map (addr + k) = data k := by
  unfold target
  rw [if_pos ⟨by omega, by omega⟩, Nat.add_sub_cancel_left]

theorem target_outside {k : ℕ} (h : k < addr ∨ addr + cnts ≤ k) : target addr cnts data map k = map k :=
  if_neg (by omega)

/-- The word changes. -/
def Changes (addr cnts : ℕ) (data map : ℕ → UInt8) (offset w : ℕ) : Prop :=
  target addr cnts data map (8 * offset + 2 * w) ≠ map (8 * offset + 2 * w) ∨
    target addr cnts data map (8 * offset + 2 * w + 1) ≠ map (8 * offset + 2 * w + 1)

/-- The first `m` words of the section are packed: those take part that change. -/
structure Packed (addr cnts : ℕ) (data map : ℕ → UInt8) (offset m : ℕ) (s : Packing) : Prop where
  bound : s.wordEn < 16
  enabled : ∀ w < 4, wordEnabled s.wordEn w = true ↔ w < m ∧ Changes addr cnts data map offset w
  bytes : ∀ w < 4, wordEnabled s.wordEn w = true →
    s.newdata (2 * w) = target addr cnts data map (8 * offset + 2 * w) ∧
    s.newdata (2 * w + 1) = target addr cnts data map (8 * offset + 2 * w + 1)

theorem Packed.grow (h : Packed addr cnts data map offset m s) {n : ℕ}
    (hsame : ∀ w, (m ≤ w ∧ w < n ∨ n ≤ w ∧ w < m) → ¬ Changes addr cnts data map offset w) :
    Packed addr cnts data map offset n s := by
  refine ⟨h.bound, fun w hw => ?_, h.bytes⟩
  rw [h.enabled w hw]
  constructor
  · rintro ⟨hlt, hchanges⟩
    refine ⟨?_, hchanges⟩
    by_contra hge
    exact hsame w (.inr ⟨by omega, hlt⟩) hchanges
  · rintro ⟨hlt, hchanges⟩
    refine ⟨?_, hchanges⟩
    by_contra hge
    exact hsame w (.inl ⟨by omega, hlt⟩) hchanges

theorem Packed.empty (hsame : ∀ w < m, ¬ Changes addr cnts data map offset w) (i idx : ℕ) :
    Packed addr cnts data map offset m { i := i, idx := idx } := by
  have hnone : ∀ w < 4, ¬ wordEnabled 0xF w = true := (eq_full_iff (by decide)).mp rfl
  refine ⟨show 15 < 16 by decide, fun w hw => ⟨fun hen => absurd hen (hnone w hw), fun hch => ?_⟩,
    fun w hw hen => absurd hen (hnone w hw)⟩
  exact absurd hch.2 (hsame w hch.1)

theorem Packed.index (h : Packed addr cnts data map offset m s) (i idx : ℕ) :
    Packed addr cnts data map offset m { s with i := i, idx := idx } := ⟨h.bound, h.enabled, h.bytes⟩

theorem Packed.word (h : Packed addr cnts data map offset m s) (hm : m < 4) {b0 b1 : UInt8} {p : Prop} [Decidable p]
    (h0 : b0 = target addr cnts data map (8 * offset + 2 * m))
    (h1 : b1 = target addr cnts data map (8 * offset + 2 * m + 1)) (hp : p ↔ Changes addr cnts data map offset m) :
    Packed addr cnts data map offset (m + 1) (if p then s.setWord (2 * m) b0 b1 else s) := by
  split
  · rename_i hchange
    have hclear : ∀ w < 4, wordEnabled (s.setWord (2 * m) b0 b1).wordEn w = (decide (w = m) || wordEnabled s.wordEn w) := by
      intro w hw
      have hhalf : (2 * m) >>> 1 = m := by
        rw [Nat.shiftRight_eq_div_pow]
        omega
      show wordEnabled (s.wordEn &&& (0xF ^^^ 1 <<< ((2 * m) >>> 1))) w = _
      rw [hhalf]
      exact wordEnabled_clear h.bound hm hw
    refine ⟨lt_of_le_of_lt Nat.and_le_left h.bound, fun w hw => ?_, fun w hw hen => ?_⟩
    · rw [hclear w hw, Bool.or_eq_true, decide_eq_true_eq, h.enabled w hw]
      constructor
      · rintro (rfl | ⟨hlt, hch⟩)
        · exact ⟨Nat.lt_succ_self w, hp.mp hchange⟩
        · exact ⟨Nat.lt_succ_of_lt hlt, hch⟩
      · rintro ⟨hlt, hch⟩
        obtain hlt | heq := Nat.lt_succ_iff_lt_or_eq.mp hlt
        · exact .inr ⟨hlt, hch⟩
        · exact .inl heq
    · rw [hclear w hw, Bool.or_eq_true, decide_eq_true_eq] at hen
      show Function.update (Function.update s.newdata (2 * m) b0) (2 * m + 1) b1 (2 * w) = _ ∧
        Function.update (Function.update s.newdata (2 * m) b0) (2 * m + 1) b1 (2 * w + 1) = _
      by_cases hwm : w = m
      · subst hwm
        rw [Function.update_of_ne (by omega), Function.update_self, Function.update_self]
        exact ⟨h0, h1⟩
      · rw [Function.update_of_ne (by omega), Function.update_of_ne (by omega), Function.update_of_ne (by omega),
          Function.update_of_ne (by omega)]
        exact h.bytes w hw (hen.resolve_left hwm)
  · rename_i hsame
    refine h.grow fun w hw => ?_
    obtain rfl : w = m := by omega
    exact fun hch => hsame (hp.mpr hch)

/-- The loop over the words of a section packs all of them. It ends with the data or with the section. -/
theorem fill_packed (fuel : ℕ) (h : Packed addr cnts data map offset m s) (hm : m ≤ 4) (hfuel : 4 ≤ m + fuel)
    (hi : s.i = 2 * m) (hidx : addr + s.idx = 8 * offset + 2 * m) (hcnts : s.idx ≤ cnts) :
    Packed addr cnts data map offset 4 (s.fill addr cnts data map fuel) ∧
      ((s.fill addr cnts data map fuel).idx = cnts ∧ addr + cnts ≤ 8 * (offset + 1) ∨
        (s.fill addr cnts data map fuel).idx < cnts ∧
          addr + (s.fill addr cnts data map fuel).idx = 8 * (offset + 1)) := by
  -- behind the data nothing changes
  have hend : ∀ {m s}, m ≤ 4 → Packed addr cnts data map offset m s → addr + cnts ≤ 8 * offset + 2 * m →
      Packed addr cnts data map offset 4 s := by
    intro m s hm h hle
    refine h.grow fun w hw => ?_
    rintro (hch | hch)
    · exact hch (target_outside (by omega))
    · exact hch (target_outside (by omega))
  induction fuel generalizing m s with
  | zero =>
    obtain rfl : m = 4 := by omega
    have hfill : s.fill addr cnts data map 0 = s := rfl
    rw [hfill]
    exact ⟨h, by omega⟩
  | succ fuel ih =>
    rw [Packing.fill]
    by_cases hlast : m = 4
    · subst hlast
      rw [if_neg (by rw [hi]; decide)]
      refine ⟨h, ?_⟩
      omega
    have hlt : m < 4 := by omega
    have hsize : s.i < PGPKT_DATA_SIZE := by
      rw [hi, show PGPKT_DATA_SIZE = 8 from rfl]
      omega
    rw [if_pos hsize]
    by_cases hdone : cnts = s.idx
    · rw [if_pos hdone]
      exact ⟨hend hm h (by omega), .inl ⟨hdone.symm, by omega⟩⟩
    rw [if_neg hdone]
    have h0 : data s.idx = target addr cnts data map (8 * offset + 2 * m) := by
      rw [← hidx, target_inside (by omega)]
    by_cases hone : cnts - s.idx = 1
    · rw [if_pos hone]
      have h1 : map (addr + s.idx + 1) = target addr cnts data map (8 * offset + 2 * m + 1) := by
        rw [hidx, target_outside (by omega)]
      have hword := h.word hlt h0 h1 (p := data s.idx ≠ map (addr + s.idx)) (by
        rw [Changes, ← h0, ← h1, hidx]
        exact ⟨.inl, fun hch => hch.resolve_right fun h => h rfl⟩)
      rw [← hi] at hword
      refine ⟨hend hlt (hword.index _ _) (by omega), .inl ⟨?_, by omega⟩⟩
      show s.idx + 1 = cnts
      omega
    · rw [if_neg hone]
      have h1 : data (s.idx + 1) = target addr cnts data map (8 * offset + 2 * m + 1) := by
        rw [← hidx, add_assoc, target_inside (by omega)]
      have hword := h.word hlt h0 h1
        (p := data s.idx ≠ map (addr + s.idx) ∨ data (s.idx + 1) ≠ map (addr + s.idx + 1)) (by
        rw [Changes, ← h0, ← h1, hidx])
      rw [← hi] at hword
      by_cases htwo : s.idx + 2 = cnts
      · dsimp only
        rw [if_pos htwo]
        exact ⟨hend hlt (hword.index _ _) (by omega), .inl ⟨htwo, by omega⟩⟩
      · dsimp only
        rw [if_neg htwo]
        refine ih (hword.index _ _) (by omega) (by omega) ?_ ?_ ?_
        · show s.i + 2 = 2 * (m + 1)
          omega
        · show addr + (s.idx + 2) = 8 * offset + 2 * (m + 1)
          omega
        · show s.idx + 2 ≤ cnts
          omega

/-- The packing starts before the first word of the data that is not packed yet. -/
theorem start_packed (addr : ℕ) (data map : ℕ → UInt8) (hcnts : 1 ≤ cnts) :
    ∃ m ≤ 4, Packed addr cnts data map (addr / 8) m (Packing.start addr data map) ∧
      (Packing.start addr data map).i = 2 * m ∧
      addr + (Packing.start addr data map).idx = 8 * (addr / 8) + 2 * m ∧
      (Packing.start addr data map).idx ≤ cnts ∧ (m = 4 → (Packing.start addr data map).idx = 1) := by
  have hbits : addr &&& 0x7 = addr % 8 := Nat.and_two_pow_sub_one_eq_mod addr 3
  have hbefore : ∀ w < addr % 8 / 2, ¬ Changes addr cnts data map (addr / 8) w := by
    intro w hw hch
    obtain hch | hch := hch
    · exact hch (target_outside (by omega))
    · exact hch (target_outside (by omega))
  have hempty := Packed.empty hbefore (addr % 8) 0
  unfold Packing.start
  dsimp only
  rw [hbits, Nat.and_one_is_mod]
  by_cases hodd : addr % 8 % 2 ≠ 0
  · rw [if_pos hodd]
    have hi : addr % 8 - 1 = 2 * (addr % 8 / 2) := by omega
    have haddr : 8 * (addr / 8) + 2 * (addr % 8 / 2) = addr - 1 := by omega
    have h0 : map (addr - 1) = target addr cnts data map (8 * (addr / 8) + 2 * (addr % 8 / 2)) := by
      rw [haddr, target_outside (by omega)]
    have h1 : data 0 = target addr cnts data map (8 * (addr / 8) + 2 * (addr % 8 / 2) + 1) := by
      rw [haddr, show addr - 1 + 1 = addr + 0 by omega, target_inside (by omega)]
    have hword := hempty.word (by omega) h0 h1 (p := data 0 ≠ map addr) (by
      rw [Changes, ← h0, ← h1, haddr, show addr - 1 + 1 = addr by omega]
      exact ⟨.inr, fun hch => hch.resolve_left fun h => h rfl⟩)
    rw [← hi] at hword
    refine ⟨addr % 8 / 2 + 1, by omega, hword.index _ _, ?_, ?_, hcnts, fun _ => rfl⟩
    · show addr % 8 + 1 = 2 * (addr % 8 / 2 + 1)
      omega
    · show addr + 1 = 8 * (addr / 8) + 2 * (addr % 8 / 2 + 1)
      omega
  · rw [if_neg hodd]
    refine ⟨addr % 8 / 2, by omega, hempty, ?_, ?_, Nat.zero_le _, fun h4 => ?_⟩
    · show addr % 8 = 2 * (addr % 8 / 2)
      omega
    · show addr + 0 = 8 * (addr / 8) + 2 * (addr % 8 / 2)
      omega
    · omega

end Packing

/-! ## Section by section -/

section Sections
variable {fuse : Fuse} {type : EfuseType} {addr cnts : ℕ} {data map : ℕ → UInt8}

/-- What the sections before `offset` hold is what was asked for. -/
def upTo (addr cnts : ℕ) (data map : ℕ → UInt8) (offset : ℕ) : Map := fun k =>
  if k < 8 * offset then target addr cnts data map k else map k

theorem storeWords_packed {offset : ℕ} {s : Packing} (h : Packed addr cnts data map offset 4 s) :
    storeWords offset s.wordEn 4 s.newdata (upTo addr cnts data map offset) = upTo addr cnts data map (offset + 1) := by
  funext k
  unfold storeWords upTo
  by_cases hk : 8 * offset ≤ k ∧ k < 8 * (offset + 1)
  · have hw : (k - offset * 8) / 2 < 4 := by omega
    have hlt : k < 8 * (offset + 1) := hk.2
    have hge : ¬ k < 8 * offset := by omega
    rw [if_pos hlt, if_neg hge]
    by_cases hen : wordEnabled s.wordEn ((k - offset * 8) / 2) = true
    · rw [if_pos ⟨by omega, by omega, hen⟩]
      obtain ⟨h0, h1⟩ := h.bytes _ hw hen
      obtain heven | hodd : k - offset * 8 = 2 * ((k - offset * 8) / 2) ∨
          k - offset * 8 = 2 * ((k - offset * 8) / 2) + 1 := by omega
      · rw [heven, h0]
        congr 1
        omega
      · rw [hodd, h1]
        congr 1
        omega
    · rw [if_neg fun hc => hen hc.2.2]
      -- the word is not in the packet as nothing changes in it
      have hsame : ¬ Changes addr cnts data map offset ((k - offset * 8) / 2) := by
        intro hch
        exact hen ((h.enabled _ hw).mpr ⟨hw, hch⟩)
      rw [Changes, not_or, not_not, not_not] at hsame
      obtain heven | hodd : k = 8 * offset + 2 * ((k - offset * 8) / 2) ∨
          k = 8 * offset + 2 * ((k - offset * 8) / 2) + 1 := by omega
      · rw [heven]
        exact hsame.1.symm
      · rw [hodd]
        exact hsame.2.symm
  · rw [if_neg fun hc => hk ⟨by omega, by omega⟩]
    have hiff : k < 8 * offset ↔ k < 8 * (offset + 1) := by omega
    simp only [hiff]

theorem upTo_unchanged {offset : ℕ} {s : Packing} (h : Packed addr cnts data map offset 4 s) (hw : s.wordEn = 0xF) :
    upTo addr cnts data map (offset + 1) = upTo addr cnts data map offset := by
  rw [← storeWords_packed h]
  funext k
  refine if_neg fun hc => ?_
  have hlt : (k - offset * 8) / 2 < 4 := by omega
  exact (eq_full_iff h.bound).mp hw _ hlt hc.2.2

theorem offset_lt {offset : ℕ} {s : Packing} (h : Packed addr cnts data map offset 4 s) (hw : s.wordEn ≠ 0xF)
    (hrange : addr + cnts ≤ mapLen type) : offset < maxSection type := by
  have hlen : mapLen type = 8 * maxSection type := by
    cases type <;> rfl
  have hex : ∃ i < 4, wordEnabled s.wordEn i = true := by
    by_contra hno
    exact hw ((eq_full_iff h.bound).mpr fun i hi hen => hno ⟨i, hi, hen⟩)
  obtain ⟨i, hi, hen⟩ := hex
  by_contra hge
  obtain hch | hch := ((h.enabled i hi).mp hen).2
  · exact hch (target_outside (by omega))
  · exact hch (target_outside (by omega))

theorem upTo_end {offset : ℕ} (h : addr + cnts ≤ 8 * offset) :
    upTo addr cnts data map offset = target addr cnts data map := by
  funext k
  unfold upTo
  split
  · rfl
  · exact (target_outside (by omega)).symm

/-- The outer loop ends. When it ends well the efuse stores the map with the range replaced. -/
theorem writeSections_content (fuse : Fuse) (hrange : addr + cnts ≤ mapLen type) (fuel : ℕ) {offset m : ℕ} {s : Packing}
    {hw : EfuseHal} (h : Packed addr cnts data map offset m s) (hm : m ≤ 4) (hi : s.i = 2 * m)
    (hidx : addr + s.idx = 8 * offset + 2 * m) (hcnts : s.idx ≤ cnts)
    (hfuel : cnts - s.idx + (if m = 4 then 1 else 0) < fuel)
    (hcontent : Content hw type (upTo addr cnts data map offset)) :
    ∃ ret hw', hw.writeSections fuse type addr cnts data map fuel offset s = some (ret, hw') ∧
      (ret = true → Content hw' type (target addr cnts data map)) := by
  induction fuel generalizing offset m s hw with
  | zero => exact absurd hfuel (Nat.not_lt_zero _)
  | succ fuel ih =>
    obtain ⟨hpacked, hend⟩ := fill_packed EFUSE_MAX_WORD_UNIT h hm (Nat.le_add_left 4 m) hi hidx hcnts
    have hprogress : s.idx ≤ (s.fill addr cnts data map EFUSE_MAX_WORD_UNIT).idx := by omega
    rw [EfuseHal.writeSections]
    dsimp only
    generalize s.fill addr cnts data map EFUSE_MAX_WORD_UNIT = r at hpacked hend hprogress
    -- the section is written or has nothing to write
    have hsection : ∀ ret hw1, (if r.wordEn ≠ 0xF then hw.pgPacketWrite fuse type offset r.wordEn r.newdata
        else (true, hw)) = (ret, hw1) → ret = true → Content hw1 type (upTo addr cnts data map (offset + 1)) := by
      intro ret hw1 hrun hret
      subst hret
      by_cases hfull : r.wordEn = 0xF
      · rw [if_neg (not_not.mpr hfull), Prod.mk.injEq] at hrun
        obtain ⟨-, rfl⟩ := hrun
        rw [upTo_unchanged hpacked hfull]
        exact hcontent
      · rw [if_pos hfull] at hrun
        have hbound := hpacked.bound
        rw [← storeWords_packed hpacked]
        exact hcontent.pgPacketWrite (offset_lt hpacked hfull hrange) (by omega) hrun
    generalize hsec : (if r.wordEn ≠ 0xF then hw.pgPacketWrite fuse type offset r.wordEn r.newdata
        else (true, hw)) = o at hsection
    obtain ⟨ret, hw1⟩ := o
    dsimp only
    cases ret with
    | false => exact ⟨false, hw1, rfl, fun h => absurd h Bool.false_ne_true⟩
    | true =>
      have hnew := hsection true hw1 rfl rfl
      rw [Bool.not_true, if_neg Bool.false_ne_true]
      obtain ⟨hdone, hlast⟩ | ⟨hmore, hnext⟩ := hend
      · rw [if_pos hdone]
        refine ⟨true, hw1, rfl, fun _ => ?_⟩
        rw [← upTo_end hlast]
        exact hnew
      · rw [if_neg (Nat.ne_of_lt hmore)]
        refine ih (m := 0) ?_ (Nat.zero_le 4) rfl hnext hmore.le ?_ hnew
        · exact Packed.empty (fun w hw => absurd hw (Nat.not_lt_zero w)) 0 r.idx
        · show cnts - r.idx + 0 < fuel
          split at hfuel <;> omega

end Sections

/-! ## Round trips -/

/-- The bytes of the map with a range of them replaced. -/
def replaced (old : List UInt8) (addr cnts : ℕ) (data : ℕ → UInt8) : List UInt8 :=
  old.mapIdx fun k b => if addr ≤ k ∧ k < addr + cnts then data (k - addr) else b

theorem replaced_range (map : Map) (addr cnts n : ℕ) (data : ℕ → UInt8) :
    replaced ((List.range n).map fun i => map (0 + i)) addr cnts data =
      (List.range n).map fun i => target addr cnts data map (0 + i) := by
  refine List.ext_getElem ?_ fun k hk hk' => ?_
  · rw [replaced, List.length_mapIdx, List.length_map, List.length_map]
  · simp only [replaced, target, List.getElem_mapIdx, List.getElem_map, List.getElem_range, zero_add]

theorem mapRead_stored {hw : EfuseHal} {type : EfuseType} {tbl : Map} (h : Stored hw.cells type tbl) :
    (hw.mapRead type 0 (mapLen type)).map Prod.fst = some ((List.range (mapLen type)).map fun i => tbl (0 + i)) := by
  unfold EfuseHal.mapRead
  rw [if_neg (by omega), ← h.readEFuse.1]
  rfl

/-- A range written to the map of either efuse is what is read afterwards, and all else is as it was. -/
theorem mapWrite_mapRead (fuse : Fuse) (hw : EfuseHal) (type : EfuseType) (addr cnts : ℕ) (data : ℕ → UInt8) {tbl : Map}
    (hstored : Stored hw.cells type tbl) (hcnts : 1 ≤ cnts) (hrange : addr + cnts ≤ mapLen type) :
    ∃ old ret hw', (hw.mapRead type 0 (mapLen type)).map Prod.fst = some old ∧
      hw.mapWrite fuse type addr cnts data = some (ret, hw') ∧
      (ret = true → (hw'.mapRead type 0 (mapLen type)).map Prod.fst = some (replaced old addr cnts data)) := by
  obtain ⟨hmap, hcontent⟩ := hstored.readEFuse
  obtain ⟨m, hm, hpacked, hi, hidx, hle, hfour⟩ := start_packed addr data tbl hcnts
  have hfirst : upTo addr cnts data tbl (addr / 8) = tbl := by
    funext k
    unfold upTo
    split
    · exact target_outside (by omega)
    · rfl
  rw [← hfirst] at hcontent
  have hfuel : cnts - (Packing.start addr data tbl).idx + (if m = 4 then 1 else 0) < cnts + 1 := by
    split
    · rename_i h4
      have := hfour h4
      omega
    · omega
  obtain ⟨ret, hw', hrun, hgood⟩ := writeSections_content fuse hrange (cnts + 1) hpacked hm hi hidx hle hfuel
    hcontent
  refine ⟨_, ret, hw', mapRead_stored hstored, ?_, fun hret => ?_⟩
  · unfold EfuseHal.mapWrite
    rw [if_neg (by omega), Nat.shiftRight_eq_div_pow]
    dsimp only
    rw [hmap]
    exact hrun
  · rw [mapRead_stored (hgood hret).stored, replaced_range]

/-- `rtw_efuse_map_write`, then `rtw_efuse_map_read` of the whole map. -/
theorem wifi_map_round_trip (fuse : Fuse) (hw : EfuseHal) (tbl : Map) (hstored : Stored hw.cells .WIFI tbl)
    (addr cnts : ℕ) (data : ℕ → UInt8) (hcnts : 1 ≤ cnts) (hrange : addr + cnts ≤ 256) :
    ∃ old ret hw', (hw.mapRead .WIFI 0 256).map Prod.fst = some old ∧
      hw.mapWrite fuse .WIFI addr cnts data = some (ret, hw') ∧
      (ret = true → (hw'.mapRead .WIFI 0 256).map Prod.fst = some (replaced old addr cnts data)) :=
  mapWrite_mapRead fuse hw .WIFI addr cnts data hstored hcnts hrange

def plainFuse : Fuse := ⟨fun _ v => v, fun _ => rfl⟩

/-- One word in section 1, and three bytes from an odd address in section 0 on. -/
theorem wifi_map_round_trip_odd :
    ((programmed [0x1E, 0x12, 0x34]).mapWrite plainFuse .WIFI 7 3 fun k => UInt8.ofNat k).map Prod.fst = some true ∧
    ∃ old ret hw', ((programmed [0x1E, 0x12, 0x34]).mapRead .WIFI 0 256).map Prod.fst = some old ∧
      (programmed [0x1E, 0x12, 0x34]).mapWrite plainFuse .WIFI 7 3 (fun k => UInt8.ofNat k) = some (ret, hw') ∧
      (ret = true → (hw'.mapRead .WIFI 0 256).map Prod.fst = some (replaced old 7 3 fun k => UInt8.ofNat k)) := by
  have hblank : BlankFrom ((programmed [0x1E, 0x12, 0x34]).cells 0) 3 := by
    intro k hk _
    show List.getD [0x1E, 0x12, 0x34] k 0xFF = 0xFF
    rw [List.getD_eq_getElem?_getD, List.getElem?_eq_none hk]
    rfl
  exact ⟨by decide +kernel, wifi_map_round_trip plainFuse _ _ ⟨3, .packet .refl (by decide) rfl, by decide, hblank⟩ 7 3
    (fun k => UInt8.ofNat k) (by decide) (by decide)⟩

/-- `rtw_BT_efuse_map_write`, then `rtw_BT_efuse_map_read` of the whole map. -/
theorem bt_map_round_trip (fuse : Fuse) (hw : EfuseHal) (tbl : Map) (hstored : Stored hw.cells .BT tbl)
    (addr cnts : ℕ) (data : ℕ → UInt8) (hcnts : 1 ≤ cnts) (hrange : addr + cnts ≤ 1024) :
    ∃ old ret hw', (hw.mapRead .BT 0 1024).map Prod.fst = some old ∧
      hw.mapWrite fuse .BT addr cnts data = some (ret, hw') ∧
      (ret = true → (hw'.mapRead .BT 0 1024).map Prod.fst = some (replaced old addr cnts data)) :=
  mapWrite_mapRead fuse hw .BT addr cnts data hstored hcnts hrange

/-- Blank banks, and a range in a section of a header of two bytes. -/
theorem bt_map_round_trip_blank :
    ((programmed []).mapWrite plainFuse .BT 1017 6 fun k => UInt8.ofNat k).map Prod.fst = some true ∧
    ∃ old ret hw', ((programmed []).mapRead .BT 0 1024).map Prod.fst = some old ∧
      (programmed []).mapWrite plainFuse .BT 1017 6 (fun k => UInt8.ofNat k) = some (ret, hw') ∧
      (ret = true → (hw'.mapRead .BT 0 1024).map Prod.fst = some (replaced old 1017 6 fun k => UInt8.ofNat k)) :=
  ⟨by decide +kernel, bt_map_round_trip plainFuse _ _ ⟨1, 0, .empty (by decide) blankMap fun _ _ _ _ _ _ => rfl⟩ 1017 6
    (fun k => UInt8.ofNat k) (by decide) (by decide)⟩

end Rtl8723au.Efuse
