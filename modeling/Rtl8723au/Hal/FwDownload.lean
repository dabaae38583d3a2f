import Mathlib.Data.List.Basic
import Mathlib.Tactic

/-! `_WriteFW` of `hal/rtl8723a_hal_init.c`: the image of the firmware is written to a window of 4096 bytes, page after page,
each in blocks of 254 bytes, of 8 bytes and of one byte. -/
namespace Rtl8723au.FwDownload
set_option autoImplicit false

def FW_8723A_SIZE : ℕ := 0x8000
def FW_8723A_START_ADDRESS : ℕ := 0x1000
def FW_8723A_END_ADDRESS : ℕ := 0x1FFF
def MAX_PAGE_SIZE : ℕ := 4096
def REG_MCUFWDL : ℕ := 0x0080

/-- A write of a register, or of as many as there are bytes. -/
structure RegWrite where
  addr : ℕ
  bytes : List UInt8
  deriving DecidableEq

abbrev Log := List RegWrite

/-- The registers: whether a write succeeds, and what a register reads as, behind the writes so far. -/
structure Regs where
  ok : Log → Bool
  read8 : Log → ℕ → UInt8

variable (regs : Regs)

def rtwWriteN (addr : ℕ) (pdata : ℕ → UInt8) (length : ℕ) (log : Log) : Bool × Log :=
  (regs.ok log, log ++ [⟨addr, (List.range length).map pdata⟩])

def rtwWrite8 (addr : ℕ) (val : UInt8) (log : Log) : Bool × Log := (regs.ok log, log ++ [⟨addr, [val]⟩])

/-- The rest, unless `goto exit`. -/
def andThen (r : Bool × Log) (rest : Log → Bool × Log) : Bool × Log := if r.1 then rest r.2 else r

/-- A `for` loop that is left when a write fails, `count` passes from `i` on. -/
def forLoop (pass : ℕ → Log → Bool × Log) : ℕ → ℕ → Log → Bool × Log
  | 0, _, log => (true, log)
  | count + 1, i, log => andThen (pass i log) (forLoop pass count (i + 1))

def blockWrite (buffer : ℕ → UInt8) (buffSize : ℕ) (log : Log) : Bool × Log :=
  let blockSizeP1 := 254
  let blockSizeP2 := 8
  let blockSizeP3 := 1
  let blockCountP1 := buffSize / blockSizeP1
  let remainSizeP1 := buffSize % blockSizeP1
  let blockCountP2 := if remainSizeP1 ≠ 0 then remainSizeP1 / blockSizeP2 else 0
  let remainSizeP2 := if remainSizeP1 ≠ 0 then remainSizeP1 % blockSizeP2 else 0
  let offset2 := blockCountP1 * blockSizeP1
  let offset3 := blockCountP1 * blockSizeP1 + blockCountP2 * blockSizeP2
  let blockCountP3 := if remainSizeP2 ≠ 0 then remainSizeP2 / blockSizeP3 else 0
  andThen (forLoop (fun i => rtwWriteN regs (FW_8723A_START_ADDRESS + i * blockSizeP1)
    (fun k => buffer (i * blockSizeP1 + k)) blockSizeP1) blockCountP1 0 log) fun log =>
  andThen (forLoop (fun i => rtwWriteN regs (FW_8723A_START_ADDRESS + offset2 + i * blockSizeP2)
    (fun k => buffer (offset2 + i * blockSizeP2 + k)) blockSizeP2) blockCountP2 0 log) fun log =>
  forLoop (fun i => rtwWrite8 regs (FW_8723A_START_ADDRESS + offset3 + i) (buffer (offset3 + i))) blockCountP3 0 log

def pageWrite (page : ℕ) (buffer : ℕ → UInt8) (size : ℕ) (log : Log) : Bool × Log :=
  let u8Page : UInt8 := UInt8.ofNat (page &&& 0x07)
  let value8 := (regs.read8 log (REG_MCUFWDL + 2) &&& 0xF8) ||| u8Page
  blockWrite regs buffer size (rtwWrite8 regs (REG_MCUFWDL + 2) value8 log).2

def writeFW (buffer : ℕ → UInt8) (size : ℕ) (log : Log) : Bool × Log :=
  let pageNums := size / MAX_PAGE_SIZE
  let remainSize := size % MAX_PAGE_SIZE
  andThen (forLoop (fun page => pageWrite regs page (fun k => buffer (page * MAX_PAGE_SIZE + k)) MAX_PAGE_SIZE)
    pageNums 0 log) fun log =>
  if remainSize ≠ 0 then pageWrite regs pageNums (fun k => buffer (pageNums * MAX_PAGE_SIZE + k)) remainSize log
  else (true, log)

/-! ## What arrives in the window -/

/-- The page that is selected after a write: the low bits of `REG_MCUFWDL+2`. -/
def RegWrite.page (w : RegWrite) (page : ℕ) : ℕ :=
  if w.addr ≤ REG_MCUFWDL + 2 then (w.bytes[REG_MCUFWDL + 2 - w.addr]?).elim page fun b => b.toNat % 8 else page

/-- A byte in the window, and the page it is written to. -/
structure Cell where
  page : ℕ
  addr : ℕ
  byte : UInt8
  deriving DecidableEq

def Cell.inWindow (c : Cell) : Bool := FW_8723A_START_ADDRESS ≤ c.addr && c.addr ≤ FW_8723A_END_ADDRESS

def RegWrite.cells (w : RegWrite) (page : ℕ) : List Cell :=
  (w.bytes.zipIdx.map fun x => ⟨page, w.addr + x.2, x.1⟩).filter Cell.inWindow

/-- All bytes that writes put into the window, in their order. -/
def cells : ℕ → Log → List Cell
  | _, [] => []
  | page, w :: log => w.cells page ++ cells (w.page page) log

def lastPage (page : ℕ) (log : Log) : ℕ := log.foldl (fun page w => w.page page) page

theorem cells_append (page : ℕ) (log log' : Log) :
    cells page (log ++ log') = cells page log ++ cells (lastPage page log) log' := by
  induction log generalizing page with
  | nil => rfl
  | cons w log ih =>
    rw [List.cons_append, cells, cells, ih, List.append_assoc]
    rfl

theorem lastPage_append (page : ℕ) (log log' : Log) :
    lastPage page (log ++ log') = lastPage (lastPage page log) log' := List.foldl_append

/-- Behind any writes it succeeds, and puts these bytes into the window; the one page is selected before and the other one
afterwards. -/
def Emits (page : ℕ) (f : Log → Bool × Log) (page' : ℕ) (cs : List Cell) : Prop :=
  ∀ log, ∃ ws, f log = (true, log ++ ws) ∧ cells page ws = cs ∧ lastPage page ws = page'

section
variable {regs} {page page' page'' : ℕ} {f g : Log → Bool × Log} {cs cs' : List Cell}

theorem Emits.none : Emits page (fun log => (true, log)) page [] := fun log =>
  ⟨[], by rw [List.append_nil], rfl, rfl⟩

theorem Emits.andThen (hf : Emits page f page' cs) (hg : Emits page' g page'' cs') :
    Emits page (fun log => andThen (f log) g) page'' (cs ++ cs') := by
  intro log
  obtain ⟨ws, hfrun, hfcells, hfpage⟩ := hf log
  obtain ⟨ws', hgrun, hgcells, hgpage⟩ := hg (log ++ ws)
  refine ⟨ws ++ ws', ?_, ?_, ?_⟩
  · show FwDownload.andThen (f log) g = _
    rw [hfrun, FwDownload.andThen, if_pos rfl, hgrun, List.append_assoc]
  · rw [cells_append, hfcells, hfpage, hgcells]
  · rw [lastPage_append, hfpage, hgpage]

theorem Emits.forLoop {P : ℕ → Prop} {pass : ℕ → Log → Bool × Log} {cs : ℕ → List Cell} {n : ℕ}
    (h : ∀ i < n, ∀ page, P page → ∃ page', P page' ∧ Emits page (pass i) page' (cs i)) (count i : ℕ) (hn : i + count ≤ n)
    (page : ℕ) (hpage : P page) :
    ∃ page', P page' ∧ Emits page (forLoop pass count i) page' ((List.range' i count).flatMap cs) := by
  induction count generalizing i page with
  | zero => exact ⟨page, hpage, .none⟩
  | succ count ih =>
    obtain ⟨page', hpage', hpass⟩ := h i (by omega) page hpage
    obtain ⟨page'', hpage'', hrest⟩ := ih (i + 1) (by omega) page' hpage'
    refine ⟨page'', hpage'', ?_⟩
    rw [List.range'_succ, List.flatMap_cons]
    exact hpass.andThen hrest

/-- What stands at `o` of a page. -/
def pageCell (page : ℕ) (buffer : ℕ → UInt8) (o : ℕ) : Cell := ⟨page, FW_8723A_START_ADDRESS + o, buffer o⟩

variable {buffer : ℕ → UInt8} {x n : ℕ}

theorem cells_write (h : x + n ≤ MAX_PAGE_SIZE) :
    RegWrite.cells ⟨FW_8723A_START_ADDRESS + x, (List.range n).map fun k => buffer (x + k)⟩ page =
      (List.range' x n).map (pageCell page buffer) := by
  have hsize : MAX_PAGE_SIZE = 4096 := rfl
  have hmap : ((List.range n).map fun k => buffer (x + k)).zipIdx.map (fun y => (⟨page, FW_8723A_START_ADDRESS + x + y.2,
      y.1⟩ : Cell)) = (List.range' x n).map (pageCell page buffer) := by
    refine List.ext_getElem (by simp) fun k hk hk' => ?_
    simp [pageCell, Nat.add_assoc]
  rw [RegWrite.cells, hmap]
  refine List.filter_eq_self.mpr fun c hc => ?_
  obtain ⟨o, ho, rfl⟩ := List.mem_map.mp hc
  obtain ⟨hlow, hhigh⟩ := List.mem_range'_1.mp ho
  have hstart : FW_8723A_START_ADDRESS = 0x1000 := rfl
  have hlast : FW_8723A_END_ADDRESS = 0x1FFF := rfl
  rw [Cell.inWindow, Bool.and_eq_true, decide_eq_true_eq, decide_eq_true_eq, pageCell]
  dsimp only
  omega

theorem page_write (bytes : List UInt8) : RegWrite.page ⟨FW_8723A_START_ADDRESS + x, bytes⟩ page = page :=
  if_neg fun h => by
    have hlow : 0x1000 + x ≤ 0x80 + 2 := h
    omega

theorem emits_writeN (hok : ∀ log, regs.ok log = true) (h : x + n ≤ MAX_PAGE_SIZE) :
    Emits page (rtwWriteN regs (FW_8723A_START_ADDRESS + x) (fun k => buffer (x + k)) n) page
      ((List.range' x n).map (pageCell page buffer)) := fun log =>
  ⟨[_], by rw [rtwWriteN, hok], by rw [cells, cells, List.append_nil, cells_write h], page_write _⟩

theorem emits_write8 (hok : ∀ log, regs.ok log = true) (h : x + 1 ≤ MAX_PAGE_SIZE) :
    Emits page (rtwWrite8 regs (FW_8723A_START_ADDRESS + x) (buffer x)) page
      ((List.range' x 1).map (pageCell page buffer)) :=
  emits_writeN hok h

theorem blocks_eq (cell : ℕ → Cell) (size x count : ℕ) :
    ((List.range' 0 count).flatMap fun i => (List.range' (x + i * size) size).map cell) =
      (List.range' x (count * size)).map cell := by
  induction count with
  | zero => simp
  | succ count ih =>
    rw [List.range'_1_concat, List.flatMap_append, ih, List.flatMap_singleton, Nat.succ_mul, ← List.range'_append_1,
      List.map_append, Nat.zero_add]

theorem emits_blocks (page : ℕ) (buffer : ℕ → UInt8) (pass : ℕ → Log → Bool × Log) (size x count : ℕ)
    (h : ∀ i < count, Emits page (pass i) page ((List.range' (x + i * size) size).map (pageCell page buffer))) :
    Emits page (forLoop pass count 0) page ((List.range' x (count * size)).map (pageCell page buffer)) := by
  have hpass : ∀ i < count, ∀ p, p = page → ∃ p', p' = page ∧
      Emits p (pass i) p' ((List.range' (x + i * size) size).map (pageCell page buffer)) := by
    rintro i hi p rfl
    exact ⟨p, rfl, h i hi⟩
  obtain ⟨p, rfl, hloop⟩ := Emits.forLoop (P := (· = page)) hpass count 0 (Nat.zero_add count).le page rfl
  rw [blocks_eq] at hloop
  exact hloop

theorem guarded_div (r k : ℕ) : (if r ≠ 0 then r / k else 0) = r / k := by
  by_cases h : r = 0
  · rw [if_neg (not_not.mpr h), h, Nat.zero_div]
  · rw [if_pos h]

theorem guarded_mod (r k : ℕ) : (if r ≠ 0 then r % k else 0) = r % k := by
  by_cases h : r = 0
  · rw [if_neg (not_not.mpr h), h, Nat.zero_mod]
  · rw [if_pos h]

theorem emits_blockWrite (page : ℕ) (buffer : ℕ → UInt8) (hok : ∀ log, regs.ok log = true) (h : n ≤ MAX_PAGE_SIZE) :
    Emits page (blockWrite regs buffer n) page ((List.range n).map (pageCell page buffer)) := by
  have h1 := emits_blocks page buffer (fun i => rtwWriteN regs (FW_8723A_START_ADDRESS + i * 254)
    (fun k => buffer (i * 254 + k)) 254) 254 0 (n / 254) fun i hi => by
      rw [Nat.zero_add]
      exact emits_writeN hok (by omega)
  have h2 := emits_blocks page buffer
    (fun i => rtwWriteN regs (FW_8723A_START_ADDRESS + n / 254 * 254 + i * 8)
      (fun k => buffer (n / 254 * 254 + i * 8 + k)) 8) 8 (n / 254 * 254) (n % 254 / 8) fun i hi => by
      rw [Nat.add_assoc FW_8723A_START_ADDRESS]
      exact emits_writeN hok (by omega)
  have h3 := emits_blocks page buffer
    (fun i => rtwWrite8 regs (FW_8723A_START_ADDRESS + (n / 254 * 254 + n % 254 / 8 * 8) + i)
      (buffer (n / 254 * 254 + n % 254 / 8 * 8 + i))) 1 (n / 254 * 254 + n % 254 / 8 * 8) (n % 254 % 8) fun i hi => by
      rw [Nat.add_assoc FW_8723A_START_ADDRESS, Nat.mul_one]
      exact emits_write8 hok (by omega)
  have hall : (List.range n).map (pageCell page buffer) =
      (List.range' 0 (n / 254 * 254)).map (pageCell page buffer) ++
        ((List.range' (n / 254 * 254) (n % 254 / 8 * 8)).map (pageCell page buffer) ++
          (List.range' (n / 254 * 254 + n % 254 / 8 * 8) (n % 254 % 8 * 1)).map (pageCell page buffer)) := by
    have hfirst := List.range'_append_1 (s := 0) (m := n / 254 * 254) (n := n % 254 / 8 * 8 + n % 254 % 8 * 1)
    rw [Nat.zero_add] at hfirst
    rw [← List.map_append, ← List.map_append, List.range'_append_1, hfirst, List.range_eq_range']
    congr 2
    omega
  rw [hall]
  unfold blockWrite
  dsimp only
  rw [guarded_div, guarded_mod, guarded_div, Nat.div_one]
  exact h1.andThen (h2.andThen h3)

theorem page_select (value : UInt8) (page : ℕ) : ((value &&& 0xF8) ||| UInt8.ofNat (page &&& 0x07)).toNat % 8 = page % 8 := by
  have hseven : page &&& 0x07 = page % 8 := Nat.and_two_pow_sub_one_eq_mod page 3
  have hsmall : (UInt8.ofNat (page &&& 0x07)).toNat = page % 8 := by
    rw [hseven]
    exact UInt8.toNat_ofNat_of_lt' (by show _ < 256; omega)
  have hhigh : (value.toNat &&& 0xF8) % 2 ^ 3 = 0 := by
    rw [Nat.and_mod_two_pow]
    exact Nat.and_zero _
  rw [UInt8.toNat_or, UInt8.toNat_and, hsmall, show (8 : ℕ) = 2 ^ 3 from rfl, Nat.or_mod_two_pow]
  rw [show (0xF8 : UInt8).toNat = 0xF8 from rfl, hhigh, Nat.zero_or, Nat.mod_mod]

theorem emits_pageWrite (buffer : ℕ → UInt8) (hok : ∀ log, regs.ok log = true) (h : n ≤ MAX_PAGE_SIZE) (p page : ℕ) :
    Emits page (pageWrite regs p buffer n) (p % 8) ((List.range n).map (pageCell (p % 8) buffer)) := by
  intro log
  have hselect := page_select (regs.read8 log (REG_MCUFWDL + 2)) p
  obtain ⟨value, hvalue⟩ : ∃ value, (regs.read8 log (REG_MCUFWDL + 2) &&& 0xF8) ||| UInt8.ofNat (p &&& 0x07) = value :=
    ⟨_, rfl⟩
  rw [hvalue] at hselect
  have hpage : RegWrite.page ⟨REG_MCUFWDL + 2, [value]⟩ page = p % 8 := hselect
  have hcells : RegWrite.cells ⟨REG_MCUFWDL + 2, [value]⟩ page = [] := rfl
  obtain ⟨ws, hrun, hws, hlast⟩ := emits_blockWrite (p % 8) buffer hok h
    (log ++ [⟨REG_MCUFWDL + 2, [value]⟩])
  refine ⟨⟨REG_MCUFWDL + 2, [value]⟩ :: ws, ?_, ?_, ?_⟩
  · unfold pageWrite
    dsimp only
    rw [hvalue, rtwWrite8, hrun, List.append_assoc]
    rfl
  · rw [cells, hcells, hpage, hws]
    rfl
  · rw [lastPage, List.foldl_cons, hpage]
    exact hlast

end

/-! ## The image -/

/-- The byte at `o` of the image, where it belongs. -/
def imageCell (image : ℕ → UInt8) (o : ℕ) : Cell := ⟨o / 4096, FW_8723A_START_ADDRESS + o % 4096, image o⟩

theorem page_image (image : ℕ → UInt8) (p n : ℕ) (h : n ≤ MAX_PAGE_SIZE) :
    (List.range n).map (pageCell p fun k => image (p * MAX_PAGE_SIZE + k)) =
      (List.range' (p * MAX_PAGE_SIZE) n).map (imageCell image) := by
  have hsize : MAX_PAGE_SIZE = 4096 := rfl
  rw [List.range'_eq_map_range, List.map_map]
  refine List.map_congr_left fun k hk => ?_
  have hlt := List.mem_range.mp hk
  rw [pageCell, Function.comp_apply, imageCell, hsize]
  congr 1
  · omega
  · omega

/-- **Each byte of the image is written once to where it belongs, in their order, and nothing else is written to the window**,
whatever registers read as and whatever page is selected before. -/
theorem writeFW_exact (regs : Regs) (image : ℕ → UInt8) (n page : ℕ) (hok : ∀ log, regs.ok log = true)
    (hn : n ≤ FW_8723A_SIZE) :
    (writeFW regs image n []).1 = true ∧ cells page (writeFW regs image n []).2 = (List.range n).map (imageCell image) := by
  have hsize : MAX_PAGE_SIZE = 4096 := rfl
  have hn : n ≤ 32768 := hn
  have hpages : ∀ i < n / MAX_PAGE_SIZE, ∀ page, True → ∃ page', True ∧
      Emits page (pageWrite regs i (fun k => image (i * MAX_PAGE_SIZE + k)) MAX_PAGE_SIZE) page'
        ((List.range' (i * MAX_PAGE_SIZE) MAX_PAGE_SIZE).map (imageCell image)) := by
    intro i hi page _
    have hemits := emits_pageWrite (fun k => image (i * MAX_PAGE_SIZE + k)) hok le_rfl i page
    have hi : i < n / 4096 := hi
    rw [Nat.mod_eq_of_lt (by omega : i < 8), page_image image i _ le_rfl] at hemits
    exact ⟨i, trivial, hemits⟩
  obtain ⟨page', -, hloop⟩ := Emits.forLoop (P := fun _ => True) hpages (n / MAX_PAGE_SIZE) 0 (Nat.zero_add _).le page trivial
  have hblocks := blocks_eq (imageCell image) MAX_PAGE_SIZE 0 (n / MAX_PAGE_SIZE)
  simp only [Nat.zero_add] at hblocks
  rw [hblocks] at hloop
  have hrest : ∃ page'', Emits page' (fun log =>
      if n % MAX_PAGE_SIZE ≠ 0 then pageWrite regs (n / MAX_PAGE_SIZE)
        (fun k => image (n / MAX_PAGE_SIZE * MAX_PAGE_SIZE + k)) (n % MAX_PAGE_SIZE) log
      else (true, log)) page''
      ((List.range' (n / MAX_PAGE_SIZE * MAX_PAGE_SIZE) (n % MAX_PAGE_SIZE)).map (imageCell image)) := by
    by_cases hremain : n % MAX_PAGE_SIZE = 0
    · refine ⟨page', ?_⟩
      simp only [hremain, ne_eq, not_true_eq_false, if_false]
      exact .none
    · have hemits := emits_pageWrite (fun k => image (n / MAX_PAGE_SIZE * MAX_PAGE_SIZE + k)) hok
        (Nat.mod_lt n (by decide)).le (n / MAX_PAGE_SIZE) page'
      have hlast : n / MAX_PAGE_SIZE < 8 := by
        rw [hsize] at hremain ⊢
        omega
      rw [Nat.mod_eq_of_lt hlast, page_image image _ _ (Nat.mod_lt n (by decide)).le] at hemits
      refine ⟨n / MAX_PAGE_SIZE, ?_⟩
      simp only [hremain, ne_eq, not_false_eq_true, if_true]
      exact hemits
  obtain ⟨page'', hrest⟩ := hrest
  obtain ⟨ws, hrun, hcells, -⟩ := hloop.andThen hrest []
  have hwrite : writeFW regs image n [] = (true, [] ++ ws) := hrun
  rw [hwrite]
  refine ⟨rfl, hcells.trans ?_⟩
  have hpieces := List.range'_append_1 (s := 0) (m := n / MAX_PAGE_SIZE * MAX_PAGE_SIZE) (n := n % MAX_PAGE_SIZE)
  rw [Nat.zero_add, Nat.div_add_mod'] at hpieces
  rw [← List.map_append, hpieces, List.range_eq_range']

theorem writeFW_exact_twoPages :
    (writeFW ⟨fun _ => true, fun _ _ => 0xFF⟩ (fun o => UInt8.ofNat o) 4359 []).1 = true ∧
      cells 3 (writeFW ⟨fun _ => true, fun _ _ => 0xFF⟩ (fun o => UInt8.ofNat o) 4359 []).2 =
        (List.range 4359).map (imageCell fun o => UInt8.ofNat o) :=
  writeFW_exact ⟨fun _ => true, fun _ _ => 0xFF⟩ (fun o => UInt8.ofNat o) 4359 3 (fun _ => rfl) (by decide)

end Rtl8723au.FwDownload
