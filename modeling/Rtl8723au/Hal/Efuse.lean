import Mathlib.Logic.Function.Basic
import Mathlib.Data.Nat.Notation
import Mathlib.Tactic
import Rtl8723au.Library.AccessM

/-! The efuse of `core/rtw_efuse.c` and `hal/rtl8723a_hal_init.c`: the functions that read the log of packets into a
map, those that look for its end, and those that append to it. A bank has 512 cells; bank 0 is for Wi-Fi and banks 1
to 3 are for Bluetooth. -/
namespace Rtl8723au.Efuse
set_option autoImplicit false

inductive EfuseType
  | WIFI | BT
  deriving DecidableEq

def PGPKT_DATA_SIZE : ℕ := 8
def EFUSE_MAX_WORD_UNIT : ℕ := 4
def EFUSE_MAX_SECTION_BASE : ℕ := 16
def EFUSE_REPEAT_THRESHOLD_ : ℕ := 3
def EFUSE_MAX_BANK : ℕ := 4

def EFUSE_REAL_CONTENT_LEN : ℕ := 512
def EFUSE_OOB_PROTECT_BYTES : ℕ := 15
def EFUSE_MAP_LEN_8723A : ℕ := 256
def EFUSE_MAX_SECTION_8723A : ℕ := 32

def EFUSE_BT_REAL_BANK_CONTENT_LEN : ℕ := 512
def EFUSE_BT_REAL_CONTENT_LEN : ℕ := 1536
def EFUSE_BT_MAP_LEN : ℕ := 1024
def EFUSE_BT_MAX_SECTION : ℕ := 128
def EFUSE_PROTECT_BYTES_BANK : ℕ := 16

/-! ## `Hal_GetEfuseDefinition` -/

def maxSection : EfuseType → ℕ
  | .WIFI => EFUSE_MAX_SECTION_8723A
  | .BT => EFUSE_BT_MAX_SECTION

def mapLen : EfuseType → ℕ
  | .WIFI => EFUSE_MAP_LEN_8723A
  | .BT => EFUSE_BT_MAP_LEN

def availableBytesBank : EfuseType → ℕ
  | .WIFI => EFUSE_REAL_CONTENT_LEN - EFUSE_OOB_PROTECT_BYTES
  | .BT => EFUSE_BT_REAL_BANK_CONTENT_LEN - EFUSE_PROTECT_BYTES_BANK

def availableBytesTotal : EfuseType → ℕ
  | .WIFI => EFUSE_REAL_CONTENT_LEN - EFUSE_OOB_PROTECT_BYTES
  | .BT => EFUSE_BT_REAL_CONTENT_LEN - EFUSE_PROTECT_BYTES_BANK * 3

/-! ## Headers -/

abbrev Bank := ℕ → UInt8
abbrev Map := ℕ → UInt8

def extHeader (header : UInt8) : Bool := header &&& 0x1F == 0x0F
def allWordsDisabled (wde : UInt8) : Bool := wde &&& 0x0F == 0x0F

def hdrOffset (header : UInt8) : ℕ := (header >>> 4 &&& 0x0F).toNat
def extHdrOffset (header ext : UInt8) : ℕ := ((header &&& 0xE0) >>> 5 ||| (ext &&& 0xF0) >>> 1).toNat
def hdrWordEn (header : UInt8) : ℕ := (header &&& 0x0F).toNat

/-- A word takes part in the packet when its bit is clear. -/
def wordEnabled (wordEn i : ℕ) : Bool := !wordEn.testBit i

/-- `Efuse_CalculateWordCnts`. -/
def calculateWordCnts (wordEn : ℕ) : ℕ := (List.range EFUSE_MAX_WORD_UNIT).countP (wordEnabled wordEn)

/-! ## The readers -/

/-- One word of the packet whose next byte is at the address: the address behind it and the map. -/
def readWord (c : Bank) (offset wden : ℕ) (s : ℕ × Map) (i : ℕ) : ℕ × Map :=
  if wordEnabled wden i then
    (s.1 + 2, Function.update (Function.update s.2 (offset * PGPKT_DATA_SIZE + 2 * i) (c s.1))
      (offset * PGPKT_DATA_SIZE + 2 * i + 1) (c (s.1 + 1)))
  else s

/-- The words of a packet; a section that does not exist is skipped. -/
def readWords (c : Bank) (sections offset wden addr : ℕ) (tbl : Map) : ℕ × Map :=
  if offset < sections then (List.range EFUSE_MAX_WORD_UNIT).foldl (readWord c offset wden) (addr, tbl)
  else (addr + calculateWordCnts wden * 2, tbl)

/-- The pass of the readers at the header at `addr`: nothing at a blank one. -/
def readPacket (c : Bank) (sections addr : ℕ) (tbl : Map) : Option (ℕ × Map) :=
  let header := c addr
  if header = 0xFF then none
  else if extHeader header then
    let ext := c (addr + 1)
    if allWordsDisabled ext then some (addr + 2, tbl)
    else some (readWords c sections (extHdrOffset header ext) (hdrWordEn ext) (addr + 2) tbl)
  else some (readWords c sections (hdrOffset header) (hdrWordEn header) (addr + 1) tbl)

/-- Where a reader is when its loop ends, the map it has, and whether it was a blank header that ended it. -/
structure Scan where
  addr : ℕ
  tbl : Map
  blank : Bool

/-- The loop of the readers; a pass goes on one byte at least. -/
def readLoop (c : Bank) (sections : ℕ) : ℕ → ℕ → Map → Scan
  | 0, addr, tbl => ⟨addr, tbl, false⟩
  | fuel + 1, addr, tbl =>
    if addr < EFUSE_REAL_CONTENT_LEN then
      match readPacket c sections addr tbl with
      | none => ⟨addr + 1, tbl, true⟩
      | some (next, tbl) => readLoop c sections fuel next tbl
    else ⟨addr, tbl, false⟩

def blankMap : Map := fun _ => 0xFF

def readBank (c : Bank) (sections : ℕ) (tbl : Map) : Scan := readLoop c sections EFUSE_REAL_CONTENT_LEN 0 tbl

/-- The loop over the Bluetooth banks: where it ends, in which bank, and the map. -/
def readBanks (cells : ℕ → Bank) : List ℕ → ℕ → Map → ℕ × ℕ × Map
  | [], addr, tbl => (addr, EFUSE_MAX_BANK, tbl)
  | bank :: rest, _, tbl =>
    let scan := readBank (cells bank) EFUSE_BT_MAX_SECTION tbl
    if scan.addr - 1 < availableBytesBank .BT then (scan.addr, bank, scan.tbl)
    else readBanks cells rest scan.addr scan.tbl

/-! ## The hardware -/

/-- What programming leaves in a cell: a blank one takes the byte. -/
structure Fuse where
  program : UInt8 → UInt8 → UInt8
  blank : ∀ v, program 0xFF v = v

/-- The cells, the bank that is selected, `EfuseUsedBytes` and `BTEfuseUsedBytes`. -/
structure EfuseHal where
  cells : ℕ → Bank
  bank : ℕ
  usedBytes : ℕ
  btUsedBytes : ℕ

namespace EfuseHal

/-- `hal_EfuseSwitchToBank`. -/
def switchToBank (hw : EfuseHal) (bank : ℕ) : EfuseHal := { hw with bank := bank }

def oneByteRead (hw : EfuseHal) (addr : ℕ) : UInt8 := hw.cells hw.bank addr

def oneByteWrite (fuse : Fuse) (hw : EfuseHal) (addr : ℕ) (v : UInt8) : EfuseHal :=
  { hw with
    cells := Function.update hw.cells hw.bank
      (Function.update (hw.cells hw.bank) addr (fuse.program (hw.cells hw.bank addr) v)) }

/-- `hal_ReadEFuse_WiFi`, once it has its table: the map and the device afterwards. -/
def readEFuseWiFi (hw : EfuseHal) : Map × EfuseHal :=
  let scan := readBank (hw.cells 0) EFUSE_MAX_SECTION_8723A blankMap
  (scan.tbl, { hw.switchToBank 0 with usedBytes := scan.addr - 1 })

/-- `hal_ReadEFuse_BT`, once it has its table. -/
def readEFuseBT (hw : EfuseHal) : Map × EfuseHal :=
  let (addr, bank, tbl) := readBanks hw.cells [1, 2, 3] 0 blankMap
  (tbl, { hw.switchToBank 0 with btUsedBytes := EFUSE_BT_REAL_BANK_CONTENT_LEN * (bank - 1) + addr - 1 })

/-- `Hal_ReadEFuse`. -/
def readEFuse (hw : EfuseHal) : EfuseType → Map × EfuseHal
  | .WIFI => hw.readEFuseWiFi
  | .BT => hw.readEFuseBT

/-- `rtw_efuse_map_read` and `rtw_BT_efuse_map_read`: the bytes that were asked for. -/
def mapRead (hw : EfuseHal) (type : EfuseType) (addr cnts : ℕ) : Option (List UInt8 × EfuseHal) :=
  if addr + cnts > mapLen type then none
  else
    let (map, hw) := hw.readEFuse type
    some ((List.range cnts).map fun i => map (addr + i), hw)

end EfuseHal

/-! ## The end of the log -/

/-- The pass of `hal_EfuseGetCurrentSize_WiFi` and `hal_EfuseGetCurrentSize_BT` at the header at `addr`. Behind an
extended header without words the first goes on one byte and the second two. -/
def sizePacket (c : Bank) (skip addr : ℕ) : Option ℕ :=
  let header := c addr
  if header = 0xFF then none
  else if extHeader header then
    let ext := c (addr + 1)
    if allWordsDisabled ext then some (addr + skip)
    else some (addr + 1 + (calculateWordCnts (hdrWordEn ext) * 2 + 1))
  else some (addr + (calculateWordCnts (hdrWordEn header) * 2 + 1))

def sizeLoop (c : Bank) (skip : ℕ) : ℕ → ℕ → ℕ
  | 0, addr => addr
  | fuel + 1, addr =>
    if addr < EFUSE_REAL_CONTENT_LEN then
      match sizePacket c skip addr with
      | none => addr
      | some next => sizeLoop c skip fuel next
    else addr

def sizeBank (c : Bank) (skip addr : ℕ) : ℕ := sizeLoop c skip EFUSE_REAL_CONTENT_LEN addr

/-- The loop over the banks: the bank that is selected last, the address and the bank it ends with. -/
def sizeBanks (cells : ℕ → Bank) : List ℕ → ℕ → ℕ → ℕ × ℕ × ℕ
  | [], selected, addr => (selected, addr, EFUSE_MAX_BANK)
  | bank :: rest, _, addr =>
    let size := sizeBank (cells bank) 2 addr
    if size < availableBytesBank .BT then (bank, size, bank)
    else sizeBanks cells rest bank (if rest.isEmpty then size else 0)

namespace EfuseHal

/-- `hal_EfuseGetCurrentSize_WiFi`. -/
def getCurrentSizeWiFi (hw : EfuseHal) : ℕ × EfuseHal :=
  let size := sizeBank (hw.cells 0) 1 hw.usedBytes
  (size, { hw.switchToBank 0 with usedBytes := size })

/-- `hal_EfuseGetCurrentSize_BT`. -/
def getCurrentSizeBT (hw : EfuseHal) : ℕ × EfuseHal :=
  let startBank := 1 + hw.btUsedBytes / EFUSE_BT_REAL_BANK_CONTENT_LEN
  let (selected, addr, bank) := sizeBanks hw.cells (List.range' startBank (EFUSE_MAX_BANK - startBank)) hw.bank
    (hw.btUsedBytes % EFUSE_BT_REAL_BANK_CONTENT_LEN)
  let size := (bank - 1) * EFUSE_BT_REAL_BANK_CONTENT_LEN + addr
  (size, { hw.switchToBank selected with btUsedBytes := size })

/-- `Hal_EfuseGetCurrentSize`. -/
def getCurrentSize (hw : EfuseHal) : EfuseType → ℕ × EfuseHal
  | .WIFI => hw.getCurrentSizeWiFi
  | .BT => hw.getCurrentSizeBT

/-! ## The writer -/

/-- The two bytes of a word, the address behind them and whether all words so far read back as they were written. -/
def writeWord (fuse : Fuse) (wordEn : ℕ) (data : ℕ → UInt8) (s : ℕ × EfuseHal × Bool) (i : ℕ) : ℕ × EfuseHal × Bool :=
  if wordEnabled wordEn i then
    let hw := (s.2.1.oneByteWrite fuse s.1 (data (2 * i))).oneByteWrite fuse (s.1 + 1) (data (2 * i + 1))
    (s.1 + 2, hw, s.2.2 && hw.oneByteRead s.1 == data (2 * i) && hw.oneByteRead (s.1 + 1) == data (2 * i + 1))
  else s

/-- `Hal_EfuseWordEnableDataWrite`: whether no word is bad. -/
def wordEnableDataWrite (fuse : Fuse) (hw : EfuseHal) (addr wordEn : ℕ) (data : ℕ → UInt8) : Bool × EfuseHal :=
  let (_, hw, good) := (List.range EFUSE_MAX_WORD_UNIT).foldl (writeWord fuse wordEn data) (addr, hw, true)
  (good, hw)

/-- `hal_EfusePgCheckAvailableAddr`. -/
def pgCheckAvailableAddr (hw : EfuseHal) (type : EfuseType) : Bool × EfuseHal :=
  let (size, hw) := hw.getCurrentSize type
  (decide (size < availableBytesTotal type), hw)

/-- The enabled words of `hal_EfuseConstructPGPkt`. -/
def constructData (wordEn : ℕ) (data : ℕ → UInt8) : ℕ → UInt8 :=
  fun k => if wordEnabled wordEn (k / 2) then data k else 0xFF

def cursor (hw : EfuseHal) : EfuseType → ℕ
  | .WIFI => hw.usedBytes
  | .BT => hw.btUsedBytes

/-- `hal_EfusePartialWriteCheck`: where the packet starts. -/
def partialWriteCheck (hw : EfuseHal) (type : EfuseType) : Option ℕ :=
  let startAddr := hw.cursor type % EFUSE_REAL_CONTENT_LEN
  if startAddr ≥ availableBytesTotal type then none
  else if hw.oneByteRead startAddr ≠ 0xFF then none
  else some startAddr

/-- A byte of a header, which is written again as long as it reads as a blank one. -/
def writeHeaderByte (fuse : Fuse) (addr : ℕ) (header : UInt8) : ℕ → EfuseHal → Bool × EfuseHal
  | 0, hw => (false, hw)
  | repeats + 1, hw =>
    let hw := hw.oneByteWrite fuse addr header
    if hw.oneByteRead addr ≠ 0xFF then (decide (hw.oneByteRead addr = header), hw)
    else writeHeaderByte fuse addr header repeats hw

def pgHeader (offset wordEn : ℕ) : UInt8 := UInt8.ofNat (offset <<< 4 &&& 0xf0 ||| wordEn)
def pgHeader1 (offset : ℕ) : UInt8 := UInt8.ofNat ((offset &&& 0x07) <<< 5 ||| 0x0F)
def pgHeader2 (offset wordEn : ℕ) : UInt8 := UInt8.ofNat ((offset &&& 0x78) <<< 1 ||| wordEn)

/-- `hal_EfusePgPacketWrite1ByteHeader`: the address of the last byte of the header. -/
def pgPacketWrite1ByteHeader (fuse : Fuse) (hw : EfuseHal) (addr offset wordEn : ℕ) : Option ℕ × EfuseHal :=
  let (written, hw) := writeHeaderByte fuse addr (pgHeader offset wordEn) (EFUSE_REPEAT_THRESHOLD_ + 2) hw
  (if written then some addr else none, hw)

/-- `hal_EfusePgPacketWrite2ByteHeader`. -/
def pgPacketWrite2ByteHeader (fuse : Fuse) (hw : EfuseHal) (type : EfuseType) (addr offset wordEn : ℕ) :
    Option ℕ × EfuseHal :=
  if addr ≥ availableBytesBank type then (none, hw)
  else
    let (written, hw) := writeHeaderByte fuse addr (pgHeader1 offset) (EFUSE_REPEAT_THRESHOLD_ + 2) hw
    if written then
      let (written, hw) := writeHeaderByte fuse (addr + 1) (pgHeader2 offset wordEn) (EFUSE_REPEAT_THRESHOLD_ + 2) hw
      (if written then some (addr + 1) else none, hw)
    else (none, hw)

/-- `hal_EfusePgPacketWriteHeader`. -/
def pgPacketWriteHeader (fuse : Fuse) (hw : EfuseHal) (type : EfuseType) (addr offset wordEn : ℕ) : Option ℕ × EfuseHal :=
  if offset ≥ EFUSE_MAX_SECTION_BASE then hw.pgPacketWrite2ByteHeader fuse type addr offset wordEn
  else hw.pgPacketWrite1ByteHeader fuse addr offset wordEn

/-- `Hal_EfusePgPacketWrite` up to the header: where the packet starts. -/
def pgPacketStart (hw : EfuseHal) (type : EfuseType) : Option ℕ × EfuseHal :=
  let (available, hw) := hw.pgCheckAvailableAddr type
  (if available then hw.partialWriteCheck type else none, hw)

/-- `Hal_EfusePgPacketWrite` and `Hal_EfusePgPacketWrite_BT`. -/
def pgPacketWrite (fuse : Fuse) (hw : EfuseHal) (type : EfuseType) (offset wordEn : ℕ) (data : ℕ → UInt8) :
    Bool × EfuseHal :=
  match hw.pgPacketStart type with
  | (none, hw) => (false, hw)
  | (some startAddr, hw) =>
    match hw.pgPacketWriteHeader fuse type startAddr offset wordEn with
    | (none, hw) => (false, hw)
    | (some addr, hw) => hw.wordEnableDataWrite fuse (addr + 1) wordEn (constructData wordEn data)

end EfuseHal

/-! ## `rtw_efuse_map_write` and `rtw_BT_efuse_map_write` -/

/-- The packet that is put together, with the index into it and the index into the data. -/
structure Packing where
  i : ℕ
  idx : ℕ
  wordEn : ℕ := 0xF
  newdata : ℕ → UInt8 := fun _ => 0xFF

namespace Packing

/-- `word_en &= ~BIT(i >> 1)` and the two bytes of the word. -/
def setWord (s : Packing) (i : ℕ) (b0 b1 : UInt8) : Packing :=
  { s with
    wordEn := s.wordEn &&& (0xF ^^^ 1 <<< (i >>> 1))
    newdata := Function.update (Function.update s.newdata i b0) (i + 1) b1 }

/-- The start of the packing; at an odd address the byte before it is taken from the map. -/
def start (addr : ℕ) (data map : ℕ → UInt8) : Packing :=
  let i := addr &&& 0x7
  let s : Packing := { i := i, idx := 0 }
  if i &&& 0x1 ≠ 0 then
    let s := if data 0 ≠ map addr then s.setWord (i - 1) (map (addr - 1)) (data 0) else s
    { s with i := i + 1, idx := 1 }
  else s

/-- The loop over the words of a section, at most four. -/
def fill (addr cnts : ℕ) (data map : ℕ → UInt8) : ℕ → Packing → Packing
  | 0, s => s
  | fuel + 1, s =>
    if s.i < PGPKT_DATA_SIZE then
      if cnts = s.idx then s
      else if cnts - s.idx = 1 then
        let t := if data s.idx ≠ map (addr + s.idx) then s.setWord s.i (data s.idx) (map (addr + s.idx + 1)) else s
        { t with idx := s.idx + 1 }
      else
        let t :=
          if data s.idx ≠ map (addr + s.idx) ∨ data (s.idx + 1) ≠ map (addr + s.idx + 1) then
            s.setWord s.i (data s.idx) (data (s.idx + 1))
          else s
        if s.idx + 2 = cnts then { t with idx := s.idx + 2 }
        else fill addr cnts data map fuel { t with i := s.i + 2, idx := s.idx + 2 }
    else s

end Packing

namespace EfuseHal

/-- The outer loop; nothing when the fuel runs out. -/
def writeSections (fuse : Fuse) (type : EfuseType) (addr cnts : ℕ) (data map : ℕ → UInt8) :
    ℕ → ℕ → Packing → EfuseHal → Option (Bool × EfuseHal)
  | 0, _, _, _ => none
  | fuel + 1, offset, s, hw =>
    let s := s.fill addr cnts data map EFUSE_MAX_WORD_UNIT
    let (ret, hw) := if s.wordEn ≠ 0xF then hw.pgPacketWrite fuse type offset s.wordEn s.newdata else (true, hw)
    if !ret then some (false, hw)
    else if s.idx = cnts then some (true, hw)
    else writeSections fuse type addr cnts data map fuel (offset + 1) { i := 0, idx := s.idx } hw

/-- `rtw_efuse_map_write` and `rtw_BT_efuse_map_write`, once they have their buffer. -/
def mapWrite (fuse : Fuse) (hw : EfuseHal) (type : EfuseType) (addr cnts : ℕ) (data : ℕ → UInt8) :
    Option (Bool × EfuseHal) :=
  if addr + cnts > mapLen type then some (false, hw)
  else
    let (map, hw) := hw.readEFuse type
    hw.writeSections fuse type addr cnts data map (cnts + 1) (addr >>> 3) (Packing.start addr data map)

end EfuseHal

/-! ## The byte operations

Each of them may fail. A computation over them keeps a trace of the cells that it programs. -/

open AccessM

/-- What becomes of the operations, each of which has a number: a read succeeds or does not, and a write leaves some byte
in its cell. -/
structure Outcomes where
  reads : ℕ → Bool
  writes : ℕ → UInt8 → UInt8 → UInt8

/-- The device, and how many operations there were. -/
structure Session where
  hw : EfuseHal
  ops : ℕ

/-- The trace has the bank and the address of every cell that is programmed. -/
abbrev EfuseM (α : Type) := AccessM (ℕ × ℕ) Session α

namespace EfuseHal

def setCell (hw : EfuseHal) (addr : ℕ) (v : UInt8) : EfuseHal :=
  { hw with cells := Function.update hw.cells hw.bank (Function.update (hw.cells hw.bank) addr v) }

theorem setCell_cells (hw : EfuseHal) (addr : ℕ) (v : UInt8) {b a : ℕ} (h : (b, a) ≠ (hw.bank, addr)) :
    (hw.setCell addr v).cells b a = hw.cells b a := by
  by_cases hb : b = hw.bank
  · subst hb
    have ha : a ≠ addr := fun ha => h (by rw [ha])
    show Function.update hw.cells hw.bank _ hw.bank a = _
    rw [Function.update_self, Function.update_of_ne ha]
  · exact congrFun (Function.update_of_ne hb _ _) a

end EfuseHal

variable (o : Outcomes)

/-- `efuse_OneByteRead`: whether it succeeds, and the byte. -/
def efuseOneByteRead (addr : ℕ) : EfuseM (Bool × UInt8) :=
  ⟨fun s => ⟨if o.reads s.ops then (true, s.hw.oneByteRead addr) else (false, 0xFF), { s with ops := s.ops + 1 }, []⟩⟩

/-- `efuse_OneByteWrite`; nobody looks at its result. -/
def efuseOneByteWrite (addr : ℕ) (v : UInt8) : EfuseM Unit :=
  ⟨fun s => ⟨(), ⟨s.hw.setCell addr (o.writes s.ops (s.hw.oneByteRead addr) v), s.ops + 1⟩, [(s.hw.bank, addr)]⟩⟩

/-- `ReadEFuseByte`. -/
def readEFuseByte (addr : ℕ) : EfuseM UInt8 := (fun s : Session => s.hw.oneByteRead addr) <$> get

/-- A change of the device that programs nothing. -/
def onHw (f : EfuseHal → EfuseHal) : EfuseM Unit := modify fun s => { s with hw := f s.hw }

/-- All reads succeed. -/
def Readable : Prop := ∀ n, o.reads n = true

section
variable {o}
variable {addr : ℕ} {s : Session}

@[simp] theorem efuseOneByteRead_hw : ((efuseOneByteRead o addr).run s).st.hw = s.hw := rfl

@[simp] theorem efuseOneByteRead_log : ((efuseOneByteRead o addr).run s).log = [] := rfl

theorem efuseOneByteRead_val (ho : Readable o) : ((efuseOneByteRead o addr).run s).val = (true, s.hw.oneByteRead addr) :=
  if_pos (ho s.ops)

@[simp] theorem readEFuseByte_val : ((readEFuseByte addr).run s).val = s.hw.oneByteRead addr := rfl

@[simp] theorem readEFuseByte_st : ((readEFuseByte addr).run s).st = s := rfl

end

end Rtl8723au.Efuse
