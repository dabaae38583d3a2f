import Rtl8723au.Library.AccessM

/-! The receive frame of `include/rtw_recv.h`: the packet attributes, the buffer
with its four pointers, and the inline functions that move them. Pointers are
offsets from the first byte the receive path copied in. -/
namespace Rtl8723au
set_option autoImplicit false

abbrev MacAddr := Vector UInt8 6

/-- A slot of the station pool (`NUM_STA` of them). -/
abbrev StaId := Fin 32

/-- A TID, the index of `recvreorder_ctrl` and `tid_rxseq`. -/
abbrev Tid := Fin 16

-- the literals of the two index types, of an address's bytes and of the frame pools
instance neZero_numSta : NeZero 32 := ⟨by decide⟩
instance neZero_numTid : NeZero 16 := ⟨by decide⟩
instance neZero_ethAlen : NeZero 6 := ⟨by decide⟩
instance neZero_nrFrames : NeZero 256 := ⟨by decide⟩

instance lawfulBEq_staId : LawfulBEq StaId := inferInstance

/-- `struct rx_pkt_attrib`: one-bit members are `Bool`, other integers `ℕ`. -/
structure RxPktAttrib where
  pktLen : ℕ := 0
  physt : Bool := false
  drvinfoSz : ℕ := 0
  shiftSz : ℕ := 0
  hdrlen : ℕ := 0
  toFrDs : ℕ := 0
  amsdu : Bool := false
  qos : Bool := false
  priority : ℕ := 0
  pwSave : Bool := false
  mdata : Bool := false
  seqNum : ℕ := 0
  fragNum : ℕ := 0
  mfrag : Bool := false
  order : Bool := false
  privacy : Bool := false
  bdecrypted : Bool := false
  encrypt : ℕ := 0
  ivLen : ℕ := 0
  icvLen : ℕ := 0
  crcErr : Bool := false
  icvErr : Bool := false
  ethType : ℕ := 0
  dst : MacAddr := Vector.replicate 6 0
  src : MacAddr := Vector.replicate 6 0
  ta : MacAddr := Vector.replicate 6 0
  ra : MacAddr := Vector.replicate 6 0
  bssid : MacAddr := Vector.replicate 6 0
  ackPolicy : ℕ := 0
  keyIndex : ℕ := 0
  mcsRate : ℕ := 0
  rxht : Bool := false
  pktRptType : ℕ := 0
  deriving DecidableEq, Inhabited

/-- The value a C `uint` keeps of an integer. -/
def uint (z : ℤ) : ℕ := (z % 2 ^ 32).toNat

theorem uint_natCast (n : ℕ) (h : n < 2 ^ 32) : uint n = n := by
  rw [uint, Int.emod_eq_of_lt (by omega) (by exact_mod_cast h), Int.toNat_natCast]

theorem uint_lt (z : ℤ) : uint z < 2 ^ 32 := by
  have h := Int.emod_lt_of_pos z (by norm_num : (0 : ℤ) < 2 ^ 32)
  have h0 := Int.emod_nonneg z (by norm_num : (2 : ℤ) ^ 32 ≠ 0)
  rw [uint]
  omega

/-- `struct recv_frame_hdr` with the buffer its pointers point into. -/
structure RecvFrame where
  attrib : RxPktAttrib := {}
  mem : Mem
  len : ℕ
  rxHead : ℤ
  rxData : ℤ
  rxTail : ℤ
  rxEnd : ℤ
  psta : Option StaId := none
  preorderCtrl : Option (StaId × Tid) := none

namespace RecvFrame

/-- The bytes from `rx_data` on. -/
def rxDataMem (f : RecvFrame) : Mem := fun i => f.mem (f.rxData + i)

def setRxDataMem (f : RecvFrame) (m : Mem) : RecvFrame := { f with mem := fun x => m (x - f.rxData) }

@[simp] theorem rxDataMem_setRxDataMem (f : RecvFrame) (m : Mem) : (f.setRxDataMem m).rxDataMem = m := by
  funext i
  simp [rxDataMem, setRxDataMem]

/-- `recvframe_pull`: the new `rx_data`, or `NULL` with the frame as it was. -/
def recvframePull (f : RecvFrame) (sz : ℤ) : Option ℤ × RecvFrame :=
  if f.rxData + sz > f.rxTail then (none, f)
  else (some (f.rxData + sz), { f with rxData := f.rxData + sz, len := uint (f.len - sz) })

/-- `recvframe_put`. -/
def recvframePut (f : RecvFrame) (sz : ℤ) : Option ℤ × RecvFrame :=
  if f.rxTail + sz > f.rxEnd then (none, f)
  else (some (f.rxTail + sz), { f with rxTail := f.rxTail + sz, len := uint (f.len + sz) })

/-- `recvframe_pull_tail`. -/
def recvframePullTail (f : RecvFrame) (sz : ℤ) : Option ℤ × RecvFrame :=
  if f.rxTail - sz < f.rxData then (none, f)
  else (some (f.rxTail - sz), { f with rxTail := f.rxTail - sz, len := uint (f.len - sz) })

/-- `len` counts the bytes between `rx_data` and `rx_tail`, and the pointers are in order. -/
structure WellFormed (f : RecvFrame) : Prop where
  head_le : f.rxHead ≤ f.rxData
  tail_le : f.rxTail ≤ f.rxEnd
  len_eq : (f.len : ℤ) = f.rxTail - f.rxData
  len_lt : f.len < 2 ^ 32

theorem recvframePull_none (f : RecvFrame) (sz : ℤ) :
    (f.recvframePull sz).1 = none ↔ f.rxTail < f.rxData + sz := by
  unfold recvframePull
  split <;> simp_all

end RecvFrame

end Rtl8723au
