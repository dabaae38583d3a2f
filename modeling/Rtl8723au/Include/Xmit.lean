import Rtl8723au.Include.Adapter

/-! The transmit frame of `include/rtw_xmit.h`: the packet attributes, the buffer the MPDUs are laid
out in, and the packet of `os_dep/xmit_linux.c` they are cut from. Pointers are offsets from the start
of the buffer, which is aligned to `XMITBUF_ALIGN_SZ`. -/
namespace Rtl8723au
open Mem
set_option autoImplicit false

def TXDESC_SIZE : ℕ := 32
def PACKET_OFFSET_SZ : ℕ := 8
def TXDESC_OFFSET : ℕ := TXDESC_SIZE + PACKET_OFFSET_SZ
def WLANHDR_OFFSET : ℕ := 64

/-- `RND4`. -/
def rnd4 (x : ℤ) : ℤ := (x / 4 + if x % 4 = 0 then 0 else 1) * 4

theorem rnd4_bounds (x : ℤ) : x ≤ rnd4 x ∧ rnd4 x ≤ x + 3 := by
  unfold rnd4
  split <;> omega

/-! ## The packet -/

/-- An Ethernet frame in an `sk_buff`, whose length is far below what an `unsigned int` holds. -/
structure EthFrame where
  hDest : MacAddr
  hSource : MacAddr
  hProto : Vector UInt8 2
  payload : List UInt8
  payload_lt : payload.length < 2 ^ 30

/-- `ntohs(h_proto)`. -/
def EthFrame.etherType (pkt : EthFrame) : ℕ := 256 * pkt.hProto[0].toNat + pkt.hProto[1].toNat

def ETH_ALEN : ℕ := 6

def EthFrame.data (pkt : EthFrame) : List UInt8 :=
  pkt.hDest.toList ++ pkt.hSource.toList ++ pkt.hProto.toList ++ pkt.payload

/-- `_rtw_pktfile_read` on the bytes a `pkt_file` has not given out yet. A negative count is a `uint`
above every length. -/
def rtwPktfileRead (pfile : List UInt8) (rlen : ℤ) : List UInt8 × List UInt8 :=
  let len := if 0 ≤ rlen ∧ rlen ≤ pfile.length then rlen.toNat else pfile.length
  (pfile.take len, pfile.drop len)

theorem rtwPktfileRead_all (pfile : List UInt8) (rlen : ℤ) (h : rlen < 0 ∨ pfile.length ≤ rlen) :
    rtwPktfileRead pfile rlen = (pfile, []) := by
  have hlen : (if 0 ≤ rlen ∧ rlen ≤ pfile.length then rlen.toNat else pfile.length) = pfile.length := by
    split <;> omega
  simp only [rtwPktfileRead, hlen, List.take_length, List.drop_length]

theorem rtwPktfileRead_part (pfile : List UInt8) (n : ℕ) (h : n ≤ pfile.length) :
    rtwPktfileRead pfile n = (pfile.take n, pfile.drop n) := by
  have hlen : (if (0 : ℤ) ≤ n ∧ (n : ℤ) ≤ pfile.length then (n : ℤ).toNat else pfile.length) = n := by
    rw [if_pos (by omega), Int.toNat_natCast]
  simp only [rtwPktfileRead, hlen]

theorem rtwPktfileRead_payload (pkt : EthFrame) : (rtwPktfileRead pkt.data 14).2 = pkt.payload := by
  have hhdr : (pkt.hDest.toList ++ pkt.hSource.toList ++ pkt.hProto.toList).length = 14 := by
    simp only [List.length_append, Vector.length_toList]
  have hlen : 14 ≤ pkt.data.length := by
    rw [EthFrame.data, List.length_append, hhdr]
    omega
  have hread := rtwPktfileRead_part pkt.data 14 hlen
  rw [Nat.cast_ofNat] at hread
  rw [hread, EthFrame.data]
  dsimp only
  rw [List.drop_append_of_le_length hhdr.ge, ← hhdr, List.drop_length, List.nil_append]

/-! ## The frame -/

/-- `struct pkt_attrib`; `nr_frags` is kept under 256. -/
structure PktAttrib where
  subtype : ℕ := 0
  bswenc : Bool := false
  etherType : ℕ := 0
  seqnum : ℕ := 0
  pktHdrlen : ℕ := 0
  hdrlen : ℕ := 0
  pktlen : ℕ := 0
  lastTxcmdsz : ℕ := 0
  nrFrags : ℕ := 0
  encrypt : ℕ := 0
  ivLen : ℕ := 0
  icvLen : ℕ := 0
  iv : Vector UInt8 18 := Vector.replicate 18 0
  icv : Vector UInt8 16 := Vector.replicate 16 0
  priority : ℕ := 0
  ackPolicy : ℕ := 0
  macId : ℕ := 0
  dst : MacAddr := Vector.replicate 6 0
  src : MacAddr := Vector.replicate 6 0
  ta : MacAddr := Vector.replicate 6 0
  ra : MacAddr := Vector.replicate 6 0
  keyIdx : ℕ := 0
  qosEn : ℕ := 0
  mdata : Bool := false
  eosp : ℕ := 0
  psta : Option StaId := none

/-- `struct xmit_frame` with the buffer of its `buf_addr`. -/
structure XmitFrame where
  attrib : PktAttrib := {}
  mem : Mem := fun _ => 0

/-- A place in the buffer that consecutive `memcpy`s move along, `pframe` of `rtw_xmitframe_coalesce`. -/
structure Cursor where
  mem : Mem
  pframe : ℤ

/-- `memcpy(pframe, l, n)` and `pframe += n`. -/
def Cursor.put (c : Cursor) (l : List UInt8) : Cursor := ⟨putBytes c.mem c.pframe l, c.pframe + l.length⟩

theorem Cursor.put_put (c : Cursor) (a b : List UInt8) : (c.put a).put b = c.put (a ++ b) := by
  simp only [Cursor.put, putBytes_append, List.length_append, Nat.cast_add, add_assoc]

end Rtl8723au
