import Rtl8723au.Include.RecvFrame
import Rtl8723au.Security.Arcfour

/-! What a bulk-in transfer becomes: `recvbuf2recvframe` of `hal/usb_ops_linux.c` walks over the packets of a transfer, each
behind its descriptor, and `update_recvframe_attrib` of `hal/rtl8723au_recv.c` reads a descriptor. A position is the
distance from the first byte of the transfer. -/
namespace Rtl8723au
namespace RecvBuf
open Security
set_option autoImplicit false

def RXDESC_SIZE : ℕ := 24

/-! ## The descriptor -/

/-- `le32_to_cpu` of a word of the descriptor. -/
def rxdw (prxstat : List UInt8) (k : ℕ) : ℕ :=
  (prxstat.getD (4 * k) 0).toNat + 2 ^ 8 * (prxstat.getD (4 * k + 1) 0).toNat +
    2 ^ 16 * (prxstat.getD (4 * k + 2) 0).toNat + 2 ^ 24 * (prxstat.getD (4 * k + 3) 0).toNat

/-- The member of `RXREPORT` with `n` bits from bit `lo` of a word on. -/
def bits (w lo n : ℕ) : ℕ := w / 2 ^ lo % 2 ^ n

def flag (w lo : ℕ) : Bool := decide (bits w lo 1 = 1)

theorem bits_lt (w lo n : ℕ) : bits w lo n < 2 ^ n := Nat.mod_lt _ (Nat.two_pow_pos n)

/-- `update_recvframe_attrib`. What the descriptor does not say is zero, `shift_sz` among it. -/
def updateRecvframeAttrib (prxstat : List UInt8) : RxPktAttrib :=
  let dw0 := rxdw prxstat 0
  let dw1 := rxdw prxstat 1
  let dw2 := rxdw prxstat 2
  let dw3 := rxdw prxstat 3
  { pktLen := bits dw0 0 14
    crcErr := flag dw0 14
    icvErr := flag dw0 15
    drvinfoSz := bits dw0 16 4 * 8
    encrypt := bits dw0 20 3
    qos := flag dw0 23
    physt := flag dw0 26
    bdecrypted := !flag dw0 27
    priority := bits dw1 5 4
    amsdu := flag dw1 13
    mdata := flag dw1 26
    mfrag := flag dw1 27
    seqNum := bits dw2 0 12
    fragNum := bits dw2 12 4
    mcsRate := bits dw3 0 6
    rxht := flag dw3 6 }

/-- `(le32_to_cpu(prxstat->rxdw2)>>16) & 0xff`. -/
def pktCntOf (prxstat : List UInt8) : ℕ := bits (rxdw prxstat 2) 16 8

/-! ## A packet -/

inductive UsbRxAggMode
  /-- Also where the driver is built without `CONFIG_USB_RX_AGGREGATION`. -/
  | USB_RX_AGG_DISABLE
  | USB_RX_AGG_DMA
  | USB_RX_AGG_USB
  | USB_RX_AGG_MIX
  deriving DecidableEq

def _RND (k sz : ℕ) : ℕ := (sz / k + if sz % k = 0 then 0 else 1) * k

def rounded : UsbRxAggMode → ℕ → ℕ
  | .USB_RX_AGG_DMA, n | .USB_RX_AGG_MIX, n => _RND 128 n
  | .USB_RX_AGG_USB, n => _RND 4 n
  | .USB_RX_AGG_DISABLE, n => n

theorem le_rounded (mode : UsbRxAggMode) (n : ℕ) : n ≤ rounded mode n := by
  have hrnd : ∀ k, 0 < k → n ≤ _RND k n := by
    intro k hk
    have hdiv := Nat.div_add_mod n k
    have hlt := Nat.mod_lt n hk
    rw [_RND, Nat.add_mul, Nat.mul_comm]
    split_ifs <;> omega
  cases mode with
  | USB_RX_AGG_DISABLE => exact le_rfl
  | USB_RX_AGG_DMA => exact hrnd 128 (by decide)
  | USB_RX_AGG_USB => exact hrnd 4 (by decide)
  | USB_RX_AGG_MIX => exact hrnd 128 (by decide)

/-- What there is for a packet: a receive frame as its last use has left it, an skb with its address and what its memory
happens to hold, a clone of the transfer's skb. -/
structure Supply where
  recvframe : Option RecvFrame
  skb : Option (ℕ × Mem)
  clone : Bool

/-- "for first fragment packet, driver need allocate 1536+drvinfo_sz+RXDESC_SIZE to defrag packet". -/
def firstFragment (attrib : RxPktAttrib) : Bool := attrib.mfrag && decide (attrib.fragNum = 0)

def allocSz (attrib : RxPktAttrib) : ℕ :=
  if firstFragment attrib then if attrib.pktLen ≤ 1650 then 1664 else attrib.pktLen + 14 else attrib.pktLen + 14

/-- The two `skb_reserve`: at least one byte is left out, even of an aligned address. -/
def reserved (attrib : RxPktAttrib) (addr : ℕ) : ℕ := 8 - addr % 8 + if attrib.qos then 6 else 0

/-- The frame of an skb of its own, with the packet copied into it; offsets are from the first byte copied. -/
def copied (f : RecvFrame) (attrib : RxPktAttrib) (buf : Mem) (src : ℤ) (addr : ℕ) (stale : Mem) : RecvFrame :=
  { f with
    attrib := attrib
    mem := Mem.patch stale 0 attrib.pktLen fun k => buf (src + k)
    len := 0
    rxHead := -reserved attrib addr
    rxData := 0
    rxTail := 0
    rxEnd := allocSz attrib - reserved attrib addr }

/-- The frame of a clone, which lies in the transfer itself. -/
def cloned (f : RecvFrame) (attrib : RxPktAttrib) (buf : Mem) (src : ℤ) : RecvFrame :=
  { f with
    attrib := attrib
    mem := fun k => buf (src + k)
    len := 0
    rxHead := 0
    rxData := 0
    rxTail := 0
    rxEnd := allocSz attrib }

/-- Why the loop is left. A frame that has been taken from the free queue and is not handed on is put back. -/
inductive Stop
  | finished
  | noRecvframe
  | putBack
  deriving DecidableEq

/-- The body of the loop up to `rtw_recv_entry`: the frame, and the distance to the next packet. -/
def recvPacket (supply : Supply) (mode : UsbRxAggMode) (buf : Mem) (pbuf transferLen : ℤ) :
    Except Stop (RecvFrame × ℕ) :=
  match supply.recvframe with
  | none => .error .noRecvframe
  | some precvframe =>
    let attrib := updateRecvframeAttrib (bytesAt buf pbuf RXDESC_SIZE)
    if attrib.crcErr then .error .putBack
    else
      let pktOffset := RXDESC_SIZE + attrib.drvinfoSz + attrib.shiftSz + attrib.pktLen
      -- `pkt_offset` is unsigned, and so is the comparison
      if attrib.pktLen = 0 ∨ uint transferLen < pktOffset then .error .putBack
      else
        match supply.skb with
        | some (addr, stale) =>
          let f := copied precvframe attrib buf (pbuf + attrib.shiftSz + attrib.drvinfoSz + RXDESC_SIZE) addr stale
          .ok ((f.recvframePut attrib.pktLen).2, rounded mode pktOffset)
        | none =>
          if firstFragment attrib then .error .putBack
          else if supply.clone then
            let f := cloned precvframe attrib buf (pbuf + attrib.drvinfoSz + RXDESC_SIZE)
            .ok ((f.recvframePut attrib.pktLen).2, rounded mode pktOffset)
          else .error .putBack

theorem recvPacket_pos {supply : Supply} {mode : UsbRxAggMode} {buf : Mem} {pbuf transferLen : ℤ} {f : RecvFrame} {n : ℕ}
    (h : recvPacket supply mode buf pbuf transferLen = .ok (f, n)) : 0 < n := by
  rw [recvPacket] at h
  have hpos : ∀ m, 0 < rounded mode (RXDESC_SIZE + m) := fun m =>
    lt_of_lt_of_le (Nat.lt_of_lt_of_le (by decide) (Nat.le_add_right RXDESC_SIZE m)) (le_rounded mode _)
  split at h
  · cases h
  dsimp only at h
  split at h
  · cases h
  split at h
  · cases h
  simp only [Nat.add_assoc] at h
  split at h
  · obtain ⟨-, rfl⟩ := Prod.mk.inj (Except.ok.inj h)
    exact hpos _
  · split at h
    · cases h
    split at h
    · obtain ⟨-, rfl⟩ := Prod.mk.inj (Except.ok.inj h)
      exact hpos _
    · cases h

/-! ## A transfer -/

/-- The loop from its `k`-th turn on: the frames handed to `rtw_recv_entry`, and why it is left. -/
def recvLoop (supply : ℕ → Supply) (mode : UsbRxAggMode) (buf : Mem) (k : ℕ) (pbuf transferLen : ℤ) (pktCnt : ℕ) :
    List RecvFrame × Stop :=
  match _ : recvPacket (supply k) mode buf pbuf transferLen with
  | .error stop => ([], stop)
  | .ok (f, pktOffset) =>
    -- `pkt_cnt` is a `u16`; it is read anew, from the same descriptor, where it has run out too soon
    let cnt := (pktCnt + 65535) % 65536
    let left := transferLen - pktOffset
    let cnt := if 0 < left ∧ cnt = 0 then pktCntOf (bytesAt buf pbuf RXDESC_SIZE) else cnt
    if 0 < left ∧ 0 < cnt then
      let rest := recvLoop supply mode buf (k + 1) (pbuf + pktOffset) left cnt
      (f :: rest.1, rest.2)
    else ([f], .finished)
termination_by transferLen.toNat
decreasing_by
  have := recvPacket_pos ‹_›
  omega

/-- `recvbuf2recvframe`: what it hands on of the `len` bytes of an skb. -/
def recvbuf2recvframe (supply : ℕ → Supply) (mode : UsbRxAggMode) (buf : Mem) (len : ℕ) : List RecvFrame × Stop :=
  recvLoop supply mode buf 0 0 len (pktCntOf (bytesAt buf 0 RXDESC_SIZE))

/-! ## What the chip writes -/

/-- A packet behind its descriptor and the driver info, as the descriptor says. -/
@[ext]
structure RxRecord where
  prxstat : List UInt8
  drvinfo : List UInt8
  packet : List UInt8
  prxstat_length : prxstat.length = RXDESC_SIZE
  drvinfo_length : drvinfo.length = (updateRecvframeAttrib prxstat).drvinfoSz
  packet_length : packet.length = (updateRecvframeAttrib prxstat).pktLen
  packet_ne : packet ≠ []
  crc : (updateRecvframeAttrib prxstat).crcErr = false

namespace RxRecord
variable (r : RxRecord)

def attrib : RxPktAttrib := updateRecvframeAttrib r.prxstat

def pktCnt : ℕ := pktCntOf r.prxstat

def bytes : List UInt8 := r.prxstat ++ r.drvinfo ++ r.packet

theorem bytes_length : r.bytes.length = RXDESC_SIZE + r.attrib.drvinfoSz + r.attrib.pktLen := by
  rw [bytes, List.length_append, List.length_append, r.prxstat_length, r.drvinfo_length, r.packet_length]
  rfl

theorem pktLen_pos : 0 < r.attrib.pktLen := by
  have h : r.packet.length = r.attrib.pktLen := r.packet_length
  rw [← h]
  exact List.length_pos_iff.mpr r.packet_ne

theorem bytes_length_ge : 25 ≤ r.bytes.length := by
  have h := r.pktLen_pos
  rw [bytes_length, RXDESC_SIZE]
  omega

end RxRecord

/-- The record lies there. -/
def Lies (buf : Mem) (pbuf : ℤ) (r : RxRecord) : Prop := bytesAt buf pbuf r.bytes.length = r.bytes

section Lies
variable {buf : Mem} {pbuf : ℤ} {r : RxRecord}

theorem lies_iff : Lies buf pbuf r ↔ bytesAt buf pbuf RXDESC_SIZE = r.prxstat ∧
    bytesAt buf (pbuf + RXDESC_SIZE) r.attrib.drvinfoSz = r.drvinfo ∧
    bytesAt buf (pbuf + r.attrib.drvinfoSz + RXDESC_SIZE) r.attrib.pktLen = r.packet := by
  have hp : (bytesAt buf pbuf RXDESC_SIZE).length = r.prxstat.length := (bytesAt_length _).trans r.prxstat_length.symm
  have hd : (bytesAt buf (pbuf + RXDESC_SIZE) r.attrib.drvinfoSz).length = r.drvinfo.length :=
    (bytesAt_length _).trans r.drvinfo_length.symm
  have hpos : pbuf + ((RXDESC_SIZE + r.attrib.drvinfoSz : ℕ) : ℤ) = pbuf + r.attrib.drvinfoSz + RXDESC_SIZE := by
    push_cast
    ring
  rw [Lies, r.bytes_length, bytesAt_add, bytesAt_add, hpos, RxRecord.bytes]
  constructor
  · intro h
    obtain ⟨hfront, hpacket⟩ := List.append_inj h (by rw [List.length_append, List.length_append, hp, hd])
    obtain ⟨hprxstat, hdrvinfo⟩ := List.append_inj hfront hp
    exact ⟨hprxstat, hdrvinfo, hpacket⟩
  · rintro ⟨hprxstat, hdrvinfo, hpacket⟩
    rw [hprxstat, hdrvinfo, hpacket]

theorem Lies.unique {r' : RxRecord} (h : Lies buf pbuf r) (h' : Lies buf pbuf r') : r = r' := by
  obtain ⟨hprxstat, hdrvinfo, hpacket⟩ := lies_iff.mp h
  obtain ⟨hprxstat', hdrvinfo', hpacket'⟩ := lies_iff.mp h'
  have hattrib : r.attrib = r'.attrib := by
    rw [RxRecord.attrib, RxRecord.attrib, ← hprxstat, hprxstat']
  refine RxRecord.ext (hprxstat.symm.trans hprxstat') ?_ ?_
  · rw [← hdrvinfo, hattrib, hdrvinfo']
  · rw [← hpacket, hattrib, hpacket']

def recordAt (buf : Mem) (pbuf : ℤ) (hcrc : (updateRecvframeAttrib (bytesAt buf pbuf RXDESC_SIZE)).crcErr = false)
    (hlen : (updateRecvframeAttrib (bytesAt buf pbuf RXDESC_SIZE)).pktLen ≠ 0) : RxRecord where
  prxstat := bytesAt buf pbuf RXDESC_SIZE
  drvinfo := bytesAt buf (pbuf + RXDESC_SIZE) (updateRecvframeAttrib (bytesAt buf pbuf RXDESC_SIZE)).drvinfoSz
  packet := bytesAt buf (pbuf + (updateRecvframeAttrib (bytesAt buf pbuf RXDESC_SIZE)).drvinfoSz + RXDESC_SIZE)
    (updateRecvframeAttrib (bytesAt buf pbuf RXDESC_SIZE)).pktLen
  prxstat_length := bytesAt_length _
  drvinfo_length := bytesAt_length _
  packet_length := bytesAt_length _
  packet_ne := by
    rw [← List.length_pos_iff, bytesAt_length]
    exact Nat.pos_of_ne_zero hlen
  crc := hcrc

theorem lies_recordAt (hcrc : (updateRecvframeAttrib (bytesAt buf pbuf RXDESC_SIZE)).crcErr = false)
    (hlen : (updateRecvframeAttrib (bytesAt buf pbuf RXDESC_SIZE)).pktLen ≠ 0) :
    Lies buf pbuf (recordAt buf pbuf hcrc hlen) := lies_iff.mpr ⟨rfl, rfl, rfl⟩

end Lies

/-! ## One packet, told by its record -/

/-- The frame has the packet and what the descriptor says of it, and its pointers are those of a receive frame; a first
fragment has room for the others. -/
structure Carries (f : RecvFrame) (r : RxRecord) : Prop where
  attrib : f.attrib = r.attrib
  bytes : bytesAt f.mem f.rxData f.len = r.packet
  wellFormed : f.WellFormed
  room : firstFragment r.attrib = true → f.rxData + 1650 ≤ f.rxEnd

/-- There is what the packet needs. -/
def Served (supply : Supply) (r : RxRecord) : Prop :=
  supply.recvframe.isSome ∧ (supply.skb.isSome ∨ firstFragment r.attrib = false ∧ supply.clone = true)

instance (supply : Supply) (r : RxRecord) : Decidable (Served supply r) := inferInstanceAs (Decidable (_ ∧ _))

theorem attrib_pktLen_lt (prxstat : List UInt8) : (updateRecvframeAttrib prxstat).pktLen < 2 ^ 14 := bits_lt _ 0 14

theorem reserved_le (attrib : RxPktAttrib) (addr : ℕ) : reserved attrib addr ≤ 14 := by
  rw [reserved]
  split_ifs <;> omega

theorem pktLen_add_le (attrib : RxPktAttrib) : attrib.pktLen + 14 ≤ allocSz attrib := by
  rw [allocSz]
  split_ifs <;> omega

theorem allocSz_first {attrib : RxPktAttrib} (h : firstFragment attrib = true) : 1664 ≤ allocSz attrib := by
  rw [allocSz, if_pos h]
  split_ifs <;> omega

theorem bytesAt_eq_bytesAt {m m' : Mem} {p p' : ℤ} {n : ℕ} (h : ∀ k < n, m' (p' + (k : ℕ)) = m (p + (k : ℕ))) :
    bytesAt m' p' n = bytesAt m p n :=
  List.map_congr_left fun k hk => h k (List.mem_range.mp hk)

theorem bytesAt_parts {m : Mem} {p : ℤ} {a b : List UInt8} (h : bytesAt m p (a ++ b).length = a ++ b) :
    bytesAt m p a.length = a ∧ bytesAt m (p + a.length) b.length = b := by
  rw [List.length_append, bytesAt_add] at h
  exact List.append_inj h (bytesAt_length _)

section Packet
variable {buf : Mem} {pbuf transferLen : ℤ} {r : RxRecord} {supply : Supply} {mode : UsbRxAggMode}

/-- `recvframe_put` of the packet, where the skb is as long as was asked for. -/
theorem carries_put {f : RecvFrame} (hr : Lies buf pbuf r) (hattrib : f.attrib = r.attrib) (hlen : f.len = 0)
    (htail : f.rxTail = f.rxData) (hhead : f.rxHead ≤ f.rxData) (hend : f.rxData + allocSz r.attrib ≤ f.rxEnd + 14)
    (hmem : ∀ k < r.attrib.pktLen, f.mem (f.rxData + (k : ℕ)) = buf (pbuf + r.attrib.drvinfoSz + RXDESC_SIZE + (k : ℕ))) :
    Carries (f.recvframePut r.attrib.pktLen).2 r := by
  have hsmall : r.attrib.pktLen < 2 ^ 32 := lt_trans (attrib_pktLen_lt r.prxstat) (by norm_num)
  have halloc := pktLen_add_le r.attrib
  have hput : f.recvframePut r.attrib.pktLen = (some (f.rxData + r.attrib.pktLen),
      { f with rxTail := f.rxData + r.attrib.pktLen, len := r.attrib.pktLen }) := by
    rw [RecvFrame.recvframePut, htail, if_neg (by omega), hlen, Nat.cast_zero, zero_add, uint_natCast _ hsmall]
  rw [hput]
  refine ⟨hattrib, ?_, ⟨hhead, ?_, ?_, hsmall⟩, ?_⟩
  · rw [← (lies_iff.mp hr).2.2]
    exact bytesAt_eq_bytesAt hmem
  · show f.rxData + r.attrib.pktLen ≤ f.rxEnd
    omega
  · show (r.attrib.pktLen : ℤ) = f.rxData + r.attrib.pktLen - f.rxData
    omega
  · intro hfirst
    have hbig := allocSz_first hfirst
    show f.rxData + 1650 ≤ f.rxEnd
    omega

theorem carries_copied (hr : Lies buf pbuf r) (f : RecvFrame) (addr : ℕ) (stale : Mem) :
    Carries ((copied f r.attrib buf (pbuf + r.attrib.shiftSz + r.attrib.drvinfoSz + RXDESC_SIZE) addr
      stale).recvframePut r.attrib.pktLen).2 r := by
  have hres := reserved_le r.attrib addr
  have hshift : r.attrib.shiftSz = 0 := rfl
  refine carries_put hr rfl rfl rfl (by simp only [copied]; omega) (by simp only [copied]; omega) ?_
  intro k hk
  simp only [copied]
  rw [Mem.patch_inside _ _ _ _ k hk, hshift, Nat.cast_zero, add_zero]

theorem carries_cloned (hr : Lies buf pbuf r) (f : RecvFrame) :
    Carries ((cloned f r.attrib buf (pbuf + r.attrib.drvinfoSz + RXDESC_SIZE)).recvframePut r.attrib.pktLen).2 r := by
  refine carries_put hr rfl rfl rfl le_rfl (by simp only [cloned]; omega) ?_
  intro k _
  simp only [cloned, zero_add]

variable (supply mode) in
/-- A record that lies there whole gives its frame when there is what it needs. -/
theorem recvPacket_lies (hr : Lies buf pbuf r) (hfit : (r.bytes.length : ℤ) ≤ transferLen) (hlen : transferLen < 2 ^ 31) :
    if Served supply r
    then ∃ f, recvPacket supply mode buf pbuf transferLen = .ok (f, rounded mode r.bytes.length) ∧ Carries f r
    else ∃ stop ≠ .finished, recvPacket supply mode buf pbuf transferLen = .error stop := by
  have hattrib : updateRecvframeAttrib (bytesAt buf pbuf RXDESC_SIZE) = r.attrib := by
    rw [(lies_iff.mp hr).1]
    rfl
  have hsize : RXDESC_SIZE + r.attrib.drvinfoSz + r.attrib.shiftSz + r.attrib.pktLen = r.bytes.length := by
    rw [r.bytes_length]
    rfl
  have hall : ¬ (r.attrib.pktLen = 0 ∨ uint transferLen < r.bytes.length) := by
    have hpos := r.pktLen_pos
    obtain ⟨n, rfl⟩ := Int.eq_ofNat_of_zero_le (show 0 ≤ transferLen by omega)
    rw [uint_natCast n (by omega)]
    omega
  have hcrc : r.attrib.crcErr = false := r.crc
  rw [recvPacket]
  cases hframe : supply.recvframe with
  | none =>
    rw [if_neg fun h => by simp [Served, hframe] at h]
    exact ⟨.noRecvframe, by decide, rfl⟩
  | some precvframe =>
    simp only [hattrib, hcrc, hsize, if_neg hall, Bool.false_eq_true, if_false]
    cases hskb : supply.skb with
    | some skb =>
      rw [if_pos ⟨by rw [hframe]; rfl, .inl (by rw [hskb]; rfl)⟩]
      exact ⟨_, rfl, carries_copied hr precvframe skb.1 skb.2⟩
    | none =>
      by_cases hfirst : firstFragment r.attrib = true
      · rw [if_neg fun h => by simp [Served, hskb, hfirst] at h, if_pos hfirst]
        exact ⟨.putBack, by decide, rfl⟩
      by_cases hclone : supply.clone = true
      · rw [if_pos ⟨by rw [hframe]; rfl, .inr ⟨by simpa using hfirst, hclone⟩⟩, if_neg hfirst, if_pos hclone]
        exact ⟨_, rfl, carries_cloned hr precvframe⟩
      · rw [if_neg fun h => by simp [Served, hskb, hclone] at h, if_neg hfirst, if_neg hclone]
        exact ⟨.putBack, by decide, rfl⟩

variable (supply mode) in
theorem recvPacket_none (h0 : 0 ≤ transferLen) (hlen : transferLen < 2 ^ 31)
    (hnone : ¬ ∃ r, Lies buf pbuf r ∧ (r.bytes.length : ℤ) ≤ transferLen) :
    ∃ stop ≠ .finished, recvPacket supply mode buf pbuf transferLen = .error stop := by
  rw [recvPacket]
  cases hframe : supply.recvframe with
  | none => exact ⟨.noRecvframe, by decide, rfl⟩
  | some precvframe =>
    by_cases hcrc : (updateRecvframeAttrib (bytesAt buf pbuf RXDESC_SIZE)).crcErr = true
    · simp only [hcrc, if_true]
      exact ⟨.putBack, by decide, rfl⟩
    by_cases hbad : (updateRecvframeAttrib (bytesAt buf pbuf RXDESC_SIZE)).pktLen = 0 ∨ uint transferLen <
        RXDESC_SIZE + (updateRecvframeAttrib (bytesAt buf pbuf RXDESC_SIZE)).drvinfoSz +
          (updateRecvframeAttrib (bytesAt buf pbuf RXDESC_SIZE)).shiftSz +
            (updateRecvframeAttrib (bytesAt buf pbuf RXDESC_SIZE)).pktLen
    · simp only [if_neg hcrc, if_pos hbad]
      exact ⟨.putBack, by decide, rfl⟩
    · obtain ⟨hne, hfit⟩ := not_or.mp hbad
      refine absurd ⟨recordAt buf pbuf (by simpa using hcrc) hne, lies_recordAt _ _, ?_⟩ hnone
      obtain ⟨n, rfl⟩ := Int.eq_ofNat_of_zero_le h0
      rw [uint_natCast n (by omega), Nat.not_lt] at hfit
      rw [RxRecord.bytes_length]
      exact_mod_cast hfit

end Packet

/-! ## The packets of a transfer -/

def MAX_RECVBUF_SZ : ℕ := 15360

/-- The bytes of a transfer: records, each starting where the one before says that it does; what lies between them, and
behind the last one up to where another would start, is not looked at. -/
inductive Transfer (mode : UsbRxAggMode) : List RxRecord → List UInt8 → Prop
  | last (r : RxRecord) {pad : List UInt8} (hpad : r.bytes.length + pad.length ≤ rounded mode r.bytes.length) :
      Transfer mode [r] (r.bytes ++ pad)
  | cons (r : RxRecord) {rs : List RxRecord} {pad rest : List UInt8}
      (hpad : r.bytes.length + pad.length = rounded mode r.bytes.length) (hrest : Transfer mode rs rest) :
      Transfer mode (r :: rs) (r.bytes ++ pad ++ rest)

/-- The count covers the records, or says nothing, or can be read anew from each of them. -/
def Covers (cnt : ℕ) (rs : List RxRecord) : Prop := cnt = 0 ∨ rs.length ≤ cnt ∨ ∀ r ∈ rs, r.pktCnt ≠ 0

/-- The records up to the first one for which there is not what it needs. -/
def served (supply : ℕ → Supply) : ℕ → List RxRecord → List RxRecord
  | _, [] => []
  | k, r :: rs => if Served (supply k) r then r :: served supply (k + 1) rs else []

section Transfers
variable {supply : ℕ → Supply} {mode : UsbRxAggMode} {buf : Mem}

theorem Transfer.length_ge {rs : List RxRecord} {l : List UInt8} (h : Transfer mode rs l) :
    25 * rs.length ≤ l.length ∧ 0 < rs.length := by
  induction h with
  | last r =>
    have := r.bytes_length_ge
    rw [List.length_append, List.length_singleton]
    omega
  | cons r _ _ ih =>
    have := r.bytes_length_ge
    rw [List.length_append, List.length_append, List.length_cons]
    omega

theorem recvLoop_error {k : ℕ} {pbuf transferLen : ℤ} {pktCnt : ℕ} {stop : Stop}
    (h : recvPacket (supply k) mode buf pbuf transferLen = .error stop) :
    recvLoop supply mode buf k pbuf transferLen pktCnt = ([], stop) := by
  rw [recvLoop]
  split
  · rename_i h'
    cases h.symm.trans h'
    rfl
  · rename_i h'
    cases h.symm.trans h'

def nextCnt (prxstat : List UInt8) (left : ℤ) (pktCnt : ℕ) : ℕ :=
  if 0 < left ∧ (pktCnt + 65535) % 65536 = 0 then pktCntOf prxstat else (pktCnt + 65535) % 65536

theorem recvLoop_ok {k : ℕ} {pbuf transferLen : ℤ} {pktCnt n : ℕ} {f : RecvFrame}
    (h : recvPacket (supply k) mode buf pbuf transferLen = .ok (f, n)) :
    recvLoop supply mode buf k pbuf transferLen pktCnt =
      if 0 < transferLen - n ∧ 0 < nextCnt (bytesAt buf pbuf RXDESC_SIZE) (transferLen - n) pktCnt then
        (f :: (recvLoop supply mode buf (k + 1) (pbuf + n) (transferLen - n)
            (nextCnt (bytesAt buf pbuf RXDESC_SIZE) (transferLen - n) pktCnt)).1,
          (recvLoop supply mode buf (k + 1) (pbuf + n) (transferLen - n)
            (nextCnt (bytesAt buf pbuf RXDESC_SIZE) (transferLen - n) pktCnt)).2)
      else ([f], .finished) := by
  rw [recvLoop]
  split
  · rename_i h'
    cases h.symm.trans h'
  · rename_i h'
    cases h.symm.trans h'
    rfl

theorem nextCnt_lt (prxstat : List UInt8) (left : ℤ) (pktCnt : ℕ) : nextCnt prxstat left pktCnt < 65536 := by
  have hbits : pktCntOf prxstat < 2 ^ 8 := bits_lt _ 16 8
  have hmod : (pktCnt + 65535) % 65536 < 65536 := Nat.mod_lt _ (by decide)
  rw [nextCnt]
  split_ifs <;> omega

theorem Covers.next {r : RxRecord} {rs : List RxRecord} {pktCnt : ℕ} (left : ℤ) (h : Covers pktCnt (r :: rs))
    (hcnt : pktCnt < 65536) (hrs : 0 < rs.length) (hmany : rs.length < 65535) (hleft : 0 < left) :
    0 < nextCnt r.prxstat left pktCnt ∧ Covers (nextCnt r.prxstat left pktCnt) rs := by
  rw [nextCnt]
  obtain rfl | hcovers | hall := h
  · rw [if_neg (by omega)]
    exact ⟨by omega, .inr (.inl (by omega))⟩
  · rw [List.length_cons] at hcovers
    rw [if_neg (by omega)]
    exact ⟨by omega, .inr (.inl (by omega))⟩
  · refine ⟨?_, .inr (.inr fun r' hr' => hall r' (List.mem_cons_of_mem r hr'))⟩
    have hr : pktCntOf r.prxstat ≠ 0 := hall r List.mem_cons_self
    split_ifs <;> omega

theorem recvLoop_transfer {rs : List RxRecord} {l : List UInt8} (h : Transfer mode rs l) (k : ℕ) (pbuf : ℤ) (pktCnt : ℕ)
    (hbuf : bytesAt buf pbuf l.length = l) (hlen : l.length ≤ MAX_RECVBUF_SZ) (hcnt : pktCnt < 65536)
    (hcovers : Covers pktCnt rs) :
    List.Forall₂ Carries (recvLoop supply mode buf k pbuf l.length pktCnt).1 (served supply k rs) ∧
      ((recvLoop supply mode buf k pbuf l.length pktCnt).2 = .finished ↔ served supply k rs = rs) := by
  rw [MAX_RECVBUF_SZ] at hlen
  induction h generalizing k pbuf pktCnt with
  | @last r pad hpad =>
    rw [List.length_append] at hlen
    have hfirst := recvPacket_lies (supply k) mode (bytesAt_parts hbuf).1
      (show (r.bytes.length : ℤ) ≤ ((r.bytes ++ pad).length : ℕ) by rw [List.length_append]; omega)
      (by rw [List.length_append]; omega)
    rw [served]
    by_cases hs : Served (supply k) r
    · rw [if_pos hs] at hfirst
      obtain ⟨f, hf, hcarries⟩ := hfirst
      rw [recvLoop_ok hf, if_neg (by rw [List.length_append]; omega), if_pos hs, served]
      exact ⟨.cons hcarries .nil, iff_of_true rfl rfl⟩
    · rw [if_neg hs] at hfirst
      obtain ⟨stop, hstop, herror⟩ := hfirst
      rw [recvLoop_error herror, if_neg hs]
      exact ⟨.nil, iff_of_false hstop (List.cons_ne_nil _ _).symm⟩
  | @cons r rs pad rest hpad hrest ih =>
    obtain ⟨hmany, hrs⟩ := hrest.length_ge
    obtain ⟨hfront, hbehind⟩ := bytesAt_parts hbuf
    rw [List.length_append] at hlen hbehind
    rw [List.length_append] at hlen
    have hfirst := recvPacket_lies (supply k) mode (bytesAt_parts hfront).1
      (show (r.bytes.length : ℤ) ≤ ((r.bytes ++ pad ++ rest).length : ℕ) by rw [List.length_append, List.length_append]; omega)
      (by rw [List.length_append, List.length_append]; omega)
    have hleft : ((r.bytes ++ pad ++ rest).length : ℤ) - rounded mode r.bytes.length = rest.length := by
      rw [List.length_append, List.length_append]
      omega
    have hprxstat : bytesAt buf pbuf RXDESC_SIZE = r.prxstat := (lies_iff.mp (bytesAt_parts hfront).1).1
    rw [served]
    by_cases hs : Served (supply k) r
    · rw [if_pos hs] at hfirst
      obtain ⟨f, hf, hcarries⟩ := hfirst
      obtain ⟨hpos, hcovers'⟩ := hcovers.next rest.length hcnt hrs (by omega) (by omega)
      rw [hpad] at hbehind
      obtain ⟨hall, hstop⟩ := ih (k + 1) (pbuf + rounded mode r.bytes.length) (nextCnt r.prxstat rest.length pktCnt) hbehind
        (by omega) (nextCnt_lt _ _ _) hcovers'
      rw [recvLoop_ok hf, hleft, hprxstat, if_pos ⟨by omega, hpos⟩, if_pos hs]
      exact ⟨.cons hcarries hall, hstop.trans ⟨fun h => by rw [h], fun h => (List.cons.inj h).2⟩⟩
    · rw [if_neg hs] at hfirst
      obtain ⟨stop, hstop, herror⟩ := hfirst
      rw [recvLoop_error herror, if_neg hs]
      exact ⟨.nil, iff_of_false hstop (List.cons_ne_nil _ _).symm⟩

/-- **A transfer gives the packets of its records, each once and in order, up to the first one for which the memory is
missing.** -/
theorem recvbuf2recvframe_transfer (supply : ℕ → Supply) (mode : UsbRxAggMode) (buf : Mem) (rs : List RxRecord)
    (l : List UInt8) (h : Transfer mode rs l) (hbuf : bytesAt buf 0 l.length = l) (hlen : l.length ≤ MAX_RECVBUF_SZ)
    (hcovers : ∀ r ∈ rs.head?, Covers r.pktCnt rs) :
    List.Forall₂ Carries (recvbuf2recvframe supply mode buf l.length).1 (served supply 0 rs) ∧
      ((recvbuf2recvframe supply mode buf l.length).2 = .finished ↔ served supply 0 rs = rs) := by
  have hcnt : Covers (pktCntOf (bytesAt buf 0 RXDESC_SIZE)) rs := by
    have hfirst : ∀ r ∈ rs.head?, Lies buf 0 r := by
      intro r hr
      cases h with
      | last =>
        obtain rfl := Option.mem_some_iff.mp hr
        exact (bytesAt_parts hbuf).1
      | cons =>
        obtain rfl := Option.mem_some_iff.mp hr
        exact (bytesAt_parts (bytesAt_parts hbuf).1).1
    obtain ⟨r, rs', rfl⟩ := List.exists_cons_of_length_pos h.length_ge.2
    rw [(lies_iff.mp (hfirst r rfl)).1]
    exact hcovers r rfl
  have hsmall : pktCntOf (bytesAt buf 0 RXDESC_SIZE) < 2 ^ 8 := bits_lt _ 16 8
  exact recvLoop_transfer h 0 0 _ hbuf hlen (by omega) hcnt

def oneByte : RxRecord where
  prxstat := 1 :: List.replicate 9 0 ++ 2 :: List.replicate 13 0
  drvinfo := []
  packet := [0xd4]
  prxstat_length := rfl
  drvinfo_length := by decide
  packet_length := by decide
  packet_ne := by decide
  crc := by decide

/-- The first fragment of a packet, behind eight bytes of driver info. -/
def twoByteFragment : RxRecord where
  prxstat := 2 :: 0 :: 1 :: 4 :: 0 :: 0 :: 0 :: 8 :: List.replicate 16 0
  drvinfo := List.replicate 8 0
  packet := [0x88, 0x42]
  prxstat_length := rfl
  drvinfo_length := by decide
  packet_length := by decide
  packet_ne := by decide
  crc := by decide

def twoBytes : List UInt8 := oneByte.bytes ++ [] ++ (twoByteFragment.bytes ++ [])

def twoBuf : Mem := fun i => twoBytes.getD i.toNat 0

def freshFrame : RecvFrame where
  mem := fun _ => 0
  len := 0
  rxHead := 0
  rxData := 0
  rxTail := 0
  rxEnd := 0

def freshSupply : ℕ → Supply := fun _ => { recvframe := some freshFrame, skb := some (0, fun _ => 0), clone := false }

theorem recvbuf2recvframe_transfer_two :
    List.Forall₂ Carries (recvbuf2recvframe freshSupply .USB_RX_AGG_DISABLE twoBuf twoBytes.length).1
        (served freshSupply 0 [oneByte, twoByteFragment]) ∧
      ((recvbuf2recvframe freshSupply .USB_RX_AGG_DISABLE twoBuf twoBytes.length).2 = .finished ↔
        served freshSupply 0 [oneByte, twoByteFragment] = [oneByte, twoByteFragment]) :=
  recvbuf2recvframe_transfer freshSupply .USB_RX_AGG_DISABLE twoBuf _ twoBytes
    (.cons oneByte (by decide) (.last twoByteFragment (by decide)))
    (bytesAt_eq _ fun k _ => by rw [twoBuf, zero_add, Int.toNat_natCast]) (by decide)
    (fun r hr => by
      obtain rfl := Option.mem_some_iff.mp hr
      exact .inr (.inl (by decide)))

/-! ## Any contents -/

/-- Records that lie in the transfer one behind the other, from a position to another. -/
inductive Carved (mode : UsbRxAggMode) (buf : Mem) (len : ℕ) : ℕ → List RxRecord → ℕ → Prop
  | nil (pos : ℕ) : Carved mode buf len pos [] pos
  | cons {pos stop : ℕ} {r : RxRecord} {rs : List RxRecord} (hlies : Lies buf pos r) (hfit : pos + r.bytes.length ≤ len)
      (hrest : Carved mode buf len (pos + rounded mode r.bytes.length) rs stop) : Carved mode buf len pos (r :: rs) stop

variable (supply mode buf) in
theorem recvLoop_carved {len : ℕ} (hlen : len < 2 ^ 31) (k pos pktCnt : ℕ) (hpos : pos ≤ len) :
    ∃ rs stop, Carved mode buf len pos rs stop ∧
      List.Forall₂ Carries (recvLoop supply mode buf k pos (len - pos) pktCnt).1 rs ∧
      ((recvLoop supply mode buf k pos (len - pos) pktCnt).2 = .finished → len ≤ stop ∨ ∃ r ∈ rs.getLast?, r.pktCnt = 0) ∧
      ((recvLoop supply mode buf k pos (len - pos) pktCnt).2 ≠ .finished →
        ∀ r, Lies buf stop r → stop + r.bytes.length ≤ len → ¬ Served (supply (k + rs.length)) r) := by
  induction hleft : len - pos using Nat.strong_induction_on generalizing k pos pktCnt with
  | _ left ih =>
    by_cases hrecord : ∃ r, Lies buf pos r ∧ pos + r.bytes.length ≤ len
    swap
    · obtain ⟨stop, hstop, herror⟩ := recvPacket_none (supply k) mode (show (0 : ℤ) ≤ len - pos by omega) (by omega)
        fun (h : ∃ r, Lies buf pos r ∧ (r.bytes.length : ℤ) ≤ len - pos) => h.elim fun r hr => hrecord ⟨r, hr.1, by omega⟩
      rw [recvLoop_error herror]
      exact ⟨[], pos, .nil pos, .nil, fun h => absurd h hstop, fun _ r hr hfit => absurd ⟨r, hr, hfit⟩ hrecord⟩
    obtain ⟨r, hr, hfit⟩ := hrecord
    have hpacket := recvPacket_lies (supply k) mode hr (show (r.bytes.length : ℤ) ≤ len - pos by omega) (by omega)
    have hlong := r.bytes_length_ge
    have hround := le_rounded mode r.bytes.length
    by_cases hs : Served (supply k) r
    swap
    · rw [if_neg hs] at hpacket
      obtain ⟨stop, hstop, herror⟩ := hpacket
      rw [recvLoop_error herror]
      refine ⟨[], pos, .nil pos, .nil, fun h => absurd h hstop, fun _ r' hr' _ => ?_⟩
      rw [← hr.unique hr']
      exact hs
    rw [if_pos hs] at hpacket
    obtain ⟨f, hf, hcarries⟩ := hpacket
    rw [recvLoop_ok hf]
    split_ifs with hgo
    · have hnext : (pos : ℤ) + rounded mode r.bytes.length = (pos + rounded mode r.bytes.length : ℕ) := by
        push_cast
        ring
      have hrest : (len : ℤ) - pos - rounded mode r.bytes.length = len - (pos + rounded mode r.bytes.length : ℕ) := by
        push_cast
        ring
      obtain ⟨hleft', -⟩ := hgo
      rw [hrest, hnext]
      rw [hrest] at hleft'
      obtain ⟨rs, stop, hcarved, hall, hfinished, herror⟩ := ih (len - (pos + rounded mode r.bytes.length)) (by omega)
        (k + 1) (pos + rounded mode r.bytes.length)
        (nextCnt (bytesAt buf pos RXDESC_SIZE) (len - (pos + rounded mode r.bytes.length : ℕ)) pktCnt) (by omega) rfl
      refine ⟨r :: rs, stop, .cons hr hfit hcarved, .cons hcarries hall, fun h => ?_, fun h r' hr' hfit' => ?_⟩
      · obtain hend | ⟨r', hr', hcnt⟩ := hfinished h
        · exact .inl hend
        · refine .inr ⟨r', ?_, hcnt⟩
          rw [Option.mem_def, List.getLast?_cons, Option.mem_def.mp hr']
          rfl
      · have hs' := herror h r' hr' hfit'
        rwa [List.length_cons, Nat.add_comm rs.length 1, ← Nat.add_assoc]
    · refine ⟨[r], pos + rounded mode r.bytes.length, .cons hr hfit (.nil _), .cons hcarries .nil, fun _ => ?_,
        fun h => absurd rfl h⟩
      by_cases hend : len ≤ pos + rounded mode r.bytes.length
      · exact .inl hend
      · refine .inr ⟨r, rfl, ?_⟩
        have hzero : nextCnt (bytesAt buf pos RXDESC_SIZE) ((len : ℤ) - pos - rounded mode r.bytes.length) pktCnt = 0 := by
          omega
        rw [nextCnt, (lies_iff.mp hr).1] at hzero
        split_ifs at hzero with hread
        · exact hzero
        · omega

/-- **Whatever a transfer holds, the frames handed on are well formed and carry packets that lie in it, one behind the
other; the loop goes on as far as there are such packets, memory for them and a packet count.** -/
theorem recvbuf2recvframe_carved (supply : ℕ → Supply) (mode : UsbRxAggMode) (buf : Mem) (len : ℕ)
    (hlen : len ≤ MAX_RECVBUF_SZ) : ∃ rs stop, Carved mode buf len 0 rs stop ∧
      List.Forall₂ Carries (recvbuf2recvframe supply mode buf len).1 rs ∧
      ((recvbuf2recvframe supply mode buf len).2 = .finished → len ≤ stop ∨ ∃ r ∈ rs.getLast?, r.pktCnt = 0) ∧
      ((recvbuf2recvframe supply mode buf len).2 ≠ .finished →
        ∀ r, Lies buf stop r → stop + r.bytes.length ≤ len → ¬ Served (supply rs.length) r) := by
  have hsmall : len < 2 ^ 31 := lt_of_le_of_lt hlen (by decide)
  have h := recvLoop_carved supply mode buf hsmall 0 0
    (pktCntOf (bytesAt buf 0 RXDESC_SIZE)) (Nat.zero_le _)
  simp only [Nat.cast_zero, sub_zero, Nat.zero_add] at h
  exact h

theorem recvbuf2recvframe_carved_cut : ∃ rs stop, Carved .USB_RX_AGG_DISABLE twoBuf 50 0 rs stop ∧
      List.Forall₂ Carries (recvbuf2recvframe freshSupply .USB_RX_AGG_DISABLE twoBuf 50).1 rs ∧
      ((recvbuf2recvframe freshSupply .USB_RX_AGG_DISABLE twoBuf 50).2 = .finished →
        50 ≤ stop ∨ ∃ r ∈ rs.getLast?, r.pktCnt = 0) ∧
      ((recvbuf2recvframe freshSupply .USB_RX_AGG_DISABLE twoBuf 50).2 ≠ .finished →
        ∀ r, Lies twoBuf stop r → stop + r.bytes.length ≤ 50 → ¬ Served (freshSupply rs.length) r) :=
  recvbuf2recvframe_carved freshSupply .USB_RX_AGG_DISABLE twoBuf 50 (by decide)

end Transfers

end RecvBuf

end Rtl8723au
