import Rtl8723au.Ieee80211.ElementsAt
import Rtl8723au.Library.Regions
import Rtl8723au.Recv.EthHdr
import Rtl8723au.Recv.Pool
import Rtl8723au.Security.SwDecrypt

/-! `amsdu_to_msdu` of `core/rtw_recv.c`: the body of a received frame is cut into subframes, a `sub_skb` is allocated for
each, and all of them are handed to the network as Ethernet frames before the received frame is freed. -/
namespace Rtl8723au.Amsdu
open AccessM Regions Security
set_option autoImplicit false

def MAX_SUBFRAME_COUNT : ℕ := 64
def ETH_ALEN : ℕ := 6
def ETH_P_AARP : ℕ := 0x80F3
def ETH_P_IPX : ℕ := 0x8137

/-- Where the bytes of a `sub_skb` are: in the body of the received frame, or in a buffer of its own. -/
inductive SkbMem
  | body
  | skb (i : ℕ)
  deriving DecidableEq

/-- Computations on the body, counted from `rx_data`, and on the buffers, counted from where `dev_alloc_skb` puts the data. -/
abbrev AmsduM := R SkbMem

structure SubSkb where
  mem : SkbMem
  data : ℤ
  len : ℕ

/-- What becomes of an allocation: `dev_alloc_skb` succeeds, or `skb_clone` does in its place, or neither. -/
inductive SkbAlloc
  | copied | cloned | failed
  deriving DecidableEq

/-- `RTW_GET_BE16`. -/
def getBe16 (r : SkbMem) (x : ℤ) : AmsduM ℕ := (fun l => 256 * (l.getD 0 0).toNat + (l.getD 1 0).toNat) <$> load r x 2

/-! ## The parse loop -/

/-- The `sub_skb` with number `i`, for `n` bytes of the body. -/
def newSubSkb (alloc : SkbAlloc) (i : ℕ) (pdata : ℤ) (n : ℕ) : AmsduM (Option SubSkb) :=
  match alloc with
  | .copied => do
    memcpy (.skb i) 12 .body pdata n
    pure (some ⟨.skb i, 12, n⟩)
  | .cloned => pure (some ⟨.body, pdata, n⟩)
  | .failed => pure none

def paddingLen (n : ℕ) : ℕ :=
  let paddingLen := 4 - (n + ETH_HLEN) % 4
  if paddingLen = 4 then 0 else paddingLen

/-- How the loop is left: at its end or with a `break`, with `goto exit`, or not in the passes that were allowed. -/
inductive Leave
  | finished | exit | fuel
  deriving DecidableEq

structure Parsed where
  leave : Leave
  subframes : List SubSkb

/-- The end of a pass, with `n` bytes of a subframe passed; `next` is the loop from there on. -/
def passPadding (next : ℤ → ℤ → List SubSkb → AmsduM Parsed) (n : ℕ) (aLen pdata : ℤ) (subframes : List SubSkb) :
    AmsduM Parsed :=
  if subframes.length ≥ MAX_SUBFRAME_COUNT then pure ⟨.finished, subframes⟩
  else if aLen = 0 then next aLen pdata subframes
  else if aLen < paddingLen n then pure ⟨.exit, subframes⟩
  else next (aLen - paddingLen n) (pdata + paddingLen n) subframes

/-- The loop, from a state of `a_len`, `pdata` and `subframes` on. -/
def parse (alloc : ℕ → SkbAlloc) : ℕ → ℤ → ℤ → List SubSkb → AmsduM Parsed
  | 0, _, _, subframes => pure ⟨.fuel, subframes⟩
  | fuel + 1, aLen, pdata, subframes =>
    if aLen > ETH_HLEN then do
      let n ← getBe16 .body (pdata + 12)
      if aLen < ETH_HLEN + n then pure ⟨.exit, subframes⟩
      else do
        let subSkb ← newSubSkb (alloc subframes.length) subframes.length (pdata + ETH_HLEN) n
        match subSkb with
        | none => pure ⟨.finished, subframes⟩
        | some skb =>
          passPadding (parse alloc fuel) n (aLen - ETH_HLEN - n) (pdata + ETH_HLEN + n) (subframes ++ [skb])
    else pure ⟨.finished, subframes⟩

/-! ## The Ethernet frames -/

def readSnap (skb : SubSkb) (ethType : ℕ) : AmsduM Bool :=
  if skb.len ≥ 8 then do
    let header ← load skb.mem skb.data SNAP_SIZE
    if header = rtwRfc1042Header.toList ∧ ethType ≠ ETH_P_AARP ∧ ethType ≠ ETH_P_IPX then pure true
    else do
      let header ← load skb.mem skb.data SNAP_SIZE
      pure (header == rtwBridgeTunnelHeader.toList)
  else pure false

/-- `htons`, in memory. -/
def htons (n : ℕ) : List UInt8 := [UInt8.ofNat (n / 256), UInt8.ofNat n]

/-- The headers of a `sub_skb` are converted into an Ethernet header. -/
def toEthernet (a : RxPktAttrib) (skb : SubSkb) : AmsduM SubSkb := do
  let ethType ← getBe16 skb.mem (skb.data + 6)
  let snap ← readSnap skb ethType
  if snap then do
    store skb.mem (skb.data + SNAP_SIZE - ETH_ALEN) a.src.toList
    store skb.mem (skb.data + SNAP_SIZE - ETH_ALEN - ETH_ALEN) a.dst.toList
    pure { skb with data := skb.data + SNAP_SIZE - ETH_ALEN - ETH_ALEN, len := skb.len - SNAP_SIZE + ETH_ALEN + ETH_ALEN }
  else do
    store skb.mem (skb.data - 2) (htons skb.len)
    store skb.mem (skb.data - 2 - ETH_ALEN) a.src.toList
    store skb.mem (skb.data - 2 - ETH_ALEN - ETH_ALEN) a.dst.toList
    pure { skb with data := skb.data - 2 - ETH_ALEN - ETH_ALEN, len := skb.len + 2 + ETH_ALEN + ETH_ALEN }

/-- The calls that give something away: `netif_rx` for the `sub_skb` with number `i`, and `rtw_free_recvframe`. -/
inductive Call
  | netifRx (i : ℕ) (frame : List UInt8)
  | freeRecvframe

/-- The loop over the subframes, the first of which has number `i`. -/
def indicate (a : RxPktAttrib) : ℕ → List SubSkb → AmsduM (List Call)
  | _, [] => pure []
  | i, skb :: rest => do
    let frame ← toEthernet a skb
    let s ← get
    let calls ← indicate a (i + 1) rest
    pure (.netifRx i (bytesAt (s frame.mem) frame.data frame.len) :: calls)

/-- What is done with the body: the subframes there are at `exit`, and the calls. No pass of the loop goes on without adding a
subframe. -/
def bodyToMsdu (alloc : ℕ → SkbAlloc) (a : RxPktAttrib) (len : ℕ) : AmsduM (Parsed × List Call) := do
  let parsed ← parse alloc MAX_SUBFRAME_COUNT (cint len) 0 []
  if parsed.leave = .finished then do
    let calls ← indicate a 0 parsed.subframes
    pure (parsed, calls ++ [.freeRecvframe])
  else pure (parsed, [.freeRecvframe])

def pullHeaders (f : RecvFrame) : RecvFrame :=
  let f := (f.recvframePull f.attrib.hdrlen).2
  if f.attrib.ivLen > 0 then (f.recvframePull f.attrib.ivLen).2 else f

/-- The memory before: the body, and what is in the buffers that will be allocated. -/
def memBefore (body : Mem) (heap : ℕ → Mem) : Regions SkbMem
  | .body => body
  | .skb i => heap i

/-- `amsdu_to_msdu`, with what is in the buffers that it allocates: what it does, and the frames afterwards. It always returns
`_SUCCESS`. -/
def amsduToMsdu (alloc : ℕ → SkbAlloc) (heap : ℕ → Mem) (s : RecvPool) (prframe : FrameId) :
    Outcome (Touch SkbMem) (Regions SkbMem) (Parsed × List Call) × RecvPool :=
  let f := pullHeaders (s.frames prframe)
  let out := (bodyToMsdu alloc f.attrib f.len).run (memBefore f.rxDataMem heap)
  let f := { f.setRxDataMem (out.st .body) with len := 0 }
  (out, (s.setFrame prframe f).rtwFreeRecvframe prframe)

/-! ## Reading -/

def be16At (m : Mem) (x : ℤ) : ℕ := 256 * (m x).toNat + (m (x + 1)).toNat

section
variable {r : SkbMem} {x : ℤ} {s : Regions SkbMem} {P : Touch SkbMem → Prop}

theorem getBe16_val : ((getBe16 r x).run s).val = be16At (s r) x := by
  show 256 * (s r (x + 0)).toNat + (s r (x + 1)).toNat = _
  rw [add_zero]
  rfl

@[simp] theorem getBe16_st : ((getBe16 r x).run s).st = s := rfl

theorem readSnap_st (skb : SubSkb) (ethType : ℕ) : ((readSnap skb ethType).run s).st = s := by
  unfold readSnap
  split
  · rw [bind_st]
    split
    · rfl
    · rfl
  · rfl

/-- The encapsulation of RFC 1042, of any other type, or the one of a bridge tunnel. -/
def HasSnap (payload : List UInt8) : Prop :=
  8 ≤ payload.length ∧ (payload.take 6 = rtwRfc1042Header.toList ∧
    256 * (payload.getD 6 0).toNat + (payload.getD 7 0).toNat ≠ ETH_P_AARP ∧
    256 * (payload.getD 6 0).toNat + (payload.getD 7 0).toNat ≠ ETH_P_IPX ∨
      payload.take 6 = rtwBridgeTunnelHeader.toList)

instance (payload : List UInt8) : Decidable (HasSnap payload) := inferInstanceAs (Decidable (_ ∧ _))

/-! ## Passes of the loop -/

variable {alloc : ℕ → SkbAlloc} {fuel : ℕ} {aLen p : ℤ} {skbs : List SubSkb}

theorem parse_end (h : aLen ≤ ETH_HLEN) : (parse alloc (fuel + 1) aLen p skbs).run s = ⟨⟨.finished, skbs⟩, s, []⟩ := by
  rw [parse, if_neg (not_lt_of_ge h)]
  rfl

theorem parse_exit (hlong : ETH_HLEN < aLen) (h : aLen < ETH_HLEN + be16At (s .body) (p + 12)) :
    (parse alloc (fuel + 1) aLen p skbs).run s = ⟨⟨.exit, skbs⟩, s, ((getBe16 .body (p + 12)).run s).log⟩ := by
  rw [parse, if_pos hlong]
  refine Outcome.ext ?_ ?_ ?_
  · rw [bind_val, getBe16_val, if_pos h]
    rfl
  · rw [bind_st, getBe16_val, if_pos h]
    rfl
  · rw [bind_log, getBe16_val, if_pos h]
    exact List.append_nil _

/-- What is left of a pass when the allocation is done. -/
def afterAlloc (alloc : ℕ → SkbAlloc) (fuel : ℕ) (aLen p : ℤ) (skbs : List SubSkb) (n : ℕ) (skb : Option SubSkb) :
    AmsduM Parsed :=
  match skb with
  | none => pure ⟨.finished, skbs⟩
  | some skb => passPadding (parse alloc fuel) n (aLen - ETH_HLEN - n) (p + ETH_HLEN + n) (skbs ++ [skb])

theorem parse_pass (alloc : ℕ → SkbAlloc) (fuel : ℕ) (skbs : List SubSkb) {n : ℕ} (hlong : ETH_HLEN < aLen)
    (hn : be16At (s .body) (p + 12) = n) (hfits : ETH_HLEN + n ≤ aLen) :
    let o := (newSubSkb (alloc skbs.length) skbs.length (p + ETH_HLEN) n).run s
    let rest := (afterAlloc alloc fuel aLen p skbs n o.val).run o.st
    (parse alloc (fuel + 1) aLen p skbs).run s =
      ⟨rest.val, rest.st, ((getBe16 .body (p + 12)).run s).log ++ (o.log ++ rest.log)⟩ := by
  rw [parse, if_pos hlong]
  refine Outcome.ext ?_ ?_ ?_
  · rw [bind_val, getBe16_val, hn, if_neg (not_lt_of_ge hfits)]
    rfl
  · rw [bind_st, getBe16_val, hn, if_neg (not_lt_of_ge hfits)]
    rfl
  · rw [bind_log, getBe16_val, hn, if_neg (not_lt_of_ge hfits)]
    rfl

end

end Rtl8723au.Amsdu

/-! What `amsdu_to_msdu` makes of the encoding of a list of MSDUs: one Ethernet frame each, with the payload of the MSDU and
with the addresses of the received frame. -/
namespace Rtl8723au.Amsdu
open Mem AccessM Regions Security Ieee80211
set_option autoImplicit false

/-! ## What it is for -/

/-- An MSDU. -/
structure Msdu where
  da : MacAddr
  sa : MacAddr
  payload : List UInt8
  nonempty : 1 ≤ payload.length
  short : payload.length ≤ 2304

namespace Msdu

def encode (m : Msdu) : List UInt8 := m.da.toList ++ (m.sa.toList ++ (htons m.payload.length ++ m.payload))

def ethernet (m : Msdu) : List UInt8 :=
  m.da.toList ++ (m.sa.toList ++ if HasSnap m.payload then m.payload.drop 6 else htons m.payload.length ++ m.payload)

@[simp] theorem encode_length (m : Msdu) : m.encode.length = 14 + m.payload.length := by
  simp [encode, htons]
  omega

end Msdu

/-- A list of subframes, each but the last padded to a multiple of four. -/
inductive Encodes : List Msdu → List UInt8 → Prop
  | last (m : Msdu) : Encodes [m] m.encode
  | padded {m : Msdu} {ms : List Msdu} {pad l : List UInt8} : pad.length < 4 → 4 ∣ (m.encode ++ pad).length →
      Encodes ms l → Encodes (m :: ms) (m.encode ++ (pad ++ l))

def frames (calls : List Call) : List (List UInt8) := calls.filterMap fun
  | .netifRx _ frame => some frame
  | .freeRecvframe => none

/-! ## One frame -/

/-- The payload of a `sub_skb`. -/
structure Holds (s : Regions SkbMem) (skb : SubSkb) (payload : List UInt8) : Prop where
  len : skb.len = payload.length
  bytes : bytesAt (s skb.mem) skb.data payload.length = payload

section
variable {s : Regions SkbMem} {skb : SubSkb} {payload : List UInt8} {m : Mem} {p : ℤ}

theorem bytesAt_take_drop {n k : ℕ} (hk : k ≤ n) (h : bytesAt m p n = payload) :
    bytesAt m p k = payload.take k ∧ bytesAt m (p + k) (n - k) = payload.drop k := by
  have hsplit := bytesAt_add (m := m) (p := p) k (n - k)
  rw [Nat.add_sub_cancel' hk, h] at hsplit
  rw [hsplit]
  constructor
  · exact (List.take_left' (bytesAt_length k)).symm
  · exact (List.drop_left' (bytesAt_length k)).symm

theorem bytesAt_push {n k : ℕ} {block : List UInt8} (hblock : block.length = k) (h : bytesAt m p n = payload) :
    bytesAt (putBytes m (p - k) block) (p - k) (n + k) = block ++ payload := by
  subst hblock
  have hpayload : n = payload.length := by rw [← h, bytesAt_length]
  subst hpayload
  rw [bytesAt_eq_append]
  refine ⟨Nat.add_comm _ _, ?_, ?_⟩
  · have hput := bytesAt_putBytes (m := m) (p := p - block.length) [] block []
    simpa using hput
  · rw [sub_add_cancel]
    refine (bytesAt_congr _ fun j _ => ?_).trans h
    exact putBytes_outside _ _ _ _ (.inr (by omega))

theorem be16At_payload {k : ℕ} (hk : k + 1 < payload.length) (h : bytesAt m p payload.length = payload) :
    be16At m (p + k) = 256 * (payload.getD k 0).toNat + (payload.getD (k + 1) 0).toNat := by
  have hbyte (j : ℕ) (hj : j < payload.length) : m (p + (j : ℕ)) = payload.getD j 0 := by
    have hget := congrArg (fun l => l.getD j 0) h
    simp only [bytesAt, List.getD_eq_getElem?_getD, List.getElem?_map, List.getElem?_range hj, Option.map_some,
      Option.getD_some] at hget
    rw [hget, List.getD_eq_getElem?_getD]
  unfold be16At
  have hnext := hbyte (k + 1) hk
  rw [Nat.cast_add, Nat.cast_one, ← add_assoc] at hnext
  rw [hbyte k (by omega), hnext]

theorem readSnap_val (h : Holds s skb payload) :
    ((readSnap skb (be16At (s skb.mem) (skb.data + 6))).run s).val = decide (HasSnap payload) := by
  unfold readSnap
  by_cases hlong : 8 ≤ payload.length
  · have hlen : skb.len ≥ 8 := by
      rw [h.len]
      exact hlong
    have htype : be16At (s skb.mem) (skb.data + 6) = 256 * (payload.getD 6 0).toNat + (payload.getD 7 0).toNat :=
      be16At_payload (k := 6) (by omega) h.bytes
    obtain ⟨hhead, -⟩ := bytesAt_take_drop (show 6 ≤ payload.length by omega) h.bytes
    have hload : ((load skb.mem skb.data SNAP_SIZE).run s).val = payload.take 6 := hhead
    rw [if_pos hlen, bind_val, hload, htype]
    by_cases hrfc1042 : payload.take 6 = rtwRfc1042Header.toList ∧
        256 * (payload.getD 6 0).toNat + (payload.getD 7 0).toNat ≠ ETH_P_AARP ∧
          256 * (payload.getD 6 0).toNat + (payload.getD 7 0).toNat ≠ ETH_P_IPX
    · rw [if_pos hrfc1042, pure_val]
      exact (decide_eq_true ⟨hlong, .inl hrfc1042⟩).symm
    · have hload' : ((load skb.mem skb.data SNAP_SIZE).run ((load skb.mem skb.data SNAP_SIZE).run s).st).val =
          payload.take 6 := hhead
      rw [if_neg hrfc1042, bind_val, hload', pure_val, beq_eq_decide]
      congr 1
      rw [eq_iff_iff]
      exact ⟨fun h => ⟨hlong, .inr h⟩, fun h => h.2.resolve_left hrfc1042⟩
  · rw [if_neg (by rw [h.len]; exact hlong), pure_val]
    exact (decide_eq_false fun hsnap => hlong hsnap.1).symm

/-- The Ethernet frame with a payload and with the addresses of the received frame. -/
def ethernetFrom (a : RxPktAttrib) (payload : List UInt8) : List UInt8 :=
  a.dst.toList ++ (a.src.toList ++ if HasSnap payload then payload.drop 6 else htons payload.length ++ payload)

/-- The bytes in front of a `sub_skb` become its headers. -/
theorem toEthernet_run (a : RxPktAttrib) (h : Holds s skb payload) :
    (toEthernet a skb).run s =
      if HasSnap payload then
        ⟨⟨skb.mem, skb.data + SNAP_SIZE - ETH_ALEN - ETH_ALEN, skb.len - SNAP_SIZE + ETH_ALEN + ETH_ALEN⟩,
          Function.update s skb.mem (putBytes (putBytes (s skb.mem) (skb.data + SNAP_SIZE - ETH_ALEN) a.src.toList)
            (skb.data + SNAP_SIZE - ETH_ALEN - ETH_ALEN) a.dst.toList), ((toEthernet a skb).run s).log⟩
      else
        ⟨⟨skb.mem, skb.data - 2 - ETH_ALEN - ETH_ALEN, skb.len + 2 + ETH_ALEN + ETH_ALEN⟩,
          Function.update s skb.mem (putBytes (putBytes (putBytes (s skb.mem) (skb.data - 2) (htons skb.len))
            (skb.data - 2 - ETH_ALEN) a.src.toList) (skb.data - 2 - ETH_ALEN - ETH_ALEN) a.dst.toList),
          ((toEthernet a skb).run s).log⟩ := by
  have hsnap := readSnap_val h
  split
  · rename_i hhas
    refine Outcome.ext ?_ ?_ rfl
    all_goals
      unfold toEthernet
      simp only [bind_val, bind_st, getBe16_val, getBe16_st, readSnap_st, hsnap, hhas, decide_true, if_true, store_st,
        pure_val, pure_st, Function.update_self, Function.update_idem]
  · rename_i hno
    refine Outcome.ext ?_ ?_ rfl
    all_goals
      unfold toEthernet
      simp only [bind_val, bind_st, getBe16_val, getBe16_st, readSnap_st, hsnap, hno, decide_false, Bool.false_eq_true,
        if_false, store_st, pure_val, pure_st, Function.update_self, Function.update_idem]

theorem toEthernet_frame (a : RxPktAttrib) (h : Holds s skb payload) :
    let r := (toEthernet a skb).run s
    bytesAt (r.st r.val.mem) r.val.data r.val.len = ethernetFrom a payload := by
  have hdst : a.dst.toList.length = 6 := by simp
  have hsrc : a.src.toList.length = 6 := by simp
  dsimp only
  rw [toEthernet_run a h, ethernetFrom]
  have hbytes := h.bytes
  rw [← h.len] at hbytes
  split
  · rename_i hsnap
    have hlong : 6 ≤ skb.len := by
      rw [h.len]
      exact (show 6 ≤ 8 by decide).trans hsnap.1
    have hrest := (bytesAt_take_drop hlong hbytes).2
    dsimp only
    rw [Function.update_self]
    exact bytesAt_push hdst (bytesAt_push hsrc hrest)
  · dsimp only
    rw [Function.update_self, h.len]
    exact bytesAt_push hdst (bytesAt_push hsrc (bytesAt_push rfl h.bytes))

/-- Nothing behind the payload is written, and nothing that is more than a header in front of it. -/
theorem toEthernet_outside (a : RxPktAttrib) (h : Holds s skb payload) (r : SkbMem) (x : ℤ)
    (hx : r = skb.mem → x < skb.data - 14 ∨ skb.data + skb.len ≤ x) : ((toEthernet a skb).run s).st r x = s r x := by
  have hdst : a.dst.toList.length = 6 := by simp
  have hsrc : a.src.toList.length = 6 := by simp
  rw [toEthernet_run a h]
  by_cases hr : r = skb.mem
  · subst hr
    have hx := hx rfl
    split
    · rename_i hsnap
      have hlong : 8 ≤ skb.len := by
        rw [h.len]
        exact hsnap.1
      have hplace : skb.data + (SNAP_SIZE : ℤ) - (ETH_ALEN : ℕ) = skb.data := by
        show skb.data + 6 - 6 = _
        omega
      dsimp only
      rw [Function.update_self, hplace, putBytes_outside _ _ _ _ (by rw [hdst]; show _ < _ - (6 : ℤ) ∨ _ - (6 : ℤ) + _ ≤ _; omega),
        putBytes_outside _ _ _ _ (by rw [hsrc]; omega)]
    · dsimp only
      have hhtons : (htons skb.len).length = 2 := rfl
      rw [Function.update_self, putBytes_outside _ _ _ _ ?_, putBytes_outside _ _ _ _ ?_, putBytes_outside _ _ _ _ ?_]
      · rw [hhtons]
        omega
      · rw [hsrc]
        show _ < _ - 2 - (6 : ℤ) ∨ _ - 2 - (6 : ℤ) + _ ≤ _
        omega
      · rw [hdst]
        show _ < _ - 2 - (6 : ℤ) - 6 ∨ _ - 2 - (6 : ℤ) - 6 + _ ≤ _
        omega
  · split
    · exact congrFun (Function.update_of_ne hr _ _) x
    · exact congrFun (Function.update_of_ne hr _ _) x

end

/-! ## All frames -/

/-- A `sub_skb` that is converted first leaves the bytes of another alone. -/
def Apart (skb skb' : SubSkb) : Prop := skb.mem = skb'.mem → skb.data + skb.len ≤ skb'.data

theorem indicate_frames (a : RxPktAttrib) {s : Regions SkbMem} {skbs : List SubSkb} {payloads : List (List UInt8)}
    (hholds : List.Forall₂ (Holds s) skbs payloads) (hapart : skbs.Pairwise Apart) (i : ℕ) :
    frames ((indicate a i skbs).run s).val = payloads.map (ethernetFrom a) := by
  induction skbs generalizing s payloads i with
  | nil =>
    cases hholds
    rfl
  | cons skb skbs ih =>
    obtain ⟨payload, payloads, h, hrest, rfl⟩ := List.forall₂_cons_left_iff.mp hholds
    obtain ⟨hfirst, hapart⟩ := List.pairwise_cons.mp hapart
    have hframe := toEthernet_frame a h
    have hholds' : List.Forall₂ (Holds ((toEthernet a skb).run s).st) skbs payloads := by
      refine ((List.forall₂_and_left _ _).mpr ⟨hfirst, hrest⟩).imp fun skb' payload' h' => ?_
      obtain ⟨hbehind, hlen, hbytes⟩ := h'
      refine ⟨hlen, (bytesAt_congr _ fun k _ => ?_).trans hbytes⟩
      refine toEthernet_outside a h _ _ fun hmem => .inr ?_
      have hplace := hbehind hmem.symm
      omega
    rw [indicate, bind_val, bind_val, bind_val, pure_val, List.map_cons, ← hframe]
    show _ :: frames _ = _
    rw [← ih hholds' hapart (i + 1)]
    rfl

/-! ## The subframes -/

theorem paddingLen_eq {n k : ℕ} (hk : k < 4) (h : 4 ∣ n + ETH_HLEN + k) : k = paddingLen n := by
  unfold paddingLen
  have h : 4 ∣ n + 14 + k := h
  show k = if 4 - (n + 14) % 4 = 4 then 0 else 4 - (n + 14) % 4
  split <;> omega

section
variable {alloc : ℕ → SkbAlloc} {s : Regions SkbMem} {fuel : ℕ} {aLen p : ℤ} {skbs : List SubSkb}

/-- The `sub_skb` for a payload in the body. -/
theorem newSubSkb_holds {c : SkbAlloc} (hc : c ≠ .failed) (i : ℕ) {payload : List UInt8}
    (h : bytesAt (s .body) p payload.length = payload) :
    ∃ skb, ((newSubSkb c i p payload.length).run s).val = some skb ∧
      Holds ((newSubSkb c i p payload.length).run s).st skb payload ∧
        (skb.mem = .body ∧ skb.data = p ∨ skb.mem = .skb i) ∧
          ∀ r, r ≠ .skb i → ((newSubSkb c i p payload.length).run s).st r = s r := by
  cases c with
  | failed => exact absurd rfl hc
  | cloned => exact ⟨_, rfl, ⟨rfl, h⟩, .inl ⟨rfl, rfl⟩, fun _ _ => rfl⟩
  | copied =>
    refine ⟨_, rfl, ⟨rfl, ?_⟩, .inr rfl, fun r hr => Function.update_of_ne hr _ _⟩
    have hst : ((newSubSkb .copied i p payload.length).run s).st (.skb i) =
        putBytes (s (.skb i)) 12 (bytesAt (s .body) p payload.length) := Function.update_self _ _ _
    have hput := bytesAt_putBytes (m := s (.skb i)) (p := 12) [] payload []
    show bytesAt (((newSubSkb .copied i p payload.length).run s).st (.skb i)) 12 _ = _
    rw [hst, h]
    simpa using hput

theorem encode_at {m : Msdu} {body : Mem} (h : bytesAt body p m.encode.length = m.encode) :
    be16At body (p + 12) = m.payload.length ∧ bytesAt body (p + ETH_HLEN) m.payload.length = m.payload := by
  have hda : m.da.toList.length = 6 := by simp
  have hsa : m.sa.toList.length = 6 := by simp
  have hshort := m.short
  rw [Msdu.encode, bytesAt_eq_append, bytesAt_eq_append, bytesAt_eq_append, hda, hsa] at h
  obtain ⟨-, -, -, -, -, hlen, hpayload⟩ := h
  have hplace : p + (6 : ℕ) + (6 : ℕ) = p + 12 := by
    push_cast
    ring
  rw [hplace] at hlen hpayload
  constructor
  · have hlen : bytesAt body (p + 12) 2 = htons m.payload.length := hlen
    rw [bytesAt_two, htons, List.cons.injEq, List.cons.injEq] at hlen
    unfold be16At
    rw [hlen.1, hlen.2.1, UInt8.toNat_ofNat', UInt8.toNat_ofNat']
    omega
  · have hplace : p + 12 + ((htons m.payload.length).length : ℕ) = p + (ETH_HLEN : ℕ) := by
      show p + 12 + ((2 : ℕ) : ℤ) = p + ((14 : ℕ) : ℤ)
      push_cast
      ring
    rwa [hplace] at hpayload

/-- What the loop has built behind a place of the body, when there are `i` subframes already. -/
structure Built (i : ℕ) (p : ℤ) (s t : Regions SkbMem) (ms : List Msdu) (skbs : List SubSkb) : Prop where
  holds : List.Forall₂ (Holds t) skbs (ms.map Msdu.payload)
  apart : skbs.Pairwise Apart
  behind : ∀ skb ∈ skbs, skb.mem = .body ∧ p ≤ skb.data ∨ ∃ j, skb.mem = .skb j ∧ i ≤ j
  body : t .body = s .body
  before : ∀ j < i, t (.skb j) = s (.skb j)

theorem Built.cons {i : ℕ} {p' : ℤ} {t t' : Regions SkbMem} {m : Msdu} {ms : List Msdu} {skb : SubSkb}
    (hholds : Holds t skb m.payload) (hplace : skb.mem = .body ∧ skb.data = p + ETH_HLEN ∨ skb.mem = .skb i)
    (hothers : ∀ r, r ≠ .skb i → t r = s r) (hnext : p + ETH_HLEN + m.payload.length ≤ p')
    (hrest : Built (i + 1) p' t t' ms skbs) : Built i p s t' (m :: ms) (skb :: skbs) := by
  have hsame : t' skb.mem = t skb.mem := by
    rcases hplace with ⟨hmem, -⟩ | hmem
    · rw [hmem, hrest.body]
    · rw [hmem, hrest.before i (Nat.lt_succ_self i)]
  refine ⟨.cons ⟨hholds.len, by rw [hsame]; exact hholds.bytes⟩ hrest.holds, ?_, ?_, ?_, ?_⟩
  · refine List.pairwise_cons.mpr ⟨fun skb' hskb' hmem => ?_, hrest.apart⟩
    rcases hplace with ⟨hbody, hdata⟩ | hown <;> rcases hrest.behind skb' hskb' with ⟨hbody', hbehind⟩ | ⟨j, hown', hj⟩
    · rw [hdata, hholds.len]
      omega
    · rw [hbody, hown'] at hmem
      cases hmem
    · rw [hown, hbody'] at hmem
      cases hmem
    · rw [hown, hown', SkbMem.skb.injEq] at hmem
      omega
  · intro skb' hskb'
    rcases List.mem_cons.mp hskb' with rfl | hskb'
    · rcases hplace with ⟨hbody, hdata⟩ | hown
      · exact .inl ⟨hbody, by rw [hdata]; exact le_add_of_nonneg_right (Nat.cast_nonneg _)⟩
      · exact .inr ⟨i, hown, le_rfl⟩
    · rcases hrest.behind skb' hskb' with ⟨hbody, hbehind⟩ | ⟨j, hown, hj⟩
      · exact .inl ⟨hbody, by omega⟩
      · exact .inr ⟨j, hown, by omega⟩
  · rw [hrest.body, hothers .body (by simp)]
  · intro j hj
    rw [hrest.before j (by omega), hothers (.skb j) fun h => by simp at h; omega]

theorem Built.nil {i : ℕ} {t : Regions SkbMem} : Built i p t t [] [] :=
  ⟨.nil, .nil, fun _ h => absurd h List.not_mem_nil, rfl, fun _ _ => rfl⟩

theorem passPadding_zero (n : ℕ) (hfuel : skbs.length + fuel = MAX_SUBFRAME_COUNT) :
    (passPadding (parse alloc fuel) n 0 p skbs).run s = ⟨⟨.finished, skbs⟩, s, []⟩ := by
  unfold passPadding
  by_cases hfull : skbs.length ≥ MAX_SUBFRAME_COUNT
  · rw [if_pos hfull]
    rfl
  · obtain ⟨fuel, rfl⟩ := Nat.exists_eq_succ_of_ne_zero (show fuel ≠ 0 by omega)
    rw [if_neg hfull, if_pos rfl]
    exact parse_end (Nat.cast_nonneg _)

theorem Encodes.long {ms : List Msdu} {l : List UInt8} (h : Encodes ms l) : 0 < ms.length ∧ 14 < l.length := by
  cases h with
  | last m =>
    have hnonempty := m.nonempty
    rw [m.encode_length]
    exact ⟨Nat.one_pos, by omega⟩
  | @padded m ms pad l _ _ _ =>
    have hnonempty := m.nonempty
    rw [List.length_append, m.encode_length]
    exact ⟨Nat.succ_pos _, by omega⟩

/-- The encoding of a list is cut into its payloads. By induction on the encoding. -/
theorem parse_encodes {ms : List Msdu} {l : List UInt8} (henc : Encodes ms l) (halloc : ∀ k, alloc k ≠ .failed)
    (hfuel : skbs.length + fuel = MAX_SUBFRAME_COUNT) (hroom : ms.length ≤ fuel)
    (h : bytesAt (s .body) p l.length = l) :
    ∃ built, ((parse alloc fuel l.length p skbs).run s).val = ⟨.finished, skbs ++ built⟩ ∧
      Built skbs.length p s ((parse alloc fuel l.length p skbs).run s).st ms built := by
  induction henc generalizing s p skbs fuel with
  | last m =>
    rw [List.length_singleton] at hroom
    obtain ⟨fuel, rfl⟩ := Nat.exists_eq_succ_of_ne_zero (show fuel ≠ 0 by omega)
    obtain ⟨hn, hpayload⟩ := encode_at h
    obtain ⟨skb, hskb, hholds, hplace, hothers⟩ := newSubSkb_holds (halloc skbs.length) skbs.length hpayload
    have hnonempty := m.nonempty
    have hlength := m.encode_length
    have hlong : ((ETH_HLEN : ℕ) : ℤ) < m.encode.length := show ((14 : ℕ) : ℤ) < _ by omega
    have hrun := parse_pass alloc fuel skbs hlong hn (show ((14 : ℕ) : ℤ) + _ ≤ _ by omega)
    have hend : (m.encode.length : ℤ) - ETH_HLEN - m.payload.length = 0 := by
      show (m.encode.length : ℤ) - (14 : ℕ) - _ = 0
      omega
    have hcount : (skbs ++ [skb]).length + fuel = MAX_SUBFRAME_COUNT := by
      rw [List.length_append, List.length_singleton]
      omega
    dsimp only at hrun
    rw [hskb, afterAlloc, hend, passPadding_zero _ hcount] at hrun
    rw [hrun]
    exact ⟨[skb], rfl, .cons hholds hplace hothers le_rfl .nil⟩
  | @padded m ms pad l hpad haligned hrest ih =>
    rw [List.length_cons] at hroom
    obtain ⟨fuel, rfl⟩ := Nat.exists_eq_succ_of_ne_zero (show fuel ≠ 0 by omega)
    rw [bytesAt_eq_append, bytesAt_eq_append] at h
    obtain ⟨-, hfirst, -, -, hbytes⟩ := h
    obtain ⟨hn, hpayload⟩ := encode_at hfirst
    obtain ⟨skb, hskb, hholds, hplace, hothers⟩ := newSubSkb_holds (halloc skbs.length) skbs.length hpayload
    obtain ⟨hmore, hrestLong⟩ := hrest.long
    have hlength := m.encode_length
    have htotal : (m.encode ++ (pad ++ l)).length = m.encode.length + (pad.length + l.length) := by
      rw [List.length_append, List.length_append]
    have hlong : ((ETH_HLEN : ℕ) : ℤ) < (m.encode ++ (pad ++ l)).length := show ((14 : ℕ) : ℤ) < _ by omega
    have hrun := parse_pass alloc fuel skbs hlong hn (show ((14 : ℕ) : ℤ) + _ ≤ _ by omega)
    have hleft : ((m.encode ++ (pad ++ l)).length : ℤ) - ETH_HLEN - m.payload.length = pad.length + l.length := by
      show ((m.encode ++ (pad ++ l)).length : ℤ) - (14 : ℕ) - _ = _
      omega
    have hpadding : pad.length = paddingLen m.payload.length := by
      refine paddingLen_eq hpad ?_
      rw [List.length_append, hlength, Nat.add_comm 14] at haligned
      exact haligned
    have hcount : (skbs ++ [skb]).length + fuel = MAX_SUBFRAME_COUNT := by
      rw [List.length_append, List.length_singleton]
      omega
    have hnext : passPadding (parse alloc fuel) m.payload.length (pad.length + l.length)
        (p + ETH_HLEN + m.payload.length) (skbs ++ [skb]) =
          parse alloc fuel l.length (p + ETH_HLEN + m.payload.length + pad.length) (skbs ++ [skb]) := by
      rw [passPadding, if_neg (by omega), if_neg (by omega), if_neg (by omega), ← hpadding, add_sub_cancel_left]
    dsimp only at hrun
    rw [hskb, afterAlloc, hleft, hnext] at hrun
    have hsource : bytesAt (((newSubSkb (alloc skbs.length) skbs.length (p + ETH_HLEN) m.payload.length).run s).st .body)
        (p + ETH_HLEN + m.payload.length + pad.length) l.length = l := by
      rw [hothers .body (by simp)]
      have hpoint : p + ETH_HLEN + m.payload.length + pad.length = p + m.encode.length + pad.length := by
        rw [hlength]
        push_cast
        show p + 14 + _ + _ = _
        ring
      rw [hpoint]
      exact hbytes
    obtain ⟨built, hval, hbuilt⟩ := ih hcount (by omega) hsource
    rw [hrun]
    refine ⟨skb :: built, ?_, ?_⟩
    · dsimp only
      rw [hval, List.append_assoc]
      rfl
    · rw [List.length_append, List.length_singleton] at hbuilt
      exact .cons hholds hplace hothers (by omega) hbuilt

end

/-! ## The addresses -/

theorem ethernetFrom_eq_iff (a : RxPktAttrib) (m : Msdu) :
    ethernetFrom a m.payload = m.ethernet ↔ m.da = a.dst ∧ m.sa = a.src := by
  have hlength (v w : MacAddr) : v.toList.length = w.toList.length := by simp
  constructor
  · intro h
    obtain ⟨hdst, hrest⟩ := List.append_inj h (hlength _ _)
    obtain ⟨hsrc, -⟩ := List.append_inj hrest (hlength _ _)
    exact ⟨(Vector.toList_inj.mp hdst).symm, (Vector.toList_inj.mp hsrc).symm⟩
  · rintro ⟨hda, hsa⟩
    rw [ethernetFrom, Msdu.ethernet, hda, hsa]

theorem Encodes.length_le {ms : List Msdu} {l : List UInt8} (h : Encodes ms l) : l.length ≤ 2321 * ms.length := by
  induction h with
  | last m =>
    have hshort := m.short
    rw [m.encode_length, List.length_singleton]
    omega
  | @padded m ms pad l hpad _ _ ih =>
    have hshort := m.short
    rw [List.length_append, List.length_append, m.encode_length, List.length_cons]
    omega

theorem frames_append (calls calls' : List Call) : frames (calls ++ calls') = frames calls ++ frames calls' :=
  List.filterMap_append

theorem pullHeaders_attrib (f : RecvFrame) : (pullHeaders f).attrib = f.attrib := by
  have hpull (f : RecvFrame) (sz : ℤ) : (f.recvframePull sz).2.attrib = f.attrib := by
    unfold RecvFrame.recvframePull
    split <;> rfl
  unfold pullHeaders
  dsimp only
  split
  · rw [hpull, hpull]
  · rw [hpull]

theorem amsdu_frames (alloc : ℕ → SkbAlloc) (heap : ℕ → Mem) (s : RecvPool) (prframe : FrameId) {ms : List Msdu}
    {l : List UInt8} (halloc : ∀ k, alloc k ≠ .failed) (hcount : ms.length ≤ MAX_SUBFRAME_COUNT) (henc : Encodes ms l)
    (hlen : (pullHeaders (s.frames prframe)).len = l.length)
    (hbody : bytesAt (pullHeaders (s.frames prframe)).rxDataMem 0 l.length = l) :
    frames (amsduToMsdu alloc heap s prframe).1.val.2 =
      ms.map fun m => ethernetFrom (s.frames prframe).attrib m.payload := by
  have hlong := henc.length_le
  have hcount' : ms.length ≤ 64 := hcount
  have hlen' : cint ((pullHeaders (s.frames prframe)).len : ℤ) = l.length := by
    rw [hlen]
    exact cint_of_small _ ⟨by omega, by omega⟩
  have hnone : ([] : List SubSkb).length + MAX_SUBFRAME_COUNT = MAX_SUBFRAME_COUNT := Nat.zero_add _
  have hsource : bytesAt (memBefore (pullHeaders (s.frames prframe)).rxDataMem heap .body) 0 l.length = l := hbody
  obtain ⟨built, hval, hbuilt⟩ := parse_encodes henc halloc hnone hcount hsource
  rw [List.nil_append] at hval
  rw [amsduToMsdu]
  dsimp only
  rw [bodyToMsdu, hlen', bind_val, hval, if_pos rfl, bind_val, pure_val, frames_append,
    indicate_frames _ hbuilt.holds hbuilt.apart, pullHeaders_attrib, List.map_map]
  exact List.append_nil _

/-- **The decoded frames are the MSDUs exactly when these have the addresses of the received frame.** -/
theorem amsdu_decodes_iff (alloc : ℕ → SkbAlloc) (heap : ℕ → Mem) (s : RecvPool) (prframe : FrameId) (ms : List Msdu)
    (l : List UInt8) (halloc : ∀ k, alloc k ≠ .failed) (hcount : ms.length ≤ MAX_SUBFRAME_COUNT) (henc : Encodes ms l)
    (hlen : (pullHeaders (s.frames prframe)).len = l.length)
    (hbody : bytesAt (pullHeaders (s.frames prframe)).rxDataMem 0 l.length = l) :
    frames (amsduToMsdu alloc heap s prframe).1.val.2 = ms.map Msdu.ethernet ↔
      ∀ m ∈ ms, m.da = (s.frames prframe).attrib.dst ∧ m.sa = (s.frames prframe).attrib.src := by
  rw [amsdu_frames alloc heap s prframe halloc hcount henc hlen hbody, List.map_inj_left]
  exact forall₂_congr fun m _ => ethernetFrom_eq_iff _ m

def stationMac : MacAddr := ⟨#[2, 0, 0, 0, 0, 1], by decide⟩
def senderMac (b : UInt8) : MacAddr := #v[2, 0, 0, 0, 1, b]

/-- An MSDU behind a header of RFC 1042 and a short one. -/
def snapMsdu : Msdu := ⟨stationMac, senderMac 0, [0xaa, 0xaa, 3, 0, 0, 0, 8, 0, 0x45], by decide, by decide⟩
def shortMsdu (b : UInt8) : Msdu := ⟨stationMac, senderMac b, [0x42], by decide, by decide⟩

def twoMsdusBody (b : UInt8) : List UInt8 := snapMsdu.encode ++ ([0] ++ (shortMsdu b).encode)

theorem twoMsdus_encodes (b : UInt8) : Encodes [snapMsdu, shortMsdu b] (twoMsdusBody b) :=
  .padded (by decide) (by decide) (.last (shortMsdu b))

/-- A received frame with a header of 26 bytes in front of a body. -/
def poolWith (body : List UInt8) : RecvPool where
  frames _ :=
    { attrib := { amsdu := true, qos := true, hdrlen := 26, dst := stationMac, src := senderMac 0 }
      mem := fun x => body.getD (x - 26).toNat 0
      len := 26 + body.length
      rxHead := 0
      rxData := 0
      rxTail := 26 + body.length
      rxEnd := 2048 }
  queue _ := []
  freeRecvframeCnt := 0

theorem amsdu_decodes_iff_oneSender :
    frames (amsduToMsdu (fun _ => .copied) (fun _ _ => 0) (poolWith (twoMsdusBody 0)) 0).1.val.2 =
        [snapMsdu, shortMsdu 0].map Msdu.ethernet ↔
      ∀ m ∈ [snapMsdu, shortMsdu 0], m.da = stationMac ∧ m.sa = senderMac 0 :=
  amsdu_decodes_iff (fun _ => .copied) (fun _ _ => 0) (poolWith (twoMsdusBody 0)) 0 [snapMsdu, shortMsdu 0] (twoMsdusBody 0)
    (fun _ => by decide) (by decide) (twoMsdus_encodes 0) (by decide) (by decide +kernel)

/-- The MSDU of another sender comes out with the address of the first. -/
theorem amsdu_decodes_twoSenders :
    (Encodes [snapMsdu, shortMsdu 1] (twoMsdusBody 1) ∧
      (pullHeaders ((poolWith (twoMsdusBody 1)).frames 0)).len = (twoMsdusBody 1).length ∧
      bytesAt (pullHeaders ((poolWith (twoMsdusBody 1)).frames 0)).rxDataMem 0 (twoMsdusBody 1).length = twoMsdusBody 1) ∧
      frames (amsduToMsdu (fun _ => .copied) (fun _ _ => 0) (poolWith (twoMsdusBody 1)) 0).1.val.2 ≠
        [snapMsdu, shortMsdu 1].map Msdu.ethernet :=
  ⟨⟨twoMsdus_encodes 1, by decide, by decide +kernel⟩, by decide +kernel⟩

end Rtl8723au.Amsdu
