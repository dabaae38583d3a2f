import Rtl8723au.Include.RecvFrame
import Rtl8723au.Include.Wifi
import Rtl8723au.Security.Aes

/-! CCMP in software, from `core/rtw_security.c`: the header blocks, `aes_cipher` and
`aes_decipher`. Both routines repeat the same three stretches of code, which are
`calculateMic`, `cryptPayload` and `encryptMic` here, run on the frame or on the copy. -/
namespace Rtl8723au.Security
open Ccm Mem Wifi
set_option autoImplicit false

def MAX_MSG_SIZE : ℕ := 2048

abbrev PnVector := Vector UInt8 6

/-- A `uint` used as a subscript. -/
def uidx (n : ℕ) : ℤ := ((n % 2 ^ 32 : ℕ) : ℤ)

theorem uidx_of_lt (n : ℕ) (h : n < 2 ^ 32) : uidx n = n := by
  rw [uidx, Nat.mod_eq_of_lt h]

/-! ## The blocks built from the header -/

def readPnVector (hdrlen : ℕ) : M PnVector := do
  let p0 ← read (uidx hdrlen)
  let p1 ← read (uidx (hdrlen + 1))
  let p2 ← read (uidx (hdrlen + 4))
  let p3 ← read (uidx (hdrlen + 5))
  let p4 ← read (uidx (hdrlen + 6))
  let p5 ← read (uidx (hdrlen + 7))
  pure #v[p0, p1, p2, p3, p4, p5]

/-- The second byte of the IV and counter blocks: the TID, or zero without a QoS field. -/
def qosTc (qcExists a4Exists : Bool) : M UInt8 :=
  if qcExists then
    if a4Exists then (· &&& 0x0f) <$> read 30 else (· &&& 0x0f) <$> read 24
  else pure 0x00

def constructMicIv (qcExists a4Exists : Bool) (payloadLength : ℕ) (pn : PnVector) : M Block := do
  let tc ← qosTc qcExists a4Exists
  let a2 ← readVec 10 6
  pure #v[0x59, tc, a2[0], a2[1], a2[2], a2[3], a2[4], a2[5], pn[5], pn[4], pn[3], pn[2], pn[1], pn[0],
    UInt8.ofNat (payloadLength / 256), UInt8.ofNat (payloadLength % 256)]

def constructMicHeader1 (headerLength : ℕ) : M Block := do
  let b0 ← read 0
  let b1 ← read 1
  let a ← readVec 4 12
  pure #v[UInt8.ofInt (((headerLength : ℤ) - 2).tdiv 256), UInt8.ofInt (((headerLength : ℤ) - 2).tmod 256),
    b0 &&& 0xcf, b1 &&& 0xc7,
    a[0], a[1], a[2], a[3], a[4], a[5], a[6], a[7], a[8], a[9], a[10], a[11]]

/-- What `construct_mic_header2` writes from byte 8 on: the fourth address and the QoS field. -/
def micHeader2Tail (a4Exists qcExists : Bool) : M (Vector UInt8 8) :=
  if a4Exists then do
    let a4 ← readVec 24 6
    if qcExists then
      let q0 ← read 30
      let q1 ← read 31
      pure #v[a4[0], a4[1], a4[2], a4[3], a4[4], a4[5], q0 &&& 0x0f, q1 &&& 0x00]
    else pure #v[a4[0], a4[1], a4[2], a4[3], a4[4], a4[5], 0x00, 0x00]
  else if qcExists then do
    let q0 ← read 24
    let q1 ← read 25
    pure #v[q0 &&& 0x0f, q1 &&& 0x00, 0x00, 0x00, 0x00, 0x00, 0x00, 0x00]
  else pure (Vector.replicate 8 0x00)

def constructMicHeader2 (a4Exists qcExists : Bool) : M Block := do
  let a3 ← readVec 16 6
  let t ← micHeader2Tail a4Exists qcExists
  -- bytes 6 and 7 are the constant zero: the sequence control field is not read
  pure #v[a3[0], a3[1], a3[2], a3[3], a3[4], a3[5], 0x00, 0x00, t[0], t[1], t[2], t[3], t[4], t[5], t[6], t[7]]

def constructCtrPreload (a4Exists qcExists : Bool) (pn : PnVector) (c : ℕ) : M Block := do
  let tc ← qosTc qcExists a4Exists
  let a2 ← readVec 10 6
  pure #v[0x01, tc, a2[0], a2[1], a2[2], a2[3], a2[4], a2[5], pn[5], pn[4], pn[3], pn[2], pn[1], pn[0],
    UInt8.ofNat (c / 256), UInt8.ofNat (c % 256)]

def bitwiseXor (ina inb : Block) : Block := xorBlock ina inb

/-! ## The three header blocks of a three-address frame -/

theorem constructMicIv_three (qc : Bool) (p : ℕ) (pn : PnVector) (m : Mem) :
    ((constructMicIv qc false p pn).run m).val =
      #v[0x59, if qc then m 24 &&& 0x0f else 0x00, m 10, m 11, m 12, m 13, m 14, m 15,
        pn[5], pn[4], pn[3], pn[2], pn[1], pn[0], UInt8.ofNat (p / 256), UInt8.ofNat (p % 256)] := by
  cases qc <;> rfl

theorem constructMicHeader1_eq (h : ℕ) (m : Mem) : ((constructMicHeader1 h).run m).val =
    #v[UInt8.ofInt (((h : ℤ) - 2).tdiv 256), UInt8.ofInt (((h : ℤ) - 2).tmod 256),
      m 0 &&& 0xcf, m 1 &&& 0xc7, m 4, m 5, m 6, m 7, m 8, m 9, m 10, m 11, m 12, m 13, m 14, m 15] := by
  rw [constructMicHeader1, AccessM.bind_val, read_val, read_st, AccessM.bind_val, read_val, read_st, AccessM.bind_val,
    readVec_val]
  simp only [Vector.getElem_ofFn]
  rfl

theorem constructMicHeader2_three (qc : Bool) (m : Mem) :
    ((constructMicHeader2 false qc).run m).val =
      #v[m 16, m 17, m 18, m 19, m 20, m 21, 0x00, 0x00, if qc then m 24 &&& 0x0f else 0x00,
        if qc then m 25 &&& 0x00 else 0x00, 0x00, 0x00, 0x00, 0x00, 0x00, 0x00] := by
  cases qc <;> rfl

/-! ## The frame's shape -/

def a4Exists (hdrlen : ℕ) : Bool := !(hdrlen == WLAN_HDR_A3_LEN || hdrlen == WLAN_HDR_A3_QOS_LEN)

/-- The frame types both routines take for QoS data. `GetFrameType` keeps two bits, so the three
`CFACK` comparisons are never true. -/
def qcExists (fc : ℕ) : Bool :=
  let frtype := getFrameType fc
  let frsubtype := getFrameSubType fc >>> 4
  if frtype == WIFI_DATA_CFACK || frtype == WIFI_DATA_CFPOLL || frtype == WIFI_DATA_CFACKPOLL then true
  else frsubtype == 0x08 || frsubtype == 0x09 || frsubtype == 0x0a || frsubtype == 0x0b

/-- The header length the routines go on with. -/
def adjustHdrlen (hdrlen fc : ℕ) : ℕ :=
  if qcExists fc && hdrlen != WLAN_HDR_A3_QOS_LEN then hdrlen + 2 else hdrlen

/-! ## The three shared stretches -/

section Stretches
variable (key : Skey)

def micHeader (qc a4 : Bool) (hdrlen p : ℕ) (pn : PnVector) : M (Block × Block × Block) := do
  let micIv ← constructMicIv qc a4 p pn
  let micHeader1 ← constructMicHeader1 hdrlen
  let micHeader2 ← constructMicHeader2 a4 qc
  pure (micIv, micHeader1, micHeader2)

/-- `Calculate MIC` and `Insert MIC into payload` over `p` payload bytes. -/
def calculateMic (hdrlen p : ℕ) (header : Block × Block × Block) : M Unit := do
  let (micIv, micHeader1, micHeader2) := header
  let aesOut := aes128k128d key micIv
  let aesOut := aes128k128d key (bitwiseXor aesOut micHeader1)
  let aesOut := aes128k128d key (bitwiseXor aesOut micHeader2)
  let aesOut ← AccessM.loopAcc (fun i aesOut => do
    let b ← readVec (uidx (hdrlen + 8 + 16 * i)) 16
    pure (aes128k128d key (bitwiseXor aesOut b))) aesOut (p / 16)
  let mic ← if p % 16 > 0 then do
      let paddedBuffer ← readPadded (fun j => uidx (hdrlen + 8 + 16 * (p / 16) + j)) (p % 16) 16
      pure (aes128k128d key (bitwiseXor aesOut paddedBuffer))
    else pure aesOut
  writeLoop (fun j => uidx (hdrlen + 8 + p + j)) (fun j => mic[j % 16]) 8

/-- The payload under the counter blocks from one on, in place. -/
def cryptPayload (qc a4 : Bool) (pn : PnVector) (hdrlen p : ℕ) : M Unit := do
  AccessM.loop (fun i => do
    let ctrPreload ← constructCtrPreload a4 qc pn (i + 1)
    let b ← readVec (uidx (hdrlen + 8 + 16 * i)) 16
    let chainBuffer := bitwiseXor (aes128k128d key ctrPreload) b
    writeLoop (fun j => uidx (hdrlen + 8 + 16 * i + j)) (fun j => chainBuffer[j % 16]) 16) (p / 16)
  if p % 16 > 0 then
    let ctrPreload ← constructCtrPreload a4 qc pn (p / 16 + 1)
    let paddedBuffer ← readPadded (fun j => uidx (hdrlen + 8 + 16 * (p / 16) + j)) (p % 16) 16
    let chainBuffer := bitwiseXor (aes128k128d key ctrPreload) paddedBuffer
    writeLoop (fun j => uidx (hdrlen + 8 + 16 * (p / 16) + j)) (fun j => chainBuffer[j % 16]) (p % 16)
  else pure ()

/-- `Encrypt the MIC` behind `p` payload bytes. -/
def encryptMic (qc a4 : Bool) (pn : PnVector) (hdrlen p : ℕ) : M Unit := do
  let ctrPreload ← constructCtrPreload a4 qc pn 0
  let paddedBuffer ← readPadded (fun j => uidx (j + hdrlen + 8 + p)) 8 16
  let chainBuffer := bitwiseXor (aes128k128d key ctrPreload) paddedBuffer
  writeLoop (fun j => uidx (hdrlen + 8 + p + j)) (fun j => chainBuffer[j % 16]) 8

/-! ## The two routines -/

def aesCipher (hdrlen plen : ℕ) : M Unit := do
  let fc ← readLe16 0
  let a4 := a4Exists hdrlen
  let qc := qcExists fc
  let hdrlen := adjustHdrlen hdrlen fc
  let pn ← readPnVector hdrlen
  let header ← micHeader qc a4 hdrlen plen pn
  calculateMic key hdrlen plen header
  cryptPayload key qc a4 pn hdrlen plen
  encryptMic key qc a4 pn hdrlen plen

/-- The memory `aes_decipher` works on: the frame and its static copy. -/
structure DecipherMem where
  pframe : Mem
  message : Mem

inductive DecipherAddr where
  | pframe (i : ℤ)
  | message (i : ℤ)

def pframePart : AccessM.Part DecipherAddr DecipherMem ℤ Mem :=
  ⟨DecipherMem.pframe, fun m s => { s with pframe := m }, .pframe⟩

def messagePart : AccessM.Part DecipherAddr DecipherMem ℤ Mem :=
  ⟨DecipherMem.message, fun m s => { s with message := m }, .message⟩

abbrev DecipherM (α : Type) := AccessM DecipherAddr DecipherMem α

def onPframe {α : Type} (m : M α) : DecipherM α := AccessM.zoom pframePart m
def onMessage {α : Type} (m : M α) : DecipherM α := AccessM.zoom messagePart m

/-- `memcpy((void *)message, pframe, n)`. -/
def copyMessage (n : ℕ) : DecipherM Unit :=
  ⟨fun s => ⟨(), { s with message := fun x => if 0 ≤ x ∧ x < n then s.pframe x else s.message x },
    (List.range n).map (fun j : ℕ => .pframe j) ++ (List.range n).map (fun j : ℕ => .message j)⟩⟩

@[simp] theorem onPframe_val {α : Type} (m : M α) (s : DecipherMem) :
    ((onPframe m).run s).val = (m.run s.pframe).val := rfl
@[simp] theorem onPframe_st {α : Type} (m : M α) (s : DecipherMem) :
    ((onPframe m).run s).st = { s with pframe := (m.run s.pframe).st } := rfl
@[simp] theorem onMessage_val {α : Type} (m : M α) (s : DecipherMem) :
    ((onMessage m).run s).val = (m.run s.message).val := rfl
@[simp] theorem onMessage_st {α : Type} (m : M α) (s : DecipherMem) :
    ((onMessage m).run s).st = { s with message := (m.run s.message).st } := rfl
@[simp] theorem copyMessage_st (n : ℕ) (s : DecipherMem) : ((copyMessage n).run s).st =
    { s with message := fun x => if 0 ≤ x ∧ x < n then s.pframe x else s.message x } := rfl

/-- `compare the mic`: the eight bytes behind `p` payload bytes, in the frame and in the copy. -/
def compareMic (hdrlen p : ℕ) (n : ℕ) : DecipherM Bool :=
  AccessM.loopAcc (fun i res => do
    let a ← onPframe (read (uidx (hdrlen + 8 + p + i)))
    let b ← onMessage (read (uidx (hdrlen + 8 + p + i)))
    pure (res && a == b)) true n

/-- `aes_decipher`; `true` is `_SUCCESS`. -/
def aesDecipher (hdrlen plen : ℕ) : DecipherM Bool := do
  let fc ← onPframe (readLe16 0)
  let p := uint ((plen : ℤ) - 8)
  -- this packet number is taken before `hdrlen` is adjusted
  let pn ← onPframe (readPnVector hdrlen)
  let a4 := a4Exists hdrlen
  let qc := qcExists fc
  let hdrlen := adjustHdrlen hdrlen fc
  onPframe (cryptPayload key qc a4 pn hdrlen p)
  let n := (hdrlen + plen + 8) % 2 ^ 32
  if n ≤ MAX_MSG_SIZE then copyMessage n else pure ()
  let pn ← onPframe (readPnVector hdrlen)
  let header ← onMessage (micHeader qc a4 hdrlen p pn)
  onMessage (calculateMic key hdrlen p header)
  onMessage (cryptPayload key qc a4 pn hdrlen p)
  onMessage (encryptMic key qc a4 pn hdrlen p)
  compareMic hdrlen p 8

end Stretches

end Rtl8723au.Security

/-! What the three stretches of the CCMP routines do to the memory, in the words of the
counter-mode library, for payloads whose end has a 32-bit subscript. -/
namespace Rtl8723au.Security
open Ccm Mem Wifi
set_option autoImplicit false

theorem writeLoop_uidx (base : ℕ) (v : ℕ → UInt8) (n : ℕ) (m : Mem) (h : base + n ≤ 2 ^ 32) :
    ((writeLoop (fun j => uidx (base + j)) v n).run m).st = patch m base n v :=
  writeLoop_st base _ v n m fun j hj => by
    rw [uidx_of_lt _ (by omega)]
    push_cast
    rfl

/-! ## The header is not touched by changes behind it -/

/-- The counter block built from the frame in `m`. -/
def ctrBlock (m : Mem) (qc a4 : Bool) (pn : PnVector) (c : ℕ) : Block :=
  ((constructCtrPreload a4 qc pn c).run m).val

/-- The three blocks the MAC starts with, as a list. -/
def headerBlocks (m : Mem) (qc a4 : Bool) (hdrlen p : ℕ) (pn : PnVector) : List Block :=
  [((constructMicIv qc a4 p pn).run m).val, ((constructMicHeader1 hdrlen).run m).val,
    ((constructMicHeader2 a4 qc).run m).val]

/-- The packet number read at `hdrlen`. -/
def pnVector (m : Mem) (hdrlen : ℕ) : PnVector := ((readPnVector hdrlen).run m).val

theorem readPnVector_st (hdrlen : ℕ) (m : Mem) : ((readPnVector hdrlen).run m).st = m := rfl

theorem qosTc_st (qc a4 : Bool) (m : Mem) : ((qosTc qc a4).run m).st = m := by
  cases qc <;> cases a4 <;> rfl

theorem constructCtrPreload_st (a4 qc : Bool) (pn : PnVector) (c : ℕ) (m : Mem) :
    ((constructCtrPreload a4 qc pn c).run m).st = m := by
  cases qc <;> cases a4 <;> rfl

theorem micHeader2Tail_st (a4 qc : Bool) (m : Mem) : ((micHeader2Tail a4 qc).run m).st = m := by
  cases qc <;> cases a4 <;> rfl

theorem micHeader_st (qc a4 : Bool) (hdrlen p : ℕ) (pn : PnVector) (m : Mem) :
    ((micHeader qc a4 hdrlen p pn).run m).st = m := by
  cases qc <;> cases a4 <;> rfl

theorem micHeader_val (qc a4 : Bool) (hdrlen p : ℕ) (pn : PnVector) (m : Mem) :
    ((micHeader qc a4 hdrlen p pn).run m).val = (((constructMicIv qc a4 p pn).run m).val,
      ((constructMicHeader1 hdrlen).run m).val, ((constructMicHeader2 a4 qc).run m).val) := by
  cases qc <;> cases a4 <;> rfl

theorem pnVector_eq (m : Mem) (hdrlen : ℕ) : pnVector m hdrlen =
    #v[m (uidx hdrlen), m (uidx (hdrlen + 1)), m (uidx (hdrlen + 4)), m (uidx (hdrlen + 5)),
      m (uidx (hdrlen + 6)), m (uidx (hdrlen + 7))] := rfl

theorem pnVector_congr (hdrlen : ℕ) (m m' : Mem) (hw : hdrlen + 8 ≤ 2 ^ 32)
    (h : ∀ x : ℤ, 0 ≤ x → x < hdrlen + 8 → m x = m' x) : pnVector m hdrlen = pnVector m' hdrlen := by
  have hx : ∀ k : ℕ, hdrlen ≤ k → k < hdrlen + 8 → m (uidx k) = m' (uidx k) := by
    intro k _ hk
    rw [uidx_of_lt _ (by omega)]
    exact h _ (by omega) (by omega)
  rw [pnVector_eq, pnVector_eq, hx hdrlen (by omega) (by omega), hx (hdrlen + 1) (by omega) (by omega),
    hx (hdrlen + 4) (by omega) (by omega), hx (hdrlen + 5) (by omega) (by omega),
    hx (hdrlen + 6) (by omega) (by omega), hx (hdrlen + 7) (by omega) (by omega)]

theorem qosTc_congr (qc a4 : Bool) (m m' : Mem) (h : ∀ x : ℤ, 0 ≤ x → x < 32 → m x = m' x) :
    ((qosTc qc a4).run m).val = ((qosTc qc a4).run m').val := by
  cases qc <;> cases a4 <;> simp [qosTc, h]

theorem constructCtrPreload_congr (a4 qc : Bool) (pn : PnVector) (c : ℕ) (m m' : Mem)
    (h : ∀ x : ℤ, 0 ≤ x → x < 32 → m x = m' x) :
    ctrBlock m qc a4 pn c = ctrBlock m' qc a4 pn c := by
  have hq := qosTc_congr qc a4 m m' h
  simp only [ctrBlock, constructCtrPreload, AccessM.bind_val, qosTc_st, hq]
  simp [h]

theorem micHeader2Tail_congr (a4 qc : Bool) (m m' : Mem) (h : ∀ x : ℤ, 0 ≤ x → x < 32 → m x = m' x) :
    ((micHeader2Tail a4 qc).run m).val = ((micHeader2Tail a4 qc).run m').val := by
  cases qc <;> cases a4 <;> simp [micHeader2Tail, h]

theorem headerBlocks_congr (qc a4 : Bool) (hdrlen p : ℕ) (pn : PnVector) (m m' : Mem)
    (h : ∀ x : ℤ, 0 ≤ x → x < 32 → m x = m' x) :
    headerBlocks m qc a4 hdrlen p pn = headerBlocks m' qc a4 hdrlen p pn := by
  have hq := qosTc_congr qc a4 m m' h
  have ht := micHeader2Tail_congr a4 qc m m' h
  simp only [headerBlocks, constructMicIv, constructMicHeader1, constructMicHeader2, AccessM.bind_val,
    qosTc_st, micHeader2Tail_st, hq, ht, readVec_st, read_st]
  simp [h]

/-! ## The payload under the key stream -/

section Stretches
variable (key : Skey) (qc a4 : Bool) (pn : PnVector) (hdrlen p : ℕ)

/-- The payload bytes behind the header and the CCMP header. -/
def payloadAt (m : Mem) (hdrlen : ℕ) (k : ℕ) : UInt8 := m ((hdrlen + 8 : ℕ) + (k : ℤ))

/-- The key stream over the payload of `m`. -/
abbrev cryptedAt (m : Mem) : ℕ → UInt8 :=
  opened (aes128k128d key) (ctrBlock m qc a4 pn) (payloadAt m hdrlen)

theorem getElem_readVec (m : Mem) (q : ℤ) (n i : ℕ) (hi : i < n) :
    (((readVec q n).run m).val)[i] = m (q + (i : ℤ)) := by
  simp

/-- **The crypt loop** replaces the payload by its exclusive or with the key stream. -/
theorem cryptPayload_st (m : Mem) (hh : 24 ≤ hdrlen) (hw : hdrlen + 8 + p ≤ 2 ^ 32) :
    ((cryptPayload key qc a4 pn hdrlen p).run m).st
      = patch m (hdrlen + 8 : ℕ) p (cryptedAt key qc a4 pn hdrlen m) := by
  set v := cryptedAt key qc a4 pn hdrlen m with hv
  -- one block of `r` bytes at block index `i`, everything before it already done
  have hblock : ∀ i r : ℕ, r ≤ 16 → hdrlen + 8 + 16 * i + r ≤ 2 ^ 32 → ∀ w : ℕ → UInt8,
      (∀ j < r, w j = (aes128k128d key (ctrBlock m qc a4 pn (i + 1)))[j % 16]
        ^^^ payloadAt m hdrlen (16 * i + j)) →
      ((writeLoop (fun j => uidx (hdrlen + 8 + 16 * i + j)) w r).run
        (patch m (hdrlen + 8 : ℕ) (16 * i) v)).st = patch m (hdrlen + 8 : ℕ) (16 * i + r) v := by
    intro i r hr hlt w hwj
    rw [writeLoop_uidx _ _ _ _ (by omega), ← patch_append]
    have hb : ((hdrlen + 8 + 16 * i : ℕ) : ℤ) = ((hdrlen + 8 : ℕ) : ℤ) + ((16 * i : ℕ) : ℤ) := by
      push_cast
      ring
    rw [hb]
    apply patch_congr
    intro j hj
    have h1 : (16 * i + j) / 16 = i := by omega
    have h2 : (16 * i + j) % 16 = j % 16 := by omega
    rw [hwj j hj, hv]
    simp only [cryptedAt, opened, stream, h1, h2]
    exact UInt8.xor_comm _ _
  have hctr : ∀ i c : ℕ, ctrBlock (patch m (hdrlen + 8 : ℕ) (16 * i) v) qc a4 pn c
      = ctrBlock m qc a4 pn c := by
    intro i c
    apply constructCtrPreload_congr
    intro x _ hx
    exact patch_outside _ _ _ _ _ (by omega)
  have hpay : ∀ i j : ℕ, hdrlen + 8 + 16 * i + j < 2 ^ 32 →
      patch m (hdrlen + 8 : ℕ) (16 * i) v (uidx (hdrlen + 8 + 16 * i) + (j : ℤ))
        = payloadAt m hdrlen (16 * i + j) := by
    intro i j hlt
    rw [uidx_of_lt _ (by omega), patch_outside _ _ _ _ _ (by push_cast; omega), payloadAt]
    congr 1
    push_cast
    ring
  have hloop : ∀ n ≤ p / 16, ((AccessM.loop (fun i => do
      let ctrPreload ← constructCtrPreload a4 qc pn (i + 1)
      let b ← readVec (uidx (hdrlen + 8 + 16 * i)) 16
      let chainBuffer := bitwiseXor (aes128k128d key ctrPreload) b
      writeLoop (fun j => uidx (hdrlen + 8 + 16 * i + j)) (fun j => chainBuffer[j % 16]) 16) n).run m).st
        = patch m (hdrlen + 8 : ℕ) (16 * n) v := by
    intro n hn
    refine AccessM.loop_invariant _ (fun i t => t = patch m (hdrlen + 8 : ℕ) (16 * i) v) m n
      (patch_zero _ _ _).symm ?_
    rintro i hi t rfl
    simp only [AccessM.bind_st, constructCtrPreload_st, readVec_st]
    have hc : ((constructCtrPreload a4 qc pn (i + 1)).run (patch m (hdrlen + 8 : ℕ) (16 * i) v)).val
        = ctrBlock m qc a4 pn (i + 1) := hctr i (i + 1)
    rw [hc, hblock i 16 le_rfl (by omega), Nat.mul_succ]
    intro j hj
    have hjm : j % 16 = j := Nat.mod_eq_of_lt hj
    simp only [bitwiseXor, getElem_xorBlock, hjm, getElem_readVec]
    rw [hpay i j (by omega)]
  by_cases hr : p % 16 > 0
  · simp only [cryptPayload, AccessM.bind_st, if_pos hr, hloop _ le_rfl, constructCtrPreload_st,
      readPadded_st]
    have hc : ((constructCtrPreload a4 qc pn (p / 16 + 1)).run
        (patch m (hdrlen + 8 : ℕ) (16 * (p / 16)) v)).val = ctrBlock m qc a4 pn (p / 16 + 1) :=
      hctr (p / 16) (p / 16 + 1)
    rw [hc, hblock (p / 16) (p % 16) (by omega) (by omega), Nat.div_add_mod]
    intro j hj
    have hjm : j % 16 = j := Nat.mod_eq_of_lt (by omega)
    have hsum : uidx (hdrlen + 8 + 16 * (p / 16) + j) = uidx (hdrlen + 8 + 16 * (p / 16)) + (j : ℤ) := by
      rw [uidx_of_lt _ (by omega), uidx_of_lt _ (by omega)]
      push_cast
      rfl
    simp only [bitwiseXor, getElem_xorBlock, hjm, readPadded_val, Vector.getElem_ofFn, if_pos hj, hsum]
    rw [hpay (p / 16) j (by omega)]
  · have hp : 16 * (p / 16) = p := by omega
    simp only [cryptPayload, AccessM.bind_st, if_neg hr, hloop _ le_rfl, hp, AccessM.pure_st]

/-! ## The MIC -/

/-- **The MIC** is the CBC-MAC of the header blocks and the padded payload, put behind the payload. -/
theorem calculateMic_st (m : Mem) (b0 b1 b2 : Block) (hw : hdrlen + 8 + p + 8 ≤ 2 ^ 32) :
    ((calculateMic key hdrlen p (b0, b1, b2)).run m).st = patch m (hdrlen + 8 + p : ℕ) 8 fun j =>
      (cbcMac (aes128k128d key) ([b0, b1, b2] ++ payloadBlocks (payloadAt m hdrlen) p))[j % 16] := by
  have hblock : ∀ i < p / 16, ((readVec (uidx (hdrlen + 8 + 16 * i)) 16).run m).val
      = blockAt (payloadAt m hdrlen) p i := by
    intro i hi
    apply Vector.ext
    intro j hj
    rw [getElem_readVec _ _ _ _ hj, getElem_blockAt _ _ _ _ hj, if_pos (by omega),
      uidx_of_lt _ (by omega), payloadAt]
    exact congrArg m (by push_cast; ring)
  have hrest : ((readPadded (fun j => uidx (hdrlen + 8 + 16 * (p / 16) + j)) (p % 16) 16).run m).val
      = blockAt (payloadAt m hdrlen) p (p / 16) := by
    apply Vector.ext
    intro j hj
    rw [getElem_blockAt _ _ _ _ hj]
    simp only [readPadded_val, Vector.getElem_ofFn]
    by_cases hlt : j < p % 16
    · rw [if_pos hlt, if_pos (by omega), uidx_of_lt _ (by omega), payloadAt]
      exact congrArg m (by push_cast; ring)
    · rw [if_neg hlt, if_neg (by omega)]
  set start := cbcMac (aes128k128d key) [b0, b1, b2] with hstart
  have hinit : aes128k128d key (bitwiseXor (aes128k128d key (bitwiseXor (aes128k128d key b0) b1)) b2)
      = start := by
    simp [hstart, cbcMac, bitwiseXor]
  set body : ℕ → Block → M Block := fun i aesOut => do
    let b ← readVec (uidx (hdrlen + 8 + 16 * i)) 16
    pure (aes128k128d key (bitwiseXor aesOut b)) with hbody
  have hloop : ∀ n ≤ p / 16, ((AccessM.loopAcc body start n).run m).val
      = cbcMac (aes128k128d key) ([b0, b1, b2] ++ (List.range n).map (blockAt (payloadAt m hdrlen) p)) ∧
      ((AccessM.loopAcc body start n).run m).st = m := by
    intro n hn
    refine AccessM.loopAcc_invariant body (fun i c t => c = cbcMac (aes128k128d key)
      ([b0, b1, b2] ++ (List.range i).map (blockAt (payloadAt m hdrlen) p)) ∧ t = m) start m n ?_ ?_
    · exact ⟨by simp [hstart], rfl⟩
    · rintro i hi c t ⟨rfl, rfl⟩
      refine ⟨?_, rfl⟩
      rw [List.range_succ, List.map_append, ← List.append_assoc, List.map_singleton,
        cbcMac_append_singleton, ← hblock i (by omega)]
      rfl
  obtain ⟨hval, hst⟩ := hloop _ le_rfl
  by_cases hr : p % 16 > 0
  · have hmic : aes128k128d key (bitwiseXor (cbcMac (aes128k128d key)
        ([b0, b1, b2] ++ (List.range (p / 16)).map (blockAt (payloadAt m hdrlen) p)))
          (blockAt (payloadAt m hdrlen) p (p / 16)))
        = cbcMac (aes128k128d key) ([b0, b1, b2] ++ payloadBlocks (payloadAt m hdrlen) p) := by
      rw [payloadBlocks_split, if_neg (by omega), ← List.append_assoc]
      exact (cbcMac_append_singleton _ _ _).symm
    simp only [calculateMic, hinit, ← hbody, AccessM.bind_st, if_pos hr, hval, hst, hrest,
      readPadded_st, AccessM.pure_st, AccessM.pure_val]
    refine (writeLoop_uidx (hdrlen + 8 + p) _ 8 m (by omega)).trans ?_
    exact patch_congr _ _ _ _ _ fun j _ => congrArg (fun b : Block => b[j % 16]) hmic
  · have hmic : cbcMac (aes128k128d key)
        ([b0, b1, b2] ++ (List.range (p / 16)).map (blockAt (payloadAt m hdrlen) p))
        = cbcMac (aes128k128d key) ([b0, b1, b2] ++ payloadBlocks (payloadAt m hdrlen) p) := by
      rw [payloadBlocks_split, if_pos (by omega), List.append_nil]
    simp only [calculateMic, hinit, ← hbody, AccessM.bind_st, if_neg hr, hval, hst,
      AccessM.pure_st, AccessM.pure_val]
    refine (writeLoop_uidx (hdrlen + 8 + p) _ 8 m (by omega)).trans ?_
    exact patch_congr _ _ _ _ _ fun j _ => congrArg (fun b : Block => b[j % 16]) hmic

theorem encryptMic_st (m : Mem) (hw : hdrlen + 8 + p + 8 ≤ 2 ^ 32) :
    ((encryptMic key qc a4 pn hdrlen p).run m).st = patch m (hdrlen + 8 + p : ℕ) 8 fun j =>
      m ((hdrlen + 8 + p : ℕ) + (j : ℤ)) ^^^ (aes128k128d key (ctrBlock m qc a4 pn 0))[j % 16] := by
  simp only [encryptMic, AccessM.bind_st, constructCtrPreload_st, readPadded_st]
  rw [writeLoop_uidx _ _ _ _ (by omega)]
  apply patch_congr
  intro j hj
  have hjm : j % 16 = j := Nat.mod_eq_of_lt (by omega)
  have hidx : uidx (j + hdrlen + 8 + p) = (hdrlen + 8 + p : ℕ) + (j : ℤ) := by
    rw [uidx_of_lt _ (by omega)]
    push_cast
    ring
  simp only [bitwiseXor, getElem_xorBlock, hjm, readPadded_val, Vector.getElem_ofFn, if_pos hj, hidx]
  exact UInt8.xor_comm _ _

end Stretches

end Rtl8723au.Security
