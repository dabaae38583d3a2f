import Rtl8723au.Security.DecryptBounds

/-! What `decryptor` returns from its software path. TKIP and CCMP report a failed
integrity check; WEP makes the check and forgets it. -/
namespace Rtl8723au.Security
open Ccm Mem Wifi
set_option autoImplicit false

/-! ## Verified frames -/

/-- The last four of `n` bytes are the CRC-32 of the others, low byte first. -/
def IcvHolds (g : ℕ → UInt8) (n : ℕ) : Prop :=
  4 ≤ n ∧ ∀ k < 4, g (n - 4 + k) = byteOf (Crc32.crc32 ((List.range (n - 4)).map g)) k

def bodyAt (f : RecvFrame) (i : ℕ) : UInt8 := f.rxDataMem ((f.attrib.ivLen : ℤ) + f.attrib.hdrlen + i)

def bodyLen (f : RecvFrame) : ℕ := f.len - f.attrib.hdrlen - f.attrib.ivLen

def arcfourBody (key : List UInt8) (f : RecvFrame) (i : ℕ) : UInt8 :=
  bodyAt f i ^^^ arcfourStream (arcfourInit key) i

/-- `f'` is `f` decrypted with RC4, and its ICV is right. -/
structure Rc4Verified (key : List UInt8) (f f' : RecvFrame) : Prop where
  decrypted : ∀ i < bodyLen f, bodyAt f' i = arcfourBody key f i
  icv : IcvHolds (bodyAt f') (bodyLen f)

section CcmVerified
variable (key : Skey) (f f' : RecvFrame)

def ccmPn : PnVector := pnVector f.rxDataMem f.attrib.hdrlen

def ccmCtr : ℕ → Block :=
  ctrBlock f.rxDataMem (qcExists (le16 f.rxDataMem 0)) (a4Exists f.attrib.hdrlen) (ccmPn f)

def ccmHeader (p : ℕ) : List Block :=
  headerBlocks f.rxDataMem (qcExists (le16 f.rxDataMem 0)) (a4Exists f.attrib.hdrlen) f.attrib.hdrlen p (ccmPn f)

/-- `f'` is `f` decrypted with CCMP: the body but for eight bytes, and these eight are, once decrypted,
the MIC of header, packet number and decrypted body. -/
structure CcmVerified : Prop where
  fits : 8 ≤ bodyLen f
  decrypted : ∀ k < bodyLen f - 8, bodyAt f' k = bodyAt f k ^^^ stream (aes128k128d key) (ccmCtr f) k
  mic : ∀ i < 8, bodyAt f (bodyLen f - 8 + i) ^^^ (aes128k128d key (ccmCtr f 0))[i % 16] =
    (cbcMac (aes128k128d key)
      (ccmHeader f (bodyLen f - 8) ++ payloadBlocks (bodyAt f') (bodyLen f - 8)))[i % 16]

end CcmVerified

section Decryptor
variable (adapter : RtwAdapter) (f : RecvFrame)

/-- The frame with the key index `decryptor` reads from it. -/
def keyed : RecvFrame := { f with attrib := { f.attrib with keyIndex := decryptorKeyIndex adapter f } }

def wepKey : List UInt8 :=
  ((readVec f.attrib.hdrlen 3).run f.rxDataMem).val.toList ++ wepSecret adapter (keyed adapter f).attrib

def tkipKey (prwskey : Skey) : List UInt8 :=
  (tkipRc4key prwskey f.attrib.ta ((readVec f.attrib.hdrlen 8).run f.rxDataMem).val).toList

/-- `f'` is `f` decrypted under the key the tables hold for it, with its integrity value verified. -/
structure Verified (f' : RecvFrame) : Prop where
  wep : f.attrib.encrypt = WEP40 ∨ f.attrib.encrypt = WEP104 → Rc4Verified (wepKey adapter f) f f'
  tkip : f.attrib.encrypt = TKIP → ∃ prwskey, tkipPrwskey adapter (keyed adapter f).attrib = some prwskey ∧
    Rc4Verified (tkipKey f prwskey) f f'
  aes : f.attrib.encrypt = AES → ∃ prwskey, aesPrwskey adapter (keyed adapter f).attrib = some prwskey ∧
    CcmVerified prwskey f f'

/-- A frame of a cipher the software path knows that takes this path. -/
structure SoftwarePath : Prop where
  cipher : SwCipher f.attrib
  path : f.attrib.bdecrypted = false ∨ adapter.securitypriv.swDecrypt = true
  lengths : ValidatedLengths f.attrib
  len_lt : f.len < 2 ^ 31

/-- Whatever `decryptor` returns is verified. -/
def ReturnsVerified (message : Mem) : Prop :=
  ∀ f', (decryptor adapter f message).returnPacket = some f' → Verified adapter f f'

/-- Fewer than four bytes behind the IV, and the four bytes that end the frame are zero after
decryption, as the CRC of no byte is. -/
def ShortIcvZero (key : List UInt8) : Prop :=
  bodyLen f < 4 ∧ ∀ k < 4, (if (f.attrib.ivLen : ℤ) + f.attrib.hdrlen ≤ (f.len : ℤ) - 4 + (k : ℕ) then
    arcfourBody key f ((f.len : ℤ) - 4 + (k : ℕ) - f.attrib.ivLen - f.attrib.hdrlen).toNat
    else f.rxDataMem ((f.len : ℤ) - 4 + (k : ℕ))) = 0

/-- When a returned frame has been verified: a WEP frame must carry a right ICV to begin with, a TKIP
frame must have room for one, and a CCMP frame must fit what `aes_decipher` takes for granted. -/
structure IntegrityChecked : Prop where
  wep : f.attrib.encrypt = WEP40 ∨ f.attrib.encrypt = WEP104 →
    IcvHolds (arcfourBody (wepKey adapter f) f) (bodyLen f)
  tkip : f.attrib.encrypt = TKIP → ∀ prwskey, tkipPrwskey adapter (keyed adapter f).attrib = some prwskey →
    ¬ShortIcvZero f (tkipKey f prwskey)
  aes : f.attrib.encrypt = AES → aesPrwskey adapter (keyed adapter f).attrib ≠ none →
    f.attrib.hdrlen + 16 ≤ f.len ∧ f.len ≤ MAX_MSG_SIZE ∧
      (qcExists (le16 f.rxDataMem 0) = true → f.attrib.hdrlen = 26)

end Decryptor

/-! ## RC4 -/

theorem icvHolds_congr (g g' : ℕ → UInt8) (n : ℕ) (h : ∀ i < n, g i = g' i) :
    IcvHolds g n ↔ IcvHolds g' n := by
  unfold IcvHolds
  refine and_congr_right fun hn => forall₂_congr fun k hk => ?_
  have hmap : (List.range (n - 4)).map g = (List.range (n - 4)).map g' :=
    List.map_congr_left fun i hi => h i (by have := List.mem_range.mp hi; omega)
  rw [h (n - 4 + k) (by omega), hmap]

/-- The memory and the verdict `arcfourDecrypt` leaves. -/
def rc4Mem (key : List UInt8) (p L : ℤ) (m : Mem) : Mem := ((arcfourDecrypt key p L).run m).st

def rc4Verdict (key : List UInt8) (p L : ℤ) (m : Mem) : Bool := ((arcfourDecrypt key p L).run m).val

theorem arcfourDecrypt_spec (key : List UInt8) (p L : ℤ) (m : Mem) (hL : -2 ^ 30 ≤ L ∧ L < 2 ^ 31) :
    rc4Mem key p L m = patch m p (uint L) (fun k => m (p + k) ^^^ arcfourStream (arcfourInit key) k) ∧
    (rc4Verdict key p L m = true ↔ ∀ k < 4, rc4Mem key p L m (p + L - 4 + (k : ℕ))
      = byteOf (Crc32.crc32 (bytesAt (rc4Mem key p L m) p (L - 4).toNat)) k) := by
  have henc := arcfourEncrypt_st (arcfourInit key) p (uint L) m
  set m' := patch m p (uint L) (fun k => m (p + k) ^^^ arcfourStream (arcfourInit key) k) with hm'
  obtain ⟨hval, hst⟩ := getcrc32_val p (cint (L - 4)) m'
  have hcint : cint (L - 4) = L - 4 := cint_of_small _ (by omega)
  have hmem : rc4Mem key p L m = m' := by
    unfold rc4Mem arcfourDecrypt
    rw [AccessM.bind_st, AccessM.bind_st, compareIcv_st, henc, hst]
  rw [hmem]
  refine ⟨rfl, ?_⟩
  unfold rc4Verdict arcfourDecrypt
  rw [AccessM.bind_val, AccessM.bind_val, compareIcv_val, henc, hst, hval, hcint]

theorem readIv_wep_st (h p L : ℤ) (k : List UInt8) (m : Mem) : ((do
      let iv ← readVec h 3
      let _ ← arcfourDecrypt (iv.toList ++ k) p L
      pure () : M Unit).run m).st = rc4Mem (((readVec h 3).run m).val.toList ++ k) p L m := by
  rw [AccessM.bind_st, AccessM.bind_st, AccessM.pure_st, readVec_st, rc4Mem]

theorem readIv_tkip (h p L : ℤ) (ta : MacAddr) (prwskey : Skey) (m : Mem) :
    ((do
      let iv ← readVec h 8
      arcfourDecrypt (tkipRc4key prwskey ta iv).toList p L : M Bool).run m).st
      = rc4Mem (tkipRc4key prwskey ta ((readVec h 8).run m).val).toList p L m ∧
    ((do
      let iv ← readVec h 8
      arcfourDecrypt (tkipRc4key prwskey ta iv).toList p L : M Bool).run m).val
      = rc4Verdict (tkipRc4key prwskey ta ((readVec h 8).run m).val).toList p L m := by
  constructor
  · rw [AccessM.bind_st, readVec_st, rc4Mem]
  · rw [AccessM.bind_val, readVec_st, rc4Verdict]

section Routines
variable (adapter : RtwAdapter) (a : RxPktAttrib) (len : ℕ) (m : Mem)

theorem rtwWepDecrypt_st (hw : a.encrypt = WEP40 ∨ a.encrypt = WEP104) :
    ((rtwWepDecrypt adapter a len).run m).st
      = rc4Mem (((readVec a.hdrlen 3).run m).val.toList ++ wepSecret adapter a)
          ((a.ivLen : ℤ) + a.hdrlen) (payloadLength a len) m := by
  rw [rtwWepDecrypt, if_pos hw]
  exact readIv_wep_st _ _ _ _ _

theorem rtwTkipDecrypt_run (prwskey : Skey) (ht : a.encrypt = TKIP)
    (hkey : tkipPrwskey adapter a = some prwskey) :
    ((rtwTkipDecrypt adapter a len).run m).st
      = rc4Mem (tkipRc4key prwskey a.ta ((readVec a.hdrlen 8).run m).val).toList
          ((a.ivLen : ℤ) + a.hdrlen) (payloadLength a len) m ∧
    ((rtwTkipDecrypt adapter a len).run m).val
      = rc4Verdict (tkipRc4key prwskey a.ta ((readVec a.hdrlen 8).run m).val).toList
          ((a.ivLen : ℤ) + a.hdrlen) (payloadLength a len) m := by
  rw [rtwTkipDecrypt, if_pos ht, hkey]
  exact readIv_tkip _ _ _ _ _ _

end Routines

section Rc4
variable {f : RecvFrame} (key : List UInt8)

/-- The memory and the verdict for the body of a frame. -/
def bodyMem (f : RecvFrame) (key : List UInt8) : Mem :=
  rc4Mem key ((f.attrib.ivLen : ℤ) + f.attrib.hdrlen) (payloadLength f.attrib f.len) f.rxDataMem

def bodyVerdict (f : RecvFrame) (key : List UInt8) : Bool :=
  rc4Verdict key ((f.attrib.ivLen : ℤ) + f.attrib.hdrlen) (payloadLength f.attrib f.len) f.rxDataMem

variable (hb : f.attrib.hdrlen + f.attrib.ivLen < 2 ^ 30) (hlen : f.len < 2 ^ 31)
include hb hlen

theorem bodyMem_body (i : ℕ) (hi : i < bodyLen f) :
    bodyMem f key ((f.attrib.ivLen : ℤ) + f.attrib.hdrlen + i) = arcfourBody key f i := by
  unfold bodyLen at hi
  have hpl := payloadLength_eq f.attrib f.len hlen (by omega)
  have hu := uint_of_nonneg (payloadLength f.attrib f.len) (by omega) (by omega)
  have hst := (arcfourDecrypt_spec key ((f.attrib.ivLen : ℤ) + f.attrib.hdrlen) (payloadLength f.attrib f.len)
    f.rxDataMem (by omega)).1
  rw [bodyMem, hst, patch_inside _ _ _ _ _ (by omega)]
  rfl

theorem bodyMem_end (k : ℕ) (hk : k < 4) : bodyMem f key ((f.len : ℤ) - 4 + k) =
    if (f.attrib.ivLen : ℤ) + f.attrib.hdrlen ≤ (f.len : ℤ) - 4 + (k : ℕ) then
      arcfourBody key f ((f.len : ℤ) - 4 + (k : ℕ) - f.attrib.ivLen - f.attrib.hdrlen).toNat
    else f.rxDataMem ((f.len : ℤ) - 4 + (k : ℕ)) := by
  have hpl := payloadLength_eq f.attrib f.len hlen (by omega)
  have hst := (arcfourDecrypt_spec key ((f.attrib.ivLen : ℤ) + f.attrib.hdrlen) (payloadLength f.attrib f.len)
    f.rxDataMem (by omega)).1
  split
  · rename_i hle
    have hbody := bodyMem_body key hb hlen
      ((f.len : ℤ) - 4 + (k : ℕ) - f.attrib.ivLen - f.attrib.hdrlen).toNat (by unfold bodyLen; omega)
    rw [← hbody]
    exact congrArg (bodyMem f key) (by omega)
  · rename_i hlt
    rw [bodyMem, hst, patch_outside _ _ _ _ _ (.inl (by omega))]

theorem bodyVerdict_long (hn : 4 ≤ bodyLen f) :
    bodyVerdict f key = true ↔ IcvHolds (arcfourBody key f) (bodyLen f) := by
  have hpl := payloadLength_eq f.attrib f.len hlen (by omega)
  have hn' := hn
  unfold bodyLen at hn'
  have hval := (arcfourDecrypt_spec key ((f.attrib.ivLen : ℤ) + f.attrib.hdrlen) (payloadLength f.attrib f.len)
    f.rxDataMem (by omega)).2
  rw [bodyVerdict, hval, IcvHolds, and_iff_right hn]
  have hcount : (payloadLength f.attrib f.len - 4).toNat = bodyLen f - 4 := by
    unfold bodyLen
    omega
  have hbytes : bytesAt (bodyMem f key) ((f.attrib.ivLen : ℤ) + f.attrib.hdrlen) (bodyLen f - 4)
      = (List.range (bodyLen f - 4)).map (arcfourBody key f) :=
    List.map_congr_left fun i hi => bodyMem_body key hb hlen i (by have := List.mem_range.mp hi; omega)
  refine forall₂_congr fun k hk => ?_
  have hpos : (f.attrib.ivLen : ℤ) + f.attrib.hdrlen + payloadLength f.attrib f.len - 4 + (k : ℕ)
      = (f.attrib.ivLen : ℤ) + f.attrib.hdrlen + ((bodyLen f - 4 + k : ℕ) : ℤ) := by
    unfold bodyLen
    omega
  rw [hcount, hpos]
  have hbody := bodyMem_body key hb hlen (bodyLen f - 4 + k) (by omega)
  unfold bodyMem at hbody hbytes
  rw [hbody, hbytes]

theorem bodyVerdict_short (hn : bodyLen f < 4) : bodyVerdict f key = true ↔ ShortIcvZero f key := by
  have hpl := payloadLength_eq f.attrib f.len hlen (by omega)
  have hn' := hn
  unfold bodyLen at hn'
  have hval := (arcfourDecrypt_spec key ((f.attrib.ivLen : ℤ) + f.attrib.hdrlen) (payloadLength f.attrib f.len)
    f.rxDataMem (by omega)).2
  rw [bodyVerdict, hval, ShortIcvZero, and_iff_right hn]
  have hcount : (payloadLength f.attrib f.len - 4).toNat = 0 := by omega
  have hzero : ∀ k < 4, byteOf (Crc32.crc32 []) k = 0 := by decide
  refine forall₂_congr fun k hk => ?_
  have hpos : (f.attrib.ivLen : ℤ) + f.attrib.hdrlen + payloadLength f.attrib f.len - 4 + (k : ℕ)
      = (f.len : ℤ) - 4 + (k : ℕ) := by omega
  have hend := bodyMem_end key hb hlen k hk
  unfold bodyMem at hend
  rw [hcount, hpos, hend]
  show _ = byteOf (Crc32.crc32 []) k ↔ _
  rw [hzero k hk]

theorem rc4Verified_iff (f' : RecvFrame) (hmem : f'.rxDataMem = bodyMem f key)
    (hhdr : f'.attrib.hdrlen = f.attrib.hdrlen) (hiv : f'.attrib.ivLen = f.attrib.ivLen) :
    Rc4Verified key f f' ↔ IcvHolds (arcfourBody key f) (bodyLen f) := by
  have hbody : ∀ i < bodyLen f, bodyAt f' i = arcfourBody key f i := by
    intro i hi
    rw [bodyAt, hmem, hhdr, hiv]
    exact bodyMem_body key hb hlen i hi
  constructor
  · intro h
    exact (icvHolds_congr _ _ _ hbody).mp h.icv
  · intro h
    exact ⟨hbody, (icvHolds_congr _ _ _ hbody).mpr h⟩

end Rc4

/-! ## The dispatcher -/

section Dispatch
variable (adapter : RtwAdapter) (f : RecvFrame) (message : Mem)

theorem keyed_encrypt : (keyed adapter f).attrib.encrypt = f.attrib.encrypt := rfl
theorem keyed_hdrlen : (keyed adapter f).attrib.hdrlen = f.attrib.hdrlen := rfl
theorem keyed_ivLen : (keyed adapter f).attrib.ivLen = f.attrib.ivLen := rfl
theorem keyed_ta : (keyed adapter f).attrib.ta = f.attrib.ta := rfl

theorem keyed_payloadLength (len : ℕ) :
    payloadLength (keyed adapter f).attrib len = payloadLength f.attrib len := by
  unfold payloadLength
  rw [keyed_hdrlen, keyed_ivLen]

def swRun : Outcome DecipherAddr DecipherMem Bool :=
  (swDecrypt adapter (keyed adapter f).attrib f.len).run ⟨f.rxDataMem, message⟩

def swFrame : RecvFrame := (keyed adapter f).setRxDataMem (swRun adapter f message).st.pframe

theorem decryptor_softwarePath (h : SoftwarePath adapter f) : (decryptor adapter f message).returnPacket
    = if (swRun adapter f message).val then some (swFrame adapter f message) else none := by
  have hpos : f.attrib.encrypt > 0 := by
    rcases h.cipher with (hw | hw) | ht | ha
    · rw [hw]; decide
    · rw [hw]; decide
    · rw [ht]; decide
    · rw [ha]; decide
  unfold decryptor
  rw [if_pos ⟨hpos, h.path⟩]
  rfl

theorem returnsVerified_iff (h : SoftwarePath adapter f) : ReturnsVerified adapter f message ↔
    ((swRun adapter f message).val = true → Verified adapter f (swFrame adapter f message)) := by
  unfold ReturnsVerified
  rw [decryptor_softwarePath adapter f message h]
  cases (swRun adapter f message).val with
  | false => simp
  | true => simp

theorem swFrame_mem : (swFrame adapter f message).rxDataMem = (swRun adapter f message).st.pframe :=
  RecvFrame.rxDataMem_setRxDataMem _ _

theorem swRun_wep (hw : f.attrib.encrypt = WEP40 ∨ f.attrib.encrypt = WEP104) :
    (swRun adapter f message).val = true ∧
    (swRun adapter f message).st.pframe = bodyMem f (wepKey adapter f) := by
  have hst := rtwWepDecrypt_st adapter (keyed adapter f).attrib f.len f.rxDataMem hw
  rw [keyed_hdrlen, keyed_ivLen, keyed_payloadLength] at hst
  unfold swRun swDecrypt
  rw [keyed_encrypt, if_pos hw]
  refine ⟨rfl, ?_⟩
  rw [AccessM.bind_st, AccessM.pure_st, onPframe_st, bodyMem, wepKey]
  exact hst

theorem swRun_tkip (ht : f.attrib.encrypt = TKIP) :
    (tkipPrwskey adapter (keyed adapter f).attrib = none → (swRun adapter f message).val = false) ∧
    ∀ prwskey, tkipPrwskey adapter (keyed adapter f).attrib = some prwskey →
      (swRun adapter f message).val = bodyVerdict f (tkipKey f prwskey) ∧
      (swRun adapter f message).st.pframe = bodyMem f (tkipKey f prwskey) := by
  have hnw : ¬(f.attrib.encrypt = WEP40 ∨ f.attrib.encrypt = WEP104) := by
    rw [ht]
    decide
  have hrun : swRun adapter f message =
      (onPframe (rtwTkipDecrypt adapter (keyed adapter f).attrib f.len)).run ⟨f.rxDataMem, message⟩ := by
    rw [swRun, swDecrypt, keyed_encrypt, if_neg hnw, if_pos ht]
  rw [hrun, onPframe_val, onPframe_st]
  constructor
  · intro hnone
    rw [rtwTkipDecrypt, keyed_encrypt, if_pos ht, hnone]
    rfl
  · intro prwskey hkey
    obtain ⟨hst, hval⟩ := rtwTkipDecrypt_run adapter (keyed adapter f).attrib f.len f.rxDataMem prwskey ht hkey
    rw [keyed_hdrlen, keyed_ivLen, keyed_ta, keyed_payloadLength] at hst hval
    rw [bodyVerdict, bodyMem, tkipKey]
    exact ⟨hval, hst⟩

theorem swRun_aes (ha : f.attrib.encrypt = AES) :
    (aesPrwskey adapter (keyed adapter f).attrib = none → (swRun adapter f message).val = false) ∧
    ∀ prwskey, aesPrwskey adapter (keyed adapter f).attrib = some prwskey →
      swRun adapter f message = (aesDecipher prwskey f.attrib.hdrlen
        (uint (payloadLength f.attrib f.len))).run ⟨f.rxDataMem, message⟩ := by
  have hnw : ¬(f.attrib.encrypt = WEP40 ∨ f.attrib.encrypt = WEP104) := by
    rw [ha]
    decide
  have hnt : f.attrib.encrypt ≠ TKIP := by
    rw [ha]
    decide
  unfold swRun swDecrypt rtwAesDecrypt
  rw [keyed_encrypt, if_neg hnw, if_neg hnt, if_pos ha, if_pos ha]
  constructor
  · intro hnone
    rw [hnone]
    rfl
  · intro prwskey hkey
    rw [hkey, keyed_hdrlen, keyed_payloadLength]

end Dispatch

/-! ## When a returned frame is verified -/

section Verdicts
variable (adapter : RtwAdapter) (f : RecvFrame) (message : Mem)

theorem SoftwarePath.bounds (h : SoftwarePath adapter f) : f.attrib.hdrlen + f.attrib.ivLen < 2 ^ 30 := by
  have hb := h.lengths.bounds
  rcases h.cipher with hw | ht | ha
  · have hiv := h.lengths.ivLen_wep hw
    omega
  · have hiv := h.lengths.ivLen_tkip ht
    omega
  · have hiv := h.lengths.ivLen_aes ha
    omega

theorem returnsVerified_wep (h : SoftwarePath adapter f)
    (hw : f.attrib.encrypt = WEP40 ∨ f.attrib.encrypt = WEP104) :
    ReturnsVerified adapter f message ↔ IcvHolds (arcfourBody (wepKey adapter f) f) (bodyLen f) := by
  obtain ⟨hval, hst⟩ := swRun_wep adapter f message hw
  have hmem := (swFrame_mem adapter f message).trans hst
  have hiff := rc4Verified_iff (wepKey adapter f) h.bounds h.len_lt _ hmem rfl rfl
  rw [returnsVerified_iff adapter f message h, hval, ← hiff]
  constructor
  · intro hv
    exact (hv rfl).wep hw
  · intro hv _
    refine ⟨fun _ => hv, fun ht => ?_, fun ha => ?_⟩
    · rcases hw with hw | hw <;> rw [hw] at ht <;> exact absurd ht (by decide)
    · rcases hw with hw | hw <;> rw [hw] at ha <;> exact absurd ha (by decide)

/-- TKIP frames come back verified but for those too short to hold an ICV. -/
theorem returnsVerified_tkip (h : SoftwarePath adapter f) (ht : f.attrib.encrypt = TKIP) :
    ReturnsVerified adapter f message ↔
      ∀ prwskey, tkipPrwskey adapter (keyed adapter f).attrib = some prwskey →
        ¬ShortIcvZero f (tkipKey f prwskey) := by
  obtain ⟨hnone, hsome⟩ := swRun_tkip adapter f message ht
  rw [returnsVerified_iff adapter f message h]
  cases hkey : tkipPrwskey adapter (keyed adapter f).attrib with
  | none => simp [hnone hkey]
  | some prwskey =>
    obtain ⟨hval, hst⟩ := hsome prwskey hkey
    have hmem := (swFrame_mem adapter f message).trans hst
    have hiff := rc4Verified_iff (tkipKey f prwskey) h.bounds h.len_lt _ hmem rfl rfl
    have hver : Verified adapter f (swFrame adapter f message) ↔
        IcvHolds (arcfourBody (tkipKey f prwskey) f) (bodyLen f) := by
      rw [← hiff]
      constructor
      · intro hv
        obtain ⟨k, hk, hrc4⟩ := hv.tkip ht
        rw [hkey] at hk
        rwa [← Option.some.inj hk] at hrc4
      · intro hv
        refine ⟨fun hw => ?_, fun _ => ⟨prwskey, hkey, hv⟩, fun ha => ?_⟩
        · rw [ht] at hw
          exact absurd hw (by decide)
        · rw [ht] at ha
          exact absurd ha (by decide)
    rw [hver, hval]
    by_cases hn : 4 ≤ bodyLen f
    · rw [bodyVerdict_long (tkipKey f prwskey) h.bounds h.len_lt hn]
      refine iff_of_true id ?_
      rintro k _ ⟨hshort, -⟩
      omega
    · rw [bodyVerdict_short (tkipKey f prwskey) h.bounds h.len_lt (by omega)]
      constructor
      · rintro hv k hk hzero
        rw [← Option.some.inj hk] at hzero
        exact hn (hv hzero).1
      · intro hv hzero
        exact absurd hzero (hv prwskey rfl)

theorem returnsVerified_aes (h : SoftwarePath adapter f) (ha : f.attrib.encrypt = AES)
    (hfit : aesPrwskey adapter (keyed adapter f).attrib ≠ none → f.attrib.hdrlen + 16 ≤ f.len ∧
      f.len ≤ MAX_MSG_SIZE ∧ (qcExists (le16 f.rxDataMem 0) = true → f.attrib.hdrlen = 26)) :
    ReturnsVerified adapter f message := by
  obtain ⟨hnone, hsome⟩ := swRun_aes adapter f message ha
  rw [returnsVerified_iff adapter f message h]
  cases hkey : aesPrwskey adapter (keyed adapter f).attrib with
  | none => simp [hnone hkey]
  | some prwskey =>
    intro hval
    obtain ⟨hlong, hmax, hqos⟩ := hfit (by simp [hkey])
    have hiv := h.lengths.ivLen_aes ha
    have hb := h.lengths.bounds
    have hlen := h.len_lt
    have hadj := (adjustHdrlen_eq_iff f.attrib.hdrlen (le16 f.rxDataMem 0)).mpr hqos
    have hplen : uint (payloadLength f.attrib f.len) = (bodyLen f - 8) + 8 := by
      have hpl := payloadLength_eq f.attrib f.len hlen (by omega)
      have hu := uint_of_nonneg (payloadLength f.attrib f.len) (by omega) (by omega)
      unfold bodyLen
      omega
    have hbody : f.attrib.hdrlen + 8 + (bodyLen f - 8) + 8 ≤ MAX_MSG_SIZE := by
      unfold bodyLen
      omega
    have hrun := hsome prwskey hkey
    rw [hplen] at hrun
    obtain ⟨hverd, hmem⟩ := aesDecipher_spec prwskey ⟨f.rxDataMem, message⟩ f.attrib.hdrlen (bodyLen f - 8)
      hadj hb.1 hbody
    rw [← hrun] at hverd hmem
    have hmem' := (swFrame_mem adapter f message).trans hmem
    have hbodyAt : ∀ i, bodyAt f i = payloadAt f.rxDataMem f.attrib.hdrlen i := by
      intro i
      rw [bodyAt, payloadAt, hiv]
      exact congrArg f.rxDataMem (by push_cast; ring)
    have hopened : ∀ k < bodyLen f - 8, bodyAt (swFrame adapter f message) k
        = opened (aes128k128d prwskey) (ccmCtr f) (payloadAt f.rxDataMem f.attrib.hdrlen) k := by
      intro k hk
      have hidx : ((swFrame adapter f message).attrib.ivLen : ℤ) + (swFrame adapter f message).attrib.hdrlen + k
          = ((f.attrib.hdrlen + 8 : ℕ) : ℤ) + (k : ℕ) := by
        show (f.attrib.ivLen : ℤ) + f.attrib.hdrlen + k = _
        rw [hiv]
        push_cast
        ring
      rw [bodyAt, hmem', hidx, patch_inside _ _ _ _ _ hk]
      rfl
    refine ⟨fun hw => ?_, fun ht => ?_, fun _ => ⟨prwskey, hkey, ?_⟩⟩
    · rw [ha] at hw
      exact absurd hw (by decide)
    · rw [ha] at ht
      exact absurd ht (by decide)
    refine ⟨by unfold bodyLen; omega, ?_, ?_⟩
    · intro k hk
      rw [hopened k hk, opened, ← hbodyAt]
    · intro i hi
      have hv := hverd.mp hval i hi
      rw [tag, ← hbodyAt] at hv
      have hblocks := payloadBlocks_congr _ _ (bodyLen f - 8) hopened
      rw [hv, hblocks, UInt8.xor_assoc]
      show _ ^^^ (_ ^^^ _) = _
      have hself : (aes128k128d prwskey (ccmCtr f 0))[i % 16] ^^^ (aes128k128d prwskey (ccmCtr f 0))[i % 16] = 0 :=
        UInt8.xor_self
      exact (congrArg (_ ^^^ ·) hself).trans UInt8.xor_zero

/-- **When software decryption lets only verified frames through**: always for TKIP frames with room for
an ICV and for CCMP frames that fit, for WEP only when the ICV is right without anyone asking. -/
theorem decryptor_verified_iff (h : SoftwarePath adapter f) :
    (IntegrityChecked adapter f → ReturnsVerified adapter f message) ∧
    (f.attrib.encrypt ≠ AES → ReturnsVerified adapter f message → IntegrityChecked adapter f) := by
  rcases h.cipher with hw | ht | ha
  · have hiff := returnsVerified_wep adapter f message h hw
    refine ⟨fun hc => hiff.mpr (hc.wep hw), fun _ hr => ⟨fun _ => hiff.mp hr, fun ht => ?_, fun ha => ?_⟩⟩
    · rcases hw with hw | hw <;> rw [hw] at ht <;> exact absurd ht (by decide)
    · rcases hw with hw | hw <;> rw [hw] at ha <;> exact absurd ha (by decide)
  · have hiff := returnsVerified_tkip adapter f message h ht
    refine ⟨fun hc => hiff.mpr (hc.tkip ht), fun _ hr => ⟨fun hw => ?_, fun _ => hiff.mp hr, fun ha => ?_⟩⟩
    · rw [ht] at hw
      exact absurd hw (by decide)
    · rw [ht] at ha
      exact absurd ha (by decide)
  · exact ⟨fun hc => returnsVerified_aes adapter f message h ha (hc.aes ha), fun hne => absurd ha hne⟩

end Verdicts

/-- A frame of `len` bytes, zero but for the byte at offset 28. -/
def softwareSample (encrypt ivLen len : ℕ) (x : UInt8) : RecvFrame where
  attrib := { encrypt := encrypt, hdrlen := 24, ivLen := ivLen, icvLen := 4 }
  mem := fun i => if i = 28 then x else 0
  len := len
  rxHead := 0
  rxData := 0
  rxTail := len
  rxEnd := len

/-- An adapter with one station, of address zero. -/
def stationSample : RtwAdapter := { stapriv := { staHash := fun _ => [0] } }

theorem decryptor_verified_tkip : ReturnsVerified stationSample (softwareSample TKIP 8 64 0) fun _ => 0 := by
  have h : SoftwarePath stationSample (softwareSample TKIP 8 64 0) :=
    ⟨.inr (.inl rfl), .inl rfl, ⟨.inl rfl, rfl⟩, by decide⟩
  refine (decryptor_verified_iff stationSample (softwareSample TKIP 8 64 0) (fun _ => 0) h).1 ⟨?_, ?_, ?_⟩
  · intro hw
    exact absurd hw (by decide)
  · rintro _ prwskey _ ⟨hshort, -⟩
    exact absurd hshort (by decide)
  · intro ha
    exact absurd ha (by decide)

/-- Of two WEP frames that differ in one byte of the ICV both are returned, and only one can be right. -/
theorem not_returnsVerified_wep :
    ¬ ∀ (adapter : RtwAdapter) (f : RecvFrame) (message : Mem),
      SoftwarePath adapter f → ReturnsVerified adapter f message := by
  intro hall
  have hpath : ∀ x, SoftwarePath {} (softwareSample WEP40 4 32 x) := fun x =>
    ⟨.inl (.inl rfl), .inl rfl, ⟨.inl rfl, rfl⟩, show 32 < 2 ^ 31 by decide⟩
  have hicv : ∀ x, IcvHolds (arcfourBody (wepKey {} (softwareSample WEP40 4 32 x)) (softwareSample WEP40 4 32 x)) 4 :=
    fun x => (returnsVerified_wep {} _ (fun _ => 0) (hpath x) (.inl rfl)).mp (hall _ _ _ (hpath x))
  have hkey : wepKey {} (softwareSample WEP40 4 32 0) = wepKey {} (softwareSample WEP40 4 32 1) := by decide
  have h0 := (hicv 0).2 0 (by norm_num)
  have h1 := (hicv 1).2 0 (by norm_num)
  rw [arcfourBody] at h0 h1
  rw [hkey] at h0
  have hbyte := (UInt8.xor_left_inj _).mp (h0.trans h1.symm)
  exact absurd hbyte (by decide)

end Rtl8723au.Security
