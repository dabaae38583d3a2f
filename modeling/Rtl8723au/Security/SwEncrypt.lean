import Rtl8723au.Security.SwDecrypt
import Rtl8723au.Xmit.Attrib

/-! Software encryption of the MPDUs of a transmit frame: `rtw_wep_encrypt`, `rtw_tkip_encrypt` and
`rtw_aes_encrypt` of `core/rtw_security.c`. The three walk the buffer in the same way. -/
namespace Rtl8723au.Security
open Mem
set_option autoImplicit false

/-! ## The walk over the fragments -/

/-- `pframe` at the fragment `curfragnum`. -/
def fragPframe (fragLen : ℕ) : ℕ → ℤ
  | 0 => TXDESC_OFFSET
  | curfragnum + 1 => rnd4 (fragPframe fragLen curfragnum + fragLen)

/-- `length`. -/
def fragLength (fragLen : ℕ) (a : PktAttrib) (curfragnum : ℕ) : ℤ :=
  if curfragnum + 1 = a.nrFrags then (a.lastTxcmdsz : ℤ) - a.hdrlen - a.ivLen - a.icvLen
  else (fragLen : ℤ) - a.hdrlen - a.ivLen - a.icvLen

/-! ## WEP and TKIP -/

/-- `arcfour_encrypt` from an array outside the frame. -/
def arcfourEncryptFrom (ctx : Arc4context) (dest : ℤ) (src : ℕ → UInt8) (len : ℕ) : M Arc4context :=
  AccessM.loopAcc (fun i ctx => do
    let (k, ctx) := arcfourByte ctx
    write (dest + i) (src i ^^^ k)
    pure ctx) ctx len

/-- What `rtw_wep_encrypt` and `rtw_tkip_encrypt` do once the RC4 key is known: the ICV of the payload, then
the payload and the ICV under one key stream. -/
def arcfourSeal (key : List UInt8) (payload length : ℤ) : M Unit := do
  let crc ← getcrc32 payload length
  let mycontext ← arcfourEncrypt (arcfourInit key) payload payload (uint length)
  let _ ← arcfourEncryptFrom mycontext (payload + length) (byteOf crc) 4
  pure ()

/-- `wepkey + 3`, the default key of this index. -/
def wepDefKey (sp : SecurityPriv) (keyIndex : ℕ) : List UInt8 :=
  (sp.dot11DefKey[keyIndex % 4]).toList.take sp.dot11DefKeylen[keyIndex % 4]

def wepFrag (padapter : RtwAdapter) (a : PktAttrib) (pframe length : ℤ) : M Unit := do
  let iv ← readVec (pframe + a.hdrlen) 3
  arcfourSeal (iv.toList ++ wepDefKey padapter.securitypriv padapter.securitypriv.dot11PrivacyKeyIndex)
    (pframe + a.ivLen + a.hdrlen) length

def rtwWepEncrypt (padapter : RtwAdapter) (a : PktAttrib) : M Unit :=
  if a.encrypt = WEP40 ∨ a.encrypt = WEP104 then
    AccessM.loop (fun curfragnum => wepFrag padapter a (fragPframe padapter.fragLen curfragnum)
      (fragLength padapter.fragLen a curfragnum)) a.nrFrags
  else pure ()

/-- `prwskey` of `rtw_tkip_encrypt` and `rtw_aes_encrypt`, when the station is there and linked. -/
def xmitPrwskey (padapter : RtwAdapter) (a : PktAttrib) : Option Skey := do
  let stainfo ← xmitSta padapter a
  if isMulticastEtherAddr a.ra then
    pure padapter.securitypriv.dot118021XGrpKey[padapter.securitypriv.dot118021XGrpKeyid % 4]
  else pure (padapter.staInfo stainfo).dot118021xUncstKey

def tkipFrag (prwskey : Skey) (a : PktAttrib) (pframe length : ℤ) : M Unit := do
  let iv ← readVec (pframe + a.hdrlen) 8
  arcfourSeal (tkipRc4key prwskey a.ta iv).toList (pframe + a.ivLen + a.hdrlen) length

def rtwTkipEncrypt (padapter : RtwAdapter) (a : PktAttrib) : M Unit :=
  if a.encrypt = TKIP then
    match xmitPrwskey padapter a with
    | none => pure ()
    | some prwskey =>
      AccessM.loop (fun curfragnum => tkipFrag prwskey a (fragPframe padapter.fragLen curfragnum)
        (fragLength padapter.fragLen a curfragnum)) a.nrFrags
  else pure ()

/-! ## CCMP -/

/-- The bytes from `pframe` on, which `aes_cipher` counts from zero. -/
def framePart (pframe : ℤ) : AccessM.Part ℤ Mem ℤ Mem where
  get m := fun i => m (pframe + i)
  set m' _ := fun x => m' (x - pframe)
  addr i := pframe + i

def aesFrag (prwskey : Skey) (a : PktAttrib) (pframe length : ℤ) : M Unit :=
  AccessM.zoom (framePart pframe) (aesCipher prwskey a.hdrlen (uint length))

def rtwAesEncrypt (padapter : RtwAdapter) (a : PktAttrib) : M Unit :=
  if a.encrypt = AES then
    match xmitPrwskey padapter a with
    | none => pure ()
    | some prwskey =>
      AccessM.loop (fun curfragnum => aesFrag prwskey a (fragPframe padapter.fragLen curfragnum)
        (fragLength padapter.fragLen a curfragnum)) a.nrFrags
  else pure ()

/-- `xmitframe_swencrypt`. -/
def xmitframeSwencrypt (padapter : RtwAdapter) (f : XmitFrame) : XmitFrame :=
  if f.attrib.bswenc then
    match f.attrib.encrypt with
    | 0x1 | 0x5 => { f with mem := ((rtwWepEncrypt padapter f.attrib).run f.mem).st }
    | 0x2 => { f with mem := ((rtwTkipEncrypt padapter f.attrib).run f.mem).st }
    | 0x4 => { f with mem := ((rtwAesEncrypt padapter f.attrib).run f.mem).st }
    | _ => f
  else f

/-! ## What a sealed stretch holds -/

theorem arcfourEncrypt_val (ctx : Arc4context) (p : ℤ) (len : ℕ) (m : Mem) :
    ((arcfourEncrypt ctx p p len).run m).val = arcfourAfter ctx len := by
  refine AccessM.loopAcc_invariant _ (fun i c _ => c = arcfourAfter ctx i) ctx m len rfl ?_
  rintro i _ c t rfl
  exact (arcfourAfter_succ ctx i).symm

theorem arcfourAfter_add (ctx : Arc4context) (n k : ℕ) :
    arcfourAfter (arcfourAfter ctx n) k = arcfourAfter ctx (n + k) := by
  rw [Nat.add_comm n k]
  exact (Function.iterate_add_apply _ k n ctx).symm

theorem arcfourEncryptFrom_st (ctx : Arc4context) (p : ℤ) (src : ℕ → UInt8) (len : ℕ) (m : Mem) :
    ((arcfourEncryptFrom ctx p src len).run m).st = patch m p len fun k => src k ^^^ arcfourStream ctx k := by
  set v : ℕ → UInt8 := fun k => src k ^^^ arcfourStream ctx k with hv
  refine (AccessM.loopAcc_invariant _ (fun i c t => c = arcfourAfter ctx i ∧ t = patch m p i v) ctx m len
    ⟨rfl, (patch_zero m p v).symm⟩ ?_).2
  rintro i _ c t ⟨rfl, rfl⟩
  refine ⟨(arcfourAfter_succ ctx i).symm, ?_⟩
  show Function.update (patch m p i v) (p + i) (src i ^^^ arcfourStream ctx i) = patch m p (i + 1) v
  rw [← patch_append m p i 1 v]
  funext x
  by_cases hx : x = p + i
  · have hone := patch_inside (patch m p i v) (p + i) 1 (fun k => v (i + k)) 0 Nat.one_pos
    rw [Nat.cast_zero, add_zero] at hone
    rw [hx, Function.update_self, hone]
    rfl
  · rw [Function.update_of_ne hx, patch_outside _ (p + i) 1 _ _ (by omega)]

/-- The plain bytes under the seal: the payload, then its ICV. -/
def sealedPlain (m : Mem) (p : ℤ) (n k : ℕ) : UInt8 :=
  if k < n then m (p + k) else byteOf (Crc32.crc32 (bytesAt m p n)) (k - n)

theorem arcfourSeal_st (key : List UInt8) (p : ℤ) (n : ℕ) (m : Mem) (hn : n < 2 ^ 32) :
    ((arcfourSeal key p n).run m).st
      = patch m p (n + 4) fun k => sealedPlain m p n k ^^^ arcfourStream (arcfourInit key) k := by
  obtain ⟨hcrc, hst⟩ := getcrc32_val p n m
  have hu : uint n = n := uint_natCast n hn
  have hcrc' : ((getcrc32 p n).run m).val = Crc32.crc32 (bytesAt m p n) := by
    rw [hcrc, Int.toNat_natCast]
  unfold arcfourSeal
  simp only [AccessM.bind_st, AccessM.pure_st]
  rw [hst, hcrc', hu, arcfourEncrypt_val, arcfourEncryptFrom_st, arcfourEncrypt_st, ← patch_append]
  have hleft : (patch m p n fun k => m (p + k) ^^^ arcfourStream (arcfourInit key) k)
      = patch m p n fun k => sealedPlain m p n k ^^^ arcfourStream (arcfourInit key) k := by
    refine patch_congr m p n _ _ fun k hk => ?_
    rw [sealedPlain, if_pos hk]
  rw [hleft]
  refine patch_congr _ _ 4 _ _ fun k _ => ?_
  have hstream : arcfourStream (arcfourAfter (arcfourInit key) n) k
      = arcfourStream (arcfourInit key) (n + k) := by
    unfold arcfourStream
    rw [arcfourAfter_add]
  rw [hstream, sealedPlain, if_neg (by omega), Nat.add_sub_cancel_left]

theorem rc4_cancel (x k : UInt8) : x ^^^ k ^^^ k = x := by
  rw [UInt8.xor_assoc, UInt8.xor_self, UInt8.xor_zero]

end Rtl8723au.Security
