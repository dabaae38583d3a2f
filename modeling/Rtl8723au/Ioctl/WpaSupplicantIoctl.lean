import Rtl8723au.Ieee80211.SecurityIe
import Rtl8723au.Ioctl.HostapdIoctl

/-! `wpa_supplicant_ioctl` of `os_dep/ioctl_linux.c` with `wpa_set_encryption` and `rtw_set_wpa_ie`, as computations over
the memory of the request, and the two elements that `core/rtw_ieee80211.c` parses for it. -/
namespace Rtl8723au
open Mem Security AccessM Regions
set_option autoImplicit false

def IEEE_CMD_SET_WPA_PARAM : ℕ := 1
def IEEE_CMD_SET_WPA_IE : ℕ := 2
def IEEE_CMD_SET_ENCRYPTION : ℕ := 3
def IEEE_CMD_MLME : ℕ := 4

def RSN_HEADER_LEN : ℕ := 4

namespace Ioctl

/-! ## Keys -/

/-- `rtw_set_key`: the key for the command is one of those with the index. -/
def rtwSetKey (env : IoctlEnv) (alg idx : ℕ) : Io Bool :=
  if !env.cmd then pure false
  else if alg = WEP40 then do
    memcpy .setkeyParm 0 (.dot11DefKey idx) 0 5
    pure true
  else if alg = WEP104 then do
    memcpy .setkeyParm 0 (.dot11DefKey idx) 0 13
    pure true
  else if alg = TKIP ∨ alg = AES then do
    memcpy .setkeyParm 0 (.dot118021XGrpKey idx) 0 16
    pure true
  else pure false

/-- A default key of a station is kept; with `set_tx` it is `rtw_set_802_11_add_wep` that copies it. -/
def wpaKeepWep (env : IoctlEnv) (idx keyLength : ℕ) : Io ℤ := do
  memcpy (.pwep keyLength) 0 .param keyOffset keyLength
  let setTx ← loadSetTx
  if WEP_KEYS ≤ idx then pure (-EOPNOTSUPP)
  else do
    memcpy (.dot11DefKey idx) 0 (.pwep keyLength) 0 keyLength
    let done ← rtwSetKey env (if keyLength = 13 then WEP104 else WEP40) idx
    pure (if setTx ≠ 0 ∧ !done then -EOPNOTSUPP else 0)

def wpaSetWep (env : IoctlEnv) : Io ℤ := do
  let idx ← loadIdx
  let keyLen ← loadKeyLen
  if WEP_KEYS < idx ∨ keyLen = 0 then pure (-EINVAL)
  else if !env.pwep then pure 0
  else wpaKeepWep env idx (if keyLen ≤ 5 then 5 else 13)

/-- A pairwise or a group key of a station that is linked. -/
def wpaSetStaKey (env : IoctlEnv) (psta : StaId) : Io Unit := do
  let idx ← loadIdx
  let keyLen ← loadKeyLen
  let _ ← algIs "none"
  let setTx ← loadSetTx
  if setTx = 1 then do
    memcpy (.dot118021xUncstKey psta) 0 .param keyOffset (min keyLen 16)
    let tkip ← algIs "TKIP"
    if tkip then do
      memcpy (.dot11tkiptxmickey psta) 0 .param (keyOffset + 16) 8
      memcpy (.dot11tkiprxmickey psta) 0 .param (keyOffset + 24) 8
      setPairwiseKey env psta
    else setPairwiseKey env psta
  else do
    memcpy (.dot118021XGrpKey idx) 0 .param keyOffset (min keyLen 16)
    memcpy (.dot118021XGrptxmickey idx) 0 .param (keyOffset + 16) 8
    memcpy (.dot118021XGrprxmickey idx) 0 .param (keyOffset + 24) 8
    let _ ← rtwSetKey env (env.padapter.securitypriv.dot118021XGrpPrivacy % 256) idx
    pure ()

/-- `wpa_set_encryption`. -/
def wpaSetEncryption (env : IoctlEnv) (paramLen : ℕ) : Io ℤ := do
  clearCrypt
  let keyLen ← loadKeyLen
  if (paramLen : ℤ) < keyOffset + keyLen then pure (-EINVAL)
  else do
    let staAddr ← loadStaAddr
    if staAddr ≠ bcAddr then pure (-EINVAL)
    else do
      let idx ← loadIdx
      if WEP_KEYS ≤ idx then pure (-EINVAL)
      else do
        let wep ← algIs "WEP"
        if wep then wpaSetWep env
        else if env.padapter.securitypriv.dot11AuthAlgrthm = dot11AuthAlgrthm_8021X ∧
            env.padapter.checkFwstate (WIFI_STATION_STATE ||| WIFI_MP_STATE) then
          match rtwGetStainfo env.padapter.stapriv (some env.padapter.bssid) with
          | none => pure 0
          | some psta => do
            wpaSetStaKey env psta
            pure 0
        else pure 0

/-! ## Elements -/

def parseList (pos left : ℤ) (count : ℕ) : M Bool :=
  if count = 0 ∨ left < count * 4 then pure false
  else do
    AccessM.loop (fun i => do
      let _ ← readVec (pos + 4 * i) 4
      pure ()) count
    pure true

/-- The ciphers of an element that is parsed: one suite for the group and a list of others, behind `pos` bytes. -/
def parseSuites (pos len : ℕ) : M Bool :=
  let left : ℤ := len - pos
  if 4 ≤ left then do
    let _ ← readVec pos 4
    let left := left - 4
    if 2 ≤ left then do
      let lo ← read (pos + 4)
      let hi ← read (pos + 5)
      parseList (pos + 6) (left - 2) (lo.toNat + 256 * hi.toNat)
    else pure (left ≠ 1)
  else pure (left ≤ 0)

/-- `rtw_parse_wpa_ie`; of the element it needs to be told only whether it is one. -/
def rtwParseWpaIe (len : ℕ) : M Bool := do
  let id ← read 0
  if id ≠ 0xdd then pure false
  else do
    let n ← read 1
    if n ≠ UInt8.ofNat (len - 2) then pure false
    else do
      let oui ← readVec 2 4
      if oui ≠ Ieee80211.RTW_WPA_OUI_TYPE then pure false else parseSuites 8 len

/-- `rtw_parse_wpa2_ie`. -/
def rtwParseWpa2Ie (len : ℕ) : M Bool := do
  let id ← read 0
  if id ≠ 0x30 then pure false
  else do
    let n ← read 1
    if n ≠ UInt8.ofNat (len - 2) then pure false else parseSuites 4 len

/-- To the next element of those that may hold one of the protected setup; the count has 16 bits. -/
def wpsNext (ielen cnt : ℕ) : Io (Option ℕ) := do
  let len ← loadLe (.buf ielen) (cnt + 1) 1
  let cnt := (cnt + (len + 2)) % 2 ^ 16
  pure (if cnt < ielen then some cnt else none)

/-- `wps_oui`. -/
def wpsOui : Vector UInt8 4 := ⟨#[0x00, 0x50, 0xf2, 0x04], by decide⟩

/-- A pass of the search for an element of the protected setup, at `cnt`; it is kept in `wps_ie`. -/
def wpsPass (ielen cnt : ℕ) : Io (Option ℕ) := do
  let eid ← peek (region (.buf ielen)) cnt
  if eid = 0xdd then do
    let oui ← loadVec (.buf ielen) (cnt + 2) 4
    if oui = wpsOui then do
      let len ← loadLe (.buf ielen) (cnt + 1) 1
      memcpy .securityWpsIe 0 (.buf ielen) cnt (min (len + 2) (4 * MAX_WPA_IE_LEN))
      pure none
    else wpsNext ielen cnt
  else wpsNext ielen cnt

/-- The message that prints eight bytes a line. -/
def dumpIe (ielen : ℕ) : Io Unit := AccessM.loop (fun i => do
  let _ ← load (.buf ielen) (8 * i) 8
  pure ()) ((ielen + 7) / 8)

/-- An element that has been parsed is kept in `supplicant_ie`. -/
def keepSupplicantIe (ielen : ℕ) (parsed : Bool) : Io Unit :=
  if parsed then memcpy .supplicantIe 0 (.buf ielen) 0 ielen else pure ()

/-- The part of `rtw_set_wpa_ie` for an element that is there. -/
def keepWpaIe (env : IoctlEnv) (pie : ℤ) (ielen : ℕ) : Io ℤ := do
  memcpy (.buf ielen) 0 .param pie ielen
  dbg env (dumpIe ielen)
  if ielen < RSN_HEADER_LEN then pure (-1)
  else do
    let wpa ← zoom (region (.buf ielen)) (rtwParseWpaIe ielen)
    keepSupplicantIe ielen wpa
    let wpa2 ← zoom (region (.buf ielen)) (rtwParseWpa2Ie ielen)
    keepSupplicantIe ielen wpa2
    iterate (wpsPass ielen) ielen 0
    pure 0

/-- `rtw_set_wpa_ie`. -/
def rtwSetWpaIe (env : IoctlEnv) (pie : ℤ) (ielen : ℕ) : Io ℤ :=
  if MAX_WPA_IE_LEN < ielen then pure (-EINVAL)
  else if ielen = 0 then pure 0
  else if !env.buf then pure (-ENOMEM)
  else keepWpaIe env pie ielen

/-! ## The dispatch -/

/-- The `switch` of `wpa_supplicant_ioctl`; the length of an element is told in 16 bits. -/
def wpaRequest (env : IoctlEnv) (cmd length : ℕ) : Io ℤ :=
  if cmd = IEEE_CMD_SET_WPA_PARAM then do
    let _ ← loadLe .param 12 1
    let _ ← loadLe .param 16 4
    pure (if env.paramDone then 0 else -EINVAL)
  else if cmd = IEEE_CMD_SET_WPA_IE then do
    let len ← loadLe .param 12 4
    rtwSetWpaIe env keyOffset (len % 2 ^ 16)
  else if cmd = IEEE_CMD_SET_ENCRYPTION then wpaSetEncryption env length
  else if cmd = IEEE_CMD_MLME then do
    let _ ← loadLe .param 12 4
    let _ ← loadLe .param 16 4
    pure (if env.paramDone then 0 else -EINVAL)
  else pure (-EOPNOTSUPP)

/-- `wpa_supplicant_ioctl`. -/
def wpaSupplicantIoctl (env : IoctlEnv) (length : ℕ) : Io ℤ :=
  if length < SIZEOF_IEEE_PARAM ∨ !env.pointer then pure (-EINVAL)
  else if !env.kmalloc then pure (-ENOMEM)
  else if !env.copied then pure (-EFAULT)
  else do
    let cmd ← loadCmd
    let ret ← wpaRequest env cmd length
    if ret = 0 then do
      let _ ← load .param 0 length
      pure ret
    else pure ret

/-- The two private requests of `rtw_ioctl`. -/
inductive PrivateIoctl
  | hostapd
  | wpaSupplicant

/-- `rtw_ioctl` of a private request of `p->length` bytes. -/
def rtwIoctl (env : IoctlEnv) (length : ℕ) : PrivateIoctl → Io ℤ
  | .hostapd => rtwHostapdIoctl env length
  | .wpaSupplicant => wpaSupplicantIoctl env length

end Ioctl

end Rtl8723au
