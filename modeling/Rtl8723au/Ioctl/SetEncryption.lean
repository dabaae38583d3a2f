import Rtl8723au.Ap.StaKeys
import Rtl8723au.Cmd.Thread

/-! Keys that the daemon of an access point sets: `rtw_set_encryption` of `os_dep/ioctl_linux.c`, and the commands
that `set_wep_key`, `set_group_key` and `set_pairwise_key` build. -/
namespace Rtl8723au
open Security
set_option autoImplicit false

/-! ## The request -/

def WEP_KEYS : ℕ := 4

/-- `sizeof(struct ieee_param)`. -/
def SIZEOF_IEEE_PARAM : ℕ := 64

def EINVAL : ℤ := 22

/-- `struct ieee_param` with its member `crypt`; `key` is what lies from `u.crypt.key` on. -/
structure IeeeParamCrypt where
  staAddr : MacAddr
  alg : Vector UInt8 16
  setTx : UInt8
  idx : UInt8
  keyLen : UInt16
  key : ℕ → UInt8

namespace IeeeParamCrypt

/-- `strcmp` with the name of the algorithm, whose last byte is made zero. -/
def algIs (param : IeeeParamCrypt) (name : String) : Bool :=
  (param.alg.toList.take 15).takeWhile (· ≠ 0) == name.toList.map fun c => UInt8.ofNat c.toNat

/-- The privacy algorithm of a key that is not for `set_wep_key`. -/
def privacy (param : IeeeParamCrypt) : ℕ :=
  if param.algIs "WEP" then if param.keyLen.toNat = 13 then WEP104 else WEP40
  else if param.algIs "TKIP" then TKIP
  else if param.algIs "CCMP" then AES
  else NO_PRIVACY

end IeeeParamCrypt

/-! ## The commands -/

/-- `memcpy` of `n` bytes over a key. -/
def copyKey (skey : Skey) (key : ℕ → UInt8) (n : ℕ) : Skey := Vector.ofFn fun i => if i.val < n then key i.val else skey[i]

/-- The keys with one of them changed; behind the array there is none. -/
def setKeyAt (keys : Vector Skey 4) (idx : ℕ) (f : Skey → Skey) : Vector Skey 4 :=
  keys.mapIdx fun i skey => if i = idx then f skey else skey

/-- `struct setkey_parm`. -/
structure SetkeyParm where
  algorithm : ℕ
  keyid : ℕ
  setTx : ℕ
  key : Skey

def groupKeylen (alg : ℕ) : ℕ :=
  if alg = WEP40 then 5
  else if alg = WEP104 then 13
  else 16

/-- What `set_group_key` puts in its command. -/
def setGroupKeyParm (key : ℕ → UInt8) (alg keyid : ℕ) : SetkeyParm :=
  { algorithm := alg, keyid := keyid % 256, setTx := 1, key := copyKey (Vector.replicate 16 0) key (groupKeylen alg) }

/-- The algorithm `set_wep_key` calls `set_group_key` with. -/
def setWepKeyAlg (keylen : ℕ) : ℕ :=
  match keylen with
  | 5 => WEP40
  | 13 => WEP104
  | _ => NO_PRIVACY

/-- What `set_pairwise_key` puts in its command. -/
def setPairwiseKeyParm (psta : StaInfo) : SetStakeyParm :=
  { addr := psta.hwaddr, algorithm := psta.dot118021XPrivacy % 256, key := psta.dot118021xUncstKey }

/-- The parameters of the command of `set_group_key` or of `set_pairwise_key`. -/
inductive KeyParm
  | setKey (parm : SetkeyParm)
  | setStakey (parm : SetStakeyParm)

def _SetKey_CMD_ : ℕ := 20

namespace KeyParm

def cmdcode : KeyParm → ℕ
  | .setKey _ => _SetKey_CMD_
  | .setStakey _ => _SetStaKey_CMD_

def isPairwise : KeyParm → Bool
  | .setKey _ => false
  | .setStakey _ => true

end KeyParm

/-! ## `rtw_set_encryption` -/

namespace IeeeParamCrypt

/-- The station the key is for; a broadcast address stands for all, with a key index that is checked. -/
def station (padapter : RtwAdapter) (param : IeeeParamCrypt) : Except ℤ (Option StaId) :=
  if param.staAddr = bcAddr then
    if WEP_KEYS ≤ param.idx.toNat then .error (-EINVAL) else .ok none
  else
    match rtwGetStainfo padapter.stapriv (some param.staAddr) with
    | none => .error 0
    | some psta => .ok (some psta)

/-- A default key; `pwep` tells whether the buffer for it could be allocated. -/
def setDefKey (padapter : RtwAdapter) (param : IeeeParamCrypt) (pwep : Bool) : RtwAdapter × Option KeyParm × ℤ :=
  if param.keyLen.toNat = 0 then (padapter, none, -EINVAL)
  else if !pwep then (padapter, none, 0)
  else
    let keyLength : Fin 14 := if param.keyLen.toNat ≤ 5 then 5 else 13
    let psecuritypriv := padapter.securitypriv
    let psecuritypriv :=
      if param.setTx ≠ 0 then
        let alg := if keyLength = 13 then WEP104 else WEP40
        { psecuritypriv with
          dot11PrivacyAlgrthm := alg
          dot118021XGrpPrivacy := alg
          dot11PrivacyKeyIndex := param.idx.toNat }
      else psecuritypriv
    let psecuritypriv := { psecuritypriv with
      dot11DefKey := setKeyAt psecuritypriv.dot11DefKey param.idx.toNat fun skey => copyKey skey param.key keyLength.val
      dot11DefKeylen := psecuritypriv.dot11DefKeylen.mapIdx fun i len => if i = param.idx.toNat then keyLength else len }
    ({ padapter with securitypriv := psecuritypriv },
      some (.setKey (setGroupKeyParm param.key (setWepKeyAlg keyLength.val) param.idx.toNat)), 0)

/-- What `rtw_set_encryption` does about TKIP or another algorithm of a group key. -/
def grpKeys (psecuritypriv : SecurityPriv) (param : IeeeParamCrypt) : SecurityPriv :=
  let idx := param.idx.toNat
  let psecuritypriv := { psecuritypriv with dot118021XGrpPrivacy := param.privacy }
  let psecuritypriv :=
    if param.algIs "WEP" || param.algIs "TKIP" || param.algIs "CCMP" then
      { psecuritypriv with
        dot118021XGrpKey := setKeyAt psecuritypriv.dot118021XGrpKey idx fun skey =>
          copyKey skey param.key (min param.keyLen.toNat 16) }
    else psecuritypriv
  if param.algIs "TKIP" then
    { psecuritypriv with
      dot118021XGrptxmickey := setKeyAt psecuritypriv.dot118021XGrptxmickey idx fun skey =>
        copyKey skey (fun i => param.key (16 + i)) 8
      dot118021XGrprxmickey := setKeyAt psecuritypriv.dot118021XGrprxmickey idx fun skey =>
        copyKey skey (fun i => param.key (24 + i)) 8
      busetkipkey := true }
  else psecuritypriv

def setGrpKey (padapter : RtwAdapter) (param : IeeeParamCrypt) : RtwAdapter × Option KeyParm × ℤ :=
  let psecuritypriv := param.grpKeys padapter.securitypriv
  let psecuritypriv := { psecuritypriv with
    dot118021XGrpKeyid := param.idx.toNat
    binstallGrpkey := true
    dot11PrivacyAlgrthm := psecuritypriv.dot118021XGrpPrivacy }
  let padapter := { padapter with securitypriv := psecuritypriv }
  let parm := setGroupKeyParm param.key psecuritypriv.dot118021XGrpPrivacy param.idx.toNat
  match rtwGetBcmcStainfo padapter.stapriv with
  | none => (padapter, some (.setKey parm), 0)
  | some pbcmcSta =>
    (padapter.setInfo pbcmcSta { padapter.staInfo pbcmcSta with
        ieee8021xBlocked := false
        dot118021XPrivacy := psecuritypriv.dot118021XGrpPrivacy },
      some (.setKey parm), 0)

def setPairwiseKey (padapter : RtwAdapter) (param : IeeeParamCrypt) (psta : StaId) :
    RtwAdapter × Option KeyParm × ℤ :=
  let sta := padapter.staInfo psta
  let sta := { sta with
    dot118021xUncstKey := copyKey sta.dot118021xUncstKey param.key (min param.keyLen.toNat 16)
    dot118021XPrivacy := param.privacy }
  let sta :=
    if param.algIs "TKIP" then
      { sta with
        dot11tkiptxmickey := copyKey sta.dot11tkiptxmickey (fun i => param.key (16 + i)) 8
        dot11tkiprxmickey := copyKey sta.dot11tkiprxmickey (fun i => param.key (24 + i)) 8 }
    else sta
  let psecuritypriv := padapter.securitypriv
  let psecuritypriv := { psecuritypriv with busetkipkey := psecuritypriv.busetkipkey || param.algIs "TKIP" }
  (({ padapter with securitypriv := psecuritypriv }).setInfo psta { sta with ieee8021xBlocked := false },
    some (.setStakey (setPairwiseKeyParm sta)), 0)

end IeeeParamCrypt

/-- `rtw_set_encryption`: the adapter, the command that is to be built for it, and what is returned, whatever comes
of the command. -/
def rtwSetEncryption (padapter : RtwAdapter) (param : IeeeParamCrypt) (paramLen : ℕ) (pwep : Bool) :
    RtwAdapter × Option KeyParm × ℤ :=
  if paramLen ≠ SIZEOF_IEEE_PARAM + param.keyLen.toNat then (padapter, none, -EINVAL)
  else
    match param.station padapter with
    | .error ret => (padapter, none, ret)
    | .ok none =>
      if param.algIs "none" then (padapter, none, 0)
      else if param.algIs "WEP" then param.setDefKey padapter pwep
      else if padapter.checkFwstate WIFI_AP_STATE then
        if param.setTx = 1 then param.setGrpKey padapter else (padapter, none, 0)
      else (padapter, none, 0)
    | .ok (some psta) =>
      if padapter.securitypriv.dot11AuthAlgrthm = dot11AuthAlgrthm_8021X then
        if padapter.checkFwstate WIFI_AP_STATE then
          if param.setTx = 1 then param.setPairwiseKey padapter psta else param.setGrpKey padapter
        else (padapter, none, 0)
      else (padapter, none, 0)

end Rtl8723au
