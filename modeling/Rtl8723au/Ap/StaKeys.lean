import Rtl8723au.Ap.AssocIds

/-! The pairwise keys of an access point in the key cache of the hardware: `rtw_setstakey_cmd` and
`rtw_clearstakey_cmd` of `core/rtw_cmd.c`, which put a command in the queue, and `set_stakey_hdl` of
`core/rtw_mlme_ext.c`, which the command thread runs later. Of the queue only these commands are kept. -/
namespace Rtl8723au
open Security
set_option autoImplicit false

/-! ## The key cache -/

/-- An entry as `write_cam` fills it. -/
structure CamEntry where
  ctrl : BitVec 16
  mac : MacAddr
  key : Skey
  deriving DecidableEq

/-- What `clear_cam_entry` writes. -/
def clearedEntry : CamEntry := ⟨0, Vector.replicate 6 0, Vector.replicate 16 0⟩

def writeCam (cam : ℕ → CamEntry) (entry : ℕ) (ctrl : BitVec 16) (mac : MacAddr) (key : Skey) : ℕ → CamEntry :=
  Function.update cam entry ⟨ctrl, mac, key⟩

def clearCamEntry (cam : ℕ → CamEntry) (entry : ℕ) : ℕ → CamEntry := Function.update cam entry clearedEntry

/-- `struct set_stakey_parm`; `id` is the entry to clear when `algorithm` is `_NO_PRIVACY_`. -/
structure SetStakeyParm where
  addr : MacAddr
  algorithm : ℕ
  id : ℕ := 0
  key : Skey := Vector.replicate 16 0

/-- `BIT(15) | (algorithm << 2)`. -/
def camCtrl (algorithm : ℕ) : BitVec 16 := 0x8000#16 ||| (BitVec.ofNat 16 algorithm <<< 2)

def H2C_SUCCESS : ℕ := 0x00
def H2C_SUCCESS_RSP : ℕ := 0x01
def H2C_REJECTED : ℕ := 0x05

/-- `set_stakey_hdl`; `enc_algo`, which it sets outside access point mode, is left out. -/
def setStakeyHdl (padapter : RtwAdapter) (pparm : SetStakeyParm) (cam : ℕ → CamEntry) : ℕ × (ℕ → CamEntry) :=
  let camId := 4
  if padapter.mlmeinfoState &&& 0x03 = WIFI_FW_AP_STATE then
    if pparm.algorithm = NO_PRIVACY then (H2C_SUCCESS_RSP, clearCamEntry cam pparm.id)
    else
      match rtwGetStainfo padapter.stapriv (some pparm.addr) with
      | some psta =>
        let macId := (padapter.staInfo psta).macId
        if macId < 1 ∨ NUM_STA - 4 < macId then (H2C_REJECTED, cam)
        else (H2C_SUCCESS_RSP, writeCam cam (macId + 3) (camCtrl pparm.algorithm) pparm.addr pparm.key)
      | none => (H2C_REJECTED, cam)
  else if pparm.algorithm = NO_PRIVACY then (H2C_SUCCESS, clearCamEntry cam pparm.id)
  else (H2C_SUCCESS, writeCam cam camId (camCtrl pparm.algorithm) pparm.addr pparm.key)

/-! ## The machine -/

/-- The driver, the queue of the command thread and the key cache. `installed` are the stations whose key
was installed since they have their entry. -/
structure StaKeys where
  ap : RtwAdapter
  cmdQueue : List SetStakeyParm := []
  cam : ℕ → CamEntry
  installed : StaId → Bool := fun _ => false

namespace StaKeys

/-- The algorithm `rtw_setstakey_cmd` asks for. -/
def stakeyAlgorithm (padapter : RtwAdapter) (psta : StaId) : ℕ :=
  if padapter.checkFwstate WIFI_STATION_STATE then padapter.securitypriv.dot11PrivacyAlgrthm % 256
  else getEncryAlgo padapter.securitypriv (padapter.staInfo psta) 0 false

/-- `rtw_setstakey_cmd`. -/
def rtwSetstakeyCmd (s : StaKeys) (psta : StaId) (unicastKey : Bool) : StaKeys :=
  let psecuritypriv := s.ap.securitypriv
  let sta := s.ap.staInfo psta
  let psetstakeyPara : SetStakeyParm := {
    addr := sta.hwaddr
    algorithm := stakeyAlgorithm s.ap psta
    key :=
      if unicastKey then sta.dot118021xUncstKey
      else psecuritypriv.dot118021XGrpKey[psecuritypriv.dot118021XGrpKeyid % 4] }
  { s with
    ap := { s.ap with securitypriv := { psecuritypriv with busetkipkey := true } }
    cmdQueue := s.cmdQueue ++ [psetstakeyPara] }

/-- `rtw_clearstakey_cmd`. -/
def rtwClearstakeyCmd (s : StaKeys) (psta : StaId) (entry : ℕ) (enqueue : Bool) : StaKeys :=
  if !enqueue then { s with cam := clearCamEntry s.cam entry }
  else
    { s with
      cmdQueue := s.cmdQueue ++ [{ addr := (s.ap.staInfo psta).hwaddr, algorithm := NO_PRIVACY, id := entry }] }

/-- `ap_free_sta` for a station its caller takes off `asoc_list`. -/
def leave (s : StaKeys) (psta : StaId) : StaKeys :=
  if psta ∈ s.ap.stapriv.asocList then
    let s := s.rtwClearstakeyCmd psta (((s.ap.staInfo psta).macId + 3) % 256) true
    { s with ap := asocListLeave s.ap psta, installed := Function.update s.installed psta false }
  else s

/-- A station associates: one without an entry is given one, and `OnAssocReq` accepts the request from the
association identifier on. The checks in front of it change neither identifier nor key. -/
def associate (s : StaKeys) (sa : MacAddr) : StaKeys :=
  match rtwGetStainfo s.ap.stapriv (some sa) with
  | some psta => { s with ap := (assocAccept s.ap psta (s.ap.staInfo psta)).1 }
  | none =>
    match rtwAllocStainfo s.ap.stapriv sa with
    | (_, none) => s
    | (stapriv, some psta) =>
      { s with
        ap := (assocAccept (s.ap.setStapriv stapriv) psta (stapriv.staInfo psta)).1
        installed := Function.update s.installed psta false }

/-- A pairwise key of an associated station: the station keeps it, and the hardware is told. -/
def setKey (s : StaKeys) (psta : StaId) (algorithm : ℕ) (key : Skey) : StaKeys :=
  if psta ∈ s.ap.stapriv.asocList then
    let info := { s.ap.staInfo psta with dot118021xUncstKey := key, dot118021XPrivacy := algorithm }
    { ({ s with ap := s.ap.setInfo psta info }).rtwSetstakeyCmd psta true with
      installed := Function.update s.installed psta true }
  else s

/-- The command thread takes the next command. -/
def cmdThread (s : StaKeys) : StaKeys :=
  match s.cmdQueue with
  | [] => s
  | pparm :: rest => { s with cmdQueue := rest, cam := (setStakeyHdl s.ap pparm s.cam).2 }

end StaKeys

/-- The pairwise ciphers that have a key in the cache. -/
inductive PairwiseCipher where
  | tkip
  | aes

def PairwiseCipher.algorithm : PairwiseCipher → ℕ
  | .tkip => TKIP
  | .aes => AES

/-- The address of a station is no group address. -/
abbrev StaAddr := { addr : MacAddr // isMulticastEtherAddr addr = false }

inductive KeyEvent where
  | associate (sa : StaAddr)
  | setKey (psta : StaId) (cipher : PairwiseCipher) (key : Skey)
  | leave (psta : StaId)
  | cmdThread

namespace StaKeys

def step (s : StaKeys) : KeyEvent → StaKeys
  | .associate sa => s.associate sa
  | .setKey psta cipher key => s.setKey psta cipher.algorithm key
  | .leave psta => s.leave psta
  | .cmdThread => s.cmdThread

def run (s : StaKeys) (events : List KeyEvent) : StaKeys := events.foldl step s

/-- The access point at its start, with default keys in entries 0 to 3 and the rest of the cache cleared. -/
def start (config : RtwAdapter) (defaultKeys : Fin 4 → CamEntry) : StaKeys where
  ap := (ApHistory.start config).ap
  cam entry := if h : entry < 4 then defaultKeys ⟨entry, h⟩ else clearedEntry

/-- An access point with TKIP or AES. -/
structure Protected (config : RtwAdapter) : Prop where
  apMode : config.mlmeinfoState &&& 0x03 = WIFI_FW_AP_STATE
  noStation : config.checkFwstate WIFI_STATION_STATE = false
  privacy : config.securitypriv.dot11PrivacyAlgrthm = TKIP ∨ config.securitypriv.dot11PrivacyAlgrthm = AES
  auth : config.securitypriv.dot11AuthAlgrthm < 4

/-! ## What the cache should hold -/

/-- An entry of the stations is cleared, or has the address and the key of the station whose entry it is;
a station with a key has its entry. -/
structure CamFollows (s : StaKeys) : Prop where
  entry : ∀ e, 4 ≤ e → e < 32 → s.cam e = clearedEntry ∨
    ∃ p ∈ s.ap.stapriv.asocList, (s.ap.staInfo p).macId + 3 = e ∧
      (s.cam e).mac = (s.ap.staInfo p).hwaddr ∧ (s.cam e).key = (s.ap.staInfo p).dot118021xUncstKey
  installed : ∀ p ∈ s.ap.stapriv.asocList, s.installed p = true → (s.ap.staInfo p).macId + 3 < 32 ∧
    s.cam ((s.ap.staInfo p).macId + 3) = ⟨camCtrl (stakeyAlgorithm s.ap p), (s.ap.staInfo p).hwaddr,
      (s.ap.staInfo p).dot118021xUncstKey⟩

end StaKeys

end Rtl8723au
