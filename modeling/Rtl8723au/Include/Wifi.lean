import Rtl8723au.Library.AccessM

/-! The 802.11 header macros of `include/wifi.h`. A macro that casts to
`unsigned short *` reads two bytes; the rest are masks on that number. -/
namespace Rtl8723au.Wifi
open Mem
set_option autoImplicit false

def WLAN_HDR_A3_LEN : ℕ := 24
def WLAN_HDR_A4_LEN : ℕ := 30
def WLAN_HDR_A3_QOS_LEN : ℕ := 26

def WIFI_MGT_TYPE : ℕ := 0x00
def WIFI_CTRL_TYPE : ℕ := 0x04
def WIFI_DATA_TYPE : ℕ := 0x08
def WIFI_QOS_DATA_TYPE : ℕ := 0x88
def WIFI_DATA_CFACK : ℕ := 0x18
def WIFI_DATA_CFPOLL : ℕ := 0x28
def WIFI_DATA_CFACKPOLL : ℕ := 0x38
def WIFI_DATA_NULL : ℕ := 0x48
def WIFI_QOS_DATA_NULL : ℕ := 0xc8

/-- `le16_to_cpu(*(unsigned short *)(pbuf))`. -/
def readLe16 (p : ℤ) : M ℕ := do
  let b0 ← read p
  let b1 ← read (p + 1)
  pure (b0.toNat + 256 * b1.toNat)

/-- The frame control field without a trace of the access. -/
def le16 (m : Mem) (p : ℤ) : ℕ := (m p).toNat + 256 * (m (p + 1)).toNat

@[simp] theorem readLe16_val (p : ℤ) (m : Mem) : ((readLe16 p).run m).val = le16 m p := rfl
@[simp] theorem readLe16_st (p : ℤ) (m : Mem) : ((readLe16 p).run m).st = m := rfl
@[simp] theorem inside_readLe16 (P : ℤ → Prop) (p : ℤ) (m : Mem) :
    AccessM.Inside P (readLe16 p) m ↔ P p ∧ P (p + 1) := by
  simp [readLe16]

theorem le16_lt (m : Mem) (p : ℤ) : le16 m p < 2 ^ 16 := by
  have h0 := (m p).toNat_lt
  have h1 := (m (p + 1)).toNat_lt
  rw [le16]
  omega

/-! ## Writing a field -/

/-- `*(unsigned short *)(pbuf) = cpu_to_le16(v)`. -/
def putLe16 (m : Mem) (p : ℤ) (v : ℕ) : Mem :=
  Function.update (Function.update m p (UInt8.ofNat v)) (p + 1) (UInt8.ofNat (v / 256))

def onLe16 (m : Mem) (p : ℤ) (f : ℕ → ℕ) : Mem := putLe16 m p (f (le16 m p))

theorem putLe16_outside (m : Mem) (p : ℤ) (v : ℕ) (x : ℤ) (h : x < p ∨ p + 1 < x) :
    putLe16 m p v x = m x := by
  rw [putLe16, Function.update_of_ne (by omega), Function.update_of_ne (by omega)]

theorem le16_putLe16 (m : Mem) (p : ℤ) (v : ℕ) (hv : v < 2 ^ 16) : le16 (putLe16 m p v) p = v := by
  rw [le16, putLe16, Function.update_of_ne (by omega), Function.update_self, Function.update_self,
    UInt8.toNat_ofNat', UInt8.toNat_ofNat']
  omega

theorem le16_congr (m m' : Mem) (p : ℤ) (h0 : m p = m' p) (h1 : m (p + 1) = m' (p + 1)) :
    le16 m p = le16 m' p := by
  rw [le16, le16, h0, h1]

theorem onLe16_outside (m : Mem) (p : ℤ) (f : ℕ → ℕ) (x : ℤ) (h : x < p ∨ p + 1 < x) :
    onLe16 m p f x = m x :=
  putLe16_outside m p _ x h

theorem le16_onLe16 (m : Mem) (p : ℤ) (f : ℕ → ℕ) (hf : f (le16 m p) < 2 ^ 16) :
    le16 (onLe16 m p f) p = f (le16 m p) :=
  le16_putLe16 m p _ hf

theorem le16_onLe16_of_ne (m : Mem) (p : ℤ) (f : ℕ → ℕ) (q : ℤ) (h : q + 1 < p ∨ p + 1 < q) :
    le16 (onLe16 m p f) q = le16 m q :=
  le16_congr _ _ q (onLe16_outside m p f q (by omega)) (onLe16_outside m p f (q + 1) (by omega))

/-! ## Masks on the frame control field -/

def getFrameType (fc : ℕ) : ℕ := fc &&& 0x0c
def getFrameSubType (fc : ℕ) : ℕ := fc &&& 0xfc
def getToDs (fc : ℕ) : Bool := fc &&& 0x100 != 0
def getFrDs (fc : ℕ) : Bool := fc &&& 0x200 != 0
def getTofrDs (fc : ℕ) : ℕ := (getToDs fc).toNat <<< 1 ||| (getFrDs fc).toNat
def getMFrag (fc : ℕ) : Bool := fc &&& 0x400 != 0
def getRetry (fc : ℕ) : Bool := fc &&& 0x800 != 0
def getPwrMgt (fc : ℕ) : Bool := fc &&& 0x1000 != 0
def getMData (fc : ℕ) : Bool := fc &&& 0x2000 != 0
def getPrivacy (fc : ℕ) : Bool := fc &&& 0x4000 != 0
def getOrder (fc : ℕ) : Bool := fc &&& 0x8000 != 0

def setToDs (m : Mem) (pbuf : ℤ) : Mem := onLe16 m pbuf (· ||| 0x100)
def setFrDs (m : Mem) (pbuf : ℤ) : Mem := onLe16 m pbuf (· ||| 0x200)
def setMFrag (m : Mem) (pbuf : ℤ) : Mem := onLe16 m pbuf (· ||| 0x400)
def clearMFrag (m : Mem) (pbuf : ℤ) : Mem := onLe16 m pbuf (· &&& 0xfbff)
def setMData (m : Mem) (pbuf : ℤ) : Mem := onLe16 m pbuf (· ||| 0x2000)
def setPrivacy (m : Mem) (pbuf : ℤ) : Mem := onLe16 m pbuf (· ||| 0x4000)
def setFrameSubType (m : Mem) (pbuf : ℤ) (type : ℕ) : Mem := onLe16 m pbuf fun fc => (fc &&& 0xff03) ||| type

/-! ## The sequence control and QoS control fields -/

def getSequence (sc : ℕ) : ℕ := sc >>> 4
def getFragNum (sc : ℕ) : ℕ := sc &&& 0x0f
def getPriority (qc : ℕ) : ℕ := qc &&& 0xf
def getAckpolicy (qc : ℕ) : ℕ := (qc >>> 5) &&& 0x3
def getAMsdu (qc : ℕ) : ℕ := (qc >>> 7) &&& 0x1

def setSeqNum (m : Mem) (pbuf : ℤ) (num : ℕ) : Mem :=
  onLe16 m (pbuf + 22) fun sc => (sc &&& 0x000f) ||| (0xfff0 &&& (num <<< 4))
def setPriority (m : Mem) (pbuf : ℤ) (tid : ℕ) : Mem := onLe16 m pbuf (· ||| (tid &&& 0xf))
def setEOSP (m : Mem) (pbuf : ℤ) (eosp : ℕ) : Mem := onLe16 m pbuf (· ||| ((eosp &&& 1) <<< 4))
def setAckpolicy (m : Mem) (pbuf : ℤ) (ack : ℕ) : Mem := onLe16 m pbuf (· ||| ((ack &&& 3) <<< 5))

/-! ## Addresses -/

def getAddr1Ptr (pbuf : ℤ) : ℤ := pbuf + 4
def getAddr2Ptr (pbuf : ℤ) : ℤ := pbuf + 10
def getAddr3Ptr (pbuf : ℤ) : ℤ := pbuf + 16
def getAddr4Ptr (pbuf : ℤ) : ℤ := pbuf + 24

end Rtl8723au.Wifi

namespace Rtl8723au

def P2P_STATUS_SUCCESS : ℕ := 0x00
def P2P_STATUS_FAIL_INFO_UNAVAILABLE : ℕ := 0x01
def P2P_STATUS_FAIL_INVALID_PARAM : ℕ := 0x04
def P2P_STATUS_FAIL_REQUEST_UNABLE : ℕ := 0x05
def P2P_STATUS_FAIL_NO_COMMON_CH : ℕ := 0x07
def P2P_STATUS_FAIL_BOTH_GOINTENT_15 : ℕ := 0x09

end Rtl8723au
