import Rtl8723au.Security.Arcfour

/-! The elements that tell the ciphers of a network, as `rtw_parse_wpa_ie` and `rtw_parse_wpa2_ie` of
`core/rtw_ieee80211.c` read them. -/
namespace Rtl8723au.Ieee80211
open Mem Security AccessM
set_option autoImplicit false

/-- Four bytes that name a cipher or a way to manage keys. -/
abbrev Selector := Vector UInt8 4

def _WPA_IE_ID_ : UInt8 := 0xdd
def _WPA2_IE_ID_ : UInt8 := 0x30
def RTW_WPA_OUI_TYPE : Selector := #v[0x00, 0x50, 0xf2, 1]

def WPA_CIPHER_NONE : BitVec 32 := 1#32 <<< 0
def WPA_CIPHER_WEP40 : BitVec 32 := 1#32 <<< 1
def WPA_CIPHER_WEP104 : BitVec 32 := 1#32 <<< 2
def WPA_CIPHER_TKIP : BitVec 32 := 1#32 <<< 3
def WPA_CIPHER_CCMP : BitVec 32 := 1#32 <<< 4

def WPA_CIPHER_SUITE_NONE : Selector := #v[0x00, 0x50, 0xf2, 0]
def WPA_CIPHER_SUITE_WEP40 : Selector := #v[0x00, 0x50, 0xf2, 1]
def WPA_CIPHER_SUITE_TKIP : Selector := #v[0x00, 0x50, 0xf2, 2]
def WPA_CIPHER_SUITE_CCMP : Selector := #v[0x00, 0x50, 0xf2, 4]
def WPA_CIPHER_SUITE_WEP104 : Selector := #v[0x00, 0x50, 0xf2, 5]

def RSN_CIPHER_SUITE_NONE : Selector := #v[0x00, 0x0f, 0xac, 0]
def RSN_CIPHER_SUITE_WEP40 : Selector := #v[0x00, 0x0f, 0xac, 1]
def RSN_CIPHER_SUITE_TKIP : Selector := #v[0x00, 0x0f, 0xac, 2]
def RSN_CIPHER_SUITE_CCMP : Selector := #v[0x00, 0x0f, 0xac, 4]
def RSN_CIPHER_SUITE_WEP104 : Selector := #v[0x00, 0x0f, 0xac, 5]

/-- `rtw_get_wpa_cipher_suite`. -/
def rtwGetWpaCipherSuite (s : Selector) : BitVec 32 :=
  if s = WPA_CIPHER_SUITE_NONE then WPA_CIPHER_NONE
  else if s = WPA_CIPHER_SUITE_WEP40 then WPA_CIPHER_WEP40
  else if s = WPA_CIPHER_SUITE_TKIP then WPA_CIPHER_TKIP
  else if s = WPA_CIPHER_SUITE_CCMP then WPA_CIPHER_CCMP
  else if s = WPA_CIPHER_SUITE_WEP104 then WPA_CIPHER_WEP104
  else 0

/-- `rtw_get_wpa2_cipher_suite`. -/
def rtwGetWpa2CipherSuite (s : Selector) : BitVec 32 :=
  if s = RSN_CIPHER_SUITE_NONE then WPA_CIPHER_NONE
  else if s = RSN_CIPHER_SUITE_WEP40 then WPA_CIPHER_WEP40
  else if s = RSN_CIPHER_SUITE_TKIP then WPA_CIPHER_TKIP
  else if s = RSN_CIPHER_SUITE_CCMP then WPA_CIPHER_CCMP
  else if s = RSN_CIPHER_SUITE_WEP104 then WPA_CIPHER_WEP104
  else 0

/-- What the parsers write through their pointers, of which that for 802.1X may be none. -/
structure Ciphers where
  groupCipher : BitVec 32
  pairwiseCipher : BitVec 32
  is8021x : Option (BitVec 32)

/-! ## The parts behind the header -/

/-- How an element is told: its ciphers, and the selector for 802.1X. -/
structure Suites where
  cipher : Selector → BitVec 32
  suite1x : Selector

namespace Suites

variable (suites : Suites)

/-- The loop over the suites of the pairwise ciphers. -/
def pairwiseLoop : ℕ → ℤ → BitVec 32 → M (BitVec 32)
  | 0, _, pairwise => pure pairwise
  | count + 1, pos, pairwise => do
    let s ← readVec pos 4
    pairwiseLoop count (pos + 4) (pairwise ||| suites.cipher s)

/-- The selector behind the second count, which is not looked at. -/
def parseKeyMgmt (pos left : ℤ) (out : Ciphers) : M (Bool × Ciphers) :=
  if out.is8021x.isSome ∧ 6 ≤ left then do
    let s ← readVec (pos + 2) 4
    pure (true, if s = suites.suite1x then { out with is8021x := some 1 } else out)
  else pure (true, out)

def parsePairwise (pos left : ℤ) (out : Ciphers) : M (Bool × Ciphers) :=
  if 2 ≤ left then do
    let lo ← read pos
    let hi ← read (pos + 1)
    let count := lo.toNat + 256 * hi.toNat
    if count = 0 ∨ left - 2 < count * 4 then pure (false, out)
    else do
      let pairwise ← suites.pairwiseLoop count (pos + 2) out.pairwiseCipher
      suites.parseKeyMgmt (pos + 2 + 4 * count) (left - 2 - 4 * count) { out with pairwiseCipher := pairwise }
  else if left = 1 then pure (false, out)
  else suites.parseKeyMgmt pos left out

def parseGroup (pos left : ℤ) (out : Ciphers) : M (Bool × Ciphers) :=
  if 4 ≤ left then do
    let s ← readVec pos 4
    suites.parsePairwise (pos + 4) (left - 4) { out with groupCipher := suites.cipher s }
  else if 0 < left then pure (false, out)
  else suites.parsePairwise pos left out

end Suites

def wpaSuites : Suites := ⟨rtwGetWpaCipherSuite, #v[0x00, 0x50, 0xf2, 1]⟩
def rsnSuites : Suites := ⟨rtwGetWpa2CipherSuite, #v[0x00, 0x0f, 0xac, 0x01]⟩

/-- The length byte that goes with an element of `len` bytes. -/
def lengthByte (len : ℤ) : UInt8 := UInt8.ofNat ((len - 2) % 256).toNat

/-- `rtw_parse_wpa_ie`. -/
def rtwParseWpaIe (wpaIeLen : ℤ) (out : Ciphers) : M (Bool × Ciphers) :=
  if wpaIeLen ≤ 0 then pure (false, out)
  else do
    let id ← read 0
    if id ≠ _WPA_IE_ID_ then pure (false, out)
    else do
      let len ← read 1
      if len ≠ lengthByte wpaIeLen then pure (false, out)
      else do
        let oui ← readVec 2 4
        if oui ≠ RTW_WPA_OUI_TYPE then pure (false, out)
        else wpaSuites.parseGroup 8 (wpaIeLen - 8) out

/-- `rtw_parse_wpa2_ie`. -/
def rtwParseWpa2Ie (rsnIeLen : ℤ) (out : Ciphers) : M (Bool × Ciphers) :=
  if rsnIeLen ≤ 0 then pure (false, out)
  else do
    let id ← read 0
    if id ≠ _WPA2_IE_ID_ then pure (false, out)
    else do
      let len ← read 1
      if len ≠ lengthByte rsnIeLen then pure (false, out)
      else rsnSuites.parseGroup 4 (rsnIeLen - 4) out

/-! ## What the parsers are for -/

def le16 (n : ℕ) : List UInt8 := [UInt8.ofNat n, UInt8.ofNat (n / 256)]

/-- A group suite, pairwise suites with their count, and what is behind them. -/
structure SuiteList (rest : List UInt8) (group : Selector) (pairwise : List Selector) (more : List UInt8) : Prop where
  bytes : rest = group.toList ++ (le16 pairwise.length ++ (pairwise.flatMap Vector.toList ++ more))
  some : pairwise ≠ []
  short : pairwise.length < 2 ^ 16

/-- The forms of what is behind the header. -/
def Grammar (rest : List UInt8) : Prop :=
  rest = [] ∨ rest.length = 4 ∨ ∃ group pairwise more, SuiteList rest group pairwise more

/-- What a parser does with an element of `n` bytes, whose header is right or not: it stays inside, it answers success
for the grammar, and it tells the ciphers that are listed. -/
structure Exact (parse : Ciphers → M (Bool × Ciphers)) (suites : Suites) (header : Prop) (rest : List UInt8) (n : ℕ)
    (m : Mem) (out : Ciphers) : Prop where
  inside : Inside (fun x => 0 ≤ x ∧ x < (n : ℤ)) (parse out) m
  accepts : ((parse out).run m).val.1 = true ↔ header ∧ Grammar rest
  pairwise : ∀ group pairwise more, header → SuiteList rest group pairwise more →
    ((parse out).run m).val.2.pairwiseCipher = out.pairwiseCipher ||| (pairwise.map suites.cipher).foldr (· ||| ·) 0
  is8021x : ∀ group pairwise more, header → SuiteList rest group pairwise more →
    ((parse out).run m).val.2.is8021x = out.is8021x.map fun v =>
      if 6 ≤ more.length ∧ (more.drop 2).take 4 = suites.suite1x.toList then 1 else v

end Rtl8723au.Ieee80211
