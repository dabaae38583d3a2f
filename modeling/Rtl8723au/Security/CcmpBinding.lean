import Rtl8723au.Security.CcmpRoundTrip
import Mathlib.Data.Nat.Bitwise

/-! What the MIC of a ciphered frame binds: two frames whose MAC is fed the same
blocks agree on everything packed into these blocks. -/
namespace Rtl8723au.Security
open Ccm Mem Wifi
set_option autoImplicit false

/-! ## Header fields as bytes -/

theorem and_two_pow_bne_zero (n k : ℕ) : (n &&& 2 ^ k != 0) = n.testBit k := by
  rw [Nat.and_two_pow]
  cases n.testBit k <;> simp

theorem getToDs_le16 (m : Mem) (p : ℤ) : getToDs (le16 m p) = (m (p + 1)).toNat.testBit 0 := by
  have h : getToDs (le16 m p) = (le16 m p).testBit 8 := and_two_pow_bne_zero _ 8
  have h0 := (m p).toNat_lt
  rw [h, Nat.testBit_eq_decide_div_mod_eq, Nat.testBit_eq_decide_div_mod_eq, le16]
  congr 2
  omega

theorem getFrDs_le16 (m : Mem) (p : ℤ) : getFrDs (le16 m p) = (m (p + 1)).toNat.testBit 1 := by
  have h : getFrDs (le16 m p) = (le16 m p).testBit 9 := and_two_pow_bne_zero _ 9
  have h0 := (m p).toNat_lt
  rw [h, Nat.testBit_eq_decide_div_mod_eq, Nat.testBit_eq_decide_div_mod_eq, le16]
  congr 2
  omega

theorem getPriority_le16 (m : Mem) (p : ℤ) : getPriority (le16 m p) = (m p &&& 0x0f).toNat := by
  have h : getPriority (le16 m p) = le16 m p % 2 ^ 4 := Nat.and_two_pow_sub_one_eq_mod _ 4
  have h' : (m p &&& 0x0f).toNat = (m p).toNat % 2 ^ 4 := by
    rw [UInt8.toNat_and]
    exact Nat.and_two_pow_sub_one_eq_mod _ 4
  rw [h, h', le16]
  omega

theorem testBit_of_and_eq (a b mask : UInt8) (k : ℕ) (hk : mask.toNat.testBit k = true)
    (h : a &&& mask = b &&& mask) : a.toNat.testBit k = b.toNat.testBit k := by
  have e := congrArg (fun x : UInt8 => x.toNat.testBit k) h
  simpa [UInt8.toNat_and, Nat.testBit_and, hk] using e

/-! ## Binding -/

namespace DataMpdu
variable (f g : DataMpdu)

/-- The blocks `aes_cipher` feeds to the CBC-MAC for a payload of `p` bytes. -/
def micBlocks (p : ℕ) : List Block := f.header p ++ payloadBlocks (payloadAt f.mem f.hdrlen) p

/-- The address at `pbuf`. -/
def addr (pbuf : ℤ) : MacAddr := Vector.ofFn fun i => f.mem (pbuf + (i : ℕ))

def tid : ℕ := getPriority (le16 f.mem 24)
def fragNum : ℕ := getFragNum (le16 f.mem 22)

/-- The frame is of a QoS subtype that carries data. -/
def IsQosData : Prop := (le16 f.mem 0).testBit 7 = true ∧ (le16 f.mem 0).testBit 6 = false

/-- Two frames with payloads of `p` and `q` bytes agree on what the MIC is to protect. -/
structure SameProtected (p q : ℕ) : Prop where
  addr1 : f.addr (getAddr1Ptr 0) = g.addr (getAddr1Ptr 0)
  addr2 : f.addr (getAddr2Ptr 0) = g.addr (getAddr2Ptr 0)
  addr3 : f.addr (getAddr3Ptr 0) = g.addr (getAddr3Ptr 0)
  toDs : getToDs (le16 f.mem 0) = getToDs (le16 g.mem 0)
  frDs : getFrDs (le16 f.mem 0) = getFrDs (le16 g.mem 0)
  tid : f.IsQosData → g.IsQosData → f.tid = g.tid
  packetNumber : f.pn = g.pn
  length : p = q
  payload : ∀ k < p, payloadAt f.mem f.hdrlen k = payloadAt g.mem g.hdrlen k

theorem a4Exists_eq : a4Exists f.hdrlen = false := by
  rcases f.hdrlen_cases with h | h <;> rw [h] <;> rfl

theorem qc_of_isQosData (h : f.IsQosData) : f.qc = true := by
  set x := getFrameSubType (le16 f.mem 0) >>> 4 with hx
  have hlt : x < 16 := by
    have hle : getFrameSubType (le16 f.mem 0) ≤ 0xfc := Nat.and_le_right
    rw [hx, Nat.shiftRight_eq_div_pow]
    omega
  have h3 : x.testBit 3 = true := by
    have hmask : Nat.testBit 0xfc 7 = true := by decide
    simp [hx, getFrameSubType, Nat.testBit_shiftRight, Nat.testBit_and, h.1, hmask]
  have h2 : x.testBit 2 = false := by
    simp [hx, getFrameSubType, Nat.testBit_shiftRight, Nat.testBit_and, h.2]
  have hcases : ∀ y < 16, y.testBit 3 = true → y.testBit 2 = false → y = 8 ∨ y = 9 ∨ y = 10 ∨ y = 11 := by
    decide
  have hx' := hcases x hlt h3 h2
  simp only [qc, qcExists, ← hx]
  rcases hx' with h | h | h | h <;> simp [h]

theorem micBlocks_eq (p : ℕ) : f.micBlocks p =
    [((constructMicIv f.qc false p f.pn).run f.mem).val, ((constructMicHeader1 f.hdrlen).run f.mem).val,
      ((constructMicHeader2 false f.qc).run f.mem).val] ++ payloadBlocks (payloadAt f.mem f.hdrlen) p := by
  rw [micBlocks, header, f.a4Exists_eq]
  rfl

theorem micBlocks_inj (p q : ℕ) (h : f.micBlocks p = g.micBlocks q) :
    ((constructMicIv f.qc false p f.pn).run f.mem).val = ((constructMicIv g.qc false q g.pn).run g.mem).val ∧
    ((constructMicHeader1 f.hdrlen).run f.mem).val = ((constructMicHeader1 g.hdrlen).run g.mem).val ∧
    ((constructMicHeader2 false f.qc).run f.mem).val = ((constructMicHeader2 false g.qc).run g.mem).val ∧
    payloadBlocks (payloadAt f.mem f.hdrlen) p = payloadBlocks (payloadAt g.mem g.hdrlen) q := by
  rw [micBlocks_eq, micBlocks_eq] at h
  simp only [List.cons_append, List.nil_append, List.cons.injEq] at h
  exact ⟨h.1, h.2.1, h.2.2.1, h.2.2.2⟩

end DataMpdu

theorem length_of_micIv (p q : ℕ) (hp : p ≤ 65535) (hq : q ≤ 65535)
    (hhi : UInt8.ofNat (p / 256) = UInt8.ofNat (q / 256))
    (hlo : UInt8.ofNat (p % 256) = UInt8.ofNat (q % 256)) : p = q := by
  have h1 := congrArg UInt8.toNat hhi
  have h2 := congrArg UInt8.toNat hlo
  simp only [UInt8.toNat_ofNat'] at h1 h2
  omega

theorem ofFn_six_eq (m m' : Mem) (b : ℤ) (h : ∀ i < 6, m (b + (i : ℕ)) = m' (b + (i : ℕ))) :
    (Vector.ofFn fun i : Fin 6 => m (b + (i : ℕ))) = Vector.ofFn fun i : Fin 6 => m' (b + (i : ℕ)) := by
  congr 1
  funext i
  exact h i i.isLt

/-- **What the CCMP MIC binds**: equal blocks into the CBC-MAC mean equal addresses, DS bits, packet
number, payload and, for QoS data, TID. -/
theorem sameProtected_of_micBlocks (f g : DataMpdu) (p q : ℕ) (hp : p ≤ 65535) (hq : q ≤ 65535)
    (hblocks : f.micBlocks p = g.micBlocks q) : f.SameProtected g p q := by
  obtain ⟨hiv, hh1, hh2, hpay⟩ := f.micBlocks_inj g p q hblocks
  rw [constructMicIv_three, constructMicIv_three] at hiv
  rw [constructMicHeader1_eq, constructMicHeader1_eq] at hh1
  rw [constructMicHeader2_three, constructMicHeader2_three] at hh2
  simp only [Vector.mk.injEq, Array.mk.injEq, List.cons.injEq, and_true, true_and] at hiv hh1 hh2
  obtain ⟨htc, -, -, -, -, -, -, n5, n4, n3, n2, n1, n0, lhi, llo⟩ := hiv
  obtain ⟨-, -, -, hb1, a4, a5, a6, a7, a8, a9, b0, b1, b2, b3, b4, b5⟩ := hh1
  obtain ⟨c0, c1, c2, c3, c4, c5, -⟩ := hh2
  have hpq := length_of_micIv p q hp hq lhi llo
  refine ⟨?_, ?_, ?_, ?_, ?_, ?_, ?_, hpq, ?_⟩
  · refine ofFn_six_eq _ _ _ fun i hi => ?_
    interval_cases i <;> assumption
  · refine ofFn_six_eq _ _ _ fun i hi => ?_
    interval_cases i <;> assumption
  · refine ofFn_six_eq _ _ _ fun i hi => ?_
    interval_cases i <;> assumption
  · rw [getToDs_le16, getToDs_le16]
    exact testBit_of_and_eq _ _ 0xc7 0 (by decide) hb1
  · rw [getFrDs_le16, getFrDs_le16]
    exact testBit_of_and_eq _ _ 0xc7 1 (by decide) hb1
  · intro hf hg
    rw [f.qc_of_isQosData hf, g.qc_of_isQosData hg] at htc
    rw [DataMpdu.tid, DataMpdu.tid, getPriority_le16, getPriority_le16]
    exact congrArg UInt8.toNat htc
  · ext i hi
    interval_cases i <;> simp_all
  · subst hpq
    exact payloadBlocks_inj _ _ p hpay

/-- A frame of zeros but for its frame control, sequence control and QoS control fields. -/
def sampleMem (fc0 fc1 sc qc : UInt8) : Mem := fun x =>
  if x = 0 then fc0 else if x = 1 then fc1 else if x = 22 then sc else if x = 24 then qc else 0

/-- A plain data frame, a first try or a retry, of fragment zero or one. -/
def plainSample (retry frag : Bool) : DataMpdu where
  mem := sampleMem 0x08 (if retry then 0x08 else 0x00) (if frag then 1 else 0) 0
  hdrlen := 24
  isData := by cases retry <;> cases frag <;> decide
  shape := .inl ⟨rfl, by cases retry <;> cases frag <;> decide⟩

/-- A QoS frame of the subtype without data, of TID zero or one. -/
def qosNullSample (tid : Bool) : DataMpdu where
  mem := sampleMem 0xc8 0x00 0 (if tid then 1 else 0)
  hdrlen := 26
  isData := by cases tid <;> decide
  shape := .inr ⟨rfl, by cases tid <;> decide⟩

/-- A retry is protected like the first try. -/
theorem sameProtected_retry : (plainSample false false).SameProtected (plainSample true false) 20 20 :=
  sameProtected_of_micBlocks (plainSample false false) (plainSample true false) 20 20 (by decide) (by decide)
    (by decide +kernel)

/-- **What the MIC does not bind**: the fragment number, and the TID of a QoS frame without data. -/
theorem micBlocks_miss :
    (¬ ∀ (f g : DataMpdu) (p q : ℕ), p ≤ 65535 → q ≤ 65535 → f.hdrlen = g.hdrlen →
      f.micBlocks p = g.micBlocks q → f.SameProtected g p q ∧ f.fragNum = g.fragNum) ∧
    ¬ ∀ (f g : DataMpdu) (p q : ℕ), p ≤ 65535 → q ≤ 65535 → f.hdrlen = 26 → g.hdrlen = 26 →
      f.micBlocks p = g.micBlocks q → f.tid = g.tid := by
  constructor
  · intro h
    have hfrag := (h (plainSample false false) (plainSample false true) 20 20 (by decide) (by decide) rfl
      (by decide +kernel)).2
    exact absurd hfrag (by decide)
  · intro h
    have htid := h (qosNullSample false) (qosNullSample true) 0 0 (by decide) (by decide) rfl rfl
      (by decide +kernel)
    exact absurd htid (by decide)

end Rtl8723au.Security
