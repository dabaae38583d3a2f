import Rtl8723au.Security.Ccmp

/-! `aes_cipher` seals the payload of its frame and `aes_decipher` opens it and tells
whether the tag verifies, so that deciphering undoes ciphering. -/
namespace Rtl8723au.Security
open Ccm Mem Wifi
set_option autoImplicit false

section RoundTrip
variable (key : Skey)

/-! ## `aes_cipher` seals -/

/-- The three stretches in a row seal the payload: what both routines do, one on the frame and one on
its copy. -/
theorem stretches_seal (m : Mem) (qc a4 : Bool) (pn : PnVector) (h p : ℕ) (hh : 24 ≤ h)
    (hw : h + 8 + p + 8 ≤ 2 ^ 32) :
    ((encryptMic key qc a4 pn h p).run ((cryptPayload key qc a4 pn h p).run
      ((calculateMic key h p ((micHeader qc a4 h p pn).run m).val).run m).st).st).st
      = patch m (h + 8 : ℕ) (p + 8) (sealed (aes128k128d key) (ctrBlock m qc a4 pn)
          (headerBlocks m qc a4 h p pn) (payloadAt m h) p) := by
  set E := aes128k128d key
  set mic := cbcMac E (headerBlocks m qc a4 h p pn ++ payloadBlocks (payloadAt m h) p) with hmic
  -- the frame after the first and after the second stretch
  set m1 := patch m (h + 8 + p : ℕ) 8 fun j => mic[j % 16] with hm1
  set m2 := patch m1 (h + 8 : ℕ) p (cryptedAt key qc a4 pn h m1) with hm2
  have hmicst : ((calculateMic key h p ((micHeader qc a4 h p pn).run m).val).run m).st = m1 := by
    rw [micHeader_val]
    exact calculateMic_st key h p m _ _ _ hw
  have hctr : ∀ m' : Mem, (∀ x : ℤ, 0 ≤ x → x < 32 → m x = m' x) → ∀ c : ℕ,
      ctrBlock m' qc a4 pn c = ctrBlock m qc a4 pn c := fun m' hm' c =>
    (constructCtrPreload_congr a4 qc pn c m m' hm').symm
  have h1 : ∀ x : ℤ, 0 ≤ x → x < 32 → m x = m1 x := fun x _ hx => by
    rw [hm1, patch_outside _ _ _ _ _ (by omega)]
  have h2 : ∀ x : ℤ, 0 ≤ x → x < 32 → m x = m2 x := fun x h0 hx => by
    rw [hm2, patch_outside _ _ _ _ _ (by omega), ← h1 x h0 hx]
  rw [hmicst, cryptPayload_st key qc a4 pn h p m1 hh (by omega), encryptMic_st key qc a4 pn h p m2 hw]
  have hctr0 := hctr m2 h2 0
  funext x
  by_cases hx : ((h + 8 + p : ℕ) : ℤ) ≤ x ∧ x < ((h + 8 + p : ℕ) : ℤ) + (8 : ℕ)
  · -- the tag
    obtain ⟨j, rfl⟩ : ∃ j : ℕ, x = ((h + 8 + p : ℕ) : ℤ) + j := ⟨(x - (h + 8 + p : ℕ)).toNat, by omega⟩
    have hj : j < 8 := by omega
    have hm2j : m2 (((h + 8 + p : ℕ) : ℤ) + j) = mic[j % 16] := by
      rw [hm2, patch_outside _ _ _ _ _ (by omega), hm1, patch_inside _ _ _ _ _ hj]
    have hsum : ((h + 8 + p : ℕ) : ℤ) + j = ((h + 8 : ℕ) : ℤ) + ((p + j : ℕ) : ℤ) := by push_cast; ring
    rw [patch_inside _ _ _ _ _ hj, hm2j, hctr0, hsum, patch_inside _ _ _ _ _ (by omega), sealed,
      if_neg (by omega), Nat.add_sub_cancel_left]
    rfl
  · rw [patch_outside _ _ _ _ _ (by omega)]
    by_cases hx2 : ((h + 8 : ℕ) : ℤ) ≤ x ∧ x < ((h + 8 : ℕ) : ℤ) + p
    · -- the payload
      obtain ⟨k, rfl⟩ : ∃ k : ℕ, x = ((h + 8 : ℕ) : ℤ) + k := ⟨(x - (h + 8 : ℕ)).toNat, by omega⟩
      have hk : k < p := by omega
      have hpay : payloadAt m1 h k = payloadAt m h k := by
        rw [payloadAt, hm1, patch_outside _ _ _ _ _ (by omega), payloadAt]
      have hstream : stream E (ctrBlock m1 qc a4 pn) k = stream E (ctrBlock m qc a4 pn) k := by
        rw [stream, stream, hctr m1 h1]
      rw [hm2, patch_inside _ _ _ _ _ hk, patch_inside _ _ _ _ _ (by omega), sealed, if_pos hk,
        cryptedAt, opened, hpay, hstream]
    · rw [patch_outside _ _ _ _ _ (by omega), hm2, patch_outside _ _ _ _ _ (by omega), hm1,
        patch_outside _ _ _ _ _ (by omega)]

/-- The frame `aes_cipher` leaves: the payload and eight more bytes sealed, all else as before. -/
theorem aesCipher_st (m : Mem) (hdrlen h p : ℕ) (hadj : adjustHdrlen hdrlen (le16 m 0) = h)
    (hh : 24 ≤ h) (hw : h + 8 + p + 8 ≤ 2 ^ 32) :
    ((aesCipher key hdrlen p).run m).st = patch m (h + 8 : ℕ) (p + 8)
      (sealed (aes128k128d key)
        (ctrBlock m (qcExists (le16 m 0)) (a4Exists hdrlen) (pnVector m h))
        (headerBlocks m (qcExists (le16 m 0)) (a4Exists hdrlen) h p (pnVector m h))
        (payloadAt m h) p) := by
  rw [← stretches_seal key m _ _ _ h p hh hw]
  simp only [aesCipher, AccessM.bind_st, readLe16_val, readLe16_st, hadj, micHeader_st, readPnVector_st]
  rfl

/-! ## `aes_decipher` opens -/

theorem compareMic_spec (h p n : ℕ) (s : DecipherMem) :
    ((compareMic h p n).run s).st = s ∧
      (((compareMic h p n).run s).val = true ↔
        ∀ i < n, s.pframe (uidx (h + 8 + p + i)) = s.message (uidx (h + 8 + p + i))) := by
  refine AccessM.loopAcc_invariant _ (fun i res t => t = s ∧ (res = true ↔
    ∀ j < i, s.pframe (uidx (h + 8 + p + j)) = s.message (uidx (h + 8 + p + j)))) true s n ?_ ?_
  · exact ⟨rfl, by simp⟩
  · rintro i _ res t ⟨rfl, hres⟩
    refine ⟨rfl, ?_⟩
    simp only [AccessM.bind_val, onPframe_val, onPframe_st, onMessage_val, read_val, read_st,
      AccessM.pure_val]
    rw [Bool.and_eq_true, hres, beq_iff_eq]
    constructor
    · rintro ⟨h1, h2⟩ j hj
      rcases Nat.lt_succ_iff_lt_or_eq.mp hj with hj | rfl
      · exact h1 j hj
      · exact h2
    · intro hall
      exact ⟨fun j hj => hall j (Nat.lt_succ_of_lt hj), hall i (Nat.lt_succ_self i)⟩

/-- **`aes_decipher`** on a frame whose header length needs no adjustment and that fits the static
buffer: the payload is opened in place, and the result says whether the tag behind it verifies. -/
theorem aesDecipher_spec (s : DecipherMem) (h p : ℕ) (hadj : adjustHdrlen h (le16 s.pframe 0) = h)
    (hh : 24 ≤ h) (hw : h + 8 + p + 8 ≤ MAX_MSG_SIZE) :
    (((aesDecipher key h (p + 8)).run s).val = true ↔
      Verifies (aes128k128d key)
        (ctrBlock s.pframe (qcExists (le16 s.pframe 0)) (a4Exists h) (pnVector s.pframe h))
        (headerBlocks s.pframe (qcExists (le16 s.pframe 0)) (a4Exists h) h p (pnVector s.pframe h))
        (payloadAt s.pframe h) p) ∧
    ((aesDecipher key h (p + 8)).run s).st.pframe = patch s.pframe (h + 8 : ℕ) p
      (cryptedAt key (qcExists (le16 s.pframe 0)) (a4Exists h) (pnVector s.pframe h) h s.pframe) := by
  set g := s.pframe with hg
  set qc := qcExists (le16 g 0) with hqc
  set a4 := a4Exists h with ha4
  set pn := pnVector g h with hpn
  set E := aes128k128d key
  rw [MAX_MSG_SIZE] at hw
  -- the frame after its payload is opened, and the copy made of it
  set g1 := patch g (h + 8 : ℕ) p (cryptedAt key qc a4 pn h g) with hg1
  set c : Mem := fun x => if 0 ≤ x ∧ x < (h + (p + 8) + 8 : ℕ) then g1 x else s.message x with hc
  have hlow : ∀ x : ℤ, 0 ≤ x → x < h + 8 → g x = g1 x := fun x _ hx => by
    rw [hg1, patch_outside _ _ _ _ _ (by push_cast; omega)]
  have hcopy : ∀ x : ℤ, 0 ≤ x → x < h + 8 + p + 8 → c x = g1 x := fun x h0 hx =>
    if_pos ⟨h0, by push_cast; omega⟩
  have hp8 : uint (((p + 8 : ℕ) : ℤ) - 8) = p := by
    have e : ((p + 8 : ℕ) : ℤ) - 8 = (p : ℤ) := by push_cast; ring
    rw [e, uint_natCast _ (by omega)]
  have hn : (h + (p + 8) + 8) % 2 ^ 32 = h + (p + 8) + 8 := Nat.mod_eq_of_lt (by omega)
  have hnle : h + (p + 8) + 8 ≤ MAX_MSG_SIZE := by
    rw [MAX_MSG_SIZE]
    omega
  have hcrypt : ((cryptPayload key qc a4 pn h p).run g).st = g1 :=
    cryptPayload_st key qc a4 pn h p g hh (by omega)
  have hpn1 : pnVector g1 h = pn := (pnVector_congr h g g1 (by omega) hlow).symm
  set c3 := patch c (h + 8 : ℕ) (p + 8) (sealed E (ctrBlock c qc a4 pn)
    (headerBlocks c qc a4 h p pn) (payloadAt c h) p) with hc3
  have hseal := stretches_seal key c qc a4 pn h p hh (by omega)
  have hfinal : ((aesDecipher key h (p + 8)).run s).val = ((compareMic h p 8).run ⟨g1, c3⟩).val ∧
      ((aesDecipher key h (p + 8)).run s).st = ((compareMic h p 8).run ⟨g1, c3⟩).st := by
    have hpn' : ((readPnVector h).run g).val = pn := rfl
    have hpn1' : ((readPnVector h).run g1).val = pn := hpn1
    simp only [aesDecipher, AccessM.bind_val, AccessM.bind_st, onPframe_val, onPframe_st, onMessage_val,
      onMessage_st, readLe16_val, readLe16_st, readPnVector_st, ← hg, hadj, hp8, hn, ← hqc, ← ha4, if_pos hnle,
      copyMessage_st, hcrypt, hpn', hpn1', micHeader_st]
    exact ⟨congrArg (fun m => ((compareMic h p 8).run ⟨g1, m⟩).val) hseal,
      congrArg (fun m => ((compareMic h p 8).run ⟨g1, m⟩).st) hseal⟩
  have hc32 : ∀ x : ℤ, 0 ≤ x → x < 32 → c x = g x := fun x h0 hx => by
    rw [hcopy x h0 (by omega), hlow x h0 (by omega)]
  have hctr : ctrBlock c qc a4 pn = ctrBlock g qc a4 pn :=
    funext fun i => constructCtrPreload_congr a4 qc pn i c g hc32
  have hheader : headerBlocks c qc a4 h p pn = headerBlocks g qc a4 h p pn :=
    headerBlocks_congr qc a4 h p pn c g hc32
  have hpay : ∀ k < p, payloadAt c h k = opened E (ctrBlock g qc a4 pn) (payloadAt g h) k := by
    intro k hk
    rw [payloadAt, hcopy _ (by omega) (by push_cast; omega), hg1, patch_inside _ _ _ _ _ hk]
  have hbyte : ∀ i < 8, (g1 (uidx (h + 8 + p + i)) = c3 (uidx (h + 8 + p + i)) ↔
      payloadAt g h (p + i)
        = tag E (ctrBlock g qc a4 pn) (headerBlocks g qc a4 h p pn)
            (opened E (ctrBlock g qc a4 pn) (payloadAt g h)) p i) := by
    intro i hi
    have hsum : uidx (h + 8 + p + i) = ((h + 8 : ℕ) : ℤ) + ((p + i : ℕ) : ℤ) := by
      rw [uidx_of_lt _ (by omega)]
      push_cast
      ring
    rw [hsum, hg1, patch_outside _ _ _ _ _ (by omega), hc3, patch_inside _ _ _ _ _ (by omega), sealed,
      if_neg (by omega), Nat.add_sub_cancel_left, hctr, hheader, payloadAt, tag_congr _ _ _ _ p i hpay]
  obtain ⟨hst, hval⟩ := compareMic_spec h p 8 ⟨g1, c3⟩
  refine ⟨?_, by rw [hfinal.2, hst]⟩
  rw [hfinal.1, hval]
  exact forall₂_congr hbyte

end RoundTrip

/-! ## Three-address data frames -/

/-- A data MPDU with a three-address header: 24 bytes, or 26 when `BIT(7)` says it carries a QoS field. -/
structure DataMpdu where
  mem : Mem
  hdrlen : ℕ
  isData : getFrameType (le16 mem 0) = WIFI_DATA_TYPE
  shape : (hdrlen = WLAN_HDR_A3_LEN ∧ (le16 mem 0).testBit 7 = false) ∨
    (hdrlen = WLAN_HDR_A3_QOS_LEN ∧ (le16 mem 0).testBit 7 = true)

theorem qcExists_of_testBit (fc : ℕ) (h : fc.testBit 7 = false) : qcExists fc = false := by
  have htype : getFrameType fc ≤ 0x0c := Nat.and_le_right
  have hbit : (getFrameSubType fc >>> 4).testBit 3 = false := by
    simp [getFrameSubType, Nat.testBit_shiftRight, Nat.testBit_and, h]
  have hne : ∀ s : ℕ, s.testBit 3 = true → getFrameSubType fc >>> 4 ≠ s := by
    rintro s hs rfl
    rw [hbit] at hs
    exact absurd hs (by decide)
  have h8 := hne 8 (by decide)
  have h9 := hne 9 (by decide)
  have ha := hne 10 (by decide)
  have hb := hne 11 (by decide)
  have hck : getFrameType fc ≠ WIFI_DATA_CFACK := by rw [WIFI_DATA_CFACK]; omega
  have hpl : getFrameType fc ≠ WIFI_DATA_CFPOLL := by rw [WIFI_DATA_CFPOLL]; omega
  have hap : getFrameType fc ≠ WIFI_DATA_CFACKPOLL := by rw [WIFI_DATA_CFACKPOLL]; omega
  simp [qcExists, h8, h9, ha, hb, hck, hpl, hap]

namespace DataMpdu
variable (f : DataMpdu)

theorem hdrlen_cases : f.hdrlen = 24 ∨ f.hdrlen = 26 := by
  rcases f.shape with ⟨h, -⟩ | ⟨h, -⟩
  · exact .inl h
  · exact .inr h

theorem adjustHdrlen_eq : adjustHdrlen f.hdrlen (le16 f.mem 0) = f.hdrlen := by
  rcases f.shape with ⟨-, hq⟩ | ⟨h, -⟩
  · rw [adjustHdrlen, qcExists_of_testBit _ hq]
    rfl
  · rw [adjustHdrlen, h]
    simp

theorem hdrlen_bounds : 24 ≤ f.hdrlen ∧ f.hdrlen ≤ 26 := by
  rcases f.hdrlen_cases with h | h <;> omega

def qc : Bool := qcExists (le16 f.mem 0)
def pn : PnVector := pnVector f.mem f.hdrlen
def ctr : ℕ → Block := ctrBlock f.mem f.qc (a4Exists f.hdrlen) f.pn
def header (p : ℕ) : List Block := headerBlocks f.mem f.qc (a4Exists f.hdrlen) f.hdrlen p f.pn

/-- The frame `aes_cipher` makes of it. -/
def ciphered (key : Skey) (p : ℕ) : Mem := ((aesCipher key f.hdrlen p).run f.mem).st

/-- `aes_decipher` run on the ciphered frame with any contents of the static buffer. -/
def deciphered (key : Skey) (p : ℕ) (message : Mem) : Outcome DecipherAddr DecipherMem Bool :=
  (aesDecipher key f.hdrlen (p + 8)).run ⟨f.ciphered key p, message⟩

theorem ciphered_eq (key : Skey) (p : ℕ) (hw : f.hdrlen + 8 + p + 8 ≤ 2 ^ 32) :
    f.ciphered key p = patch f.mem (f.hdrlen + 8 : ℕ) (p + 8)
      (sealed (aes128k128d key) f.ctr (f.header p) (payloadAt f.mem f.hdrlen) p) :=
  aesCipher_st key f.mem f.hdrlen f.hdrlen p f.adjustHdrlen_eq f.hdrlen_bounds.1 hw

theorem ciphered_header (key : Skey) (p : ℕ) (hw : f.hdrlen + 8 + p + 8 ≤ 2 ^ 32) (x : ℤ)
    (hx : x < f.hdrlen + 8) : f.ciphered key p x = f.mem x := by
  rw [f.ciphered_eq key p hw, patch_outside _ _ _ _ _ (by push_cast; omega)]

theorem ciphered_payload (key : Skey) (p : ℕ) (hw : f.hdrlen + 8 + p + 8 ≤ 2 ^ 32) (k : ℕ) (hk : k < p + 8) :
    payloadAt (f.ciphered key p) f.hdrlen k
      = sealed (aes128k128d key) f.ctr (f.header p) (payloadAt f.mem f.hdrlen) p k := by
  rw [payloadAt, f.ciphered_eq key p hw, patch_inside _ _ _ _ _ hk]

theorem ciphered_params (key : Skey) (p : ℕ) (hw : f.hdrlen + 8 + p + 8 ≤ 2 ^ 32) :
    le16 (f.ciphered key p) 0 = le16 f.mem 0 ∧
    pnVector (f.ciphered key p) f.hdrlen = f.pn ∧
    ctrBlock (f.ciphered key p) f.qc (a4Exists f.hdrlen) f.pn = f.ctr ∧
    headerBlocks (f.ciphered key p) f.qc (a4Exists f.hdrlen) f.hdrlen p f.pn = f.header p := by
  have hb := f.hdrlen_bounds
  have hlow : ∀ x : ℤ, 0 ≤ x → x < f.hdrlen + 8 → f.ciphered key p x = f.mem x := fun x _ hx =>
    f.ciphered_header key p hw x hx
  have h32 : ∀ x : ℤ, 0 ≤ x → x < 32 → f.ciphered key p x = f.mem x := fun x h0 hx =>
    hlow x h0 (by omega)
  refine ⟨?_, pnVector_congr f.hdrlen _ _ (by omega) hlow, ?_, headerBlocks_congr _ _ _ p _ _ _ h32⟩
  · rw [le16, le16, h32 0 (by omega) (by omega), h32 (0 + 1) (by omega) (by omega)]
  · exact funext fun i => constructCtrPreload_congr _ _ _ i _ _ h32

/-- What `aes_decipher` makes of the ciphered frame. -/
theorem deciphered_spec (key : Skey) (p : ℕ) (message : Mem) (hfit : f.hdrlen + 8 + p + 8 ≤ MAX_MSG_SIZE) :
    ((f.deciphered key p message).val = true ↔ Verifies (aes128k128d key) f.ctr (f.header p)
      (payloadAt (f.ciphered key p) f.hdrlen) p) ∧
    (f.deciphered key p message).st.pframe = patch (f.ciphered key p) (f.hdrlen + 8 : ℕ) p
      (opened (aes128k128d key) f.ctr (payloadAt (f.ciphered key p) f.hdrlen)) := by
  have hw : f.hdrlen + 8 + p + 8 ≤ 2 ^ 32 := hfit.trans (by norm_num [MAX_MSG_SIZE])
  obtain ⟨hfc, hpn, hctr, hheader⟩ := f.ciphered_params key p hw
  have h := aesDecipher_spec key ⟨f.ciphered key p, message⟩ f.hdrlen p
    (by simp only [hfc]; exact f.adjustHdrlen_eq) f.hdrlen_bounds.1 hfit
  have hqc : qcExists (le16 (f.ciphered key p) 0) = f.qc := congrArg qcExists hfc
  simp only [hqc, hpn, cryptedAt, hctr, hheader] at h
  exact h

end DataMpdu

/-- **Deciphering undoes ciphering**: the tag verifies, the payload is back, and the header and the CCMP
header are as they were. -/
theorem decipher_cipher (key : Skey) (f : DataMpdu) (p : ℕ) (message : Mem)
    (hfit : f.hdrlen + 8 + p + 8 ≤ MAX_MSG_SIZE) :
    (f.deciphered key p message).val = true ∧
    (∀ k < p, (f.deciphered key p message).st.pframe (f.hdrlen + 8 + k) = f.mem (f.hdrlen + 8 + k)) ∧
    ∀ x : ℤ, 0 ≤ x → x < f.hdrlen + 8 → (f.deciphered key p message).st.pframe x = f.mem x := by
  have hw : f.hdrlen + 8 + p + 8 ≤ 2 ^ 32 := hfit.trans (by norm_num [MAX_MSG_SIZE])
  obtain ⟨hval, hmem⟩ := f.deciphered_spec key p message hfit
  have hpay := f.ciphered_payload key p hw
  refine ⟨hval.mpr ?_, ?_, ?_⟩
  · intro i hi
    rw [hpay (p + i) (by omega), verifies_sealed f.ctr (f.header p) (payloadAt f.mem f.hdrlen) p i hi]
    exact tag_congr _ _ _ _ p i fun k hk => by rw [opened, opened, hpay k (by omega)]
  · intro k hk
    have hidx : (f.hdrlen : ℤ) + 8 + k = ((f.hdrlen + 8 : ℕ) : ℤ) + k := by push_cast; ring
    rw [hmem, hidx, patch_inside _ _ _ _ _ hk, opened, hpay k (by omega)]
    exact opened_sealed f.ctr (f.header p) (payloadAt f.mem f.hdrlen) p k hk
  · intro x _ hx
    rw [hmem, patch_outside _ _ _ _ _ (by push_cast; omega)]
    exact f.ciphered_header key p hw x hx

/-- A data frame with a QoS field and zeros elsewhere. -/
def qosSample : DataMpdu where
  mem x := if x = 0 then 0x88 else 0
  hdrlen := 26
  isData := by decide
  shape := .inr ⟨rfl, by decide⟩

/-- Twenty payload bytes: one full block and a partial one. -/
theorem decipher_cipher_qosSample :
    (qosSample.deciphered (Vector.replicate 16 0) 20 fun _ => 0xff).val = true ∧
    (∀ k < 20, (qosSample.deciphered (Vector.replicate 16 0) 20 fun _ => 0xff).st.pframe
      (qosSample.hdrlen + 8 + (k : ℕ)) = qosSample.mem (qosSample.hdrlen + 8 + (k : ℕ))) ∧
    ∀ x : ℤ, 0 ≤ x → x < qosSample.hdrlen + 8 →
      (qosSample.deciphered (Vector.replicate 16 0) 20 fun _ => 0xff).st.pframe x = qosSample.mem x :=
  decipher_cipher (Vector.replicate 16 0) qosSample 20 (fun _ => 0xff) (by decide)

end Rtl8723au.Security
