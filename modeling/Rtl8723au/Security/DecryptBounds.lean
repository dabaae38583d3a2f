import Rtl8723au.Security.SwDecrypt

/-! Which bytes software decryption touches. Neither the lengths nor the static
buffer are checked against the frame, so each routine stays inside exactly when
the header, the IV and, for CCMP, the MIC fit the frame. -/
namespace Rtl8723au.Security
open Mem Wifi
set_option autoImplicit false

/-- What `validate_recv_data_frame` sets for a frame it passes on. -/
structure ValidatedLengths (a : RxPktAttrib) : Prop where
  hdrlen : a.hdrlen = 24 ∨ a.hdrlen = 26 ∨ a.hdrlen = 28 ∨ a.hdrlen = 30
  iceIvLen : (a.ivLen, a.icvLen) = setIceIvLen a.encrypt

/-- An offset of the received bytes. -/
def InFrame (len : ℕ) (i : ℤ) : Prop := 0 ≤ i ∧ i < len

/-- An offset of the received bytes or of the static buffer `message`. -/
def InBuffers (len : ℕ) : DecipherAddr → Prop
  | .pframe i => InFrame len i
  | .message i => InFrame MAX_MSG_SIZE i

/-- The subtraction that gives the payload length does not wrap. -/
def PayloadLengthExact (a : RxPktAttrib) (len : ℕ) : Prop :=
  ((uint ((len : ℤ) - a.hdrlen - a.ivLen) : ℕ) : ℤ) = (len : ℤ) - a.hdrlen - a.ivLen

/-! ## RC4 -/

theorem uint_of_nonneg (z : ℤ) (h0 : 0 ≤ z) (h : z < 2 ^ 32) : ((uint z : ℕ) : ℤ) = z := by
  obtain ⟨n, rfl⟩ := Int.eq_ofNat_of_zero_le h0
  rw [uint_natCast n (by omega)]

theorem uint_of_neg (z : ℤ) (h0 : z < 0) (h : -2 ^ 32 ≤ z) : ((uint z : ℕ) : ℤ) = z + 2 ^ 32 := by
  have hmod : (z + 2 ^ 32) % 2 ^ 32 = z % 2 ^ 32 := Int.add_emod_right z (2 ^ 32)
  have hself : (z + 2 ^ 32) % 2 ^ 32 = z + 2 ^ 32 := Int.emod_eq_of_lt (by omega) (by omega)
  rw [uint, ← hmod, hself]
  exact Int.toNat_of_nonneg (by omega)

theorem payloadLength_eq (a : RxPktAttrib) (len : ℕ) (hlen : len < 2 ^ 31)
    (hhdr : a.hdrlen + a.ivLen < 2 ^ 31) : payloadLength a len = (len : ℤ) - a.hdrlen - a.ivLen :=
  cint_uint _ (by omega)

theorem inside_arcfourDecrypt (key : List UInt8) (p : ℤ) (len : ℕ) (m : Mem) (hp : 4 ≤ p)
    (hp' : p < 2 ^ 31) (hlen : len < 2 ^ 31) :
    AccessM.Inside (InFrame len) (arcfourDecrypt key p (len - p)) m ↔ p ≤ len := by
  unfold arcfourDecrypt
  rw [AccessM.inside_bind, AccessM.inside_bind, inside_arcfourEncrypt, inside_getcrc32]
  constructor
  · rintro ⟨henc, -⟩
    by_contra hlt
    have hu := uint_of_neg (len - p) (by omega) (by omega)
    have h0 := henc 0 (by omega)
    unfold InFrame at h0
    omega
  · intro hle
    have hu := uint_of_nonneg (len - p) (by omega) (by omega)
    have hc := cint_of_small (len - p - 4) (by omega)
    refine ⟨fun i hi => ⟨by omega, by omega⟩, fun i hi => ⟨by omega, by omega⟩, ?_⟩
    apply inside_compareIcvFrom
    intro k hk
    exact ⟨by omega, by omega⟩

/-! ## CCMP -/

section Ccmp
variable (P : ℤ → Prop) (key : Skey) (qc a4 : Bool) (pn : PnVector) (h p : ℕ)

theorem inside_qosTc (m : Mem) (hP : ∀ i : ℤ, 0 ≤ i → i < 32 → P i) :
    AccessM.Inside P (qosTc qc a4) m := by
  cases qc <;> cases a4 <;> simp [qosTc, hP]

theorem inside_constructCtrPreload (c : ℕ) (m : Mem) (hP : ∀ i : ℤ, 0 ≤ i → i < 32 → P i) :
    AccessM.Inside P (constructCtrPreload a4 qc pn c) m := by
  unfold constructCtrPreload
  rw [AccessM.inside_bind, AccessM.inside_bind]
  refine ⟨inside_qosTc P qc a4 m hP, ?_, AccessM.inside_pure P _ _⟩
  rw [inside_readVec]
  intro j hj
  exact hP _ (by omega) (by omega)

theorem inside_micHeader (m : Mem) (hP : ∀ i : ℤ, 0 ≤ i → i < 32 → P i) :
    AccessM.Inside P (micHeader qc a4 h p pn) m := by
  have hread : ∀ (b : ℤ) (n : ℕ) (t : Mem), 0 ≤ b → b + n ≤ 32 → AccessM.Inside P (readVec b n) t := by
    intro b n t hb hn
    rw [inside_readVec]
    intro j hj
    exact hP _ (by omega) (by omega)
  have htail : ∀ t : Mem, AccessM.Inside P (micHeader2Tail a4 qc) t := by
    intro t
    cases a4 <;> cases qc <;>
      simp only [micHeader2Tail, AccessM.inside_bind, AccessM.inside_pure, inside_read, Bool.false_eq_true,
        if_true, if_false, and_true]
    · exact ⟨hP _ (by norm_num) (by norm_num), hP _ (by norm_num) (by norm_num)⟩
    · exact hread _ _ _ (by norm_num) (by norm_num)
    · exact ⟨hread _ _ _ (by norm_num) (by norm_num), hP _ (by norm_num) (by norm_num),
        hP _ (by norm_num) (by norm_num)⟩
  simp only [micHeader, constructMicIv, constructMicHeader1, constructMicHeader2, AccessM.inside_bind,
    AccessM.inside_pure, and_true, inside_read]
  exact ⟨⟨inside_qosTc P qc a4 m hP, hread _ _ _ (by norm_num) (by norm_num)⟩,
    ⟨hP _ (by norm_num) (by norm_num), hP _ (by norm_num) (by norm_num),
      hread _ _ _ (by norm_num) (by norm_num)⟩,
    hread _ _ _ (by norm_num) (by norm_num), htail _⟩

variable {h p}

/-- Subscripts below a bound that fits a `uint` are inside when all offsets below it are. -/
theorem inside_uidx {P : ℤ → Prop} {n : ℕ} (hn : n ≤ 2 ^ 32) (hP : ∀ i : ℤ, 0 ≤ i → i < n → P i) (k : ℕ)
    (hk : k < n) : P (uidx k) := by
  rw [uidx_of_lt _ (by omega)]
  exact hP _ (by omega) (by omega)

theorem inside_uidx_add {P : ℤ → Prop} {n : ℕ} (hn : n ≤ 2 ^ 32) (hP : ∀ i : ℤ, 0 ≤ i → i < n → P i)
    (k j : ℕ) (hk : k + j < n) : P (uidx k + (j : ℤ)) := by
  rw [uidx_of_lt _ (by omega)]
  exact hP _ (by omega) (by omega)

theorem inside_readPnVector (m : Mem) (hw : h + 8 ≤ 2 ^ 32)
    (hP : ∀ i : ℤ, 0 ≤ i → i < (h + 8 : ℕ) → P i) : AccessM.Inside P (readPnVector h) m := by
  have hidx := inside_uidx hw hP
  simp only [readPnVector, AccessM.inside_bind, AccessM.inside_pure, inside_read, and_true]
  exact ⟨hidx h (by omega), hidx (h + 1) (by omega), hidx (h + 4) (by omega), hidx (h + 5) (by omega),
    hidx (h + 6) (by omega), hidx (h + 7) (by omega)⟩

theorem inside_cryptPayload (m : Mem) (hh : 24 ≤ h) (hw : h + 8 + p ≤ 2 ^ 32)
    (hP : ∀ i : ℤ, 0 ≤ i → i < (h + 8 + p : ℕ) → P i) :
    AccessM.Inside P (cryptPayload key qc a4 pn h p) m := by
  have h32 : ∀ i : ℤ, 0 ≤ i → i < 32 → P i := fun i h0 hi => hP i h0 (by omega)
  unfold cryptPayload
  rw [AccessM.inside_bind, AccessM.inside_loop, AccessM.inside_ite]
  constructor
  · intro i hi
    rw [AccessM.inside_bind, AccessM.inside_bind, inside_readVec, inside_writeLoop]
    refine ⟨inside_constructCtrPreload P qc a4 pn _ _ h32, ?_, ?_⟩
    · intro j hj
      exact inside_uidx_add hw hP _ j (by omega)
    · intro j hj
      exact inside_uidx hw hP _ (by omega)
  · split
    · rw [AccessM.inside_bind, AccessM.inside_bind, inside_readPadded, inside_writeLoop]
      refine ⟨inside_constructCtrPreload P qc a4 pn _ _ h32, ?_, ?_⟩
      · intro j hj
        exact inside_uidx hw hP _ (by omega)
      · intro j hj
        exact inside_uidx hw hP _ (by omega)
    · exact AccessM.inside_pure P _ _

theorem inside_calculateMic (m : Mem) (header : Ccm.Block × Ccm.Block × Ccm.Block)
    (hw : h + 8 + p + 8 ≤ 2 ^ 32) (hP : ∀ i : ℤ, 0 ≤ i → i < (h + 8 + p + 8 : ℕ) → P i) :
    AccessM.Inside P (calculateMic key h p header) m := by
  have hwrite : ∀ (v : ℕ → UInt8) (t : Mem),
      AccessM.Inside P (writeLoop (fun j => uidx (h + 8 + p + j)) v 8) t := by
    intro v t
    rw [inside_writeLoop]
    intro j hj
    exact inside_uidx hw hP _ (by omega)
  obtain ⟨b0, b1, b2⟩ := header
  unfold calculateMic
  rw [AccessM.inside_bind, AccessM.inside_loopAcc, AccessM.inside_ite]
  constructor
  · intro i hi
    rw [AccessM.inside_bind, inside_readVec]
    refine ⟨?_, AccessM.inside_pure P _ _⟩
    intro j hj
    exact inside_uidx_add hw hP _ j (by omega)
  · split
    · rw [AccessM.inside_bind, inside_readPadded, AccessM.inside_bind]
      refine ⟨?_, AccessM.inside_pure P _ _, ?_⟩
      · intro j hj
        exact inside_uidx hw hP _ (by omega)
      · apply hwrite
    · rw [AccessM.inside_bind]
      refine ⟨AccessM.inside_pure P _ _, ?_⟩
      apply hwrite

theorem inside_encryptMic (m : Mem) (hw : h + 8 + p + 8 ≤ 2 ^ 32) (hh : 24 ≤ h)
    (hP : ∀ i : ℤ, 0 ≤ i → i < (h + 8 + p + 8 : ℕ) → P i) :
    AccessM.Inside P (encryptMic key qc a4 pn h p) m := by
  unfold encryptMic
  rw [AccessM.inside_bind, AccessM.inside_bind, inside_readPadded, inside_writeLoop]
  refine ⟨inside_constructCtrPreload P qc a4 pn _ _ fun i h0 hi => hP i h0 (by omega), ?_, ?_⟩
  · intro j hj
    exact inside_uidx hw hP _ (by omega)
  · intro j hj
    exact inside_uidx hw hP _ (by omega)

end Ccmp

/-! ## `aes_decipher` -/

section AesDecipher
variable (key : Skey)

theorem inside_onPframe {α : Type} (len : ℕ) (m : M α) (s : DecipherMem) :
    AccessM.Inside (InBuffers len) (onPframe m) s ↔ AccessM.Inside (InFrame len) m s.pframe :=
  AccessM.inside_zoom _ _ _ _

theorem inside_onMessage {α : Type} (len : ℕ) (m : M α) (s : DecipherMem) :
    AccessM.Inside (InBuffers len) (onMessage m) s ↔ AccessM.Inside (InFrame MAX_MSG_SIZE) m s.message :=
  AccessM.inside_zoom _ _ _ _

theorem inside_copyMessage (len n : ℕ) (s : DecipherMem) (hn : n ≤ len) (hmax : n ≤ MAX_MSG_SIZE) :
    AccessM.Inside (InBuffers len) (copyMessage n) s := by
  intro a ha
  simp only [copyMessage, List.mem_append, List.mem_map, List.mem_range] at ha
  rcases ha with ⟨j, hj, rfl⟩ | ⟨j, hj, rfl⟩
  · exact ⟨by omega, by omega⟩
  · exact ⟨by omega, by omega⟩

theorem inside_compareMic (len h p : ℕ) (s : DecipherMem) :
    AccessM.Inside (InBuffers len) (compareMic h p 8) s ↔
      ∀ i < 8, InFrame len (uidx (h + 8 + p + i)) ∧ InFrame MAX_MSG_SIZE (uidx (h + 8 + p + i)) := by
  unfold compareMic
  rw [AccessM.inside_loopAcc]
  refine forall₂_congr fun i _ => ?_
  rw [AccessM.inside_bind, AccessM.inside_bind, inside_onPframe, inside_onMessage, inside_read, inside_read,
    and_iff_left (AccessM.inside_pure _ _ _)]

theorem adjustHdrlen_eq_iff (h fc : ℕ) : adjustHdrlen h fc = h ↔ (qcExists fc = true → h = 26) := by
  unfold adjustHdrlen
  cases qcExists fc <;> by_cases h26 : h = 26 <;> simp [h26, WLAN_HDR_A3_QOS_LEN]

theorem adjustHdrlen_le (h fc : ℕ) : h ≤ adjustHdrlen h fc ∧ adjustHdrlen h fc ≤ h + 2 := by
  unfold adjustHdrlen
  split <;> omega

theorem inside_aesDecipher_of_fits (len h p : ℕ) (s : DecipherMem) (hh : 24 ≤ h)
    (hlen : len = h + 8 + p + 8) (hmax : len ≤ MAX_MSG_SIZE) (hadj : adjustHdrlen h (le16 s.pframe 0) = h) :
    AccessM.Inside (InBuffers len) (aesDecipher key h (p + 8)) s := by
  have hmsg : MAX_MSG_SIZE = 2048 := rfl
  have hw : h + 8 + p + 8 ≤ 2 ^ 32 := by omega
  have hp8 : uint (((p + 8 : ℕ) : ℤ) - 8) = p := by
    have e : ((p + 8 : ℕ) : ℤ) - 8 = (p : ℤ) := by push_cast; ring
    rw [e, uint_natCast _ (by omega)]
  have hframe : ∀ n ≤ len, ∀ i : ℤ, 0 ≤ i → i < (n : ℕ) → InFrame len i :=
    fun n hn i h0 hi => ⟨h0, by omega⟩
  have hmess : ∀ n ≤ len, ∀ i : ℤ, 0 ≤ i → i < (n : ℕ) → InFrame MAX_MSG_SIZE i :=
    fun n hn i h0 hi => ⟨h0, by omega⟩
  have hn : (h + (p + 8) + 8) % 2 ^ 32 = len := by omega
  unfold aesDecipher
  simp only [AccessM.inside_bind, inside_onPframe, inside_onMessage, onPframe_val, readLe16_val, hadj, hp8, hn,
    if_pos hmax]
  refine ⟨?_, ?_, ?_, ?_, ?_, ?_, ?_, ?_, ?_, ?_⟩
  · exact (inside_readLe16 _ 0 _).mpr ⟨hframe len le_rfl 0 le_rfl (by omega), hframe len le_rfl _ (by omega) (by omega)⟩
  · exact inside_readPnVector _ _ (by omega) (hframe _ (by omega))
  · exact inside_cryptPayload _ _ _ _ _ _ hh (by omega) (hframe _ (by omega))
  · exact inside_copyMessage len len _ le_rfl hmax
  · exact inside_readPnVector _ _ (by omega) (hframe _ (by omega))
  · exact inside_micHeader _ _ _ _ _ _ _ fun i h0 hi => hmess len le_rfl i h0 (by omega)
  · exact inside_calculateMic _ _ _ _ hw (hmess _ (by omega))
  · exact inside_cryptPayload _ _ _ _ _ _ hh (by omega) (hmess _ (by omega))
  · exact inside_encryptMic _ _ _ _ _ _ hw hh (hmess _ (by omega))
  · rw [inside_compareMic]
    intro i hi
    exact ⟨inside_uidx hw (hframe _ (by omega)) _ (by omega), inside_uidx hw (hmess _ (by omega)) _ (by omega)⟩

theorem inside_aesDecipher_parts (len h plen : ℕ) (s : DecipherMem)
    (hin : AccessM.Inside (InBuffers len) (aesDecipher key h plen) s) :
    (∃ (qc a4 : Bool) (pn : PnVector) (m : Mem), AccessM.Inside (InFrame len)
      (cryptPayload key qc a4 pn (adjustHdrlen h (le16 s.pframe 0)) (uint ((plen : ℤ) - 8))) m) ∧
    ∀ i < 8, InFrame len (uidx (adjustHdrlen h (le16 s.pframe 0) + 8 + uint ((plen : ℤ) - 8) + i)) ∧
      InFrame MAX_MSG_SIZE (uidx (adjustHdrlen h (le16 s.pframe 0) + 8 + uint ((plen : ℤ) - 8) + i)) := by
  unfold aesDecipher at hin
  simp only [AccessM.inside_bind, AccessM.inside_ite] at hin
  obtain ⟨-, -, hcrypt, hrest⟩ := hin
  refine ⟨⟨_, _, _, _, (inside_onPframe _ _ _).mp hcrypt⟩, ?_⟩
  split at hrest
  · obtain ⟨-, -, -, -, -, -, hcmp⟩ := hrest
    exact (inside_compareMic _ _ _ _).mp hcmp
  · obtain ⟨-, -, -, -, -, hcmp⟩ := hrest
    exact (inside_compareMic _ _ _ _).mp hcmp

theorem first_block_of_inside (P : ℤ → Prop) (qc a4 : Bool) (pn : PnVector) (h p : ℕ) (m : Mem)
    (hp : 16 ≤ p) (hh : h + 8 < 2 ^ 32) (hin : AccessM.Inside P (cryptPayload key qc a4 pn h p) m) :
    P (h + 8 + 15) := by
  unfold cryptPayload at hin
  rw [AccessM.inside_bind, AccessM.inside_loop] at hin
  have h0 := hin.1 0 (by omega)
  rw [AccessM.inside_bind, AccessM.inside_bind, inside_readVec] at h0
  have h15 := h0.2.1 15 (by norm_num)
  rw [uidx_of_lt _ (by omega)] at h15
  exact h15

/-- **`aes_decipher` stays inside** exactly when the MIC fits the frame, the frame fits the static buffer
and a QoS header has 26 bytes. -/
theorem inside_aesDecipher_iff (len h : ℕ) (s : DecipherMem) (hh : 24 ≤ h ∧ h ≤ 30) (hlen : len < 2 ^ 31) :
    AccessM.Inside (InBuffers len) (aesDecipher key h (uint ((len : ℤ) - h - 8))) s ↔
      h + 16 ≤ len ∧ len ≤ MAX_MSG_SIZE ∧ (qcExists (le16 s.pframe 0) = true → h = 26) := by
  obtain ⟨hlo, hhi⟩ := hh
  have hmsg : MAX_MSG_SIZE = 2048 := rfl
  have hle := adjustHdrlen_le h (le16 s.pframe 0)
  rw [← adjustHdrlen_eq_iff]
  constructor
  · intro hin
    obtain ⟨⟨qc, a4, pn, m, hcrypt⟩, hcmp⟩ := inside_aesDecipher_parts key len h _ s hin
    by_cases hfit : h + 16 ≤ len
    · have hplen := uint_of_nonneg ((len : ℤ) - h - 8) (by omega) (by omega)
      have hp := uint_of_nonneg ((uint ((len : ℤ) - h - 8) : ℕ) - 8 : ℤ) (by omega) (by omega)
      obtain ⟨⟨-, h7⟩, -, h7'⟩ := hcmp 7 (by norm_num)
      rw [uidx_of_lt _ (by omega)] at h7 h7'
      exact ⟨hfit, by omega, by omega⟩
    · -- the length goes below zero, so the first block alone is past the end
      exfalso
      have hp : 16 ≤ uint ((uint ((len : ℤ) - h - 8) : ℕ) - 8 : ℤ) := by
        by_cases hneg : (len : ℤ) - h - 8 < 0
        · have hu := uint_of_neg ((len : ℤ) - h - 8) hneg (by omega)
          have hp := uint_of_nonneg ((uint ((len : ℤ) - h - 8) : ℕ) - 8 : ℤ) (by omega) (by omega)
          omega
        · have hu := uint_of_nonneg ((len : ℤ) - h - 8) (by omega) (by omega)
          have hp := uint_of_neg ((uint ((len : ℤ) - h - 8) : ℕ) - 8 : ℤ) (by omega) (by omega)
          omega
      have hb := first_block_of_inside key (InFrame len) qc a4 pn _ _ m hp (by omega) hcrypt
      unfold InFrame at hb
      omega
  · rintro ⟨hfit, hmax, hadj⟩
    have hplen := uint_of_nonneg ((len : ℤ) - h - 8) (by omega) (by omega)
    obtain ⟨p, hp⟩ : ∃ p, uint ((len : ℤ) - h - 8) = p + 8 := ⟨uint ((len : ℤ) - h - 8) - 8, by omega⟩
    rw [hp]
    exact inside_aesDecipher_of_fits key len h p s hlo (by omega) hmax hadj

end AesDecipher

/-! ## The three routines -/

/-- A cipher the software path knows. -/
def SwCipher (a : RxPktAttrib) : Prop :=
  (a.encrypt = WEP40 ∨ a.encrypt = WEP104) ∨ a.encrypt = TKIP ∨ a.encrypt = AES

/-- The routine for the frame's cipher gets as far as its lengths. -/
def KeyFound (adapter : RtwAdapter) (a : RxPktAttrib) : Prop :=
  (a.encrypt = TKIP → tkipPrwskey adapter a ≠ none) ∧ (a.encrypt = AES → aesPrwskey adapter a ≠ none)

/-- The routines touch only bytes of the frame and of `message`, and no length they compute wraps. -/
structure DecryptsInside (adapter : RtwAdapter) (a : RxPktAttrib) (len : ℕ) (s : DecipherMem) : Prop where
  wep : AccessM.Inside (InFrame len) (rtwWepDecrypt adapter a len) s.pframe
  tkip : AccessM.Inside (InFrame len) (rtwTkipDecrypt adapter a len) s.pframe
  aes : AccessM.Inside (InBuffers len) (rtwAesDecrypt adapter a len) s
  payload : KeyFound adapter a → PayloadLengthExact a len
  icv : KeyFound adapter a → a.encrypt ≠ AES → cint (payloadLength a len - 4) = payloadLength a len - 4
  mic : KeyFound adapter a → a.encrypt = AES →
    ((uint ((uint (payloadLength a len) : ℕ) - 8) : ℕ) : ℤ) = (uint (payloadLength a len) : ℕ) - 8

/-- The header and the IV fit the frame; for CCMP so does the MIC, the frame fits `message`, and a frame
with a QoS field has a header of 26 bytes. -/
structure FitsDecrypt (adapter : RtwAdapter) (a : RxPktAttrib) (len fc : ℕ) : Prop where
  payload : KeyFound adapter a → a.hdrlen + a.ivLen ≤ len
  mic : KeyFound adapter a → a.encrypt = AES → a.hdrlen + a.ivLen + 8 ≤ len
  message : KeyFound adapter a → a.encrypt = AES → len ≤ MAX_MSG_SIZE
  qos : KeyFound adapter a → a.encrypt = AES → qcExists fc = true → a.hdrlen = 26

section Routines
variable (adapter : RtwAdapter) {a : RxPktAttrib} {len : ℕ} (s : DecipherMem)

theorem ValidatedLengths.bounds (hv : ValidatedLengths a) : 24 ≤ a.hdrlen ∧ a.hdrlen ≤ 30 := by
  have h := hv.hdrlen
  omega

theorem ValidatedLengths.ivLen_wep (hv : ValidatedLengths a) (hw : a.encrypt = WEP40 ∨ a.encrypt = WEP104) :
    a.ivLen = 4 := by
  have h := congrArg Prod.fst hv.iceIvLen
  rcases hw with hw | hw <;> rw [hw] at h <;> exact h

theorem ValidatedLengths.ivLen_tkip (hv : ValidatedLengths a) (ht : a.encrypt = TKIP) : a.ivLen = 8 := by
  have h := congrArg Prod.fst hv.iceIvLen
  rw [ht] at h
  exact h

theorem ValidatedLengths.ivLen_aes (hv : ValidatedLengths a) (ha : a.encrypt = AES) : a.ivLen = 8 := by
  have h := congrArg Prod.fst hv.iceIvLen
  rw [ha] at h
  exact h

theorem payloadLengthExact_iff (hsum : a.hdrlen + a.ivLen ≤ 2 ^ 31) (hlen : len < 2 ^ 31) :
    PayloadLengthExact a len ↔ a.hdrlen + a.ivLen ≤ len := by
  unfold PayloadLengthExact
  constructor
  · intro h
    omega
  · intro h
    exact uint_of_nonneg _ (by omega) (by omega)

theorem inside_ivThenArcfour (iv : ℕ) (key : Vector UInt8 iv → List UInt8) (m : Mem) (hv : ValidatedLengths a)
    (hiv : iv ≤ a.ivLen) (hiv4 : 4 ≤ a.ivLen) (hiv18 : a.ivLen ≤ 18) (hlen : len < 2 ^ 31) :
    (∀ j < iv, InFrame len (a.hdrlen + (j : ℕ))) ∧ AccessM.Inside (InFrame len)
      (arcfourDecrypt (key ((readVec a.hdrlen iv).run m).val) (a.ivLen + a.hdrlen) (payloadLength a len)) m ↔
      a.hdrlen + a.ivLen ≤ len := by
  obtain ⟨hlo, hhi⟩ := hv.bounds
  have hsub : payloadLength a len = (len : ℤ) - (a.ivLen + a.hdrlen) := by
    rw [payloadLength_eq a len hlen (by omega)]
    ring
  rw [hsub, inside_arcfourDecrypt _ _ len m (by omega) (by omega) hlen]
  constructor
  · rintro ⟨-, h⟩
    omega
  · intro h
    exact ⟨fun j hj => ⟨by omega, by omega⟩, by omega⟩

theorem inside_rtwWepDecrypt (m : Mem) (hv : ValidatedLengths a) (hlen : len < 2 ^ 31)
    (hw : a.encrypt = WEP40 ∨ a.encrypt = WEP104) :
    AccessM.Inside (InFrame len) (rtwWepDecrypt adapter a len) m ↔ a.hdrlen + a.ivLen ≤ len := by
  have hiv := hv.ivLen_wep hw
  unfold rtwWepDecrypt
  rw [if_pos hw, AccessM.inside_bind, AccessM.inside_bind, inside_readVec,
    and_iff_left (AccessM.inside_pure _ _ _)]
  exact inside_ivThenArcfour 3 (fun iv => iv.toList ++ wepSecret adapter a) m hv (by omega) (by omega)
    (by omega) hlen

theorem inside_rtwTkipDecrypt (m : Mem) (hv : ValidatedLengths a) (hlen : len < 2 ^ 31)
    (ht : a.encrypt = TKIP) : AccessM.Inside (InFrame len) (rtwTkipDecrypt adapter a len) m ↔
      (tkipPrwskey adapter a ≠ none → a.hdrlen + a.ivLen ≤ len) := by
  have hiv := hv.ivLen_tkip ht
  unfold rtwTkipDecrypt
  rw [if_pos ht]
  cases tkipPrwskey adapter a with
  | none => simp
  | some prwskey =>
    simp only [ne_eq, reduceCtorEq, not_false_eq_true, forall_const]
    rw [AccessM.inside_bind, inside_readVec]
    exact inside_ivThenArcfour 8 (fun iv => (tkipRc4key prwskey a.ta iv).toList) m hv (by omega) (by omega)
      (by omega) hlen

theorem inside_rtwAesDecrypt (hv : ValidatedLengths a) (hlen : len < 2 ^ 31) (ha : a.encrypt = AES) :
    AccessM.Inside (InBuffers len) (rtwAesDecrypt adapter a len) s ↔ (aesPrwskey adapter a ≠ none →
      a.hdrlen + 16 ≤ len ∧ len ≤ MAX_MSG_SIZE ∧ (qcExists (le16 s.pframe 0) = true → a.hdrlen = 26)) := by
  have hiv := hv.ivLen_aes ha
  obtain ⟨hlo, hhi⟩ := hv.bounds
  unfold rtwAesDecrypt
  rw [if_pos ha]
  cases aesPrwskey adapter a with
  | none => simp
  | some prwskey =>
    simp only [ne_eq, reduceCtorEq, not_false_eq_true, forall_const]
    rw [payloadLength_eq a len hlen (by omega), hiv]
    exact inside_aesDecipher_iff prwskey len a.hdrlen s ⟨hlo, hhi⟩ hlen

/-- **Software decryption stays inside** its frame and its buffer, with no length wrapping, exactly when
the frame is long enough for what its cipher takes off it. -/
theorem decryptsInside_iff (hc : SwCipher a) (hv : ValidatedLengths a) (hlen : len < 2 ^ 31) :
    DecryptsInside adapter a len s ↔ FitsDecrypt adapter a len (le16 s.pframe 0) := by
  obtain ⟨hlo, hhi⟩ := hv.bounds
  have hwep : ¬(a.encrypt = WEP40 ∨ a.encrypt = WEP104) →
      AccessM.Inside (InFrame len) (rtwWepDecrypt adapter a len) s.pframe := by
    intro h
    rw [rtwWepDecrypt, if_neg h]
    exact AccessM.inside_pure _ _ _
  have htkip : a.encrypt ≠ TKIP → AccessM.Inside (InFrame len) (rtwTkipDecrypt adapter a len) s.pframe := by
    intro h
    rw [rtwTkipDecrypt, if_neg h]
    exact AccessM.inside_pure _ _ _
  have haes : a.encrypt ≠ AES → AccessM.Inside (InBuffers len) (rtwAesDecrypt adapter a len) s := by
    intro h
    rw [rtwAesDecrypt, if_neg h]
    exact AccessM.inside_pure _ _ _
  have hT : TKIP = 2 := rfl
  have hA : AES = 4 := rfl
  have hW : WEP40 = 1 := rfl
  have hW' : WEP104 = 5 := rfl
  have hicv : a.ivLen ≤ 8 → cint (payloadLength a len - 4) = payloadLength a len - 4 := by
    intro hiv
    rw [payloadLength_eq a len hlen (by omega)]
    exact cint_of_small _ (by omega)
  rcases hc with hw | ht | ha
  · have hiv := hv.ivLen_wep hw
    have hkey : KeyFound adapter a := ⟨fun h => by omega, fun h => by omega⟩
    have hin := inside_rtwWepDecrypt adapter s.pframe hv hlen hw
    constructor
    · intro h
      exact ⟨fun _ => hin.mp h.wep, fun _ h => by omega, fun _ h => by omega, fun _ h => by omega⟩
    · intro h
      exact ⟨hin.mpr (h.payload hkey), htkip (by omega), haes (by omega),
        fun _ => (payloadLengthExact_iff (by omega) hlen).mpr (h.payload hkey), fun _ _ => hicv (by omega),
        fun _ h => by omega⟩
  · have hiv := hv.ivLen_tkip ht
    have hkey : KeyFound adapter a ↔ tkipPrwskey adapter a ≠ none :=
      ⟨fun h => h.1 ht, fun h => ⟨fun _ => h, fun h => by omega⟩⟩
    have hin := inside_rtwTkipDecrypt adapter s.pframe hv hlen ht
    constructor
    · intro h
      exact ⟨fun hk => hin.mp h.tkip (hkey.mp hk), fun _ h => by omega, fun _ h => by omega, fun _ h => by omega⟩
    · intro h
      exact ⟨hwep (by omega), hin.mpr fun hk => h.payload (hkey.mpr hk), haes (by omega),
        fun hk => (payloadLengthExact_iff (by omega) hlen).mpr (h.payload hk), fun _ _ => hicv (by omega),
        fun _ h => by omega⟩
  · have hiv := hv.ivLen_aes ha
    have hkey : KeyFound adapter a ↔ aesPrwskey adapter a ≠ none :=
      ⟨fun h => h.2 ha, fun h => ⟨fun h => by omega, fun _ => h⟩⟩
    have hin := inside_rtwAesDecrypt adapter s hv hlen ha
    have hpl := payloadLength_eq a len hlen (by omega)
    constructor
    · intro h
      have hfit := fun hk => hin.mp h.aes (hkey.mp hk)
      exact ⟨fun hk => by have := (hfit hk).1; omega, fun hk _ => by have := (hfit hk).1; omega,
        fun hk _ => (hfit hk).2.1, fun hk _ => (hfit hk).2.2⟩
    · intro h
      refine ⟨hwep (by omega), htkip (by omega), hin.mpr fun hk => ?_,
        fun hk => (payloadLengthExact_iff (by omega) hlen).mpr (h.payload hk), fun _ hne => absurd ha hne,
        fun hk _ => ?_⟩
      · have hk' := hkey.mpr hk
        have hmic := h.mic hk' ha
        exact ⟨by omega, h.message hk' ha, h.qos hk' ha⟩
      · have hmic := h.mic hk ha
        have hu := uint_of_nonneg (payloadLength a len) (by omega) (by omega)
        exact uint_of_nonneg _ (by omega) (by omega)

/-- A WEP frame of `len` bytes with a plain header. -/
def wepAttrib : RxPktAttrib := { encrypt := WEP40, hdrlen := 24, ivLen := 4, icvLen := 4 }

end Routines

theorem decryptsInside_wepAttrib : DecryptsInside {} wepAttrib 64 ⟨fun _ => 0, fun _ => 0⟩ := by
  refine (decryptsInside_iff {} ⟨fun _ => 0, fun _ => 0⟩ (.inl (.inl rfl)) ⟨.inl rfl, rfl⟩ (by norm_num)).mpr ⟨fun _ => by decide, ?_, ?_, ?_⟩
  all_goals
    intro _ h
    exact absurd h (by decide)

/-- Two bytes behind the header are less than an IV: the length goes below zero, and RC4 runs off the
frame. -/
theorem not_decryptsInside_short :
    ¬ ∀ (adapter : RtwAdapter) (a : RxPktAttrib) (len : ℕ) (s : DecipherMem),
      SwCipher a → ValidatedLengths a → len < 2 ^ 31 → DecryptsInside adapter a len s := by
  intro h
  have hv : ValidatedLengths wepAttrib := ⟨.inl rfl, rfl⟩
  have hin := h {} wepAttrib 26 ⟨fun _ => 0, fun _ => 0⟩ (.inl (.inl rfl)) hv (by norm_num)
  have hfit := (inside_rtwWepDecrypt {} (fun _ => 0) hv (by norm_num) (.inl rfl)).mp hin.wep
  exact absurd hfit (by decide)

end Rtl8723au.Security
