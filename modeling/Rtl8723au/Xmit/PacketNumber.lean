import Rtl8723au.Xmit.CoalesceLoop

/-! The packet numbers in the IVs of a station's MPDUs: every MPDU counts `dot11txpn` on, so they do not
repeat before the counter has gone all the way around. -/
namespace Rtl8723au
open Mem Wifi Security
set_option autoImplicit false

/-! ## What is read back -/

/-- The number whose bytes stand at these places of an IV. -/
def pnAt (places : List ℕ) (iv : List UInt8) : ℕ := Nat.ofDigits 256 (places.map fun k => (iv.getD k 0).toNat)

/-- `GET_TKIP_PN`. -/
def getTkipPn (iv : List UInt8) : ℕ := pnAt [2, 0, 4, 5, 6, 7] iv

/-- The six bytes of `pn_vector` that `construct_mic_iv` takes. -/
def ccmpPn (iv : List UInt8) : ℕ := pnAt [0, 1, 4, 5, 6, 7] iv

/-- The packet number of an MPDU under this cipher. -/
def ivPn (encrypt : ℕ) (iv : List UInt8) : ℕ := if encrypt = TKIP then getTkipPn iv else ccmpPn iv

/-- TKIP or CCMP. -/
def Protected (encrypt : ℕ) : Prop := encrypt = TKIP ∨ encrypt = AES

instance (encrypt : ℕ) : Decidable (Protected encrypt) := inferInstanceAs (Decidable (_ ∨ _))

theorem tsc_toNat (pn : UInt64) (k : ℕ) (hk : k < 8) : (tsc pn k).toNat = pn.toNat / 2 ^ (8 * k) % 256 := by
  have hshift : (UInt64.ofNat (8 * k)).toNat = 8 * k := by
    rw [UInt64.toNat_ofNat']
    omega
  rw [tsc, UInt64.toNat_toUInt8, UInt64.toNat_shiftRight, hshift, Nat.mod_eq_of_lt (by omega : 8 * k < 64),
    Nat.shiftRight_eq_div_pow]

theorem pnAt_tsc (places : List ℕ) (iv : List UInt8) (pn : UInt64)
    (h : places.map (fun k => iv.getD k 0) = [tsc pn 0, tsc pn 1, tsc pn 2, tsc pn 3, tsc pn 4, tsc pn 5]) :
    pnAt places iv = pn.toNat % 2 ^ 48 := by
  have hmap : (places.map fun k => (iv.getD k 0).toNat) = (places.map fun k => iv.getD k 0).map UInt8.toNat := by
    rw [List.map_map]
    rfl
  rw [pnAt, hmap, h]
  simp only [List.map_cons, List.map_nil, Nat.ofDigits_cons, Nat.ofDigits_nil]
  rw [tsc_toNat _ 0 (by norm_num), tsc_toNat _ 1 (by norm_num), tsc_toNat _ 2 (by norm_num),
    tsc_toNat _ 3 (by norm_num), tsc_toNat _ 4 (by norm_num), tsc_toNat _ 5 (by norm_num)]
  norm_num
  omega

section Iv
variable {a : PktAttrib} {pn : UInt64}

variable (pn) in
/-- **The IV carries the low 48 bits of the counter.** -/
theorem writeIv_pn (h : Protected a.encrypt) :
    ivPn a.encrypt ((writeIv a pn).1.toList.take 8) = pn.toNat % 2 ^ 48 := by
  obtain h | h := h
  · rw [ivPn, if_pos h, writeIv, h]
    apply pnAt_tsc
    simp [tkipIv, TKIP]
  · rw [ivPn, h, if_neg (by decide), writeIv, h]
    apply pnAt_tsc
    simp [aesIv, AES]

theorem writeIv_next (h : Protected a.encrypt) :
    (writeIv a pn).2.toNat % 2 ^ 48 = (pn.toNat + 1) % 2 ^ 48 := by
  have hnext : (nextPn 0xffffffffffff pn).toNat % 2 ^ 48 = (pn.toNat + 1) % 2 ^ 48 := by
    unfold nextPn
    split
    · rename_i hlast
      rw [hlast]
      rfl
    · rw [UInt64.toNat_add]
      have hone : (1 : UInt64).toNat = 1 := rfl
      omega
  obtain h | h := h <;> rw [writeIv, h] <;> exact hnext

end Iv

/-! ## One frame -/

/-- The `n` numbers from `p` on, as 48 bits hold them. -/
def counted (p n : ℕ) : List ℕ := (List.range n).map fun i => (p + i) % 2 ^ 48

theorem counted_add (p n k : ℕ) : counted p (n + k) = counted p n ++ counted (p + n) k := by
  unfold counted
  rw [List.range_add, List.map_append, List.map_map]
  congr 1
  apply List.map_congr_left
  intro i _
  show (p + (n + i)) % 2 ^ 48 = _
  rw [Nat.add_assoc]

theorem counted_mod (p n : ℕ) : counted (p % 2 ^ 48) n = counted p n := by
  apply List.map_congr_left
  intro i _
  exact Nat.mod_add_mod p (2 ^ 48) i

theorem counted_congr (p p' n : ℕ) (h : p % 2 ^ 48 = p' % 2 ^ 48) : counted p n = counted p' n := by
  rw [← counted_mod, h, counted_mod]

section Loop
variable {psta p : StaId} {q q' : RtwAdapter} {a a' : PktAttrib} {t : Frag} {x : ℕ}

/-- The loop with every MPDU numbered from `x` on. -/
structure Counts (psta : StaId) (e x : ℕ) (t : Frag) : Prop where
  encrypt : t.pattrib.encrypt = e
  ivLen : t.pattrib.ivLen = 8
  pn : (t.padapter.staInfo psta).dot11txpn.toNat % 2 ^ 48 = (x + t.mpdus.length) % 2 ^ 48
  ivs : t.mpdus.map (fun u => ivPn e u.iv) = counted x t.mpdus.length

theorem setTxpn_txpn (pn : UInt64) : ((q.setTxpn p pn).staInfo psta).dot11txpn =
    if psta = p then pn else (q.staInfo psta).dot11txpn := by
  unfold RtwAdapter.setTxpn RtwAdapter.setInfo StaPriv.setInfo RtwAdapter.staInfo
  dsimp only
  rw [Function.update_apply]
  split <;> rfl

theorem counts_pass {e : ℕ} (he : Protected e) (h : Counts psta e x t) : Counts psta e x (fragPass psta t) := by
  obtain ⟨henc, hlen, hpn, hivs⟩ := h
  have hprot : Protected t.pattrib.encrypt := henc ▸ he
  have hiv : fragIv psta t = { t with
      padapter := t.padapter.setTxpn psta (writeIv t.pattrib (t.padapter.staInfo psta).dot11txpn).2
      pattrib := { t.pattrib with iv := (writeIv t.pattrib (t.padapter.staInfo psta).dot11txpn).1 } } :=
    if_pos (by rw [hlen]; decide)
  have hmpdus : (fragPass psta t).mpdus = t.mpdus ++ [fragMpdu (fragIv psta t)] := fragPass_mpdus
  have hu : ivPn e (fragMpdu (fragIv psta t)).iv = (x + t.mpdus.length) % 2 ^ 48 := by
    rw [hiv, ← henc, ← hpn, ← writeIv_pn _ hprot, ← hlen]
    rfl
  have hcount : (fragPass psta t).mpdus.length = t.mpdus.length + 1 := by
    rw [hmpdus, List.length_append, List.length_singleton]
  refine ⟨?_, ?_, ?_, ?_⟩
  · show (fragIv psta t).pattrib.encrypt = e
    rw [hiv]
    exact henc
  · show (fragIv psta t).pattrib.ivLen = 8
    rw [hiv]
    exact hlen
  · show ((fragIv psta t).padapter.staInfo psta).dot11txpn.toNat % 2 ^ 48 = _
    rw [hiv, setTxpn_txpn, if_pos rfl, writeIv_next hprot, hcount]
    omega
  · rw [hcount, counted_add, hmpdus, List.map_append, hivs, List.map_singleton, hu]
    rfl

/-- **Every MPDU of the frame has a number of its own.** -/
theorem coalesceLoop_counts {n e : ℕ} {s s' : Frag} (he : Protected e) (h : coalesceLoop psta n s = some s')
    (hs : Counts psta e x s) : Counts psta e x s' := by
  obtain ⟨t, ht, -, rfl⟩ := coalesceLoop_invariant psta (Counts psta e x) n s s' h hs fun t ht _ => by
    obtain ⟨henc, hlen, hpn, hivs⟩ := counts_pass he ht
    exact ⟨henc, hlen, hpn, hivs⟩
  obtain ⟨henc, hlen, hpn, hivs⟩ := counts_pass he ht
  exact ⟨henc, hlen, hpn, hivs⟩

theorem coalesceLoop_keeps {n : ℕ} {s s' : Frag} (h : coalesceLoop p n s = some s')
    (hs : s.pattrib.ivLen = 0 ∨ psta ≠ p) :
    (s'.padapter.staInfo psta).dot11txpn = (s.padapter.staInfo psta).dot11txpn := by
  have hpass : ∀ t : Frag, (t.pattrib.ivLen = 0 ∨ psta ≠ p) →
      ((fragIv p t).padapter.staInfo psta).dot11txpn = (t.padapter.staInfo psta).dot11txpn ∧
        (fragIv p t).pattrib.ivLen = t.pattrib.ivLen := by
    intro t ht
    unfold fragIv
    split
    · rename_i hiv
      obtain hz | hne := ht
      · exact absurd hz hiv
      · exact ⟨by rw [setTxpn_txpn, if_neg hne], rfl⟩
    · exact ⟨rfl, rfl⟩
  obtain ⟨t, ⟨ht, hlen⟩, -, rfl⟩ := coalesceLoop_invariant p
    (fun t => (t.padapter.staInfo psta).dot11txpn = (s.padapter.staInfo psta).dot11txpn ∧
      (t.pattrib.ivLen = 0 ∨ psta ≠ p)) n s s' h ⟨rfl, hs⟩ fun t ⟨ht, hlen⟩ _ => by
    obtain ⟨hpn, hiv⟩ := hpass t hlen
    exact ⟨hpn.trans ht, hiv.symm ▸ hlen⟩
  exact (hpass t hlen).1.trans ht

variable (psta) in
theorem rtwMakeWlanhdr_keeps {m m' : Mem} {hdr : ℤ} (h : rtwMakeWlanhdr q m hdr a = some (q', a', m')) :
    (q'.staInfo psta).dot11txpn = (q.staInfo psta).dot11txpn ∧ a'.encrypt = a.encrypt ∧ a'.ivLen = a.ivLen := by
  unfold rtwMakeWlanhdr at h
  obtain ⟨p', -, h⟩ := Option.bind_eq_some_iff.mp h
  obtain ⟨r, -, h⟩ := Option.bind_eq_some_iff.mp h
  dsimp only at h
  split at h
  · cases h
    exact ⟨rfl, rfl, rfl⟩
  · obtain ⟨d, -, h⟩ := Option.bind_eq_some_iff.mp h
    cases h
    refine ⟨?_, rfl, rfl⟩
    unfold RtwAdapter.setInfo StaPriv.setInfo RtwAdapter.staInfo
    dsimp only
    rw [Function.update_apply]
    split
    · rename_i heq
      rw [heq]
      rfl
    · rfl

/-- A call of `rtw_xmitframe_coalesce` as the numbers see it. -/
structure CallCounts (psta : StaId) (q : RtwAdapter) (a : PktAttrib) (o : CoalesceOutcome) : Prop where
  counts : a.psta = some psta → Protected a.encrypt → a.ivLen = 8 →
    o.mpdus.map (fun u => ivPn a.encrypt u.iv) = counted (q.staInfo psta).dot11txpn.toNat o.mpdus.length ∧
      (o.padapter.staInfo psta).dot11txpn.toNat % 2 ^ 48 =
        ((q.staInfo psta).dot11txpn.toNat + o.mpdus.length) % 2 ^ 48
  keeps : (∃ p, a.psta = some p ∧ psta ≠ p) ∨ a.ivLen = 0 →
    (o.padapter.staInfo psta).dot11txpn = (q.staInfo psta).dot11txpn

variable (psta) in
theorem coalesce_counts {pkt : EthFrame} {m : Mem} {o : CoalesceOutcome}
    (h : rtwXmitframeCoalesce q pkt ⟨a, m⟩ = some o) : CallCounts psta q a o := by
  have hfail : ∀ f, CallCounts psta q a ⟨false, q, f, []⟩ :=
    fun f => ⟨fun _ _ _ => ⟨rfl, rfl⟩, fun _ => rfl⟩
  unfold rtwXmitframeCoalesce at h
  dsimp only at h
  cases hsta : xmitSta q a with
  | none =>
    rw [hsta] at h
    cases h
    exact hfail _
  | some p =>
    rw [hsta] at h
    dsimp only at h
    have hp : ∀ r, a.psta = some r → r = p := by
      intro r hr
      rw [xmitSta, hr] at hsta
      change linkedSta q r = some p at hsta
      unfold linkedSta at hsta
      split at hsta
      · exact Option.some.inj hsta
      · cases hsta
    cases hhdr : rtwMakeWlanhdr q m TXDESC_OFFSET a with
    | none =>
      rw [hhdr] at h
      cases h
      exact hfail _
    | some r =>
      obtain ⟨q1, a1, m1⟩ := r
      rw [hhdr] at h
      dsimp only at h
      obtain ⟨s, hs, rfl⟩ := Option.map_eq_some_iff.mp h
      obtain ⟨hpn, henc, hlen⟩ := rtwMakeWlanhdr_keeps psta hhdr
      have htail : (coalesceTail s).padapter = s.padapter ∧ (coalesceTail s).mpdus = s.mpdus := by
        unfold coalesceTail
        split <;> exact ⟨rfl, rfl⟩
      constructor
      · intro hpsta hprot h8
        rw [← hpn]
        obtain rfl := hp psta hpsta
        have hstart : Counts psta a.encrypt (q1.staInfo psta).dot11txpn.toNat (fragStart q1 pkt a1 m1) :=
          ⟨henc, hlen.trans h8, rfl, rfl⟩
        have hend := coalesceLoop_counts hprot hs hstart
        rw [htail.1, htail.2]
        exact ⟨hend.ivs, hend.pn⟩
      · intro hother
        rw [← hpn, htail.1]
        refine coalesceLoop_keeps hs ?_
        obtain ⟨r, hr, hne⟩ | hz := hother
        · exact .inr (hp r hr ▸ hne)
        · exact .inl (hlen.trans hz)

end Loop

/-! ## The readers -/

section Readers
variable {m : Mem} {iv : List UInt8}

theorem mk16_toNat (hi lo : UInt8) : (mk16 hi lo).toNat = 256 * hi.toNat + lo.toNat := by
  have hl := lo.toNat_lt
  have hh := hi.toNat_lt
  have hshift : (hi.toUInt16 <<< 8).toNat = 256 * hi.toNat := by
    rw [UInt16.toNat_shiftLeft, UInt8.toNat_toUInt16, Nat.shiftLeft_eq]
    show hi.toNat * 256 % 2 ^ 16 = _
    omega
  have hxor : (mk16 hi lo).toNat = lo.toNat ^^^ (256 * hi.toNat) := by
    rw [mk16, UInt16.toNat_xor, hshift, UInt8.toNat_toUInt16]
  have hdiv := Nat.xor_div_two_pow (a := lo.toNat) (b := 256 * hi.toNat) (n := 8)
  have hmod := Nat.xor_mod_two_pow (a := lo.toNat) (b := 256 * hi.toNat) (n := 8)
  have hlodiv : lo.toNat / 2 ^ 8 = 0 := by omega
  have hhidiv : 256 * hi.toNat / 2 ^ 8 = hi.toNat := by omega
  have hlomod : lo.toNat % 2 ^ 8 = lo.toNat := by omega
  have hhimod : 256 * hi.toNat % 2 ^ 8 = 0 := by omega
  rw [hlodiv, hhidiv, Nat.zero_xor] at hdiv
  rw [hlomod, hhimod, Nat.xor_zero] at hmod
  rw [hxor]
  omega

/-- **Phase 1 and phase 2 mix the number of `GET_TKIP_PN`.** -/
theorem tkipRc4key_pn (prwskey : Skey) (ta : MacAddr) (v : Vector UInt8 8) : tkipRc4key prwskey ta v =
    phase2 prwskey (phase1 prwskey ta (UInt32.ofNat (getTkipPn v.toList / 2 ^ 16)))
      (UInt16.ofNat (getTkipPn v.toList)) := by
  have hpn : getTkipPn v.toList = v[2].toNat + 256 * v[0].toNat + 256 ^ 2 * v[4].toNat + 256 ^ 3 * v[5].toNat +
      256 ^ 4 * v[6].toNat + 256 ^ 5 * v[7].toNat := by
    have hget : ∀ (k : ℕ) (hk : k < 8), v.toList.getD k 0 = v[k] := by
      intro k hk
      rw [List.getD_eq_getElem _ _ (by rw [Vector.length_toList]; exact hk), Vector.getElem_toList]
    unfold getTkipPn pnAt
    simp only [List.map_cons, List.map_nil, Nat.ofDigits_cons, Nat.ofDigits_nil]
    rw [hget 2 (by norm_num), hget 0 (by norm_num), hget 4 (by norm_num), hget 5 (by norm_num),
      hget 6 (by norm_num), hget 7 (by norm_num)]
    ring
  have h0 := v[0].toNat_lt
  have h2 := v[2].toNat_lt
  have hlow : mk16 v[0] v[2] = UInt16.ofNat (getTkipPn v.toList) := by
    apply UInt16.toNat_inj.mp
    rw [mk16_toNat, UInt16.toNat_ofNat', hpn]
    omega
  have hhigh : (mk16 v[5] v[4]).toUInt32 ||| ((mk16 v[7] v[6]).toUInt32 <<< 16) =
      UInt32.ofNat (getTkipPn v.toList / 2 ^ 16) := by
    have hlt : (mk16 v[5] v[4]).toNat < 2 ^ 16 := (mk16 v[5] v[4]).toNat_lt
    have hlt' : (mk16 v[7] v[6]).toNat < 2 ^ 16 := (mk16 v[7] v[6]).toNat_lt
    have hshift : ((mk16 v[7] v[6]).toUInt32 <<< 16).toNat = 2 ^ 16 * (mk16 v[7] v[6]).toNat := by
      rw [UInt32.toNat_shiftLeft, UInt16.toNat_toUInt32, Nat.shiftLeft_eq]
      show (mk16 v[7] v[6]).toNat * 2 ^ 16 % 2 ^ 32 = _
      omega
    apply UInt32.toNat_inj.mp
    rw [UInt32.toNat_or, hshift, UInt16.toNat_toUInt32, Nat.or_comm, ← Nat.two_pow_add_eq_or_of_lt hlt,
      mk16_toNat, mk16_toNat, UInt32.toNat_ofNat', hpn]
    have h4 := v[4].toNat_lt
    have h5 := v[5].toNat_lt
    have h6 := v[6].toNat_lt
    have h7 := v[7].toNat_lt
    omega
  rw [← hlow, ← hhigh]
  rfl

end Readers

/-! ## A run -/

/-- An IV as it was written, with the cipher it is for. -/
structure SentIv where
  encrypt : ℕ
  iv : List UInt8

def SentIv.pn (s : SentIv) : ℕ := ivPn s.encrypt s.iv

/-- The IVs a call of `rtw_xmitframe_coalesce` writes for the station under TKIP or CCMP, also when the
call fails. -/
def ivsOf (psta : StaId) (a : PktAttrib) (o : CoalesceOutcome) : List SentIv :=
  if a.psta = some psta ∧ Protected a.encrypt then o.mpdus.map fun u => ⟨a.encrypt, u.iv⟩ else []

/-- What happens to the counter of a station while it has a key: frames with attributes from an earlier
`update_attrib` are built, to this station not under WEP, and anything else leaves the counter alone. -/
inductive TxRun (psta : StaId) : RtwAdapter → List SentIv → RtwAdapter → Prop
  | nil (q : RtwAdapter) : TxRun psta q [] q
  | coalesce (q q' q0 : RtwAdapter) (log : List SentIv) (junk : UInt8) (pkt : EthFrame) (pattrib a : PktAttrib)
      (m : Mem) (o : CoalesceOutcome) (before : TxRun psta q log q')
      (attrib : updateAttrib q0 junk pkt pattrib = some a) (call : rtwXmitframeCoalesce q' pkt ⟨a, m⟩ = some o)
      (wep : a.psta = some psta → a.encrypt ≠ WEP40 ∧ a.encrypt ≠ WEP104) :
      TxRun psta q (log ++ ivsOf psta a o) o.padapter
  | other (q q' q'' : RtwAdapter) (log : List SentIv) (before : TxRun psta q log q')
      (keeps : (q''.staInfo psta).dot11txpn = (q'.staInfo psta).dot11txpn) : TxRun psta q log q''

section Run
variable {psta : StaId} {q q' : RtwAdapter} {log : List SentIv}

theorem ivsOf_counted {q0 : RtwAdapter} {junk : UInt8} {pkt : EthFrame} {pattrib a : PktAttrib} {m : Mem}
    {o : CoalesceOutcome} (ha : updateAttrib q0 junk pkt pattrib = some a)
    (h : rtwXmitframeCoalesce q pkt ⟨a, m⟩ = some o)
    (hwep : a.psta = some psta → a.encrypt ≠ WEP40 ∧ a.encrypt ≠ WEP104) :
    (ivsOf psta a o).map SentIv.pn = counted (q.staInfo psta).dot11txpn.toNat (ivsOf psta a o).length ∧
      (o.padapter.staInfo psta).dot11txpn.toNat % 2 ^ 48 =
        ((q.staInfo psta).dot11txpn.toNat + (ivsOf psta a o).length) % 2 ^ 48 := by
  have hof := updateAttrib_spec q0 junk pkt pattrib a ha
  have hcall := coalesce_counts psta h
  obtain ⟨p, hp, -, -⟩ := hof.psta
  have hlens := hof.lens
  unfold ivsOf
  by_cases hmine : a.psta = some psta ∧ Protected a.encrypt
  · obtain ⟨hpsta, hprot⟩ := hmine
    have h8 : a.ivLen = 8 := by
      obtain he | he := hprot <;> rw [he, Prod.mk.injEq] at hlens <;> exact hlens.1
    obtain ⟨hivs, hpn⟩ := hcall.counts hpsta hprot h8
    rw [if_pos ⟨hpsta, hprot⟩, List.length_map, List.map_map]
    exact ⟨hivs, hpn⟩
  · rw [if_neg hmine]
    refine ⟨rfl, ?_⟩
    rw [hcall.keeps ?_]
    · rfl
    · by_cases hpsta : a.psta = some psta
      · right
        obtain ⟨h40, h104⟩ := hwep hpsta
        have hnot : ¬ Protected a.encrypt := fun hprot => hmine ⟨hpsta, hprot⟩
        unfold Protected at hnot
        rw [not_or] at hnot
        unfold ivIcvLen at hlens
        split at hlens
        · rename_i he
          exact absurd he h40
        · rename_i he
          exact absurd he h104
        · rename_i he
          exact absurd he hnot.1
        · rename_i he
          exact absurd he hnot.2
        · exact (Prod.mk.injEq _ _ _ _ ▸ hlens).1
      · refine .inl ⟨p, hp, ?_⟩
        rintro rfl
        exact hpsta hp

theorem TxRun.counted (h : TxRun psta q log q') :
    log.map SentIv.pn = counted (q.staInfo psta).dot11txpn.toNat log.length ∧
      (q'.staInfo psta).dot11txpn.toNat % 2 ^ 48 = ((q.staInfo psta).dot11txpn.toNat + log.length) % 2 ^ 48 := by
  induction h with
  | nil => exact ⟨rfl, rfl⟩
  | coalesce q' q0 log junk pkt pattrib a m o _ attrib call wep ih =>
    obtain ⟨hlog, hpn⟩ := ih
    obtain ⟨hivs, hnext⟩ := ivsOf_counted attrib call wep
    constructor
    · rw [List.map_append, hlog, hivs, List.length_append, counted_add, counted_congr _ _ _ hpn]
    · rw [hnext, List.length_append]
      omega
  | other q' q'' log _ keeps ih =>
    rw [keeps]
    exact ih

end Run

end Rtl8723au
