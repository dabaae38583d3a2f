import Rtl8723au.Mlme.JoinBss

/-! What `rtw_restruct_sec_ie` leaves in `sec_bss`: the fixed bytes and the security element that it takes, with the PMKID
that it appends. -/
namespace Rtl8723au
namespace JoinBss
open AccessM Regions Tlv Security Mem
set_option autoImplicit false

/-! ## Buffers that are filled from the front -/

/-- The buffer starts with the bytes. -/
def Starts (m : Mem) (l : List UInt8) : Prop := bytesAt m 0 l.length = l

section
variable {m : Mem} {l l' : List UInt8}

theorem starts_nil (m : Mem) : Starts m [] := rfl

theorem Starts.getD (h : Starts m l) {k : ℕ} (hk : k < l.length) : m (k : ℕ) = l.getD k 0 := by
  have hget := getD_bytesAt 0 h k hk
  rwa [zero_add] at hget

theorem starts_of_getD (h : ∀ k < l.length, m (k : ℕ) = l.getD k 0) : Starts m l :=
  bytesAt_eq l fun k hk => by rw [zero_add]; exact h k hk

theorem Starts.append (h : Starts m l) (l' : List UInt8) : Starts (putBytes m l.length l') (l ++ l') := by
  refine starts_of_getD fun k hk => ?_
  by_cases hold : k < l.length
  · rw [putBytes_outside _ _ _ _ (.inl (by omega)), List.getD_append _ _ _ _ hold]
    exact h.getD hold
  · rw [List.length_append] at hk
    obtain ⟨j, rfl⟩ : ∃ j, k = l.length + j := ⟨k - l.length, by omega⟩
    have hin := putBytes_inside m (l.length : ℤ) l' j (by omega)
    rw [List.getD_append_right _ _ _ _ (by omega), Nat.add_sub_cancel_left, ← hin]
    push_cast
    rfl

theorem Starts.set (h : Starts m l) {k : ℕ} (hk : k < l.length) (v : UInt8) : Starts (putBytes m (k : ℕ) [v]) (l.set k v) := by
  refine starts_of_getD fun j hj => ?_
  rw [List.length_set] at hj
  by_cases hjk : j = k
  · subst hjk
    have hin := putBytes_inside m (j : ℤ) [v] 0 Nat.one_pos
    rw [Nat.cast_zero, add_zero] at hin
    rw [hin]
    simp [hj]
  · have hout : (j : ℤ) < (k : ℕ) ∨ (k : ℕ) + (([v] : List UInt8).length : ℤ) ≤ j := by
      rw [List.length_singleton]
      omega
    rw [putBytes_outside _ _ _ _ hout, h.getD hj]
    simp [List.getElem?_set_ne (Ne.symm hjk)]

end

/-- The record is as it was, and the new elements start with the bytes. -/
structure Built (ies : Mem) (l : List UInt8) (t : Regions JoinRegion) : Prop where
  ies : t .ies = ies
  out : Starts (t .out) l

section
variable {n : ℕ} {ies : Mem} {l : List UInt8} {t : Regions JoinRegion}

theorem Built.store (h : Built ies l t) {k : ℕ} (hk : k = l.length) (l' : List UInt8)
    (hfit : l.length + l'.length ≤ MAX_IE_SZ) :
    Gives (Fits (size n)) (store .out k l') t fun _ u => Built ies (l ++ l') u := by
  subst hk
  refine ⟨(inside_store (size n) .out _ l' t).mpr (.inr ⟨by omega, ?_⟩), ?_, ?_⟩
  · show ((l.length : ℕ) : ℤ) + l'.length ≤ (MAX_IE_SZ : ℕ)
    exact_mod_cast hfit
  · rw [store_st, Function.update_of_ne (by decide)]
    exact h.ies
  · rw [store_st, Function.update_self]
    exact h.out.append l'

theorem Built.set (h : Built ies l t) {k : ℕ} (hk : k < l.length) (v : UInt8) (hfit : l.length ≤ MAX_IE_SZ) :
    Gives (Fits (size n)) (Regions.store .out (k : ℕ) [v]) t fun _ u => Built ies (l.set k v) u := by
  refine ⟨(inside_store (size n) .out _ [v] t).mpr (.inr ⟨by omega, ?_⟩), ?_, ?_⟩
  · show ((k : ℕ) : ℤ) + ([v] : List UInt8).length ≤ (MAX_IE_SZ : ℕ)
    rw [List.length_singleton]
    push_cast
    omega
  · rw [store_st, Function.update_of_ne (by decide)]
    exact h.ies
  · rw [store_st, Function.update_self]
    exact h.out.set hk v

theorem Built.peek (h : Built ies l t) {k : ℕ} (hk : k < l.length) (hfit : l.length ≤ MAX_IE_SZ) :
    Gives (Fits (size n)) (peek (region .out) (k : ℕ)) t fun v u => v = l.getD k 0 ∧ Built ies l u := by
  refine ⟨(inside_peek_region (size n) .out _ t).mpr (.inr ⟨by omega, ?_⟩), h.out.getD hk, h⟩
  show ((k : ℕ) : ℤ) + (1 : ℕ) ≤ (MAX_IE_SZ : ℕ)
  omega

/-- `rtw_set_ie` puts one element behind the bytes. -/
theorem Built.setIe (h : Built ies l t) (e : Tlv) {k : ℕ} (hk : k = l.length) (hfit : l.length + e.size ≤ MAX_IE_SZ) :
    Gives (Fits (size n)) (rtwSetIe e.id e.body k) t fun len u => Built ies (l ++ e.encode) u ∧ len = k + e.size := by
  have hsize : e.size = e.body.length + 2 := rfl
  refine (h.store hk [e.id, UInt8.ofNat e.body.length] ?_).bind fun _ u hu => ?_
  · rw [List.length_cons, List.length_singleton]
    omega
  have hlen : (l ++ [e.id, UInt8.ofNat e.body.length]).length = k + 2 := by
    rw [List.length_append, List.length_cons, List.length_singleton, hk]
  refine (hu.store hlen.symm e.body (by omega)).bind fun _ v hv => ?_
  refine .pure ⟨?_, hsize ▸ rfl⟩
  rw [List.append_assoc] at hv
  exact hv

theorem Built.memcpy (h : Built ies [] t) {k : ℕ} (hread : k ≤ n) (hfit : k ≤ MAX_IE_SZ) :
    Gives (Fits (size n)) (memcpy .out 0 .ies 0 k) t fun _ u => Built ies (bytesAt ies 0 k) u := by
  have hload : Gives (Fits (size n)) (load .ies 0 k) t fun l u => l = bytesAt ies 0 k ∧ Built ies [] u := by
    refine ⟨(inside_load (size n) .ies 0 k t).mpr (.inr ⟨le_refl 0, ?_⟩), ?_, h⟩
    · show (0 : ℤ) + (k : ℕ) ≤ (n : ℕ)
      omega
    · rw [load_val, h.ies, bytesAt]
  refine hload.bind fun l u hu => ?_
  obtain ⟨rfl, hu⟩ := hu
  exact hu.store (k := 0) rfl _ (by rw [bytesAt_length, List.length_nil]; omega)

end

/-! ## The security element -/

def appendPmkid (e : Tlv) (entry : PmkidEntry) (h : e.body.length ≤ 20) : Tlv where
  id := e.id
  body := e.body ++ 1 :: 0 :: entry.pmkid.toList
  short := by
    rw [List.length_append, List.length_cons, List.length_cons, Vector.length_toList]
    omega

theorem appendPmkid_size (e : Tlv) (entry : PmkidEntry) (h : e.body.length ≤ 20) :
    (appendPmkid e entry h).size = e.size + 18 := by
  rw [Tlv.size, Tlv.size, appendPmkid, List.length_append, List.length_cons, List.length_cons, Vector.length_toList]

def withPmkid (entry : PmkidEntry) (e : Tlv) : Tlv := if h : e.body.length ≤ 20 then appendPmkid e entry h else e

variable (a : JoinBssInfo)

/-- The element that is put in, which the stack may decide. -/
def JoinBssInfo.placed : List Tlv :=
  if a.underWps then [a.wpsIe]
  else if a.authmodeOf = _WPA_IE_ID_ ∨ a.authmodeOf = _WPA2_IE_ID_ then [a.supplicantIe] else []

def JoinBssInfo.taken : List Tlv :=
  match a.secIsInPMKIDList with
  | none => a.placed
  | some entry => if a.authmodeOf = _WPA2_IE_ID_ then a.placed.map (withPmkid entry) else a.placed

theorem placed_cases : a.placed = [] ∧ a.authmodeOf ≠ _WPA2_IE_ID_ ∨ ∃ e, a.placed = [e] := by
  rw [JoinBssInfo.placed]
  split
  · exact .inr ⟨_, rfl⟩
  split
  · exact .inr ⟨_, rfl⟩
  next hother => exact .inl ⟨rfl, fun hwpa2 => hother (.inr hwpa2)⟩

section
variable {n : ℕ} {ies : Mem} {t : Regions JoinRegion}

theorem size_le (e : Tlv) : e.size ≤ 257 := by
  have hshort := e.short
  rw [Tlv.size]
  omega

theorem gives_secElement (h : Built ies (bytesAt ies 0 12) t) :
    Gives (Fits (size n)) (secElement a) t fun len u =>
      Built ies (bytesAt ies 0 12 ++ encodeAll a.placed) u ∧ len = 12 + (encodeAll a.placed).length := by
  have hlimit : MAX_IE_SZ = 768 := rfl
  have hput : ∀ e : Tlv, Gives (Fits (size n)) (do
      store .out 12 e.encode
      pure (12 + e.size)) t fun len u =>
        Built ies (bytesAt ies 0 12 ++ encodeAll [e]) u ∧ len = 12 + (encodeAll [e]).length := by
    intro e
    have hsize := size_le e
    refine (h.store (k := 12) (by rw [bytesAt_length]) e.encode ?_).bind fun _ u hu => .pure ⟨?_, ?_⟩
    · rw [bytesAt_length, encode_length]
      omega
    · rw [encodeAll_cons, encodeAll_nil, List.append_nil]
      exact hu
    · rw [encodeAll_cons, encodeAll_nil, List.append_nil, encode_length]
  rw [secElement, JoinBssInfo.placed]
  split
  · exact hput a.wpsIe
  split
  · exact hput a.supplicantIe
  · refine .pure ⟨?_, rfl⟩
    rw [encodeAll_nil, List.append_nil]
    exact h

/-- What `rtw_append_pmkid` does to an element behind the fixed bytes. -/
theorem gives_rtwAppendPmkid (entry : PmkidEntry) (e : Tlv) {k : ℕ} (hk : k = 12 + e.size)
    (h : Built ies (bytesAt ies 0 12 ++ e.encode) t) :
    Gives (Fits (size n)) (rtwAppendPmkid entry k) t fun len u =>
      Built ies (bytesAt ies 0 12 ++ (withPmkid entry e).encode) u ∧ len = 12 + (withPmkid entry e).size := by
  have hlimit : MAX_IE_SZ = 768 := rfl
  have hsize := size_le e
  have hdef : e.size = e.body.length + 2 := rfl
  have hlen : (bytesAt ies 0 12 ++ e.encode).length = 12 + e.size := by
    rw [List.length_append, bytesAt_length, encode_length]
  have hcount : (bytesAt ies 0 12 ++ e.encode).getD 13 0 = UInt8.ofNat e.body.length := by
    rw [List.getD_append_right _ _ _ _ (by rw [bytesAt_length]; omega), bytesAt_length]
    rfl
  have hle : UInt8.ofNat e.body.length ≤ 20 ↔ e.body.length ≤ 20 := by
    rw [UInt8.le_iff_toNat_le, toNat_length]
    rfl
  rw [rtwAppendPmkid]
  refine (h.peek (k := 13) (by omega) (by omega)).bind fun v u hu => ?_
  obtain ⟨rfl, hu⟩ := hu
  rw [hcount, withPmkid]
  refine .ite (fun hshort => ?_) fun hlong => ?_
  · have hshort := hle.mp hshort
    rw [dif_pos hshort]
    obtain ⟨l, hl⟩ : ∃ l, l = bytesAt ies 0 12 ++ e.encode := ⟨_, rfl⟩
    rw [← hl] at hu hlen
    have hone : (l ++ [1]).length = k + 1 := by rw [List.length_append, List.length_singleton, hlen, hk]
    have htwo : (l ++ [1] ++ [0]).length = k + 2 := by rw [List.length_append, List.length_singleton, hone]
    have hall : (l ++ [1] ++ [0] ++ entry.pmkid.toList).length = k + 18 := by
      rw [List.length_append, htwo, Vector.length_toList]
    refine (hu.store (k := k) (by omega) [1] (by rw [List.length_singleton]; omega)).bind fun _ v hv => ?_
    refine (hv.store (k := k + 1) hone.symm [0] (by rw [hone, List.length_singleton]; omega)).bind fun _ w hw => ?_
    refine (hw.store (k := k + 2) htwo.symm entry.pmkid.toList (by rw [htwo, Vector.length_toList]; omega)).bind
      fun _ x hx => ?_
    refine (hx.peek (k := 13) (by omega) (by omega)).bind fun v y hy => ?_
    obtain ⟨rfl, hy⟩ := hy
    refine (hy.set (k := 13) (by omega) _ (by omega)).bind fun _ z hz => .pure ⟨?_, ?_⟩
    · have hthirteen : (l ++ [1] ++ [0] ++ entry.pmkid.toList).getD 13 0 = UInt8.ofNat e.body.length := by
        rw [List.getD_append _ _ _ _ (by omega), List.getD_append _ _ _ _ (by omega), List.getD_append _ _ _ _ (by omega), hl]
        exact hcount
      rw [hthirteen] at hz
      have hlist : (l ++ [1] ++ [0] ++ entry.pmkid.toList).set 13 (UInt8.ofNat e.body.length + 18) =
          bytesAt ies 0 12 ++ (appendPmkid e entry hshort).encode := by
        have hsum : UInt8.ofNat e.body.length + 18 = UInt8.ofNat (appendPmkid e entry hshort).body.length := by
          rw [appendPmkid, List.length_append, List.length_cons, List.length_cons, Vector.length_toList, UInt8.ofNat_add]
          rfl
        rw [hl, List.append_assoc, List.append_assoc, List.append_assoc,
          List.set_append_right _ _ (by rw [bytesAt_length]; omega), bytesAt_length, hsum]
        rfl
      rwa [hlist] at hz
    · rw [appendPmkid_size, hk]
      omega
  · rw [dif_neg (mt hle.mpr hlong)]
    exact .pure ⟨hu, hk⟩

/-- `rtw_restruct_sec_ie` leaves the fixed bytes and the element that is taken. -/
theorem gives_rtwRestructSecIe (h : Built ies [] t) (hread : 12 ≤ n) :
    Gives (Fits (size n)) (rtwRestructSecIe a) t fun len u =>
      Built ies (bytesAt ies 0 12 ++ encodeAll a.taken) u ∧ len = 12 + (encodeAll a.taken).length := by
  refine (h.memcpy hread (by decide)).bind fun _ u hu => ?_
  refine (gives_secElement a hu).bind fun len v hv => ?_
  rw [JoinBssInfo.taken]
  cases a.secIsInPMKIDList with
  | none => exact .pure hv
  | some entry =>
    dsimp only
    refine .ite (fun hwpa2 => ?_) fun hother => ?_
    · rw [if_pos hwpa2]
      rcases placed_cases a with ⟨-, hnot⟩ | ⟨e, he⟩
      · exact absurd hwpa2 hnot
      · rw [he, encodeAll_cons, encodeAll_nil, List.append_nil, encode_length] at hv
        rw [he, List.map_singleton, encodeAll_cons, encodeAll_nil, List.append_nil, encode_length]
        exact gives_rtwAppendPmkid entry e hv.2 hv.1
    · rw [if_neg hother]
      exact .pure hv

end

/-! ## When it is the right one -/

section
variable {l x rest : List UInt8}

theorem skipSuites_append (h : skipSuites l = some rest) (x : List UInt8) : skipSuites (l ++ x) = some (rest ++ x) := by
  match l, h with
  | lo :: hi :: tail, h =>
    rw [skipSuites] at h
    split at h
    next hfit =>
      rw [List.cons_append, List.cons_append, skipSuites, if_pos (by rw [List.length_append]; omega),
        List.drop_append_of_le_length hfit, Option.some.inj h]
    next => exact absurd h.symm (Option.some_ne_none rest)

theorem behindCapabilities_append (h : behindCapabilities l = some rest) (x : List UInt8) :
    behindCapabilities (l ++ x) = some (rest ++ x) := by
  rw [behindCapabilities] at h ⊢
  split at h
  next hlen =>
    rw [if_pos (by rw [List.length_append]; omega), List.drop_append_of_le_length hlen]
    obtain ⟨akms, hakms, h⟩ := Option.bind_eq_some_iff.mp h
    obtain ⟨tail, htail, h⟩ := Option.bind_eq_some_iff.mp h
    rw [skipSuites_append hakms, Option.bind_some, skipSuites_append htail, Option.bind_some]
    split at h
    next htwo =>
      rw [if_pos (by rw [List.length_append]; omega), List.drop_append_of_le_length htwo, Option.some.inj h]
    next => exact absurd h.symm (Option.some_ne_none rest)
  next => exact absurd h.symm (Option.some_ne_none rest)

theorem rsnPmkids_append (h : behindCapabilities l = some []) {pmkid : List UInt8} (hlen : pmkid.length = 16) :
    rsnPmkids (l ++ 1 :: 0 :: pmkid) = some [pmkid] := by
  rw [rsnPmkids, behindCapabilities_append h, Option.bind_some, List.nil_append]
  have hone : (1 : UInt8).toNat + 256 * (0 : UInt8).toNat = 1 := rfl
  dsimp only
  rw [hone, if_pos (by omega)]
  simp [hlen]

end

/-- The element that is put in is one that was asked for. -/
def JoinBssInfo.AuthKnown : Prop :=
  a.underWps = true ∨ a.isWpa = true ∨ (a.authmode ≠ _WPA_IE_ID_ ∧ a.authmode ≠ _WPA2_IE_ID_)

/-- A cached PMKID goes behind the capabilities only. -/
def JoinBssInfo.PmkidFits : Prop :=
  ∀ entry, a.secIsInPMKIDList = some entry → a.authmodeOf = _WPA2_IE_ID_ →
    ∀ e ∈ a.sec, e.body.length ≤ 20 → EndsAfterCapabilities e

theorem authmodeOf_isWpa (h : a.isWpa = true) : a.authmodeOf = _WPA_IE_ID_ ∨ a.authmodeOf = _WPA2_IE_ID_ := by
  rw [JoinBssInfo.authmodeOf]
  split
  · exact .inr rfl
  split
  · exact .inl rfl
  next hwpa2 hwpa =>
    simp only [JoinBssInfo.isWpa, Bool.or_eq_true, beq_iff_eq] at h
    exact absurd h (not_or.mpr ⟨hwpa, hwpa2⟩)

theorem authmodeOf_not_isWpa (h : a.isWpa = false) : a.authmodeOf = a.authmode := by
  simp only [JoinBssInfo.isWpa, Bool.or_eq_false_iff, beq_eq_false_iff_ne] at h
  rw [JoinBssInfo.authmodeOf, if_neg (not_or.mpr h.2), if_neg (not_or.mpr h.1)]

theorem placed_of_authKnown (h : a.AuthKnown) : a.placed = a.sec := by
  rw [JoinBssInfo.placed, JoinBssInfo.sec]
  rcases h with hwps | hwpa | ⟨hnot, hnot2⟩
  · rw [if_pos hwps, if_pos hwps]
  · rw [if_pos (authmodeOf_isWpa a hwpa), if_pos hwpa]
  · cases hwpa : a.isWpa with
    | true => rw [if_pos (authmodeOf_isWpa a hwpa), if_pos rfl]
    | false =>
      rw [authmodeOf_not_isWpa a hwpa, if_neg (not_or.mpr ⟨hnot, hnot2⟩), if_neg Bool.false_ne_true]

theorem placed_of_not_authKnown (h : ¬a.AuthKnown) : a.placed.length = 1 ∧ a.sec = [] := by
  rw [JoinBssInfo.AuthKnown, not_or, not_or, Bool.not_eq_true, Bool.not_eq_true] at h
  obtain ⟨hwps, hwpa, hauth⟩ := h
  have hmode : a.authmodeOf = _WPA_IE_ID_ ∨ a.authmodeOf = _WPA2_IE_ID_ := by
    rw [authmodeOf_not_isWpa a hwpa]
    by_contra hneither
    exact hauth (not_or.mp hneither)
  rw [JoinBssInfo.placed, JoinBssInfo.sec, hwps, hwpa, if_neg Bool.false_ne_true, if_pos hmode, if_neg Bool.false_ne_true,
    if_neg Bool.false_ne_true]
  exact ⟨rfl, rfl⟩

theorem taken_length : a.taken.length = a.placed.length := by
  rw [JoinBssInfo.taken]
  split
  · rfl
  split
  · rw [List.length_map]
  · rfl

theorem sec_length_le : a.sec.length ≤ a.placed.length := by
  by_cases h : a.AuthKnown
  · rw [placed_of_authKnown a h]
  · rw [(placed_of_not_authKnown a h).2]
    exact Nat.zero_le _

variable {a} in
theorem SecOf.length {sec : List Tlv} (h : SecOf a sec) : sec.length = a.sec.length := by
  cases h with
  | plain => rfl
  | withPmkid e e' entry hsec => rw [hsec, List.length_singleton, List.length_singleton]

theorem sec_cases : a.sec = [] ∨ ∃ e, a.sec = [e] := by
  rw [JoinBssInfo.sec]
  split
  · exact .inr ⟨_, rfl⟩
  split
  · exact .inr ⟨_, rfl⟩
  · exact .inl rfl

/-- The element that is taken is the right one exactly when it was asked for and a PMKID fits behind it. -/
theorem secOf_taken_iff : SecOf a a.taken ↔ a.AuthKnown ∧ a.PmkidFits := by
  constructor
  · intro h
    have hknown : a.AuthKnown := by
      by_contra hnot
      have hlen := h.length
      rw [taken_length, (placed_of_not_authKnown a hnot).1, (placed_of_not_authKnown a hnot).2] at hlen
      exact absurd hlen (by decide)
    refine ⟨hknown, fun entry hentry hwpa2 e he hshort => ?_⟩
    rw [JoinBssInfo.taken, hentry, placed_of_authKnown a hknown] at h
    dsimp only at h
    rw [if_pos hwpa2] at h
    have hsec : a.sec = [e] := by
      rcases sec_cases a with hnil | ⟨e₁, hone⟩
      · rw [hnil] at he
        exact absurd he List.not_mem_nil
      · rw [hone] at he
        rw [hone, List.mem_singleton.mp he]
    rw [hsec, List.map_singleton, withPmkid, dif_pos hshort] at h
    obtain ⟨sec, hto⟩ : ∃ sec, sec = [appendPmkid e entry hshort] := ⟨_, rfl⟩
    rw [← hto] at h
    cases h with
    | plain =>
      rw [hsec] at hto
      have hsize := congrArg Tlv.size (List.singleton_inj.mp hto)
      rw [appendPmkid_size] at hsize
      omega
    | withPmkid e₁ e' entry' hsec₁ hends =>
      rw [hsec] at hsec₁
      rw [List.singleton_inj.mp hsec₁]
      exact hends
  · rintro ⟨hknown, hfits⟩
    rw [JoinBssInfo.taken, placed_of_authKnown a hknown]
    cases hentry : a.secIsInPMKIDList with
    | none => exact .plain
    | some entry =>
      dsimp only
      split
      next hwpa2 =>
        rcases sec_cases a with hnil | ⟨e, hone⟩
        · rw [hnil, List.map_nil, ← hnil]
          exact .plain
        · rw [hone, List.map_singleton, withPmkid]
          split
          next hshort =>
            have hends := hfits entry hentry hwpa2 e (by rw [hone]; exact List.mem_cons_self) hshort
            have hfound := List.find?_some hentry
            rw [Bool.and_eq_true, beq_iff_eq] at hfound
            exact .withPmkid e _ entry hone hends (List.mem_of_find?_eq_some hentry) hfound.1 hfound.2 rfl rfl
              (rsnPmkids_append hends.2 Vector.length_toList)
          · rw [← hone]
            exact .plain
      · exact .plain

end JoinBss

end Rtl8723au
