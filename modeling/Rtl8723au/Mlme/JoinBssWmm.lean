import Rtl8723au.Mlme.JoinBssSec

/-! What `rtw_restruct_wmm_ie` reads of a record and what it adds to `sec_bss`. -/
namespace Rtl8723au
namespace JoinBss
open AccessM Regions Tlv Security Mem
set_option autoImplicit false

/-! ## The test of an element -/

section
variable {n : ℕ} {s : Regions JoinRegion}

theorem bytesAt_succ (m : Mem) (k len : ℕ) : bytesAt m (k : ℕ) (len + 1) = m (k : ℕ) :: bytesAt m ((k + 1 : ℕ) : ℤ) len := by
  have hone := bytesAt_add (m := m) (p := (k : ℕ)) 1 len
  have hhead : bytesAt m ((k : ℕ) : ℤ) 1 = [m ((k : ℕ) + (0 : ℕ))] := rfl
  rw [Nat.cast_zero, add_zero] at hhead
  rw [Nat.add_comm, hone, hhead]
  push_cast
  rfl

theorem matchesAt_val (l : List UInt8) (k : ℕ) (s : Regions JoinRegion) :
    ((matchesAt (k : ℕ) l).run s).val = decide (bytesAt (s .ies) (k : ℕ) l.length = l) := by
  induction l generalizing k with
  | nil => rfl
  | cons b rest ih =>
    rw [matchesAt, bind_val, peek_val, peek_st, ite_run, List.length_cons, bytesAt_succ]
    split
    next hsame =>
      have hhead : s .ies (k : ℕ) = b := hsame
      have hrest := ih (k + 1)
      push_cast at hrest
      rw [hrest, hhead]
      simp
    next hdiffer =>
      have hhead : s .ies (k : ℕ) ≠ b := hdiffer
      simp [hhead]

theorem matchesAt_st (l : List UInt8) (x : ℤ) (s : Regions JoinRegion) : ((matchesAt x l).run s).st = s := by
  induction l generalizing x with
  | nil => rfl
  | cons b rest ih =>
    rw [matchesAt, bind_st, peek_val, peek_st, ite_run]
    split
    · exact ih (x + 1)
    · rfl

/-- The bytes that are compared, up to the first that differs, are among the first `n`. -/
def Compared (n : ℕ) (m : Mem) (k : ℕ) : List UInt8 → Prop
  | [] => True
  | b :: rest => k < n ∧ (m (k : ℕ) = b → Compared n m (k + 1) rest)

theorem inside_peek_ies (k : ℕ) : Inside (Fits (size n)) (peek (region .ies) (k : ℕ)) s ↔ k < n := by
  rw [inside_peek_region]
  show 1 = 0 ∨ 0 ≤ ((k : ℕ) : ℤ) ∧ ((k : ℕ) : ℤ) + (1 : ℕ) ≤ (n : ℕ) ↔ _
  omega

theorem inside_matchesAt (l : List UInt8) (k : ℕ) :
    Inside (Fits (size n)) (matchesAt (k : ℕ) l) s ↔ Compared n (s .ies) k l := by
  induction l generalizing k with
  | nil => exact iff_of_true (inside_pure _ _ _) trivial
  | cons b rest ih =>
    rw [matchesAt, inside_bind, inside_peek_ies, inside_ite, peek_val, peek_st, Compared]
    refine and_congr_right fun _ => ?_
    have hrest := ih (k + 1)
    push_cast at hrest
    split
    next hsame => exact hrest.trans ⟨fun h _ => h, fun h => h hsame⟩
    next hdiffer => exact iff_of_true (inside_pure _ _ _) fun hsame => absurd hsame hdiffer

/-- The test finds a WMM element at the index, whatever its length is. -/
def WmmAt (m : Mem) (inLen i : ℕ) : Prop :=
  m (i : ℕ) = _VENDOR_SPECIFIC_IE_ ∧ bytesAt m ((i + 2 : ℕ) : ℤ) 4 = WMM_OUI ∧ i + 5 < inLen

instance decidableWmmAt (m : Mem) (inLen i : ℕ) : Decidable (WmmAt m inLen i) := inferInstanceAs (Decidable (_ ∧ _ ∧ _))

theorem wmmAt_val (inLen i : ℕ) (s : Regions JoinRegion) :
    ((wmmAt inLen i).run s).val = true ↔ WmmAt (s .ies) inLen i := by
  have hplace : (i : ℤ) + 2 = ((i + 2 : ℕ) : ℤ) := by push_cast; rfl
  rw [wmmAt, bind_val, peek_val, peek_st, ite_run, hplace]
  split
  next hid =>
    have hid : s .ies (i : ℕ) = _VENDOR_SPECIFIC_IE_ := hid
    rw [bind_val, matchesAt_val, pure_val, Bool.and_eq_true, decide_eq_true_iff, decide_eq_true_iff]
    exact ⟨fun h => ⟨hid, h⟩, And.right⟩
  next hid =>
    have hid : s .ies (i : ℕ) ≠ _VENDOR_SPECIFIC_IE_ := hid
    exact iff_of_false Bool.false_ne_true fun h => hid h.1

theorem wmmAt_st (inLen i : ℕ) (s : Regions JoinRegion) : ((wmmAt inLen i).run s).st = s := by
  rw [wmmAt, bind_st, peek_val, peek_st, ite_run]
  split
  · rw [bind_st, pure_st, matchesAt_st]
  · rfl

theorem inside_wmmAt (inLen i : ℕ) : Inside (Fits (size n)) (wmmAt inLen i) s ↔
    i < n ∧ (s .ies (i : ℕ) = _VENDOR_SPECIFIC_IE_ → Compared n (s .ies) (i + 2) WMM_OUI) := by
  have hplace : (i : ℤ) + 2 = ((i + 2 : ℕ) : ℤ) := by push_cast; rfl
  rw [wmmAt, inside_bind, inside_peek_ies, inside_ite, peek_val, peek_st, hplace]
  refine and_congr_right fun _ => ?_
  split
  next hid =>
    rw [inside_bind, inside_matchesAt]
    exact ⟨fun h _ => h.1, fun h => ⟨h hid, inside_pure _ _ _⟩⟩
  next hid => exact iff_of_true (inside_pure _ _ _) fun h => absurd h hid

end

/-! ## The element that is copied -/

/-- The information element made of the one at the index: only the version is taken from there. -/
def wmmInfo (m : Mem) (i : ℕ) : Tlv where
  id := _VENDOR_SPECIFIC_IE_
  body := WMM_OUI ++ [0, m (i + 7 : ℕ), 0]
  short := by
    show 7 < 256
    norm_num

section
variable {n : ℕ} {ies : Mem} {l : List UInt8} {t : Regions JoinRegion}

theorem Built.copy (h : Built ies l t) {i k : ℕ} (hk : k = l.length) (hread : i + 9 ≤ n) (hfit : l.length + 9 ≤ MAX_IE_SZ) :
    Gives (Fits (size n)) (Regions.memcpy .out k .ies i 9) t fun _ u => Built ies (l ++ bytesAt ies (i : ℕ) 9) u := by
  have hload : Gives (Fits (size n)) (load .ies i 9) t fun x u => x = bytesAt ies (i : ℕ) 9 ∧ Built ies l u := by
    refine ⟨(inside_load (size n) .ies i 9 t).mpr (.inr ⟨by omega, ?_⟩), ?_, h⟩
    · show ((i : ℕ) : ℤ) + (9 : ℕ) ≤ (n : ℕ)
      exact_mod_cast hread
    · rw [load_val, h.ies, bytesAt]
  refine hload.bind fun x u hu => ?_
  obtain ⟨rfl, hu⟩ := hu
  exact hu.store hk _ (by rw [bytesAt_length]; exact hfit)

theorem bytesAt_nine (m : Mem) (i : ℕ) (houi : bytesAt m ((i + 2 : ℕ) : ℤ) 4 = WMM_OUI) :
    (((bytesAt m (i : ℕ) 9).set 1 7).set 6 0).set 8 0 = m (i : ℕ) :: 7 :: WMM_OUI ++ [0, m (i + 7 : ℕ), 0] := by
  have hsplit := bytesAt_add (m := m) (p := (i : ℕ)) 2 7
  have hrest := bytesAt_add (m := m) (p := ((i + 2 : ℕ) : ℤ)) 4 3
  rw [houi] at hrest
  push_cast at hsplit hrest ⊢
  rw [hsplit, hrest]
  rfl

variable (h : Built ies l t) {i k : ℕ} (hk : k = l.length) (hfit : l.length + 9 ≤ MAX_IE_SZ)
include h hk hfit

theorem gives_copyWmm (hread : i + 9 ≤ n) : Gives (Fits (size n)) (copyWmm i k) t fun _ u =>
    Built ies (l ++ (((bytesAt ies (i : ℕ) 9).set 1 7).set 6 0).set 8 0) u := by
  have hlen : (l ++ bytesAt ies (i : ℕ) 9).length = k + 9 := by rw [List.length_append, bytesAt_length, hk]
  have hlimit : k + 9 ≤ MAX_IE_SZ := hk ▸ hfit
  refine (h.copy hk hread hfit).bind fun _ u hu => ?_
  refine (hu.set (k := k + 1) (by omega) 7 (by omega)).bind fun _ v hv => ?_
  refine (hv.set (k := k + 6) (by rw [List.length_set]; omega) 0 (by rw [List.length_set]; omega)).bind fun _ w hw => ?_
  refine (hw.set (k := k + 8) (by rw [List.length_set, List.length_set]; omega) 0
    (by rw [List.length_set, List.length_set]; omega)).mono fun _ x hx => ?_
  rwa [hk, List.set_append_right _ _ (by omega), List.set_append_right _ _ (by omega), List.set_append_right _ _ (by omega),
    Nat.add_sub_cancel_left, Nat.add_sub_cancel_left, Nat.add_sub_cancel_left] at hx

theorem copyWmm_built {inLen : ℕ} (hat : WmmAt ies inLen i) : Built ies (l ++ (wmmInfo ies i).encode) ((copyWmm i k).run t).st := by
  have hpost := (gives_copyWmm (n := i + 9) h hk hfit (le_refl (i + 9))).post
  rw [bytesAt_nine ies i hat.2.1, hat.1] at hpost
  exact hpost

theorem inside_copyWmm : Inside (Fits (size n)) (copyWmm i k) t ↔ i + 9 ≤ n := by
  constructor
  · intro hin
    rw [copyWmm, inside_bind, inside_memcpy] at hin
    have hread : 9 = 0 ∨ 0 ≤ ((i : ℕ) : ℤ) ∧ ((i : ℕ) : ℤ) + (9 : ℕ) ≤ (n : ℕ) := hin.1.1
    omega
  · exact fun hread => (gives_copyWmm h hk hfit hread).inside

end

/-! ## The loop -/

/-- The index of the first element that the test finds. -/
def wmmFound (m : Mem) (inLen : ℕ) : ℕ → List Tlv → Option ℕ
  | _, [] => none
  | i, e :: rest => if WmmAt m inLen i then some i else wmmFound m inLen (i + e.size) rest

def wmmPart (m : Mem) (inLen i : ℕ) (es : List Tlv) : List Tlv := (wmmFound m inLen i es).toList.map (wmmInfo m)

/-- What is read of the elements up to the one that is found, and of that one, is among the first `n` bytes. -/
def WmmRoom (n : ℕ) (m : Mem) (inLen : ℕ) : ℕ → List Tlv → Prop
  | _, [] => True
  | i, e :: rest =>
    (e.id = _VENDOR_SPECIFIC_IE_ → Compared n m (i + 2) WMM_OUI) ∧
      if WmmAt m inLen i then i + 9 ≤ n else WmmRoom n m inLen (i + e.size) rest

section
variable {n inLen : ℕ} {ies : Mem} {l : List UInt8} {k : ℕ}

theorem wmmLoop_run_cons {e : Tlv} {i : ℕ} (fuel : ℕ) (hi : i < inLen) (hcount : (ies ((i : ℤ) + 1)).toNat = e.body.length)
    (ielength : ℕ) {t : Regions JoinRegion} (ht : t .ies = ies) (hnot : ¬WmmAt ies inLen i) :
    ((wmmLoop inLen k (fuel + 1) i ielength).run t).val = ((wmmLoop inLen k fuel (i + e.size) k).run t).val ∧
      ((wmmLoop inLen k (fuel + 1) i ielength).run t).st = ((wmmLoop inLen k fuel (i + e.size) k).run t).st := by
  have hval : ((wmmAt inLen i).run t).val = false := by
    rw [← Bool.not_eq_true, wmmAt_val, ht]
    exact hnot
  have hlen : (t .ies ((i : ℤ) + 1)).toNat + 2 = e.size := by
    rw [ht, hcount]
    rfl
  have hpeek : ((peek (region .ies) (i + 1 : ℕ)).run t).val = t .ies ((i : ℤ) + 1) := by
    rw [peek_val]
    push_cast
    rfl
  rw [wmmLoop, if_pos hi, bind_val, bind_st, wmmAt_st, hval, if_neg Bool.false_ne_true, bind_val, bind_st, hpeek, peek_st,
    hlen]
  exact ⟨rfl, rfl⟩

theorem wmmLoop_end {i : ℕ} (hi : ¬i < inLen) (fuel ielength : ℕ) : wmmLoop inLen k fuel i ielength = pure ielength := by
  cases fuel with
  | zero => rfl
  | succ fuel => rw [wmmLoop, if_neg hi]

theorem wmmLoop_found {i : ℕ} (fuel : ℕ) (hi : i < inLen) (ielength : ℕ) {t : Regions JoinRegion} (ht : t .ies = ies)
    (hat : WmmAt ies inLen i) :
    ((wmmLoop inLen k (fuel + 1) i ielength).run t).val = k + 9 ∧
      ((wmmLoop inLen k (fuel + 1) i ielength).run t).st = ((copyWmm i k).run t).st := by
  have hval : ((wmmAt inLen i).run t).val = true := by
    rw [wmmAt_val, ht]
    exact hat
  rw [wmmLoop, if_pos hi, bind_val, bind_st, wmmAt_st, hval, if_pos rfl, bind_val, bind_st]
  exact ⟨rfl, rfl⟩

/-- The loop adds what it finds, and comes to the length with it; it sets no length for an empty list. -/
theorem wmmLoop_built (es : List Tlv) (fuel i ielength : ℕ) {t : Regions JoinRegion} (hfuel : es.length ≤ fuel)
    (hbytes : bytesAt ies (i : ℕ) (encodeAll es).length = encodeAll es) (hlen : inLen = i + (encodeAll es).length)
    (h : Built ies l t) (hk : k = l.length) (hfit : l.length + 9 ≤ MAX_IE_SZ) :
    ((wmmLoop inLen k fuel i ielength).run t).val =
      (if es = [] then ielength else k + (encodeAll (wmmPart ies inLen i es)).length) ∧
    Built ies (l ++ encodeAll (wmmPart ies inLen i es)) ((wmmLoop inLen k fuel i ielength).run t).st := by
  induction es generalizing fuel i ielength with
  | nil =>
    rw [encodeAll_nil, List.length_nil] at hlen
    rw [wmmLoop_end (by omega), if_pos rfl]
    refine ⟨rfl, ?_⟩
    show Built ies (l ++ []) t
    rw [List.append_nil]
    exact h
  | cons e rest ih =>
    obtain ⟨fuel, rfl⟩ : ∃ n, fuel = n + 1 := ⟨fuel - 1, by rw [List.length_cons] at hfuel; omega⟩
    rw [encodeAll_cons] at hbytes
    obtain ⟨-, hcount, hrest⟩ := encode_at hbytes
    have hsize : e.size = e.body.length + 2 := rfl
    rw [encodeAll_cons, List.length_append, encode_length] at hlen
    rw [if_neg (List.cons_ne_nil e rest), wmmPart, wmmFound]
    by_cases hat : WmmAt ies inLen i
    · obtain ⟨hval, hst⟩ := wmmLoop_found (k := k) fuel (by omega) ielength h.ies hat
      rw [hval, hst, if_pos hat, Option.toList_some, List.map_singleton, encodeAll_cons, encodeAll_nil, List.append_nil]
      exact ⟨rfl, copyWmm_built h hk hfit hat⟩
    · obtain ⟨hval, hst⟩ := wmmLoop_run_cons (k := k) fuel (by omega) hcount ielength h.ies hat
      have hplace : (i : ℤ) + e.size = ((i + e.size : ℕ) : ℤ) := by push_cast; rfl
      rw [hplace] at hrest
      obtain ⟨hnext, hbuilt⟩ := ih fuel (i + e.size) k (by rw [List.length_cons] at hfuel; omega) hrest (by omega)
      rw [hval, hst, if_neg hat, hnext]
      refine ⟨?_, hbuilt⟩
      split
      next hnil =>
        subst hnil
        rfl
      next => rfl

theorem inside_wmmLoop (es : List Tlv) (fuel i ielength : ℕ) {t : Regions JoinRegion} (hfuel : es.length ≤ fuel)
    (hbytes : bytesAt ies (i : ℕ) (encodeAll es).length = encodeAll es) (hlen : inLen = i + (encodeAll es).length)
    (h : Built ies l t) (hk : k = l.length) (hfit : l.length + 9 ≤ MAX_IE_SZ) (hroom : inLen ≤ n) :
    Inside (Fits (size n)) (wmmLoop inLen k fuel i ielength) t ↔ WmmRoom n ies inLen i es := by
  induction es generalizing fuel i ielength with
  | nil =>
    rw [encodeAll_nil, List.length_nil] at hlen
    rw [wmmLoop_end (by omega)]
    exact iff_of_true (inside_pure _ _ _) trivial
  | cons e rest ih =>
    obtain ⟨fuel, rfl⟩ : ∃ n, fuel = n + 1 := ⟨fuel - 1, by rw [List.length_cons] at hfuel; omega⟩
    rw [encodeAll_cons] at hbytes
    obtain ⟨hid, hcount, hrest⟩ := encode_at hbytes
    have hsize : e.size = e.body.length + 2 := rfl
    rw [encodeAll_cons, List.length_append, encode_length] at hlen
    have hplace : (i : ℤ) + e.size = ((i + e.size : ℕ) : ℤ) := by push_cast; rfl
    rw [hplace] at hrest
    have hlook : Inside (Fits (size n)) (wmmAt inLen i) t ↔
        (e.id = _VENDOR_SPECIFIC_IE_ → Compared n ies (i + 2) WMM_OUI) := by
      rw [inside_wmmAt, h.ies, hid]
      exact and_iff_right (by omega)
    rw [wmmLoop, if_pos (by omega), inside_bind, hlook, WmmRoom, wmmAt_st]
    refine and_congr_right fun _ => ?_
    by_cases hat : WmmAt ies inLen i
    · have hval : ((wmmAt inLen i).run t).val = true := by
        rw [wmmAt_val, h.ies]
        exact hat
      rw [hval, if_pos rfl, if_pos hat, inside_bind, inside_copyWmm h hk hfit]
      exact and_iff_left (inside_pure _ _ _)
    · have hval : ((wmmAt inLen i).run t).val = false := by
        rw [← Bool.not_eq_true, wmmAt_val, h.ies]
        exact hat
      have hpeek : ((peek (region .ies) (i + 1 : ℕ)).run t).val.toNat + 2 = e.size := by
        rw [peek_val, hsize, ← hcount, ← h.ies]
        push_cast
        rfl
      rw [hval, if_neg Bool.false_ne_true, if_neg hat, inside_bind, inside_peek_ies, peek_st, hpeek,
        ih fuel (i + e.size) k (by rw [List.length_cons] at hfuel; omega) hrest (by omega)]
      exact and_iff_right (by omega)

end

end JoinBss

end Rtl8723au
