import Rtl8723au.Ieee80211.ElementsAt
import Rtl8723au.Ieee80211.GetIe
import Rtl8723au.Include.RecvFrame

/-! `rtw_ies_remove_ie` of `core/rtw_ieee80211.c`: the elements that match are taken out of a list in place, each over a
buffer of its own. What matches is told by the bytes behind the length of an element, also where they are not its body. -/
namespace Rtl8723au.Ieee80211
open Mem Security AccessM Regions Search
set_option autoImplicit false

/-- The list, and the buffer over which its end is moved. -/
inductive RemoveRegion where
  | ies | buf
  deriving DecidableEq

/-- One pass: the bytes behind the target are moved over it. -/
def removeTarget (target : Target) (remainLen : ℕ) : R RemoveRegion Unit := do
  store .buf 0 (List.replicate MAX_IE_SZ 0)
  memcpy .buf 0 .ies (target.ptr + target.size) remainLen
  memcpy .ies target.ptr .buf 0 remainLen

/-- The loop of `rtw_ies_remove_ie`; an element takes two bytes, so that there are fewer passes than bytes. -/
def removeLoop (eid : UInt8) (oui : Option (List UInt8)) : ℕ → ℤ → ℕ → ℕ → Bool → R RemoveRegion (Bool × ℕ)
  | 0, _, _, iesLen, ret => pure (ret, iesLen)
  | fuel + 1, start, searchLen, iesLen, ret => do
    let found ← zoom (region .ies) (rtwGetIeEx start searchLen eid oui false)
    match found with
    | none => pure (ret, iesLen)
    | some target =>
      if target.size = 0 then pure (ret, iesLen)
      else do
        let remainLen := uint (searchLen - (target.ptr + target.size - start))
        removeTarget target remainLen
        removeLoop eid oui fuel target.ptr remainLen (uint (iesLen - target.size)) true

/-- `rtw_ies_remove_ie`; it answers `_SUCCESS`, and the new length. -/
def rtwIesRemoveIe (iesLen offset : ℕ) (eid : UInt8) (oui : Option (List UInt8)) : R RemoveRegion (Bool × ℕ) :=
  if iesLen ≤ offset then pure (false, iesLen)
  else removeLoop eid oui (iesLen - offset) offset (iesLen - offset) iesLen false

/-! ## What it is for -/

/-- An element matches by its identifier, and by its body when a vendor is given. -/
def Matches (eid : UInt8) (oui : Option (List UInt8)) (e : Tlv) : Prop := e.id = eid ∧ ∀ o ∈ oui, o <+: e.body

instance (eid : UInt8) (oui : Option (List UInt8)) (e : Tlv) : Decidable (Matches eid oui e) :=
  inferInstanceAs (Decidable (_ ∧ _))

def others (eid : UInt8) (oui : Option (List UInt8)) (es : List Tlv) : List Tlv := es.filter fun e => ¬Matches eid oui e

/-- The buffer is not left; the list may be anywhere. -/
def BufFits : Touch RemoveRegion → Prop
  | .byte .buf x => 0 ≤ x ∧ x < MAX_IE_SZ
  | _ => True

/-- The list behind `pre` is what is left of `es`, the answer tells that something has been removed, and the buffer was
large enough. -/
structure Filtered (pre : List UInt8) (es : List Tlv) (eid : UInt8) (oui : Option (List UInt8))
    (out : Outcome (Touch RemoveRegion) (Regions RemoveRegion) (Bool × ℕ)) : Prop where
  before : bytesAt (out.st .ies) 0 pre.length = pre
  rest : bytesAt (out.st .ies) pre.length (Tlv.encodeAll (others eid oui es)).length = Tlv.encodeAll (others eid oui es)
  iesLen : out.val.2 = pre.length + (Tlv.encodeAll (others eid oui es)).length
  success : out.val.1 = true ↔ ∃ e ∈ es, Matches eid oui e
  buf : ∀ a ∈ out.log, BufFits a

/-! ## What it does -/

/-- An element looks like a match when the bytes from its body on start with the vendor. -/
def LooksLike (eid : UInt8) (oui : Option (List UInt8)) (e : Tlv) (behind : List UInt8) : Prop :=
  e.id = eid ∧ ∀ o ∈ oui, o <+: e.body ++ behind

instance (eid : UInt8) (oui : Option (List UInt8)) (e : Tlv) (behind : List UInt8) :
    Decidable (LooksLike eid oui e behind) :=
  inferInstanceAs (Decidable (_ ∧ _))

/-- The bytes behind a list once its first element has been removed: the old end of the list is still there. -/
def stale (e : Tlv) (es : List Tlv) (behind : List UInt8) : List UInt8 :=
  (Tlv.encodeAll (e :: es) ++ behind).drop (Tlv.encodeAll es).length

/-- What is left of a list with some bytes behind it. -/
def kept (eid : UInt8) (oui : Option (List UInt8)) : List Tlv → List UInt8 → List Tlv
  | [], _ => []
  | e :: es, behind =>
    if LooksLike eid oui e (Tlv.encodeAll es ++ behind) then kept eid oui es (stale e es behind)
    else e :: kept eid oui es behind

/-- No element that does not match looks like one that does, also not once others have been removed. -/
def NoFalseMatch (eid : UInt8) (oui : Option (List UInt8)) : List Tlv → List UInt8 → Prop
  | [], _ => True
  | e :: es, behind =>
    if Matches eid oui e then NoFalseMatch eid oui es (stale e es behind)
    else ¬LooksLike eid oui e (Tlv.encodeAll es ++ behind) ∧ NoFalseMatch eid oui es behind

section
variable {eid : UInt8} {oui : Option (List UInt8)} {e : Tlv} {es : List Tlv} {behind : List UInt8}

theorem LooksLike.of_matches (h : Matches eid oui e) : LooksLike eid oui e behind :=
  ⟨h.1, fun o ho => (h.2 o ho).trans (List.prefix_append _ _)⟩

theorem LooksLike.matches (h : LooksLike eid oui e behind) (hlong : ∀ o ∈ oui, o.length ≤ e.body.length) :
    Matches eid oui e :=
  ⟨h.1, fun o ho => List.prefix_of_prefix_length_le (h.2 o ho) (List.prefix_append _ _) (hlong o ho)⟩

theorem kept_sublist : (kept eid oui es behind).Sublist (others eid oui es) := by
  induction es generalizing behind with
  | nil => exact List.Sublist.refl _
  | cons e es ih =>
    rw [kept, others, List.filter_cons]
    by_cases hlooks : LooksLike eid oui e (Tlv.encodeAll es ++ behind)
    · rw [if_pos hlooks]
      split
      · exact ih.trans (List.sublist_cons_self _ _)
      · exact ih
    · have hno : ¬Matches eid oui e := fun h => hlooks (LooksLike.of_matches h)
      rw [if_neg hlooks, if_pos (decide_eq_true hno)]
      exact ih.cons_cons e

theorem kept_eq_others_iff : kept eid oui es behind = others eid oui es ↔ NoFalseMatch eid oui es behind := by
  induction es generalizing behind with
  | nil => exact ⟨fun _ => trivial, fun _ => rfl⟩
  | cons e es ih =>
    rw [kept, NoFalseMatch, others, List.filter_cons]
    by_cases hmatch : Matches eid oui e
    · rw [if_pos (LooksLike.of_matches hmatch), if_pos hmatch, if_neg (by simpa using hmatch)]
      exact ih
    · rw [if_neg hmatch, if_pos (decide_eq_true hmatch)]
      by_cases hlooks : LooksLike eid oui e (Tlv.encodeAll es ++ behind)
      · rw [if_pos hlooks]
        constructor
        · intro h
          have hlength : (kept eid oui es (stale e es behind)).length ≤ (others eid oui es).length := kept_sublist.length_le
          rw [h] at hlength
          exact absurd hlength (Nat.not_succ_le_self _)
        · exact fun h => absurd hlooks h.1
      · rw [if_neg hlooks, List.cons.injEq]
        exact ⟨fun h => ⟨hlooks, ih.mp h.2⟩, fun h => ⟨rfl, ih.mpr h.2⟩⟩

end

/-! ## One pass -/

section
variable {eid : UInt8} {oui : Option (List UInt8)} {e : Tlv} {es : List Tlv} {behind : List UInt8} {m : Mem}
  {start : ℤ} {s : Regions RemoveRegion}

theorem answerIe_encode {rest : List UInt8} (k : ℕ)
    (hbuf : bytesAt m (start + k) (e.encode ++ rest).length = e.encode ++ rest)
    (hlong : ∀ o ∈ oui, o.length ≤ (e.body ++ rest).length) :
    answerIe m start eid oui k = if LooksLike eid oui e rest then .found else .next := by
  obtain ⟨hid, -, -⟩ := encode_at hbuf
  have hbody : bytesAt m (start + k + 2) (e.body ++ rest).length = e.body ++ rest := by
    have happend : e.encode ++ rest = [e.id, UInt8.ofNat e.body.length] ++ (e.body ++ rest) := rfl
    rw [happend] at hbuf
    exact (bytesAt_eq_append.mp hbuf).2.2
  have houi : ∀ o ∈ oui, HasOui m start k o ↔ o <+: e.body ++ rest := fun o ho =>
    bytesAt_eq_iff_prefix hbody (hlong o ho)
  refine if_congr ?_ rfl rfl
  unfold IsIe LooksLike
  rw [hid]
  exact and_congr Iff.rfl (forall₂_congr houi)

theorem lookIe_shift (d : ℕ) : ∀ k, lookIe start eid oui (d + k) = lookIe (start + d) eid oui k := by
  intro k
  unfold lookIe lookOui
  rw [show start + ((d + k : ℕ) : ℤ) = start + d + k by push_cast; ring]

variable (eid) in
/-- The search over a list: its first element is the one, or it goes on behind it. -/
theorem rtwGetIeEx_cons (hbuf : bytesAt m start (Tlv.encodeAll (e :: es) ++ behind).length = Tlv.encodeAll (e :: es) ++ behind)
    (hbehind : ∀ o ∈ oui, o.length ≤ behind.length) :
    ((rtwGetIeEx start (Tlv.encodeAll (e :: es)).length eid oui false).run m).val =
      if LooksLike eid oui e (Tlv.encodeAll es ++ behind) then some ⟨start, e.size, []⟩
      else ((rtwGetIeEx (start + e.size) (Tlv.encodeAll es).length eid oui false).run m).val := by
  have hanswer : answerIe m start eid oui 0 = if LooksLike eid oui e (Tlv.encodeAll es ++ behind) then .found else .next := by
    rw [Tlv.encodeAll_cons, List.append_assoc] at hbuf
    refine answerIe_encode 0 (by rw [Nat.cast_zero, add_zero]; exact hbuf) fun o ho => ?_
    have hlen := hbehind o ho
    simp only [List.length_append]
    omega
  have hlength : (Tlv.encodeAll (e :: es)).length = e.size + (Tlv.encodeAll es).length := by
    rw [Tlv.encodeAll_cons, List.length_append, Tlv.encode_length]
  have hsize : sizeAt m start 0 = e.size := by
    rw [Tlv.encodeAll_cons, List.append_assoc] at hbuf
    obtain ⟨-, hlen, -⟩ := encode_at hbuf
    unfold sizeAt
    rw [Nat.cast_zero, add_zero, hlen]
    rfl
  have htwo : 2 ≤ e.size := Nat.le_add_left 2 _
  have hmore (n : ℕ) : search start n false (lookIe start eid oui) n 0 = search start n false (lookIe start eid oui) (n + 1) 0 :=
    search_passes (by omega) (by omega)
  rw [rtwGetIeEx, hmore, hlength]
  by_cases hlooks : LooksLike eid oui e (Tlv.encodeAll es ++ behind)
  · rw [if_pos hlooks] at hanswer ⊢
    rw [search, if_pos (by omega), bind_val, lookIe_val, lookIe_st, hanswer]
    show some (⟨start + (0 : ℕ), sizeAt m start 0, []⟩ : Target) = _
    rw [hsize, Nat.cast_zero, add_zero]
  · rw [if_neg hlooks] at hanswer ⊢
    have hpass : ((search start (e.size + (Tlv.encodeAll es).length) false (lookIe start eid oui)
          (e.size + (Tlv.encodeAll es).length + 1) 0).run m).val =
        ((search start (e.size + (Tlv.encodeAll es).length) false (lookIe start eid oui)
          (e.size + (Tlv.encodeAll es).length) (0 + sizeAt m start 0)).run m).val :=
      search_next (fun _ => lookIe_val) (fun _ => lookIe_st) (by omega) hanswer
    have hshift (fuel : ℕ) : search start (e.size + (Tlv.encodeAll es).length) false (lookIe start eid oui) fuel e.size =
        search (start + e.size) (Tlv.encodeAll es).length false (lookIe (start + e.size) eid oui) fuel 0 :=
      search_shift (k := 0) (lookIe_shift e.size)
    have hpasses : search (start + e.size) (Tlv.encodeAll es).length false (lookIe (start + e.size) eid oui)
          (e.size + (Tlv.encodeAll es).length) 0 =
        rtwGetIeEx (start + e.size) (Tlv.encodeAll es).length eid oui false :=
      search_passes (by omega) (by omega)
    rw [hpass, hsize, zero_add, hshift, hpasses]

theorem rtwGetIeEx_st (n : ℕ) (ie : Bool) : ((rtwGetIeEx start n eid oui ie).run m).st = m :=
  search_st (fun _ => lookIe_val) (fun _ => lookIe_st) _ _

/-- The list once the bytes behind the target are over it. -/
def movedOver (m : Mem) (target : Target) (remainLen : ℕ) : Mem :=
  putBytes m target.ptr (bytesAt m (target.ptr + target.size) remainLen)

theorem removeTarget_ies (target : Target) (remainLen : ℕ) :
    ((removeTarget target remainLen).run s).st .ies = movedOver (s .ies) target remainLen := by
  have hcopy (b : Mem) : (List.range remainLen).map (fun k : ℕ =>
      putBytes b 0 (bytesAt (s .ies) (target.ptr + target.size) remainLen) (0 + k)) =
        bytesAt (s .ies) (target.ptr + target.size) remainLen := by
    have hput := bytesAt_putBytes (m := b) (p := 0) [] (bytesAt (s .ies) (target.ptr + target.size) remainLen) []
    rw [List.nil_append, List.append_nil, bytesAt_length] at hput
    exact hput
  unfold removeTarget movedOver
  rw [bind_st, bind_st, store_st, memcpy_st, memcpy_st, Function.update_self]
  have hies (b : Mem) (t : Regions RemoveRegion) : Function.update t .buf b .ies = t .ies :=
    Function.update_of_ne (by decide) _ _
  simp only [Function.update_self, hies]
  exact congrArg _ (hcopy _)

theorem inside_removeTarget (target : Target) {remainLen : ℕ} (hlen : remainLen ≤ MAX_IE_SZ) :
    Inside BufFits (removeTarget target remainLen) s := by
  have hload (r : RemoveRegion) (x : ℤ) (t : Regions RemoveRegion) (hx : r = .buf → x = 0) :
      Inside BufFits (load r x remainLen) t := by
    unfold load
    rw [inside_peekList]
    intro k hk
    cases r with
    | ies => trivial
    | buf =>
      rw [hx rfl]
      exact ⟨by omega, by omega⟩
  have hstore (r : RemoveRegion) (x : ℤ) (l : List UInt8) (t : Regions RemoveRegion) (hl : l.length ≤ MAX_IE_SZ)
      (hx : r = .buf → x = 0) : Inside BufFits (store r x l) t := by
    intro a ha
    obtain ⟨k, hk, rfl⟩ := List.mem_map.mp ha
    have hk := List.mem_range.mp hk
    cases r with
    | ies => trivial
    | buf =>
      rw [hx rfl]
      exact ⟨by omega, by omega⟩
  unfold removeTarget memcpy
  simp only [inside_bind]
  refine ⟨hstore _ _ _ _ (by rw [List.length_replicate]) fun _ => rfl, ⟨hload _ _ _ (by intro h; cases h),
    hstore _ _ _ _ (by rw [load_val, List.length_map, List.length_range]; exact hlen) fun _ => rfl⟩,
    hload _ _ _ fun _ => rfl, hstore _ _ _ _ (by rw [load_val, List.length_map, List.length_range]; exact hlen)
      (by intro h; cases h)⟩

/-! ## The loop -/

theorem zoom_rtwGetIeEx_st (n : ℕ) : ((zoom (region RemoveRegion.ies) (rtwGetIeEx start n eid oui false)).run s).st = s := by
  rw [zoom_st]
  show Function.update s .ies ((rtwGetIeEx start n eid oui false).run (s .ies)).st = s
  rw [rtwGetIeEx_st, Function.update_eq_self]

theorem inside_zoom_rtwGetIeEx (n : ℕ) :
    Inside BufFits (zoom (region RemoveRegion.ies) (rtwGetIeEx start n eid oui false)) s := by
  rw [inside_zoom]
  exact fun _ _ => trivial

def afterSearch (eid : UInt8) (oui : Option (List UInt8)) (fuel : ℕ) (start : ℤ) (searchLen iesLen : ℕ) (ret : Bool) :
    Option Target → R RemoveRegion (Bool × ℕ)
  | none => pure (ret, iesLen)
  | some target =>
    if target.size = 0 then pure (ret, iesLen)
    else do
      let remainLen := uint (searchLen - (target.ptr + target.size - start))
      removeTarget target remainLen
      removeLoop eid oui fuel target.ptr remainLen (uint (iesLen - target.size)) true

theorem removeLoop_pass (fuel iesLen : ℕ) (ret : Bool) {n : ℕ} {found : Option Target}
    (hfound : ((rtwGetIeEx start n eid oui false).run (s .ies)).val = found) :
    ((removeLoop eid oui (fuel + 1) start n iesLen ret).run s).val =
        ((afterSearch eid oui fuel start n iesLen ret found).run s).val ∧
      ((removeLoop eid oui (fuel + 1) start n iesLen ret).run s).st =
        ((afterSearch eid oui fuel start n iesLen ret found).run s).st ∧
      (Inside BufFits (removeLoop eid oui (fuel + 1) start n iesLen ret) s ↔
        Inside BufFits (afterSearch eid oui fuel start n iesLen ret found) s) := by
  subst hfound
  rw [removeLoop, bind_val, bind_st, inside_bind, zoom_rtwGetIeEx_st, zoom_val]
  exact ⟨rfl, rfl, ⟨fun h => h.2, fun h => ⟨inside_zoom_rtwGetIeEx n, h⟩⟩⟩

theorem afterSearch_skip (fuel iesLen : ℕ) (ret : Bool) (d n : ℕ) (found : Option Target) :
    afterSearch eid oui fuel start (d + n) iesLen ret found = afterSearch eid oui fuel (start + d) n iesLen ret found := by
  cases found with
  | none => rfl
  | some target =>
    have hremain : ((d + n : ℕ) : ℤ) - (target.ptr + target.size - start) =
        (n : ℤ) - (target.ptr + target.size - (start + d)) := by
      push_cast
      ring
    rw [afterSearch, afterSearch, hremain]

theorem stale_length : (stale e es behind).length = e.size + behind.length := by
  rw [stale, List.length_drop, List.length_append, Tlv.encodeAll_cons, List.length_append, Tlv.encode_length]
  omega

theorem movedOver_list (hbuf : bytesAt m start (Tlv.encodeAll (e :: es) ++ behind).length = Tlv.encodeAll (e :: es) ++ behind) :
    bytesAt (movedOver m ⟨start, e.size, []⟩ (Tlv.encodeAll es).length) start
      (Tlv.encodeAll es ++ stale e es behind).length = Tlv.encodeAll es ++ stale e es behind := by
  have htotal : (Tlv.encodeAll (e :: es) ++ behind).length = (Tlv.encodeAll es).length + (e.size + behind.length) := by
    rw [List.length_append, Tlv.encodeAll_cons, List.length_append, Tlv.encode_length]
    omega
  have hrest : bytesAt m (start + e.size) (Tlv.encodeAll es).length = Tlv.encodeAll es := by
    rw [Tlv.encodeAll_cons, List.append_assoc] at hbuf
    exact (bytesAt_eq_append.mp (bytesAt_eq_append.mp hbuf).2.2).2.1
  have hstale : bytesAt m (start + (Tlv.encodeAll es).length) (e.size + behind.length) = stale e es behind := by
    have hsplit := bytesAt_add (m := m) (p := start) (Tlv.encodeAll es).length (e.size + behind.length)
    rw [stale, ← hbuf, htotal, hsplit]
    exact (List.drop_left' (bytesAt_length _)).symm
  rw [movedOver, hrest, bytesAt_eq_append, List.length_append, stale_length]
  refine ⟨rfl, ?_, ?_⟩
  · have hput := bytesAt_putBytes (m := m) (p := start) [] (Tlv.encodeAll es) []
    simpa using hput
  · rw [← hstale]
    apply bytesAt_congr
    intro k _
    exact putBytes_outside _ _ _ _ (.inr (show start + _ ≤ _ by omega))

variable (eid) in
/-- What the loop leaves of a list. By induction on the list, of which the loop removes one element or passes it. -/
theorem removeLoop_kept (fuel iesLen : ℕ) (ret : Bool) (hfuel : es.length < fuel)
    (hbuf : bytesAt (s .ies) start (Tlv.encodeAll es ++ behind).length = Tlv.encodeAll es ++ behind)
    (hbehind : ∀ o ∈ oui, o.length ≤ behind.length) (hlen : (Tlv.encodeAll es).length ≤ iesLen) (hbound : iesLen < 2 ^ 32)
    (hsize : (Tlv.encodeAll es).length ≤ MAX_IE_SZ) :
    let out := (removeLoop eid oui fuel start (Tlv.encodeAll es).length iesLen ret).run s
    (out.val.1 = true ↔ ret = true ∨ kept eid oui es behind ≠ es) ∧
      out.val.2 + (Tlv.encodeAll es).length = iesLen + (Tlv.encodeAll (kept eid oui es behind)).length ∧
      bytesAt (out.st .ies) start (Tlv.encodeAll (kept eid oui es behind)).length = Tlv.encodeAll (kept eid oui es behind) ∧
      (∀ x < start, out.st .ies x = s .ies x) ∧ ∀ a ∈ out.log, BufFits a := by
  induction es generalizing s start behind fuel iesLen ret with
  | nil =>
    obtain ⟨fuel, rfl⟩ := Nat.exists_eq_succ_of_ne_zero (Nat.ne_zero_of_lt hfuel)
    have hfound : ((rtwGetIeEx start (Tlv.encodeAll []).length eid oui false).run (s .ies)).val = none := rfl
    obtain ⟨hval, hst, hinside⟩ := removeLoop_pass fuel iesLen ret hfound
    dsimp only
    rw [Nat.succ_eq_add_one, hval, hst]
    exact ⟨⟨.inl, fun h => h.resolve_right fun hne => hne rfl⟩, rfl, rfl, fun _ _ => rfl, hinside.mpr (inside_pure _ _ _)⟩
  | cons e es ih =>
    obtain ⟨fuel, rfl⟩ := Nat.exists_eq_succ_of_ne_zero (Nat.ne_zero_of_lt hfuel)
    have hfound := rtwGetIeEx_cons eid hbuf hbehind
    have hlength : (Tlv.encodeAll (e :: es)).length = e.size + (Tlv.encodeAll es).length := by
      rw [Tlv.encodeAll_cons, List.length_append, Tlv.encode_length]
    rw [List.length_cons] at hfuel
    dsimp only
    rw [Nat.succ_eq_add_one, kept]
    have hless : (kept eid oui es (stale e es behind)).length < (e :: es).length :=
      Nat.lt_succ_of_le (kept_sublist.trans List.filter_sublist).length_le
    by_cases hlooks : LooksLike eid oui e (Tlv.encodeAll es ++ behind)
    · rw [if_pos hlooks] at hfound
      have hremain : uint ((Tlv.encodeAll (e :: es)).length - (start + e.size - start)) = (Tlv.encodeAll es).length := by
        unfold uint
        omega
      have hiesLen : uint (iesLen - e.size) = iesLen - e.size := by
        unfold uint
        omega
      obtain ⟨hval, hst, hinside⟩ := removeLoop_pass fuel iesLen ret hfound
      have hafter : afterSearch eid oui fuel start (Tlv.encodeAll (e :: es)).length iesLen ret (some ⟨start, e.size, []⟩) = (do
          removeTarget ⟨start, e.size, []⟩ (Tlv.encodeAll es).length
          removeLoop eid oui fuel start (Tlv.encodeAll es).length (iesLen - e.size) true) := by
        rw [afterSearch, if_neg (show ¬e.size = 0 from Nat.succ_ne_zero _)]
        dsimp only
        rw [hremain, hiesLen]
      rw [hafter] at hval hst hinside
      have hmoved := removeTarget_ies (s := s) ⟨start, e.size, []⟩ (Tlv.encodeAll es).length
      have hlist := movedOver_list hbuf
      rw [← hmoved] at hlist
      have hbehind' : ∀ o ∈ oui, o.length ≤ (stale e es behind).length := fun o ho => by
        have hle := hbehind o ho
        rw [stale_length]
        omega
      obtain ⟨hret, hnew, hrest, hframe, hbuf⟩ := ih fuel (iesLen - e.size) true (by omega)
        hlist hbehind' (by omega) (by omega) (by omega)
      rw [if_pos hlooks, hval, hst, bind_val, bind_st]
      refine ⟨⟨fun _ => .inr fun h => ?_, fun _ => hret.mpr (.inl rfl)⟩, by omega, hrest, fun x hx => ?_,
        hinside.mpr ((inside_bind _ _ _ _).mpr ⟨inside_removeTarget _ (by omega), hbuf⟩)⟩
      · rw [h] at hless
        exact absurd hless (lt_irrefl _)
      · rw [hframe x hx, hmoved]
        exact putBytes_outside _ _ _ _ (.inl hx)
    · rw [if_neg hlooks] at hfound
      rw [hlength] at hfound
      obtain ⟨hval, hst, hinside⟩ := removeLoop_pass fuel iesLen ret hfound
      rw [afterSearch_skip] at hval hst hinside
      obtain ⟨hval', hst', hinside'⟩ := removeLoop_pass fuel iesLen ret
        (rfl : ((rtwGetIeEx (start + e.size) (Tlv.encodeAll es).length eid oui false).run (s .ies)).val = _)
      rw [Tlv.encodeAll_cons, List.append_assoc, bytesAt_eq_append, Tlv.encode_length] at hbuf
      obtain ⟨-, hfirst, htail⟩ := hbuf
      obtain ⟨hret, hnew, hrest, hframe, hbuf⟩ := ih (fuel + 1) iesLen ret (by omega) htail hbehind (by omega) hbound (by omega)
      rw [if_neg hlooks, hlength, hval, hst, ← hval', ← hst']
      refine ⟨?_, ?_, ?_, fun x hx => hframe x (by omega), hinside.mpr (hinside'.mp hbuf)⟩
      · rw [hret, ne_eq, ne_eq, List.cons.injEq, and_iff_right rfl]
      · rw [Tlv.encodeAll_cons, List.length_append, Tlv.encode_length]
        omega
      · rw [Tlv.encodeAll_cons, bytesAt_eq_append, List.length_append, Tlv.encode_length]
        refine ⟨rfl, ?_, hrest⟩
        rw [← hfirst]
        apply bytesAt_congr
        intro k hk
        exact hframe _ (by omega)

end

theorem others_ne_iff {eid : UInt8} {oui : Option (List UInt8)} {es : List Tlv} :
    others eid oui es ≠ es ↔ ∃ e ∈ es, Matches eid oui e := by
  rw [others, ne_eq, List.filter_eq_self]
  simp

/-- **Just the elements that match are removed exactly when no other looks like one that does**, with what is in the memory
behind the list. -/
theorem iesRemoveIe_filters_iff (s : Regions RemoveRegion) (pre : List UInt8) (es : List Tlv) (eid : UInt8)
    (oui : Option (List UInt8))
    (hbuf : bytesAt (s .ies) 0 (pre.length + (Tlv.encodeAll es).length) = pre ++ Tlv.encodeAll es)
    (hsize : (Tlv.encodeAll es).length ≤ MAX_IE_SZ) (hbound : pre.length + (Tlv.encodeAll es).length < 2 ^ 32) :
    Filtered pre es eid oui
        ((rtwIesRemoveIe (pre.length + (Tlv.encodeAll es).length) pre.length eid oui).run s) ↔
      NoFalseMatch eid oui es (bytesAt (s .ies) (pre.length + (Tlv.encodeAll es).length) ((oui.map List.length).getD 0)) := by
  set behind := bytesAt (s .ies) (pre.length + (Tlv.encodeAll es).length) ((oui.map List.length).getD 0) with hb
  have hbehind : ∀ o ∈ oui, o.length ≤ behind.length := by
    intro o ho
    cases ho
    rw [hb, bytesAt_length]
    exact le_rfl
  obtain ⟨-, hpre, hes⟩ := bytesAt_eq_append.mp hbuf
  rw [zero_add] at hes
  have hwindow : bytesAt (s .ies) pre.length (Tlv.encodeAll es ++ behind).length = Tlv.encodeAll es ++ behind := by
    have hlength : behind.length = (oui.map List.length).getD 0 := bytesAt_length _
    rw [bytesAt_eq_append, List.length_append]
    exact ⟨rfl, hes, by rw [hlength]⟩
  have hrun : ∃ out, (rtwIesRemoveIe (pre.length + (Tlv.encodeAll es).length) pre.length eid oui).run s = out ∧
      (out.val.1 = true ↔ kept eid oui es behind ≠ es) ∧
      out.val.2 = pre.length + (Tlv.encodeAll (kept eid oui es behind)).length ∧
      bytesAt (out.st .ies) pre.length (Tlv.encodeAll (kept eid oui es behind)).length =
        Tlv.encodeAll (kept eid oui es behind) ∧
      (∀ x < (pre.length : ℤ), out.st .ies x = s .ies x) ∧ ∀ a ∈ out.log, BufFits a := by
    refine ⟨_, rfl, ?_⟩
    cases es with
    | nil =>
      have hstop : rtwIesRemoveIe (pre.length + (Tlv.encodeAll []).length) pre.length eid oui =
          pure (false, pre.length + (Tlv.encodeAll []).length) := if_pos le_rfl
      rw [hstop]
      exact ⟨⟨fun h => absurd h Bool.false_ne_true, fun h => absurd rfl h⟩, rfl, rfl, fun _ _ => rfl, inside_pure _ _ _⟩
    | cons e es =>
      have hpasses := length_le_encodeAll (e :: es)
      rw [List.length_cons] at hpasses
      have hloop := removeLoop_kept eid (Tlv.encodeAll (e :: es)).length
        (pre.length + (Tlv.encodeAll (e :: es)).length) false (by rw [List.length_cons]; omega) hwindow hbehind (by omega)
        hbound hsize
      rw [rtwIesRemoveIe, if_neg (by omega), Nat.add_sub_cancel_left]
      obtain ⟨hret, hnew, hrest, hframe, hinside⟩ := hloop
      refine ⟨hret.trans ⟨fun h => h.resolve_left Bool.false_ne_true, .inr⟩, by omega, hrest, hframe, hinside⟩
  obtain ⟨out, hout, hret, hnew, hrest, hframe, hinside⟩ := hrun
  rw [hout, ← kept_eq_others_iff]
  constructor
  · intro h
    have hlength : (Tlv.encodeAll (kept eid oui es behind)).length = (Tlv.encodeAll (others eid oui es)).length := by
      have hnew' := h.iesLen
      omega
    have hbytes := h.rest
    rw [← hlength, hrest] at hbytes
    exact Tlv.encodeAll_injective hbytes
  · intro h
    rw [h] at hret hnew hrest
    refine ⟨?_, hrest, hnew, hret.trans others_ne_iff, hinside⟩
    rw [← hpre]
    rw [bytesAt_length]
    apply bytesAt_congr
    intro k hk
    exact hframe _ (by omega)

/-- Two elements of which the first, too short for a vendor, goes on in the second as one. -/
def shortVendor : List Tlv := [⟨0xdd, [0x50, 0x6f], by decide⟩, ⟨0x9a, List.replicate 9 0, by decide⟩]

def listMem (l : List UInt8) : Regions RemoveRegion := fun _ x => l.getD x.toNat 0

theorem iesRemoveIe_filters_iff_shortVendor :
    Filtered [] shortVendor 0xdd (some wpsOui) ((rtwIesRemoveIe (0 + 15) 0 0xdd (some wpsOui)).run
        (listMem (Tlv.encodeAll shortVendor))) ↔
      NoFalseMatch 0xdd (some wpsOui) shortVendor (bytesAt (listMem (Tlv.encodeAll shortVendor) .ies) (0 + 15) 4) :=
  iesRemoveIe_filters_iff (listMem (Tlv.encodeAll shortVendor)) [] shortVendor 0xdd (some wpsOui) (by decide) (by decide)
    (by decide)

/-- The element is removed, though its body does not start with the vendor. -/
theorem iesRemoveIe_shortVendor : ¬Filtered [] shortVendor 0xdd (some p2pOui)
    ((rtwIesRemoveIe 15 0 0xdd (some p2pOui)).run (listMem (Tlv.encodeAll shortVendor))) := by
  intro h
  exact absurd h.iesLen (by decide +kernel)

end Rtl8723au.Ieee80211
