import Rtl8723au.Ap.BeaconData
import Rtl8723au.Ieee80211.SecurityIeExact
import Rtl8723au.Ieee80211.SetIe
import Rtl8723au.Ioctl.HostapdBounds

/-! The two search loops of `rtw_check_beacon_data`: what they read, and what they find in a list of elements. The limit of a
search does not shrink with its start, so a search that finds nothing goes on behind the elements. -/
namespace Rtl8723au
namespace BeaconData
open AccessM Regions Tlv Security Ieee80211 Mem
set_option autoImplicit false

/-! ## What is read -/

/-- The headers that a search comes to end before `len`. -/
def SearchRoom (len : ℕ) (m : Mem) (p limit : ℤ) : Prop :=
  limit < 1 ∨ ∀ k, Visits (nextElement m p _VENDOR_SPECIFIC_IE_ limit.toNat) 0 k → p + k + 1 < len

def nextLimit (len ieLen : ℕ) : ℤ := (len : ℤ) - _BEACON_IE_OFFSET_ - (ieLen + 2 : ℕ)

def nextVendor (len : ℕ) (m : Mem) (p : ℤ) (ieLen : ℕ) : Option (ℤ × ℕ) :=
  ((rtwGetIe p _VENDOR_SPECIFIC_IE_ (nextLimit len ieLen)).run m).val

/-- The headers that a loop comes to, and the bytes that it compares, lie before `len`. -/
def LoopRoom (oui : List UInt8) (len : ℕ) (m : Mem) : ℕ → ℤ → ℕ → Prop
  | 0, _, _ => True
  | fuel + 1, p, ieLen => SearchRoom len m p (nextLimit len ieLen) ∧
    ∀ q n, nextVendor len m p ieLen = some (q, n) → q + 2 + oui.length ≤ len ∧
      (bytesAt m (q + 2) oui.length ≠ oui → n ≠ 0 → LoopRoom oui len m fuel (q + (n + 2 : ℕ)) n)

section
variable {oui : List UInt8} {len : ℕ} {m : Mem} {p : ℤ} {ieLen fuel : ℕ}

theorem inside_rtwGetIe_iff (limit : ℤ) (hp : 0 ≤ p) :
    Inside (fun x => 0 ≤ x ∧ x < (len : ℤ)) (rtwGetIe p _VENDOR_SPECIFIC_IE_ limit) m ↔ SearchRoom len m p limit := by
  rw [rtwGetIe, inside_ite, SearchRoom]
  split
  next hnone => exact iff_of_true (inside_pure _ _ _) (.inl hnone)
  next hsome =>
    have hlimit : ((limit.toNat : ℕ) : ℤ) = limit := Int.toNat_of_nonneg (by omega)
    have hiff := @inside_rtwGetIeLoop_iff m p _VENDOR_SPECIFIC_IE_ limit.toNat (fun x => 0 ≤ x ∧ x < (len : ℤ)) limit.toNat 0
      (by omega) (by omega)
    rw [hlimit] at hiff
    rw [hiff, or_iff_right hsome]
    refine forall_congr' fun k => imp_congr_right fun _ => ?_
    omega

theorem vendorLoop_st (fuel : ℕ) (p : ℤ) (ieLen : ℕ) : ((vendorLoop oui len fuel p ieLen).run m).st = m := by
  induction fuel generalizing p ieLen with
  | zero => rfl
  | succ fuel ih =>
    rw [vendorLoop, bind_st, rtwGetIe_st]
    split
    · rfl
    · rw [bind_st, peekList_st, ite_run]
      split
      · rfl
      · rw [ite_run]
        split
        · rfl
        · exact ih _ _

theorem vendorLoop_succ (fuel : ℕ) (p : ℤ) (ieLen : ℕ) : ((vendorLoop oui len (fuel + 1) p ieLen).run m).val =
    (nextVendor len m p ieLen).bind fun e =>
      if bytesAt m (e.1 + 2) oui.length = oui then some e
      else if e.2 = 0 then none
      else ((vendorLoop oui len fuel (e.1 + (e.2 + 2 : ℕ)) e.2).run m).val := by
  rw [vendorLoop, bind_val, rtwGetIe_st]
  have hnext : ((rtwGetIe p _VENDOR_SPECIFIC_IE_ ((len : ℤ) - _BEACON_IE_OFFSET_ - (ieLen + 2 : ℕ))).run m).val =
      nextVendor len m p ieLen := rfl
  rw [hnext]
  cases nextVendor len m p ieLen with
  | none => rfl
  | some e =>
    obtain ⟨q, n⟩ := e
    dsimp only [Option.bind_some]
    rw [bind_val, peekList_st, ite_run, apply_ite Outcome.val, ite_run, apply_ite Outcome.val]
    rfl

theorem nextVendor_spec {q : ℤ} {n : ℕ} (h : nextVendor len m p ieLen = some (q, n)) :
    p ≤ q ∧ m q = _VENDOR_SPECIFIC_IE_ ∧ n = (m (q + 1)).toNat := by
  rw [nextVendor, rtwGetIe, ite_run] at h
  split at h
  · cases h
  next hsome =>
    have hlimit : (((nextLimit len ieLen).toNat : ℕ) : ℤ) = nextLimit len ieLen := Int.toNat_of_nonneg (by omega)
    have hiff := @rtwGetIeLoop_val_iff m p _VENDOR_SPECIFIC_IE_ (nextLimit len ieLen).toNat q n (nextLimit len ieLen).toNat 0
      (by omega) (by omega)
    rw [hlimit] at hiff
    obtain ⟨k, -, hid, rfl, rfl⟩ := hiff.mp h
    exact ⟨by omega, hid, rfl⟩

theorem inside_vendorLoop (houi : 0 < oui.length) (fuel : ℕ) (p : ℤ) (ieLen : ℕ) (hp : 0 ≤ p) :
    Inside (fun x => 0 ≤ x ∧ x < (len : ℤ)) (vendorLoop oui len fuel p ieLen) m ↔ LoopRoom oui len m fuel p ieLen := by
  induction fuel generalizing p ieLen with
  | zero => exact iff_of_true (inside_pure _ _ _) trivial
  | succ fuel ih =>
    have hnext : ((rtwGetIe p _VENDOR_SPECIFIC_IE_ ((len : ℤ) - _BEACON_IE_OFFSET_ - (ieLen + 2 : ℕ))).run m).val =
        nextVendor len m p ieLen := rfl
    rw [vendorLoop, inside_bind, rtwGetIe_st, hnext, LoopRoom]
    refine and_congr (inside_rtwGetIe_iff _ hp) ?_
    cases hfound : nextVendor len m p ieLen with
    | none => exact iff_of_true (inside_pure _ _ _) fun q n hq => absurd hq.symm (Option.some_ne_none _)
    | some e =>
      obtain ⟨q, n⟩ := e
      obtain ⟨hq, -, -⟩ := nextVendor_spec hfound
      have hbytes : ((peekList whole (q + 2) oui.length).run m).val = bytesAt m (q + 2) oui.length := rfl
      dsimp only
      rw [inside_bind, inside_peekList, peekList_st, hbytes]
      have hblock : (∀ k < oui.length, 0 ≤ q + 2 + (k : ℕ) ∧ q + 2 + (k : ℕ) < (len : ℤ)) ↔ q + 2 + oui.length ≤ len := by
        rw [block_inside_iff 0 len (q + 2) oui.length houi]
        exact and_iff_right (by omega)
      constructor
      · rintro ⟨hin, hrest⟩ q' n' hq'
        obtain ⟨rfl, rfl⟩ := Prod.mk.inj (Option.some.inj hq')
        refine ⟨hblock.mp hin, fun hdiffer hpos => ?_⟩
        rw [if_neg hdiffer, if_neg hpos] at hrest
        exact (ih _ _ (by omega)).mp hrest
      · intro h
        obtain ⟨hend, hrest⟩ := h q n rfl
        refine ⟨hblock.mpr hend, ?_⟩
        rw [inside_ite]
        split
        · exact inside_pure _ _ _
        next hdiffer =>
          rw [inside_ite]
          split
          · exact inside_pure _ _ _
          next hpos => exact (ih _ _ (by omega)).mpr (hrest hdiffer hpos)

/-- What a loop ends with has the bytes that it has looked for, before `len`. -/
theorem vendorLoop_spec (fuel : ℕ) (p : ℤ) (ieLen : ℕ) (hp : 0 ≤ p) {q : ℤ} {n : ℕ}
    (h : ((vendorLoop oui len fuel p ieLen).run m).val = some (q, n)) :
    0 ≤ q ∧ m q = _VENDOR_SPECIFIC_IE_ ∧ n = (m (q + 1)).toNat ∧ bytesAt m (q + 2) oui.length = oui ∧
      (LoopRoom oui len m fuel p ieLen → q + 2 + oui.length ≤ len) := by
  induction fuel generalizing p ieLen with
  | zero => cases h
  | succ fuel ih =>
    rw [vendorLoop_succ] at h
    obtain ⟨⟨q', n'⟩, hnext, h⟩ := Option.bind_eq_some_iff.mp h
    obtain ⟨hq, hid, hn⟩ := nextVendor_spec hnext
    dsimp only at h
    split at h
    next hsame =>
      obtain ⟨rfl, rfl⟩ := Prod.mk.inj (Option.some.inj h)
      exact ⟨by omega, hid, hn, hsame, fun hroom => (hroom.2 _ _ hnext).1⟩
    next hdiffer =>
      split at h
      · cases h
      next hpos =>
        obtain ⟨hq', hid', hn', hsame, hroom⟩ := ih _ _ (by omega) h
        exact ⟨hq', hid', hn', hsame, fun hall => hroom ((hall.2 _ _ hnext).2 hdiffer hpos)⟩

end

/-! ## What is found in a list -/

/-- The element that a loop ends with, and its index. -/
def vendorHit (oui : List UInt8) (len : ℕ) (m : Mem) : ℕ → List Tlv → Option (ℕ × Tlv)
  | _, [] => none
  | i, e :: rest =>
    if e.id = _VENDOR_SPECIFIC_IE_ then
      if i + 2 + oui.length ≤ len ∧ bytesAt m (i + 2 : ℕ) oui.length = oui then some (i, e)
      else if e.body = [] then none
      else vendorHit oui len m (i + e.size) rest
    else vendorHit oui len m (i + e.size) rest

section
variable {oui : List UInt8} {len : ℕ} {m : Mem}

theorem vendorHit_append (pre es : List Tlv) (hpre : ∀ x ∈ pre, x.id ≠ _VENDOR_SPECIFIC_IE_) (i : ℕ) :
    vendorHit oui len m i (pre ++ es) = vendorHit oui len m (i + (encodeAll pre).length) es := by
  induction pre generalizing i with
  | nil => rfl
  | cons e pre ih =>
    rw [List.cons_append, vendorHit, if_neg (hpre e List.mem_cons_self), ih (fun x hx => hpre x (List.mem_cons_of_mem e hx)),
      encodeAll_cons, List.length_append, encode_length, Nat.add_assoc]

theorem visits_end (es : List Tlv) (hes : ∀ x ∈ es, x.id ≠ _VENDOR_SPECIFIC_IE_) {p : ℤ} (limit : ℕ) {k : ℕ}
    (hbytes : bytesAt m (p + k) (encodeAll es).length = encodeAll es) (hlimit : k + (encodeAll es).length < limit) :
    Visits (nextElement m p _VENDOR_SPECIFIC_IE_ limit) k (k + (encodeAll es).length) := by
  induction es generalizing k with
  | nil => exact .start
  | cons e rest ih =>
    rw [encodeAll_cons] at hbytes
    obtain ⟨hid, hcount, hrest⟩ := encode_at hbytes
    have hsize : e.size = e.body.length + 2 := rfl
    have hplace : p + (k : ℤ) + e.size = p + ((k + e.size : ℕ) : ℤ) := by
      push_cast
      ring
    rw [hplace] at hrest
    rw [encodeAll_cons, List.length_append, encode_length] at hlimit
    have hnext : nextElement m p _VENDOR_SPECIFIC_IE_ limit k = some (k + e.size) := by
      rw [nextElement, if_neg (by rw [hid]; exact hes e List.mem_cons_self), hcount, ← hsize, if_neg (by omega)]
    have htail := ih (fun x hx => hes x (List.mem_cons_of_mem e hx)) hrest (by omega)
    rw [encodeAll_cons, List.length_append, encode_length, ← Nat.add_assoc]
    exact .head hnext htail

/-- A search without such an element finds nothing, as long as it stays before `len`. -/
theorem nextVendor_none (es : List Tlv) (hes : ∀ x ∈ es, x.id ≠ _VENDOR_SPECIFIC_IE_) {i ieLen : ℕ}
    (hbytes : bytesAt m (i : ℕ) (encodeAll es).length = encodeAll es) (hlen : len = i + (encodeAll es).length)
    (hroom : SearchRoom len m i (nextLimit len ieLen)) : nextVendor len m i ieLen = none := by
  rw [nextVendor]
  by_cases hlimit : nextLimit len ieLen ≤ (encodeAll es).length
  · exact rtwGetIe_none_of_le hbytes hes hlimit
  · exfalso
    have hvisits := visits_end (p := (i : ℕ)) es hes (nextLimit len ieLen).toNat (k := 0)
      (by rw [Nat.cast_zero, add_zero]; exact hbytes) (by omega)
    rcases hroom with hnone | hroom
    · omega
    · have hend := hroom _ hvisits
      omega

/-- A loop that stays before `len` ends with the element it should. -/
theorem vendorLoop_list (houi : 0 < oui.length) (fuel : ℕ) (es : List Tlv) (i ieLen : ℕ) (hfuel : es.length ≤ fuel)
    (hbytes : bytesAt m (i : ℕ) (encodeAll es).length = encodeAll es) (hlen : len = i + (encodeAll es).length)
    (hstart : i = 12 ∧ ieLen = 0 ∨ 12 + (ieLen + 2) ≤ i) (hroom : LoopRoom oui len m fuel i ieLen) :
    ((vendorLoop oui len fuel i ieLen).run m).val =
      (vendorHit oui len m i es).map fun e => ((e.1 : ℤ), e.2.body.length) := by
  induction fuel generalizing es i ieLen with
  | zero =>
    rw [List.length_eq_zero_iff.mp (Nat.le_zero.mp hfuel)]
    rfl
  | succ fuel ih =>
    obtain ⟨hsearch, hrest⟩ := hroom
    rw [vendorLoop_succ]
    rcases exists_first (fun e => e.id = _VENDOR_SPECIFIC_IE_) es with hnone | ⟨pre, e, post, rfl, hid, hpre⟩
    · have hes : ∀ x ∈ es, x.id ≠ _VENDOR_SPECIFIC_IE_ := fun x hx hid => hnone x hx (decide_eq_true hid)
      have hhit := @vendorHit_append oui len m es [] hes i
      rw [List.append_nil] at hhit
      rw [nextVendor_none es hes hbytes hlen hsearch, hhit]
      rfl
    · have hid : e.id = _VENDOR_SPECIFIC_IE_ := of_decide_eq_true hid
      have hes : ∀ x ∈ pre, x.id ≠ _VENDOR_SPECIFIC_IE_ := fun x hx hid => hpre x hx (decide_eq_true hid)
      have hoffset : nextLimit len ieLen = (len : ℤ) - 12 - (ieLen + 2 : ℕ) := rfl
      have hsize : e.size = e.body.length + 2 := rfl
      have hsplit := hlen
      rw [encodeAll_append, encodeAll_cons, List.length_append, List.length_append, encode_length] at hsplit
      rw [vendorHit_append pre (e :: post) hes, vendorHit, if_pos hid]
      by_cases hlimit : ((encodeAll pre).length : ℤ) < nextLimit len ieLen
      · have hfound : nextVendor len m i ieLen = some ((i : ℤ) + (encodeAll pre).length, e.body.length) := by
          rw [nextVendor, ← hid]
          exact rtwGetIe_found_of_lt hbytes rfl (fun x hx => hid ▸ hes x hx) hlimit
        obtain ⟨hend, hgo⟩ := hrest _ _ hfound
        have hplace : (i : ℤ) + (encodeAll pre).length + 2 = ((i + (encodeAll pre).length + 2 : ℕ) : ℤ) := by push_cast; rfl
        rw [hplace] at hend hgo
        rw [hfound, Option.bind_some]
        dsimp only
        rw [hplace]
        by_cases hsame : bytesAt m ((i + (encodeAll pre).length + 2 : ℕ) : ℤ) oui.length = oui
        · rw [if_pos hsame, if_pos ⟨by exact_mod_cast hend, hsame⟩, Option.map_some]
          push_cast
          rfl
        · have hother : ¬(i + (encodeAll pre).length + 2 + oui.length ≤ len ∧
              bytesAt m ((i + (encodeAll pre).length + 2 : ℕ) : ℤ) oui.length = oui) := fun h => hsame h.2
          rw [if_neg hsame, if_neg hother]
          by_cases hempty : e.body = []
          · rw [if_pos (by rw [hempty]; rfl), if_pos hempty]
            rfl
          · have hpos : e.body.length ≠ 0 := fun h => hempty (List.length_eq_zero_iff.mp h)
            have hbehind := encoding_behind hbytes
            rw [encodeAll_cons] at hbehind
            obtain ⟨-, -, htail⟩ := encode_at hbehind
            have hnext : (i : ℤ) + (encodeAll pre).length + (e.body.length + 2 : ℕ) =
                ((i + (encodeAll pre).length + e.size : ℕ) : ℤ) := by push_cast [hsize]; ring
            have htail' : (i : ℤ) + (encodeAll pre).length + (e.size : ℤ) =
                ((i + (encodeAll pre).length + e.size : ℕ) : ℤ) := by push_cast; rfl
            rw [htail'] at htail
            have hgo := hgo hsame hpos
            rw [hnext] at hgo
            rw [if_neg hpos, if_neg hempty, hnext]
            rw [List.length_append, List.length_cons] at hfuel
            exact ih post _ _ (by omega) htail (by omega) (.inr (by omega)) hgo
      · have hnone : nextVendor len m i ieLen = none := by
          rw [nextVendor]
          have hpre := (bytesAt_eq_append.mp (encodeAll_append pre (e :: post) ▸ hbytes)).2.1
          exact rtwGetIe_none_of_le hpre hes (by omega)
        have hlast : e.body.length = 0 := by omega
        rw [hnone, if_neg (by omega), if_pos (List.length_eq_zero_iff.mp hlast)]
        rfl

end

end BeaconData

end Rtl8723au
