import Rtl8723au.Mlme.ApFrame

/-! The bytes that `issue_probersp` makes of the elements of the network, and when they are the ones they should be. -/
namespace Rtl8723au
namespace ApFrame
open AccessM Regions Tlv Security Ieee80211 Mem
set_option autoImplicit false

/-! ## The SSID in a list -/

def splitSsid : List Tlv → Option (List Tlv × Tlv × List Tlv)
  | [] => none
  | e :: es => if e.id = _SSID_IE_ then some ([], e, es) else (splitSsid es).map fun t => (e :: t.1, t.2)

section
variable {es pre post : List Tlv} {e : Tlv}

theorem splitSsid_append (hpre : ∀ x ∈ pre, x.id ≠ _SSID_IE_) (hid : e.id = _SSID_IE_) :
    splitSsid (pre ++ e :: post) = some (pre, e, post) := by
  induction pre with
  | nil => exact if_pos hid
  | cons x pre ih =>
    obtain ⟨hx, hpre⟩ := List.forall_mem_cons.mp hpre
    rw [List.cons_append, splitSsid, if_neg hx, ih hpre]
    rfl

theorem splitSsid_none_iff : splitSsid es = none ↔ ∀ x ∈ es, x.id ≠ _SSID_IE_ := by
  induction es with
  | nil => exact iff_of_true rfl fun x hx => absurd hx List.not_mem_nil
  | cons x es ih =>
    rw [splitSsid, List.forall_mem_cons]
    by_cases hid : x.id = _SSID_IE_
    · rw [if_pos hid]
      exact iff_of_false (Option.some_ne_none _) fun h => h.1 hid
    · rw [if_neg hid, Option.map_eq_none_iff, ih, and_iff_right hid]

theorem splitSsid_some (h : splitSsid es = some (pre, e, post)) :
    es = pre ++ e :: post ∧ e.id = _SSID_IE_ ∧ ∀ x ∈ pre, x.id ≠ _SSID_IE_ := by
  induction es generalizing pre with
  | nil => cases h
  | cons x es ih =>
    rw [splitSsid] at h
    split at h
    next hid =>
      obtain ⟨rfl, rfl, rfl⟩ : [] = pre ∧ x = e ∧ es = post := by simpa using h
      exact ⟨rfl, hid, fun x hx => absurd hx List.not_mem_nil⟩
    next hid =>
      obtain ⟨⟨pre', e', post'⟩, hsplit, heq⟩ := Option.map_eq_some_iff.mp h
      obtain ⟨rfl, rfl, rfl⟩ : x :: pre' = pre ∧ e' = e ∧ post' = post := by simpa using heq
      obtain ⟨rfl, hfound, hpre⟩ := ih hsplit
      exact ⟨rfl, hfound, List.forall_mem_cons.mpr ⟨hid, hpre⟩⟩

end

/-! ## The elements that are copied -/

/-- The element that is replaced, and those around it. -/
def replacedWps (a : ApConf) (behind : List UInt8) (es : List Tlv) : Option (List Tlv × Tlv × List Tlv) :=
  if a.wpsProbeRespIe then splitWps behind es else none

/-- What is copied around `wps_probe_resp_ie`, as far as `MAX_IE_SZ` allows it. -/
def copiedList (w : Tlv) (t : List Tlv × Tlv × List Tlv) : List Tlv :=
  t.1 ++ ((if _FIXED_IE_LENGTH_ + (encodeAll t.1).length + w.size ≤ MAX_IE_SZ then [w] else []) ++
    if _FIXED_IE_LENGTH_ + (encodeAll t.1).length + w.size + (encodeAll t.2.2).length ≤ MAX_IE_SZ then t.2.2 else [])

def probeList (a : ApConf) (behind : List UInt8) (w : Tlv) (es : List Tlv) : List Tlv :=
  (replacedWps a behind es).elim es (copiedList w)

/-- The elements with `wps_probe_resp_ie` in its place. -/
def probeUpdated (a : ApConf) (w : Tlv) (es : List Tlv) : Option (List Tlv) :=
  if a.wpsProbeRespIe then updateWps (fun _ => some w) es else some es

/-! ## The bytes that are moved -/

/-- Bytes that are overwritten at their end with the first `n` of an SSID. -/
def overrun (front old : List UInt8) (n : ℕ) : List UInt8 := front.take (front.length - n) ++ old.take n

/-- What the overwritten bytes are behind a header. -/
def overrunBody (front old : List UInt8) (n : ℕ) : List UInt8 :=
  front.take (front.length - n) ++ (old.take n).drop (n - front.length)

/-- How many bytes too low a shorter SSID moves what is behind it, less the length byte. -/
def excess (a : ApConf) (e : Tlv) : ℕ := e.body.length - a.ssid.length - 1

/-- The bytes behind the header once the SSID is restored. -/
def probeBytes (a : ApConf) (fixed : List UInt8) (es : List Tlv) : List UInt8 :=
  (splitSsid es).elim (fixed ++ encodeAll es) fun t =>
    overrunBody (fixed ++ encodeAll t.1 ++ [t.2.1.id]) t.2.1.body (excess a t.2.1) ++
      (UInt8.ofNat a.ssid.length :: a.ssid) ++ encodeAll t.2.2

section
variable {front old hdr : List UInt8} {n : ℕ}

theorem overrunBody_length (hn : n ≤ old.length) : (overrunBody front old n).length = front.length := by
  rw [overrunBody, List.length_append, List.length_take, List.length_drop, List.length_take]
  omega

theorem overrun_length (hn : n ≤ old.length) (hfront : n ≤ front.length) : (overrun front old n).length = front.length := by
  rw [overrun, List.length_append, List.length_take, List.length_take]
  omega

theorem drop_overrun (hfront : n ≤ hdr.length + front.length) :
    (overrun (hdr ++ front) old n).drop hdr.length = overrunBody front old n := by
  rw [overrun, overrunBody, List.drop_append, List.length_take, List.length_append]
  congr 1
  · rw [List.drop_take, List.drop_left]
    congr 1
    omega
  · congr 1
    omega

end

/-! ## One SSID -/

section
variable {a : ApConf} {fixed : List UInt8} {es pre post : List Tlv} {e w : Tlv}

theorem restored_encode (hid : e.id = _SSID_IE_) : (restored a e).encode = [e.id] ++ (UInt8.ofNat a.ssid.length :: a.ssid) := by
  have hbody : (restored a e).body = a.ssid := by simp [restored, hid]
  rw [encode, hbody]
  rfl

theorem excess_le (a : ApConf) (e : Tlv) : excess a e ≤ e.body.length := by
  rw [excess]
  omega

theorem probeBytes_split (hpre : ∀ x ∈ pre, x.id ≠ _SSID_IE_) (hid : e.id = _SSID_IE_) :
    probeBytes a fixed (pre ++ e :: post) = overrunBody (fixed ++ encodeAll pre ++ [e.id]) e.body (excess a e) ++
      (UInt8.ofNat a.ssid.length :: a.ssid) ++ encodeAll post := by
  rw [probeBytes, splitSsid_append hpre hid]
  rfl

theorem restored_split (hpre : ∀ x ∈ pre, x.id ≠ _SSID_IE_) (hid : e.id = _SSID_IE_) :
    fixed ++ encodeAll ((pre ++ e :: post).map (restored a)) =
      fixed ++ encodeAll pre ++ [e.id] ++ (UInt8.ofNat a.ssid.length :: a.ssid) ++ encodeAll (post.map (restored a)) := by
  rw [List.map_append, List.map_cons, map_restored_other hpre, encodeAll_append, encodeAll_cons, restored_encode hid]
  simp only [List.append_assoc]

section
variable (hothers : ∀ x ∈ pre ++ post, x.id ≠ _SSID_IE_) (hid : e.id = _SSID_IE_)
include hothers hid

theorem probeBytes_right : probeBytes a fixed (pre ++ e :: post) = fixed ++ encodeAll ((pre ++ e :: post).map (restored a)) ↔
    overrunBody (fixed ++ encodeAll pre ++ [e.id]) e.body (excess a e) = fixed ++ encodeAll pre ++ [e.id] := by
  have hpre : ∀ x ∈ pre, x.id ≠ _SSID_IE_ := fun x hx => hothers x (List.mem_append_left _ hx)
  have hpost : ∀ x ∈ post, x.id ≠ _SSID_IE_ := fun x hx => hothers x (List.mem_append_right _ hx)
  rw [probeBytes_split hpre hid, restored_split hpre hid, map_restored_other hpost, List.append_left_inj, List.append_left_inj]

theorem probeBytes_length :
    (probeBytes a fixed (pre ++ e :: post)).length = (fixed ++ encodeAll ((pre ++ e :: post).map (restored a))).length := by
  have hpre : ∀ x ∈ pre, x.id ≠ _SSID_IE_ := fun x hx => hothers x (List.mem_append_left _ hx)
  have hpost : ∀ x ∈ post, x.id ≠ _SSID_IE_ := fun x hx => hothers x (List.mem_append_right _ hx)
  rw [probeBytes_split hpre hid, restored_split hpre hid, map_restored_other hpost]
  simp only [List.length_append, overrunBody_length (excess_le a e)]

end

/-! ## Updates -/

theorem updateWps_length {f : Tlv → Option Tlv} {es' : List Tlv} (h : updateWps f es = some es') : es'.length = es.length := by
  induction es generalizing es' with
  | nil => rw [← Option.some.inj h]
  | cons x es ih =>
    rw [updateWps] at h
    split at h
    · obtain ⟨y, -, rfl⟩ := Option.map_eq_some_iff.mp h
      rfl
    · obtain ⟨l, hl, rfl⟩ := Option.map_eq_some_iff.mp h
      rw [List.length_cons, List.length_cons, ih hl]

theorem IsWps.size (h : IsWps e) : 6 ≤ e.size := Nat.add_le_add_right h.length 2

/-- At most six bytes less than `wps_probe_resp_ie` are added, also with the SSID restored. -/
theorem updateWps_size (hw : IsWps w) {es' : List Tlv} (h : updateWps (fun _ => some w) es = some es') :
    (encodeAll (es'.map (restored a))).length + 6 ≤ (encodeAll (es.map (restored a))).length + w.size := by
  induction es generalizing es' with
  | nil =>
    rw [← Option.some.inj h]
    exact Nat.add_le_add_left hw.size _
  | cons x es ih =>
    rw [updateWps] at h
    split at h
    next hx =>
      obtain ⟨y, hy, rfl⟩ := Option.map_eq_some_iff.mp h
      obtain rfl := Option.some.inj hy
      have hsize := hx.size
      rw [List.map_cons, List.map_cons, restored_other (vendor_ne_ssid hw.id), restored_other (vendor_ne_ssid hx.id), encodeAll_cons,
        encodeAll_cons, List.length_append, List.length_append, encode_length, encode_length]
      omega
    next hx =>
      obtain ⟨l, hl, rfl⟩ := Option.map_eq_some_iff.mp h
      have hrest := ih hl
      rw [List.map_cons, List.map_cons, encodeAll_cons, encodeAll_cons, List.length_append, List.length_append]
      omega

theorem updateWps_some (w : Tlv) (es : List Tlv) : ∃ l, updateWps (fun _ => some w) es = some l := by
  induction es with
  | nil => exact ⟨[], rfl⟩
  | cons x es ih =>
    obtain ⟨l, hl⟩ := ih
    rw [updateWps, hl]
    split
    · exact ⟨w :: es, rfl⟩
    · exact ⟨x :: l, rfl⟩

theorem around {x : Tlv} {p q : List Tlv} (h : pre ++ e :: post = p ++ x :: q) (hne : e ≠ x) :
    (∃ l, pre = p ++ x :: l ∧ q = l ++ e :: post) ∨ ∃ l, post = l ++ x :: q ∧ p = pre ++ e :: l := by
  rcases List.append_eq_append_iff.mp h with ⟨l, hp, hl⟩ | ⟨l, hpre, hl⟩
  · cases l with
    | nil => exact absurd (List.cons.inj hl).1 hne
    | cons y l =>
      obtain ⟨rfl, rfl⟩ := List.cons.inj hl
      exact .inr ⟨l, rfl, hp⟩
  · cases l with
    | nil => exact absurd (List.cons.inj hl).1.symm hne
    | cons y l =>
      obtain ⟨rfl, rfl⟩ := List.cons.inj hl
      exact .inl ⟨l, hpre, rfl⟩

end

/-! ## The elements of a probe response -/

section
variable {a : ApConf} {fixed behind : List UInt8} {es pre post p q : List Tlv} {e x w : Tlv}

theorem copiedList_fits (h : _FIXED_IE_LENGTH_ + (encodeAll pre).length + w.size + (encodeAll post).length ≤ MAX_IE_SZ) :
    copiedList w (pre, e, post) = pre ++ w :: post := by
  rw [copiedList, if_pos (show _FIXED_IE_LENGTH_ + (encodeAll pre).length + w.size ≤ MAX_IE_SZ by omega), if_pos h]
  rfl

/-- The element that should be there, and those behind it. -/
structure Updated (w e : Tlv) (post : List Tlv) (h : Tlv) (rest : List Tlv) : Prop where
  wps : IsWps e → h = w ∧ rest = post
  other : ¬IsWps e → h = e ∧ updateWps (fun _ => some w) post = some rest

theorem Updated.id (hw : IsWps w) (he : e.id = _VENDOR_SPECIFIC_IE_) {h : Tlv} {rest : List Tlv} (hup : Updated w e post h rest) :
    h.id = _VENDOR_SPECIFIC_IE_ := by
  by_cases hwps : IsWps e
  · rw [(hup.wps hwps).1, hw.id]
  · rw [(hup.other hwps).1, he]

section
variable {h : Tlv} {rest : List Tlv} (hw : IsWps w) (hup : Updated w e post h rest) (he : e.id = _VENDOR_SPECIFIC_IE_)
  (hid : x.id = _SSID_IE_)
include hw hup he hid

/-- A copy that leaves something out, or is around another element, gives other bytes: the SSID is in front. -/
theorem not_probe_before (hp : ∀ y ∈ p, y.id ≠ _SSID_IE_) (hq : ∀ y ∈ q, y.id ≠ _SSID_IE_)
    (hnot : ¬(IsWps e ∧ _FIXED_IE_LENGTH_ + (encodeAll (p ++ x :: q)).length + w.size + (encodeAll post).length ≤ MAX_IE_SZ)) :
    probeBytes a fixed (copiedList w (p ++ x :: q, e, post)) ≠
      fixed ++ encodeAll ((p ++ x :: q ++ h :: rest).map (restored a)) := by
  intro heq
  have hassoc : ∀ l : List Tlv, p ++ x :: q ++ l = p ++ x :: (q ++ l) := fun l => by
    rw [List.append_assoc, List.cons_append]
  rw [copiedList, hassoc, hassoc, probeBytes_split hp hid, restored_split hp hid] at heq
  -- the elements behind the SSID are the same
  have htail := (List.append_inj heq (by
    rw [List.length_append, List.length_append, overrunBody_length (excess_le a x)])).2
  have hlist := encodeAll_injective htail
  rw [List.map_append, map_restored_other hq, List.map_cons, restored_other (vendor_ne_ssid (hup.id hw he))] at hlist
  have hcopied := List.append_cancel_left hlist
  by_cases hone : _FIXED_IE_LENGTH_ + (encodeAll (p ++ x :: q)).length + w.size ≤ MAX_IE_SZ
  · rw [if_pos hone, List.singleton_append] at hcopied
    obtain ⟨hhead, hrest⟩ := List.cons.inj hcopied
    by_cases hwps : IsWps e
    · obtain ⟨-, rfl⟩ := hup.wps hwps
      by_cases hall : _FIXED_IE_LENGTH_ + (encodeAll (p ++ x :: q)).length + w.size + (encodeAll rest).length ≤ MAX_IE_SZ
      · exact hnot ⟨hwps, hall⟩
      · rw [if_neg hall] at hrest
        rw [List.map_eq_nil_iff.mp hrest.symm] at hall
        exact hall hone
    · rw [(hup.other hwps).1] at hhead
      exact hwps (hhead ▸ hw)
  · have hall : ¬_FIXED_IE_LENGTH_ + (encodeAll (p ++ x :: q)).length + w.size + (encodeAll post).length ≤ MAX_IE_SZ :=
      fun hall => hone (le_trans (Nat.le_add_right _ _) hall)
    rw [if_neg hone, if_neg hall] at hcopied
    cases hcopied

theorem not_probe_behind (hlooks : LooksLike _VENDOR_SPECIFIC_IE_ (some wpsOui) e behind)
    (hpre : ∀ y ∈ pre, y.id ≠ _SSID_IE_) (hpost : post = p ++ x :: q) (hothers : ∀ y ∈ p ++ q, y.id ≠ _SSID_IE_)
    (hnot : ¬(IsWps e ∧ _FIXED_IE_LENGTH_ + (encodeAll pre).length + w.size + (encodeAll post).length ≤ MAX_IE_SZ)) :
    probeBytes a fixed (copiedList w (pre, e, post)) ≠ fixed ++ encodeAll ((pre ++ h :: rest).map (restored a)) := by
  intro heq
  by_cases hall : _FIXED_IE_LENGTH_ + (encodeAll pre).length + w.size + (encodeAll post).length ≤ MAX_IE_SZ
  · -- another element is taken for WPS: there are too many bytes
    have hwps : ¬IsWps e := fun hwps => hnot ⟨hwps, hall⟩
    obtain ⟨rfl, hrest⟩ := hup.other hwps
    have hshort := short_of_looks hlooks hwps
    have hmore := updateWps_size (a := a) hw hrest
    have hsplit : pre ++ w :: post = (pre ++ w :: p) ++ x :: q := by rw [hpost, List.append_assoc, List.cons_append]
    have hlength := @probeBytes_length a fixed (pre ++ w :: p) q x
      (by
        intro y hy
        rw [List.append_assoc, List.cons_append] at hy
        rcases List.mem_append.mp hy with hy | hy
        · exact hpre y hy
        · rcases List.mem_cons.mp hy with rfl | hy
          · exact vendor_ne_ssid hw.id
          · exact hothers y hy) hid
    rw [copiedList_fits hall, hsplit] at heq
    rw [heq, ← hsplit] at hlength
    have hsizeW : w.size = w.body.length + 2 := rfl
    have hsizeE : h.size = h.body.length + 2 := rfl
    simp only [List.map_append, List.map_cons, encodeAll_append, encodeAll_cons, List.length_append, encode_length,
      restored_other (vendor_ne_ssid hw.id), restored_other (vendor_ne_ssid he)] at hlength
    omega
  · -- the SSID is left out
    have hcopied : copiedList w (pre, e, post) =
        pre ++ if _FIXED_IE_LENGTH_ + (encodeAll pre).length + w.size ≤ MAX_IE_SZ then [w] else [] := by
      rw [copiedList, if_neg hall, List.append_nil]
    have hnone : splitSsid (copiedList w (pre, e, post)) = none := by
      refine splitSsid_none_iff.mpr fun y hy => ?_
      rw [hcopied] at hy
      rcases List.mem_append.mp hy with hy | hy
      · exact hpre y hy
      · split at hy
        · rw [List.mem_singleton.mp hy]
          exact vendor_ne_ssid hw.id
        · exact absurd hy List.not_mem_nil
    rw [probeBytes, hnone] at heq
    have hlist := congrArg List.length (encodeAll_injective (List.append_cancel_left heq))
    have hrest : rest.length = post.length := by
      by_cases hwps : IsWps e
      · rw [(hup.wps hwps).2]
      · exact updateWps_length (hup.other hwps).2
    have hone : (if _FIXED_IE_LENGTH_ + (encodeAll pre).length + w.size ≤ MAX_IE_SZ then [w] else []).length ≤ 1 := by
      split
      · exact le_rfl
      · exact Nat.zero_le 1
    rw [hcopied, List.length_map, List.length_append, List.length_append, List.length_cons, hrest, hpost, List.length_append,
      List.length_cons] at hlist
    omega

end

/-- `wps_probe_resp_ie` goes in place of an element for WPS, and there is room for all; and the bytes that the shorter SSID makes
of those in front of it are the same. -/
structure ProbeMeets (a : ApConf) (fixed behind : List UInt8) (w : Tlv) (es : List Tlv) : Prop where
  wps : ∀ pre e post, replacedWps a behind es = some (pre, e, post) →
    IsWps e ∧ _FIXED_IE_LENGTH_ + (encodeAll pre).length + w.size + (encodeAll post).length ≤ MAX_IE_SZ
  ssid : ∀ l, probeUpdated a w es = some l → ∀ pre e post, splitSsid l = some (pre, e, post) →
    overrunBody (fixed ++ encodeAll pre ++ [e.id]) e.body (excess a e) = fixed ++ encodeAll pre ++ [e.id]

theorem probeBytes_split_iff (hothers : ∀ y ∈ p ++ q, y.id ≠ _SSID_IE_) (hid : x.id = _SSID_IE_) :
    probeBytes a fixed (p ++ x :: q) = fixed ++ encodeAll ((p ++ x :: q).map (restored a)) ↔
      ∀ pre e post, splitSsid (p ++ x :: q) = some (pre, e, post) →
        overrunBody (fixed ++ encodeAll pre ++ [e.id]) e.body (excess a e) = fixed ++ encodeAll pre ++ [e.id] := by
  rw [probeBytes_right hothers hid, splitSsid_append (fun y hy => hothers y (List.mem_append_left _ hy)) hid]
  constructor
  · intro h pre e post heq
    obtain ⟨rfl, rfl, -⟩ : p = pre ∧ x = e ∧ q = post := by simpa using heq
    exact h
  · exact fun h => h p x q rfl

theorem probe_iff (hw : a.wpsProbeRespIe = true → IsWps w) (hes : es = p ++ x :: q) (hothers : ∀ y ∈ p ++ q, y.id ≠ _SSID_IE_)
    (hid : x.id = _SSID_IE_) :
    (∃ l, probeElements a w es = some l ∧ probeBytes a fixed (probeList a behind w es) = fixed ++ encodeAll l) ↔
      ProbeMeets a fixed behind w es := by
  have hmap : probeElements a w es = (probeUpdated a w es).map fun l => l.map (restored a) := rfl
  have hp : ∀ y ∈ p, y.id ≠ _SSID_IE_ := fun y hy => hothers y (List.mem_append_left _ hy)
  have hq : ∀ y ∈ q, y.id ≠ _SSID_IE_ := fun y hy => hothers y (List.mem_append_right _ hy)
  -- with the right list all depends on the bytes that are moved
  have hright : ∀ l p' q', probeUpdated a w es = some l → probeList a behind w es = l → l = p' ++ x :: q' →
      (∀ y ∈ p' ++ q', y.id ≠ _SSID_IE_) → (∀ pre e post, replacedWps a behind es = some (pre, e, post) →
        IsWps e ∧ _FIXED_IE_LENGTH_ + (encodeAll pre).length + w.size + (encodeAll post).length ≤ MAX_IE_SZ) →
      ((∃ l, probeElements a w es = some l ∧ probeBytes a fixed (probeList a behind w es) = fixed ++ encodeAll l) ↔
        ProbeMeets a fixed behind w es) := by
    intro l p' q' hup hlist hsplit hother hwps
    have hiff := @probeBytes_split_iff a fixed p' q' x hother hid
    rw [← hsplit] at hiff
    rw [hmap, hup, hlist, Option.map_some]
    constructor
    · rintro ⟨out, hout, hbytes⟩
      obtain rfl := Option.some.inj hout
      refine ⟨hwps, fun l' hl' => ?_⟩
      obtain rfl := Option.some.inj (hup.symm.trans hl')
      exact hiff.mp hbytes
    · exact fun h => ⟨_, rfl, hiff.mpr (h.ssid l hup)⟩
  cases htaken : replacedWps a behind es with
  | none =>
    refine hright es p q ?_ ?_ hes hothers fun pre e post h => absurd (htaken.symm.trans h).symm (Option.some_ne_none _)
    · rw [replacedWps] at htaken
      rw [probeUpdated]
      split
      next hstored =>
        rw [if_pos hstored] at htaken
        exact updateWps_none (splitWps_none htaken)
      · rfl
    · rw [probeList, htaken]
      rfl
  | some found =>
    obtain ⟨pre, e, post⟩ := found
    have hstored : a.wpsProbeRespIe = true := by
      by_contra hnot
      rw [replacedWps, if_neg hnot] at htaken
      cases htaken
    have hw := hw hstored
    have hsplit := htaken
    rw [replacedWps, if_pos hstored] at hsplit
    obtain ⟨hes', hlooks, hpre⟩ := splitWps_some hsplit
    have hside := around (hes'.symm.trans hes) fun h => vendor_ne_ssid hlooks.1 (h ▸ hid)
    have hlist : probeList a behind w es = copiedList w (pre, e, post) := by
      rw [probeList, htaken]
      rfl
    by_cases hmeets : IsWps e ∧ _FIXED_IE_LENGTH_ + (encodeAll pre).length + w.size + (encodeAll post).length ≤ MAX_IE_SZ
    · have hup : probeUpdated a w es = some (pre ++ w :: post) := by
        rw [probeUpdated, if_pos hstored, hes', updateWps_found hpre hmeets.1]
        rfl
      have hlist := hlist.trans (copiedList_fits hmeets.2)
      have hwps : ∀ pre' e' post', replacedWps a behind es = some (pre', e', post') →
          IsWps e' ∧ _FIXED_IE_LENGTH_ + (encodeAll pre').length + w.size + (encodeAll post').length ≤ MAX_IE_SZ := by
        intro pre' e' post' h
        obtain ⟨rfl, rfl, rfl⟩ : pre = pre' ∧ e = e' ∧ post = post' := by simpa using htaken.symm.trans h
        exact hmeets
      have hswap : ∀ y : Tlv, (y ≠ w → y.id ≠ _SSID_IE_) → y.id ≠ _SSID_IE_ := by
        intro y hy
        by_cases hyw : y = w
        · rw [hyw]
          exact vendor_ne_ssid hw.id
        · exact hy hyw
      rcases hside with ⟨l, rfl, rfl⟩ | ⟨l, rfl, rfl⟩
      · refine hright _ p (l ++ w :: post) hup hlist (by rw [List.append_assoc, List.cons_append]) (fun y hy => ?_) hwps
        exact hswap y (fun h => hothers y (by simp only [List.mem_append, List.mem_cons] at hy h ⊢; tauto))
      · refine hright _ (pre ++ w :: l) q hup hlist (by rw [List.append_assoc, List.cons_append]) (fun y hy => ?_) hwps
        exact hswap y (fun h => hothers y (by simp only [List.mem_append, List.mem_cons] at hy h ⊢; tauto))
    · obtain ⟨h, rest, hup, hchanged⟩ : ∃ h rest, Updated w e post h rest ∧ probeUpdated a w es = some (pre ++ h :: rest) := by
        rw [probeUpdated, if_pos hstored, hes']
        by_cases hwps : IsWps e
        · exact ⟨w, post, ⟨fun _ => ⟨rfl, rfl⟩, fun hnot => absurd hwps hnot⟩, updateWps_found hpre hwps⟩
        · obtain ⟨rest, hrest⟩ := updateWps_some w post
          refine ⟨e, rest, ⟨fun h => absurd h hwps, fun _ => ⟨rfl, hrest⟩⟩, ?_⟩
          rw [updateWps_missed hpre hwps, hrest]
          rfl
      refine iff_of_false ?_ fun h => hmeets (h.wps pre e post htaken)
      rintro ⟨out, hout, hbytes⟩
      rw [hmap, hchanged, Option.map_some] at hout
      obtain rfl := Option.some.inj hout
      rw [hlist] at hbytes
      rcases hside with ⟨l, rfl, rfl⟩ | ⟨l, rfl, rfl⟩
      · exact not_probe_before hw hup hlooks.1 hid hp (fun y hy => hq y (List.mem_append_left _ hy)) hmeets hbytes
      · refine not_probe_behind hw hup hlooks.1 hid hlooks (fun y hy => hp y (List.mem_append_left _ hy)) rfl (fun y hy => ?_) hmeets
          hbytes
        exact hothers y (by simp only [List.mem_append, List.mem_cons] at hy ⊢; tauto)

end

end ApFrame

end Rtl8723au
