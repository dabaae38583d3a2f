import Rtl8723au.Ieee80211.ElementsAt
import Rtl8723au.Ieee80211.GetIe

/-! `rtw_set_ie` of `core/rtw_ieee80211.c` writes elements one behind the other; what the searches find in what it has
written. The search for a WPA element compares six bytes of a body, also of a shorter one. -/
namespace Rtl8723au.Ieee80211
open Mem Security AccessM
set_option autoImplicit false

/-- `rtw_set_ie`: the buffer, the pointer behind the element and `frlen`, in 32 bits. -/
def rtwSetIe (m : Mem) (pbuf : ℤ) (index : UInt8) (source : List UInt8) (frlen : ℕ) : Mem × ℤ × ℕ :=
  (putBytes m pbuf (index :: UInt8.ofNat source.length :: source), pbuf + source.length + 2,
    (frlen + (source.length + 2)) % 2 ^ 32)

/-- Elements written one after the other, from a length of zero on. -/
def setAll (m : Mem) (pbuf : ℤ) (es : List Tlv) : Mem × ℤ × ℕ :=
  es.foldl (fun s e => rtwSetIe s.1 s.2.1 e.id e.body s.2.2) (m, pbuf, 0)

/-- A length of 32 bits as an `int`. -/
def asInt (n : ℕ) : ℤ := if n < 2 ^ 31 then n else n - 2 ^ 32

theorem setAll_concat (m : Mem) (pbuf : ℤ) (es : List Tlv) (e : Tlv) : setAll m pbuf (es ++ [e]) =
    rtwSetIe (setAll m pbuf es).1 (setAll m pbuf es).2.1 e.id e.body (setAll m pbuf es).2.2 :=
  List.foldl_concat _ _ _ _

theorem setAll_eq (m : Mem) (pbuf : ℤ) (es : List Tlv) : setAll m pbuf es =
    (putBytes m pbuf (Tlv.encodeAll es), pbuf + (Tlv.encodeAll es).length, (Tlv.encodeAll es).length % 2 ^ 32) := by
  induction es using List.reverseRecOn with
  | nil =>
    rw [Tlv.encodeAll_nil, putBytes_nil, List.length_nil, Nat.cast_zero, add_zero]
    rfl
  | append_singleton es e ih =>
    have hone : Tlv.encodeAll [e] = e.id :: UInt8.ofNat e.body.length :: e.body := by
      rw [Tlv.encodeAll_cons, Tlv.encodeAll_nil, List.append_nil]
      rfl
    rw [setAll_concat, ih, rtwSetIe, Tlv.encodeAll_append, ← putBytes_append, hone, List.length_append,
      List.length_cons, List.length_cons, Nat.mod_add_mod]
    push_cast
    simp only [Prod.mk.injEq, true_and]
    exact ⟨by ring, trivial⟩

/-! ## The first element of a kind -/

/-- The first element of a kind with its offset. -/
def firstAt (p : Tlv → Bool) : List Tlv → ℕ → Option (ℕ × Tlv)
  | [], _ => none
  | e :: es, k => if p e then some (k, e) else firstAt p es (k + e.size)

section
variable {p : Tlv → Bool}

theorem firstAt_none {es : List Tlv} (h : ∀ x ∈ es, ¬ p x = true) (k : ℕ) : firstAt p es k = none := by
  induction es generalizing k with
  | nil => rfl
  | cons e es ih =>
    rw [firstAt, if_neg (h e List.mem_cons_self)]
    exact ih (fun x hx => h x (List.mem_cons_of_mem e hx)) _

theorem firstAt_append {pre : List Tlv} (es : List Tlv) (h : ∀ x ∈ pre, ¬ p x = true) (k : ℕ) :
    firstAt p (pre ++ es) k = firstAt p es (k + (Tlv.encodeAll pre).length) := by
  induction pre generalizing k with
  | nil => rfl
  | cons e pre ih =>
    rw [List.cons_append, firstAt, if_neg (h e List.mem_cons_self), ih (fun x hx => h x (List.mem_cons_of_mem e hx)),
      Tlv.encodeAll_cons, List.length_append, Tlv.encode_length, Nat.add_assoc]

theorem exists_first (p : Tlv → Bool) (es : List Tlv) : (∀ x ∈ es, ¬ p x = true) ∨
    ∃ pre e post, es = pre ++ e :: post ∧ p e = true ∧ ∀ x ∈ pre, ¬ p x = true := by
  induction es with
  | nil => exact .inl fun x hx => absurd hx List.not_mem_nil
  | cons e es ih =>
    by_cases he : p e = true
    · exact .inr ⟨[], e, es, rfl, he, fun x hx => absurd hx List.not_mem_nil⟩
    · rcases ih with hnone | ⟨pre, e', post, rfl, he', hpre⟩
      · refine .inl fun x hx => ?_
        rcases List.mem_cons.mp hx with rfl | hx
        · exact he
        · exact hnone x hx
      · refine .inr ⟨e :: pre, e', post, rfl, he', fun x hx => ?_⟩
        rcases List.mem_cons.mp hx with rfl | hx
        · exact he
        · exact hpre x hx

end

/-- What a search returns is the expected element: its offset, its length, and its body behind them. -/
def Answers (m : Mem) (pbuf : ℤ) (val : Option (ℤ × ℕ)) : Option (ℕ × Tlv) → Prop
  | none => val = none
  | some (k, e) => val = some (pbuf + k, e.body.length) ∧ bytesAt m (pbuf + k + 2) e.body.length = e.body

section
variable {m : Mem} {pbuf : ℤ}

theorem body_at {e : Tlv} {es : List Tlv} {p : ℤ}
    (h : bytesAt m p (Tlv.encodeAll (e :: es)).length = Tlv.encodeAll (e :: es)) :
    bytesAt m (p + 2) e.body.length = e.body := by
  obtain ⟨he, -, -⟩ := encoding_cons.mp h
  have hlen : e.body.length = (m (p + 1)).toNat := (congrArg (fun t => t.body.length) he).trans tlvAt_body_length
  rw [hlen]
  exact (congrArg Tlv.body he).symm

theorem encoding_behind {pre es : List Tlv}
    (h : bytesAt m pbuf (Tlv.encodeAll (pre ++ es)).length = Tlv.encodeAll (pre ++ es)) :
    bytesAt m (pbuf + (Tlv.encodeAll pre).length) (Tlv.encodeAll es).length = Tlv.encodeAll es := by
  rw [Tlv.encodeAll_append] at h
  exact (bytesAt_eq_append.mp h).2.2

/-- `rtw_get_ie` finds the first element of the name. -/
theorem answers_rtwGetIe {es : List Tlv} (h : bytesAt m pbuf (Tlv.encodeAll es).length = Tlv.encodeAll es)
    (index : UInt8) :
    Answers m pbuf ((rtwGetIe pbuf index (Tlv.encodeAll es).length).run m).val
      (firstAt (fun e => e.id = index) es 0) := by
  rcases exists_first (fun e => e.id = index) es with hnone | ⟨pre, e, post, hes, he, hpre⟩
  · rw [firstAt_none hnone]
    exact rtwGetIe_none h fun x hx hid => hnone x hx (decide_eq_true hid)
  · have hid : e.id = index := of_decide_eq_true he
    have hfound := rtwGetIe_found h hes fun x hx hid' => hpre x hx (decide_eq_true (hid'.trans hid))
    rw [hid] at hfound
    rw [hes, firstAt_append _ hpre, firstAt, if_pos he, Nat.zero_add, ← hes, hfound]
    exact ⟨rfl, body_at (encoding_behind (hes ▸ h))⟩

theorem length_byte {q : Tlv → Bool} {es : List Tlv} {k k' : ℕ} {e : Tlv}
    (h : bytesAt m (pbuf + k) (Tlv.encodeAll es).length = Tlv.encodeAll es) (hfirst : firstAt q es k = some (k', e)) :
    (m (pbuf + k' + 1)).toNat = e.body.length := by
  induction es generalizing k with
  | nil => cases hfirst
  | cons x es ih =>
    obtain ⟨-, hlen, hrest⟩ := encode_at h
    rw [firstAt] at hfirst
    split at hfirst
    · obtain ⟨rfl, rfl⟩ := Prod.mk.inj (Option.some.inj hfirst)
      exact hlen
    · have hplace : pbuf + (k : ℤ) + x.size = pbuf + (k + x.size : ℕ) := by
        push_cast
        ring
      rw [hplace] at hrest
      exact ih hrest hfirst

/-! ## The search for a WPA element -/

/-- What the search looks for: the vendor with the type, and the version. -/
def wpaStart : List UInt8 := wpaOuiType ++ [0x01, 0x00]

def isWpa (e : Tlv) : Bool := e.id = _VENDOR_SPECIFIC_IE_ && wpaStart.isPrefixOf e.body

/-- The six bytes behind the length of the element at an address are those of a WPA element. -/
def LooksWpa (m : Mem) (p : ℤ) : Prop := bytesAt m (p + 2) 4 = wpaOuiType ∧ bytesAt m (p + 6) 2 = [0x01, 0x00]

instance (m : Mem) (p : ℤ) : Decidable (LooksWpa m p) := inferInstanceAs (Decidable (_ ∧ _))

theorem looksWpa_iff (p : ℤ) : LooksWpa m p ↔ bytesAt m (p + 2) 6 = wpaStart := by
  rw [wpaStart, bytesAt_eq_append]
  have hplace : p + 2 + (wpaOuiType.length : ℕ) = p + 6 := by
    change p + 2 + (4 : ℕ) = p + 6
    push_cast
    ring
  rw [hplace]
  exact (and_iff_right rfl).symm

theorem checkWpaIe_val (p : ℤ) (next : M (Option (ℤ × ℕ))) : ((checkWpaIe p next).run m).val =
    if LooksWpa m p then some (p, (m (p + 1)).toNat) else (next.run m).val := by
  unfold checkWpaIe
  rw [bind_val, peekList_st, peekList_val, ite_run, apply_ite Outcome.val]
  by_cases houi : bytesAt m (p + 2) 4 = wpaOuiType
  · have houi' : ¬ (List.range 4).map (fun k : ℕ => whole.get m (p + 2 + k)) ≠ wpaOuiType := not_not.mpr houi
    rw [if_neg houi', bind_val, peekList_st, peekList_val, ite_run, apply_ite Outcome.val]
    by_cases hver : bytesAt m (p + 6) 2 = [0x01, 0x00]
    · have hver' : ¬ (List.range 2).map (fun k : ℕ => whole.get m (p + 6 + k)) ≠ [0x01, 0x00] := not_not.mpr hver
      have hlooks : LooksWpa m p := ⟨houi, hver⟩
      rw [if_neg hver', if_pos hlooks]
      rfl
    · have hver' : (List.range 2).map (fun k : ℕ => whole.get m (p + 6 + k)) ≠ [0x01, 0x00] := hver
      have hlooks : ¬ LooksWpa m p := fun h => hver h.2
      rw [if_pos hver', if_neg hlooks]
  · have houi' : (List.range 4).map (fun k : ℕ => whole.get m (p + 2 + k)) ≠ wpaOuiType := houi
    have hlooks : ¬ LooksWpa m p := fun h => houi h.1
    rw [if_pos houi', if_neg hlooks]

/-- The first vendor's element that looks like a WPA element where it stands. -/
def firstLooking (m : Mem) : ℤ → List Tlv → Option (ℤ × ℕ)
  | _, [] => none
  | p, e :: es =>
    if e.id = _VENDOR_SPECIFIC_IE_ ∧ LooksWpa m p then some (p, e.body.length) else firstLooking m (p + e.size) es

theorem firstLooking_append {pre : List Tlv} (es : List Tlv) (p : ℤ) (h : ∀ x ∈ pre, x.id ≠ _VENDOR_SPECIFIC_IE_) :
    firstLooking m p (pre ++ es) = firstLooking m (p + (Tlv.encodeAll pre).length) es := by
  induction pre generalizing p with
  | nil => rw [List.nil_append, Tlv.encodeAll_nil, List.length_nil, Nat.cast_zero, add_zero]
  | cons e pre ih =>
    rw [List.cons_append, firstLooking, if_neg fun hlooks => h e List.mem_cons_self hlooks.1,
      ih _ fun x hx => h x (List.mem_cons_of_mem e hx), Tlv.encodeAll_cons, List.length_append, Tlv.encode_length]
    push_cast
    rw [add_assoc]

/-- The loop of `rtw_get_wpa_ie` over the elements that are left. -/
theorem rtwGetWpaIeLoop_val {pie : ℤ} {limit : ℕ} (fuel : ℕ) (es : List Tlv) (p : ℤ) (hne : es ≠ [])
    (hfuel : es.length ≤ fuel) (hend : p + (Tlv.encodeAll es).length = pie + limit)
    (h : bytesAt m p (Tlv.encodeAll es).length = Tlv.encodeAll es) :
    ((rtwGetWpaIeLoop pie limit fuel p (Tlv.encodeAll es).length).run m).val = firstLooking m p es := by
  induction fuel generalizing es p with
  | zero => exact absurd (List.eq_nil_of_length_eq_zero (Nat.le_zero.mp hfuel)) hne
  | succ fuel ih =>
    rw [rtwGetWpaIeLoop, bind_val, rtwGetIe_st]
    rcases exists_first (fun e => e.id = _VENDOR_SPECIFIC_IE_) es with hnone | ⟨pre, e, post, rfl, he, hpre⟩
    · have hnone' : ∀ x ∈ es, x.id ≠ _VENDOR_SPECIFIC_IE_ := fun x hx hid => hnone x hx (decide_eq_true hid)
      have hall := firstLooking_append (m := m) [] p hnone'
      rw [List.append_nil] at hall
      rw [rtwGetIe_none h hnone', hall]
      rfl
    · have hid : e.id = _VENDOR_SPECIFIC_IE_ := of_decide_eq_true he
      have hpre' : ∀ x ∈ pre, x.id ≠ _VENDOR_SPECIFIC_IE_ := fun x hx hid' => hpre x hx (decide_eq_true hid')
      have hfound := rtwGetIe_found h rfl fun x hx hid' => hpre' x hx (hid'.trans hid)
      rw [hid] at hfound
      have hhere := encoding_behind h
      obtain ⟨-, hlen, hrest⟩ := encode_at hhere
      have hlimit : (limit : ℤ) - (p + (Tlv.encodeAll pre).length - pie) - 2 - e.body.length =
          (Tlv.encodeAll post).length := by
        rw [Tlv.encodeAll_append, Tlv.encodeAll_cons, List.length_append, List.length_append, Tlv.encode_length,
          Tlv.size] at hend
        push_cast at hend
        omega
      have hplace : p + (Tlv.encodeAll pre).length + (2 + (e.body.length : ℤ)) =
          p + (Tlv.encodeAll pre).length + e.size := by
        rw [Tlv.size]
        push_cast
        ring
      rw [hfound, firstLooking_append _ _ hpre', firstLooking]
      dsimp only
      rw [checkWpaIe_val, hlimit, hplace, hlen]
      by_cases hlooks : LooksWpa m (p + (Tlv.encodeAll pre).length)
      · rw [if_pos hlooks, if_pos ⟨hid, hlooks⟩]
      · have hnot : ¬ (e.id = _VENDOR_SPECIFIC_IE_ ∧ LooksWpa m (p + (Tlv.encodeAll pre).length)) := fun h =>
          hlooks h.2
        rw [if_neg hlooks, if_neg hnot, ite_run, apply_ite Outcome.val]
        cases post with
        | nil =>
          rw [if_pos (by rw [Tlv.encodeAll_nil, List.length_nil]; exact le_rfl)]
          rfl
        | cons x post =>
          have hpos : ¬ ((Tlv.encodeAll (x :: post)).length : ℤ) ≤ 0 := by
            rw [Tlv.encodeAll_cons, List.length_append, Tlv.encode_length, Tlv.size]
            push_cast
            omega
          rw [if_neg hpos]
          refine ih (x :: post) _ (List.cons_ne_nil _ _) ?_ ?_ hrest
          · rw [List.length_append, List.length_cons] at hfuel
            omega
          · rw [Tlv.size]
            push_cast
            omega

theorem rtwGetWpaIe_val {pie : ℤ} {es : List Tlv}
    (h : bytesAt m pie (Tlv.encodeAll es).length = Tlv.encodeAll es) :
    ((rtwGetWpaIe pie (Tlv.encodeAll es).length).run m).val = firstLooking m pie es := by
  rw [rtwGetWpaIe, Int.toNat_natCast]
  cases es with
  | nil => rfl
  | cons e es =>
    have hcount := length_le_encodeAll (e :: es)
    exact rtwGetWpaIeLoop_val _ (e :: es) pie (List.cons_ne_nil _ _) (by omega) rfl h

/-! ## When the two agree -/

/-- Before the first WPA element no vendor's element looks like one with the bytes that follow it. -/
def NoneLooksWpa (behind : List UInt8) : List Tlv → Prop
  | [] => True
  | e :: es => isWpa e = true ∨
      ¬ (e.id = _VENDOR_SPECIFIC_IE_ ∧ wpaStart <+: e.body ++ (Tlv.encodeAll es ++ behind)) ∧ NoneLooksWpa behind es

theorem isWpa_iff (e : Tlv) : isWpa e = true ↔ e.id = _VENDOR_SPECIFIC_IE_ ∧ wpaStart <+: e.body := by
  rw [isWpa, Bool.and_eq_true, decide_eq_true_iff, List.isPrefixOf_iff_prefix]

theorem looksWpa_at {e : Tlv} {es : List Tlv} {behind : List UInt8} {p : ℤ} (hbehind : 6 ≤ behind.length)
    (h : bytesAt m p (Tlv.encodeAll (e :: es) ++ behind).length = Tlv.encodeAll (e :: es) ++ behind) :
    LooksWpa m p ↔ wpaStart <+: e.body ++ (Tlv.encodeAll es ++ behind) := by
  have hsplit : Tlv.encodeAll (e :: es) ++ behind =
      [e.id, UInt8.ofNat e.body.length] ++ (e.body ++ (Tlv.encodeAll es ++ behind)) := by
    rw [Tlv.encodeAll_cons, List.append_assoc]
    rfl
  rw [hsplit] at h
  have hbody := (bytesAt_eq_append.mp h).2.2
  have hsix : wpaStart.length ≤ (e.body ++ (Tlv.encodeAll es ++ behind)).length := by
    rw [List.length_append, List.length_append]
    exact Nat.le_trans hbehind (by omega)
  rw [looksWpa_iff]
  exact bytesAt_eq_iff_prefix hbody hsix

theorem le_of_firstAt {q : Tlv → Bool} {es : List Tlv} {k k' : ℕ} {e : Tlv} (h : firstAt q es k = some (k', e)) :
    k ≤ k' := by
  induction es generalizing k with
  | nil => cases h
  | cons x es ih =>
    rw [firstAt] at h
    split at h
    · obtain ⟨rfl, -⟩ := Prod.mk.inj (Option.some.inj h)
      exact Nat.le_refl k
    · exact Nat.le_trans (Nat.le_add_right k x.size) (ih h)

theorem answers_firstLooking_iff (es : List Tlv) (behind : List UInt8) (hbehind : 6 ≤ behind.length) (k : ℕ)
    (h : bytesAt m (pbuf + k) (Tlv.encodeAll es ++ behind).length = Tlv.encodeAll es ++ behind) :
    Answers m pbuf (firstLooking m (pbuf + k) es) (firstAt isWpa es k) ↔ NoneLooksWpa behind es := by
  induction es generalizing k with
  | nil => exact iff_of_true rfl trivial
  | cons e es ih =>
    have hlooks := looksWpa_at hbehind h
    have hhead : bytesAt m (pbuf + k) (Tlv.encodeAll (e :: es)).length = Tlv.encodeAll (e :: es) :=
      (bytesAt_eq_append.mp h).2.1
    have htail : bytesAt m (pbuf + (k + e.size : ℕ)) (Tlv.encodeAll es ++ behind).length = Tlv.encodeAll es ++ behind := by
      rw [Tlv.encodeAll_cons, List.append_assoc] at h
      have hrest := (bytesAt_eq_append.mp h).2.2
      rw [Tlv.encode_length, add_assoc] at hrest
      push_cast
      exact hrest
    rw [firstLooking, firstAt, NoneLooksWpa]
    by_cases hwpa : isWpa e = true
    · obtain ⟨hid, hstart⟩ := (isWpa_iff e).mp hwpa
      have hboth : e.id = _VENDOR_SPECIFIC_IE_ ∧ LooksWpa m (pbuf + k) :=
        ⟨hid, hlooks.mpr (hstart.trans (List.prefix_append _ _))⟩
      rw [if_pos hboth, if_pos hwpa]
      exact iff_of_true ⟨rfl, body_at hhead⟩ (.inl hwpa)
    · rw [if_neg hwpa, or_iff_right hwpa]
      by_cases hboth : e.id = _VENDOR_SPECIFIC_IE_ ∧ LooksWpa m (pbuf + k)
      · rw [if_pos hboth]
        refine iff_of_false (fun hans => ?_) fun hnone => hnone.1 ⟨hboth.1, hlooks.mp hboth.2⟩
        cases hfirst : firstAt isWpa es (k + e.size) with
        | none =>
          rw [hfirst] at hans
          cases hans
        | some r =>
          obtain ⟨k', e'⟩ := r
          rw [hfirst] at hans
          have hplace := congrArg Prod.fst (Option.some.inj hans.1)
          have hle := le_of_firstAt hfirst
          rw [Tlv.size] at hle
          dsimp only at hplace
          omega
      · have hnot : ¬ (e.id = _VENDOR_SPECIFIC_IE_ ∧ wpaStart <+: e.body ++ (Tlv.encodeAll es ++ behind)) := fun hb =>
          hboth ⟨hb.1, hlooks.mpr hb.2⟩
        have hplace : pbuf + (k : ℤ) + e.size = pbuf + (k + e.size : ℕ) := by
          push_cast
          ring
        rw [if_neg hboth, and_iff_right hnot, hplace]
        exact ih (k + e.size) htail

end

/-- What is written is read back: the buffer is the encoding, and both searches return the first pair of their kind. -/
def ReadBack (m : Mem) (pbuf : ℤ) (es : List Tlv) : Prop :=
  let s := setAll m pbuf es
  s.2.2 = (Tlv.encodeAll es).length ∧ bytesAt s.1 pbuf s.2.2 = Tlv.encodeAll es ∧
  (∀ index, Answers s.1 pbuf ((rtwGetIe pbuf index (asInt s.2.2)).run s.1).val (firstAt (fun e => e.id = index) es 0)) ∧
  Answers s.1 pbuf ((rtwGetWpaIe pbuf (asInt s.2.2)).run s.1).val (firstAt isWpa es 0)

theorem bytesAt_written (m : Mem) (pbuf : ℤ) (l : List UInt8) : bytesAt (putBytes m pbuf l) pbuf l.length = l := by
  have h := @bytesAt_putBytes m pbuf [] l []
  rw [List.nil_append, List.append_nil, List.length_nil, Nat.cast_zero, add_zero] at h
  exact h

/-- A length that an `int` does not hold finds nothing. -/
theorem not_readBack_long {m : Mem} {pbuf : ℤ} {es : List Tlv} (hlong : 2 ^ 31 ≤ (Tlv.encodeAll es).length) :
    ¬ ReadBack m pbuf es := by
  rintro ⟨hlen, -, hget, -⟩
  rw [setAll_eq] at hlen hget
  dsimp only at hlen hget
  have hlt : (Tlv.encodeAll es).length < 2 ^ 32 := hlen ▸ Nat.mod_lt _ (by norm_num)
  cases es with
  | nil =>
    rw [Tlv.encodeAll_nil, List.length_nil] at hlong
    exact absurd hlong (by norm_num)
  | cons e es =>
    have hneg : asInt ((Tlv.encodeAll (e :: es)).length % 2 ^ 32) < 1 := by
      rw [Nat.mod_eq_of_lt hlt, asInt, if_neg (by omega)]
      omega
    have hans := hget e.id
    rw [rtwGetIe, if_pos hneg, firstAt, if_pos (decide_eq_true rfl)] at hans
    cases hans.1

/-- A list is read back exactly if its encoding has a length that an `int` holds and no vendor's element before the
first WPA element is completed to one by what follows. -/
theorem readBack_iff (m : Mem) (pbuf : ℤ) (es : List Tlv) :
    ReadBack m pbuf es ↔ (Tlv.encodeAll es).length < 2 ^ 31 ∧
      NoneLooksWpa (bytesAt m (pbuf + (Tlv.encodeAll es).length) 6) es := by
  by_cases hshort : (Tlv.encodeAll es).length < 2 ^ 31
  · have hmod : (Tlv.encodeAll es).length % 2 ^ 32 = (Tlv.encodeAll es).length := Nat.mod_eq_of_lt (by omega)
    have hint : asInt (Tlv.encodeAll es).length = (Tlv.encodeAll es).length := if_pos hshort
    have hwritten := bytesAt_written m pbuf (Tlv.encodeAll es)
    have hbehind : bytesAt (putBytes m pbuf (Tlv.encodeAll es)) (pbuf + (Tlv.encodeAll es).length) 6 =
        bytesAt m (pbuf + (Tlv.encodeAll es).length) 6 :=
      bytesAt_congr 6 fun k _ => putBytes_outside m pbuf _ _ (.inr (by omega))
    have hall : bytesAt (putBytes m pbuf (Tlv.encodeAll es)) (pbuf + (0 : ℕ))
        (Tlv.encodeAll es ++ bytesAt m (pbuf + (Tlv.encodeAll es).length) 6).length =
        Tlv.encodeAll es ++ bytesAt m (pbuf + (Tlv.encodeAll es).length) 6 := by
      rw [Nat.cast_zero, add_zero, List.length_append, bytesAt_length, bytesAt_add, hwritten, hbehind]
    have hwpa : ((rtwGetWpaIe pbuf (Tlv.encodeAll es).length).run (putBytes m pbuf (Tlv.encodeAll es))).val =
        firstLooking (putBytes m pbuf (Tlv.encodeAll es)) (pbuf + (0 : ℕ)) es := by
      rw [Nat.cast_zero, add_zero]
      exact rtwGetWpaIe_val hwritten
    have hiff := answers_firstLooking_iff es _ (Nat.le_of_eq (bytesAt_length 6).symm) 0 hall
    rw [ReadBack]
    simp only [setAll_eq, hmod, hint, hwpa]
    rw [hiff, and_iff_right hshort]
    exact ⟨fun h => h.2.2.2, fun h => ⟨trivial, hwritten, fun index => answers_rtwGetIe hwritten index, h⟩⟩
  · exact iff_of_false (not_readBack_long (Nat.le_of_not_lt hshort)) fun h => hshort h.1

/-- A vendor's element of three bytes and one of identifier 1 behind it. -/
def cutVendor : List Tlv := [⟨0xdd, [0x00, 0x50, 0xf2], by decide⟩, ⟨0x01, [0x00], by decide⟩]

/-- The header and the body of the second are taken for the type and the version of the first. -/
theorem not_readBack_cutVendor : ¬ ReadBack (fun _ => 0) 0 cutVendor := by
  rintro ⟨-, -, -, hwpa⟩
  have hnone : firstAt isWpa cutVendor 0 = none := by decide
  rw [hnone] at hwpa
  have hval : ((rtwGetWpaIe 0 (asInt (setAll (fun _ => 0) 0 cutVendor).2.2)).run
      (setAll (fun _ => 0) 0 cutVendor).1).val ≠ none := by decide +kernel
  exact hval hwpa

end Rtl8723au.Ieee80211
