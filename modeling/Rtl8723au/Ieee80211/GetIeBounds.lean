import Rtl8723au.Ieee80211.ElementsAt
import Rtl8723au.Ieee80211.GetIe
import Rtl8723au.Ioctl.HostapdBounds

/-! The searches for an element inside a buffer of so many bytes: which buffers each of them stays inside of. -/
namespace Rtl8723au.Ieee80211
open Mem Security AccessM Search
set_option autoImplicit false

/-- The searches, with what they are asked for. -/
inductive Lookup where
  | getIe (index : UInt8)
  | getIeEx (eid : UInt8) (oui : Option (List UInt8)) (ie : Bool)
  | getWpaIe
  | getWpsIe (wpsIe : Bool)
  | getP2pIe (p2pIe : Bool)

namespace Lookup

/-- The search in a buffer of `n` bytes; it answers where the element is and how long its body. -/
def run (n : ℕ) : Lookup → M (Option (ℤ × ℕ))
  | getIe index => rtwGetIe 0 index n
  | getIeEx eid oui ie => Option.map (fun t => (t.ptr, t.size - 2)) <$> rtwGetIeEx 0 n eid oui ie
  | getWpaIe => rtwGetWpaIe 0 n
  | getWpsIe wpsIe => Option.map (fun t => (t.ptr, t.size - 2)) <$> rtwGetWpsIe 0 n wpsIe
  | getP2pIe p2pIe => Option.map (fun t => (t.ptr, t.size - 2)) <$> rtwGetP2pIe 0 n p2pIe

/-- Nothing outside the buffer is read, and the element that is answered is all inside. -/
def StaysInside (n : ℕ) (m : Mem) (lk : Lookup) : Prop :=
  Inside (fun x => 0 ≤ x ∧ x < (n : ℤ)) (lk.run n) m ∧
    ∀ o l, ((lk.run n).run m).val = some (o, l) → o + 2 + l ≤ (n : ℤ)

/-- What the search makes of the element at an index. -/
def answer (m : Mem) : Lookup → ℕ → Look
  | getIe index => answerIe m 0 index none
  | getIeEx eid oui _ => answerIe m 0 eid oui
  | getWpaIe => answerIe m 0 _VENDOR_SPECIFIC_IE_ (some (wpaOuiType ++ [0x01, 0x00]))
  | getWpsIe _ => answerIe m 0 _VENDOR_SPECIFIC_IE_ (some wpsOui)
  | getP2pIe _ => answerP2p m 0

/-- How many bytes behind the length are compared. -/
def compared (m : Mem) : Lookup → ℕ → ℕ
  | getIe _, _ => 0
  | getIeEx eid oui _, k => if m k = eid then (oui.map List.length).getD 0 else 0
  | getWpaIe, k => if m k = _VENDOR_SPECIFIC_IE_ then (if HasOui m 0 k wpaOuiType then 6 else 4) else 0
  | getWpsIe _, k => if m k = _VENDOR_SPECIFIC_IE_ then 4 else 0
  | getP2pIe _, k => if m k = _VENDOR_SPECIFIC_IE_ then 4 else 0

/-- The element at an index is long enough for the search: its first two bytes and what is compared are there, and when
it is the one all of it is. -/
def Fits (n : ℕ) (m : Mem) (lk : Lookup) (k : ℕ) : Prop :=
  lk.answer m k ≠ .giveUp → k + 2 + lk.compared m k ≤ n ∧ (lk.answer m k = .found → k + sizeAt m 0 k ≤ n)

end Lookup

section
variable {m : Mem} {n k : ℕ} {eid : UInt8} {oui : Option (List UInt8)}

theorem inside_block (p j : ℕ) : (∀ x < j, 0 ≤ (0 : ℤ) + p + (x : ℕ) ∧ (0 : ℤ) + p + (x : ℕ) < n) ↔ j = 0 ∨ p + j ≤ n := by
  constructor
  · intro h
    by_contra hout
    have hlast := h (j - 1) (by omega)
    omega
  · intro h x hx
    omega

theorem inside_lookOui (o : List UInt8) : Inside (fun x => 0 ≤ x ∧ x < (n : ℤ)) (lookOui 0 k o) m ↔
    o.length = 0 ∨ k + 2 + o.length ≤ n := by
  unfold lookOui
  rw [inside_bind, inside_peekList]
  simp only [whole_addr, inside_pure, and_true]
  have hblock := inside_block (n := n) (k + 2) o.length
  push_cast at hblock
  simpa only [add_assoc] using hblock

theorem inside_lookIe : Inside (fun x => 0 ≤ x ∧ x < (n : ℤ)) (lookIe 0 eid oui k) m ↔
    k < n ∧ (m k = eid → ∀ o ∈ oui, o.length = 0 ∨ k + 2 + o.length ≤ n) := by
  unfold lookIe
  rw [inside_bind, inside_read, read_val, read_st, zero_add, inside_ite]
  have hk : (0 ≤ (k : ℤ) ∧ (k : ℤ) < n) ↔ k < n := by omega
  rw [hk]
  refine and_congr_right fun _ => ?_
  by_cases hid : m k = eid
  · rw [if_neg (not_not.mpr hid)]
    cases oui with
    | none => exact ⟨fun _ _ o ho => absurd ho (Option.not_mem_none o), fun _ => inside_pure _ _ _⟩
    | some o =>
      dsimp only
      rw [inside_lookOui]
      exact ⟨fun h _ o' ho => Option.some.inj ho ▸ h, fun h => h hid o rfl⟩
  · rw [if_pos hid]
    exact ⟨fun _ h => absurd h hid, fun _ => inside_pure _ _ _⟩

theorem inside_lookP2p : Inside (fun x => 0 ≤ x ∧ x < (n : ℤ)) (lookP2p 0 k) m ↔
    k < n ∧ (k ≤ MAX_IE_SZ → m k = _VENDOR_SPECIFIC_IE_ → k + 6 ≤ n) := by
  have hk : (0 ≤ (k : ℤ) ∧ (k : ℤ) < n) ↔ k < n := by omega
  unfold lookP2p
  rw [inside_bind, inside_read, read_val, read_st, zero_add, inside_ite, hk]
  refine and_congr_right fun _ => ?_
  by_cases hgive : MAX_IE_SZ < k
  · rw [if_pos hgive]
    exact ⟨fun _ h => absurd h (by omega), fun _ => inside_pure _ _ _⟩
  rw [if_neg hgive, inside_ite]
  by_cases hid : m k = _VENDOR_SPECIFIC_IE_
  · rw [if_neg (not_not.mpr hid), inside_lookOui]
    show (4 = 0 ∨ k + 2 + 4 ≤ n) ↔ _
    exact ⟨fun h _ _ => by omega, fun h => .inr (h (by omega) hid)⟩
  · rw [if_pos hid]
    exact ⟨fun _ _ h => absurd h hid, fun _ => inside_pure _ _ _⟩

/-- A search whose looks are known stays inside when every element that it comes to is long enough. -/
theorem search_inside_iff {look : ℕ → M Look} {answer : ℕ → Look} {copies : Bool} {Fits : ℕ → Prop}
    (hval : ∀ k, ((look k).run m).val = answer k) (hst : ∀ k, ((look k).run m).st = m)
    (hfits : ∀ k < n, (Inside (fun x => 0 ≤ x ∧ x < (n : ℤ)) (look k) m ∧ (answer k ≠ .giveUp → k + 2 ≤ n) ∧
      (answer k = .found → k + sizeAt m 0 k ≤ n)) ↔ Fits k) :
    (Inside (fun x => 0 ≤ x ∧ x < (n : ℤ)) (search 0 n copies look n 0) m ∧
      ∀ t, ((search 0 n copies look n 0).run m).val = some t → t.ptr + t.size ≤ n) ↔
    ∀ k, Visits (nextAt m 0 n answer) 0 k → k < n → Fits k := by
  rcases Nat.eq_zero_or_pos n with rfl | hn
  · refine ⟨fun _ k _ hk => absurd hk (Nat.not_lt_zero k), fun _ => ⟨inside_pure _ _ _, fun t ht => ?_⟩⟩
    cases ht
  have hlt : ∀ k, Visits (nextAt m 0 n answer) 0 k → k < n := fun k hk =>
    hk.lt n hn fun i j hj => (nextAt_lt hj).2
  rw [inside_search_iff hval hst _ hn (by omega)]
  have hanswers (ptr : ℤ) (size : ℕ) :
      (∃ copy, ((search 0 n copies look n 0).run m).val = some ⟨ptr, size, copy⟩) ↔
        ∃ j, Visits (nextAt m 0 n answer) 0 j ∧ answer j = .found ∧ ptr = 0 + j ∧ size = sizeAt m 0 j :=
    search_val_iff hval hst hn (by omega) ptr size
  constructor
  · rintro ⟨hinside, hfound⟩ k hk hkn
    obtain ⟨hlook, hlen, -⟩ := hinside k hk
    refine (hfits k hkn).mp ⟨hlook, fun h => ?_, fun h => ?_⟩
    · have hlen := hlen h
      omega
    · obtain ⟨copy, ht⟩ := (hanswers (0 + (k : ℤ)) (sizeAt m 0 k)).mpr ⟨k, hk, h, rfl, rfl⟩
      have hend := hfound _ ht
      dsimp only at hend
      omega
  · intro h
    refine ⟨fun k hk => ?_, fun t ht => ?_⟩
    · obtain ⟨hlook, hlen, hend⟩ := (hfits k (hlt k hk)).mpr (h k hk (hlt k hk))
      refine ⟨hlook, fun hgive => ?_, fun hfound _ x hx => ?_⟩
      · have hlen := hlen hgive
        omega
      · have hend := hend hfound
        omega
    · obtain ⟨k, hk, hfound, hptr, hsize⟩ := (hanswers t.ptr t.size).mp ⟨t.copy, ht⟩
      obtain ⟨-, -, hend⟩ := (hfits k (hlt k hk)).mpr (h k hk (hlt k hk))
      have hend := hend hfound
      rw [hptr, hsize]
      omega

theorem answerIe_ne_giveUp : answerIe m 0 eid oui k ≠ .giveUp := by
  unfold answerIe
  split
  · exact Look.noConfusion
  · exact Look.noConfusion

theorem lookIe_fits (copies : Bool) (hk : k < n) :
    (Inside (fun x => 0 ≤ x ∧ x < (n : ℤ)) (lookIe 0 eid oui k) m ∧ (answerIe m 0 eid oui k ≠ .giveUp → k + 2 ≤ n) ∧
      (answerIe m 0 eid oui k = .found → k + sizeAt m 0 k ≤ n)) ↔ (Lookup.getIeEx eid oui copies).Fits n m k := by
  rw [inside_lookIe]
  show _ ↔ (answerIe m 0 eid oui k ≠ .giveUp → k + 2 + (if m k = eid then (oui.map List.length).getD 0 else 0) ≤ n ∧
    (answerIe m 0 eid oui k = .found → k + sizeAt m 0 k ≤ n))
  have hnever : answerIe m 0 eid oui k ≠ .giveUp := answerIe_ne_giveUp
  by_cases hid : m k = eid
  · rw [if_pos hid]
    cases oui with
    | none =>
      show _ ↔ (_ → k + 2 + 0 ≤ n ∧ _)
      exact ⟨fun h _ => ⟨h.2.1 hnever, h.2.2⟩, fun h => ⟨⟨hk, fun _ o ho => absurd ho (Option.not_mem_none o)⟩,
        fun hgive => (h hgive).1, (h hnever).2⟩⟩
    | some o =>
      show _ ↔ (_ → k + 2 + o.length ≤ n ∧ _)
      constructor
      · rintro ⟨⟨-, houi⟩, hlen, hend⟩ -
        have houi := houi hid o rfl
        have hlen := hlen hnever
        exact ⟨by omega, hend⟩
      · intro h
        obtain ⟨hlen, hend⟩ := h hnever
        exact ⟨⟨hk, fun _ o' ho => by cases ho; omega⟩, fun _ => by omega, hend⟩
  · rw [if_neg hid]
    exact ⟨fun h _ => ⟨h.2.1 hnever, h.2.2⟩, fun h => ⟨⟨hk, fun heq => absurd heq hid⟩, fun hgive => (h hgive).1,
      (h hnever).2⟩⟩

theorem lookP2p_fits (copies : Bool) (hk : k < n) :
    (Inside (fun x => 0 ≤ x ∧ x < (n : ℤ)) (lookP2p 0 k) m ∧ (answerP2p m 0 k ≠ .giveUp → k + 2 ≤ n) ∧
      (answerP2p m 0 k = .found → k + sizeAt m 0 k ≤ n)) ↔ (Lookup.getP2pIe copies).Fits n m k := by
  rw [inside_lookP2p]
  show _ ↔ (answerP2p m 0 k ≠ .giveUp → k + 2 + (if m k = _VENDOR_SPECIFIC_IE_ then 4 else 0) ≤ n ∧
    (answerP2p m 0 k = .found → k + sizeAt m 0 k ≤ n))
  by_cases hgive : MAX_IE_SZ < k
  · have hanswer : answerP2p m 0 k = .giveUp := if_pos hgive
    rw [hanswer]
    exact ⟨fun _ h => absurd rfl h, fun _ => ⟨⟨hk, fun h => absurd h (by omega)⟩, fun h => absurd rfl h, fun h => by cases h⟩⟩
  have hnever : answerP2p m 0 k ≠ .giveUp := by
    rw [answerP2p, if_neg hgive]
    exact answerIe_ne_giveUp
  by_cases hid : m k = _VENDOR_SPECIFIC_IE_
  · rw [if_pos hid]
    constructor
    · rintro ⟨⟨-, houi⟩, -, hend⟩ -
      exact ⟨houi (by omega) hid, hend⟩
    · intro h
      obtain ⟨hlen, hend⟩ := h hnever
      exact ⟨⟨hk, fun _ _ => hlen⟩, fun _ => by omega, hend⟩
  · rw [if_neg hid]
    exact ⟨fun h _ => ⟨h.2.1 hnever, h.2.2⟩, fun h => ⟨⟨hk, fun _ heq => absurd heq hid⟩, fun hlen => (h hlen).1, (h hnever).2⟩⟩

theorem targets_iff {f : M (Option Target)} (hsize : ∀ t, (f.run m).val = some t → 2 ≤ t.size) :
    (Inside (fun x => 0 ≤ x ∧ x < (n : ℤ)) (Option.map (fun t => (t.ptr, t.size - 2)) <$> f) m ∧
      ∀ o l, ((Option.map (fun t => (t.ptr, t.size - 2)) <$> f : M (Option (ℤ × ℕ))).run m).val = some (o, l) →
        o + 2 + l ≤ (n : ℤ)) ↔
    Inside (fun x => 0 ≤ x ∧ x < (n : ℤ)) f m ∧ ∀ t, (f.run m).val = some t → t.ptr + t.size ≤ n := by
  rw [inside_map, map_val]
  refine and_congr_right fun _ => ?_
  constructor
  · intro h t ht
    have hbody := h t.ptr (t.size - 2) (by rw [ht]; rfl)
    have htwo := hsize t ht
    omega
  · intro h o l hol
    obtain ⟨t, ht, hpair⟩ := Option.map_eq_some_iff.mp hol
    cases hpair
    have hend := h t ht
    have htwo := hsize t ht
    omega

/-! ## The first search -/

theorem nextElement_eq {index : UInt8} : nextElement m 0 index n = nextAt m 0 n (answerIe m 0 index none) := by
  funext k
  have his : answerIe m 0 index none k = if m (0 + k) = index then .found else .next :=
    if_congr ⟨fun h => h.1, fun h => ⟨h, fun o ho => absurd ho (Option.not_mem_none o)⟩⟩ rfl rfl
  unfold nextElement nextAt sizeAt
  by_cases hid : m (0 + k) = index
  · rw [if_pos hid] at his ⊢
    exact (if_neg fun h => Look.noConfusion (his.symm.trans h.1)).symm
  · rw [if_neg hid] at his ⊢
    by_cases hlimit : n ≤ k + ((m (0 + k + 1)).toNat + 2)
    · rw [if_pos hlimit]
      exact (if_neg fun h => absurd h.2 (not_lt.mpr hlimit)).symm
    · rw [if_neg hlimit]
      exact (if_pos ⟨his, not_le.mp hlimit⟩).symm

theorem getIe_iff {index : UInt8} : (Lookup.getIe index).StaysInside n m ↔
    ∀ k, Visits (nextAt m 0 n (answerIe m 0 index none)) 0 k → k < n → (Lookup.getIe index).Fits n m k := by
  show Inside _ (rtwGetIe 0 index n) m ∧ (∀ o l, ((rtwGetIe 0 index n).run m).val = some (o, l) → _) ↔ _
  rcases Nat.eq_zero_or_pos n with rfl | hn
  · refine ⟨fun _ k _ hk => absurd hk (Nat.not_lt_zero k), fun _ => ⟨inside_pure _ _ _, fun o l hol => ?_⟩⟩
    cases hol
  have hlt : ∀ k, Visits (nextAt m 0 n (answerIe m 0 index none)) 0 k → k < n := fun k hk =>
    hk.lt n hn fun i j hj => (nextAt_lt hj).2
  have hfound (k : ℕ) : answerIe m 0 index none k = .found ↔ m (0 + k) = index := by
    unfold answerIe
    split
    · rename_i h
      exact ⟨fun _ => h.1, fun _ => rfl⟩
    · rename_i h
      exact ⟨fun h => Look.noConfusion h, fun hid => absurd ⟨hid, fun o ho => absurd ho (Option.not_mem_none o)⟩ h⟩
  rw [rtwGetIe, if_neg (by omega), Int.toNat_natCast, inside_rtwGetIeLoop_iff _ _ _ hn (by omega), nextElement_eq]
  constructor
  · rintro ⟨hinside, hval⟩ k hk hkn -
    have hbytes := (hinside k hk).2
    refine ⟨by show k + 2 + 0 ≤ n; omega, fun h => ?_⟩
    have hend := hval (0 + k) (m (0 + k + 1)).toNat ((rtwGetIeLoop_val_iff _ _ hn (by omega)).mpr
      ⟨k, by rw [nextElement_eq]; exact hk, (hfound k).mp h, rfl, rfl⟩)
    show k + ((m (0 + k + 1)).toNat + 2) ≤ n
    omega
  · intro h
    constructor
    · intro k hk
      have hlen : k + 2 + 0 ≤ n := (h k hk (hlt k hk) answerIe_ne_giveUp).1
      omega
    · intro o l hol
      obtain ⟨k, hk, hid, rfl, rfl⟩ := (rtwGetIeLoop_val_iff _ _ hn (by omega)).mp hol
      rw [nextElement_eq] at hk
      have hend : k + ((m (0 + k + 1)).toNat + 2) ≤ n := (h k hk (hlt k hk) answerIe_ne_giveUp).2 ((hfound k).mpr hid)
      omega

/-! ## The search for a WPA element -/

/-- A search that starts anywhere stays inside the buffer, and so does what it answers. -/
def SafeSearch (n : ℕ) (m : Mem) (f : M (Option (ℤ × ℕ))) : Prop :=
  Inside (fun x => 0 ≤ x ∧ x < (n : ℤ)) f m ∧ ∀ o l, (f.run m).val = some (o, l) → o + 2 + l ≤ (n : ℤ)

theorem safeSearch_none : SafeSearch n m (pure none) :=
  ⟨inside_pure _ _ _, fun _ _ h => by cases h⟩

theorem safeSearch_bind {α : Type} {f : M α} {g : α → M (Option (ℤ × ℕ))} (hst : (f.run m).st = m) :
    SafeSearch n m (f >>= g) ↔ Inside (fun x => 0 ≤ x ∧ x < (n : ℤ)) f m ∧ SafeSearch n m (g (f.run m).val) := by
  unfold SafeSearch
  rw [inside_bind, bind_val, hst, and_assoc]

theorem hasOui_wpa : HasOui m 0 k (wpaOuiType ++ [0x01, 0x00]) ↔
    HasOui m 0 k wpaOuiType ∧ bytesAt m (0 + k + 6) 2 = [0x01, 0x00] := by
  unfold HasOui
  rw [bytesAt_eq_append]
  show _ = _ + _ ∧ _ ∧ bytesAt m (0 + k + 2 + (4 : ℕ)) 2 = _ ↔ _
  rw [show (0 : ℤ) + k + 2 + (4 : ℕ) = 0 + k + 6 by push_cast; ring]
  exact ⟨fun h => h.2, fun h => ⟨rfl, h⟩⟩

/-- A vendor's element is compared, and is the one or the search goes on. -/
theorem safeSearch_checkWpaIe {next : M (Option (ℤ × ℕ))} (hid : m (0 + (k : ℤ)) = _VENDOR_SPECIFIC_IE_) :
    SafeSearch n m (checkWpaIe (0 + (k : ℤ)) next) ↔ k + 2 + Lookup.getWpaIe.compared m k ≤ n ∧
      (if Lookup.getWpaIe.answer m k = .found then k + sizeAt m 0 k ≤ n else SafeSearch n m next) := by
  have hcompared : Lookup.getWpaIe.compared m k = if HasOui m 0 k wpaOuiType then 6 else 4 := by
    rw [zero_add] at hid
    exact if_pos hid
  have hfound : Lookup.getWpaIe.answer m k = .found ↔
      HasOui m 0 k wpaOuiType ∧ bytesAt m (0 + k + 6) 2 = [0x01, 0x00] := by
    rw [← hasOui_wpa]
    show answerIe _ _ _ _ _ = _ ↔ _
    unfold answerIe
    split
    · rename_i h
      exact ⟨fun _ => h.2 _ rfl, fun _ => rfl⟩
    · rename_i h
      exact ⟨fun h => Look.noConfusion h, fun houi => absurd ⟨hid, fun o ho => by cases ho; exact houi⟩ h⟩
  have hblock (p j : ℕ) : Inside (fun x => 0 ≤ x ∧ x < (n : ℤ)) (peekList whole (0 + (k : ℤ) + p) j) m ↔
      j = 0 ∨ k + p + j ≤ n := by
    rw [inside_peekList]
    have hblock := inside_block (n := n) (k + p) j
    push_cast at hblock
    simpa only [whole_addr, add_assoc] using hblock
  rw [hcompared, if_congr hfound rfl rfl, checkWpaIe, safeSearch_bind (peekList_st _ _ _ _)]
  refine (and_congr (hblock 2 4) Iff.rfl).trans ?_
  show _ ∧ SafeSearch n m (if bytesAt m (0 + k + 2) 4 ≠ wpaOuiType then _ else _) ↔ _
  by_cases houi : HasOui m 0 k wpaOuiType
  · have hequal : bytesAt m (0 + k + 2) 4 = wpaOuiType := houi
    rw [if_neg (not_not.mpr hequal), if_pos houi, safeSearch_bind (peekList_st _ _ _ _)]
    refine (and_congr Iff.rfl (and_congr (hblock 6 2) Iff.rfl)).trans ?_
    show _ ∧ _ ∧ SafeSearch n m (if bytesAt m (0 + k + 6) 2 ≠ [0x01, 0x00] then _ else _) ↔ _
    by_cases hversion : bytesAt m (0 + k + 6) 2 = [0x01, 0x00]
    · rw [if_neg (not_not.mpr hversion), if_pos ⟨houi, hversion⟩, safeSearch_bind (read_st _ _), inside_read, read_val]
      constructor
      · rintro ⟨-, hlen, -, -, hval⟩
        have hend := hval _ _ rfl
        unfold sizeAt
        omega
      · rintro ⟨hlen, hend⟩
        unfold sizeAt at hend
        refine ⟨by omega, by omega, by omega, inside_pure _ _ _, fun o l hol => ?_⟩
        cases hol
        omega
    · rw [if_pos hversion, if_neg fun h => hversion h.2]
      constructor
      · rintro ⟨-, hlen, hnext⟩
        exact ⟨by omega, hnext⟩
      · rintro ⟨hlen, hnext⟩
        exact ⟨by omega, by omega, hnext⟩
  · have hdiffer : bytesAt m (0 + k + 2) 4 ≠ wpaOuiType := houi
    rw [if_pos hdiffer, if_neg houi, if_neg fun h => houi h.1]
    exact and_congr (by omega) Iff.rfl

def afterGetIe (n fuel : ℕ) : Option (ℤ × ℕ) → M (Option (ℤ × ℕ))
  | none => pure none
  | some (pbuf, len) =>
    checkWpaIe pbuf (if (n : ℤ) - (pbuf - 0) - 2 - len ≤ 0 then pure none
      else rtwGetWpaIeLoop 0 n fuel (pbuf + (2 + len)) ((n : ℤ) - (pbuf - 0) - 2 - len))

theorem wpa_answer_of_ne (hid : m (0 + (k : ℤ)) ≠ _VENDOR_SPECIFIC_IE_) : Lookup.getWpaIe.answer m k = .next :=
  if_neg fun h => hid h.1

theorem safeSearch_checkNext (fuel : ℕ) (hanswer : Lookup.getWpaIe.answer m k = .next)
    (hloop : ∀ c, k < c → c < n → (SafeSearch n m (rtwGetWpaIeLoop 0 n fuel c ((n : ℤ) - c)) ↔
      ∀ j, Visits (nextAt m 0 n (Lookup.getWpaIe.answer m)) c j → Lookup.getWpaIe.Fits n m j)) :
    SafeSearch n m (if (n : ℤ) - (0 + (k : ℤ) - 0) - 2 - (m (0 + (k : ℤ) + 1)).toNat ≤ 0 then pure none
      else rtwGetWpaIeLoop 0 n fuel (0 + (k : ℤ) + (2 + (m (0 + (k : ℤ) + 1)).toNat))
        ((n : ℤ) - (0 + (k : ℤ) - 0) - 2 - (m (0 + (k : ℤ) + 1)).toNat)) ↔
    ∀ c, nextAt m 0 n (Lookup.getWpaIe.answer m) k = some c →
      ∀ j, Visits (nextAt m 0 n (Lookup.getWpaIe.answer m)) c j → Lookup.getWpaIe.Fits n m j := by
  by_cases hend : k + sizeAt m 0 k < n
  · have hnext : nextAt m 0 n (Lookup.getWpaIe.answer m) k = some (k + sizeAt m 0 k) := if_pos ⟨hanswer, hend⟩
    have hiff := hloop (k + sizeAt m 0 k) (by unfold sizeAt; omega) hend
    have hplace : 0 + (k : ℤ) + (2 + (m (0 + (k : ℤ) + 1)).toNat) = (k + sizeAt m 0 k : ℕ) := by
      unfold sizeAt
      push_cast
      ring
    have hleft : (n : ℤ) - (0 + (k : ℤ) - 0) - 2 - (m (0 + (k : ℤ) + 1)).toNat = (n : ℤ) - (k + sizeAt m 0 k : ℕ) := by
      unfold sizeAt
      push_cast
      ring
    rw [hnext, hleft, hplace, if_neg (by omega), hiff]
    exact ⟨fun h c hc => Option.some.inj hc ▸ h, fun h => h _ rfl⟩
  · have hstop : nextAt m 0 n (Lookup.getWpaIe.answer m) k = none := if_neg fun h => hend h.2
    unfold sizeAt at hend
    rw [hstop, if_pos (by omega)]
    exact ⟨fun _ c hc => absurd hc.symm (Option.some_ne_none c), fun _ => safeSearch_none⟩

/-- The two loops one in the other come to the same elements as one loop. By induction on the passes of the inner loop. -/
theorem safeSearch_inner (outer : ℕ) (b fuel i : ℕ) (hi : b + i < n) (hfuel : n ≤ b + i + fuel)
    (hloop : ∀ c, b + i < c → c < n → (SafeSearch n m (rtwGetWpaIeLoop 0 n outer c ((n : ℤ) - c)) ↔
      ∀ j, Visits (nextAt m 0 n (Lookup.getWpaIe.answer m)) c j → Lookup.getWpaIe.Fits n m j)) :
    SafeSearch n m (rtwGetIeLoop b _VENDOR_SPECIFIC_IE_ ((n : ℤ) - b) fuel i >>= afterGetIe n outer) ↔
      ∀ k, Visits (nextAt m 0 n (Lookup.getWpaIe.answer m)) (b + i) k → Lookup.getWpaIe.Fits n m k := by
  induction fuel generalizing i with
  | zero => omega
  | succ fuel ih =>
    have hplace : (b : ℤ) + (i : ℕ) = 0 + (b + i : ℕ) := by
      push_cast
      ring
    rw [safeSearch_bind (rtwGetIeLoop_st _ _), inside_rtwGetIeLoop_succ, rtwGetIeLoop_succ, Visits.forall_iff, hplace]
    by_cases hid : m (0 + (b + i : ℕ)) = _VENDOR_SPECIFIC_IE_
    · rw [if_pos hid, afterGetIe, safeSearch_checkWpaIe hid]
      cases hanswer : Lookup.getWpaIe.answer m (b + i) with
      | giveUp => exact absurd hanswer answerIe_ne_giveUp
      | found =>
        have hstop : nextAt m 0 n (Lookup.getWpaIe.answer m) (b + i) = none :=
          if_neg fun h => Look.noConfusion (hanswer.symm.trans h.1)
        rw [if_pos rfl, hstop]
        unfold Lookup.Fits
        rw [hanswer]
        constructor
        · rintro ⟨-, hlen, hend⟩
          exact ⟨fun _ => ⟨hlen, fun _ => hend⟩, fun c hc => by cases hc⟩
        · rintro ⟨hfits, -⟩
          obtain ⟨hlen, hend⟩ := hfits Look.noConfusion
          exact ⟨⟨by omega, by omega, fun h => absurd hid h⟩, hlen, hend rfl⟩
      | next =>
        rw [if_neg Look.noConfusion, safeSearch_checkNext outer hanswer hloop]
        unfold Lookup.Fits
        constructor
        · rintro ⟨-, hlen, hnext⟩
          exact ⟨fun _ => ⟨hlen, fun h => Look.noConfusion (hanswer.symm.trans h)⟩, hnext⟩
        · rintro ⟨hfits, hnext⟩
          obtain ⟨hlen, -⟩ := hfits answerIe_ne_giveUp
          exact ⟨⟨by omega, by omega, fun h => absurd hid h⟩, hlen, hnext⟩
    · have hanswer := wpa_answer_of_ne hid
      have hfits : Lookup.getWpaIe.Fits n m (b + i) ↔ b + i + 2 ≤ n := by
        unfold Lookup.Fits
        rw [hanswer, show Lookup.getWpaIe.compared m (b + i) = 0 by rw [zero_add] at hid; exact if_neg hid]
        exact ⟨fun h => (h Look.noConfusion).1, fun h _ => ⟨h, fun hfound => by cases hfound⟩⟩
      rw [if_neg hid, hfits]
      by_cases hend : b + i + sizeAt m 0 (b + i) < n
      · have hnext : nextAt m 0 n (Lookup.getWpaIe.answer m) (b + i) = some (b + i + sizeAt m 0 (b + i)) :=
          if_pos ⟨hanswer, hend⟩
        have hrest := ih (i + sizeAt m 0 (b + i)) (by omega) (by unfold sizeAt; omega)
          fun c hc => hloop c (by unfold sizeAt at hc; omega)
        rw [safeSearch_bind (rtwGetIeLoop_st _ _), ← add_assoc] at hrest
        unfold sizeAt at hend hrest hnext
        rw [if_neg (by omega), hnext]
        constructor
        · rintro ⟨⟨-, hlen, hinside⟩, hsafe⟩
          exact ⟨by omega, fun c hc => Option.some.inj hc ▸ hrest.mp ⟨hinside hid (by omega), hsafe⟩⟩
        · rintro ⟨hlen, hvisits⟩
          obtain ⟨hinside, hsafe⟩ := hrest.mpr (hvisits _ rfl)
          exact ⟨⟨by omega, by omega, fun _ _ => hinside⟩, hsafe⟩
      · have hstop : nextAt m 0 n (Lookup.getWpaIe.answer m) (b + i) = none := if_neg fun h => hend h.2
        unfold sizeAt at hend
        rw [if_pos (by omega), hstop]
        constructor
        · rintro ⟨⟨-, hlen, -⟩, -⟩
          exact ⟨by omega, fun c hc => by cases hc⟩
        · rintro ⟨hlen, -⟩
          exact ⟨⟨by omega, by omega, fun _ h => absurd (by omega) h⟩, safeSearch_none⟩

theorem safeSearch_loop (fuel c : ℕ) (hc : c < n) (hfuel : n ≤ c + fuel) :
    SafeSearch n m (rtwGetWpaIeLoop 0 n fuel c ((n : ℤ) - c)) ↔
      ∀ k, Visits (nextAt m 0 n (Lookup.getWpaIe.answer m)) c k → Lookup.getWpaIe.Fits n m k := by
  induction fuel generalizing c with
  | zero => omega
  | succ fuel ih =>
    have hinner := safeSearch_inner (m := m) fuel c (n - c) 0 (by omega) (by omega) fun d hd hdn => ih d hdn (by omega)
    rw [add_zero] at hinner
    rw [← hinner, rtwGetWpaIeLoop, rtwGetIe, if_neg (by omega), show ((n : ℤ) - c).toNat = n - c by omega]
    rfl

/-! ## All searches -/

/-- Each search stays inside a buffer exactly when the elements that it comes to are long enough. -/
theorem lookups_inside_iff (lk : Lookup) (n : ℕ) (m : Mem) : lk.StaysInside n m ↔
    ∀ k, Visits (nextAt m 0 n (lk.answer m)) 0 k → k < n → lk.Fits n m k := by
  cases lk with
  | getIe index => exact getIe_iff
  | getIeEx eid oui ie =>
    exact (targets_iff fun t => search_size (fun _ => lookIe_val) fun _ => lookIe_st).trans
      (search_inside_iff (fun _ => lookIe_val) (fun _ => lookIe_st) fun _ hk => lookIe_fits _ hk)
  | getWpsIe wpsIe =>
    exact (targets_iff fun t => search_size (fun _ => lookIe_val) fun _ => lookIe_st).trans
      (search_inside_iff (fun _ => lookIe_val) (fun _ => lookIe_st) fun _ hk => lookIe_fits wpsIe hk)
  | getP2pIe p2pIe =>
    have hrun : rtwGetP2pIe 0 n p2pIe = search 0 n p2pIe (lookP2p 0) n 0 := if_neg (by omega)
    unfold Lookup.StaysInside
    rw [Lookup.run, hrun]
    exact (targets_iff fun t => search_size (fun _ => lookP2p_val) fun _ => lookP2p_st).trans
      (search_inside_iff (fun _ => lookP2p_val) (fun _ => lookP2p_st) fun _ hk => lookP2p_fits _ hk)
  | getWpaIe =>
    rcases Nat.eq_zero_or_pos n with rfl | hn
    · exact ⟨fun _ k _ hk => absurd hk (Nat.not_lt_zero k), fun _ => safeSearch_none⟩
    have hloop := safeSearch_loop (m := m) n 0 hn (by omega)
    have hrun : rtwGetWpaIe 0 n = rtwGetWpaIeLoop 0 n n (0 : ℕ) ((n : ℤ) - (0 : ℕ)) := by
      rw [rtwGetWpaIe, Int.toNat_natCast, Nat.cast_zero, sub_zero]
    show SafeSearch n m (rtwGetWpaIe 0 n) ↔ _
    rw [hrun, hloop]
    exact ⟨fun h k hk _ => h k hk, fun h k hk => h k hk (hk.lt n hn fun i j hj => (nextAt_lt hj).2)⟩

/-- The length byte of an element of one byte is behind the buffer. -/
theorem getIe_one_byte : ¬(Lookup.getIe 5).StaysInside 1 fun _ => 0x30 := by
  rintro ⟨hinside, -⟩
  exact absurd (hinside 1 (by decide)).2 (by decide)

/-- The body of an element that is answered may be behind the buffer. -/
example : ((Lookup.run 2 (.getIe 5)).run fun x => if x = 0 then 5 else 0x20).val = some (0, 32) := by decide

end

end Rtl8723au.Ieee80211
