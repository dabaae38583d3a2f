import Rtl8723au.Mlme.ApFrame

/-! The buffer of a frame while it is built: bytes behind bytes, and bytes in place of others. -/
namespace Rtl8723au
namespace ApFrame
open AccessM Regions Tlv Security Ieee80211 Mem
set_option autoImplicit false

/-! ## Lists in memory -/

section
variable {m : Mem} {p : ℤ} {l l' b c v : List UInt8}

theorem putBytes_at (hp : bytesAt m p l.length = l) : putBytes m p l = m := by
  funext x
  by_cases hx : x < p ∨ p + l.length ≤ x
  · exact putBytes_outside m p l x hx
  · obtain ⟨k, rfl⟩ : ∃ k : ℕ, x = p + k := ⟨(x - p).toNat, by omega⟩
    rw [putBytes_inside m p l k (by omega), getD_bytesAt p hp k (by omega)]

theorem putBytes_splice (hv : v.length = b.length) :
    putBytes (putBytes m p (l ++ b ++ c)) (p + l.length) v = putBytes m p (l ++ v ++ c) := by
  have hsplit : ∀ b : List UInt8, putBytes m p (l ++ b ++ c) =
      putBytes (putBytes (putBytes m p l) (p + l.length) b) (p + l.length + b.length) c := fun b => by
    rw [putBytes_append, putBytes_append, List.append_assoc]
  rw [hsplit, hsplit, hv]
  funext x
  by_cases hx : x < p + l.length ∨ p + l.length + v.length ≤ x
  · rw [putBytes_outside _ _ v _ hx]
    by_cases hc : x < p + l.length + b.length ∨ p + l.length + b.length + c.length ≤ x
    · rw [putBytes_outside _ _ c _ hc, putBytes_outside _ _ c _ hc, putBytes_outside _ _ v _ hx,
        putBytes_outside _ _ b _ (by omega)]
    · obtain ⟨k, rfl⟩ : ∃ k : ℕ, x = p + l.length + b.length + k := ⟨(x - (p + l.length + b.length)).toNat, by omega⟩
      rw [putBytes_inside _ _ c _ (by omega), putBytes_inside _ _ c _ (by omega)]
  · obtain ⟨k, rfl⟩ : ∃ k : ℕ, x = p + l.length + k := ⟨(x - (p + l.length)).toNat, by omega⟩
    rw [putBytes_inside _ _ _ _ (by omega), putBytes_outside _ _ _ _ (.inl (by omega)), putBytes_inside _ _ _ _ (by omega)]

theorem bytesAt_put (m : Mem) (p : ℤ) (l b c : List UInt8) :
    bytesAt (putBytes m p (l ++ b ++ c)) (p + l.length) b.length = b := bytesAt_putBytes l b c

end

/-! ## The frame -/

/-- The list is in the frame, and what it is made of is as it was. -/
structure Builds (s : Regions Area) (m : Mem) (l : List UInt8) (t : Regions Area) : Prop where
  frame : t .frame = putBytes m TXDESC_OFFSET l
  ies : t .ies = s .ies
  wps : t .wps = s .wps

def atEnd (l : List UInt8) : Cursor := ⟨TXDESC_OFFSET + l.length, l.length⟩

section
variable {s t : Regions Area} {m : Mem} {l l' a b c v : List UInt8}

theorem atEnd_on (l : List UInt8) (n : ℤ) : (atEnd l).on n = ⟨TXDESC_OFFSET + (l.length + n), l.length + n⟩ := by
  rw [atEnd, Cursor.on, add_assoc]

theorem atEnd_of_length {n : ℤ} (h : (l'.length : ℤ) = l.length + n) : (atEnd l).on n = atEnd l' := by
  rw [atEnd_on, atEnd, h]

theorem atEnd_append (l l' : List UInt8) : (atEnd l).on l'.length = atEnd (l ++ l') :=
  atEnd_of_length (by rw [List.length_append]; push_cast; rfl)

theorem atEnd_congr (h : l.length = l'.length) : atEnd l = atEnd l' := by rw [atEnd, atEnd, h]

theorem inside_storeFrame {x : ℤ} (hlo : 0 ≤ x) (hhi : x + l.length ≤ MAX_XMIT_EXTBUF_SZ) :
    Inside Stays (store .frame x l) t := by
  rw [inside_store_iff]
  intro k hk
  show 0 ≤ x + (k : ℕ) ∧ x + (k : ℕ) < (MAX_XMIT_EXTBUF_SZ : ℕ)
  omega

theorem inside_loadFrame {x : ℤ} {n : ℕ} (hlo : 0 ≤ x) (hhi : x + n ≤ MAX_XMIT_EXTBUF_SZ) :
    Inside Stays (load .frame x n) t := by
  rw [inside_load_iff]
  intro k hk
  show 0 ≤ x + (k : ℕ) ∧ x + (k : ℕ) < (MAX_XMIT_EXTBUF_SZ : ℕ)
  omega

theorem txdesc_nonneg : (0 : ℤ) ≤ TXDESC_OFFSET := by decide

namespace Builds

theorem bytes (h : Builds s m (a ++ b ++ c) t) : bytesAt (t .frame) (TXDESC_OFFSET + a.length) b.length = b := by
  rw [h.frame]
  exact bytesAt_put m _ a b c

theorem start (h : Builds s m (l ++ l') t) : bytesAt (t .frame) TXDESC_OFFSET l.length = l := by
  have hbytes := @bytes s t m [] l l' h
  rwa [List.length_nil, Nat.cast_zero, add_zero] at hbytes

theorem rebase (h : Builds s m (l ++ l') t) : Builds s (t .frame) l t := ⟨(putBytes_at h.start).symm, h.ies, h.wps⟩

theorem put (h : Builds s m l t) (l' : List UInt8) (hfit : TXDESC_OFFSET + l.length + l'.length ≤ MAX_XMIT_EXTBUF_SZ) :
    Gives Stays (put l' (atEnd l)) t fun c u => c = atEnd (l ++ l') ∧ Builds s m (l ++ l') u := by
  have hstore : Gives Stays (store .frame (atEnd l).pframe l') t fun _ u => Builds s m (l ++ l') u := by
    refine ⟨inside_storeFrame (Int.add_nonneg txdesc_nonneg (Int.natCast_nonneg _)) ?_, ?_, ?_, ?_⟩
    · show ((TXDESC_OFFSET : ℕ) : ℤ) + l.length + l'.length ≤ MAX_XMIT_EXTBUF_SZ
      exact_mod_cast hfit
    · rw [store_st, Function.update_self, h.frame]
      exact putBytes_append m _ l l'
    · rw [store_st, Function.update_of_ne (by decide)]
      exact h.ies
    · rw [store_st, Function.update_of_ne (by decide)]
      exact h.wps
  exact hstore.bind fun _ u hu => .pure ⟨atEnd_append l l', hu⟩

theorem memcpy (h : Builds s m l t) {r : Area} (hr : r = .ies ∨ r = .wps) (x : ℤ) (n : ℕ)
    (hfit : TXDESC_OFFSET + l.length + n ≤ MAX_XMIT_EXTBUF_SZ) :
    Gives Stays (memcpy .frame (atEnd l).pframe r x n) t fun _ u => Builds s m (l ++ bytesAt (s r) x n) u := by
  have hsrc : t r = s r := by
    rcases hr with rfl | rfl
    · exact h.ies
    · exact h.wps
  have hload : Gives Stays (load r x n) t fun b u => b = bytesAt (s r) x n ∧ u = t := by
    refine ⟨?_, ?_, rfl⟩
    · rw [inside_load_iff]
      rcases hr with rfl | rfl <;> exact fun _ _ => trivial
    · rw [load_val, hsrc, bytesAt]
  refine hload.bind fun b u hu => ?_
  obtain ⟨rfl, rfl⟩ := hu
  have hput := h.put (bytesAt (s r) x n) (by rw [bytesAt_length]; exact hfit)
  exact ⟨((inside_bind _ _ _ _).mp hput.inside).1, hput.post.2⟩

theorem copy (h : Builds s m l t) {r : Area} (hr : r = .ies ∨ r = .wps) (x : ℤ) (n : ℕ)
    (hfit : TXDESC_OFFSET + l.length + n ≤ MAX_XMIT_EXTBUF_SZ) : Gives Stays (copy r x n (atEnd l)) t fun c u =>
      c = atEnd (l ++ bytesAt (s r) x n) ∧ Builds s m (l ++ bytesAt (s r) x n) u := by
  refine (h.memcpy hr x n hfit).bind fun _ u hu => .pure ⟨?_, hu⟩
  have hend := atEnd_append l (bytesAt (s r) x n)
  rwa [bytesAt_length] at hend

theorem splice (h : Builds s m (a ++ b ++ c) t) (hv : v.length = b.length)
    (hfit : TXDESC_OFFSET + (a.length + b.length) ≤ MAX_XMIT_EXTBUF_SZ) {x : ℤ} (hx : x = TXDESC_OFFSET + a.length) :
    Gives Stays (store .frame x v) t fun _ u => Builds s m (a ++ v ++ c) u := by
  subst hx
  refine ⟨inside_storeFrame (Int.add_nonneg txdesc_nonneg (Int.natCast_nonneg _)) ?_, ?_, ?_, ?_⟩
  · rw [hv]
    omega
  · rw [store_st, Function.update_self, h.frame, putBytes_splice hv]
  · rw [store_st, Function.update_of_ne (by decide)]
    exact h.ies
  · rw [store_st, Function.update_of_ne (by decide)]
    exact h.wps

theorem getSsid {es : List Tlv} (h : Builds s m (l ++ encodeAll es) t)
    (hfit : TXDESC_OFFSET + (l ++ encodeAll es).length ≤ MAX_XMIT_EXTBUF_SZ) {v : Option (ℤ × ℕ)}
    (hv : bytesAt (t .frame) (TXDESC_OFFSET + l.length) (encodeAll es).length = encodeAll es →
      ((rtwGetIe (TXDESC_OFFSET + l.length) _SSID_IE_ (encodeAll es).length).run (t .frame)).val = v) :
    Gives Stays (zoom (region .frame) (rtwGetIe (TXDESC_OFFSET + l.length) _SSID_IE_ (encodeAll es).length)) t
      fun v' u => v' = v ∧ u = t := by
  have hall := @bytes s t m l (encodeAll es) [] (by rwa [List.append_nil])
  refine ⟨?_, ?_, ?_⟩
  · rw [inside_zoom]
    intro x hx
    have hin := inside_rtwGetIe hall x hx
    show 0 ≤ x ∧ x < (MAX_XMIT_EXTBUF_SZ : ℕ)
    rw [List.length_append] at hfit
    omega
  · rw [zoom_val]
    exact hv hall
  · rw [zoom_st, rtwGetIe_st]
    exact Function.update_eq_self _ t

theorem appendBuilt (h : Builds s m l t) (wanted : Bool) (a : ApConf) (hfit : TXDESC_OFFSET + l.length + 514 ≤ MAX_XMIT_EXTBUF_SZ) :
    Gives Stays (appendBuilt wanted a (atEnd l)) t fun c u =>
      c = atEnd (l ++ encodeAll (built wanted a)) ∧ Builds s m (l ++ encodeAll (built wanted a)) u := by
  cases wanted with
  | false =>
    have hnil : l ++ encodeAll (built false a) = l := List.append_nil l
    rw [hnil]
    exact .pure ⟨rfl, h⟩
  | true =>
    have hp2p : a.p2pIe.encode.length = a.p2pIe.body.length + 2 := rfl
    have hwfd : a.wfdIe.encode.length = a.wfdIe.body.length + 2 := rfl
    have hp2pShort := a.p2pIe.short
    have hwfdShort := a.wfdIe.short
    have hboth : l ++ encodeAll (built true a) = l ++ a.p2pIe.encode ++ a.wfdIe.encode := by
      rw [List.append_assoc]
      exact congrArg (fun r => l ++ (a.p2pIe.encode ++ r)) (List.append_nil _)
    rw [hboth]
    refine (h.put a.p2pIe.encode (by omega)).bind fun c u hu => ?_
    obtain ⟨rfl, hu⟩ := hu
    exact hu.put a.wfdIe.encode (by rw [List.length_append]; omega)

end Builds

end

theorem carries_drop_iff {fixed l : List UInt8} {out : List Tlv} {s u : Regions Area} {m : Mem}
    (hhdr : Wifi.WLAN_HDR_A3_LEN ≤ l.length) (hu : Builds s m l u) (hfit : TXDESC_OFFSET + l.length ≤ MAX_XMIT_EXTBUF_SZ) :
    Carries fixed out (atEnd l) u ↔ l.drop Wifi.WLAN_HDR_A3_LEN = fixed ++ encodeAll out := by
  have htake : (l.take Wifi.WLAN_HDR_A3_LEN).length = Wifi.WLAN_HDR_A3_LEN := List.length_take_of_le hhdr
  have hbytes := @Builds.bytes s u m (l.take Wifi.WLAN_HDR_A3_LEN) (l.drop Wifi.WLAN_HDR_A3_LEN) []
    (by rwa [List.append_nil, List.take_append_drop])
  rw [htake] at hbytes
  have hlen : l.length = Wifi.WLAN_HDR_A3_LEN + (l.drop Wifi.WLAN_HDR_A3_LEN).length := by
    rw [List.length_drop]
    omega
  constructor
  · intro h
    have hpktlen : (l.length : ℤ) = Wifi.WLAN_HDR_A3_LEN + (fixed ++ encodeAll out).length := h.pktlen
    have hsame : (fixed ++ encodeAll out).length = (l.drop Wifi.WLAN_HDR_A3_LEN).length := by omega
    have hbody := h.body
    rwa [hsame, hbytes] at hbody
  · intro h
    rw [h] at hbytes hlen
    refine ⟨rfl, ?_, ?_, hbytes⟩
    · show ((TXDESC_OFFSET : ℕ) : ℤ) + l.length ≤ (MAX_XMIT_EXTBUF_SZ : ℕ)
      exact_mod_cast hfit
    · show (l.length : ℤ) = _
      exact_mod_cast hlen

/-! ## How both begin -/

theorem wlanhdr_length (addr1 addr2 addr3 : Vector UInt8 6) (seq type : ℕ) :
    (wlanhdr addr1 addr2 addr3 seq type).length = Wifi.WLAN_HDR_A3_LEN := bytesAt_length _

/-- The buffer, with zeros in place of the descriptor and the header. -/
def cleared (s : Regions Area) : Mem := putBytes (s .frame) 0 (List.replicate (WLANHDR_OFFSET + TXDESC_OFFSET) 0)

theorem gives_startFrame (s : Regions Area) (hdr : List UInt8) (hlen : hdr.length = Wifi.WLAN_HDR_A3_LEN) :
    Gives Stays (startFrame hdr) s fun c u => c = atEnd hdr ∧ Builds s (cleared s) hdr u := by
  have hzeros : Gives Stays (store .frame 0 (List.replicate (WLANHDR_OFFSET + TXDESC_OFFSET) 0)) s fun _ u =>
      Builds s (cleared s) [] u := by
    refine ⟨inside_storeFrame le_rfl (by decide), ?_, ?_, ?_⟩
    · rw [store_st, Function.update_self, putBytes_nil]
      rfl
    · rw [store_st, Function.update_of_ne (by decide)]
    · rw [store_st, Function.update_of_ne (by decide)]
  refine hzeros.bind fun _ u hu => ?_
  have hput := hu.put hdr (by rw [hlen]; decide)
  have hbegin : atEnd [] = ⟨TXDESC_OFFSET, 0⟩ := rfl
  rwa [hbegin, List.nil_append] at hput

section
variable {a : ApConf} {fixed : List UInt8} {es : List Tlv} {w : Tlv} {len : ℕ} {s t : Regions Area}

namespace Network

variable (h : Network a fixed es w len s)
include h

theorem length : len = 12 + (encodeAll es).length := by
  have hlen := (bytesAt_eq_append.mp h.bytes).1
  rw [h.twelve] at hlen
  exact hlen

theorem elements : bytesAt (s .ies) (12 : ℕ) (encodeAll es).length = encodeAll es := by
  have hbytes := (bytesAt_eq_append.mp h.bytes).2.2
  rw [h.twelve, zero_add] at hbytes
  exact hbytes

theorem take {pre es' : List Tlv} (hes : es = pre ++ es') :
    bytesAt (s .ies) 0 (12 + (encodeAll pre).length) = fixed ++ encodeAll pre := by
  have hbytes := h.bytes
  rw [hes, encodeAll_append, ← List.append_assoc] at hbytes
  have htake := (bytesAt_eq_append.mp hbytes).2.1
  rw [List.length_append, h.twelve] at htake
  exact htake

theorem drop {pre es' : List Tlv} (hes : es = pre ++ es') :
    bytesAt (s .ies) ((12 + (encodeAll pre).length : ℕ) : ℤ) (encodeAll es').length = encodeAll es' := by
  have hbytes := h.bytes
  rw [hes, encodeAll_append, ← List.append_assoc] at hbytes
  have hdrop := (bytesAt_eq_append.mp hbytes).2.2
  rw [List.length_append, h.twelve, zero_add] at hdrop
  exact hdrop

theorem length_split {pre post : List Tlv} {e : Tlv} (hes : es = pre ++ e :: post) :
    len = 12 + (encodeAll pre).length + e.size + (encodeAll post).length := by
  rw [h.length, hes, encodeAll_append, encodeAll_cons, List.length_append, List.length_append, encode_length]
  omega

theorem behind {pre post : List Tlv} {e : Tlv} (hes : es = pre ++ e :: post) :
    bytesAt (s .ies) (((12 + (encodeAll pre).length : ℕ) : ℤ) + e.size) (encodeAll post).length = encodeAll post := by
  have hparts : es = (pre ++ [e]) ++ post := by
    rw [hes, List.append_assoc]
    rfl
  have hdrop := h.drop hparts
  rw [encodeAll_append, encodeAll_cons, encodeAll_nil, List.append_nil, List.length_append, encode_length, ← add_assoc,
    Nat.cast_add] at hdrop
  exact hdrop

end Network

theorem uint_ofNat {z : ℤ} {n : ℕ} (hz : z = n) (hn : n < 2 ^ 32) : uint z = n := by
  rw [hz, uint_natCast n hn]

theorem gives_getWpsIe (h : Network a fixed es w len s) (ht : t .ies = s .ies) : Gives Stays (getWpsIe len) t fun v u =>
    v = (splitWps (bytesAt (s .ies) len 4) es).map (fun x =>
      ⟨((12 + (encodeAll x.1).length : ℕ) : ℤ), x.2.1.size, []⟩) ∧ u = t := by
  have hlen := h.length
  have hsmall := h.small
  have hmax : MAX_IE_SZ = 768 := rfl
  have huint : uint ((len : ℤ) - _FIXED_IE_LENGTH_) = (encodeAll es).length := by
    refine uint_ofNat ?_ (by omega)
    have htwelve : _FIXED_IE_LENGTH_ = 12 := rfl
    omega
  have hbuf : bytesAt (s .ies) (12 : ℕ) (encodeAll es ++ bytesAt (s .ies) len 4).length =
      encodeAll es ++ bytesAt (s .ies) len 4 := by
    rw [List.length_append, bytesAt_length, bytesAt_add, h.elements, hlen]
    push_cast
    rfl
  have hval := rtwGetWpsIe_list hbuf (by rw [bytesAt_length])
  have hst : ((rtwGetWpsIe (12 : ℕ) (encodeAll es).length false).run (s .ies)).st = s .ies := rtwGetIeEx_st _ _
  rw [getWpsIe, huint]
  refine ⟨?_, ?_, ?_⟩
  · rw [inside_zoom]
    exact fun _ _ => trivial
  · rw [zoom_val]
    show ((rtwGetWpsIe (12 : ℕ) (encodeAll es).length false).run (t .ies)).val = _
    rw [ht, hval]
    push_cast
    rfl
  · rw [zoom_st]
    show Function.update t .ies ((rtwGetWpsIe (12 : ℕ) (encodeAll es).length false).run (t .ies)).st = t
    rw [ht, hst, ← ht, Function.update_eq_self]

end

/-! ## What a search for the element for WPS reads -/

theorem inside_rtwGetWpsIe (start : ℤ) (n : ℕ) (m : Mem) :
    Inside (fun x => start ≤ x ∧ x < start + n + 6) (rtwGetWpsIe start n false) m := by
  rcases Nat.eq_zero_or_pos n with rfl | hpos
  · exact inside_pure _ _ _
  have hiff := @Search.inside_search_iff m start n false (lookIe start _VENDOR_SPECIFIC_IE_ (some wpsOui))
    (answerIe m start _VENDOR_SPECIFIC_IE_ (some wpsOui)) (fun _ => lookIe_val) (fun _ => lookIe_st)
    (fun x => start ≤ x ∧ x < start + n + 6) n 0 hpos (by omega)
  refine hiff.mpr fun j hj => ?_
  have hlt := hj.lt n hpos fun i k h => (Search.nextAt_lt h).2
  refine ⟨?_, fun _ => by omega, fun _ h => Bool.noConfusion h⟩
  unfold lookIe
  rw [inside_bind, inside_read, read_st, inside_ite]
  refine ⟨by omega, ?_⟩
  split
  · exact inside_pure _ _ _
  · dsimp only
    rw [lookOui, inside_bind, inside_peekList]
    refine ⟨fun k hk => ?_, inside_pure _ _ _⟩
    have hfour : wpsOui.length = 4 := rfl
    show start ≤ start + j + 2 + (k : ℕ) ∧ start + j + 2 + (k : ℕ) < start + n + 6
    omega

end ApFrame

end Rtl8723au
