import Rtl8723au.Ieee80211.SetIe
import Rtl8723au.Mlme.ApFrameBuild
import Rtl8723au.Mlme.ApProberspBytes
import Rtl8723au.Mlme.ApBeacon

/-! `issue_probersp`: when the probe response that it sends is the one it should; and when both frames of an access point are. -/
namespace Rtl8723au
namespace ApFrame
open AccessM Regions Tlv Security Ieee80211 Mem
set_option autoImplicit false

/-! ## The element for WPS -/

section
variable {a : ApConf} {fixed hdr l : List UInt8} {es : List Tlv} {w : Tlv} {len : ℕ} {s t : Regions Area} {m : Mem}

theorem Builds.copyIf (h : Builds s m l t) (fits : Bool) {r : Area} (hr : r = .ies ∨ r = .wps) (x : ℤ) (n : ℕ)
    (hfit : TXDESC_OFFSET + l.length + n ≤ MAX_XMIT_EXTBUF_SZ) : Gives Stays (copyIf fits r x n (atEnd l)) t fun c u =>
      c = atEnd (l ++ if fits then bytesAt (s r) x n else []) ∧ Builds s m (l ++ if fits then bytesAt (s r) x n else []) u := by
  cases fits with
  | false =>
    have hnil : (l ++ if false = true then bytesAt (s r) x n else []) = l := List.append_nil l
    rw [hnil]
    exact .pure ⟨rfl, h⟩
  | true => exact h.copy hr x n hfit

/-- The elements with `wps_probe_resp_ie` in their place. -/
theorem gives_replaceWps (h : Network a fixed es w len s) (hhdr : hdr.length = Wifi.WLAN_HDR_A3_LEN) (ht : Builds s m hdr t) :
    Gives Stays (replaceWps a len (atEnd hdr)) t fun c u =>
      c = atEnd (hdr ++ fixed ++ encodeAll (probeList a (bytesAt (s .ies) len 4) w es)) ∧
        Builds s m (hdr ++ fixed ++ encodeAll (probeList a (bytesAt (s .ies) len 4) w es)) u := by
  have htwelve : fixed.length = 12 := h.twelve
  have hlen := h.length
  have hsmall := h.small
  have hmax : MAX_IE_SZ = 768 ∧ MAX_XMIT_EXTBUF_SZ = 1536 ∧ TXDESC_OFFSET = 40 ∧ Wifi.WLAN_HDR_A3_LEN = 24 ∧
      _FIXED_IE_LENGTH_ = 12 := ⟨rfl, rfl, rfl, rfl, rfl⟩
  obtain ⟨hmaxIe, hmaxBuf, hdesc, hwlan, hfixed⟩ := hmax
  have hall : Gives Stays (copy .ies 0 len (atEnd hdr)) t fun c u =>
      c = atEnd (hdr ++ fixed ++ encodeAll es) ∧ Builds s m (hdr ++ fixed ++ encodeAll es) u := by
    have hcopy := ht.copy (.inl rfl) 0 len (by omega)
    rwa [h.bytes, ← List.append_assoc] at hcopy
  refine (gives_getWpsIe h ht.ies).bind fun v u hv => ?_
  obtain ⟨rfl, rfl⟩ := hv
  rw [probeList, replacedWps]
  by_cases hstored : a.wpsProbeRespIe = true
  · rw [if_pos hstored, if_pos hstored]
    cases hsplit : splitWps (bytesAt (s .ies) len 4) es with
    | none => exact hall
    | some found =>
      obtain ⟨pre, e, post⟩ := found
      obtain ⟨hes, -, -⟩ := splitWps_some hsplit
      obtain ⟨-, hwps⟩ := h.wps hstored
      have hlen := h.length_split hes
      have hencode : bytesAt (s .wps) 0 (w.encode ++ []).length = w.encode ++ [] := by rwa [List.append_nil]
      obtain ⟨-, hbyte, -⟩ := encode_at hencode
      have hsize : w.size = w.body.length + 2 := rfl
      have hshort := w.short
      have hoffset : uint ((12 + (encodeAll pre).length : ℕ) : ℤ) = 12 + (encodeAll pre).length := uint_ofNat rfl (by omega)
      have hremainder : uint ((len : ℤ) - (12 + (encodeAll pre).length : ℕ) - e.size) = (encodeAll post).length :=
        uint_ofNat (by omega) (by omega)
      dsimp only [Option.map_some, Option.elim_some]
      rw [hoffset, hremainder]
      refine (ht.copy (.inl rfl) 0 (12 + (encodeAll pre).length) (by omega)).bind fun c u hu => ?_
      obtain ⟨rfl, hu⟩ := hu
      rw [h.take hes, ← List.append_assoc] at hu ⊢
      have hpeek : Gives Stays (peek (region .wps) 1) u fun v u' => v.toNat = w.body.length ∧ u' = u := by
        refine ⟨(inside_peek _ _ _ _).mpr trivial, ?_, rfl⟩
        show (u .wps 1).toNat = w.body.length
        rw [hu.wps]
        exact hbyte
      refine hpeek.bind fun v u' hv => ?_
      obtain ⟨hv, rfl⟩ := hv
      rw [hv]
      have hfront : (hdr ++ fixed ++ encodeAll pre).length = 36 + (encodeAll pre).length := by
        simp only [List.length_append]
        omega
      have hstored : bytesAt (s .wps) 0 (w.body.length + 2) = w.encode := hwps
      have hpart : ∀ c : Bool, (if c then w.encode else []).length ≤ w.body.length + 2 := by
        intro c
        cases c with
        | false => exact Nat.zero_le _
        | true => exact le_rfl
      refine (hu.copyIf _ (.inr rfl) 0 (w.body.length + 2) (by rw [hfront]; omega)).bind fun c u hu => ?_
      obtain ⟨rfl, hu⟩ := hu
      rw [hstored] at hu ⊢
      have hcopy := hu.copyIf (12 + (encodeAll pre).length + w.body.length + 2 + (encodeAll post).length ≤ MAX_IE_SZ) (.inl rfl)
        (((12 + (encodeAll pre).length : ℕ) : ℤ) + e.size) (encodeAll post).length (by
          have hpart := hpart (12 + (encodeAll pre).length + w.body.length + 2 ≤ MAX_IE_SZ)
          rw [List.length_append, hfront]
          omega)
      have hlist : hdr ++ fixed ++ encodeAll (copiedList w (pre, e, post)) = hdr ++ fixed ++ encodeAll pre ++
          (if decide (12 + (encodeAll pre).length + w.body.length + 2 ≤ MAX_IE_SZ) = true then w.encode else []) ++
          (if decide (12 + (encodeAll pre).length + w.body.length + 2 + (encodeAll post).length ≤ MAX_IE_SZ) = true then
            encodeAll post else []) := by
        have hone : _FIXED_IE_LENGTH_ + (encodeAll pre).length + w.size = 12 + (encodeAll pre).length + w.body.length + 2 := by omega
        simp only [copiedList, hone, decide_eq_true_eq, encodeAll_append, List.append_assoc]
        split_ifs <;> simp
      rw [h.behind hes, ← hlist] at hcopy
      exact hcopy
  · rw [if_neg hstored, if_neg hstored]
    exact hall

/-! ## The SSID -/

theorem bytesAt_outside {m : Mem} {p q : ℤ} {l : List UInt8} {n : ℕ} (h : p + n ≤ q ∨ q + l.length ≤ p) :
    bytesAt (putBytes m q l) p n = bytesAt m p n :=
  bytesAt_congr n fun k hk => putBytes_outside _ _ _ _ (by omega)

/-- The bytes behind the three writes: those that the move puts too low stay in front of the length. -/
theorem bytesAt_restored (m : Mem) (p : ℤ) (front old rest ssid : List UInt8) (b v : UInt8)
    (hfront : old.length - ssid.length - 1 ≤ front.length) :
    bytesAt (putBytes (putBytes (putBytes (putBytes m p (front ++ b :: (old ++ rest)))
        (p + front.length + 1 + ((ssid.length : ℤ) - old.length)) (old ++ rest)) (p + front.length) [v]) (p + front.length + 1) ssid)
      p (overrun front old (old.length - ssid.length - 1) ++ (v :: ssid) ++ rest).length =
        overrun front old (old.length - ssid.length - 1) ++ (v :: ssid) ++ rest := by
  set n := old.length - ssid.length - 1 with hn
  have hkept : (front.take (front.length - n)).length = front.length - n := List.length_take_of_le (Nat.sub_le _ _)
  have hover : (old.take n).length = n := List.length_take_of_le (by omega)
  have hone : ([v] : List UInt8).length = 1 := rfl
  have hmoved : (old ++ rest).length = old.length + rest.length := List.length_append
  -- the bytes in front, those of the old SSID over them, the length, the SSID, and the rest
  have hlist : overrun front old n ++ (v :: ssid) ++ rest = front.take (front.length - n) ++ (old.take n ++ ([v] ++ (ssid ++ rest))) := by
    simp [overrun]
  rw [hlist]
  refine bytesAt_eq_append.mpr ⟨List.length_append, ?_, bytesAt_eq_append.mpr ⟨List.length_append, ?_,
    bytesAt_eq_append.mpr ⟨List.length_append, ?_, bytesAt_eq_append.mpr ⟨List.length_append, ?_, ?_⟩⟩⟩⟩
  · rw [hkept, bytesAt_outside (.inl (by omega)), bytesAt_outside (.inl (by omega)), bytesAt_outside (.inl (by omega))]
    have hstart := @bytesAt_putBytes m p [] (front.take (front.length - n)) (front.drop (front.length - n) ++ b :: (old ++ rest))
    rw [List.nil_append, ← List.append_assoc, List.take_append_drop, List.length_nil, Nat.cast_zero, add_zero, hkept] at hstart
    exact hstart
  · rw [hkept, hover, bytesAt_outside (.inl (by omega)), bytesAt_outside (.inl (by omega))]
    by_cases hnone : n = 0
    · rw [hnone]
      rfl
    · have hplace : p + ((front.length - n : ℕ) : ℤ) = p + front.length + 1 + ((ssid.length : ℤ) - old.length) := by omega
      have hstart := @bytesAt_putBytes (putBytes m p (front ++ b :: (old ++ rest)))
        (p + front.length + 1 + ((ssid.length : ℤ) - old.length)) [] (old.take n) (old.drop n ++ rest)
      rw [List.nil_append, ← List.append_assoc, List.take_append_drop, List.length_nil, Nat.cast_zero, add_zero, hover] at hstart
      rw [hplace]
      exact hstart
  · have hplace : p + ((front.take (front.length - n)).length : ℤ) + (old.take n).length = p + front.length := by omega
    rw [hplace, bytesAt_outside (.inl (by omega))]
    exact bytesAt_written _ _ _
  · have hplace : p + ((front.take (front.length - n)).length : ℤ) + (old.take n).length + ([v] : List UInt8).length =
        p + front.length + 1 := by omega
    rw [hplace]
    exact bytesAt_written _ _ _
  · have hplace : p + ((front.take (front.length - n)).length : ℤ) + (old.take n).length + ([v] : List UInt8).length + ssid.length =
        p + front.length + 1 + ((ssid.length : ℤ) - old.length) + old.length := by omega
    rw [hplace, bytesAt_outside (.inr (by omega)), bytesAt_outside (.inr (by omega))]
    have hrest := @bytesAt_putBytes (putBytes m p (front ++ b :: (old ++ rest)))
      (p + front.length + 1 + ((ssid.length : ℤ) - old.length)) old rest []
    rw [List.append_nil] at hrest
    exact hrest

/-- The frame is `f`, and what it is made of is as it was. -/
structure Framed (s : Regions Area) (f : Mem) (u : Regions Area) : Prop where
  frame : u .frame = f
  ies : u .ies = s .ies
  wps : u .wps = s .wps

theorem Framed.store {f : Mem} {x : ℤ} (h : Framed s f t) (hlo : 0 ≤ x) (hhi : x + l.length ≤ MAX_XMIT_EXTBUF_SZ) :
    Gives Stays (store .frame x l) t fun _ u => Framed s (putBytes f x l) u := by
  refine ⟨inside_storeFrame hlo hhi, ?_, ?_, ?_⟩
  · rw [store_st, Function.update_self, h.frame]
  · rw [store_st, Function.update_of_ne (by decide)]
    exact h.ies
  · rw [store_st, Function.update_of_ne (by decide)]
    exact h.wps

/-- A stretch of the frame is moved by way of `buf`. -/
theorem Framed.move {f : Mem} {x y : ℤ} {n : ℕ} (h : Framed s f t) (hn : n ≤ MAX_IE_SZ) (hx : 0 ≤ x) (hx' : x + n ≤ MAX_XMIT_EXTBUF_SZ)
    (hy : 0 ≤ y) (hy' : y + n ≤ MAX_XMIT_EXTBUF_SZ) {β : Type} {k : W β} {Q : β → Regions Area → Prop}
    (hk : ∀ u, Framed s (putBytes f y (bytesAt f x n)) u → Gives Stays k u Q) :
    Gives Stays (do
      memcpy .buf 0 .frame x n
      memcpy .frame y .buf 0 n
      k) t Q := by
  have hload : Gives Stays (load .frame x n) t fun b u => b = bytesAt f x n ∧ u = t := by
    refine ⟨inside_loadFrame hx hx', ?_, rfl⟩
    rw [load_val, h.frame, bytesAt]
  have hfirst : Gives Stays (memcpy .buf 0 .frame x n) t fun _ u => Framed s f u ∧ bytesAt (u .buf) 0 n = bytesAt f x n := by
    refine hload.bind fun b u hu => ?_
    obtain ⟨rfl, rfl⟩ := hu
    refine ⟨?_, ⟨?_, ?_, ?_⟩, ?_⟩
    · rw [inside_store_iff]
      intro i hi
      rw [bytesAt_length] at hi
      show 0 ≤ 0 + ((i : ℕ) : ℤ) ∧ 0 + ((i : ℕ) : ℤ) < (MAX_IE_SZ : ℕ)
      omega
    · rw [store_st, Function.update_of_ne (by decide)]
      exact h.frame
    · rw [store_st, Function.update_of_ne (by decide)]
      exact h.ies
    · rw [store_st, Function.update_of_ne (by decide)]
      exact h.wps
    · have hwritten := bytesAt_written (u .buf) 0 (bytesAt f x n)
      rw [bytesAt_length] at hwritten
      rw [store_st, Function.update_self]
      exact hwritten
  refine hfirst.bind fun _ u hu => ?_
  obtain ⟨hframed, hbuf⟩ := hu
  have hback : Gives Stays (load .buf 0 n) u fun b v => b = bytesAt f x n ∧ v = u := by
    refine ⟨?_, hbuf, rfl⟩
    rw [inside_load_iff]
    intro i hi
    show 0 ≤ 0 + ((i : ℕ) : ℤ) ∧ 0 + ((i : ℕ) : ℤ) < (MAX_IE_SZ : ℕ)
    omega
  have hsecond : Gives Stays (memcpy .frame y .buf 0 n) u fun _ v => Framed s (putBytes f y (bytesAt f x n)) v := by
    refine hback.bind fun b v hv => ?_
    obtain ⟨rfl, rfl⟩ := hv
    exact hframed.store hy (by rw [bytesAt_length]; exact hy')
  exact hsecond.bind fun _ v hv => hk v hv

/-- What is in the frame once the SSID is restored. -/
structure Restored (a : ApConf) (hdr fixed : List UInt8) (es : List Tlv) (s : Regions Area) (c : Cursor) (u : Regions Area) : Prop where
  frame : ∃ f m, c = atEnd f ∧ Builds s m f u ∧ f.drop hdr.length = probeBytes a fixed es ∧ hdr.length ≤ f.length ∧
    f.length ≤ (hdr ++ fixed ++ encodeAll es).length + 32

theorem gives_restoreSsid (hhdr : hdr.length = Wifi.WLAN_HDR_A3_LEN) (htwelve : fixed.length = _FIXED_IE_LENGTH_)
    (hsmall : _FIXED_IE_LENGTH_ + (encodeAll es).length ≤ MAX_IE_SZ) (hshort : ∀ e ∈ es, e.id = _SSID_IE_ → e.body.length ≤ 32)
    (hnamed : 0 < a.ssid.length) (ht : Builds s m (hdr ++ fixed ++ encodeAll es) t) :
    Gives Stays (restoreSsid a (atEnd (hdr ++ fixed ++ encodeAll es))) t fun c u => Restored a hdr fixed es s c u := by
  have hmax : MAX_IE_SZ = 768 ∧ MAX_XMIT_EXTBUF_SZ = 1536 ∧ TXDESC_OFFSET = 40 ∧ Wifi.WLAN_HDR_A3_LEN = 24 ∧
      _FIXED_IE_LENGTH_ = 12 := ⟨rfl, rfl, rfl, rfl, rfl⟩
  obtain ⟨hmaxIe, hmaxBuf, hdesc, hwlan, hfixed⟩ := hmax
  have hname := a.ssidShort
  have hlen : (hdr ++ fixed ++ encodeAll es).length = 36 + (encodeAll es).length := by
    rw [List.length_append, List.length_append]
    omega
  have hfit : TXDESC_OFFSET + (hdr ++ fixed ++ encodeAll es).length ≤ MAX_XMIT_EXTBUF_SZ := by omega
  have hstart : ((TXDESC_OFFSET : ℕ) : ℤ) + Wifi.WLAN_HDR_A3_LEN + _FIXED_IE_LENGTH_ = TXDESC_OFFSET + (hdr ++ fixed).length := by
    rw [List.length_append]
    omega
  have hlimit : (atEnd (hdr ++ fixed ++ encodeAll es)).pframe - (((TXDESC_OFFSET : ℕ) : ℤ) + Wifi.WLAN_HDR_A3_LEN) -
      _FIXED_IE_LENGTH_ = (encodeAll es).length := by
    show ((TXDESC_OFFSET : ℕ) : ℤ) + (hdr ++ fixed ++ encodeAll es).length - _ - _ = _
    omega
  rw [restoreSsid]
  dsimp only
  rw [hstart, hlimit]
  cases hsplit : splitSsid es with
  | none =>
    have hsearch := ht.getSsid hfit fun hall => rtwGetIe_none hall (splitSsid_none_iff.mp hsplit)
    refine hsearch.bind fun v u hv => ?_
    obtain ⟨rfl, rfl⟩ := hv
    refine .pure ⟨_, m, rfl, ht, ?_, ?_, Nat.le_add_right _ _⟩
    · rw [probeBytes, hsplit, List.append_assoc, List.drop_left]
      rfl
    · omega
  | some found =>
    obtain ⟨pre, e, post⟩ := found
    obtain ⟨rfl, hid, hpre⟩ := splitSsid_some hsplit
    have hold := hshort e (List.mem_append_right _ List.mem_cons_self) hid
    obtain ⟨front, hfront⟩ : ∃ front, front = fixed ++ encodeAll pre ++ [e.id] := ⟨_, rfl⟩
    obtain ⟨n, hn⟩ : ∃ n, n = e.body.length - a.ssid.length - 1 := ⟨_, rfl⟩
    have hfrontLen : (hdr ++ front).length = 37 + (encodeAll pre).length := by
      rw [hfront]
      simp only [List.length_append, List.length_singleton]
      omega
    have htotal : (encodeAll (pre ++ e :: post)).length = (encodeAll pre).length + 2 + e.body.length + (encodeAll post).length := by
      simp only [encodeAll_append, encodeAll_cons, List.length_append, encode_length, size]
      omega
    have hmoved : (e.body ++ encodeAll post).length = e.body.length + (encodeAll post).length := List.length_append
    have hlist : hdr ++ fixed ++ encodeAll (pre ++ e :: post) =
        hdr ++ front ++ UInt8.ofNat e.body.length :: (e.body ++ encodeAll post) := by
      rw [hfront]
      simp [encode]
    have hplace : ((TXDESC_OFFSET : ℕ) : ℤ) + (hdr ++ fixed).length + (encodeAll pre).length + 2 =
        TXDESC_OFFSET + (hdr ++ front).length + 1 := by
      rw [List.length_append]
      omega
    have hplace' : ((TXDESC_OFFSET : ℕ) : ℤ) + (hdr ++ fixed).length + (encodeAll pre).length + 1 =
        TXDESC_OFFSET + (hdr ++ front).length := by
      rw [List.length_append]
      omega
    have hcount : min (uint ((atEnd (hdr ++ fixed ++ encodeAll (pre ++ e :: post))).pframe -
        (((TXDESC_OFFSET : ℕ) : ℤ) + (hdr ++ front).length + 1))) MAX_IE_SZ = (e.body ++ encodeAll post).length := by
      rw [uint_ofNat (n := (e.body ++ encodeAll post).length) ?_ (by omega)]
      · omega
      · show ((TXDESC_OFFSET : ℕ) : ℤ) + (hdr ++ fixed ++ encodeAll (pre ++ e :: post)).length - _ = _
        omega
    have hsearch := ht.getSsid hfit fun hall => hid ▸ rtwGetIe_found hall rfl fun x hx => hid ▸ hpre x hx
    refine hsearch.bind fun v u hv => ?_
    obtain ⟨rfl, rfl⟩ := hv
    dsimp only
    rw [if_neg hnamed.ne', hplace, hplace', hcount]
    have hframed : Framed s (putBytes m TXDESC_OFFSET (hdr ++ front ++ UInt8.ofNat e.body.length :: (e.body ++ encodeAll post))) u :=
      ⟨by rw [ht.frame, hlist], ht.ies, ht.wps⟩
    have hread : bytesAt (putBytes m TXDESC_OFFSET (hdr ++ front ++ UInt8.ofNat e.body.length :: (e.body ++ encodeAll post)))
        (TXDESC_OFFSET + (hdr ++ front).length + 1) (e.body ++ encodeAll post).length = e.body ++ encodeAll post := by
      have h := @bytesAt_putBytes m TXDESC_OFFSET (hdr ++ front ++ [UInt8.ofNat e.body.length]) (e.body ++ encodeAll post) []
      rw [List.append_nil, List.append_assoc, List.singleton_append, List.length_append, List.length_singleton] at h
      push_cast at h
      rw [← add_assoc] at h
      exact h
    refine hframed.move (by omega) (by omega) (by omega) (by omega) (by omega) fun u hu => ?_
    rw [hread] at hu
    refine (hu.store (by omega) (by rw [List.length_singleton]; omega)).bind fun _ u hu => ?_
    refine (hu.store (by omega) (by omega)).bind fun _ u hu => .pure ?_
    have hbytes := bytesAt_restored m TXDESC_OFFSET (hdr ++ front) e.body (encodeAll post) a.ssid (UInt8.ofNat e.body.length)
      (UInt8.ofNat a.ssid.length) (by omega)
    rw [← hn] at hbytes
    have hover := @overrun_length (hdr ++ front) e.body n (by omega) (by omega)
    have hlength : (overrun (hdr ++ front) e.body n ++ (UInt8.ofNat a.ssid.length :: a.ssid) ++ encodeAll post).length =
        (hdr ++ front).length + 1 + a.ssid.length + (encodeAll post).length := by
      rw [List.length_append, List.length_append, hover, List.length_cons]
      omega
    refine ⟨_, _, atEnd_of_length ?_, ⟨hu.frame.trans (putBytes_at hbytes).symm, hu.ies, hu.wps⟩, ?_, ?_, ?_⟩
    · rw [hlength]
      omega
    · rw [List.append_assoc, List.drop_append_of_le_length (by rw [hover, List.length_append]; omega),
        drop_overrun (by rw [List.length_append] at hfrontLen; omega), probeBytes, hsplit, hfront, hn]
      exact (List.append_assoc _ _ _).symm
    · rw [hlength, List.length_append]
      omega
    · rw [hlength]
      omega

/-! ## The whole -/

theorem mem_probeList {behind : List UInt8} {x : Tlv} (hx : x ∈ probeList a behind w es) :
    x ∈ es ∨ a.wpsProbeRespIe = true ∧ x = w := by
  rw [probeList] at hx
  cases htaken : replacedWps a behind es with
  | none =>
    rw [htaken] at hx
    exact .inl hx
  | some found =>
    obtain ⟨pre, e, post⟩ := found
    rw [htaken] at hx
    rw [replacedWps] at htaken
    split at htaken
    next hstored =>
      obtain ⟨rfl, -, -⟩ := splitWps_some htaken
      have hcopied : x ∈ pre ∨ x = w ∨ x ∈ post := by
        rcases List.mem_append.mp hx with hx | hx
        · exact .inl hx
        · rcases List.mem_append.mp hx with hx | hx
          · split at hx
            · exact .inr (.inl (List.mem_singleton.mp hx))
            · exact absurd hx List.not_mem_nil
          · split at hx
            · exact .inr (.inr hx)
            · exact absurd hx List.not_mem_nil
      rcases hcopied with hx | hx | hx
      · exact .inl (List.mem_append_left _ hx)
      · exact .inr ⟨hstored, hx⟩
      · exact .inl (List.mem_append_right _ (List.mem_cons_of_mem _ hx))
    · cases htaken

/-- The copy keeps to `MAX_IE_SZ`. -/
theorem probeList_small (h : Network a fixed es w len s) (behind : List UInt8) :
    _FIXED_IE_LENGTH_ + (encodeAll (probeList a behind w es)).length ≤ MAX_IE_SZ := by
  have hlen := h.length
  have hsmall := h.small
  have hfixed : _FIXED_IE_LENGTH_ = 12 := rfl
  rw [probeList]
  cases htaken : replacedWps a behind es with
  | none =>
    show _FIXED_IE_LENGTH_ + (encodeAll es).length ≤ MAX_IE_SZ
    omega
  | some found =>
    obtain ⟨pre, e, post⟩ := found
    rw [replacedWps] at htaken
    split at htaken
    · obtain ⟨hes, -, -⟩ := splitWps_some htaken
      have hsplit := h.length_split hes
      show _FIXED_IE_LENGTH_ + (encodeAll (copiedList w (pre, e, post))).length ≤ MAX_IE_SZ
      rw [copiedList, encodeAll_append, encodeAll_append, List.length_append, List.length_append]
      dsimp only
      split_ifs <;> simp only [encodeAll_cons, encodeAll_nil, List.append_nil, List.length_nil, encode_length] <;> omega
    · cases htaken

theorem encodeAll_built_le (wanted : Bool) (a : ApConf) : (encodeAll (built wanted a)).length ≤ 514 := by
  have hp2p := a.p2pIe.short
  have hwfd := a.wfdIe.short
  cases wanted with
  | false => exact Nat.zero_le _
  | true =>
    show (encodeAll [a.p2pIe, a.wfdIe]).length ≤ 514
    simp only [encodeAll_cons, encodeAll_nil, List.append_nil, List.length_append, encode_length, size]
    omega

def proberspHdr (a : ApConf) (da : Vector UInt8 6) : List UInt8 := wlanhdr da a.myid a.macAddress a.mgntSeq WIFI_PROBERSP

/-- A run of `issue_probersp` stays inside, and what it does with the frame depends on the driver only. -/
theorem issueProbersp_run (h : Network a fixed es w len s) (halloc : a.alloc = true) (da : Vector UInt8 6)
    (isValidP2pProbereq : Bool) : Gives Stays (issueProbersp a da isValidP2pProbereq len) s fun issue u =>
      ∃ f m, issue = dumpMgntframe a (atEnd (f ++ encodeAll (built (a.go && isValidP2pProbereq) a))) ∧
        Builds s m (f ++ encodeAll (built (a.go && isValidP2pProbereq) a)) u ∧ Wifi.WLAN_HDR_A3_LEN ≤ f.length ∧
        TXDESC_OFFSET + (f ++ encodeAll (built (a.go && isValidP2pProbereq) a)).length ≤ MAX_XMIT_EXTBUF_SZ ∧
        f.drop Wifi.WLAN_HDR_A3_LEN = probeBytes a fixed (probeList a (bytesAt (s .ies) len 4) w es) := by
  have hnot : ¬(!a.alloc) = true := by rw [halloc]; exact Bool.false_ne_true
  have hhdr : (proberspHdr a da).length = Wifi.WLAN_HDR_A3_LEN := wlanhdr_length _ _ _ _ _
  have hmax : MAX_IE_SZ = 768 ∧ MAX_XMIT_EXTBUF_SZ = 1536 ∧ TXDESC_OFFSET = 40 ∧ Wifi.WLAN_HDR_A3_LEN = 24 ∧
      _FIXED_IE_LENGTH_ = 12 := ⟨rfl, rfl, rfl, rfl, rfl⟩
  obtain ⟨hmaxIe, hmaxBuf, hdesc, hwlan, hfixed⟩ := hmax
  have htwelve := h.twelve
  have hsmall := probeList_small h (bytesAt (s .ies) len 4)
  have hssid : ∀ e ∈ probeList a (bytesAt (s .ies) len 4) w es, e.id = _SSID_IE_ → e.body.length ≤ 32 := by
    intro e he hid
    rcases mem_probeList he with he | ⟨hstored, rfl⟩
    · obtain ⟨pre, x, post, rfl, -, hshort, hothers⟩ := h.ssid
      rcases List.mem_append.mp he with hmem | hmem
      · exact absurd hid (hothers e (List.mem_append_left _ hmem))
      · rcases List.mem_cons.mp hmem with rfl | hmem
        · exact hshort
        · exact absurd hid (hothers e (List.mem_append_right _ hmem))
    · exact absurd hid (vendor_ne_ssid (h.wps hstored).1.id)
  rw [issueProbersp, if_neg hnot]
  refine (gives_startFrame s (proberspHdr a da) hhdr).bind fun c t ht => ?_
  obtain ⟨rfl, ht⟩ := ht
  rw [if_neg (Nat.not_lt.mpr h.small)]
  refine (gives_replaceWps h hhdr ht).bind fun c t ht => ?_
  obtain ⟨rfl, ht⟩ := ht
  generalize probeList a (bytesAt (s .ies) len 4) w es = l at ht hsmall hssid ⊢
  refine (gives_restoreSsid hhdr htwelve hsmall hssid h.named ht).bind fun c t ht => ?_
  obtain ⟨f, m, rfl, ht, hdrop, hlow, hhigh⟩ := ht.frame
  rw [List.length_append, List.length_append] at hhigh
  have hbuilt := encodeAll_built_le (a.go && isValidP2pProbereq) a
  refine (ht.appendBuilt (a.go && isValidP2pProbereq) a (by omega)).bind fun c t ht => .pure ?_
  obtain ⟨rfl, ht⟩ := ht
  rw [hhdr] at hdrop hlow
  exact ⟨f, m, rfl, ht, hlow, by rw [List.length_append]; omega, hdrop⟩

/-- `issue_probersp` has no frame, or the driver is not stopped and the bytes are those of the right elements. -/
def ProberspMeets (a : ApConf) (fixed : List UInt8) (es : List Tlv) (w : Tlv) (len : ℕ) (s : Regions Area) : Prop :=
  a.alloc = false ∨ a.stopped = false ∧ ProbeMeets a fixed (bytesAt (s .ies) len 4) w es

theorem proberspIssued_iff (h : Network a fixed es w len s) (da : Vector UInt8 6) (isValidP2pProbereq : Bool) :
    ProberspIssued a da isValidP2pProbereq fixed es w len s ↔ ProberspMeets a fixed es w len s := by
  rw [ProberspMeets, ProberspIssued]
  cases halloc : a.alloc with
  | false =>
    have hdo : (!a.alloc) = true := by rw [halloc]; rfl
    refine iff_of_true ⟨?_, .inl ?_⟩ (.inl rfl)
    · rw [issueProbersp, if_pos hdo]
      exact inside_pure _ _ _
    · rw [issueProbersp, if_pos hdo]
      rfl
  | true =>
    rw [or_iff_right Bool.false_ne_true.symm]
    obtain ⟨hinside, f, m, hissue, hbuilds, hlow, hfit, hdrop⟩ := issueProbersp_run h halloc da isValidP2pProbereq
    obtain ⟨p, x, q, hes, hid, -, hothers⟩ := h.ssid
    rw [and_iff_right hinside, hissue, dumpMgntframe,
      ← probe_iff (fun hstored => (h.wps hstored).1) hes hothers hid]
    have hlength : Wifi.WLAN_HDR_A3_LEN ≤ (f ++ encodeAll (built (a.go && isValidP2pProbereq) a)).length := by
      rw [List.length_append]
      exact hlow.trans (Nat.le_add_right _ _)
    cases hstopped : a.stopped with
    | true =>
      rw [if_pos rfl]
      refine iff_of_false ?_ fun hmeets => Bool.false_ne_true hmeets.1.symm
      rintro (hnothing | ⟨c, l, hsent, -⟩)
      · cases hnothing
      · cases hsent
    | false =>
      rw [if_neg Bool.false_ne_true, and_iff_right rfl]
      constructor
      · rintro (hnothing | ⟨c, l', hsent, hl', hcarries⟩)
        · cases hnothing
        · obtain rfl := Issue.sent.inj hsent
          obtain ⟨l, hl, rfl⟩ := Option.map_eq_some_iff.mp hl'
          have hbytes := (carries_drop_iff hlength hbuilds hfit).mp hcarries
          rw [List.drop_append_of_le_length hlow, hdrop, encodeAll_append, ← List.append_assoc] at hbytes
          exact ⟨l, hl, List.append_cancel_right hbytes⟩
      · rintro ⟨l, hl, hbytes⟩
        refine .inr ⟨_, l ++ built (a.go && isValidP2pProbereq) a, rfl, by rw [hl]; rfl,
          (carries_drop_iff hlength hbuilds hfit).mpr ?_⟩
        rw [List.drop_append_of_le_length hlow, hdrop, encodeAll_append, ← List.append_assoc, hbytes]

end

/-! ## Beacons and probe responses -/

/-- **Beacons and probe responses carry the elements they should**, in their buffers and with nothing left behind, just when
none of the slips shows. -/
theorem issued_iff {a : ApConf} {fixed : List UInt8} {es : List Tlv} {w : Tlv} {len : ℕ} {s : Regions Area}
    (h : Network a fixed es w len s) (da : Vector UInt8 6) (isValidP2pProbereq : Bool) :
    (BeaconIssued a fixed es len s ↔ BeaconMeets a fixed es len s) ∧
      (ProberspIssued a da isValidP2pProbereq fixed es w len s ↔ ProberspMeets a fixed es w len s) :=
  ⟨beaconIssued_iff h, proberspIssued_iff h da isValidP2pProbereq⟩

/-! ## Two networks -/

def noIe : Tlv := ⟨0, [], Nat.zero_lt_succ _⟩

/-- The element of the SSID that the networks have. -/
def shortSsid : Tlv := ⟨_SSID_IE_, [0x61], Nat.one_lt_ofNat⟩

/-- An access point with the SSID "ab" that hides it with zeros. -/
def zeroingAp : ApConf where
  hiddenSsidMode := 2
  ssid := [0x61, 0x62]
  myid := Vector.replicate 6 2
  macAddress := Vector.replicate 6 2
  p2pIe := noIe
  wfdIe := noIe

def fixedZeros : List UInt8 := List.replicate _FIXED_IE_LENGTH_ 0

/-- The network is in `IEs`. -/
def networkOf (es : List Tlv) : Regions Area :=
  fun r => if r = .ies then putBytes (fun _ => 0) 0 (fixedZeros ++ encodeAll es) else fun _ => 0

theorem network_shortSsid {post : List Tlv} (hpost : ∀ x ∈ post, x.id ≠ _SSID_IE_)
    (hsmall : 15 + (encodeAll post).length ≤ MAX_IE_SZ) :
    Network zeroingAp fixedZeros (shortSsid :: post) noIe (15 + (encodeAll post).length) (networkOf (shortSsid :: post)) where
  twelve := List.length_replicate
  bytes := by
    have hwritten := bytesAt_written (fun _ => 0) 0 (fixedZeros ++ encodeAll (shortSsid :: post))
    have hlen : (fixedZeros ++ encodeAll (shortSsid :: post)).length = 15 + (encodeAll post).length := by
      rw [List.length_append, encodeAll_cons, List.length_append]
      have hfixed : fixedZeros.length = 12 := rfl
      have hssid : shortSsid.encode.length = 3 := rfl
      omega
    rw [hlen] at hwritten
    exact hwritten
  small := hsmall
  ssid := ⟨[], shortSsid, post, rfl, rfl, by decide, hpost⟩
  named := by decide
  mode := by decide
  wps := fun h => absurd h (by decide)

/-- The network has nothing but its SSID. -/
theorem issued_shortSsid : BeaconIssued zeroingAp fixedZeros [shortSsid] 15 (networkOf [shortSsid]) ∧
    ProberspIssued zeroingAp (Vector.replicate 6 4) false fixedZeros [shortSsid] noIe 15 (networkOf [shortSsid]) := by
  have hnetwork := @network_shortSsid [] (fun x hx => absurd hx List.not_mem_nil) (by decide)
  obtain ⟨hbeacon, hprobersp⟩ := issued_iff hnetwork (Vector.replicate 6 4) false
  refine ⟨hbeacon.mpr (.inr ⟨rfl, ?_, ?_⟩), hprobersp.mpr (.inr ⟨rfl, ?_, ?_⟩)⟩
  · intro pre e post htaken
    cases htaken
  · intro out hout
    obtain rfl := Option.some.inj hout
    refine ⟨by decide +kernel, 0, fun t ht => ?_⟩
    have hnone : ((rtwGetWpsIe (TXDESC_OFFSET + Wifi.WLAN_HDR_A3_LEN + _FIXED_IE_LENGTH_)
        (encodeAll ([shortSsid].map (hidden zeroingAp.hiddenSsidMode))).length false).run
        (beaconBuffer zeroingAp fixedZeros [shortSsid] (encodeAll ([shortSsid].map (hidden zeroingAp.hiddenSsidMode)))
          (networkOf [shortSsid]))).val.isNone = true := by decide +kernel
    rw [ht] at hnone
    cases hnone
  · intro pre e post htaken
    cases htaken
  · intro l hl pre e post hsplit
    obtain rfl := Option.some.inj hl
    obtain ⟨rfl, rfl, -⟩ : [] = pre ∧ shortSsid = e ∧ [] = post := by simpa [splitSsid, shortSsid] using hsplit
    decide +kernel

/-! ## A beacon that is too large -/

def largeIe : Tlv := ⟨_VENDOR_SPECIFIC_IE_, List.replicate 255 0, by rw [List.length_replicate]; exact Nat.lt_succ_self 255⟩

/-- With two of them the beacon is dropped, and its frame with it. -/
theorem not_issued_large : ¬ ∀ (a : ApConf) (fixed : List UInt8) (es : List Tlv) (w : Tlv) (len : ℕ) (s : Regions Area)
    (da : Vector UInt8 6) (isValidP2pProbereq : Bool), Network a fixed es w len s →
      BeaconIssued a fixed es len s ∧ ProberspIssued a da isValidP2pProbereq fixed es w len s := by
  intro h
  have hvendor : ∀ x ∈ [largeIe, largeIe], x.id ≠ _SSID_IE_ := by decide +kernel
  have hnetwork := network_shortSsid hvendor (by decide +kernel)
  have hissued := (h _ _ _ _ _ _ (Vector.replicate 6 4) false hnetwork).1
  rcases (beaconIssued_iff hnetwork).mp hissued with halloc | ⟨-, -, hsmall⟩
  · cases halloc
  · have hlarge := (hsmall _ rfl).1
    revert hlarge
    decide +kernel

end ApFrame

end Rtl8723au
