import Rtl8723au.Mlme.AssocReqVendor
import Rtl8723au.Mlme.JoinBssHt

/-! What `rtw_joinbss_cmd` leaves in `sec_bss`, and when it is what it should be. -/
namespace Rtl8723au
namespace JoinBss
open AccessM Regions Tlv Security Mem
set_option autoImplicit false

/-! ## The WMM element -/

/-- What `rtw_restruct_wmm_ie` adds. -/
def wmmCopied (a : JoinBssInfo) (ies : Mem) (es : List Tlv) : List Tlv :=
  if a.wmmEnable then wmmPart ies (12 + (encodeAll es).length) 12 es else []

section
variable (a : JoinBssInfo) (es : List Tlv) {n : ℕ} {ies : Mem} {t : Regions JoinRegion} {l : List UInt8} {k : ℕ}

theorem length_wmmPart (m : Mem) (inLen i : ℕ) (es : List Tlv) :
    (encodeAll (wmmPart m inLen i es)).length = 9 * (wmmPart m inLen i es).length ∧ (wmmPart m inLen i es).length ≤ 1 := by
  rw [wmmPart]
  cases wmmFound m inLen i es with
  | none => exact ⟨rfl, Nat.zero_le _⟩
  | some j => exact ⟨rfl, le_refl _⟩

theorem length_wmmCopied (ies : Mem) :
    (encodeAll (wmmCopied a ies es)).length = 9 * (wmmCopied a ies es).length ∧ (wmmCopied a ies es).length ≤ 1 := by
  rw [wmmCopied]
  split
  · exact length_wmmPart ies _ _ es
  · exact ⟨rfl, Nat.zero_le _⟩

theorem gives_restructWmm (hbytes : bytesAt ies (12 : ℕ) (encodeAll es).length = encodeAll es)
    (hroom : 12 + (encodeAll es).length ≤ n) (h : Built ies l t) (hk : k = l.length) (hpos : l ≠ [])
    (hfit : l.length + 9 ≤ MAX_IE_SZ) :
    GivesIff (Fits (size n)) (restructWmm a (12 + (encodeAll es).length) k) t
      (a.wmmEnable = true → WmmRoom n ies (12 + (encodeAll es).length) 12 es) fun r u =>
        Built ies (l ++ encodeAll (wmmCopied a ies es)) u ∧
          r = if a.wmmEnable = true ∧ es = [] then (0, true)
            else (k + (encodeAll (wmmCopied a ies es)).length, !(wmmCopied a ies es).isEmpty) := by
  rw [restructWmm]
  by_cases hwmm : a.wmmEnable = true
  · have hcount : es.length ≤ 12 + (encodeAll es).length := by
      have htwo := length_le_encodeAll es
      omega
    obtain ⟨hval, hbuilt⟩ := wmmLoop_built es _ 12 0 hcount hbytes rfl h hk hfit
    have hinside := inside_wmmLoop es _ 12 0 hcount hbytes rfl h hk hfit hroom
    have hcopied : wmmCopied a ies es = wmmPart ies (12 + (encodeAll es).length) 12 es := if_pos hwmm
    obtain ⟨hsize, -⟩ := length_wmmCopied a es ies
    have hk : k ≠ 0 := fun hzero => hpos (List.length_eq_zero_iff.mp (hk ▸ hzero))
    rw [← hcopied] at hval hbuilt
    rw [if_pos hwmm]
    refine ⟨?_, hbuilt, ?_⟩
    · rw [inside_bind]
      exact (and_iff_left (inside_pure _ _ _)).trans (hinside.trans ⟨fun hin _ => hin, fun hin => hin hwmm⟩)
    · have hlen : ((rtwRestructWmmIe (12 + (encodeAll es).length) k).run t).val =
          if es = [] then 0 else k + (encodeAll (wmmCopied a ies es)).length := hval
      rw [bind_val, pure_val, hlen]
      by_cases hes : es = []
      · rw [if_pos hes, if_pos hk, if_pos ⟨hwmm, hes⟩]
      · have hnot : ¬(a.wmmEnable = true ∧ es = []) := fun hboth => hes hboth.2
        rw [if_neg hes, if_neg hnot]
        cases hpart : wmmCopied a ies es with
        | nil =>
          rw [encodeAll_nil, List.length_nil, add_zero, if_neg (not_not.mpr rfl)]
          rfl
        | cons e rest =>
          rw [hpart, List.length_cons] at hsize
          rw [if_pos (by omega)]
          rfl
  · rw [if_neg hwmm, wmmCopied, if_neg hwmm, if_neg fun hboth => hwmm hboth.1, encodeAll_nil, List.append_nil]
    exact ⟨iff_of_true (inside_pure _ _ _) fun hyes => absurd hyes hwmm, h, rfl⟩

end

/-! ## The whole command -/

section
variable (a : JoinBssInfo) (es : List Tlv) {n : ℕ} {s : Regions JoinRegion}

def assembled (ies : Mem) : List Tlv := a.taken ++ wmmCopied a ies es ++ htPart a es (!(wmmCopied a ies es).isEmpty)

theorem length_taken : (encodeAll a.taken).length ≤ 257 := by
  have hone : a.taken.length ≤ 1 := by
    rw [taken_length]
    rcases placed_cases a with ⟨hnil, -⟩ | ⟨e, he⟩
    · rw [hnil]
      exact Nat.zero_le _
    · rw [he, List.length_singleton]
  match htaken : a.taken, hone with
  | [], _ => exact Nat.zero_le _
  | [e], _ =>
    rw [encodeAll_cons, encodeAll_nil, List.append_nil, encode_length]
    exact size_le e

theorem htPart_nil (qosOption : Bool) : htPart a [] qosOption = [] := by
  have hunused : ¬htUsed a [] = true := by simp [htUsed]
  rw [htPart, if_neg hunused]

theorem gives_rtwJoinbssCmd (hbytes : bytesAt (s .ies) (12 : ℕ) (encodeAll es).length = encodeAll es)
    (hfits : 12 + (encodeAll es).length ≤ MAX_IE_SZ) (hroom : 12 + (encodeAll es).length ≤ n) :
    GivesIff (Fits (size n)) (rtwJoinbssCmd a (12 + (encodeAll es).length)) s
      ((a.wmmEnable = true → WmmRoom n (s .ies) (12 + (encodeAll es).length) 12 es) ∧ ApRoom n (s .ies) 12 {} es) fun r u =>
        Built (s .ies) (bytesAt (s .ies) 0 12 ++ encodeAll (assembled a es (s .ies))) u ∧
          r.ieLength = if a.wmmEnable = true ∧ es = [] then 0 else 12 + (encodeAll (assembled a es (s .ies))).length := by
  have hlimit : MAX_IE_SZ = 768 := rfl
  have htaken := length_taken a
  obtain ⟨hnine, hone⟩ := length_wmmCopied a es (s .ies)
  have hstart : Built (s .ies) [] s := ⟨rfl, starts_nil _⟩
  refine .after (hstart.store (k := 0) rfl (List.replicate MAX_IE_SZ 0) (by rw [List.length_replicate]; exact le_refl _))
    fun _ t ht => ?_
  have ht : Built (s .ies) [] t := ⟨ht.ies, starts_nil _⟩
  refine .after (ht.memcpy (k := 12 + (encodeAll es).length) hroom hfits) fun _ u hu => ?_
  have hu : Built (s .ies) [] u := ⟨hu.ies, starts_nil _⟩
  have hload : ∀ len, len ≤ 255 → Gives (Fits (size n)) (load .out 12 len) u fun _ v => v = u := by
    intro len hlen
    refine ⟨(inside_load (size n) .out 12 len u).mpr (.inr ⟨by norm_num, ?_⟩), rfl⟩
    show (12 : ℤ) + (len : ℕ) ≤ (MAX_IE_SZ : ℕ)
    omega
  refine .after (hload _ (by split <;> omega)) fun auth v hv => ?_
  subst hv
  refine .after (gives_rtwRestructSecIe a hu (by omega)) fun k w hw => ?_
  obtain ⟨hw, hk⟩ := hw
  have hlen : (bytesAt (s .ies) 0 12 ++ encodeAll a.taken).length = 12 + (encodeAll a.taken).length := by
    rw [List.length_append, bytesAt_length]
  refine .bind (gives_restructWmm a es hbytes hroom hw (hk.trans hlen.symm) ?_ (by omega)) fun r x hx => ?_
  · intro hnil
    rw [hnil, List.length_nil] at hlen
    omega
  obtain ⟨hx, hr⟩ := hx
  obtain ⟨k', qosOption⟩ := r
  have hwmmLen : (bytesAt (s .ies) 0 12 ++ encodeAll a.taken ++ encodeAll (wmmCopied a (s .ies) es)).length =
      k + (encodeAll (wmmCopied a (s .ies) es)).length := by
    rw [List.length_append, hlen, hk]
  have hqos : htPart a es qosOption = htPart a es (!(wmmCopied a (s .ies) es).isEmpty) := by
    by_cases hlost : a.wmmEnable = true ∧ es = []
    · rw [hlost.2, htPart_nil, htPart_nil]
    · rw [if_neg hlost] at hr
      rw [(Prod.mk.inj hr).2]
  have hbuilt : htUsed a es = true →
      k' = (bytesAt (s .ies) 0 12 ++ encodeAll a.taken ++ encodeAll (wmmCopied a (s .ies) es)).length := by
    intro hused
    have hlost : ¬(a.wmmEnable = true ∧ es = []) := by
      rintro ⟨-, rfl⟩
      simp [htUsed] at hused
    rw [if_neg hlost] at hr
    rw [hwmmLen, (Prod.mk.inj hr).1]
  refine .after (gives_restructureHt hbytes rfl hroom qosOption hx hbuilt (by omega)) fun r y hy => ?_
  obtain ⟨k'', htOption⟩ := r
  obtain ⟨hy, -, hy'⟩ := hy
  have hvendor : GivesIff (Fits (size n)) (checkAssocAP (12 + (encodeAll es).length)) y (ApRoom n (s .ies) 12 {} es)
      fun _ z => z = y := by
    have hcount := length_le_encodeAll es
    have hroomy : Inside (Fits (size n)) (checkAssocAP (12 + (encodeAll es).length)) y ↔ ApRoom n (y .ies) 12 {} es :=
      inside_apLoop es (12 + (encodeAll es).length) 12 {} (by omega) (by rw [hy.ies]; exact hbytes) rfl hroom
    rw [hy.ies] at hroomy
    exact ⟨hroomy, apLoop_st _ _ _⟩
  refine .before hvendor fun peer z hz => .pure ?_
  subst hz
  have hall : bytesAt (s .ies) 0 12 ++ encodeAll a.taken ++ encodeAll (wmmCopied a (s .ies) es) ++
      encodeAll (htPart a es qosOption) = bytesAt (s .ies) 0 12 ++ encodeAll (assembled a es (s .ies)) := by
    rw [hqos, assembled, encodeAll_append, encodeAll_append, List.append_assoc, List.append_assoc, List.append_assoc]
  rw [hall] at hy hy'
  refine ⟨hy, ?_⟩
  rw [List.length_append, bytesAt_length] at hy'
  by_cases hlost : a.wmmEnable = true ∧ es = []
  · have hunused : ¬htUsed a es = true := by
      rw [hlost.2]
      simp [htUsed]
    rw [if_pos hlost] at hr
    rw [if_neg hunused] at hy'
    rw [if_pos hlost]
    exact hy'.trans (Prod.mk.inj hr).1
  · rw [if_neg hlost] at hr
    rw [if_neg hlost]
    refine hy'.trans ?_
    split
    · rfl
    next hunused =>
      rw [(Prod.mk.inj hr).1, hk, assembled, htPart, if_neg hunused, List.append_nil, encodeAll_append, List.length_append,
        Nat.add_assoc]

end

/-! ## When the elements are the right ones -/

section
variable {m : Mem} {inLen : ℕ}

theorem wmmFound_of_isWmm (es : List Tlv) (i : ℕ) (hbytes : bytesAt m (i : ℕ) (encodeAll es).length = encodeAll es)
    (hlen : inLen = i + (encodeAll es).length) (hany : es.any isWmm = true) : (wmmFound m inLen i es).isSome = true := by
  induction es generalizing i with
  | nil => cases hany
  | cons e rest ih =>
    rw [encodeAll_cons] at hbytes
    obtain ⟨hid, -, hrest⟩ := encode_at hbytes
    have hsize : e.size = e.body.length + 2 := rfl
    rw [encodeAll_cons, List.length_append, encode_length] at hlen
    rw [wmmFound]
    split
    · rfl
    next hnot =>
      have hplace : (i : ℤ) + e.size = ((i + e.size : ℕ) : ℤ) := by push_cast; rfl
      rw [hplace] at hrest
      rw [List.any_cons, Bool.or_eq_true] at hany
      rcases hany with he | hany
      · rw [isWmm, Bool.and_eq_true, beq_iff_eq, beq_iff_eq] at he
        have hlong : 4 ≤ e.body.length := by
          have hfour := congrArg List.length he.2
          rw [List.length_take] at hfour
          exact min_eq_left_iff.mp hfour
        have houi := AssocReq.oui_at hbytes hlong
        refine absurd ⟨hid.trans he.1, ?_, by omega⟩ hnot
        rw [← he.2, ← houi]
        push_cast
        rfl
      · exact ih _ hrest (by omega) hany

end

section
variable (a : JoinBssInfo) (es : List Tlv) (ies : Mem)

/-- What the search for a WMM element finds is one, or one is needed for HT. -/
def WmmKnown : Prop :=
  (wmmFound ies (12 + (encodeAll es).length) 12 es).isSome = true → es.any isWmm = true ∨ htUsed a es = true

def wmmElements : List Tlv :=
  wmmCopied a ies es ++ if htUsed a es = true ∧ wmmCopied a ies es = [] then [htWmm] else []

theorem assembled_eq : assembled a es ies = a.taken ++ wmmElements a es ies ++ htElements a es := by
  rw [assembled, wmmElements, htPart]
  by_cases hused : htUsed a es = true
  · cases wmmCopied a ies es <;> simp [hused]
  · simp [hused, htElements]

theorem wmmElements_cases :
    (((a.wmmEnable && (wmmFound ies (12 + (encodeAll es).length) 12 es).isSome) || htUsed a es) = true ∧
      ∃ e, wmmElements a es ies = [e] ∧ IsWmmInfo e) ∨
    (((a.wmmEnable && (wmmFound ies (12 + (encodeAll es).length) 12 es).isSome) || htUsed a es) = false ∧
      wmmElements a es ies = []) := by
  rw [wmmElements, wmmCopied, wmmPart]
  cases a.wmmEnable <;> cases wmmFound ies (12 + (encodeAll es).length) 12 es with
  | none =>
    cases htUsed a es
    · exact .inr ⟨rfl, rfl⟩
    · exact .inl ⟨rfl, htWmm, rfl, rfl, 1, rfl⟩
  | some j =>
    cases htUsed a es
    · first
      | exact .inr ⟨rfl, rfl⟩
      | exact .inl ⟨rfl, wmmInfo ies j, rfl, rfl, _, rfl⟩
    · first
      | exact .inl ⟨rfl, htWmm, rfl, rfl, 1, rfl⟩
      | exact .inl ⟨rfl, wmmInfo ies j, rfl, rfl, _, rfl⟩

def wmmShown : Bool := (a.wmmEnable && (wmmFound ies (12 + (encodeAll es).length) 12 es).isSome) || htUsed a es

def wmmWanted : Bool := (a.wmmEnable && es.any isWmm) || htUsed a es

theorem wmmKnown_iff : (a.wmmEnable = true → WmmKnown a es ies) ↔ (wmmShown a es ies = true → wmmWanted a es = true) := by
  rw [WmmKnown, wmmShown, wmmWanted]
  cases a.wmmEnable <;> cases htUsed a es <;> simp

variable {es ies}

/-- The elements that are put in are the right ones exactly when the parts are. -/
theorem elements_iff (hbytes : bytesAt ies (12 : ℕ) (encodeAll es).length = encodeAll es) :
    Elements a es (assembled a es ies) ↔
      (a.AuthKnown ∧ a.PmkidFits) ∧ (a.wmmEnable = true → WmmKnown a es ies) := by
  have hle : wmmWanted a es = true → wmmShown a es ies = true := by
    rw [wmmWanted, wmmShown, Bool.or_eq_true, Bool.or_eq_true, Bool.and_eq_true, Bool.and_eq_true]
    exact Or.imp_left (And.imp_right (wmmFound_of_isWmm es 12 hbytes rfl))
  have hput := wmmElements_cases a es ies
  rw [← wmmShown] at hput
  rw [assembled_eq, ← secOf_taken_iff, wmmKnown_iff]
  constructor
  · rintro ⟨sec, wmm, hout, hsec, hwmm⟩
    rw [← wmmWanted] at hwmm
    have hfront : a.taken ++ wmmElements a es ies = sec ++ wmm := List.append_cancel_right hout
    have hsecLen : sec.length ≤ a.taken.length := by
      rw [hsec.length, taken_length]
      exact sec_length_le a
    have hwmmLen : wmm.length ≤ (wmmElements a es ies).length := by
      split at hwmm
      next hwanted =>
        obtain ⟨e, rfl, -⟩ := hwmm
        rcases hput with ⟨-, e', he', -⟩ | ⟨hnot, -⟩
        · rw [he', List.length_singleton, List.length_singleton]
        · exact absurd (hle hwanted) (hnot ▸ Bool.false_ne_true)
      next =>
        rw [hwmm]
        exact Nat.zero_le _
    have hlen := congrArg List.length hfront
    rw [List.length_append, List.length_append] at hlen
    obtain ⟨rfl, rfl⟩ := List.append_inj hfront (by omega)
    refine ⟨hsec, fun hshown => ?_⟩
    by_contra hnot
    rw [if_neg hnot] at hwmm
    rcases hput with ⟨-, e, he, -⟩ | ⟨hunshown, -⟩
    · exact List.cons_ne_nil e [] (he.symm.trans hwmm)
    · exact absurd hshown (hunshown ▸ Bool.false_ne_true)
  · rintro ⟨hsec, hknown⟩
    refine ⟨a.taken, wmmElements a es ies, rfl, hsec, ?_⟩
    rw [← wmmWanted]
    rcases hput with ⟨hshown, hone⟩ | ⟨hunshown, hnone⟩
    · rw [if_pos (hknown hshown)]
      exact hone
    · rw [if_neg fun hwanted => absurd (hle hwanted) (hunshown ▸ Bool.false_ne_true)]
      exact hnone

/-- What is needed for the join: a list that is not empty when WMM is enabled, an authentication type that was asked for, a
PMKID only where it fits, and no element that ends before what is compared or copied of it. -/
structure Orderly (n : ℕ) (a : JoinBssInfo) (es : List Tlv) (ies : Mem) : Prop where
  listed : a.wmmEnable = true → es ≠ []
  known : a.AuthKnown
  pmkid : a.PmkidFits
  wmm : a.wmmEnable = true → WmmRoom n ies (12 + (encodeAll es).length) 12 es ∧ WmmKnown a es ies
  vendor : ApRoom n ies 12 {} es

end

/-- From a record with the elements `es` the command assembles the elements for the join exactly when the record is orderly. -/
theorem assembles_iff (a : JoinBssInfo) (fixed : List UInt8) (es : List Tlv) (s : Regions JoinRegion) (n : ℕ)
    (hfixed : fixed.length = _FIXED_IE_LENGTH_)
    (hbytes : bytesAt (s .ies) 0 (12 + (encodeAll es).length) = fixed ++ encodeAll es)
    (hfits : 12 + (encodeAll es).length ≤ MAX_IE_SZ) (hroom : 12 + (encodeAll es).length ≤ n) :
    Assembles n a fixed es s ↔ Orderly n a es (s .ies) := by
  rw [bytesAt_add] at hbytes
  obtain ⟨hfront, hbehind⟩ := List.append_inj hbytes (by rw [bytesAt_length]; exact hfixed.symm)
  rw [zero_add] at hbehind
  obtain ⟨hinside, hbuilt, hlength⟩ := gives_rtwJoinbssCmd a es (n := n) hbehind hfits hroom
  rw [hfront] at hbuilt
  constructor
  · rintro ⟨hin, out, helements, hout⟩
    obtain ⟨hwmm, hvendor⟩ := hinside.mp hin
    have hlisted : ¬(a.wmmEnable = true ∧ es = []) := by
      intro hlost
      rw [hlength, if_pos hlost] at hout
      have hlen := congrArg List.length hout
      rw [bytesAt_length, List.length_append, hfixed] at hlen
      have htwelve : _FIXED_IE_LENGTH_ = 12 := rfl
      omega
    rw [hlength, if_neg hlisted] at hout
    have hstarts := hbuilt.out
    rw [Starts, List.length_append, hfixed] at hstarts
    have hall := encodeAll_injective (List.append_cancel_left (hstarts.symm.trans hout))
    rw [← hall, elements_iff a hbehind] at helements
    exact ⟨fun hwmmEnable hnil => hlisted ⟨hwmmEnable, hnil⟩, helements.1.1, helements.1.2,
      fun hwmmEnable => ⟨hwmm hwmmEnable, helements.2 hwmmEnable⟩, hvendor⟩
  · intro h
    refine ⟨hinside.mpr ⟨fun hwmmEnable => (h.wmm hwmmEnable).1, h.vendor⟩, assembled a es (s .ies),
      (elements_iff a hbehind).mpr ⟨⟨h.known, h.pmkid⟩, fun hwmmEnable => (h.wmm hwmmEnable).2⟩, ?_⟩
    have hlisted : ¬(a.wmmEnable = true ∧ es = []) := fun hlost => h.listed hlost.1 hlost.2
    have hstarts := hbuilt.out
    rw [Starts, List.length_append, hfixed] at hstarts
    rw [hlength, if_neg hlisted]
    exact hstarts

/-- An RSN element that ends behind its capabilities. -/
def sampleRsn : Tlv where
  id := _WPA2_IE_ID_
  body := [1, 0, 0x00, 0x0f, 0xac, 4, 1, 0, 0x00, 0x0f, 0xac, 4, 1, 0, 0x00, 0x0f, 0xac, 2, 0, 0]
  short := by decide

def sampleWmm : Tlv where
  id := _VENDOR_SPECIFIC_IE_
  body := WMM_OUI ++ [1, 1, 0, 0]
  short := by decide

def sampleJoin : JoinBssInfo where
  ndisauthtype := Ndis802_11AuthModeWPA2PSK
  supplicantIe := sampleRsn
  wpsIe := sampleWmm
  pmkidList := [{ bUsed := true }]
  wmmEnable := true

def sampleRecord : Regions JoinRegion := fun _ x => (List.replicate 12 0 ++ encodeAll [sampleRsn, sampleWmm]).getD x.toNat 0

theorem assembles_sample : Assembles 44 sampleJoin (List.replicate 12 0) [sampleRsn, sampleWmm] sampleRecord := by
  refine (assembles_iff sampleJoin (List.replicate 12 0) [sampleRsn, sampleWmm] sampleRecord 44 rfl (by decide) (by decide)
    (by decide)).mpr ⟨fun _ => List.cons_ne_nil _ _, .inr (.inl rfl), ?_, fun _ => ⟨⟨fun hid => absurd hid (by decide), ?_⟩,
      fun _ => .inl (by decide)⟩, ?_⟩
  · rintro entry - - e he -
    rw [List.mem_singleton.mp he]
    exact ⟨rfl, by decide⟩
  · rw [if_neg (by decide)]
    refine ⟨fun _ => ⟨by decide, fun _ => ⟨by decide, fun _ => ⟨by decide, fun _ => ⟨by decide, fun _ => trivial⟩⟩⟩⟩, ?_⟩
    rw [if_pos (by decide)]
    decide
  · exact ⟨fun hid => absurd hid (by decide), fun _ _ => ⟨fun _ => by decide, fun _ _ => trivial⟩⟩

/-- Of an empty list nothing is left when WMM is enabled, not even the fixed bytes. -/
theorem not_assembles_empty : ¬Assembles MAX_IE_SZ sampleJoin (List.replicate 12 0) [] fun _ _ => 0 := by
  rintro ⟨-, out, -, hout⟩
  have hlength := (gives_rtwJoinbssCmd sampleJoin [] (n := MAX_IE_SZ) (s := fun _ _ => 0) rfl (by decide) (by decide)).post.2
  rw [if_pos ⟨rfl, rfl⟩] at hlength
  rw [hlength] at hout
  have hlen := congrArg List.length hout
  rw [bytesAt_length, List.length_append, List.length_replicate] at hlen
  omega

end JoinBss

end Rtl8723au
