import Rtl8723au.Hal.RsvdPage

/-! When the reserved pages are filled as they should be: what each builder writes to, and from it the whole image. -/
namespace Rtl8723au
namespace RsvdPage
open AccessM Regions
set_option autoImplicit false

/-! ## Headers -/

section
variable {n : ℕ} {lo hi x : ℤ} {s : Regions RsvdRegion}

/-- What a builder does to the buffer from `lo` on and below `hi`. -/
abbrev Builds {α : Type} (n : ℕ) (lo hi : ℤ) (m : P α) (s : Regions RsvdRegion) (Q : α → Prop) : Prop :=
  Does (size n) RsvdRegion.page lo hi m s Q

/-- A stretch of the buffer. -/
structure InPage (lo hi : ℤ) : Prop where
  base : 0 ≤ lo
  top : hi ≤ 1000

theorem builds_store (h : InPage lo hi) {l : List UInt8} (hlo : lo ≤ x) (hhi : x + l.length ≤ hi) :
    Builds n lo hi (store .page x l) s fun _ => True :=
  Does.store h.base h.top hlo hhi

theorem builds_loadLe (h : InPage lo hi) (hlo : lo ≤ x) (hhi : x + 2 ≤ hi) :
    Builds n lo hi (loadLe .page x 2) s fun _ => True :=
  Does.loadLe RsvdRegion.page (.inr ⟨h.base.trans hlo, hhi.trans h.top⟩)

theorem builds_clearFctrl (h : InPage lo hi) (hlo : lo ≤ x) (hhi : x + 2 ≤ hi) :
    Builds n lo hi (clearFctrl x) s fun _ => True :=
  builds_store h hlo hhi

theorem builds_orLe16 (h : InPage lo hi) (v : ℕ) (hlo : lo ≤ x) (hhi : x + 2 ≤ hi) :
    Builds n lo hi (orLe16 x v) s fun _ => True :=
  (builds_loadLe h hlo hhi).bind fun _ _ _ => builds_store h hlo (by rw [length_leBytes]; exact hhi)

theorem builds_setFrameSubType (h : InPage lo hi) (type : ℕ) (hlo : lo ≤ x) (hhi : x + 2 ≤ hi) :
    Builds n lo hi (setFrameSubType x type) s fun _ => True := by
  refine (builds_loadLe h hlo hhi).bind fun w _ _ => ?_
  refine (builds_store h hlo (by rw [length_leBytes]; exact hhi)).bind fun _ _ _ => ?_
  exact builds_orLe16 h type hlo hhi

theorem builds_setSeqNum (h : InPage lo hi) (num : ℕ) (hlo : lo ≤ x) (hhi : x + 24 ≤ hi) :
    Builds n lo hi (setSeqNum x num) s fun _ => True := by
  refine (builds_loadLe h (by omega) (by omega)).bind fun w _ _ => ?_
  exact builds_store h (by omega) (by rw [length_leBytes]; omega)

theorem builds_setDuration (h : InPage lo hi) (dur : ℕ) (hlo : lo ≤ x) (hhi : x + 4 ≤ hi) :
    Builds n lo hi (setDuration x dur) s fun _ => True :=
  builds_store h (by omega) (by rw [length_leBytes]; omega)

theorem builds_addr (h : InPage lo hi) (addr : MacAddr) (hlo : lo ≤ x) (hhi : x + 6 ≤ hi) :
    Builds n lo hi (store .page x addr.toList) s fun _ => True :=
  builds_store h hlo (by rw [Vector.length_toList]; exact hhi)

theorem builds_setAddrs (h : InPage lo hi) (addr1 addr2 addr3 : MacAddr) (hlo : lo ≤ x) (hhi : x + 22 ≤ hi) :
    Builds n lo hi (setAddrs x addr1 addr2 addr3) s fun _ => True := by
  refine (builds_addr h addr1 (by omega) (by omega)).bind fun _ _ _ => ?_
  refine (builds_addr h addr2 (by omega) (by omega)).bind fun _ _ _ => ?_
  exact builds_addr h addr3 (by omega) (by omega)

/-! ## The beacon -/

theorem builds_rtwSetIe (h : InPage lo hi) (index : UInt8) {source : List UInt8} (frlen : ℕ) (hlo : lo ≤ x)
    (hhi : x + frlen + 2 + source.length ≤ hi) :
    Builds n lo hi (rtwSetIe x index source frlen) s fun len => len = frlen + (source.length + 2) := by
  refine (builds_store h (by omega) (by rw [List.length_cons, List.length_singleton]; push_cast; omega)).bind fun _ _ _ => ?_
  refine (builds_store h (by omega) hhi).bind fun _ _ _ => ?_
  exact .pure rfl

theorem builds_ratesetLenLoop (fuel i : ℕ) (hfuel : i + fuel = 14) :
    Builds n lo hi (ratesetLenLoop fuel i) s fun len => len ≤ 14 := by
  induction fuel generalizing i s with
  | zero => exact .pure (by omega)
  | succ fuel ih =>
    have hpeek : Builds n lo hi (peek (region .supportedRates) (i : ℤ)) s fun _ => True :=
      ⟨(inside_peek_region (size n) .supportedRates i s).mpr (.inr ⟨by omega, by show (i : ℤ) + 1 ≤ 16; omega⟩), trivial,
        .refl _ lo hi s⟩
    refine hpeek.bind fun rate t _ => ?_
    refine .ite (fun _ => .pure (by omega)) fun _ => .ite (fun _ => .pure (by omega)) fun _ => ?_
    exact ih (i + 1) (by omega)

theorem builds_setAtim (h : InPage lo hi) (a : RsvdPageInfo) (pktlen : ℕ) (hlo : lo ≤ x) (hhi : x + pktlen + 4 ≤ hi) :
    Builds n lo hi (setAtim a x pktlen) s fun len => pktlen ≤ len ∧ len ≤ pktlen + 4 := by
  refine .ite (fun _ => ?_) fun _ => .pure ⟨le_refl pktlen, Nat.le_add_right pktlen 4⟩
  refine (builds_rtwSetIe h _IBSS_PARA_IE_ pktlen hlo ?_).mono (le_refl lo) (le_refl hi) fun len hlen => ?_
  · rw [List.length_cons, List.length_singleton]
    push_cast
    omega
  · rw [hlen, List.length_cons, List.length_singleton]
    omega

theorem builds_setExtRates (h : InPage lo hi) {rateLen : ℕ} (pktlen : ℕ) (hrate : rateLen ≤ 14) (hlo : lo ≤ x)
    (hhi : x + pktlen + 8 ≤ hi) :
    Builds n lo hi (setExtRates x rateLen pktlen) s fun len => pktlen ≤ len ∧ len ≤ pktlen + 8 := by
  refine .ite (fun hlong => ?_) fun _ => .pure ⟨le_refl pktlen, Nat.le_add_right pktlen 8⟩
  have hload : Builds n lo hi (load .supportedRates 8 (rateLen - 8)) s fun l => l.length = rateLen - 8 :=
    Does.load RsvdRegion.supportedRates (.inr ⟨by omega, by show (8 : ℤ) + (rateLen - 8 : ℕ) ≤ 16; omega⟩)
  refine hload.bind fun rates t hrates => ?_
  refine (builds_rtwSetIe h _ pktlen hlo ?_).mono (le_refl lo) (le_refl hi) fun len hlen => ?_
  · omega
  · omega

theorem builds_adhocElements (h : InPage lo hi) (a : RsvdPageInfo) (hlo : lo ≤ x) (hhi : x + 97 ≤ hi) :
    Builds n lo hi (adhocElements a x 36) s fun len => 36 ≤ len ∧ len ≤ 97 := by
  have hssid := a.network.ssidLength.isLt
  have hload : Builds n lo hi (load .ssid 0 a.network.ssidLength) s fun l => l.length = a.network.ssidLength :=
    Does.load RsvdRegion.ssid (.inr ⟨le_refl 0, by show (0 : ℤ) + (a.network.ssidLength : ℕ) ≤ 32; omega⟩)
  refine hload.bind fun ssid _ hlen => ?_
  refine (builds_rtwSetIe h _SSID_IE_ 36 hlo (by omega)).bind fun pktlen₁ _ h₁ => ?_
  refine (builds_ratesetLenLoop 14 0 rfl).bind fun rateLen _ hrate => ?_
  have hrates : (if 8 < rateLen then 8 else rateLen) ≤ 8 := by
    split <;> omega
  refine (Does.load RsvdRegion.supportedRates (.inr ⟨le_refl 0, ?_⟩)).bind fun rates _ hratesLen => ?_
  · show (0 : ℤ) + (if 8 < rateLen then 8 else rateLen : ℕ) ≤ 16
    omega
  refine (builds_rtwSetIe h _ pktlen₁ hlo (by omega)).bind fun pktlen₂ _ h₂ => ?_
  have hds : ∀ t, Builds n lo hi (load .dsConfig 0 1) t fun l => l.length = 1 := fun t =>
    Does.load RsvdRegion.dsConfig (.inr ⟨le_refl 0, by show (0 : ℤ) + (1 : ℕ) ≤ 4; omega⟩)
  refine (hds _).bind fun dsConfig _ hdsLen => ?_
  refine (builds_rtwSetIe h _DSSET_IE_ pktlen₂ hlo (by omega)).bind fun pktlen₃ _ h₃ => ?_
  refine (builds_setAtim h a pktlen₃ hlo (by omega)).bind fun pktlen₄ _ h₄ => ?_
  refine (builds_setExtRates h pktlen₄ hrate hlo (by omega)).mono (le_refl lo) (le_refl hi) fun len hlen => ?_
  omega

theorem builds_apElements (h : InPage lo hi) (a : RsvdPageInfo) (hmin : 12 ≤ a.network.ieLength)
    (hread : a.network.ieLength + 36 ≤ n) (hlo : lo ≤ x) (hhi : x + a.network.ieLength + 60 ≤ hi) :
    Builds n lo hi (apElements a x 36) s fun len => len = a.network.ieLength + 24 := by
  have hfixed : _FIXED_IE_LENGTH_ = 12 := rfl
  have hsrc : Within (size n) .ies _FIXED_IE_LENGTH_ (36 + (a.network.ieLength - _FIXED_IE_LENGTH_)) := by
    refine .inr ⟨by omega, ?_⟩
    show ((_FIXED_IE_LENGTH_ : ℕ) : ℤ) + (36 + (a.network.ieLength - _FIXED_IE_LENGTH_) : ℕ) ≤ n
    omega
  refine (Does.memcpy h.base h.top hsrc (by omega) (by omega)).bind fun _ _ _ => ?_
  exact .pure (by omega)

theorem builds_constructBeacon (h : InPage lo hi) (a : RsvdPageInfo) (hread : 12 ≤ n) (hlo : lo ≤ x) (hhi : x + 36 ≤ hi)
    {Q : ℕ → Prop} (helements : ∀ t, Builds n lo hi (bcnElements a x 36) t Q) :
    Builds n lo hi (constructBeacon a x) s fun len => ∃ k, Q k ∧ len = if 512 < k + TXDESC_SIZE then none else some k := by
  have hfield : ∀ (y : ℤ) (t : Regions RsvdRegion), 0 ≤ y → y ≤ 10 → ∀ d, lo ≤ d → d + 2 ≤ hi →
      Builds n lo hi (memcpy .page d .ies y 2) t fun _ => True := by
    intro y t hy hy' d hd hd'
    have hsrc : Within (size n) .ies y 2 := .inr ⟨hy, by show y + (2 : ℕ) ≤ n; omega⟩
    exact Does.memcpy h.base h.top hsrc hd hd'
  refine (builds_clearFctrl h hlo (by omega)).bind fun _ _ _ => ?_
  refine (builds_setAddrs h _ _ _ hlo (by omega)).bind fun _ _ _ => ?_
  refine (builds_setSeqNum h 0 hlo (by omega)).bind fun _ _ _ => ?_
  refine (builds_setFrameSubType h _ hlo (by omega)).bind fun _ _ _ => ?_
  refine (hfield 8 _ (by omega) (by omega) (x + 32) (by omega) (by omega)).bind fun _ _ _ => ?_
  refine (hfield 10 _ (by omega) (by omega) (x + 34) (by omega) (by omega)).bind fun _ _ _ => ?_
  refine (helements _).bind fun k _ hk => ?_
  exact .pure ⟨k, hk, rfl⟩

/-! ## The other packets -/

theorem builds_constructPSPoll (h : InPage lo hi) (a : RsvdPageInfo) (hlo : lo ≤ x) (hhi : x + 16 ≤ hi) :
    Builds n lo hi (constructPSPoll a x) s fun len => len = some 16 := by
  refine (builds_clearFctrl h hlo (by omega)).bind fun _ _ _ => ?_
  refine (builds_orLe16 h _ hlo (by omega)).bind fun _ _ _ => ?_
  refine (builds_setFrameSubType h _ hlo (by omega)).bind fun _ _ _ => ?_
  refine (builds_setDuration h _ hlo (by omega)).bind fun _ _ _ => ?_
  refine (builds_addr h _ (by omega) (by omega)).bind fun _ _ _ => ?_
  refine (builds_addr h _ (by omega) (by omega)).bind fun _ _ _ => ?_
  exact .pure rfl

theorem builds_nullAddrs (h : InPage lo hi) (a : RsvdPageInfo) (staAddr : MacAddr) (hlo : lo ≤ x) (hhi : x + 22 ≤ hi) :
    Builds n lo hi (nullAddrs a x staAddr) s fun _ => True := by
  refine .ite (fun _ => ?_) fun _ => .ite (fun _ => ?_) fun _ => builds_setAddrs h _ _ _ hlo hhi
  · exact (builds_orLe16 h _ hlo (by omega)).bind fun _ _ _ => builds_setAddrs h _ _ _ hlo hhi
  · exact (builds_orLe16 h _ hlo (by omega)).bind fun _ _ _ => builds_setAddrs h _ _ _ hlo hhi

theorem builds_forcePowerSave (h : InPage lo hi) (bForcePowerSave : Bool) (hlo : lo ≤ x) (hhi : x + 2 ≤ hi) :
    Builds n lo hi (forcePowerSave x bForcePowerSave) s fun _ => True :=
  .ite (fun _ => builds_orLe16 h _ hlo hhi) fun _ => .pure trivial

def nullLength (bQoS : Bool) : ℕ := if bQoS then 26 else 24

theorem builds_constructNull (h : InPage lo hi) (a : RsvdPageInfo) (staAddr : MacAddr) (bQoS : Bool) (ac eosp : ℕ)
    (hlo : lo ≤ x) (hhi : x + nullLength bQoS ≤ hi) :
    Builds n lo hi (constructNullFunctionData a x staAddr bQoS ac eosp false) s fun len =>
      len = some (nullLength bQoS) := by
  have hmin : 24 ≤ nullLength bQoS := by
    cases bQoS <;> decide
  refine (builds_clearFctrl h hlo (by omega)).bind fun _ _ _ => ?_
  refine (builds_forcePowerSave h false hlo (by omega)).bind fun _ _ _ => ?_
  refine (builds_nullAddrs h a staAddr hlo (by omega)).bind fun _ _ _ => ?_
  refine (builds_setSeqNum h 0 hlo (by omega)).bind fun _ _ _ => ?_
  cases bQoS with
  | true =>
    have hmax : nullLength true = 26 := rfl
    refine (builds_setFrameSubType h _ hlo (by omega)).bind fun _ _ _ => ?_
    refine (builds_orLe16 h _ (by omega) (by omega)).bind fun _ _ _ => ?_
    refine (builds_orLe16 h _ (by omega) (by omega)).bind fun _ _ _ => ?_
    exact .pure rfl
  | false =>
    refine (builds_setFrameSubType h _ hlo (by omega)).bind fun _ _ _ => ?_
    exact .pure rfl

theorem builds_constructProbeRsp (h : InPage lo hi) (a : RsvdPageInfo) (staAddr : MacAddr) (hmax : a.network.ieLength ≤ MAX_IE_SZ)
    (hread : a.network.ieLength ≤ n) (hlo : lo ≤ x) (hhi : x + 24 + a.network.ieLength ≤ hi) :
    Builds n lo hi (constructProbeRsp a x staAddr) s fun len => len = some (24 + a.network.ieLength) := by
  refine (builds_clearFctrl h hlo (by omega)).bind fun _ _ _ => ?_
  refine (builds_setAddrs h _ _ _ hlo (by omega)).bind fun _ _ _ => ?_
  refine (builds_setSeqNum h 0 hlo (by omega)).bind fun _ _ _ => ?_
  refine (builds_setFrameSubType h _ hlo (by omega)).bind fun _ _ _ => ?_
  refine .ite (fun hlong => absurd hlong (not_lt.mpr hmax)) fun _ => ?_
  have hsrc : Within (size n) .ies 0 a.network.ieLength := .inr ⟨le_refl 0, by show (0 : ℤ) + a.network.ieLength ≤ n; omega⟩
  refine (Does.memcpy h.base h.top hsrc (by omega) (by omega)).bind fun _ _ _ => ?_
  exact .pure rfl

/-! ## Descriptors -/

theorem length_fakeTxdesc (len : ℕ) (isPsPoll isBTQosNull : Bool) : (fakeTxdesc len isPsPoll isBTQosNull).length = 32 := by
  simp [fakeTxdesc, fakeTxdescWords]

theorem builds_fillFakeTxdesc (h : InPage lo hi) (len : ℕ) (isPsPoll isBTQosNull : Bool) (hlo : lo ≤ x) (hhi : x + 32 ≤ hi) :
    Builds n lo hi (fillFakeTxdesc x len isPsPoll isBTQosNull) s fun _ => True := by
  refine (builds_store h hlo ?_).bind fun _ _ _ => ?_
  · rw [List.length_replicate]
    exact hhi
  · exact builds_store h hlo (by rw [length_fakeTxdesc]; exact hhi)

theorem fillFakeTxdesc_bytes (x : ℤ) (len : ℕ) (isPsPoll isBTQosNull : Bool) (s : Regions RsvdRegion) {k : ℕ} (hk : k < 32) :
    ((fillFakeTxdesc x len isPsPoll isBTQosNull).run s).st .page (x + (k : ℕ)) =
      (fakeTxdesc len isPsPoll isBTQosNull).getD k 0 := by
  rw [fillFakeTxdesc, bind_st, store_st, Function.update_self]
  exact Mem.putBytes_inside _ x _ k (by rw [length_fakeTxdesc]; exact hk)

end

/-! ## Packets in a row -/

theorem pageNum128_bounds (len : ℕ) : len ≤ 128 * pageNum128 len ∧ 128 * pageNum128 len < len + 128 := by
  rw [pageNum128]
  split <;> omega

theorem pageNeed_eq {len : ℕ} (hlen : len < 1000) : pageNeed len = pageNum128 (TXDESC_SIZE + len) := by
  have hdesc : TXDESC_SIZE = 32 := rfl
  have hbounds := pageNum128_bounds (TXDESC_SIZE + len)
  rw [pageNeed, Nat.mod_eq_of_lt (show TXDESC_SIZE + len < 2 ^ 32 by omega), Nat.mod_eq_of_lt (by omega)]

/-- Packets that stand in front of the cursor, each in pages of its own, and still as they were built. -/
structure Row (c : Cursor) (ps : List Packet) (t : Regions RsvdRegion) : Prop where
  cursor : c.bufIndex = TXDESC_OFFSET + 128 * c.pageNum
  small : c.pageNum ≤ 8
  aligned : ∀ p ∈ ps, p.bufIndex = TXDESC_OFFSET + 128 * p.page
  apart : ps.Pairwise fun p q => p.page + p.pages ≤ q.page
  before : ∀ p ∈ ps, p.page + p.pages ≤ c.pageNum
  kept : ∀ p ∈ ps, ∀ x : ℕ, p.bufIndex - TXDESC_SIZE ≤ x → x < p.bufIndex + p.length → t .page x = p.built x

section
variable {n : ℕ} {c : Cursor} {ps : List Packet} {s t : Regions RsvdRegion}

theorem Row.packet_end (h : Row c ps t) {p : Packet} (hp : p ∈ ps) : p.bufIndex + p.length + TXDESC_SIZE ≤ c.bufIndex := by
  have hdesc : TXDESC_SIZE = 32 := rfl
  have hpages := (pageNum128_bounds (TXDESC_SIZE + p.length)).1
  have hbefore := h.before p hp
  have hcursor := h.cursor
  have haligned := h.aligned p hp
  rw [Packet.pages] at hbefore
  omega

theorem Row.alters (h : Row c ps s) {hi : ℤ} (ht : Alters .page ((c.bufIndex : ℤ) - TXDESC_SIZE) hi s t) : Row c ps t where
  cursor := h.cursor
  small := h.small
  aligned := h.aligned
  apart := h.apart
  before := h.before
  kept := fun p hp x hlo hhi => by
    have hend := h.packet_end hp
    have hdesc : TXDESC_SIZE = 32 := rfl
    rw [ht.outside x (.inl (by omega))]
    exact h.kept p hp x hlo hhi

theorem Row.page_eq (h : Row c ps t) {p : Packet} (hp : p.bufIndex = c.bufIndex) : p.page = c.pageNum := by
  rw [Packet.page, hp, h.cursor]
  omega

theorem Row.push (h : Row c ps t) {p : Packet} (hp : p.bufIndex = c.bufIndex) (hbuilt : p.built = t .page) {c' : Cursor}
    (hc' : c'.bufIndex = TXDESC_OFFSET + 128 * c'.pageNum) (hsmall : c'.pageNum ≤ 8) (hnext : c.pageNum + p.pages ≤ c'.pageNum) :
    Row c' (ps ++ [p]) t where
  cursor := hc'
  small := hsmall
  aligned := fun q hq => by
    rcases List.mem_append.mp hq with hold | hnew
    · exact h.aligned q hold
    · rw [List.mem_singleton.mp hnew, h.page_eq hp, hp]
      exact h.cursor
  apart := by
    refine List.pairwise_append.mpr ⟨h.apart, List.pairwise_singleton _ p, fun q hq r hr => ?_⟩
    rw [List.mem_singleton.mp hr, h.page_eq hp]
    exact h.before q hq
  before := fun q hq => by
    rcases List.mem_append.mp hq with hold | hnew
    · have hbefore := h.before q hold
      omega
    · rw [List.mem_singleton.mp hnew, h.page_eq hp]
      exact hnext
  kept := fun q hq x hlo hhi => by
    rcases List.mem_append.mp hq with hold | hnew
    · exact h.kept q hold x hlo hhi
    · rw [List.mem_singleton.mp hnew, hbuilt]

theorem Row.pass (h : Row c ps t) {len : ℕ} (hlen : len < 1000) (hroom : c.pageNum + pageNum128 (TXDESC_SIZE + len) ≤ 8) :
    (c.pass (pageNeed len)).pageNum = c.pageNum + pageNum128 (TXDESC_SIZE + len) ∧
      (c.pass (pageNeed len)).bufIndex = TXDESC_OFFSET + 128 * (c.pass (pageNeed len)).pageNum := by
  have hcursor := h.cursor
  have hoffset : TXDESC_OFFSET = 40 := rfl
  rw [Cursor.pass, pageNeed_eq hlen]
  dsimp only
  omega

/-- What a packet that is put at the cursor is like, and the cursor behind it. -/
structure PutAt (c : Cursor) (ps : List Packet) (len : ℕ) (kind : Bool × Bool) (r : Packet × Cursor)
    (t : Regions RsvdRegion) : Prop where
  described : r.1.Described kind
  set : r.1.set = some len
  length : r.1.length = len
  bufIndex : r.1.bufIndex = c.bufIndex
  page : r.1.page = c.pageNum
  pageNum : r.2.pageNum = c.pageNum + pageNum128 (TXDESC_SIZE + len)
  row : Row r.2 (ps ++ [r.1]) t

/-- A builder that sets its length and stays in the buffer puts a packet into the row. -/
theorem Row.put (h : Row c ps s) (construct : ℤ → P (Option ℕ)) (len stale : ℕ) (isPsPoll isBTQosNull : Bool)
    (hbuild : Builds n c.bufIndex 1000 (construct c.bufIndex) s fun set => set = some len)
    (hlen : len < 1000) (hfit : c.bufIndex ≤ 1000) (hroom : c.pageNum + pageNum128 (TXDESC_SIZE + len) ≤ 8) :
    Gives (Fits (size n)) (put c construct stale isPsPoll isBTQosNull) s fun r t =>
      PutAt c ps len (isPsPoll, isBTQosNull) r t := by
  have hdesc : TXDESC_SIZE = 32 := rfl
  have hoffset : TXDESC_OFFSET = 40 := rfl
  have hcursor := h.cursor
  have hpage : InPage ((c.bufIndex : ℤ) - TXDESC_SIZE) c.bufIndex := ⟨by omega, by omega⟩
  refine hbuild.gives.bind fun set t ht => ?_
  obtain ⟨rfl, halters⟩ := ht
  have hbuilt : Row c ps t := h.alters (halters.mono (by omega) (le_refl 1000))
  have hdoes : Builds n _ _ (fillFakeTxdesc _ len isPsPoll isBTQosNull) t fun _ => True :=
    builds_fillFakeTxdesc hpage len isPsPoll isBTQosNull (le_refl _) (by omega)
  have hfill : Gives (Fits (size n)) (fillFakeTxdesc ((c.bufIndex : ℤ) - TXDESC_SIZE) len isPsPoll isBTQosNull) t fun _ u =>
      Alters .page ((c.bufIndex : ℤ) - TXDESC_SIZE) c.bufIndex t u ∧ ∀ k < TXDESC_SIZE,
        u .page ((c.bufIndex : ℤ) - TXDESC_SIZE + (k : ℕ)) = (fakeTxdesc len isPsPoll isBTQosNull).getD k 0 :=
    ⟨hdoes.inside, hdoes.alters, fun k hk => fillFakeTxdesc_bytes _ len isPsPoll isBTQosNull t hk⟩
  refine hfill.bind fun _ u hu => ?_
  refine Gives.get.bind fun v w hvw => ?_
  rw [hvw.1, hvw.2]
  have hrow : Row c ps u := hbuilt.alters hu.1
  have hpassed : Row (c.pass (pageNeed len)) (ps ++ [⟨c.bufIndex, some len, len, u .page⟩]) u := by
    obtain ⟨hnum, hindex⟩ := hrow.pass hlen hroom
    exact hrow.push rfl rfl hindex (hnum ▸ hroom) hnum.ge
  exact .pure ⟨hu.2, rfl, rfl, rfl, hrow.page_eq rfl, (hrow.pass hlen hroom).1, hpassed⟩

theorem row_nil (t : Regions RsvdRegion) : Row {} [] t where
  cursor := rfl
  small := by decide
  aligned := fun _ hp => absurd hp List.not_mem_nil
  apart := List.Pairwise.nil
  before := fun _ hp => absurd hp List.not_mem_nil
  kept := fun _ hp => absurd hp List.not_mem_nil

theorem gives_send (env : RsvdPageEnv) {total : ℕ} (htotal : total ≤ 1000) :
    Gives (Fits (size n)) (send env total) t fun sent _ => ∀ image, sent = some image →
      image.length = total ∧ ∀ x < total, image.getD x 0 = t .page x := by
  rw [send]
  split
  · have hsrc : Within (size n) .page 0 total := .inr ⟨le_refl 0, by show (0 : ℤ) + total ≤ 1000; omega⟩
    have hcopy : Gives (Fits (size n)) (memcpy .frame 0 .page 0 total) t fun _ u => ∀ x < total, u .frame (x : ℕ) = t .page x := by
      refine ⟨(inside_memcpy (size n) .page 0 total t .frame 0).mpr ⟨hsrc, .inr ⟨le_refl 0, ?_⟩⟩, fun x hx => ?_⟩
      · show (0 : ℤ) + total ≤ 1536
        omega
      · have hin := Mem.putBytes_inside (t .frame) 0 ((List.range total).map fun k : ℕ => t .page (0 + (k : ℤ))) x (by simpa using hx)
        rw [zero_add] at hin
        rw [memcpy_st, Function.update_self, hin]
        simp [hx]
    refine hcopy.bind fun _ u hu => Gives.get.bind fun v w hvw => ?_
    rw [hvw.1, hvw.2]
    refine .pure fun image himage => ?_
    obtain rfl := Option.some.inj himage
    refine ⟨by rw [List.length_map, List.length_range], fun x hx => ?_⟩
    rw [← hu x hx]
    simp [hx]
  · exact .pure fun image himage => absurd himage.symm (Option.some_ne_none image)

end

/-! ## The whole image -/

section
variable {n : ℕ} {a : RsvdPageInfo}

theorem builds_bcnElements {lo hi x : ℤ} (h : InPage lo hi) (hmin : 12 ≤ a.network.ieLength)
    (hmax : a.network.ieLength ≤ 200) (hap : a.state &&& 0x03 = WIFI_FW_AP_STATE → a.network.ieLength + 36 ≤ n)
    (hlo : lo ≤ x) (hhi : x + 260 ≤ hi) (t : Regions RsvdRegion) :
    Builds n lo hi (bcnElements a x 36) t fun k => 36 ≤ k ∧ k ≤ 224 := by
  refine .ite (fun hmode => ?_) fun _ => ?_
  · refine (builds_apElements h a hmin (hap hmode) hlo (by omega)).mono (le_refl _) (le_refl _) fun k hk => ?_
    omega
  · refine (builds_adhocElements h a hlo (by omega)).mono (le_refl _) (le_refl _) fun k hk => ?_
    omega

theorem gives_putBeacon (hmin : 12 ≤ a.network.ieLength) (hmax : a.network.ieLength ≤ 200) (hread : a.network.ieLength ≤ n)
    (hap : a.state &&& 0x03 = WIFI_FW_AP_STATE → a.network.ieLength + 36 ≤ n) (stale : ℕ) (s : Regions RsvdRegion) :
    Gives (Fits (size n)) (putBeacon a stale) s fun r t =>
      r.1.set.isSome ∧ r.1.bufIndex = TXDESC_OFFSET ∧ r.2.pageNum = 2 ∧ Row r.2 [r.1] t := by
  have hdesc : TXDESC_SIZE = 32 := rfl
  have hoffset : TXDESC_OFFSET = 40 := rfl
  have hpage : InPage (TXDESC_OFFSET : ℕ) 1000 := ⟨by omega, le_refl 1000⟩
  have hstart : (({} : Cursor).bufIndex : ℤ) = (TXDESC_OFFSET : ℕ) := rfl
  rw [putBeacon]
  dsimp only
  rw [hstart]
  refine (builds_constructBeacon hpage a (by omega) (le_refl _) (by omega)
    (builds_bcnElements hpage hmin hmax hap (le_refl _) (by omega))).gives.bind fun set t ht => ?_
  obtain ⟨⟨k, hk, rfl⟩, -⟩ := ht
  refine Gives.get.bind fun v w hvw => ?_
  rw [hvw.1, hvw.2, if_neg (by omega)]
  have hneed : bcnPageNeed k = 2 := by
    have hbounds := pageNum128_bounds (TXDESC_SIZE + k)
    rw [bcnPageNeed, pageNeed_eq (by omega)]
    split <;> omega
  have hpages : pageNum128 (TXDESC_SIZE + k) ≤ 2 := by
    have hbounds := pageNum128_bounds (TXDESC_SIZE + k)
    omega
  dsimp only [Option.getD_some]
  rw [hneed]
  have hcursor : (({} : Cursor).pass 2).pageNum = 2 := rfl
  have hrow : Row (({} : Cursor).pass 2) [⟨TXDESC_OFFSET, some k, k, t .page⟩] t :=
    (row_nil t).push rfl rfl rfl (by rw [hcursor]; omega) (by rw [hcursor]; exact (Nat.zero_add _).le.trans hpages)
  exact .pure ⟨rfl, rfl, rfl, hrow⟩

theorem gives_fillRsvdPage (env : RsvdPageEnv) (hmin : 12 ≤ a.network.ieLength) (hmax : a.network.ieLength ≤ 200)
    (hread : a.network.ieLength ≤ n) (hap : a.state &&& 0x03 = WIFI_FW_AP_STATE → a.network.ieLength + 36 ≤ n)
    (s : Regions RsvdRegion) : Gives (Fits (size n)) (fillRsvdPage a env) s fun f _ => WellPlaced f := by
  have hdesc : TXDESC_SIZE = 32 := rfl
  have hoffset : TXDESC_OFFSET = 40 := rfl
  have hlimit : MAX_IE_SZ = 768 := rfl
  have hpage : ∀ c : Cursor, InPage (c.bufIndex : ℕ) 1000 := fun c => ⟨by omega, le_refl 1000⟩
  have hshort : pageNum128 (TXDESC_SIZE + 16) = 1 ∧ pageNum128 (TXDESC_SIZE + nullLength false) = 1 ∧
      pageNum128 (TXDESC_SIZE + nullLength true) = 1 := by decide
  have hrsp : pageNum128 (TXDESC_SIZE + (24 + a.network.ieLength)) ≤ 2 := by
    have hbounds := pageNum128_bounds (TXDESC_SIZE + (24 + a.network.ieLength))
    omega
  have hnull : nullLength false = 24 := rfl
  have hqos : nullLength true = 26 := rfl
  have hbeacon := gives_putBeacon hmin hmax hread hap (env.stale 0).toNat s
  refine hbeacon.bind fun r t₁ h₁ => ?_
  obtain ⟨beacon, c₂⟩ := r
  obtain ⟨hset₁, hindex₁, hnum₂, hrow₂⟩ := h₁
  dsimp only at hset₁ hindex₁ hnum₂ hrow₂ ⊢
  have hc₂ := hrow₂.cursor
  have hbuild₂ : Builds n c₂.bufIndex 1000 (constructPSPoll a c₂.bufIndex) t₁ fun set => set = some 16 :=
    builds_constructPSPoll (hpage c₂) a (le_refl _) (by omega)
  refine (hrow₂.put (constructPSPoll a) 16 (env.stale 1).toNat true false hbuild₂ (by omega) (by omega) (by omega)).bind
    fun r t₂ h₂ => ?_
  obtain ⟨psPoll, c₃⟩ := r
  have hnum₃ := h₂.pageNum
  have hrow₃ : Row c₃ [beacon, psPoll] t₂ := h₂.row
  have hc₃ := hrow₃.cursor
  dsimp only at hnum₃ hc₃ ⊢
  have hbuild₃ : Builds n c₃.bufIndex 1000 (constructNullFunctionData a c₃.bufIndex a.network.macAddress false 0 0 false) t₂
      fun set => set = some (nullLength false) :=
    builds_constructNull (hpage c₃) a _ false 0 0 (le_refl _) (by omega)
  refine (hrow₃.put (constructNullFunctionData a · a.network.macAddress false 0 0 false) (nullLength false)
    (env.stale 2).toNat false false hbuild₃ (by omega) (by omega) (by omega)).bind fun r t₃ h₃ => ?_
  obtain ⟨nullData, c₄⟩ := r
  have hnum₄ := h₃.pageNum
  have hrow₄ : Row c₄ [beacon, psPoll, nullData] t₃ := h₃.row
  have hc₄ := hrow₄.cursor
  dsimp only at hnum₄ hc₄ ⊢
  have hbuild₄ : Builds n c₄.bufIndex 1000 (constructProbeRsp a c₄.bufIndex a.network.macAddress) t₃
      fun set => set = some (24 + a.network.ieLength) :=
    builds_constructProbeRsp (hpage c₄) a _ (by omega) hread (le_refl _) (by omega)
  refine (hrow₄.put (constructProbeRsp a · a.network.macAddress) (24 + a.network.ieLength) (env.stale 3).toNat false false
    hbuild₄ (by omega) (by omega) (by omega)).bind fun r t₄ h₄ => ?_
  obtain ⟨probeRsp, c₅⟩ := r
  have hnum₅ := h₄.pageNum
  have hrow₅ : Row c₅ [beacon, psPoll, nullData, probeRsp] t₄ := h₄.row
  have hc₅ := hrow₅.cursor
  dsimp only at hnum₅ hc₅ ⊢
  have hbuild : ∀ (c : Cursor) (t : Regions RsvdRegion), c.bufIndex + 26 ≤ 1000 →
      Builds n c.bufIndex 1000 (constructNullFunctionData a c.bufIndex a.network.macAddress true 0 0 false) t
        fun set => set = some (nullLength true) := fun c t hc =>
    builds_constructNull (hpage c) a _ true 0 0 (le_refl _) (by omega)
  refine (hrow₅.put (constructNullFunctionData a · a.network.macAddress true 0 0 false) (nullLength true)
    (env.stale 4).toNat false false (hbuild c₅ t₄ (by omega)) (by omega) (by omega) (by omega)).bind fun r t₅ h₅ => ?_
  obtain ⟨qosNull, c₆⟩ := r
  have hnum₆ := h₅.pageNum
  have hrow₆ : Row c₆ [beacon, psPoll, nullData, probeRsp, qosNull] t₅ := h₅.row
  have hc₆ := hrow₆.cursor
  dsimp only at hnum₆ hc₆ ⊢
  refine (hrow₆.put (constructNullFunctionData a · a.network.macAddress true 0 0 false) (nullLength true)
    (env.stale 5).toNat false true (hbuild c₆ t₅ (by omega)) (by omega) (by omega) (by omega)).bind fun r t₆ h₆ => ?_
  obtain ⟨btQosNull, c₇⟩ := r
  have hlen₆ := h₆.length
  dsimp only at hlen₆ ⊢
  refine (gives_send env (by omega)).bind fun sent t₇ h₇ => ?_
  have hrow₇ : Row c₇ [beacon, psPoll, nullData, probeRsp, qosNull, btQosNull] t₆ := h₆.row
  have hpage₂ : psPoll.page = c₂.pageNum := h₂.page
  have hpage₃ : nullData.page = c₃.pageNum := h₃.page
  have hpage₄ : probeRsp.page = c₄.pageNum := h₄.page
  have hpage₅ : qosNull.page = c₅.pageNum := h₅.page
  have hpage₆ : btQosNull.page = c₆.pageNum := h₆.page
  have hindex₆ : btQosNull.bufIndex = c₆.bufIndex := h₆.bufIndex
  refine .pure ⟨?_, ?_, rfl, hrow₇.aligned, hrow₇.apart, fun image himage p hp => ?_, ?_⟩
  · exact .cons h₂.described (.cons h₃.described (.cons h₄.described (.cons h₅.described (.cons h₆.described .nil))))
  · intro p hp
    simp only [List.mem_cons, List.not_mem_nil, or_false] at hp
    rcases hp with rfl | rfl | rfl | rfl | rfl | rfl
    · exact hset₁
    · exact Option.isSome_iff_exists.mpr ⟨_, h₂.set⟩
    · exact Option.isSome_iff_exists.mpr ⟨_, h₃.set⟩
    · exact Option.isSome_iff_exists.mpr ⟨_, h₄.set⟩
    · exact Option.isSome_iff_exists.mpr ⟨_, h₅.set⟩
    · exact Option.isSome_iff_exists.mpr ⟨_, h₆.set⟩
  · obtain ⟨hlength, hbytes⟩ := h₇ image himage
    have hend : p.bufIndex + p.length ≤ c₆.bufIndex + btQosNull.length := by
      rcases List.mem_append.mp (show p ∈ [beacon, psPoll, nullData, probeRsp, qosNull] ++ [btQosNull] from hp) with hold | hnew
      · have hbefore := hrow₆.packet_end hold
        omega
      · rw [List.mem_singleton.mp hnew, hindex₆]
    refine ⟨hlength ▸ hend, fun x hlo hhi => ?_⟩
    rw [hbytes x (by omega)]
    exact hrow₇.kept p hp x hlo hhi
  · rw [← hpage₂, ← hpage₃, ← hpage₄, ← hpage₅, ← hpage₆]
    rfl

/-! ## Images that do not fit -/

theorem constructBeacon_val (a : RsvdPageInfo) (s : Regions RsvdRegion) :
    ∃ k, 36 ≤ k ∧ ((constructBeacon a (TXDESC_OFFSET : ℕ)).run s).val = if 512 < k + TXDESC_SIZE then none else some k := by
  obtain ⟨x, hx⟩ : ∃ x : ℤ, x = (TXDESC_OFFSET : ℕ) := ⟨_, rfl⟩
  rw [← hx]
  have hval : ∃ t, ((constructBeacon a x).run s).val =
      if 512 < ((bcnElements a x 36).run t).val + TXDESC_SIZE then none else some ((bcnElements a x 36).run t).val := ⟨_, rfl⟩
  obtain ⟨t, ht⟩ := hval
  refine ⟨_, ?_, ht⟩
  rw [bcnElements]
  split
  · exact Nat.le_add_right 36 _
  · have hoffset : TXDESC_OFFSET = 40 := rfl
    have hpage : InPage x 1000 := ⟨by omega, le_refl 1000⟩
    exact (builds_adhocElements (n := 768) (s := t) hpage a (le_refl x) (by omega)).answer.1

theorem putBeacon_val (a : RsvdPageInfo) (stale : ℕ) (s : Regions RsvdRegion) :
    ((putBeacon a stale).run s).val.1.set = ((constructBeacon a (TXDESC_OFFSET : ℕ)).run s).val ∧
      ((putBeacon a stale).run s).val.2 =
        ({} : Cursor).pass (bcnPageNeed ((((constructBeacon a (TXDESC_OFFSET : ℕ)).run s).val).getD stale)) := by
  have hstart : (({} : Cursor).bufIndex : ℤ) = (TXDESC_OFFSET : ℕ) := rfl
  rw [putBeacon]
  dsimp only
  rw [hstart, bind_val, bind_val, pure_val, get_val]
  exact ⟨rfl, rfl⟩

theorem inside_put {β : Type} {c : Cursor} (construct : ℤ → P (Option ℕ)) {len stale : ℕ} {isPsPoll isBTQosNull : Bool}
    {f : Packet × Cursor → P β} {s : Regions RsvdRegion} (hval : ∀ t, ((construct c.bufIndex).run t).val = some len)
    (h : Inside (Fits (size n)) (put c construct stale isPsPoll isBTQosNull >>= f) s) :
    ∃ p t, Inside (Fits (size n)) (f (p, c.pass (pageNeed len))) t := by
  have hrest := ((inside_bind _ _ _ _).mp h).2
  have hcursor : ((put c construct stale isPsPoll isBTQosNull).run s).val.2 = c.pass (pageNeed len) := by
    have hput : ((put c construct stale isPsPoll isBTQosNull).run s).val.2 =
        c.pass (pageNeed ((((construct c.bufIndex).run s).val).getD stale)) := rfl
    rw [hput, hval, Option.getD_some]
  rw [← hcursor]
  exact ⟨_, _, hrest⟩

theorem inside_put_null {c : Cursor} {staAddr : MacAddr} {bQoS isPsPoll isBTQosNull : Bool} {stale : ℕ}
    {s : Regions RsvdRegion} (h : Inside (Fits (size n))
      (put c (constructNullFunctionData a · staAddr bQoS 0 0 false) stale isPsPoll isBTQosNull) s) : c.bufIndex + 2 ≤ 1000 := by
  have hbuild := ((inside_bind _ _ _ _).mp h).1
  have hstore := ((inside_bind _ _ _ _).mp hbuild).1
  rcases (inside_store (size n) .page c.bufIndex [0, 0] s).mp hstore with hzero | ⟨-, hwithin⟩
  · exact absurd hzero (by decide)
  · have hsize : (c.bufIndex : ℤ) + (2 : ℕ) ≤ 1000 := hwithin
    omega

theorem constructProbeRsp_val (hmax : a.network.ieLength ≤ MAX_IE_SZ) (x : ℤ) (staAddr : MacAddr) (s : Regions RsvdRegion) :
    ((constructProbeRsp a x staAddr).run s).val = some (24 + a.network.ieLength) := by
  have hval : ∃ t, ((constructProbeRsp a x staAddr).run s).val = ((if MAX_IE_SZ < a.network.ieLength then pure none
      else do
        memcpy .page (x + 24) .ies 0 a.network.ieLength
        pure (some (24 + a.network.ieLength)) : P (Option ℕ)).run t).val := ⟨_, rfl⟩
  obtain ⟨t, ht⟩ := hval
  rw [ht, if_neg (not_lt.mpr hmax)]
  rfl

theorem constructPSPoll_val (a : RsvdPageInfo) (x : ℤ) (s : Regions RsvdRegion) :
    ((constructPSPoll a x).run s).val = some 16 := rfl

theorem constructNull_val (a : RsvdPageInfo) (x : ℤ) (staAddr : MacAddr) (bQoS : Bool) (s : Regions RsvdRegion) :
    ((constructNullFunctionData a x staAddr bQoS 0 0 false).run s).val = some (nullLength bQoS) := by
  cases bQoS <;> rfl

/-- With more elements the last packet starts behind the end of the buffer. -/
theorem not_inside_long (env : RsvdPageEnv) (hlong : 200 < a.network.ieLength) (hmax : a.network.ieLength ≤ MAX_IE_SZ)
    {s : Regions RsvdRegion} (hset : ((putBeacon a (env.stale 0).toNat).run s).val.1.set.isSome) :
    ¬Inside (Fits (size n)) (fillRsvdPage a env) s := by
  intro h
  have hdesc : TXDESC_SIZE = 32 := rfl
  have hoffset : TXDESC_OFFSET = 40 := rfl
  have hlimit : MAX_IE_SZ = 768 := rfl
  obtain ⟨k, hk, hbeacon⟩ := constructBeacon_val a s
  obtain ⟨hfirst, hcursor⟩ := putBeacon_val a (env.stale 0).toNat s
  have hshort : k + TXDESC_SIZE ≤ 512 := by
    by_contra hlarge
    rw [hfirst, hbeacon, if_pos (not_le.mp hlarge)] at hset
    exact Bool.false_ne_true hset
  rw [hbeacon, if_neg (not_lt.mpr hshort), Option.getD_some] at hcursor
  obtain ⟨c₂, hc₂⟩ : ∃ c₂, c₂ = ({} : Cursor).pass (bcnPageNeed k) := ⟨_, rfl⟩
  rw [← hc₂] at hcursor
  -- behind the beacon, and behind each of the next four packets
  rw [fillRsvdPage] at h
  have h₁ := ((inside_bind _ _ _ _).mp h).2
  obtain ⟨r, hr⟩ : ∃ r, r = ((putBeacon a (env.stale 0).toNat).run s).val := ⟨_, rfl⟩
  rw [← hr] at h₁ hcursor
  obtain ⟨beacon, c⟩ := r
  dsimp only at h₁ hcursor
  subst hcursor
  obtain ⟨_, t₂, h₂⟩ := inside_put (constructPSPoll a) (constructPSPoll_val a _) h₁
  dsimp only at h₂
  obtain ⟨_, t₃, h₃⟩ := inside_put (constructNullFunctionData a · a.network.macAddress false 0 0 false)
    (constructNull_val a _ _ false) h₂
  dsimp only at h₃
  obtain ⟨_, t₄, h₄⟩ := inside_put (constructProbeRsp a · a.network.macAddress) (constructProbeRsp_val hmax _ _) h₃
  dsimp only at h₄
  obtain ⟨_, t₅, h₅⟩ := inside_put (constructNullFunctionData a · a.network.macAddress true 0 0 false)
    (constructNull_val a _ _ true) h₄
  dsimp only at h₅
  have hlast := inside_put_null ((inside_bind _ _ _ _).mp h₅).1
  have hneed : 2 ≤ bcnPageNeed k ∧ bcnPageNeed k ≤ 4 := by
    have hbounds := pageNum128_bounds (TXDESC_SIZE + k)
    rw [bcnPageNeed, pageNeed_eq (by omega)]
    split <;> omega
  have hshortNeed : pageNeed 16 = 1 ∧ pageNeed (nullLength false) = 1 ∧ pageNeed (nullLength true) = 1 := by decide
  have hrsp : 3 ≤ pageNeed (24 + a.network.ieLength) ∧ pageNeed (24 + a.network.ieLength) ≤ 7 := by
    have hbounds := pageNum128_bounds (TXDESC_SIZE + (24 + a.network.ieLength))
    rw [pageNeed_eq (by omega)]
    omega
  rw [hc₂, hshortNeed.1, hshortNeed.2.1, hshortNeed.2.2] at hlast
  dsimp only [Cursor.pass] at hlast
  omega

theorem inside_putBeacon_ap {stale : ℕ} {s : Regions RsvdRegion} (hap : a.state &&& 0x03 = WIFI_FW_AP_STATE)
    (h : Inside (Fits (size n)) (putBeacon a stale) s) : a.network.ieLength + 24 ≤ n := by
  have hfixed : _FIXED_IE_LENGTH_ = 12 := rfl
  have hbuild := ((inside_bind _ _ _ _).mp h).1
  simp only [constructBeacon, inside_bind] at hbuild
  have helements := hbuild.2.2.2.2.2.2.1
  rw [bcnElements, if_pos hap] at helements
  have hcopy := ((inside_bind _ _ _ _).mp helements).1
  rcases ((inside_memcpy _ _ _ _ _ _ _).mp hcopy).1 with hzero | ⟨-, hwithin⟩
  · exact absurd hzero (by omega)
  · have hsize : ((_FIXED_IE_LENGTH_ : ℕ) : ℤ) + (36 + (a.network.ieLength - _FIXED_IE_LENGTH_) : ℕ) ≤ n := hwithin
    omega

/-! ## The claim -/

theorem sound_of_alloc_failed {env : RsvdPageEnv} (halloc : env.kzalloc = false) : Sound n a env := by
  have hnone : setFwRsvdPagePkt a env = pure none := by rw [setFwRsvdPagePkt, halloc, if_neg Bool.false_ne_true]
  refine ⟨?_, fun f hf => ?_⟩
  · rw [hnone]
    exact inside_pure _ _ _
  · rw [hnone] at hf
    exact absurd hf.symm (Option.some_ne_none f)

theorem setFwRsvdPagePkt_alloc {env : RsvdPageEnv} (halloc : env.kzalloc = true) :
    setFwRsvdPagePkt a env = some <$> fillRsvdPage a env := by rw [setFwRsvdPagePkt, halloc, if_pos rfl]

theorem sound_of_short (env : RsvdPageEnv) (hmin : 12 ≤ a.network.ieLength) (hmax : a.network.ieLength ≤ 200)
    (hread : a.network.ieLength ≤ n) (hap : a.state &&& 0x03 = WIFI_FW_AP_STATE → a.network.ieLength + 36 ≤ n) :
    Sound n a env := by
  cases halloc : env.kzalloc with
  | false => exact sound_of_alloc_failed halloc
  | true =>
    have hfill := gives_fillRsvdPage env hmin hmax hread hap (start a)
    refine ⟨?_, fun f hf => ?_⟩
    · rw [setFwRsvdPagePkt_alloc halloc, inside_map]
      exact hfill.inside
    · rw [setFwRsvdPagePkt_alloc halloc, map_val] at hf
      exact Option.some.inj hf ▸ hfill.post

theorem Sound.short {env : RsvdPageEnv} (h : Sound n a env) (halloc : env.kzalloc = true)
    (hmax : a.network.ieLength ≤ MAX_IE_SZ) : a.network.ieLength ≤ 200 ∧ Inside (Fits (size n)) (fillRsvdPage a env) (start a) := by
  have hinside := h.inside
  rw [setFwRsvdPagePkt_alloc halloc, inside_map] at hinside
  have hplaced := h.placed ((fillRsvdPage a env).run (start a)).val (by rw [setFwRsvdPagePkt_alloc halloc, map_val])
  have hset : ((putBeacon a (env.stale 0).toNat).run (start a)).val.1.set.isSome :=
    hplaced.initialised _ List.mem_cons_self
  refine ⟨?_, hinside⟩
  by_contra hlong
  exact not_inside_long env (not_le.mp hlong) hmax hset hinside

/-- The image is as it should be exactly when the elements of the network are 200 bytes at most. When the bytes of the array
behind these elements are not counted among the record's, it must not be an access point's either. -/
theorem sound_iff (env : RsvdPageEnv) (hmin : 12 ≤ a.network.ieLength) (hmax : a.network.ieLength ≤ MAX_IE_SZ) :
    (Sound MAX_IE_SZ a env ↔ (env.kzalloc = true → a.network.ieLength ≤ 200)) ∧
      (Sound a.network.ieLength a env ↔
        (env.kzalloc = true → a.network.ieLength ≤ 200 ∧ a.state &&& 0x03 ≠ WIFI_FW_AP_STATE)) := by
  have hlimit : MAX_IE_SZ = 768 := rfl
  cases halloc : env.kzalloc with
  | false => exact ⟨iff_of_true (sound_of_alloc_failed halloc) fun h => absurd h Bool.false_ne_true,
      iff_of_true (sound_of_alloc_failed halloc) fun h => absurd h Bool.false_ne_true⟩
  | true =>
    refine ⟨⟨fun h _ => (h.short halloc hmax).1, fun h => ?_⟩, ⟨fun h _ => ?_, fun h => ?_⟩⟩
    · have hshort := h rfl
      exact sound_of_short env hmin hshort hmax fun _ => by omega
    · obtain ⟨hshort, hinside⟩ := h.short halloc hmax
      refine ⟨hshort, fun hap => ?_⟩
      have hover := inside_putBeacon_ap hap ((inside_bind _ _ _ _).mp hinside).1
      omega
    · obtain ⟨hshort, hap⟩ := h rfl
      exact sound_of_short env hmin hshort (le_refl _) fun hmode => absurd hmode hap

end

/-- A network with no element but the fixed bytes and `extra` bytes behind them. -/
def sampleInfo (extra : ℕ) (state : BitVec 32) : RsvdPageInfo where
  network :=
    { ies := fun _ => 0
      ieLength := 12 + extra
      macAddress := Vector.replicate 6 2
      ssid := Vector.replicate 32 0
      ssidLength := 0
      supportedRates := Vector.replicate 16 0 }
  state := state

theorem sound_iff_station : Sound MAX_IE_SZ (sampleInfo 100 0x02) {} :=
  (sound_iff {} (by decide) (by decide)).1.mpr fun _ => by decide

/-- One byte more than fits. -/
theorem not_sound_long : ¬ ∀ (a : RsvdPageInfo) (env : RsvdPageEnv), 12 ≤ a.network.ieLength →
    a.network.ieLength ≤ MAX_IE_SZ → Sound MAX_IE_SZ a env := by
  intro h
  have hsound := h (sampleInfo 189 0x02) {} (by decide) (by decide)
  exact absurd (hsound.short rfl (by decide)).1 (by decide)

end RsvdPage

end Rtl8723au
