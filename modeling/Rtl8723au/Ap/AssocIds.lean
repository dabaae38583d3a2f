import Rtl8723au.Ap.StaTable

/-! The association identifiers: when the slots of `sta_aid` and the stations agree, and how a rejected
request leaves a slot behind. -/
namespace Rtl8723au
open Relation
set_option autoImplicit false

/-! ## The invariant -/

/-- The slots of `sta_aid` hold exactly the allocated stations that have an identifier, an associated
station has one, and no two associated stations have the same. -/
structure AssocIds (sp : StaPriv) : Prop where
  slot : ∀ p, ∀ a, 1 ≤ a → a ≤ NUM_STA →
    (sp.staAid (StaPriv.aidSlot a) = some p ↔ sp.Hashed p ∧ (sp.staInfo p).aid = a)
  associated : ∀ p ∈ sp.asocList, 1 ≤ (sp.staInfo p).aid
  unique : ∀ p ∈ sp.asocList, ∀ q ∈ sp.asocList, (sp.staInfo p).aid = (sp.staInfo q).aid → p = q

/-- The invariant, over the parts of the table it is about. -/
structure SlotsWf (hashed : StaId → Prop) (asocList : List StaId) (aid : StaId → ℕ)
    (staAid : Fin 32 → Option StaId) : Prop where
  slot : ∀ p, ∀ a, 1 ≤ a → a ≤ NUM_STA → (staAid (StaPriv.aidSlot a) = some p ↔ hashed p ∧ aid p = a)
  associated : ∀ p ∈ asocList, 1 ≤ aid p
  bound : ∀ p, hashed p → aid p ≤ NUM_STA

/-- The stations of a table with their identifiers. -/
abbrev StaPriv.SlotsWf (sp : StaPriv) : Prop :=
  Rtl8723au.SlotsWf sp.Hashed sp.asocList (fun p => (sp.staInfo p).aid) sp.staAid

theorem AssocIds.intro {sp : StaPriv} (lists : ListsWf sp.links) (slots : sp.SlotsWf) : AssocIds sp where
  slot := slots.slot
  associated := slots.associated
  unique p hp q hq hsame := by
    have hpos := slots.associated p hp
    have hpHashed : sp.Hashed p := lists.asocHashed p hp
    have hqHashed : sp.Hashed q := lists.asocHashed q hq
    have hbound := slots.bound p hpHashed
    have hslotP := (slots.slot p _ hpos hbound).mpr ⟨hpHashed, rfl⟩
    have hslotQ := (slots.slot q _ hpos hbound).mpr ⟨hqHashed, hsame.symm⟩
    exact Option.some.inj (hslotP.symm.trans hslotQ)

theorem aidSlot_inj {a b : ℕ} (ha : 1 ≤ a) (ha' : a ≤ NUM_STA) (hb : 1 ≤ b) (hb' : b ≤ NUM_STA)
    (h : StaPriv.aidSlot a = StaPriv.aidSlot b) : a = b := by
  unfold NUM_STA at ha' hb'
  have hval : (a - 1) % 32 = (b - 1) % 32 := congrArg Fin.val h
  omega

/-! ## A free slot -/

theorem SlotsWf.exists_free {hashed : StaId → Prop} {asocList : List StaId} {aid : StaId → ℕ}
    {staAid : Fin 32 → Option StaId} (slots : Rtl8723au.SlotsWf hashed asocList aid staAid) {p : StaId}
    (haid : aid p = 0) : ∃ slot, staAid slot = none := by
  by_contra hnone
  have hused : ∀ slot, ∃ q, staAid slot = some q := fun slot =>
    Option.ne_none_iff_exists'.mp fun e => hnone ⟨slot, e⟩
  choose owner howner using hused
  have howns : ∀ slot : Fin 32, aid (owner slot) = slot + 1 := by
    intro slot
    have hslot : StaPriv.aidSlot (slot + 1) = slot := by
      unfold StaPriv.aidSlot
      rw [Nat.add_sub_cancel]
      exact Fin.ofNat_val_eq_self slot
    have hle : (slot : ℕ) + 1 ≤ NUM_STA := slot.isLt
    exact ((slots.slot (owner slot) (slot + 1) (by omega) hle).mp (by rw [hslot]; exact howner slot)).2
  have hinj : Function.Injective owner := by
    intro i j hij
    have hi := howns i
    have hj := howns j
    rw [hij] at hi
    exact Fin.ext (by omega)
  obtain ⟨slot, hslot⟩ := Finite.injective_iff_surjective.mp hinj p
  have hpos := howns slot
  rw [hslot, haid] at hpos
  omega

theorem firstFreeAid_free {sp : StaPriv} (h : ∃ slot, sp.staAid slot = none) :
    1 ≤ firstFreeAid sp ∧ firstFreeAid sp ≤ NUM_STA ∧
      sp.staAid (StaPriv.aidSlot (firstFreeAid sp)) = none := by
  unfold firstFreeAid
  cases hfind : (List.finRange 32).find? fun slot => (sp.staAid slot).isNone with
  | none =>
    obtain ⟨slot, hslot⟩ := h
    have hused := List.find?_eq_none.mp hfind slot (List.mem_finRange slot)
    simp [hslot] at hused
  | some slot =>
    have hnone : (sp.staAid slot).isNone = true := by
      have hfound := List.find?_some hfind
      exact hfound
    have hslot : StaPriv.aidSlot (slot + 1) = slot := by
      unfold StaPriv.aidSlot
      rw [Nat.add_sub_cancel]
      exact Fin.ofNat_val_eq_self slot
    refine ⟨Nat.le_add_left 1 _, slot.isLt, ?_⟩
    show sp.staAid (StaPriv.aidSlot (slot + 1)) = none
    rw [hslot]
    exact Option.isNone_iff_eq_none.mp hnone

/-! ## One operation -/

namespace SlotsWf
variable {hashed : StaId → Prop} {asocList : List StaId} {aid : StaId → ℕ}
  {staAid : Fin 32 → Option StaId} (slots : Rtl8723au.SlotsWf hashed asocList aid staAid) {p : StaId}
include slots

theorem alloc (hp : ¬ hashed p) (hlisted : p ∉ asocList) :
    Rtl8723au.SlotsWf (fun q => hashed q ∨ q = p) asocList (Function.update aid p 0) staAid where
  slot q a ha ha' := by
    by_cases hq : q = p
    · subst hq
      rw [slots.slot q a ha ha', Function.update_self]
      constructor
      · intro h
        exact absurd h.1 hp
      · intro h
        omega
    · rw [slots.slot q a ha ha', Function.update_of_ne hq]
      simp [hq]
  associated q hq := by
    have hne : q ≠ p := fun e => hlisted (e ▸ hq)
    rw [Function.update_of_ne hne]
    exact slots.associated q hq
  bound q hq := by
    by_cases he : q = p
    · rw [he, Function.update_self]
      exact Nat.zero_le _
    · rw [Function.update_of_ne he]
      cases hq with
      | inl h => exact slots.bound q h
      | inr h => exact absurd h he

theorem free (hp : hashed p) (hlisted : p ∉ asocList) (a : ℕ) (staAid' : Fin 32 → Option StaId)
    (hslots : staAid' = if 1 ≤ aid p then Function.update staAid (StaPriv.aidSlot (aid p)) none
      else staAid) :
    Rtl8723au.SlotsWf (fun q => hashed q ∧ q ≠ p) asocList (Function.update aid p a) staAid' where
  slot q b hb hb' := by
    have hold : (hashed q ∧ q ≠ p) ∧ Function.update aid p a q = b ↔ (hashed q ∧ aid q = b) ∧ q ≠ p := by
      by_cases hq : q = p
      · simp [hq]
      · rw [Function.update_of_ne hq]
        tauto
    rw [hold, ← slots.slot q b hb hb', hslots]
    by_cases hpos : 1 ≤ aid p
    · rw [if_pos hpos]
      have hmine := (slots.slot p (aid p) hpos (slots.bound p hp)).mpr ⟨hp, rfl⟩
      by_cases hsame : b = aid p
      · rw [hsame, Function.update_self, hmine]
        constructor
        · intro h
          cases h
        · rintro ⟨h, hne⟩
          exact absurd (Option.some.inj h).symm hne
      · have hother : StaPriv.aidSlot b ≠ StaPriv.aidSlot (aid p) := fun e =>
          hsame (aidSlot_inj hb hb' hpos (slots.bound p hp) e)
        rw [Function.update_of_ne hother]
        constructor
        · intro h
          refine ⟨h, fun e => hsame ?_⟩
          rw [e] at h
          exact ((slots.slot p b hb hb').mp h).2.symm
        · intro h
          exact h.1
    · rw [if_neg hpos]
      constructor
      · intro h
        refine ⟨h, fun e => hpos ?_⟩
        rw [e] at h
        rw [((slots.slot p b hb hb').mp h).2]
        exact hb
      · intro h
        exact h.1
  associated q hq := by
    have hne : q ≠ p := fun e => hlisted (e ▸ hq)
    rw [Function.update_of_ne hne]
    exact slots.associated q hq
  bound q hq := by
    rw [Function.update_of_ne hq.2]
    exact slots.bound q hq.1

theorem take (hp : hashed p) (haid : aid p = 0) {a : ℕ} (ha : 1 ≤ a) (ha' : a ≤ NUM_STA)
    (hfree : staAid (StaPriv.aidSlot a) = none) :
    Rtl8723au.SlotsWf hashed asocList (Function.update aid p a)
      (Function.update staAid (StaPriv.aidSlot a) (some p)) where
  slot q b hb hb' := by
    by_cases hsame : b = a
    · rw [hsame, Function.update_self]
      by_cases hq : q = p
      · simp [hq, hp]
      · rw [Function.update_of_ne hq]
        constructor
        · intro h
          exact absurd (Option.some.inj h).symm hq
        · intro h
          have hslot := (slots.slot q a ha ha').mpr h
          rw [hfree] at hslot
          cases hslot
    · have hother : StaPriv.aidSlot b ≠ StaPriv.aidSlot a := fun e => hsame (aidSlot_inj hb hb' ha ha' e)
      rw [Function.update_of_ne hother, slots.slot q b hb hb']
      by_cases hq : q = p
      · subst hq
        rw [Function.update_self]
        constructor
        · intro h
          omega
        · intro h
          exact absurd h.2.symm hsame
      · rw [Function.update_of_ne hq]
  associated q hq := by
    by_cases he : q = p
    · rw [he, Function.update_self]
      exact ha
    · rw [Function.update_of_ne he]
      exact slots.associated q hq
  bound q hq := by
    by_cases he : q = p
    · rw [he, Function.update_self]
      exact ha'
    · rw [Function.update_of_ne he]
      exact slots.bound q hq

theorem relist {asocList' : List StaId} (h : ∀ q ∈ asocList', 1 ≤ aid q) :
    Rtl8723au.SlotsWf hashed asocList' aid staAid := ⟨slots.slot, h, slots.bound⟩

end SlotsWf

/-- A freed station has an identifier below 32, and a station that forgets its identifier has none. -/
def idPermits : Permits where
  free a psta := (a.staInfo psta).aid ≤ 31
  forget a psta := (a.staInfo psta).aid = 0

section
variable (sp : StaPriv) (p : StaId) (info : StaInfo)

theorem setInfo_aid : (fun q => ((sp.setInfo p info).staInfo q).aid) =
    Function.update (fun q => (sp.staInfo q).aid) p info.aid := by
  funext q
  by_cases hq : q = p
  · rw [hq, setInfo_self, Function.update_self]
  · rw [setInfo_other _ _ _ _ hq, Function.update_of_ne hq]

theorem setInfo_aid_same (h : info.aid = (sp.staInfo p).aid) :
    (fun q => ((sp.setInfo p info).staInfo q).aid) = fun q => (sp.staInfo q).aid := by
  rw [setInfo_aid, h]
  exact Function.update_eq_self p _

end

theorem StaPriv.SlotsWf.setInfo {sp : StaPriv} (slots : sp.SlotsWf) (p : StaId) (info : StaInfo)
    (h : info.aid = (sp.staInfo p).aid) : (sp.setInfo p info).SlotsWf := by
  unfold StaPriv.SlotsWf
  rw [setInfo_aid_same _ _ _ h]
  exact slots

/-- What `rtw_free_stainfo` does to the identifiers: a station with a slot gives it back. -/
theorem StaPriv.SlotsWf.freeStainfo {sp : StaPriv} (slots : sp.SlotsWf) {p : StaId} (hp : sp.Hashed p)
    (hlisted : p ∉ sp.asocList) (hle : (sp.staInfo p).aid ≤ 31) : (rtwFreeStainfo sp p).SlotsWf := by
  have hlinks := rtwFreeStainfo_links sp p
  have hhashed : (rtwFreeStainfo sp p).Hashed = fun q => sp.Hashed q ∧ q ≠ p := by
    funext q
    show (rtwFreeStainfo sp p).links.Hashed q = _
    rw [hlinks]
    exact propext TableLinks.hashed_free
  have hasoc : (rtwFreeStainfo sp p).asocList = sp.asocList := congrArg TableLinks.asocList hlinks
  obtain ⟨a, hinfo⟩ := rtwFreeStainfo_staInfo sp p
  have haid : (fun q => ((rtwFreeStainfo sp p).staInfo q).aid) =
      Function.update (fun q => (sp.staInfo q).aid) p a := by
    rw [hinfo]
    exact setInfo_aid sp p ((unlinkInfo (sp.staInfo p)).setAid a)
  unfold StaPriv.SlotsWf
  rw [hhashed, hasoc, haid]
  refine Rtl8723au.SlotsWf.free slots hp hlisted a _ ?_
  by_cases hpos : 1 ≤ (sp.staInfo p).aid
  · have hbound : (sp.staInfo p).aid ≤ NUM_STA := slots.bound p hp
    have hreleases : sp.Releases p := ⟨hle, hpos, (slots.slot p _ hpos hbound).mpr ⟨hp, rfl⟩⟩
    rw [if_pos hpos]
    exact (rtwFreeStainfo_released sp p hreleases).2
  · have hkeeps : ¬ sp.Releases p := fun h => hpos h.2.1
    rw [if_neg hpos]
    exact (rtwFreeStainfo_kept sp p hkeeps).2

theorem SlotsWf.step {h h' : ApHistory} (wf : h.Wf) (slots : h.ap.stapriv.SlotsWf)
    (step : TableStep idPermits h h') : h'.ap.stapriv.SlotsWf := by
  cases step with
  | edit p info same aid authed => exact slots.setInfo p info aid
  | accept p info record same aid valid => exact slots.setInfo p info aid
  | alloc hwaddr p stapriv permit missing allocated =>
    obtain ⟨rest, hfree, rfl⟩ := rtwAllocStainfo_some allocated
    have hp : ¬ h.ap.stapriv.Hashed p := by
      rintro ⟨index, hmem⟩
      refine wf.table.freeUnhashed p ?_ index hmem
      show p ∈ h.ap.stapriv.freeStaQueue
      rw [hfree]
      exact List.mem_cons_self
    have hhashed : (((h.ap.stapriv.setFreeStaQueue rest).setInfo p (allocInfo hwaddr)).hashAdd
        (wifiMacHash hwaddr) p).Hashed = fun q => h.ap.stapriv.Hashed q ∨ q = p := by
      funext q
      exact propext (@TableLinks.hashed_alloc h.ap.stapriv.links p q rest (wifiMacHash hwaddr))
    unfold StaPriv.SlotsWf
    show Rtl8723au.SlotsWf (((h.ap.stapriv.setFreeStaQueue rest).setInfo p (allocInfo hwaddr)).hashAdd
        (wifiMacHash hwaddr) p).Hashed _ (fun q => ((h.ap.stapriv.setInfo p (allocInfo hwaddr)).staInfo q).aid) _
    rw [hhashed, setInfo_aid]
    exact SlotsWf.alloc slots hp fun hlisted => hp (wf.lists.asocHashed p hlisted)
  | free p permit hashed unlisted => exact slots.freeStainfo hashed unlisted permit
  | authAdd p hashed unlisted unassoc => exact slots
  | authDel p listed => exact slots
  | asocAdd p hashed unlisted unauth accepted aid =>
    refine SlotsWf.relist slots fun q hq => ?_
    cases List.mem_append.mp hq with
    | inl hold => exact slots.associated q hold
    | inr hnew =>
      rw [List.mem_singleton.mp hnew]
      exact aid
  | asocDel p listed =>
    exact SlotsWf.relist slots fun q hq => slots.associated q (mem_listDelInit.mp hq).1
  | takeAid p stapriv hashed aid taken =>
    obtain ⟨-, rfl⟩ := assocAid_some aid taken
    obtain ⟨hpos, hle, hfree⟩ := firstFreeAid_free (SlotsWf.exists_free slots aid)
    unfold StaPriv.SlotsWf
    show Rtl8723au.SlotsWf _ _ (fun q => ((h.ap.stapriv.setInfo p
      ((h.ap.staInfo p).setAid (firstFreeAid h.ap.stapriv))).staInfo q).aid) _
    rw [setInfo_aid]
    exact SlotsWf.take slots hashed aid hpos hle hfree
  | forgetAid p permit => exact slots.setInfo p ((h.ap.staInfo p).setAid 0) permit.symm
  | caps p x hashed moved => exact slots.setInfo p x.1 moved.aid
  | tune ap same =>
    have hhashed : ap.stapriv.Hashed = h.ap.stapriv.Hashed := by
      funext q
      show ap.stapriv.links.Hashed q = _
      rw [same.links]
      rfl
    have hasoc : ap.stapriv.asocList = h.ap.stapriv.asocList := congrArg TableLinks.asocList same.links
    unfold StaPriv.SlotsWf
    rw [hhashed, hasoc, same.staInfo, same.staAid]
    exact slots

theorem SlotsWf.run {h h' : ApHistory} (wf : h.Wf) (slots : h.ap.stapriv.SlotsWf)
    (run : TableRun idPermits h h') : h'.ap.stapriv.SlotsWf := by
  have hboth := LoopRun.run_invariant (r := TableStep idPermits)
    (I := fun s => s.Wf ∧ s.ap.stapriv.SlotsWf)
    (fun s s' hs step => ⟨hs.1.step step, SlotsWf.step hs.1 hs.2 step⟩) run ⟨wf, slots⟩
  exact hboth.2

/-! ## Runs of events -/

theorem start_slots (config : RtwAdapter) : (ApHistory.start config).ap.stapriv.SlotsWf := by
  have haid : ∀ p : StaId, ((bcmcTable.setInfo 0 { bcmcTable.staInfo 0 with macId := 1 }).staInfo p).aid =
      0 := by decide
  refine ⟨fun p a ha ha' => ?_, fun p hp => ?_, fun p hp => ?_⟩
  · constructor
    · intro hslot
      cases hslot
    · rintro ⟨-, hp⟩
      have hzero := haid p
      have hboth : 0 = a := hzero.symm.trans hp
      omega
  · cases hp
  · show ((bcmcTable.setInfo 0 { bcmcTable.staInfo 0 with macId := 1 }).staInfo p).aid ≤ NUM_STA
    rw [haid p]
    exact Nat.zero_le _

def namedAp : RtwAdapter := { openAp with curSsid := [0x61] }

end Rtl8723au
