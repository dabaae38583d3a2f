import Rtl8723au.Ap.AssocIds

/-! The counters of the capabilities of the cell: when each is the number of allocated stations that have
its flag, and how a station leaves without being subtracted. -/
namespace Rtl8723au
open Relation
set_option autoImplicit false

/-! ## Counting -/

/-- The allocated stations that have the flag. -/
def countedStations (a : RtwAdapter) (cap : BssCap) : List StaId :=
  (List.finRange 32).filter fun p =>
    decide (∃ index, p ∈ a.stapriv.staHash index) && (a.staInfo p).capSet cap

/-- Every counter is the number of allocated stations that have its flag. -/
def BssCounters (a : RtwAdapter) : Prop :=
  ∀ cap, a.mlmepriv.numSta cap = (countedStations a cap).length

theorem mem_countedStations {a : RtwAdapter} {cap : BssCap} {p : StaId} :
    p ∈ countedStations a cap ↔ a.stapriv.Hashed p ∧ (a.staInfo p).capSet cap = true := by
  unfold countedStations StaPriv.Hashed
  simp

/-- Two predicates that differ at one item at most count alike up to that item. -/
theorem length_filter_update (f g : StaId → Bool) (p : StaId) (h : ∀ q, q ≠ p → g q = f q)
    (l : List StaId) (hl : l.Nodup) (hp : p ∈ l) :
    ((l.filter g).length : ℤ) - (if g p then 1 else 0) = (l.filter f).length - (if f p then 1 else 0) := by
  induction l with
  | nil => cases hp
  | cons q rest ih =>
    have hcons := List.nodup_cons.mp hl
    by_cases hq : q = p
    · subst hq
      have hrest : rest.filter g = rest.filter f := by
        apply List.filter_congr
        intro r hr
        have hne : r ≠ q := fun e => hcons.1 (e ▸ hr)
        exact h r hne
      rw [List.filter_cons, List.filter_cons, hrest]
      cases g q <;> cases f q <;> simp
    · have hmem : p ∈ rest := by
        cases List.mem_cons.mp hp with
        | inl e => exact absurd e.symm hq
        | inr hr => exact hr
      have hrest := ih hcons.2 hmem
      rw [List.filter_cons, List.filter_cons, h q hq]
      cases f q with
      | true =>
        simp only [if_true, List.length_cons]
        push_cast
        omega
      | false =>
        simp only [Bool.false_eq_true, if_false]
        exact hrest

theorem countedStations_update {a b : RtwAdapter} (p : StaId)
    (hhashed : ∀ q, q ≠ p → (b.stapriv.Hashed q ↔ a.stapriv.Hashed q))
    (hinfo : ∀ q, q ≠ p → b.staInfo q = a.staInfo q) (cap : BssCap) :
    ((countedStations b cap).length : ℤ) -
        (if p ∈ countedStations b cap then 1 else 0) =
      (countedStations a cap).length - (if p ∈ countedStations a cap then 1 else 0) := by
  let f : StaId → Bool := fun q =>
    decide (∃ index, q ∈ a.stapriv.staHash index) && (a.staInfo q).capSet cap
  let g : StaId → Bool := fun q =>
    decide (∃ index, q ∈ b.stapriv.staHash index) && (b.staInfo q).capSet cap
  have hsame : ∀ q, q ≠ p → g q = f q := by
    intro q hq
    have hdecide : decide (∃ index, q ∈ b.stapriv.staHash index) =
        decide (∃ index, q ∈ a.stapriv.staHash index) := decide_eq_decide.mpr (hhashed q hq)
    show (_ && _) = (_ && _)
    rw [hdecide, hinfo q hq]
  have hmem : ∀ (k : StaId → Bool), (p ∈ (List.finRange 32).filter k) = (k p = true) := by
    intro k
    simp
  have hlen := length_filter_update f g p hsame (List.finRange 32) (List.nodup_finRange 32)
    (List.mem_finRange p)
  have hb : (p ∈ countedStations b cap) = (g p = true) := hmem g
  have ha : (p ∈ countedStations a cap) = (f p = true) := hmem f
  simp only [ha, hb]
  exact hlen

theorem countedStations_congr {a b : RtwAdapter} (hhash : b.stapriv.staHash = a.stapriv.staHash)
    (hcaps : ∀ q cap, (b.staInfo q).capSet cap = (a.staInfo q).capSet cap) (cap : BssCap) :
    countedStations b cap = countedStations a cap := by
  unfold countedStations
  rw [hhash]
  apply List.filter_congr
  intro q _
  rw [hcaps q cap]

/-! ## One operation -/

namespace BssCounters
variable {a : RtwAdapter} (counters : BssCounters a)
include counters

theorem keep {b : RtwAdapter} (hhash : b.stapriv.staHash = a.stapriv.staHash)
    (hcaps : ∀ q cap, (b.staInfo q).capSet cap = (a.staInfo q).capSet cap)
    (hnum : ∀ cap, b.mlmepriv.numSta cap = a.mlmepriv.numSta cap) : BssCounters b := by
  intro cap
  rw [hnum cap, countedStations_congr hhash hcaps cap]
  exact counters cap

theorem setInfo (p : StaId) (info : StaInfo) (h : ∀ cap, info.capSet cap = (a.staInfo p).capSet cap) :
    BssCounters (a.setInfo p info) := by
  refine counters.keep rfl (fun q cap => ?_) fun _ => rfl
  by_cases hq : q = p
  · rw [hq, staInfo_setInfo_self]
    exact h cap
  · rw [staInfo_setInfo_other _ _ _ _ hq]

theorem uncounted {b : RtwAdapter} (p : StaId)
    (hhashed : ∀ q, q ≠ p → (b.stapriv.Hashed q ↔ a.stapriv.Hashed q))
    (hinfo : ∀ q, q ≠ p → b.staInfo q = a.staInfo q)
    (hnum : ∀ cap, b.mlmepriv.numSta cap = a.mlmepriv.numSta cap)
    (hbefore : ∀ cap, p ∉ countedStations a cap) (hafter : ∀ cap, p ∉ countedStations b cap) :
    BssCounters b := by
  intro cap
  have hlen := countedStations_update p hhashed hinfo cap
  rw [if_neg (hbefore cap), if_neg (hafter cap)] at hlen
  rw [hnum cap, counters cap]
  omega

theorem move {b : RtwAdapter} (p : StaId) (hashed : a.stapriv.Hashed p)
    (hhash : b.stapriv.staHash = a.stapriv.staHash) (hinfo : ∀ q, q ≠ p → b.staInfo q = a.staInfo q)
    (moved : CapMoved (a.staInfo p, a.mlmepriv) (b.staInfo p, b.mlmepriv)) : BssCounters b := by
  intro cap
  have hhashed : ∀ q, b.stapriv.Hashed q ↔ a.stapriv.Hashed q := by
    intro q
    unfold StaPriv.Hashed
    rw [hhash]
  have hlen := countedStations_update p (fun q _ => hhashed q) hinfo cap
  have hbefore : (p ∈ countedStations a cap) = ((a.staInfo p).capSet cap = true) := by
    rw [mem_countedStations]
    exact propext (and_iff_right hashed)
  have hafter : (p ∈ countedStations b cap) = ((b.staInfo p).capSet cap = true) := by
    rw [mem_countedStations]
    exact propext (and_iff_right ((hhashed p).mpr hashed))
  have hbalance := moved.balance cap
  have hold := counters cap
  simp only [hbefore, hafter] at hlen
  dsimp only at hbalance
  omega

end BssCounters

/-- A station that is freed has none of the flags. -/
def capPermits : Permits where
  free a psta := (a.staInfo psta).noCaps

theorem BssCounters.step {h h' : ApHistory} (wf : h.Wf) (counters : BssCounters h.ap)
    (step : TableStep capPermits h h') : BssCounters h'.ap := by
  cases step with
  | edit p info same aid authed => exact counters.setInfo p info same.caps
  | accept p info record same aid valid => exact counters.setInfo p info same.caps
  | alloc hwaddr p stapriv permit missing allocated =>
    obtain ⟨rest, hfree, rfl⟩ := rtwAllocStainfo_some allocated
    have hp : ¬ h.ap.stapriv.Hashed p := by
      rintro ⟨index, hmem⟩
      refine wf.table.freeUnhashed p ?_ index hmem
      show p ∈ h.ap.stapriv.freeStaQueue
      rw [hfree]
      exact List.mem_cons_self
    refine counters.uncounted p (fun q hq => ?_) (fun q hq => ?_) (fun _ => rfl) (fun cap hmem => ?_)
      fun cap hmem => ?_
    · have hiff := @TableLinks.hashed_alloc h.ap.stapriv.links p q rest (wifiMacHash hwaddr)
      exact hiff.trans (or_iff_left hq)
    · exact setInfo_other h.ap.stapriv p q (allocInfo hwaddr) hq
    · exact hp (mem_countedStations.mp hmem).1
    · have hset := (mem_countedStations.mp hmem).2
      change ((h.ap.stapriv.setInfo p (allocInfo hwaddr)).staInfo p).capSet cap = true at hset
      rw [setInfo_self, allocInfo_noCaps hwaddr cap] at hset
      cases hset
  | free p permit hashed unlisted =>
    have hhashed : ∀ q, (rtwFreeStainfo h.ap.stapriv p).Hashed q ↔ h.ap.stapriv.Hashed q ∧ q ≠ p := by
      intro q
      show (rtwFreeStainfo h.ap.stapriv p).links.Hashed q ↔ _
      rw [rtwFreeStainfo_links]
      exact TableLinks.hashed_free
    refine counters.uncounted p (fun q hq => ?_) (fun q hq => ?_) (fun _ => rfl) (fun cap hmem => ?_)
      fun cap hmem => ?_
    · exact (hhashed q).trans (and_iff_left hq)
    · exact rtwFreeStainfo_info_other h.ap.stapriv p q hq
    · have hset := (mem_countedStations.mp hmem).2
      rw [permit cap] at hset
      cases hset
    · exact ((hhashed p).mp (mem_countedStations.mp hmem).1).2 rfl
  | authAdd p hashed unlisted unassoc => exact counters
  | authDel p listed => exact counters
  | asocAdd p hashed unlisted unauth accepted aid => exact counters
  | asocDel p listed => exact counters
  | takeAid p stapriv hashed aid taken =>
    obtain ⟨-, rfl⟩ := assocAid_some aid taken
    exact counters.setInfo p ((h.ap.staInfo p).setAid (firstFreeAid h.ap.stapriv)) fun cap => by
      cases cap <;> rfl
  | forgetAid p permit =>
    exact counters.setInfo p ((h.ap.staInfo p).setAid 0) fun cap => by cases cap <;> rfl
  | caps p x hashed moved =>
    refine counters.move p hashed rfl (fun q hq => staInfo_setInfo_other h.ap p q x.1 hq) ?_
    have hself : RtwAdapter.staInfo { h.ap.setInfo p x.1 with mlmepriv := x.2 } p = x.1 :=
      staInfo_setInfo_self h.ap p x.1
    rw [hself]
    exact moved
  | tune ap same =>
    have hhash : ap.stapriv.staHash = h.ap.stapriv.staHash := congrArg TableLinks.staHash same.links
    have hinfo : ∀ q, ap.staInfo q = h.ap.staInfo q := fun q => congrFun same.staInfo q
    exact counters.keep hhash (fun q cap => by rw [hinfo q]) same.numSta

theorem BssCounters.run {h h' : ApHistory} (wf : h.Wf) (counters : BssCounters h.ap)
    (run : TableRun capPermits h h') : BssCounters h'.ap := by
  have hboth := LoopRun.run_invariant (r := TableStep capPermits) (I := fun s => s.Wf ∧ BssCounters s.ap)
    (fun s s' hs step => ⟨hs.1.step step, BssCounters.step hs.1 hs.2 step⟩) run ⟨wf, counters⟩
  exact hboth.2

/-! ## Runs of events -/

end Rtl8723au
