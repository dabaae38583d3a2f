import Rtl8723au.Library.GuardedRuns

/-! The four transmit queues of the network device, of `os_dep/xmit_linux.c`: `rtw_xmit_entry` stops a queue when few frames
are left, and only the completion of a packet of that queue wakes it again. The packets of other queues, and of the queue
itself until one completes, come and go in between. -/
namespace Rtl8723au
namespace TxQueues
open GuardedRuns
set_option autoImplicit false

/-! ## The state -/

def NR_XMITFRAME : ℕ := 256
def WMM_XMIT_THRESHOLD : ℕ := NR_XMITFRAME * 2 / 5

/-- Where a call of `rtw_xmit_entry` stands: behind `rtw_check_xmit_resource`, or with a frame. -/
inductive Entry
  | checked
  | allocated
  deriving DecidableEq

/-- The frames that are free, `accnt` of the four `hwxmits`, the queues that are stopped, the call of `rtw_xmit_entry` that is
under way for a queue (its lock allows one), the packets of a queue that frames hold, and the frames whose packet has been
completed already. -/
structure TxState where
  freeXmitframeCnt : ℕ := NR_XMITFRAME
  accnt : Fin 4 → ℕ := fun _ => 0
  stopped : Fin 4 → Bool := fun _ => false
  entry : Fin 4 → Option Entry := fun _ => none
  pkts : Fin 4 → ℕ := fun _ => 0
  spent : ℕ := 0

namespace TxState
variable (s : TxState) (queue : Fin 4)

def setStopped (on : Bool) : TxState := { s with stopped := Function.update s.stopped queue on }
def setEntry (entry : Option Entry) : TxState := { s with entry := Function.update s.entry queue entry }
def setPkts (n : ℕ) : TxState := { s with pkts := Function.update s.pkts queue n }
def setAccnt (n : ℕ) : TxState := { s with accnt := Function.update s.accnt queue n }

end TxState

/-! ## The functions -/

/-- `rtw_check_xmit_resource`. -/
def rtwCheckXmitResource (wifiSpec : Bool) (s : TxState) (queue : Fin 4) : TxState :=
  if wifiSpec then
    if s.accnt queue > WMM_XMIT_THRESHOLD then s.setStopped queue true else s
  else if s.freeXmitframeCnt ≤ 4 then
    if !s.stopped queue then s.setStopped queue true else s
  else s

/-- `rtw_os_pkt_complete`, for a packet of the queue. -/
def rtwOsPktComplete (wifiSpec : Bool) (s : TxState) (queue : Fin 4) : TxState :=
  if wifiSpec then
    if s.stopped queue ∧ s.accnt queue < WMM_XMIT_THRESHOLD then s.setStopped queue false else s
  else if s.stopped queue then s.setStopped queue false else s

/-- What happens. `enter`, `alloc` and `updateAttrib` are a call of `rtw_xmit_entry`: up to the check, `rtw_alloc_xmitframe`, and
`update_attrib` with what follows; `classify` and `dequeue` count a frame in and out of the queues of an access category,
`osXmitComplete` is `rtw_os_xmit_complete`, and the last three are `rtw_free_xmitframe`, `rtw_netif_wake_queue` or
`rtw_netif_start_queue`, and `rtw_netif_stop_queue`. -/
inductive TxEvent
  | enter (queue : Fin 4) (ifUp : Bool)
  | alloc (queue : Fin 4)
  | updateAttrib (queue : Fin 4) (success : Bool)
  | classify (ac : Fin 4)
  | dequeue (ac : Fin 4)
  | osXmitComplete (queue : Fin 4)
  | freeXmitframe (pkt : Option (Fin 4))
  | wakeQueue
  | stopQueue
  deriving DecidableEq

/-- One event, when it can happen: the network stack does not call `rtw_xmit_entry` for a queue that is stopped. -/
def step (wifiSpec : Bool) (s : TxState) : TxEvent → Option TxState
  | .enter queue ifUp =>
    if s.stopped queue = true ∨ s.entry queue ≠ none then none
    else if ifUp then some ((rtwCheckXmitResource wifiSpec s queue).setEntry queue (some .checked))
    else some s
  | .alloc queue =>
    if s.entry queue ≠ some .checked then none
    else if s.freeXmitframeCnt = 0 then some (s.setEntry queue none)
    else some { s.setEntry queue (some .allocated) with freeXmitframeCnt := s.freeXmitframeCnt - 1 }
  | .updateAttrib queue success =>
    if s.entry queue ≠ some .allocated then none
    else if success then some ((s.setEntry queue none).setPkts queue (s.pkts queue + 1))
    else some { s.setEntry queue none with freeXmitframeCnt := s.freeXmitframeCnt + 1 }
  | .classify ac => some (s.setAccnt ac (s.accnt ac + 1))
  | .dequeue ac => if s.accnt ac = 0 then none else some (s.setAccnt ac (s.accnt ac - 1))
  | .osXmitComplete queue =>
    if s.pkts queue = 0 then none
    else some { rtwOsPktComplete wifiSpec (s.setPkts queue (s.pkts queue - 1)) queue with spent := s.spent + 1 }
  | .freeXmitframe none =>
    if s.spent = 0 then none
    else some { s with freeXmitframeCnt := s.freeXmitframeCnt + 1, spent := s.spent - 1 }
  | .freeXmitframe (some queue) =>
    if s.pkts queue = 0 then none
    else some (rtwOsPktComplete wifiSpec
      { s.setPkts queue (s.pkts queue - 1) with freeXmitframeCnt := s.freeXmitframeCnt + 1 } queue)
  | .wakeQueue => some { s with stopped := fun _ => false }
  | .stopQueue => some { s with stopped := fun _ => true }

/-! ## Queues that nothing wakes -/

/-- The queue is stopped, no call is under way for it and no packet of it is left whose completion could wake it. -/
structure Stalled (s : TxState) (queue : Fin 4) : Prop where
  stopped : s.stopped queue = true
  idle : s.entry queue = none
  done : s.pkts queue = 0

/-- The queue is not woken by the completion of a packet. -/
def Sleeps (wifiSpec : Bool) (s : TxState) (queue : Fin 4) : Prop :=
  wifiSpec = true ∧ WMM_XMIT_THRESHOLD ≤ s.accnt queue

/-- The events that leave the queue stalled: a call that has stopped it drops its packet, or its last packet completes while
many frames of the access category wait, or all queues are stopped. -/
def Strands (wifiSpec : Bool) (queue : Fin 4) (s : TxState) : TxEvent → Prop
  | .alloc q => q = queue ∧ s.entry queue = some .checked ∧ s.freeXmitframeCnt = 0 ∧ s.stopped queue = true ∧ s.pkts queue = 0
  | .updateAttrib q success =>
    q = queue ∧ s.entry queue = some .allocated ∧ success = false ∧ s.stopped queue = true ∧ s.pkts queue = 0
  | .osXmitComplete q | .freeXmitframe (some q) =>
    q = queue ∧ s.entry queue = none ∧ s.stopped queue = true ∧ s.pkts queue = 1 ∧ Sleeps wifiSpec s queue
  | .stopQueue => s.entry queue = none ∧ s.pkts queue = 0
  | _ => False

/-! ### What a function does to the bit of a queue -/

section Functions
variable (wifiSpec : Bool) (s : TxState) (queue : Fin 4)

theorem setStopped_self : s.setStopped queue (s.stopped queue) = s := by
  unfold TxState.setStopped
  rw [Function.update_eq_self]

def low : Bool := if wifiSpec then decide (s.accnt queue > WMM_XMIT_THRESHOLD) else decide (s.freeXmitframeCnt ≤ 4)

theorem rtwCheckXmitResource_eq :
    rtwCheckXmitResource wifiSpec s queue = s.setStopped queue (s.stopped queue || low wifiSpec s queue) := by
  have hkeep : s.setStopped queue (s.stopped queue || false) = s := by
    rw [Bool.or_false, setStopped_self]
  unfold rtwCheckXmitResource low
  cases wifiSpec with
  | true =>
    rw [if_pos rfl, if_pos rfl]
    by_cases hlow : s.accnt queue > WMM_XMIT_THRESHOLD
    · rw [if_pos hlow, decide_eq_true hlow, Bool.or_true]
    · rw [if_neg hlow, decide_eq_false hlow, hkeep]
  | false =>
    rw [if_neg Bool.false_ne_true, if_neg Bool.false_ne_true]
    by_cases hlow : s.freeXmitframeCnt ≤ 4
    · rw [if_pos hlow, decide_eq_true hlow, Bool.or_true]
      cases hstopped : s.stopped queue with
      | true =>
        have hself := setStopped_self s queue
        rw [hstopped] at hself
        rw [hself]
        rfl
      | false => rfl
    · rw [if_neg hlow, decide_eq_false hlow, hkeep]

open Classical in
theorem rtwOsPktComplete_eq : rtwOsPktComplete wifiSpec s queue =
    s.setStopped queue (s.stopped queue && decide (Sleeps wifiSpec s queue)) := by
  have hself := setStopped_self s queue
  unfold rtwOsPktComplete
  cases hstopped : s.stopped queue with
  | false =>
    rw [hstopped] at hself
    cases wifiSpec <;> simp [hself]
  | true =>
    rw [hstopped] at hself
    cases wifiSpec with
    | false => simp [Sleeps]
    | true =>
      by_cases hwake : s.accnt queue < WMM_XMIT_THRESHOLD
      · have hnot : ¬ Sleeps true s queue := fun h => not_lt.mpr h.2 hwake
        rw [if_pos rfl, if_pos ⟨rfl, hwake⟩, decide_eq_false hnot]
        rfl
      · rw [if_pos rfl, if_neg fun h => hwake h.2, decide_eq_true ⟨rfl, not_lt.mp hwake⟩]
        exact hself.symm

end Functions

/-- What an event does to one queue: nothing, or what its own call and its own packets do to it. -/
inductive Moved (wifiSpec : Bool) (queue : Fin 4) (s s' : TxState) : TxEvent → Prop
  | same {e : TxEvent} (stopped : s'.stopped queue = s.stopped queue) (entry : s'.entry queue = s.entry queue)
    (pkts : s'.pkts queue = s.pkts queue) (wake : e ≠ .wakeQueue) (strands : ¬ Strands wifiSpec queue s e) :
    Moved wifiSpec queue s s' e
  | entered {ifUp : Bool} (awake : s.stopped queue = false) (entry : s'.entry queue = some .checked) :
    Moved wifiSpec queue s s' (.enter queue ifUp)
  | got (before : s.entry queue = some .checked) (free : s.freeXmitframeCnt ≠ 0) (entry : s'.entry queue = some .allocated) :
    Moved wifiSpec queue s s' (.alloc queue)
  | none (before : s.entry queue = some .checked) (free : s.freeXmitframeCnt = 0) (entry : s'.entry queue = none)
    (stopped : s'.stopped queue = s.stopped queue) (pkts : s'.pkts queue = s.pkts queue) : Moved wifiSpec queue s s' (.alloc queue)
  | taken (before : s.entry queue = some .allocated) (pkts : s'.pkts queue = s.pkts queue + 1) :
    Moved wifiSpec queue s s' (.updateAttrib queue true)
  | dropped (before : s.entry queue = some .allocated) (entry : s'.entry queue = none) (stopped : s'.stopped queue = s.stopped queue)
    (pkts : s'.pkts queue = s.pkts queue) : Moved wifiSpec queue s s' (.updateAttrib queue false)
  | completed {e : TxEvent} (kind : e = .osXmitComplete queue ∨ e = .freeXmitframe (some queue))
    (stopped : s'.stopped queue = true ↔ s.stopped queue = true ∧ Sleeps wifiSpec s queue) (entry : s'.entry queue = s.entry queue)
    (pkts : s'.pkts queue + 1 = s.pkts queue) : Moved wifiSpec queue s s' e
  | woken (stopped : s'.stopped queue = false) : Moved wifiSpec queue s s' .wakeQueue
  | stopped (stopped : s'.stopped queue = true) (entry : s'.entry queue = s.entry queue) (pkts : s'.pkts queue = s.pkts queue) :
    Moved wifiSpec queue s s' .stopQueue

section Moved
variable {wifiSpec : Bool} {queue : Fin 4} {s s' : TxState} {e : TxEvent}

theorem completed_moved {q : Fin 4} (hkind : e = .osXmitComplete q ∨ e = .freeXmitframe (some q)) (hpkts : s.pkts q ≠ 0)
    (free spent : ℕ) (hs' : s' = { rtwOsPktComplete wifiSpec (s.setPkts q (s.pkts q - 1)) q with
      freeXmitframeCnt := free, spent := spent }) : Moved wifiSpec queue s s' e := by
  classical
  have hsleeps : Sleeps wifiSpec (s.setPkts q (s.pkts q - 1)) q ↔ Sleeps wifiSpec s q := Iff.rfl
  rw [rtwOsPktComplete_eq] at hs'
  subst hs'
  by_cases hq : queue = q
  · subst hq
    refine .completed hkind ?_ rfl ?_
    · show Function.update s.stopped queue _ queue = true ↔ _
      rw [Function.update_self, Bool.and_eq_true, decide_eq_true_iff]
      exact and_congr_right fun _ => hsleeps
    · show Function.update s.pkts queue _ queue + 1 = _
      rw [Function.update_self]
      omega
  · refine .same (Function.update_of_ne hq _ _) rfl (Function.update_of_ne hq _ _) ?_ ?_
    · rcases hkind with rfl | rfl <;> exact fun h => nomatch h
    · rcases hkind with rfl | rfl <;> exact fun h => hq h.1.symm

theorem moved (queue : Fin 4) (hstep : step wifiSpec s e = some s') : Moved wifiSpec queue s s' e := by
  cases e with
  | enter q ifUp =>
    obtain ⟨hopen, hstep⟩ := Option.ite_none_left_eq_some.mp hstep
    obtain ⟨hstopped, hentry⟩ := not_or.mp hopen
    cases ifUp with
    | false =>
      cases hstep
      exact .same rfl rfl rfl (fun h => nomatch h) fun h => h.elim
    | true =>
      cases hstep
      rw [rtwCheckXmitResource_eq]
      by_cases hq : queue = q
      · subst hq
        exact .entered (Bool.not_eq_true _ ▸ hstopped) (Function.update_self queue _ _)
      · exact .same (Function.update_of_ne hq _ _) (Function.update_of_ne hq _ _) rfl (fun h => nomatch h) fun h => h.elim
  | alloc q =>
    obtain ⟨hentry, hstep⟩ := Option.ite_none_left_eq_some.mp hstep
    have hbefore : s.entry q = some .checked := not_not.mp hentry
    by_cases hq : queue = q
    · subst hq
      split at hstep
      next hfree =>
        cases hstep
        exact .none hbefore hfree (Function.update_self queue _ _) rfl rfl
      next hfree =>
        cases hstep
        exact .got hbefore hfree (Function.update_self queue _ _)
    · split at hstep
      all_goals
        cases hstep
        exact .same rfl (Function.update_of_ne hq _ _) rfl (fun h => nomatch h) fun h => hq h.1.symm
  | updateAttrib q success =>
    obtain ⟨hentry, hstep⟩ := Option.ite_none_left_eq_some.mp hstep
    have hbefore : s.entry q = some .allocated := not_not.mp hentry
    by_cases hq : queue = q
    · subst hq
      cases success with
      | true =>
        cases hstep
        exact .taken hbefore (Function.update_self queue _ _)
      | false =>
        cases hstep
        exact .dropped hbefore (Function.update_self queue _ _) rfl rfl
    · cases success with
      | true =>
        cases hstep
        exact .same rfl (Function.update_of_ne hq _ _) (Function.update_of_ne hq _ _) (fun h => nomatch h)
          fun h => hq h.1.symm
      | false =>
        cases hstep
        exact .same rfl (Function.update_of_ne hq _ _) rfl (fun h => nomatch h) fun h => hq h.1.symm
  | classify ac =>
    cases hstep
    exact .same rfl rfl rfl (fun h => nomatch h) fun h => h.elim
  | dequeue ac =>
    obtain ⟨-, hstep⟩ := Option.ite_none_left_eq_some.mp hstep
    cases hstep
    exact .same rfl rfl rfl (fun h => nomatch h) fun h => h.elim
  | osXmitComplete q =>
    obtain ⟨hpkts, hstep⟩ := Option.ite_none_left_eq_some.mp hstep
    cases hstep
    exact completed_moved (.inl rfl) hpkts _ _ rfl
  | freeXmitframe pkt =>
    cases pkt with
    | none =>
      obtain ⟨-, hstep⟩ := Option.ite_none_left_eq_some.mp hstep
      cases hstep
      exact .same rfl rfl rfl (fun h => nomatch h) fun h => h.elim
    | some q =>
      obtain ⟨hpkts, hstep⟩ := Option.ite_none_left_eq_some.mp hstep
      cases hstep
      refine completed_moved (.inr rfl) hpkts (s.freeXmitframeCnt + 1) s.spent ?_
      rw [rtwOsPktComplete_eq, rtwOsPktComplete_eq]
      rfl
  | wakeQueue =>
    cases hstep
    exact .woken rfl
  | stopQueue =>
    cases hstep
    exact .stopped rfl rfl rfl

theorem Stalled.keep (hstalled : Stalled s queue) (hstep : step wifiSpec s e = some s') (hwake : e ≠ .wakeQueue) :
    Stalled s' queue := by
  obtain ⟨hstopped, hidle, hdone⟩ := hstalled
  cases moved queue hstep with
  | same stopped entry pkts => exact ⟨stopped.trans hstopped, entry.trans hidle, pkts.trans hdone⟩
  | entered awake => exact absurd (awake.symm.trans hstopped) (by decide)
  | got before => exact absurd (before.symm.trans hidle) (by decide)
  | none before => exact absurd (before.symm.trans hidle) (by decide)
  | taken before => exact absurd (before.symm.trans hidle) (by decide)
  | dropped before => exact absurd (before.symm.trans hidle) (by decide)
  | completed kind stopped entry pkts => omega
  | woken => exact absurd rfl hwake
  | stopped stopped entry pkts => exact ⟨stopped, entry.trans hidle, pkts.trans hdone⟩

end Moved

end TxQueues
end Rtl8723au
