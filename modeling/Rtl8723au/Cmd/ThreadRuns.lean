import Rtl8723au.Cmd.Thread
import Rtl8723au.Library.FreePool

/-! Runs of the command queue: the handlers run in the order in which the commands were accepted, and what the
commands own is freed once. Three ways of freeing a command leave something or free too much; a run is clean
when no command takes such a way. -/
namespace Rtl8723au
open Ledger
set_option autoImplicit false

namespace CmdObj

variable {c : CmdObj} {res : ℕ}

/-! ## What belongs to a command -/

/-- The parameters of `rtw_joinbss_cmd` and `rtw_createbss_cmd` are members of the adapter. -/
def heapParmbuf (c : CmdObj) : Bool := c.cmdcode != _JoinBss_CMD_ && c.cmdcode != _CreateBss_CMD_

/-- `pbuf` is a buffer of the command's own when `type_size` is its size. -/
def heapPbuf (c : CmdObj) : Bool :=
  c.cmdcode == _Set_Drv_Extra_CMD_ && c.drvextra.pbuf && decide (0 < c.drvextra.typeSize)

def parmbufPart (c : CmdObj) : List MemBlock := if c.heapParmbuf then [c.block .parmbuf] else []

def pbufPart (c : CmdObj) : List MemBlock := if c.heapPbuf then [c.block .pbuf] else []

def owned (c : CmdObj) : List MemBlock := c.block .obj :: (c.parmbufPart ++ c.pbufPart)

/-- A buffer of the caller that is to be filled. -/
def lentRsp (c : CmdObj) : Bool := c.rsp && decide (c.rspsz ≠ 0) && c.callersRsp

/-- What must not be freed: parameters that are not on the heap and the caller's buffer. -/
def foreign (c : CmdObj) : List MemBlock :=
  (if c.heapParmbuf then [] else [c.block .parmbuf]) ++ [c.block .callersRsp]

/-- All blocks but the response buffer that was allocated with the command. -/
def tracked (b : MemBlock) : Bool := b.part != .ownRsp

/-! ## What frees it -/

/-- `rtw_free_cmd_obj` frees all of the command and nothing else. -/
def Whole (c : CmdObj) : Prop := c.heapPbuf = false ∧ c.lentRsp = false

/-- The callback of the command leaves a buffer of the caller. -/
def SparesRsp (c : CmdObj) : Prop :=
  c.lentRsp = true → c.cmdcode = _Read_BBREG_CMD_ ∨ c.cmdcode = _Read_RFREG_CMD_

theorem free_tracked (h : c.lentRsp = false) :
    c.rtwFreeCmdObj.filter tracked = c.parmbufPart ++ [c.block .obj] := by
  unfold rtwFreeCmdObj
  rw [List.filter_append, List.filter_append]
  have hparm : (if c.cmdcode ≠ _JoinBss_CMD_ ∧ c.cmdcode ≠ _CreateBss_CMD_ then [c.block .parmbuf] else []).filter tracked =
      c.parmbufPart := by
    unfold parmbufPart heapParmbuf
    by_cases hcode : c.cmdcode ≠ _JoinBss_CMD_ ∧ c.cmdcode ≠ _CreateBss_CMD_
    · rw [if_pos hcode, if_pos (by simpa using hcode)]
      rfl
    · rw [if_neg hcode, if_neg (by simpa using hcode)]
      rfl
  have hrsp : (if c.rsp ∧ c.rspsz ≠ 0 then [c.block (if c.callersRsp then .callersRsp else .ownRsp)] else []).filter
      tracked = [] := by
    by_cases hset : c.rsp ∧ c.rspsz ≠ 0
    · have hown : c.callersRsp = false := by
        unfold lentRsp at h
        simpa [hset.1, hset.2] using h
      rw [if_pos hset, hown]
      rfl
    · rw [if_neg hset]
      rfl
  rw [hparm, hrsp, List.append_nil]
  rfl

/-- `rtw_free_cmd_obj` after what the handler freed. -/
theorem free_rest (h : c.lentRsp = false) : (c.pbufPart ++ c.rtwFreeCmdObj.filter tracked).Perm c.owned := by
  rw [free_tracked h, owned, ← List.append_assoc]
  refine (List.perm_append_singleton _ _).trans (List.Perm.cons _ ?_)
  exact List.perm_append_comm

theorem Whole.free (h : c.Whole) : (c.rtwFreeCmdObj.filter tracked).Perm c.owned := by
  have hrest := free_rest h.2
  have hpbuf : c.pbufPart = [] := by
    rw [pbufPart, h.1]
    rfl
  rwa [hpbuf, List.nil_append] at hrest

/-- What `post_process` calls. -/
theorem postProcess_cases (c : CmdObj) (res : ℕ) :
    ((c.cmdcode = _Read_BBREG_CMD_ ∨ c.cmdcode = _Read_RFREG_CMD_) ∧
      c.postProcess res = c.rtwGetbbrfregCmdrspCallback) ∨
    (c.cmdcode = _DisConnect_CMD_ ∧ c.postProcess res = c.rtwDisassocCmdCallback res) ∨
    ((c.cmdcode ≠ _Read_BBREG_CMD_ ∧ c.cmdcode ≠ _Read_RFREG_CMD_) ∧ c.postProcess res = c.rtwFreeCmdObj) := by
  unfold postProcess rtwCmdCallback
  by_cases hbb : c.cmdcode = _Read_BBREG_CMD_
  · refine Or.inl ⟨Or.inl hbb, ?_⟩
    rw [if_pos (by rw [hbb]; decide), if_pos hbb]
  by_cases hrf : c.cmdcode = _Read_RFREG_CMD_
  · refine Or.inl ⟨Or.inr hrf, ?_⟩
    rw [if_pos (by rw [hrf]; decide), if_neg hbb, if_pos hrf]
  rw [if_neg hbb, if_neg hrf]
  by_cases hdis : c.cmdcode = _DisConnect_CMD_
  · refine Or.inr (Or.inl ⟨hdis, ?_⟩)
    rw [if_pos (by rw [hdis]; decide), if_neg (by rw [hdis]; decide), if_pos hdis]
  · refine Or.inr (Or.inr ⟨⟨hbb, hrf⟩, ?_⟩)
    rw [if_neg hdis]
    split_ifs <;> rfl

/-- `post_process` frees what the handler has left. -/
theorem postProcess_rest (hspares : c.SparesRsp) (hres : c.cmdcode = _DisConnect_CMD_ → res = H2C_SUCCESS) :
    (c.pbufPart ++ (c.postProcess res).filter tracked).Perm c.owned := by
  rcases c.postProcess_cases res with ⟨hcode, hpost⟩ | ⟨hcode, hpost⟩ | ⟨⟨hbb, hrf⟩, hpost⟩
  · have hpbuf : c.pbufPart = [] := by
      rcases hcode with hcode | hcode <;> (rw [pbufPart, heapPbuf, hcode]; rfl)
    have hparm : c.parmbufPart = [c.block .parmbuf] := by
      rcases hcode with hcode | hcode <;> (rw [parmbufPart, heapParmbuf, hcode]; rfl)
    rw [hpost, hpbuf, owned, hpbuf, hparm]
    exact List.Perm.swap _ _ _
  · have hlent : c.lentRsp = false := by
      rw [← Bool.not_eq_true]
      intro hl
      rcases hspares hl with hc | hc <;> exact absurd (hcode.symm.trans hc) (by decide)
    have hfree : c.rtwDisassocCmdCallback res = c.rtwFreeCmdObj := if_neg fun hne => hne (hres hcode)
    rw [hpost, hfree]
    exact free_rest hlent
  · have hlent : c.lentRsp = false := by
      rw [← Bool.not_eq_true]
      intro hl
      exact (hspares hl).elim hbb hrf
    rw [hpost]
    exact free_rest hlent

theorem owned_tracked (c : CmdObj) : c.owned.filter tracked = c.owned := by
  unfold owned parmbufPart pbufPart
  split <;> split <;> rfl

theorem handler_tracked (c : CmdObj) :
    (if c.cmdcode = _Set_Drv_Extra_CMD_ then c.rtwDrvextraCmdHdl else []).filter tracked = c.pbufPart := by
  unfold rtwDrvextraCmdHdl pbufPart heapPbuf
  by_cases hcode : c.cmdcode = _Set_Drv_Extra_CMD_
  · rw [if_pos hcode]
    by_cases hbuf : c.drvextra.pbuf ∧ 0 < c.drvextra.typeSize
    · rw [if_pos hbuf, if_pos (by simp [hcode, hbuf.1, hbuf.2])]
      rfl
    · rw [if_neg hbuf, if_neg (by simpa [hcode] using hbuf)]
      rfl
  · rw [if_neg hcode, if_neg (by simp [hcode])]
    rfl

end CmdObj

namespace CmdPriv

variable {s : CmdPriv}

/-! ## The invariant -/

/-- The command that the thread has taken out of the queue and not freed yet. -/
def inHand (s : CmdPriv) : List CmdObj :=
  match s.pc with
  | .running c => [c]
  | .post c _ => [c]
  | _ => []

def handled (s : CmdPriv) : List MemBlock :=
  match s.pc with
  | .post c _ => c.pbufPart
  | _ => []

def ahead (s : CmdPriv) : List CmdObj :=
  match s.pc with
  | .running c => [c]
  | _ => []

structure Inv (s : CmdPriv) : Prop where
  balanced : Balanced CmdObj.owned s.passed (s.inHand ++ s.cmdQueue) s.handled (s.freed.filter CmdObj.tracked)
  posted : ∀ c res, s.pc = .post c res → c.SparesRsp ∧ (c.cmdcode = _DisConnect_CMD_ → res = CmdObj.H2C_SUCCESS)
  ids : s.passed.map (·.id) = List.range s.passed.length
  accepted : s.accepted.Sublist s.passed
  order : ∃ before, s.accepted = before ++ (s.ahead ++ s.cmdQueue) ∧ s.executed.Sublist before
  quiet : s.pc = .stopped ∨ s.pc = .draining → s.cmdthdRunning = false
  empty : s.pc = .stopped → s.cmdQueue = []

/-! ## Clean runs -/

/-- No command that is dropped or drained has a `pbuf` of its own, or a buffer of the caller unless its callback
spares it; no disassociation is dropped or fails. -/
def CleanThread (s : CmdPriv) (ret : ℕ) : ThreadPc → Prop
  | .running c =>
    if s.rtwCmdFilter c then c.SparesRsp ∧ (c.cmdcode = _DisConnect_CMD_ → ret = CmdObj.H2C_SUCCESS)
    else c.SparesRsp ∧ c.cmdcode ≠ _DisConnect_CMD_ ∧ c.heapPbuf = false
  | .draining => ∀ c ∈ s.cmdQueue.head?, c.Whole
  | _ => True

def Clean (s : CmdPriv) : Event → Prop
  | .enqueue cmd => s.rtwCmdFilter cmd = false → cmd.Whole
  | .thread _ ret => s.CleanThread ret s.pc
  | _ => True

def Along (s : CmdPriv) : List Event → Prop
  | [] => True
  | event :: events => s.Clean event ∧ (s.step event).Along events

instance (c : CmdObj) : Decidable c.Whole := inferInstanceAs (Decidable (c.heapPbuf = false ∧ c.lentRsp = false))

instance (c : CmdObj) : Decidable c.SparesRsp := 
  inferInstanceAs (Decidable (c.lentRsp = true → c.cmdcode = _Read_BBREG_CMD_ ∨ c.cmdcode = _Read_RFREG_CMD_))

instance decCleanThread (s : CmdPriv) (ret : ℕ) : (pc : ThreadPc) → Decidable (s.CleanThread ret pc)
  | .running c => inferInstanceAs (Decidable (if s.rtwCmdFilter c = true then
      c.SparesRsp ∧ (c.cmdcode = _DisConnect_CMD_ → ret = CmdObj.H2C_SUCCESS)
      else c.SparesRsp ∧ c.cmdcode ≠ _DisConnect_CMD_ ∧ c.heapPbuf = false))
  | .draining => inferInstanceAs (Decidable (∀ c ∈ s.cmdQueue.head?, c.Whole))
  | .stopped | .waiting | .next | .post _ _ | .leaving => .isTrue trivial

instance decClean (s : CmdPriv) : (event : Event) → Decidable (s.Clean event)
  | .enqueue cmd => inferInstanceAs (Decidable (s.rtwCmdFilter cmd = false → cmd.Whole))
  | .thread _ ret => decCleanThread s ret s.pc
  | .start | .up | .flags _ _ _ _ _ => .isTrue trivial

instance decAlong (s : CmdPriv) : (events : List Event) → Decidable (s.Along events)
  | [] => .isTrue trivial
  | event :: events => @instDecidableAnd _ _ (decClean s event) (decAlong (s.step event) events)

/-! ## The steps -/

theorem Inv.start : ({} : CmdPriv).Inv where
  balanced := .start
  posted _ _ h := ThreadPc.noConfusion h
  ids := rfl
  accepted := .slnil
  order := ⟨[], rfl, .slnil⟩
  quiet _ := rfl
  empty _ := rfl

theorem Inv.enqueue (h : s.Inv) (cmd : CmdObj) (clean : s.Clean (.enqueue cmd)) : (s.rtwEnqueueCmd cmd).Inv := by
  unfold rtwEnqueueCmd
  dsimp only
  have hids : ∀ c : CmdObj, c.id = s.passed.length →
      (s.passed ++ [c]).map (·.id) = List.range (s.passed ++ [c]).length := by
    intro c hc
    rw [List.map_append, h.ids, List.length_append, List.length_singleton, List.range_succ, List.map_singleton, hc]
  by_cases hfilter : s.rtwCmdFilter { cmd with id := s.passed.length } = true
  · rw [if_pos hfilter]
    obtain ⟨before, haccepted, hexecuted⟩ := h.order
    have hrunning : s.cmdthdRunning = true := by
      by_contra hoff
      unfold rtwCmdFilter at hfilter
      simp [hoff] at hfilter
    refine { balanced := ?_, posted := h.posted, ids := hids _ rfl, accepted := h.accepted.append_right _,
             order := ⟨before, ?_, hexecuted⟩, quiet := h.quiet, empty := ?_ }
    · have harrive := h.balanced.arrive { cmd with id := s.passed.length }
      rw [List.append_assoc] at harrive
      exact harrive
    · show s.accepted ++ _ = _
      rw [haccepted, List.append_assoc, List.append_assoc]
      rfl
    · intro hstopped
      exact absurd ((h.quiet (Or.inl hstopped)).symm.trans hrunning) (by decide)
  · rw [if_neg hfilter]
    have hwhole : CmdObj.Whole { cmd with id := s.passed.length } := clean (Bool.eq_false_iff.mpr hfilter)
    refine { h with balanced := ?_, ids := hids _ rfl, accepted := h.accepted.trans (List.sublist_append_left _ _) }
    show Balanced _ _ _ _ ((s.freed ++ _).filter CmdObj.tracked)
    rw [List.filter_append]
    exact h.balanced.refuse hwhole.free

theorem Inv.goto (h : s.Inv) (pc : ThreadPc) (sema : ℕ) (running : Bool)
    (hfrom : s.inHand = [] ∧ s.handled = [] ∧ s.ahead = [])
    (hto : ({ s with pc := pc } : CmdPriv).inHand = [] ∧ ({ s with pc := pc } : CmdPriv).handled = [] ∧
      ({ s with pc := pc } : CmdPriv).ahead = [])
    (hquiet : pc = .stopped ∨ pc = .draining → running = false) (hempty : pc = .stopped → s.cmdQueue = []) :
    ({ s with pc := pc, cmdQueueSema := sema, cmdthdRunning := running } : CmdPriv).Inv := by
  obtain ⟨before, haccepted, hexecuted⟩ := h.order
  refine { balanced := ?_, posted := ?_, ids := h.ids, accepted := h.accepted, order := ⟨before, ?_, hexecuted⟩,
           quiet := hquiet, empty := hempty }
  · have hbalanced := h.balanced
    rw [hfrom.1, hfrom.2.1, ← hto.1, ← hto.2.1] at hbalanced
    exact hbalanced
  · intro c res hpc
    have hhand := hto.1
    dsimp only at hpc
    rw [hpc] at hhand
    exact absurd hhand (List.cons_ne_nil c [])
  · rw [hfrom.2.2, ← hto.2.2] at haccepted
    exact haccepted

theorem Inv.threadStep (h : s.Inv) (interrupted : Bool) (ret : ℕ) (clean : s.Clean (.thread interrupted ret)) :
    (s.threadStep interrupted ret).Inv := by
  obtain ⟨before, haccepted, hexecuted⟩ := h.order
  have hbalanced := h.balanced
  unfold CmdPriv.threadStep
  unfold Clean CleanThread at clean
  unfold inHand handled at hbalanced
  unfold ahead at haccepted
  cases hpc : s.pc with
  | stopped => exact h
  | waiting =>
    have hfrom : s.inHand = [] ∧ s.handled = [] ∧ s.ahead = [] := by
      rw [inHand, handled, ahead, hpc]
      exact ⟨rfl, rfl, rfl⟩
    dsimp only
    by_cases hint : interrupted = true
    · rw [if_pos hint]
      exact h.goto .leaving _ _ hfrom ⟨rfl, rfl, rfl⟩ (by simp) (by simp)
    rw [if_neg hint]
    by_cases hsema : s.cmdQueueSema = 0
    · rw [if_pos hsema]
      exact h
    rw [if_neg hsema]
    split
    · exact h.goto .leaving _ _ hfrom ⟨rfl, rfl, rfl⟩ (by simp) (by simp)
    · exact h.goto .next _ _ hfrom ⟨rfl, rfl, rfl⟩ (by simp) (by simp)
  | next =>
    have hfrom : s.inHand = [] ∧ s.handled = [] ∧ s.ahead = [] := by
      rw [inHand, handled, ahead, hpc]
      exact ⟨rfl, rfl, rfl⟩
    rw [hpc] at hbalanced haccepted
    dsimp only at hbalanced haccepted ⊢
    split
    · exact h.goto .leaving _ _ hfrom ⟨rfl, rfl, rfl⟩ (by simp) (by simp)
    split
    · exact h.goto .waiting _ _ hfrom ⟨rfl, rfl, rfl⟩ (by simp) (by simp)
    · rename_i c rest hqueue
      rw [hqueue] at hbalanced haccepted
      exact { balanced := hbalanced, posted := fun _ _ hp => ThreadPc.noConfusion hp, ids := h.ids,
              accepted := h.accepted, order := ⟨before, haccepted, hexecuted⟩,
              quiet := fun hq => hq.elim ThreadPc.noConfusion ThreadPc.noConfusion,
              empty := fun hp => ThreadPc.noConfusion hp }
  | running c =>
    rw [hpc] at hbalanced haccepted clean
    dsimp only at hbalanced haccepted clean ⊢
    -- the command is no longer one that is waiting to be run
    have hbefore : s.accepted = (before ++ [c]) ++ s.cmdQueue := by
      rw [haccepted, List.append_assoc]
    have hnot : ∀ {t : CmdPriv} {res : ℕ}, t.pc = .post c res → t.pc = .stopped ∨ t.pc = .draining → False := by
      intro t res ht hq
      rw [ht] at hq
      exact hq.elim ThreadPc.noConfusion ThreadPc.noConfusion
    by_cases hfilter : s.rtwCmdFilter c = true
    · rw [if_pos hfilter] at clean
      obtain ⟨hspares, hret⟩ := clean
      rw [if_neg (by simp [hfilter])]
      have hnone : c.cmdcode ≠ _Set_Drv_Extra_CMD_ → c.pbufPart = [] := by
        intro hcode
        rw [CmdObj.pbufPart, CmdObj.heapPbuf, beq_eq_false_iff_ne.mpr hcode]
        rfl
      -- a command without a handler is not run and none of it is freed
      have hskip : ∀ res, c.cmdcode ≠ _Set_Drv_Extra_CMD_ → c.cmdcode ≠ _DisConnect_CMD_ →
          ({ s with pc := .post c res } : CmdPriv).Inv := by
        intro res hextra hdis
        refine { balanced := ?_, posted := ?_, ids := h.ids, accepted := h.accepted,
                 order := ⟨before ++ [c], hbefore, hexecuted.trans (List.sublist_append_left _ _)⟩,
                 quiet := fun hq => (hnot rfl hq).elim, empty := fun hp => ThreadPc.noConfusion hp }
        · show Balanced _ _ _ c.pbufPart _
          rw [hnone hextra]
          exact hbalanced
        · rintro c' res' hp
          obtain ⟨rfl, rfl⟩ := ThreadPc.post.inj hp
          exact ⟨hspares, fun hcode => absurd hcode hdis⟩
      have hhdl : c.cmdcode = _Set_Drv_Extra_CMD_ ∨ c.cmdcode = _DisConnect_CMD_ →
          c.cmdcode < WLANCMDS_SIZE ∧ wlancmdsHdl c.cmdcode = true := by
        rintro (hcode | hcode) <;> (rw [hcode]; decide)
      by_cases hsize : c.cmdcode < WLANCMDS_SIZE
      · rw [if_pos hsize]
        by_cases hrun : wlancmdsHdl c.cmdcode = true
        · rw [if_pos hrun]
          refine { balanced := ?_, posted := ?_, ids := h.ids, accepted := h.accepted,
                   order := ⟨before ++ [c], hbefore, hexecuted.append_right [c]⟩,
                   quiet := fun hq => (hnot rfl hq).elim, empty := fun hp => ThreadPc.noConfusion hp }
          · show Balanced _ _ _ c.pbufPart ((s.freed ++ _).filter CmdObj.tracked)
            rw [List.filter_append, CmdObj.handler_tracked]
            exact hbalanced.give _
          · rintro c' res' hp
            obtain ⟨rfl, rfl⟩ := ThreadPc.post.inj hp
            refine ⟨hspares, fun hcode => ?_⟩
            rw [if_neg (by rw [hcode]; decide)]
            exact hret hcode
        · rw [if_neg hrun]
          exact hskip _ (fun hcode => hrun (hhdl (Or.inl hcode)).2) fun hcode => hrun (hhdl (Or.inr hcode)).2
      · rw [if_neg hsize]
        exact hskip _ (fun hcode => hsize (hhdl (Or.inl hcode)).1) fun hcode => hsize (hhdl (Or.inr hcode)).1
    · rw [if_neg hfilter] at clean
      obtain ⟨hspares, hcode, hpbuf⟩ := clean
      rw [if_pos (by simp [hfilter])]
      refine { balanced := ?_, posted := ?_, ids := h.ids, accepted := h.accepted,
               order := ⟨before ++ [c], hbefore, hexecuted.trans (List.sublist_append_left _ _)⟩,
               quiet := fun hq => (hnot rfl hq).elim, empty := fun hp => ThreadPc.noConfusion hp }
      · have hnone : c.pbufPart = [] := by
          rw [CmdObj.pbufPart, hpbuf]
          rfl
        show Balanced _ _ _ c.pbufPart _
        rw [hnone]
        exact hbalanced
      · rintro c' res hp
        obtain ⟨rfl, rfl⟩ := ThreadPc.post.inj hp
        exact ⟨hspares, fun hdis => absurd hdis hcode⟩
  | post c res =>
    obtain ⟨hspares, hres⟩ := h.posted c res hpc
    rw [hpc] at hbalanced haccepted
    refine { balanced := ?_, posted := fun _ _ hp => ThreadPc.noConfusion hp, ids := h.ids, accepted := h.accepted,
             order := ⟨before, haccepted, hexecuted⟩,
             quiet := fun hq => hq.elim ThreadPc.noConfusion ThreadPc.noConfusion,
             empty := fun hp => ThreadPc.noConfusion hp }
    show Balanced _ _ _ _ ((s.freed ++ c.postProcess res).filter CmdObj.tracked)
    rw [List.filter_append]
    exact hbalanced.settle (CmdObj.postProcess_rest hspares hres)
  | leaving =>
    have hfrom : s.inHand = [] ∧ s.handled = [] ∧ s.ahead = [] := by
      rw [inHand, handled, ahead, hpc]
      exact ⟨rfl, rfl, rfl⟩
    exact h.goto .draining _ false hfrom ⟨rfl, rfl, rfl⟩ (fun _ => rfl) (by simp)
  | draining =>
    have hfrom : s.inHand = [] ∧ s.handled = [] ∧ s.ahead = [] := by
      rw [inHand, handled, ahead, hpc]
      exact ⟨rfl, rfl, rfl⟩
    have hquiet := h.quiet (Or.inr hpc)
    rw [hpc] at hbalanced haccepted clean
    dsimp only at hbalanced haccepted clean ⊢
    split
    · rename_i hqueue
      exact h.goto .stopped _ _ hfrom ⟨rfl, rfl, rfl⟩ (fun _ => hquiet) fun _ => hqueue
    · rename_i c rest hqueue
      rw [hqueue] at hbalanced haccepted
      have hwhole : c.Whole := clean c (by rw [hqueue]; rfl)
      refine { balanced := ?_, posted := fun _ _ hp => ThreadPc.noConfusion hp, ids := h.ids,
               accepted := h.accepted, order := ⟨before ++ [c], ?_, hexecuted.trans (List.sublist_append_left _ _)⟩,
               quiet := fun _ => hquiet, empty := fun hp => ThreadPc.noConfusion hp }
      · show Balanced _ _ _ _ ((s.freed ++ c.rtwFreeCmdObj).filter CmdObj.tracked)
        rw [List.filter_append]
        exact hbalanced.settle hwhole.free
      · show s.accepted = before ++ [c] ++ rest
        rw [haccepted, List.append_assoc]
        rfl

theorem Inv.step (h : s.Inv) (event : Event) (clean : s.Clean event) : (s.step event).Inv := by
  cases event with
  | enqueue cmd => exact h.enqueue cmd clean
  | thread interrupted ret => exact h.threadStep interrupted ret clean
  | start =>
    unfold CmdPriv.step
    cases hpc : s.pc with
    | stopped =>
      have hfrom : s.inHand = [] ∧ s.handled = [] ∧ s.ahead = [] := by
        rw [inHand, handled, ahead, hpc]
        exact ⟨rfl, rfl, rfl⟩
      exact h.goto .waiting _ true hfrom ⟨rfl, rfl, rfl⟩ (by simp) (by simp)
    | _ => exact h
  | up => exact { h with balanced := h.balanced, order := h.order }
  | flags hwInitCompleted bHWPwrPindetect usbssEnable bDriverStopped bSurpriseRemoved =>
    exact { h with balanced := h.balanced, order := h.order }

theorem Inv.run (h : s.Inv) (events : List Event) (along : s.Along events) : (s.run events).Inv := by
  induction events generalizing s with
  | nil => exact h
  | cons event rest ih => exact ih (h.step event along.1) along.2

/-! ## What runs guarantee -/

theorem owned_id {c : CmdObj} {b : MemBlock} (hb : b ∈ c.owned) : b.id = c.id := by
  unfold CmdObj.owned CmdObj.parmbufPart CmdObj.pbufPart at hb
  rcases List.mem_cons.mp hb with rfl | hb
  · rfl
  rcases List.mem_append.mp hb with hb | hb
  · split at hb
    · rw [List.mem_singleton.mp hb]
      rfl
    · exact absurd hb List.not_mem_nil
  · split at hb
    · rw [List.mem_singleton.mp hb]
      rfl
    · exact absurd hb List.not_mem_nil

theorem owned_nodup (c : CmdObj) : c.owned.Nodup := by
  unfold CmdObj.owned CmdObj.parmbufPart CmdObj.pbufPart
  split <;> split <;> simp [CmdObj.block]

theorem Inv.passed_nodup (h : s.Inv) : s.passed.Nodup := by
  have hids : (s.passed.map (·.id)).Nodup := h.ids ▸ List.nodup_range
  exact hids.of_map

theorem Inv.owned_nodup (h : s.Inv) : (s.passed.flatMap CmdObj.owned).Nodup := by
  refine List.nodup_flatMap.mpr ⟨fun c _ => CmdPriv.owned_nodup c, ?_⟩
  have hids : (s.passed.map (·.id)).Pairwise (· ≠ ·) := h.ids ▸ List.nodup_range
  refine (List.pairwise_map.mp hids).imp fun hne b hb hb' => hne ?_
  exact (owned_id hb).symm.trans (owned_id hb')

theorem tracked_of_owned {c : CmdObj} {b : MemBlock} (hb : b ∈ c.owned) : CmdObj.tracked b = true := by
  rw [← c.owned_tracked] at hb
  exact (List.mem_filter.mp hb).2

theorem Inv.freed_once (h : s.Inv) (hstopped : s.pc = .stopped) (c : CmdObj) (hc : c ∈ s.passed) (b : MemBlock)
    (hb : b ∈ c.owned) : s.freed.count b = 1 := by
  have hbalanced := h.balanced
  rw [h.empty hstopped, inHand, handled, hstopped] at hbalanced
  have hperm := hbalanced.closed
  have hcount := hperm.count_eq b
  rw [List.count_filter (tracked_of_owned hb)] at hcount
  rw [hcount]
  exact List.count_eq_one_of_mem h.owned_nodup (List.mem_flatMap.mpr ⟨c, hc, hb⟩)

theorem foreign_tracked {c : CmdObj} {b : MemBlock} (hb : b ∈ c.foreign) :
    CmdObj.tracked b = true ∧ b.id = c.id ∧ b ∉ c.owned := by
  unfold CmdObj.foreign at hb
  unfold CmdObj.owned CmdObj.parmbufPart CmdObj.pbufPart
  rcases List.mem_append.mp hb with hb | hb
  · split at hb
    · exact absurd hb List.not_mem_nil
    · rename_i hheap
      rw [List.mem_singleton.mp hb]
      refine ⟨rfl, rfl, ?_⟩
      rw [if_neg hheap]
      split <;> simp [CmdObj.block]
  · rw [List.mem_singleton.mp hb]
    refine ⟨rfl, rfl, ?_⟩
    split <;> split <;> simp [CmdObj.block]

theorem Inv.foreign_kept (h : s.Inv) (c : CmdObj) (hc : c ∈ s.passed) (b : MemBlock) (hb : b ∈ c.foreign) :
    b ∉ s.freed := by
  intro hfreed
  obtain ⟨htracked, hid, hnot⟩ := foreign_tracked hb
  have hpartly : ∀ b ∈ s.handled, ∃ c ∈ s.inHand ++ s.cmdQueue, b ∈ c.owned := by
    intro b hb
    unfold handled at hb
    unfold inHand
    cases hpc : s.pc with
    | post c res =>
      rw [hpc] at hb
      exact ⟨c, List.mem_cons_self, List.mem_cons_of_mem _ (List.mem_append_right _ hb)⟩
    | _ =>
      rw [hpc] at hb
      exact absurd hb List.not_mem_nil
  obtain ⟨c', hc', hb'⟩ := h.balanced.given hpartly (List.mem_filter.mpr ⟨hfreed, htracked⟩)
  have hids : (s.passed.map (·.id)).Nodup := h.ids ▸ List.nodup_range
  have hsame : c' = c := List.inj_on_of_nodup_map hids hc' hc ((owned_id hb').symm.trans hid)
  exact hnot (hsame ▸ hb')

/-- In every clean run the handlers run at most once for each accepted command and in the order of acceptance;
when the thread has stopped, each command and what it owns was freed once; and parameters that are not on the
heap and buffers of the caller are never freed. -/
theorem commands_freed (events : List Event) (along : ({} : CmdPriv).Along events) :
    let s := ({} : CmdPriv).run events
    (s.executed.Sublist s.accepted ∧ s.accepted.Nodup) ∧
      (s.pc = .stopped → ∀ c ∈ s.passed, ∀ b ∈ c.owned, s.freed.count b = 1) ∧
      ∀ c ∈ s.passed, ∀ b ∈ c.foreign, b ∉ s.freed := by
  have h := Inv.start.run events along
  obtain ⟨before, haccepted, hexecuted⟩ := h.order
  refine ⟨⟨?_, h.passed_nodup.sublist h.accepted⟩, h.freed_once, h.foreign_kept⟩
  rw [haccepted]
  exact hexecuted.trans (List.sublist_append_left _ _)

/-! ## Runs -/

def joinCmd : CmdObj := { cmdcode := _JoinBss_CMD_ }

def disassocCmd : CmdObj := { cmdcode := _DisConnect_CMD_ }

def c2hCmd : CmdObj := { cmdcode := _Set_Drv_Extra_CMD_, drvextra := { ecId := 10, typeSize := 16, pbuf := true } }

def getRfregCmd : CmdObj := { cmdcode := _Read_RFREG_CMD_, rsp := true, rspsz := 4, callersRsp := true }

/-- Three commands are run, a fourth is left in the queue when the driver stops. -/
theorem commands_freed_four :
    let s := ({} : CmdPriv).run ([.flags true false false false false, .start, .enqueue joinCmd, .enqueue c2hCmd,
      .enqueue getRfregCmd] ++ List.replicate 10 (.thread false 0) ++ [.enqueue disassocCmd,
      .flags true false false true false, .up] ++ List.replicate 5 (.thread false 0))
    (s.executed.Sublist s.accepted ∧ s.accepted.Nodup) ∧
      (s.pc = .stopped → ∀ c ∈ s.passed, ∀ b ∈ c.owned, s.freed.count b = 1) ∧
      ∀ c ∈ s.passed, ∀ b ∈ c.foreign, b ∉ s.freed := by
  apply commands_freed
  decide +kernel

/-- A disassociation that the thread drops is never freed. -/
theorem commands_leak : ¬ ∀ events : List Event, let s := ({} : CmdPriv).run events
    (s.executed.Sublist s.accepted ∧ s.accepted.Nodup) ∧
      (s.pc = .stopped → ∀ c ∈ s.passed, ∀ b ∈ c.owned, s.freed.count b = 1) ∧
      ∀ c ∈ s.passed, ∀ b ∈ c.foreign, b ∉ s.freed := by
  intro hall
  let events : List Event := [.flags true false false false false, .start, .enqueue disassocCmd, .thread false 0,
    .thread false 0, .flags false false false false false, .thread false 0, .thread false 0,
    .flags false false false true false, .thread false 0, .thread false 0, .thread false 0]
  have hfreed := (hall events).2.1 (by decide +kernel) { disassocCmd with id := 0 } (by decide +kernel)
    ⟨0, .obj⟩ (by decide +kernel)
  exact absurd hfreed (by decide +kernel)

end CmdPriv

end Rtl8723au
