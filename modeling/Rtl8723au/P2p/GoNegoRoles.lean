import Rtl8723au.P2p.GoNego

/-! The roles the two devices end with. Each frame on its way is backed by what its sender did; from that the intent
and the tie breaker bit a device stores are the ones its peer sent. Two devices of the same intent both own the group
once both have taken a response, which crossing requests make possible. -/
namespace Rtl8723au
set_option autoImplicit false

namespace Party

@[simp] theorem other_other (d : Party) : d.other.other = d := by
  cases d <;> rfl

theorem other_ne (d : Party) : d.other ≠ d := by
  cases d <;> exact fun h => Party.noConfusion h

theorem eq_or_other (d e : Party) : e = d ∨ e = d.other := by
  cases d <;> cases e <;> decide

end Party

namespace GoNego
open P2pDevice

variable {s : GoNego} {d : Party} {f : NegoFrame} {retry : Bool}

def intent (s : GoNego) (d : Party) : ℕ := (s.dev d).intent

/-- Both devices insist on owning the group. -/
def BothLargest (s : GoNego) : Prop := ∀ d, s.intent d = P2P_MAX_INTENT

/-- Only the tie breaker bit decides. -/
def Tied (s : GoNego) : Prop := s.intent .A = s.intent .B ∧ ¬ s.BothLargest

/-- A device takes a response after its peer has taken one. -/
def Crosses (s : GoNego) : Step → Prop
  | .deliver i _ retry =>
    ∃ d f, s.air[i]? = some (d, f) ∧ (s.dev d).TakesResp f retry ∧ s.took d.other = true
  | _ => False

/-- Between devices of the same intent no responses cross. -/
def Orderly (s : GoNego) : List Step → Prop
  | [] => True
  | x :: rest => (s.Tied → ¬ s.Crosses x) ∧ (s.step x).Orderly rest

/-- Two devices before they negotiate. -/
structure Ready (s : GoNego) : Prop where
  intent : ∀ d, s.intent d ≤ P2P_MAX_INTENT
  wpsInfo : ∀ d, (s.dev d).wpsInfo = true
  commonCh : ∀ d, (s.dev d).commonCh = true
  role : ∀ d, (s.dev d).role = .DEVICE
  state : ∀ d, (s.dev d).state = if s.initiator d then .GONEGO_ING else .LISTEN
  air : s.air = []
  answered : ∀ d, s.answered d = false
  took : ∀ d, s.took d = false

/-- The negotiation is over for both devices. -/
def Concluded (s : GoNego) : Prop := (∀ d, (s.dev d).state = .GONEGO_OK) ∧ s.air = []

/-- One device owns the group and the other is its client. -/
def RolesAgree (s : GoNego) : Prop := ∃ d, (s.dev d).role = .GO ∧ (s.dev d.other).role = .CLIENT

/-! ## One frame -/

section Receive

variable (s d f retry)

theorem receive_dev : (s.receive d f retry).dev d = ((s.dev d).onActionPublicP2p f retry).1 :=
  Function.update_self d _ s.dev

theorem receive_dev_other : (s.receive d f retry).dev d.other = s.dev d.other :=
  Function.update_of_ne d.other_ne _ s.dev

theorem receive_answered : (s.receive d f retry).answered d =
    (s.answered d || ((s.dev d).onActionPublicP2p f retry).2.any isResp) :=
  Function.update_self d _ s.answered

theorem receive_answered_other : (s.receive d f retry).answered d.other = s.answered d.other :=
  Function.update_of_ne d.other_ne _ s.answered

theorem receive_took : (s.receive d f retry).took d =
    (s.took d || ((s.dev d).onActionPublicP2p f retry).2.any isConf) :=
  Function.update_self d _ s.took

theorem receive_took_other : (s.receive d f retry).took d.other = s.took d.other :=
  Function.update_of_ne d.other_ne _ s.took

theorem mem_receive_air {e : Party × NegoFrame} : e ∈ (s.receive d f retry).air ↔
    e ∈ s.air ∨ e.1 = d.other ∧ e.2 ∈ ((s.dev d).onActionPublicP2p f retry).2 := by
  show e ∈ s.air ++ _ ↔ _
  rw [List.mem_append, List.mem_map]
  constructor
  · rintro (h | ⟨g, hg, rfl⟩)
    · exact .inl h
    · exact .inr ⟨rfl, hg⟩
  · rintro (h | ⟨h, hg⟩)
    · exact .inl h
    · exact .inr ⟨e.2, hg, by rw [← h]⟩

end Receive

/-- Both have their WPS information and a channel in common. -/
structure Equipped (s : GoNego) : Prop where
  wpsInfo : ∀ d, (s.dev d).wpsInfo = true
  commonCh : ∀ d, (s.dev d).commonCh = true

/-- Devices keep what they bring and the history grows. -/
structure Grows (s s' : GoNego) : Prop where
  alike : ∀ d, Alike (s.dev d) (s'.dev d)
  answered : ∀ d, s.answered d = true → s'.answered d = true
  took : ∀ d, s.took d = true → s'.took d = true

theorem Grows.intent {s s' : GoNego} (h : Grows s s') (d : Party) : s'.intent d = s.intent d := (h.alike d).intent

theorem Equipped.grows {s s' : GoNego} (h : s.Equipped) (hg : Grows s s') : s'.Equipped :=
  ⟨fun d => (hg.alike d).wpsInfo.trans (h.wpsInfo d), fun d => (hg.alike d).commonCh.trans (h.commonCh d)⟩

theorem Equipped.effect (h : s.Equipped) (d : Party) (f : NegoFrame) (retry : Bool) :
    Effect (s.dev d) f retry ((s.dev d).onActionPublicP2p f retry) :=
  (onAction_spec (h.wpsInfo d) (h.commonCh d)).2

theorem receive_grows (h : s.Equipped) (d : Party) (f : NegoFrame) (retry : Bool) : Grows s (s.receive d f retry) := by
  refine ⟨fun e => ?_, fun e he => ?_, fun e he => ?_⟩ <;> obtain rfl | rfl := d.eq_or_other e
  · rw [receive_dev]
    exact (onAction_spec (h.wpsInfo e) (h.commonCh e)).1
  · rw [receive_dev_other]
    exact .refl _
  · rw [receive_answered, he, Bool.true_or]
  · rw [receive_answered_other]
    exact he
  · rw [receive_took, he, Bool.true_or]
  · rw [receive_took_other]
    exact he

/-! ## One step -/

/-- The state with other frames on their way. -/
def withAir (s : GoNego) (air : List (Party × NegoFrame)) : GoNego := { s with air := air }

def requested (s : GoNego) (d : Party) : GoNego :=
  { s with
    dev := Function.update s.dev d (s.dev d).issueP2pGORequest.1
    air := s.air ++ [(d.other, (s.dev d).issueP2pGORequest.2)] }

/-- What a step can do: frames vanish, a request is sent, a frame arrives. -/
inductive StepCases (s : GoNego) (x : Step) : GoNego → Prop
  | lost (air : List (Party × NegoFrame)) (sub : air ⊆ s.air) : StepCases s x (s.withAir air)
  | request (d : Party) : StepCases s x (s.requested d)
  | arrives (air : List (Party × NegoFrame)) (sub : air ⊆ s.air) (d : Party) (f : NegoFrame) (retry : Bool)
    (mem : (d, f) ∈ s.air)
    (crosses : (s.dev d).TakesResp f retry → s.took d.other = true → s.Crosses x) :
    StepCases s x ((s.withAir air).receive d f retry)

theorem step_cases (s : GoNego) (x : Step) : StepCases s x (s.step x) := by
  cases x with
  | request d =>
    rw [step]
    split
    · exact .request d
    · exact .lost s.air (List.Subset.refl _)
  | lose i => exact .lost _ List.eraseIdx_subset
  | deliver i keep retry =>
    rw [step]
    split
    · exact .lost s.air (List.Subset.refl _)
    · rename_i d f hi
      have hmem : (d, f) ∈ s.air := List.mem_of_getElem? hi
      have hcrosses : (s.dev d).TakesResp f retry → s.took d.other = true → s.Crosses (.deliver i keep retry) :=
        fun htakes htook => ⟨d, f, hi, htakes, htook⟩
      split
      · exact .arrives s.air (List.Subset.refl _) d f retry hmem hcrosses
      · exact .arrives _ List.eraseIdx_subset d f retry hmem hcrosses

section Requested

variable (s d)

theorem requested_dev : (s.requested d).dev d = (s.dev d).issueP2pGORequest.1 := Function.update_self d _ s.dev

theorem requested_dev_other : (s.requested d).dev d.other = s.dev d.other := Function.update_of_ne d.other_ne _ s.dev

theorem requested_grows : Grows s (s.requested d) := by
  refine ⟨fun e => ?_, fun e he => he, fun e he => he⟩
  obtain rfl | rfl := d.eq_or_other e
  · rw [requested_dev]
    exact ⟨rfl, rfl, rfl⟩
  · rw [requested_dev_other]
    exact .refl _

theorem requested_state (e : Party) : ((s.requested d).dev e).state = (s.dev e).state := by
  obtain rfl | rfl := d.eq_or_other e
  · rw [requested_dev]
    rfl
  · rw [requested_dev_other]

theorem requested_role (e : Party) : ((s.requested d).dev e).role = (s.dev e).role := by
  obtain rfl | rfl := d.eq_or_other e
  · rw [requested_dev]
    rfl
  · rw [requested_dev_other]

theorem requested_peerIntent (e : Party) : ((s.requested d).dev e).peerIntent = (s.dev e).peerIntent := by
  obtain rfl | rfl := d.eq_or_other e
  · rw [requested_dev]
    rfl
  · rw [requested_dev_other]

theorem mem_requested_air {e : Party × NegoFrame} (h : e ∈ (s.requested d).air) :
    e ∈ s.air ∨ e.1 = d.other ∧ e.2.body = .req (2 * s.intent d + 1) := by
  obtain h | h := List.mem_append.mp h
  · exact .inl h
  · rw [List.mem_singleton] at h
    subst h
    exact .inr ⟨rfl, congrArg NegoBody.req (shiftLeft_one_lor_one _)⟩

end Requested

/-! ## Two devices that insist -/

def Fails : NegoBody → Prop
  | .req n => n = 2 * P2P_MAX_INTENT + 1
  | .resp status _ => status ≠ P2P_STATUS_SUCCESS
  | .conf status => status ≠ P2P_STATUS_SUCCESS

structure Insists (s : GoNego) : Prop where
  equipped : s.Equipped
  intent : s.BothLargest
  frame : ∀ e ∈ s.air, Fails e.2.body
  state : ∀ d, (s.dev d).state ≠ .GONEGO_OK

theorem verdict_max {n : ℕ} (h : n = 2 * P2P_MAX_INTENT + 1) :
    verdict P2P_MAX_INTENT n ≠ P2P_STATUS_SUCCESS := by
  subst h
  decide

theorem Insists.receive (h : s.Insists) (hf : Fails f.body) : (s.receive d f retry).Insists := by
  have hgrows := receive_grows h.equipped d f retry
  have hintent : (s.dev d).intent = P2P_MAX_INTENT := h.intent d
  have heffect : ((s.dev d).onActionPublicP2p f retry).1.state ≠ .GONEGO_OK ∧
      ∀ g ∈ ((s.dev d).onActionPublicP2p f retry).2, Fails g.body := by
    cases h.equipped.effect d f retry with
    | none state role peer out => exact ⟨state ▸ h.state d, by rw [out]; exact List.forall_mem_nil _⟩
    | answers n body state peer frame out sent =>
      rw [body] at hf
      refine ⟨by rw [state]; exact fun h => P2pState.noConfusion h, ?_⟩
      rw [out, List.forall_mem_singleton, sent, hintent]
      exact verdict_max hf
    | refused taken status n body failed state peer frame out sent =>
      refine ⟨state, ?_⟩
      rw [out, List.forall_mem_singleton, sent]
      exact failed
    | takes taken n body peer state role frame out sent =>
      rw [body] at hf
      exact absurd rfl hf
    | confirmed body role peer out =>
      rw [body] at hf
      exact absurd rfl hf
    | rejected status body failed state peer out => exact ⟨state, by rw [out]; exact List.forall_mem_nil _⟩
  refine ⟨h.equipped.grows hgrows, fun e => (hgrows.intent e).trans (h.intent e), fun e he => ?_, fun e => ?_⟩
  · obtain he | ⟨-, he⟩ := (mem_receive_air s d f retry).mp he
    · exact h.frame e he
    · exact heffect.2 _ he
  · obtain rfl | rfl := d.eq_or_other e
    · rw [receive_dev]
      exact heffect.1
    · rw [receive_dev_other]
      exact h.state _

theorem Insists.withAir (h : s.Insists) {air : List (Party × NegoFrame)} (hsub : air ⊆ s.air) :
    (s.withAir air).Insists :=
  ⟨⟨h.equipped.wpsInfo, h.equipped.commonCh⟩, h.intent, fun e he => h.frame e (hsub he), h.state⟩

theorem Insists.step (h : s.Insists) (x : Step) : (s.step x).Insists := by
  have hcases := step_cases s x
  generalize s.step x = s' at hcases
  cases hcases with
  | lost air sub => exact h.withAir sub
  | request d =>
    have hgrows := requested_grows s d
    refine ⟨h.equipped.grows hgrows, fun e => (hgrows.intent e).trans (h.intent e), fun e he => ?_, fun e => ?_⟩
    · obtain he | ⟨-, he⟩ := mem_requested_air s d he
      · exact h.frame e he
      · rw [he, h.intent d]
        rfl
    · rw [requested_state]
      exact h.state e
  | arrives air sub d f retry mem crosses => exact (h.withAir sub).receive (h.frame _ mem)

theorem Insists.run (h : s.Insists) (steps : List Step) : (s.run steps).Insists := by
  induction steps generalizing s with
  | nil => exact h
  | cons x rest ih => exact ih (h.step x)

/-! ## Two devices that come to an agreement -/

def Backed (s : GoNego) (d : Party) : NegoBody → Prop
  | .req n => n = 2 * s.intent d.other + 1
  | .resp status n => status = P2P_STATUS_SUCCESS ∧ n = 2 * s.intent d.other ∧ s.answered d.other = true
  | .conf status => status = P2P_STATUS_SUCCESS ∧ s.took d.other = true

/-- The stored intent of the peer comes from its request, or from its response. A role comes from the response, or
from the confirmation of a peer that took one. -/
structure Sound (s : GoNego) (d : Party) : Prop where
  backed : s.took d = true → s.answered d.other = true
  peer : s.answered d = true ∨ s.took d = true → (s.dev d).peerIntent = 2 * s.intent d.other + 1 ∨
    s.took d = true ∧ (s.dev d).peerIntent = 2 * s.intent d.other
  role : (s.dev d).state = .GONEGO_OK → (s.dev d).role = goRole (s.intent d) (s.dev d).peerIntent ∧
    (s.took d = true ∧ (s.dev d).peerIntent = 2 * s.intent d.other ∨ s.took d.other = true)

structure Negotiates (s : GoNego) : Prop where
  equipped : s.Equipped
  intent : ¬ s.BothLargest
  frame : ∀ e ∈ s.air, s.Backed e.1 e.2.body
  sound : ∀ d, s.Sound d
  once : s.Tied → ∃ d, s.took d = false

theorem Grows.bothLargest {s s' : GoNego} (h : Grows s s') : s'.BothLargest ↔ s.BothLargest :=
  forall_congr' fun d => by rw [h.intent]

theorem Grows.tied {s s' : GoNego} (h : Grows s s') : s'.Tied ↔ s.Tied := by
  rw [Tied, Tied, h.intent, h.intent, h.bothLargest]

theorem Backed.grows {s s' : GoNego} {body : NegoBody} (h : s.Backed d body) (hg : Grows s s') : s'.Backed d body := by
  cases body with
  | req n => exact Eq.trans h (by rw [hg.intent])
  | resp status n => exact ⟨h.1, h.2.1.trans (by rw [hg.intent]), hg.answered _ h.2.2⟩
  | conf status => exact ⟨h.1, hg.took _ h.2⟩

theorem Sound.grows {s s' : GoNego} (h : s.Sound d) (hg : Grows s s') (hstate : (s'.dev d).state = (s.dev d).state)
    (hrole : (s'.dev d).role = (s.dev d).role) (hpeer : (s'.dev d).peerIntent = (s.dev d).peerIntent)
    (hanswered : s'.answered d = s.answered d) (htook : s'.took d = s.took d) : s'.Sound d := by
  refine ⟨fun ht => ?_, fun ht => ?_, fun hs => ?_⟩
  · rw [htook] at ht
    exact hg.answered _ (h.backed ht)
  · rw [htook, hanswered] at ht
    rw [htook, hpeer, hg.intent]
    exact h.peer ht
  · rw [hstate] at hs
    rw [htook, hpeer, hrole, hg.intent, hg.intent]
    obtain ⟨hr, hs⟩ := h.role hs
    exact ⟨hr, hs.imp_right (hg.took _)⟩

theorem not_bothMax (h : ¬ s.BothLargest) {n : ℕ} (hn : n = 2 * s.intent d.other) :
    ¬ BothMax (s.dev d).intent n := by
  rintro ⟨hpeer, hmax⟩
  rw [hn, Nat.shiftRight_eq_div_pow, pow_one, Nat.mul_div_cancel_left _ Nat.two_pos] at hpeer
  refine h fun e => ?_
  obtain rfl | rfl := d.eq_or_other e
  · exact hmax
  · exact hpeer.symm.trans hmax

theorem Negotiates.receive_sound (h : s.Negotiates) (hf : s.Backed d f.body) : (s.receive d f retry).Sound d := by
  have hgrows := receive_grows h.equipped d f retry
  have hsound := h.sound d
  have hanswered := receive_answered s d f retry
  have htook := receive_took s d f retry
  cases h.equipped.effect d f retry with
  | none state role peer out =>
    rw [out, List.any_nil, Bool.or_false] at hanswered htook
    rw [← receive_dev] at state role peer
    exact hsound.grows hgrows state role peer hanswered htook
  | answers n body state peer frame out sent =>
    rw [body] at hf
    have hconf : ((s.dev d).onActionPublicP2p f retry).2.any isConf = false := by
      rw [out, List.any_cons, List.any_nil, Bool.or_false, isConf, sent]
    rw [hconf, Bool.or_false] at htook
    rw [← receive_dev] at state peer
    refine ⟨fun ht => ?_, fun _ => .inl ?_, fun hs => ?_⟩
    · rw [htook] at ht
      exact hgrows.answered _ (hsound.backed ht)
    · rw [peer, hgrows.intent]
      exact hf
    · rw [state] at hs
      exact P2pState.noConfusion hs
  | refused taken status n body failed state peer frame out sent =>
    rw [body] at hf
    exact absurd hf.1 failed
  | takes taken n body peer state role frame out sent =>
    rw [body] at hf
    obtain ⟨-, hn, hbacked⟩ := hf
    have hconf : ((s.dev d).onActionPublicP2p f retry).2.any isConf = true := by
      rw [out, List.any_cons, isConf, sent, Bool.true_or]
    rw [hconf, Bool.or_true] at htook
    rw [← receive_dev] at peer role
    refine ⟨fun _ => hgrows.answered _ hbacked, fun _ => .inr ⟨htook, ?_⟩, fun _ => ⟨?_, .inl ⟨htook, ?_⟩⟩⟩
    · rw [peer, hgrows.intent]
      exact hn
    · rw [role (not_bothMax h.intent hn), peer, hgrows.intent]
      rfl
    · rw [peer, hgrows.intent]
      exact hn
  | confirmed body role peer out =>
    rw [body] at hf
    rw [out, List.any_nil, Bool.or_false] at hanswered htook
    rw [← receive_dev] at role peer
    refine ⟨fun ht => ?_, fun ht => ?_, fun _ => ⟨?_, .inr (hgrows.took _ hf.2)⟩⟩
    · rw [htook] at ht
      exact hgrows.answered _ (hsound.backed ht)
    · rw [htook, hanswered] at ht
      rw [htook, peer, hgrows.intent]
      exact hsound.peer ht
    · rw [role, peer, hgrows.intent]
      rfl
  | rejected status body failed state peer out =>
    rw [body] at hf
    exact absurd hf.1 failed

theorem Negotiates.receive_backed (h : s.Negotiates) (hf : s.Backed d f.body) {g : NegoFrame}
    (hg : g ∈ ((s.dev d).onActionPublicP2p f retry).2) : (s.receive d f retry).Backed d.other g.body := by
  have hgrows := receive_grows h.equipped d f retry
  have hanswered := receive_answered s d f retry
  have htook := receive_took s d f retry
  cases h.equipped.effect d f retry with
  | none state role peer out =>
    rw [out] at hg
    exact absurd hg List.not_mem_nil
  | answers n body state peer frame out sent =>
    rw [body] at hf
    rw [out, List.mem_singleton] at hg
    subst hg
    have hresp : ((s.dev d).onActionPublicP2p f retry).2.any isResp = true := by
      rw [out, List.any_cons, isResp, sent, Bool.true_or]
    rw [hresp, Bool.or_true] at hanswered
    rw [sent]
    have hodd : n &&& 1 ≠ 0 := by
      rw [show n = 2 * s.intent d.other + 1 from hf, Nat.and_one_is_mod]
      omega
    have hmax : ¬ BothMax (s.dev d).intent n := by
      rintro ⟨hpeer, hmax⟩
      rw [show n = 2 * s.intent d.other + 1 from hf, Nat.shiftRight_eq_div_pow] at hpeer
      refine not_bothMax (d := d) h.intent rfl ⟨?_, hmax⟩
      rw [Nat.shiftRight_eq_div_pow]
      omega
    refine ⟨if_neg hmax, ?_, ?_⟩
    · rw [answerIntent, if_pos hodd, shiftLeft_one, Party.other_other, hgrows.intent]
      rfl
    · rw [Party.other_other]
      exact hanswered
  | refused taken status n body failed state peer frame out sent =>
    rw [body] at hf
    exact absurd hf.1 failed
  | takes taken n body peer state role frame out sent =>
    rw [body] at hf
    rw [out, List.mem_singleton] at hg
    subst hg
    have hconf : ((s.dev d).onActionPublicP2p f retry).2.any isConf = true := by
      rw [out, List.any_cons, isConf, sent, Bool.true_or]
    rw [hconf, Bool.or_true] at htook
    rw [sent]
    refine ⟨if_neg (not_bothMax h.intent hf.2.1), ?_⟩
    rw [Party.other_other]
    exact htook
  | confirmed body role peer out =>
    rw [out] at hg
    exact absurd hg List.not_mem_nil
  | rejected status body failed state peer out =>
    rw [out] at hg
    exact absurd hg List.not_mem_nil

theorem Negotiates.receive_once (h : s.Negotiates) (d : Party) (f : NegoFrame) (retry : Bool) :
    (s.receive d f retry).took d = s.took d ∨ (s.dev d).TakesResp f retry := by
  have htook := receive_took s d f retry
  cases h.equipped.effect d f retry with
  | none state role peer out =>
    rw [out, List.any_nil, Bool.or_false] at htook
    exact .inl htook
  | answers n body state peer frame out sent =>
    have hconf : ((s.dev d).onActionPublicP2p f retry).2.any isConf = false := by
      rw [out, List.any_cons, List.any_nil, Bool.or_false, isConf, sent]
    rw [hconf, Bool.or_false] at htook
    exact .inl htook
  | refused taken status n body failed state peer frame out sent => exact .inr taken
  | takes taken n body peer state role frame out sent => exact .inr taken
  | confirmed body role peer out =>
    rw [out, List.any_nil, Bool.or_false] at htook
    exact .inl htook
  | rejected status body failed state peer out =>
    rw [out, List.any_nil, Bool.or_false] at htook
    exact .inl htook

theorem Negotiates.receive (h : s.Negotiates) (hf : s.Backed d f.body)
    (horderly : s.Tied → (s.dev d).TakesResp f retry → s.took d.other = false) :
    (s.receive d f retry).Negotiates := by
  have hgrows := receive_grows h.equipped d f retry
  refine ⟨h.equipped.grows hgrows, fun hl => h.intent (hgrows.bothLargest.mp hl), fun e he => ?_, fun e => ?_,
    fun ht => ?_⟩
  · obtain he | ⟨hfor, he⟩ := (mem_receive_air s d f retry).mp he
    · exact (h.frame e he).grows hgrows
    · rw [hfor]
      exact h.receive_backed hf he
  · obtain rfl | rfl := d.eq_or_other e
    · exact h.receive_sound hf
    · have hdev := receive_dev_other s d f retry
      exact (h.sound d.other).grows hgrows (by rw [hdev]) (by rw [hdev]) (by rw [hdev])
        (receive_answered_other s d f retry) (receive_took_other s d f retry)
  · have htied := hgrows.tied.mp ht
    obtain hsame | htakes := h.receive_once d f retry
    · obtain ⟨e, he⟩ := h.once htied
      refine ⟨e, ?_⟩
      obtain rfl | rfl := d.eq_or_other e
      · exact hsame.trans he
      · exact (receive_took_other s d f retry).trans he
    · exact ⟨d.other, (receive_took_other s d f retry).trans (horderly htied htakes)⟩

theorem Negotiates.withAir (h : s.Negotiates) {air : List (Party × NegoFrame)} (hsub : air ⊆ s.air) :
    (s.withAir air).Negotiates := by
  have hgrows : Grows s (s.withAir air) := ⟨fun e => .refl _, fun e he => he, fun e he => he⟩
  exact ⟨h.equipped.grows hgrows, h.intent, fun e he => (h.frame e (hsub he)).grows hgrows,
    fun e => (h.sound e).grows hgrows rfl rfl rfl rfl rfl, h.once⟩

theorem Negotiates.step (h : s.Negotiates) {x : Step} (hx : s.Tied → ¬ s.Crosses x) : (s.step x).Negotiates := by
  have hcases := step_cases s x
  generalize s.step x = s' at hcases
  cases hcases with
  | lost air sub => exact h.withAir sub
  | request d =>
    have hgrows := requested_grows s d
    refine ⟨h.equipped.grows hgrows, fun hl => h.intent (hgrows.bothLargest.mp hl), fun e he => ?_, fun e => ?_,
      fun ht => h.once (hgrows.tied.mp ht)⟩
    · obtain he | ⟨hfor, he⟩ := mem_requested_air s d he
      · exact (h.frame e he).grows hgrows
      · rw [hfor, he]
        show 2 * s.intent d + 1 = _
        rw [hgrows.intent, Party.other_other]
    · exact (h.sound e).grows hgrows (requested_state s d e) (requested_role s d e) (requested_peerIntent s d e) rfl rfl
  | arrives air sub d f retry mem crosses =>
    refine (h.withAir sub).receive (h.frame _ mem) fun htied htakes => ?_
    by_contra htook
    rw [Bool.not_eq_false] at htook
    exact hx htied (crosses htakes htook)

theorem Negotiates.run (h : s.Negotiates) {steps : List Step} (ho : s.Orderly steps) : (s.run steps).Negotiates := by
  induction steps generalizing s with
  | nil => exact h
  | cons x rest ih => exact ih (h.step ho.1) ho.2

/-! ## The roles -/

theorem goRole_of_ne {a b n : ℕ} (hab : a ≠ b) (hn : n = 2 * b + 1 ∨ n = 2 * b) :
    goRole a n = if a > b then .GO else .CLIENT := by
  obtain rfl | rfl := hn
  · rw [goRole_odd, if_neg hab]
  · rw [goRole_even, if_neg hab]

theorem Negotiates.stored (h : s.Negotiates) (hstate : (s.dev d).state = .GONEGO_OK) :
    (s.dev d).peerIntent = 2 * s.intent d.other + 1 ∨ (s.dev d).peerIntent = 2 * s.intent d.other := by
  obtain ⟨htook, -⟩ | htook := ((h.sound d).role hstate).2
  · exact ((h.sound d).peer (.inr htook)).imp_right And.right
  · have hanswered := (h.sound d.other).backed htook
    rw [Party.other_other] at hanswered
    exact ((h.sound d).peer (.inl hanswered)).imp_right And.right

theorem Negotiates.rolesAgree_of_gt (h : s.Negotiates) (hgt : s.intent d > s.intent d.other)
    (hstate : ∀ e, (s.dev e).state = .GONEGO_OK) : s.RolesAgree := by
  have hother := h.stored (hstate d.other)
  rw [Party.other_other] at hother
  refine ⟨d, ?_, ?_⟩
  · rw [((h.sound d).role (hstate d)).1, goRole_of_ne (by omega) (h.stored (hstate d)), if_pos hgt]
  · rw [((h.sound d.other).role (hstate d.other)).1, goRole_of_ne (by omega) hother, if_neg (by omega)]

theorem Negotiates.rolesAgree_of_once (h : s.Negotiates) (heq : s.intent d = s.intent d.other)
    (hd : s.took d = false) (hstate : ∀ e, (s.dev e).state = .GONEGO_OK) : s.RolesAgree := by
  have hnot : ¬ s.took d = true := by
    rw [hd]
    exact Bool.false_ne_true
  have htook : s.took d.other = true := (((h.sound d).role (hstate d)).2).resolve_left fun ht => hnot ht.1
  have hanswered := (h.sound d.other).backed htook
  rw [Party.other_other] at hanswered
  have hpeer := ((h.sound d).peer (.inl hanswered)).resolve_right fun ht => hnot ht.1
  obtain ⟨hrole, hlast⟩ := (h.sound d.other).role (hstate d.other)
  rw [Party.other_other] at hlast
  have hlast := (hlast.resolve_right hnot).2
  refine ⟨d.other, ?_, ?_⟩
  · rw [hrole, hlast, goRole_even, if_pos heq.symm]
  · rw [Party.other_other, ((h.sound d).role (hstate d)).1, hpeer, goRole_odd, if_pos heq]

theorem Negotiates.rolesAgree (h : s.Negotiates) (hstate : ∀ d, (s.dev d).state = .GONEGO_OK) : s.RolesAgree := by
  obtain hlt | heq | hgt := Nat.lt_trichotomy (s.intent .A) (s.intent .B)
  · exact h.rolesAgree_of_gt (d := .B) hlt hstate
  · obtain ⟨d, hd⟩ := h.once ⟨heq, h.intent⟩
    refine h.rolesAgree_of_once (d := d) ?_ hd hstate
    cases d with
    | A => exact heq
    | B => exact heq.symm
  · exact h.rolesAgree_of_gt (d := .A) hgt hstate

theorem Ready.state_ne (h : s.Ready) (d : Party) : (s.dev d).state ≠ .GONEGO_OK := by
  rw [h.state d]
  split <;> exact fun hs => P2pState.noConfusion hs

theorem Ready.insists (h : s.Ready) (hmax : s.BothLargest) : s.Insists := by
  refine ⟨⟨h.wpsInfo, h.commonCh⟩, hmax, ?_, h.state_ne⟩
  rw [h.air]
  exact List.forall_mem_nil _

theorem Ready.negotiates (h : s.Ready) (hmax : ¬ s.BothLargest) : s.Negotiates := by
  refine ⟨⟨h.wpsInfo, h.commonCh⟩, hmax, ?_, fun d => ?_, fun _ => ⟨.A, h.took .A⟩⟩
  · rw [h.air]
    exact List.forall_mem_nil _
  · have htook : ¬ s.took d = true := by
      rw [h.took]
      exact Bool.false_ne_true
    have hanswered : ¬ s.answered d = true := by
      rw [h.answered]
      exact Bool.false_ne_true
    exact ⟨fun ht => absurd ht htook, fun ht => (ht.elim hanswered htook).elim, fun hs => absurd hs (h.state_ne d)⟩

/-- Whatever the interleaving, two devices that conclude agree on the owner, unless of two with the same intent both
take a response. Two that insist on owning the group do not conclude. -/
theorem roles_agree (s : GoNego) (h : s.Ready) (steps : List Step) (ho : s.Orderly steps) :
    ((s.run steps).Concluded → (s.run steps).RolesAgree) ∧
      (s.BothLargest → ∀ d, ((s.run steps).dev d).state ≠ .GONEGO_OK) := by
  by_cases hmax : s.BothLargest
  · have hrun := (h.insists hmax).run steps
    exact ⟨fun hc => absurd (hc.1 .A) (hrun.state .A), fun _ => hrun.state⟩
  · exact ⟨fun hc => ((h.negotiates hmax).run ho).rolesAgree hc.1, fun hm => absurd hm hmax⟩

/-- A device in the middle of its range of intents. -/
def device (state : P2pState) : P2pDevice where
  state := state
  preState := .LISTEN
  role := .DEVICE
  intent := 7
  peerIntent := 0
  wpsInfo := true
  commonCh := true
  negotiationDialogToken := 0
  actionPublicRxseq := 0
  actionPublicDialogToken := 0
  mgntSeq := 1

def pair (both : Bool) : GoNego where
  dev
    | .A => device .GONEGO_ING
    | .B => device (if both then .GONEGO_ING else .LISTEN)
  initiator
    | .A => true
    | .B => both

theorem pair_ready (both : Bool) : (pair both).Ready where
  intent d := by cases d <;> exact (by decide : 7 ≤ P2P_MAX_INTENT)
  wpsInfo d := by cases d <;> rfl
  commonCh d := by cases d <;> rfl
  role d := by cases d <;> rfl
  state d := by cases d <;> cases both <;> rfl
  air := rfl
  answered _ := rfl
  took _ := rfl

/-- One request, its response and the confirmation. -/
def oneRequest : List Step := [.request .A, .deliver 0 false false, .deliver 0 false false, .deliver 0 false false]

theorem oneRequest_orderly : (pair false).Orderly oneRequest := by
  refine ⟨fun _ h => h, fun _ ⟨d, f, _, _, ht⟩ => ?_, fun _ ⟨d, f, _, _, ht⟩ => ?_,
    fun _ ⟨d, f, hi, ⟨_, _, status, n, hbody⟩, _⟩ => ?_, trivial⟩
  · cases d <;> exact Bool.false_ne_true ht
  · cases d <;> exact absurd ht (by decide +kernel)
  · -- the last frame is the confirmation
    have hlast : ∀ e ∈ ((pair false).run (oneRequest.take 3)).air, isResp e.2 = false := by decide +kernel
    have hresp := hlast (d, f) (List.mem_of_getElem? hi)
    rw [isResp, hbody] at hresp
    exact Bool.noConfusion hresp

theorem roles_agree_one : (pair false).Ready ∧ (pair false).Orderly oneRequest ∧
    ((pair false).run oneRequest).Concluded ∧ ((pair false).run oneRequest).RolesAgree := by
  have hconcluded : ((pair false).run oneRequest).Concluded := ⟨by decide +kernel, by decide +kernel⟩
  exact ⟨pair_ready _, oneRequest_orderly, hconcluded,
    (roles_agree _ (pair_ready _) _ oneRequest_orderly).1 hconcluded⟩

/-- Both ask, both answer, both take the answer, both confirm. -/
def bothRequest : List Step := [.request .A, .request .B] ++ List.replicate 6 (.deliver 0 false false)

/-- Both own the group. -/
theorem roles_clash : (pair true).Ready ∧ ((pair true).run bothRequest).Concluded ∧
    (∀ d, (((pair true).run bothRequest).dev d).role = .GO) ∧ ¬ ((pair true).run bothRequest).RolesAgree := by
  have hroles : ∀ d, (((pair true).run bothRequest).dev d).role = .GO := by decide +kernel
  refine ⟨pair_ready true, ⟨by decide +kernel, by decide +kernel⟩, hroles, fun ⟨d, _, hclient⟩ => ?_⟩
  exact P2pRole.noConfusion ((hroles d.other).symm.trans hclient)

end GoNego

end Rtl8723au
