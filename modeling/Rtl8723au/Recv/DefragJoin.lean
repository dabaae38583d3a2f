import Rtl8723au.Recv.Defrag

/-! What `recvframe_defrag` joins and where it copies. The queue is the station's: of a fragment that waits
there only the number is looked at, and room is looked for after the copy. -/
namespace Rtl8723au
open Intrusive
set_option autoImplicit false

namespace RecvFrame

/-! ## Two fragments -/

def payloadLen (x : RecvFrame) : ℕ := (x.recvframePull ((x.attrib.hdrlen + x.attrib.ivLen) % 256 : ℕ)).2.len

/-- Fragments of one frame. -/
structure SameFrame (first x : RecvFrame) : Prop where
  seqNum : x.attrib.seqNum = first.attrib.seqNum
  privacy : x.attrib.privacy = first.attrib.privacy

/-- The tail of a first fragment without the ICV, of a tail and the length of the ICV; an ICV that is longer
than the data stays. -/
def dataEnd (first : RecvFrame) (e : ℤ × ℕ) : ℤ := if e.1 - e.2 < first.rxData then e.1 else e.1 - e.2

/-- The tail and the ICV once the payload of `x` is there. -/
def joined (first : RecvFrame) (e : ℤ × ℕ) (x : RecvFrame) : ℤ × ℕ :=
  (first.dataEnd e + x.payloadLen, x.attrib.icvLen)

def ends (f : RecvFrame) : ℤ × ℕ := (f.rxTail, f.attrib.icvLen)

theorem recvframePull_attrib (f : RecvFrame) (sz : ℤ) : (f.recvframePull sz).2.attrib = f.attrib := by
  unfold recvframePull
  split <;> rfl

/-- The first fragment is still in its buffer, with another tail and another ICV. -/
structure Grown (first f : RecvFrame) (e : ℤ × ℕ) : Prop where
  rxData : f.rxData = first.rxData
  rxEnd : f.rxEnd = first.rxEnd
  ends : f.ends = e

theorem Grown.refl (f : RecvFrame) : Grown f f f.ends := ⟨rfl, rfl, rfl⟩

theorem Grown.pullTail {first f : RecvFrame} {e : ℤ × ℕ} (h : Grown first f e) :
    (f.recvframePullTail f.attrib.icvLen).2.rxTail = first.dataEnd e ∧
      (f.recvframePullTail f.attrib.icvLen).2.rxData = first.rxData ∧
      (f.recvframePullTail f.attrib.icvLen).2.rxEnd = first.rxEnd := by
  have htail : f.rxTail = e.1 := congrArg Prod.fst h.ends
  have hicv : f.attrib.icvLen = e.2 := congrArg Prod.snd h.ends
  unfold recvframePullTail dataEnd
  rw [htail, hicv, h.rxData]
  split
  · exact ⟨htail, h.rxData, h.rxEnd⟩
  · exact ⟨rfl, rfl, h.rxEnd⟩

end RecvFrame

namespace RecvPool

/-! ## The copies -/

/-- Where the copy of a turn goes and how long it is. -/
def fragmentCopy (s : RecvPool) (prframe pnextrframe : FrameId) : ℤ × ℕ :=
  let first := s.frames prframe
  ((first.recvframePullTail first.attrib.icvLen).2.rxTail, (s.frames pnextrframe).payloadLen)

/-- The copies of `defragLoop`. -/
def loopCopies (prframe : FrameId) : ℕ → List FrameId → RecvPool → List (ℤ × ℕ)
  | _, [], _ => []
  | curfragnum, pnextrframe :: rest, s =>
    if curfragnum ≠ (s.frames pnextrframe).attrib.fragNum then []
    else s.fragmentCopy prframe pnextrframe ::
      loopCopies prframe ((curfragnum + 1) % 256) rest (s.appendFragment prframe pnextrframe)

/-- The copies of `recvframeDefrag`, and the end of the buffer they go to. -/
def defragCopies (s : RecvPool) (psta : StaId) : List (ℤ × ℕ) × ℤ :=
  match s.queue (.defragQ psta) with
  | [] => ([], 0)
  | prframe :: _ =>
    let s := s.listDelInit prframe
    (if (s.frames prframe).attrib.fragNum ≠ 0 then [] else loopCopies prframe 1 (s.queue (.defragQ psta)) s,
      (s.frames prframe).rxEnd)

theorem appendFragment_queue (s : RecvPool) (prframe x : FrameId) :
    (s.appendFragment prframe x).queue = s.queue := rfl

theorem appendFragment_other (s : RecvPool) (prframe x y : FrameId) (hp : y ≠ prframe) (hx : y ≠ x) :
    (s.appendFragment prframe x).frames y = s.frames y := by
  show Function.update (Function.update s.frames x _) prframe _ y = _
  rw [Function.update_of_ne hp, Function.update_of_ne hx]

theorem appendFragment_grown {s : RecvPool} {prframe x : FrameId} {first : RecvFrame} {e : ℤ × ℕ}
    (h : first.Grown (s.frames prframe) e) (hroom : (first.joined e (s.frames x)).1 ≤ first.rxEnd) :
    first.Grown ((s.appendFragment prframe x).frames prframe) (first.joined e (s.frames x)) := by
  obtain ⟨htail, hdata, hend⟩ := h.pullTail
  have hicv := (s.frames x).recvframePull_attrib (((s.frames x).attrib.hdrlen + (s.frames x).attrib.ivLen) % 256 : ℕ)
  have hframe : (s.appendFragment prframe x).frames prframe = _ := Function.update_self ..
  rw [hframe]
  have hfits : ¬ first.dataEnd e + (s.frames x).payloadLen > first.rxEnd := not_lt.mpr hroom
  unfold RecvFrame.recvframePut
  dsimp only
  rw [htail, hend]
  unfold RecvFrame.payloadLen at hfits
  rw [if_neg hfits]
  refine ⟨hdata, rfl, Prod.ext rfl ?_⟩
  show (RecvFrame.recvframePull _ _).2.attrib.icvLen = _
  rw [hicv]
  rfl

/-! ## What waits -/

/-- The fragments of a list are the `n`-th and those behind it. -/
def Numbered (s : RecvPool) (n : ℕ) (l : List FrameId) : Prop :=
  l.map (fun x => (s.frames x).attrib.fragNum) = List.range' n l.length

theorem numbered_cons {s : RecvPool} {n : ℕ} {x : FrameId} {l : List FrameId} :
    s.Numbered n (x :: l) ↔ (s.frames x).attrib.fragNum = n ∧ s.Numbered (n + 1) l := by
  unfold Numbered
  rw [List.map_cons, List.length_cons, List.range'_succ, List.cons.injEq]

/-- As far as the numbers of the list go on from `n`, its fragments are of the frame `first` is of, and
their payloads fit behind it. -/
def Joinable (s : RecvPool) (first : RecvFrame) : ℕ → ℤ × ℕ → List FrameId → Prop
  | _, _, [] => True
  | n, e, x :: l => (s.frames x).attrib.fragNum = n →
    first.SameFrame (s.frames x) ∧ (first.joined e (s.frames x)).1 ≤ first.rxEnd ∧
      s.Joinable first (n + 1) (first.joined e (s.frames x)) l

section Joinable
variable {s t : RecvPool} {first : RecvFrame} {n : ℕ} {e : ℤ × ℕ} {l : List FrameId}

theorem Numbered.congr (hsame : ∀ x ∈ l, t.frames x = s.frames x) (h : s.Numbered n l) : t.Numbered n l := by
  unfold Numbered at h ⊢
  rw [← h]
  apply List.map_congr_left
  intro x hx
  rw [hsame x hx]

theorem Joinable.congr (hsame : ∀ x ∈ l, t.frames x = s.frames x) (h : s.Joinable first n e l) :
    t.Joinable first n e l := by
  induction l generalizing n e with
  | nil => trivial
  | cons x l ih =>
    intro hx
    have hframe := hsame x List.mem_cons_self
    rw [hframe] at hx ⊢
    obtain ⟨hof, hroom, hrest⟩ := h hx
    exact ⟨hof, hroom, ih (fun y hy => hsame y (List.mem_cons_of_mem _ hy)) hrest⟩

def joinedAll (s : RecvPool) (first : RecvFrame) (e : ℤ × ℕ) (l : List FrameId) : ℤ × ℕ :=
  l.foldl (fun e x => first.joined e (s.frames x)) e

theorem Joinable.append {x : FrameId} (h : s.Joinable first n e l)
    (hx : s.Numbered n l → (s.frames x).attrib.fragNum = n + l.length → first.SameFrame (s.frames x) ∧
      (first.joined (s.joinedAll first e l) (s.frames x)).1 ≤ first.rxEnd) :
    s.Joinable first n e (l ++ [x]) := by
  induction l generalizing n e with
  | nil =>
    intro hn
    obtain ⟨hof, hroom⟩ := hx rfl hn
    exact ⟨hof, hroom, trivial⟩
  | cons y l ih =>
    intro hy
    obtain ⟨hof, hroom, hrest⟩ := h hy
    refine ⟨hof, hroom, ih hrest fun hnum hn => hx (numbered_cons.mpr ⟨hy, hnum⟩) ?_⟩
    rw [hn, List.length_cons]
    omega

/-- The loop: the first fragment has grown to `e`, and `l` is what is left of the queue. -/
theorem defragLoop_joinable {prframe : FrameId} (l : List FrameId) (s : RecvPool) (n : ℕ) (e : ℤ × ℕ)
    (hnodup : (prframe :: l).Nodup) (hn : n + l.length ≤ 256) (hgrown : first.Grown (s.frames prframe) e)
    (h : s.Joinable first n e l) :
    (∀ c ∈ loopCopies prframe n l s, c.1 + c.2 ≤ first.rxEnd) ∧
      ((defragLoop prframe n l s).1 = true → s.Numbered n l ∧ ∀ x ∈ l, first.SameFrame (s.frames x)) := by
  induction l generalizing s n e with
  | nil => exact ⟨fun c hc => absurd hc List.not_mem_nil, fun _ => ⟨rfl, fun x hx => absurd hx List.not_mem_nil⟩⟩
  | cons x l ih =>
    obtain ⟨hp, hx, hl⟩ : (x ≠ prframe ∧ prframe ∉ l) ∧ x ∉ l ∧ l.Nodup := by
      rw [List.nodup_cons, List.nodup_cons, List.mem_cons, not_or] at hnodup
      exact ⟨⟨Ne.symm hnodup.1.1, hnodup.1.2⟩, hnodup.2⟩
    rw [List.length_cons] at hn
    unfold loopCopies defragLoop
    by_cases hcur : n ≠ (s.frames x).attrib.fragNum
    · rw [if_pos hcur, if_pos hcur]
      exact ⟨fun c hc => absurd hc List.not_mem_nil, fun hfalse => absurd hfalse Bool.false_ne_true⟩
    · rw [if_neg hcur, if_neg hcur]
      rw [ne_eq, not_not] at hcur
      obtain ⟨hof, hroom, hrest⟩ := h hcur.symm
      have hsame : ∀ y ∈ l, (s.appendFragment prframe x).frames y = s.frames y := fun y hy =>
        appendFragment_other s prframe x y (fun hy' => hp.2 (hy' ▸ hy)) fun hy' => hx (hy' ▸ hy)
      have hcopy : s.fragmentCopy prframe x = (first.dataEnd e, (s.frames x).payloadLen) :=
        Prod.ext hgrown.pullTail.1 rfl
      cases l with
      | nil =>
        refine ⟨fun c hc => ?_, fun _ => ⟨numbered_cons.mpr ⟨hcur.symm, rfl⟩, fun y hy => ?_⟩⟩
        · rw [List.mem_singleton.mp hc, hcopy]
          exact hroom
        · rw [List.mem_singleton.mp hy]
          exact hof
      | cons y l =>
        have hnext : (n + 1) % 256 = n + 1 := Nat.mod_eq_of_lt (by rw [List.length_cons] at hn; omega)
        rw [hnext]
        obtain ⟨hcopies, htrue⟩ := ih (s.appendFragment prframe x) (n + 1) (first.joined e (s.frames x))
          (List.nodup_cons.mpr ⟨hp.2, hl⟩) (by omega) (appendFragment_grown hgrown hroom)
          (hrest.congr hsame)
        refine ⟨fun c hc => ?_, fun hres => ?_⟩
        · rcases List.mem_cons.mp hc with rfl | hc
          · rw [hcopy]
            exact hroom
          · exact hcopies c hc
        · obtain ⟨hnum, hall⟩ := htrue hres
          refine ⟨numbered_cons.mpr ⟨hcur.symm, hnum.congr fun z hz => (hsame z hz).symm⟩, fun z hz => ?_⟩
          rcases List.mem_cons.mp hz with rfl | hz
          · exact hof
          · rw [← hsame z hz]
            exact hall z hz

end Joinable

/-! ## What a call leaves -/

/-- Nothing but the frames of `l` is touched, and no list but the free one and that of `psta`. -/
structure Kept (psta : StaId) (l : List FrameId) (s t : RecvPool) : Prop where
  once : Once t.queue
  other : ∀ q, q ≠ .freeRecvQueue → q ≠ .defragQ psta → t.queue q = s.queue q
  frames : ∀ x, x ∉ l → t.frames x = s.frames x

section Kept
variable {psta : StaId} {l : List FrameId} {s t u : RecvPool} {f : FrameId}

theorem Kept.trans (h : Kept psta l s t) (h' : Kept psta l t u) : Kept psta l s u :=
  ⟨h'.once, fun q hfree hq => (h'.other q hfree hq).trans (h.other q hfree hq),
    fun x hx => (h'.frames x hx).trans (h.frames x hx)⟩

theorem kept_listDelInit (hs : Once s.queue) (hf : f ∈ s.queue (.defragQ psta)) :
    Kept psta l s (s.listDelInit f) :=
  ⟨hs.delInit f, fun _ _ hq => hs.delInit_other hf hq, fun _ _ => rfl⟩

theorem kept_rtwFreeRecvframe (hs : Once s.queue) (hloose : Loose s.queue f) (hf : f ∈ l) :
    Kept psta l s (s.rtwFreeRecvframe f) where
  once := hs.moveTail .freeRecvQueue f
  other q hfree _ := by
    show moveTail s.queue .freeRecvQueue f q = _
    rw [hloose.moveTail, addTail_of_ne _ _ hfree]
  frames x hx := by
    have hne : x ≠ f := fun h => hx (h ▸ hf)
    exact Function.update_of_ne hne ..

theorem freeLoop_frames (l : List FrameId) (s : RecvPool) (x : FrameId) (hx : x ∉ l) :
    (l.foldl rtwFreeRecvframe s).frames x = s.frames x := by
  induction l generalizing s with
  | nil => rfl
  | cons f l ih =>
    rw [List.mem_cons, not_or] at hx
    rw [List.foldl_cons, ih _ hx.2]
    exact Function.update_of_ne hx.1 ..

theorem freeQueue_drained (hs : Once s.queue) (psta : StaId) : Drained s.queue
    (s.rtwFreeRecvframeQueue (.defragQ psta)).queue .freeRecvQueue [.defragQ psta] := by
  have hqueue : (s.rtwFreeRecvframeQueue (.defragQ psta)).queue = drain s.queue .freeRecvQueue (.defragQ psta) :=
    freeLoop_queue _ _
  rw [hqueue]
  exact hs.drain fun h => by cases h

theorem kept_freeQueue (hs : Once s.queue) (hl : ∀ x ∈ s.queue (.defragQ psta), x ∈ l) :
    Kept psta l s (s.rtwFreeRecvframeQueue (.defragQ psta)) where
  once := (freeQueue_drained hs psta).once
  other q hfree hq := (freeQueue_drained hs psta).other q hfree fun h => hq (List.mem_singleton.mp h)
  frames x hx := freeLoop_frames _ _ x fun h => hx (hl x h)

theorem freeQueue_empty (hs : Once s.queue) (psta : StaId) :
    (s.rtwFreeRecvframeQueue (.defragQ psta)).queue (.defragQ psta) = [] :=
  (freeQueue_drained hs psta).empty _ (List.mem_singleton.mpr rfl)

theorem defragLoop_queue (prframe : FrameId) (n : ℕ) (l : List FrameId) (s : RecvPool) :
    (defragLoop prframe n l s).2.queue = s.queue := by
  induction l generalizing n s with
  | nil => rfl
  | cons x l ih =>
    unfold defragLoop
    split
    · rfl
    · rw [ih, appendFragment_queue]

theorem defragLoop_frames (prframe : FrameId) (n : ℕ) (l : List FrameId) (s : RecvPool) (x : FrameId)
    (hp : x ≠ prframe) (hx : x ∉ l) : (defragLoop prframe n l s).2.frames x = s.frames x := by
  induction l generalizing n s with
  | nil => rfl
  | cons y l ih =>
    rw [List.mem_cons, not_or] at hx
    unfold defragLoop
    split
    · rfl
    · rw [ih _ _ hx.2, appendFragment_other s prframe y x hp hx.1]

/-- `recvframeDefrag` empties the queue it looks at; a frame it returns is out of all lists. -/
theorem recvframeDefrag_kept (hs : Once s.queue) (psta : StaId) :
    Kept psta (s.queue (.defragQ psta)) s (s.recvframeDefrag psta).2 ∧
      (s.recvframeDefrag psta).2.queue (.defragQ psta) = [] ∧
      ∀ g, (s.recvframeDefrag psta).1 = some g →
        Loose (s.recvframeDefrag psta).2.queue g ∧ g ∈ s.queue (.defragQ psta) := by
  cases hq : s.queue (.defragQ psta) with
  | nil =>
    unfold recvframeDefrag
    rw [hq]
    exact ⟨⟨hs, fun _ _ _ => rfl, fun _ _ => rfl⟩, hq, fun g hg => absurd hg.symm (Option.some_ne_none g)⟩
  | cons prframe rest =>
    have hmem : prframe ∈ s.queue (.defragQ psta) := hq ▸ List.mem_cons_self
    have hdel : Kept psta (prframe :: rest) s (s.listDelInit prframe) := kept_listDelInit hs hmem
    have hrest : (s.listDelInit prframe).queue (.defragQ psta) = rest := delInit_head hq
    -- every way out frees the queue; all but the last free the first fragment before
    have hfreed : ∀ t, Kept psta (prframe :: rest) s t → t.queue = (s.listDelInit prframe).queue →
        Kept psta (prframe :: rest) s ((t.rtwFreeRecvframe prframe).rtwFreeRecvframeQueue (.defragQ psta)) ∧
          ((t.rtwFreeRecvframe prframe).rtwFreeRecvframeQueue (.defragQ psta)).queue (.defragQ psta) = [] := by
      intro t ht hqueue
      have hloose : Loose t.queue prframe := hqueue ▸ hs.loose_delInit prframe
      have hone : Kept psta (prframe :: rest) t (t.rtwFreeRecvframe prframe) :=
        kept_rtwFreeRecvframe ht.once hloose List.mem_cons_self
      have hleft : (t.rtwFreeRecvframe prframe).queue (.defragQ psta) = rest := by
        show moveTail t.queue .freeRecvQueue prframe (.defragQ psta) = rest
        rw [hloose.moveTail, addTail_of_ne _ _ (fun h => by cases h), hqueue, hrest]
      refine ⟨(ht.trans hone).trans (kept_freeQueue hone.once ?_), freeQueue_empty hone.once psta⟩
      intro x hx
      rw [hleft] at hx
      exact List.mem_cons_of_mem _ hx
    unfold recvframeDefrag
    rw [hq]
    dsimp only
    rw [hrest]
    by_cases hfirst : ((s.listDelInit prframe).frames prframe).attrib.fragNum ≠ 0
    · rw [if_pos hfirst]
      have hall := hfreed _ hdel rfl
      exact ⟨hall.1, hall.2, fun g hg => absurd hg.symm (Option.some_ne_none g)⟩
    · rw [if_neg hfirst]
      have hqueue := defragLoop_queue prframe 1 rest (s.listDelInit prframe)
      have hloop : Kept psta (prframe :: rest) s (defragLoop prframe 1 rest (s.listDelInit prframe)).2 := by
        refine hdel.trans ⟨hqueue.symm ▸ hdel.once, fun q _ _ => congrFun hqueue q, fun x hx => ?_⟩
        rw [List.mem_cons, not_or] at hx
        exact defragLoop_frames prframe 1 rest _ x hx.1 hx.2
      generalize hresult : defragLoop prframe 1 rest (s.listDelInit prframe) = result at hqueue hloop
      obtain ⟨joined, t⟩ := result
      cases joined with
      | false =>
        have hall := hfreed t hloop hqueue
        exact ⟨hall.1, hall.2, fun g hg => absurd hg.symm (Option.some_ne_none g)⟩
      | true =>
        have hleft : t.queue (.defragQ psta) = rest := (congrFun hqueue _).trans hrest
        have hdrained := freeQueue_drained hloop.once psta
        refine ⟨hloop.trans (kept_freeQueue hloop.once fun x hx => ?_), freeQueue_empty hloop.once psta, ?_⟩
        · rw [hleft] at hx
          exact List.mem_cons_of_mem _ hx
        · intro g hg
          cases hg
          refine ⟨fun q hin => ?_, List.mem_cons_self⟩
          have hloose : Loose t.queue prframe := by
            have hout := hs.loose_delInit prframe
            exact fun q => (congrFun hqueue q).symm ▸ hout q
          by_cases hfree : q = .freeRecvQueue
          · subst hfree
            rw [hdrained.target, List.flatMap_singleton, List.mem_append] at hin
            rcases hin with hin | hin <;> exact hloose _ hin
          · by_cases hdefrag : q = .defragQ psta
            · subst hdefrag
              rw [freeQueue_empty hloop.once psta] at hin
              exact absurd hin List.not_mem_nil
            · rw [hdrained.other q hfree fun h => hdefrag (List.mem_singleton.mp h)] at hin
              exact hloose q hin

end Kept

/-- What `recvframeDefrag` joins, and where it copies to, when the queue is joinable. -/
theorem recvframeDefrag_joined {s : RecvPool} {psta : StaId} {first : FrameId} {rest : List FrameId}
    (hs : Once s.queue) (hq : s.queue (.defragQ psta) = first :: rest)
    (hjoin : (s.frames first).attrib.fragNum = 0 → s.Joinable (s.frames first) 1 (s.frames first).ends rest) :
    (∀ c ∈ (s.defragCopies psta).1, c.1 + c.2 ≤ (s.defragCopies psta).2) ∧
      ∀ g, (s.recvframeDefrag psta).1 = some g → g = first ∧ s.Numbered 0 (first :: rest) ∧
        ∀ x ∈ rest, (s.frames first).SameFrame (s.frames x) := by
  have hrest : (s.listDelInit first).queue (.defragQ psta) = rest := delInit_head hq
  have hnodup : (first :: rest).Nodup := hq ▸ hs.nodup _
  have hlen : 1 + rest.length ≤ 256 := by
    have hcard := hnodup.length_le_card
    rw [Fintype.card_fin, List.length_cons] at hcard
    omega
  unfold defragCopies recvframeDefrag
  rw [hq]
  dsimp only
  rw [hrest]
  by_cases hfirst : ((s.listDelInit first).frames first).attrib.fragNum ≠ 0
  · rw [if_pos hfirst, if_pos hfirst]
    exact ⟨fun c hc => absurd hc List.not_mem_nil, fun g hg => absurd hg.symm (Option.some_ne_none g)⟩
  · rw [if_neg hfirst, if_neg hfirst]
    have hzero : (s.frames first).attrib.fragNum = 0 := not_not.mp hfirst
    have hdel : (s.listDelInit first).Joinable (s.frames first) 1 (s.frames first).ends rest :=
      Joinable.congr (s := s) (fun _ _ => rfl) (hjoin hzero)
    obtain ⟨hcopies, htrue⟩ := defragLoop_joinable rest (s.listDelInit first) 1 _ hnodup hlen (.refl _) hdel
    refine ⟨hcopies, ?_⟩
    generalize defragLoop first 1 rest (s.listDelInit first) = result at htrue
    obtain ⟨joined, t⟩ := result
    cases joined with
    | false => exact fun g hg => absurd hg.symm (Option.some_ne_none g)
    | true =>
      intro g hg
      cases hg
      obtain ⟨hnum, hall⟩ := htrue rfl
      exact ⟨rfl, numbered_cons.mpr ⟨hzero, hnum⟩, hall⟩

end RecvPool

end Rtl8723au
