import Mathlib.Logic.Relation
import Rtl8723au.Recv.Amsdu

/-! What `amsdu_to_msdu` does with a body of any bytes: which of them it touches, and what becomes of the buffers that it
allocates and of the received frame. -/
namespace Rtl8723au.Amsdu
open Mem AccessM Regions Security Relation Intrusive
set_option autoImplicit false

def InBody (len : ℕ) : Touch SkbMem → Prop
  | .byte .body x => 0 ≤ x ∧ x < len
  | _ => True

/-- The numbers of the `sub_skb`s that are handed over, and how often the received frame is freed. -/
def handed (calls : List Call) : List ℕ := calls.filterMap fun
  | .netifRx i _ => some i
  | .freeRecvframe => none

def frees (calls : List Call) : ℕ := calls.countP fun
  | .netifRx _ _ => false
  | .freeRecvframe => true

/-- Nothing is touched outside of the body, the loop ends, every `sub_skb` is handed over just once, and the received frame
is freed just once and is then once in the free queue. -/
structure Sound (prframe : FrameId) (len : ℕ)
    (r : Outcome (Touch SkbMem) (Regions SkbMem) (Parsed × List Call) × RecvPool) : Prop where
  touches : ∀ t ∈ r.1.log, InBody len t
  ends : r.1.val.1.leave ≠ .fuel
  handed : ∀ i < r.1.val.1.subframes.length, (handed r.1.val.2).count i = 1
  freed : frees r.1.val.2 = 1
  inQueue : (r.2.queue .freeRecvQueue).count prframe = 1

/-! ## How a body is cut -/

/-- Where a pass begins: the number of its subframe, its place in the body, and how much of the body is left. -/
structure Cut where
  i : ℕ
  p : ℤ
  left : ℤ

namespace Cut
variable (body : Mem)

def length (c : Cut) : ℕ := be16At body (c.p + 12)

/-- A subframe begins here, and it fits in what is left of the body. -/
def Fits (c : Cut) : Prop := ETH_HLEN < c.left ∧ ETH_HLEN + c.length body ≤ c.left

/-- It is the end of the body, or its padding fits too. -/
def padding (c : Cut) : ℕ := if c.left = ETH_HLEN + c.length body then 0 else paddingLen (c.length body)

def Padded (c : Cut) : Prop := ETH_HLEN + c.length body + c.padding body ≤ c.left

instance (c : Cut) : Decidable (c.Fits body) := inferInstanceAs (Decidable (_ ∧ _))

instance (c : Cut) : Decidable (c.Padded body) := inferInstanceAs (Decidable (_ ≤ _))

variable (alloc : ℕ → SkbAlloc)

/-- The pass goes on, and where the next begins. -/
def next (c : Cut) : Option Cut :=
  if c.Fits body ∧ alloc c.i ≠ .failed ∧ c.i + 1 < MAX_SUBFRAME_COUNT ∧ c.Padded body then
    some ⟨c.i + 1, c.p + ETH_HLEN + c.length body + c.padding body, c.left - ETH_HLEN - c.length body - c.padding body⟩
  else none

def Reaches (c c' : Cut) : Prop := ReflTransGen (fun c c' => c.next body alloc = some c') c c'

/-- The pass gives up when there are subframes already: a subframe that begins here does not fit, or its padding does not. -/
def GivesUp (c : Cut) : Prop :=
  ETH_HLEN < c.left ∧ c.i ≠ 0 ∧ ¬c.Fits body ∨
    c.Fits body ∧ alloc c.i ≠ .failed ∧ c.i + 1 < MAX_SUBFRAME_COUNT ∧ ¬c.Padded body

/-- The type of a clone is looked for behind the end of the body. -/
def LooksBehind (len : ℕ) (c : Cut) : Prop :=
  c.Fits body ∧ alloc c.i = .cloned ∧ len < c.p + ETH_HLEN + 8

variable {body alloc} {c c' d : Cut}

theorem reaches_iff : c.Reaches body alloc c' ↔ c' = c ∨ ∃ d, c.next body alloc = some d ∧ d.Reaches body alloc c' := by
  rw [Reaches, ReflTransGen.cases_head_iff]
  exact or_congr eq_comm Iff.rfl

theorem reaches_last (h : c.next body alloc = none) : c.Reaches body alloc c' ↔ c' = c := by
  rw [reaches_iff, h]
  simp

theorem reaches_next (h : c.next body alloc = some d) :
    c.Reaches body alloc c' ↔ c' = c ∨ d.Reaches body alloc c' := by
  rw [reaches_iff, h]
  simp

end Cut

/-! ## The parse loop -/

section
variable {alloc : ℕ → SkbAlloc} {s : Regions SkbMem} {fuel len : ℕ} {skbs : List SubSkb} {c : Cut}

theorem inside_load_body {r : SkbMem} {x : ℤ} {n : ℕ} (h : r = .body → 0 ≤ x ∧ x + n ≤ len) :
    Inside (InBody len) (load r x n) s := by
  refine (inside_load_iff _ _ _ _ _).mpr fun k hk => ?_
  cases r with
  | skb i => trivial
  | body =>
    obtain ⟨hlow, hhigh⟩ := h rfl
    show 0 ≤ x + (k : ℤ) ∧ x + (k : ℤ) < len
    omega

theorem inside_store_body {r : SkbMem} {x : ℤ} {l : List UInt8} (h : r = .body → 0 ≤ x ∧ x + l.length ≤ len) :
    Inside (InBody len) (store r x l) s := by
  refine (inside_store_iff _ _ _ _ _).mpr fun k hk => ?_
  cases r with
  | skb i => trivial
  | body =>
    obtain ⟨hlow, hhigh⟩ := h rfl
    show 0 ≤ x + (k : ℤ) ∧ x + (k : ℤ) < len
    omega

theorem inside_getBe16 {r : SkbMem} {x : ℤ} :
    Inside (InBody len) (getBe16 r x) s ↔ (r = .body → 0 ≤ x ∧ x + 2 ≤ len) := by
  rw [getBe16, inside_map]
  constructor
  · rintro h rfl
    have hall := (inside_load_iff _ _ _ _ _).mp h
    have h0 : 0 ≤ x + 0 ∧ x + 0 < len := hall 0 (by decide)
    have h1 : 0 ≤ x + 1 ∧ x + 1 < len := hall 1 (by decide)
    omega
  · exact inside_load_body

theorem inside_newSubSkb (a : SkbAlloc) (i : ℕ) {p : ℤ} {n : ℕ} (hp : 0 ≤ p) (hend : p + n ≤ len) :
    Inside (InBody len) (newSubSkb a i p n) s := by
  cases a with
  | failed => exact inside_pure _ _ _
  | cloned => exact inside_pure _ _ _
  | copied =>
    refine (inside_bind _ _ _ _).mpr ⟨(inside_bind _ _ _ _).mpr ⟨?_, ?_⟩, inside_pure _ _ _⟩
    · exact inside_load_body fun _ => ⟨hp, hend⟩
    · exact inside_store_body fun h => by cases h

/-- What the loop leaves, when it begins at a cut with the subframes of those before. -/
structure Cutting (alloc : ℕ → SkbAlloc) (body : Mem) (len : ℕ) (c : Cut) (skbs : List SubSkb)
    (r : Outcome (Touch SkbMem) (Regions SkbMem) Parsed) : Prop where
  ends : r.val.leave ≠ .fuel
  kept : r.st .body = body
  touches : ∀ t ∈ r.log, InBody len t
  givesUp : (r.val.leave = .exit → r.val.subframes = []) ↔ ∀ c', c.Reaches body alloc c' → ¬c'.GivesUp body alloc
  clones : ∃ built, r.val.subframes = skbs ++ built ∧
    (∀ skb ∈ built, skb.mem = .body → ETH_HLEN ≤ skb.data ∧ skb.data + skb.len ≤ len) ∧
      ((∀ skb ∈ built, skb.mem = .body → skb.data + 8 ≤ len) ↔
        ∀ c', c.Reaches body alloc c' → ¬c'.LooksBehind body alloc len)

namespace Cutting
variable {body : Mem} {d : Cut} {skb : SubSkb} {st : Regions SkbMem} {log : List (Touch SkbMem)}

theorem last (leave : Leave) (hnext : c.next body alloc = none) (hends : leave ≠ .fuel) (hbody : st .body = body)
    (hlog : ∀ t ∈ log, InBody len t) (hgives : (leave = .exit → skbs = []) ↔ ¬c.GivesUp body alloc)
    (hlooks : ¬c.LooksBehind body alloc len) : Cutting alloc body len c skbs ⟨⟨leave, skbs⟩, st, log⟩ := by
  refine ⟨hends, hbody, hlog, ?_, [], (List.append_nil skbs).symm, fun _ h => absurd h List.not_mem_nil, ?_⟩
  · simp only [Cut.reaches_last hnext, forall_eq]
    exact hgives
  · simp only [Cut.reaches_last hnext, forall_eq]
    exact ⟨fun _ => hlooks, fun _ _ h => absurd h List.not_mem_nil⟩

theorem lastBuilt (leave : Leave) (hnext : c.next body alloc = none) (hends : leave ≠ .fuel) (hbody : st .body = body)
    (hlog : ∀ t ∈ log, InBody len t) (hgives : leave ≠ .exit ↔ ¬c.GivesUp body alloc)
    (hclone : skb.mem = .body → ETH_HLEN ≤ skb.data ∧ skb.data + skb.len ≤ len)
    (hlooks : (skb.mem = .body → skb.data + 8 ≤ len) ↔ ¬c.LooksBehind body alloc len) :
    Cutting alloc body len c skbs ⟨⟨leave, skbs ++ [skb]⟩, st, log⟩ := by
  have hsome : skbs ++ [skb] ≠ [] := List.append_ne_nil_of_right_ne_nil skbs (List.cons_ne_nil skb [])
  refine ⟨hends, hbody, hlog, ?_, [skb], rfl, ?_, ?_⟩
  · simp only [Cut.reaches_last hnext, forall_eq]
    exact ⟨fun h => hgives.mp fun hexit => hsome (h hexit), fun h hexit => absurd hexit (hgives.mpr h)⟩
  · simp only [List.mem_singleton, forall_eq]
    exact hclone
  · simp only [Cut.reaches_last hnext, forall_eq, List.mem_singleton]
    exact hlooks

theorem step {r : Outcome (Touch SkbMem) (Regions SkbMem) Parsed} (hnext : c.next body alloc = some d)
    (hrest : Cutting alloc body len d (skbs ++ [skb]) r) (hlog : ∀ t ∈ log, InBody len t) (hgives : ¬c.GivesUp body alloc)
    (hclone : skb.mem = .body → ETH_HLEN ≤ skb.data ∧ skb.data + skb.len ≤ len)
    (hlooks : (skb.mem = .body → skb.data + 8 ≤ len) ↔ ¬c.LooksBehind body alloc len) :
    Cutting alloc body len c skbs ⟨r.val, r.st, log⟩ := by
  obtain ⟨built, hbuilt, hclones, hall⟩ := hrest.clones
  have hreach (Q : Cut → Prop) : (∀ c', c.Reaches body alloc c' → Q c') ↔ Q c ∧ ∀ c', d.Reaches body alloc c' → Q c' := by
    simp only [Cut.reaches_next hnext, forall_eq_or_imp]
  refine ⟨hrest.ends, hrest.kept, hlog, ?_, skb :: built, ?_, ?_, ?_⟩
  · rw [hreach, and_iff_right hgives]
    exact hrest.givesUp
  · rw [hbuilt, List.append_assoc]
    rfl
  · exact List.forall_mem_cons.mpr ⟨hclone, hclones⟩
  · rw [hreach, List.forall_mem_cons]
    exact and_congr hlooks hall

end Cutting

/-- The `sub_skb` that is allocated is a clone or has a buffer of its own. -/
theorem newSubSkb_some {a : SkbAlloc} (ha : a ≠ .failed) (i : ℕ) (p : ℤ) (n : ℕ) :
    ∃ skb, ((newSubSkb a i p n).run s).val = some skb ∧ ((newSubSkb a i p n).run s).st .body = s .body ∧ skb.len = n ∧
      (skb.mem = .body ↔ a = .cloned) ∧ (skb.mem = .body → skb.data = p) := by
  cases a with
  | failed => exact absurd rfl ha
  | cloned => exact ⟨_, rfl, rfl, rfl, by simp, fun _ => rfl⟩
  | copied =>
    have hbody : SkbMem.body ≠ .skb i := by simp
    refine ⟨_, rfl, ?_, rfl, by simp, fun h => absurd h.symm hbody⟩
    show Function.update s (.skb i) (putBytes (s (.skb i)) 12 (bytesAt (s .body) p n)) .body = _
    exact Function.update_of_ne hbody _ _

/-- The loop cuts the body as it says itself. By induction on the passes that are allowed. -/
theorem parse_cutting (hfuel : skbs.length + fuel = MAX_SUBFRAME_COUNT) (hroom : skbs.length < MAX_SUBFRAME_COUNT)
    (hi : c.i = skbs.length) (hp : 0 ≤ c.p) (hend : c.p + c.left ≤ len) :
    Cutting alloc (s .body) len c skbs ((parse alloc fuel c.left c.p skbs).run s) := by
  induction fuel generalizing s skbs c with
  | zero => omega
  | succ fuel ih =>
    by_cases hlong : ETH_HLEN < c.left
    · have hlong14 : 14 < c.left := hlong
      have hheader : ∀ t ∈ ((getBe16 .body (c.p + 12)).run s).log, InBody len t :=
        inside_getBe16.mpr fun _ => ⟨by omega, by omega⟩
      by_cases hfits : ETH_HLEN + c.length (s .body) ≤ c.left
      · have hfits14 : 14 + (c.length (s .body) : ℤ) ≤ c.left := hfits
        have hn : be16At (s .body) (c.p + 12) = c.length (s .body) := rfl
        have hrun := parse_pass alloc fuel skbs hlong hn hfits
        have hnew := inside_newSubSkb (s := s) (alloc skbs.length) skbs.length
          (show 0 ≤ c.p + (14 : ℕ) by omega) (show c.p + (14 : ℕ) + c.length (s .body) ≤ len by push_cast; omega)
        have hfit : c.Fits (s .body) := ⟨hlong, hfits⟩
        by_cases halloc : alloc skbs.length = .failed
        · rw [halloc] at hrun hnew
          rw [hrun]
          refine .last .finished ?_ (by decide) rfl ?_ ?_ ?_
          · exact if_neg fun h => h.2.1 (hi ▸ halloc)
          · exact List.forall_mem_append.mpr ⟨hheader, List.forall_mem_append.mpr ⟨hnew, fun _ h => absurd h List.not_mem_nil⟩⟩
          · exact ⟨fun _ hgives => hgives.elim (fun h => h.2.2 hfit) fun h => h.2.1 (hi ▸ halloc), fun _ h => by cases h⟩
          · rintro ⟨-, hcloned, -⟩
            rw [hi, halloc] at hcloned
            cases hcloned
        · obtain ⟨skb, hskb, hbody, hlen, hmem, hdata⟩ :=
            newSubSkb_some (s := s) halloc skbs.length (c.p + ETH_HLEN) (c.length (s .body))
          have hclone (h : skb.mem = .body) : ETH_HLEN ≤ skb.data ∧ skb.data + skb.len ≤ len := by
            rw [hdata h, hlen]
            show ((14 : ℕ) : ℤ) ≤ c.p + (14 : ℕ) ∧ c.p + (14 : ℕ) + _ ≤ _
            constructor <;> push_cast <;> omega
          have hlooks : (skb.mem = .body → skb.data + 8 ≤ len) ↔ ¬c.LooksBehind (s .body) alloc len := by
            constructor
            · rintro h ⟨-, hcloned, hbehind⟩
              have hbody := hmem.mpr (hi ▸ hcloned)
              have hinside := h hbody
              rw [hdata hbody] at hinside
              omega
            · intro h hbody
              rw [hdata hbody]
              exact le_of_not_gt fun hbehind => h ⟨hfit, hi ▸ hmem.mp hbody, hbehind⟩
          have hlogs {log : List (Touch SkbMem)} (h : ∀ t ∈ log, InBody len t) :
              ∀ t ∈ ((getBe16 .body (c.p + 12)).run s).log ++
                (((newSubSkb (alloc skbs.length) skbs.length (c.p + ETH_HLEN) (c.length (s .body))).run s).log ++ log),
                InBody len t :=
            List.forall_mem_append.mpr ⟨hheader, List.forall_mem_append.mpr ⟨hnew, h⟩⟩
          have hcount : (skbs ++ [skb]).length = skbs.length + 1 := by rw [List.length_append, List.length_singleton]
          dsimp only at hrun
          rw [hskb, afterAlloc] at hrun
          rw [hrun]
          by_cases hfull : (skbs ++ [skb]).length ≥ MAX_SUBFRAME_COUNT
          · rw [passPadding, if_pos hfull]
            refine .lastBuilt .finished ?_ (by decide) hbody (hlogs fun _ h => absurd h List.not_mem_nil) ?_ hclone hlooks
            · exact if_neg fun h => by omega
            · exact ⟨fun _ hgives => hgives.elim (fun h => h.2.2 hfit) fun h => by omega, fun _ h => by cases h⟩
          rw [passPadding, if_neg hfull]
          have hmore : c.i + 1 < MAX_SUBFRAME_COUNT := by omega
          -- the rest of the loop, when the padding fits
          have hstep (hpadded : c.Padded (s .body)) : Cutting alloc (s .body) len c skbs
              (let t := ((newSubSkb (alloc skbs.length) skbs.length (c.p + ETH_HLEN) (c.length (s .body))).run s).st
              let rest := (parse alloc fuel (c.left - ETH_HLEN - c.length (s .body) - c.padding (s .body))
                (c.p + ETH_HLEN + c.length (s .body) + c.padding (s .body)) (skbs ++ [skb])).run t
              ⟨rest.val, rest.st, ((getBe16 .body (c.p + 12)).run s).log ++
                (((newSubSkb (alloc skbs.length) skbs.length (c.p + ETH_HLEN) (c.length (s .body))).run s).log ++
                  rest.log)⟩) := by
            have hnext : c.next (s .body) alloc = some ⟨c.i + 1, c.p + ETH_HLEN + c.length (s .body) + c.padding (s .body),
                c.left - ETH_HLEN - c.length (s .body) - c.padding (s .body)⟩ :=
              if_pos ⟨hfit, hi ▸ halloc, hmore, hpadded⟩
            have hrest : Cutting alloc _ len ⟨c.i + 1, c.p + ETH_HLEN + c.length (s .body) + c.padding (s .body),
                c.left - ETH_HLEN - c.length (s .body) - c.padding (s .body)⟩ (skbs ++ [skb]) _ :=
              ih (s := ((newSubSkb (alloc skbs.length) skbs.length (c.p + ETH_HLEN) (c.length (s .body))).run s).st)
                (by omega) (by omega) (by rw [hi, hcount]) (by dsimp only; omega) (by dsimp only; omega)
            rw [hbody] at hrest
            refine .step hnext hrest (hlogs hrest.touches) ?_ hclone hlooks
            exact fun hgives => hgives.elim (fun h => h.2.2 hfit) fun h => h.2.2.2 hpadded
          by_cases hzero : c.left - ETH_HLEN - c.length (s .body) = 0
          · have hnone : c.padding (s .body) = 0 := if_pos (by omega)
            have hrest := hstep (by rw [Cut.Padded, hnone]; omega)
            rw [hnone, Nat.cast_zero, sub_zero, add_zero] at hrest
            rw [if_pos hzero]
            exact hrest
          have hsome : c.padding (s .body) = paddingLen (c.length (s .body)) := if_neg (by omega)
          rw [if_neg hzero]
          by_cases hpadding : c.left - ETH_HLEN - c.length (s .body) < paddingLen (c.length (s .body))
          · have hno : ¬c.Padded (s .body) := by
              rw [Cut.Padded, hsome]
              omega
            rw [if_pos hpadding]
            refine .lastBuilt .exit ?_ (by decide) hbody (hlogs fun _ h => absurd h List.not_mem_nil) ?_ hclone hlooks
            · exact if_neg fun h => hno h.2.2.2
            · exact ⟨fun h => absurd rfl h, fun h => absurd (.inr ⟨hfit, hi ▸ halloc, hmore, hno⟩) h⟩
          · rw [if_neg hpadding]
            have hrest := hstep (by rw [Cut.Padded, hsome]; omega)
            rw [hsome] at hrest
            exact hrest
      · rw [parse_exit hlong (lt_of_not_ge hfits)]
        refine .last .exit ?_ (by decide) rfl hheader ?_ ?_
        · exact if_neg fun h => hfits h.1.2
        · constructor
          · rintro hnone (⟨-, hsome, -⟩ | hgives)
            · exact hsome (by rw [hi, hnone rfl, List.length_nil])
            · exact hfits hgives.1.2
          · intro hgives _
            by_contra hsome
            refine hgives (.inl ⟨hlong, ?_, fun h => hfits h.2⟩)
            rw [hi]
            exact fun h => hsome (List.length_eq_zero_iff.mp h)
        · exact fun h => hfits h.1.2
    · rw [parse_end (not_lt.mp hlong)]
      refine .last .finished ?_ (by decide) rfl (fun _ h => absurd h List.not_mem_nil) ?_ ?_
      · exact if_neg fun h => hlong h.1.1
      · exact ⟨fun _ hgives => hgives.elim (fun h => hlong h.1) fun h => hlong h.1.1, fun _ h => by cases h⟩
      · exact fun h => hlong h.1.1

theorem parse_whole (s : Regions SkbMem) (fuel : ℕ) (hfuel : fuel = MAX_SUBFRAME_COUNT) {left : ℤ} (hleft : left ≤ len) :
    Cutting alloc (s .body) len ⟨0, 0, left⟩ [] ((parse alloc fuel left 0 []).run s) :=
  parse_cutting (c := ⟨0, 0, left⟩) ((Nat.zero_add fuel).trans hfuel) (Nat.succ_pos 63) rfl le_rfl
    (by rw [zero_add]; exact hleft)

/-! ## The loop over the subframes -/

theorem inside_readSnap {skb : SubSkb} (ethType : ℕ) (h : skb.mem = .body → 0 ≤ skb.data ∧ skb.data + skb.len ≤ len) :
    Inside (InBody len) (readSnap skb ethType) s := by
  unfold readSnap
  split
  · rename_i hlong
    have hload (t : Regions SkbMem) : Inside (InBody len) (load skb.mem skb.data SNAP_SIZE) t :=
      inside_load_body fun hbody => by
        obtain ⟨hlow, hhigh⟩ := h hbody
        show 0 ≤ skb.data ∧ skb.data + (6 : ℕ) ≤ len
        push_cast
        omega
    refine (inside_bind _ _ _ _).mpr ⟨hload s, ?_⟩
    split
    · exact inside_pure _ _ _
    · exact (inside_bind _ _ _ _).mpr ⟨hload _, inside_pure _ _ _⟩
  · exact inside_pure _ _ _

theorem inside_toEthernet (a : RxPktAttrib) {skb : SubSkb}
    (h : skb.mem = .body → ETH_HLEN ≤ skb.data ∧ skb.data + skb.len ≤ len) :
    Inside (InBody len) (toEthernet a skb) s ↔ (skb.mem = .body → skb.data + 8 ≤ len) := by
  have hdst : a.dst.toList.length = 6 := by simp
  have hsrc : a.src.toList.length = 6 := by simp
  have h : skb.mem = .body → 14 ≤ skb.data ∧ skb.data + skb.len ≤ len := h
  unfold toEthernet
  rw [inside_bind, inside_getBe16]
  constructor
  · rintro ⟨htype, -⟩ hbody
    have hinside := htype hbody
    omega
  · intro hinside
    refine ⟨fun hbody => ?_, (inside_bind _ _ _ _).mpr ⟨inside_readSnap _ fun hbody => ?_, ?_⟩⟩
    · have h := h hbody
      have hinside := hinside hbody
      omega
    · have h := h hbody
      omega
    · have hstore (x : ℤ) (l : List UInt8) (t : Regions SkbMem)
          (hx : skb.data - 14 ≤ x ∧ x + l.length ≤ skb.data + 6) : Inside (InBody len) (store skb.mem x l) t :=
        inside_store_body fun hbody => by
          have h := h hbody
          have hinside := hinside hbody
          omega
      split
      · refine (inside_bind _ _ _ _).mpr ⟨hstore _ _ _ ?_, (inside_bind _ _ _ _).mpr ⟨hstore _ _ _ ?_, inside_pure _ _ _⟩⟩
        · rw [hsrc]
          show _ ≤ skb.data + (6 : ℕ) - (6 : ℕ) ∧ skb.data + (6 : ℕ) - (6 : ℕ) + _ ≤ _
          push_cast
          omega
        · rw [hdst]
          show _ ≤ skb.data + (6 : ℕ) - (6 : ℕ) - (6 : ℕ) ∧ skb.data + (6 : ℕ) - (6 : ℕ) - (6 : ℕ) + _ ≤ _
          push_cast
          omega
      · refine (inside_bind _ _ _ _).mpr ⟨hstore _ _ _ ?_, (inside_bind _ _ _ _).mpr ⟨hstore _ _ _ ?_,
          (inside_bind _ _ _ _).mpr ⟨hstore _ _ _ ?_, inside_pure _ _ _⟩⟩⟩
        · show _ ≤ skb.data - 2 ∧ skb.data - 2 + ((2 : ℕ) : ℤ) ≤ _
          push_cast
          omega
        · rw [hsrc]
          show _ ≤ skb.data - 2 - (6 : ℕ) ∧ skb.data - 2 - (6 : ℕ) + _ ≤ _
          push_cast
          omega
        · rw [hdst]
          show _ ≤ skb.data - 2 - (6 : ℕ) - (6 : ℕ) ∧ skb.data - 2 - (6 : ℕ) - (6 : ℕ) + _ ≤ _
          push_cast
          omega

theorem inside_indicate (a : RxPktAttrib) (i : ℕ)
    (h : ∀ skb ∈ skbs, skb.mem = .body → ETH_HLEN ≤ skb.data ∧ skb.data + skb.len ≤ len) :
    Inside (InBody len) (indicate a i skbs) s ↔ ∀ skb ∈ skbs, skb.mem = .body → skb.data + 8 ≤ len := by
  induction skbs generalizing s i with
  | nil => exact ⟨fun _ _ h => absurd h List.not_mem_nil, fun _ => inside_pure _ _ _⟩
  | cons skb skbs ih =>
    obtain ⟨hfirst, hrest⟩ := List.forall_mem_cons.mp h
    rw [indicate, inside_bind, inside_toEthernet a hfirst, inside_bind, inside_bind, List.forall_mem_cons]
    refine and_congr_right fun _ => ?_
    rw [ih (i + 1) hrest]
    exact ⟨fun h => h.2.1, fun h => ⟨inside_get _ _, h, inside_pure _ _ _⟩⟩

/-- Each `sub_skb` is handed over in its turn, and the received frame is not freed yet. -/
theorem indicate_calls (a : RxPktAttrib) (i : ℕ) :
    handed ((indicate a i skbs).run s).val = List.range' i skbs.length ∧ frees ((indicate a i skbs).run s).val = 0 := by
  induction skbs generalizing s i with
  | nil => exact ⟨rfl, rfl⟩
  | cons skb skbs ih =>
    rw [indicate, bind_val, bind_val, bind_val, pure_val, List.length_cons, List.range'_succ]
    obtain ⟨hhanded, hfrees⟩ := ih (s := ((toEthernet a skb).run s).st) (i + 1)
    exact ⟨congrArg (i :: ·) hhanded, hfrees⟩

end

/-! ## What becomes of the buffers -/

theorem handed_append (calls calls' : List Call) : handed (calls ++ calls') = handed calls ++ handed calls' :=
  List.filterMap_append

theorem frees_append (calls calls' : List Call) : frees (calls ++ calls') = frees calls + frees calls' :=
  List.countP_append

section
variable {alloc : ℕ → SkbAlloc} {s : Regions SkbMem} {a : RxPktAttrib} {len : ℕ}
  {parsed : Outcome (Touch SkbMem) (Regions SkbMem) Parsed}
  (h : (parse alloc MAX_SUBFRAME_COUNT (cint len) 0 []).run s = parsed)
include h

theorem bodyToMsdu_finished (hfinished : parsed.val.leave = .finished) : (bodyToMsdu alloc a len).run s =
    ⟨(parsed.val, ((indicate a 0 parsed.val.subframes).run parsed.st).val ++ [.freeRecvframe]),
      ((indicate a 0 parsed.val.subframes).run parsed.st).st,
      parsed.log ++ (((indicate a 0 parsed.val.subframes).run parsed.st).log ++ [])⟩ := by
  rw [bodyToMsdu, run_bind h, if_pos hfinished]
  rfl

theorem bodyToMsdu_exit (hexit : parsed.val.leave ≠ .finished) :
    (bodyToMsdu alloc a len).run s = ⟨(parsed.val, [.freeRecvframe]), parsed.st, parsed.log ++ []⟩ := by
  rw [bodyToMsdu, run_bind h, if_neg hexit]
  rfl

end

@[simp] theorem memBefore_body (body : Mem) (heap : ℕ → Mem) : memBefore body heap .body = body := rfl

theorem amsduToMsdu_out (alloc : ℕ → SkbAlloc) (heap : ℕ → Mem) (s : RecvPool) (prframe : FrameId) :
    (amsduToMsdu alloc heap s prframe).1 =
      (bodyToMsdu alloc (pullHeaders (s.frames prframe)).attrib (pullHeaders (s.frames prframe)).len).run
        (memBefore (pullHeaders (s.frames prframe)).rxDataMem heap) := by
  rw [amsduToMsdu]

theorem amsduToMsdu_queue (alloc : ℕ → SkbAlloc) (heap : ℕ → Mem) (s : RecvPool) (prframe : FrameId) :
    (amsduToMsdu alloc heap s prframe).2.queue = moveTail s.queue .freeRecvQueue prframe := by
  rw [amsduToMsdu]
  rfl

section
variable {alloc : ℕ → SkbAlloc} {body : Mem} {len : ℕ} {c : Cut} {a : RxPktAttrib} {prframe : FrameId}
  {parsed : Outcome (Touch SkbMem) (Regions SkbMem) Parsed}
  {r : Outcome (Touch SkbMem) (Regions SkbMem) (Parsed × List Call) × RecvPool}
  (hcut : Cutting alloc body len c [] parsed) (hqueue : (r.2.queue .freeRecvQueue).count prframe = 1)
include hcut hqueue

/-- At the end of the loop all subframes are handed over, and only the type of a clone can be behind the body. -/
theorem sound_indicated
    (hr : r.1 = ⟨(parsed.val, ((indicate a 0 parsed.val.subframes).run parsed.st).val ++ [.freeRecvframe]),
      ((indicate a 0 parsed.val.subframes).run parsed.st).st,
      parsed.log ++ (((indicate a 0 parsed.val.subframes).run parsed.st).log ++ [])⟩) :
    Sound prframe len r ↔ ∀ c', c.Reaches body alloc c' → ¬c'.LooksBehind body alloc len := by
  obtain ⟨built, hbuilt, hclones, hlooks⟩ := hcut.clones
  rw [List.nil_append] at hbuilt
  rw [← hlooks, ← hbuilt, ← inside_indicate (s := parsed.st) a 0 (hbuilt ▸ hclones)]
  constructor
  · intro hsound t ht
    refine hsound.touches t ?_
    rw [hr]
    exact List.mem_append_right _ (List.mem_append_left _ ht)
  · intro hinside
    obtain ⟨hhanded, hfrees⟩ := @indicate_calls parsed.st parsed.val.subframes a 0
    refine ⟨?_, ?_, ?_, ?_, hqueue⟩
    · rw [hr]
      refine List.forall_mem_append.mpr ⟨hcut.touches, List.forall_mem_append.mpr ⟨hinside, ?_⟩⟩
      exact fun _ h => absurd h List.not_mem_nil
    · rw [hr]
      exact hcut.ends
    · rw [hr]
      intro i hi
      rw [handed_append, hhanded]
      show List.count i (List.range' 0 parsed.val.subframes.length ++ []) = 1
      rw [List.append_nil]
      exact List.count_eq_one_of_mem List.nodup_range' (List.mem_range'_1.mpr ⟨Nat.zero_le i, by rwa [Nat.zero_add]⟩)
    · rw [hr]
      show frees (_ ++ [.freeRecvframe]) = 1
      rw [frees_append, hfrees]
      rfl

theorem sound_exit (hr : r.1 = ⟨(parsed.val, [.freeRecvframe]), parsed.st, parsed.log ++ []⟩) :
    Sound prframe len r ↔ parsed.val.subframes = [] := by
  constructor
  · intro hsound
    by_contra hsome
    have honce := hsound.handed 0
    rw [hr] at honce
    have hnone : List.count 0 (handed [.freeRecvframe]) = 0 := rfl
    exact absurd (hnone.symm.trans (honce (List.length_pos_iff.mpr hsome))) (by decide)
  · intro hnone
    refine ⟨?_, ?_, ?_, ?_, hqueue⟩
    · rw [hr]
      exact List.forall_mem_append.mpr ⟨hcut.touches, fun _ h => absurd h List.not_mem_nil⟩
    · rw [hr]
      exact hcut.ends
    · rw [hr]
      intro i hi
      rw [hnone] at hi
      exact absurd hi (Nat.not_lt_zero i)
    · rw [hr]
      rfl

end

theorem bodyToMsdu_sound {alloc : ℕ → SkbAlloc} {st : Regions SkbMem} {len : ℕ} (a : RxPktAttrib) {prframe : FrameId}
    {r : Outcome (Touch SkbMem) (Regions SkbMem) (Parsed × List Call) × RecvPool}
    (hqueue : (r.2.queue .freeRecvQueue).count prframe = 1) (hr : r.1 = (bodyToMsdu alloc a len).run st) :
    Sound prframe len r ↔ ∀ c, Cut.Reaches (st .body) alloc ⟨0, 0, cint len⟩ c →
      ¬c.GivesUp (st .body) alloc ∧ ¬c.LooksBehind (st .body) alloc len := by
  obtain ⟨parsed, hparsed⟩ : ∃ parsed, (parse alloc MAX_SUBFRAME_COUNT (cint len) 0 []).run st = parsed := ⟨_, rfl⟩
  have hcut : Cutting alloc (st .body) len ⟨0, 0, cint len⟩ [] parsed :=
    hparsed ▸ parse_whole st MAX_SUBFRAME_COUNT rfl (cint_le len)
  rw [forall₂_and, ← hcut.givesUp]
  by_cases hfinished : parsed.val.leave = .finished
  · rw [bodyToMsdu_finished hparsed hfinished] at hr
    rw [sound_indicated hcut hqueue hr]
    exact (and_iff_right fun hexit => absurd (hfinished.symm.trans hexit) (by decide)).symm
  · have hexit : parsed.val.leave = .exit := by
      cases hleave : parsed.val.leave with
      | finished => exact absurd hleave hfinished
      | exit => rfl
      | fuel => exact absurd hleave hcut.ends
    rw [bodyToMsdu_exit hparsed hfinished] at hr
    rw [sound_exit hcut hqueue hr]
    refine ⟨fun hnone => ⟨fun _ => hnone, ?_⟩, fun h => h.1 hexit⟩
    obtain ⟨built, hbuilt, -, hlooks⟩ := hcut.clones
    rw [hnone, List.nil_append] at hbuilt
    rw [← hlooks, ← hbuilt]
    exact fun _ h => absurd h List.not_mem_nil

/-- **Nothing leaks and nothing behind the body is read exactly when the pass never gives up behind a first subframe and no type
is looked for behind the end**, whatever the body and the allocations are. -/
theorem amsdu_sound_iff (alloc : ℕ → SkbAlloc) (heap : ℕ → Mem) (s : RecvPool) (prframe : FrameId) (hpool : Once s.queue) :
    Sound prframe (pullHeaders (s.frames prframe)).len (amsduToMsdu alloc heap s prframe) ↔
      ∀ c, Cut.Reaches (pullHeaders (s.frames prframe)).rxDataMem alloc ⟨0, 0, cint (pullHeaders (s.frames prframe)).len⟩ c →
        ¬c.GivesUp (pullHeaders (s.frames prframe)).rxDataMem alloc ∧
          ¬c.LooksBehind (pullHeaders (s.frames prframe)).rxDataMem alloc (pullHeaders (s.frames prframe)).len := by
  have hqueue : ((amsduToMsdu alloc heap s prframe).2.queue .freeRecvQueue).count prframe = 1 := by
    rw [amsduToMsdu_queue]
    exact List.count_eq_one_of_mem ((hpool.moveTail .freeRecvQueue prframe).nodup _)
      (hpool.mem_moveTail.mpr (.inr ⟨rfl, rfl⟩))
  have hsound := bodyToMsdu_sound _ hqueue (amsduToMsdu_out alloc heap s prframe)
  rw [memBefore_body] at hsound
  exact hsound

theorem noQueue_once (body : List UInt8) : Once (poolWith body).queue :=
  ⟨fun _ => List.nodup_nil, fun _ _ _ h => absurd h List.not_mem_nil⟩

theorem amsdu_sound_iff_twoMsdus :
    Sound 0 (pullHeaders ((poolWith (twoMsdusBody 0)).frames 0)).len
        (amsduToMsdu (fun _ => .cloned) (fun _ _ => 0) (poolWith (twoMsdusBody 0)) 0) ↔
      ∀ c, Cut.Reaches (pullHeaders ((poolWith (twoMsdusBody 0)).frames 0)).rxDataMem (fun _ => .cloned)
          ⟨0, 0, cint (pullHeaders ((poolWith (twoMsdusBody 0)).frames 0)).len⟩ c →
        ¬c.GivesUp (pullHeaders ((poolWith (twoMsdusBody 0)).frames 0)).rxDataMem (fun _ => .cloned) ∧
          ¬c.LooksBehind (pullHeaders ((poolWith (twoMsdusBody 0)).frames 0)).rxDataMem (fun _ => .cloned)
            (pullHeaders ((poolWith (twoMsdusBody 0)).frames 0)).len :=
  amsdu_sound_iff (fun _ => .cloned) (fun _ _ => 0) (poolWith (twoMsdusBody 0)) 0 (noQueue_once _)

/-- A subframe, and a second one that says that it is longer than what is left. -/
def cutOffBody : List UInt8 := (shortMsdu 0).encode ++ ([0] ++ (stationMac.toList ++ (senderMac 0).toList ++ [1, 0, 0x42]))

/-- The `sub_skb` of the first is neither handed over nor freed. -/
theorem cutOff_leaks : Once (poolWith cutOffBody).queue ∧
    ¬Sound 0 (pullHeaders ((poolWith cutOffBody).frames 0)).len
      (amsduToMsdu (fun _ => .copied) (fun _ _ => 0) (poolWith cutOffBody) 0) := by
  refine ⟨noQueue_once _, fun hsound => ?_⟩
  have hfirst := hsound.handed 0 (by decide +kernel)
  exact absurd hfirst (by decide +kernel)

end Rtl8723au.Amsdu
