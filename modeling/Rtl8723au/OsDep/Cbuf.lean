import Rtl8723au.Include.RecvFrame
import Rtl8723au.Library.GuardedRuns
import Rtl8723au.Library.Ring

/-! The queue of pointers of `os_dep/osdep_service.c`: a ring with a cursor for the writer and one for the reader. -/
namespace Rtl8723au
open Ring GuardedRuns
set_option autoImplicit false

/-- `struct rtw_cbuf`. -/
structure RtwCbuf (α : Type) where
  write : ℕ
  read : ℕ
  size : ℕ
  bufs : ℕ → α

namespace RtwCbuf
variable {α : Type}

def rtwCbufFull (cbuf : RtwCbuf α) : Bool := cbuf.write == uint ((cbuf.read : ℤ) - 1)

def rtwCbufEmpty (cbuf : RtwCbuf α) : Bool := cbuf.write == cbuf.read

/-- `rtw_cbuf_push`: whether it returns `_SUCCESS`, and the buffer. -/
def rtwCbufPush (cbuf : RtwCbuf α) (buf : α) : Bool × RtwCbuf α :=
  if cbuf.rtwCbufFull then (false, cbuf)
  else
    let cbuf := { cbuf with bufs := Function.update cbuf.bufs cbuf.write buf }
    (true, { cbuf with write := uint (cbuf.write + 1) % cbuf.size })

/-- `rtw_cbuf_pop`; `null` is `NULL`. -/
def rtwCbufPop (null : α) (cbuf : RtwCbuf α) : α × RtwCbuf α :=
  if cbuf.rtwCbufEmpty then (null, cbuf)
  else
    let buf := cbuf.bufs cbuf.read
    (buf, { cbuf with read := uint (cbuf.read + 1) % cbuf.size })

/-- `rtw_cbuf_alloc`, with what is in the memory that it is given. -/
def rtwCbufAlloc (size : ℕ) (bufs : ℕ → α) : RtwCbuf α := ⟨0, 0, size, bufs⟩

/-- The pointers from the one cursor to the other. -/
def stored (cbuf : RtwCbuf α) : List α :=
  (List.range ((cbuf.write + cbuf.size - cbuf.read) % cbuf.size)).map fun k => cbuf.bufs ((cbuf.read + k) % cbuf.size)

/-! ## Sequences of pushes and pops -/

inductive Op (α : Type)
  | push (buf : α)
  | pop

end RtwCbuf

/-- A buffer, the pointers whose push succeeded, and those that were popped. -/
structure CbufRun (α : Type) where
  cbuf : RtwCbuf α
  pushed : List α
  popped : List α

namespace CbufRun
open RtwCbuf
variable {α : Type} (null : α)

def start (size : ℕ) (bufs : ℕ → α) : CbufRun α := ⟨rtwCbufAlloc size bufs, [], []⟩

/-- A push or a pop. A pop of an empty buffer pops nothing. -/
def step (s : CbufRun α) : Op α → Option (CbufRun α)
  | .push buf =>
    let r := s.cbuf.rtwCbufPush buf
    some { s with cbuf := r.2, pushed := if r.1 then s.pushed ++ [buf] else s.pushed }
  | .pop =>
    let r := s.cbuf.rtwCbufPop null
    some { s with cbuf := r.2, popped := if s.cbuf.rtwCbufEmpty then s.popped else s.popped ++ [r.1] }

def count (s : CbufRun α) : ℕ := s.pushed.length - s.popped.length

/-- The popped pointers are the first of those that were pushed, the others are stored, and the buffer is empty when as
many were popped as pushed. -/
structure Fifo (s : CbufRun α) : Prop where
  order : s.popped <+: s.pushed
  kept : s.cbuf.stored = s.pushed.drop s.popped.length
  empty : s.cbuf.rtwCbufEmpty = true ↔ s.popped.length = s.pushed.length

/-- A push succeeds exactly when less than `size - 1` pointers are stored. -/
def PushRight (s : CbufRun α) : Op α → Prop
  | .push buf => (s.cbuf.rtwCbufPush buf).1 = true ↔ s.count < s.cbuf.size - 1
  | .pop => True

/-- No push is made to a buffer that is full while its reader is at the first cell. -/
def NotAtWrap (s : CbufRun α) : Op α → Prop
  | .push _ => ¬(s.cbuf.read = 0 ∧ s.count = s.cbuf.size - 1)
  | .pop => True

/-! ## What a run keeps -/

/-- The buffer holds `l`: the pointers that were pushed and not popped. -/
structure Stores (s : CbufRun α) (l : List α) : Prop where
  size : 2 ≤ s.cbuf.size ∧ s.cbuf.size < 2 ^ 32
  room : l.length < s.cbuf.size
  write : s.cbuf.write = tail s.cbuf.size s.cbuf.read l
  holds : ∃ full, Holds s.cbuf.size full s.cbuf.bufs s.cbuf.read l
  pushed : s.pushed = s.popped ++ l

namespace Stores
variable {null} {s s' : CbufRun α} {l : List α} (h : s.Stores l)
include h

theorem read_lt : s.cbuf.read < s.cbuf.size := h.holds.choose_spec.head_lt

theorem count_eq : s.count = l.length := by
  rw [count, h.pushed, List.length_append, Nat.add_sub_cancel_left]

theorem full_iff : s.cbuf.rtwCbufFull = true ↔ s.cbuf.read ≠ 0 ∧ l.length = s.cbuf.size - 1 := by
  have hread := h.read_lt
  have hsize := h.size
  have hroom := h.room
  have hwrite := length_eq_sub hread hroom
  rw [← h.write] at hwrite
  have hlt : s.cbuf.write < s.cbuf.size := h.write ▸ Nat.mod_lt _ (Nat.zero_lt_of_lt hread)
  rw [rtwCbufFull, beq_iff_eq]
  by_cases hzero : s.cbuf.read = 0
  · have hmax : uint ((s.cbuf.read : ℤ) - 1) = 2 ^ 32 - 1 := by
      rw [hzero]
      rfl
    rw [hmax]
    constructor
    · intro heq
      omega
    · rintro ⟨hne, -⟩
      exact absurd hzero hne
  · have hprev : uint ((s.cbuf.read : ℤ) - 1) = s.cbuf.read - 1 := by
      rw [← uint_natCast (s.cbuf.read - 1) (by omega), Nat.cast_sub (Nat.one_le_iff_ne_zero.mpr hzero)]
      rfl
    rw [hprev]
    constructor
    · intro heq
      refine ⟨hzero, ?_⟩
      rw [← hwrite, heq, show s.cbuf.read - 1 + s.cbuf.size - s.cbuf.read = s.cbuf.size - 1 by omega,
        Nat.mod_eq_of_lt (by omega)]
    · rintro ⟨-, hlength⟩
      rw [hlength] at hwrite
      by_cases hwrap : s.cbuf.write < s.cbuf.read
      · rw [Nat.mod_eq_of_lt (by omega)] at hwrite
        omega
      · rw [Nat.mod_eq_sub_mod (by omega), Nat.mod_eq_of_lt (by omega)] at hwrite
        omega

theorem empty_iff : s.cbuf.rtwCbufEmpty = true ↔ l = [] := by
  rw [rtwCbufEmpty, beq_iff_eq, h.write]
  exact tail_eq_head h.read_lt h.room

theorem pushRight_iff (op : Op α) : s.PushRight op ↔ s.NotAtWrap op := by
  cases op with
  | pop => exact Iff.rfl
  | push buf =>
    have hroom := h.room
    have hsuccess : (s.cbuf.rtwCbufPush buf).1 = true ↔ ¬s.cbuf.rtwCbufFull = true := by
      unfold rtwCbufPush
      split <;> simp_all
    rw [PushRight, NotAtWrap, hsuccess, h.full_iff, h.count_eq]
    by_cases hzero : s.cbuf.read = 0
    · simp only [hzero, ne_eq, not_true_eq_false, false_and, not_false_eq_true, true_iff, true_and]
      omega
    · simp only [hzero, ne_eq, not_false_eq_true, true_and, false_and, iff_true]
      omega

theorem fifo : s.Fifo := by
  refine ⟨⟨l, h.pushed.symm⟩, ?_, ?_⟩
  · obtain ⟨full, hholds⟩ := h.holds
    have hlength : (s.cbuf.write + s.cbuf.size - s.cbuf.read) % s.cbuf.size = l.length := by
      rw [h.write]
      exact length_eq_sub h.read_lt h.room
    rw [h.pushed, List.drop_left, stored, hlength]
    refine List.ext_getElem (by simp) fun k hk hk' => ?_
    rw [List.getElem_map, List.getElem_range]
    exact hholds.cell_eq k hk'
  · rw [h.empty_iff, h.pushed, List.length_append, ← List.length_eq_zero_iff]
    omega

theorem next_eq {x : ℕ} (hx : x < s.cbuf.size) : uint ((x : ℤ) + 1) % s.cbuf.size = (x + 1) % s.cbuf.size := by
  have hsize := h.size
  rw [show (x : ℤ) + 1 = ((x + 1 : ℕ) : ℤ) by push_cast; rfl, uint_natCast _ (by omega)]

theorem push {buf : α} (hok : s.NotAtWrap (.push buf)) (hstep : s.step null (.push buf) = some s') :
    ∃ l', s'.Stores l' := by
  obtain ⟨full, hholds⟩ := h.holds
  obtain rfl := Option.some.inj hstep
  by_cases hfull : s.cbuf.rtwCbufFull = true
  · have hpush : s.cbuf.rtwCbufPush buf = (false, s.cbuf) := if_pos hfull
    refine ⟨l, ?_⟩
    rw [hpush]
    exact ⟨h.size, h.room, h.write, h.holds, h.pushed⟩
  · have hroom : l.length < s.cbuf.size - 1 := by
      have hnot := mt h.full_iff.mpr hfull
      rw [NotAtWrap, h.count_eq] at hok
      have hlt := h.room
      by_contra hlong
      have hlast : l.length = s.cbuf.size - 1 := by omega
      exact hok ⟨not_not.mp fun hne => hnot ⟨hne, hlast⟩, hlast⟩
    have hpush : s.cbuf.rtwCbufPush buf = (true, { s.cbuf with
        bufs := Function.update s.cbuf.bufs s.cbuf.write buf
        write := uint ((s.cbuf.write : ℤ) + 1) % s.cbuf.size }) := if_neg hfull
    have hwrite : s.cbuf.write < s.cbuf.size := h.write ▸ Nat.mod_lt _ (Nat.zero_lt_of_lt hholds.head_lt)
    refine ⟨l ++ [buf], ?_⟩
    rw [hpush]
    refine ⟨h.size, ?_, ?_, ?_, ?_⟩
    · show (l ++ [buf]).length < s.cbuf.size
      rw [List.length_append, List.length_singleton]
      omega
    · show uint ((s.cbuf.write : ℤ) + 1) % s.cbuf.size = tail s.cbuf.size s.cbuf.read (l ++ [buf])
      rw [h.next_eq hwrite, h.write, tail, tail, List.length_append, List.length_singleton, Nat.mod_add_mod, Nat.add_assoc]
    · have hpushed := hholds.push (b := buf) (hholds.free_tail h.room)
      rw [← h.write] at hpushed
      exact ⟨_, hpushed⟩
    · show s.pushed ++ [buf] = s.popped ++ (l ++ [buf])
      rw [h.pushed, List.append_assoc]

theorem pop (hstep : s.step null .pop = some s') : ∃ l', s'.Stores l' := by
  obtain ⟨full, hholds⟩ := h.holds
  obtain rfl := Option.some.inj hstep
  by_cases hempty : s.cbuf.rtwCbufEmpty = true
  · have hpop : s.cbuf.rtwCbufPop null = (null, s.cbuf) := if_pos hempty
    refine ⟨l, ?_⟩
    rw [hpop, if_pos hempty]
    exact ⟨h.size, h.room, h.write, h.holds, h.pushed⟩
  · have hpop : s.cbuf.rtwCbufPop null = (s.cbuf.bufs s.cbuf.read,
        { s.cbuf with read := uint ((s.cbuf.read : ℤ) + 1) % s.cbuf.size }) := if_neg hempty
    have hhead : full s.cbuf.read := by
      have hsome := List.length_pos_iff.mpr (mt h.empty_iff.mpr hempty)
      have hfirst := hholds.index_full hsome
      rwa [add_zero, Nat.mod_eq_of_lt hholds.head_lt] at hfirst
    obtain ⟨rest, hl, hrest⟩ := hholds.pop hhead
    have hroom := h.room
    rw [hl, List.length_cons] at hroom
    refine ⟨rest, ?_⟩
    rw [hpop, if_neg hempty]
    refine ⟨h.size, Nat.lt_of_succ_lt hroom, ?_, ?_, ?_⟩
    · show s.cbuf.write = tail s.cbuf.size (uint ((s.cbuf.read : ℤ) + 1) % s.cbuf.size) rest
      rw [h.next_eq h.read_lt, h.write, hl, tail, tail, Nat.mod_add_mod, List.length_cons]
      congr 1
      omega
    · show ∃ full, Holds s.cbuf.size full s.cbuf.bufs (uint ((s.cbuf.read : ℤ) + 1) % s.cbuf.size) rest
      rw [h.next_eq h.read_lt]
      exact ⟨_, hrest⟩
    · show s.pushed = s.popped ++ [s.cbuf.bufs s.cbuf.read] ++ rest
      rw [h.pushed, List.append_assoc]
      exact congrArg (s.popped ++ ·) hl

theorem step {op : Op α} (hok : s.NotAtWrap op) (hstep : s.step null op = some s') : ∃ l', s'.Stores l' := by
  cases op with
  | push buf => exact h.push hok hstep
  | pop => exact h.pop hstep

end Stores

theorem start_stores {size : ℕ} (hsize : 2 ≤ size ∧ size < 2 ^ 32) (bufs : ℕ → α) : (start size bufs).Stores [] where
  size := hsize
  room := Nat.zero_lt_of_lt hsize.1
  write := (Nat.zero_mod size).symm
  holds := ⟨_, .nil (Nat.zero_lt_of_lt hsize.1)⟩
  pushed := rfl

/-- **The buffer is a bounded queue in a run exactly when no push is made to it full with the reader at the first cell.** -/
theorem cbuf_fifo_iff (size : ℕ) (hsize : 2 ≤ size ∧ size < 2 ^ 32) (bufs : ℕ → α) (ops : List (Op α)) :
    Meets (step null) PushRight (start size bufs) ops ∧ Always (step null) Fifo (start size bufs) ops ↔
      Meets (step null) NotAtWrap (start size bufs) ops := by
  have hinit : ∃ l, (start size bufs).Stores l := ⟨[], start_stores hsize bufs⟩
  have hkeep : ∀ (s : CbufRun α) (op : Op α) (s' : CbufRun α), (∃ l, s.Stores l) → s.NotAtWrap op →
      s.step null op = some s' → ∃ l, s'.Stores l := by
    rintro s op s' ⟨l, h⟩ hok hstep
    exact h.step hok hstep
  have hright : Meets (step null) PushRight (start size bufs) ops ↔ Meets (step null) NotAtWrap (start size bufs) ops :=
    Meets.congr hkeep (fun s op ⟨l, h⟩ => h.pushRight_iff op) hinit
  rw [hright]
  exact and_iff_left_of_imp fun hmeets => .of_inv hkeep (fun s ⟨l, h⟩ => h.fifo) hinit hmeets

theorem cbuf_fifo_iff_oneCell :
    Meets (step 0) PushRight (start 2 fun _ => 0) [.push 7, .pop, .push 8, .push 9, .pop] ∧
        Always (step 0) Fifo (start 2 fun _ => 0) [.push 7, .pop, .push 8, .push 9, .pop] ↔
      Meets (step 0) NotAtWrap (start 2 fun _ => 0) [.push 7, .pop, .push 8, .push 9, .pop] :=
  cbuf_fifo_iff 0 2 (by decide) (fun _ => 0) [.push 7, .pop, .push 8, .push 9, .pop]

/-- The second push succeeds, though there is room for one pointer only, and both are lost. -/
theorem cbuf_loses : ¬∀ (size : ℕ), 2 ≤ size ∧ size < 2 ^ 32 → ∀ (bufs : ℕ → ℕ) (ops : List (Op ℕ)),
    Meets (step 0) PushRight (start size bufs) ops ∧ Always (step 0) Fifo (start size bufs) ops := by
  intro h
  obtain ⟨hright, hfifo⟩ := h 2 (by decide) (fun _ => 0) [.push 7, .push 8]
  have hlost : [] = [7, 8] := hfifo.2.2.kept
  exact absurd hlost (by decide)

end CbufRun

end Rtl8723au
