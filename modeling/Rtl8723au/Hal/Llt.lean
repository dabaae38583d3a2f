import Rtl8723au.Library.PolledWrites
import Mathlib.Data.Nat.Notation

/-! The table that links the pages of the transmit buffer, from `hal/rtl8723a_hal_init.c`: `_LLTWrite`, `_LLTRead` and
`InitLLTTable` over a device that answers the polls of `REG_LLT_INIT` as it likes. -/
namespace Rtl8723au
namespace Llt
open PolledWrites
set_option autoImplicit false

def _LLT_NO_ACTIVE : BitVec 32 := 0x0
def _LLT_WRITE_ACCESS : BitVec 32 := 0x1
def _LLT_READ_ACCESS : BitVec 32 := 0x2

def _LLT_INIT_DATA (x : BitVec 32) : BitVec 32 := x &&& 0xff
def _LLT_INIT_ADDR (x : BitVec 32) : BitVec 32 := (x &&& 0xff) <<< 8
def _LLT_OP (x : BitVec 32) : BitVec 32 := (x &&& 0x3) <<< 30
def _LLT_OP_VALUE (x : BitVec 32) : BitVec 32 := (x >>> 30) &&& 0x3

def LAST_ENTRY_OF_TX_PKT_BUFFER : ℕ := 255
def POLLING_LLT_THRESHOLD : ℕ := 20

abbrev Trace := List (Access (BitVec 32))

/-- The register reports no operation. -/
def NoActive (value : BitVec 32) : Prop := _LLT_OP_VALUE value = _LLT_NO_ACTIVE

instance : DecidablePred NoActive := fun _ => inferInstanceAs (Decidable (_ = _))

variable (device : Device (BitVec 32))

/-! ## The functions -/

/-- The `do` loop of `_LLTWrite`: the status, and the accesses so far. -/
def lltPoll (trace : Trace) (count : ℕ) : Bool × Trace :=
  let value := device trace
  let trace := trace ++ [.read value]
  if NoActive value then (true, trace)
  else if POLLING_LLT_THRESHOLD < count then (false, trace)
  -- `while (count++)` looks at the count before it is raised
  else if count = 0 then (true, trace)
  else lltPoll trace (count + 1)
termination_by POLLING_LLT_THRESHOLD + 1 - count

/-- What `_LLTWrite` writes. -/
def lltCommand (address data : ℕ) : BitVec 32 :=
  _LLT_INIT_ADDR (BitVec.ofNat 32 address) ||| _LLT_INIT_DATA (BitVec.ofNat 32 data) ||| _LLT_OP _LLT_WRITE_ACCESS

def lltWrite (trace : Trace) (address data : ℕ) : Bool × Trace :=
  lltPoll device (trace ++ [.write (lltCommand address data)]) 0

/-- The loop of `_LLTRead`. -/
def lltReadPoll (trace : Trace) (count : ℕ) : BitVec 8 × Trace :=
  let value := device trace
  let trace := trace ++ [.read value]
  if NoActive value then (value.setWidth 8, trace)
  else if POLLING_LLT_THRESHOLD < count then (0xff, trace)
  else if count = 0 then (0xff, trace)
  else lltReadPoll trace (count + 1)
termination_by POLLING_LLT_THRESHOLD + 1 - count

def lltRead (trace : Trace) (address : ℕ) : BitVec 8 × Trace :=
  lltReadPoll device
    (trace ++ [.write (_LLT_INIT_ADDR (BitVec.ofNat 32 address) ||| _LLT_OP _LLT_READ_ACCESS)]) 0

/-- `if (_SUCCESS != status) return status`. -/
def orReturn (r : Bool × Trace) (next : Trace → Bool × Trace) : Bool × Trace := if r.1 then next r.2 else r

/-- The loop that links `n` entries from `i` on, each to the next. -/
def lltLink (trace : Trace) (i : ℕ) : ℕ → Bool × Trace
  | 0 => (true, trace)
  | n + 1 => orReturn (lltWrite device trace i (i + 1)) fun trace => lltLink trace (i + 1) n

def initLLTTable (boundary : ℕ) : Bool × Trace :=
  orReturn (lltLink device [] 0 (boundary - 1)) fun trace =>
  orReturn (lltWrite device trace (boundary - 1) 0xff) fun trace =>
  orReturn (lltLink device trace boundary (LAST_ENTRY_OF_TX_PKT_BUFFER - boundary)) fun trace =>
  lltWrite device trace LAST_ENTRY_OF_TX_PKT_BUFFER boundary

/-! ## What it is to do -/

/-- An entry and the one it points to, for all of them. -/
def lltTable (boundary : ℕ) : List (ℕ × ℕ) :=
  (List.range (boundary - 1)).map (fun i => (i, i + 1)) ++ [(boundary - 1, 0xff)] ++
    (List.range' boundary (LAST_ENTRY_OF_TX_PKT_BUFFER - boundary)).map (fun i => (i, i + 1)) ++
      [(LAST_ENTRY_OF_TX_PKT_BUFFER, boundary)]

def lltCommands (boundary : ℕ) : List (BitVec 32) := (lltTable boundary).map fun e => lltCommand e.1 e.2

/-- Success means that every write was seen to complete before the next one, and that the table was written. -/
def SuccessTold (boundary : ℕ) : Prop :=
  (initLLTTable device boundary).1 = true →
    AllSeenIdle NoActive (initLLTTable device boundary).2 ∧
      writes (initLLTTable device boundary).2 = lltCommands boundary

/-- A write that is not seen to complete within the polls allowed is the last one, and the table fails. -/
def FailureTold (boundary : ℕ) : Prop :=
  ∀ (pre post : Trace) (w : BitVec 32), (initLLTTable device boundary).2 = pre ++ .write w :: post →
    BusyFor NoActive device POLLING_LLT_THRESHOLD (pre ++ [.write w]) →
      (initLLTTable device boundary).1 = false ∧ writes post = []

/-- The first poll behind each write of the table finds it done. -/
def FirstPollsIdle (boundary : ℕ) : Prop := FirstIdle NoActive device [] (lltCommands boundary)

/-! ## One poll, whatever it finds -/

variable {device}

theorem lltPoll_zero (trace : Trace) : lltPoll device trace 0 = (true, trace ++ [.read (device trace)]) := by
  rw [lltPoll]
  by_cases h : NoActive (device trace)
  · rw [if_pos h]
  · rw [if_neg h, if_neg (Nat.not_lt_zero _), if_pos rfl]

theorem lltWrite_eq (trace : Trace) (address data : ℕ) : lltWrite device trace address data =
    (true, trace ++ singlePolls device trace [lltCommand address data]) := by
  rw [lltWrite, lltPoll_zero, List.append_assoc]
  rfl

theorem orReturn_true (trace : Trace) (next : Trace → Bool × Trace) : orReturn (true, trace) next = next trace := rfl

theorem lltLink_eq (trace : Trace) (i n : ℕ) : lltLink device trace i n =
    (true, trace ++ singlePolls device trace ((List.range' i n).map fun k => lltCommand k (k + 1))) := by
  induction n generalizing trace i with
  | zero =>
    rw [lltLink, List.range'_zero, List.map_nil, singlePolls, List.append_nil]
  | succ n ih =>
    have hsplit : singlePolls device trace ([lltCommand i (i + 1)] ++ _) = _ := singlePolls_append trace [lltCommand i (i + 1)]
      ((List.range' (i + 1) n).map fun k => lltCommand k (k + 1))
    rw [lltLink, lltWrite_eq, orReturn_true, ih, List.append_assoc, ← hsplit]
    rfl

/-- **It succeeds whatever the device does**, with one poll behind each write. -/
theorem initLLTTable_eq (boundary : ℕ) :
    initLLTTable device boundary = (true, singlePolls device [] (lltCommands boundary)) := by
  have hcommands : lltCommands boundary =
      (List.range' 0 (boundary - 1)).map (fun k => lltCommand k (k + 1)) ++ ([lltCommand (boundary - 1) 0xff] ++
        ((List.range' boundary (LAST_ENTRY_OF_TX_PKT_BUFFER - boundary)).map (fun k => lltCommand k (k + 1)) ++
          [lltCommand LAST_ENTRY_OF_TX_PKT_BUFFER boundary])) := by
    rw [lltCommands, lltTable, List.range_eq_range']
    simp only [List.map_append, List.map_map, List.map_cons, List.map_nil, List.append_assoc]
    rfl
  rw [initLLTTable, lltLink_eq, orReturn_true, lltWrite_eq, orReturn_true, lltLink_eq, orReturn_true, lltWrite_eq, hcommands,
    singlePolls_append, singlePolls_append, singlePolls_append]
  simp only [List.nil_append, List.append_assoc]

/-! ## When it is honest -/

theorem successTold_iff (boundary : ℕ) : SuccessTold device boundary ↔ FirstPollsIdle device boundary := by
  rw [SuccessTold, initLLTTable_eq, writes_singlePolls, allSeenIdle_singlePolls]
  exact ⟨fun h => (h rfl).1, fun h _ => ⟨h, rfl⟩⟩

theorem failureTold_of_firstPollsIdle {boundary : ℕ} (h : FirstPollsIdle device boundary) : FailureTold device boundary := by
  intro pre post w heq hbusy
  rw [initLLTTable_eq] at heq
  obtain ⟨us, vs, hws, rfl⟩ := singlePolls_split heq
  have hidle := FirstIdle.split (hws ▸ h : FirstIdle NoActive device [] (us ++ w :: vs))
  exact absurd hidle (hbusy 0 (by decide))

/-- **The table is honest exactly if the device never lets a first poll find it busy.** -/
theorem initLLTTable_honest_iff (device : Device (BitVec 32)) (boundary : ℕ) (_hlow : 2 ≤ boundary)
    (_hhigh : boundary ≤ LAST_ENTRY_OF_TX_PKT_BUFFER) :
    (SuccessTold device boundary ∧ FailureTold device boundary) ↔ FirstPollsIdle device boundary := by
  rw [successTold_iff]
  exact ⟨And.left, fun h => ⟨h, failureTold_of_firstPollsIdle h⟩⟩

theorem initLLTTable_honest_iff_ready : (SuccessTold (fun _ => 0) 246 ∧ FailureTold (fun _ => 0) 246) ↔
    FirstPollsIdle (fun _ => 0) 246 :=
  initLLTTable_honest_iff (fun _ => 0) 246 (by decide) (by decide)

/-- A device that is still at its first operation after a hundred polls. -/
def stuckDevice : Device (BitVec 32) := fun _ => _LLT_OP _LLT_WRITE_ACCESS

theorem not_successTold_stuck : ¬ (SuccessTold stuckDevice 246 ∧ FailureTold stuckDevice 246) := by
  rintro ⟨hsuccess, -⟩
  have hfirst := (successTold_iff 246).mp hsuccess
  have hbusy : ¬ NoActive (stuckDevice ([] ++ [.write (lltCommand 0 1)])) := by decide
  exact hbusy hfirst.1

/-! ## What the device is told -/

end Llt

end Rtl8723au
