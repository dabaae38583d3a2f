import Rtl8723au.Library.Ring

/-! Commands to the firmware: `FillH2CCmd` of `hal/rtl8723a_cmd.c`, and the firmware's side of the four
boxes. The firmware may act between any two register accesses of the driver. -/
namespace Rtl8723au.H2c
set_option autoImplicit false

def RTL92C_MAX_H2C_BOX_NUMS : ℕ := 4
def RTL92C_MAX_CMD_LEN : ℕ := 5
def MESSAGE_BOX_SIZE : ℕ := 4
def EX_MESSAGE_BOX_SIZE : ℕ := 2

def REG_HMEBOX_EXT_0 : ℕ := 0x0088
def REG_HMETFR : ℕ := 0x01CC
def REG_HMEBOX_0 : ℕ := 0x01D0

abbrev Regs := ℕ → UInt8

def readBytes (regs : Regs) (addr n : ℕ) : List UInt8 := (List.range n).map fun i => regs (addr + i)

def writeBytes (regs : Regs) (addr : ℕ) (bytes : List UInt8) : Regs :=
  fun a => if addr ≤ a ∧ a < addr + bytes.length then bytes.getD (a - addr) 0 else regs a

def msgboxAddr (boxNum : ℕ) : ℕ := REG_HMEBOX_0 + boxNum * MESSAGE_BOX_SIZE
def msgboxExAddr (boxNum : ℕ) : ℕ := REG_HMEBOX_EXT_0 + boxNum * EX_MESSAGE_BOX_SIZE

/-- `BIT(n)` of `REG_HMETFR`: box `n` has been written and not been read. -/
def boxFull (regs : Regs) (boxNum : ℕ) : Bool := (regs REG_HMETFR).toNat.testBit boxNum

def setBoxBit (regs : Regs) (boxNum : ℕ) (v : Bool) : Regs :=
  Function.update regs REG_HMETFR
    (if v then regs REG_HMETFR ||| UInt8.ofNat (1 <<< boxNum)
    else regs REG_HMETFR &&& ~~~ UInt8.ofNat (1 <<< boxNum))

/-! ## The command -/

def cmdBytes (cmdLen : ℕ) (pCmdBuffer : Option (ℕ → UInt8)) : List UInt8 :=
  match pCmdBuffer with
  | none => []
  | some buffer => (List.range cmdLen).map buffer

/-- `h2c_cmd`, its lowest byte first. -/
def h2cCmd (elementID : UInt8) (cmd : List UInt8) : List UInt8 :=
  let (first, body) :=
    if cmd.length ≤ 3 then (0, cmd) else (0x80, cmd.drop EX_MESSAGE_BOX_SIZE)
  (first ||| elementID) :: (body ++ List.replicate (3 - body.length) 0)

/-- `h2c_cmd_ex`, its lowest byte first. -/
def h2cCmdEx (cmd : List UInt8) : List UInt8 :=
  if cmd.length ≤ 3 then [0, 0] else cmd.take EX_MESSAGE_BOX_SIZE

/-! ## The firmware -/

/-- What the firmware takes a box and its extension for: the element, and the bytes of the command. -/
def decode (box ext : List UInt8) : UInt8 × List UInt8 :=
  (box.headD 0 &&& 0x7f, if box.headD 0 &&& 0x80 ≠ 0 then ext ++ box.tail else box.tail)

/-- Where the firmware stands with the box of its cursor. -/
inductive FwStage where
  | idle
  | boxRead (box : List UInt8)
  | extRead (box ext : List UInt8)

structure Firmware where
  cursor : ℕ := 0
  stage : FwStage := .idle
  received : List (UInt8 × List UInt8) := []

/-- The registers, the driver's `LastHMEBoxNum`, and the firmware. `sent` are the commands `FillH2CCmd`
returned `_SUCCESS` for; `overwrote` says that a box, or its extension, was written before it was read. -/
structure Mailbox where
  regs : Regs
  lastHMEBoxNum : ℕ := 0
  fw : Firmware := {}
  sent : List (UInt8 × List UInt8) := []
  overwrote : Bool := false

namespace Mailbox

/-- The next thing the firmware does: it reads the box of its cursor, then the extension, then clears the
bit. -/
def fwStep (w : Mailbox) : Mailbox :=
  match w.fw.stage with
  | .idle =>
    if boxFull w.regs w.fw.cursor then
      { w with fw := { w.fw with stage := .boxRead (readBytes w.regs (msgboxAddr w.fw.cursor) MESSAGE_BOX_SIZE) } }
    else w
  | .boxRead box =>
    { w with fw := { w.fw with
        stage := .extRead box (readBytes w.regs (msgboxExAddr w.fw.cursor) EX_MESSAGE_BOX_SIZE) } }
  | .extRead box ext =>
    { w with
      regs := setBoxBit w.regs w.fw.cursor false
      fw := {
        cursor := (w.fw.cursor + 1) % RTL92C_MAX_H2C_BOX_NUMS
        stage := .idle
        received := w.fw.received ++ [decode box ext] } }

def fwSteps (k : ℕ) (w : Mailbox) : Mailbox := fwStep^[k] w

/-! ## The driver -/

/-- `rtw_write16` to an extension. -/
def writeExt (w : Mailbox) (boxNum : ℕ) (bytes : List UInt8) : Mailbox :=
  { w with
    regs := writeBytes w.regs (msgboxExAddr boxNum) bytes
    overwrote := w.overwrote || boxFull w.regs boxNum }

/-- `rtw_write32` to a box; the hardware sets its bit. -/
def writeBox (w : Mailbox) (boxNum : ℕ) (bytes : List UInt8) : Mailbox :=
  { w with
    regs := setBoxBit (writeBytes w.regs (msgboxAddr boxNum) bytes) boxNum true
    overwrote := w.overwrote || boxFull w.regs boxNum }

/-- The loop of `_is_fw_read_cmd_down` with `retryCnts` retries left. `sched i` is the number of steps the
firmware makes before the driver's access `i`. -/
def isFwReadCmdDownLoop (sched : ℕ → ℕ) (msgboxNum : ℕ) : ℕ → ℕ → Mailbox → Bool × Mailbox
  | retryCnts, i, w =>
    let w := w.fwSteps (sched i)
    if !boxFull w.regs msgboxNum then (true, w)
    else
      match retryCnts with
      | 0 => (false, w)
      | retryCnts + 1 => isFwReadCmdDownLoop sched msgboxNum retryCnts (i + 1) w

/-- `_is_fw_read_cmd_down`. -/
def isFwReadCmdDown (sched : ℕ → ℕ) (w : Mailbox) (msgboxNum : ℕ) : Bool × Mailbox :=
  isFwReadCmdDownLoop sched msgboxNum 100 0 w

def fillBox (sched : ℕ → ℕ) (w : Mailbox) (boxNum : ℕ) (elementID : UInt8) (cmd : List UInt8) : Mailbox :=
  let w :=
    if (h2cCmd elementID cmd).headD 0 &&& 0x80 ≠ 0 then (w.fwSteps (sched 101)).writeExt boxNum (h2cCmdEx cmd) else w
  let w := (w.fwSteps (sched 102)).writeBox boxNum (h2cCmd elementID cmd)
  { w with lastHMEBoxNum := (boxNum + 1) % RTL92C_MAX_H2C_BOX_NUMS }

/-- `FillH2CCmd`. The command is the first `cmdLen` bytes of the buffer. -/
def fillH2CCmd (sched : ℕ → ℕ) (bSurpriseRemoved : Bool) (elementID : UInt8) (cmdLen : ℕ)
    (pCmdBuffer : Option (ℕ → UInt8)) (w : Mailbox) : Bool × Mailbox :=
  match pCmdBuffer with
  | none => (false, w)
  | some buffer =>
    if RTL92C_MAX_CMD_LEN < cmdLen then (false, w)
    else if bSurpriseRemoved then (false, w)
    else
      match isFwReadCmdDown sched w w.lastHMEBoxNum with
      | (false, w) => (false, w)
      | (true, w) => (true, w.fillBox sched w.lastHMEBoxNum elementID ((List.range cmdLen).map buffer))

end Mailbox

/-! ## Runs -/

/-- A call of `FillH2CCmd`, or firmware steps while no call is under way. -/
inductive H2cEvent where
  | fill (sched : ℕ → ℕ) (bSurpriseRemoved : Bool) (elementID : UInt8) (cmdLen : ℕ)
    (pCmdBuffer : Option (ℕ → UInt8))
  | firmware (k : ℕ)

namespace Mailbox

def step (w : Mailbox) : H2cEvent → Mailbox
  | .fill sched bSurpriseRemoved elementID cmdLen pCmdBuffer =>
    match w.fillH2CCmd sched bSurpriseRemoved elementID cmdLen pCmdBuffer with
    | (true, w) => { w with sent := w.sent ++ [(elementID, cmdBytes cmdLen pCmdBuffer)] }
    | (false, w) => w
  | .firmware k => w.fwSteps k

def run (w : Mailbox) (events : List H2cEvent) : Mailbox := events.foldl step w

/-- `LastHMEBoxNum` is 0, the firmware starts with box 0, and no box has been written. -/
def initial (regs : Regs) : Mailbox := { regs := Function.update regs REG_HMETFR 0 }

end Mailbox

end Rtl8723au.H2c

/-! The boxes as a ring: whatever the interleaving, the boxes from the firmware's cursor on hold the
commands it has not read yet, and the driver's cursor is where they end. -/
namespace Rtl8723au.H2c
set_option autoImplicit false

/-! ## Bytes of registers -/

section Bytes

variable {regs regs' : Regs} {addr n b : ℕ} {bytes : List UInt8}

theorem readBytes_congr (h : ∀ a, addr ≤ a → a < addr + n → regs' a = regs a) :
    readBytes regs' addr n = readBytes regs addr n := by
  unfold readBytes
  apply List.map_congr_left
  intro i hi
  exact h _ (Nat.le_add_right _ _) (Nat.add_lt_add_left (List.mem_range.mp hi) _)

theorem readBytes_writeBytes_of_disjoint (h : addr + n ≤ b ∨ b + bytes.length ≤ addr) :
    readBytes (writeBytes regs b bytes) addr n = readBytes regs addr n := by
  apply readBytes_congr
  intro a hle hlt
  unfold writeBytes
  rw [if_neg (by omega)]

theorem readBytes_writeBytes : readBytes (writeBytes regs addr bytes) addr bytes.length = bytes := by
  apply List.ext_getElem
  · simp [readBytes]
  · intro i _ hi
    simp [readBytes, writeBytes, hi]

end Bytes

theorem testBit_setBit (x : UInt8) (v : Bool) {b k : ℕ} (hb : b < 4) (hk : k < 4) :
    (if v then x ||| UInt8.ofNat (1 <<< b) else x &&& ~~~ UInt8.ofNat (1 <<< b)).toNat.testBit k =
      if k = b then v else x.toNat.testBit k := by
  have hbit : (UInt8.ofNat (1 <<< b)).toBitVec.getLsbD k = decide (k = b) := by
    interval_cases b <;> interval_cases k <;> rfl
  cases v with
  | true =>
    show (x ||| UInt8.ofNat (1 <<< b)).toBitVec.getLsbD k = if k = b then true else x.toBitVec.getLsbD k
    rw [UInt8.toBitVec_or, BitVec.getLsbD_or, hbit]
    by_cases h : k = b <;> simp [h]
  | false =>
    show (x &&& ~~~ UInt8.ofNat (1 <<< b)).toBitVec.getLsbD k = if k = b then false else x.toBitVec.getLsbD k
    rw [UInt8.toBitVec_and, UInt8.toBitVec_not, BitVec.getLsbD_and, BitVec.getLsbD_not, hbit, decide_eq_true (by omega)]
    by_cases h : k = b <;> simp [h]

theorem boxFull_setBoxBit (regs : Regs) (v : Bool) {b k : ℕ} (hb : b < 4) (hk : k < 4) :
    boxFull (setBoxBit regs b v) k = if k = b then v else boxFull regs k := by
  unfold boxFull setBoxBit
  rw [Function.update_self]
  exact testBit_setBit _ v hb hk

theorem boxFull_clear (regs : Regs) (b : ℕ) {k : ℕ} (h : boxFull regs k = false) :
    boxFull (setBoxBit regs b false) k = false := by
  unfold boxFull at h ⊢
  unfold setBoxBit
  rw [Function.update_self, if_neg Bool.false_ne_true, UInt8.toNat_and, Nat.testBit_and, h, Bool.false_and]

theorem setBoxBit_of_ne (regs : Regs) (b : ℕ) (v : Bool) {a : ℕ} (ha : a ≠ REG_HMETFR) :
    setBoxBit regs b v a = regs a :=
  Function.update_of_ne ha _ _

/-! ## The boxes -/

/-- Box `n` and its extension. -/
def box (regs : Regs) (n : ℕ) : List UInt8 := readBytes regs (msgboxAddr n) MESSAGE_BOX_SIZE

def boxExt (regs : Regs) (n : ℕ) : List UInt8 := readBytes regs (msgboxExAddr n) EX_MESSAGE_BOX_SIZE

/-- The command box `n` stands for. -/
def inBox (regs : Regs) (n : ℕ) : UInt8 × List UInt8 := decode (box regs n) (boxExt regs n)

theorem box_congr {regs regs' : Regs} {k : ℕ} (h : ∀ a, a ≠ REG_HMETFR → regs' a = regs a) :
    box regs' k = box regs k := by
  apply readBytes_congr
  intro a hle _
  apply h
  unfold msgboxAddr REG_HMEBOX_0 at hle
  unfold REG_HMETFR
  omega

theorem boxExt_congr {regs regs' : Regs} {k : ℕ} (hk : k < 4) (h : ∀ a, a ≠ REG_HMETFR → regs' a = regs a) :
    boxExt regs' k = boxExt regs k := by
  apply readBytes_congr
  intro a _ hlt
  apply h
  unfold msgboxExAddr REG_HMEBOX_EXT_0 EX_MESSAGE_BOX_SIZE at hlt
  unfold REG_HMETFR
  omega

theorem inBox_congr {regs regs' : Regs} {k : ℕ} (hk : k < 4) (h : ∀ a, a ≠ REG_HMETFR → regs' a = regs a) :
    inBox regs' k = inBox regs k := by
  unfold inBox
  rw [box_congr h, boxExt_congr hk h]

theorem writeBytes_of_lt {regs : Regs} {addr a : ℕ} {bytes : List UInt8}
    (h : a < addr ∨ addr + bytes.length ≤ a) : writeBytes regs addr bytes a = regs a := by
  unfold writeBytes
  rw [if_neg (by omega)]

section Written

variable {regs : Regs} {b k : ℕ} {bytes : List UInt8}

theorem box_writeExt (hb : b < 4) (hlen : bytes.length = 2) :
    box (writeBytes regs (msgboxExAddr b) bytes) k = box regs k := by
  apply readBytes_writeBytes_of_disjoint
  unfold msgboxAddr REG_HMEBOX_0 msgboxExAddr REG_HMEBOX_EXT_0 EX_MESSAGE_BOX_SIZE
  omega

theorem boxExt_writeExt_of_ne (hlen : bytes.length = 2) (hne : k ≠ b) :
    boxExt (writeBytes regs (msgboxExAddr b) bytes) k = boxExt regs k := by
  apply readBytes_writeBytes_of_disjoint
  unfold msgboxExAddr REG_HMEBOX_EXT_0 EX_MESSAGE_BOX_SIZE
  omega

theorem boxExt_writeExt (hlen : bytes.length = 2) :
    boxExt (writeBytes regs (msgboxExAddr b) bytes) b = bytes := by
  have h : readBytes (writeBytes regs (msgboxExAddr b) bytes) (msgboxExAddr b) bytes.length = bytes :=
    readBytes_writeBytes
  rwa [hlen] at h

theorem boxFull_writeExt (hb : b < 4) (hlen : bytes.length = 2) :
    boxFull (writeBytes regs (msgboxExAddr b) bytes) k = boxFull regs k := by
  unfold boxFull
  rw [writeBytes_of_lt]
  unfold REG_HMETFR msgboxExAddr REG_HMEBOX_EXT_0 EX_MESSAGE_BOX_SIZE
  omega

theorem box_writeBox_of_ne (hlen : bytes.length = 4) (hne : k ≠ b) :
    box (writeBytes regs (msgboxAddr b) bytes) k = box regs k := by
  apply readBytes_writeBytes_of_disjoint
  unfold msgboxAddr REG_HMEBOX_0 MESSAGE_BOX_SIZE
  omega

theorem box_writeBox (hlen : bytes.length = 4) : box (writeBytes regs (msgboxAddr b) bytes) b = bytes := by
  have h : readBytes (writeBytes regs (msgboxAddr b) bytes) (msgboxAddr b) bytes.length = bytes :=
    readBytes_writeBytes
  rwa [hlen] at h

theorem boxExt_writeBox (hk : k < 4) :
    boxExt (writeBytes regs (msgboxAddr b) bytes) k = boxExt regs k := by
  apply readBytes_writeBytes_of_disjoint
  unfold msgboxAddr REG_HMEBOX_0 msgboxExAddr REG_HMEBOX_EXT_0 EX_MESSAGE_BOX_SIZE
  omega

theorem boxFull_writeBox : boxFull (writeBytes regs (msgboxAddr b) bytes) k = boxFull regs k := by
  unfold boxFull
  rw [writeBytes_of_lt]
  unfold REG_HMETFR msgboxAddr REG_HMEBOX_0
  omega

end Written

/-! ## What the firmware takes a command for -/

/-- The element, and the bytes padded to the three of a box or the five of a box and its extension. -/
def expected (c : UInt8 × List UInt8) : UInt8 × List UInt8 :=
  (c.1, c.2 ++ List.replicate ((if c.2.length ≤ 3 then 3 else RTL92C_MAX_CMD_LEN) - c.2.length) 0)

theorem h2cCmd_length {cmd : List UInt8} (elementID : UInt8) (hlen : cmd.length ≤ RTL92C_MAX_CMD_LEN) :
    (h2cCmd elementID cmd).length = 4 := by
  unfold RTL92C_MAX_CMD_LEN at hlen
  unfold h2cCmd
  by_cases hshort : cmd.length ≤ 3
  · simp [hshort]
  · simp [hshort, EX_MESSAGE_BOX_SIZE]
    omega

theorem h2cCmdEx_length (cmd : List UInt8) : (h2cCmdEx cmd).length = 2 := by
  unfold h2cCmdEx
  by_cases hshort : cmd.length ≤ 3
  · rw [if_pos hshort]
    rfl
  · rw [if_neg hshort, List.length_take]
    unfold EX_MESSAGE_BOX_SIZE
    omega

theorem elementID_bits {elementID : UInt8} (h : elementID < 128) :
    (0 ||| elementID) &&& 0x7f = elementID ∧ (0 ||| elementID) &&& 0x80 = 0 ∧
      (0x80 ||| elementID) &&& 0x7f = elementID ∧ (0x80 ||| elementID) &&& 0x80 ≠ 0 := by
  have hall : ∀ n < 128, (0 ||| UInt8.ofNat n) &&& 0x7f = UInt8.ofNat n ∧ (0 ||| UInt8.ofNat n) &&& 0x80 = 0 ∧
      (0x80 ||| UInt8.ofNat n) &&& 0x7f = UInt8.ofNat n ∧ (0x80 ||| UInt8.ofNat n) &&& 0x80 ≠ 0 := by
    decide +kernel
  have hid := hall elementID.toNat (UInt8.lt_iff_toNat_lt.mp h)
  rwa [UInt8.ofNat_toNat] at hid

theorem h2cCmd_ext {elementID : UInt8} (h : elementID < 128) (cmd : List UInt8) :
    (h2cCmd elementID cmd).headD 0 &&& 0x80 ≠ 0 ↔ ¬ cmd.length ≤ 3 := by
  obtain ⟨-, hshort, -, hlong⟩ := elementID_bits h
  unfold h2cCmd
  by_cases hlen : cmd.length ≤ 3
  · simp only [hlen, if_true, List.headD_cons, hshort]
    simp
  · simp only [hlen, if_false, List.headD_cons]
    simpa using hlong

theorem decode_h2cCmd {elementID : UInt8} {cmd ext : List UInt8} (h : elementID < 128)
    (hlen : cmd.length ≤ RTL92C_MAX_CMD_LEN) (hext : ¬ cmd.length ≤ 3 → ext = h2cCmdEx cmd) :
    decode (h2cCmd elementID cmd) ext = expected (elementID, cmd) := by
  have hbit := h2cCmd_ext h cmd
  obtain ⟨hshort, -, hlong, -⟩ := elementID_bits h
  unfold decode expected
  by_cases hle : cmd.length ≤ 3
  · rw [if_neg (fun hne => hbit.mp hne hle)]
    unfold h2cCmd
    simp [hle]
    simpa using hshort
  · rw [if_pos (hbit.mpr hle), hext hle]
    unfold h2cCmd h2cCmdEx EX_MESSAGE_BOX_SIZE
    unfold RTL92C_MAX_CMD_LEN at hlen ⊢
    simp only [hle, if_false, List.headD_cons, List.tail_cons, hlong, Prod.mk.injEq, true_and]
    rw [← List.append_assoc, List.take_append_drop, List.length_drop]
    congr 2
    omega

/-! ## The invariant -/

/-- The firmware has read what the box of its cursor holds. -/
def FwStage.Reading (regs : Regs) (cursor : ℕ) : FwStage → Prop
  | .idle => True
  | .boxRead b => boxFull regs cursor = true ∧ b = box regs cursor
  | .extRead b ext => boxFull regs cursor = true ∧ b = box regs cursor ∧ ext = boxExt regs cursor

/-- How many of the three steps of a box are done. -/
def FwStage.done : FwStage → ℕ
  | .idle => 0
  | .boxRead _ => 1
  | .extRead _ _ => 2

namespace Mailbox

/-- The boxes from the firmware's cursor on hold `unread`, and the driver's cursor is where they end. -/
structure Linked (w : Mailbox) (unread : List (UInt8 × List UInt8)) : Prop where
  ring : Ring.Holds 4 (fun k => boxFull w.regs k = true) (inBox w.regs) w.fw.cursor unread
  last : w.lastHMEBoxNum = Ring.tail 4 w.fw.cursor unread
  order : w.fw.received ++ unread = w.sent.map expected
  reading : w.fw.stage.Reading w.regs w.fw.cursor
  intact : w.overwrote = false

/-- What the firmware leaves alone. -/
structure Kept (w w' : Mailbox) : Prop where
  lastHMEBoxNum : w'.lastHMEBoxNum = w.lastHMEBoxNum
  sent : w'.sent = w.sent
  regs : ∀ a, a ≠ REG_HMETFR → w'.regs a = w.regs a
  free : ∀ k, boxFull w.regs k = false → boxFull w'.regs k = false

theorem Kept.refl (w : Mailbox) : Kept w w := ⟨rfl, rfl, fun _ _ => rfl, fun _ hk => hk⟩

theorem Kept.trans {w w' w'' : Mailbox} (h : Kept w w') (h' : Kept w' w'') : Kept w w'' where
  lastHMEBoxNum := h'.lastHMEBoxNum.trans h.lastHMEBoxNum
  sent := h'.sent.trans h.sent
  regs a ha := (h'.regs a ha).trans (h.regs a ha)
  free k hk := h'.free k (h.free k hk)

theorem fwStep_kept (w : Mailbox) : Kept w w.fwStep := by
  unfold fwStep
  split
  · split
    · exact ⟨rfl, rfl, fun _ _ => rfl, fun _ hk => hk⟩
    · exact Kept.refl w
  · exact ⟨rfl, rfl, fun _ _ => rfl, fun _ hk => hk⟩
  · exact ⟨rfl, rfl, fun _ ha => setBoxBit_of_ne _ _ _ ha, fun _ hk => boxFull_clear _ _ hk⟩

theorem fwSteps_succ (k : ℕ) (w : Mailbox) : w.fwSteps (k + 1) = w.fwStep.fwSteps k :=
  Function.iterate_succ_apply _ _ _

theorem fwSteps_kept (k : ℕ) (w : Mailbox) : Kept w (w.fwSteps k) := by
  induction k generalizing w with
  | zero => exact Kept.refl w
  | succ k ih =>
    rw [fwSteps_succ]
    exact (fwStep_kept w).trans (ih _)

/-- The steps the firmware has before it when it empties the boxes. -/
def work (w : Mailbox) (unread : List (UInt8 × List UInt8)) : ℕ := 3 * unread.length - w.fw.stage.done

namespace Linked

variable {w : Mailbox} {unread : List (UInt8 × List UInt8)}

theorem initial (regs : Regs) : Linked (initial regs) [] where
  ring := by
    have hnil : Ring.Holds 4 (fun _ => False) (inBox (Mailbox.initial regs).regs) 0 [] :=
      Ring.Holds.nil (by norm_num)
    refine hnil.congr (fun k _ => ?_) (fun k _ _ => rfl)
    simp [Mailbox.initial, boxFull]
  last := rfl
  order := rfl
  reading := trivial
  intact := rfl

variable (h : Linked w unread)
include h

theorem read {b ext : List UInt8} (hstage : w.fw.stage = .extRead b ext) :
    ∃ rest, unread = inBox w.regs w.fw.cursor :: rest ∧ Linked w.fwStep rest := by
  have hreading := h.reading
  rw [hstage] at hreading
  obtain ⟨hfull, rfl, rfl⟩ := hreading
  obtain ⟨rest, hunread, hring⟩ := h.ring.pop hfull
  have hlt := h.ring.head_lt
  have hregs : w.fwStep.regs = setBoxBit w.regs w.fw.cursor false := by simp only [fwStep, hstage]
  have hfw : w.fwStep.fw = ⟨(w.fw.cursor + 1) % 4, .idle, w.fw.received ++ [inBox w.regs w.fw.cursor]⟩ := by
    simp only [fwStep, hstage]
    rfl
  have hkept := fwStep_kept w
  refine ⟨rest, hunread, ?_, ?_, ?_, ?_, ?_⟩
  · rw [hfw, hregs]
    refine hring.congr (fun k hk => ?_) (fun k hk _ => inBox_congr hk fun a ha => setBoxBit_of_ne _ _ _ ha)
    rw [boxFull_setBoxBit _ _ hlt hk]
    by_cases heq : k = w.fw.cursor
    · simp [heq]
    · simp [heq]
  · rw [hkept.lastHMEBoxNum, h.last, hfw, hunread]
    unfold Ring.tail
    rw [Nat.mod_add_mod, List.length_cons]
    congr 1
    ring
  · rw [hkept.sent, ← h.order, hfw, hunread, List.append_assoc]
    rfl
  · rw [hfw]
    trivial
  · have hsame : w.fwStep.overwrote = w.overwrote := by simp only [fwStep, hstage]
    rw [hsame, h.intact]

/-- Reading, the firmware gets on with its work; idle, it has none or starts. -/
theorem fwStep : ∃ unread', Linked w.fwStep unread' ∧ w.fwStep.work unread' ≤ w.work unread - 1 := by
  have hreading := h.reading
  cases hstage : w.fw.stage with
  | idle =>
    by_cases hfull : boxFull w.regs w.fw.cursor = true
    · have hstep : w.fwStep = { w with fw := { w.fw with stage := .boxRead (box w.regs w.fw.cursor) } } := by
        simp only [Mailbox.fwStep, hstage, if_pos hfull]
        rfl
      refine ⟨unread, hstep ▸ ⟨h.ring, h.last, h.order, ⟨hfull, rfl⟩, h.intact⟩, ?_⟩
      simp only [hstep, work, hstage, FwStage.done]
      omega
    · have hstep : w.fwStep = w := by simp only [Mailbox.fwStep, hstage, if_neg hfull]
      have hnil := h.ring.eq_nil hfull
      refine ⟨unread, hstep.symm ▸ h, ?_⟩
      rw [hnil]
      exact le_of_eq_of_le (Nat.zero_sub _) (Nat.zero_le _)
  | boxRead b =>
    rw [hstage] at hreading
    have hstep : w.fwStep = { w with fw := { w.fw with stage := .extRead b (boxExt w.regs w.fw.cursor) } } := by
      simp only [Mailbox.fwStep, hstage]
      rfl
    refine ⟨unread, hstep ▸ ⟨h.ring, h.last, h.order, ⟨hreading.1, hreading.2, rfl⟩, h.intact⟩, ?_⟩
    simp only [hstep, work, hstage, FwStage.done]
    omega
  | extRead b ext =>
    obtain ⟨rest, hunread, hlinked⟩ := h.read hstage
    refine ⟨rest, hlinked, ?_⟩
    have hidle : w.fwStep.fw.stage = .idle := by simp only [Mailbox.fwStep, hstage]
    simp only [work, hidle, hstage, FwStage.done, hunread, List.length_cons]
    omega

theorem fwSteps (k : ℕ) : ∃ unread', Linked (w.fwSteps k) unread' ∧ (w.fwSteps k).work unread' ≤ w.work unread - k := by
  induction k generalizing w unread with
  | zero => exact ⟨unread, h, le_rfl⟩
  | succ k ih =>
    obtain ⟨unread', hstep, hwork⟩ := h.fwStep
    obtain ⟨unread'', hsteps, hwork'⟩ := ih hstep
    rw [fwSteps_succ]
    exact ⟨unread'', hsteps, by omega⟩

theorem fwSteps_all {k : ℕ} (hk : 12 ≤ k) : (w.fwSteps k).fw.received = w.sent.map expected := by
  obtain ⟨unread', hlinked, hwork⟩ := h.fwSteps k
  have hlen := h.ring.length_le
  have hnil : unread' = [] := by
    have hdone : (w.fwSteps k).fw.stage.done ≤ 2 := by
      cases (w.fwSteps k).fw.stage with
      | idle => exact Nat.zero_le 2
      | boxRead b => exact Nat.le_succ 1
      | extRead b ext => exact le_rfl
    unfold work at hwork
    rw [← List.length_eq_zero_iff]
    omega
  have horder := hlinked.order
  rw [hnil, List.append_nil, (fwSteps_kept k w).sent] at horder
  exact horder

end Linked

/-! ## `FillH2CCmd` -/

theorem fwSteps_add (j k : ℕ) (w : Mailbox) : (w.fwSteps j).fwSteps k = w.fwSteps (k + j) :=
  (Function.iterate_add_apply _ _ _ _).symm

theorem isFwReadCmdDownLoop_steps (sched : ℕ → ℕ) (msgboxNum retryCnts i : ℕ) (w : Mailbox) :
    ∃ k, (isFwReadCmdDownLoop sched msgboxNum retryCnts i w).2 = w.fwSteps k ∧
      ((isFwReadCmdDownLoop sched msgboxNum retryCnts i w).1 = true →
        boxFull (w.fwSteps k).regs msgboxNum = false) := by
  induction retryCnts generalizing i w with
  | zero =>
    refine ⟨sched i, ?_⟩
    unfold isFwReadCmdDownLoop
    cases hfull : boxFull (w.fwSteps (sched i)).regs msgboxNum with
    | false => simp [hfull]
    | true => simp [hfull]
  | succ retryCnts ih =>
    unfold isFwReadCmdDownLoop
    cases hfull : boxFull (w.fwSteps (sched i)).regs msgboxNum with
    | false => exact ⟨sched i, by simp [hfull], fun _ => hfull⟩
    | true =>
      obtain ⟨k, hsteps, hfree⟩ := ih (i + 1) (w.fwSteps (sched i))
      rw [fwSteps_add] at hsteps hfree
      refine ⟨k + sched i, ?_⟩
      simpa [hfull] using ⟨hsteps, hfree⟩

namespace Linked

variable {w w' : Mailbox} {unread : List (UInt8 × List UInt8)} {bytes : List UInt8}

theorem last_lt (h : Linked w unread) : w.lastHMEBoxNum < 4 :=
  h.last ▸ Nat.mod_lt _ (by norm_num)

theorem reading_of_free (h : Linked w unread) {regs : Regs} (hfree : boxFull w.regs w.lastHMEBoxNum = false)
    (hkeep : ∀ k < 4, k ≠ w.lastHMEBoxNum →
      boxFull regs k = boxFull w.regs k ∧ box regs k = box w.regs k ∧ boxExt regs k = boxExt w.regs k) :
    w.fw.stage.Reading regs w.fw.cursor := by
  have hreading := h.reading
  have hother : boxFull w.regs w.fw.cursor = true → w.fw.cursor ≠ w.lastHMEBoxNum := by
    intro hfull heq
    rw [heq, hfree] at hfull
    exact Bool.false_ne_true hfull
  cases hstage : w.fw.stage with
  | idle => trivial
  | boxRead b =>
    rw [hstage] at hreading
    obtain ⟨hfull, hbox, -⟩ := hkeep _ h.ring.head_lt (hother hreading.1)
    exact ⟨hfull.trans hreading.1, hreading.2.trans hbox.symm⟩
  | extRead b ext =>
    rw [hstage] at hreading
    obtain ⟨hfull, hbox, hext⟩ := hkeep _ h.ring.head_lt (hother hreading.1)
    exact ⟨hfull.trans hreading.1, hreading.2.1.trans hbox.symm, hreading.2.2.trans hext.symm⟩

theorem writeExt (h : Linked w unread) (hfree : boxFull w.regs w.lastHMEBoxNum = false) (hlen : bytes.length = 2) :
    Linked (w.writeExt w.lastHMEBoxNum bytes) unread := by
  have hlt := h.last_lt
  have hkeep : ∀ k < 4, k ≠ w.lastHMEBoxNum →
      boxFull (w.writeExt w.lastHMEBoxNum bytes).regs k = boxFull w.regs k ∧
      box (w.writeExt w.lastHMEBoxNum bytes).regs k = box w.regs k ∧
      boxExt (w.writeExt w.lastHMEBoxNum bytes).regs k = boxExt w.regs k := fun k _ hne =>
    ⟨boxFull_writeExt hlt hlen, box_writeExt hlt hlen, boxExt_writeExt_of_ne hlen hne⟩
  refine ⟨h.ring.congr (fun k _ => ?_) (fun k hk hfull => ?_), h.last, h.order, h.reading_of_free hfree hkeep, ?_⟩
  · show boxFull (writeBytes _ _ _) k = true ↔ _
    rw [boxFull_writeExt hlt hlen]
  · have hne : k ≠ w.lastHMEBoxNum := by
      rintro rfl
      rw [hfree] at hfull
      exact Bool.false_ne_true hfull
    obtain ⟨-, hbox, hext⟩ := hkeep k hk hne
    unfold inBox
    rw [hbox, hext]
  · show (w.overwrote || boxFull w.regs w.lastHMEBoxNum) = false
    rw [h.intact, hfree, Bool.or_false]

theorem written (h : Linked w unread) {c : UInt8 × List UInt8} (hfree : boxFull w.regs w.lastHMEBoxNum = false)
    (hlen : bytes.length = 4) (hc : decode bytes (boxExt w.regs w.lastHMEBoxNum) = expected c)
    (hregs : w'.regs = setBoxBit (writeBytes w.regs (msgboxAddr w.lastHMEBoxNum) bytes) w.lastHMEBoxNum true)
    (hfw : w'.fw = w.fw) (hlast : w'.lastHMEBoxNum = (w.lastHMEBoxNum + 1) % 4) (hsent : w'.sent = w.sent ++ [c])
    (hover : w'.overwrote = (w.overwrote || boxFull w.regs w.lastHMEBoxNum)) :
    Linked w' (unread ++ [expected c]) := by
  have hlt := h.last_lt
  have hoff : ∀ a, a ≠ REG_HMETFR → w'.regs a = writeBytes w.regs (msgboxAddr w.lastHMEBoxNum) bytes a :=
    fun a ha => by rw [hregs, setBoxBit_of_ne _ _ _ ha]
  have hfull : ∀ k < 4, boxFull w'.regs k = if k = w.lastHMEBoxNum then true else boxFull w.regs k := by
    intro k hk
    rw [hregs, boxFull_setBoxBit _ _ hlt hk, boxFull_writeBox]
  have hbox : ∀ k, k ≠ w.lastHMEBoxNum → box w'.regs k = box w.regs k := fun k hne =>
    (box_congr hoff).trans (box_writeBox_of_ne hlen hne)
  have hext : ∀ k < 4, boxExt w'.regs k = boxExt w.regs k := fun k hk =>
    (boxExt_congr hk hoff).trans (boxExt_writeBox hk)
  have hfree' : ¬ boxFull w.regs (Ring.tail 4 w.fw.cursor unread) = true := by
    rw [← h.last, hfree]
    exact Bool.false_ne_true
  refine ⟨?_, ?_, ?_, ?_, ?_⟩
  · rw [hfw]
    refine (h.ring.push hfree').congr (fun k hk => ?_) (fun k hk _ => ?_)
    · rw [hfull k hk, ← h.last]
      by_cases heq : k = w.lastHMEBoxNum
      · simp [heq]
      · simp [heq]
    · rw [← h.last]
      by_cases heq : k = w.lastHMEBoxNum
      · rw [heq, Function.update_self, ← hc]
        unfold inBox
        rw [hext _ hlt, box_congr hoff, box_writeBox hlen]
      · rw [Function.update_of_ne heq]
        unfold inBox
        rw [hbox k heq, hext k hk]
  · rw [hlast, hfw, h.last]
    unfold Ring.tail
    rw [Nat.mod_add_mod, List.length_append, List.length_singleton, add_assoc]
  · rw [hfw, hsent, List.map_append, ← h.order, List.append_assoc]
    rfl
  · rw [hfw]
    refine h.reading_of_free hfree fun k hk hne => ⟨?_, hbox k hne, hext k hk⟩
    rw [hfull k hk, if_neg hne]
  · rw [hover, h.intact, hfree, Bool.or_false]

theorem extended (h : Linked w unread) (hfree : boxFull w.regs w.lastHMEBoxNum = false) {elementID : UInt8}
    (hid : elementID < 128) (cmd : List UInt8) (n : ℕ)
    (hw : w' = if (h2cCmd elementID cmd).headD 0 &&& 0x80 ≠ 0 then
      (w.fwSteps n).writeExt w.lastHMEBoxNum (h2cCmdEx cmd) else w) :
    ∃ unread', Linked w' unread' ∧ w'.lastHMEBoxNum = w.lastHMEBoxNum ∧ w'.sent = w.sent ∧
      boxFull w'.regs w.lastHMEBoxNum = false ∧
      (¬ cmd.length ≤ 3 → boxExt w'.regs w.lastHMEBoxNum = h2cCmdEx cmd) := by
  have hbit := h2cCmd_ext hid cmd
  by_cases hshort : cmd.length ≤ 3
  · rw [if_neg (fun hne => hbit.mp hne hshort)] at hw
    subst hw
    exact ⟨unread, h, rfl, rfl, hfree, fun hlong => absurd hshort hlong⟩
  · rw [if_pos (hbit.mpr hshort)] at hw
    obtain ⟨unread', hsteps, -⟩ := h.fwSteps n
    have hkept := fwSteps_kept n w
    have hlast := hkept.lastHMEBoxNum
    have hfree' := hkept.free _ hfree
    have hexlen := h2cCmdEx_length cmd
    rw [← hlast] at hw hfree' ⊢
    subst hw
    refine ⟨unread', hsteps.writeExt hfree' hexlen, rfl, hkept.sent, ?_, fun _ => boxExt_writeExt hexlen⟩
    exact (boxFull_writeExt hsteps.last_lt hexlen).trans hfree'

theorem fillBox (h : Linked w unread) (hfree : boxFull w.regs w.lastHMEBoxNum = false) {elementID : UInt8}
    (hid : elementID < 128) {cmd : List UInt8} (hlen : cmd.length ≤ RTL92C_MAX_CMD_LEN) (sched : ℕ → ℕ)
    (hfw : w'.fw = (w.fillBox sched w.lastHMEBoxNum elementID cmd).fw)
    (hregs : w'.regs = (w.fillBox sched w.lastHMEBoxNum elementID cmd).regs)
    (hlast : w'.lastHMEBoxNum = (w.lastHMEBoxNum + 1) % 4) (hsent : w'.sent = w.sent ++ [(elementID, cmd)])
    (hover : w'.overwrote = (w.fillBox sched w.lastHMEBoxNum elementID cmd).overwrote) :
    ∃ unread', Linked w' unread' := by
  unfold Mailbox.fillBox at hfw hregs hover
  dsimp only at hfw hregs hover
  generalize hw₁ : (if (h2cCmd elementID cmd).headD 0 &&& 0x80 ≠ 0 then
    (w.fwSteps (sched 101)).writeExt w.lastHMEBoxNum (h2cCmdEx cmd) else w) = w₁ at hfw hregs hover
  obtain ⟨unread₁, h₁, hlast₁, hsent₁, hfree₁, hext₁⟩ := h.extended hfree hid cmd (sched 101) hw₁.symm
  obtain ⟨unread₂, h₂, -⟩ := h₁.fwSteps (sched 102)
  have hkept := fwSteps_kept (sched 102) w₁
  have hlast₂ : (w₁.fwSteps (sched 102)).lastHMEBoxNum = w.lastHMEBoxNum := hkept.lastHMEBoxNum.trans hlast₁
  rw [← hlast₂] at hregs hover hlast
  refine ⟨_, h₂.written (c := (elementID, cmd)) ?_ (h2cCmd_length elementID hlen) ?_ hregs hfw hlast ?_ hover⟩
  · rw [hlast₂]
    exact hkept.free _ hfree₁
  · rw [hlast₂]
    refine decode_h2cCmd hid hlen fun hlong => ?_
    rw [boxExt_congr h.last_lt hkept.regs]
    exact hext₁ hlong
  · rw [hkept.sent, hsent₁, hsent]

end Linked

theorem fillBox_sent (sched : ℕ → ℕ) (w : Mailbox) (boxNum : ℕ) (elementID : UInt8) (cmd : List UInt8) :
    (w.fillBox sched boxNum elementID cmd).sent = w.sent := by
  unfold fillBox
  refine (fwSteps_kept (sched 102) _).sent.trans ?_
  split
  · exact (fwSteps_kept (sched 101) w).sent
  · rfl

/-- What a call does: it fails and only the firmware has moved, or it polls until the box is free and fills
it. -/
theorem fillH2CCmd_cases (sched : ℕ → ℕ) (bSurpriseRemoved : Bool) (elementID : UInt8) (cmdLen : ℕ)
    (pCmdBuffer : Option (ℕ → UInt8)) (w : Mailbox) :
    ∃ k, w.fillH2CCmd sched bSurpriseRemoved elementID cmdLen pCmdBuffer = (false, w.fwSteps k) ∨
      cmdLen ≤ RTL92C_MAX_CMD_LEN ∧ boxFull (w.fwSteps k).regs (w.fwSteps k).lastHMEBoxNum = false ∧
      w.fillH2CCmd sched bSurpriseRemoved elementID cmdLen pCmdBuffer =
        (true, (w.fwSteps k).fillBox sched (w.fwSteps k).lastHMEBoxNum elementID (cmdBytes cmdLen pCmdBuffer)) := by
  cases pCmdBuffer with
  | none => exact ⟨0, .inl rfl⟩
  | some buffer =>
    unfold fillH2CCmd
    dsimp only
    by_cases hlen : RTL92C_MAX_CMD_LEN < cmdLen
    · rw [if_pos hlen]
      exact ⟨0, .inl rfl⟩
    · rw [if_neg hlen]
      cases bSurpriseRemoved with
      | true => exact ⟨0, .inl rfl⟩
      | false =>
        obtain ⟨k, hsteps, hfree⟩ := isFwReadCmdDownLoop_steps sched w.lastHMEBoxNum 100 0 w
        have hdown : isFwReadCmdDown sched w w.lastHMEBoxNum =
            ((isFwReadCmdDown sched w w.lastHMEBoxNum).1, w.fwSteps k) := Prod.ext rfl hsteps
        rw [hdown]
        cases hresult : (isFwReadCmdDown sched w w.lastHMEBoxNum).1 with
        | false => exact ⟨k, .inl rfl⟩
        | true =>
          refine ⟨k, .inr ⟨not_lt.mp hlen, ?_, rfl⟩⟩
          rw [(fwSteps_kept k w).lastHMEBoxNum]
          exact hfree hresult

theorem fillH2CCmd_fail {sched : ℕ → ℕ} {bSurpriseRemoved : Bool} {elementID : UInt8} {cmdLen : ℕ}
    {pCmdBuffer : Option (ℕ → UInt8)} {w : Mailbox}
    (hfail : (w.fillH2CCmd sched bSurpriseRemoved elementID cmdLen pCmdBuffer).1 = false) :
    Kept w (w.fillH2CCmd sched bSurpriseRemoved elementID cmdLen pCmdBuffer).2 := by
  obtain ⟨k, heq | ⟨-, -, heq⟩⟩ := fillH2CCmd_cases sched bSurpriseRemoved elementID cmdLen pCmdBuffer w
  · rw [heq]
    exact fwSteps_kept k w
  · rw [heq] at hfail
    exact absurd hfail.symm Bool.false_ne_true

end Mailbox

/-- `ElementID` fits the seven bits it has. -/
def H2cEvent.Element7 : H2cEvent → Prop
  | .fill _ _ elementID _ _ => elementID < 128
  | .firmware _ => True

namespace Mailbox

theorem Linked.step {w : Mailbox} {unread : List (UInt8 × List UInt8)} (h : Linked w unread) {e : H2cEvent}
    (he : e.Element7) : ∃ unread', Linked (w.step e) unread' := by
  cases e with
  | firmware k =>
    obtain ⟨unread', hsteps, -⟩ := h.fwSteps k
    exact ⟨unread', hsteps⟩
  | fill sched bSurpriseRemoved elementID cmdLen pCmdBuffer =>
    unfold Mailbox.step
    dsimp only
    obtain ⟨k, heq | ⟨hlen, hfree, heq⟩⟩ := fillH2CCmd_cases sched bSurpriseRemoved elementID cmdLen pCmdBuffer w
    · rw [heq]
      obtain ⟨unread', hsteps, -⟩ := h.fwSteps k
      exact ⟨unread', hsteps⟩
    · rw [heq]
      obtain ⟨unread', hsteps, -⟩ := h.fwSteps k
      have hbytes : (cmdBytes cmdLen pCmdBuffer).length ≤ RTL92C_MAX_CMD_LEN := by
        cases pCmdBuffer with
        | none => exact Nat.zero_le _
        | some buffer => exact (List.length_map buffer).trans List.length_range ▸ hlen
      refine hsteps.fillBox hfree he hbytes sched rfl rfl rfl ?_ rfl
      exact congrArg (· ++ [(elementID, cmdBytes cmdLen pCmdBuffer)]) (fillBox_sent _ _ _ _ _)

theorem Linked.run {w : Mailbox} {unread : List (UInt8 × List UInt8)} (h : Linked w unread)
    {events : List H2cEvent} (hevents : ∀ e ∈ events, e.Element7) : ∃ unread', Linked (w.run events) unread' := by
  induction events generalizing w unread with
  | nil => exact ⟨unread, h⟩
  | cons e events ih =>
    obtain ⟨unread', hstep⟩ := h.step (hevents e List.mem_cons_self)
    exact ih hstep fun e' he' => hevents e' (List.mem_cons_of_mem _ he')

/-- Nothing is overwritten; what the firmware has read is what was sent first, in order, and it gets to the
rest; a call that fails leaves the boxes and `LastHMEBoxNum` as they are. -/
theorem fillH2CCmd_ring (regs : Regs) (events : List H2cEvent) (hevents : ∀ e ∈ events, e.Element7) :
    let w := (initial regs).run events
    w.overwrote = false ∧ w.fw.received <+: w.sent.map expected ∧
      (∀ k, 12 ≤ k → (w.fwSteps k).fw.received = w.sent.map expected) ∧
      ∀ (sched : ℕ → ℕ) (bSurpriseRemoved : Bool) (elementID : UInt8) (cmdLen : ℕ)
        (pCmdBuffer : Option (ℕ → UInt8)),
        (w.fillH2CCmd sched bSurpriseRemoved elementID cmdLen pCmdBuffer).1 = false →
        let w' := (w.fillH2CCmd sched bSurpriseRemoved elementID cmdLen pCmdBuffer).2
        w'.lastHMEBoxNum = w.lastHMEBoxNum ∧
          ∀ n < RTL92C_MAX_H2C_BOX_NUMS, box w'.regs n = box w.regs n ∧ boxExt w'.regs n = boxExt w.regs n := by
  obtain ⟨unread, h⟩ := (Linked.initial regs).run hevents
  refine ⟨h.intact, ⟨unread, h.order⟩, fun k hk => h.fwSteps_all hk, ?_⟩
  intro sched bSurpriseRemoved elementID cmdLen pCmdBuffer hfail
  have hkept := fillH2CCmd_fail hfail
  exact ⟨hkept.lastHMEBoxNum, fun n hn => ⟨box_congr hkept.regs, boxExt_congr hn hkept.regs⟩⟩

/-- A command of four bytes, one of five while the first waits, one of two. -/
def threeCalls : List H2cEvent :=
  [.fill (fun _ => 0) false 6 4 (some fun i => UInt8.ofNat (i + 1)),
    .fill (fun i => if i = 101 then 2 else 0) false 127 5 (some fun _ => 255), .firmware 3,
    .fill (fun _ => 0) false 0 2 (some fun _ => 7)]

theorem fillH2CCmd_ring_threeCalls :
    ((initial fun _ => 170).run threeCalls).overwrote = false ∧
      (((initial fun _ => 170).run threeCalls).fwSteps 12).fw.received =
        [(6, [1, 2, 3, 4, 0]), (127, [255, 255, 255, 255, 255]), (0, [7, 7, 0])] := by
  have hevents : ∀ e ∈ threeCalls, e.Element7 := by
    simp [threeCalls, H2cEvent.Element7]
  obtain ⟨hintact, -, hall, -⟩ := fillH2CCmd_ring (fun _ => 170) threeCalls hevents
  refine ⟨hintact, (hall 12 le_rfl).trans ?_⟩
  decide +kernel

end Mailbox

end Rtl8723au.H2c
