import Rtl8723au.Library.CheckedArith
import Rtl8723au.Library.GuardedRuns

/-! The initial gain, from `hal/odm.c`: `odm_DIGInit`, `odm_DIG` and `ODM_Write_DIG` for an 8723A on a normal board, under
the NIC bounds. -/
namespace Rtl8723au
namespace Dig
open CheckedArith GuardedRuns
set_option autoImplicit false

def DM_DIG_MAX_NIC : ℤ := 0x4e
def DM_DIG_MIN_NIC : ℤ := 0x1e
def DM_DIG_FA_TH0 : ℕ := 0x200
def DM_DIG_FA_TH1 : ℕ := 0x300
def DM_DIG_FA_TH2 : ℕ := 0x400

/-- `DIG_T`. -/
structure DigTable where
  curIGValue : ℤ
  rxGainRangeMax : ℤ
  rxGainRangeMin : ℤ
  forbiddenIGI : ℤ
  largeFAHit : ℤ
  recoverCnt : ℕ
  digDynamicMin0 : ℤ
  bMediaConnect0 : Bool

/-- What a step finds: the flags it returns on, and what it reads of the link and of the false alarms. -/
structure DigEvent where
  supportDig : Bool
  supportFACnt : Bool
  bScanInProcess : Bool
  bDMInitialGainEnable : Bool
  bLinked : Bool
  bBtBusy : Bool
  rssiMin : UInt8
  cntAll : ℕ

def DigEvent.rssi (e : DigEvent) : ℤ := e.rssiMin.toNat

/-- `odm_DIGInit`, with what `ODM_GetBBReg` has read. -/
def odmDIGInit (igi : ℤ) : DigTable where
  curIGValue := u8.wrap igi
  rxGainRangeMax := DM_DIG_MAX_NIC
  rxGainRangeMin := DM_DIG_MIN_NIC
  forbiddenIGI := DM_DIG_MIN_NIC
  largeFAHit := 0
  recoverCnt := 0
  digDynamicMin0 := DM_DIG_MIN_NIC
  bMediaConnect0 := false

/-! ## The bounds -/

/-- The comparisons by which `x` becomes a bound; they are of `int`s. -/
def bounded (x : ℤ) : ℤ :=
  if DM_DIG_MAX_NIC < x then DM_DIG_MAX_NIC
  else if x < DM_DIG_MIN_NIC then DM_DIG_MIN_NIC
  else x

def gainMax (e : DigEvent) : ℤ := if e.bLinked then bounded (e.rssi + 10) else DM_DIG_MAX_NIC

variable (bt30 : Bool)

/-- `DIG_Dynamic_MIN` of a step; `bt30` is whether `BT_30_SUPPORT` is built. -/
def dynamicMin (e : DigEvent) : ℤ :=
  if e.bLinked then
    if bt30 && e.bBtBusy then if 10 < e.rssi then bounded (e.rssi - 10) else DM_DIG_MIN_NIC
    else DM_DIG_MIN_NIC
  else DM_DIG_MIN_NIC

/-- `LargeFAHit` after a step with abnormally many false alarms. -/
def nextHit (s : DigTable) : ℤ :=
  if s.forbiddenIGI < s.curIGValue then 1
  else if s.largeFAHit ≠ 3 then u8.wrap (s.largeFAHit + 1) else s.largeFAHit

def nextForbidden (s : DigTable) : ℤ := if s.forbiddenIGI < s.curIGValue then s.curIGValue else s.forbiddenIGI

/-- More than 10000 false alarms: the gain at which they came is forbidden, and from the third time on it bounds the gain
from below. -/
def abnormal (s : DigTable) : Arith DigTable :=
  let s := { s with largeFAHit := nextHit s, forbiddenIGI := nextForbidden s }
  if 3 ≤ s.largeFAHit then
    if s.rxGainRangeMax < s.forbiddenIGI + 1 then pure { s with rxGainRangeMin := s.rxGainRangeMax, recoverCnt := 3600 }
    else do
      let gain ← result u8 (s.forbiddenIGI + 1)
      pure { s with rxGainRangeMin := gain, recoverCnt := 3600 }
  else pure s

def recover (s : DigTable) (digDynamicMin : ℤ) : Arith DigTable :=
  if s.recoverCnt ≠ 0 then pure { s with recoverCnt := s.recoverCnt - 1 }
  else if s.largeFAHit < 3 then
    if s.forbiddenIGI - 1 < digDynamicMin then
      pure { s with forbiddenIGI := digDynamicMin, rxGainRangeMin := digDynamicMin }
    else do
      let forbidden ← result u8 (s.forbiddenIGI - 1)
      let gain ← result u8 (forbidden + 1)
      pure { s with forbiddenIGI := forbidden, rxGainRangeMin := gain }
  else pure { s with largeFAHit := 0 }

/-! ## The gain -/

/-- The change of `CurrentIGI` by the false alarms. -/
def adjust (s : DigTable) (firstConnect firstDisConnect : Bool) (e : DigEvent) (current : ℤ) : Arith ℤ :=
  if e.bLinked then
    if firstConnect then pure e.rssi
    else if bt30 && e.bBtBusy then
      if 0x300 < e.cntAll then result u8 (current + 2)
      else if 0x250 < e.cntAll then result u8 (current + 1)
      else if e.cntAll < DM_DIG_FA_TH0 then result u8 (current - 1)
      else pure current
    else
      if DM_DIG_FA_TH2 < e.cntAll then result u8 (current + 4)
      else if DM_DIG_FA_TH1 < e.cntAll then result u8 (current + 2)
      else if e.cntAll < DM_DIG_FA_TH0 then result u8 (current - 2)
      else pure current
  else
    if firstDisConnect then pure s.rxGainRangeMin
    else if 10000 < e.cntAll then result u8 (current + 2)
    else if 8000 < e.cntAll then result u8 (current + 1)
    else if e.cntAll < 500 then result u8 (current - 1)
    else pure current

/-- The check of `CurrentIGI` by the bounds: the upper one first, so that the lower one has the last word. -/
def checkBounds (s : DigTable) (current : ℤ) : ℤ :=
  let current := if s.rxGainRangeMax < current then s.rxGainRangeMax else current
  if current < s.rxGainRangeMin then s.rxGainRangeMin else current

/-- `ODM_Write_DIG`, without the register. -/
def odmWriteDIG (s : DigTable) (currentIGI : ℤ) : DigTable :=
  if s.curIGValue ≠ currentIGI then { s with curIGValue := currentIGI } else s

/-- The steps that return at once. -/
def DigEvent.Returns (e : DigEvent) : Prop :=
  e.supportDig = false ∨ e.supportFACnt = false ∨ e.bScanInProcess = true ∨ e.bDMInitialGainEnable = false

instance (e : DigEvent) : Decidable e.Returns := inferInstanceAs (Decidable (_ ∨ _))

def boundary (s : DigTable) (e : DigEvent) : Arith DigTable :=
  let s := { s with rxGainRangeMax := gainMax e }
  if 10000 < e.cntAll then abnormal s else recover s (dynamicMin bt30 e)

def odmDIG (s : DigTable) (e : DigEvent) : Arith DigTable :=
  if e.Returns then pure s
  else do
    let firstConnect := e.bLinked && !s.bMediaConnect0
    let firstDisConnect := !e.bLinked && s.bMediaConnect0
    let t ← boundary bt30 s e
    let current ← adjust bt30 t firstConnect firstDisConnect e s.curIGValue
    let t := odmWriteDIG t (checkBounds t current)
    pure { t with bMediaConnect0 := e.bLinked, digDynamicMin0 := dynamicMin bt30 e }

/-- The table and all arithmetic so far, after one more step. -/
def step (m : Arith DigTable) (e : DigEvent) : Option (Arith DigTable) := some (m >>= fun s => odmDIG bt30 s e)

/-! ## What is to hold -/

/-- The gain lies in its window, and the window within the bounds of the chip. -/
structure InWindow (s : DigTable) : Prop where
  low : DM_DIG_MIN_NIC ≤ s.rxGainRangeMin
  ordered : s.rxGainRangeMin ≤ s.rxGainRangeMax
  high : s.rxGainRangeMax ≤ DM_DIG_MAX_NIC
  gain : s.rxGainRangeMin ≤ s.curIGValue ∧ s.curIGValue ≤ s.rxGainRangeMax
  forbidden : DM_DIG_MIN_NIC ≤ s.forbiddenIGI ∧ s.forbiddenIGI ≤ DM_DIG_MAX_NIC

/-- The table is as it should be, and nothing has wrapped. -/
def Sound (m : Arith DigTable) : Prop := NoWrap m ∧ InWindow m.value

/-- The lower bound that a step keeps or remembers is not above the upper bound that it sets. -/
def LowerFits (s : DigTable) (e : DigEvent) : Prop :=
  if 10000 < e.cntAll then 3 ≤ nextHit s ∨ s.rxGainRangeMin ≤ gainMax e
  else if s.recoverCnt = 0 ∧ s.largeFAHit < 3 then
    s.forbiddenIGI - 1 < dynamicMin bt30 e ∨ s.forbiddenIGI ≤ gainMax e
  else s.rxGainRangeMin ≤ gainMax e

/-- The condition on a step. -/
def KeepsBelow (m : Arith DigTable) (e : DigEvent) : Prop := e.Returns ∨ LowerFits bt30 m.value e

/-! ## One step -/

theorem bounded_mem (x : ℤ) : DM_DIG_MIN_NIC ≤ bounded x ∧ bounded x ≤ DM_DIG_MAX_NIC := by
  have hmax : DM_DIG_MAX_NIC = 0x4e := rfl
  have hmin : DM_DIG_MIN_NIC = 0x1e := rfl
  rw [bounded]
  split
  · omega
  split <;> omega

theorem bounded_mono {x y : ℤ} (h : x ≤ y) : bounded x ≤ bounded y := by
  have hmax : DM_DIG_MAX_NIC = 0x4e := rfl
  have hmin : DM_DIG_MIN_NIC = 0x1e := rfl
  rw [bounded, bounded]
  split
  · split <;> omega
  split
  · split
    · omega
    split <;> omega
  · split
    · omega
    split <;> omega

theorem gainMax_mem (e : DigEvent) : DM_DIG_MIN_NIC ≤ gainMax e ∧ gainMax e ≤ DM_DIG_MAX_NIC := by
  rw [gainMax]
  split
  · exact bounded_mem _
  · exact ⟨by decide, le_rfl⟩

theorem dynamicMin_mem (e : DigEvent) : DM_DIG_MIN_NIC ≤ dynamicMin bt30 e ∧ dynamicMin bt30 e ≤ gainMax e := by
  have hmax := gainMax_mem e
  rw [dynamicMin]
  split
  next hlinked =>
    split
    · split
      · refine ⟨(bounded_mem _).1, ?_⟩
        rw [gainMax, if_pos hlinked]
        exact bounded_mono (by omega)
      · exact ⟨le_rfl, hmax.1⟩
    · exact ⟨le_rfl, hmax.1⟩
  · exact ⟨le_rfl, hmax.1⟩

/-- The table behind the bounds: all but the lower bound is in order, and that is if the remembered one fits. -/
structure Bounds (s : DigTable) (e : DigEvent) (t : DigTable) : Prop where
  gain : t.curIGValue = s.curIGValue
  max : t.rxGainRangeMax = gainMax e
  low : DM_DIG_MIN_NIC ≤ t.rxGainRangeMin
  forbidden : DM_DIG_MIN_NIC ≤ t.forbiddenIGI ∧ t.forbiddenIGI ≤ DM_DIG_MAX_NIC
  fits : t.rxGainRangeMin ≤ gainMax e ↔ LowerFits bt30 s e

theorem abnormal_yields {s : DigTable} (hs : InWindow s) {e : DigEvent} (hcnt : 10000 < e.cntAll) :
    ∃ t, Yields (abnormal { s with rxGainRangeMax := gainMax e }) t ∧ Bounds bt30 s e t := by
  have hmin : DM_DIG_MIN_NIC = 0x1e := rfl
  have hmax : DM_DIG_MAX_NIC = 0x4e := rfl
  have hgain := gainMax_mem e
  obtain ⟨hlow, hordered, hhigh, ⟨hcur0, hcur⟩, hforb0, hforb⟩ := hs
  have hnext : DM_DIG_MIN_NIC ≤ nextForbidden s ∧ nextForbidden s ≤ DM_DIG_MAX_NIC := by
    rw [nextForbidden]
    split <;> omega
  have hfits : LowerFits bt30 s e ↔ 3 ≤ nextHit s ∨ s.rxGainRangeMin ≤ gainMax e := by
    rw [LowerFits, if_pos hcnt]
  rw [abnormal]
  by_cases hhit : 3 ≤ nextHit s
  · rw [if_pos (by exact hhit)]
    by_cases hover : gainMax e < nextForbidden s + 1
    · rw [if_pos (by exact hover)]
      exact ⟨_, yields_pure _, rfl, rfl, hgain.1, hnext, iff_of_true le_rfl (hfits.mpr (Or.inl hhit))⟩
    · rw [if_neg (by exact hover)]
      have habove : Yields (result u8 (nextForbidden s + 1)) (nextForbidden s + 1) := yields_u8 (by omega) (by omega)
      refine ⟨_, habove.bind (yields_pure _), rfl, rfl, ?_, hnext, iff_of_true ?_ (hfits.mpr (Or.inl hhit))⟩
      · show DM_DIG_MIN_NIC ≤ nextForbidden s + 1
        omega
      · show nextForbidden s + 1 ≤ gainMax e
        omega
  · rw [if_neg (by exact hhit)]
    exact ⟨_, yields_pure _, rfl, rfl, hlow, hnext, ⟨fun h => hfits.mpr (Or.inr h), fun h => (hfits.mp h).resolve_left hhit⟩⟩

theorem recover_yields {s : DigTable} (hs : InWindow s) {e : DigEvent} (hcnt : ¬ 10000 < e.cntAll) :
    ∃ t, Yields (recover { s with rxGainRangeMax := gainMax e } (dynamicMin bt30 e)) t ∧ Bounds bt30 s e t := by
  have hmin : DM_DIG_MIN_NIC = 0x1e := rfl
  have hmax : DM_DIG_MAX_NIC = 0x4e := rfl
  have hgain := gainMax_mem e
  have hdyn := dynamicMin_mem bt30 e
  obtain ⟨hlow, hordered, hhigh, -, hforb0, hforb⟩ := hs
  rw [recover]
  by_cases hcount : s.recoverCnt ≠ 0
  · rw [if_pos hcount]
    have hfits : LowerFits bt30 s e ↔ s.rxGainRangeMin ≤ gainMax e := by
      rw [LowerFits, if_neg hcnt, if_neg fun h => hcount h.1]
    exact ⟨_, yields_pure _, rfl, rfl, hlow, ⟨hforb0, hforb⟩, hfits.symm⟩
  rw [if_neg hcount]
  by_cases hhit : s.largeFAHit < 3
  · rw [if_pos hhit]
    have hfits : LowerFits bt30 s e ↔ s.forbiddenIGI - 1 < dynamicMin bt30 e ∨ s.forbiddenIGI ≤ gainMax e := by
      rw [LowerFits, if_neg hcnt, if_pos ⟨not_not.mp hcount, hhit⟩]
    by_cases hat : s.forbiddenIGI - 1 < dynamicMin bt30 e
    · rw [if_pos hat]
      exact ⟨_, yields_pure _, rfl, rfl, hdyn.1, ⟨hdyn.1, hdyn.2.trans hgain.2⟩, iff_of_true hdyn.2 (hfits.mpr (Or.inl hat))⟩
    · rw [if_neg hat]
      have hbelow : Yields (result u8 (s.forbiddenIGI - 1)) (s.forbiddenIGI - 1) := yields_u8 (by omega) (by omega)
      have hback : Yields (result u8 (s.forbiddenIGI - 1 + 1)) (s.forbiddenIGI - 1 + 1) := yields_u8 (by omega) (by omega)
      refine ⟨_, hbelow.bind (hback.bind (yields_pure _)), rfl, rfl, ?_, ⟨?_, ?_⟩, ?_⟩
      · show DM_DIG_MIN_NIC ≤ s.forbiddenIGI - 1 + 1
        omega
      · show DM_DIG_MIN_NIC ≤ s.forbiddenIGI - 1
        omega
      · show s.forbiddenIGI - 1 ≤ DM_DIG_MAX_NIC
        omega
      · show s.forbiddenIGI - 1 + 1 ≤ gainMax e ↔ _
        rw [hfits, or_iff_right hat, sub_add_cancel]
  · rw [if_neg hhit]
    have hfits : LowerFits bt30 s e ↔ s.rxGainRangeMin ≤ gainMax e := by
      rw [LowerFits, if_neg hcnt, if_neg fun h => hhit h.2]
    exact ⟨_, yields_pure _, rfl, rfl, hlow, ⟨hforb0, hforb⟩, hfits.symm⟩

theorem boundary_yields {s : DigTable} (hs : InWindow s) (e : DigEvent) :
    ∃ t, Yields (boundary bt30 s e) t ∧ Bounds bt30 s e t := by
  rw [boundary]
  by_cases hcnt : 10000 < e.cntAll
  · rw [if_pos hcnt]
    exact abnormal_yields bt30 hs hcnt
  · rw [if_neg hcnt]
    exact recover_yields bt30 hs hcnt

theorem adjust_yields (s : DigTable) (firstConnect firstDisConnect : Bool) (e : DigEvent) {current : ℤ}
    (h0 : DM_DIG_MIN_NIC ≤ current) (h1 : current ≤ DM_DIG_MAX_NIC) :
    ∃ next, Yields (adjust bt30 s firstConnect firstDisConnect e current) next := by
  have hmin : DM_DIG_MIN_NIC = 0x1e := rfl
  have hmax : DM_DIG_MAX_NIC = 0x4e := rfl
  have hup : ∀ k, -2 ≤ k → k ≤ 4 → Yields (result u8 (current + k)) (current + k) := fun k _ _ =>
    yields_u8 (by omega) (by omega)
  rw [adjust]
  repeat' split
  all_goals first
    | exact ⟨_, yields_pure _⟩
    | exact ⟨_, hup _ (by decide) (by decide)⟩

theorem odmWriteDIG_eq (s : DigTable) (currentIGI : ℤ) : odmWriteDIG s currentIGI = { s with curIGValue := currentIGI } := by
  rw [odmWriteDIG]
  split
  · rfl
  next h =>
    rw [← not_not.mp h]

theorem checkBounds_mem {s : DigTable} (h : s.rxGainRangeMin ≤ s.rxGainRangeMax) (current : ℤ) :
    s.rxGainRangeMin ≤ checkBounds s current ∧ checkBounds s current ≤ s.rxGainRangeMax := by
  rw [checkBounds]
  split <;> split <;> omega

/-- **A step from a sound table wraps nothing, and leaves the window in order exactly if the remembered bound fits.** -/
theorem odmDIG_yields {s : DigTable} (hs : InWindow s) (e : DigEvent) :
    ∃ s', Yields (odmDIG bt30 s e) s' ∧ (InWindow s' ↔ e.Returns ∨ LowerFits bt30 s e) := by
  rw [odmDIG]
  by_cases hreturns : e.Returns
  · rw [if_pos hreturns]
    exact ⟨s, yields_pure s, iff_of_true hs (Or.inl hreturns)⟩
  rw [if_neg hreturns, or_iff_right hreturns]
  obtain ⟨t, hboundary, ht⟩ := boundary_yields bt30 hs e
  obtain ⟨next, hadjust⟩ := adjust_yields bt30 t (e.bLinked && !s.bMediaConnect0) (!e.bLinked && s.bMediaConnect0) e
    (hs.low.trans hs.gain.1) (hs.gain.2.trans hs.high)
  refine ⟨_, hboundary.bind (hadjust.bind (yields_pure _)), ?_⟩
  rw [← ht.fits, ← ht.max, odmWriteDIG_eq]
  refine ⟨fun h => h.ordered, fun h => ⟨ht.low, h, ?_, checkBounds_mem h next, ht.forbidden⟩⟩
  show t.rxGainRangeMax ≤ _
  rw [ht.max]
  exact (gainMax_mem e).2

theorem step_sound {m m' : Arith DigTable} {e : DigEvent} (hm : Sound m) (hstep : step bt30 m e = some m') :
    Sound m' ↔ KeepsBelow bt30 m e := by
  obtain rfl := Option.some.inj hstep
  obtain ⟨s', ⟨hvalue, hnowrap⟩, hiff⟩ := odmDIG_yields bt30 hm.2 e
  have hbind : Yields (m >>= fun s => odmDIG bt30 s e) s' :=
    Yields.bind ⟨rfl, hm.1⟩ ⟨hvalue, hnowrap⟩
  rw [KeepsBelow, ← hiff, Sound, hbind.1]
  exact ⟨And.right, fun h => ⟨hbind.2, h⟩⟩

/-! ## Runs -/

theorem sound_init {igi : ℤ} (h0 : DM_DIG_MIN_NIC ≤ igi) (h1 : igi ≤ DM_DIG_MAX_NIC) : Sound (pure (odmDIGInit igi)) := by
  have hmin : DM_DIG_MIN_NIC = 0x1e := rfl
  have hmax : DM_DIG_MAX_NIC = 0x4e := rfl
  have hwindow : DM_DIG_MIN_NIC ≤ DM_DIG_MAX_NIC := by decide
  have hwrap : u8.wrap igi = igi := (wrap_u8 igi).trans (Int.emod_eq_of_lt (by omega) (by omega))
  refine ⟨(yields_pure _).2, ⟨le_rfl, hwindow, le_rfl, ?_, le_rfl, hwindow⟩⟩
  show DM_DIG_MIN_NIC ≤ u8.wrap igi ∧ u8.wrap igi ≤ DM_DIG_MAX_NIC
  rw [hwrap]
  exact ⟨h0, h1⟩

/-- **The gain stays in its window, and nothing wraps, in exactly the runs in which no step keeps a lower bound that is above
the upper bound it sets.** -/
theorem always_sound_iff (igi : ℤ) (h0 : DM_DIG_MIN_NIC ≤ igi) (h1 : igi ≤ DM_DIG_MAX_NIC) (events : List DigEvent) :
    Always (step bt30) Sound (pure (odmDIGInit igi)) events ↔
      Meets (step bt30) (KeepsBelow bt30) (pure (odmDIGInit igi)) events :=
  always_iff_meets (fun _ _ => ⟨_, rfl⟩) (fun _ _ _ hm hstep => step_sound bt30 hm hstep) (sound_init h0 h1)

/-- A step of a built-in adapter that is not scanning. -/
def stepSample (bLinked : Bool) (rssiMin : UInt8) (cntAll : ℕ) : DigEvent where
  supportDig := true
  supportFACnt := true
  bScanInProcess := false
  bDMInitialGainEnable := true
  bLinked := bLinked
  bBtBusy := false
  rssiMin := rssiMin
  cntAll := cntAll

theorem always_sound_iff_unlinked :
    Always (step false) Sound (pure (odmDIGInit 0x20)) [stepSample false 0 600] ↔
      Meets (step false) (KeepsBelow false) (pure (odmDIGInit 0x20)) [stepSample false 0 600] :=
  always_sound_iff false 0x20 (by decide) (by decide) [stepSample false 0 600]

/-- Many false alarms at the largest gain, then a link with a weak signal. -/
theorem not_always_sound_weak :
    ¬ Always (step false) Sound (pure (odmDIGInit 0x4e)) [stepSample false 0 20000, stepSample true 10 300] := by
  rintro ⟨-, -, hsound⟩
  have hordered := hsound.2.ordered
  revert hordered
  decide

end Dig

end Rtl8723au
