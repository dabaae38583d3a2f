import Rtl8723au.Library.ElementWalk

/-! Memory in regions of a size each. The trace of a computation tells which bytes of which regions it touches and which
lengths it calculates; it is good when every byte is inside its region and no length is below zero. -/
namespace Rtl8723au
open Mem AccessM
set_option autoImplicit false

/-- What a computation over regions does that can go wrong. -/
inductive Touch (ι : Type) where
  | byte (r : ι) (x : ℤ)
  | length (n : ℤ)

/-- The bytes of every region, also outside the part that belongs to it. -/
abbrev Regions (ι : Type) := ι → Mem

namespace Regions

abbrev R (ι α : Type) := AccessM (Touch ι) (Regions ι) α

variable {ι : Type} [DecidableEq ι]

def region (r : ι) : AccessM.Part (Touch ι) (Regions ι) ℤ Mem := ⟨fun s => s r, fun m s => Function.update s r m, .byte r⟩

/-- Read `n` bytes. -/
def load (r : ι) (x : ℤ) (n : ℕ) : R ι (List UInt8) := peekList (region r) x n

/-- The number in `n` bytes, little end first. -/
def leAt (m : Mem) (x : ℤ) (n : ℕ) : ℕ :=
  ((List.range n).map fun k : ℕ => m (x + k)).foldr (fun b acc => b.toNat + 256 * acc) 0

/-- A number in `n` bytes. -/
def leBytes (v n : ℕ) : List UInt8 := (List.range n).map fun k => UInt8.ofNat (v / 256 ^ k)

@[simp] theorem length_leBytes (v n : ℕ) : (leBytes v n).length = n := by simp [leBytes]

def loadLe (r : ι) (x : ℤ) (n : ℕ) : R ι ℕ := (fun l => l.foldr (fun b acc => b.toNat + 256 * acc) 0) <$> load r x n

/-- Read `n` bytes into a vector. -/
def loadVec (r : ι) (x : ℤ) (n : ℕ) : R ι (Vector UInt8 n) := (fun l => Vector.ofFn fun j => l.getD j 0) <$> load r x n

def store (r : ι) (x : ℤ) (l : List UInt8) : R ι Unit :=
  ⟨fun s => ⟨(), Function.update s r (putBytes (s r) x l), (List.range l.length).map fun k : ℕ => .byte r (x + k)⟩⟩

def memcpy (dst : ι) (d : ℤ) (src : ι) (x : ℤ) (n : ℕ) : R ι Unit := do
  let l ← load src x n
  store dst d l

def length (n : ℤ) : R ι Unit := touch [.length n]

/-! ## Good traces -/

/-- The `n` bytes from `x` on are inside the region. -/
def Within (size : ι → ℕ) (r : ι) (x : ℤ) (n : ℕ) : Prop := n = 0 ∨ 0 ≤ x ∧ x + n ≤ size r

def Fits (size : ι → ℕ) : Touch ι → Prop
  | .byte r x => 0 ≤ x ∧ x < size r
  | .length n => 0 ≤ n

instance (size : ι → ℕ) : DecidablePred (Fits size)
  | .byte r x => inferInstanceAs (Decidable (0 ≤ x ∧ x < size r))
  | .length n => inferInstanceAs (Decidable (0 ≤ n))

section
variable (size : ι → ℕ) (r : ι) (x : ℤ) (n : ℕ) (l : List UInt8) (s : Regions ι)

omit [DecidableEq ι] in
theorem fits_block : (∀ k < n, Fits size (.byte r (x + (k : ℕ)))) ↔ Within size r x n := by
  cases n with
  | zero => exact ⟨fun _ => .inl rfl, fun _ k hk => absurd hk (Nat.not_lt_zero k)⟩
  | succ n =>
    have hblock := block_inside_iff 0 (size r) x (n + 1) (Nat.succ_pos n)
    exact hblock.trans ⟨.inr, fun h => h.resolve_left (Nat.succ_ne_zero n)⟩

@[simp] theorem load_val : ((load r x n).run s).val = (List.range n).map fun k : ℕ => s r (x + k) := rfl
@[simp] theorem load_st : ((load r x n).run s).st = s := rfl
@[simp] theorem loadLe_val : ((loadLe r x n).run s).val = leAt (s r) x n := rfl
@[simp] theorem loadLe_st : ((loadLe r x n).run s).st = s := rfl
@[simp] theorem loadVec_st : ((loadVec r x n).run s).st = s := rfl
@[simp] theorem store_st : ((store r x l).run s).st = Function.update s r (putBytes (s r) x l) := rfl
@[simp] theorem memcpy_st (dst : ι) (d : ℤ) : ((memcpy dst d r x n).run s).st =
    Function.update s dst (putBytes (s dst) d ((List.range n).map fun k : ℕ => s r (x + k))) := rfl
omit [DecidableEq ι] in
@[simp] theorem length_st (k : ℤ) : ((length k : R ι Unit).run s).st = s := rfl

@[simp] theorem inside_load : Inside (Fits size) (load r x n) s ↔ Within size r x n := by
  rw [load, inside_peekList]
  exact fits_block size r x n

@[simp] theorem inside_loadLe : Inside (Fits size) (loadLe r x n) s ↔ Within size r x n := by
  simp [loadLe]

@[simp] theorem inside_loadVec : Inside (Fits size) (loadVec r x n) s ↔ Within size r x n := by
  simp [loadVec]

@[simp] theorem loadVec_val : ((loadVec r x n).run s).val = Vector.ofFn fun j : Fin n => s r (x + (j : ℕ)) := by
  ext j hj
  simp [loadVec]

@[simp] theorem inside_store : Inside (Fits size) (store r x l) s ↔ Within size r x l.length := by
  rw [← fits_block size r x l.length]
  simp [Inside, store]

@[simp] theorem inside_memcpy (dst : ι) (d : ℤ) :
    Inside (Fits size) (memcpy dst d r x n) s ↔ Within size r x n ∧ Within size dst d n := by
  simp [memcpy]

theorem inside_load_iff (P : Touch ι → Prop) : Inside P (load r x n) s ↔ ∀ k < n, P (.byte r (x + (k : ℕ))) := by
  rw [load, inside_peekList]
  exact Iff.rfl

theorem inside_store_iff (P : Touch ι → Prop) : Inside P (store r x l) s ↔ ∀ k < l.length, P (.byte r (x + (k : ℕ))) := by
  simp [Inside, store]

omit [DecidableEq ι] in
@[simp] theorem inside_length (k : ℤ) : Inside (Fits size) (length k : R ι Unit) s ↔ 0 ≤ k := by
  simp [length, Fits]

@[simp] theorem inside_peek_region : Inside (Fits size) (peek (region r) x) s ↔ Within size r x 1 := by
  rw [inside_peek, ← fits_block size r x 1]
  constructor
  · intro h k hk
    obtain rfl : k = 0 := by omega
    simpa [region] using h
  · intro h
    simpa [region] using h 0 Nat.one_pos

end

end Regions

/-! ## Indices that a loop visits -/

/-- A loop that starts at `i` and goes on to `next` comes to the index. -/
inductive Visits (next : ℕ → Option ℕ) (i : ℕ) : ℕ → Prop
  | start : Visits next i i
  | step {j k : ℕ} : Visits next i j → next j = some k → Visits next i k

namespace Visits

variable {next next' : ℕ → Option ℕ} {i j k : ℕ}

theorem head (h : next i = some j) (hk : Visits next j k) : Visits next i k := by
  induction hk with
  | start => exact .step .start h
  | step _ hnext ih => exact .step ih hnext

theorem cases_head : Visits next i k ↔ k = i ∨ ∃ j, next i = some j ∧ Visits next j k := by
  constructor
  · intro h
    induction h with
    | start => exact .inl rfl
    | step hj hnext ih =>
      rcases ih with rfl | ⟨m, hm, hmj⟩
      · exact .inr ⟨_, hnext, .start⟩
      · exact .inr ⟨m, hm, .step hmj hnext⟩
  · rintro (rfl | ⟨j, hj, hk⟩)
    · exact .start
    · exact head hj hk

theorem forall_iff {Q : ℕ → Prop} : (∀ k, Visits next i k → Q k) ↔
    Q i ∧ ∀ j, next i = some j → ∀ k, Visits next j k → Q k := by
  constructor
  · intro h
    exact ⟨h i .start, fun j hj k hk => h k (head hj hk)⟩
  · rintro ⟨hi, hrest⟩ k hk
    rcases cases_head.mp hk with rfl | ⟨j, hj, hjk⟩
    · exact hi
    · exact hrest j hj k hjk

theorem exists_iff {Q : ℕ → Prop} : (∃ k, Visits next i k ∧ Q k) ↔
    Q i ∨ ∃ j, next i = some j ∧ ∃ k, Visits next j k ∧ Q k := by
  constructor
  · rintro ⟨k, hk, hq⟩
    rcases cases_head.mp hk with rfl | ⟨j, hj, hjk⟩
    · exact .inl hq
    · exact .inr ⟨j, hj, k, hjk, hq⟩
  · rintro (hq | ⟨j, hj, k, hjk, hq⟩)
    · exact ⟨i, .start, hq⟩
    · exact ⟨k, head hj hjk, hq⟩

/-- What `next` leads to is visited in a range. -/
theorem lt (hk : Visits next i k) (limit : ℕ) (hi : i < limit) (h : ∀ j k, next j = some k → k < limit) : k < limit := by
  cases hk with
  | start => exact hi
  | step _ hnext => exact h _ _ hnext

theorem forall_congr {Q Q' : ℕ → Prop} (limit : ℕ) (hi : i < limit) (hlt : ∀ j k, next j = some k → k < limit)
    (hQ : ∀ j < limit, (Q j ↔ Q' j)) (hnext : ∀ j < limit, Q j → next' j = next j) :
    (∀ k, Visits next i k → Q k) ↔ ∀ k, Visits next' i k → Q' k := by
  constructor
  · intro h k hk
    have hvisits : Visits next i k := by
      induction hk with
      | start => exact .start
      | step _ hj ih => exact .step ih ((hnext _ (ih.lt limit hi hlt) (h _ ih)).symm.trans hj)
    exact (hQ k (hvisits.lt limit hi hlt)).mp (h k hvisits)
  · intro h k hk
    have hvisits : Visits next' i k := by
      induction hk with
      | start => exact .start
      | step hprev hj ih =>
        have hbound := hprev.lt limit hi hlt
        exact .step ih ((hnext _ hbound ((hQ _ hbound).mpr (h _ ih))).trans hj)
    exact (hQ k (hk.lt limit hi hlt)).mpr (h k hvisits)

end Visits

namespace AccessM

variable {A S : Type}

/-- Go on with the index that the body answers, until it answers none. -/
def iterate (body : ℕ → AccessM A S (Option ℕ)) : ℕ → ℕ → AccessM A S Unit
  | 0, _ => pure ()
  | fuel + 1, i => do
    let next ← body i
    match next with
    | none => pure ()
    | some j => iterate body fuel j

theorem inside_iterate (P : A → Prop) {body : ℕ → AccessM A S (Option ℕ)} {next : ℕ → Option ℕ} {limit : ℕ} {s : S}
    (hval : ∀ i < limit, ((body i).run s).val = next i) (hst : ∀ i j, next i = some j → ((body i).run s).st = s)
    (hup : ∀ i < limit, ∀ j, next i = some j → i < j ∧ j < limit) (fuel i : ℕ) (hi : i < limit) (hfuel : limit ≤ i + fuel) :
    Inside P (iterate body fuel i) s ↔ ∀ k, Visits next i k → Inside P (body k) s := by
  induction fuel generalizing i with
  | zero => omega
  | succ fuel ih =>
    rw [iterate, inside_bind, hval i hi, Visits.forall_iff]
    refine and_congr_right fun _ => ?_
    cases hnext : next i with
    | none => exact ⟨fun _ j hj => absurd hj (Option.some_ne_none j).symm, fun _ => inside_pure P () _⟩
    | some j =>
      obtain ⟨hlt, hj⟩ := hup i hi j hnext
      dsimp only
      rw [hst i j hnext, ih j hj (by omega)]
      exact ⟨fun h m hm => Option.some.inj hm ▸ h, fun h => h j rfl⟩

end AccessM

end Rtl8723au
