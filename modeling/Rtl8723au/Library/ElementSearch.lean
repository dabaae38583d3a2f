import Rtl8723au.Library.ElementWalk
import Rtl8723au.Library.Regions

/-! Searches for an element of a buffer. A search looks at an element, and goes on behind it as its length byte says when
it is not the one; what is looked at is a parameter, and it does not write. -/
namespace Rtl8723au
open Mem AccessM
set_option autoImplicit false

/-- What a pass of a search makes of an element. -/
inductive Look where
  | found | next | giveUp
  deriving DecidableEq

/-- What a search answers: where the element is, how many bytes it takes, and the copy if one is wanted. -/
structure Target where
  ptr : ℤ
  size : ℕ
  copy : List UInt8

/-- The bytes of an element, if they are wanted. -/
def copyElement (copies : Bool) (p : ℤ) (size : ℕ) : M (List UInt8) :=
  if copies then peekList whole p size else pure []

/-- `while (cnt < in_len)`: look at the element at `cnt`, answer it or go on behind it. -/
def search (inIe : ℤ) (inLen : ℕ) (copies : Bool) (look : ℕ → M Look) : ℕ → ℕ → M (Option Target)
  | 0, _ => pure none
  | fuel + 1, cnt =>
    if cnt < inLen then do
      let l ← look cnt
      match l with
      | .giveUp => pure none
      | .found => do
        let len ← read (inIe + cnt + 1)
        let copy ← copyElement copies (inIe + cnt) (len.toNat + 2)
        pure (some ⟨inIe + cnt, len.toNat + 2, copy⟩)
      | .next => do
        let len ← read (inIe + cnt + 1)
        search inIe inLen copies look fuel (cnt + (len.toNat + 2))
    else pure none

namespace Search

section
variable {inIe : ℤ} {inLen : ℕ} {copies : Bool} {look : ℕ → M Look}

theorem search_passes {fuel fuel' k : ℕ} (h : inLen ≤ k + fuel) (h' : inLen ≤ k + fuel') :
    search inIe inLen copies look fuel k = search inIe inLen copies look fuel' k := by
  have hend (fuel k : ℕ) (hk : inLen ≤ k) : search inIe inLen copies look fuel k = pure none := by
    cases fuel with
    | zero => rfl
    | succ fuel => exact if_neg (by omega)
  induction fuel generalizing fuel' k with
  | zero => rw [hend 0 k h, hend fuel' k h]
  | succ fuel ih =>
    cases fuel' with
    | zero => rw [hend _ k h', hend _ k h']
    | succ fuel' =>
      rw [search, search]
      congr 2
      funext l
      cases l with
      | giveUp => rfl
      | found => rfl
      | next =>
        dsimp only
        congr 1
        funext len
        exact ih (by omega) (by omega)

theorem search_shift {look' : ℕ → M Look} {s r fuel k : ℕ} (hlook : ∀ k, look (s + k) = look' k) :
    search inIe (s + r) copies look fuel (s + k) = search (inIe + s) r copies look' fuel k := by
  induction fuel generalizing k with
  | zero => rfl
  | succ fuel ih =>
    have hplace : inIe + ((s + k : ℕ) : ℤ) = inIe + s + k := by
      push_cast
      ring
    rw [search, search, hlook, hplace]
    refine if_congr (by omega) ?_ rfl
    congr 1
    funext l
    cases l with
    | giveUp => rfl
    | found => rfl
    | next =>
      dsimp only
      congr 1
      funext len
      rw [add_assoc]
      exact ih

end


def sizeAt (m : Mem) (inIe : ℤ) (k : ℕ) : ℕ := (m (inIe + k + 1)).toNat + 2

/-- The index behind an element that is not the one. -/
def nextAt (m : Mem) (inIe : ℤ) (inLen : ℕ) (answer : ℕ → Look) (k : ℕ) : Option ℕ :=
  if answer k = .next ∧ k + sizeAt m inIe k < inLen then some (k + sizeAt m inIe k) else none

section
variable {m : Mem} {inIe : ℤ} {inLen : ℕ} {copies : Bool} {look : ℕ → M Look} {answer : ℕ → Look}

theorem nextAt_lt {j k : ℕ} (h : nextAt m inIe inLen answer j = some k) : j < k ∧ k < inLen := by
  unfold nextAt at h
  split_ifs at h with hnext
  cases h
  exact ⟨by unfold sizeAt; omega, hnext.2⟩

variable (hval : ∀ k, ((look k).run m).val = answer k) (hst : ∀ k, ((look k).run m).st = m)
include hval hst

theorem search_st (fuel k : ℕ) : ((search inIe inLen copies look fuel k).run m).st = m := by
  induction fuel generalizing k with
  | zero => rfl
  | succ fuel ih =>
    rw [search, ite_run]
    split
    · rw [bind_st, hst, hval]
      cases answer k with
      | giveUp => rfl
      | found =>
        cases copies with
        | false => rfl
        | true => rfl
      | next => exact ih _
    · rfl

omit hval hst in
theorem search_end {fuel k : ℕ} (hk : inLen ≤ k) : (search inIe inLen copies look fuel k).run m = ⟨none, m, []⟩ := by
  cases fuel with
  | zero => rfl
  | succ fuel =>
    rw [search, if_neg (by omega)]
    rfl

theorem search_next {fuel k : ℕ} (hk : k < inLen) (hnext : answer k = .next) :
    ((search inIe inLen copies look (fuel + 1) k).run m).val =
      ((search inIe inLen copies look fuel (k + sizeAt m inIe k)).run m).val := by
  rw [search, if_pos hk, bind_val, hst, hval, hnext]
  rfl

theorem search_found {fuel k : ℕ} (hk : k < inLen) (hfound : answer k = .found) :
    ∃ copy, ((search inIe inLen copies look (fuel + 1) k).run m).val = some ⟨inIe + k, sizeAt m inIe k, copy⟩ := by
  rw [search, if_pos hk, bind_val, hst, hval, hfound]
  exact ⟨_, rfl⟩

theorem search_giveUp {fuel k : ℕ} (hgive : answer k = .giveUp) :
    ((search inIe inLen copies look (fuel + 1) k).run m).val = none := by
  rw [search, ite_run]
  split
  · rw [bind_val, hst, hval, hgive]
    rfl
  · rfl

theorem search_size {fuel k : ℕ} {t : Target} (h : ((search inIe inLen copies look fuel k).run m).val = some t) :
    2 ≤ t.size := by
  induction fuel generalizing k with
  | zero => cases h
  | succ fuel ih =>
    by_cases hk : k < inLen
    · cases hanswer : answer k with
      | giveUp =>
        rw [search_giveUp hval hst hanswer] at h
        cases h
      | found =>
        have hrun : ∃ copy, ((search inIe inLen copies look (fuel + 1) k).run m).val =
            some ⟨inIe + k, sizeAt m inIe k, copy⟩ := search_found hval hst hk hanswer
        obtain ⟨copy, hrun⟩ := hrun
        rw [hrun] at h
        cases h
        exact Nat.le_add_left 2 _
      | next =>
        rw [search_next hval hst hk hanswer] at h
        exact ih h
    · rw [search_end (not_lt.mp hk)] at h
      cases h

theorem search_val_iff {fuel k : ℕ} (hk : k < inLen) (hfuel : inLen ≤ k + fuel) (ptr : ℤ) (size : ℕ) :
    (∃ copy, ((search inIe inLen copies look fuel k).run m).val = some ⟨ptr, size, copy⟩) ↔
      ∃ j, Visits (nextAt m inIe inLen answer) k j ∧ answer j = .found ∧ ptr = inIe + j ∧ size = sizeAt m inIe j := by
  induction fuel generalizing k with
  | zero => omega
  | succ fuel ih =>
    rw [Visits.exists_iff]
    cases hanswer : answer k with
    | giveUp =>
      have hstop : nextAt m inIe inLen answer k = none := if_neg fun h => Look.noConfusion (hanswer.symm.trans h.1)
      rw [search_giveUp hval hst hanswer, hstop]
      constructor
      · rintro ⟨copy, h⟩
        cases h
      · rintro (⟨h, -⟩ | ⟨j, hj, -⟩)
        · cases h
        · cases hj
    | found =>
      have hstop : nextAt m inIe inLen answer k = none := if_neg fun h => Look.noConfusion (hanswer.symm.trans h.1)
      have hrun : ∃ copy, ((search inIe inLen copies look (fuel + 1) k).run m).val = some ⟨inIe + k, sizeAt m inIe k, copy⟩ :=
        search_found hval hst hk hanswer
      obtain ⟨copy, hrun⟩ := hrun
      rw [hrun, hstop]
      constructor
      · rintro ⟨copy', h⟩
        cases h
        exact .inl ⟨rfl, rfl, rfl⟩
      · rintro (⟨-, rfl, rfl⟩ | ⟨j, hj, -⟩)
        · exact ⟨copy, rfl⟩
        · cases hj
    | next =>
      rw [search_next hval hst hk hanswer]
      by_cases hend : k + sizeAt m inIe k < inLen
      · have hnext : nextAt m inIe inLen answer k = some (k + sizeAt m inIe k) := if_pos ⟨hanswer, hend⟩
        rw [ih hend (by unfold sizeAt; omega), hnext]
        constructor
        · intro h
          exact .inr ⟨_, rfl, h⟩
        · rintro (⟨h, -⟩ | ⟨j, hj, h⟩)
          · cases h
          · cases hj
            exact h
      · have hstop : nextAt m inIe inLen answer k = none := if_neg fun h => hend h.2
        rw [search_end (by omega), hstop]
        constructor
        · rintro ⟨copy, h⟩
          cases h
        · rintro (⟨h, -⟩ | ⟨j, hj, -⟩)
          · cases h
          · cases hj

/-- The search stays inside as long as each look does, and as the length byte and what is copied is inside. -/
theorem inside_search_iff (P : ℤ → Prop) {fuel k : ℕ} (hk : k < inLen) (hfuel : inLen ≤ k + fuel) :
    Inside P (search inIe inLen copies look fuel k) m ↔
      ∀ j, Visits (nextAt m inIe inLen answer) k j → Inside P (look j) m ∧ (answer j ≠ .giveUp → P (inIe + j + 1)) ∧
        (answer j = .found → copies = true → ∀ x < sizeAt m inIe j, P (inIe + j + (x : ℕ))) := by
  induction fuel generalizing k with
  | zero => omega
  | succ fuel ih =>
    rw [search, if_pos hk, inside_bind, hst, hval, Visits.forall_iff, and_assoc]
    refine and_congr_right fun _ => ?_
    cases hanswer : answer k with
    | giveUp =>
      have hstop : nextAt m inIe inLen answer k = none := if_neg fun h => Look.noConfusion (hanswer.symm.trans h.1)
      rw [hstop]
      refine ⟨fun _ => ⟨⟨fun h => absurd rfl h, fun h => Look.noConfusion h⟩, fun j hj => ?_⟩, fun _ => inside_pure _ _ _⟩
      cases hj
    | found =>
      have hstop : nextAt m inIe inLen answer k = none := if_neg fun h => Look.noConfusion (hanswer.symm.trans h.1)
      rw [hstop]
      dsimp only
      rw [inside_bind, inside_read, inside_bind]
      constructor
      · rintro ⟨hlen, hcopy, -⟩
        refine ⟨⟨fun _ => hlen, fun _ hcopies => ?_⟩, fun j hj => by cases hj⟩
        rw [hcopies, copyElement, if_pos rfl, inside_peekList] at hcopy
        exact hcopy
      · rintro ⟨⟨hlen, hcopy⟩, -⟩
        refine ⟨hlen Look.noConfusion, ?_, inside_pure _ _ _⟩
        cases copies with
        | false => exact inside_pure _ _ _
        | true =>
          rw [copyElement, if_pos rfl, inside_peekList]
          exact hcopy rfl rfl
    | next =>
      dsimp only
      rw [inside_bind, inside_read, read_val, read_st]
      show P (inIe + k + 1) ∧ Inside P (search inIe inLen copies look fuel (k + sizeAt m inIe k)) m ↔ _
      by_cases hend : k + sizeAt m inIe k < inLen
      · have hnext : nextAt m inIe inLen answer k = some (k + sizeAt m inIe k) := if_pos ⟨hanswer, hend⟩
        rw [ih hend (by unfold sizeAt; omega), hnext]
        constructor
        · rintro ⟨hlen, hrest⟩
          exact ⟨⟨fun _ => hlen, fun h => Look.noConfusion h⟩, fun j hj => Option.some.inj hj ▸ hrest⟩
        · rintro ⟨⟨hlen, -⟩, hrest⟩
          exact ⟨hlen Look.noConfusion, hrest _ rfl⟩
      · have hstop : nextAt m inIe inLen answer k = none := if_neg fun h => hend h.2
        rw [hstop]
        constructor
        · rintro ⟨hlen, -⟩
          exact ⟨⟨fun _ => hlen, fun h => Look.noConfusion h⟩, fun j hj => by cases hj⟩
        · rintro ⟨⟨hlen, -⟩, -⟩
          refine ⟨hlen Look.noConfusion, ?_⟩
          rw [Inside, search_end (by omega)]
          exact fun a ha => absurd ha List.not_mem_nil

end

end Search

end Rtl8723au
