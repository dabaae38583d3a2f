import Rtl8723au.Mlme.Scanned
import Mathlib.Data.Fintype.Card

/-! The invariant of the table of scanned networks: what each way of writing, moving and marking an entry
keeps of it, and what happens to an entry that is marked fixed. -/
namespace Rtl8723au
open Intrusive
set_option autoImplicit false

/-! ## The same network -/

namespace WlanBssidEx

theorem low_bits (h l m : BitVec 8) : (h ++ l) &&& m.setWidth 16 = (l &&& m).setWidth 16 := by
  ext i hi
  rw [BitVec.getElem_and, BitVec.getElem_append]
  by_cases h8 : i < 8
  · simp [h8]
  · have hm : m.getLsbD i = false := BitVec.getLsbD_of_ge _ _ (by omega)
    simp [hm, h8]

/-- All that `is_same_network` compares. -/
def netKey (b : WlanBssidEx) : Fin 33 × MacAddr × List UInt8 × BitVec 8 × BitVec 8 :=
  (b.ssidLength, b.macAddress, b.ssid.toList.take b.ssidLength, (b.ies 10).toBitVec &&& 2, (b.ies 10).toBitVec &&& 1)

theorem mask_eq_iff (a b : WlanBssidEx) (m : BitVec 8) :
    a.capability &&& m.setWidth 16 = b.capability &&& m.setWidth 16 ↔
      (a.ies 10).toBitVec &&& m = (b.ies 10).toBitVec &&& m := by
  rw [capability, capability, low_bits, low_bits]
  constructor
  · intro h
    simpa using congrArg (BitVec.setWidth 8) h
  · exact congrArg (BitVec.setWidth 16)

theorem isSameNetwork_iff (a b : WlanBssidEx) : a.isSameNetwork b = true ↔ a.netKey = b.netKey := by
  have hibss := mask_eq_iff a b 2
  have hess := mask_eq_iff a b 1
  simp only [isSameNetwork, Bool.and_eq_true, beq_iff_eq, netKey, Prod.mk.injEq, and_assoc]
  constructor
  · rintro ⟨hlen, hmac, hssid, hi, he⟩
    exact ⟨hlen, hmac, hlen ▸ hssid, hibss.mp hi, hess.mp he⟩
  · rintro ⟨hlen, hmac, hssid, hi, he⟩
    exact ⟨hlen, hmac, hlen.symm ▸ hssid, hibss.mpr hi, hess.mpr he⟩

theorem netKey_copyBssid (dst src : WlanBssidEx) (h : dst.netKey = src.netKey) :
    (dst.copyBssid src).netKey = dst.netKey := by
  have hies : (dst.copyBssid src).ies 10 = src.ies 10 ∨ (dst.copyBssid src).ies 10 = dst.ies 10 := by
    show (if _ then _ else _) = _ ∨ (if _ then _ else _) = _
    split
    · exact Or.inl rfl
    · exact Or.inr rfl
  simp only [netKey, Prod.mk.injEq] at h
  obtain ⟨hlen, hmac, hssid, hibss, hess⟩ := h
  rcases hies with hies | hies
  · simp only [netKey, hies]
    exact Prod.ext hlen.symm (Prod.ext hmac.symm (Prod.ext hssid.symm (Prod.ext hibss.symm hess.symm)))
  · simp only [netKey, hies]
    exact Prod.ext hlen.symm (Prod.ext hmac.symm (Prod.ext hssid.symm rfl))

theorem netKey_noQuality (b : WlanBssidEx) : b.noQuality.netKey = b.netKey := by
  unfold noQuality
  split <;> rfl

end WlanBssidEx

namespace Scanned

variable {s s' : Scanned} {n m : NetId} {b : WlanBssidEx}

@[simp] theorem setEntry_self (s : Scanned) (n : NetId) (e : WlanNetwork) : (s.setEntry n e).entry n = e :=
  Function.update_self ..

theorem setEntry_other (s : Scanned) (e : WlanNetwork) (hm : m ≠ n) : (s.setEntry n e).entry m = s.entry m :=
  Function.update_of_ne hm ..

def netKey (s : Scanned) (n : NetId) := (s.entry n).network.netKey

def fixed (s : Scanned) (n : NetId) : Bool := (s.entry n).fixed

/-- No other entry in the queue is the network `b`. -/
def NewTo (s : Scanned) (n : NetId) (b : WlanBssidEx) : Prop :=
  ∀ m ∈ s.queue .scannedQueue, m ≠ n → (s.entry m).network.isSameNetwork b = false

theorem NewTo.key (h : s.NewTo n b) (hm : m ∈ s.queue .scannedQueue) (hne : m ≠ n) : s.netKey m ≠ b.netKey := by
  intro heq
  have hsame := (WlanBssidEx.isSameNetwork_iff _ _).mpr heq
  rw [h m hm hne] at hsame
  exact absurd hsame (by decide)

theorem NewTo.congr {b' : WlanBssidEx} (h : s.NewTo n b) (hkey : b'.netKey = b.netKey) : s.NewTo n b' := by
  intro m hm hne
  rw [← Bool.not_eq_true, WlanBssidEx.isSameNetwork_iff, hkey]
  exact h.key hm hne

/-! ## The invariant -/

structure Table (s : Scanned) : Prop where
  once : Once s.queue
  placed : ∀ n, ∃ q, n ∈ s.queue q
  counted : s.numOfScanned.toNat = (s.queue .scannedQueue).length
  distinct : ∀ n ∈ s.queue .scannedQueue, s.NewTo n (s.entry n).network
  scanned : ∀ n, s.fixed n = true → n ∈ s.queue .scannedQueue

/-- What the invariant speaks about. -/
structure SameTable (s s' : Scanned) : Prop where
  entry : s'.entry = s.entry
  queue : s'.queue = s.queue
  num : s'.numOfScanned = s.numOfScanned

namespace Table
variable (h : s.Table)
include h

theorem congr (same : SameTable s s') : s'.Table := by
  obtain ⟨entry, queue, num, cur, fw, signal, qual⟩ := s
  obtain ⟨entry', queue', num', cur', fw', signal', qual'⟩ := s'
  obtain ⟨he, hq, hn⟩ := same
  dsimp only at he hq hn
  subst he hq hn
  exact ⟨h.once, h.placed, h.counted, h.distinct, h.scanned⟩

theorem length_le (q : BssQueue) : (s.queue q).length ≤ 128 := by
  have hcard := (h.once.nodup q).length_le_card
  rwa [Fintype.card_fin] at hcard

theorem pooled_unfixed (hn : n ∈ s.queue .freeBssPool) : s.fixed n = false := by
  rw [← Bool.not_eq_true]
  intro hf
  exact absurd (h.once.one n _ _ hn (h.scanned n hf)) (by decide)

theorem setEntry (e : WlanNetwork) (hfixed : e.fixed = true → n ∈ s.queue .scannedQueue)
    (hnew : n ∈ s.queue .scannedQueue → s.NewTo n e.network) : (s.setEntry n e).Table where
  once := h.once
  placed := h.placed
  counted := h.counted
  distinct := by
    intro a ha b hb hne
    by_cases han : a = n
    · subst han
      rw [setEntry_self, setEntry_other s e hne]
      exact hnew ha b hb hne
    · rw [setEntry_other s e han]
      by_cases hbn : b = n
      · subst hbn
        rw [setEntry_self, ← Bool.not_eq_true, WlanBssidEx.isSameNetwork_iff]
        exact fun heq => (hnew hb).key ha (Ne.symm hne) heq.symm
      · rw [setEntry_other s e hbn]
        exact h.distinct a ha b hb hne
  scanned := by
    intro a ha
    by_cases han : a = n
    · subst han
      rw [fixed, setEntry_self] at ha
      exact hfixed ha
    · rw [fixed, setEntry_other s e han] at ha
      exact h.scanned a ha

theorem newTo_of_key (hn : n ∈ s.queue .scannedQueue) (hkey : b.netKey = s.netKey n) : s.NewTo n b :=
  (h.distinct n hn).congr hkey

theorem rewrite (e : WlanNetwork) (hfixed : e.fixed = true → n ∈ s.queue .scannedQueue)
    (hkey : e.network.netKey = s.netKey n) : (s.setEntry n e).Table :=
  h.setEntry e hfixed fun hn => h.newTo_of_key hn hkey

theorem mem_putBack {q : BssQueue} :
    m ∈ (s.putBack n).queue q ↔ (m ∈ s.queue q ∧ m ≠ n) ∨ (m = n ∧ q = .freeBssPool) := h.once.mem_moveTail

theorem putBack (hn : n ∈ s.queue .scannedQueue) (hf : s.fixed n = false) : (s.putBack n).Table where
  once := h.once.moveTail _ _
  placed := by
    intro a
    by_cases ha : a = n
    · exact ⟨.freeBssPool, h.mem_putBack.mpr (Or.inr ⟨ha, rfl⟩)⟩
    · obtain ⟨q, hq⟩ := h.placed a
      exact ⟨q, h.mem_putBack.mpr (Or.inl ⟨hq, ha⟩)⟩
  counted := by
    have hlen := length_delInit hn
    have hle := h.length_le .scannedQueue
    have hcount := h.counted
    show (s.numOfScanned - 1).toNat = (addTail (delInit s.queue n) .freeBssPool n .scannedQueue).length
    rw [addTail_of_ne _ _ (by decide), BitVec.toNat_sub]
    simp
    omega
  distinct := by
    intro a ha b hb hne
    rcases h.mem_putBack.mp ha with ⟨ha, -⟩ | ⟨-, hq⟩
    · rcases h.mem_putBack.mp hb with ⟨hb, -⟩ | ⟨-, hq⟩
      · exact h.distinct a ha b hb hne
      · exact absurd hq (by decide)
    · exact absurd hq (by decide)
  scanned := by
    intro a ha
    refine h.mem_putBack.mpr (Or.inl ⟨h.scanned a ha, ?_⟩)
    rintro rfl
    exact absurd (hf.symm.trans ha) (by decide)

end Table

/-- An entry of the pool is written and becomes the last one of the queue. -/
def takeIn (s : Scanned) (n : NetId) (e : WlanNetwork) : Scanned :=
  { s.setEntry n e with
    queue := moveTail s.queue .scannedQueue n
    numOfScanned := s.numOfScanned + 1 }

theorem takeIn_self (s : Scanned) (n : NetId) (e : WlanNetwork) : (s.takeIn n e).entry n = e :=
  Function.update_self ..

theorem takeIn_other (s : Scanned) (e : WlanNetwork) (hm : m ≠ n) : (s.takeIn n e).entry m = s.entry m :=
  Function.update_of_ne hm ..

namespace Table
variable (h : s.Table)
include h

theorem mem_takeIn {e : WlanNetwork} {q : BssQueue} :
    m ∈ (s.takeIn n e).queue q ↔ (m ∈ s.queue q ∧ m ≠ n) ∨ (m = n ∧ q = .scannedQueue) := h.once.mem_moveTail

theorem takeIn (e : WlanNetwork) (hn : n ∈ s.queue .freeBssPool) (hnew : s.NewTo n e.network) :
    (s.takeIn n e).Table where
  once := h.once.moveTail _ _
  placed := by
    intro a
    by_cases ha : a = n
    · exact ⟨.scannedQueue, h.mem_takeIn.mpr (Or.inr ⟨ha, rfl⟩)⟩
    · obtain ⟨q, hq⟩ := h.placed a
      exact ⟨q, h.mem_takeIn.mpr (Or.inl ⟨hq, ha⟩)⟩
  counted := by
    have hle := h.length_le .scannedQueue
    have hcount := h.counted
    have hother : delInit s.queue n .scannedQueue = s.queue .scannedQueue := h.once.delInit_other hn (by decide)
    show (s.numOfScanned + 1).toNat = (addTail (delInit s.queue n) .scannedQueue n .scannedQueue).length
    rw [addTail_self, hother, List.length_append, List.length_singleton, BitVec.toNat_add]
    simp
    omega
  distinct := by
    intro a ha b hb hne
    rcases h.mem_takeIn.mp ha with ⟨haq, han⟩ | ⟨rfl, -⟩
    · rw [takeIn_other s e han]
      rcases h.mem_takeIn.mp hb with ⟨hbq, hbn⟩ | ⟨rfl, -⟩
      · rw [takeIn_other s e hbn]
        exact h.distinct a haq b hbq hne
      · rw [takeIn_self, ← Bool.not_eq_true, WlanBssidEx.isSameNetwork_iff]
        exact fun heq => hnew.key haq han heq.symm
    · rw [takeIn_self]
      rcases h.mem_takeIn.mp hb with ⟨hb, hbn⟩ | ⟨hba, -⟩
      · rw [takeIn_other s e hbn]
        exact hnew b hb hbn
      · exact absurd hba hne
  scanned := by
    intro a ha
    by_cases han : a = n
    · exact h.mem_takeIn.mpr (Or.inr ⟨han, rfl⟩)
    · rw [fixed, takeIn_other s e han] at ha
      exact h.mem_takeIn.mpr (Or.inl ⟨h.scanned a ha, han⟩)

end Table

/-! ## Fixed entries -/

/-- The entry is in the queue, marked, and the network it was. -/
structure Kept (s s' : Scanned) (n : NetId) : Prop where
  fixed : s'.fixed n = true
  scanned : n ∈ s'.queue .scannedQueue
  same : s'.netKey n = s.netKey n

/-- What a step does: the invariant holds after it, and a marked entry stays, or it has the address `mac` and
its mark is gone. -/
structure Steps (mac : Option MacAddr) (s s' : Scanned) : Prop where
  table : s'.Table
  kept : ∀ n, s.fixed n = true →
    s.Kept s' n ∨ (s'.fixed n = false ∧ some (s.entry n).network.macAddress = mac)

/-- The same without new marks, so that it can be put together. -/
structure Clears (mac : Option MacAddr) (s s' : Scanned) : Prop extends Steps mac s s' where
  unmarked : ∀ n, s.fixed n = false → s'.fixed n = false

namespace Clears
variable {mac : Option MacAddr} {s'' : Scanned}

theorem of_table (h : s'.Table) (hfixed : ∀ n, s'.fixed n = s.fixed n)
    (hsame : ∀ n, s.fixed n = true → s'.netKey n = s.netKey n) : Clears mac s s' where
  table := h
  kept n hf := by
    have hf' : s'.fixed n = true := (hfixed n).trans hf
    exact Or.inl ⟨hf', h.scanned n hf', hsame n hf⟩
  unmarked n hf := (hfixed n).trans hf

theorem of_same (h : s.Table) (same : SameTable s s') : Clears mac s s' := by
  refine of_table (h.congr same) (fun n => ?_) fun n _ => ?_
  · rw [fixed, same.entry, fixed]
  · rw [netKey, same.entry, netKey]

theorem mac_eq (h : s'.netKey n = s.netKey n) :
    (s'.entry n).network.macAddress = (s.entry n).network.macAddress := congrArg (·.2.1) h

theorem setEntry (h : s.Table) (e : WlanNetwork) (hfixed : e.fixed = s.fixed n)
    (hnew : n ∈ s.queue .scannedQueue → s.NewTo n e.network) (hkey : s.fixed n = true → e.network.netKey = s.netKey n) :
    Clears mac s (s.setEntry n e) := by
  refine of_table (h.setEntry e (fun he => h.scanned n (hfixed ▸ he)) hnew) (fun m => ?_) fun m hf => ?_
  · by_cases hm : m = n
    · subst hm
      rw [fixed, setEntry_self, hfixed]
    · rw [fixed, setEntry_other s e hm, fixed]
  · by_cases hm : m = n
    · subst hm
      rw [netKey, setEntry_self, hkey hf]
    · rw [netKey, setEntry_other s e hm, netKey]

theorem takeIn (h : s.Table) (e : WlanNetwork) (hn : n ∈ s.queue .freeBssPool) (hfixed : e.fixed = false)
    (hnew : s.NewTo n e.network) : Clears mac s (s.takeIn n e) := by
  refine of_table (h.takeIn e hn hnew) (fun m => ?_) fun m hf => ?_
  · by_cases hm : m = n
    · subst hm
      rw [fixed, takeIn_self, hfixed, h.pooled_unfixed hn]
    · rw [fixed, takeIn_other s e hm, fixed]
  · have hm : m ≠ n := by
      rintro rfl
      exact absurd (hf.symm.trans (h.pooled_unfixed hn)) (by decide)
    rw [netKey, takeIn_other s e hm, netKey]

theorem trans (h : Clears mac s s') (h' : Clears mac s' s'') : Clears mac s s'' where
  table := h'.table
  kept n hf := by
    rcases h.kept n hf with hkept | ⟨hgone, hmac⟩
    · rcases h'.kept n hkept.fixed with hkept' | ⟨hgone, hmac⟩
      · exact Or.inl ⟨hkept'.fixed, hkept'.scanned, hkept'.same.trans hkept.same⟩
      · exact Or.inr ⟨hgone, mac_eq hkept.same ▸ hmac⟩
    · exact Or.inr ⟨h'.unmarked n hgone, hmac⟩
  unmarked n hf := h'.unmarked n (h.unmarked n hf)

end Clears

namespace Steps
variable {mac : Option MacAddr} {s'' : Scanned}

theorem congr (h : Steps mac s s') (same : SameTable s' s'') : Steps mac s s'' where
  table := h.table.congr same
  kept n hf := by
    have hfixed : s''.fixed n = s'.fixed n := congrArg (fun e => (e n).fixed) same.entry
    have hkey : s''.netKey n = s'.netKey n := congrArg (fun e => (e n).network.netKey) same.entry
    rcases h.kept n hf with hkept | ⟨hgone, hmac⟩
    · exact Or.inl ⟨hfixed.trans hkept.fixed, same.queue ▸ hkept.scanned, hkey.trans hkept.same⟩
    · exact Or.inr ⟨hfixed.trans hgone, hmac⟩

end Steps

end Scanned

end Rtl8723au
