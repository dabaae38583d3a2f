import Rtl8723au.Library.Regions

/-! What a computation over regions leaves alone: it writes to one stretch of one region only. The rules follow the
computation, and give with it that every access is inside its region. `Gives` is for what follows from several of these
stretches: a condition on the answer and on the memory behind it. -/
namespace Rtl8723au
namespace Regions
open AccessM
set_option autoImplicit false

variable {ι α β : Type}

/-- The memories differ from `lo` on and below `hi` in the region `r` at most. -/
structure Alters (r : ι) (lo hi : ℤ) (s t : Regions ι) : Prop where
  others : ∀ q, q ≠ r → t q = s q
  outside : ∀ x, x < lo ∨ hi ≤ x → t r x = s r x

section
variable {r : ι} {lo hi lo' hi' : ℤ} {s t u : Regions ι}

theorem Alters.refl (r : ι) (lo hi : ℤ) (s : Regions ι) : Alters r lo hi s s := ⟨fun _ _ => rfl, fun _ _ => rfl⟩

theorem Alters.trans (hst : Alters r lo hi s t) (htu : Alters r lo hi t u) : Alters r lo hi s u where
  others := fun q hq => (htu.others q hq).trans (hst.others q hq)
  outside := fun x hx => (htu.outside x hx).trans (hst.outside x hx)

theorem Alters.mono (h : Alters r lo hi s t) (hlo : lo' ≤ lo) (hhi : hi ≤ hi') : Alters r lo' hi' s t where
  others := h.others
  outside := fun x hx => h.outside x (hx.imp (fun hlt => lt_of_lt_of_le hlt hlo) fun hle => hhi.trans hle)

theorem Alters.store [DecidableEq ι] (s : Regions ι) {x : ℤ} {l : List UInt8} (hlo : lo ≤ x) (hhi : x + l.length ≤ hi) :
    Alters r lo hi s ((Regions.store r x l).run s).st where
  others := fun q hq => by rw [store_st, Function.update_of_ne hq]
  outside := fun y hy => by
    rw [store_st, Function.update_self]
    exact Mem.putBytes_outside (s r) x l y (by omega)

end

/-- From the memory `s` the computation stays inside the regions, answers what `Q` allows and writes to one stretch. -/
structure Does (size : ι → ℕ) (r : ι) (lo hi : ℤ) (m : R ι α) (s : Regions ι) (Q : α → Prop) : Prop where
  inside : Inside (Fits size) m s
  answer : Q (m.run s).val
  alters : Alters r lo hi s (m.run s).st

section
variable {size : ι → ℕ} {r : ι} {lo hi lo' hi' : ℤ} {s : Regions ι} {m : R ι α} {f : α → R ι β} {Q Q' : α → Prop}
  {Q₁ : β → Prop}

theorem Does.pure {a : α} (h : Q a) : Does size r lo hi (Pure.pure a) s Q :=
  ⟨inside_pure _ a s, h, .refl r lo hi s⟩

theorem Does.bind (hm : Does size r lo hi m s Q) (hf : ∀ a t, Q a → Does size r lo hi (f a) t Q₁) :
    Does size r lo hi (m >>= f) s Q₁ := by
  have hrest := hf (m.run s).val (m.run s).st hm.answer
  exact ⟨(inside_bind _ m f s).mpr ⟨hm.inside, hrest.inside⟩, hrest.answer, hm.alters.trans hrest.alters⟩

theorem Does.mono (h : Does size r lo hi m s Q) (hlo : lo' ≤ lo) (hhi : hi ≤ hi') (hQ : ∀ a, Q a → Q' a) :
    Does size r lo' hi' m s Q' :=
  ⟨h.inside, hQ _ h.answer, h.alters.mono hlo hhi⟩

theorem Does.ite {c : Prop} [Decidable c] {n : R ι α} (hm : c → Does size r lo hi m s Q) (hn : ¬c → Does size r lo hi n s Q) :
    Does size r lo hi (if c then m else n) s Q := by
  split
  next hc => exact hm hc
  next hc => exact hn hc

theorem Does.load [DecidableEq ι] (q : ι) {x : ℤ} {n : ℕ} (h : Within size q x n) :
    Does size r lo hi (Regions.load q x n) s (fun l => l.length = n) :=
  ⟨(inside_load size q x n s).mpr h, by rw [load_val, List.length_map, List.length_range], .refl r lo hi s⟩

theorem Does.loadLe [DecidableEq ι] (q : ι) {x : ℤ} {n : ℕ} (h : Within size q x n) :
    Does size r lo hi (Regions.loadLe q x n) s (fun _ => True) :=
  ⟨(inside_loadLe size q x n s).mpr h, trivial, .refl r lo hi s⟩

theorem Does.store [DecidableEq ι] (hbase : 0 ≤ lo) (htop : hi ≤ size r) {x : ℤ} {l : List UInt8} (hlo : lo ≤ x) (hhi : x + l.length ≤ hi) :
    Does size r lo hi (Regions.store r x l) s (fun _ => True) :=
  ⟨(inside_store size r x l s).mpr (.inr ⟨hbase.trans hlo, hhi.trans htop⟩), trivial, .store s hlo hhi⟩

theorem Does.memcpy [DecidableEq ι] (hbase : 0 ≤ lo) (htop : hi ≤ size r) {d x : ℤ} {q : ι} {n : ℕ} (hsrc : Within size q x n)
    (hlo : lo ≤ d) (hhi : d + n ≤ hi) : Does size r lo hi (Regions.memcpy r d q x n) s (fun _ => True) := by
  refine (Does.load q hsrc).bind fun l t hl => ?_
  exact Does.store hbase htop hlo (by rw [hl]; exact hhi)

end

end Regions

open AccessM

/-- From the state `s` every access meets `P`, and the answer and the state behind it are as `Q` says. -/
structure Gives {A S α : Type} (P : A → Prop) (m : AccessM A S α) (s : S) (Q : α → S → Prop) : Prop where
  inside : Inside P m s
  post : Q (m.run s).val (m.run s).st

namespace Gives

variable {A S α β : Type} {P : A → Prop} {s : S} {m : AccessM A S α} {f : α → AccessM A S β} {Q Q' : α → S → Prop}
  {Q₁ : β → S → Prop}

theorem pure {a : α} (h : Q a s) : Gives P (Pure.pure a) s Q := ⟨inside_pure _ a s, h⟩

theorem bind (hm : Gives P m s Q) (hf : ∀ a t, Q a t → Gives P (f a) t Q₁) : Gives P (m >>= f) s Q₁ := by
  have hrest := hf (m.run s).val (m.run s).st hm.post
  exact ⟨(inside_bind _ m f s).mpr ⟨hm.inside, hrest.inside⟩, hrest.post⟩

theorem get : Gives P AccessM.get s fun t u => t = s ∧ u = s := ⟨inside_get _ s, rfl, rfl⟩

theorem mono (h : Gives P m s Q) (hQ : ∀ a t, Q a t → Q' a t) : Gives P m s Q' := ⟨h.inside, hQ _ _ h.post⟩

theorem ite {c : Prop} [Decidable c] {n : AccessM A S α} (hm : c → Gives P m s Q) (hn : ¬c → Gives P n s Q) :
    Gives P (if c then m else n) s Q := by
  split
  next hc => exact hm hc
  next hc => exact hn hc

end Gives

/-- `Gives` for a computation whose accesses meet `P` under a condition only, which is exact. -/
structure GivesIff {A S α : Type} (P : A → Prop) (m : AccessM A S α) (s : S) (c : Prop) (Q : α → S → Prop) : Prop where
  inside : Inside P m s ↔ c
  post : Q (m.run s).val (m.run s).st

namespace GivesIff

variable {A S α β : Type} {P : A → Prop} {s : S} {m : AccessM A S α} {f : α → AccessM A S β} {c c' : Prop}
  {Q Q' : α → S → Prop} {Q₁ : β → S → Prop}

theorem bind (hm : GivesIff P m s c Q) (hf : ∀ a t, Q a t → GivesIff P (f a) t c' Q₁) :
    GivesIff P (m >>= f) s (c ∧ c') Q₁ := by
  have hrest := hf (m.run s).val (m.run s).st hm.post
  exact ⟨(inside_bind _ m f s).trans (and_congr hm.inside hrest.inside), hrest.post⟩

/-- What is in front meets `P` in any case. -/
theorem after (hm : Gives P m s Q) (hf : ∀ a t, Q a t → GivesIff P (f a) t c Q₁) : GivesIff P (m >>= f) s c Q₁ := by
  have hrest := hf (m.run s).val (m.run s).st hm.post
  exact ⟨(inside_bind _ m f s).trans ((and_iff_right hm.inside).trans hrest.inside), hrest.post⟩

/-- What is behind meets `P` in any case. -/
theorem before (hm : GivesIff P m s c Q) (hf : ∀ a t, Q a t → Gives P (f a) t Q₁) : GivesIff P (m >>= f) s c Q₁ := by
  have hrest := hf (m.run s).val (m.run s).st hm.post
  exact ⟨(inside_bind _ m f s).trans ((and_iff_left hrest.inside).trans hm.inside), hrest.post⟩

theorem mono (h : GivesIff P m s c Q) (hQ : ∀ a t, Q a t → Q' a t) : GivesIff P m s c Q' := ⟨h.inside, hQ _ _ h.post⟩

end GivesIff

theorem Regions.Does.gives {ι α : Type} {size : ι → ℕ} {r : ι} {lo hi : ℤ} {s : Regions ι} {m : Regions.R ι α} {Q : α → Prop}
    (h : Regions.Does size r lo hi m s Q) :
    Gives (Regions.Fits size) m s fun a t => Q a ∧ Regions.Alters r lo hi s t :=
  ⟨h.inside, h.answer, h.alters⟩

end Rtl8723au
