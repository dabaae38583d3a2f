import Mathlib.Data.List.GetD
import Mathlib.Tactic

/-! Lists of elements, each one a byte that names it, a byte that counts its body, and the body. Such a
list is the only one with its encoding. -/
namespace Rtl8723au
set_option autoImplicit false

/-- One element. -/
@[ext]
structure Tlv where
  id : UInt8
  body : List UInt8
  short : body.length < 256
  deriving DecidableEq

namespace Tlv

def size (e : Tlv) : ℕ := e.body.length + 2

def encode (e : Tlv) : List UInt8 := e.id :: UInt8.ofNat e.body.length :: e.body

def encodeAll (es : List Tlv) : List UInt8 := es.flatMap encode

variable (e : Tlv) (es es' : List Tlv)

@[simp] theorem encode_length : e.encode.length = e.size := rfl

@[simp] theorem toNat_length : (UInt8.ofNat e.body.length).toNat = e.body.length := by
  rw [UInt8.toNat_ofNat']
  exact Nat.mod_eq_of_lt e.short

@[simp] theorem encodeAll_nil : encodeAll [] = [] := rfl

@[simp] theorem encodeAll_cons : encodeAll (e :: es) = e.encode ++ encodeAll es := rfl

@[simp] theorem encodeAll_append : encodeAll (es ++ es') = encodeAll es ++ encodeAll es' :=
  List.flatMap_append

theorem encodeAll_eq_nil (h : encodeAll es = []) : es = [] := by
  cases es with
  | nil => rfl
  | cons e rest => cases h

/-! ## One list only -/

theorem encode_append_inj {e' : Tlv} {l l' : List UInt8} (h : e.encode ++ l = e'.encode ++ l') :
    e = e' ∧ l = l' := by
  simp only [encode, List.cons_append, List.cons.injEq] at h
  obtain ⟨hid, hlen, hrest⟩ := h
  have hlen' : e.body.length = e'.body.length := by
    rw [← toNat_length e, ← toNat_length e', hlen]
  obtain ⟨hbody, hl⟩ := List.append_inj hrest hlen'
  exact ⟨Tlv.ext hid hbody, hl⟩

variable {es es'} in
theorem encodeAll_injective (h : encodeAll es = encodeAll es') : es = es' := by
  induction es generalizing es' with
  | nil => exact (encodeAll_eq_nil es' h.symm).symm
  | cons e rest ih =>
    cases es' with
    | nil => cases h
    | cons e' rest' =>
      obtain ⟨rfl, hrest⟩ := encode_append_inj e h
      rw [ih hrest]

end Tlv

end Rtl8723au
