import Rtl8723au.Library.Tlv
import Rtl8723au.Security.Arcfour

/-! The elements that a buffer holds. Whatever its bytes are, one element can be read at every offset; a stretch is a
list of elements when they can be read one behind the other to its end. -/
namespace Rtl8723au.Ieee80211
open Security
set_option autoImplicit false

/-- The element at an offset, inside the buffer or not. -/
def tlvAt (m : Mem) (p : ℤ) : Tlv where
  id := m p
  body := bytesAt m (p + 2) (m (p + 1)).toNat
  short := by
    rw [bytesAt_length]
    exact (m (p + 1)).toNat_lt

section
variable {m : Mem} {p : ℤ} {k : ℕ}

theorem bytesAt_eq_append {a b : List UInt8} : bytesAt m p k = a ++ b ↔
    k = a.length + b.length ∧ bytesAt m p a.length = a ∧ bytesAt m (p + a.length) b.length = b := by
  constructor
  · intro h
    have hk : k = a.length + b.length := by
      rw [← List.length_append, ← h, bytesAt_length]
    rw [hk, bytesAt_add] at h
    exact ⟨hk, List.append_inj h (bytesAt_length _)⟩
  · rintro ⟨rfl, ha, hb⟩
    rw [bytesAt_add, ha, hb]

theorem bytesAt_eq_iff_prefix {l o : List UInt8} (h : bytesAt m p l.length = l) (hlen : o.length ≤ l.length) :
    bytesAt m p o.length = o ↔ o <+: l := by
  constructor
  · intro ho
    rw [← h, ← Nat.add_sub_cancel' hlen, bytesAt_add, ho]
    exact List.prefix_append _ _
  · rintro ⟨rest, rfl⟩
    exact (bytesAt_eq_append.mp h).2.1

theorem tlvAt_body_length : (tlvAt m p).body.length = (m (p + 1)).toNat := bytesAt_length _

theorem tlvAt_size : (tlvAt m p).size = (m (p + 1)).toNat + 2 := by
  rw [Tlv.size, tlvAt_body_length]

theorem bytesAt_two : bytesAt m p 2 = [m p, m (p + 1)] := by
  show [m (p + 0), m (p + 1)] = _
  rw [add_zero]

theorem bytesAt_tlvAt : bytesAt m p (tlvAt m p).size = (tlvAt m p).encode := by
  rw [tlvAt_size, add_comm, bytesAt_add, bytesAt_two, Tlv.encode, tlvAt_body_length, UInt8.ofNat_toNat]
  rfl

theorem eq_tlvAt {e : Tlv} (h : bytesAt m p e.size = e.encode) : e = tlvAt m p := by
  rw [Tlv.size, add_comm, bytesAt_add, bytesAt_two] at h
  simp only [Tlv.encode, List.cons_append, List.nil_append, List.cons.injEq] at h
  obtain ⟨hid, hlen, hbody⟩ := h
  have hlength : (m (p + 1)).toNat = e.body.length := by
    rw [hlen, Tlv.toNat_length]
  refine Tlv.ext hid.symm ?_
  show _ = bytesAt m (p + 2) (m (p + 1)).toNat
  rw [hlength]
  exact hbody.symm

theorem encoding_nil : bytesAt m p k = Tlv.encodeAll [] ↔ k = 0 := by
  rw [Tlv.encodeAll_nil, ← List.length_eq_zero_iff, bytesAt_length]

theorem encoding_cons {e : Tlv} {es : List Tlv} : bytesAt m p k = Tlv.encodeAll (e :: es) ↔
    e = tlvAt m p ∧ e.size ≤ k ∧ bytesAt m (p + e.size) (k - e.size) = Tlv.encodeAll es := by
  rw [Tlv.encodeAll_cons, bytesAt_eq_append, Tlv.encode_length]
  constructor
  · rintro ⟨hk, hfirst, hrest⟩
    exact ⟨eq_tlvAt hfirst, by omega, by rw [show k - e.size = (Tlv.encodeAll es).length by omega]; exact hrest⟩
  · rintro ⟨rfl, hsize, hrest⟩
    have hlength := congrArg List.length hrest
    rw [bytesAt_length] at hlength
    exact ⟨by omega, bytesAt_tlvAt, by rw [← hlength]; exact hrest⟩

/-- The bytes hold a list of elements and nothing else. -/
def IsList (m : Mem) (p : ℤ) (k : ℕ) : Prop := ∃ es, bytesAt m p k = Tlv.encodeAll es

theorem isList_iff : IsList m p k ↔ k = 0 ∨
    (tlvAt m p).size ≤ k ∧ IsList m (p + (tlvAt m p).size) (k - (tlvAt m p).size) := by
  constructor
  · rintro ⟨es, hes⟩
    cases es with
    | nil => exact .inl (encoding_nil.mp hes)
    | cons e es =>
      obtain ⟨rfl, hsize, hrest⟩ := encoding_cons.mp hes
      exact .inr ⟨hsize, es, hrest⟩
  · rintro (rfl | ⟨hsize, es, hes⟩)
    · exact ⟨[], rfl⟩
    · exact ⟨tlvAt m p :: es, encoding_cons.mpr ⟨rfl, hsize, hes⟩⟩

end

end Rtl8723au.Ieee80211
