import Rtl8723au.Include.Adapter

/-! The 802.1X port of `core/rtw_recv.c`. `portctrl` looks the station up before it
has set `psta_addr`, so the address it uses is whatever the pointer held. -/
namespace Rtl8723au
set_option autoImplicit false

def LLC_HEADER_SIZE : ℕ := 6

def eapolType : ℕ := 0x888e

/-- `ntohs` of the two bytes behind the header, the IV and the LLC header. -/
def etherType (f : RecvFrame) : ℕ :=
  let ptr := f.rxData + f.attrib.hdrlen + f.attrib.ivLen + LLC_HEADER_SIZE
  256 * (f.mem ptr).toNat + (f.mem (ptr + 1)).toNat

/-- `portctrl`; without a frame the one received went back to the free queue. `pstaAddr` is the six bytes
the pointer happens to lead to before it is set, or none when it happens to be null. -/
def portctrl (adapter : RtwAdapter) (f : RecvFrame) (pstaAddr : Option MacAddr) : Option RecvFrame :=
  let psta := rtwGetStainfo adapter.stapriv pstaAddr
  let authAlg := adapter.securitypriv.dot11AuthAlgrthm
  if authAlg = 2 then
    match psta with
    | some psta =>
      if (adapter.stapriv.staInfo psta).ieee8021xBlocked then
        if etherType f = eapolType then some f else none
      else some f
    | none => some f
  else some f

section Port
variable (adapter : RtwAdapter) (f : RecvFrame)

/-- The address names a station whose port is closed. -/
def NamesBlocked (addr : Option MacAddr) : Prop :=
  ∃ psta, rtwGetStainfo adapter.stapriv addr = some psta ∧
    (adapter.stapriv.staInfo psta).ieee8021xBlocked = true

/-- 802.1X is on and the transmitter is a station whose port is closed. -/
structure PortClosed : Prop where
  auth : adapter.securitypriv.dot11AuthAlgrthm = 2
  blocked : NamesBlocked adapter (some f.attrib.ta)

/-- The port lets the frame up exactly when it is EAPOL. -/
def Gates (pstaAddr : Option MacAddr) : Prop :=
  (etherType f = eapolType → portctrl adapter f pstaAddr = some f) ∧
    (etherType f ≠ eapolType → portctrl adapter f pstaAddr = none)

/-- What the port is for: it gates the frame, and the stale pointer makes no difference. -/
structure PortControl : Prop where
  gates : ∀ pstaAddr, Gates adapter f pstaAddr
  determined : ∀ addr addr', portctrl adapter f addr = portctrl adapter f addr'

theorem portctrl_blocked (pstaAddr : Option MacAddr) (hauth : adapter.securitypriv.dot11AuthAlgrthm = 2)
    (hb : NamesBlocked adapter pstaAddr) :
    portctrl adapter f pstaAddr = if etherType f = eapolType then some f else none := by
  obtain ⟨psta, hfound, hblocked⟩ := hb
  unfold portctrl
  rw [hfound]
  simp only [hauth, if_true, hblocked]

theorem portctrl_open (pstaAddr : Option MacAddr) (hb : ¬NamesBlocked adapter pstaAddr) :
    portctrl adapter f pstaAddr = some f := by
  have hopen : ∀ psta, rtwGetStainfo adapter.stapriv pstaAddr = some psta →
      (adapter.stapriv.staInfo psta).ieee8021xBlocked = false := by
    intro psta hfound
    cases hblocked : (adapter.stapriv.staInfo psta).ieee8021xBlocked with
    | false => rfl
    | true => exact absurd ⟨psta, hfound, hblocked⟩ hb
  cases hfound : rtwGetStainfo adapter.stapriv pstaAddr with
  | none => simp [portctrl, hfound]
  | some psta => simp [portctrl, hfound, hopen psta hfound]

theorem portctrl_eapol (pstaAddr : Option MacAddr) (h : etherType f = eapolType) :
    portctrl adapter f pstaAddr = some f := by
  unfold portctrl
  cases rtwGetStainfo adapter.stapriv pstaAddr with
  | none => simp
  | some psta => simp [h]

theorem gates_iff (pstaAddr : Option MacAddr) (h : PortClosed adapter f) :
    Gates adapter f pstaAddr ↔ etherType f = eapolType ∨ NamesBlocked adapter pstaAddr := by
  constructor
  · rintro ⟨-, hdrop⟩
    by_contra hno
    push Not at hno
    have hpass := portctrl_open adapter f pstaAddr hno.2
    rw [hdrop hno.1] at hpass
    exact absurd hpass (by simp)
  · rintro (heapol | hb)
    · exact ⟨fun _ => portctrl_eapol adapter f pstaAddr heapol, fun hne => absurd heapol hne⟩
    · have hrun := portctrl_blocked adapter f pstaAddr h.auth hb
      exact ⟨fun he => hrun.trans (if_pos he), fun hne => hrun.trans (if_neg hne)⟩

theorem not_namesBlocked_none : ¬NamesBlocked adapter none := by
  rintro ⟨psta, hfound, -⟩
  exact absurd hfound (by simp [rtwGetStainfo])

/-- **The 802.1X port** does its work on EAPOL frames only: any other frame of a blocked station goes up
or down with the stale pointer, down exactly when that leads to a blocked station as well. -/
theorem portControl_iff (h : PortClosed adapter f) :
    (PortControl adapter f ↔ etherType f = eapolType) ∧
    ∀ pstaAddr, Gates adapter f pstaAddr ↔ etherType f = eapolType ∨ NamesBlocked adapter pstaAddr := by
  refine ⟨⟨fun hport => ?_, fun heapol => ?_⟩, fun pstaAddr => gates_iff adapter f pstaAddr h⟩
  · have hnull := (gates_iff adapter f none h).mp (hport.gates none)
    exact hnull.resolve_right (not_namesBlocked_none adapter)
  · refine ⟨fun pstaAddr => (gates_iff adapter f pstaAddr h).mpr (.inl heapol), fun addr addr' => ?_⟩
    rw [portctrl_eapol adapter f addr heapol, portctrl_eapol adapter f addr' heapol]

end Port

/-- An adapter with 802.1X on and one blocked station, of address zero. -/
def blockedSample : RtwAdapter where
  securitypriv := { dot11AuthAlgrthm := 2 }
  stapriv := { staInfo := fun _ => { ieee8021xBlocked := true }, staHash := fun _ => [0] }

/-- A frame from that station with an ethertype behind a header of 24 bytes. -/
def portSample (hi lo : UInt8) : RecvFrame where
  attrib := { hdrlen := 24 }
  mem := fun i => if i = 30 then hi else if i = 31 then lo else 0
  len := 64
  rxHead := 0
  rxData := 0
  rxTail := 64
  rxEnd := 64

theorem portClosed_sample (hi lo : UInt8) : PortClosed blockedSample (portSample hi lo) :=
  ⟨rfl, 0, by show rtwGetStainfo blockedSample.stapriv (some (Vector.replicate 6 0)) = some 0; decide, rfl⟩

theorem portControl_eapolSample : PortControl blockedSample (portSample 0x88 0x8e) :=
  (portControl_iff blockedSample (portSample 0x88 0x8e) (portClosed_sample 0x88 0x8e)).1.mpr (by decide)

/-- An IPv4 frame of a blocked station passes when the stale pointer is null. -/
theorem not_portControl_ip :
    ¬ ∀ (adapter : RtwAdapter) (f : RecvFrame), PortClosed adapter f → PortControl adapter f := by
  intro h
  have hport := h blockedSample (portSample 0x08 0x00) (portClosed_sample 0x08 0x00)
  have hdrop := (hport.gates none).2 (by decide)
  exact absurd hdrop (by simp [portctrl, rtwGetStainfo])

end Rtl8723au
