import Rtl8723au.Include.Wifi
import Rtl8723au.Recv.Pool
import Rtl8723au.Include.Adapter
import Rtl8723au.Security.Michael

/-! `recvframe_chkmic`, `recvframe_chk_defrag` and `recvframe_defrag` of `core/rtw_recv.c`: the Michael code of a
received TKIP frame, without the report of a wrong one, and the fragments of a packet, which wait in the queue of their
transmitter until the last one arrives. -/
namespace Rtl8723au
open Mem Wifi Security
set_option autoImplicit false

/-! ## The Michael code -/

section ChkMic
variable (adapter : RtwAdapter) (f : RecvFrame)

/-- `mickey`, for a frame whose station is known; `key_index` has two bits. -/
def rxMickey (stainfo : StaId) : Skey :=
  if isMulticastEtherAddr f.attrib.ra then adapter.securitypriv.dot118021XGrprxmickey[f.attrib.keyIndex % 4]
  else (adapter.stapriv.staInfo stainfo).dot11tkiprxmickey

/-- `datalen`, a `u32`. -/
def micDatalen : ℕ := uint ((f.len : ℤ) - f.attrib.hdrlen - f.attrib.ivLen - f.attrib.icvLen - 8)

def micPayload : ℤ := f.rxData + f.attrib.hdrlen + f.attrib.ivLen

/-- The code computed is the one behind the data. -/
def micMatches (stainfo : StaId) : Bool :=
  rtwSeccalctkipmic (rxMickey adapter f stainfo) f.mem f.rxData (micPayload f) (micDatalen f)
      (UInt8.ofNat f.attrib.priority) ==
    bytesAt f.mem (micPayload f + micDatalen f) 8

/-- `recvframe_chkmic`: its result, the frame, and the adapter. Without a group key nothing is taken off
the tail. -/
def recvframeChkmic : Bool × RecvFrame × RtwAdapter :=
  if f.attrib.encrypt = TKIP then
    match rtwGetStainfo adapter.stapriv (some f.attrib.ta) with
    | none => (true, (f.recvframePullTail 8).2, adapter)
    | some stainfo =>
      if isMulticastEtherAddr f.attrib.ra && !adapter.securitypriv.binstallGrpkey then (false, f, adapter)
      else if micMatches adapter f stainfo then
        (true, (f.recvframePullTail 8).2,
          if isMulticastEtherAddr f.attrib.ra then
            { adapter with securitypriv := { adapter.securitypriv with bcheckGrpkey := true } }
          else adapter)
      else (false, (f.recvframePullTail 8).2, adapter)
  else (true, f, adapter)

end ChkMic

namespace RecvPool

/-! ## Putting fragments together -/

/-- The body of a turn of `recvframe_defrag`: the payload of `pnextrframe` replaces the ICV of `prframe`.
The copy is made before `recvframe_put` has looked for room. -/
def appendFragment (s : RecvPool) (prframe pnextrframe : FrameId) : RecvPool :=
  let next := s.frames pnextrframe
  let next := (next.recvframePull ((next.attrib.hdrlen + next.attrib.ivLen) % 256 : ℕ)).2
  let first := s.frames prframe
  let first := (first.recvframePullTail first.attrib.icvLen).2
  let first := { first with mem := putBytes first.mem first.rxTail (bytesAt next.mem next.rxData next.len) }
  let first := (first.recvframePut next.len).2
  let first := { first with attrib := { first.attrib with icvLen := next.attrib.icvLen } }
  (s.setFrame pnextrframe next).setFrame prframe first

/-- The `while` loop over the queue; it stops at the first number that is not the next. -/
def defragLoop (prframe : FrameId) : ℕ → List FrameId → RecvPool → Bool × RecvPool
  | _, [], s => (true, s)
  | curfragnum, pnextrframe :: rest, s =>
    if curfragnum ≠ (s.frames pnextrframe).attrib.fragNum then (false, s)
    else defragLoop prframe ((curfragnum + 1) % 256) rest (s.appendFragment prframe pnextrframe)

/-- `recvframe_defrag`; its queue is not empty. -/
def recvframeDefrag (s : RecvPool) (psta : StaId) : Option FrameId × RecvPool :=
  match s.queue (.defragQ psta) with
  | [] => (none, s)
  | prframe :: _ =>
    let s := s.listDelInit prframe
    if (s.frames prframe).attrib.fragNum ≠ 0 then
      (none, (s.rtwFreeRecvframe prframe).rtwFreeRecvframeQueue (.defragQ psta))
    else
      match defragLoop prframe 1 (s.queue (.defragQ psta)) s with
      | (false, s) => (none, (s.rtwFreeRecvframe prframe).rtwFreeRecvframeQueue (.defragQ psta))
      | (true, s) => (some prframe, s.rtwFreeRecvframeQueue (.defragQ psta))

/-! ## The queue of a frame -/

/-- Whose `defrag_q` a frame goes to. Frames other than data frames from an unknown transmitter go to that
of the broadcast station, which every adapter has. -/
def pdefragQ (adapter : RtwAdapter) (f : RecvFrame) : Option StaId :=
  match rtwGetStainfo adapter.stapriv (some f.attrib.ta) with
  | some psta => some psta
  | none =>
    if getFrameType (le16 f.rxDataMem 0) ≠ WIFI_DATA_TYPE then rtwGetBcmcStainfo adapter.stapriv else none

/-- `recvframe_chk_defrag` up to the Michael code. -/
def chkDefragQueue (adapter : RtwAdapter) (s : RecvPool) (f : FrameId) : Option FrameId × RecvPool :=
  let a := (s.frames f).attrib
  if a.mfrag then
    match pdefragQ adapter (s.frames f) with
    | none => (none, s.rtwFreeRecvframe f)
    | some psta =>
      let s := if a.fragNum = 0 then s.rtwFreeRecvframeQueue (.defragQ psta) else s
      (none, s.listAddTail (.defragQ psta) f)
  else if a.fragNum = 0 then (some f, s)
  else
    match pdefragQ adapter (s.frames f) with
    | none => (none, s.rtwFreeRecvframe f)
    | some psta => recvframeDefrag (s.listAddTail (.defragQ psta) f) psta

/-- `recvframe_chk_defrag`. -/
def recvframeChkDefrag (adapter : RtwAdapter) (s : RecvPool) (f : FrameId) :
    Option FrameId × RecvPool × RtwAdapter :=
  match chkDefragQueue adapter s f with
  | (none, s) => (none, s, adapter)
  | (some prtnframe, s) =>
    if (s.frames prtnframe).attrib.privacy then
      match recvframeChkmic adapter (s.frames prtnframe) with
      | (true, frame, adapter) => (some prtnframe, s.setFrame prtnframe frame, adapter)
      | (false, frame, adapter) => (none, (s.setFrame prtnframe frame).rtwFreeRecvframe prtnframe, adapter)
    else (some prtnframe, s, adapter)

end RecvPool

end Rtl8723au
