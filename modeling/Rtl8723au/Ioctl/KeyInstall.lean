import Rtl8723au.Cmd.ThreadRuns
import Rtl8723au.Ioctl.SetEncryption
import Rtl8723au.Library.GuardedRuns

/-! The memory of the key commands: `set_group_key` and `set_pairwise_key` of `os_dep/ioctl_linux.c` between their
allocations and their `kfree`, while the command thread runs. -/
namespace Rtl8723au
set_option autoImplicit false

/-- A piece of memory that a key command is made of. An object whose parameters could not be allocated never gets to
the queue, and is named by its number among these. -/
inductive KeyBlock
  | cmd (b : MemBlock)
  | spare (n : ℕ)
  deriving DecidableEq

/-- Where a call of `rtw_set_encryption` stands: outside of the helpers, behind `rtw_enqueue_cmd`, or in front of the
last `kfree`. -/
inductive KeyCallPc
  | idle
  | freeParm (id : ℕ)
  | freeObj (block : KeyBlock)
  deriving DecidableEq

/-- The access point, the command queue and a call, with the history: the request and the parameters of each command
passed to `rtw_enqueue_cmd`, whether each spare object is one of `set_pairwise_key`, and what the helpers freed. -/
structure KeyInstall where
  ap : RtwAdapter
  cmd : CmdPriv := {}
  pc : KeyCallPc := .idle
  sent : List (IeeeParamCrypt × KeyParm) := []
  spares : List Bool := []
  callerFreed : List KeyBlock := []

inductive KeyInstallEvent
  /-- `rtw_set_encryption`, with the results of the allocations of `pwep`, of the command and of its parameters. -/
  | call (param : IeeeParamCrypt) (paramLen : ℕ) (pwep obj parm : Bool)
  /-- the next `kfree` of the call -/
  | kfree
  | thread (interrupted : Bool) (ret : ℕ)
  | start
  | up
  | flags (hwInitCompleted bHWPwrPindetect usbssEnable bDriverStopped bSurpriseRemoved : Bool)
  /-- what the rest of the driver makes of the adapter -/
  | others (ap : RtwAdapter)

namespace KeyInstall

/-- `set_group_key` and `set_pairwise_key` up to their first `kfree` behind `rtw_enqueue_cmd`. Without memory for the
parameters `set_pairwise_key` frees the object in front of its label `exit`. -/
def build (s : KeyInstall) (param : IeeeParamCrypt) (keyParm : KeyParm) (obj parm : Bool) : KeyInstall :=
  if !obj then s
  else if !parm then
    { s with
      spares := s.spares ++ [keyParm.isPairwise]
      callerFreed := s.callerFreed ++ if keyParm.isPairwise then [.spare s.spares.length] else []
      pc := .freeObj (.spare s.spares.length) }
  else
    { s with
      cmd := s.cmd.rtwEnqueueCmd { cmdcode := keyParm.cmdcode }
      sent := s.sent ++ [(param, keyParm)]
      pc := .freeParm s.cmd.passed.length }

def call (s : KeyInstall) (param : IeeeParamCrypt) (paramLen : ℕ) (pwep obj parm : Bool) : Option KeyInstall :=
  match s.pc with
  | .idle =>
    let (ap, keyParm, _) := rtwSetEncryption s.ap param paramLen pwep
    let s := { s with ap := ap }
    match keyParm with
    | none => some s
    | some keyParm => some (s.build param keyParm obj parm)
  | _ => none

/-- `kfree` of the parameters, then, at the label `exit`, of the object. -/
def kfree (s : KeyInstall) : Option KeyInstall :=
  match s.pc with
  | .idle => none
  | .freeParm id =>
    some { s with callerFreed := s.callerFreed ++ [.cmd ⟨id, .parmbuf⟩], pc := .freeObj (.cmd ⟨id, .obj⟩) }
  | .freeObj block => some { s with callerFreed := s.callerFreed ++ [block], pc := .idle }

def step (s : KeyInstall) : KeyInstallEvent → Option KeyInstall
  | .call param paramLen pwep obj parm => s.call param paramLen pwep obj parm
  | .kfree => s.kfree
  | .thread interrupted ret => some { s with cmd := s.cmd.threadStep interrupted ret }
  | .start => some { s with cmd := s.cmd.step .start }
  | .up => some { s with cmd := s.cmd.step .up }
  | .flags hwInitCompleted bHWPwrPindetect usbssEnable bDriverStopped bSurpriseRemoved =>
    some { s with
      cmd := s.cmd.step (.flags hwInitCompleted bHWPwrPindetect usbssEnable bDriverStopped bSurpriseRemoved) }
  | .others ap => some { s with ap := ap }

/-! ## The memory -/

def freed (s : KeyInstall) : List KeyBlock := s.cmd.freed.map .cmd ++ s.callerFreed

/-- What the command thread reads, writes or frees from one of its places to the next. -/
def threadTouches (s : CmdPriv) (interrupted : Bool) (ret : ℕ) : List MemBlock :=
  match s.pc with
  | .next =>
    -- the first command is unlinked, and its successor points back
    if s.bDriverStopped || s.bSurpriseRemoved then [] else (s.cmdQueue.take 2).map fun c => c.block .obj
  | .running pcmd => pcmd.block .obj :: if s.rtwCmdFilter pcmd then [pcmd.block .parmbuf] else []
  | .post pcmd res => pcmd.block .obj :: pcmd.postProcess res
  | .draining =>
    (s.cmdQueue.take 2).map (fun c => c.block .obj) ++ (s.threadStep interrupted ret).freed.drop s.freed.length
  | _ => []

/-- What a step reads, writes or frees of the memory that was allocated before it. -/
def touches (s : KeyInstall) : KeyInstallEvent → List KeyBlock
  | .call param paramLen pwep obj parm =>
    match (rtwSetEncryption s.ap param paramLen pwep).2.1 with
    | none => []
    -- the last command of the queue gets a successor
    | some keyParm =>
      if obj && parm && s.cmd.rtwCmdFilter { cmdcode := keyParm.cmdcode } then
        s.cmd.cmdQueue.getLast?.toList.map fun c => .cmd (c.block .obj)
      else []
  | .kfree =>
    match s.pc with
    | .idle => []
    | .freeParm id => [.cmd ⟨id, .parmbuf⟩]
    | .freeObj block => [block]
  | .thread interrupted ret => (threadTouches s.cmd interrupted ret).map .cmd
  | _ => []

/-- The step touches nothing that was freed. -/
def Live (s : KeyInstall) (e : KeyInstallEvent) : Prop := ∀ b ∈ s.touches e, b ∉ s.freed

/-! ## What an installation asks for -/

/-- The algorithm of a command is the one that is named. -/
def Names (param : IeeeParamCrypt) (algorithm : ℕ) : Prop :=
  if param.algIs "WEP" then
    (algorithm = WEP40 ∨ algorithm = WEP104) ∧ (param.keyLen.toNat = 5 → algorithm = WEP40) ∧
      (param.keyLen.toNat = 13 → algorithm = WEP104)
  else if param.algIs "TKIP" then algorithm = TKIP
  else if param.algIs "CCMP" then algorithm = AES
  else algorithm = NO_PRIVACY

/-- A command with the key index or the station address, the algorithm and the key bytes of the request. -/
def Carries (param : IeeeParamCrypt) : KeyParm → Prop
  | .setKey parm =>
    parm.keyid = param.idx.toNat ∧ Names param parm.algorithm ∧
      ∀ i : Fin 16, i.val < min (groupKeylen parm.algorithm) param.keyLen.toNat → parm.key.get i = param.key i.val
  | .setStakey parm =>
    (isMulticastEtherAddr param.staAddr = false → parm.addr = param.staAddr) ∧ Names param parm.algorithm ∧
      ∀ i : Fin 16, i.val < param.keyLen.toNat → parm.key.get i = param.key i.val

/-- No call is under way and no command is waiting or being run. -/
def AtRest (s : KeyInstall) : Prop := s.pc = .idle ∧ s.cmd.cmdQueue = [] ∧ s.cmd.inHand = []

/-- Each command and its parameters were freed once, each object that was not passed on was freed once, and each
accepted command was executed once with what was asked for. -/
structure Settled (s : KeyInstall) : Prop where
  obj : ∀ c ∈ s.cmd.passed, s.freed.count (.cmd (c.block .obj)) = 1
  parmbuf : ∀ c ∈ s.cmd.passed, s.freed.count (.cmd (c.block .parmbuf)) = 1
  spare : ∀ n < s.spares.length, s.freed.count (.spare n) = 1
  executed : ∀ c ∈ s.cmd.accepted, s.cmd.executed.count c = 1 ∧
    ∃ given, s.sent[c.id]? = some given ∧ Carries given.1 given.2

/-- Nothing is used or freed after it was freed, and at rest all is settled. -/
def Delivered (s : KeyInstall) (l : List KeyInstallEvent) : Prop :=
  GuardedRuns.Meets step Live s l ∧ ∀ s', GuardedRuns.run step s l = some s' → s'.AtRest → s'.Settled

/-! ## When a command is built -/

/-- The request leads to `set_group_key`, through `set_wep_key` or not, or to `set_pairwise_key`. -/
def Installs (ap : RtwAdapter) (param : IeeeParamCrypt) (paramLen : ℕ) (pwep : Bool) : Prop :=
  paramLen = SIZEOF_IEEE_PARAM + param.keyLen.toNat ∧
    if param.staAddr = bcAddr then
      param.idx.toNat < WEP_KEYS ∧ param.algIs "none" = false ∧
        if param.algIs "WEP" then param.keyLen.toNat ≠ 0 ∧ pwep = true
        else ap.checkFwstate WIFI_AP_STATE = true ∧ param.setTx = 1
    else
      (rtwGetStainfo ap.stapriv (some param.staAddr)).isSome ∧
        ap.securitypriv.dot11AuthAlgrthm = dot11AuthAlgrthm_8021X ∧ ap.checkFwstate WIFI_AP_STATE = true

/-- The helper is `set_pairwise_key`. -/
def Pairwise (param : IeeeParamCrypt) : Prop := param.staAddr ≠ bcAddr ∧ param.setTx = 1

/-- No step is a call whose helper gets memory for its command; `set_group_key` may get it for the object alone. -/
def Starved (s : KeyInstall) : KeyInstallEvent → Prop
  | .call param paramLen pwep obj parm =>
    ¬(Installs s.ap param paramLen pwep ∧ obj = true ∧ (parm = true ∨ Pairwise param))
  | _ => True

/-- The access point, with its command thread still to be started. -/
def init (ap : RtwAdapter) : KeyInstall := { ap := ap }

end KeyInstall

end Rtl8723au
