import Faucet.Lldp.Tlv

/-!
# LLDP reception and the state of stack links

`lldp_handler` takes what a packet says about the other end and checks a stack port
against it; the state of the link follows from the last probe and from its age. The
ports of one valve are modelled, with the exceptions of the code. What the stack and
switch managers do after a change of state (`Surroundings`) reads the states of the ports
and no probe, so it may be any function here. Times are rational numbers.
-/

set_option autoImplicit false

namespace Faucet.Lldp

/-- The exceptions of the handler. -/
inductive PyError where
  | typeError
  | keyError
  | attributeError
deriving DecidableEq, Repr

/-! ## Ports -/

/-- The states of a stack port. -/
inductive StackState where
  | none
  | adminDown
  | init
  | bad
  | up
  | gone
deriving DecidableEq, Repr

/-- The number of a state, as the TLVs have it. -/
def StackState.number : StackState → Int
  | none => -1
  | adminDown => 0
  | init => 1
  | bad => 2
  | up => 3
  | gone => 4

/-- `STACK_DISPLAY_DICT`. -/
def stackDisplayDict : List (Int × String) :=
  [(0, "ADMIN_DOWN"), (1, "INITIALIZING"), (2, "BAD"), (3, "UP"), (4, "GONE"), (-1, "NONE")]

/-- `stack_state_name`. -/
def stackStateName (state : Int) : Except PyError String :=
  match stackDisplayDict.lookup state with
  | some name => .ok name
  | none => .error .keyError

/-- A number in a text: `"%u" % value`. -/
def percentU : Option Int → Except PyError String
  | some value => .ok (toString value)
  | none => .error .typeError

/-- The other end that a stack port is configured with, and the interval at which it
sends probes, when its datapath has one. -/
structure StackPeer where
  dpId : Int
  dpName : String
  portNumber : Int
  sendInterval : Option Nat
  positive : ∀ interval, sendInterval = some interval → 0 < interval

/-- Without an interval there is nothing to check. -/
theorem StackPeer.positive_none (interval : Nat) (given : none = some interval) : 0 < interval := by
  cases given

/-- `DEFAULT_LLDP_SEND_INTERVAL`. -/
def defaultLldpSendInterval : Nat := 5

/-- The interval of the peer's beacons, after the default. -/
def StackPeer.interval (peer : StackPeer) : Nat := peer.sendInterval.getD defaultLldpSendInterval

/-- The options of a port. -/
structure PortConf where
  stack : Option StackPeer
  maxLldpLost : Int

/-- `dyn_stack_probe_info`. -/
structure ProbeInfo where
  lastSeenLldpTime : ℚ
  stackCorrect : Bool
  remote : Remote
deriving DecidableEq

/-- The probe that was received last, and the state of the port. -/
structure PortState where
  recvTime : Option ℚ
  recvState : Option Int
  stackState : StackState
  probeInfo : Option ProbeInfo
deriving DecidableEq

/-- A port before it has received anything. -/
def PortState.start : PortState := ⟨none, none, .none, none⟩

/-- A value that counts as true. -/
def truthy : Option Int → Bool
  | some value => value ≠ 0
  | none => false

/-! ## The state machine of a link -/

/-- Why the state of a stack port changes. -/
inductive Reason where
  | unchanged
  | new
  | lost
  | cabling
  | up
deriving DecidableEq, Repr

/-- `stack_port_update`, with the reason when it returns one. -/
def stackPortUpdate (conf : PortConf) (now : ℚ) (port : PortState) :
    Except PyError (PortState × Option Reason) :=
  if port.stackState = .adminDown then .ok (port, none)
  else
    match port.probeInfo with
    | none =>
        if port.stackState = .none then .ok ({ port with stackState := .init }, some .new)
        else .ok (port, some .unchanged)
    | some info =>
        match conf.stack with
        | none => .error .keyError
        | some peer =>
            let numLostLldp := (now - info.lastSeenLldpTime) / peer.interval
            if ¬ numLostLldp < conf.maxLldpLost then
              .ok ({ port with stackState := .gone }, some .lost)
            else if !info.stackCorrect then
              .ok ({ port with stackState := .bad }, some .cabling)
            else if port.stackState ≠ .up then
              .ok ({ port with stackState := .up }, some .up)
            else .ok (port, some .unchanged)

/-! ## The valve -/

/-- The configuration of a valve. -/
structure ValveConf (ι : Type) where
  faucetDpMac : Bytes
  /-- The `send_interval` of `lldp_beacon`, when that is configured. -/
  lldpBeacon : Option Nat
  ports : List ι
  stackPorts : List ι
  port : ι → PortConf
  isStackPort : ∀ port' ∈ stackPorts, (port port').stack.isSome = true

/-- The valve, with the state of each port. -/
structure Valve (ι σ : Type) where
  port : ι → PortState
  staleRoot : Bool
  /-- The state of everything else. -/
  rest : σ

/-- What the valves of the stack do with a change of state. -/
structure Surroundings (ι σ : Type) where
  /-- The port at the other end is up. -/
  peerUp : σ → ι → Bool
  updateStackTopo : σ → (ι → PortState) → ι → Bool → σ
  /-- The flows that are made again, and the notifications. -/
  provision : σ → (ι → PortState) → σ

section Handlers

variable {ι σ : Type} [DecidableEq ι] (conf : ValveConf ι) (around : Surroundings ι σ) (now : ℚ)

/-- The state of a port is set. -/
def Valve.setPort (valve : Valve ι σ) (port : ι) (state : PortState) : Valve ι σ :=
  { valve with port := Function.update valve.port port state }

/-- The update of one port, with the number of changes so far. -/
def updatePort (current : Valve ι σ × Nat) (port : ι) : Except PyError (Valve ι σ × Nat) := do
  let (valve, stackChanges) := current
  let beforeState := (valve.port port).stackState
  match ← stackPortUpdate (conf.port port) now (valve.port port) with
  | (_, none) => throw .typeError
  | (after, some _) =>
      let valve := valve.setPort port after
      if beforeState = after.stackState then return (valve, stackChanges)
      let _ ← stackStateName after.stackState.number
      let _ ← stackStateName beforeState.number
      let portUp := after.stackState = .up ||
        after.stackState = .init && around.peerUp valve.rest port
      return ({ valve with rest := around.updateStackTopo valve.rest valve.port port portUp },
        stackChanges + 1)

/-- `update_stack_link_state` -/
def updateStackLinkState (ports : List ι) (valve : Valve ι σ) : Except PyError (Valve ι σ) := do
  let (valve, stackChanges) ← ports.foldlM (updatePort conf around now) (valve, 0)
  if 0 < stackChanges || valve.staleRoot then
    return { valve with staleRoot := false, rest := around.provision valve.rest valve.port }
  return valve

/-- The probe comes from the port at the configured other end. -/
def Remote.isPeer (remote : Remote) (peer : StackPeer) : Bool :=
  remote.dpId = some peer.dpId && remote.dpName = some peer.dpName &&
    remote.portId = some peer.portNumber

/-- `verify_lldp` -/
def verifyLldp (port : ι) (remote : Remote) (valve : Valve ι σ) : Except PyError (Valve ι σ) := do
  match (conf.port port).stack with
  | none => return valve
  | some peer =>
      let stackCorrect := remote.isPeer peer
      if !stackCorrect then
        let _ ← percentU (some peer.portNumber)
        let _ ← percentU remote.portId
      let valve := valve.setPort port
        { valve.port port with probeInfo := some ⟨now, stackCorrect, remote⟩ }
      updateStackLinkState conf around now [port] valve

/-- The log line about a new state at the other end. -/
def logRecvState (before : PortState) (remote : Remote) : Except PyError Unit := do
  if before.recvState ≠ remote.portState && truthy remote.portState then
    let _ ← percentU remote.portId
    let _ ← stackStateName (remote.portState.getD 0)

/-- `ETH_TYPE_LLDP`. -/
def ethTypeLldp : Nat := 0x88cc

/-- `lldp_handler`; a packet that is no LLDP packet has no list of TLVs. -/
def lldpHandler (ethType : Nat) (port : ι) (lldpPkt : Option (List Tlv)) (valve : Valve ι σ) :
    Except PyError (Valve ι σ) := do
  if ethType ≠ ethTypeLldp then return valve
  match lldpPkt with
  | none => return valve
  | some tlvs =>
      match parseFaucetLldp tlvs conf.faucetDpMac with
      | none => throw .attributeError
      | some remote =>
          logRecvState (valve.port port) remote
          let valve := valve.setPort port
            { valve.port port with recvTime := some now, recvState := remote.portState }
          if truthy remote.dpId && truthy remote.portId then
            verifyLldp conf around now port remote valve
          else return valve

/-- The state that a port has received goes with age. -/
def expirePort (sendInterval : Nat) (valve : Valve ι σ) (port : ι) :
    Except PyError (Valve ι σ) := do
  let state := valve.port port
  if !truthy state.recvState then return valve
  match state.recvTime with
  | none => throw .typeError
  | some recvTime =>
      if (sendInterval : ℚ) * (conf.port port).maxLldpLost < now - recvTime then
        return valve.setPort port { state with recvState := none }
      return valve

/-- `fast_state_expire` -/
def fastStateExpire (valve : Valve ι σ) : Except PyError (Valve ι σ) := do
  let valve ← match conf.lldpBeacon with
    | none => pure valve
    | some sendInterval => conf.ports.foldlM (expirePort conf now sendInterval) valve
  updateStackLinkState conf around now conf.stackPorts valve

end Handlers

/-! ## Steps -/

/-- A packet comes in, or links expire. -/
inductive Input (ι : Type) where
  | packet (now : ℚ) (ethType : Nat) (port : ι) (lldpPkt : Option (List Tlv))
  | expire (now : ℚ)

section Steps

variable {ι σ : Type} [DecidableEq ι] (conf : ValveConf ι) (around : Surroundings ι σ)

/-- What is done with an input. -/
def handle (valve : Valve ι σ) : Input ι → Except PyError (Valve ι σ)
  | .packet now ethType port lldpPkt => lldpHandler conf around now ethType port lldpPkt valve
  | .expire now => fastStateExpire conf around now valve

/-- An exception ends the controller. -/
def step (valve : Valve ι σ) (input : Input ι) : Option (Valve ι σ) :=
  (handle conf around valve input).toOption

/-- No port has received anything. -/
def Valve.start (rest : σ) : Valve ι σ := ⟨fun _ => .start, false, rest⟩

end Steps

end Faucet.Lldp
