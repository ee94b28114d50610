import Mathlib

/-!
# The LACP state of a port

The actor state of a port follows the packets of its LACP peer
(`lacp_actor_update`); the port state says whether the port belongs to the DP
that is nominated for its LAG (`lacp_port_update`).
-/

set_option autoImplicit false

namespace Faucet.Lacp

/-- A LAG id; a port whose `lacp` is 0 is not a LACP port. -/
abbrev LagId := ℕ

/-- `LACP_ACTOR_*` -/
inductive ActorState where
  | notConfigured
  | none
  | init
  | up
  | noSync
deriving DecidableEq, Repr

/-- `LACP_PORT_*` -/
inductive PortState where
  | notConfigured
  | unselected
  | selected
  | standby
deriving DecidableEq, Repr

/-- A port with its LACP state. -/
structure Port where
  number : ℕ
  lacp : LagId
  enabled : Bool
  dynPhysUp : Bool
  lacpSelected : Bool
  lacpUnselected : Bool
  lacpStandby : Bool
  dynLacpUp : Option Bool
  dynLacpActorState : ActorState
  dynLacpPortSelected : PortState
deriving DecidableEq, Repr

namespace Port

/-- `Port.running` -/
def running (port : Port) : Bool := port.enabled && port.dynPhysUp

/-- `is_actor_up` -/
def isActorUp (port : Port) : Bool := port.dynLacpActorState == .up

/-- `is_actor_nosync` -/
def isActorNosync (port : Port) : Bool := port.dynLacpActorState == .noSync

/-- `is_port_selected` -/
def isPortSelected (port : Port) : Bool := port.dynLacpPortSelected == .selected

/-- A selection state is configured for the port whichever DP is nominated. -/
def forced (port : Port) : Bool := port.lacpSelected || port.lacpUnselected || port.lacpStandby

/-- `lacp_actor_update`; `lacpPkt` says whether a LACP packet was received. -/
def lacpActorUpdate (port : Port) (lacpUp lacpPkt coldStart : Bool) : Port :=
  { port with
    dynLacpUp := some lacpUp
    dynLacpActorState :=
      if coldStart then .notConfigured
      else if !port.running then .none
      else if !lacpPkt then .init
      else if lacpUp then .up
      else .noSync }

/-- `lacp_port_update`; `selected` says whether the port's DP is the nominated one. -/
def lacpPortUpdate (port : Port) (selected coldStart : Bool) : Port :=
  { port with
    dynLacpPortSelected :=
      if coldStart then .notConfigured
      else if port.lacpSelected then .selected
      else if port.lacpUnselected then .unselected
      else if selected then .selected
      else if port.lacpStandby then .standby
      else .unselected }

/-- The port as the nomination sees it. -/
def view (port : Port) : Port :=
  { port with dynLacpUp := none, dynLacpPortSelected := .notConfigured }

theorem view_lacpPortUpdate (port : Port) (selected coldStart : Bool) :
    (port.lacpPortUpdate selected coldStart).view = port.view := rfl

theorem view_lacpActorUpdate (port : Port) (lacpUp lacpPkt coldStart : Bool) :
    (port.lacpActorUpdate lacpUp lacpPkt coldStart).view =
      (port.view.lacpActorUpdate lacpUp lacpPkt coldStart).view := rfl

/-- A port without a forced state is selected exactly when its DP is nominated. -/
theorem isPortSelected_lacpPortUpdate {port : Port} (free : port.forced = false) (selected : Bool) :
    (port.lacpPortUpdate selected false).isPortSelected = selected := by
  simp only [forced, Bool.or_eq_false_iff] at free
  cases selected <;> simp [lacpPortUpdate, isPortSelected, free]

end Port

end Faucet.Lacp
