import Faucet.Lldp.Robust
import Faucet.Lldp.Text

/-!
# Beacons and what the other end reads in them

A beacon tells the datapath and the state of a stack port in organisation TLVs that
follow those of the user, and the name of the datapath as the system name, which the
user can change. The other end reads the first TLVs with its own OUI (`told`).

A beacon is reported as it should be in every state of the other end exactly when what
is told there is right (`reported_iff_understood`).
-/

set_option autoImplicit false

namespace Faucet.Lldp

open TransitionSystem

/-! ## Beacons -/

/-- An organizationally specific TLV of the configuration. -/
structure OrgTlv where
  oui : Bytes
  subtype : Nat
  info : Bytes
deriving DecidableEq

/-- A port that sends beacons. -/
structure BeaconPort where
  number : Nat
  positive : 0 < number
  stack : Bool
  dynStackCurrentState : StackState
  systemName : Option String
  portDescr : Option String
  orgTlvs : List OrgTlv

/-- A datapath that sends beacons, with the `system_name` of its `lldp_beacon`. -/
structure BeaconDp where
  dpId : Nat
  name : String
  faucetDpMac : Bytes
  lldpSystemName : Option String

/-- It as a TLV of a packet. -/
def OrgTlv.toTlv (tlv : OrgTlv) : Tlv := .organizationallySpecific tlv.oui tlv.subtype tlv.info

/-- The TLVs of `lldp_beacon`; of the chassis, the time to live and the description only
the types are read. -/
def lldpBeacon (portId : Nat) (orgTlvs : List OrgTlv) (systemName portDescr : Option String) :
    List Tlv :=
  [.other 1 (by decide), .portId 5 (strNat portId), .other 3 (by decide)] ++
    systemName.toList.map (fun text => .systemName (utf8Encode text)) ++
    portDescr.toList.map (fun _ => .other 4 (by decide)) ++
    orgTlvs.map OrgTlv.toTlv ++ [.other 0 (by decide)]

namespace BeaconDp

variable (dp : BeaconDp) (port : BeaconPort)

/-- `faucet_lldp_tlvs` -/
def faucetLldpTlvs : List OrgTlv := [⟨faucetOui dp.faucetDpMac, lldpFaucetDpId, strNat dp.dpId⟩]

/-- `faucet_lldp_stack_state_tlvs` -/
def faucetLldpStackStateTlvs : List OrgTlv :=
  if port.stack then
    [⟨faucetOui dp.faucetDpMac, lldpFaucetStackState, strInt port.dynStackCurrentState.number⟩]
  else []

/-- An empty name of the port does not count. -/
def systemName : String :=
  match port.systemName with
  | some text => if text = "" then dp.lldpSystemName.getD dp.name else text
  | none => dp.lldpSystemName.getD dp.name

/-- The organisation TLVs, those of the user first. -/
def orgTlvs : List OrgTlv :=
  port.orgTlvs ++ dp.faucetLldpTlvs ++ dp.faucetLldpStackStateTlvs port

/-- `_send_lldp_beacon_on_port` -/
def sendLldpBeaconOnPort : List Tlv :=
  lldpBeacon port.number (dp.orgTlvs port) (some (dp.systemName port)) port.portDescr

/-! ## What is told -/

/-- What the datapath says about itself under a subtype. -/
def own (subtype : Nat) : Option Int :=
  if subtype = lldpFaucetDpId then some dp.dpId
  else if subtype = lldpFaucetStackState ∧ port.stack = true then
    some port.dynStackCurrentState.number
  else none

/-- What a datapath with this address reads under a subtype: the first TLV of the user with
its OUI, and without one what the sender says, if it has the same OUI. -/
def told (faucetDpMac : Bytes) (subtype : Nat) : Option Int :=
  match port.orgTlvs.find? fun tlv => tlv.oui = faucetOui faucetDpMac ∧ tlv.subtype = subtype with
  | some tlv => pyInt tlv.info
  | none => if faucetOui dp.faucetDpMac = faucetOui faucetDpMac then dp.own port subtype else none

end BeaconDp

section Parse

variable {dp : BeaconDp} {port : BeaconPort} {faucetDpMac : Bytes} {subtype : Nat}

theorem tlvsByType_orgTlvs {orgTlvs : List OrgTlv} :
    tlvsByType (orgTlvs.map OrgTlv.toTlv) lldpTlvOrganizationallySpecific =
      orgTlvs.map OrgTlv.toTlv := by
  refine List.filter_eq_self.mpr fun tlv member => ?_
  obtain ⟨_, _, rfl⟩ := List.mem_map.mp member
  exact decide_eq_true rfl

theorem tlvsByType_orgTlvs_of_ne {orgTlvs : List OrgTlv} {tlvType : Nat}
    (other : tlvType ≠ lldpTlvOrganizationallySpecific) :
    tlvsByType (orgTlvs.map OrgTlv.toTlv) tlvType = [] := by
  refine List.filter_eq_nil_iff.mpr fun tlv member => ?_
  obtain ⟨_, _, rfl⟩ := List.mem_map.mp member
  rw [decide_eq_true_eq]
  exact other.symm

theorem tlvsByType_append {first second : List Tlv} {tlvType : Nat} :
    tlvsByType (first ++ second) tlvType =
      tlvsByType first tlvType ++ tlvsByType second tlvType := List.filter_append ..

theorem portId_of_beacon : tlvsByType (dp.sendLldpBeaconOnPort port) lldpTlvPortId =
    [.portId 5 (strNat port.number)] := by
  rw [BeaconDp.sendLldpBeaconOnPort, lldpBeacon, tlvsByType_append, tlvsByType_append,
    tlvsByType_orgTlvs_of_ne (by decide), tlvsByType_append]
  cases port.portDescr <;> rfl

theorem systemName_of_beacon : tlvsByType (dp.sendLldpBeaconOnPort port) lldpTlvSystemName =
    [.systemName (utf8Encode (dp.systemName port))] := by
  rw [BeaconDp.sendLldpBeaconOnPort, lldpBeacon, tlvsByType_append, tlvsByType_append,
    tlvsByType_orgTlvs_of_ne (by decide), tlvsByType_append]
  cases port.portDescr <;> rfl

theorem specific_of_beacon :
    tlvsByType (dp.sendLldpBeaconOnPort port) lldpTlvOrganizationallySpecific =
      (dp.orgTlvs port).map OrgTlv.toTlv := by
  rw [BeaconDp.sendLldpBeaconOnPort, lldpBeacon, tlvsByType_append, tlvsByType_append,
    tlvsByType_orgTlvs, tlvsByType_append]
  cases port.portDescr <;> exact List.append_nil _

theorem faucetTlvs_of_beacon : faucetTlvs (dp.sendLldpBeaconOnPort port) faucetDpMac =
    some (((dp.orgTlvs port).filter (·.oui = faucetOui faucetDpMac)).map OrgTlv.toTlv) := by
  have allOui : ((dp.orgTlvs port).map OrgTlv.toTlv).all (·.ouiAttr.isSome) = true := by
    simp [OrgTlv.toTlv, Tlv.ouiAttr]
  rw [faucetTlvs, specific_of_beacon, if_pos allOui, List.filter_map]
  congr 3
  funext tlv
  simp [OrgTlv.toTlv, Tlv.ouiAttr]

theorem tlvsBySubtype_orgTlvs {orgTlvs : List OrgTlv} :
    tlvsBySubtype (orgTlvs.map OrgTlv.toTlv) subtype =
      some ((orgTlvs.filter (·.subtype = subtype)).map OrgTlv.toTlv) := by
  have allSubtype : (orgTlvs.map OrgTlv.toTlv).all (·.subtypeAttr.isSome) = true := by
    simp [OrgTlv.toTlv, Tlv.subtypeAttr]
  rw [tlvsBySubtype, if_pos allSubtype, List.filter_map]
  congr 3
  funext tlv
  simp [OrgTlv.toTlv, Tlv.subtypeAttr]

/-- The number in the first TLV with the OUI and the subtype is what is told. -/
theorem cast_eq_told (isOurs : subtype = lldpFaucetDpId ∨ subtype = lldpFaucetStackState) :
    tlvCast ((((dp.orgTlvs port).filter (·.oui = faucetOui faucetDpMac)).filter
      (·.subtype = subtype)).map OrgTlv.toTlv) Tlv.infoAttr pyInt =
        dp.told port faucetDpMac subtype := by
  have cast : ∀ orgTlvs : List OrgTlv,
      tlvCast (orgTlvs.map OrgTlv.toTlv) Tlv.infoAttr pyInt = orgTlvs.head?.bind (pyInt ·.info) := by
    intro orgTlvs
    cases orgTlvs <;> rfl
  rw [cast, List.filter_filter, List.head?_filter, BeaconDp.orgTlvs, List.append_assoc,
    List.find?_append, BeaconDp.told]
  have predicate : (fun tlv : OrgTlv => decide (tlv.subtype = subtype) &&
      decide (tlv.oui = faucetOui faucetDpMac)) =
        fun tlv => decide (tlv.oui = faucetOui faucetDpMac ∧ tlv.subtype = subtype) := by
    funext tlv
    rw [Bool.and_comm, Bool.decide_and]
  rw [predicate]
  split
  next tlv found => rw [found, Option.some_or, Option.bind_some]
  next missing =>
    rw [missing, Option.none_or]
    by_cases sameOui : faucetOui dp.faucetDpMac = faucetOui faucetDpMac
    · rw [if_pos sameOui]
      rcases isOurs with rfl | rfl
      · have found : pyInt (strNat dp.dpId) = some (dp.dpId : Int) := pyInt_strNat dp.dpId
        simp [BeaconDp.faucetLldpTlvs, sameOui, BeaconDp.own, found]
      · have apart : lldpFaucetDpId ≠ lldpFaucetStackState := by decide
        cases isStack : port.stack with
        | true =>
            simp [BeaconDp.faucetLldpTlvs, BeaconDp.faucetLldpStackStateTlvs, sameOui, isStack,
              BeaconDp.own, apart, apart.symm, pyInt_strInt]
        | false =>
            simp [BeaconDp.faucetLldpTlvs, BeaconDp.faucetLldpStackStateTlvs, isStack,
              BeaconDp.own, apart, apart.symm]
    · rw [if_neg sameOui]
      cases isStack : port.stack <;>
        simp [BeaconDp.faucetLldpTlvs, BeaconDp.faucetLldpStackStateTlvs, sameOui, isStack]

/-- **What the other end reads in a beacon.** -/
theorem parseFaucetLldp_beacon (dp : BeaconDp) (port : BeaconPort) (faucetDpMac : Bytes) :
    ∃ remote, parseFaucetLldp (dp.sendLldpBeaconOnPort port) faucetDpMac = some remote ∧
      remote.dpId = dp.told port faucetDpMac lldpFaucetDpId ∧
      remote.portState = dp.told port faucetDpMac lldpFaucetStackState ∧
      ((remote.dpId ≠ none ∨ remote.portState ≠ none) →
        remote.dpName = some (dp.systemName port) ∧ remote.portId = some (port.number : Int)) := by
  have dpId : tlvCast _ Tlv.infoAttr pyInt = dp.told port faucetDpMac lldpFaucetDpId :=
    cast_eq_told (.inl rfl)
  have portState : tlvCast _ Tlv.infoAttr pyInt = dp.told port faucetDpMac lldpFaucetStackState :=
    cast_eq_told (.inr rfl)
  have number : pyInt (strNat port.number) = some (port.number : Int) := pyInt_strNat port.number
  rw [parseFaucetLldp]
  simp only [faucetTlvs_of_beacon, Option.bind_eq_bind, Option.bind_some, tlvsBySubtype_orgTlvs,
    portId_of_beacon, systemName_of_beacon]
  split
  next isEmpty =>
    have noTlvs : (dp.orgTlvs port).filter (·.oui = faucetOui faucetDpMac) = [] := by
      simpa using isEmpty
    rw [noTlvs] at dpId portState
    exact ⟨_, rfl, dpId, portState, fun known => by simp [Remote.unknown] at known⟩
  next =>
    refine ⟨_, rfl, dpId, portState, fun _ => ⟨?_, ?_⟩⟩
    · simp [tlvCast, Tlv.systemNameAttr, utf8Decode_encode]
    · simp [tlvCast, Tlv.portIdAttr, number]

end Parse

/-! ## Reports -/

/-- The beacon is of the port at the configured other end. -/
def BeaconDp.isPeer (dp : BeaconDp) (port : BeaconPort) (peer : StackPeer) : Bool :=
  dp.dpId = peer.dpId && port.number = peer.portNumber

/-- What a beacon is to say. -/
def BeaconDp.remote (dp : BeaconDp) (port : BeaconPort) : Remote where
  dpId := some dp.dpId
  dpName := some dp.name
  portId := some port.number
  portState := some port.dynStackCurrentState.number

/-- A name of a stack state exists. -/
def IsStackState (state : Int) : Prop := ∃ name, stackStateName state = .ok name

/-- What is told to a datapath with this address is right, if it is from its peer. From
others it is only to be a datapath, and not the peer, and a state that has a name. -/
def Understood (faucetDpMac : Bytes) (peer : StackPeer) (dp : BeaconDp) (port : BeaconPort) :
    Prop :=
  if dp.isPeer port peer then
    dp.dpId ≠ 0 ∧ dp.systemName port = dp.name ∧
      dp.told port faucetDpMac lldpFaucetDpId = some (dp.dpId : Int) ∧
      dp.told port faucetDpMac lldpFaucetStackState = some port.dynStackCurrentState.number
  else
    (∃ dpId : Int, dp.told port faucetDpMac lldpFaucetDpId = some dpId ∧ dpId ≠ 0 ∧
      ¬ (dpId = peer.dpId ∧ dp.systemName port = peer.dpName ∧ port.number = peer.portNumber)) ∧
    ∀ state : Int, dp.told port faucetDpMac lldpFaucetStackState = some state → state ≠ 0 →
      IsStackState state

section Understood

variable {faucetDpMac : Bytes} {peer : StackPeer} {dp : BeaconDp} {port : BeaconPort}
  {remote : Remote}

theorem truthy_some {value : Int} : truthy (some value) = true ↔ value ≠ 0 := by
  simp [truthy]

/-- What is understood is reported. -/
theorem reports_of_understood (names : (dp.dpId : Int) = peer.dpId → dp.name = peer.dpName)
    (understood : Understood faucetDpMac peer dp port)
    (dpId : remote.dpId = dp.told port faucetDpMac lldpFaucetDpId)
    (portState : remote.portState = dp.told port faucetDpMac lldpFaucetStackState)
    (known : (remote.dpId ≠ none ∨ remote.portState ≠ none) →
      remote.dpName = some (dp.systemName port) ∧ remote.portId = some (port.number : Int)) :
    (truthy remote.dpId && truthy remote.portId) = true ∧
      remote.isPeer peer = dp.isPeer port peer ∧
      (dp.isPeer port peer = true → remote = dp.remote port) ∧
      (truthy remote.portState = true → remote.portId.isSome = true ∧
        IsStackState (remote.portState.getD 0)) := by
  obtain ⟨remoteDpId, remoteDpName, remotePortId, remotePortState⟩ := remote
  dsimp only at dpId portState known
  have positive : (port.number : Int) ≠ 0 := by
    have := port.positive
    omega
  unfold Understood at understood
  split at understood
  next isPeer =>
    obtain ⟨nonzero, name, toldDpId, toldState⟩ := understood
    rw [toldDpId] at dpId
    rw [toldState] at portState
    subst dpId portState
    obtain ⟨dpName, portId⟩ := known (.inl nofun)
    subst dpName portId
    rw [BeaconDp.isPeer, Bool.and_eq_true, decide_eq_true_eq, decide_eq_true_eq] at isPeer
    have sameName := names isPeer.1
    refine ⟨?_, ?_, fun _ => ?_, fun _ => ⟨rfl, stackStateName_number _⟩⟩
    · rw [Bool.and_eq_true, truthy_some, truthy_some]
      exact ⟨by omega, positive⟩
    · simp [Remote.isPeer, BeaconDp.isPeer, isPeer.1, isPeer.2, name, sameName]
    · rw [name]
      rfl
  next notPeer =>
    obtain ⟨⟨other, toldDpId, nonzero, notSame⟩, states⟩ := understood
    rw [toldDpId] at dpId
    subst dpId
    obtain ⟨dpName, portId⟩ := known (.inl nofun)
    subst dpName portId
    refine ⟨?_, ?_, fun isPeer => absurd isPeer notPeer, fun isTruthy => ⟨rfl, ?_⟩⟩
    · rw [Bool.and_eq_true, truthy_some, truthy_some]
      exact ⟨nonzero, positive⟩
    · rw [Bool.not_eq_true] at notPeer
      rw [notPeer]
      simpa [Remote.isPeer, and_assoc] using notSame
    · cases remotePortState with
      | none => cases isTruthy
      | some state => exact states state portState.symm (truthy_some.mp isTruthy)

/-- What is reported is understood. -/
theorem understood_of_reports
    (dpId : remote.dpId = dp.told port faucetDpMac lldpFaucetDpId)
    (portState : remote.portState = dp.told port faucetDpMac lldpFaucetStackState)
    (known : (remote.dpId ≠ none ∨ remote.portState ≠ none) →
      remote.dpName = some (dp.systemName port) ∧ remote.portId = some (port.number : Int))
    (isProbe : (truthy remote.dpId && truthy remote.portId) = true)
    (same : remote.isPeer peer = dp.isPeer port peer)
    (exact : dp.isPeer port peer = true → remote = dp.remote port)
    (described : truthy remote.portState = true → IsStackState (remote.portState.getD 0)) :
    Understood faucetDpMac peer dp port := by
  rw [Bool.and_eq_true] at isProbe
  cases told : remote.dpId with
  | none =>
      rw [told] at isProbe
      cases isProbe.1
  | some other =>
      obtain ⟨dpName, portId⟩ := known (.inl (by simp [told]))
      have nonzero := truthy_some.mp (told ▸ isProbe.1)
      unfold Understood
      split
      next isPeer =>
        have exact := exact isPeer
        rw [exact] at dpId portState dpName told
        refine ⟨?_, (Option.some.inj dpName).symm, dpId.symm, portState.symm⟩
        cases told
        omega
      next notPeer =>
        refine ⟨⟨other, dpId.symm.trans told, nonzero, fun same' => ?_⟩, ?_⟩
        · rw [← same, Remote.isPeer, told, dpName, portId] at notPeer
          exact notPeer (by simp [same'.1, same'.2.1, same'.2.2])
        · intro state toldState isState
          rw [← portState] at toldState
          rw [toldState] at described
          exact described (truthy_some.mpr isState)

end Understood

section Report

variable {ι σ : Type} [DecidableEq ι]

/-- Whenever a port receives the beacon, it is reported as cabled to its peer when the beacon
is of the peer, with what the beacon is to say, and as cabled incorrectly otherwise. -/
def BeaconReported (conf : ValveConf ι) (around : Surroundings ι σ) (rest : σ) (receiver : ι)
    (peer : StackPeer) (dp : BeaconDp) (port : BeaconPort) : Prop :=
  ∀ (now : ℚ) (inputs : List (Input ι)) (valve : Valve ι σ),
    exec (step conf around) (.start rest) inputs = some valve → ∃ next remote,
      lldpHandler conf around now ethTypeLldp receiver (some (dp.sendLldpBeaconOnPort port)) valve =
        .ok next ∧
      (next.port receiver).probeInfo = some ⟨now, dp.isPeer port peer, remote⟩ ∧
      (dp.isPeer port peer = true → remote = dp.remote port)

variable {conf : ValveConf ι} {around : Surroundings ι σ} {rest : σ} {receiver : ι}
  {peer : StackPeer} {dp : BeaconDp} {port : BeaconPort}

/-- What the beacon is to the port. -/
theorem probeOf_beacon {remote : Remote} (stack : (conf.port receiver).stack = some peer)
    (parsed : parseFaucetLldp (dp.sendLldpBeaconOnPort port) conf.faucetDpMac = some remote)
    (now : ℚ) :
    probeOf conf receiver
      (.packet now ethTypeLldp receiver (some (dp.sendLldpBeaconOnPort port))) =
        if truthy remote.dpId && truthy remote.portId then some ⟨now, remote.isPeer peer, remote⟩
        else none := by
  simp [probeOf, parsed, probeInfo, stack]

theorem understood_of_reported (stack : (conf.port receiver).stack = some peer)
    (reported : BeaconReported conf around rest receiver peer dp port) :
    Understood conf.faucetDpMac peer dp port := by
  obtain ⟨remote, parsed, dpId, portState, known⟩ :=
    parseFaucetLldp_beacon dp port conf.faucetDpMac
  have probe := probeOf_beacon stack parsed
  obtain ⟨next, remote', handled, probed, exact⟩ := reported 0 [] (.start rest) rfl
  have ok : ∀ port, PortOk ((Valve.start rest : Valve ι σ).port port) := fun _ => ⟨nofun, nofun⟩
  have described : Describable conf (Valve.start rest : Valve ι σ) (.packet 0 ethTypeLldp receiver
      (some (dp.sendLldpBeaconOnPort port))) := by
    by_contra undescribed
    obtain ⟨error, raised⟩ := (lldpHandler_spec around 0 ok ethTypeLldp receiver _).2 undescribed
    cases handled.symm.trans raised
  obtain ⟨next', handled', steps⟩ :=
    (lldpHandler_spec around 0 ok ethTypeLldp receiver _).1 described
  cases handled.symm.trans handled'
  have moved := (steps receiver).probeInfo
  rw [probed, probe] at moved
  by_cases isProbe : (truthy remote.dpId && truthy remote.portId) = true
  · rw [if_pos isProbe, Option.some_or] at moved
    rw [Option.some.injEq, ProbeInfo.mk.injEq] at moved
    obtain ⟨_, same, rfl⟩ := moved
    refine understood_of_reports dpId portState known isProbe same.symm exact fun isTruthy => ?_
    refine (described _ _ rfl rfl parsed isTruthy fun same => ?_).2
    rw [← same] at isTruthy
    cases isTruthy
  · rw [if_neg isProbe] at moved
    cases moved

theorem reported_of_understood (stack : (conf.port receiver).stack = some peer)
    (names : (dp.dpId : Int) = peer.dpId → dp.name = peer.dpName)
    (understood : Understood conf.faucetDpMac peer dp port) :
    BeaconReported conf around rest receiver peer dp port := by
  intro now inputs valve executed
  obtain ⟨remote, parsed, dpId, portState, known⟩ :=
    parseFaucetLldp_beacon dp port conf.faucetDpMac
  have probe := probeOf_beacon stack parsed
  obtain ⟨isProbe, same, exact, described⟩ :=
    reports_of_understood names understood dpId portState known
  have ok := (follows_exec executed).ok
  have described : Describable conf valve (.packet now ethTypeLldp receiver
      (some (dp.sendLldpBeaconOnPort port))) := by
    intro tlvs remote' _ sameTlvs parsed' isTruthy _
    cases sameTlvs
    cases parsed.symm.trans parsed'
    exact described isTruthy
  obtain ⟨next, handled, steps⟩ :=
    (lldpHandler_spec around now ok ethTypeLldp receiver _).1 described
  have probed := (steps receiver).probeInfo
  rw [probe, if_pos isProbe, Option.some_or, same] at probed
  exact ⟨next, remote, handled, probed, exact⟩

/-- **When beacons are reported as they should be**: in every state, exactly when what is
told is right. -/
theorem reported_iff_understood (around : Surroundings ι σ) (rest : σ)
    (stack : (conf.port receiver).stack = some peer)
    (names : (dp.dpId : Int) = peer.dpId → dp.name = peer.dpName) :
    BeaconReported conf around rest receiver peer dp port ↔
      Understood conf.faucetDpMac peer dp port :=
  ⟨understood_of_reported stack, reported_of_understood stack names⟩

end Report

/-! ## Two datapaths -/

/-- The port 1 of `sw2`, up, without any options. -/
def labBeaconPort : BeaconPort where
  number := 1
  positive := by decide
  stack := true
  dynStackCurrentState := .up
  systemName := none
  portDescr := some "1"
  orgTlvs := []

/-- `sw2` with an address. -/
def labBeaconDp (faucetDpMac : Bytes) : BeaconDp where
  dpId := 2
  name := "sw2"
  faucetDpMac := faucetDpMac
  lldpSystemName := none

/-- Port 1 of `sw2`. -/
def labPeer : StackPeer := ⟨2, "sw2", 1, none, StackPeer.positive_none⟩

/-- With the same address on both sides the beacon is understood. -/
theorem reported_lab : BeaconReported labConf labAround () () labPeer
    (labBeaconDp [14, 0, 0, 0, 0, 1]) labBeaconPort := by
  refine (reported_iff_understood labAround () rfl fun _ => rfl).mpr ?_
  have isPeer : (labBeaconDp [14, 0, 0, 0, 0, 1]).isPeer labBeaconPort labPeer = true := by decide
  rw [Understood, if_pos isPeer]
  exact ⟨by decide, rfl, by decide, by decide⟩

/-- With another OUI than that of the other end nothing is told. -/
theorem not_reported_of_oui :
    ¬ ∀ (conf : ValveConf Unit) (peer : StackPeer) (dp : BeaconDp) (port : BeaconPort),
      (conf.port ()).stack = some peer → ((dp.dpId : Int) = peer.dpId → dp.name = peer.dpName) →
      BeaconReported conf labAround () () peer dp port := by
  intro always
  have understood : Understood labConf.faucetDpMac labPeer (labBeaconDp [10, 0, 0, 0, 0, 1])
      labBeaconPort :=
    understood_of_reported rfl
      (always labConf labPeer (labBeaconDp [10, 0, 0, 0, 0, 1]) labBeaconPort rfl fun _ => rfl)
  have isPeer : (labBeaconDp [10, 0, 0, 0, 0, 1]).isPeer labBeaconPort labPeer = true := by decide
  rw [Understood, if_pos isPeer] at understood
  have nothing : (labBeaconDp [10, 0, 0, 0, 0, 1]).told labBeaconPort labConf.faucetDpMac
      lldpFaucetDpId = none := by decide
  cases nothing.symm.trans understood.2.2.1

end Faucet.Lldp
