import Faucet.Packet.Parse

/-!
# Packet-in messages

`parse_pkt_meta` turns a packet-in message into packet metadata, which the
handlers then reparse with more data. A metadata object keeps what the first
pass left in it (`Shape`): an untagged packet holds a library packet, and a
packet with a VLAN header holds a header in the place of the packet until a
reparse succeeds.

`Admitted` and `ReparseIpSafe` say where the passes do not raise
(`parsePktMeta_returns_iff`, `reparseIp_returns_iff`).
-/

set_option autoImplicit false

namespace Faucet.Packet

open PacketMeta

variable {packet : Bytes → Except PyError (List Layer)}

/-- The packet was sent by an action. -/
def OFPR_ACTION : ℕ := 1

/-- The packet has an invalid TTL. -/
def OFPR_INVALID_TTL : ℕ := 2

/-- How much of a packet is sent to the controller. -/
def MAX_PACKET_IN_BYTES : ℕ := 194

/-- The part of a DP that parsing a packet-in message reads; `stackGraph` says
whether the DP has a stack with a graph. -/
structure Dp where
  dynRunning : Bool
  strictPacketInCookie : Bool
  cookie : ℕ
  ports : List Port
  vlans : List Vlan
  globalVlan : ℕ
  stackGraph : Bool

/-- A packet-in message; `inPort` is the field `in_port` of its match, if it has one. -/
structure PacketInMessage where
  cookie : ℕ
  reason : ℕ
  inPort : Option ℕ
  data : Bytes
  totalLen : ℕ

/-- `ignore_port`, where `OFPP_LOCAL` and `OFPP_IN_PORT` are exempt. -/
def ignorePort (portNum : ℕ) : Bool :=
  if portNum = 0xFFFFFFFE ∨ portNum = 0xFFFFFFF8 then false else decide (portNum > 0xF0000000)

/-- `mac_addr_is_unicast` -/
def macAddrIsUnicast (mac : ℕ) : Bool := mac ≠ 0xFFFFFFFFFFFF && mac >>> 40 &&& 1 == 0

/-- `mac_addr_all_zeros` -/
def macAddrAllZeros (mac : ℕ) : Bool := mac == 0

/-- `int_from_mac`: the last two bytes of the address. -/
def intFromMac (mac : ℕ) : ℕ := mac &&& 0xFFFF

namespace Dp

/-- The VLAN with this id. -/
def vlan (dp : Dp) (vid : ℕ) : Option Vlan := dp.vlans.find? (·.vid == vid)

/-- The port with this number. -/
def port (dp : Dp) (number : ℕ) : Option Port := dp.ports.find? (·.number == number)

/-- `parse_rcv_packet` -/
def parseRcvPacket (dp : Dp) (reason : ℕ) (port : Port) (data : Bytes) (origLen : ℕ) (pkt : Pkt)
    (ethPkt : EthernetHeader) (vars : Parsed) : PacketMeta :=
  let pktMeta : PacketMeta :=
    { reason := reason
      data := data
      origLen := origLen
      pkt := pkt
      ethPkt := some ethPkt
      vlanPkt := vars.vlanPkt
      port := port
      vlan := vars.vlanVid.bind dp.vlan
      ethSrc := ethPkt.src
      ethDst := ethPkt.dst
      ethType := vars.ethType
      l3Pkt := none
      l3Src := none
      l3Dst := none }
  if vars.vlanVid = some dp.globalVlan then
    match dp.vlan (intFromMac pktMeta.ethDst) with
    | some vlan => { pktMeta with vlan := some vlan, ethDst := vlan.faucetMac }
    | none => { pktMeta with vlan := none }
  else pktMeta

/-- The packet is from a port that is neither in a stack nor a member of its VLAN. -/
def notMember (dp : Dp) (pktMeta : PacketMeta) : Bool :=
  dp.stackGraph && !pktMeta.port.stack && pktMeta.vlan.any fun vlan =>
    !pktMeta.port.taggedVlans.contains vlan.vid && pktMeta.port.nativeVlan != some vlan.vid

/-- The port and the data of a message that passes the checks before parsing. -/
def screened (dp : Dp) (msg : PacketInMessage) : Option (Port × Bytes) :=
  if !dp.dynRunning then none
  else if dp.strictPacketInCookie && dp.cookie != msg.cookie then none
  else if msg.reason ∉ [OFPR_ACTION, OFPR_INVALID_TTL] then none
  else
    match msg.inPort with
    | none => none
    | some inPort =>
        if inPort = 0 ∨ ignorePort inPort then none
        else
          match dp.port inPort with
          | none => none
          | some port =>
              if msg.data.isEmpty then none else some (port, msg.data.take MAX_PACKET_IN_BYTES)

/-- `parse_pkt_meta` -/
def parsePktMeta (packet : Bytes → Except PyError (List Layer)) (dp : Dp)
    (msg : PacketInMessage) : Except PyError (Option PacketMeta) :=
  match dp.screened msg with
  | none => .ok none
  | some (port, data) =>
      match parsePacketInPkt packet data ETH_VLAN_HEADER_SIZE none none with
      | .error error => .error error
      | .ok vars =>
          match vars.pkt, vars.ethPkt with
          | some pkt, some ethPkt =>
              if vars.vlanVid.any fun vid => (dp.vlan vid).isNone && vid != dp.globalVlan then
                .ok none
              else
                let pktMeta := dp.parseRcvPacket msg.reason port data msg.totalLen pkt ethPkt vars
                if !macAddrIsUnicast pktMeta.ethSrc then .ok none
                else if macAddrAllZeros pktMeta.ethSrc then .ok none
                else if dp.notMember pktMeta then .ok none
                else .ok (some pktMeta)
          | _, _ => .ok none

end Dp

/-! ## The first pass over the headers -/

/-- The data is an Ethernet header that announces a VLAN header, and no byte of it. -/
def EndsBeforeVlan (data : Bytes) : Prop :=
  data.length = ETH_HEADER_SIZE ∧ (EthernetHeader.ofBytes data).ethertype = ETH_TYPE_8021Q

/-- What the first pass leaves in the variables when it finds an Ethernet header. -/
inductive Shape (header : EthernetHeader) : Pkt → Option Layer → Option ℕ → Prop where
  | untagged (layers : List Layer) (plain : header.ethertype ≠ ETH_TYPE_8021Q) :
      Shape header (.packet layers) none (some header.ethertype)
  | partOfVlan (pkt : Pkt) (byte : UInt8) (rest : Bytes)
      (tagged : header.ethertype = ETH_TYPE_8021Q) :
      Shape header pkt (some (.raw (byte :: rest))) (some ETH_TYPE_8021Q)
  | tagged (pkt : Pkt) (vlan : VlanHeader) (tagged : header.ethertype = ETH_TYPE_8021Q) :
      Shape header pkt (some (.vlan vlan)) (some vlan.ethertype)

theorem Shape.hasEthType {header : EthernetHeader} {pkt : Pkt} {vlanPkt : Option Layer}
    {ethType : Option ℕ} (shape : Shape header pkt vlanPkt ethType) :
    ∃ value, ethType = some value := by
  cases shape <;> exact ⟨_, rfl⟩

/-- A packet fits in the place of whatever the first pass left. -/
theorem Shape.setPacket {header : EthernetHeader} {pkt : Pkt} {vlanPkt : Option Layer}
    {ethType : Option ℕ} (shape : Shape header pkt vlanPkt ethType) (layers : List Layer) :
    Shape header (.packet layers) vlanPkt ethType := by
  cases shape with
  | untagged _ plain => exact .untagged layers plain
  | partOfVlan _ byte rest tagged => exact .partOfVlan _ byte rest tagged
  | tagged _ vlan tagged => exact .tagged _ vlan tagged

theorem ofBytes_take (data : Bytes) {count : ℕ} (enough : ETH_HEADER_SIZE ≤ count) :
    EthernetHeader.ofBytes (data.take count) = EthernetHeader.ofBytes data := by
  have bytes : ∀ index < 14, byteAt (data.take count) index = byteAt data index :=
    fun index inside => byteAt_take (Nat.lt_of_lt_of_le inside enough)
  have range : List.range 6 = [0, 1, 2, 3, 4, 5] := rfl
  simp [EthernetHeader.ofBytes, halfAt, range, bytes]

section FirstPass

variable {data : Bytes}

/-- The variables after the Ethernet header was read from data that has one. -/
theorem ethernet_read (behaves : PacketBehaviour packet) (data : Bytes) (enough : ETH_HEADER_SIZE ≤ data.length) :
    (parseEthernet packet data ⟨none, none, none, none, none⟩).andThen readEthType =
      (⟨some (.packet [.ethernet (.ofBytes data)]), some (.ofBytes data),
        some (EthernetHeader.ofBytes data).ethertype, none, none⟩, none) := by
  have header : packet (data.take ETH_HEADER_SIZE) = .ok [.ethernet (.ofBytes data)] := by
    rw [behaves.ethernetOnly _ (by rw [List.length_take, Nat.min_eq_left enough]),
      ofBytes_take data (Nat.le_refl _)]
  simp [parseEthernet, header, getEthernet, Try.andThen, readEthType]

/-- The first pass reads the first 18 bytes only, so it stops before the data. -/
theorem firstPass_eq :
    parsePacketInPkt packet data ETH_VLAN_HEADER_SIZE none none =
      ((((parseEthernet packet (data.take ETH_VLAN_HEADER_SIZE)
          ⟨none, none, none, none, none⟩).andThen readEthType).andThen
            (unpackVlan packet (data.take ETH_VLAN_HEADER_SIZE))).andThen readVlan).finish := by
  have bound : ¬ (data.take ETH_VLAN_HEADER_SIZE).length > ETH_VLAN_HEADER_SIZE := by
    rw [List.length_take]
    omega
  have nothing : ∀ vars, parseData packet (data.take ETH_VLAN_HEADER_SIZE) vars = (vars, none) :=
    fun vars => if_neg bound
  have nonzero : ETH_VLAN_HEADER_SIZE ≠ 0 := by decide
  simp only [parsePacketInPkt, if_pos nonzero, Option.isNone_none, if_true]
  generalize (((parseEthernet packet (data.take ETH_VLAN_HEADER_SIZE)
    ⟨none, none, none, none, none⟩).andThen readEthType).andThen
      (unpackVlan packet (data.take ETH_VLAN_HEADER_SIZE))).andThen readVlan = headers
  obtain ⟨vars, raised⟩ := headers
  cases raised <;> simp [Try.andThen, nothing]

theorem firstPass_short (behaves : PacketBehaviour packet) (short : data.length < ETH_HEADER_SIZE) :
    ∃ vars, parsePacketInPkt packet data ETH_VLAN_HEADER_SIZE none none = .ok vars ∧
      vars.ethPkt = none := by
  have few : ((data.take ETH_VLAN_HEADER_SIZE).take ETH_HEADER_SIZE).length < ETH_HEADER_SIZE := by
    rw [List.length_take, List.length_take]
    omega
  rw [firstPass_eq]
  cases parsed : packet ((data.take ETH_VLAN_HEADER_SIZE).take ETH_HEADER_SIZE) with
  | error error =>
      have caught := behaves.raises _ _ parsed
      simp [parseEthernet, parsed, Try.andThen, Try.finish, caught]
  | ok layers =>
      have absent := behaves.tooShort _ _ few parsed
      simp [parseEthernet, parsed, absent, Try.andThen, readEthType, Try.finish, PyError.caught]

/-- Data that ends right before the VLAN header cannot be unpacked in two. -/
theorem firstPass_endsBeforeVlan (behaves : PacketBehaviour packet) (ends : EndsBeforeVlan data) :
    parsePacketInPkt packet data ETH_VLAN_HEADER_SIZE none none = .error .valueError := by
  obtain ⟨length, tagged⟩ := ends
  have whole : data.take ETH_VLAN_HEADER_SIZE = data :=
    List.take_of_length_le (by rw [length]; decide)
  rw [firstPass_eq, whole, ethernet_read behaves data (Nat.le_of_eq length.symm)]
  simp [Try.andThen, unpackVlan, tagged, whole, behaves.ethernetOnly data length, Try.finish, PyError.caught]

theorem firstPass_shape (behaves : PacketBehaviour packet) (enough : ETH_HEADER_SIZE ≤ data.length)
    (further : ¬ EndsBeforeVlan data) :
    ∃ vars pkt, parsePacketInPkt packet data ETH_VLAN_HEADER_SIZE none none = .ok vars ∧
      vars.pkt = some pkt ∧ vars.ethPkt = some (.ofBytes data) ∧
      Shape (.ofBytes data) pkt vars.vlanPkt vars.ethType := by
  have headers : EthernetHeader.ofBytes (data.take ETH_VLAN_HEADER_SIZE) = .ofBytes data :=
    ofBytes_take data (by decide)
  have read := ethernet_read behaves (data.take ETH_VLAN_HEADER_SIZE) (by
    rw [List.length_take]
    exact Nat.le_min.mpr ⟨by decide, enough⟩)
  rw [headers] at read
  rw [firstPass_eq, read]
  by_cases tagged : (EthernetHeader.ofBytes data).ethertype = ETH_TYPE_8021Q
  · have more : ETH_HEADER_SIZE < data.length :=
      Nat.lt_of_le_of_ne enough fun same => further ⟨same.symm, tagged⟩
    by_cases complete : ETH_VLAN_HEADER_SIZE ≤ data.length
    · have size : (data.take ETH_VLAN_HEADER_SIZE).length = ETH_VLAN_HEADER_SIZE := by
        rw [List.length_take, Nat.min_eq_left complete]
      have unpacks := behaves.vlanOnly _ size (by rw [headers, tagged])
      rw [headers] at unpacks
      simp only [Try.andThen, unpackVlan, tagged, if_true, List.take_take, Nat.min_self, unpacks,
        readVlan]
      exact ⟨_, _, rfl, rfl, rfl, .tagged _ _ tagged⟩
    · have whole : data.take ETH_VLAN_HEADER_SIZE = data :=
        List.take_of_length_le (Nat.le_of_not_le complete)
      have unpacks := behaves.partOfVlan data more (Nat.lt_of_not_le complete) tagged
      obtain ⟨byte, rest, remains⟩ : ∃ byte rest, data.drop ETH_HEADER_SIZE = byte :: rest :=
        List.exists_cons_of_ne_nil fun empty => by
          have none := List.drop_eq_nil_iff.mp empty
          omega
      rw [remains] at unpacks
      simp only [Try.andThen, unpackVlan, tagged, if_true, whole, unpacks, readVlan,
        Try.finish, PyError.caught]
      exact ⟨_, _, rfl, rfl, rfl, .partOfVlan _ _ _ tagged⟩
  · simp only [Try.andThen, unpackVlan, Option.some_inj, tagged, if_false, readVlan]
    exact ⟨_, _, rfl, rfl, rfl, .untagged _ tagged⟩

end FirstPass

/-! ## The metadata and its reparsing -/

/-- The metadata is as the passes over the headers leave it. -/
def WellShaped (pktMeta : PacketMeta) : Prop :=
  ∃ header, pktMeta.ethPkt = some header ∧
    Shape header pktMeta.pkt pktMeta.vlanPkt pktMeta.ethType

theorem screened_data {dp : Dp} {msg : PacketInMessage} {port : Port} {data : Bytes}
    (admitted : dp.screened msg = some (port, data)) : data = msg.data.take MAX_PACKET_IN_BYTES := by
  unfold Dp.screened at admitted
  repeat' split at admitted
  all_goals cases admitted
  rfl

/-- **Parsing a packet-in message raises** exactly on data that ends between the
Ethernet header and the VLAN header it announces. -/
theorem parsePktMeta_returns_iff (behaves : PacketBehaviour packet) (dp : Dp)
    (msg : PacketInMessage) :
    (∃ answer, dp.parsePktMeta packet msg = .ok answer) ↔
      ∀ port data, dp.screened msg = some (port, data) → ¬ EndsBeforeVlan data := by
  unfold Dp.parsePktMeta
  cases admitted : dp.screened msg with
  | none => simp
  | some portAndData =>
      obtain ⟨port, data⟩ := portAndData
      dsimp only
      by_cases ends : EndsBeforeVlan data
      · refine iff_of_false ?_ fun never => never port data rfl ends
        rw [firstPass_endsBeforeVlan behaves ends]
        rintro ⟨answer, returns⟩
        cases returns
      · refine iff_of_true ?_ ?_
        · have returns : ∃ vars,
              parsePacketInPkt packet data ETH_VLAN_HEADER_SIZE none none = .ok vars := by
            by_cases short : data.length < ETH_HEADER_SIZE
            · obtain ⟨vars, returns, _⟩ := firstPass_short behaves short
              exact ⟨vars, returns⟩
            · obtain ⟨vars, _, returns, _⟩ :=
                firstPass_shape behaves (Nat.le_of_not_lt short) ends
              exact ⟨vars, returns⟩
          obtain ⟨vars, returns⟩ := returns
          rw [returns]
          dsimp only
          repeat' split
          all_goals exact ⟨_, rfl⟩
        · rintro port' data' same
          cases same
          exact ends

theorem parseRcvPacket_shape (dp : Dp) {reason origLen : ℕ} {port : Port} {data : Bytes} {pkt : Pkt}
    {header : EthernetHeader} {vars : Parsed} (shape : Shape header pkt vars.vlanPkt vars.ethType) :
    WellShaped (dp.parseRcvPacket reason port data origLen pkt header vars) := by
  unfold Dp.parseRcvPacket
  dsimp only
  repeat' split
  all_goals exact ⟨header, rfl, shape⟩

theorem parsePktMeta_wellShaped (behaves : PacketBehaviour packet) {dp : Dp} {msg : PacketInMessage}
    {pktMeta : PacketMeta} (returns : dp.parsePktMeta packet msg = .ok (some pktMeta)) :
    WellShaped pktMeta := by
  have further := (parsePktMeta_returns_iff behaves dp msg).mp ⟨_, returns⟩
  unfold Dp.parsePktMeta at returns
  cases admitted : dp.screened msg with
  | none =>
      rw [admitted] at returns
      cases returns
  | some portAndData =>
      obtain ⟨port, data⟩ := portAndData
      rw [admitted] at returns
      dsimp only at returns
      by_cases short : data.length < ETH_HEADER_SIZE
      · obtain ⟨vars, pass, absent⟩ := firstPass_short behaves short
        rw [pass] at returns
        dsimp only at returns
        rw [absent] at returns
        cases first : vars.pkt <;> rw [first] at returns <;> cases returns
      · obtain ⟨vars, pkt, pass, hasPkt, hasEth, shape⟩ :=
          firstPass_shape behaves (Nat.le_of_not_lt short) (further port data admitted)
        rw [pass] at returns
        dsimp only at returns
        rw [hasPkt, hasEth] at returns
        dsimp only at returns
        repeat' split at returns
        all_goals cases returns
        exact parseRcvPacket_shape dp shape

/-- The library parses the data up to the limit, where there is more of it than
the two headers. -/
def LimitParses (packet : Bytes → Except PyError (List Layer)) (data : Bytes) (maxLen : ℕ) : Prop :=
  let data := if maxLen ≠ 0 then data.take maxLen else data
  ETH_VLAN_HEADER_SIZE < data.length ∧ ∃ layers, packet data = .ok layers

/-- What was parsed is a packet, not bytes. -/
def IsPacket (pkt : Pkt) : Prop := ∃ layers, pkt = .packet layers

/-- A second pass assigns the packet when the library parses the data. -/
theorem parseData_pkt (behaves : PacketBehaviour packet) (data : Bytes) (vars : Parsed) :
    ∃ raised : Option PyError, (∀ error ∈ raised, error.caught = true) ∧
      ((∃ layers, (ETH_VLAN_HEADER_SIZE < data.length ∧ packet data = .ok layers) ∧
        parseData packet data vars = ({ vars with pkt := some (.packet layers) }, raised)) ∨
      (¬ (ETH_VLAN_HEADER_SIZE < data.length ∧ ∃ layers, packet data = .ok layers) ∧
        parseData packet data vars = (vars, raised))) := by
  unfold parseData
  by_cases more : ETH_VLAN_HEADER_SIZE < data.length
  · cases parsed : packet data with
    | error error =>
        refine ⟨some error, ?_, .inr ⟨?_, by simp [more]⟩⟩
        · rintro _ ⟨⟩
          exact behaves.raises data _ parsed
        · rintro ⟨_, layers, ok⟩
          cases ok
    | ok layers => exact ⟨none, by simp, .inl ⟨layers, ⟨more, rfl⟩, by simp [more]⟩⟩
  · exact ⟨none, by simp, .inr ⟨fun both => more both.1, by simp [more]⟩⟩

/-- What the second pass returns for metadata as the first pass leaves it. -/
theorem secondPass (behaves : PacketBehaviour packet) {header : EthernetHeader} {pkt : Pkt}
    {vlanPkt : Option Layer} {ethType : Option ℕ} (shape : Shape header pkt vlanPkt ethType)
    (data : Bytes) (maxLen : ℕ) :
    ∃ vars, parsePacketInPkt packet data maxLen (some header) vlanPkt = .ok vars ∧
      vars.ethPkt = some header ∧ vars.vlanPkt = vlanPkt ∧
      (vars.pkt = none ∧ (LimitParses packet data maxLen → ethType = some ETH_TYPE_8021Q) ∨
        ∃ layers, vars.pkt = some (.packet layers) ∧ vars.ethType = ethType ∧
          LimitParses packet data maxLen) := by
  have last : ∀ vars : Parsed, vars.pkt = none →
      ∃ after, (parseData packet (if maxLen ≠ 0 then data.take maxLen else data) vars).finish =
        .ok after ∧
      after.ethPkt = vars.ethPkt ∧ after.vlanPkt = vars.vlanPkt ∧ after.ethType = vars.ethType ∧
      (after.pkt = none ∧ ¬ LimitParses packet data maxLen ∨
        ∃ layers, after.pkt = some (.packet layers) ∧ LimitParses packet data maxLen) := by
    intro vars unset
    obtain ⟨raised, caught, ⟨layers, parses, eq⟩ | ⟨fails, eq⟩⟩ :=
      parseData_pkt behaves (if maxLen ≠ 0 then data.take maxLen else data) vars
    · refine ⟨{ vars with pkt := some (.packet layers) }, ?_, rfl, rfl, rfl,
        .inr ⟨layers, rfl, parses.1, layers, parses.2⟩⟩
      rw [eq]
      cases raised with
      | none => rfl
      | some error => simp [Try.finish, caught error rfl]
    · refine ⟨vars, ?_, rfl, rfl, rfl, .inl ⟨unset, fails⟩⟩
      rw [eq]
      cases raised with
      | none => rfl
      | some error => simp [Try.finish, caught error rfl]
  cases shape with
  | untagged layers plain =>
      obtain ⟨after, returns, sameEth, sameVlan, sameType, result⟩ :=
        last ⟨none, some header, some header.ethertype, none, none⟩ rfl
      refine ⟨after, ?_, sameEth, sameVlan, result.imp ?_ ?_⟩
      · simpa [parsePacketInPkt, parseEthernet, readEthType, unpackVlan, plain, readVlan,
          Try.andThen] using returns
      · exact fun none => ⟨none.1, fun parses => absurd parses none.2⟩
      · exact fun ⟨layers, pkt, parses⟩ => ⟨layers, pkt, sameType, parses⟩
  | partOfVlan pkt byte rest tagged =>
      refine ⟨⟨none, some header, none, some (.raw (byte :: rest)), none⟩, ?_, rfl, rfl,
        .inl ⟨rfl, fun _ => rfl⟩⟩
      simp [parsePacketInPkt, readVlan, Try.andThen, Try.finish, PyError.caught]
  | tagged pkt vlan tagged =>
      obtain ⟨after, returns, sameEth, sameVlan, sameType, result⟩ :=
        last ⟨none, some header, some vlan.ethertype, some (.vlan vlan), some vlan.vid⟩ rfl
      refine ⟨after, ?_, sameEth, sameVlan, result.imp ?_ ?_⟩
      · simpa [parsePacketInPkt, readVlan, Try.andThen] using returns
      · exact fun none => ⟨none.1, fun parses => absurd parses none.2⟩
      · exact fun ⟨layers, pkt, parses⟩ => ⟨layers, pkt, sameType, parses⟩

namespace WellShaped

variable {pktMeta : PacketMeta}

/-- **Reparsing does not raise**, keeps the shape, and sets a packet where the
library parses the data. -/
theorem reparse (behaves : PacketBehaviour packet) (shaped : WellShaped pktMeta) (maxLen : ℕ) :
    ∃ after, pktMeta.reparse packet maxLen = .ok after ∧ WellShaped after ∧
      (pktMeta.ethType ≠ some ETH_TYPE_8021Q → (IsPacket after.pkt ↔
        IsPacket pktMeta.pkt ∨ LimitParses packet pktMeta.data maxLen)) := by
  obtain ⟨header, hasEth, shape⟩ := shaped
  obtain ⟨vars, returns, sameEth, sameVlan, result⟩ :=
    secondPass behaves shape pktMeta.data maxLen
  unfold PacketMeta.reparse
  rw [hasEth, returns]
  rcases result with ⟨unset, fails⟩ | ⟨layers, isSet, sameType, parses⟩
  · refine ⟨pktMeta, ?_, ⟨header, hasEth, shape⟩, fun plain => ?_⟩
    · dsimp only
      rw [unset]
    · exact (or_iff_left fun parses => plain (fails parses)).symm
  · obtain ⟨ethType, typed⟩ := shape.hasEthType
    have packetShape := shape.setPacket layers
    rw [typed] at packetShape
    dsimp only
    rw [isSet, sameType, typed]
    refine ⟨_, rfl, ⟨header, sameEth, ?_⟩, fun _ => ?_⟩
    · rw [sameVlan]
      exact packetShape
    · exact iff_of_true ⟨layers, rfl⟩ (.inr parses)

theorem setL3 (shaped : WellShaped pktMeta) (l3Pkt : Option Layer) :
    WellShaped (pktMeta.setL3 l3Pkt) := by
  unfold PacketMeta.setL3
  split <;> exact shaped

end WellShaped

/-- The version of the data or its size makes `reparse_ip` return. -/
def SkipsIp (pktMeta : PacketMeta) (ipVer : Option ℕ) (headerSize : ℕ) : Prop :=
  ipVer.isSome = true ∧ (ipVer ≠ pktMeta.ipVer ∨
    (∃ vlan ∈ pktMeta.vlan, vlan.minimumIpSizeCheck = true) ∧ pktMeta.data.length < headerSize)

/-- Where `reparse_ip` does not raise: it returns at its checks of the version
and the size, or the IPv4 header that it looks at is complete and either turned
down or there is a packet to ask for its headers. -/
def ReparseIpSafe (packet : Bytes → Except PyError (List Layer)) (pktMeta : PacketMeta)
    (payload : ℕ) : Prop :=
  ∀ ipVer asksParseable pktParser headerSize,
    pktMeta.ethType.bind ethTypesParsers = some (ipVer, asksParseable, pktParser, headerSize) →
    SkipsIp pktMeta ipVer headerSize ∨
      (asksParseable = true → ETH_VLAN_HEADER_SIZE + IPV4_HEADER_SIZE ≤ pktMeta.data.length) ∧
      (asksParseable = true ∧ ipv4Parseable (pktMeta.data.drop ETH_VLAN_HEADER_SIZE) = .ok false ∨
        IsPacket pktMeta.pkt ∨ LimitParses packet pktMeta.data (headerSize + payload))

/-- The checks before parsing, by cases. -/
theorem ipHeaderParseable_eq (pktMeta : PacketMeta) (ipVer : Option ℕ) (asksParseable : Bool)
    (headerSize : ℕ) (onlyIp : asksParseable = true → ipVer.isSome = true) :
    (SkipsIp pktMeta ipVer headerSize ∧
      pktMeta.ipHeaderParseable ipVer asksParseable headerSize = .ok false) ∨
    (¬ SkipsIp pktMeta ipVer headerSize ∧
      pktMeta.ipHeaderParseable ipVer asksParseable headerSize =
        if asksParseable then ipv4Parseable (pktMeta.data.drop ETH_VLAN_HEADER_SIZE)
        else .ok true) := by
  cases ipVer with
  | none =>
      refine .inr ⟨fun skips => absurd skips.1 (by simp), ?_⟩
      cases asksParseable with
      | false => rfl
      | true => exact absurd (onlyIp rfl) (by simp)
  | some version =>
      have small : (pktMeta.vlan.any (·.minimumIpSizeCheck) &&
          decide (pktMeta.data.length < headerSize)) = true ↔
          (∃ vlan ∈ pktMeta.vlan, vlan.minimumIpSizeCheck = true) ∧
            pktMeta.data.length < headerSize := by
        cases pktMeta.vlan <;> simp
      unfold PacketMeta.ipHeaderParseable SkipsIp
      dsimp only
      by_cases other : some version ≠ pktMeta.ipVer
      · exact .inl ⟨⟨rfl, .inl other⟩, if_pos other⟩
      · rw [if_neg other]
        by_cases tooSmall : (∃ vlan ∈ pktMeta.vlan, vlan.minimumIpSizeCheck = true) ∧
            pktMeta.data.length < headerSize
        · exact .inl ⟨⟨rfl, .inr tooSmall⟩, if_pos (small.mpr tooSmall)⟩
        · refine .inr ⟨fun skips => skips.2.elim other tooSmall, ?_⟩
          rw [if_neg fun yes => tooSmall (small.mp yes)]

/-- Asking for the headers succeeds exactly on a packet. -/
theorem getProtocol_returns_iff (pktParser : L3Parser) (pkt : Pkt) :
    (∃ l3Pkt, getProtocol pktParser pkt = .ok l3Pkt) ↔ IsPacket pkt := by
  cases pkt with
  | packet layers => exact iff_of_true ⟨_, rfl⟩ ⟨layers, rfl⟩
  | header layer =>
      refine iff_of_false ?_ ?_
      · rintro ⟨_, returns⟩
        cases returns
      · rintro ⟨_, same⟩
        cases same

theorem ethTypesParsers_onlyIp {ethType : ℕ} {ipVer : Option ℕ} {asksParseable : Bool}
    {pktParser : L3Parser} {headerSize : ℕ}
    (found : ethTypesParsers ethType = some (ipVer, asksParseable, pktParser, headerSize))
    (asks : asksParseable = true) : ipVer.isSome = true := by
  unfold ethTypesParsers at found
  repeat' split at found
  all_goals cases found
  · rfl
  · cases asks
  · rfl

/-- The last part of `reparse_ip`: the packet that the reparse left is asked for
its headers. -/
theorem askHeaders_returns_iff (behaves : PacketBehaviour packet) {pktMeta : PacketMeta}
    (shaped : WellShaped pktMeta) (plain : pktMeta.ethType ≠ some ETH_TYPE_8021Q)
    (pktParser : L3Parser) (maxLen : ℕ) :
    (∃ after, (do
      let pktMeta ← pktMeta.reparse packet maxLen
      let l3Pkt ← getProtocol pktParser pktMeta.pkt
      return pktMeta.setL3 l3Pkt : Except PyError PacketMeta) = .ok after) ↔
      IsPacket pktMeta.pkt ∨ LimitParses packet pktMeta.data maxLen := by
  obtain ⟨reparsed, returns, _, hasPacket⟩ := shaped.reparse behaves maxLen
  rw [← hasPacket plain, ← getProtocol_returns_iff pktParser, returns]
  change (∃ after, (getProtocol pktParser reparsed.pkt).bind (fun l3Pkt =>
    .ok (reparsed.setL3 l3Pkt)) = .ok after) ↔ _
  cases getProtocol pktParser reparsed.pkt with
  | error error => simp [Except.bind]
  | ok l3Pkt => simp [Except.bind]

/-- **Reparsing an IP packet raises** exactly where it is not safe. -/
theorem reparseIp_returns_iff (behaves : PacketBehaviour packet) {pktMeta : PacketMeta}
    (shaped : WellShaped pktMeta) (payload : ℕ) :
    (∃ after, pktMeta.reparseIp packet payload = .ok after) ↔
      ReparseIpSafe packet pktMeta payload := by
  unfold PacketMeta.reparseIp ReparseIpSafe
  cases found : pktMeta.ethType.bind ethTypesParsers with
  | none => simp
  | some entry =>
      obtain ⟨ipVer, asksParseable, pktParser, headerSize⟩ := entry
      obtain ⟨ethType, typed, known⟩ := Option.bind_eq_some_iff.mp found
      have plain : pktMeta.ethType ≠ some ETH_TYPE_8021Q := by
        intro tagged
        rw [tagged] at found
        cases found
      have asked := askHeaders_returns_iff behaves shaped plain pktParser (headerSize + payload)
      have one : ∀ {safe : Option ℕ → Bool → ℕ → Prop},
          (∀ ipVer' asksParseable' (pktParser' : L3Parser) headerSize',
            some (ipVer, asksParseable, pktParser, headerSize) =
              some (ipVer', asksParseable', pktParser', headerSize') →
              safe ipVer' asksParseable' headerSize') ↔ safe ipVer asksParseable headerSize := by
        intro safe
        constructor
        · exact fun all => all _ _ _ _ rfl
        · rintro holds _ _ _ _ ⟨⟩
          exact holds
      rw [one]
      dsimp only
      rcases ipHeaderParseable_eq pktMeta ipVer asksParseable headerSize
        (ethTypesParsers_onlyIp known) with ⟨skips, returns⟩ | ⟨goesOn, returns⟩
      · rw [returns]
        exact iff_of_true ⟨pktMeta, rfl⟩ (.inl skips)
      · rw [returns, or_iff_right goesOn]
        cases asksParseable with
        | false =>
            refine asked.trans ⟨fun packet => ⟨(fun asks => by cases asks), .inr packet⟩, ?_⟩
            rintro ⟨_, ⟨asks, _⟩ | packet⟩
            · cases asks
            · exact packet
        | true =>
            have size : IPV4_HEADER_SIZE ≤ (pktMeta.data.drop ETH_VLAN_HEADER_SIZE).length ↔
                ETH_VLAN_HEADER_SIZE + IPV4_HEADER_SIZE ≤ pktMeta.data.length := by
              rw [List.length_drop]
              unfold IPV4_HEADER_SIZE ETH_VLAN_HEADER_SIZE
              omega
            by_cases complete : IPV4_HEADER_SIZE ≤ (pktMeta.data.drop ETH_VLAN_HEADER_SIZE).length
            · obtain ⟨accepted, parseable, _⟩ := ipv4Parseable_of_complete complete
              rw [if_pos rfl, parseable, and_iff_right fun _ => size.mp complete]
              cases accepted with
              | false => exact iff_of_true ⟨pktMeta, rfl⟩ (.inl ⟨rfl, rfl⟩)
              | true => exact asked.trans (or_iff_right fun rejects => by cases rejects.2).symm
            · rw [if_pos rfl, ipv4Parseable_of_incomplete complete]
              refine iff_of_false ?_ fun safe => complete (size.mpr (safe.1 rfl))
              rintro ⟨_, returns⟩
              cases returns

theorem reparseIp_wellShaped (behaves : PacketBehaviour packet) {pktMeta after : PacketMeta}
    (shaped : WellShaped pktMeta) {payload : ℕ}
    (returns : pktMeta.reparseIp packet payload = .ok after) : WellShaped after := by
  unfold PacketMeta.reparseIp at returns
  split at returns
  next =>
    cases returns
    exact shaped
  next ipVer asksParseable pktParser headerSize _ =>
    split at returns
    next => cases returns
    next =>
      cases returns
      exact shaped
    next =>
      obtain ⟨reparsed, ok, shaped, _⟩ := shaped.reparse behaves (headerSize + payload)
      rw [ok] at returns
      change (getProtocol pktParser reparsed.pkt).bind (fun l3Pkt =>
        .ok (reparsed.setL3 l3Pkt)) = .ok after at returns
      cases asked : getProtocol pktParser reparsed.pkt with
      | error error =>
          rw [asked] at returns
          cases returns
      | ok l3Pkt =>
          rw [asked] at returns
          cases returns
          exact shaped.setL3 l3Pkt

/-! ## Packet-in parsing as a whole -/

/-- The metadata that handlers meet: parsed from a message, and then reparsed. -/
inductive Obtained (packet : Bytes → Except PyError (List Layer)) (dp : Dp) : PacketMeta → Prop where
  | parsed {msg : PacketInMessage} {pktMeta : PacketMeta}
      (returns : dp.parsePktMeta packet msg = .ok (some pktMeta)) : Obtained packet dp pktMeta
  | reparsed {pktMeta after : PacketMeta} {maxLen : ℕ} (earlier : Obtained packet dp pktMeta)
      (returns : pktMeta.reparse packet maxLen = .ok after) : Obtained packet dp after
  | reparsedIp {pktMeta after : PacketMeta} {payload : ℕ} (earlier : Obtained packet dp pktMeta)
      (returns : pktMeta.reparseIp packet payload = .ok after) : Obtained packet dp after

theorem Obtained.wellShaped (behaves : PacketBehaviour packet) {dp : Dp} {pktMeta : PacketMeta}
    (obtained : Obtained packet dp pktMeta) : WellShaped pktMeta := by
  induction obtained with
  | parsed returns => exact parsePktMeta_wellShaped behaves returns
  | @reparsed _ _ maxLen _ returns ih =>
      obtain ⟨after, returns', shaped, _⟩ := ih.reparse behaves maxLen
      cases returns.symm.trans returns'
      exact shaped
  | reparsedIp _ returns ih => exact reparseIp_wellShaped behaves ih returns

/-- **Where packet-in parsing does not raise.** `parse_pkt_meta` returns exactly
when the data it admits does not end before an announced VLAN header; on all
metadata obtained from it `reparse` and `reparse_all` return, and `reparse_ip`
returns exactly where it is safe; and `ipv4_parseable` decides its purpose
exactly on complete headers whose highest offset bit it does not overlook. -/
theorem packetIn_returns_iff (behaves : PacketBehaviour packet) :
    (∀ (dp : Dp) (msg : PacketInMessage), (∃ answer, dp.parsePktMeta packet msg = .ok answer) ↔
      ∀ port data, dp.screened msg = some (port, data) → ¬ EndsBeforeVlan data) ∧
    (∀ (dp : Dp) (pktMeta : PacketMeta), Obtained packet dp pktMeta →
      (∀ maxLen, ∃ after, pktMeta.reparse packet maxLen = .ok after) ∧
      (∃ after, pktMeta.reparseAll packet = .ok after) ∧
      ∀ payload, (∃ after, pktMeta.reparseIp packet payload = .ok after) ↔
        ReparseIpSafe packet pktMeta payload) ∧
    ∀ data : Bytes,
      (∃ accepted, ipv4Parseable data = .ok accepted ∧ (accepted = true ↔ AcceptsIpv4 data)) ↔
        IPV4_HEADER_SIZE ≤ data.length ∧ ¬ OffsetOverlooked data := by
  refine ⟨fun dp msg => parsePktMeta_returns_iff behaves dp msg, fun dp pktMeta obtained => ?_,
    ipv4Parseable_iff⟩
  have shaped := obtained.wellShaped behaves
  have reparses : ∀ maxLen, ∃ after, pktMeta.reparse packet maxLen = .ok after := by
    intro maxLen
    obtain ⟨after, returns, _⟩ := shaped.reparse behaves maxLen
    exact ⟨after, returns⟩
  exact ⟨reparses, reparses 0, fun payload => reparseIp_returns_iff behaves shaped payload⟩

/-! ## A library for the headers up to the VLAN header -/

/-- The Ethernet header, the VLAN header and the bytes that follow. -/
def linkLayers (data : Bytes) : Except PyError (List Layer) :=
  let rest := fun (size : ℕ) => if size < data.length then [Layer.raw (data.drop size)] else []
  if data.length < ETH_HEADER_SIZE then .ok (rest 0)
  else if (EthernetHeader.ofBytes data).ethertype = ETH_TYPE_8021Q ∧
      ETH_VLAN_HEADER_SIZE ≤ data.length then
    .ok (.ethernet (.ofBytes data) :: .vlan (.ofBytes data) :: rest ETH_VLAN_HEADER_SIZE)
  else .ok (.ethernet (.ofBytes data) :: rest ETH_HEADER_SIZE)

theorem linkLayers_behaves : PacketBehaviour linkLayers where
  raises data error returns := by
    unfold linkLayers at returns
    dsimp only at returns
    repeat' split at returns
    all_goals cases returns
  tooShort data layers short returns := by
    unfold linkLayers at returns
    dsimp only at returns
    rw [if_pos short] at returns
    cases returns
    split <;> rfl
  ethernetOnly data length := by
    simp [linkLayers, length, ETH_VLAN_HEADER_SIZE]
  partOfVlan data more less tagged := by
    simp [linkLayers, Nat.not_lt.mpr (Nat.le_of_lt more), tagged, Nat.not_le.mpr less, more]
  vlanOnly data length tagged := by
    simp [linkLayers, length, tagged, ETH_VLAN_HEADER_SIZE]

/-- A datapath with one port in one VLAN. -/
def labDp : Dp where
  dynRunning := true
  strictPacketInCookie := true
  cookie := 1524372928
  ports := [⟨1, false, some 100, []⟩]
  vlans := [⟨100, true, 0x0e0000000001⟩]
  globalVlan := 0
  stackGraph := false

/-- A frame on port 1 from `0e:00:00:00:00:02` to the broadcast address. -/
def labMessage (rest : Bytes) : PacketInMessage where
  cookie := 1524372928
  reason := OFPR_ACTION
  inPort := some 1
  data := [255, 255, 255, 255, 255, 255, 14, 0, 0, 0, 0, 2] ++ rest
  totalLen := 12 + rest.length

/-- A frame with a VLAN header is parsed, and a frame that ends before it is not. -/
theorem packetIn_returns_lab :
    (∃ answer, labDp.parsePktMeta linkLayers (labMessage [0x81, 0, 0, 100, 8, 6]) = .ok answer) ∧
      ¬ ∃ answer, labDp.parsePktMeta linkLayers (labMessage [0x81, 0]) = .ok answer := by
  have returns := (packetIn_returns_iff linkLayers_behaves).1 labDp
  refine ⟨(returns _).mpr ?_, fun answer => ?_⟩
  · intro port data admitted ends
    rw [screened_data admitted] at ends
    exact absurd ends.1 (by decide)
  · exact (returns _).mp answer ⟨1, false, some 100, []⟩ _ rfl ⟨by decide, by decide⟩

/-- An Ethernet header that announces a VLAN header stops the parser. -/
theorem not_packetIn_returns :
    ¬ ∀ packet : Bytes → Except PyError (List Layer), PacketBehaviour packet →
      ∀ (dp : Dp) (msg : PacketInMessage), ∃ answer, dp.parsePktMeta packet msg = .ok answer := by
  intro always
  obtain ⟨answer, returns⟩ := always linkLayers linkLayers_behaves labDp (labMessage [0x81, 0])
  have raises : labDp.parsePktMeta linkLayers (labMessage [0x81, 0]) = .error .valueError := by
    decide
  rw [raises] at returns
  cases returns

end Faucet.Packet
