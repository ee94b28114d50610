import Faucet.Net.Address
import Faucet.Packet.Ipv4

/-!
# Parsing the headers of a packet

`packet : Bytes → Except PyError (List Layer)` stands for the OpenFlow
library's `packet.Packet`: the headers it could parse and then any bytes left,
or an exception. `PacketBehaviour` is what the controller relies on.

`parse_packet_in_pkt` runs over the headers with that library inside one `try`,
so the variables keep what they had been assigned when an exception is caught
(`Try`). The variable `pkt` sometimes holds a packet and sometimes, after the
packet was unpacked into two, only its first header (`Pkt`).
-/

set_option autoImplicit false

namespace Faucet.Packet

/-- The Ethernet type of IPv4. -/
def ETH_TYPE_IP : ℕ := 0x0800

/-- The Ethernet type of ARP. -/
def ETH_TYPE_ARP : ℕ := 0x0806

/-- The Ethernet type of a VLAN tag. -/
def ETH_TYPE_8021Q : ℕ := 0x8100

/-- The Ethernet type of IPv6. -/
def ETH_TYPE_IPV6 : ℕ := 0x86DD

/-- An Ethernet header; addresses are 48-bit numbers. -/
structure EthernetHeader where
  dst : ℕ
  src : ℕ
  ethertype : ℕ
deriving DecidableEq, Repr

/-- The first 14 bytes as a header. -/
def EthernetHeader.ofBytes (data : Bytes) : EthernetHeader where
  dst := (List.range 6).foldl (fun mac index => 256 * mac + byteAt data index) 0
  src := (List.range 6).foldl (fun mac index => 256 * mac + byteAt data (6 + index)) 0
  ethertype := halfAt data 12

/-- A VLAN tag, with the type of what follows. -/
structure VlanHeader where
  vid : ℕ
  ethertype : ℕ
deriving DecidableEq, Repr

/-- The VLAN header that follows an Ethernet header. -/
def VlanHeader.ofBytes (data : Bytes) : VlanHeader where
  vid := halfAt data 14 &&& 0xFFF
  ethertype := halfAt data 16

/-- A part of a parsed packet: a header, or the bytes after the last header. -/
inductive Layer where
  | ethernet (header : EthernetHeader)
  | vlan (header : VlanHeader)
  | arp (srcIp dstIp : IpAddress)
  | ipv4 (src dst : IpAddress)
  | ipv6 (src dst : IpAddress)
  | other
  | raw (data : Bytes)
deriving DecidableEq, Repr

/-- `pkt.get_protocol(ethernet.ethernet)` -/
def getEthernet (layers : List Layer) : Option EthernetHeader :=
  layers.findSome? fun
    | .ethernet header => some header
    | _ => none

/-- What the variable `pkt` holds. Only a packet has the method `get_protocol`. -/
inductive Pkt where
  | packet (layers : List Layer)
  | header (layer : Layer)
deriving DecidableEq, Repr

/-- The exceptions that `parse_packet_in_pkt` catches. -/
def PyError.caught : PyError → Bool
  | .attributeError | .assertionError | .tooSmallException => true
  | .valueError | .structError => false

/-- What the controller relies on. -/
structure PacketBehaviour (packet : Bytes → Except PyError (List Layer)) : Prop where
  raises : ∀ data error, packet data = .error error → error.caught = true
  tooShort : ∀ data layers, data.length < ETH_HEADER_SIZE → packet data = .ok layers →
    getEthernet layers = none
  ethernetOnly : ∀ data, data.length = ETH_HEADER_SIZE →
    packet data = .ok [.ethernet (.ofBytes data)]
  partOfVlan : ∀ data, ETH_HEADER_SIZE < data.length → data.length < ETH_VLAN_HEADER_SIZE →
    (EthernetHeader.ofBytes data).ethertype = ETH_TYPE_8021Q →
      packet data = .ok [.ethernet (.ofBytes data), .raw (data.drop ETH_HEADER_SIZE)]
  vlanOnly : ∀ data, data.length = ETH_VLAN_HEADER_SIZE →
    (EthernetHeader.ofBytes data).ethertype = ETH_TYPE_8021Q →
      packet data = .ok [.ethernet (.ofBytes data), .vlan (.ofBytes data)]

/-- The variables of `parse_packet_in_pkt`. -/
structure Parsed where
  pkt : Option Pkt
  ethPkt : Option EthernetHeader
  ethType : Option ℕ
  vlanPkt : Option Layer
  vlanVid : Option ℕ
deriving DecidableEq, Repr

/-- The variables after statements of the `try`, and the exception that ended them. -/
abbrev Try := Parsed × Option PyError

/-- The rest of a `try` block. -/
def Try.andThen (first : Try) (next : Parsed → Try) : Try :=
  match first with
  | (vars, none) => next vars
  | raised => raised

/-- What the `except` clause lets through. -/
def Try.finish : Try → Except PyError Parsed
  | (vars, none) => .ok vars
  | (vars, some error) => if error.caught then .ok vars else .error error

section Parser

variable (packet : Bytes → Except PyError (List Layer)) (data : Bytes)

/-- The Ethernet header is parsed unless it has been. -/
def parseEthernet (vars : Parsed) : Try :=
  if vars.ethPkt.isSome then (vars, none)
  else
    match packet (data.take ETH_HEADER_SIZE) with
    | .error error => (vars, some error)
    | .ok layers => ({ vars with pkt := some (.packet layers), ethPkt := getEthernet layers }, none)

/-- `eth_type = eth_pkt.ethertype` -/
def readEthType (vars : Parsed) : Try :=
  match vars.ethPkt with
  | none => (vars, some .attributeError)
  | some header => ({ vars with ethType := some header.ethertype }, none)

/-- `pkt, vlan_pkt = packet.Packet(data[:ETH_VLAN_HEADER_SIZE])` -/
def unpackVlan (vars : Parsed) : Try :=
  if vars.ethType = some ETH_TYPE_8021Q then
    match packet (data.take ETH_VLAN_HEADER_SIZE) with
    | .error error => (vars, some error)
    | .ok [first, second] => ({ vars with pkt := some (.header first), vlanPkt := some second }, none)
    | .ok _ => (vars, some .valueError)
  else (vars, none)

/-- `if vlan_pkt:`, and the VID and type of the VLAN header; empty bytes are false. -/
def readVlan (vars : Parsed) : Try :=
  match vars.vlanPkt with
  | none | some (.raw []) => (vars, none)
  | some (.vlan header) =>
      ({ vars with vlanVid := some header.vid, ethType := some header.ethertype }, none)
  | some _ => (vars, some .attributeError)

/-- The whole data is parsed. -/
def parseData (vars : Parsed) : Try :=
  if data.length > ETH_VLAN_HEADER_SIZE then
    match packet data with
    | .error error => (vars, some error)
    | .ok layers => ({ vars with pkt := some (.packet layers) }, none)
  else (vars, none)

/-- `parse_packet_in_pkt` -/
def parsePacketInPkt (maxLen : ℕ) (ethPkt : Option EthernetHeader) (vlanPkt : Option Layer) :
    Except PyError Parsed :=
  let data := if maxLen ≠ 0 then data.take maxLen else data
  let vars : Parsed := ⟨none, ethPkt, none, vlanPkt, none⟩
  let headers : Try := if vlanPkt.isNone then
      ((parseEthernet packet data vars).andThen readEthType).andThen (unpackVlan packet data)
    else (vars, none)
  ((headers.andThen readVlan).andThen (parseData packet data)).finish

end Parser

/-! ## Packet metadata -/

/-- What the packet handler reads of a VLAN. -/
structure Vlan where
  vid : ℕ
  minimumIpSizeCheck : Bool
  faucetMac : ℕ
deriving DecidableEq, Repr

/-- What the packet handler reads of a port. -/
structure Port where
  number : ℕ
  stack : Bool
  nativeVlan : Option ℕ
  taggedVlans : List ℕ
deriving DecidableEq, Repr

/-- `PacketMeta` -/
structure PacketMeta where
  reason : ℕ
  data : Bytes
  origLen : ℕ
  pkt : Pkt
  ethPkt : Option EthernetHeader
  vlanPkt : Option Layer
  port : Port
  vlan : Option Vlan
  ethSrc : ℕ
  ethDst : ℕ
  ethType : Option ℕ
  l3Pkt : Option Layer
  l3Src : Option IpAddress
  l3Dst : Option IpAddress
deriving DecidableEq, Repr

namespace PacketMeta

/-- The size of an ARP request with a VLAN tag. -/
def VLAN_ARP_REQ_PKT_SIZE : ℕ := ETH_VLAN_HEADER_SIZE + 28

/-- The size of an ARP packet with a VLAN tag and its padding. -/
def VLAN_ARP_PKT_SIZE : ℕ := ETH_VLAN_HEADER_SIZE + 46

/-- The size of an echo request with a VLAN tag. -/
def VLAN_ICMP_ECHO_REQ_SIZE : ℕ := ETH_VLAN_HEADER_SIZE + IPV4_HEADER_SIZE + (8 + 128)

/-- `MAX_ETH_TYPE_PKT_SIZE` -/
def maxEthTypePktSize (ethType : ℕ) : Option ℕ :=
  if ethType = ETH_TYPE_ARP then some VLAN_ARP_PKT_SIZE
  else if ethType = ETH_TYPE_IP then some VLAN_ICMP_ECHO_REQ_SIZE
  else none

/-- A header class that `reparse_ip` looks for. -/
inductive L3Parser where
  | ipv4
  | arp
  | ipv6
deriving DecidableEq, Repr

/-- `ETH_TYPES_PARSERS` and `MIN_ETH_TYPE_PKT_SIZE`: the IP version, whether
`ipv4_parseable` is asked, the header class and the size of the headers. -/
def ethTypesParsers (ethType : ℕ) : Option (Option ℕ × Bool × L3Parser × ℕ) :=
  if ethType = ETH_TYPE_IP then
    some (some 4, true, .ipv4, ETH_VLAN_HEADER_SIZE + IPV4_HEADER_SIZE)
  else if ethType = ETH_TYPE_ARP then some (none, false, .arp, VLAN_ARP_REQ_PKT_SIZE)
  else if ethType = ETH_TYPE_IPV6 then
    some (some 6, false, .ipv6, ETH_VLAN_HEADER_SIZE + IPV6_HEADER_SIZE)
  else none

/-- `reparse` -/
def reparse (packet : Bytes → Except PyError (List Layer)) (pktMeta : PacketMeta) (maxLen : ℕ) :
    Except PyError PacketMeta :=
  match parsePacketInPkt packet pktMeta.data maxLen pktMeta.ethPkt pktMeta.vlanPkt with
  | .error error => .error error
  | .ok vars =>
      match vars.pkt, vars.ethType with
      | some pkt, some ethType =>
          let rightSize := (maxEthTypePktSize ethType).getD pktMeta.data.length
          .ok { pktMeta with
            data := if pktMeta.data.length > rightSize then pktMeta.data.take rightSize
              else pktMeta.data
            pkt := pkt
            ethPkt := vars.ethPkt
            vlanPkt := vars.vlanPkt }
      | _, _ => .ok pktMeta

/-- `reparse_all` -/
def reparseAll (packet : Bytes → Except PyError (List Layer)) (pktMeta : PacketMeta) :
    Except PyError PacketMeta :=
  pktMeta.reparse packet 0

/-- `ip_ver` -/
def ipVer (pktMeta : PacketMeta) : Option ℕ :=
  if pktMeta.data.length > ETH_VLAN_HEADER_SIZE then
    some (byteAt (pktMeta.data.drop ETH_VLAN_HEADER_SIZE) 0 >>> 4)
  else none

/-- `self.pkt.get_protocol(pkt_parser)` -/
def getProtocol (parser : L3Parser) : Pkt → Except PyError (Option Layer)
  | .header _ => .error .attributeError
  | .packet layers => .ok (layers.find? fun
      | .ipv4 _ _ => parser == .ipv4
      | .arp _ _ => parser == .arp
      | .ipv6 _ _ => parser == .ipv6
      | _ => false)

/-- The checks before `reparse_ip` parses: true to go on, false to return. -/
def ipHeaderParseable (pktMeta : PacketMeta) (ipVer : Option ℕ) (asksParseable : Bool)
    (headerSize : ℕ) : Except PyError Bool :=
  match ipVer with
  | none => .ok true
  | some _ =>
      if ipVer ≠ pktMeta.ipVer then .ok false
      else if pktMeta.vlan.any (·.minimumIpSizeCheck) && decide (pktMeta.data.length < headerSize)
      then .ok false
      else if asksParseable then ipv4Parseable (pktMeta.data.drop ETH_VLAN_HEADER_SIZE)
      else .ok true

/-- The header that was found and its addresses. -/
def setL3 (pktMeta : PacketMeta) (l3Pkt : Option Layer) : PacketMeta :=
  match l3Pkt with
  | some (.ipv4 src dst) | some (.arp src dst) | some (.ipv6 src dst) =>
      { pktMeta with l3Pkt := l3Pkt, l3Src := some src, l3Dst := some dst }
  | _ => { pktMeta with l3Pkt := l3Pkt }

/-- `reparse_ip` -/
def reparseIp (packet : Bytes → Except PyError (List Layer)) (pktMeta : PacketMeta)
    (payload : ℕ) : Except PyError PacketMeta :=
  match pktMeta.ethType.bind ethTypesParsers with
  | none => .ok pktMeta
  | some (ipVer, asksParseable, pktParser, headerSize) =>
      match pktMeta.ipHeaderParseable ipVer asksParseable headerSize with
      | .error error => .error error
      | .ok false => .ok pktMeta
      | .ok true => do
          let pktMeta ← pktMeta.reparse packet (headerSize + payload)
          let l3Pkt ← getProtocol pktParser pktMeta.pkt
          return pktMeta.setL3 l3Pkt

end PacketMeta

end Faucet.Packet
