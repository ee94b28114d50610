import Mathlib

/-!
# IP addresses and networks

The values of Python's `ipaddress` module that the controller keeps in its
tables. An address carries its version and a value that fits it; a network
carries its network address, whose host bits are zero, and a prefix length.
-/

set_option autoImplicit false

namespace Faucet

/-- An IP version. -/
inductive IpVersion where
  | v4
  | v6
deriving DecidableEq, Repr

/-- `max_prefixlen` -/
def IpVersion.maxPrefixlen : IpVersion → ℕ
  | .v4 => 32
  | .v6 => 128

/-- `IPv4Address` or `IPv6Address`. -/
@[ext]
structure IpAddress where
  version : IpVersion
  value : ℕ
  inRange : value < 2 ^ version.maxPrefixlen
deriving DecidableEq, Repr

/-- `IPv4Network` or `IPv6Network`, without host bits. -/
@[ext]
structure IpNetwork where
  networkAddress : IpAddress
  prefixlen : ℕ
  prefixlen_le : prefixlen ≤ networkAddress.version.maxPrefixlen
  aligned : networkAddress.value % 2 ^ (networkAddress.version.maxPrefixlen - prefixlen) = 0
deriving DecidableEq, Repr

namespace IpNetwork

/-- `network.version` -/
def version (network : IpNetwork) : IpVersion := network.networkAddress.version

/-- `network.max_prefixlen` -/
def maxPrefixlen (network : IpNetwork) : ℕ := network.version.maxPrefixlen

/-- `ip_network(host_ip.exploded)`: the network of one address. -/
def ofHost (host : IpAddress) : IpNetwork where
  networkAddress := host
  prefixlen := host.version.maxPrefixlen
  prefixlen_le := Nat.le_refl _
  aligned := by rw [Nat.sub_self, Nat.pow_zero, Nat.mod_one]

/-- The network holds the address: `ip_address in ip_network`. -/
def contains (network : IpNetwork) (address : IpAddress) : Bool :=
  network.version == address.version &&
    address.value / 2 ^ (network.maxPrefixlen - network.prefixlen) ==
      network.networkAddress.value / 2 ^ (network.maxPrefixlen - network.prefixlen)

/-- A network of full length is the network of its address. -/
theorem eq_ofHost_iff (network : IpNetwork) (host : IpAddress) :
    network = ofHost host ↔
      network.prefixlen = network.maxPrefixlen ∧ network.networkAddress = host := by
  constructor
  · rintro rfl
    exact ⟨rfl, rfl⟩
  · rintro ⟨full, rfl⟩
    exact IpNetwork.ext rfl full

/-- The last address of a block still fits. -/
theorem last_lt {full len value : ℕ} (le : len ≤ full) (aligned : value % 2 ^ (full - len) = 0)
    (inRange : value < 2 ^ full) : value + (2 ^ (full - len) - 1) < 2 ^ full := by
  obtain ⟨blocks, rfl⟩ := Nat.dvd_of_mod_eq_zero aligned
  have split : 2 ^ full = 2 ^ (full - len) * 2 ^ len := by
    rw [← Nat.pow_add, Nat.sub_add_cancel le]
  have positive : 0 < 2 ^ (full - len) := Nat.two_pow_pos _
  rw [split] at inRange ⊢
  have next : blocks + 1 ≤ 2 ^ len := Nat.lt_of_mul_lt_mul_left inRange
  have room := Nat.mul_le_mul_left (2 ^ (full - len)) next
  rw [Nat.mul_succ] at room
  omega

/-- `broadcast_address`: the last address of the network. -/
def broadcastAddress (network : IpNetwork) : IpAddress where
  version := network.version
  value := network.networkAddress.value + (2 ^ (network.maxPrefixlen - network.prefixlen) - 1)
  inRange := last_lt network.prefixlen_le network.aligned network.networkAddress.inRange

end IpNetwork

/-- `is_link_local`: `169.254.0.0/16` and `fe80::/10`. -/
def IpAddress.isLinkLocal (address : IpAddress) : Bool :=
  match address.version with
  | .v4 => address.value / 2 ^ 16 == 0xa9fe
  | .v6 => address.value / 2 ^ 118 == 0x3fa

/-- `ip_interface`: an address with its network. -/
structure IpInterface where
  ip : IpAddress
  network : IpNetwork
deriving DecidableEq, Repr

end Faucet
