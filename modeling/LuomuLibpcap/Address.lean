import LuomuLibpcap.Basic
import Mathlib.Data.Sum.Order

/-!
# The address model

`Address` is the tagged union of an IPv4, an IPv6 and a MAC address, with the derived `Ord` (the variants in
declaration order, then the payload).  It has a projection `as_*` and a tag `is_*` for each kind, an injection
`From` from each payload type, and `TryFrom` conversions back, written separately for `Address` and `&Address`.
All of them agree: each `TryFrom` gives the projection, each tag says that the projection is `Some`, and each
projection inverts its injection (`address_conversions_agree`).
-/

namespace LuomuLibpcap

/-! ### Payload types -/

/-- `std::net::Ipv4Addr`: four octets, compared octet by octet. -/
structure Ipv4Addr where
  octets : Octets 4
  deriving DecidableEq

/-- `std::net::Ipv6Addr`: sixteen octets, compared octet by octet. -/
structure Ipv6Addr where
  octets : Octets 16
  deriving DecidableEq

/-- `std::net::IpAddr`. -/
inductive IpAddr where
  | v4 (ip : Ipv4Addr)
  | v6 (ip : Ipv6Addr)
  deriving DecidableEq

/-- `MacAddr([u8; 6])`, a MAC address used for example with Ethernet. -/
structure MacAddr where
  val : Octets 6
  deriving DecidableEq

instance : LinearOrder Ipv4Addr :=
  LinearOrder.lift' Ipv4Addr.octets fun a b h => by cases a; cases b; cases h; rfl

instance : LinearOrder Ipv6Addr :=
  LinearOrder.lift' Ipv6Addr.octets fun a b h => by cases a; cases b; cases h; rfl

instance : LinearOrder MacAddr :=
  LinearOrder.lift' MacAddr.val fun a b h => by cases a; cases b; cases h; rfl

namespace MacAddr

/-- `From<[u8; 6]> for MacAddr`. -/
def «from» (val : Octets 6) : MacAddr := ⟨val⟩

/-- `From<&[u8; 6]> for MacAddr`: `Self(val.to_owned())`. -/
def fromRef (val : Octets 6) : MacAddr := ⟨val⟩

/-- `Deref for MacAddr`: `&self.0`. -/
def deref (m : MacAddr) : Octets 6 := m.val

end MacAddr

/-! ### `Address` -/

/-- Address of some sort. IPv4, IPv6, MAC. -/
inductive Address where
  | ipv4 (ip : Ipv4Addr)
  | ipv6 (ip : Ipv6Addr)
  | mac (mac : MacAddr)
  deriving DecidableEq

namespace Address

/-- The derived `Ord` of `Address`: first the variant, in declaration order, then the payload. -/
def key : Address → Ipv4Addr ⊕ₗ (Ipv6Addr ⊕ₗ MacAddr)
  | ipv4 ip => toLex (.inl ip)
  | ipv6 ip => toLex (.inr (toLex (.inl ip)))
  | mac m => toLex (.inr (toLex (.inr m)))

theorem key_injective : Function.Injective key := by
  intro a b h
  cases a <;> cases b <;> simp_all [key]

instance : LinearOrder Address := LinearOrder.lift' key key_injective

theorem mac_le_mac {m m' : MacAddr} : mac m ≤ mac m' ↔ m ≤ m' :=
  Sum.Lex.inr_le_inr_iff.trans Sum.Lex.inr_le_inr_iff

/-- True if IPv4 address -/
def isIpv4 : Address → Bool
  | ipv4 _ => true
  | _ => false

/-- True if IPv6 address -/
def isIpv6 : Address → Bool
  | ipv6 _ => true
  | _ => false

/-- True if either IPv4 or IPv6 address -/
def isIp (a : Address) : Bool := a.isIpv4 || a.isIpv6

/-- True if MAC address -/
def isMac : Address → Bool
  | mac _ => true
  | _ => false

/-- Return the `Ipv4Addr` or None -/
def asIpv4 : Address → Option Ipv4Addr
  | ipv4 ip => some ip
  | _ => none

/-- Return the `Ipv6Addr` or None -/
def asIpv6 : Address → Option Ipv6Addr
  | ipv6 ip => some ip
  | _ => none

/-- Return the `IpAddr` or None -/
def asIp : Address → Option IpAddr
  | ipv4 ip => some (.v4 ip)
  | ipv6 ip => some (.v6 ip)
  | _ => none

/-- Return the `MacAddr` or None -/
def asMac : Address → Option MacAddr
  | mac m => some m
  | _ => none

/-- `From<Ipv4Addr> for Address`. -/
def fromIpv4 (ip : Ipv4Addr) : Address := ipv4 ip

/-- `From<Ipv6Addr> for Address`. -/
def fromIpv6 (ip : Ipv6Addr) : Address := ipv6 ip

/-- `From<IpAddr> for Address`. -/
def fromIpAddr : IpAddr → Address
  | .v4 ip => ipv4 ip
  | .v6 ip => ipv6 ip

/-- `From<MacAddr> for Address`. -/
def fromMacAddr (m : MacAddr) : Address := mac m

/-- `From<[u8; 6]> for Address`. -/
def fromOctets (m : Octets 6) : Address := mac (MacAddr.from m)

/-- `From<&[u8; 6]> for Address`. -/
def fromOctetsRef (m : Octets 6) : Address := mac (MacAddr.fromRef m)

end Address

/-! ### `TryFrom` -/

/-- `TryFrom<Address> for Ipv4Addr`. -/
def Ipv4Addr.tryFrom : Address → Except Error Ipv4Addr
  | .ipv4 ip => .ok ip
  | _ => .error .invalidAddress

/-- `TryFrom<&Address> for Ipv4Addr`. -/
def Ipv4Addr.tryFromRef : Address → Except Error Ipv4Addr
  | .ipv4 ip => .ok ip
  | _ => .error .invalidAddress

/-- `TryFrom<Address> for Ipv6Addr`. -/
def Ipv6Addr.tryFrom : Address → Except Error Ipv6Addr
  | .ipv6 ip => .ok ip
  | _ => .error .invalidAddress

/-- `TryFrom<&Address> for Ipv6Addr`. -/
def Ipv6Addr.tryFromRef : Address → Except Error Ipv6Addr
  | .ipv6 ip => .ok ip
  | _ => .error .invalidAddress

/-- `TryFrom<Address> for IpAddr`. -/
def IpAddr.tryFrom : Address → Except Error IpAddr
  | .ipv4 ip => .ok (.v4 ip)
  | .ipv6 ip => .ok (.v6 ip)
  | _ => .error .invalidAddress

/-- `TryFrom<&Address> for IpAddr`. -/
def IpAddr.tryFromRef : Address → Except Error IpAddr
  | .ipv4 ip => .ok (.v4 ip)
  | .ipv6 ip => .ok (.v6 ip)
  | _ => .error .invalidAddress

/-- `TryFrom<Address> for MacAddr`. -/
def MacAddr.tryFrom : Address → Except Error MacAddr
  | .mac mac => .ok mac
  | _ => .error .invalidAddress

/-! ### The conversions agree -/

namespace Address

variable (a : Address)

theorem tryFrom_agree :
    (a.asIpv4 = (Ipv4Addr.tryFrom a).toOption ∧ a.asIpv4 = (Ipv4Addr.tryFromRef a).toOption) ∧
    (a.asIpv6 = (Ipv6Addr.tryFrom a).toOption ∧ a.asIpv6 = (Ipv6Addr.tryFromRef a).toOption) ∧
    (a.asIp = (IpAddr.tryFrom a).toOption ∧ a.asIp = (IpAddr.tryFromRef a).toOption) ∧
    a.asMac = (MacAddr.tryFrom a).toOption := by
  cases a <;> exact ⟨⟨rfl, rfl⟩, ⟨rfl, rfl⟩, ⟨rfl, rfl⟩, rfl⟩

theorem tags_eq_isSome :
    a.isIpv4 = a.asIpv4.isSome ∧ a.isIpv6 = a.asIpv6.isSome ∧ a.isMac = a.asMac.isSome ∧
      a.isIp = a.asIp.isSome := by
  cases a <;> exact ⟨rfl, rfl, rfl, rfl⟩

@[simp] theorem asIpv4_eq_some {y : Ipv4Addr} : a.asIpv4 = some y ↔ fromIpv4 y = a := by
  cases a <;> simp [asIpv4, fromIpv4, eq_comm]

@[simp] theorem asIpv6_eq_some {y : Ipv6Addr} : a.asIpv6 = some y ↔ fromIpv6 y = a := by
  cases a <;> simp [asIpv6, fromIpv6, eq_comm]

@[simp] theorem asIp_eq_some {y : IpAddr} : a.asIp = some y ↔ fromIpAddr y = a := by
  cases a <;> cases y <;> simp [asIp, fromIpAddr, eq_comm]

@[simp] theorem asMac_eq_some {y : MacAddr} : a.asMac = some y ↔ fromMacAddr y = a := by
  cases a <;> simp [asMac, fromMacAddr, eq_comm]

end Address

theorem IpAddr.tryFromRef_eq_ok {a : Address} {ip : IpAddr} :
    IpAddr.tryFromRef a = .ok ip ↔ a = Address.fromIpAddr ip := by
  cases a <;> cases ip <;> simp [tryFromRef, Address.fromIpAddr]

/-- Each `TryFrom` agrees with its projection, each tag says the projection is `Some`, and each projection is
inverse to its `From`. -/
theorem address_conversions_agree (a : Address) :
    ((a.asIpv4 = (Ipv4Addr.tryFrom a).toOption ∧ a.asIpv4 = (Ipv4Addr.tryFromRef a).toOption) ∧
      (a.asIpv6 = (Ipv6Addr.tryFrom a).toOption ∧ a.asIpv6 = (Ipv6Addr.tryFromRef a).toOption) ∧
      (a.asIp = (IpAddr.tryFrom a).toOption ∧ a.asIp = (IpAddr.tryFromRef a).toOption) ∧
      a.asMac = (MacAddr.tryFrom a).toOption) ∧
    (a.isIpv4 = a.asIpv4.isSome ∧ a.isIpv6 = a.asIpv6.isSome ∧ a.isMac = a.asMac.isSome ∧
      a.isIp = a.asIp.isSome) ∧
    (∀ y, a.asIpv4 = some y ↔ Address.fromIpv4 y = a) ∧ (∀ y, a.asIpv6 = some y ↔ Address.fromIpv6 y = a) ∧
    (∀ y, a.asIp = some y ↔ Address.fromIpAddr y = a) ∧ (∀ y, a.asMac = some y ↔ Address.fromMacAddr y = a) ∧
    ∀ x : Octets 6, (Address.fromOctets x).asMac.map MacAddr.deref = some x ∧
      (Address.fromOctetsRef x).asMac.map MacAddr.deref = some x :=
  ⟨a.tryFrom_agree, a.tags_eq_isSome, fun _ => a.asIpv4_eq_some, fun _ => a.asIpv6_eq_some,
    fun _ => a.asIp_eq_some, fun _ => a.asMac_eq_some, fun _ => ⟨rfl, rfl⟩⟩

end LuomuLibpcap
