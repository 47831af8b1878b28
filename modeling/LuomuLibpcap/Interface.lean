import LuomuLibpcap.Address
import Mathlib.Order.WithBot
import Mathlib.Data.Prod.Lex

/-!
# Interfaces

An `Interface` is what enumeration makes of one native device: its name, description, a `BTreeSet` of
`InterfaceAddress`es and a `BTreeSet` of flags.  `InterfaceAddress` and `Address` derive `Ord`, so the address set
is ordered field by field, the primary address first.

* `get_ether_address` scans the address set in increasing order and returns the first MAC address; that is the
  least MAC address of the interface, so it depends only on the set (`getEtherAddress_eq_least`).
* `has_address` asks the set `get_ip_addresses` built through `IpAddr::try_from(&Address)`; it holds exactly when
  some entry's primary address is the IP address (`hasAddress_iff`).
-/

namespace LuomuLibpcap

/-- Collection of addresses for network interface. -/
structure InterfaceAddress where
  addr : Address
  netmask : Option Address
  broadaddr : Option Address
  dstaddr : Option Address
  deriving DecidableEq

namespace InterfaceAddress

/-- The derived `Ord` of `InterfaceAddress`: lexicographic in the fields, `None` below every `Some`. -/
def key (ia : InterfaceAddress) : Address ×ₗ (WithBot Address ×ₗ (WithBot Address ×ₗ WithBot Address)) :=
  toLex (ia.addr, toLex (ia.netmask, toLex (ia.broadaddr, ia.dstaddr)))

theorem key_injective : Function.Injective key := by
  rintro ⟨⟩ ⟨⟩ h
  simp_all [key]

instance : LinearOrder InterfaceAddress := LinearOrder.lift' key key_injective

theorem addr_le_of_lt {a b : InterfaceAddress} (h : a < b) : a.addr ≤ b.addr := by
  rcases (Prod.Lex.lt_iff _ _).1 (show a.key < b.key from h) with h | ⟨h, -⟩
  · exact h.le
  · exact h.le

end InterfaceAddress

/-- Various flags which can be set on network interface -/
inductive InterfaceFlag where
  | loopback
  | up
  | running
  deriving DecidableEq

instance : LinearOrder InterfaceFlag :=
  LinearOrder.lift' InterfaceFlag.toCtorIdx fun a b h => by cases a <;> cases b <;> first | rfl | cases h

/-- A network device that can be opened with `Pcap::new()` and `Pcap::builder()`. -/
structure Interface where
  name : String
  description : Option String
  addresses : BTreeSet InterfaceAddress
  flags : BTreeSet InterfaceFlag
  deriving DecidableEq

namespace Interface

/-- True if interface is up -/
def isUp (i : Interface) : Bool := decide (InterfaceFlag.up ∈ i.flags)

/-- True if interface is running -/
def isRunning (i : Interface) : Bool := decide (InterfaceFlag.running ∈ i.flags)

/-- True if interface is loopback -/
def isLoopback (i : Interface) : Bool := decide (InterfaceFlag.loopback ∈ i.flags)

/-- True if interface is has name `name` -/
def hasName (i : Interface) (name : String) : Bool := i.name == name

/-- Return MAC aka Ethernet address of the interface -/
def getEtherAddress (i : Interface) : Option MacAddr :=
  i.addresses.toList.findSome? fun ia =>
    match ia.addr with
    | .mac addr => some addr
    | _ => none

/-- Return IP addresses of interface -/
def getIpAddresses (i : Interface) : HashSet IpAddr :=
  HashSet.ofList (i.addresses.toList.filterMap fun ia => (IpAddr.tryFromRef ia.addr).toOption)

/-- True if interface is has IP address `ip` -/
def hasAddress (i : Interface) (ip : IpAddr) : Bool := i.getIpAddresses.contains ip

theorem hasName_iff {i : Interface} {name : String} : i.hasName name = true ↔ i.name = name := by
  simp [hasName]

theorem hasAddress_iff {i : Interface} {ip : IpAddr} :
    i.hasAddress ip = true ↔ ∃ ia ∈ i.addresses, ia.addr = Address.fromIpAddr ip := by
  simp [hasAddress, getIpAddresses, IpAddr.tryFromRef_eq_ok]

/-! ### The Ethernet address -/

theorem getEtherAddress_eq (i : Interface) : i.getEtherAddress = i.addresses.toList.findSome? (·.addr.asMac) :=
  rfl

/-- The first MAC address of a strictly increasing list of entries is its least one. -/
private theorem findSome_asMac_least {l : List InterfaceAddress} (hs : l.Sorted (· < ·)) {m : MacAddr}
    (h : l.findSome? (·.addr.asMac) = some m) :
    (∃ ia ∈ l, ia.addr = .mac m) ∧ ∀ ia ∈ l, ∀ m', ia.addr = .mac m' → m ≤ m' := by
  obtain ⟨l₁, a, l₂, rfl, ha, hl₁⟩ := List.findSome?_eq_some_iff.1 h
  simp only [Address.asMac_eq_some, Address.fromMacAddr] at ha
  refine ⟨⟨a, by simp, ha.symm⟩, fun ia hia m' hm' => ?_⟩
  rcases List.mem_append.1 hia with hia | hia
  · simpa [hm', Address.asMac] using hl₁ ia hia
  · have hlt := List.pairwise_append.1 hs
    rcases List.mem_cons.1 hia with rfl | hia
    · rw [hm'] at ha
      cases ha
      exact le_rfl
    · have := InterfaceAddress.addr_le_of_lt ((List.pairwise_cons.1 hlt.2.1).1 ia hia)
      rwa [← ha, hm', Address.mac_le_mac] at this

/-- `get_ether_address` returns `None` exactly when no entry's address is a MAC address, and otherwise the least
MAC address among the entries; so it depends only on the set of addresses, not on the order libpcap listed
them in. -/
theorem getEtherAddress_eq_least (i : Interface) :
    (i.getEtherAddress = none ↔ ∀ ia ∈ i.addresses, ia.addr.isMac = false) ∧
    (∀ m, i.getEtherAddress = some m ↔
      (∃ ia ∈ i.addresses, ia.addr = .mac m) ∧ ∀ ia ∈ i.addresses, ∀ m', ia.addr = .mac m' → m ≤ m') ∧
    ∀ l l' : List InterfaceAddress, (∀ ia, ia ∈ l ↔ ia ∈ l') →
      { i with addresses := BTreeSet.ofList l }.getEtherAddress =
        { i with addresses := BTreeSet.ofList l' }.getEtherAddress := by
  refine ⟨?_, fun m => ⟨fun h => ?_, fun ⟨⟨ia, hia, hm⟩, hleast⟩ => ?_⟩, fun l l' h => ?_⟩
  · rw [getEtherAddress_eq, List.findSome?_eq_none_iff]
    refine forall₂_congr fun ia _ => ?_
    cases ia.addr <;> simp [Address.asMac, Address.isMac]
  · exact findSome_asMac_least i.addresses.sorted (i.getEtherAddress_eq ▸ h)
  · rw [getEtherAddress_eq] at *
    obtain ⟨m₀, hm₀⟩ : ∃ m₀, i.addresses.toList.findSome? (·.addr.asMac) = some m₀ :=
      Option.ne_none_iff_exists'.1 fun hnone => by
        simpa [hm, Address.asMac] using List.findSome?_eq_none_iff.1 hnone ia hia
    obtain ⟨⟨ib, hib, hm₀'⟩, hleast₀⟩ := findSome_asMac_least i.addresses.sorted hm₀
    rw [hm₀, le_antisymm (hleast₀ ia hia m hm) (hleast ib hib m₀ hm₀')]
  · rw [BTreeSet.ext (s := BTreeSet.ofList l) (t := BTreeSet.ofList l') (by simpa using h)]

end Interface

/-- A device `eth0` with one IPv4 address and no flags. -/
def eth0 : Interface where
  name := "eth0"
  description := none
  addresses := ⟨[⟨.ipv4 ⟨⟨[10, 0, 0, 1], rfl⟩⟩, none, none, none⟩], List.sorted_singleton _⟩
  flags := ⟨[], List.sorted_nil⟩

theorem getEtherAddress_eq_least_listing :
    { eth0 with addresses := BTreeSet.ofList [⟨.mac ⟨⟨[0, 0, 0, 0, 0, 2], rfl⟩⟩, none, none, none⟩,
        ⟨.mac ⟨⟨[0, 0, 0, 0, 0, 1], rfl⟩⟩, none, none, none⟩] }.getEtherAddress =
      { eth0 with addresses := BTreeSet.ofList [⟨.mac ⟨⟨[0, 0, 0, 0, 0, 1], rfl⟩⟩, none, none, none⟩,
        ⟨.mac ⟨⟨[0, 0, 0, 0, 0, 2], rfl⟩⟩, none, none, none⟩] }.getEtherAddress :=
  (Interface.getEtherAddress_eq_least eth0).2.2 _ _ fun _ => (List.Perm.swap _ _ _).mem_iff

end LuomuLibpcap
