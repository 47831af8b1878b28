import LuomuLibpcap.Interface

/-!
# Enumerating devices and addresses

libpcap hands out a device list and, per device, an address list as native singly linked lists.  A pointer into
such a list is modelled by the chain of nodes it starts, null by `[]`, so that `(*p).next` is the tail; the node
conversions `try_interface_from` and `try_address_from` live in the missing `functions.rs` and are parameters.
Both iterators keep `self.next`: `None` once they are done, else the chain from the next node.

* `AddressIter::next` skips an address it cannot convert by calling itself again, so from the head it yields the
  converted addresses in chain order and then `None` on every call (`addressIter_calls`).
* `InterfaceIter::next` returns `None` for a device it cannot convert and moves on, so its calls still reach the
  later devices (`InterfaceIter.calls_iter`); but `collect` ends at the first `None`, and `get_interfaces` holds
  only the devices before the first failing one (`mem_getInterfaces`, `getInterfaces_stops_at_failure`).
* The lookups scan `get_interfaces()` in the order of its hash seed and return the first match
  (`find_interface_spec`); which interface comes first depends on that order when several carry the address
  (`findInterfaceWithIp_depends_on_order`, `findInterfaceWithIp_order_independent`).
-/

namespace LuomuLibpcap

variable {α : Type}

/-- `if next.is_null() { None } else { Some(next) }`, for the chain `rest` that `(*p).next` starts. -/
def nextPtr : List α → Option (List α)
  | [] => none
  | rest => some rest

@[simp] theorem getD_nextPtr (rest : List α) : (nextPtr rest).getD [] = rest := by
  cases rest <;> rfl

/-! ### Addresses -/

/-- Iterator for network device's addresses.  `cursor` is the field `next`: the next item in the linked list,
used for iteration. -/
structure AddressIter (α : Type) where
  cursor : Option (List α)

/-- `<AddressIter as Iterator>::next`: an address `try_address_from` does not recognise is skipped by calling
`self.next()` again. -/
def AddressIter.next (tryAddressFrom : α → Option InterfaceAddress) :
    AddressIter α → Option InterfaceAddress × AddressIter α
  | ⟨none⟩ => (none, ⟨none⟩)
  | ⟨some []⟩ => (none, ⟨none⟩)
  | ⟨some (p :: rest)⟩ =>
    match tryAddressFrom p with
    | some dev => (some dev, ⟨nextPtr rest⟩)
    | none => AddressIter.next tryAddressFrom ⟨nextPtr rest⟩
termination_by it => (it.cursor.getD []).length
decreasing_by simp

namespace AddressIter

variable (tryAddressFrom : α → Option InterfaceAddress)

/-- The addresses still to come: the recognised ones of the rest of the chain. -/
def pending (it : AddressIter α) : List (Option InterfaceAddress) :=
  ((it.cursor.getD []).filterMap tryAddressFrom).map some

/-- A call yields the first recognised address of the rest of the chain and moves past it. -/
theorem walks : Iterator.Walks (next tryAddressFrom) (pending tryAddressFrom) := by
  rintro ⟨chain⟩
  cases chain with
  | none => simp [next, pending]
  | some chain =>
    induction chain with
    | nil => simp [next, pending]
    | cons p rest ih =>
      cases h : tryAddressFrom p with
      | some dev => simp [next, pending, h]
      | none =>
        rw [next, h]
        cases rest with
        | nil => simp [nextPtr, next, pending, h]
        | cons q rest => simpa [nextPtr, pending, h] using ih

end AddressIter

/-- From the head of an address list, the calls of `AddressIter::next` yield the addresses `try_address_from`
recognises, once each and in chain order, and `None` on every call after them. -/
theorem addressIter_calls (tryAddressFrom : α → Option InterfaceAddress) (chain : List α) (n : Nat) :
    Iterator.calls (AddressIter.next tryAddressFrom) n ⟨some chain⟩ =
      ((chain.filterMap tryAddressFrom).map some ++ List.replicate n none).take n := by
  rw [Iterator.calls_of_walks (AddressIter.walks tryAddressFrom)]
  rfl

/-! ### Devices -/

/-- Interface iterator: iterates all capture interfaces.  `cursor` is the field `next`. -/
structure InterfaceIter (α : Type) where
  cursor : Option (List α)

/-- `<InterfaceIter as Iterator>::next`: a device `try_interface_from` fails on gives `None`, after the iterator
has moved past it. -/
def InterfaceIter.next (tryInterfaceFrom : α → Except Error Interface) :
    InterfaceIter α → Option Interface × InterfaceIter α
  | ⟨none⟩ => (none, ⟨none⟩)
  | ⟨some []⟩ => (none, ⟨none⟩)
  | ⟨some (p :: rest)⟩ =>
    match tryInterfaceFrom p with
    | .ok dev => (some dev, ⟨nextPtr rest⟩)
    | .error _ => (none, ⟨nextPtr rest⟩)

/-- Keeper of the `libpcap`'s `pcap_if_t`: the device list from its head. -/
structure PcapIfT (α : Type) where
  pcapIfT : List α

namespace PcapIfT

variable (tryInterfaceFrom : α → Except Error Interface)

/-- Return iterator for iterating capture devices. -/
def iter (t : PcapIfT α) : InterfaceIter α := ⟨some t.pcapIfT⟩

/-- Get all capture devices: `self.iter().collect()`.  `collect` calls `next` at most once per device and once
more, so it is given that many calls (`collect_iter`). -/
def getInterfaces (t : PcapIfT α) : HashSet Interface :=
  HashSet.ofList ((Iterator.collect (fun it => some (InterfaceIter.next tryInterfaceFrom it))
    (t.pcapIfT.length + 1) t.iter).getD [])

/-- Find capture device with interface name `name`, scanning `get_interfaces()` in the order of its hash seed. -/
def findInterfaceWithName (hasher : Interface → Nat) (t : PcapIfT α) (name : String) : Option Interface :=
  ((t.getInterfaces tryInterfaceFrom).iter hasher).find? (·.hasName name)

/-- Find capture device which have IP address `ip`, scanning `get_interfaces()` in the order of its hash seed. -/
def findInterfaceWithIp (hasher : Interface → Nat) (t : PcapIfT α) (ip : IpAddr) : Option String :=
  (((t.getInterfaces tryInterfaceFrom).iter hasher).find? (·.hasAddress ip)).map (·.name)

end PcapIfT

namespace InterfaceIter

variable (tryInterfaceFrom : α → Except Error Interface)

/-- The results still to come: one per remaining device, `None` for a device that fails to convert. -/
def pending (it : InterfaceIter α) : List (Option Interface) :=
  (it.cursor.getD []).map fun p => (tryInterfaceFrom p).toOption

theorem walks : Iterator.Walks (next tryInterfaceFrom) (pending tryInterfaceFrom) := by
  rintro ⟨_ | _ | ⟨p, rest⟩⟩
  · simp [next, pending]
  · simp [next, pending]
  · cases h : tryInterfaceFrom p <;> simp [next, pending, h, Except.toOption]

/-- The calls of `InterfaceIter::next` visit every device in list order: the interface of each device that
converts, `None` for each that does not, then `None` forever. -/
theorem calls_iter (t : PcapIfT α) (n : Nat) :
    Iterator.calls (next tryInterfaceFrom) n t.iter =
      (t.pcapIfT.map (fun p => (tryInterfaceFrom p).toOption) ++ List.replicate n none).take n :=
  Iterator.calls_of_walks (walks tryInterfaceFrom) n t.iter

/-- `collect` ends at the first device that fails to convert, whatever comes after it; the fuel of
`get_interfaces` is enough, and so is any more. -/
theorem collect_iter (t : PcapIfT α) {fuel : Nat} (hfuel : t.pcapIfT.length < fuel) :
    Iterator.collect (fun it => some (next tryInterfaceFrom it)) fuel t.iter =
      some ((t.pcapIfT.map fun p => (tryInterfaceFrom p).toOption).takeWhile Option.isSome).reduceOption := by
  rw [Iterator.collect_of_walks (walks tryInterfaceFrom) (by simpa [pending, PcapIfT.iter] using hfuel)]
  rfl

end InterfaceIter

namespace PcapIfT

variable {tryInterfaceFrom : α → Except Error Interface}

/-- `get_interfaces()` holds the interfaces of the devices before the first device that fails to convert. -/
theorem mem_getInterfaces {t : PcapIfT α} {i : Interface} :
    i ∈ t.getInterfaces tryInterfaceFrom ↔
      some i ∈ (t.pcapIfT.map fun p => (tryInterfaceFrom p).toOption).takeWhile Option.isSome := by
  simp [getInterfaces, InterfaceIter.collect_iter tryInterfaceFrom t (Nat.lt_succ_self _),
    List.reduceOption_mem_iff]

end PcapIfT

/-- `try_interface_from` failing on the first device of a list and converting the second to `eth0`. -/
def failFirst : Nat → Except Error Interface
  | 0 => .error .invalidAddress
  | _ => .ok eth0

/-- On the list of a failing device followed by `eth0`, `get_interfaces()` is empty. -/
theorem getInterfaces_stops_at_failure :
    failFirst 1 = .ok eth0 ∧ (PcapIfT.getInterfaces failFirst ⟨[0, 1]⟩).toList = [] :=
  ⟨rfl, rfl⟩

/-! ### Lookups -/

namespace PcapIfT

variable {tryInterfaceFrom : α → Except Error Interface}

private theorem find_spec {s : HashSet Interface} {hasher : Interface → Nat} {p : Interface → Bool} :
    ((s.iter hasher).find? p).isSome = true ↔ ∃ i ∈ s, p i = true := by
  simp [List.find?_isSome]

private theorem find_none {s : HashSet Interface} {hasher : Interface → Nat} {p : Interface → Bool} :
    (s.iter hasher).find? p = none ↔ ∀ i ∈ s, p i ≠ true := by
  simp [List.find?_eq_none]

private theorem find_mem {s : HashSet Interface} {hasher : Interface → Nat} {p : Interface → Bool} {i : Interface}
    (h : (s.iter hasher).find? p = some i) : i ∈ s ∧ p i = true :=
  ⟨HashSet.mem_iter.1 (List.mem_of_find?_eq_some h), List.find?_some h⟩

/-- Whatever order its hash seed gives `get_interfaces()`, `find_interface_with_name` finds an interface iff one
has the name, and returns such an interface; `find_interface_with_ip` finds one iff some interface has an entry
whose primary address is the IP address, and returns the name of such an interface. -/
theorem find_interface_spec (hasher : Interface → Nat) (t : PcapIfT α) (name : String) (ip : IpAddr) :
    ((t.findInterfaceWithName tryInterfaceFrom hasher name).isSome ↔
      ∃ i ∈ t.getInterfaces tryInterfaceFrom, i.name = name) ∧
    (∀ i, t.findInterfaceWithName tryInterfaceFrom hasher name = some i →
      i ∈ t.getInterfaces tryInterfaceFrom ∧ i.name = name) ∧
    ((t.findInterfaceWithIp tryInterfaceFrom hasher ip).isSome ↔
      ∃ i ∈ t.getInterfaces tryInterfaceFrom, ∃ ia ∈ i.addresses, ia.addr = Address.fromIpAddr ip) ∧
    (∀ n, t.findInterfaceWithIp tryInterfaceFrom hasher ip = some n →
      ∃ i ∈ t.getInterfaces tryInterfaceFrom, i.name = n ∧
        ∃ ia ∈ i.addresses, ia.addr = Address.fromIpAddr ip) := by
  refine ⟨?_, fun i h => ?_, ?_, fun n h => ?_⟩
  · simp only [findInterfaceWithName, find_spec, Interface.hasName_iff]
  · simpa [Interface.hasName_iff] using find_mem h
  · simp only [findInterfaceWithIp, Option.isSome_map', find_spec, Interface.hasAddress_iff]
  · obtain ⟨i, hi, rfl⟩ := Option.map_eq_some'.1 h
    obtain ⟨hmem, haddr⟩ := find_mem hi
    exact ⟨i, hmem, rfl, Interface.hasAddress_iff.1 haddr⟩

/-- Every interface of `get_interfaces()` carrying the address is the one `find_interface_with_ip` returns under
some order of the set: the order that visits it first. -/
theorem exists_hasher_returning {t : PcapIfT α} {ip : IpAddr} {i : Interface}
    (hi : i ∈ t.getInterfaces tryInterfaceFrom) (haddr : i.hasAddress ip = true) :
    ∃ hasher : Interface → Nat, t.findInterfaceWithIp tryInterfaceFrom hasher ip = some i.name := by
  obtain ⟨hasher, hiter⟩ := HashSet.exists_hasher _ (List.perm_cons_erase hi).symm
  exact ⟨hasher, by simp only [findInterfaceWithIp, hiter, List.find?_cons, haddr, Option.map_some']⟩

/-- Whether `find_interface_with_ip` finds an interface does not depend on the order of `get_interfaces()`; the
name it returns does not either when the interfaces carrying the address all have the same name; and when two
interfaces carrying it have different names, each name is returned under some order. -/
theorem findInterfaceWithIp_order_independent (hasher₁ hasher₂ : Interface → Nat) (t : PcapIfT α) (ip : IpAddr) :
    (t.findInterfaceWithIp tryInterfaceFrom hasher₁ ip).isSome =
      (t.findInterfaceWithIp tryInterfaceFrom hasher₂ ip).isSome ∧
    ((∀ i ∈ t.getInterfaces tryInterfaceFrom, ∀ j ∈ t.getInterfaces tryInterfaceFrom,
        i.hasAddress ip = true → j.hasAddress ip = true → i.name = j.name) →
      t.findInterfaceWithIp tryInterfaceFrom hasher₁ ip = t.findInterfaceWithIp tryInterfaceFrom hasher₂ ip) ∧
    ∀ i ∈ t.getInterfaces tryInterfaceFrom, ∀ j ∈ t.getInterfaces tryInterfaceFrom,
      i.hasAddress ip = true → j.hasAddress ip = true → i.name ≠ j.name →
      ∃ hasher hasher' : Interface → Nat, t.findInterfaceWithIp tryInterfaceFrom hasher ip = some i.name ∧
        t.findInterfaceWithIp tryInterfaceFrom hasher' ip = some j.name := by
  refine ⟨by rw [Bool.eq_iff_iff]; simp only [findInterfaceWithIp, Option.isSome_map', find_spec],
    fun hname => ?_, fun i hi j hj hip hjp _ => ?_⟩
  · simp only [findInterfaceWithIp]
    rcases h₁ : ((t.getInterfaces tryInterfaceFrom).iter hasher₁).find? (·.hasAddress ip) with _ | i <;>
      rcases h₂ : ((t.getInterfaces tryInterfaceFrom).iter hasher₂).find? (·.hasAddress ip) with _ | j <;>
      rw [h₁, h₂]
    · exact absurd (find_mem h₂).2 (find_none.1 h₁ j (find_mem h₂).1)
    · exact absurd (find_mem h₁).2 (find_none.1 h₂ i (find_mem h₁).1)
    · simp [hname i (find_mem h₁).1 j (find_mem h₂).1 (find_mem h₁).2 (find_mem h₂).2]
  · obtain ⟨hasher, hfind⟩ := exists_hasher_returning hi hip
    obtain ⟨hasher', hfind'⟩ := exists_hasher_returning hj hjp
    exact ⟨hasher, hasher', hfind, hfind'⟩

end PcapIfT

/-- A device `wlan0` carrying the address of `eth0`. -/
def wlan0 : Interface := { eth0 with name := "wlan0" }

/-- `try_interface_from` converting a list of two devices to `eth0` and `wlan0`. -/
def sharedAddress : Nat → Except Error Interface
  | 0 => .ok eth0
  | _ => .ok wlan0

theorem find_interface_spec_eth0 :
    (eth0 ∈ PcapIfT.getInterfaces failFirst ⟨[1]⟩ ∧ eth0.name = "eth0") ∧
      ∃ i ∈ PcapIfT.getInterfaces failFirst ⟨[1]⟩, i.name = "eth0" ∧
        ∃ ia ∈ i.addresses, ia.addr = Address.fromIpAddr (.v4 ⟨⟨[10, 0, 0, 1], rfl⟩⟩) :=
  ⟨(PcapIfT.find_interface_spec (fun _ => 0) ⟨[1]⟩ "eth0" (.v4 ⟨⟨[10, 0, 0, 1], rfl⟩⟩)).2.1 eth0 rfl,
    (PcapIfT.find_interface_spec (fun _ => 0) ⟨[1]⟩ "eth0" (.v4 ⟨⟨[10, 0, 0, 1], rfl⟩⟩)).2.2.2 "eth0" rfl⟩

theorem findInterfaceWithIp_order_independent_eth0 :
    PcapIfT.findInterfaceWithIp failFirst (fun _ => 0) ⟨[1, 2]⟩ (.v4 ⟨⟨[10, 0, 0, 1], rfl⟩⟩) =
      PcapIfT.findInterfaceWithIp failFirst (·.name.length) ⟨[1, 2]⟩ (.v4 ⟨⟨[10, 0, 0, 1], rfl⟩⟩) ∧
    ∃ hasher hasher' : Interface → Nat,
      PcapIfT.findInterfaceWithIp sharedAddress hasher ⟨[0, 1]⟩ (.v4 ⟨⟨[10, 0, 0, 1], rfl⟩⟩) = some "eth0" ∧
      PcapIfT.findInterfaceWithIp sharedAddress hasher' ⟨[0, 1]⟩ (.v4 ⟨⟨[10, 0, 0, 1], rfl⟩⟩) = some "wlan0" :=
  ⟨(PcapIfT.findInterfaceWithIp_order_independent _ _ _ _).2.1 fun i hi j hj _ _ => by
      have hs : (PcapIfT.getInterfaces failFirst ⟨[1, 2]⟩).toList = [eth0] := rfl
      rw [← HashSet.mem_toList, hs, List.mem_singleton] at hi hj
      rw [hi, hj],
    (PcapIfT.findInterfaceWithIp_order_independent (fun _ => 0) (fun _ => 0) ⟨[0, 1]⟩ _).2.2 eth0
      (HashSet.mem_toList.1 (by decide)) wlan0 (HashSet.mem_toList.1 (by decide)) rfl rfl (by decide)⟩

/-- With two interfaces carrying one address, two hash seeds make `find_interface_with_ip` return different
names. -/
theorem findInterfaceWithIp_depends_on_order :
    ¬ ∀ (tryInterfaceFrom : Nat → Except Error Interface) (hasher₁ hasher₂ : Interface → Nat)
      (t : PcapIfT Nat) (ip : IpAddr),
      t.findInterfaceWithIp tryInterfaceFrom hasher₁ ip = t.findInterfaceWithIp tryInterfaceFrom hasher₂ ip := by
  intro h
  have := h sharedAddress (·.name.length) (10 - ·.name.length) ⟨[0, 1]⟩ (.v4 ⟨⟨[10, 0, 0, 1], rfl⟩⟩)
  revert this
  decide

end LuomuLibpcap
