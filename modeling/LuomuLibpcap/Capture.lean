import LuomuLibpcap.Basic

/-!
# Capturing packets

`PcapIter::next` polls `pcap_next_ex` in a loop: a packet is returned, `Error::Timeout` is polled again and any
other error ends the sequence with `None`.  The handle is the only state.  libpcap's side of it is the outcome
of each poll and the number of polls made so far (`PcapT`); the iterator holds a reference to it and nothing
of its own.

* One call consumes the timeouts up to the first other outcome and that outcome, and returns the packet if it
  is one (`PcapIter.next_eq`); a `None` comes from an error other than a timeout (`PcapIter.next_eq_none`).
* Consuming the iterator from `Pcap::capture` yields the packets before the first error that is not a timeout,
  in poll order (`capture_collect`).
* Since the iterator keeps no state, the call after a `None` polls on after the error (`next_after_none`).
-/

namespace LuomuLibpcap

/-- A network packet captured by libpcap: borrowed from libpcap's buffer, or an owned copy of it. -/
inductive Packet where
  | borrowed (buf : List UInt8)
  | owned (buf : List UInt8)
  deriving DecidableEq

namespace Packet

/-- Make `Packet` from slice -/
def fromSlice (buf : List UInt8) : Packet := borrowed buf

/-- Clone the packet -/
def toVec : Packet → List UInt8
  | borrowed packet => packet
  | owned packet => packet

/-- `ToOwned for Packet`: an owned copy of the bytes. -/
def toOwned (p : Packet) : Packet := owned p.toVec

end Packet

/-! ### The handle and `pcap_next_ex` -/

/-- Keeper of the `pcap_t`, as `pcap_next_ex` sees it: the outcome of each of its calls on the handle, and how
many calls were made. -/
structure PcapT where
  outcomes : Nat → Except Error Packet
  polls : Nat

namespace PcapT

/-- The outcome of the `j`-th poll from now. -/
def upcoming (t : PcapT) (j : Nat) : Except Error Packet := t.outcomes (t.polls + j)

/-- The handle after `n` more polls. -/
def advance (t : PcapT) (n : Nat) : PcapT := { t with polls := t.polls + n }

@[simp] theorem upcoming_advance (t : PcapT) (n j : Nat) : (t.advance n).upcoming j = t.upcoming (n + j) := by
  simp [upcoming, advance, Nat.add_assoc]

@[simp] theorem advance_advance (t : PcapT) (n m : Nat) : (t.advance n).advance m = t.advance (n + m) := by
  simp [advance, Nat.add_assoc]

end PcapT

/-- Modelled from the spec: `functions.rs` is not part of the sources.  `pcap_next_ex` reports the next packet,
a timeout, or another error (§6), each call the next outcome on the handle. -/
def pcapNextEx (t : PcapT) : Except Error Packet × PcapT := (t.upcoming 0, t.advance 1)

/-- Whether an outcome of `pcap_next_ex` is `Err(Error::Timeout)`. -/
def isTimeout : Except Error Packet → Bool
  | .error .timeout => true
  | _ => false

/-- Whether an outcome ends a capture: an error other than `Error::Timeout`. -/
def endsCapture : Except Error Packet → Bool
  | .error .timeout => false
  | .error _ => true
  | .ok _ => false

/-- An outcome ends a capture iff it is neither a timeout nor a packet. -/
theorem endsCapture_iff {o : Except Error Packet} :
    endsCapture o = true ↔ isTimeout o = false ∧ o.toOption = none := by
  rcases o with (_ | _ | _) | _ <;> simp [isTimeout, endsCapture, Except.toOption]

/-! ### `PcapIter` -/

/-- Pcap capture. -/
structure Pcap where
  pcapT : PcapT

/-- Pcap capture iterator -/
structure PcapIter where
  pcapT : PcapT

/-- Start capturing packets -/
def Pcap.capture (p : Pcap) : PcapIter := ⟨p.pcapT⟩

/-- `<PcapIter as Iterator>::next`: poll until a packet, or an error other than a timeout.  The `loop` is given
`fuel` polls; `none` if they run out. -/
def PcapIter.next : Nat → PcapIter → Option (Option Packet × PcapIter)
  | 0, _ => none
  | fuel + 1, it =>
    match pcapNextEx it.pcapT with
    | (.ok p, t) => some (some p, ⟨t⟩)
    | (.error .timeout, t) => next fuel ⟨t⟩
    | (.error _, t) => some (none, ⟨t⟩)

namespace PcapIter

/-- One turn of the loop: a timeout is polled again, any other outcome is returned. -/
theorem next_succ (fuel : Nat) (t : PcapT) :
    next (fuel + 1) ⟨t⟩ =
      if isTimeout (t.upcoming 0) then next fuel ⟨t.advance 1⟩
      else some ((t.upcoming 0).toOption, ⟨t.advance 1⟩) := by
  simp only [next, pcapNextEx]
  rcases t.upcoming 0 with (_ | _ | _) | _ <;> rfl

/-- A call returns at the first outcome that is not a timeout, `k` polls from now, once it has the fuel to get
there: it has consumed the `k` timeouts and that outcome, and returns the packet if the outcome is one. -/
theorem next_eq {t : PcapT} {k fuel : Nat} (htimeouts : ∀ j < k, isTimeout (t.upcoming j) = true)
    (hstop : isTimeout (t.upcoming k) = false) (hfuel : k < fuel) :
    next fuel ⟨t⟩ = some ((t.upcoming k).toOption, ⟨t.advance (k + 1)⟩) := by
  induction k generalizing t fuel with
  | zero =>
    obtain ⟨fuel, rfl⟩ := Nat.exists_eq_add_one.2 hfuel
    simp [next_succ, hstop]
  | succ k ih =>
    obtain ⟨fuel, rfl⟩ := Nat.exists_eq_add_one.2 (Nat.zero_lt_of_lt hfuel)
    rw [next_succ, if_pos (htimeouts 0 (Nat.succ_pos k)),
      ih (fun j hj => by simpa [Nat.add_comm] using htimeouts (j + 1) (by omega)) (by simpa [Nat.add_comm])
        (by omega)]
    simp [Nat.add_comm]

/-- A call that returns `None` stopped at an error other than a timeout, after the timeouts before it. -/
theorem next_eq_none {fuel : Nat} {t : PcapT} {it : PcapIter} (h : next fuel ⟨t⟩ = some (none, it)) :
    ∃ k, (∀ j < k, isTimeout (t.upcoming j) = true) ∧ endsCapture (t.upcoming k) = true ∧
      it = ⟨t.advance (k + 1)⟩ := by
  induction fuel generalizing t with
  | zero => simp [next] at h
  | succ fuel ih =>
    rw [next_succ] at h
    split at h
    · obtain ⟨k, hk, he, rfl⟩ := ih h
      refine ⟨k + 1, fun j hj => ?_, by simpa [Nat.add_comm] using he, by simp [Nat.add_comm]⟩
      cases j with
      | zero => assumption
      | succ j => simpa [Nat.add_comm] using hk j (by omega)
    · rename_i hto
      obtain ⟨hnone, rfl⟩ := Prod.mk.inj (Option.some.inj h)
      exact ⟨0, fun _ h => absurd h (Nat.not_lt_zero _), endsCapture_iff.2 ⟨by simpa using hto, hnone⟩, rfl⟩

/-- How many polls a call of `PcapIter::next` makes, read off the handle it leaves; all `fuel` of them when the
loop runs out. -/
def pollCount (fuel : Nat) (it : PcapIter) : Nat :=
  match next fuel it with
  | some (_, it') => it'.pcapT.polls - it.pcapT.polls
  | none => fuel

/-- A call that stops at the first outcome other than a timeout, `k` polls from now, polls `k + 1` times. -/
theorem pollCount_eq {t : PcapT} {k fuel : Nat} (htimeouts : ∀ j < k, isTimeout (t.upcoming j) = true)
    (hstop : isTimeout (t.upcoming k) = false) (hfuel : k < fuel) : pollCount fuel ⟨t⟩ = k + 1 := by
  simp [pollCount, next_eq htimeouts hstop hfuel, PcapT.advance]

end PcapIter

/-! ### Consuming a capture -/

/-- The packets among the next `n` outcomes of `pcap_next_ex`, in poll order. -/
def PcapT.packets (t : PcapT) (n : Nat) : List Packet := (List.range n).filterMap fun j => (t.upcoming j).toOption

namespace PcapT

theorem packets_add (t : PcapT) (a b : Nat) : t.packets (a + b) = t.packets a ++ (t.advance a).packets b := by
  simp [packets, List.range_add, List.filterMap_map, Function.comp_def]

theorem packets_of_timeouts {t : PcapT} {k : Nat} (h : ∀ j < k, isTimeout (t.upcoming j) = true) :
    t.packets k = [] := by
  refine List.filterMap_eq_nil_iff.2 fun j hj => toOption_eq_none.2 ?_
  have := h j (List.mem_range.1 hj)
  revert this
  rcases t.upcoming j with (_ | _ | _) | _ <;> simp [isTimeout]

theorem packets_succ (t : PcapT) (k : Nat) :
    t.packets (k + 1) = t.packets k ++ (t.upcoming k).toOption.toList := by
  cases h : (t.upcoming k).toOption <;> simp [packets, List.range_succ, h]

end PcapT

theorem exists_ok {o : Except Error Packet} (h₁ : isTimeout o = false) (h₂ : endsCapture o = false) :
    ∃ p, o = .ok p := by
  rcases o with (_ | _ | _) | p <;> simp_all [isTimeout, endsCapture]

/-- Before an outcome that is not a timeout, there is a first one. -/
theorem exists_first_stop {t : PcapT} {n : Nat} (h : isTimeout (t.upcoming n) = false) :
    ∃ k ≤ n, (∀ j < k, isTimeout (t.upcoming j) = true) ∧ isTimeout (t.upcoming k) = false := by
  classical
  have hex : ∃ k, isTimeout (t.upcoming k) = false := ⟨n, h⟩
  exact ⟨Nat.find hex, Nat.find_min' hex h, fun j hj => by simpa using Nat.find_min hex hj, Nat.find_spec hex⟩

/-- Consuming the iterator, with `f` polls a call and `g` calls, when the first outcome ending the capture is
the `n`-th from now. -/
private theorem collect_next {f : Nat} :
    ∀ {g n : Nat} {t : PcapT}, n < g → n < f → (∀ j < n, endsCapture (t.upcoming j) = false) →
      endsCapture (t.upcoming n) = true → Iterator.collect (PcapIter.next f) g ⟨t⟩ = some (t.packets n)
  | 0, _, _, hg, _, _, _ => absurd hg (Nat.not_lt_zero _)
  | g + 1, n, t, hg, hf, hbefore, hend => by
    obtain ⟨k, hkn, htimeouts, hstop⟩ := exists_first_stop (endsCapture_iff.1 hend).1
    rw [Iterator.collect, PcapIter.next_eq htimeouts hstop (by omega)]
    rcases Nat.eq_or_lt_of_le hkn with rfl | hkn
    · simp [(endsCapture_iff.1 hend).2, PcapT.packets_of_timeouts htimeouts]
    · obtain ⟨p, hp⟩ := exists_ok hstop (hbefore k hkn)
      obtain ⟨m, rfl⟩ : ∃ m, n = k + 1 + m := ⟨n - (k + 1), by omega⟩
      have hrest := collect_next (f := f) (g := g) (n := m) (t := t.advance (k + 1)) (by omega) (by omega)
        (fun j hj => by simpa using hbefore (k + 1 + j) (by omega)) (by simpa using hend)
      rw [t.packets_add, t.packets_succ, PcapT.packets_of_timeouts htimeouts]
      simp [hp, Except.toOption, hrest]

/-- Consuming the iterator from `Pcap::capture` until its first `None` yields the packets that come before the
first error other than a timeout, in poll order, once each call may poll as often as that takes. -/
theorem capture_collect {p : Pcap} {n fuel : Nat} (hbefore : ∀ j < n, endsCapture (p.pcapT.upcoming j) = false)
    (hend : endsCapture (p.pcapT.upcoming n) = true) (hfuel : n < fuel) :
    Iterator.collect (PcapIter.next fuel) fuel p.capture = some (p.pcapT.packets n) :=
  collect_next hfuel hfuel hbefore hend

/-- The capture iterator never skips, reorders or repeats a poll: consuming it yields the packets before the
first error other than a timeout, and each call consumes exactly the timeouts before the next other outcome and
that outcome, and returns the packet if the outcome is one. -/
theorem pcapIter_polls_in_order :
    (∀ (p : Pcap) (n fuel : Nat), (∀ j < n, endsCapture (p.pcapT.upcoming j) = false) →
      endsCapture (p.pcapT.upcoming n) = true → n < fuel →
      Iterator.collect (PcapIter.next fuel) fuel p.capture = some (p.pcapT.packets n)) ∧
    (∀ (t : PcapT) (k fuel : Nat), (∀ j < k, isTimeout (t.upcoming j) = true) →
      isTimeout (t.upcoming k) = false → k < fuel →
      PcapIter.next fuel ⟨t⟩ = some ((t.upcoming k).toOption, ⟨t.advance (k + 1)⟩)) :=
  ⟨fun _ _ _ => capture_collect, fun _ _ _ => PcapIter.next_eq⟩

/-- A handle whose polls report a timeout, a packet, two timeouts, then an invalid address. -/
def timeoutPacketError : PcapT where
  outcomes
    | 0 => .error .timeout
    | 1 => .ok (.borrowed [1])
    | 2 | 3 => .error .timeout
    | _ => .error .invalidAddress
  polls := 0

theorem pcapIter_polls_in_order_timeoutPacketError :
    Iterator.collect (PcapIter.next 5) 5 (Pcap.capture ⟨timeoutPacketError⟩) =
        some (timeoutPacketError.packets 4) ∧
      PcapIter.next 5 ⟨timeoutPacketError⟩ = some (some (.borrowed [1]), ⟨timeoutPacketError.advance 2⟩) :=
  ⟨pcapIter_polls_in_order.1 _ 4 5 (by decide) (by decide) (by decide),
    pcapIter_polls_in_order.2 _ 1 5 (by decide) (by decide) (by decide)⟩

/-! ### After a `None` -/

/-- A handle whose first poll reports an error and every later poll a packet. -/
def errorThenPackets : PcapT where
  outcomes
    | 0 => .error .invalidAddress
    | _ => .ok (.borrowed [1])
  polls := 0

/-- The iterator may yield a packet after it has returned `None`. -/
theorem next_after_none_not_fused :
    ¬ ∀ (fuel : Nat) (t : PcapT) (it : PcapIter), PcapIter.next fuel ⟨t⟩ = some (none, it) →
      ∀ fuel' r it', PcapIter.next fuel' it = some (r, it') → r = none := by
  intro h
  cases h 1 errorThenPackets _ rfl 1 _ _ rfl

/-- The iterator keeps no state: a `None` comes from an error other than a timeout, and the next call polls on
after that error, returning the next packet if the first outcome after the error that is not a timeout is one. -/
theorem next_after_none {fuel : Nat} {t : PcapT} {it : PcapIter} (h : PcapIter.next fuel ⟨t⟩ = some (none, it)) :
    ∃ k, (∀ j < k, isTimeout (t.upcoming j) = true) ∧ endsCapture (t.upcoming k) = true ∧
      it = ⟨t.advance (k + 1)⟩ ∧
      ∀ m fuel', (∀ j < m, isTimeout (t.upcoming (k + 1 + j)) = true) →
        isTimeout (t.upcoming (k + 1 + m)) = false → m < fuel' →
        PcapIter.next fuel' it = some ((t.upcoming (k + 1 + m)).toOption, ⟨t.advance (k + 1 + m + 1)⟩) := by
  obtain ⟨k, hk, he, rfl⟩ := PcapIter.next_eq_none h
  refine ⟨k, hk, he, rfl, fun m fuel' hm hstop hfuel => ?_⟩
  rw [PcapIter.next_eq (t := t.advance (k + 1)) (by simpa using hm) (by simpa using hstop) hfuel]
  simp [Nat.add_assoc]

theorem next_after_none_errorThenPackets :
    ∃ k, (∀ j < k, isTimeout (errorThenPackets.upcoming j) = true) ∧
      endsCapture (errorThenPackets.upcoming k) = true ∧ PcapIter.mk (errorThenPackets.advance 1) =
        ⟨errorThenPackets.advance (k + 1)⟩ ∧
      ∀ m fuel', (∀ j < m, isTimeout (errorThenPackets.upcoming (k + 1 + j)) = true) →
        isTimeout (errorThenPackets.upcoming (k + 1 + m)) = false → m < fuel' →
        PcapIter.next fuel' ⟨errorThenPackets.advance 1⟩ =
          some ((errorThenPackets.upcoming (k + 1 + m)).toOption, ⟨errorThenPackets.advance (k + 1 + m + 1)⟩) :=
  @next_after_none 1 _ _ rfl

/-! ### Every call -/

/-- What the iterator makes of the next `n` polls: each outcome that is not a timeout, in poll order, as the item
`PcapIter::next` returns for it. -/
def PcapT.results (t : PcapT) (n : Nat) : List (Option Packet) :=
  (List.range n).filterMap fun j => if isTimeout (t.upcoming j) then none else some (t.upcoming j).toOption

namespace PcapT

theorem results_add (t : PcapT) (a b : Nat) : t.results (a + b) = t.results a ++ (t.advance a).results b := by
  simp [results, List.range_add, List.filterMap_map, Function.comp_def]

theorem results_of_timeouts {t : PcapT} {k : Nat} (h : ∀ j < k, isTimeout (t.upcoming j) = true) :
    t.results k = [] :=
  List.filterMap_eq_nil_iff.2 fun j hj => by simp [h j (List.mem_range.1 hj)]

/-- The items from now start with the first outcome that is not a timeout. -/
theorem results_eq_cons {t : PcapT} {k N : Nat} (htimeouts : ∀ j < k, isTimeout (t.upcoming j) = true)
    (hstop : isTimeout (t.upcoming k) = false) (hk : k < N) :
    t.results N = (t.upcoming k).toOption :: (t.advance (k + 1)).results (N - (k + 1)) := by
  obtain ⟨m, rfl⟩ : ∃ m, N = k + 1 + m := ⟨N - (k + 1), by omega⟩
  rw [t.results_add, t.results_add, results_of_timeouts htimeouts]
  simp [results, show List.range 1 = [0] from rfl, hstop]

end PcapT

/-- A call of `PcapIter::next` allowed `fuel` polls returns iff one of the next `fuel` outcomes of `pcap_next_ex`
is not a timeout: timeouts alone never end a call, so a handle that keeps timing out keeps it polling. -/
theorem next_isSome_iff (t : PcapT) (fuel : Nat) :
    (PcapIter.next fuel ⟨t⟩).isSome ↔ ∃ j < fuel, isTimeout (t.upcoming j) = false := by
  constructor
  · induction fuel generalizing t with
    | zero => simp [PcapIter.next]
    | succ fuel ih =>
      rw [PcapIter.next_succ]
      split
      · intro h
        obtain ⟨j, hj, hto⟩ := ih _ h
        exact ⟨j + 1, by omega, by simpa [Nat.add_comm] using hto⟩
      · rename_i hstop
        exact fun _ => ⟨0, by omega, by simpa using hstop⟩
  · rintro ⟨j, hj, hto⟩
    obtain ⟨k, hkj, htimeouts, hstop⟩ := exists_first_stop hto
    simp [PcapIter.next_eq htimeouts hstop (show k < fuel by omega)]

/-- Successive calls of `PcapIter::next` return the outcomes of `pcap_next_ex` that are not timeouts, one per
call and in poll order, a packet as `Some` and any other error as `None`, and poll on after a `None`: `n` calls,
each allowed `fuel` polls, return the first `n` items of the first `N` polls when there are that many and
`N ≤ fuel`. -/
theorem calls_results {t : PcapT} {n N fuel : Nat} (hN : N ≤ fuel) (hn : n ≤ (t.results N).length) :
    Iterator.callsPartial (PcapIter.next fuel) n ⟨t⟩ = some ((t.results N).take n) := by
  induction n generalizing t N with
  | zero => rfl
  | succ n ih =>
    obtain ⟨j, hj, hto⟩ : ∃ j < N, isTimeout (t.upcoming j) = false := by
      by_contra h
      push_neg at h
      rw [PcapT.results_of_timeouts fun j hj => by simpa using h j hj] at hn
      simp at hn
    obtain ⟨k, hkj, htimeouts, hstop⟩ := exists_first_stop hto
    rw [PcapT.results_eq_cons htimeouts hstop (show k < N by omega)] at hn ⊢
    simp only [Iterator.callsPartial, PcapIter.next_eq htimeouts hstop (show k < fuel by omega),
      Option.some_bind]
    rw [ih (show N - (k + 1) ≤ fuel by omega) (by simpa using hn)]
    rfl

theorem calls_results_timeoutPacketError :
    Iterator.callsPartial (PcapIter.next 5) 2 ⟨timeoutPacketError⟩ =
      some ((timeoutPacketError.results 5).take 2) :=
  calls_results le_rfl (by decide)

end LuomuLibpcap
