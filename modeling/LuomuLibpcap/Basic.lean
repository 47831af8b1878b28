import Mathlib.Data.List.Sort
import Mathlib.Data.List.Lex
import Mathlib.Data.List.Dedup
import Mathlib.Data.List.ReduceOption

/-!
# Errors, bytes and the standard collections

The pieces of the Rust world the bindings are written against: the crate's `Error`, the byte order that the
derived `Ord` of the address types rests on, fixed-size byte arrays, and the two sets of `std::collections`
the crate returns, and the iterator protocol.  A `BTreeSet` is its elements in increasing order, the order its
iterator yields them in; a `HashSet` is its elements without repetition, visited by a `for` loop in an order
fixed by the set's random hash seed (`HashSet.iter`).  An iterator is its `next`, a function from its state to
the item and the new state; `calls` runs it `n` times and `collect` until the first `None`.  An iterator that
walks a list of results (`Walks`) yields the list and then `None` forever (`calls_of_walks`), and `collect`
stops at its first `None` (`collect_of_walks`); `callsPartial` runs a `next` that may not return `n` times.
-/

namespace LuomuLibpcap

/-- Modelled from the spec: `error.rs` is not part of the sources.  The kinds the spec names (§4.6): an address
of the wrong kind, the transient timeout of `pcap_next_ex`, and a failure reported by libpcap, with the name of
the failing call and libpcap's text. -/
inductive Error where
  | invalidAddress
  | timeout
  | pcapError (function message : String)
  deriving DecidableEq, Repr

section Result

variable {ε α : Type} {e : Except ε α}

/-- `Result::ok` is `Some` exactly on `Ok`. -/
@[simp] theorem toOption_eq_some {a : α} : e.toOption = some a ↔ e = .ok a := by
  cases e <;> simp [Except.toOption]

theorem toOption_eq_none : e.toOption = none ↔ ∃ x, e = .error x := by
  cases e <;> simp [Except.toOption]

end Result

/-! ### Bytes -/

/-- `u8` ordered as a number, the order of core's `≤` on `UInt8`. -/
instance uint8LinearOrder : LinearOrder UInt8 where
  le_refl := UInt8.le_refl
  le_trans _ _ _ := UInt8.le_trans
  le_antisymm _ _ h₁ h₂ := UInt8.eq_of_toBitVec_eq (BitVec.le_antisymm h₁ h₂)
  le_total := UInt8.le_total
  lt_iff_le_not_le a b := ⟨fun h => ⟨(UInt8.le_total a b).resolve_right (UInt8.not_le.2 h), UInt8.not_le.2 h⟩,
    fun h => UInt8.not_le.1 h.2⟩
  decidableLE := inferInstance

/-- A byte array `[u8; n]`.  Rust compares arrays lexicographically. -/
structure Octets (n : Nat) where
  toList : List UInt8
  length_toList : toList.length = n
  deriving DecidableEq

theorem Octets.toList_injective {n : Nat} : Function.Injective (Octets.toList (n := n)) := by
  rintro ⟨a, _⟩ ⟨b, _⟩ rfl
  rfl

instance {n : Nat} : LinearOrder (Octets n) := LinearOrder.lift' Octets.toList Octets.toList_injective

/-! ### `BTreeSet` -/

/-- `std::collections::BTreeSet`: its elements in strictly increasing order. -/
structure BTreeSet (α : Type) [LinearOrder α] where
  toList : List α
  sorted : toList.Sorted (· < ·)
  deriving DecidableEq

namespace BTreeSet

variable {α : Type} [LinearOrder α]

instance : Membership α (BTreeSet α) := ⟨fun s a => a ∈ s.toList⟩

instance (a : α) (s : BTreeSet α) : Decidable (a ∈ s) := inferInstanceAs (Decidable (a ∈ s.toList))

@[simp] theorem mem_toList {a : α} {s : BTreeSet α} : a ∈ s.toList ↔ a ∈ s := Iff.rfl

/-- `collect::<BTreeSet<_>>()`: the elements of `l`, sorted, each once. -/
def ofList (l : List α) : BTreeSet α :=
  ⟨(l.dedup).insertionSort (· ≤ ·),
    ((List.sorted_insertionSort _ _).lt_of_le ((List.perm_insertionSort _ _).nodup_iff.2 (List.nodup_dedup l)))⟩

@[simp] theorem mem_ofList {a : α} {l : List α} : a ∈ ofList l ↔ a ∈ l :=
  (List.perm_insertionSort _ _).mem_iff.trans List.mem_dedup

/-- Two sets with the same elements are equal: the increasing order of the elements is unique. -/
theorem ext {s t : BTreeSet α} (h : ∀ a, a ∈ s ↔ a ∈ t) : s = t := by
  obtain ⟨l, hl⟩ := s
  obtain ⟨m, hm⟩ := t
  have hp : l.Perm m := (List.perm_ext_iff_of_nodup hl.nodup hm.nodup).2 h
  cases List.eq_of_perm_of_sorted hp hl.le_of_lt hm.le_of_lt
  rfl

end BTreeSet

/-! ### `HashSet` -/

/-- `std::collections::HashSet`: its elements, each once. -/
structure HashSet (α : Type) where
  toList : List α
  nodup : toList.Nodup

namespace HashSet

variable {α : Type}

instance : Membership α (HashSet α) := ⟨fun s a => a ∈ s.toList⟩

@[simp] theorem mem_toList {a : α} {s : HashSet α} : a ∈ s.toList ↔ a ∈ s := Iff.rfl

/-- `collect::<HashSet<_>>()`: the elements of `l`, each once. -/
def ofList [DecidableEq α] (l : List α) : HashSet α := ⟨l.dedup, List.nodup_dedup l⟩

@[simp] theorem mem_ofList [DecidableEq α] {a : α} {l : List α} : a ∈ ofList l ↔ a ∈ l := List.mem_dedup

/-- `HashSet::get(value).is_some()`. -/
def contains [DecidableEq α] (s : HashSet α) (a : α) : Bool := decide (a ∈ s.toList)

@[simp] theorem contains_iff [DecidableEq α] {s : HashSet α} {a : α} : s.contains a = true ↔ a ∈ s := by
  simp [contains]

/-- The order in which `for x in s` visits the elements.  It comes from the set's random hash seed, modelled by
`hasher`: the elements by increasing hash.  Every order of the elements is the order of some `hasher`. -/
def iter (hasher : α → Nat) (s : HashSet α) : List α := s.toList.insertionSort (hasher · ≤ hasher ·)

@[simp] theorem mem_iter {hasher : α → Nat} {s : HashSet α} {a : α} : a ∈ s.iter hasher ↔ a ∈ s :=
  (List.perm_insertionSort _ _).mem_iff

private theorem eq_of_map_eq {β : Type} {f : α → β} :
    ∀ {l₁ l₂ : List α}, (∀ a ∈ l₁, ∀ b ∈ l₂, f a = f b → a = b) → l₁.map f = l₂.map f → l₁ = l₂
  | [], [], _, _ => rfl
  | a :: l₁, b :: l₂, hinj, h => by
    simp only [List.map_cons, List.cons.injEq] at h
    rw [hinj a (by simp) b (by simp) h.1,
      eq_of_map_eq (fun x hx y hy => hinj x (by simp [hx]) y (by simp [hy])) h.2]
  | [], _ :: _, _, h | _ :: _, [], _, h => by simp at h

/-- Every order of the elements is the order of some `hasher`: the position in that order. -/
theorem exists_hasher [DecidableEq α] (s : HashSet α) {l : List α} (hl : l.Perm s.toList) :
    ∃ hasher : α → Nat, s.iter hasher = l := by
  refine ⟨l.indexOf, ?_⟩
  have hnd : l.Nodup := hl.nodup_iff.2 s.nodup
  have : IsTotal α (l.indexOf · ≤ l.indexOf ·) := ⟨fun _ _ => le_total _ _⟩
  have : IsTrans α (l.indexOf · ≤ l.indexOf ·) := ⟨fun _ _ _ => le_trans⟩
  have hsorted : l.Sorted (l.indexOf · ≤ l.indexOf ·) := List.pairwise_iff_getElem.2 fun i j hi hj hij => by
    rw [List.indexOf_getElem hnd, List.indexOf_getElem hnd]
    exact hij.le
  have hp : (s.iter l.indexOf).Perm l := (List.perm_insertionSort _ _).trans hl.symm
  refine eq_of_map_eq (fun a ha b hb h => (List.indexOf_inj (hp.subset ha) hb).1 h) ?_
  exact List.eq_of_perm_of_sorted (hp.map _) (List.pairwise_map.2 (List.sorted_insertionSort _ _))
    (List.pairwise_map.2 hsorted)

end HashSet

/-! ### Iterators -/

namespace Iterator

variable {σ β : Type}

/-- The items of `n` successive calls of `next` on an iterator in state `s`. -/
def calls (next : σ → Option β × σ) : Nat → σ → List (Option β)
  | 0, _ => []
  | n + 1, s => (next s).1 :: calls next n (next s).2

/-- `Iterator::collect`: call `next` until it returns `None`.  A call may not return (`none`, a loop out of
fuel), and at most `fuel` calls are made; `none` if they do not reach the end. -/
def collect (next : σ → Option (Option β × σ)) : Nat → σ → Option (List β)
  | 0, _ => none
  | fuel + 1, s =>
    match next s with
    | none => none
    | some (none, _) => some []
    | some (some b, s') => (collect next fuel s').map (b :: ·)

/-- The items of `n` successive calls of a `next` that may not return (`none`, a loop out of fuel); `none` if one
of the calls does not. -/
def callsPartial (next : σ → Option (Option β × σ)) : Nat → σ → Option (List (Option β))
  | 0, _ => some []
  | n + 1, s => (next s).bind fun r => (callsPartial next n r.2).map (r.1 :: ·)

/-- `next` walks the list `r s` of the results still to come: a call returns its head, `None` once it is empty,
and leaves its tail. -/
def Walks (next : σ → Option β × σ) (r : σ → List (Option β)) : Prop :=
  ∀ s, (next s).1 = (r s).head?.join ∧ r (next s).2 = (r s).tail

variable {next : σ → Option β × σ} {r : σ → List (Option β)}

/-- An iterator walking a list yields the list, then `None` on every later call. -/
theorem calls_of_walks (h : Walks next r) (n : Nat) (s : σ) :
    calls next n s = (r s ++ List.replicate n none).take n := by
  induction n generalizing s with
  | zero => rfl
  | succ n ih =>
    rw [calls, ih, (h s).2, (h s).1]
    cases r s with
    | nil => simp [List.replicate_succ]
    | cons x t =>
      simp only [List.head?_cons, Option.join, List.tail_cons, List.cons_append, List.take_succ_cons,
        List.take_append_eq_append_take, List.take_replicate]
      congr 3
      omega

/-- `collect` on an iterator walking a list: the items before the first `None`, once the fuel exceeds the
list's length. -/
theorem collect_of_walks (h : Walks next r) {fuel : Nat} {s : σ} (hfuel : (r s).length < fuel) :
    collect (fun s => some (next s)) fuel s = some ((r s).takeWhile Option.isSome).reduceOption := by
  induction fuel generalizing s with
  | zero => omega
  | succ fuel ih =>
    obtain ⟨h1, h2⟩ := h s
    rcases hn : next s with ⟨o, s'⟩
    rw [hn] at h1 h2
    simp only [collect]
    cases hs : r s with
    | nil => simp_all
    | cons x t =>
      cases x with
      | none => simp_all
      | some b =>
        simp only [hs, List.head?_cons, List.tail_cons, List.length_cons] at h1 h2 hfuel
        have := ih (s := s') (by rw [h2]; omega)
        rw [h2] at this
        simp [hn, h1, this, Option.join]

end Iterator

end LuomuLibpcap
