import LuomuLibpcap.Capture

/-!
# The handle lifecycle

`PcapT`, `PcapFilter` and `PcapIfT` each own one libpcap resource and release it in their `Drop` impl, with
`pcap_close`, `pcap_freecode` and `pcap_freealldevs`.  A builder setter or `activate` that fails returns early
with `?`, and the builder it took by value is dropped there; `set_filter` drops the program it compiled when it
returns, whether `pcap_setfilter` succeeded or not.  A call of `PcapIter::next` makes the polls of the capture
model's loop, `PcapIter.pollCount` of them, each one `pcap_next_ex` (`next_log`).

The crate's calls into libpcap are recorded in order with their outcome and read by a `Monitor`, an automaton
over the calls for which `none` is a fault.  `Keeps m op s post` says that `op` moves the monitor from `s` to
`post` of its result; the lemmas of the programs hold for every monitor that their calls move the right way
(`keeps_session`), and three monitors are read:

* `held`, what the crate holds in libpcap: a call needs an open handle, a release needs the resource, and a fault
  is a use after close, a double release or a second open.  Every capture session and every device listing runs
  without a fault and ends holding nothing, whatever it configures, whatever it does with the session, and
  whatever libpcap answers (`releases_once`).
* `phase`, where the handle is in its life: the option setters need a handle not yet activated, the capture-side
  calls an activated one.  The builder path keeps that order; `Pcap::new` hands out a `Pcap` never activated, and
  polling it right away polls before activation (`activation_order`).
* `filterScope`, whether a compiled filter program is alive: `set_filter` frees its program before any other call
  into libpcap (`filter_scoped`).
-/

namespace LuomuLibpcap.Lifecycle

/-- A call of the crate into libpcap, with its arguments. -/
inductive Call where
  | create (source : String)
  | setBufferSize (bufferSize : Nat)
  | setPromisc (promiscuous : Bool)
  | setImmediateMode (immediate : Bool)
  | setSnaplen (snaplen : Nat)
  | activate
  | compile (filter : String)
  | setfilter
  | nextEx
  | inject (buf : List UInt8)
  | stats
  | freecode
  | close
  | findalldevs
  | freealldevs

/-- The name of the libpcap function a call goes to. -/
def Call.function : Call → String
  | create _ => "pcap_create"
  | setBufferSize _ => "pcap_set_buffer_size"
  | setPromisc _ => "pcap_set_promisc"
  | setImmediateMode _ => "pcap_set_immediate_mode"
  | setSnaplen _ => "pcap_set_snaplen"
  | activate => "pcap_activate"
  | compile _ => "pcap_compile"
  | setfilter => "pcap_setfilter"
  | nextEx => "pcap_next_ex"
  | inject _ => "pcap_inject"
  | stats => "pcap_stats"
  | freecode => "pcap_freecode"
  | close => "pcap_close"
  | findalldevs => "pcap_findalldevs"
  | freealldevs => "pcap_freealldevs"

/-- libpcap behind the crate: its answer to each call in call order, `none` for success or its error text, and
the calls made so far with whether they succeeded. -/
structure Libpcap where
  answers : Nat → Option String
  log : List (Call × Bool)

/-- Code that calls into libpcap. -/
abbrev Native := StateM Libpcap

/-- Modelled from the spec: `functions.rs` is not part of the sources.  Its wrappers call libpcap once and turn a
failure into `Error::PcapError` with the name of the function and libpcap's text (§4.6). -/
def pcapCall (c : Call) : Native (Except Error Unit) := fun w =>
  match w.answers w.log.length with
  | none => (.ok (), { w with log := w.log ++ [(c, true)] })
  | some text => (.error (.pcapError c.function text), { w with log := w.log ++ [(c, false)] })

/-- The release call of a `Drop` impl, which cannot fail. -/
def release (c : Call) : Native Unit := fun w => ((), { w with log := w.log ++ [(c, true)] })

/-! ### The owning types -/

/-- Keeper of the `libpcap`'s `pcap_t`: it owns the handle. -/
structure PcapT where

/-- `Drop for PcapT`: close the handle. -/
def PcapT.drop (_ : PcapT) : Native Unit := release .close

/-- Pcap capture -/
structure Pcap where
  pcapT : PcapT

/-- Builder for a `Pcap`. -/
structure PcapBuilder where
  pcapT : PcapT

/-- A BPF filter program for Pcap: it owns the compiled program. -/
structure PcapFilter where

/-- `Drop for PcapFilter`: free the program. -/
def PcapFilter.drop (_ : PcapFilter) : Native Unit := release .freecode

/-- Keeper of the `libpcap`'s `pcap_if_t`: it owns the device list. -/
structure PcapIfT where

/-- `Drop for PcapIfT`: free the device list. -/
def PcapIfT.drop (_ : PcapIfT) : Native Unit := release .freealldevs

/-- get a list of capture devices -/
def PcapIfT.new : Native (Except Error PcapIfT) := do
  let r ← pcapCall .findalldevs
  pure (r.map fun () => ⟨⟩)

/-- Create a live capture handle -/
def Pcap.new (source : String) : Native (Except Error Pcap) := do
  let r ← pcapCall (.create source)
  pure (r.map fun () => ⟨⟨⟩⟩)

/-- Use builder to create a live capture handle -/
def Pcap.builder (source : String) : Native (Except Error PcapBuilder) := do
  let r ← pcapCall (.create source)
  pure (r.map fun () => ⟨⟨⟩⟩)

namespace PcapBuilder

/-- The body of the setters: `pcap_set_*(&self.pcap_t, value)?; Ok(self)`.  On an error, `self` is dropped. -/
def set (b : PcapBuilder) (c : Call) : Native (Except Error PcapBuilder) := do
  match ← pcapCall c with
  | .ok () => pure (.ok b)
  | .error e => do b.pcapT.drop; pure (.error e)

/-- set the buffer size for a capture -/
def setBufferSize (b : PcapBuilder) (bufferSize : Nat) : Native (Except Error PcapBuilder) :=
  b.set (.setBufferSize bufferSize)

/-- set promiscuous mode for a capture -/
def setPromiscuous (b : PcapBuilder) (promiscuous : Bool) : Native (Except Error PcapBuilder) :=
  b.set (.setPromisc promiscuous)

/-- set immediate mode for a capture -/
def setImmediate (b : PcapBuilder) (immediate : Bool) : Native (Except Error PcapBuilder) :=
  b.set (.setImmediateMode immediate)

/-- set the snapshot length for a capture -/
def setSnaplen (b : PcapBuilder) (snaplen : Nat) : Native (Except Error PcapBuilder) :=
  b.set (.setSnaplen snaplen)

/-- activate a capture: `pcap_activate(&self.pcap_t)?` moves the handle into a `Pcap`; on an error, `self` is
dropped. -/
def activate (b : PcapBuilder) : Native (Except Error Pcap) := do
  match ← pcapCall .activate with
  | .ok () => pure (.ok ⟨b.pcapT⟩)
  | .error e => do b.pcapT.drop; pure (.error e)

end PcapBuilder

/-- compile a filter expression -/
def PcapFilter.compile (_ : PcapT) (filterStr : String) : Native (Except Error PcapFilter) := do
  let r ← pcapCall (.compile filterStr)
  pure (r.map fun () => ⟨⟩)

namespace Pcap

/-- set a filter expression: the compiled program is dropped when `set_filter` returns. -/
def setFilter (p : Pcap) (filter : String) : Native (Except Error Unit) := do
  match ← PcapFilter.compile p.pcapT filter with
  | .error e => pure (.error e)
  | .ok bpfProgram => do
    let r ← pcapCall .setfilter
    bpfProgram.drop
    pure r

/-- Transmit a packet -/
def inject (_ : Pcap) (buf : List UInt8) : Native (Except Error Unit) := pcapCall (.inject buf)

/-- activate a capture -/
def activate (_ : Pcap) : Native (Except Error Unit) := pcapCall .activate

/-- get capture statistics -/
def stats (_ : Pcap) : Native (Except Error Unit) := pcapCall .stats

/-- One poll of the capture iterator, a turn of the loop of `PcapIter::next`. -/
def poll (_ : Pcap) : Native (Except Error Unit) := pcapCall .nextEx

/-- `n` turns of the capture loop. -/
def pollTimes (p : Pcap) : Nat → Native Unit
  | 0 => pure ()
  | n + 1 => do let _ ← p.poll; p.pollTimes n

/-- Dropping a `Pcap` drops its `PcapT`. -/
def drop (p : Pcap) : Native Unit := p.pcapT.drop

end Pcap

/-! ### Programs -/

/-- A builder setter a program applies. -/
inductive Setter where
  | bufferSize (bufferSize : Nat)
  | promiscuous (promiscuous : Bool)
  | immediate (immediate : Bool)
  | snaplen (snaplen : Nat)

/-- Apply a setter to a builder. -/
def Setter.apply (b : PcapBuilder) : Setter → Native (Except Error PcapBuilder)
  | .bufferSize n => b.setBufferSize n
  | .promiscuous v => b.setPromiscuous v
  | .immediate v => b.setImmediate v
  | .snaplen n => b.setSnaplen n

/-- A method a program calls on a `Pcap`; the program goes on whatever it returns. -/
inductive Use where
  | setFilter (filter : String)
  | inject (buf : List UInt8)
  | activate
  | stats
  | poll
  | next (fuel : Nat) (t : LuomuLibpcap.PcapT)

/-- Call a method on a `Pcap`.  `next fuel t` is one call of `PcapIter::next` on `p.capture()` while
`pcap_next_ex` reports the outcomes of `t`: the polls the capture iterator's `next` makes
(`PcapIter.pollCount`). -/
def Use.run (p : Pcap) : Use → Native Unit
  | .setFilter filter => do let _ ← p.setFilter filter
  | .inject buf => do let _ ← p.inject buf
  | .activate => do let _ ← p.activate
  | .stats => do let _ ← p.stats
  | .poll => do let _ ← p.poll
  | .next fuel t => p.pollTimes (LuomuLibpcap.PcapIter.pollCount fuel ⟨t⟩)

/-- The setters chained with `?`: the first error ends the chain. -/
def configure (b : PcapBuilder) : List Setter → Native (Except Error PcapBuilder)
  | [] => pure (.ok b)
  | s :: ss => do
    match ← s.apply b with
    | .ok b => configure b ss
    | .error e => pure (.error e)

/-- The uses, one after another. -/
def useAll (p : Pcap) : List Use → Native Unit
  | [] => pure ()
  | u :: us => do u.run p; useAll p us

/-- A program capturing with a built handle: `Pcap::builder(source)?`, the setters, `activate()?`, the uses, and
the `Pcap` dropped at the end of its scope. -/
def session (source : String) (setters : List Setter) (uses : List Use) : Native Unit := do
  match ← Pcap.builder source with
  | .error _ => pure ()
  | .ok b =>
    match ← configure b setters with
    | .error _ => pure ()
    | .ok b =>
      match ← b.activate with
      | .error _ => pure ()
      | .ok p => do useAll p uses; p.drop

/-- A program capturing with `Pcap::new(source)?`, then the uses and the drop. -/
def directSession (source : String) (uses : List Use) : Native Unit := do
  match ← Pcap.new source with
  | .error _ => pure ()
  | .ok p => do useAll p uses; p.drop

/-- A program listing the devices: `PcapIfT::new()?`, then the list dropped. -/
def listInterfaces : Native Unit := do
  match ← PcapIfT.new with
  | .error _ => pure ()
  | .ok l => l.drop

/-! ### A call of the capture iterator -/

theorem poll_log (p : Pcap) (w : Libpcap) : ∃ ok, (p.poll w).2.log = w.log ++ [(Call.nextEx, ok)] := by
  simp only [Pcap.poll, pcapCall]
  split <;> exact ⟨_, rfl⟩

theorem pollTimes_log (p : Pcap) (n : Nat) (w : Libpcap) :
    ∃ oks : List Bool, oks.length = n ∧ (p.pollTimes n w).2.log = w.log ++ oks.map (Call.nextEx, ·) := by
  induction n generalizing w with
  | zero => exact ⟨[], rfl, by simp [Pcap.pollTimes, pure, StateT.pure]⟩
  | succ n ih =>
    obtain ⟨ok, hok⟩ := poll_log p w
    obtain ⟨oks, hlen, hlog⟩ := ih (p.poll w).2
    have hstep : p.pollTimes (n + 1) w = p.pollTimes n (p.poll w).2 := rfl
    exact ⟨ok :: oks, by simp [hlen], by simp [hstep, hlog, hok]⟩

/-- A call of `PcapIter::next` in a program makes the polls of the capture iterator's loop, each one call of
`pcap_next_ex`: `k + 1` of them when the first outcome other than a timeout is `k` polls away. -/
theorem next_log (p : Pcap) {t : LuomuLibpcap.PcapT} {k fuel : Nat}
    (htimeouts : ∀ j < k, isTimeout (t.upcoming j) = true) (hstop : isTimeout (t.upcoming k) = false)
    (hfuel : k < fuel) (w : Libpcap) :
    ∃ oks : List Bool, oks.length = k + 1 ∧
      ((Use.next fuel t).run p w).2.log = w.log ++ oks.map (Call.nextEx, ·) := by
  rw [Use.run, LuomuLibpcap.PcapIter.pollCount_eq htimeouts hstop hfuel]
  exact pollTimes_log p (k + 1) w

/-! ### Monitors -/

/-- An automaton reading the crate's calls into libpcap in order: from `start`, each call with its outcome moves
it on, and `none` is a fault. -/
structure Monitor (σ : Type) where
  start : σ
  step : σ → Call × Bool → Option σ

/-- The state of `m` after the calls of `log`; `none` if one of them faults. -/
def Monitor.run {σ : Type} (m : Monitor σ) (log : List (Call × Bool)) : Option σ := log.foldlM m.step m.start

theorem Monitor.run_append {σ : Type} (m : Monitor σ) (log : List (Call × Bool)) (e : Call × Bool) :
    m.run (log ++ [e]) = (m.run log).bind (m.step · e) := by
  simp [Monitor.run, List.foldlM_append]

/-- `op`, run on libpcap whose calls so far leave `m` in `s`, leaves it in `post a` for its result `a`. -/
def Keeps {σ α : Type} (m : Monitor σ) (op : Native α) (s : σ) (post : α → σ) : Prop :=
  ∀ w, m.run w.log = some s → m.run (op w).2.log = some (post (op w).1)

/-- `a` after a success, `b` after an error. -/
def ifOk {σ α : Type} (r : Except Error α) (a b : σ) : σ :=
  match r with
  | .ok _ => a
  | .error _ => b

section Keeps

variable {σ α β : Type} {m : Monitor σ} {s : σ}

theorem Keeps.pure {a : α} {post : α → σ} (h : post a = s) : Keeps m (Pure.pure a) s post :=
  fun _ hw => h ▸ hw

theorem Keeps.bind {x : Native α} {f : α → Native β} {mid : α → σ} {post : β → σ}
    (hx : Keeps m x s mid) (hf : ∀ a, Keeps m (f a) (mid a) post) : Keeps m (x >>= f) s post :=
  fun w hw => hf _ _ (hx w hw)

theorem keeps_pcapCall {c : Call} {post : Except Error Unit → σ}
    (hok : m.step s (c, true) = some (post (.ok ())))
    (herr : ∀ e, m.step s (c, false) = some (post (.error e))) : Keeps m (pcapCall c) s post := by
  intro w hw
  simp only [pcapCall]
  split
  · simp [Monitor.run_append, hw, hok]
  · simpa [Monitor.run_append, hw] using herr _

theorem keeps_release {c : Call} {s' : σ} (hc : m.step s (c, true) = some s') :
    Keeps m (release c) s fun _ => s' := by
  intro w hw
  simp [release, Monitor.run_append, hw, hc]

/-- A call that leaves `m` where it is, whatever libpcap answers. -/
theorem keeps_call {c : Call} (hc : ∀ ok, m.step s (c, ok) = some s) : Keeps m (pcapCall c) s fun _ => s :=
  keeps_pcapCall (hc true) fun _ => hc false

end Keeps

/-! ### The shapes of the crate's code -/

section Shapes

variable {σ β : Type} {m : Monitor σ} {s a b z : σ} {x : Native (Except Error Unit)}

/-- `let r ← x; Ok(..)` on success: where the monitor ends depends on the outcome only. -/
theorem keeps_map_ok {g : Unit → β} (hx : Keeps m x s (ifOk · a b)) :
    Keeps m (do let r ← x; pure (r.map g)) s (ifOk · a b) :=
  hx.bind fun r => by cases r <;> exact Keeps.pure rfl

/-- `x?; Ok(v)` in a method taking `self` by value: on an error `self` is dropped. -/
theorem keeps_ok_or_drop (t : PcapT) (v : β) (hx : Keeps m x s (ifOk · a b))
    (hdrop : Keeps m t.drop b fun _ => z) :
    Keeps m (do
      match ← x with
      | .ok () => pure (.ok v)
      | .error e => do t.drop; pure (.error e)) s (ifOk · a z) :=
  hx.bind fun r => by
    cases r with
    | ok => exact Keeps.pure rfl
    | error => exact hdrop.bind fun _ => Keeps.pure rfl

/-- `let v = y?;` in a program, then the rest `k`: an error ends the program. -/
theorem Keeps.onOk {y : Native (Except Error β)} {k : Except Error β → Native Unit}
    (hy : Keeps m y s (ifOk · a z)) (herr : ∀ e, k (.error e) = Pure.pure ())
    (hok : ∀ v, Keeps m (k (.ok v)) a fun _ => z) :
    Keeps m (y >>= k) s fun _ => z :=
  hy.bind fun r => by
    cases r with
    | error e => rw [herr]; exact Keeps.pure rfl
    | ok v => exact hok v

/-- A setter keeps the builder's handle where it is, or drops the builder on an error. -/
theorem keeps_set (bl : PcapBuilder) {c : Call} (hc : ∀ ok, m.step s (c, ok) = some s)
    (hdrop : Keeps m bl.pcapT.drop s fun _ => z) : Keeps m (bl.set c) s (ifOk · s z) :=
  keeps_ok_or_drop bl.pcapT bl (keeps_pcapCall (hc true) fun _ => hc false) hdrop

/-- `set_filter` frees the program it compiled, whatever `pcap_setfilter` answers. -/
theorem keeps_setFilter (p : Pcap) (filter : String) {compiled : σ}
    (hok : m.step s (.compile filter, true) = some compiled) (herr : m.step s (.compile filter, false) = some s)
    (hset : ∀ ok, m.step compiled (.setfilter, ok) = some compiled)
    (hfree : m.step compiled (.freecode, true) = some s) :
    Keeps m (p.setFilter filter) s fun _ => s := by
  refine (keeps_map_ok (b := s) (keeps_pcapCall hok fun _ => herr)).bind fun r => ?_
  cases r with
  | error => exact Keeps.pure rfl
  | ok bpf => exact (keeps_call hset).bind fun _ => (keeps_release hfree).bind fun _ => Keeps.pure rfl

/-- The turns of the capture loop leave `m` where it is when each `pcap_next_ex` does. -/
theorem keeps_pollTimes (p : Pcap) (hpoll : ∀ ok, m.step s (.nextEx, ok) = some s) (n : Nat) :
    Keeps m (p.pollTimes n) s fun _ => s := by
  induction n with
  | zero => exact Keeps.pure rfl
  | succ n ih => exact (keeps_call hpoll).bind fun _ => ih

/-- The setters chained with `?`, when every setter keeps `s` or drops the builder. -/
theorem keeps_configure (hset : ∀ bl (st : Setter), Keeps m (st.apply bl) s (ifOk · s z)) (bl : PcapBuilder)
    (setters : List Setter) : Keeps m (configure bl setters) s (ifOk · s z) := by
  induction setters generalizing bl with
  | nil => exact Keeps.pure rfl
  | cons st sts ih =>
    refine (hset bl st).bind fun r => ?_
    cases r with
    | ok bl => exact ih bl
    | error => exact Keeps.pure rfl

theorem keeps_useAll (p : Pcap) (huse : ∀ u : Use, Keeps m (u.run p) s fun _ => s) (uses : List Use) :
    Keeps m (useAll p uses) s fun _ => s := by
  induction uses with
  | nil => exact Keeps.pure rfl
  | cons u us ih => exact (huse u).bind fun _ => ih

end Shapes

/-! ### The programs, for any monitor -/

section Programs

variable {σ : Type} {m : Monitor σ} {z active : σ}
  (huse : ∀ (p : Pcap) (u : Use), Keeps m (u.run p) active fun _ => active)
  (hdrop : ∀ t : PcapT, Keeps m t.drop active fun _ => z)

include huse hdrop

/-- A capture program with a built handle takes a monitor from `z` back to `z` when creating a handle moves it to
`created`, the setters keep `created`, activation moves it on to `active`, each dropping the builder on an error,
the uses keep `active` and the drop goes back to `z`. -/
theorem keeps_session {created : σ}
    (hcreate : ∀ source, Keeps m (pcapCall (.create source)) z (ifOk · created z))
    (hset : ∀ bl (st : Setter), Keeps m (st.apply bl) created (ifOk · created z))
    (hactivate : ∀ bl : PcapBuilder, Keeps m bl.activate created (ifOk · active z))
    (source : String) (setters : List Setter) (uses : List Use) :
    Keeps m (session source setters uses) z fun _ => z :=
  (keeps_map_ok (hcreate source)).onOk (fun _ => rfl) fun bl =>
    (keeps_configure hset bl setters).onOk (fun _ => rfl) fun bl =>
      (hactivate bl).onOk (fun _ => rfl) fun p => (keeps_useAll p (huse p) uses).bind fun _ => hdrop p.pcapT

/-- `Pcap::new(source)?`, then the uses and the drop, when creating a handle moves the monitor straight to
`active`. -/
theorem keeps_directSession (hcreate : ∀ source, Keeps m (pcapCall (.create source)) z (ifOk · active z))
    (source : String) (uses : List Use) : Keeps m (directSession source uses) z fun _ => z :=
  (keeps_map_ok (hcreate source)).onOk (fun _ => rfl) fun p =>
    (keeps_useAll p (huse p) uses).bind fun _ => hdrop p.pcapT

end Programs

/-! ### What the crate holds -/

/-- What the crate holds in libpcap: a capture handle, a compiled program, a device list. -/
structure Held where
  handle : Bool
  program : Bool
  devices : Bool
  deriving DecidableEq

/-- One call, with its outcome, read against what is held; `none` is a fault. -/
def Held.step (h : Held) : Call × Bool → Option Held
  | (.create _, ok) => if h.handle then none else some { h with handle := ok }
  | (.close, _) => if h.handle then some { h with handle := false } else none
  | (.compile _, ok) => if h.handle && !h.program then some { h with program := ok } else none
  | (.freecode, _) => if h.program then some { h with program := false } else none
  | (.findalldevs, ok) => if h.devices then none else some { h with devices := ok }
  | (.freealldevs, _) => if h.devices then some { h with devices := false } else none
  | (_, _) => if h.handle then some h else none

/-- Holding nothing. -/
def Held.empty : Held := ⟨false, false, false⟩

/-- An open handle and nothing else. -/
def Held.opened : Held := ⟨true, false, false⟩

/-- An open handle and a compiled program. -/
def Held.compiled : Held := ⟨true, true, false⟩

/-- The resource monitor: what the crate holds, from nothing. -/
def held : Monitor Held := ⟨.empty, Held.step⟩

theorem held_use (p : Pcap) (u : Use) : Keeps held (u.run p) .opened fun _ => .opened := by
  cases u with
  | setFilter filter => exact (keeps_setFilter p filter rfl rfl (fun _ => rfl) rfl).bind fun _ => Keeps.pure rfl
  | next => exact keeps_pollTimes p (fun _ => rfl) _
  | _ => exact (keeps_call fun _ => rfl).bind fun _ => Keeps.pure rfl

/-- Every capture program and every device listing, from libpcap holding nothing, makes no call on a closed
handle, releases nothing twice and leaks nothing: each handle created is closed once, each program compiled is
freed once and each device list is freed once, whatever the program does and whatever libpcap answers. -/
theorem releases_once :
    (∀ source setters uses, Keeps held (session source setters uses) .empty fun _ => .empty) ∧
    (∀ source uses, Keeps held (directSession source uses) .empty fun _ => .empty) ∧
    Keeps held listInterfaces .empty fun _ => .empty := by
  have hcreate : ∀ source, Keeps held (pcapCall (.create source)) .empty (ifOk · .opened .empty) :=
    fun _ => keeps_pcapCall rfl fun _ => rfl
  have hdrop : ∀ t : PcapT, Keeps held t.drop .opened fun _ => .empty := fun _ => keeps_release rfl
  have hlist : Keeps held (pcapCall .findalldevs) .empty (ifOk · ⟨false, false, true⟩ .empty) :=
    keeps_pcapCall rfl fun _ => rfl
  refine ⟨keeps_session held_use hdrop hcreate (fun bl st => ?_) fun bl => ?_,
    keeps_directSession held_use hdrop hcreate,
    (keeps_map_ok hlist).onOk (fun _ => rfl) fun _ => keeps_release rfl⟩
  · cases st <;> exact keeps_set bl (fun _ => rfl) (hdrop _)
  · exact keeps_ok_or_drop bl.pcapT _ (keeps_pcapCall rfl fun _ => rfl) (hdrop _)

theorem releases_once_lo :
    held.run (session "lo" [.snaplen 65535, .immediate true]
      [.setFilter "icmp", .inject (List.replicate 42 0), .stats, .next 5 timeoutPacketError]
      ⟨fun _ => none, []⟩).2.log = some .empty :=
  releases_once.1 _ _ _ _ rfl

/-! ### Activation -/

/-- Where the capture handle is in its life: none (or closed), created and not yet activated, or activated. -/
inductive Phase where
  | closed
  | created
  | active
  deriving DecidableEq

/-- The option setters, which configure a handle before it is activated. -/
def Call.configures : Call → Bool
  | setBufferSize _ | setPromisc _ | setImmediateMode _ | setSnaplen _ => true
  | _ => false

/-- The calls that work on a live capture: compiling and installing a filter, polling, injecting, statistics. -/
def Call.captures : Call → Bool
  | compile _ | setfilter | nextEx | inject _ | stats => true
  | _ => false

/-- The activation contract that the builder's types encode (spec §4.2), as a monitor: an option setter needs a
handle not yet activated and a capture-side call an activated one; a successful `pcap_activate` activates the
handle. -/
def Phase.step (p : Phase) : Call × Bool → Option Phase
  | (.create _, ok) => some (if ok then .created else .closed)
  | (.close, _) => some .closed
  | (.activate, ok) => some (if ok then .active else p)
  | (c, _) => if c.configures && p != .created || c.captures && p != .active then none else some p

/-- The activation monitor, from no handle. -/
def phase : Monitor Phase := ⟨.closed, Phase.step⟩

theorem phase_use (p : Pcap) (u : Use) : Keeps phase (u.run p) .active fun _ => .active := by
  cases u with
  | setFilter filter => exact (keeps_setFilter p filter rfl rfl (fun _ => rfl) rfl).bind fun _ => Keeps.pure rfl
  | next => exact keeps_pollTimes p (fun _ => rfl) _
  | _ => exact (keeps_call fun ok => by cases ok <;> rfl).bind fun _ => Keeps.pure rfl

/-- On the builder path every option setter reaches libpcap before the handle is activated and every capture-side
call after a successful activation, whatever the program does and whatever libpcap answers.  `Pcap::new` hands out
a `Pcap` that was never activated: when `pcap_create` succeeds, a program that polls it at once polls before
activation. -/
theorem activation_order :
    (∀ source setters uses, Keeps phase (session source setters uses) .closed fun _ => .closed) ∧
    ∀ source (w : Libpcap), phase.run w.log = some .closed → w.answers w.log.length = none →
      phase.run (directSession source [.poll] w).2.log = none := by
  have hdrop : ∀ t : PcapT, Keeps phase t.drop .active fun _ => .closed := fun _ => keeps_release rfl
  refine ⟨keeps_session phase_use hdrop (fun _ => keeps_pcapCall rfl fun _ => rfl) (fun bl st => ?_)
    (fun bl => ?_), fun source w hw hcreate => ?_⟩
  · cases st <;> exact keeps_set bl (fun _ => rfl) (keeps_release rfl)
  · exact keeps_ok_or_drop bl.pcapT _ (keeps_pcapCall rfl fun _ => rfl) (keeps_release rfl)
  · simp only [Monitor.run] at hw ⊢
    simp [directSession, Pcap.new, pcapCall, hcreate, Except.map, useAll, Use.run, Pcap.poll, Pcap.drop,
      PcapT.drop, release, bind, StateT.bind, pure, StateT.pure, List.foldlM_append, hw]
    rcases w.answers (w.log.length + 1) with _ | text <;> simp [hw, phase, Phase.step, Call.captures]

theorem activation_order_lo :
    phase.run (directSession "lo" [.poll] ⟨fun _ => none, []⟩).2.log = none :=
  activation_order.2 "lo" ⟨fun _ => none, []⟩ rfl rfl

/-! ### The scope of a filter program -/

/-- One call read against whether a compiled filter program is alive: while one is, the only calls are the
`pcap_setfilter` that installs it and the `pcap_freecode` that frees it. -/
def filterStep (alive : Bool) : Call × Bool → Option Bool
  | (.compile _, ok) => if alive then none else some ok
  | (.setfilter, _) => if alive then some true else none
  | (.freecode, _) => if alive then some false else none
  | (_, _) => if alive then none else some false

/-- The monitor of filter programs, from none alive. -/
def filterScope : Monitor Bool := ⟨false, filterStep⟩

theorem filterScope_use (p : Pcap) (u : Use) : Keeps filterScope (u.run p) false fun _ => false := by
  cases u with
  | setFilter filter => exact (keeps_setFilter p filter rfl rfl (fun _ => rfl) rfl).bind fun _ => Keeps.pure rfl
  | next => exact keeps_pollTimes p (fun _ => rfl) _
  | _ => exact (keeps_call fun _ => rfl).bind fun _ => Keeps.pure rfl

/-- The program `set_filter` compiles lives only as long as the call: between a `pcap_compile` and its
`pcap_freecode` the crate makes no call into libpcap but the `pcap_setfilter` that installs the program, so it is
freed before anything else is done with the handle, its close included, in every capture program and device
listing and whatever libpcap answers. -/
theorem filter_scoped :
    (∀ source setters uses, Keeps filterScope (session source setters uses) false fun _ => false) ∧
    (∀ source uses, Keeps filterScope (directSession source uses) false fun _ => false) ∧
    Keeps filterScope listInterfaces false fun _ => false := by
  have hcreate : ∀ source, Keeps filterScope (pcapCall (.create source)) false (ifOk · false false) :=
    fun _ => keeps_pcapCall rfl fun _ => rfl
  have hdrop : ∀ t : PcapT, Keeps filterScope t.drop false fun _ => false := fun _ => keeps_release rfl
  refine ⟨keeps_session filterScope_use hdrop hcreate (fun bl st => ?_) (fun bl => ?_),
    keeps_directSession filterScope_use hdrop hcreate,
    (keeps_map_ok (a := false) (keeps_pcapCall rfl fun _ => rfl)).onOk (fun _ => rfl) fun _ => keeps_release rfl⟩
  · cases st <;> exact keeps_set bl (fun _ => rfl) (hdrop _)
  · exact keeps_ok_or_drop bl.pcapT _ (keeps_pcapCall rfl fun _ => rfl) (hdrop _)

theorem filter_scoped_lo :
    filterScope.run (session "lo" [.snaplen 65535, .immediate true] [.setFilter "icmp", .stats]
      ⟨fun n => if n = 5 then some "filter rejected" else none, []⟩).2.log = some false :=
  filter_scoped.1 _ _ _ _ rfl

end LuomuLibpcap.Lifecycle
