import BlockCsi.Node.MpathDeviceProperties

/-!
# Concurrent `FlushMultipathDevice` calls

A process holds the `RescanUtilsIscsi` values that `NewRescanUtils` built, each with the mutex it
allocated, and any number of `FlushMultipathDevice` calls on them, each at its program point. A
by-value copy of a value shares its mutex pointer, so here it is the same value. The scheduler
interleaves the calls' steps; `Lock` waits for a free mutex, and the command runs between two
steps, so that another call can move while it is in progress.

Each mutex is locked exactly while one call is between its `Lock` and its `Unlock`, so the
commands of the calls on one value never overlap, and a call that returned holds nothing. Two
values built by two `NewRescanUtils` calls have two mutexes. A call run alone returns what
`flushMultipathDevice` returns.
-/

set_option autoImplicit false

namespace BlockCsi.Node

/-- Where a `FlushMultipathDevice` call is: before `Lock`; holding the mutex before the command;
running `multipath -f`; past the command with its error, before `Unlock`; after `Unlock`; and
returned. -/
inductive FlushPc where
  | start
  | locked
  | running
  | ran (err : Option GoError)
  | unlocked (err : Option GoError)
  | returned (result : Option GoError)
  deriving DecidableEq, Repr

def FlushPc.holding : FlushPc → Bool
  | .locked | .running | .ran _ => true
  | _ => false

structure FlushCall where
  r : RescanUtilsIscsi
  mpathDevice : String
  pc : FlushPc
  deriving DecidableEq, Repr

/-- What the process holds of the flushes: the address of the next mutex `NewRescanUtils`
allocates, the values built in order, the number of calls made, the calls in the order they were
made, and which mutexes are locked. -/
structure Process where
  nextMutex : Nat
  values : List RescanUtilsIscsi
  callCount : Nat
  calls : Nat → Option FlushCall
  locked : Nat → Bool

/-- One step of one party: a `NewRescanUtils` call, a call on the value at an index in the order
they were built, and the steps of a call. `finish` carries the command's error, `complete` the
answer of `os.Open` on the device when the command failed. -/
inductive FlushEvent where
  | newRescanUtils
  | call (value : Nat) (mpathDevice : String)
  | lock (call : Nat)
  | exec (call : Nat)
  | finish (call : Nat) (err : Option GoError)
  | unlock (call : Nat)
  | complete (call : Nat) (errOpen : Option GoError)
  deriving DecidableEq, Repr

/-- What `FlushMultipathDevice` returns after `Unlock`, from the command's error and the error of
`os.Open` on the device. -/
def flushResult (err errOpen : Option GoError) : Option GoError :=
  match err with
  | none => none
  | some err =>
    match errOpen with
    | some errOpen => if errOpen.isNotExist then none else some errOpen
    | none => some err

theorem flushMultipathDevice_value (host : Host) (r : RescanUtilsIscsi) (mpathDevice : String) :
    (flushMultipathDevice host r mpathDevice).value =
      flushResult (executeWithTimeout host (10 * 1000) "multipath" ["-f", "/dev/" ++ mpathDevice]).value.2
        (osOpen host ("/dev/" ++ mpathDevice)).value.2 := by
  cases ran : host.executeWithTimeout (10 * 1000) "multipath" ["-f", "/dev/" ++ mpathDevice] <;>
    cases opened : host.openRead ("/dev/" ++ mpathDevice) <;>
    simp [flushMultipathDevice, flushResult, ran, opened]

theorem flushMultipathDevice_effects (host : Host) (r : RescanUtilsIscsi) (mpathDevice : String) :
    (flushMultipathDevice host r mpathDevice).effects =
      [.lock r.mutexMultipathF,
        .executeWithTimeout (10 * 1000) "multipath" ["-f", "/dev/" ++ mpathDevice],
        .unlock r.mutexMultipathF] ++
      match host.executeWithTimeout (10 * 1000) "multipath" ["-f", "/dev/" ++ mpathDevice] with
      | .ok _ => []
      | .error _ => [.openRead ("/dev/" ++ mpathDevice)] := by
  cases ran : host.executeWithTimeout (10 * 1000) "multipath" ["-f", "/dev/" ++ mpathDevice] <;>
    cases opened : host.openRead ("/dev/" ++ mpathDevice) <;>
    simp [flushMultipathDevice, ran, opened, mutexLock, mutexUnlock]

/-- For every host timeline whose by-path globs list only paths the pattern matches: whenever
`GetMpathDevice` succeeds with `d`, `d` is a rooted path, so `FlushMultipathDevice(d)` runs
`multipath -f` on `/dev/` followed by `d`, a path with a doubled separator, and never on
`/dev/dm-N` for a bare `dm-N`. -/
theorem flushMultipathDevice_getMpathDevice_doubled (hosts : Nat → Host) (volumeId : String)
    (lunId : Int) (arrayIqn : String)
    (sound : ∀ j, ∀ link ∈ listed hosts (byPathPattern arrayIqn lunId) j,
      BlockCsi.Go.globMatches (byPathPattern arrayIqn lunId) link = true)
    (succeeded : (getMpathDevice hosts volumeId lunId arrayIqn).value.2 = none)
    (host : Host) (r : RescanUtilsIscsi) :
    ∃ rest, (getMpathDevice hosts volumeId lunId arrayIqn).value.1 = "/" ++ rest ∧
      (flushMultipathDevice host r (getMpathDevice hosts volumeId lunId arrayIqn).value.1).effects[1]? =
        some (.executeWithTimeout (10 * 1000) "multipath" ["-f", "/dev//" ++ rest]) := by
  have rooted := getMpathDevice_result_rooted hosts volumeId lunId arrayIqn sound succeeded
  generalize (getMpathDevice hosts volumeId lunId arrayIqn).value.1 = device at rooted ⊢
  obtain ⟨_ | ⟨c, rest⟩⟩ := device
  · cases rooted
  · obtain rfl : c = '/' := by simpa using rooted
    exact ⟨⟨rest⟩, rfl, by rw [flushMultipathDevice_effects]; rfl⟩

/-- On the sample node, LUN 1 resolves through the slave `sdb` to `/dev/dm-4`, and the flush of
that result runs `multipath -f /dev//dev/dm-4`. -/
theorem flushMultipathDevice_getMpathDevice_doubled_sample :
    (∀ j, ∀ link ∈ listed (fun _ => sampleHost) (byPathPattern "iqn.x" 1) j,
      BlockCsi.Go.globMatches (byPathPattern "iqn.x" 1) link = true) ∧
    (getMpathDevice (fun _ => sampleHost) "vol-test" 1 "iqn.x").value.2 = none ∧
    ∃ rest, (getMpathDevice (fun _ => sampleHost) "vol-test" 1 "iqn.x").value.1 = "/" ++ rest ∧
      (flushMultipathDevice sampleHost ⟨0⟩
          (getMpathDevice (fun _ => sampleHost) "vol-test" 1 "iqn.x").value.1).effects[1]? =
        some (.executeWithTimeout (10 * 1000) "multipath" ["-f", "/dev//" ++ rest]) :=
  have sound : ∀ j, ∀ link ∈ listed (fun _ => sampleHost) (byPathPattern "iqn.x" 1) j,
      BlockCsi.Go.globMatches (byPathPattern "iqn.x" 1) link = true := fun _ => by
    show ∀ link ∈ listed (fun _ => sampleHost) (byPathPattern "iqn.x" 1) 0, _
    decide
  have succeeded : (getMpathDevice (fun _ => sampleHost) "vol-test" 1 "iqn.x").value.2 = none := by
    decide
  ⟨sound, succeeded, flushMultipathDevice_getMpathDevice_doubled _ "vol-test" 1 "iqn.x" sound
    succeeded sampleHost ⟨0⟩⟩

namespace Process

def init : Process := ⟨0, [], 0, fun _ => none, fun _ => false⟩

def setPc (s : Process) (i : Nat) (c : FlushCall) (pc : FlushPc) : Process :=
  { s with calls := fun j => if j = i then some { c with pc } else s.calls j }

/-- One step; `none` when the event cannot happen. -/
def step (s : Process) : FlushEvent → Option Process
  | .newRescanUtils =>
    match newRescanUtils "iscsi" s.nextMutex with
    | .ok r => some { s with nextMutex := s.nextMutex + 1, values := s.values ++ [r] }
    | .error _ => none
  | .call value mpathDevice =>
    s.values[value]?.map fun r =>
      { s with
        callCount := s.callCount + 1
        calls := fun j => if j = s.callCount then some ⟨r, mpathDevice, .start⟩ else s.calls j }
  | .lock i => (s.calls i).bind fun c =>
    if c.pc = .start ∧ s.locked c.r.mutexMultipathF = false then
      some { s.setPc i c .locked with locked := fun m => m = c.r.mutexMultipathF || s.locked m }
    else none
  | .exec i => (s.calls i).bind fun c =>
    if c.pc = .locked then some (s.setPc i c .running) else none
  | .finish i err => (s.calls i).bind fun c =>
    if c.pc = .running then some (s.setPc i c (.ran err)) else none
  | .unlock i => (s.calls i).bind fun c =>
    match c.pc with
    | .ran err =>
      some { s.setPc i c (.unlocked err) with
        locked := fun m => m ≠ c.r.mutexMultipathF && s.locked m }
    | _ => none
  | .complete i errOpen => (s.calls i).bind fun c =>
    match c.pc with
    | .unlocked err => some (s.setPc i c (.returned (flushResult err errOpen)))
    | _ => none

def run (s : Process) : List FlushEvent → Option Process
  | [] => some s
  | event :: events => (s.step event).bind fun s => run s events

def Holds (s : Process) (i m : Nat) : Prop :=
  ∃ c, s.calls i = some c ∧ c.pc.holding = true ∧ c.r.mutexMultipathF = m

/-- What every reachable process keeps: a mutex is locked exactly while a call holds it, at most
one call holds a mutex, and the calls are numbered from 0. -/
structure Invariant (s : Process) : Prop where
  locked_iff : ∀ m, s.locked m = true ↔ ∃ i, s.Holds i m
  exclusive : ∀ i j m, s.Holds i m → s.Holds j m → i = j
  calls_none : ∀ j, s.callCount ≤ j → s.calls j = none

variable (s : Process) (i : Nat) (c : FlushCall) (pc : FlushPc)

@[simp] theorem setPc_calls (j : Nat) :
    (s.setPc i c pc).calls j = if j = i then some { c with pc } else s.calls j := rfl

@[simp] theorem setPc_locked : (s.setPc i c pc).locked = s.locked := rfl

@[simp] theorem setPc_callCount : (s.setPc i c pc).callCount = s.callCount := rfl

theorem holds_setPc (j m : Nat) :
    (s.setPc i c pc).Holds j m ↔ if j = i then pc.holding = true ∧ c.r.mutexMultipathF = m
      else s.Holds j m := by
  by_cases same : j = i <;> simp [Holds, same]

variable {s i c pc}

theorem Invariant.call_lt (inv : s.Invariant) (found : s.calls i = some c) : i < s.callCount :=
  Nat.lt_of_not_le fun beyond => by simp [inv.calls_none i beyond] at found

theorem Invariant.of_holds_iff {s' : Process} (inv : s.Invariant)
    (holds : ∀ j m, s'.Holds j m ↔ s.Holds j m) (locks : s'.locked = s.locked)
    (numbered : ∀ j, s'.callCount ≤ j → s'.calls j = none) : s'.Invariant where
  locked_iff m := by simp only [locks, holds, inv.locked_iff]
  exclusive j k m := by simp only [holds]; exact inv.exclusive j k m
  calls_none := numbered

theorem Invariant.setPc_calls_none (inv : s.Invariant) (found : s.calls i = some c) (j : Nat)
    (beyond : s.callCount ≤ j) : (s.setPc i c pc).calls j = none := by
  have := inv.call_lt found
  simp [inv.calls_none j beyond, show j ≠ i by omega]

theorem Invariant.setPc (inv : s.Invariant) (found : s.calls i = some c)
    (same : pc.holding = c.pc.holding) : (s.setPc i c pc).Invariant := by
  refine inv.of_holds_iff (fun j m => ?_) rfl (inv.setPc_calls_none found)
  rw [holds_setPc]
  split
  · subst j; simp [Holds, found, same]
  · rfl

theorem Invariant.lock (inv : s.Invariant) (found : s.calls i = some c) (waiting : c.pc = .start)
    (free : s.locked c.r.mutexMultipathF = false) :
    ({ s.setPc i c .locked with locked := fun m => m = c.r.mutexMultipathF || s.locked m } :
      Process).Invariant := by
  have holds : ∀ j m, (s.setPc i c .locked).Holds j m ↔
      (j = i ∧ c.r.mutexMultipathF = m) ∨ s.Holds j m := fun j m => by
    rw [holds_setPc]
    split
    · subst j; simp [Holds, FlushPc.holding, found, waiting]
    · simp [*]
  refine ⟨fun m => ?_, fun j k m => ?_, inv.setPc_calls_none found⟩
  · show (decide (m = c.r.mutexMultipathF) || s.locked m) = true ↔ ∃ j, (s.setPc i c .locked).Holds j m
    simp only [holds, Bool.or_eq_true, decide_eq_true_eq, inv.locked_iff, exists_or, exists_eq_left]
    rw [@eq_comm _ c.r.mutexMultipathF m]
  · show (s.setPc i c .locked).Holds j m → (s.setPc i c .locked).Holds k m → j = k
    have taken (k : Nat) (held : s.Holds k c.r.mutexMultipathF) : False := by
      simpa [free] using (inv.locked_iff _).mpr ⟨k, held⟩
    rw [holds, holds]
    rintro (⟨rfl, rfl⟩ | held) (⟨rfl, same⟩ | held')
    · rfl
    · exact (taken k held').elim
    · exact (taken j (same ▸ held)).elim
    · exact inv.exclusive j k m held held'

theorem Invariant.unlock (inv : s.Invariant) (found : s.calls i = some c) {err : Option GoError}
    (ran : c.pc = .ran err) :
    ({ s.setPc i c (.unlocked err) with locked := fun m => m ≠ c.r.mutexMultipathF && s.locked m } :
      Process).Invariant := by
  have holds : ∀ j m, (s.setPc i c (.unlocked err)).Holds j m ↔ j ≠ i ∧ s.Holds j m := fun j m => by
    rw [holds_setPc]
    split <;> simp [FlushPc.holding, *]
  have holding : s.Holds i c.r.mutexMultipathF := ⟨c, found, by simp [ran, FlushPc.holding], rfl⟩
  refine ⟨fun m => ?_, fun j k m => ?_, inv.setPc_calls_none found⟩
  · show (decide (m ≠ c.r.mutexMultipathF) && s.locked m) = true ↔
      ∃ j, (s.setPc i c (.unlocked err)).Holds j m
    simp only [holds, Bool.and_eq_true, decide_eq_true_eq, inv.locked_iff]
    constructor
    · rintro ⟨other, j, held⟩
      refine ⟨j, fun same => other ?_, held⟩
      subst same
      obtain ⟨c', found', -, rfl⟩ := held
      simp_all
    · rintro ⟨j, other, held⟩
      exact ⟨fun same => other (inv.exclusive j i m held (same ▸ holding)), j, held⟩
  · show (s.setPc i c (.unlocked err)).Holds j m → (s.setPc i c (.unlocked err)).Holds k m → j = k
    rw [holds, holds]
    exact fun held held' => inv.exclusive j k m held.2 held'.2

theorem Invariant.call (inv : s.Invariant) (r : RescanUtilsIscsi) (mpathDevice : String) :
    ({ s with
      callCount := s.callCount + 1
      calls := fun j => if j = s.callCount then some ⟨r, mpathDevice, .start⟩ else s.calls j } :
      Process).Invariant := by
  refine inv.of_holds_iff (fun j m => ?_) rfl fun j beyond => ?_
  · by_cases fresh : j = s.callCount
    · simp [Holds, fresh, FlushPc.holding, inv.calls_none]
    · simp [Holds, fresh]
  · simp only at beyond ⊢
    simp [inv.calls_none j (by omega), show j ≠ s.callCount by omega]

theorem Invariant.step (inv : s.Invariant) {event : FlushEvent} {s' : Process}
    (stepped : s.step event = some s') : s'.Invariant := by
  cases event with
  | newRescanUtils =>
    cases stepped
    exact inv.of_holds_iff (fun _ _ => Iff.rfl) rfl inv.calls_none
  | call value mpathDevice =>
    obtain ⟨r, -, rfl⟩ := Option.map_eq_some'.mp stepped
    exact inv.call r mpathDevice
  | lock i =>
    obtain ⟨c, found, stepped⟩ := Option.bind_eq_some.mp stepped
    split at stepped <;> cases stepped
    exact inv.lock found (by simp_all) (by simp_all)
  | exec i =>
    obtain ⟨c, found, stepped⟩ := Option.bind_eq_some.mp stepped
    split at stepped <;> cases stepped
    exact inv.setPc found (by simp_all [FlushPc.holding])
  | finish i err =>
    obtain ⟨c, found, stepped⟩ := Option.bind_eq_some.mp stepped
    split at stepped <;> cases stepped
    exact inv.setPc found (by simp_all [FlushPc.holding])
  | unlock i =>
    obtain ⟨c, found, stepped⟩ := Option.bind_eq_some.mp stepped
    split at stepped <;> cases stepped
    exact inv.unlock found ‹_›
  | complete i errOpen =>
    obtain ⟨c, found, stepped⟩ := Option.bind_eq_some.mp stepped
    split at stepped <;> cases stepped
    exact inv.setPc found (by simp_all [FlushPc.holding])

theorem Invariant.run (inv : s.Invariant) (events : List FlushEvent) {s' : Process}
    (ran : s.run events = some s') : s'.Invariant := by
  induction events generalizing s with
  | nil => cases ran; exact inv
  | cons event events ih =>
    simp only [Process.run, Option.bind_eq_some] at ran
    obtain ⟨s₁, stepped, ran⟩ := ran
    exact ih (inv.step stepped) ran

theorem init_invariant : init.Invariant where
  locked_iff m := by simp [init, Holds]
  exclusive j k m := by simp [init, Holds]
  calls_none j _ := rfl

section Values

variable {s' : Process} {event : FlushEvent}

/-- Each value built has its own mutex, below the next address to allocate. -/
structure ValuesDistinct (s : Process) : Prop where
  nodup : (s.values.map (·.mutexMultipathF)).Nodup
  below : ∀ r ∈ s.values, r.mutexMultipathF < s.nextMutex

theorem step_values (stepped : s.step event = some s') :
    (s'.values = s.values ∧ s'.nextMutex = s.nextMutex) ∨
      (s'.values = s.values ++ [⟨s.nextMutex⟩] ∧ s'.nextMutex = s.nextMutex + 1) := by
  cases event with
  | newRescanUtils => cases stepped; exact .inr ⟨rfl, rfl⟩
  | call value mpathDevice =>
    obtain ⟨r, -, rfl⟩ := Option.map_eq_some'.mp stepped
    exact .inl ⟨rfl, rfl⟩
  | lock i | exec i | finish i _ | unlock i | complete i _ =>
    obtain ⟨c, -, stepped⟩ := Option.bind_eq_some.mp stepped
    split at stepped <;> cases stepped
    exact .inl ⟨rfl, rfl⟩

theorem ValuesDistinct.step (distinct : s.ValuesDistinct) (stepped : s.step event = some s') :
    s'.ValuesDistinct := by
  obtain ⟨unique, below⟩ := distinct
  rcases step_values stepped with ⟨same, next⟩ | ⟨grown, next⟩
  · exact ⟨same ▸ unique, next ▸ same ▸ below⟩
  · have fresh : s.nextMutex ∉ s.values.map (·.mutexMultipathF) := fun old => by
      obtain ⟨r, member, allocated⟩ := List.mem_map.mp old
      exact Nat.ne_of_lt (below r member) allocated
    refine ⟨?_, fun r member => ?_⟩
    · rw [grown, List.map_append, List.map_singleton]
      exact List.nodup_append.mpr ⟨unique, List.nodup_singleton _,
        fun m old new => by obtain rfl := List.eq_of_mem_singleton new; exact fresh old⟩
    · rw [grown, List.mem_append, List.mem_singleton] at member
      rw [next]
      rcases member with old | rfl
      · exact Nat.lt_succ_of_lt (below r old)
      · exact Nat.lt_succ_self _

theorem ValuesDistinct.run (distinct : s.ValuesDistinct) (events : List FlushEvent)
    (ran : s.run events = some s') : s'.ValuesDistinct := by
  induction events generalizing s with
  | nil => cases ran; exact distinct
  | cons event events ih =>
    obtain ⟨s₁, stepped, ran⟩ := Option.bind_eq_some.mp ran
    exact ih (distinct.step stepped) ran

theorem init_valuesDistinct : init.ValuesDistinct :=
  ⟨List.nodup_nil, fun _ => nofun⟩

end Values

def Reachable (s : Process) : Prop :=
  ∃ events, init.run events = some s

def aloneEvents (host : Host) (i value : Nat) (mpathDevice : String) : List FlushEvent :=
  [.call value mpathDevice, .lock i, .exec i,
    .finish i (executeWithTimeout host (10 * 1000) "multipath" ["-f", "/dev/" ++ mpathDevice]).value.2,
    .unlock i, .complete i (osOpen host ("/dev/" ++ mpathDevice)).value.2]

end Process

open Process in
/-- For every process, every value whose mutex is free and every host, a `FlushMultipathDevice`
call on the value run alone gets through, returns what `flushMultipathDevice` returns on that
host, and leaves every mutex as it found it. -/
theorem flushMultipathDevice_alone (s : Process) (host : Host) (value : Nat) (r : RescanUtilsIscsi)
    (mpathDevice : String) (found : s.values[value]? = some r)
    (free : s.locked r.mutexMultipathF = false) :
    ∃ s', s.run (aloneEvents host s.callCount value mpathDevice) = some s' ∧
      s'.calls s.callCount =
        some ⟨r, mpathDevice, .returned (flushMultipathDevice host r mpathDevice).value⟩ ∧
      s'.locked = s.locked := by
  simp only [aloneEvents, Process.run, Process.step, found, free, Option.map_some', Option.some_bind,
    setPc_calls, if_true, and_self, decide_True, Bool.true_or, setPc_locked, flushMultipathDevice_value,
    Option.some.injEq, exists_eq_left', true_and]
  funext m
  by_cases same : m = r.mutexMultipathF <;> simp [same, free]

/-- A value built by `NewRescanUtils`, its mutex free, on a host where everything fails: the call
gets through and returns nil, since `/dev/dm-4` does not exist. -/
theorem flushMultipathDevice_alone_empty_host :
    ({ Process.init with nextMutex := 1, values := [⟨0⟩] } : Process).values[0]? = some ⟨0⟩ ∧
      ({ Process.init with nextMutex := 1, values := [⟨0⟩] } : Process).locked 0 = false ∧
      ∃ s', ({ Process.init with nextMutex := 1, values := [⟨0⟩] } : Process).run
          (Process.aloneEvents Host.empty 0 0 "dm-4") = some s' ∧
        s'.calls 0 = some ⟨⟨0⟩, "dm-4", .returned (flushMultipathDevice Host.empty ⟨0⟩ "dm-4").value⟩ ∧
        s'.locked = Process.init.locked :=
  ⟨rfl, rfl, flushMultipathDevice_alone { Process.init with nextMutex := 1, values := [⟨0⟩] }
    Host.empty 0 ⟨0⟩ "dm-4" rfl rfl⟩

/-- In every reachable process a mutex is locked exactly while a call made on a value holding it
is between its `Lock` and its `Unlock`, and two calls on one value, or on copies of it, never run
`multipath -f` at the same time. -/
theorem flushMultipathDevice_calls_exclusive (s : Process) (reachable : s.Reachable) :
    (∀ m, s.locked m = true ↔
      ∃ i c, s.calls i = some c ∧ c.pc.holding = true ∧ c.r.mutexMultipathF = m) ∧
    ∀ i j ci cj, s.calls i = some ci → s.calls j = some cj → ci.pc = .running → cj.pc = .running →
      ci.r = cj.r → i = j := by
  obtain ⟨events, ran⟩ := reachable
  have inv := Process.init_invariant.run events ran
  refine ⟨inv.locked_iff, fun i j ci cj found found' running running' same => ?_⟩
  exact inv.exclusive i j ci.r.mutexMultipathF ⟨ci, found, by simp [running, FlushPc.holding], rfl⟩
    ⟨cj, found', by simp [running', FlushPc.holding], by rw [same]⟩

/-- One value and two calls on it: the first runs the command, the second waits at `Lock`. -/
theorem flushMultipathDevice_calls_exclusive_copies :
    ∃ s, Process.init.run [.newRescanUtils, .call 0 "dm-4", .call 0 "dm-5", .lock 0, .exec 0] = some s ∧
      s.Reachable ∧
      (∀ m, s.locked m = true ↔
        ∃ i c, s.calls i = some c ∧ c.pc.holding = true ∧ c.r.mutexMultipathF = m) ∧
      ∀ i j ci cj, s.calls i = some ci → s.calls j = some cj → ci.pc = .running →
        cj.pc = .running → ci.r = cj.r → i = j :=
  have reachable : Process.Reachable _ :=
    ⟨[.newRescanUtils, .call 0 "dm-4", .call 0 "dm-5", .lock 0, .exec 0], rfl⟩
  ⟨_, rfl, reachable, flushMultipathDevice_calls_exclusive _ reachable⟩

/-- Two values built by two `NewRescanUtils` calls get two mutexes; a flush on each locks its own
and both run `multipath -f` at once. -/
theorem flushMultipathDevice_two_values_run_together :
    ∃ s, Process.init.run [.newRescanUtils, .newRescanUtils, .call 0 "dm-4", .call 1 "dm-5",
        .lock 0, .exec 0, .lock 1, .exec 1] = some s ∧
      s.values = [⟨0⟩, ⟨1⟩] ∧ (s.calls 0).map (·.pc) = some .running ∧
      (s.calls 1).map (·.pc) = some .running :=
  ⟨_, rfl, rfl, rfl, rfl⟩

open Process in
/-- From every reachable process, flushes on two values built by two `NewRescanUtils` calls, with
both mutexes free, can both be running `multipath -f`: the values have different mutexes, so
neither `Lock` waits for the other. -/
theorem flushMultipathDevice_values_overlap (s : Process) (reachable : s.Reachable) (v w : Nat)
    (r₁ r₂ : RescanUtilsIscsi) (first : s.values[v]? = some r₁) (second : s.values[w]? = some r₂)
    (different : v ≠ w) (free₁ : s.locked r₁.mutexMultipathF = false)
    (free₂ : s.locked r₂.mutexMultipathF = false) (mpathDevice₁ mpathDevice₂ : String) :
    ∃ s', s.run [.call v mpathDevice₁, .call w mpathDevice₂, .lock s.callCount, .exec s.callCount,
        .lock (s.callCount + 1), .exec (s.callCount + 1)] = some s' ∧
      (s'.calls s.callCount).map (·.pc) = some .running ∧
      (s'.calls (s.callCount + 1)).map (·.pc) = some .running := by
  obtain ⟨events, ran⟩ := reachable
  have distinct := init_valuesDistinct.run events ran
  have apart : r₁.mutexMultipathF ≠ r₂.mutexMultipathF := fun same =>
    different (List.getElem?_inj (by simpa using (List.getElem?_eq_some_iff.mp first).1) distinct.nodup
      (by simp [first, second, same]))
  simp [Process.run, Process.step, first, second, free₁, free₂, Ne.symm apart]

/-- Two values built from the start, flushed on `dm-4` and `dm-5`. -/
theorem flushMultipathDevice_values_overlap_two_values :
    let s : Process := { Process.init with nextMutex := 2, values := [⟨0⟩, ⟨1⟩] }
    s.Reachable ∧ s.values[0]? = some ⟨0⟩ ∧ s.values[1]? = some ⟨1⟩ ∧ (0 : Nat) ≠ 1 ∧
      s.locked 0 = false ∧ s.locked 1 = false ∧
      ∃ s', s.run [.call 0 "dm-4", .call 1 "dm-5", .lock s.callCount, .exec s.callCount,
          .lock (s.callCount + 1), .exec (s.callCount + 1)] = some s' ∧
        (s'.calls s.callCount).map (·.pc) = some .running ∧
        (s'.calls (s.callCount + 1)).map (·.pc) = some .running :=
  have reachable : Process.Reachable { Process.init with nextMutex := 2, values := [⟨0⟩, ⟨1⟩] } :=
    ⟨[.newRescanUtils, .newRescanUtils], rfl⟩
  ⟨reachable, rfl, rfl, by decide, rfl, rfl,
    flushMultipathDevice_values_overlap _ reachable 0 1 ⟨0⟩ ⟨1⟩ rfl rfl (by decide) rfl rfl "dm-4" "dm-5"⟩

end BlockCsi.Node
