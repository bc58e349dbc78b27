import BlockCsi.Node.FlushConcurrency

/-!
# Every `FlushMultipathDevice` call can return

No interleaving of the calls deadlocks. From every reachable process, a call that has not returned
can be driven to its return by steps of the calls already made, in which the command and `os.Open`
succeed. When the call waits at `Lock`, the steps first drive the call holding its mutex: that
call is past its own `Lock`, so it reaches its `Unlock` without waiting.
-/

set_option autoImplicit false

namespace BlockCsi.Node

/-- The call an event moves; `none` for `NewRescanUtils` and for a new call. -/
def FlushEvent.mover : FlushEvent → Option Nat
  | .lock i | .exec i | .finish i _ | .unlock i | .complete i _ => some i
  | .newRescanUtils | .call _ _ => none

namespace Process

/-- The steps of call `i` from `pc` to its return, the command answering `err` and `os.Open`
answering `errOpen`. -/
def returnEvents (i : Nat) (err errOpen : Option GoError) : FlushPc → List FlushEvent
  | .start => [.lock i, .exec i, .finish i err, .unlock i, .complete i errOpen]
  | .locked => [.exec i, .finish i err, .unlock i, .complete i errOpen]
  | .running => [.finish i err, .unlock i, .complete i errOpen]
  | .ran _ => [.unlock i, .complete i errOpen]
  | .unlocked _ => [.complete i errOpen]
  | .returned _ => []

theorem mover_of_mem_returnEvents {i : Nat} {err errOpen : Option GoError} {pc : FlushPc}
    {event : FlushEvent} (member : event ∈ returnEvents i err errOpen pc) : event.mover = some i := by
  cases pc <;> simp only [returnEvents, List.mem_cons, List.not_mem_nil, or_false] at member <;>
    rcases member with rfl | rfl | rfl | rfl | rfl <;> rfl

theorem run_append (s : Process) (xs ys : List FlushEvent) :
    s.run (xs ++ ys) = (s.run xs).bind fun s => s.run ys := by
  induction xs generalizing s with
  | nil => rfl
  | cons event events ih =>
    show ((s.step event).bind fun s => s.run (events ++ ys)) = _
    simp only [ih, Process.run, Option.bind_assoc]

variable {s s' : Process} {i j : Nat} {c : FlushCall}

/-- A step of call `i` leaves every other call where it was. -/
theorem step_calls_of_ne {event : FlushEvent} (stepped : s.step event = some s')
    (moved : event.mover = some i) (other : j ≠ i) : s'.calls j = s.calls j := by
  cases event with
  | newRescanUtils | call _ _ => cases moved
  | lock _ | exec _ | finish _ _ | unlock _ | complete _ _ =>
    cases moved
    obtain ⟨c, -, stepped⟩ := Option.bind_eq_some.mp stepped
    split at stepped <;> cases stepped
    simp [other]

theorem run_calls_of_ne {events : List FlushEvent} (ran : s.run events = some s')
    (moved : ∀ event ∈ events, event.mover = some i) (other : j ≠ i) : s'.calls j = s.calls j := by
  induction events generalizing s with
  | nil => cases ran; rfl
  | cons event events ih =>
    obtain ⟨s₁, stepped, ran⟩ := Option.bind_eq_some.mp ran
    rw [ih ran (fun e member => moved e (.tail _ member)),
      step_calls_of_ne stepped (moved event (.head _)) other]

/-- A call gets from where it is to its return, its mutex free if it has still to take it; a call
that was past its `Lock` leaves its mutex free. -/
theorem run_returnEvents (found : s.calls i = some c)
    (free : c.pc = .start → s.locked c.r.mutexMultipathF = false) (err errOpen : Option GoError) :
    ∃ s', s.run (returnEvents i err errOpen c.pc) = some s' ∧
      (∃ result, s'.calls i = some ⟨c.r, c.mpathDevice, .returned result⟩) ∧
      (c.pc.holding = true → s'.locked c.r.mutexMultipathF = false) := by
  obtain ⟨r, mpathDevice, pc⟩ := c
  cases pc <;> simp [returnEvents, Process.run, Process.step, FlushPc.holding, found, free]

end Process

open Process in
/-- For every reachable process and every call made in it, some schedule of steps of the calls
already made brings that call to its return: when another call holds its mutex, that call goes
first to its `Unlock`. -/
theorem flushMultipathDevice_call_returns (s : Process) (reachable : s.Reachable) (i : Nat)
    (c : FlushCall) (found : s.calls i = some c) :
    ∃ events s' result, s.run events = some s' ∧
      s'.calls i = some ⟨c.r, c.mpathDevice, .returned result⟩ ∧
      ∀ event ∈ events, ∃ j, event.mover = some j ∧ j < s.callCount := by
  obtain ⟨history, ran⟩ := reachable
  have inv := init_invariant.run history ran
  have movers (j : Nat) (made : j < s.callCount) (pc : FlushPc) :
      ∀ event ∈ returnEvents j none none pc, ∃ k, event.mover = some k ∧ k < s.callCount :=
    fun _ member => ⟨j, mover_of_mem_returnEvents member, made⟩
  by_cases waiting : c.pc = .start ∧ s.locked c.r.mutexMultipathF = true
  · obtain ⟨j, d, foundHolder, holding, same⟩ := (inv.locked_iff _).mp waiting.2
    have other : j ≠ i := fun same => by
      subst same
      cases found.symm.trans foundHolder
      simp [waiting.1, FlushPc.holding] at holding
    obtain ⟨s₁, ran₁, -, freed⟩ :=
      run_returnEvents foundHolder (fun start => by simp [start, FlushPc.holding] at holding) none none
    have stays : s₁.calls i = s.calls i :=
      run_calls_of_ne ran₁ (fun _ member => mover_of_mem_returnEvents member) (Ne.symm other)
    obtain ⟨s₂, ran₂, ⟨result, returned⟩, -⟩ :=
      run_returnEvents (stays.trans found) (fun _ => same ▸ freed holding) none none
    refine ⟨_, s₂, result, by rw [run_append, ran₁]; exact ran₂, returned, fun event member => ?_⟩
    rcases List.mem_append.mp member with first | second
    · exact movers j (inv.call_lt foundHolder) d.pc event first
    · exact movers i (inv.call_lt found) c.pc event second
  · obtain ⟨s', ran', ⟨result, returned⟩, -⟩ := run_returnEvents found
      (fun start => by simpa [start] using waiting) none none
    exact ⟨_, s', result, ran', returned, movers i (inv.call_lt found) c.pc⟩

/-- One value and two calls on it: the first runs the command while the second waits at `Lock`;
the first is run to its return, then the second. -/
theorem flushMultipathDevice_call_returns_waiting :
    ∃ s, Process.init.run [.newRescanUtils, .call 0 "dm-4", .call 0 "dm-5", .lock 0, .exec 0] =
        some s ∧ s.Reachable ∧ s.calls 1 = some ⟨⟨0⟩, "dm-5", .start⟩ ∧
      ∃ events s' result, s.run events = some s' ∧
        s'.calls 1 = some ⟨⟨0⟩, "dm-5", .returned result⟩ ∧
        ∀ event ∈ events, ∃ j, event.mover = some j ∧ j < s.callCount :=
  have reachable : Process.Reachable _ :=
    ⟨[.newRescanUtils, .call 0 "dm-4", .call 0 "dm-5", .lock 0, .exec 0], rfl⟩
  ⟨_, rfl, reachable, rfl, flushMultipathDevice_call_returns _ reachable 1 _ rfl⟩

end BlockCsi.Node
