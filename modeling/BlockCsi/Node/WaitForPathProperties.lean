import BlockCsi.Node.Rescan

/-!
# Retries of `waitForPathToExist`

Each attempt globs once, on the host as it is after the sleeps before it. An attempt that lists
nothing, because the glob matched no path or failed, is followed by a sleep; the first attempt
that lists something ends the loop. The glob's error never reaches the caller.
-/

set_option autoImplicit false

namespace BlockCsi.Node

/-- The calls of `attempts` attempts that listed nothing: a glob and a sleep each. -/
def retryEffects (devicePath : String) (intervalSeconds : Int) (attempts : Nat) : List Effect :=
  (List.replicate attempts [Effect.glob devicePath, Effect.sleep intervalSeconds]).flatten

/-- What attempt `i` lists: the glob's matches, nothing when the glob failed. -/
def listed (hosts : Nat → Host) (devicePath : String) (i : Nat) : List String :=
  (goPair [] ((hosts i).glob devicePath)).1

@[simp] theorem retryEffects_zero (devicePath : String) (intervalSeconds : Int) :
    retryEffects devicePath intervalSeconds 0 = [] := rfl

theorem retryEffects_succ (devicePath : String) (intervalSeconds : Int) (attempts : Nat) :
    retryEffects devicePath intervalSeconds (attempts + 1) =
      .glob devicePath :: .sleep intervalSeconds :: retryEffects devicePath intervalSeconds attempts :=
  rfl

@[simp] theorem sleeps_retryEffects (devicePath : String) (intervalSeconds : Int) (attempts : Nat) :
    sleeps (retryEffects devicePath intervalSeconds attempts) = attempts := by
  induction attempts with
  | zero => rfl
  | succ attempts ih => simp [retryEffects_succ, sleeps, List.countP_cons] at ih ⊢; omega

/-- The globs among the calls. -/
def globs (effects : List Effect) : Nat :=
  effects.countP fun effect => effect matches .glob _

namespace waitForPathToExist

variable (hosts : Nat → Host) (devicePath : String) (intervalSeconds : Int)

theorem loop_empty (remaining i : Nat) (err : Option GoError)
    (empty : listed hosts devicePath i = []) :
    loop hosts devicePath intervalSeconds (remaining + 1) i err =
      ⟨(loop hosts devicePath intervalSeconds remaining (i + 1) (some .notExist)).value,
        .glob devicePath :: .sleep intervalSeconds ::
          (loop hosts devicePath intervalSeconds remaining (i + 1) (some .notExist)).effects⟩ := by
  simp only [listed] at empty
  apply Run.ext <;> simp [loop, empty]

theorem loop_nonempty (remaining i : Nat) (err : Option GoError)
    (found : listed hosts devicePath i ≠ []) :
    loop hosts devicePath intervalSeconds (remaining + 1) i err =
      ⟨(listed hosts devicePath i, true, none), [.glob devicePath]⟩ := by
  simp only [listed] at found
  apply Run.ext <;> simp [loop, found, listed]

/-- Attempts that list nothing up to attempt `i + k`, which lists something. -/
theorem loop_found (k : Nat) : ∀ (remaining i : Nat) (err : Option GoError),
    k < remaining → (∀ j < k, listed hosts devicePath (i + j) = []) →
    listed hosts devicePath (i + k) ≠ [] →
    loop hosts devicePath intervalSeconds remaining i err =
      ⟨(listed hosts devicePath (i + k), true, none),
        retryEffects devicePath intervalSeconds k ++ [.glob devicePath]⟩ := by
  induction k with
  | zero =>
    intro remaining i err more _ found
    obtain ⟨remaining, rfl⟩ : ∃ rest, remaining = rest + 1 := ⟨remaining - 1, by omega⟩
    exact loop_nonempty hosts devicePath intervalSeconds remaining i err found
  | succ k ih =>
    intro remaining i err more empties found
    obtain ⟨remaining, rfl⟩ : ∃ rest, remaining = rest + 1 := ⟨remaining - 1, by omega⟩
    have later := ih remaining (i + 1) (some .notExist) (by omega)
      (fun j small => by simpa only [Nat.add_assoc, Nat.add_comm 1] using empties (j + 1) (by omega))
      (by simpa only [Nat.add_assoc, Nat.add_comm 1] using found)
    rw [loop_empty hosts devicePath intervalSeconds remaining i err (by simpa using empties 0 (by omega)),
      later]
    simp only [Nat.add_assoc, Nat.add_comm 1, retryEffects_succ, List.cons_append]

/-- Every remaining attempt lists nothing. -/
theorem loop_exhausted (remaining : Nat) : ∀ (i : Nat) (err : Option GoError),
    (∀ j < remaining, listed hosts devicePath (i + j) = []) →
    loop hosts devicePath intervalSeconds remaining i err =
      ⟨([], false, if remaining = 0 then err else some .notExist),
        retryEffects devicePath intervalSeconds remaining⟩ := by
  induction remaining with
  | zero => intro i err _; rfl
  | succ remaining ih =>
    intro i err empties
    have later := ih (i + 1) (some .notExist)
      (fun j small => by simpa only [Nat.add_assoc, Nat.add_comm 1] using empties (j + 1) (by omega))
    rw [loop_empty hosts devicePath intervalSeconds remaining i err (by simpa using empties 0 (by omega)),
      later]
    cases remaining <;> rfl

theorem loop_globs (remaining : Nat) : ∀ (i : Nat) (err : Option GoError),
    globs (loop hosts devicePath intervalSeconds remaining i err).effects ≤ remaining := by
  induction remaining with
  | zero => intro i err; simp [loop, globs]
  | succ remaining ih =>
    intro i err
    by_cases empty : listed hosts devicePath i = []
    · rw [loop_empty hosts devicePath intervalSeconds remaining i err empty]
      have := ih (i + 1) (some .notExist)
      simp [globs, List.countP_cons] at this ⊢
      omega
    · rw [loop_nonempty hosts devicePath intervalSeconds remaining i err empty]
      simp [globs]

end waitForPathToExist

/-- For every number of attempts and every answers of the host, attempt by attempt:
`waitForPathToExist` globs at most `maxRetries` times; it returns the first listing with
`found`, having slept once after each attempt before it; after `maxRetries` attempts that listed
nothing it returns `ErrNotExist` (nil when no attempt was allowed). A failed glob counts as an
attempt that listed nothing. -/
theorem waitForPathToExist_attempts (hosts : Nat → Host) (devicePath : String)
    (maxRetries intervalSeconds : Int) :
    globs (waitForPathToExist hosts devicePath maxRetries intervalSeconds).effects ≤
        maxRetries.toNat ∧
      (∀ k < maxRetries.toNat, (∀ j < k, listed hosts devicePath j = []) →
        listed hosts devicePath k ≠ [] →
        waitForPathToExist hosts devicePath maxRetries intervalSeconds =
          ⟨(listed hosts devicePath k, true, none),
            retryEffects devicePath intervalSeconds k ++ [.glob devicePath]⟩) ∧
      ((∀ j < maxRetries.toNat, listed hosts devicePath j = []) →
        waitForPathToExist hosts devicePath maxRetries intervalSeconds =
          ⟨([], false, if maxRetries.toNat = 0 then none else some .notExist),
            retryEffects devicePath intervalSeconds maxRetries.toNat⟩) := by
  refine ⟨waitForPathToExist.loop_globs hosts devicePath intervalSeconds _ 0 none, ?_, ?_⟩
  · intro k within empties found
    simpa [waitForPathToExist] using waitForPathToExist.loop_found hosts devicePath intervalSeconds
      k _ 0 none within (fun j small => by simpa using empties j small) (by simpa using found)
  · intro empties
    exact waitForPathToExist.loop_exhausted hosts devicePath intervalSeconds _ 0 none
      (fun j small => by simpa using empties j small)

/-- A malformed pattern, here an IQN with an unclosed `[`, fails every glob with
`ErrBadPattern`; `waitForPathToExist` reports `ErrNotExist` instead. -/
theorem waitForPathToExist_bad_pattern_not_exist :
    waitForPathToExist (fun _ => { Host.empty with glob := fun _ => .error .badPattern })
        "/dev/disk/by-path/ip*-iscsi-iqn.[x-lun-1" 1 1 =
      ⟨([], false, some .notExist),
        [.glob "/dev/disk/by-path/ip*-iscsi-iqn.[x-lun-1", .sleep 1]⟩ := by
  decide

end BlockCsi.Node
