import BlockCsi.Go.Filepath

/-!
# The host under the node driver

The rescan utilities reach the kernel through `os`, `io/ioutil`, `path/filepath`, `time`, a
`sync.Mutex` and the injected executor. A `Host` answers each of these calls as the kernel would
at one moment; a `Run` is a computation together with the calls it made, in order.

Go returns a value and an error side by side. The host answers with `Except`, so that it cannot
give both; the calls below turn an answer into Go's pair, with the zero value beside an error.
-/

set_option autoImplicit false

namespace BlockCsi.Node

/-- The errors the rescan utilities meet or build: `os.ErrNotExist` (or a `*PathError` for which
`os.IsNotExist` holds), `os.ErrInvalid` of a nil `*os.File`, `filepath.ErrBadPattern`, any other
error of the host by its text, and the driver's own errors by their Go names, with the fields the
code fills in. -/
inductive GoError where
  | notExist
  | invalid
  | badPattern
  | host (text : String)
  | couldNotFindPath
  | failedToFindDevicePath (devicePath : String)
  | nothingWasWrittenToScanFile (filename : String)
  | unsupportedConnectivityType (connectivityType : String)
  | multipleDmDevices (volumeId : String) (lunId : Int) (arrayIqn : String) (devices : List String)
  | multipleDeviceNotFoundForLun (volumeId : String) (lunId : Int) (arrayIqn : String)
  | multipleDeviceNotFound (path devicePath : String)
  | connectivityIscsiStorageTargetNotFound (storageTargetName directoryPath : String)
  deriving DecidableEq, Repr

def GoError.isNotExist : GoError → Bool
  | .notExist => true
  | _ => false

/-- A call the driver makes on the host. -/
inductive Effect where
  | glob (pattern : String)
  | readlink (name : String)
  | readDir (dirname : String)
  | readFile (filename : String)
  | openFile (name : String)
  | writeString (name s : String)
  | openRead (name : String)
  | executeWithTimeout (mSeconds : Nat) (command : String) (args : List String)
  | sleep (seconds : Int)
  | lock (mutex : Nat)
  | unlock (mutex : Nat)
  deriving DecidableEq, Repr

/-- What the host answers to each call, at one moment: `readDir` gives the entries' names in
listing order, `writeString` the bytes written, `executeWithTimeout` the command's output. -/
structure Host where
  glob : String → Except GoError (List String)
  readlink : String → Except GoError String
  readDir : String → Except GoError (List String)
  readFile : String → Except GoError String
  openFile : String → Except GoError Unit
  writeString : String → String → Except GoError Nat
  openRead : String → Except GoError Unit
  executeWithTimeout : Nat → String → List String → Except GoError String

def Host.empty : Host where
  glob _ := .ok []
  readlink _ := .error .notExist
  readDir _ := .error .notExist
  readFile _ := .error .notExist
  openFile _ := .error .notExist
  writeString _ _ := .error .invalid
  openRead _ := .error .notExist
  executeWithTimeout _ _ _ := .error (.host "exit status 1")

/-- A computation of the driver and the calls it made on the host, in order. -/
@[ext] structure Run (α : Type) where
  value : α
  effects : List Effect
  deriving DecidableEq

instance : Monad Run where
  pure value := ⟨value, []⟩
  bind run next := ⟨(next run.value).value, run.effects ++ (next run.value).effects⟩

namespace Run

variable {α β : Type}

@[simp] theorem pure_value (value : α) : (pure value : Run α).value = value := rfl

@[simp] theorem pure_effects (value : α) : (pure value : Run α).effects = [] := rfl

@[simp] theorem bind_value (run : Run α) (next : α → Run β) :
    (run >>= next).value = (next run.value).value := rfl

@[simp] theorem bind_effects (run : Run α) (next : α → Run β) :
    (run >>= next).effects = run.effects ++ (next run.value).effects := rfl

def listen (run : Run α) : Run (α × List Effect) :=
  ⟨(run.value, run.effects), run.effects⟩

@[simp] theorem listen_value (run : Run α) : run.listen.value = (run.value, run.effects) := rfl

@[simp] theorem listen_effects (run : Run α) : run.listen.effects = run.effects := rfl

end Run

/-! The sleeps, writes and reads among the calls of a run. The driver sees the host change only
while it sleeps. -/

def sleeps (effects : List Effect) : Nat :=
  effects.countP fun effect => effect matches .sleep _

def writes (effects : List Effect) : List (String × String) :=
  effects.filterMap fun
    | .writeString name s => some (name, s)
    | _ => none

@[simp] theorem writes_nil : writes [] = [] := rfl

@[simp] theorem writes_cons (effect : Effect) (effects : List Effect) :
    writes (effect :: effects) =
      (match effect with
        | .writeString name s => [(name, s)]
        | _ => []) ++ writes effects := by
  cases effect <;> rfl

@[simp] theorem writes_append (earlier later : List Effect) :
    writes (earlier ++ later) = writes earlier ++ writes later :=
  List.filterMap_append _ _ _

def reads (effects : List Effect) : List String :=
  effects.filterMap fun
    | .readFile filename => some filename
    | _ => none

@[simp] theorem reads_nil : reads [] = [] := rfl

@[simp] theorem reads_cons (effect : Effect) (effects : List Effect) :
    reads (effect :: effects) =
      (match effect with
        | .readFile filename => [filename]
        | _ => []) ++ reads effects := by
  cases effect <;> rfl

@[simp] theorem reads_append (earlier later : List Effect) :
    reads (earlier ++ later) = reads earlier ++ reads later :=
  List.filterMap_append _ _ _

/-- A loop over a list that at each element either passes, writing `written x`, and goes on with
the rest, or stops with the element's error, having written `partialWrites x`. A run splits the
list at the first element that fails. -/
theorem loop_splits_at_first_failure {α : Type} (loop : List α → Run (Option GoError))
    (failure : α → Option GoError) (written : α → String × String)
    (partialWrites : α → List (String × String)) (xs : List α) (nil : loop [] = pure none)
    (passed : ∀ x ∈ xs, ∀ rest, failure x = none →
      (loop (x :: rest)).value = (loop rest).value ∧
        writes (loop (x :: rest)).effects = written x :: writes (loop rest).effects)
    (stopped : ∀ x ∈ xs, ∀ rest err, failure x = some err →
      (loop (x :: rest)).value = some err ∧ writes (loop (x :: rest)).effects = partialWrites x) :
    ∃ passedOnes rest, xs = passedOnes ++ rest ∧ (∀ x ∈ passedOnes, failure x = none) ∧
      match rest with
      | [] => (loop xs).value = none ∧ writes (loop xs).effects = passedOnes.map written
      | x :: _ => (failure x).isSome ∧ (loop xs).value = failure x ∧
          writes (loop xs).effects = passedOnes.map written ++ partialWrites x := by
  induction xs with
  | nil => exact ⟨[], [], rfl, by simp, by simp [nil]⟩
  | cons x xs ih =>
    obtain ⟨passedOnes, rest, split, allPassed, outcome⟩ :=
      ih (fun y member => passed y (.tail _ member)) (fun y member => stopped y (.tail _ member))
    cases failed : failure x with
    | none =>
      have step := passed x (.head _) xs failed
      refine ⟨x :: passedOnes, rest, by rw [split]; rfl, by simpa [failed] using allPassed, ?_⟩
      cases rest with
      | nil => exact ⟨step.1.trans outcome.1, by rw [step.2, outcome.2]; rfl⟩
      | cons y _ => exact ⟨outcome.1, step.1.trans outcome.2.1, by rw [step.2, outcome.2.2]; rfl⟩
    | some err =>
      have step := stopped x (.head _) xs err failed
      exact ⟨[], x :: xs, rfl, by simp, by simp [failed, step]⟩

structure File where
  name : String
  deriving DecidableEq, Repr

def goPair {α : Type} (zero : α) : Except GoError α → α × Option GoError
  | .ok value => (value, none)
  | .error err => (zero, some err)

@[simp] theorem goPair_ok {α : Type} (zero value : α) : goPair zero (.ok value) = (value, none) := rfl

@[simp] theorem goPair_error {α : Type} (zero : α) (err : GoError) :
    goPair zero (.error err) = (zero, some err) := rfl

/-! ## The library calls

Each turns the host's answer into Go's pair and records the call. `os.OpenFile` and `os.Open`
give a nil file beside an error; `WriteString` on a nil file refuses with `os.ErrInvalid` before
any system call, as `checkValid` does. `ioutil.ReadDir` keeps the names of the entries. -/

def filepathGlob (host : Host) (pattern : String) : Run (List String × Option GoError) :=
  ⟨goPair [] (host.glob pattern), [.glob pattern]⟩

def osReadlink (host : Host) (name : String) : Run (String × Option GoError) :=
  ⟨goPair "" (host.readlink name), [.readlink name]⟩

def ioutilReadDir (host : Host) (dirname : String) : Run (List String × Option GoError) :=
  ⟨goPair [] (host.readDir dirname), [.readDir dirname]⟩

def ioutilReadFile (host : Host) (filename : String) : Run (String × Option GoError) :=
  ⟨goPair "" (host.readFile filename), [.readFile filename]⟩

def osOpenFile (host : Host) (name : String) : Run (Option File × Option GoError) :=
  ⟨goPair none ((host.openFile name).map fun () => some ⟨name⟩), [.openFile name]⟩

def File.writeString (host : Host) : Option File → String → Run (Nat × Option GoError)
  | none, _ => pure (0, some .invalid)
  | some file, s => ⟨goPair 0 (host.writeString file.name s), [.writeString file.name s]⟩

def osOpen (host : Host) (name : String) : Run (Option File × Option GoError) :=
  ⟨goPair none ((host.openRead name).map fun () => some ⟨name⟩), [.openRead name]⟩

def executeWithTimeout (host : Host) (mSeconds : Nat) (command : String) (args : List String) :
    Run (String × Option GoError) :=
  ⟨goPair "" (host.executeWithTimeout mSeconds command args),
    [.executeWithTimeout mSeconds command args]⟩

def timeSleep (seconds : Int) : Run Unit :=
  ⟨(), [.sleep seconds]⟩

def mutexLock (mutex : Nat) : Run Unit :=
  ⟨(), [.lock mutex]⟩

def mutexUnlock (mutex : Nat) : Run Unit :=
  ⟨(), [.unlock mutex]⟩

section Calls

variable (host : Host)

@[simp] theorem filepathGlob_value (pattern : String) :
    (filepathGlob host pattern).value = goPair [] (host.glob pattern) := rfl

@[simp] theorem filepathGlob_effects (pattern : String) :
    (filepathGlob host pattern).effects = [.glob pattern] := rfl

@[simp] theorem osReadlink_value (name : String) :
    (osReadlink host name).value = goPair "" (host.readlink name) := rfl

@[simp] theorem osReadlink_effects (name : String) :
    (osReadlink host name).effects = [.readlink name] := rfl

@[simp] theorem ioutilReadDir_value (dirname : String) :
    (ioutilReadDir host dirname).value = goPair [] (host.readDir dirname) := rfl

@[simp] theorem ioutilReadDir_effects (dirname : String) :
    (ioutilReadDir host dirname).effects = [.readDir dirname] := rfl

@[simp] theorem ioutilReadFile_value (filename : String) :
    (ioutilReadFile host filename).value = goPair "" (host.readFile filename) := rfl

@[simp] theorem ioutilReadFile_effects (filename : String) :
    (ioutilReadFile host filename).effects = [.readFile filename] := rfl

@[simp] theorem osOpenFile_value (name : String) :
    (osOpenFile host name).value =
      match host.openFile name with
      | .ok () => (some ⟨name⟩, none)
      | .error err => (none, some err) := by
  simp only [osOpenFile]
  cases host.openFile name <;> rfl

@[simp] theorem osOpenFile_effects (name : String) :
    (osOpenFile host name).effects = [.openFile name] := rfl

@[simp] theorem osOpen_value (name : String) :
    (osOpen host name).value =
      match host.openRead name with
      | .ok () => (some ⟨name⟩, none)
      | .error err => (none, some err) := by
  simp only [osOpen]
  cases host.openRead name <;> rfl

@[simp] theorem osOpen_effects (name : String) :
    (osOpen host name).effects = [.openRead name] := rfl

@[simp] theorem executeWithTimeout_effects (mSeconds : Nat) (command : String) (args : List String) :
    (executeWithTimeout host mSeconds command args).effects =
      [.executeWithTimeout mSeconds command args] := rfl

@[simp] theorem executeWithTimeout_value (mSeconds : Nat) (command : String) (args : List String) :
    (executeWithTimeout host mSeconds command args).value =
      goPair "" (host.executeWithTimeout mSeconds command args) := rfl

@[simp] theorem writeString_nil_file (s : String) :
    File.writeString host none s = pure (0, some .invalid) := rfl

@[simp] theorem writeString_file (file : File) (s : String) :
    File.writeString host (some file) s =
      ⟨goPair 0 (host.writeString file.name s), [.writeString file.name s]⟩ := rfl

@[simp] theorem timeSleep_effects (seconds : Int) : (timeSleep seconds).effects = [.sleep seconds] :=
  rfl

end Calls

end BlockCsi.Node
