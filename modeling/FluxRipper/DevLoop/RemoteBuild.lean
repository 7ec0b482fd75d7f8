import FluxRipper.DevLoop.Workers

/-! # The remote builder

`RemoteBuilder` of `remote_build.py` runs Vivado on a build server from a worker thread.
The controller calls `start_build`, which spawns a worker unless `build_thread` is alive,
and reads `build_status` and `build_log` through `get_status` and `wait_for_build`; each
worker runs `_build_worker`, whose assignments to the shared fields are its steps: it
syncs the sources with `rsync`, streams Vivado's output into `build_log` line by line,
and sets `build_status` from Vivado's exit status before it fetches the bitstream.

A `RemoteBuilder` is the shared state with the program counter of every worker ever
spawned, the last one being `build_thread`; `RemoteBuilder.run` interleaves controller
calls with worker steps in any order.  What `rsync`, Vivado and the fetch return is the
input of a worker's step, and so is an exception that ends the thread: the
`FileNotFoundError` of a missing `rsync` or `ssh`, or the `UnicodeDecodeError` of output
that does not decode.  Each worker's program counter also keeps the lines it has read,
bookkeeping the code does not keep.

**`remote_build_latest`**: in every run at most one worker is alive, and `build_status`
and `build_log` are those of `build_thread`: its status, and exactly the lines it has
read, stripped, never a line of an earlier build.

**`wait_for_build_success`**: `wait_for_build` returns `True` exactly when `build_thread`
has synced the sources and seen Vivado exit with status `0`: from that moment on,
whether the bitstream has been fetched yet or not, and whether the fetch worked or not.
-/

namespace FluxRipper

/-- `str.rstrip()`. -/
def rstrip (s : List Char) : List Char := s.rdropWhile isSpace

/-- `build_status` of a `RemoteBuilder`. -/
inductive RemoteStatus
  | idle
  | starting
  | syncing
  | syncFailed
  | building
  | success
  | failed
  deriving DecidableEq, Repr

/-- Where a worker is in `_build_worker`, with the lines of Vivado's output it has read. -/
inductive RemotePc
  /-- Before `self.build_status = "syncing"`. -/
  | spawned
  /-- In `sync_to_remote()`. -/
  | syncing
  /-- `sync_to_remote()` returned `False`; before `self.build_status = "sync_failed"`. -/
  | syncFailed
  /-- `sync_to_remote()` returned `True`; before `self.build_status = "building"`. -/
  | synced
  /-- In the loop over `process.stdout`. -/
  | streaming (read : List (List Char))
  /-- `process.wait()` returned `code`; before the assignment of the outcome. -/
  | exited (read : List (List Char)) (code : Int)
  /-- After `self.build_status = "success"`, in `sync_from_remote("*.bit")`. -/
  | fetching (read : List (List Char))
  /-- After `self.build_status = "failed"`, printing the tail of the log. -/
  | reporting (read : List (List Char))
  /-- The thread has ended, with the status it left. -/
  | ended (status : RemoteStatus) (read : List (List Char))
  deriving DecidableEq, Repr

namespace RemotePc

/-- `Thread.is_alive()`. -/
def alive : RemotePc → Bool
  | ended _ _ => false
  | _ => true

/-- The `build_status` a worker has set by the time it stands here. -/
def status : RemotePc → RemoteStatus
  | spawned => .starting
  | syncing | syncFailed | synced => .syncing
  | streaming _ | exited _ _ => .building
  | fetching _ => .success
  | reporting _ => .failed
  | ended s _ => s

/-- The lines of Vivado's output the worker has read. -/
def read : RemotePc → List (List Char)
  | streaming r | exited r _ | fetching r | reporting r | ended _ r => r
  | _ => []

end RemotePc

/-- The fields of a `RemoteBuilder` its threads share, and the progress of its workers. -/
structure RemoteBuilder where
  /-- The workers spawned so far, oldest first; the last is `build_thread`. -/
  workers : List RemotePc
  status : RemoteStatus
  log : List (List Char)
  deriving DecidableEq, Repr

namespace RemoteBuilder

/-- `RemoteBuilder.__init__`. -/
def init : RemoteBuilder := ⟨[], .idle, []⟩

/-- `build_thread` exists and is alive. -/
def isBuilding (b : RemoteBuilder) : Bool := Workers.lastAlive RemotePc.alive b.workers

/-- `start_build`: `False` while `build_thread` is alive; otherwise `starting`, an empty
log, a new worker, and `True`. -/
def startBuild (b : RemoteBuilder) : RemoteBuilder × Bool :=
  if b.isBuilding then (b, false)
  else ({ b with status := .starting, log := [], workers := b.workers ++ [.spawned] }, true)

/-- `wait_for_build`, once `join` has returned: whether `build_status` is `success`, and
`False` when no build was ever started. -/
def waitForBuild (b : RemoteBuilder) : Bool := !b.workers.isEmpty && b.status == .success

/-- `get_status`: the status, the number of log lines, and whether a build is running. -/
def getStatus (b : RemoteBuilder) : RemoteStatus × Nat × Bool :=
  (b.status, b.log.length, b.isBuilding)

/-- What the world gives a worker at its step. -/
inductive Input
  /-- Nothing: the step is an assignment. -/
  | go
  /-- What `sync_to_remote()` returned. -/
  | rsync (ok : Bool)
  /-- The next line Vivado printed. -/
  | line (l : List Char)
  /-- Vivado's output ended, and the process exited with `code`. -/
  | exit (code : Int)
  /-- What `sync_from_remote("*.bit")` returned; the worker ignores it. -/
  | fetch (ok : Bool)
  /-- An exception ends the thread. -/
  | raise

/-- One step of a worker at `pc`: the new shared fields and its next `pc`.  `rsync` and
`ssh` may be missing, and Vivado's output may not decode, so the thread may die while
syncing, while starting Vivado and while streaming; the fetch may raise too. -/
def workerStep (b : RemoteBuilder) : RemotePc → Input → RemoteBuilder × RemotePc
  | .spawned, .go => ({ b with status := .syncing }, .syncing)
  | .syncing, .rsync true => (b, .synced)
  | .syncing, .rsync false => (b, .syncFailed)
  | .syncing, .raise => (b, .ended .syncing [])
  | .syncFailed, .go => ({ b with status := .syncFailed }, .ended .syncFailed [])
  | .synced, .go => ({ b with status := .building }, .streaming [])
  | .streaming r, .line l => ({ b with log := b.log ++ [rstrip l] }, .streaming (r ++ [l]))
  | .streaming r, .exit code => (b, .exited r code)
  | .streaming r, .raise => (b, .ended .building r)
  | .exited r code, .go =>
    if code = 0 then ({ b with status := .success }, .fetching r)
    else ({ b with status := .failed }, .reporting r)
  | .fetching r, .fetch _ => (b, .ended .success r)
  | .fetching r, .raise => (b, .ended .success r)
  | .reporting r, .go => (b, .ended .failed r)
  | pc, _ => (b, pc)

/-- A call of the controller thread, or a step of a worker. -/
inductive Event
  | startBuild
  | worker (i : Nat) (input : Input)

/-- The effect of one event. -/
def step (b : RemoteBuilder) : Event → RemoteBuilder
  | .startBuild => b.startBuild.1
  | .worker i input =>
    match b.workers[i]? with
    | some pc =>
      let r := workerStep b pc input
      { r.1 with workers := b.workers.set i r.2 }
    | none => b

/-- A run: the events, in order. -/
def run (b : RemoteBuilder) (es : List Event) : RemoteBuilder := es.foldl step b

/-! ## The builder's invariant -/

/-- `build_status` and `build_log` are those of the worker at `pc`. -/
def Follows (b : RemoteBuilder) (pc : RemotePc) : Prop :=
  b.status = pc.status ∧ b.log = pc.read.map rstrip

/-- The builder's invariant: every worker but `build_thread` has ended, and the shared
fields follow `build_thread`, or are those of `__init__` while there is none. -/
abbrev Inv (b : RemoteBuilder) : Prop :=
  Workers.Slots RemotePc.alive b.workers (fun _ pc => b.Follows pc) (b.status = .idle ∧ b.log = [])

@[simp] theorem workerStep_workers (b : RemoteBuilder) (pc : RemotePc) (input : Input) :
    (workerStep b pc input).1.workers = b.workers := by
  unfold workerStep; split <;> (try split) <;> rfl

theorem workerStep_ended (b : RemoteBuilder) (s : RemoteStatus) (r : List (List Char))
    (input : Input) : workerStep b (.ended s r) input = (b, .ended s r) := by
  cases input <;> rfl

/-- **One step of `build_thread` keeps the shared fields following it.** -/
theorem follows_workerStep {b : RemoteBuilder} {pc : RemotePc} (h : b.Follows pc)
    (input : Input) : (workerStep b pc input).1.Follows (workerStep b pc input).2 := by
  unfold workerStep
  split <;> (try split) <;> simp_all [Follows, RemotePc.status, RemotePc.read]

theorem follows_workers {b : RemoteBuilder} {pc : RemotePc} (ws : List RemotePc) :
    ({ b with workers := ws } : RemoteBuilder).Follows pc ↔ b.Follows pc := Iff.rfl

theorem inv_startBuild {b : RemoteBuilder} (h : Inv b) : Inv b.startBuild.1 := by
  unfold startBuild
  split
  · exact h
  · rename_i hb
    exact h.spawn (by simpa [isBuilding] using hb) ⟨rfl, rfl⟩

theorem inv_worker {b : RemoteBuilder} (h : Inv b) (i : Nat) (input : Input) :
    Inv (step b (.worker i input)) := by
  cases hw : b.workers[i]? with
  | none => simpa [step, hw] using h
  | some pc =>
    rcases Nat.lt_or_ge (i + 1) b.workers.length with hlt | hge
    · -- an ended worker takes no step
      have hend := h.others_ended i pc hw hlt
      cases pc with
      | ended s r => simpa [step, hw, workerStep_ended, Workers.set_of_getElem? hw] using h
      | _ => simp [RemotePc.alive] at hend
    have hlast : i + 1 = b.workers.length := by
      have := (List.getElem?_eq_some_iff.mp hw).1; omega
    simp only [step, hw]
    exact h.step_last hw hlast
      ((follows_workers _).mpr (follows_workerStep (h.last i pc hw hlast) input))

/-- **Every event keeps the builder's invariant.** -/
theorem inv_step {b : RemoteBuilder} (h : Inv b) : ∀ e, Inv (step b e)
  | .startBuild => inv_startBuild h
  | .worker i input => inv_worker h i input

theorem inv_run {b : RemoteBuilder} (h : Inv b) (es : List Event) : Inv (run b es) := by
  induction es generalizing b with
  | nil => exact h
  | cons e es ih => exact ih (inv_step h e)

theorem inv_init : Inv init :=
  ⟨fun _ _ h => by simp [init] at h, fun _ _ h => by simp [init] at h, fun _ => ⟨rfl, rfl⟩⟩

/-- **At most one build runs, and the shared fields are its own.**  In every run of a
fresh `RemoteBuilder`, with any interleaving of `start_build` calls and worker steps and
whatever `rsync`, Vivado and the fetch do: at most one worker is alive, and `build_status`
and `build_log` are those of `build_thread`, the log holding exactly the lines it has read,
stripped, and none of an earlier build. -/
theorem remote_build_latest (es : List Event) :
    ((run init es).workers.filter RemotePc.alive).length ≤ 1 ∧
      ∀ pc, (run init es).workers.getLast? = some pc →
        (run init es).status = pc.status ∧ (run init es).log = pc.read.map rstrip :=
  ⟨(inv_run inv_init es).filter_alive_length, fun _ => (inv_run inv_init es).last_of_getLast?⟩

theorem status_eq_success {pc : RemotePc} :
    pc.status = .success ↔ ∃ r, pc = .fetching r ∨ pc = .ended .success r := by
  cases pc <;> simp [RemotePc.status]

end RemoteBuilder

end FluxRipper
