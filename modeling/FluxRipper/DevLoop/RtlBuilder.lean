import FluxRipper.DevLoop.Workers

/-! # The background RTL builder

`RTLBuilder` runs Vivado in a worker thread.  The controller thread calls `start_build`,
which spawns a worker unless `build_thread` is alive, reads `is_building` and
`bitstream_ready`, and clears `bitstream_ready`; each worker runs `_build_worker`, whose
assignments to the shared fields are its steps.  A `RtlBuilder` is the shared state with
the program counter of every worker ever spawned (the last one is `build_thread`), and
`RtlBuilder.run` interleaves controller calls with worker steps in any order.  The outcome of
Vivado and the hash a worker reads are part of its step, so every toolchain outcome is
covered.

**`one_worker_success_ready`**: in every run, at most one worker is alive, a `start_build`
while one is alive spawns nothing, and whenever `bitstream_ready` is set, `build_status` is
`success` and `last_hash` was written by the most recently started worker.

**`build_worker_outcome`**: a worker ends in `success` exactly when Vivado exited with
status `0` and the rehash returned, in `timeout` exactly when Vivado timed out, in `error`
when the rehash after a clean exit raised, and in `failed` only after a non-zero exit.  A
clean exit is therefore not always a success (`build_outcome_counterexample`).
`run_lastHash_after_exit` traces `last_hash` back to the hash a worker read after Vivado
exited.
-/

namespace FluxRipper

/-- `build_status`.  The text of an `error: {e}` status is left out. -/
inductive BuildStatus
  | idle
  | running
  | success
  | failed
  | timeout
  | error
  deriving DecidableEq, Repr

/-- Where a worker is in `_build_worker`: the next assignment it makes. -/
inductive WorkerPc
  /-- Before `self.build_status = "running"`. -/
  | spawned
  /-- Vivado is running. -/
  | building
  /-- Before `self.last_hash = self.get_source_hash()`. -/
  | hashing
  /-- Before `self.build_status = "success"`. -/
  | hashed
  /-- Before `self.bitstream_ready.set()`. -/
  | succeeded
  /-- Printing the failure with `result.stderr.decode()`, which may raise. -/
  | failedReport (stderr : List UInt8)
  /-- Printing its last message. -/
  | reporting
  /-- The thread has ended. -/
  | done
  deriving DecidableEq, Repr

/-- `Thread.is_alive()`. -/
def WorkerPc.alive : WorkerPc → Bool
  | .done => false
  | _ => true

/-- The fields of an `RTLBuilder` its threads share, and the progress of its workers. -/
structure RtlBuilder where
  /-- The workers spawned so far, oldest first; the last is `build_thread`. -/
  workers : List WorkerPc
  status : BuildStatus
  lastHash : Option Nat
  /-- The worker that wrote `last_hash`. -/
  lastHashBy : Option Nat
  /-- `bitstream_ready.is_set()`. -/
  ready : Bool
  deriving DecidableEq, Repr

namespace RtlBuilder

/-- `RTLBuilder.__init__`. -/
def init : RtlBuilder := ⟨[], .idle, none, none, false⟩

/-- `is_building`: `build_thread` exists and is alive. -/
def isBuilding (b : RtlBuilder) : Bool := Workers.lastAlive WorkerPc.alive b.workers

/-- `wait_for_build`: `bitstream_ready.wait(timeout)`, the flag as it stands when the wait
returns. -/
def waitForBuild (b : RtlBuilder) : Bool := b.ready

/-- `start_build`: nothing while `build_thread` is alive; otherwise clear
`bitstream_ready` and spawn a worker. -/
def startBuild (b : RtlBuilder) : RtlBuilder :=
  if b.isBuilding then b else { b with ready := false, workers := b.workers ++ [.spawned] }

/-- `bitstream_ready.clear()`. -/
def clearReady (b : RtlBuilder) : RtlBuilder := { b with ready := false }

/-- What the world gives a worker at its step. -/
inductive WorkerInput
  /-- Nothing: the step is an assignment. -/
  | go
  /-- How Vivado ended. -/
  | vivado (outcome : RunOutcome)
  /-- What `get_source_hash()` returned, or raised. -/
  | hash (answer : Except PyExc Nat)

/-- One step of the worker `i` at `pc`: the new shared fields and its next `pc`. -/
def workerStep (b : RtlBuilder) (i : Nat) : WorkerPc → WorkerInput → RtlBuilder × WorkerPc
  | .spawned, .go => ({ b with status := .running }, .building)
  | .building, .vivado (.exited code stderr) =>
    if code = 0 then (b, .hashing) else ({ b with status := .failed }, .failedReport stderr)
  | .building, .vivado .timedOut => ({ b with status := .timeout }, .reporting)
  | .hashing, .hash (.ok h) => ({ b with lastHash := some h, lastHashBy := some i }, .hashed)
  | .hashing, .hash (.error _) => ({ b with status := .error }, .reporting)
  | .hashed, .go => ({ b with status := .success }, .succeeded)
  | .succeeded, .go => ({ b with ready := true }, .reporting)
  | .failedReport stderr, .go =>
    (if decodesUtf8 stderr then b else { b with status := .error }, .done)
  | .reporting, .go => (b, .done)
  | pc, _ => (b, pc)

/-- A call of the controller thread, or a step of a worker. -/
inductive Event
  | startBuild
  | clearReady
  | worker (i : Nat) (input : WorkerInput)

/-- The effect of one event. -/
def step (b : RtlBuilder) : Event → RtlBuilder
  | .startBuild => b.startBuild
  | .clearReady => b.clearReady
  | .worker i input =>
    match b.workers[i]? with
    | some pc =>
      let r := workerStep b i pc input
      { r.1 with workers := b.workers.set i r.2 }
    | none => b

/-- A run: the events, in order. -/
def run (b : RtlBuilder) (es : List Event) : RtlBuilder := es.foldl step b

/-! ## The builder's invariant -/

/-- What the progress of `build_thread`, the worker `i`, says about the shared fields:
`last_hash` is its own from its hash on, `build_status` is `success` once it set it, and
`bitstream_ready` is set only once it has set it, after both. -/
def ThreadInv (b : RtlBuilder) (i : Nat) : WorkerPc → Prop
  | .hashed => b.ready = false ∧ b.lastHashBy = some i
  | .succeeded => b.ready = false ∧ b.lastHashBy = some i ∧ b.status = .success
  | .reporting | .done => b.ready = true → b.status = .success ∧ b.lastHashBy = some i
  | _ => b.ready = false

/-- The builder's invariant: every worker but `build_thread` has ended, `ThreadInv` holds
of `build_thread`, and `bitstream_ready` is clear before the first spawn. -/
abbrev Inv (b : RtlBuilder) : Prop :=
  Workers.Slots WorkerPc.alive b.workers (ThreadInv b) (b.ready = false)

theorem WorkerPc.eq_done {pc : WorkerPc} (h : pc.alive = false) : pc = .done := by
  cases pc <;> simp_all [WorkerPc.alive]

theorem threadInv_of_ready_false {b : RtlBuilder} {i : Nat} {pc : WorkerPc}
    (h : ThreadInv b i pc) : ThreadInv { b with ready := false } i pc := by
  cases pc <;> simp_all [ThreadInv]

/-- **One step of `build_thread` keeps `ThreadInv`.** -/
theorem threadInv_workerStep {b : RtlBuilder} {i : Nat} {pc : WorkerPc} (input : WorkerInput)
    (h : ThreadInv b i pc) :
    ThreadInv (workerStep b i pc input).1 i (workerStep b i pc input).2 := by
  unfold workerStep
  split <;> (try split) <;> first | exact h | simp_all [ThreadInv]

/-- A worker that has ended takes no more steps. -/
theorem step_done {b : RtlBuilder} {i : Nat} (h : b.workers[i]? = some .done)
    (input : WorkerInput) : step b (.worker i input) = b := by
  simp only [step, h, workerStep, Workers.set_of_getElem? h]

theorem threadInv_workers {b : RtlBuilder} {i : Nat} {pc : WorkerPc} (ws : List WorkerPc) :
    ThreadInv { b with workers := ws } i pc ↔ ThreadInv b i pc := by
  cases pc <;> rfl

theorem inv_startBuild {b : RtlBuilder} (h : Inv b) : Inv b.startBuild := by
  unfold startBuild
  split
  · exact h
  · rename_i hb
    exact h.spawn (by simpa [isBuilding] using hb) rfl

theorem inv_clearReady {b : RtlBuilder} (h : Inv b) : Inv b.clearReady :=
  h.imp (fun _ _ => threadInv_of_ready_false) fun _ => rfl

theorem inv_worker {b : RtlBuilder} (h : Inv b) (i : Nat) (input : WorkerInput) :
    Inv (step b (.worker i input)) := by
  cases hw : b.workers[i]? with
  | none => simpa [step, hw] using h
  | some pc =>
    rcases Nat.lt_or_ge (i + 1) b.workers.length with hlt | hge
    · rw [step_done (hw.trans (congrArg some (WorkerPc.eq_done (h.others_ended i pc hw hlt))))]
      exact h
    have hlast : i + 1 = b.workers.length := by
      have := (List.getElem?_eq_some_iff.mp hw).1; omega
    simp only [step, hw]
    exact h.step_last hw hlast
      ((threadInv_workers _).mpr (threadInv_workerStep input (h.last i pc hw hlast)))

/-- **Every event keeps the builder's invariant.** -/
theorem inv_step {b : RtlBuilder} (h : Inv b) : ∀ e, Inv (step b e)
  | .startBuild => inv_startBuild h
  | .clearReady => inv_clearReady h
  | .worker i input => inv_worker h i input

theorem inv_run {b : RtlBuilder} (h : Inv b) (es : List Event) : Inv (run b es) := by
  induction es generalizing b with
  | nil => exact h
  | cons e es ih => exact ih (inv_step h e)

theorem inv_init : Inv init := ⟨fun _ _ h => by simp [init] at h, fun _ _ h => by simp [init] at h,
  fun _ => rfl⟩

theorem ready_success {b : RtlBuilder} (h : Inv b) (hr : b.ready = true) :
    b.status = .success ∧ b.lastHashBy = some (b.workers.length - 1) := by
  have hpos : 0 < b.workers.length := List.length_pos.mpr fun he => by simp [h.empty he] at hr
  obtain ⟨pc, hpc⟩ : ∃ pc, b.workers[b.workers.length - 1]? = some pc :=
    ⟨_, List.getElem?_eq_getElem (by omega)⟩
  have ht := h.last _ pc hpc (by omega)
  cases pc with
  | reporting | done => exact ht hr
  | hashed | succeeded => exact absurd (ht.1.symm.trans hr) Bool.false_ne_true
  | _ => exact absurd (ht.symm.trans hr) Bool.false_ne_true

/-! ## What a step can do to `last_hash` and to a worker -/

@[simp] theorem startBuild_lastHash (b : RtlBuilder) : b.startBuild.lastHash = b.lastHash := by
  unfold startBuild; split <;> rfl

@[simp] theorem workerStep_workers (b : RtlBuilder) (i : Nat) (pc : WorkerPc)
    (input : WorkerInput) : (workerStep b i pc input).1.workers = b.workers := by
  unfold workerStep; split <;> (try split) <;> rfl

theorem step_worker {b : RtlBuilder} {i : Nat} {pc : WorkerPc} (h : b.workers[i]? = some pc)
    (input : WorkerInput) :
    step b (.worker i input) =
      { (workerStep b i pc input).1 with workers := b.workers.set i (workerStep b i pc input).2 } := by
  simp only [step, h]

/-- Only the hash step of a worker at `hashing` writes `last_hash`, and it writes the hash
that `get_source_hash` returned. -/
theorem workerStep_lastHash (b : RtlBuilder) (i : Nat) (pc : WorkerPc) (input : WorkerInput) :
    (workerStep b i pc input).1.lastHash = b.lastHash ∨
      pc = .hashing ∧ ∃ h, input = .hash (.ok h) ∧ (workerStep b i pc input).1.lastHash = some h := by
  unfold workerStep
  split <;> (try split) <;> simp

/-- A worker reaches `hashing` only from `building`, when Vivado exited with status `0`. -/
theorem workerStep_hashing {b : RtlBuilder} {i : Nat} {pc : WorkerPc} {input : WorkerInput}
    (h : (workerStep b i pc input).2 = .hashing) :
    pc = .hashing ∨ pc = .building ∧ ∃ s, input = .vivado (.exited 0 s) := by
  unfold workerStep at h
  split at h <;> (try split at h) <;> first | exact .inl h | (cases h; done) | simp_all

/-- What a step does to worker `i`: `start_build` may spawn it, its own step moves it, and
nothing else touches it. -/
theorem step_pc {b : RtlBuilder} {e : Event} {i : Nat} {pc : WorkerPc}
    (hs : (step b e).workers[i]? = some pc) :
    b.workers[i]? = some pc ∨ pc = .spawned ∨
      ∃ input pc₀, e = .worker i input ∧ b.workers[i]? = some pc₀ ∧
        (workerStep b i pc₀ input).2 = pc := by
  cases e with
  | startBuild =>
    simp only [step, startBuild] at hs
    split at hs
    · exact .inl hs
    · rw [List.getElem?_append] at hs
      split at hs
      · exact .inl hs
      · rw [List.getElem?_cons] at hs
        split at hs <;> simp_all
  | clearReady => exact .inl hs
  | worker j input =>
    cases hw : b.workers[j]? with
    | none => simp only [step, hw] at hs; exact .inl hs
    | some pc₀ =>
      rw [step_worker hw, List.getElem?_set'] at hs
      split at hs
      · subst j
        simp only [hw, Option.map_eq_map, Option.map_some', Function.const_apply,
          Option.some.injEq] at hs
        exact .inr (.inr ⟨input, pc₀, rfl, hw, hs⟩)
      · exact .inl hs

theorem step_lastHash {b : RtlBuilder} {e : Event} {h : Nat} (hs : (step b e).lastHash = some h) :
    b.lastHash = some h ∨ ∃ i, e = .worker i (.hash (.ok h)) ∧ b.workers[i]? = some .hashing := by
  cases e with
  | startBuild => exact .inl (by simpa [step] using hs)
  | clearReady => exact .inl hs
  | worker i input =>
    cases hw : b.workers[i]? with
    | none => simp only [step, hw] at hs; exact .inl hs
    | some pc =>
      rw [step_worker hw] at hs
      rcases workerStep_lastHash b i pc input with he | ⟨rfl, h', rfl, he⟩
      · exact .inl (he ▸ hs)
      · obtain rfl : h' = h := Option.some.inj (he.symm.trans hs)
        exact .inr ⟨i, rfl, hw⟩

theorem step_hashing {b : RtlBuilder} {e : Event} {i : Nat}
    (hs : (step b e).workers[i]? = some .hashing) :
    b.workers[i]? = some .hashing ∨
      ∃ s, e = .worker i (.vivado (.exited 0 s)) ∧ b.workers[i]? = some .building := by
  rcases step_pc hs with h | h | ⟨input, pc₀, rfl, hw, hpc⟩
  · exact .inl h
  · cases h
  · rcases workerStep_hashing hpc with rfl | ⟨rfl, s, rfl⟩
    exacts [.inl hw, .inr ⟨s, rfl, hw⟩]

/-! ## Where a value of a run comes from -/

theorem run_append_singleton (b : RtlBuilder) (es : List Event) (e : Event) :
    run b (es ++ [e]) = step (run b es) e := by
  simp [run]

/-- If a step makes `Q` true only as a step `e` from a state `s` with `R s e`, a run from a
state outside `Q` to a state in `Q` takes such a step. -/
theorem run_witness {Q : RtlBuilder → Prop} {R : RtlBuilder → Event → Prop}
    (hstep : ∀ s e, Q (step s e) → Q s ∨ R s e) {b : RtlBuilder} (hb : ¬Q b) (es : List Event)
    (hQ : Q (run b es)) : ∃ es₁ e es₂, es = es₁ ++ e :: es₂ ∧ R (run b es₁) e := by
  induction es using List.reverseRecOn with
  | nil => exact absurd hQ hb
  | append_singleton es e ih =>
    rw [run_append_singleton] at hQ
    rcases hstep _ e hQ with h | h
    · obtain ⟨es₁, e', es₂, rfl, hr⟩ := ih h
      exact ⟨es₁, e', es₂ ++ [e], by simp, hr⟩
    · exact ⟨es, e, [], rfl, h⟩

/-- **`last_hash` is a hash read after a clean Vivado exit.**  When a run leaves `last_hash`
at `some h`, some worker `i` saw Vivado exit with status `0`, and later, with any events
between, read `h` from `get_source_hash`. -/
theorem run_lastHash_after_exit {es : List Event} {h : Nat}
    (hr : (run init es).lastHash = some h) :
    ∃ es₁ s es₂ i es₃,
      es = es₁ ++ .worker i (.vivado (.exited 0 s)) :: es₂ ++ .worker i (.hash (.ok h)) :: es₃ ∧
        (run init es₁).workers[i]? = some .building ∧
        (run init (es₁ ++ .worker i (.vivado (.exited 0 s)) :: es₂)).workers[i]? =
          some .hashing := by
  obtain ⟨P, e, es₃, rfl, i, rfl, hP⟩ := @run_witness (fun s => s.lastHash = some h)
    (fun s e => ∃ i, e = .worker i (.hash (.ok h)) ∧ s.workers[i]? = some .hashing)
    (fun _ _ hs => step_lastHash hs) init (by simp [init]) es hr
  obtain ⟨es₁, e, es₂, rfl, s, rfl, h₁⟩ := @run_witness (fun s => s.workers[i]? = some .hashing)
    (fun s e => ∃ st, e = .worker i (.vivado (.exited 0 st)) ∧ s.workers[i]? = some .building)
    (fun _ _ hs => step_hashing hs) init (by simp [init]) P hP
  exact ⟨es₁, s, es₂, i, es₃, by simp, h₁, hP⟩

/-! ## How a build ends -/

/-- The steps of worker `i` from its spawn on, when Vivado ends with `o` and the rehash
after a clean exit answers `a`.  An input a worker does not take at its `pc` leaves it
where it is, so this one schedule drives every outcome to the worker's end. -/
def workerTurns (i : Nat) (o : RunOutcome) (a : Except PyExc Nat) : List Event :=
  [.worker i .go, .worker i (.vivado o), .worker i (.hash a), .worker i .go, .worker i .go,
    .worker i .go]

/-- **How a build worker ends.**  Started at `spawned`, worker `i` ends, with `build_status`
`success` exactly when Vivado exited with status `0` and the rehash returned, `timeout`
exactly when Vivado timed out, `error` when Vivado exited with status `0` and the rehash
raised, and `failed` only after a non-zero exit, and always after one whose `stderr`
decodes. -/
theorem build_worker_outcome {b : RtlBuilder} {i : Nat} (hi : b.workers[i]? = some .spawned)
    (o : RunOutcome) (a : Except PyExc Nat) :
    (run b (workerTurns i o a)).workers[i]? = some .done ∧
      ((run b (workerTurns i o a)).status = .success ↔ (∃ s, o = .exited 0 s) ∧ ∃ h, a = .ok h) ∧
      ((run b (workerTurns i o a)).status = .timeout ↔ o = .timedOut) ∧
      (∀ s e, o = .exited 0 s → a = .error e → (run b (workerTurns i o a)).status = .error) ∧
      ((run b (workerTurns i o a)).status = .failed → ∃ c s, o = .exited c s ∧ c ≠ 0) ∧
      ∀ c s, o = .exited c s → c ≠ 0 → decodesUtf8 s = true →
        (run b (workerTurns i o a)).status = .failed := by
  cases o with
  | timedOut => simp [run, workerTurns, step, workerStep, List.getElem?_set', hi]
  | exited c s =>
    by_cases hc : c = 0
    · subst hc
      cases a <;> simp [run, workerTurns, step, workerStep, List.getElem?_set', hi]
    · cases hs : decodesUtf8 s <;>
        simp [run, workerTurns, step, workerStep, List.getElem?_set', hi, hc, hs]

/-- The first build, with Vivado exiting cleanly and the rehash returning `7`. -/
theorem build_worker_outcome_first_build :
    init.startBuild.workers[0]? = some .spawned ∧
      (run init.startBuild (workerTurns 0 (.exited 0 []) (.ok 7))).workers[0]? = some .done ∧
      ((run init.startBuild (workerTurns 0 (.exited 0 []) (.ok 7))).status = .success ↔
        (∃ s, RunOutcome.exited 0 [] = .exited 0 s) ∧ ∃ h, (.ok 7 : Except PyExc Nat) = .ok h) ∧
      ((run init.startBuild (workerTurns 0 (.exited 0 []) (.ok 7))).status = .timeout ↔
        RunOutcome.exited 0 [] = .timedOut) ∧
      (∀ s e, RunOutcome.exited 0 [] = .exited 0 s → (.ok 7 : Except PyExc Nat) = .error e →
        (run init.startBuild (workerTurns 0 (.exited 0 []) (.ok 7))).status = .error) ∧
      ((run init.startBuild (workerTurns 0 (.exited 0 []) (.ok 7))).status = .failed →
        ∃ c s, RunOutcome.exited 0 [] = .exited c s ∧ c ≠ 0) ∧
      ∀ c s, RunOutcome.exited 0 [] = .exited c s → c ≠ 0 → decodesUtf8 s = true →
        (run init.startBuild (workerTurns 0 (.exited 0 []) (.ok 7))).status = .failed :=
  ⟨rfl, build_worker_outcome rfl (.exited 0 []) (.ok 7)⟩

/-- Vivado exits cleanly and the rehash raises `FileNotFoundError`: the worker ends in
`error`, not `success`. -/
theorem build_outcome_counterexample :
    ¬∀ (b : RtlBuilder) (i : Nat) (o : RunOutcome) (a : Except PyExc Nat),
      b.workers[i]? = some .spawned →
      ((run b (workerTurns i o a)).status = .success ↔ ∃ s, o = .exited 0 s) ∧
        ((run b (workerTurns i o a)).status = .failed ↔ ∃ c s, o = .exited c s ∧ c ≠ 0) ∧
        ((run b (workerTurns i o a)).status = .timeout ↔ o = .timedOut) := fun h =>
  absurd ((h init.startBuild 0 (.exited 0 []) (.error .fileNotFound) rfl).1.mpr ⟨[], rfl⟩)
    (by decide)

end RtlBuilder

/-- **The RTL orchestrator's invariant.**  In every interleaving of controller calls with
worker steps, and for every outcome of Vivado and of the hashes the workers read, at most
one build worker is alive, a `start_build` while one is alive spawns nothing, and whenever
`bitstream_ready` is set, `build_status` is `success` and `last_hash` was written by the most
recently started worker. -/
theorem one_worker_success_ready (es : List RtlBuilder.Event) :
    ((RtlBuilder.run .init es).workers.filter WorkerPc.alive).length ≤ 1 ∧
      ((RtlBuilder.run .init es).isBuilding = true →
        RtlBuilder.step (RtlBuilder.run .init es) .startBuild = RtlBuilder.run .init es) ∧
      ((RtlBuilder.run .init es).ready = true →
        (RtlBuilder.run .init es).status = .success ∧
          (RtlBuilder.run .init es).lastHashBy = some ((RtlBuilder.run .init es).workers.length - 1)) := by
  have h := RtlBuilder.inv_run RtlBuilder.inv_init es
  refine ⟨h.filter_alive_length, fun hb => ?_, RtlBuilder.ready_success h⟩
  simp [RtlBuilder.step, RtlBuilder.startBuild, hb]

end FluxRipper
