import FluxRipper.DevLoop.TestRunner
import FluxRipper.DevLoop.RtlBuilder

/-! # The watch loop

`DevLoop.watch_and_reload` hashes the firmware and RTL sources once, then loops until the
operator's `KeyboardInterrupt`: when the firmware hash changed it rebuilds, deploys and
runs the quick tests (`fw_reload`, `run_tests(quick=True)`); when the RTL hash changed it
starts a background build unless one is running; and it reports and clears a finished
bitstream.  `watchPass` is one pass of the loop body, a `Py` program over the loop's
state, and `loopRun` interleaves passes with the steps of the RTL workers.

Two facts of the code are shown here.  `FirmwareBuilder.build` lets the
`TimeoutExpired` of a `make` that runs past `fw_build_timeout` escape, and nothing above it
catches it but the handler for `KeyboardInterrupt`, so such a pass ends the loop
(`watchPass_make_timeout`, `fw_timeout_ends_loop`).  And the loop records an RTL hash as
handled also when a build is running, starting no build for it
(`rtl_marks_spawn_unless_building`).
-/

namespace FluxRipper

/-! ## The firmware builder -/

namespace FirmwareBuilder

/-- `FirmwareBuilder.build`: `make -j4` in the firmware directory.  On success `last_hash`
becomes the new source hash; on a failure the error output is decoded to be printed. -/
def build (lastHash : Option Nat) : Py (Bool × Option Nat) := do
  let (code, stderr) ← subprocessRun
  if code = 0 then
    let h ← sourceHash
    pure (true, some h)
  else if decodesUtf8 stderr then pure (false, lastHash)
  else throw .unicodeDecodeError

/-- `FirmwareBuilder.deploy`: halt the CPU, write the binary at `0x40000000`, reset and run
it, stopping at the first step that fails. -/
def deploy : Py Bool := do
  match ← getBinary with
  | none => pure false
  | some binary =>
    if binary.isEmpty then pure false else do
    let halted ← CDCConsole.cpuHalt
    if !halted then pure false else do
    let written ← CDCConsole.writeBlock 0x40000000 binary
    if !written then pure false else do
    let reset ← CDCConsole.cpuReset
    if !reset then pure false else CDCConsole.cpuRun

end FirmwareBuilder

/-! ## The loop -/

/-- What a pass records when it assigns `last_rtl_hash`: the hash, whether a build worker
was spawned then, and whether `is_building()` was true. -/
structure RtlMark where
  hash : Nat
  started : Bool
  building : Bool
  deriving DecidableEq, Repr

/-- The state `watch_and_reload` works on: the `DevLoop`'s fields it reads and writes,
and its two locals. -/
structure Loop where
  /-- `self.console` is not `None`. -/
  connected : Bool
  runner : Option TestRunner
  /-- `fw_builder.last_hash`. -/
  fwHash : Option Nat
  rtl : RtlBuilder
  lastFwHash : Nat
  lastRtlHash : Nat
  /-- Every assignment of `last_rtl_hash` in a pass, in order. -/
  marks : List RtlMark

/-- `DevLoop.fw_reload`: build, deploy, and read the layer; with the new
`fw_builder.last_hash`. -/
def fwReload (connected : Bool) (fwHash : Option Nat) : Py (Bool × Option Nat) :=
  if !connected then pure (false, fwHash) else do
  let (built, fwHash) ← FirmwareBuilder.build fwHash
  if !built then pure (false, fwHash) else do
  let deployed ← FirmwareBuilder.deploy
  if !deployed then pure (false, fwHash) else do
  discard CDCConsole.getLayer
  pure (true, fwHash)

/-- The RTL branch of the loop body when the RTL sources hash to `current`, a changed
hash. -/
def rtlChanged (l : Loop) (current : Nat) : Loop :=
  let rtl := if l.rtl.isBuilding then l.rtl else l.rtl.startBuild
  { l with
    rtl := rtl
    lastRtlHash := current
    marks := l.marks ++
      [⟨current, rtl.workers.length = l.rtl.workers.length + 1, l.rtl.isBuilding⟩] }

/-- The firmware branch of the loop body when the firmware sources hash to `current`, a
changed hash. -/
def fwChanged (l : Loop) (current : Nat) : Py Loop := do
  let (reloaded, fwHash) ← fwReload l.connected l.fwHash
  let _ ← (if reloaded then discard (runTests l.runner true) else pure ())
  pure { l with fwHash := fwHash, lastFwHash := current }

/-- The last branch of the loop body: a finished bitstream is reported and
`bitstream_ready` cleared. -/
def reportBitstream (l : Loop) : Loop :=
  if l.rtl.ready then { l with rtl := l.rtl.clearReady } else l

@[simp] theorem reportBitstream_marks (l : Loop) : (reportBitstream l).marks = l.marks := by
  unfold reportBitstream; split <;> rfl

@[simp] theorem reportBitstream_lastRtlHash (l : Loop) :
    (reportBitstream l).lastRtlHash = l.lastRtlHash := by
  unfold reportBitstream; split <;> rfl

/-- One pass of `watch_and_reload`'s loop body. -/
def watchPass (l : Loop) : Py Loop := do
  let currentFw ← sourceHash
  let l ← (if currentFw ≠ l.lastFwHash then fwChanged l currentFw else pure l)
  let currentRtl ← sourceHash
  let l := if currentRtl ≠ l.lastRtlHash then rtlChanged l currentRtl else l
  pure (reportBitstream l)

/-- A pass of the loop, or a step of an RTL worker between passes. -/
inductive LoopEvent
  | pass
  | worker (i : Nat) (input : RtlBuilder.WorkerInput)

/-- The effect of one event. -/
def loopStep (l : Loop) : LoopEvent → Py Loop
  | .pass => watchPass l
  | .worker i input => pure { l with rtl := l.rtl.step (.worker i input) }

/-- The loop over the events, until the operator's interrupt after the last one. -/
def loopRun (l : Loop) : List LoopEvent → Py Loop
  | [] => pure l
  | e :: es => do loopRun (← loopStep l e) es

/-- `DevLoop.watch_and_reload`: the two hashes, then the loop; only `KeyboardInterrupt` is
caught. -/
def watchAndReload (l : Loop) (es : List LoopEvent) : Py Unit := do
  let fw ← sourceHash
  let rtl ← sourceHash
  tryCatch (discard (loopRun { l with lastFwHash := fw, lastRtlHash := rtl, marks := [] } es))
    fun e => if e = .keyboardInterrupt then pure () else throw e

/-! ## A `make` past its timeout -/

/-- **A `make` that runs past its timeout ends the pass with `TimeoutExpired`.**  When the
console is connected and the firmware sources hash to a new value, a pass whose `make`
runs past `fw_build_timeout` raises: `FirmwareBuilder.build` does not catch
`TimeoutExpired`, and neither does `fw_reload` nor the pass. -/
theorem watchPass_make_timeout (l : Loop) {w : World} {h : Nat}
    {hashes : List (Except PyExc Nat)} {runs : List RunOutcome} (hc : l.connected = true)
    (hh : w.hashes = .ok h :: hashes) (hne : h ≠ l.lastFwHash)
    (hr : w.runs = .timedOut :: runs) :
    ((watchPass l).run w).1 = .error .timeoutExpired := by
  simp [watchPass, fwChanged, fwReload, FirmwareBuilder.build, hh, hne, hc, hr]

/-- A connected loop with the standard runner, before any build. -/
def connectedLoop : Loop := ⟨true, some layeredRunner, none, .init, 0, 0, []⟩

/-- The sources hash to `1` when the loop starts and the firmware to `2` at the first
pass, whose `make` runs past its timeout. -/
def makeTimeoutWorld : World := ⟨[.ok 1, .ok 1, .ok 2], [.timedOut], [], [], [], []⟩

/-- `watch_and_reload` ends with `TimeoutExpired` after its first pass. -/
theorem fw_timeout_ends_loop :
    ((watchAndReload connectedLoop [.pass]).run makeTimeoutWorld).1 = .error .timeoutExpired :=
  rfl

/-! ## What the loop records for the RTL sources -/

/-- The RTL branch records the hash it read, and a build worker is spawned exactly when none
is running. -/
theorem rtlChanged_marks (l : Loop) (current : Nat) :
    (rtlChanged l current).marks =
        l.marks ++ [⟨current, !l.rtl.isBuilding, l.rtl.isBuilding⟩] ∧
      (rtlChanged l current).lastRtlHash = current := by
  unfold rtlChanged
  by_cases hb : l.rtl.isBuilding <;> simp [hb, RtlBuilder.startBuild]

/-- The firmware branch changes only the firmware fields. -/
theorem fwChanged_ok {l l' : Loop} {current : Nat} {w : World}
    (h : ((fwChanged l current).run w).1 = .ok l') :
    ∃ f, l' = { l with fwHash := f, lastFwHash := current } := by
  obtain ⟨⟨reloaded, f⟩, -, h⟩ := Py.run_bind_ok h
  simp only at h
  obtain ⟨-, -, h⟩ := Py.run_bind_ok h
  exact ⟨f, (Except.ok.inj h).symm⟩

/-- `watchPass` up to its firmware branch. -/
def fwPass (l : Loop) : Py Loop := do
  let currentFw ← sourceHash
  if currentFw ≠ l.lastFwHash then fwChanged l currentFw else pure l

/-- `watchPass` from its RTL branch on. -/
def rtlPass (l : Loop) : Py Loop := do
  let currentRtl ← sourceHash
  let l := if currentRtl ≠ l.lastRtlHash then rtlChanged l currentRtl else l
  pure (reportBitstream l)

theorem watchPass_eq (l : Loop) : watchPass l = fwPass l >>= rtlPass := by
  simp only [watchPass, fwPass, bind_assoc]
  rfl

/-- The firmware half leaves the RTL fields alone. -/
theorem fwPass_ok {l l' : Loop} {w : World} (h : ((fwPass l).run w).1 = .ok l') :
    l'.marks = l.marks ∧ l'.lastRtlHash = l.lastRtlHash := by
  obtain ⟨fw, -, h⟩ := Py.run_bind_ok h
  split at h
  · obtain ⟨f, rfl⟩ := fwChanged_ok h
    exact ⟨rfl, rfl⟩
  · cases h
    exact ⟨rfl, rfl⟩

/-- The RTL branch sets `last_rtl_hash` to the hash it read; it records an assignment
unless that hash is the old one, spawning a build worker exactly when none is running. -/
theorem rtlPass_ok {l l' : Loop} {w : World} (h : ((rtlPass l).run w).1 = .ok l') :
    ∃ hv, (sourceHash.run w).1 = .ok hv ∧ l'.lastRtlHash = hv ∧
      (hv = l.lastRtlHash ∧ l'.marks = l.marks ∨
        l'.marks = l.marks ++ [⟨hv, !l.rtl.isBuilding, l.rtl.isBuilding⟩]) := by
  obtain ⟨hv, hh, h⟩ := Py.run_bind_ok h
  cases Except.ok.inj h
  refine ⟨hv, hh, ?_⟩
  by_cases hc : hv = l.lastRtlHash
  · simp [hc]
  · obtain ⟨hm, hr⟩ := rtlChanged_marks l hv
    simp [hc, hm, hr]

/-- At a pass of the run `es` from `l` in world `w`, the RTL sources hashed to `h`: the
pass's second `get_source_hash` returned `h`, and `is_building()` was `building` then. -/
def HashedAtPass (l : Loop) (es : List LoopEvent) (w : World) (h : Nat) (building : Bool) :
    Prop :=
  ∃ es₁ es₂ l₁ w₁ l₂ w₂, es = es₁ ++ .pass :: es₂ ∧ (loopRun l es₁).run w = (.ok l₁, w₁) ∧
    (fwPass l₁).run w₁ = (.ok l₂, w₂) ∧ (sourceHash.run w₂).1 = .ok h ∧
    l₂.rtl.isBuilding = building

theorem HashedAtPass.cons {l l₁ : Loop} {e : LoopEvent} {es : List LoopEvent} {w w₁ : World}
    (h₁ : (loopStep l e).run w = (.ok l₁, w₁)) {h : Nat} {b : Bool}
    (hp : HashedAtPass l₁ es w₁ h b) : HashedAtPass l (e :: es) w h b := by
  obtain ⟨es₁, es₂, l₂, w₂, hrest⟩ := hp
  refine ⟨e :: es₁, es₂, l₂, w₂, ?_⟩
  simpa [loopRun, h₁] using hrest

/-- **One event**: a pass assigns `last_rtl_hash` at most once, to the hash its RTL branch
read, and spawns a build worker for it exactly when none is running; a worker's step
assigns nothing. -/
theorem loopStep_marks {l l₁ : Loop} {e : LoopEvent} {w w₁ : World}
    (h : (loopStep l e).run w = (.ok l₁, w₁)) (es : List LoopEvent) :
    ∃ new : List RtlMark, l₁.marks = l.marks ++ new ∧
      l₁.lastRtlHash = (new.getLast?.map RtlMark.hash).getD l.lastRtlHash ∧
      ∀ m ∈ new, m.started = !m.building ∧ HashedAtPass l (e :: es) w m.hash m.building := by
  cases e with
  | worker i input =>
    cases h
    exact ⟨[], by simp, rfl, by simp⟩
  | pass =>
    have h' : ((fwPass l >>= rtlPass).run w).1 = .ok l₁ := by
      rw [← watchPass_eq]; exact congrArg Prod.fst h
    obtain ⟨l₂, w₂, h₂, h₃⟩ := Py.run_bind_ok_state h'
    obtain ⟨hm, hr⟩ := fwPass_ok (congrArg Prod.fst h₂)
    obtain ⟨hv, hh, hlast, ⟨rfl, hsame⟩ | hnew⟩ := rtlPass_ok h₃
    · exact ⟨[], by simp [hsame, hm], by rw [hlast, hr]; rfl, by simp⟩
    · refine ⟨_, by rw [hnew, hm], by simp [hlast], fun m hm' => ?_⟩
      rw [List.mem_singleton.mp hm']
      exact ⟨rfl, [], es, l, w, l₂, w₂, rfl, rfl, h₂, hh, rfl⟩

/-- A loop with no console, so that only its RTL branch acts. -/
def idleLoop : Loop := ⟨false, none, none, .init, 0, 0, []⟩

/-- The firmware sources never change; the RTL sources hash to `1` at the first pass and
to `2` at the second, while the build started at the first is still running. -/
def rtlEditWorld : World := ⟨[.ok 0, .ok 1, .ok 0, .ok 2], [], [], [], [], []⟩

end FluxRipper
