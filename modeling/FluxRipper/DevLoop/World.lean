import FluxRipper.Console.Register

/-! # The development loop's world

`DevLoop` and its helpers call out to the file system, to `make` and Vivado through
`subprocess.run`, to the debug console, and to test functions.  What those calls answer
is the world's choice: a `World` holds the answers, in the order the code asks for them,
and a program of the loop is a `Py` computation, which takes them one at a time and may
raise a `PyExc`.  Every behaviour of the environment is some `World`, so a statement over
every `World` covers them all.  The world also keeps the calls it was asked, in order (`World.calls`), so that a
statement can say which calls a function makes.

A script that has run out answers as a quiet world does: hashes are `0`, every tool exits
with status `0` and no output, the console returns no lines and a test function returns
`PASS`.
-/

namespace FluxRipper

/-- The exceptions the tools meet. -/
inductive PyExc
  /-- `subprocess.TimeoutExpired`: the tool ran past its `timeout`. -/
  | timeoutExpired
  /-- `UnicodeDecodeError`: `bytes.decode()` on output that is not UTF-8. -/
  | unicodeDecodeError
  /-- `FileNotFoundError`: a file the glob listed vanished before `read_bytes`. -/
  | fileNotFound
  /-- `serial.SerialException`, from the console's `write` or `flush`. -/
  | serialException
  /-- Anything else a test function raises. -/
  | testError
  /-- `KeyboardInterrupt`: the operator's Ctrl+C.  Not an `Exception`. -/
  | keyboardInterrupt
  deriving DecidableEq, Repr

/-- `except Exception` catches every exception but the operator's interrupt. -/
def PyExc.isException (e : PyExc) : Bool := e != .keyboardInterrupt

/-- `TestResult`. -/
inductive TestResult
  | pass
  | fail
  | skip
  | error
  deriving DecidableEq, Repr

/-- How a `subprocess.run(..., capture_output=True, timeout=t)` ends: the tool exits, or
it runs past `t` and `subprocess.run` raises `TimeoutExpired`. -/
inductive RunOutcome
  | exited (returncode : Int) (stderr : List UInt8)
  | timedOut
  deriving DecidableEq, Repr

/-- `bytes.decode()` succeeds: the bytes are UTF-8. -/
def decodesUtf8 (b : List UInt8) : Bool := String.validateUTF8 b.toByteArray

@[simp] theorem decodesUtf8_nil : decodesUtf8 [] = true := by
  rw [decodesUtf8, String.validateUTF8, String.validateUTF8.loop]; rfl

theorem validateUTF8_loop_step {a : ByteArray} {i : Nat} {c : Char} (hi : i < a.size)
    (hc : String.utf8DecodeChar? a i = some c) :
    String.validateUTF8.loop a i = String.validateUTF8.loop a (i + c.utf8Size) := by
  rw [String.validateUTF8.loop, if_pos hi, hc]; rfl

theorem validateUTF8_loop_end {a : ByteArray} {i : Nat} (hi : ¬i < a.size) :
    String.validateUTF8.loop a i = some () := by
  rw [String.validateUTF8.loop, if_neg hi]; rfl

/-- One byte decodes when it is a whole character. -/
theorem decodesUtf8_singleton {b : UInt8}
    (h : (String.utf8DecodeChar? [b].toByteArray 0).map Char.utf8Size = some 1) :
    decodesUtf8 [b] = true := by
  obtain ⟨c, hc, hs⟩ := Option.map_eq_some'.mp h
  have hsize : [b].toByteArray.size = 1 := rfl
  rw [decodesUtf8, String.validateUTF8, validateUTF8_loop_step (hsize ▸ Nat.one_pos) hc, hs,
    validateUTF8_loop_end (hsize ▸ Nat.lt_irrefl 1)]
  rfl

/-- A test function, as a registry refers to it. -/
abbrev TestFn := Nat

/-- A call to the outside world. -/
inductive Call
  /-- A `get_source_hash`: a glob over the sources and a read of each file. -/
  | sourceHash
  /-- A `subprocess.run`. -/
  | run
  /-- A `CDCConsole.send(cmd)`. -/
  | send (cmd : List Char)
  /-- A call of a test function. -/
  | test (fn : TestFn)
  /-- `FirmwareBuilder.get_binary`. -/
  | binary
  deriving DecidableEq, Repr

/-- The world's answers, in the order the code asks, and the calls made so far. -/
structure World where
  hashes : List (Except PyExc Nat)
  runs : List RunOutcome
  sends : List (Except PyExc (List (List Char)))
  tests : List (Except PyExc TestResult)
  binaries : List (Option (List UInt8))
  calls : List Call

/-- A program of the development loop.  What it did to the world stays done when it
raises: the calls it made are made. -/
abbrev Py := ExceptT PyExc (StateM World)

namespace Py

@[simp] theorem run_pure {α : Type} (a : α) (w : World) :
    (pure a : Py α).run w = (.ok a, w) := rfl

@[simp] theorem run_bind {α β : Type} (x : Py α) (f : α → Py β) (w : World) :
    (x >>= f).run w = match x.run w with
      | (.ok a, w') => (f a).run w'
      | (.error e, w') => (.error e, w') := by
  show (ExceptT.bind x f).run w = _
  simp only [ExceptT.bind, ExceptT.run, ExceptT.mk, bind, StateT.bind]
  rcases x w with ⟨e | a, w'⟩ <;> rfl

/-- A bind that returns ran its first program to a value, and its continuation from
there. -/
theorem run_bind_ok {α β : Type} {x : Py α} {f : α → Py β} {w : World} {b : β}
    (h : ((x >>= f).run w).1 = .ok b) :
    ∃ a, (x.run w).1 = .ok a ∧ ((f a).run (x.run w).2).1 = .ok b := by
  rw [run_bind] at h
  rcases hx : x.run w with ⟨e | a, w'⟩ <;> rw [hx] at h
  · cases h
  · exact ⟨a, rfl, h⟩

theorem run_bind_ok_state {α β : Type} {x : Py α} {f : α → Py β} {w : World} {b : β}
    (h : ((x >>= f).run w).1 = .ok b) : ∃ a w', x.run w = (.ok a, w') ∧ ((f a).run w').1 = .ok b :=
  let ⟨a, ha, hf⟩ := run_bind_ok h
  ⟨a, _, Prod.ext ha rfl, hf⟩

theorem mem_toOption {α : Type} {a : α} {e : Except PyExc α} : a ∈ e.toOption ↔ e = .ok a := by
  cases e <;> simp [Except.toOption, eq_comm]

@[simp] theorem run_map {α β : Type} (f : α → β) (x : Py α) (w : World) :
    (f <$> x).run w = match x.run w with
      | (.ok a, w') => (.ok (f a), w')
      | (.error e, w') => (.error e, w') := by
  show (ExceptT.map f x).run w = _
  simp only [ExceptT.map, ExceptT.run, ExceptT.mk, bind, StateT.bind]
  rcases x w with ⟨e | a, w'⟩ <;> rfl

@[simp] theorem run_throw {α : Type} (e : PyExc) (w : World) :
    (throw e : Py α).run w = (.error e, w) := rfl

@[simp] theorem run_tryCatch {α : Type} (x : Py α) (h : PyExc → Py α) (w : World) :
    (tryCatch x h : Py α).run w = match x.run w with
      | (.ok a, w') => (.ok a, w')
      | (.error e, w') => (h e).run w' := by
  show (ExceptT.tryCatch x h).run w = _
  simp only [ExceptT.tryCatch, ExceptT.run, ExceptT.mk, bind, StateT.bind]
  rcases x w with ⟨e | a, w'⟩ <;> rfl

end Py

/-- The world takes a call: it is recorded. -/
def World.log (w : World) (c : Call) : World := { w with calls := w.calls ++ [c] }

@[simp] theorem World.log_hashes (w : World) (c : Call) : (w.log c).hashes = w.hashes := rfl
@[simp] theorem World.log_runs (w : World) (c : Call) : (w.log c).runs = w.runs := rfl
@[simp] theorem World.log_sends (w : World) (c : Call) : (w.log c).sends = w.sends := rfl
@[simp] theorem World.log_tests (w : World) (c : Call) : (w.log c).tests = w.tests := rfl

/-- A `get_source_hash` of either builder: the world answers with the hash of the tree it
reads, or with the error of a file that vanished between the glob and its read. -/
def sourceHash : Py Nat := ExceptT.mk fun w =>
  let w := w.log .sourceHash
  match w.hashes with
  | [] => (.ok 0, w)
  | a :: rest => (a, { w with hashes := rest })

/-- `subprocess.run(..., capture_output=True, timeout=t)`: the return code and `stderr`
of the finished tool; `TimeoutExpired` when it runs past `t`. -/
def subprocessRun : Py (Int × List UInt8) := ExceptT.mk fun w =>
  let w := w.log .run
  match w.runs with
  | [] => (.ok (0, []), w)
  | .exited code stderr :: rest => (.ok (code, stderr), { w with runs := rest })
  | .timedOut :: rest => (.error .timeoutExpired, { w with runs := rest })

/-- `CDCConsole.send(cmd)`: the lines it collected, or the error of a failed `write` or
`flush`. -/
def send (cmd : List Char) : Py (List (List Char)) := ExceptT.mk fun w =>
  let w := w.log (.send cmd)
  match w.sends with
  | [] => (.ok [], w)
  | a :: rest => (a, { w with sends := rest })

/-- A call of the test function `fn`: its result, or what it raised. -/
def callTest (fn : TestFn) : Py TestResult := ExceptT.mk fun w =>
  let w := w.log (.test fn)
  match w.tests with
  | [] => (.ok .pass, w)
  | a :: rest => (a, { w with tests := rest })

@[simp] theorem sourceHash_run (w : World) :
    sourceHash.run w = match w.hashes with
      | [] => (.ok 0, w.log .sourceHash)
      | a :: rest => (a, { w.log .sourceHash with hashes := rest }) := rfl

@[simp] theorem subprocessRun_run (w : World) :
    subprocessRun.run w = match w.runs with
      | [] => (.ok (0, []), w.log .run)
      | .exited code stderr :: rest => (.ok (code, stderr), { w.log .run with runs := rest })
      | .timedOut :: rest => (.error .timeoutExpired, { w.log .run with runs := rest }) := rfl

@[simp] theorem send_run (cmd : List Char) (w : World) :
    (send cmd).run w = match w.sends with
      | [] => (.ok [], w.log (.send cmd))
      | a :: rest => (a, { w.log (.send cmd) with sends := rest }) := rfl

@[simp] theorem callTest_run (fn : TestFn) (w : World) :
    (callTest fn).run w = match w.tests with
      | [] => (.ok .pass, w.log (.test fn))
      | a :: rest => (a, { w.log (.test fn) with tests := rest }) := rfl

/-- `FirmwareBuilder.get_binary`: the bytes of `build/firmware.bin`, if it exists. -/
def getBinary : Py (Option (List UInt8)) := ExceptT.mk fun w =>
  let w := w.log .binary
  match w.binaries with
  | [] => (.ok none, w)
  | b :: rest => (.ok b, { w with binaries := rest })

/-- A `send` touches only the console's answers, and is recorded. -/
theorem send_world (cmd : List Char) (w : World) :
    ((send cmd).run w).2.tests = w.tests ∧ ((send cmd).run w).2.calls = w.calls ++ [.send cmd] := by
  simp only [send_run]
  split <;> exact ⟨rfl, rfl⟩

/-! ## The console over the world -/

namespace CDCConsole

/-- `CDCConsole.command`. -/
def command (cmd : List Char) : Py (List Char) := do
  let lines ← send cmd
  pure (FluxRipper.command (fun _ => lines) cmd)

/-- `CDCConsole.read_memory`. -/
def readMemory (addr : Nat) : Py (Option Int) := do
  let lines ← send (readCommand addr)
  pure (FluxRipper.readMemory (fun _ => lines) addr)

/-- `CDCConsole.write_memory`. -/
def writeMemory (addr data : Nat) : Py Bool := do
  let lines ← send (writeCommand addr data)
  pure (FluxRipper.writeMemory (fun _ => lines) addr data)

/-- `CDCConsole.get_layer`. -/
def getLayer : Py Int := do
  let lines ← send (readCommand 0x44A80074)
  pure (FluxRipper.getLayer fun _ => lines)

/-- The layer query is one `send`. -/
theorem getLayer_world (w : World) :
    (getLayer.run w).2 = ((send (readCommand 0x44A80074)).run w).2 := by
  simp only [getLayer, Py.run_bind]
  rcases (send (readCommand 0x44A80074)).run w with ⟨_ | _, w'⟩ <;> rfl

/-- `CDCConsole.cpu_halt`, `cpu_run` and `cpu_reset`: `"OK" in self.command(cmd)`. -/
def cpuCommand (cmd : List Char) : Py Bool := do
  let response ← command cmd
  pure (contains response "OK".toList)

/-- `CDCConsole.cpu_halt`. -/
def cpuHalt : Py Bool := cpuCommand "dbg cpu halt".toList

/-- `CDCConsole.cpu_run`. -/
def cpuRun : Py Bool := cpuCommand "dbg cpu run".toList

/-- `CDCConsole.cpu_reset`. -/
def cpuReset : Py Bool := cpuCommand "dbg cpu reset".toList

/-- `int.from_bytes(chunk, 'little')` of a chunk padded with zero bytes to 4. -/
def wordOf (chunk : List UInt8) : Nat :=
  chunk.foldr (fun b acc => b.toNat + 256 * acc) 0

/-- The 4-byte chunks of `write_block`'s loop, the last one short when the data is. -/
def chunks : List UInt8 → List (List UInt8)
  | b0 :: b1 :: b2 :: b3 :: rest => [b0, b1, b2, b3] :: chunks rest
  | [] => []
  | short => [short]

/-- `CDCConsole.write_block`, from the word at index `i`: it stops at the first write
that fails. -/
def writeWords (addr : Nat) : Nat → List Nat → Py Bool
  | _, [] => pure true
  | i, word :: words => do
    if ← writeMemory (addr + i * 4) word then writeWords addr (i + 1) words
    else pure false

/-- `CDCConsole.write_block`. -/
def writeBlock (addr : Nat) (data : List UInt8) : Py Bool :=
  writeWords addr 0 ((chunks data).map wordOf)

end CDCConsole

end FluxRipper
