import FluxRipper.DevLoop.World

/-! # Register programs

The hardware tests of `test_hardware.py`, and the built-in tests of `fluxripper_dev.py`,
that reach the target only through `read_memory` and `write_memory` are functions of what
those calls return.  A `RegProg` writes such a function out as a tree: each node is one
call, with what the test does with its answer, and each leaf is the `TestResult` the test
returns, or an exception it raises, which `TestRunner` records as `ERROR`.

A `Responder` answers the calls.  `console answer` is `CDCConsole`'s client: a call sends
its command, and `send` returns `answer hist cmd`, the lines of the target's answer after
the commands `hist` sent before it.  `registerFile` is the abstract register file of
`Console/Register.lean`.  A `Simulation` between two responders makes every program whose
fields are 32-bit words return the same on both.

**`console_refines_registerFile`**: a test run over the console, against any target that
implements the register protocol and after any earlier commands, returns what it returns
on the register file that holds the target's memory.
-/

namespace FluxRipper

/-- A test function that reaches the target only through the register layer. -/
inductive RegProg
  /-- `return result`. -/
  | done (result : TestResult)
  /-- An exception escapes the test: a `TypeError` on the `None` of a failed read. -/
  | raise
  /-- `value = runner.console.read_memory(addr)`, and the rest of the test. -/
  | read (addr : Nat) (k : Option Int → RegProg)
  /-- `ok = runner.console.write_memory(addr, data)`, and the rest of the test. -/
  | write (addr data : Nat) (k : Bool → RegProg)

namespace RegProg

/-- `for x in xs: body`, where each pass of the body either returns or goes on to `next`,
the rest of the loop; `after` is the code after the loop. -/
def forEach {α : Type} (xs : List α) (body : α → RegProg → RegProg) (after : RegProg) :
    RegProg :=
  xs.foldr body after

@[simp] theorem forEach_nil {α : Type} (body : α → RegProg → RegProg) (after : RegProg) :
    forEach [] body after = after := rfl

@[simp] theorem forEach_cons {α : Type} (x : α) (xs : List α) (body : α → RegProg → RegProg)
    (after : RegProg) : forEach (x :: xs) body after = body x (forEach xs body after) := rfl

/-- The check the memory tests repeat:
`if not write_memory(addr, pattern): return FAIL` and
`if read_memory(addr) != pattern: return FAIL`. -/
def writeReadBack (addr pattern : Nat) (next : RegProg) : RegProg :=
  .write addr pattern fun ok => if !ok then .done .fail else
    .read addr fun value => if value ≠ some (pattern : Int) then .done .fail else next

/-- Every call the test can make has 32-bit fields. -/
def Bounded : RegProg → Prop
  | done _ => True
  | raise => True
  | read addr k => (RegOp.read addr).Bounded ∧ ∀ value, (k value).Bounded
  | write addr data k => (RegOp.write addr data).Bounded ∧ ∀ ok, (k ok).Bounded

theorem bounded_forEach {α : Type} {xs : List α} {body : α → RegProg → RegProg} {after : RegProg}
    (hbody : ∀ x ∈ xs, ∀ next, next.Bounded → (body x next).Bounded) (hafter : after.Bounded) :
    (forEach xs body after).Bounded := by
  induction xs with
  | nil => exact hafter
  | cons x xs ih =>
    exact hbody x (List.mem_cons_self _ _) _ (ih fun y hy => hbody y (List.mem_cons_of_mem _ hy))

theorem bounded_writeReadBack {addr pattern : Nat} (ha : addr < 2 ^ 32) (hp : pattern < 2 ^ 32)
    {next : RegProg} (hnext : next.Bounded) : (writeReadBack addr pattern next).Bounded := by
  refine ⟨⟨ha, hp⟩, fun ok => ?_⟩
  cases ok
  · trivial
  · exact ⟨ha, fun value => by dsimp only; split <;> trivial⟩

end RegProg

/-- Who answers a test's calls: the value a read returns and whether a write is
acknowledged, from the responder's state, and the state after the call. -/
structure Responder (σ : Type) where
  read : σ → Nat → Option Int
  write : σ → Nat → Nat → Bool
  next : σ → RegOp → σ

namespace RegProg
variable {σ τ : Type}

/-- What the test returns against `r` from the state `s`, or what it raises. -/
def run (r : Responder σ) : σ → RegProg → Except PyExc TestResult
  | _, done result => .ok result
  | _, raise => .error .testError
  | s, read addr k => run r (r.next s (.read addr)) (k (r.read s addr))
  | s, write addr data k => run r (r.next s (.write addr data)) (k (r.write s addr data))

@[simp] theorem run_done (r : Responder σ) (s : σ) (result : TestResult) :
    (done result).run r s = .ok result := rfl

@[simp] theorem run_raise (r : Responder σ) (s : σ) : raise.run r s = .error .testError := rfl

@[simp] theorem run_read (r : Responder σ) (s : σ) (addr : Nat) (k : Option Int → RegProg) :
    (read addr k).run r s = (k (r.read s addr)).run r (r.next s (.read addr)) := rfl

@[simp] theorem run_write (r : Responder σ) (s : σ) (addr data : Nat) (k : Bool → RegProg) :
    (write addr data k).run r s = (k (r.write s addr data)).run r (r.next s (.write addr data)) :=
  rfl

/-- A loop whose every pass moves the state by `step` and goes on runs as the code after
it, from the state the passes leave. -/
theorem run_forEach_of_pass {α : Type} {r : Responder σ} {xs : List α}
    {body : α → RegProg → RegProg} (step : σ → α → σ)
    (h : ∀ x ∈ xs, ∀ s next, (body x next).run r s = next.run r (step s x))
    (after : RegProg) (s : σ) :
    (forEach xs body after).run r s = after.run r (xs.foldl step s) := by
  induction xs generalizing s with
  | nil => rfl
  | cons x xs ih =>
    rw [forEach_cons, h x (List.mem_cons_self _ _), ih fun y hy => h y (List.mem_cons_of_mem _ hy)]
    rfl

/-- A loop whose every pass either fails or goes on, by a check `c` that does not depend
on the state, runs as the code after it when every check holds, and fails otherwise. -/
theorem run_forEach_checked {α : Type} {r : Responder σ} {xs : List α}
    {body : α → RegProg → RegProg} (c : α → Prop) [DecidablePred c] (step : σ → α → σ)
    (h : ∀ x ∈ xs, ∀ s next, (body x next).run r s =
      if c x then next.run r (step s x) else .ok .fail)
    (after : RegProg) (s : σ) :
    (forEach xs body after).run r s =
      if ∀ x ∈ xs, c x then after.run r (xs.foldl step s) else .ok .fail := by
  induction xs generalizing s with
  | nil => simp
  | cons x xs ih =>
    rw [forEach_cons, h x (List.mem_cons_self _ _)]
    by_cases hx : c x
    · simp only [hx, if_true, ih (fun y hy => h y (List.mem_cons_of_mem _ hy)), List.foldl_cons,
        List.forall_mem_cons, true_and]
    · simp [hx]

/-- A loop of reads, whose every pass fails or goes on by a check `c`, runs as the code
after it when every check holds, and fails otherwise. -/
theorem run_forEach_reads {α : Type} {r : Responder σ} {xs : List α}
    {body : α → RegProg → RegProg} (c : α → Prop) [DecidablePred c] {s : σ}
    (h : ∀ x ∈ xs, ∀ next, (body x next).run r s = if c x then next.run r s else .ok .fail)
    (after : RegProg) :
    (forEach xs body after).run r s = if ∀ x ∈ xs, c x then after.run r s else .ok .fail := by
  induction xs with
  | nil => simp
  | cons x xs ih =>
    rw [forEach_cons, h x (List.mem_cons_self _ _), ih fun y hy => h y (List.mem_cons_of_mem _ hy)]
    by_cases hx : c x <;> simp [hx]

/-- Two responders whose states are related by `rel` answer every 32-bit call alike, and
stay related after it. -/
structure Simulation (r : Responder σ) (r' : Responder τ) (rel : σ → τ → Prop) : Prop where
  read : ∀ {s t} addr, rel s t → (RegOp.read addr).Bounded → r.read s addr = r'.read t addr
  write : ∀ {s t} addr data, rel s t → (RegOp.write addr data).Bounded →
    r.write s addr data = r'.write t addr data
  next : ∀ {s t} op, rel s t → op.Bounded → rel (r.next s op) (r'.next t op)

/-- Simulating responders give every bounded test the same outcome. -/
theorem Simulation.run_eq {r : Responder σ} {r' : Responder τ} {rel : σ → τ → Prop}
    (h : Simulation r r' rel) {p : RegProg} (hp : p.Bounded) {s : σ} {t : τ} (hst : rel s t) :
    p.run r s = p.run r' t := by
  induction p generalizing s t with
  | done => rfl
  | raise => rfl
  | read addr k ih =>
    rw [run_read, run_read, h.read addr hst hp.1]
    exact ih _ (hp.2 _) (h.next _ hst hp.1)
  | write addr data k ih =>
    rw [run_write, run_write, h.write addr data hst hp.1]
    exact ih _ (hp.2 _) (h.next _ hst hp.1)

end RegProg

/-! ## The console and the register file -/

/-- `CDCConsole`'s register calls, each `send` answered by `answer hist cmd` after the
commands `hist` sent before it. -/
def console (answer : List (List Char) → List Char → List (List Char)) :
    Responder (List (List Char)) where
  read hist addr := readMemory (answer hist) addr
  write hist addr data := writeMemory (answer hist) addr data
  next hist op := hist ++ [op.command]

@[simp] theorem console_read (answer : List (List Char) → List Char → List (List Char))
    (hist : List (List Char)) (addr : Nat) :
    (console answer).read hist addr = readMemory (answer hist) addr := rfl

@[simp] theorem console_write (answer : List (List Char) → List Char → List (List Char))
    (hist : List (List Char)) (addr data : Nat) :
    (console answer).write hist addr data = writeMemory (answer hist) addr data := rfl

@[simp] theorem console_next (answer : List (List Char) → List Char → List (List Char))
    (hist : List (List Char)) (op : RegOp) : (console answer).next hist op = hist ++ [op.command] :=
  rfl

/-- The register file: a read returns the word at its address, a write is acknowledged
and stores its word. -/
def registerFile : Responder (Nat → Nat) where
  read mem addr := some (mem addr)
  write _ _ _ := true
  next := RegOp.apply

@[simp] theorem registerFile_read (mem : Nat → Nat) (addr : Nat) :
    registerFile.read mem addr = some (mem addr : Int) := rfl

@[simp] theorem registerFile_write (mem : Nat → Nat) (addr data : Nat) :
    registerFile.write mem addr data = true := rfl

@[simp] theorem registerFile_next (mem : Nat → Nat) (op : RegOp) :
    registerFile.next mem op = op.apply mem := rfl

/-- The target runs a bounded call's command as the register file runs the call. -/
theorem applyCommand_command {op : RegOp} (h : op.Bounded) (mem : Nat → Nat) :
    applyCommand mem op.command = op.apply mem := by
  rw [applyCommand, parseCommand_command h]
  rfl

theorem readMemory_respLines (R : RegisterTarget) {addr : Nat} (h : addr < 2 ^ 32)
    (hist : List (List Char)) :
    readMemory (R.target.respLines hist) addr = some (R.memory hist addr : Int) := by
  have hv := R.render_digits _ (R.memory_lt hist addr)
  rw [readMemory_ok hv.1 (R.respLines_read h hist), hv.2]

theorem writeMemory_respLines (R : RegisterTarget) {addr data : Nat}
    (h : addr < 2 ^ 32 ∧ data < 2 ^ 32) (hist : List (List Char)) :
    writeMemory (R.target.respLines hist) addr data = true :=
  writeMemory_ok (R.respLines_write h hist) (infix_strip R.ack_ok (by decide) (by decide))

/-- The console to a target that implements the register protocol simulates the register
file holding the target's memory. -/
theorem console_simulation (R : RegisterTarget) :
    RegProg.Simulation (console R.target.respLines) registerFile
      fun hist mem => R.memory hist = mem := by
  refine ⟨fun addr hst ha => ?_, fun addr data hst ha => ?_, fun op hst hop => ?_⟩ <;> subst hst
  · rw [console_read, registerFile_read, readMemory_respLines R ha]
  · rw [console_write, registerFile_write, writeMemory_respLines R ha]
  · rw [console_next, registerFile_next, RegisterTarget.memory, RegisterTarget.memory,
      List.foldl_append, List.foldl_cons, List.foldl_nil, applyCommand_command hop]

/-- **A test over the console returns what it returns on the register file.**  Against a
target that implements the register protocol, after any commands `hist`, every test whose
calls have 32-bit fields returns, or raises, what it does on the register file that holds
the target's memory. -/
theorem console_refines_registerFile (R : RegisterTarget) {p : RegProg} (hp : p.Bounded)
    (hist : List (List Char)) :
    p.run (console R.target.respLines) hist = p.run registerFile (R.memory hist) :=
  (console_simulation R).run_eq hp rfl

theorem console_refines_registerFile_write_read_back :
    (RegProg.writeReadBack 0x40000100 0xA5A5A5A5 (.done .pass)).Bounded ∧
      (RegProg.writeReadBack 0x40000100 0xA5A5A5A5 (.done .pass)).run
          (console zeroTarget.target.respLines) [] =
        (RegProg.writeReadBack 0x40000100 0xA5A5A5A5 (.done .pass)).run registerFile
          (zeroTarget.memory []) :=
  have h : (RegProg.writeReadBack 0x40000100 0xA5A5A5A5 (.done .pass)).Bounded :=
    RegProg.bounded_writeReadBack (by norm_num) (by norm_num) trivial
  ⟨h, console_refines_registerFile zeroTarget h []⟩

end FluxRipper
