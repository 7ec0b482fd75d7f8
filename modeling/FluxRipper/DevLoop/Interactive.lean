import FluxRipper.DevLoop.World

/-! # The interactive console

`DevLoop.interactive` reads a command per line, `input().strip().lower()`, and dispatches
it through one chain of tests: `quit` and `exit` end the loop; `status`, `reload`, `test`,
`quick` and `watch` call the `DevLoop` methods of those names; `probe`, `trace`, `r` and
`w` speak to the console; any other command goes to the console as it is.  The whole body
of the loop is guarded: a `KeyboardInterrupt` prints an empty line and an `Exception`
prints `Error: ...`, and the loop goes on.

The methods it calls are a `Shell` of programs of the world, any at all; the console
commands are those of `CDCConsole`.  The input is the lines typed, each possibly replaced
by a Ctrl+C; after the last one `input()` raises `EOFError`.  What the loop prints is a
list of `Printed` lines, an error standing for its `Error: ...` line.

**`interactive_ends_only_on_quit`**: for every behaviour of the methods and of the
console, no exception leaves the loop, and it ends exactly when it reads `quit` or `exit`:
within `n` passes exactly when one of the first `n` lines typed is one of them.  At the end
of the input `input()` raises `EOFError` on every pass, which `except Exception` catches,
so a session whose input ends without `quit` never ends: each pass prints the same error.

The `status` command prints what `CDCConsole.get_status` makes of the answer to
`dbg status`: a dictionary of the lines holding a colon, split at the first one.
**`status_round_trip`**: when the target answers with `key:value` lines, keys without a
colon, the dictionary is the assignments of each stripped, lowercased key to its stripped
value, in order, a value keeping any colons it holds; when the lowercased keys are
distinct, its items are those pairs, in the target's order.  Python's `str.lower()` follows
the Unicode tables, which are not modelled: it is a parameter `StrLower` that lowers ASCII
text as `Char.toLower` does, so that two keys which lower to the same key (`Ä` and `ä`)
make one entry.
-/

namespace FluxRipper

/-! ## Text -/

/-- `str.lower()`.  Python lowers by the Unicode tables (`Ä` to `ä`, the Kelvin sign to
`k`, a capital sigma by the letters around it), which are not modelled: a `StrLower` is any
function on strings that lowers ASCII text as `Char.toLower` does. -/
structure StrLower where
  lower : List Char → List Char
  lower_ascii : ∀ s : List Char, (∀ c ∈ s, c.toNat < 128) → lower s = s.map Char.toLower

/-- `str.lower()` on ASCII letters, keeping every other character. -/
def StrLower.ascii : StrLower := ⟨fun s => s.map Char.toLower, fun _ _ => rfl⟩

/-- `str.split()`: the runs of characters that are not whitespace. -/
def split (s : List Char) : List (List Char) := (s.splitOnP isSpace).filter fun w => !w.isEmpty

/-- The value of one decimal digit. -/
def decVal (c : Char) : Option Nat := if c.isDigit then some (c.toNat - 48) else none

/-- The digits after the first: a digit, or one underscore and a digit. -/
def decDigits (acc : Nat) : List Char → Option Nat
  | [] => some acc
  | '_' :: c :: rest => (decVal c).bind fun v => decDigits (10 * acc + v) rest
  | c :: rest => (decVal c).bind fun v => decDigits (10 * acc + v) rest

/-- `int(s)`: surrounding whitespace, one optional sign and single underscores between
digits are accepted; anything else raises `ValueError`, which is `none`.  (Python also
accepts non-ASCII decimal digits; they are not modelled.) -/
def parseInt (s : List Char) : Option Int :=
  let body : List Char → Option Nat
    | [] => none
    | c :: rest => (decVal c).bind fun v => decDigits v rest
  match strip s with
  | '-' :: r => (body r).map fun n => -(n : Int)
  | '+' :: r => (body r).map fun n => (n : Int)
  | r => (body r).map fun n => (n : Int)

/-- `format(n, '08x')` on any integer: the sign of a negative number comes first, and the
zeros pad the whole to eight characters. -/
def format08x : Int → List Char
  | .ofNat n => hex08 n
  | .negSucc n =>
    let d := Nat.toDigits 16 (n + 1)
    '-' :: (List.replicate (7 - d.length) '0' ++ d)

/-- `format(n, '08X')`. -/
def format08X (n : Int) : List Char := (format08x n).map Char.toUpper

theorem format08x_ofNat (n : Nat) : format08x n = hex08 n := rfl

/-! ## The console commands -/

/-- What `read_memory` makes of the lines `send` returned. -/
def readResponse (lines : List (List Char)) : Option Int := readMemory (fun _ => lines) 0

/-- `readMemory` reads nothing of the address but the command it asks `send` for. -/
theorem readMemory_eq_readResponse (send : List Char → List (List Char)) (addr : Nat) :
    readMemory send addr = readResponse (send (readCommand addr)) := rfl

/-- The exceptions `interactive` prints as `Error: ...`. -/
inductive ShellError
  /-- `input()` at the end of the input. -/
  | eof
  /-- `int(s, base)` on a string it does not read. -/
  | valueError (s : List Char) (base : Nat)
  /-- `parts[1]` or `parts[2]` of a command without that field. -/
  | indexError
  /-- An exception of a method or of the console. -/
  | raised (e : PyExc)
  deriving DecidableEq, Repr

/-- A line `interactive` prints; an error stands for its `Error: ...` line. -/
inductive Printed
  | line (s : List Char)
  | error (e : ShellError)
  deriving DecidableEq, Repr

/-- `print(... if value else "Failed")`: an integer prints only when it is not `0`. -/
def valueLine (value : Option Int) (render : Int → List Char) : Printed :=
  match value with
  | some v => if v ≠ 0 then .line (render v) else .line "Failed".toList
  | none => .line "Failed".toList

/-- The `probe` command: `group` is `int(parts[1])`, or `0` without a field; then
`CDCConsole.probe(group)`, which reads `P:` and a hex value. -/
def probeCommand (parts : List (List Char)) : Py (List Printed) :=
  match parts[1]? with
  | some field =>
    match parseInt field with
    | some group => probeGroup group
    | none => pure [.error (.valueError field 10)]
  | none => probeGroup 0
where
  probeGroup (group : Int) : Py (List Printed) := do
    let lines ← send ("dbg probe ".toList ++ (toString group).toList)
    let response := joinLines lines
    let value := if startsWith response "P:".toList then parseHex (strip (response.drop 2)) else none
    pure [valueLine value fun v =>
      "Probe ".toList ++ (toString group).toList ++ ": ".toList ++ format08X v]

/-- The `trace` command: `trace_start()`, then `trace_stop()`, whose dump is printed line by
line. -/
def traceCommand : Py (List Printed) := do
  let _ ← send "dbg trace start".toList
  let _ ← send "dbg trace stop".toList
  let dump ← send "dbg trace dump".toList
  pure (dump.map .line)

/-- The `r` command: `int(cmd.split()[1], 16)`, then `read_memory`.  (A stripped command
that starts with `r ` has a second field.) -/
def readCommandLine (parts : List (List Char)) : Py (List Printed) :=
  match parts[1]? with
  | none => pure [.error .indexError]
  | some field =>
    match parseHex field with
    | none => pure [.error (.valueError field 16)]
    | some addr => do
      let lines ← send ("dbg r ".toList ++ format08x addr)
      pure [valueLine (readResponse lines) fun v => format08X addr ++ ": ".toList ++ format08X v]

/-- The `w` command: `int(parts[1], 16)`, `int(parts[2], 16)`, then `write_memory`. -/
def writeCommandLine (parts : List (List Char)) : Py (List Printed) :=
  match parts[1]? with
  | none => pure [.error .indexError]
  | some field =>
    match parseHex field with
    | none => pure [.error (.valueError field 16)]
    | some addr =>
      match parts[2]? with
      | none => pure [.error .indexError]
      | some dfield =>
        match parseHex dfield with
        | none => pure [.error (.valueError dfield 16)]
        | some data => do
          let lines ← send ("dbg w ".toList ++ format08x addr ++ ' ' :: format08x data)
          pure [.line (if contains (joinLines lines) "OK".toList then "OK".toList
            else "Failed".toList)]

/-! ## The status dictionary -/

/-- `line.split(':', 1)` on a line holding a colon: what stands before the first colon,
and what stands after it. -/
def splitColon (line : List Char) : List Char × List Char :=
  (line.takeWhile (· ≠ ':'), (line.dropWhile (· ≠ ':')).drop 1)

/-- One pass of the loop of `get_status`: a line holding a colon assigns its stripped,
lowercased key its stripped value. -/
def statusLine (L : StrLower) (status : PyDict (List Char) (List Char)) (line : List Char) :
    PyDict (List Char) (List Char) :=
  if ':' ∈ line then
    let (key, value) := splitColon line
    status.insert (L.lower (strip key)) (strip value)
  else status

/-- `CDCConsole.get_status`: the lines of the answer to `dbg status`, from `{}`. -/
def getStatus (L : StrLower) (send : List Char → List (List Char)) :
    PyDict (List Char) (List Char) :=
  ((command send "dbg status".toList).splitOn '\n').foldl (statusLine L) .empty

theorem splitColon_append {key : List Char} (hkey : ':' ∉ key) (value : List Char) :
    splitColon (key ++ ':' :: value) = (key, value) := by
  induction key with
  | nil => simp [splitColon]
  | cons c key ih =>
    rw [List.mem_cons, not_or] at hkey
    have hc : decide (c ≠ ':') = true := decide_eq_true fun h => hkey.1 h.symm
    simp only [splitColon, Prod.mk.injEq] at ih ⊢
    rw [List.cons_append, List.takeWhile_cons_of_pos (p := fun x => decide (x ≠ ':')) hc,
      List.dropWhile_cons_of_pos (p := fun x => decide (x ≠ ':')) hc]
    exact ⟨congrArg _ (ih hkey.2).1, (ih hkey.2).2⟩

theorem statusLine_entry (L : StrLower) (status : PyDict (List Char) (List Char))
    {key : List Char} (hkey : ':' ∉ key) (value : List Char) :
    statusLine L status (key ++ ':' :: value) = status.insert (L.lower (strip key)) (strip value) := by
  rw [statusLine, if_pos (by simp), splitColon_append hkey]

/-- **`get_status` reads back `key:value` lines.**  When the target answers `dbg status` with
one line `key:value` per entry, no key holding a colon and no entry a newline, the status
is the assignments of each stripped, lowercased key to its stripped value, in order; a
value keeps its colons.  When the lowercased keys are distinct, its items are those pairs,
in the target's order. -/
theorem status_round_trip (L : StrLower) (send : List Char → List (List Char))
    (entries : List (List Char × List Char)) (hkey : ∀ e ∈ entries, ':' ∉ e.1)
    (hnl : ∀ e ∈ entries, '\n' ∉ e.1 ++ ':' :: e.2)
    (hsend : send "dbg status".toList = entries.map fun e => e.1 ++ ':' :: e.2) :
    getStatus L send =
        PyDict.empty.insertAll (entries.map fun e => (L.lower (strip e.1), strip e.2)) ∧
      (((entries.map fun e => L.lower (strip e.1)).Nodup) →
        (getStatus L send).items = entries.map fun e => (L.lower (strip e.1), strip e.2)) := by
  have hst : getStatus L send = PyDict.empty.insertAll
      (entries.map fun e => (L.lower (strip e.1), strip e.2)) := by
    by_cases hne : entries = []
    · subst hne
      rw [getStatus, command, hsend]
      rfl
    have hsplit : (command send "dbg status".toList).splitOn '\n' =
        entries.map fun e => e.1 ++ ':' :: e.2 := by
      rw [command, hsend, joinLines]
      refine List.splitOn_intercalate _ _ ?_ (by simpa using hne)
      intro l hl
      obtain ⟨e, he, rfl⟩ := List.mem_map.mp hl
      exact hnl e he
    rw [getStatus, hsplit, PyDict.insertAll, List.foldl_map, List.foldl_map]
    exact List.foldl_ext _ _ _ fun d e he => statusLine_entry L d (hkey e he) e.2
  refine ⟨hst, fun hnd => ?_⟩
  rw [hst, PyDict.insertAll_empty_items (by simpa [List.map_map] using hnd)]

/-- A status of two entries, the second a time whose colons stay in the value. -/
def uptimeStatus : List (List Char × List Char) :=
  [("Layer".toList, " 3".toList), ("Uptime".toList, " 00:01:02".toList)]

/-- A target that answers `dbg status` with those entries. -/
def uptimeSend : List Char → List (List Char) :=
  fun _ => ["Layer: 3".toList, "Uptime: 00:01:02".toList]

theorem status_round_trip_uptime :
    (∀ e ∈ uptimeStatus, ':' ∉ e.1) ∧ (∀ e ∈ uptimeStatus, '\n' ∉ e.1 ++ ':' :: e.2) ∧
      uptimeSend "dbg status".toList = uptimeStatus.map (fun e => e.1 ++ ':' :: e.2) ∧
      (getStatus StrLower.ascii uptimeSend = PyDict.empty.insertAll
          (uptimeStatus.map fun e => (StrLower.ascii.lower (strip e.1), strip e.2)) ∧
        ((uptimeStatus.map fun e => StrLower.ascii.lower (strip e.1)).Nodup →
          (getStatus StrLower.ascii uptimeSend).items =
            uptimeStatus.map fun e => (StrLower.ascii.lower (strip e.1), strip e.2))) := by
  have hkey : ∀ e ∈ uptimeStatus, ':' ∉ e.1 := by decide
  have hnl : ∀ e ∈ uptimeStatus, '\n' ∉ e.1 ++ ':' :: e.2 := by decide
  have hsend : uptimeSend "dbg status".toList = uptimeStatus.map (fun e => e.1 ++ ':' :: e.2) := by
    decide
  exact ⟨hkey, hnl, hsend, status_round_trip StrLower.ascii _ uptimeStatus hkey hnl hsend⟩

example : (getStatus StrLower.ascii uptimeSend).items =
    [("layer".toList, "3".toList), ("uptime".toList, "00:01:02".toList)] := by decide

/-! ## The loop -/

/-- The `DevLoop` methods `interactive` calls. -/
structure Shell where
  status : Py Unit
  fwReload : Py Unit
  runTests : Py Unit
  /-- `run_tests(quick=True)`. -/
  runQuick : Py Bool
  watchAndReload : Py Unit

/-- `cmd == "quit" or cmd == "exit"`. -/
def isQuit (cmd : List Char) : Bool := cmd == "quit".toList || cmd == "exit".toList

/-- The branches of the loop's body after the tests for an empty command and for `quit`,
on the stripped, lowered command. -/
def runCommand (sh : Shell) (cmd : List Char) : Py (List Printed) :=
  if cmd = "status".toList then do sh.status; pure []
  else if cmd = "reload".toList then do sh.fwReload; pure []
  else if cmd = "test".toList then do sh.runTests; pure []
  else if cmd = "quick".toList then do
    let ok ← sh.runQuick
    pure [.line (if ok then "Quick tests: PASS".toList else "Quick tests: FAIL".toList)]
  else if cmd = "watch".toList then do sh.watchAndReload; pure []
  else if startsWith cmd "probe".toList then probeCommand (split cmd)
  else if cmd = "trace".toList then traceCommand
  else if startsWith cmd "r ".toList then readCommandLine (split cmd)
  else if startsWith cmd "w ".toList then writeCommandLine (split cmd)
  else do
    let lines ← send cmd
    let response := joinLines lines
    pure (if response.isEmpty then [] else [.line response])

/-- What `input()` gives: a line typed, or the operator's Ctrl+C. -/
inductive Keyed
  | line (s : List Char)
  | interrupt
  deriving DecidableEq, Repr

/-- A line typed that ends the loop. -/
def Keyed.isQuit (L : StrLower) : Keyed → Bool
  | .line s => FluxRipper.isQuit (L.lower (strip s))
  | .interrupt => false

/-- The handlers of the loop: an interrupt prints an empty line, an `Exception` its
message. -/
def caught (e : PyExc) : List Printed :=
  [if e.isException then .error (.raised e) else .line []]

/-- `n` passes of the loop of `interactive` over the input: whether it ended, and what it
printed.  At the end of the input, `input()` raises `EOFError`. -/
def interactiveLoop (L : StrLower) (sh : Shell) : Nat → List Keyed → Py (Bool × List Printed)
  | 0, _ => pure (false, [])
  | n + 1, [] => do
    let (ended, out) ← interactiveLoop L sh n []
    pure (ended, .error .eof :: out)
  | n + 1, .interrupt :: rest => do
    let (ended, out) ← interactiveLoop L sh n rest
    pure (ended, .line [] :: out)
  | n + 1, .line s :: rest =>
    let cmd := L.lower (strip s)
    if cmd.isEmpty then interactiveLoop L sh n rest
    else if isQuit cmd then pure (true, [])
    else do
      let printed ← tryCatch (runCommand sh cmd) fun e => pure (caught e)
      let (ended, out) ← interactiveLoop L sh n rest
      pure (ended, printed ++ out)

/-- The banner `interactive` prints first. -/
def banner : List Printed :=
  [.line "\nFluxRipper Development Console".toList,
    .line "Commands: status, reload, test, quick, watch, probe <n>, trace, quit".toList, .line []]

/-- `DevLoop.interactive`, for `n` passes of its loop. -/
def interactive (L : StrLower) (sh : Shell) (n : Nat) (input : List Keyed) : Py (Bool × List Printed) := do
  let (ended, out) ← interactiveLoop L sh n input
  pure (ended, banner ++ out)

/-! ## It ends on `quit` only -/

/-- A guarded body returns, whatever it raises. -/
theorem run_tryCatch_caught {α : Type} (x : Py α) (h : PyExc → α) (w : World) :
    ∃ a w', (tryCatch x fun e => pure (h e)).run w = (.ok a, w') := by
  rw [Py.run_tryCatch]
  rcases x.run w with ⟨e | a, w'⟩
  · exact ⟨h e, w', rfl⟩
  · exact ⟨a, w', rfl⟩

/-- At the end of the input every pass prints the `EOFError`, and none ends the loop. -/
theorem interactiveLoop_eof (L : StrLower) (sh : Shell) (n : Nat) (w : World) :
    (interactiveLoop L sh n []).run w = (.ok (false, List.replicate n (.error .eof)), w) := by
  induction n with
  | zero => rfl
  | succ n ih => simp only [interactiveLoop, Py.run_bind, ih, Py.run_pure, List.replicate_succ]

/-- **The console ends on `quit` only.**  For every behaviour of the methods it calls and of
the console, and every input, `n` passes of the loop of `interactive` raise nothing and end
it exactly when one of the first `n` lines typed is `quit` or `exit`, stripped and in any
case; when the input has run out, every further pass prints the `EOFError`. -/
theorem interactive_ends_only_on_quit (L : StrLower) (sh : Shell) (n : Nat) (input : List Keyed) (w : World) :
    (∃ out w', (interactiveLoop L sh n input).run w = (.ok ((input.take n).any (Keyed.isQuit L), out), w')) ∧
      (interactiveLoop L sh n []).run w = (.ok (false, List.replicate n (.error .eof)), w) := by
  refine ⟨?_, interactiveLoop_eof L sh n w⟩
  induction n generalizing input w with
  | zero => exact ⟨[], w, rfl⟩
  | succ n ih =>
    match input with
    | [] => exact ⟨_, _, interactiveLoop_eof L sh (n + 1) w⟩
    | .interrupt :: rest =>
      obtain ⟨out, w', h⟩ := ih rest w
      refine ⟨.line [] :: out, w', ?_⟩
      simp only [interactiveLoop, Py.run_bind, h, Py.run_pure, List.take_succ_cons, List.any_cons,
        Keyed.isQuit, Bool.false_or]
    | .line s :: rest =>
      simp only [interactiveLoop, List.take_succ_cons, List.any_cons, Keyed.isQuit]
      by_cases hempty : (L.lower (strip s)).isEmpty
      · rw [if_pos hempty]
        have hq : isQuit (L.lower (strip s)) = false := by
          rw [List.isEmpty_iff.mp hempty]; rfl
        simpa only [hq, Bool.false_or] using ih rest w
      · rw [if_neg hempty]
        by_cases hq : isQuit (L.lower (strip s))
        · exact ⟨[], w, by rw [if_pos hq, hq, Bool.true_or]; rfl⟩
        · rw [if_neg hq, Bool.of_not_eq_true hq, Bool.false_or]
          obtain ⟨printed, w₁, hc⟩ := run_tryCatch_caught (runCommand sh (L.lower (strip s))) caught w
          obtain ⟨out, w', h⟩ := ih rest w₁
          exact ⟨printed ++ out, w', by simp only [Py.run_bind, hc, h, Py.run_pure]⟩

end FluxRipper
