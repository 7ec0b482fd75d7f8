import FluxRipper.DevLoop.Interactive
import FluxRipper.HwTests.Program

/-! # Register sessions at the console

At the prompt of `DevLoop.interactive` the operator reads and writes registers by hand:
`r` and an address, or `w`, an address and a word, each in hex.  `RegOp.typed` is the
line typed for a register call, with its fields in `08x`, as `read_memory` and
`write_memory` write them.  A session is a list of such calls, typed one per line.

What the two commands print depends on the call's answer only, so a session prints what
a `Responder` answers: `Responder.printed` is the line of one call, `Responder.session` the
lines of a session, each call answered in the state the calls before it left.

**`interactive_register_session`**: against a target that implements the register
protocol, when `send` returns the target's answers (as it does on a healthy link), a
session typed at the console sends exactly the session's commands, consumes their answers
and nothing else of the world, ends no loop, and prints what the session prints on the
register file that holds the target's memory.  In particular `r` prints `Failed` for a
register that holds `0` (`registerFile_printed_read`), as it does for a read that failed.

The proof has two layers.  `interactiveLoop_session` shows, for any target, that the
console loop runs a typed session as the console responder of `HwTests/Program.lean`
answers it, one line at a time (`runCommand_typed`); `Simulation.session_eq` carries a
session across a simulation, and `console_simulation` is one.
-/

namespace FluxRipper

/-! ## Typed register calls -/

/-- The line typed for a register call: `r` and the address, or `w`, the address and the
word, in `08x`. -/
def RegOp.typed : RegOp → List Char
  | .read addr => 'r' :: ' ' :: hex08 addr
  | .write addr data => 'w' :: ' ' :: (hex08 addr ++ ' ' :: hex08 data)

theorem toLower_digitChar {k : Nat} (hk : k < 16) :
    (Nat.digitChar k).toLower = Nat.digitChar k := by
  have : ∀ k : Fin 16, (Nat.digitChar k).toLower = Nat.digitChar k := by decide
  exact this ⟨k, hk⟩

theorem map_toLower_toDigitsCore (f n : Nat) {ds : List Char}
    (hds : ds.map Char.toLower = ds) :
    (Nat.toDigitsCore 16 f n ds).map Char.toLower = Nat.toDigitsCore 16 f n ds := by
  induction f generalizing n ds with
  | zero => exact hds
  | succ f ih =>
    have hd : (Nat.digitChar (n % 16) :: ds).map Char.toLower = Nat.digitChar (n % 16) :: ds := by
      rw [List.map_cons, toLower_digitChar (Nat.mod_lt n (by decide)), hds]
    simp only [Nat.toDigitsCore]
    split
    · exact hd
    · exact ih _ hd

/-- `format(n, '08x')` writes lowercase digits, which `lower()` keeps. -/
theorem map_toLower_hex08 (n : Nat) : (hex08 n).map Char.toLower = hex08 n := by
  have hd : (Nat.toDigits 16 n).map Char.toLower = Nat.toDigits 16 n :=
    map_toLower_toDigitsCore _ _ rfl
  simp only [hex08, List.map_append, List.map_replicate, hd]
  rfl

theorem ascii_hex08 {n : Nat} (h : n < 2 ^ 32) : ∀ c ∈ hex08 n, c.toNat < 128 := fun c hc => by
  have := hexDigit_code ((hex08_spec h).2.1 c hc)
  omega

theorem hex08_ne_nil {n : Nat} (h : n < 2 ^ 32) : hex08 n ≠ [] := fun hnil => by
  simpa [hnil] using (hex08_spec h).1

theorem isSpace_hex08 {n : Nat} (h : n < 2 ^ 32) : ∀ c ∈ hex08 n, isSpace c = false :=
  fun c hc => isSpace_of_hexDigit ((hex08_spec h).2.1 c hc)

theorem parseHex_hex08 {n : Nat} (h : n < 2 ^ 32) : parseHex (hex08 n) = some n := by
  rw [parseHex_digits (hex08_spec h).2.1 (hex08_ne_nil h), (hex08_spec h).2.2]

/-- `strip()` keeps a line that starts and ends with a non-blank character. -/
theorem strip_eq_self_of_ends {c : Char} (hc : isSpace c = false) (s : List Char)
    {d : List Char} (hd : ∀ x ∈ d, isSpace x = false) (hne : d ≠ []) :
    strip (c :: (s ++ d)) = c :: (s ++ d) := by
  rw [strip, List.dropWhile_cons_of_neg (by simp [hc]), List.rdropWhile_eq_self_iff]
  intro _
  rw [List.getLast_cons (by simp [hne]), List.getLast_append_of_ne_nil hne]
  simp [hd _ (List.getLast_mem hne)]

/-- `split()` cuts a word without whitespace off at the next space. -/
theorem split_append_space {d : List Char} (hd : ∀ x ∈ d, isSpace x = false) (hne : d ≠ [])
    (rest : List Char) : split (d ++ ' ' :: rest) = d :: split rest := by
  rw [split, List.splitOnP_first isSpace d (fun x hx => by simp [hd x hx]) ' ' (by decide) rest]
  simp [split, hne]

theorem split_of_forall {d : List Char} (hd : ∀ x ∈ d, isSpace x = false) (hne : d ≠ []) :
    split d = [d] := by
  rw [split, List.splitOnP_eq_single isSpace d fun x hx => by simp [hd x hx]]
  simp [hne]

section
variable {op : RegOp}

theorem strip_typed (hop : op.Bounded) : strip op.typed = op.typed := by
  cases op with
  | read addr =>
    rw [RegOp.typed, show 'r' :: ' ' :: hex08 addr = 'r' :: ([' '] ++ hex08 addr) from rfl,
      strip_eq_self_of_ends (by decide) _ (isSpace_hex08 hop) (hex08_ne_nil hop)]
  | write addr data =>
    rw [RegOp.typed, show 'w' :: ' ' :: (hex08 addr ++ ' ' :: hex08 data) =
        'w' :: ((' ' :: hex08 addr ++ [' ']) ++ hex08 data) by simp,
      strip_eq_self_of_ends (by decide) _ (isSpace_hex08 hop.2) (hex08_ne_nil hop.2)]

theorem ascii_typed (hop : op.Bounded) : ∀ c ∈ op.typed, c.toNat < 128 := by
  cases op with
  | read addr =>
    simp only [RegOp.typed, List.forall_mem_cons]
    exact ⟨by decide, by decide, ascii_hex08 hop⟩
  | write addr data =>
    simp only [RegOp.typed, List.forall_mem_cons, List.forall_mem_append]
    exact ⟨by decide, by decide, ascii_hex08 hop.1, by decide, ascii_hex08 hop.2⟩

theorem map_toLower_typed : op.typed.map Char.toLower = op.typed := by
  cases op <;>
    simp only [RegOp.typed, List.map_cons, List.map_append, map_toLower_hex08] <;> rfl

/-- A typed call is ASCII with no blank at either end: `strip().lower()` keeps it. -/
theorem lower_strip_typed (L : StrLower) (hop : op.Bounded) : L.lower (strip op.typed) = op.typed := by
  rw [strip_typed hop, L.lower_ascii _ (ascii_typed hop), map_toLower_typed]

/-- A typed call is no empty line and no `quit`: the loop runs it. -/
theorem isQuit_typed : isQuit op.typed = false := by
  cases op <;> simp [RegOp.typed, isQuit]

/-! ## One line -/

/-- What the `r` and `w` commands print for a call that `S` answers in the state `s`:
`print(f"{addr:08X}: {value:08X}" if value else "Failed")`, and `OK` or `Failed`. -/
def Responder.printed {σ : Type} (S : Responder σ) (s : σ) : RegOp → Printed
  | .read addr => valueLine (S.read s addr) fun v => format08X addr ++ ": ".toList ++ format08X v
  | .write addr data => .line (if S.write s addr data then "OK".toList else "Failed".toList)

/-- On the register file, `r` prints the word, or `Failed` when it is `0`. -/
theorem registerFile_printed_read (mem : Nat → Nat) (addr : Nat) :
    registerFile.printed mem (.read addr) = if mem addr = 0 then .line "Failed".toList
      else .line (format08X addr ++ ": ".toList ++ format08X (mem addr)) := by
  simp only [Responder.printed, registerFile_read, valueLine, ne_eq, Nat.cast_eq_zero]
  split_ifs <;> rfl

/-- A typed call, sent when the world's next answer is `answer hist` to its command, prints
the console responder's line for it and consumes that answer. -/
theorem runCommand_typed (sh : Shell) (answer : List (List Char) → List Char → List (List Char))
    (hist : List (List Char)) (hop : op.Bounded) {w : World}
    {rest : List (Except PyExc (List (List Char)))}
    (hw : w.sends = .ok (answer hist op.command) :: rest) :
    (runCommand sh op.typed).run w =
      (.ok [(console answer).printed hist op],
        { w.log (.send op.command) with sends := rest }) := by
  cases op with
  | read addr =>
    have hsplit : split (RegOp.read addr).typed = [['r'], hex08 addr] := by
      rw [RegOp.typed, show 'r' :: ' ' :: hex08 addr = ['r'] ++ ' ' :: hex08 addr from rfl,
        split_append_space (by decide) (by simp), split_of_forall (isSpace_hex08 hop)
          (hex08_ne_nil hop)]
    have hcmd : runCommand sh (RegOp.read addr).typed = readCommandLine [['r'], hex08 addr] := by
      simp [runCommand, RegOp.typed, startsWith, ← hsplit]
    simp only [hcmd, readCommandLine, List.getElem?_cons_succ, List.getElem?_cons_zero,
      parseHex_hex08 hop, Option.pure_def, Option.bind_eq_bind, Option.some_bind, Py.run_bind,
      send_run, show "dbg r ".toList ++ format08x (addr : Int) = readCommand addr from rfl, hw,
      Py.run_pure]
    rfl
  | write addr data =>
    have hsplit : split (RegOp.write addr data).typed = [['w'], hex08 addr, hex08 data] := by
      rw [RegOp.typed, show 'w' :: ' ' :: (hex08 addr ++ ' ' :: hex08 data) =
          ['w'] ++ ' ' :: (hex08 addr ++ ' ' :: hex08 data) from rfl,
        split_append_space (by decide) (by simp),
        split_append_space (isSpace_hex08 hop.1) (hex08_ne_nil hop.1),
        split_of_forall (isSpace_hex08 hop.2) (hex08_ne_nil hop.2)]
    have hcmd : runCommand sh (RegOp.write addr data).typed =
        writeCommandLine [['w'], hex08 addr, hex08 data] := by
      simp [runCommand, RegOp.typed, startsWith, ← hsplit]
    simp only [hcmd, writeCommandLine, List.getElem?_cons_succ, List.getElem?_cons_zero,
      parseHex_hex08 hop.1, parseHex_hex08 hop.2, Option.pure_def, Option.bind_eq_bind,
      Option.some_bind, Py.run_bind, send_run,
      show "dbg w ".toList ++ format08x (addr : Int) ++ ' ' :: format08x (data : Int) =
        writeCommand addr data from rfl, hw, Py.run_pure]
    rfl

/-- One pass of the loop over a typed call: its line, then the passes after it, from the
world the call left. -/
theorem interactiveLoop_typed (L : StrLower) (sh : Shell)
    (answer : List (List Char) → List Char → List (List Char)) (hist : List (List Char))
    (hop : op.Bounded) (n : Nat) (input : List Keyed) {w : World}
    {rest : List (Except PyExc (List (List Char)))}
    (hw : w.sends = .ok (answer hist op.command) :: rest) :
    (interactiveLoop L sh (n + 1) (.line op.typed :: input)).run w =
      (do
        let (ended, out) ← interactiveLoop L sh n input
        pure (ended, (console answer).printed hist op :: out)).run
        { w.log (.send op.command) with sends := rest } := by
  have hne : op.typed.isEmpty = false := by cases op <;> rfl
  simp only [interactiveLoop, lower_strip_typed L hop, hne, isQuit_typed, Bool.false_eq_true,
    ↓reduceIte, Py.run_bind, Py.run_tryCatch, runCommand_typed sh answer hist hop hw]
  rfl

end

/-! ## Sessions -/

/-- What a session of register calls prints, answered by `S` from the state `s`. -/
def Responder.session {σ : Type} (S : Responder σ) : σ → List RegOp → List Printed
  | _, [] => []
  | s, op :: ops => S.printed s op :: S.session (S.next s op) ops

/-- **The console runs a typed session as the console responder.**  For any target, when
`send` returns the target's answers to the session's commands, each after the commands
before it: the loop sends the commands, consumes those answers, and prints what the
console responder prints for the session. -/
theorem interactiveLoop_session (L : StrLower) (sh : Shell) (T : Target) (ops : List RegOp)
    (hops : ∀ op ∈ ops, op.Bounded) (hist : List (List Char)) (w : World)
    (rest : List (Except PyExc (List (List Char))))
    (hw : w.sends = (T.answersFrom hist (ops.map RegOp.command)).map (fun a => .ok a.2) ++ rest) :
    (interactiveLoop L sh ops.length (ops.map fun op => .line op.typed)).run w =
      (.ok (false, (console T.respLines).session hist ops),
        { w with calls := w.calls ++ ops.map (fun op => .send op.command), sends := rest }) := by
  induction ops generalizing hist w with
  | nil =>
    cases w
    simp_all [Target.answersFrom]
    rfl
  | cons op ops ih =>
    rw [List.forall_mem_cons] at hops
    simp only [List.map_cons, Target.answersFrom, List.cons_append] at hw
    rw [List.length_cons, List.map_cons, interactiveLoop_typed L sh T.respLines hist hops.1 _ _ hw,
      Py.run_bind, ih hops.2 _ _ rfl]
    simp [Responder.session, World.log]

namespace RegProg

/-- Simulating responders print the same session. -/
theorem Simulation.session_eq {σ τ : Type} {r : Responder σ} {r' : Responder τ}
    {rel : σ → τ → Prop} (h : Simulation r r' rel) {ops : List RegOp}
    (hops : ∀ op ∈ ops, op.Bounded) {s : σ} {t : τ} (hst : rel s t) :
    r.session s ops = r'.session t ops := by
  induction ops generalizing s t with
  | nil => rfl
  | cons op ops ih =>
    rw [List.forall_mem_cons] at hops
    have hline : r.printed s op = r'.printed t op := by
      cases op with
      | read addr => simp only [Responder.printed, h.read addr hst hops.1]
      | write addr data => simp only [Responder.printed, h.write addr data hst hops.1]
    rw [Responder.session, Responder.session, hline, ih hops.2 (h.next op hst hops.1)]

end RegProg

/-- **A register session at the console is a session on the register file.**  Against a
target that implements the register protocol, after any commands `hist`, when `send`
returns the target's answers: a session of register calls typed at the console sends
exactly the session's commands, consumes their answers and nothing else of the world, ends
no loop, and prints what the session prints on the register file holding the target's
memory after `hist`. -/
theorem interactive_register_session (L : StrLower) (sh : Shell) (R : RegisterTarget) (ops : List RegOp)
    (hops : ∀ op ∈ ops, op.Bounded) (hist : List (List Char)) (w : World)
    (rest : List (Except PyExc (List (List Char))))
    (hw : w.sends =
      (R.target.answersFrom hist (ops.map RegOp.command)).map (fun a => .ok a.2) ++ rest) :
    (interactiveLoop L sh ops.length (ops.map fun op => .line op.typed)).run w =
      (.ok (false, registerFile.session (R.memory hist) ops),
        { w with calls := w.calls ++ ops.map (fun op => .send op.command), sends := rest }) := by
  rw [interactiveLoop_session L sh R.target ops hops hist w rest hw,
    (console_simulation R).session_eq hops rfl]

/-- A write, its read back, and a read of a register that holds `0`, which prints
`Failed`. -/
def writeReadSession : List RegOp :=
  [.write 0x40000000 0x12345678, .read 0x40000000, .read 0x40000004]

theorem interactive_register_session_write_read :
    (∀ op ∈ writeReadSession, op.Bounded) ∧
      ({ hashes := [], runs := [], tests := [], binaries := [], calls := [],
          sends := (zeroTarget.target.answersFrom [] (writeReadSession.map RegOp.command)).map
            fun a => .ok a.2 } : World).sends =
        (zeroTarget.target.answersFrom [] (writeReadSession.map RegOp.command)).map
          (fun a => .ok a.2) ++ [] ∧
      (interactiveLoop StrLower.ascii ⟨pure (), pure (), pure (), pure true, pure ()⟩
          writeReadSession.length
          (writeReadSession.map fun op => .line op.typed)).run
          { hashes := [], runs := [], tests := [], binaries := [], calls := [],
            sends := (zeroTarget.target.answersFrom [] (writeReadSession.map RegOp.command)).map
              fun a => .ok a.2 } =
        (.ok (false, registerFile.session (zeroTarget.memory []) writeReadSession),
          { hashes := [], runs := [], tests := [], binaries := [],
            calls := [] ++ writeReadSession.map (fun op => .send op.command), sends := [] }) := by
  have hops : ∀ op ∈ writeReadSession, op.Bounded := by decide
  exact ⟨hops, (List.append_nil _).symm,
    interactive_register_session StrLower.ascii _ zeroTarget _ hops [] _ []
      (List.append_nil _).symm⟩

end FluxRipper
