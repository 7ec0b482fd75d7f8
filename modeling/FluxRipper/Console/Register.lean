import FluxRipper.Console.Healthy

/-! # The register layer

`CDCConsole.read_memory` and `write_memory` are the register protocol's client: each
sends one `dbg` command, joins the lines `send` returned, and reads the answer.  A read
renders its address with `08x` and answers `int(response.split(":")[1].strip(), 16)` when
the response starts with `OK:` (anything that raises is `None`); a write renders both
fields with `08x` and answers whether `OK` occurs in the response.

The target's side of the protocol is not in the repository.  A `RegisterTarget` is any
target that parses the two commands' 8-digit hex fields, keeps a memory of 32-bit words,
acknowledges a write with a line containing `OK` and answers a read with `OK:` and the
stored word as 8 hex digits of either case.  **`write_then_read`** says that over a
healthy link (`healthy_returned`) every call the client completes returns what the
abstract register file `RegOp.results` says (`lastWriteResult`): `True` for a write, and
for a read the last value written to the address, or the target's initial contents
there; and that on the schedule that reads each answer as it arrives every call
completes.  A read that reaches its deadline returns `None`, even with its whole answer on
the wire (`read_deadline_counterexample`).
-/

namespace FluxRipper

/-! ## The client -/

/-- `CDCConsole.command`: the lines `send(cmd)` returned, joined. -/
def command (send : List Char → List (List Char)) (cmd : List Char) : List Char :=
  joinLines (send cmd)

/-- The command `read_memory(addr)` sends: `f"dbg r {addr:08x}"`. -/
def readCommand (addr : Nat) : List Char := "dbg r ".toList ++ hex08 addr

/-- The command `write_memory(addr, data)` sends: `f"dbg w {addr:08x} {data:08x}"`. -/
def writeCommand (addr data : Nat) : List Char :=
  "dbg w ".toList ++ hex08 addr ++ ' ' :: hex08 data

/-- `CDCConsole.read_memory`.  The `IndexError` of a response without a second field and
the `ValueError` of `int` are both caught by the bare `except`: they are `none`. -/
def readMemory (send : List Char → List (List Char)) (addr : Nat) : Option Int :=
  let response := command send (readCommand addr)
  if startsWith response "OK:".toList then
    match (response.splitOn ':')[1]? with
    | some field => parseHex (strip field)
    | none => none
  else none

/-- `CDCConsole.write_memory`. -/
def writeMemory (send : List Char → List (List Char)) (addr data : Nat) : Bool :=
  contains (command send (writeCommand addr data)) "OK".toList

/-- `CDCConsole.get_layer`: the low four bits of the status word at `0x44A80074` (on
Python's integers `value & 0xF` is `value % 16`), or `-1`
when it cannot be read. -/
def getLayer (send : List Char → List (List Char)) : Int :=
  match readMemory send 0x44A80074 with
  | some value => value % 16
  | none => -1

theorem joinLines_singleton (l : List Char) : joinLines [l] = l := by
  simp [joinLines, List.intercalate]

/-- A non-blank word survives `strip`: the whitespace it removes lies outside it. -/
theorem infix_dropWhile {sub l : List Char} (h : sub <:+: l) (hne : sub ≠ [])
    (hs : ∀ c ∈ sub, isSpace c = false) : sub <:+: l.dropWhile isSpace := by
  obtain ⟨a, b, rfl⟩ := h
  obtain ⟨x, xs, rfl⟩ := List.exists_cons_of_ne_nil hne
  have hx : ¬isSpace x = true := by simp [hs x (List.mem_cons_self _ _)]
  rw [List.append_assoc, List.dropWhile_append, List.cons_append,
    List.dropWhile_cons_of_neg hx]
  split
  · exact List.prefix_append _ _ |>.isInfix
  · exact ⟨List.dropWhile isSpace a, b, by simp⟩

theorem infix_strip {sub l : List Char} (h : sub <:+: l) (hne : sub ≠ [])
    (hs : ∀ c ∈ sub, isSpace c = false) : sub <:+: strip l := by
  have hd := infix_dropWhile h hne hs
  rw [strip, List.rdropWhile, ← List.reverse_infix, List.reverse_reverse]
  exact infix_dropWhile (List.reverse_infix.mpr hd) (by simpa using hne)
    (fun c hc => hs c (List.mem_reverse.mp hc))

/-- The 8 hex digits of a field: a command's address or data, or a read's answer. -/
def IsHexField (f : List Char) : Prop := f.length = 8 ∧ ∀ c ∈ f, IsHexDigit c

instance : DecidablePred IsHexField := fun _ => inferInstanceAs (Decidable (_ ∧ _))

theorem hex08_field {n : Nat} (h : n < 2 ^ 32) : IsHexField (hex08 n) :=
  ⟨(hex08_spec h).1, (hex08_spec h).2.1⟩

theorem hexValue_field_lt {f : List Char} (h : IsHexField f) : hexValue f < 2 ^ 32 := by
  have := hexValue_lt h.2
  rwa [h.1] at this

/-- A line `OK:` and 8 hex digits has no whitespace to strip. -/
theorem strip_okLine {d : List Char} (hd : IsHexField d) : strip ("OK:".toList ++ d) = "OK:".toList ++ d :=
  strip_eq_self fun c hc => by
    rcases List.mem_append.mp hc with hc | hc
    · exact (by decide : ∀ c ∈ "OK:".toList, isSpace c = false) c hc
    · exact isSpace_of_hexDigit (hd.2 c hc)

/-- A response `OK:` and 8 hex digits is read as their value. -/
theorem readMemory_ok {send : List Char → List (List Char)} {addr : Nat} {d : List Char}
    (hd : IsHexField d) (h : send (readCommand addr) = ["OK:".toList ++ d]) :
    readMemory send addr = some (hexValue d : Int) := by
  have hcolon : ∀ c ∈ d, ¬(c == ':') = true := fun c hc => by
    simpa using ne_of_hexDigit (hd.2 c hc) (by decide)
  have hsplit : ("OK:".toList ++ d).splitOn ':' = "OK".toList :: [d] := by
    rw [show "OK:".toList ++ d = "OK".toList ++ ':' :: d from rfl, List.splitOn,
      List.splitOnP_first _ _ (by decide) _ (by decide), List.splitOnP_eq_single _ _ hcolon]
  have hstrip : strip d = d := strip_eq_self fun c hc => isSpace_of_hexDigit (hd.2 c hc)
  simp only [readMemory, command, h, joinLines_singleton, hsplit]
  have hne : d ≠ [] := List.ne_nil_of_length_pos (by rw [hd.1]; decide)
  simp [startsWith, hstrip, parseHex_digits hd.2 hne]

/-- A response that is one line containing `OK` acknowledges the write. -/
theorem writeMemory_ok {send : List Char → List (List Char)} {addr data : Nat} {l : List Char}
    (h : send (writeCommand addr data) = [l]) (hl : "OK".toList <:+: l) :
    writeMemory send addr data = true := by
  simpa [writeMemory, command, h, joinLines_singleton, contains] using hl

/-! ## The abstract register file -/

/-- A call of the register layer. -/
inductive RegOp
  /-- `read_memory(addr)`. -/
  | read (addr : Nat)
  /-- `write_memory(addr, data)`. -/
  | write (addr data : Nat)
  deriving DecidableEq, Repr

/-- What a call returns. -/
inductive RegResult
  | value (v : Option Int)
  | written (ok : Bool)
  deriving DecidableEq, Repr

namespace RegOp

/-- The command the call sends. -/
def command : RegOp → List Char
  | read addr => readCommand addr
  | write addr data => writeCommand addr data

/-- The call, made over `send`. -/
def perform (send : List Char → List (List Char)) : RegOp → RegResult
  | read addr => .value (readMemory send addr)
  | write addr data => .written (writeMemory send addr data)

/-- The call's fields are 32-bit words: `read_memory` and `write_memory` render each in
eight hex digits, which holds every value below `2 ^ 32` and no larger one. -/
def Bounded : RegOp → Prop
  | read addr => addr < 2 ^ 32
  | write addr data => addr < 2 ^ 32 ∧ data < 2 ^ 32

instance : DecidablePred Bounded
  | read _ => inferInstanceAs (Decidable (_ < _))
  | write _ _ => inferInstanceAs (Decidable (_ ∧ _))

/-- The memory after the call. -/
def apply (mem : Nat → Nat) : RegOp → Nat → Nat
  | read _ => mem
  | write addr data => Function.update mem addr data

/-- What the call should return, from the memory before it. -/
def expected (mem : Nat → Nat) : RegOp → RegResult
  | read addr => .value (some (mem addr))
  | write _ _ => .written true

/-- The register file's answers to a sequence of calls, from memory `mem`. -/
def results (mem : Nat → Nat) : List RegOp → List RegResult
  | [] => []
  | op :: ops => op.expected mem :: results (op.apply mem) ops

/-- The value a call writes to `a`, if it writes there. -/
def writtenTo (a : Nat) : RegOp → Option Nat
  | read _ => none
  | write addr data => if addr = a then some data else none

theorem results_take (mem : Nat → Nat) (ops : List RegOp) (n : Nat) :
    results mem (ops.take n) = (results mem ops).take n := by
  induction ops generalizing mem n with
  | nil => simp [results]
  | cons op ops ih => cases n <;> simp [results, ih]

@[simp] theorem length_results (mem : Nat → Nat) (ops : List RegOp) :
    (results mem ops).length = ops.length := by
  induction ops generalizing mem <;> simp [results, *]

end RegOp

/-- The memory the calls `ops` leave. -/
def memoryAfter (init : Nat → Nat) (ops : List RegOp) : Nat → Nat := ops.foldl RegOp.apply init

/-- **The register file remembers the last write**: at every address, the memory after
`ops` holds the last value written there, or the initial contents. -/
theorem memoryAfter_lastWrite (init : Nat → Nat) (ops : List RegOp) (a : Nat) :
    memoryAfter init ops a = ((ops.filterMap (RegOp.writtenTo a)).getLast?).getD (init a) := by
  induction ops using List.reverseRecOn with
  | nil => rfl
  | append_singleton ops op ih =>
    rw [memoryAfter, List.foldl_append, List.foldl_cons, List.foldl_nil, ← memoryAfter,
      List.filterMap_append, List.getLast?_append]
    cases op with
    | read addr => simpa [RegOp.apply, RegOp.writtenTo] using ih
    | write addr data =>
      by_cases h : addr = a
      · subst h; simp [RegOp.apply, RegOp.writtenTo]
      · simpa [RegOp.apply, RegOp.writtenTo, h, Ne.symm h] using ih

/-- What the `i`-th call of `ops` should return, in the words of the register protocol:
`True` for a write, and for a read of `a` the last value written to `a` before it, or the
initial contents there. -/
def lastWriteResult (init : Nat → Nat) (ops : List RegOp) (i : Nat) : Option RegResult :=
  ops[i]?.map fun
    | .read a => .value (some (((ops.take i).filterMap (RegOp.writtenTo a)).getLast?.getD (init a)))
    | .write _ _ => .written true

/-- The register file's answer to a call is the last write's value. -/
theorem results_getElem? (init : Nat → Nat) (ops : List RegOp) (i : Nat) :
    (RegOp.results init ops)[i]? = lastWriteResult init ops i := by
  have h : ∀ mem, (RegOp.results mem ops)[i]? =
      ops[i]?.map fun op => op.expected (memoryAfter mem (ops.take i)) := by
    induction ops generalizing i with
    | nil => simp [RegOp.results]
    | cons op ops ih =>
      intro mem
      cases i <;> simp [RegOp.results, ih, memoryAfter]
  rw [h, lastWriteResult]
  cases ops[i]? with
  | none => rfl
  | some op => cases op <;> simp [RegOp.expected, memoryAfter_lastWrite]

/-! ## The target -/

/-- Modelled from the spec: how a target parses a register command. -/
def parseCommand (cmd : List Char) : Option RegOp :=
  let fields := cmd.drop 6
  if cmd.take 6 = "dbg r ".toList ∧ IsHexField fields then some (.read (hexValue fields))
  else if cmd.take 6 = "dbg w ".toList ∧ IsHexField (fields.take 8) ∧
      fields.drop 8 = ' ' :: fields.drop 9 ∧ IsHexField (fields.drop 9) then
    some (.write (hexValue (fields.take 8)) (hexValue (fields.drop 9)))
  else none

theorem parseCommand_command {op : RegOp} (h : op.Bounded) : parseCommand op.command = some op := by
  cases op with
  | read addr =>
    have hf := hex08_field (show addr < 2 ^ 32 from h)
    simp [parseCommand, RegOp.command, readCommand, hf, (hex08_spec h).2.2]
  | write addr data =>
    have ha := hex08_spec h.1
    have hd := hex08_spec h.2
    have hl : (hex08 addr).length = 8 := ha.1
    have h9 : (hex08 addr).drop 9 = [] := List.drop_eq_nil_of_le (by omega)
    simp [parseCommand, RegOp.command, writeCommand, hex08_field h.1, hex08_field h.2, hl, h9,
      ha.2.2, hd.2.2, List.drop_append_eq_append_drop, List.take_append_eq_append_take]

/-- Modelled from the spec: the target runs a command on its memory; it ignores what it
cannot parse. -/
def applyCommand (mem : Nat → Nat) (cmd : List Char) : Nat → Nat :=
  ((parseCommand cmd).map (RegOp.apply mem)).getD mem

theorem parseCommand_bounded {cmd : List Char} {op : RegOp} (h : parseCommand cmd = some op) :
    op.Bounded := by
  simp only [parseCommand] at h
  split_ifs at h with h1 h2 <;> cases h
  · exact hexValue_field_lt h1.2
  · exact ⟨hexValue_field_lt h2.2.1, hexValue_field_lt h2.2.2.2⟩

/-- The target's memory holds 32-bit words. -/
theorem foldl_applyCommand_lt {mem : Nat → Nat} (hmem : ∀ a, mem a < 2 ^ 32)
    (hist : List (List Char)) (a : Nat) : hist.foldl applyCommand mem a < 2 ^ 32 := by
  induction hist generalizing mem with
  | nil => exact hmem a
  | cons cmd hist ih =>
    refine ih fun b => ?_
    cases h : parseCommand cmd with
    | none => simpa [applyCommand, h] using hmem b
    | some op =>
      cases op with
      | read addr => simpa [applyCommand, h, RegOp.apply] using hmem b
      | write addr data =>
        have hb := parseCommand_bounded h
        simp only [applyCommand, h, RegOp.apply, Option.map_some', Option.getD_some,
          Function.update_apply]
        split
        · exact hb.2
        · exact hmem b

/-- **The target runs the client's commands as the register file runs the calls.** -/
theorem foldl_applyCommand_commands {ops : List RegOp} (hops : ∀ op ∈ ops, op.Bounded)
    (mem : Nat → Nat) : (ops.map RegOp.command).foldl applyCommand mem = memoryAfter mem ops := by
  induction ops generalizing mem with
  | nil => rfl
  | cons op ops ih =>
    simp only [List.map_cons, List.foldl_cons, memoryAfter]
    rw [applyCommand, parseCommand_command (hops op (List.mem_cons_self _ _)), Option.map_some',
      Option.getD_some, ih fun o ho => hops o (List.mem_cons_of_mem _ ho), memoryAfter]

/-- Modelled from the spec: a target that implements the register protocol faithfully. -/
structure RegisterTarget where
  /-- The target's memory before the first command. -/
  init : Nat → Nat
  init_lt : ∀ a, init a < 2 ^ 32
  /-- How the target prints a word: 8 hex digits, of either case. -/
  render : Nat → List Char
  render_digits : ∀ v < 2 ^ 32,
    IsHexField (render v) ∧ hexValue (render v) = v
  /-- The line acknowledging a write. -/
  ack : List Char
  ack_ok : "OK".toList <:+: ack
  ack_newline : '\n' ∉ ack
  ack_not_prompt : isPrompt (strip ack) = false
  prompt : List Char
  prompt_newline : '\n' ∉ prompt
  prompt_prompt : isPrompt (strip prompt) = true

namespace RegisterTarget
variable (R : RegisterTarget)

/-- The target's memory after the commands `hist`. -/
def memory (hist : List (List Char)) : Nat → Nat := hist.foldl applyCommand R.init

/-- The target's answer to `cmd`, after the commands `hist`. -/
def resp (hist : List (List Char)) (cmd : List Char) : List (List Char) :=
  match parseCommand cmd with
  | some (.read addr) => ["OK:".toList ++ R.render (R.memory hist addr)]
  | some (.write _ _) => [R.ack]
  | none => []

theorem memory_lt (hist : List (List Char)) (a : Nat) : R.memory hist a < 2 ^ 32 :=
  foldl_applyCommand_lt R.init_lt hist a

theorem render_field (hist : List (List Char)) (a : Nat) :
    IsHexField (R.render (R.memory hist a)) :=
  (R.render_digits _ (R.memory_lt hist a)).1

theorem resp_newline (hist : List (List Char)) (cmd : List Char) :
    ∀ l ∈ R.resp hist cmd, '\n' ∉ l := by
  unfold resp
  split
  · intro l hl
    rw [List.mem_singleton.mp hl, List.mem_append, not_or]
    exact ⟨by decide, fun h => ne_of_hexDigit ((R.render_field hist _).2 _ h) (by decide) rfl⟩
  · simpa using R.ack_newline
  · simp

theorem resp_not_prompt (hist : List (List Char)) (cmd : List Char) :
    ∀ l ∈ R.resp hist cmd, isPrompt (strip l) = false := by
  unfold resp
  split
  · intro l hl
    rw [List.mem_singleton.mp hl, strip_okLine (R.render_field hist _)]
    rfl
  · simpa using R.ack_not_prompt
  · simp

/-- The target as the console sees it. -/
def target : Target where
  resp := R.resp
  prompt := R.prompt
  resp_newline := R.resp_newline
  resp_not_prompt := R.resp_not_prompt
  prompt_newline := R.prompt_newline
  prompt_prompt := R.prompt_prompt

theorem respLines_read {addr : Nat} (h : addr < 2 ^ 32) (hist : List (List Char)) :
    R.target.respLines hist (readCommand addr) = ["OK:".toList ++ R.render (R.memory hist addr)] := by
  have hp := @parseCommand_command (.read addr) h
  simp only [RegOp.command] at hp
  rw [Target.respLines]
  simp only [target, resp, hp, List.map_singleton, strip_okLine (R.render_field hist addr)]
  simp

theorem respLines_write {addr data : Nat} (h : addr < 2 ^ 32 ∧ data < 2 ^ 32)
    (hist : List (List Char)) : R.target.respLines hist (writeCommand addr data) = [strip R.ack] := by
  have hp := @parseCommand_command (.write addr data) h
  simp only [RegOp.command] at hp
  have hne : strip R.ack ≠ [] := fun he => by
    simpa [he] using infix_strip R.ack_ok (by decide) (by decide)
  simp [Target.respLines, target, resp, hp, hne]

/-- **One call, answered by the target**: a call whose send returned the target's response
lines returns what the register file says, from the target's memory. -/
theorem perform_respLines {op : RegOp} (h : op.Bounded) (hist : List (List Char)) :
    op.perform (fun _ => R.target.respLines hist op.command) = op.expected (R.memory hist) := by
  cases op with
  | read addr =>
    have hv := R.render_digits _ (R.memory_lt hist addr)
    simp only [RegOp.perform, RegOp.expected, RegOp.command]
    rw [@readMemory_ok (fun _ => R.target.respLines hist (readCommand addr)) addr _ hv.1
      (R.respLines_read h hist), hv.2]
  | write addr data =>
    exact congrArg RegResult.written
      (writeMemory_ok (R.respLines_write h hist) (infix_strip R.ack_ok (by decide) (by decide)))

end RegisterTarget

/-- What the calls `ops` returned, each from the lines its `send` returned. -/
def callResults (ops : List RegOp) (returned : List (List Char × List (List Char))) :
    List RegResult :=
  List.zipWith (fun op r => op.perform fun _ => r.2) ops returned

theorem callResults_mono (ops : List RegOp) {r r' : List (List Char × List (List Char))}
    (h : r <+: r') : callResults ops r <+: callResults ops r' := by
  induction ops generalizing r r' with
  | nil => simp [callResults]
  | cons op ops ih =>
    cases r with
    | nil => simp [callResults]
    | cons x r =>
      obtain ⟨x', r', rfl⟩ := List.exists_cons_of_ne_nil (List.ne_nil_of_length_pos
        (lt_of_lt_of_le (by simp) h.length_le))
      obtain ⟨rfl, hr⟩ := List.cons_prefix_cons.mp h
      exact List.cons_prefix_cons.mpr ⟨rfl, ih hr⟩

/-- The answers to `ops`, sent after the calls `done`, are what the register file returns
after `done`; calls after `ops` have no answer yet and are not paired. -/
theorem callResults_answersFrom (R : RegisterTarget) {ops done : List RegOp}
    (hops : ∀ op ∈ ops, op.Bounded) (hdone : ∀ op ∈ done, op.Bounded) (more : List RegOp) :
    callResults (ops ++ more) (R.target.answersFrom (done.map RegOp.command) (ops.map RegOp.command)) =
      RegOp.results (memoryAfter R.init done) ops := by
  induction ops generalizing done with
  | nil => simp [callResults, Target.answersFrom, RegOp.results]
  | cons op ops ih =>
    have hop := hops op (List.mem_cons_self _ _)
    have hdone' : ∀ o ∈ done ++ [op], o.Bounded := fun o ho => by
      rcases List.mem_append.mp ho with ho | ho
      · exact hdone o ho
      · rw [List.mem_singleton.mp ho]; exact hop
    have ih' := ih (fun o ho => hops o (List.mem_cons_of_mem _ ho)) hdone'
    rw [List.map_append, List.map_singleton] at ih'
    simp only [callResults, List.cons_append, List.map_cons, Target.answersFrom,
      List.zipWith_cons_cons, RegOp.results] at ih' ⊢
    rw [ih', R.perform_respLines hop, RegisterTarget.memory, foldl_applyCommand_commands hdone,
      memoryAfter, memoryAfter, List.foldl_append, List.foldl_cons, List.foldl_nil]

/-- Over a healthy link, the calls whose sends have returned are the first of `ops`, and
they returned what the register file returns. -/
theorem healthy_calls_prefix (R : RegisterTarget) {ops : List RegOp}
    (hops : ∀ op ∈ ops, op.Bounded) {es : List Event} (hes : ∀ e ∈ es, e ≠ .expire)
    (hcalls : (run R.target.reply Link.init es).written <+: ops.map RegOp.command) :
    (run R.target.reply Link.init es).returned.map Prod.fst <+: ops.map RegOp.command ∧
      callResults ops (run R.target.reply Link.init es).returned <+: RegOp.results R.init ops := by
  have hret := healthy_returned R.target es hes
  have hw : (run R.target.reply Link.init es).written =
      (ops.take (run R.target.reply Link.init es).written.length).map RegOp.command := by
    rw [List.map_take]; exact List.prefix_iff_eq_take.mp hcalls
  rw [hw] at hret
  set k := (run R.target.reply Link.init es).written.length
  refine ⟨(hret.map Prod.fst).trans ?_, (callResults_mono ops hret).trans ?_⟩
  · rw [Target.answers, Target.answersFrom_map_fst]
    exact (List.take_prefix _ _).map _
  · have h := @callResults_answersFrom R (ops.take k) []
      (fun o ho => hops o (List.mem_of_mem_take ho)) (by simp) (ops.drop k)
    rw [List.take_append_drop] at h
    rw [Target.answers, show ([] : List (List Char)) = ([] : List RegOp).map RegOp.command from rfl,
      h, RegOp.results_take]
    exact List.take_prefix _ _

/-- A call that returned, returned what the register file returns for it. -/
theorem callResults_getElem? {ops : List RegOp} {init : Nat → Nat}
    {returned : List (List Char × List (List Char))}
    (h : callResults ops returned <+: RegOp.results init ops) {i : Nat} (hi : i < returned.length) :
    (callResults ops returned)[i]? = lastWriteResult init ops i := by
  rw [← results_getElem?]
  by_cases hio : i < ops.length
  · obtain ⟨t, ht⟩ := h
    rw [← ht, List.getElem?_append_left (by simp [callResults]; omega)]
  · rw [List.getElem?_eq_none (by simp [callResults]; omega),
      List.getElem?_eq_none (by simp [RegOp.length_results]; omega)]

/-- **Write-then-read consistency.**  Let the client make the calls `ops`, with 32-bit
fields, to a target that implements the register protocol.  In every run of the link in
which no `send` reaches its deadline, the sends that have returned are those of the first
calls, in order, and each call returned what the register file returns: `True` for a
write, and for a read the last value written to its address before it, or the target's
initial contents there, never `None`.  And on the healthy schedule where each answer is
read and polled as it arrives (`sessionEvents`), every call returns. -/
theorem write_then_read (R : RegisterTarget) (ops : List RegOp) (hops : ∀ op ∈ ops, op.Bounded) :
    (∀ es : List Event, (∀ e ∈ es, e ≠ .expire) →
      (run R.target.reply Link.init es).written <+: ops.map RegOp.command →
      (run R.target.reply Link.init es).returned.map Prod.fst <+: ops.map RegOp.command ∧
        ∀ i < (run R.target.reply Link.init es).returned.length,
          (callResults ops (run R.target.reply Link.init es).returned)[i]? =
            lastWriteResult R.init ops i) ∧
    (∀ e ∈ R.target.sessionEvents [] (ops.map RegOp.command), e ≠ .expire) ∧
    (run R.target.reply Link.init (R.target.sessionEvents [] (ops.map RegOp.command))).returned.map
        Prod.fst = ops.map RegOp.command ∧
    ∀ i < ops.length,
      (callResults ops (run R.target.reply Link.init
        (R.target.sessionEvents [] (ops.map RegOp.command))).returned)[i]? =
          lastWriteResult R.init ops i := by
  have hsession : (run R.target.reply Link.init
      (R.target.sessionEvents [] (ops.map RegOp.command))).returned =
        R.target.answersFrom [] (ops.map RegOp.command) :=
    congrArg Link.returned (R.target.run_sessionEvents (s := Link.init) ⟨rfl, rfl, rfl, rfl, rfl⟩ _)
  have hall : callResults ops (R.target.answersFrom [] (ops.map RegOp.command)) =
      RegOp.results R.init ops := by
    simpa using @callResults_answersFrom R ops [] hops (by simp) []
  refine ⟨fun es hes hcalls => ?_, R.target.sessionEvents_healthy _ _, ?_, fun i _ => ?_⟩
  · obtain ⟨h1, h2⟩ := healthy_calls_prefix R hops hes hcalls
    exact ⟨h1, fun i hi => callResults_getElem? h2 hi⟩
  · rw [hsession, Target.answersFrom_map_fst]
  · rw [hsession, hall, results_getElem?]

/-- A target whose memory starts zeroed, that prints words with `08x`, acknowledges a
write with `OK` and prompts with `>`. -/
def zeroTarget : RegisterTarget where
  init := fun _ => 0
  init_lt := fun _ => by norm_num
  render := hex08
  render_digits := fun _ h => ⟨hex08_field h, (hex08_spec h).2.2⟩
  ack := "OK".toList
  ack_ok := List.infix_refl _
  ack_newline := by decide
  ack_not_prompt := by decide
  prompt := ">".toList
  prompt_newline := by decide
  prompt_prompt := by decide

/-- `write_memory(5, 7)` completes and `read_memory(5)` has been written to the target. -/
def writeReadRun : List Event :=
  [.start (writeCommand 5 7), .drain, .write, .emit 20, .read, .poll, .poll,
    .start (readCommand 5), .drain, .write]

/-- `write_memory(5, 7)` then `read_memory(5)` on the zeroed target: midway, the write has
returned `True`; on the healthy schedule, the read returns 7. -/
theorem write_then_read_write_read :
    (∀ op ∈ [RegOp.write 5 7, .read 5], op.Bounded) ∧
      (callResults [RegOp.write 5 7, .read 5]
        (run zeroTarget.target.reply Link.init writeReadRun).returned)[0]? = some (.written true) ∧
      (callResults [RegOp.write 5 7, .read 5] (run zeroTarget.target.reply Link.init
        (zeroTarget.target.sessionEvents [] ([RegOp.write 5 7, .read 5].map RegOp.command))).returned)[1]? =
          some (.value (some 7)) := by
  have hops : ∀ op ∈ [RegOp.write 5 7, .read 5], op.Bounded := by decide
  have h := write_then_read zeroTarget _ hops
  have hport : (run zeroTarget.target.reply Link.init (writeReadRun.take 4)).port ≠ [] := by decide
  have hs : run zeroTarget.target.reply Link.init writeReadRun =
      run zeroTarget.target.reply (step zeroTarget.target.reply
        (run zeroTarget.target.reply Link.init (writeReadRun.take 4)) .read) (writeReadRun.drop 5) :=
    rfl
  rw [step_read_data _ _ hport] at hs
  have hcalls : (run zeroTarget.target.reply Link.init writeReadRun).written <+:
      [RegOp.write 5 7, .read 5].map RegOp.command := by rw [hs]; decide
  have hret : 0 < (run zeroTarget.target.reply Link.init writeReadRun).returned.length := by
    rw [hs]; decide
  exact ⟨hops, ((h.1 writeReadRun (by decide) hcalls).2 0 hret).trans (by decide),
    (h.2.2.2 1 (by decide)).trans (by decide)⟩

/-- `read_memory(5)` whose answer has left the target but is not yet read when the
deadline comes. -/
def readDeadlineRun : List Event :=
  [.start (readCommand 5), .drain, .write, .emit 20, .expire]

/-- The whole answer is on the wire before the deadline, yet `send` returns no lines and
the read answers `None`, where the register file answers 0. -/
theorem read_deadline_counterexample :
    (run zeroTarget.target.reply Link.init (readDeadlineRun.take 4)).outbox = [] ∧
      (run zeroTarget.target.reply Link.init (readDeadlineRun.take 4)).port =
        zeroTarget.target.reply [] (readCommand 5) ∧
      callResults [.read 5] (run zeroTarget.target.reply Link.init readDeadlineRun).returned =
        [.value none] ∧
      RegOp.results zeroTarget.init [.read 5] = [.value (some 0)] := by
  decide

end FluxRipper
