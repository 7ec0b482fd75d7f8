import FluxRipper.RtlTools.Incremental

/-! # Simulation: `quick_check`, `simulate_all` and the `sim` command

`rtl_tools.py` simulates the RTL with Icarus Verilog.  `RTLWorkflow.quick_check` finds a
module by `rglob(f"{module}.v")` under `rtl_dir`, takes its testbench `tb_<module>.v` from
`sim_dir`, or else from `rtl_dir/../tb`, and judges the simulation's output with
`Simulator.check_assertions`.  `RTLWorkflow.simulate_all` globs `tb_*.v` in both testbench
directories, simulates each file, and records its verdict under the file's stem without
`tb_`; the `sim` command exits `0` when every recorded verdict is `True`.

`Path.glob` and `Path.rglob` match a file name against a pattern as `fnmatch.translate`
reads it (`fnmatch`, below, for the `*`, `?` and `[...]` it knows).  What the simulator
prints is an answer, one per testbench file: its output, `None` when compilation or the
run failed or timed out, or an exception.

**`quick_check_finds_scanned`**: when one tracked file has the stem `n`, it is a `.v` file
and `n` has no glob metacharacter, `quick_check`'s lookup of every enumeration `rglob` may
give finds the file whose hash `scan_rtl_modules` recorded under `n`.  With a `.v` and a
`.sv` file of one stem, the scan records the `.sv` and the lookup finds the `.v`
(`quick_check_lookup_counterexample`).
**`simAll_exit_eq_zero_iff`**: whatever each simulation prints, the `sim` command without
`--module` exits `0` exactly when the last testbench run for each module passed; a module
with a testbench in both directories keeps only the second verdict
(`lost_simulation_verdict`), and only when no module has two testbenches does exit `0` mean
that every testbench passed (`simAll_exit_eq_zero_iff_of_nodup`).
-/

namespace FluxRipper

/-! ## Glob patterns -/

/-- One piece of a pattern as `fnmatch.translate` reads it. -/
inductive GlobItem where
  /-- `*`: any run of characters. -/
  | star
  /-- `?`: any one character. -/
  | one
  /-- `[...]`, or `[!...]` when `negated`: one character in, or not in, the ranges. -/
  | set (negated : Bool) (ranges : List (Char × Char))
  /-- Any other character, which matches itself. -/
  | lit (c : Char)
  deriving DecidableEq, Repr

/-- The characters of a `[...]` set: `a-b` is a range, and a `-` first or last is itself. -/
def classRanges : List Char → List (Char × Char)
  | a :: '-' :: b :: rest => (a, b) :: classRanges rest
  | a :: rest => (a, a) :: classRanges rest
  | [] => []

/-- The set that starts after a `[`: an optional `!`, then a first character that may be
`]`, then everything up to the next `]`.  `none` when no `]` closes it, and the `[` is then a
character like any other. -/
def parseClass (rest : List Char) : Option (GlobItem × List Char) :=
  let negated := rest.head? == some '!'
  match if negated then rest.tail else rest with
  | [] => none
  | b :: bs =>
    match bs.span (· != ']') with
    | (inside, _ :: after) => some (.set negated (classRanges (b :: inside)), after)
    | (_, []) => none

/-- The loop of `fnmatch.translate`, given as fuel the pattern's length: every turn reads at
least one character. -/
def parseGlobAux : Nat → List Char → List GlobItem
  | 0, _ => []
  | _, [] => []
  | fuel + 1, c :: rest =>
    if c = '*' then .star :: parseGlobAux fuel rest
    else if c = '?' then .one :: parseGlobAux fuel rest
    else if c = '[' then
      match parseClass rest with
      | some (item, after) => item :: parseGlobAux fuel after
      | none => .lit '[' :: parseGlobAux fuel rest
    else .lit c :: parseGlobAux fuel rest

/-- `fnmatch.translate(pat)`, as a list of pieces. -/
def parseGlob (pat : List Char) : List GlobItem := parseGlobAux pat.length pat

/-- Whether a piece other than `*` accepts the character `c`.  A range whose ends are out of
order accepts nothing, as `translate` drops it. -/
def GlobItem.admits : GlobItem → Char → Bool
  | .star, _ => true
  | .one, _ => true
  | .set negated ranges, c => negated != ranges.any fun r => decide (r.1 ≤ c) && decide (c ≤ r.2)
  | .lit d, c => c == d

/-- Whether the pieces match the whole of `s`: `*` tries every suffix of `s`. -/
def globMatches : List GlobItem → List Char → Bool
  | [], s => s.isEmpty
  | .star :: ps, s => s.tails.any fun t => globMatches ps t
  | p :: ps, c :: s => p.admits c && globMatches ps s
  | _ :: _, [] => false

/-- `fnmatch.fnmatch(name, pat)` on a POSIX file system, where the match is case-sensitive. -/
def fnmatch (pat name : List Char) : Bool := globMatches (parseGlob pat) name

/-- A text with no glob metacharacter. -/
def GlobLiteral (s : List Char) : Prop := ∀ c ∈ s, c ≠ '*' ∧ c ≠ '?' ∧ c ≠ '['

instance : DecidablePred GlobLiteral := fun s => inferInstanceAs (Decidable (∀ c ∈ s, _))

theorem parseGlobAux_literal {s : List Char} (hs : GlobLiteral s) :
    ∀ {fuel : Nat}, s.length ≤ fuel → parseGlobAux fuel s = s.map .lit := by
  induction s with
  | nil => intro fuel _; cases fuel <;> rfl
  | cons c s ih =>
    intro fuel hlen
    cases fuel with
    | zero => exact absurd hlen (by simp)
    | succ fuel =>
      obtain ⟨h1, h2, h3⟩ := hs c (List.mem_cons_self _ _)
      rw [parseGlobAux, if_neg h1, if_neg h2, if_neg h3, List.map_cons,
        ih (fun d hd => hs d (List.mem_cons_of_mem _ hd)) (Nat.le_of_succ_le_succ hlen)]

theorem globMatches_map_lit (p s : List Char) : globMatches (p.map .lit) s = (s == p) := by
  induction p generalizing s with
  | nil => cases s <;> rfl
  | cons d p ih =>
    cases s with
    | nil => rfl
    | cons c s => simp [globMatches, GlobItem.admits, ih]

/-- **A pattern with no metacharacter matches only itself.** -/
theorem fnmatch_literal {pat : List Char} (h : GlobLiteral pat) (name : List Char) :
    fnmatch pat name = true ↔ name = pat := by
  rw [fnmatch, parseGlob, parseGlobAux_literal h le_rfl, globMatches_map_lit, beq_iff_eq]

/-! ## `quick_check` -/

/-- The file's name: its stem, a dot and its suffix. -/
def RtlFile.name (f : RtlFile) : List Char := f.stem ++ '.' :: f.ext

/-- A file whose suffix has no dot is named `n.v` exactly when its stem is `n` and its suffix
`v`. -/
theorem RtlFile.name_eq_dot_v {g : RtlFile} (hg : '.' ∉ g.ext) (n : List Char) :
    g.name = n ++ ".v".toList ↔ g.stem = n ∧ g.ext = "v".toList := by
  show g.stem ++ '.' :: g.ext = n ++ ['.', 'v'] ↔ g.stem = n ∧ g.ext = ['v']
  constructor
  · intro h
    rcases List.append_eq_append_iff.mp h with ⟨a, rfl, ha⟩ | ⟨c, hs, hc⟩
    · cases a with
      | nil => simpa using ha
      | cons x a =>
        have he : g.ext = a ++ ['.', 'v'] := (List.cons_eq_cons.mp ha).2
        exact absurd (he ▸ by simp) hg
    · rcases c with _ | ⟨x, _ | ⟨y, z⟩⟩ <;> simp at hc
      exact ⟨by simpa using hs, hc.symm⟩
  · rintro ⟨rfl, hv⟩
    rw [hv]

/-- The files `rglob(pattern)` may yield under `rtl_dir`, in the order it yields them: each
file of the tree whose name matches, once. -/
def RglobYields (T : List RtlFile) (pattern : List Char) (found : List RtlFile) : Prop :=
  found.Perm (T.filter fun g => fnmatch pattern g.name)

instance (T : List RtlFile) (pattern : List Char) (found : List RtlFile) :
    Decidable (RglobYields T pattern found) :=
  inferInstanceAs (Decidable (List.Perm _ _))

/-- For a module name `n` with no metacharacter, `rglob(f"{n}.v")` matches the tracked files of
stem `n`, when all of them are `.v` files and no file's suffix has a dot. -/
theorem filter_fnmatch_dot_v {T : List RtlFile} {n : List Char} (hdot : ∀ g ∈ T, '.' ∉ g.ext)
    (hv : ∀ g ∈ moduleFiles T n, g.ext = "v".toList) (hlit : GlobLiteral n) :
    T.filter (fun g => fnmatch (n ++ ".v".toList) g.name) = moduleFiles T n := by
  have hdv : GlobLiteral ".v".toList := by decide
  have hpat : GlobLiteral (n ++ ".v".toList) := fun c hc => (List.mem_append.mp hc).elim (hlit c) (hdv c)
  rw [moduleFiles, List.filter_filter]
  refine List.filter_congr fun g hg => Bool.eq_iff_iff.mpr ?_
  simp only [Bool.and_eq_true, decide_eq_true_eq, fnmatch_literal hpat, RtlFile.name_eq_dot_v (hdot g hg)]
  refine ⟨fun ⟨hs, hx⟩ => ⟨hs, .inl hx⟩, fun ⟨hs, ht⟩ => ⟨hs, hv g ?_⟩⟩
  simp only [moduleFiles, List.mem_filter, decide_eq_true_eq]
  exact ⟨⟨hg, ht⟩, hs⟩

/-- `quick_check`'s lookup: the loop over `rglob(f"{module}.v")` that breaks at the first
file. -/
def quickCheckLookup (found : List RtlFile) : Option RtlFile := found.head?

/-- The failure indicators of `Simulator.check_assertions`: an output that holds one of them
fails. -/
def failureIndicators : List (List Char) :=
  ["ASSERTION FAILED", "ERROR:", "FAIL:", "*** FAILED ***", "$fatal"].map String.toList

/-- `Simulator.check_assertions(output)`.  After the failure indicators it looks for a pass
indicator, and returns `True` whether it finds one or not. -/
def checkAssertions : Option (List Char) → Bool
  | none => false
  | some output => !failureIndicators.any (contains output)

/-- The two directories that hold testbenches. -/
inductive TbDir where
  /-- `config.sim_dir`. -/
  | simDir
  /-- `config.rtl_dir.parent / "tb"`. -/
  | tb
  deriving DecidableEq, Repr

/-- A testbench file: its directory and its name. -/
structure Testbench where
  dir : TbDir
  name : List Char
  deriving DecidableEq, Repr

/-- `Path.exists()` for a name in a directory, given the directory's names, `none` when it
does not exist. -/
def listed (dir : Option (List (List Char))) (name : List Char) : Bool :=
  (dir.map fun names => decide (name ∈ names)).getD false

section Simulate
variable (simDir tbDir : Option (List (List Char)))
  (simulate : Testbench → Except PyExc (Option (List Char)))

/-- `RTLWorkflow.quick_check(module)`, given what `rglob(f"{module}.v")` yields, the names in
`sim_dir` and in `rtl_dir/../tb`, and what `Simulator.simulate` answers for each testbench
file. -/
def quickCheck (found : List RtlFile) (module : List Char) : Except PyExc Bool :=
  match quickCheckLookup found with
  | none => .ok false
  | some _ =>
    let tbName := "tb_".toList ++ module ++ ".v".toList
    if listed simDir tbName then checkAssertions <$> simulate ⟨.simDir, tbName⟩
    else if listed tbDir tbName then checkAssertions <$> simulate ⟨.tb, tbName⟩
    else .ok false

end Simulate

/-- **`quick_check` finds the module the scan hashed.**  Let `n` be a module name with no glob
metacharacter, held by at most one tracked file of the tree `T`, and by a `.v` file.  For every
enumeration of the tree and every order in which `rglob(f"{n}.v")` yields its files, when the
scan records a hash `h` under `n`, the lookup of `quick_check` finds a file `f`, which is the
last file of stem `n` the scan enumerated, and `h` is the hash of its contents. -/
theorem quick_check_finds_scanned {H : Type} {hash : List UInt8 → H}
    {T vfiles svfiles found : List RtlFile} {M : PyDict (List Char) H} {n : List Char} {h : H}
    (hdot : ∀ g ∈ T, '.' ∉ g.ext) (hone : (moduleFiles T n).length ≤ 1)
    (hv : ∀ g ∈ moduleFiles T n, g.ext = "v".toList) (hlit : GlobLiteral n)
    (he : Enumerates T vfiles svfiles) (hM : scanRtlModules hash vfiles svfiles = .ok M)
    (hn : M.get? n = some h) (hfound : RglobYields T (n ++ ".v".toList) found) :
    ∃ f, quickCheckLookup found = some f ∧
      ((vfiles ++ svfiles).filter fun g => g.stem = n).getLast? = some f ∧ h = hash f.content := by
  have hscan : ((vfiles ++ svfiles).filter fun g => g.stem = n) = moduleFiles T n :=
    eq_of_perm_of_length_le_one (he.perm.filter _) hone
  have hlookup : found = moduleFiles T n :=
    eq_of_perm_of_length_le_one (by rwa [RglobYields, filter_fnmatch_dot_v hdot hv hlit] at hfound)
      hone
  rw [get?_scanRtlModules hM, hscan] at hn
  obtain ⟨f, hf, rfl⟩ := Option.map_eq_some'.mp hn
  have hfs : moduleFiles T n = [f] :=
    eq_singleton_of_length_le_one hone (List.mem_of_getLast?_eq_some hf)
  exact ⟨f, by rw [hlookup, hfs]; rfl, by rw [hscan, hf], rfl⟩

/-- `rtl/uart.v`, holding `u`. -/
def uartV : RtlFile := ⟨["rtl".toList], "uart".toList, "v".toList, [117]⟩

/-- `rtl/top.v`, holding `t`. -/
def topV : RtlFile := ⟨["rtl".toList], "top".toList, "v".toList, [116]⟩

/-- `rtl/core/fifo.sv`, holding `f`. -/
def fifoSv : RtlFile := ⟨["rtl".toList, "core".toList], "fifo".toList, "sv".toList, [102]⟩

/-- `rtl/notes.txt`, which no glob of the scan yields. -/
def notesTxt : RtlFile := ⟨["rtl".toList], "notes".toList, "txt".toList, [110]⟩

/-- Two Verilog modules, a SystemVerilog one and a text file. -/
def simTree : List RtlFile := [uartV, fifoSv, notesTxt, topV]

/-- What the scan records for `simTree`, hashed by the identity. -/
def simModules : PyDict (List Char) (List UInt8) :=
  PyDict.empty.insertAll [("top".toList, [116]), ("uart".toList, [117]), ("fifo".toList, [102])]

/-- The scan enumerates `top.v` before `uart.v`; the lookup of `uart` finds `rtl/uart.v`,
whose contents the scan hashed under `uart`. -/
theorem quick_check_finds_scanned_uart :
    (∀ g ∈ simTree, '.' ∉ g.ext) ∧ (moduleFiles simTree "uart".toList).length ≤ 1 ∧
      (∀ g ∈ moduleFiles simTree "uart".toList, g.ext = "v".toList) ∧
      GlobLiteral "uart".toList ∧ Enumerates simTree [topV, uartV] [fifoSv] ∧
      scanRtlModules id [topV, uartV] [fifoSv] = .ok simModules ∧
      simModules.get? "uart".toList = some [117] ∧
      RglobYields simTree ("uart".toList ++ ".v".toList) [uartV] ∧
      ∃ f, quickCheckLookup [uartV] = some f ∧
        (([topV, uartV] ++ [fifoSv]).filter fun g => g.stem = "uart".toList).getLast? = some f ∧
        [117] = id f.content :=
  have hdot : ∀ g ∈ simTree, '.' ∉ g.ext := by decide
  have hone : (moduleFiles simTree "uart".toList).length ≤ 1 := by decide
  have hv : ∀ g ∈ moduleFiles simTree "uart".toList, g.ext = "v".toList := by decide
  have hlit : GlobLiteral "uart".toList := by decide
  have he : Enumerates simTree [topV, uartV] [fifoSv] := by decide
  have hM : scanRtlModules id [topV, uartV] [fifoSv] = .ok simModules :=
    scanRtlModules_of_decodes (by
      simp only [List.cons_append, List.nil_append, List.forall_mem_cons]
      refine ⟨?_, ?_, ?_, fun _ h => absurd h (List.not_mem_nil _)⟩ <;>
        exact decodesUtf8_singleton (by decide))
  have hn : simModules.get? "uart".toList = some [117] := by decide
  have hfound : RglobYields simTree ("uart".toList ++ ".v".toList) [uartV] := by decide
  ⟨hdot, hone, hv, hlit, he, hM, hn, hfound,
    quick_check_finds_scanned hdot hone hv hlit he hM hn hfound⟩

/-- `rtl/foo.v`, empty. -/
def fooV : RtlFile := ⟨["rtl".toList], "foo".toList, "v".toList, []⟩

/-- `rtl/foo.sv`, empty. -/
def fooSv : RtlFile := ⟨["rtl".toList], "foo".toList, "sv".toList, []⟩

/-- `foo.v` and `foo.sv` side by side: the scan enumerates the `.sv` file after every `.v` file
and records its hash under `foo`, while `quick_check` finds `foo.v`. -/
theorem quick_check_lookup_counterexample :
    ¬ ∀ (hash : List UInt8 → List UInt8) (T vfiles svfiles found : List RtlFile)
      (M : PyDict (List Char) (List UInt8)) (n : List Char) (h : List UInt8),
      Enumerates T vfiles svfiles → scanRtlModules hash vfiles svfiles = .ok M →
      M.get? n = some h → RglobYields T (n ++ ".v".toList) found →
      ∃ f, quickCheckLookup found = some f ∧
        ((vfiles ++ svfiles).filter fun g => g.stem = n).getLast? = some f := by
  intro hall
  obtain ⟨f, hf, hlast⟩ := hall id [fooV, fooSv] [fooV] [fooSv] [fooV] _ "foo".toList []
    (by decide) (scanRtlModules_of_decodes (by simp [fooV, fooSv])) rfl (by decide)
  cases hf
  exact absurd hlast (by decide)

/-! ## `simulate_all` and the `sim` command -/

/-- `tb_file.stem`: the names `tb_*.v` matches end in `.v`, which the stem drops. -/
def Testbench.stem (tb : Testbench) : List Char := tb.name.dropLast.dropLast

/-- `tb_file.stem[3:]`: the module the testbench is for. -/
def Testbench.module (tb : Testbench) : List Char := tb.stem.drop 3

/-- `tb_dir.glob("tb_*.v")`, skipped when the directory does not exist: the names of the
directory, in the order `glob` visits them, that match. -/
def tbFiles (d : TbDir) : Option (List (List Char)) → List Testbench
  | none => []
  | some names => (names.filter (fnmatch "tb_*.v".toList)).map (Testbench.mk d)

section Simulate
variable (simDir tbDir : Option (List (List Char)))
  (simulate : Testbench → Except PyExc (Option (List Char)))

/-- The loop of `simulate_all`: simulate each testbench and set `results[module]` to its
verdict. -/
def simulateAllLoop : PyDict (List Char) Bool → List Testbench → Except PyExc (PyDict (List Char) Bool)
  | results, [] => .ok results
  | results, tb :: tbs => do
    let output ← simulate tb
    simulateAllLoop (results.insert tb.module (checkAssertions output)) tbs

/-- `RTLWorkflow.simulate_all`: the testbenches of `sim_dir`, then those of `rtl_dir/../tb`. -/
def simulateAll : Except PyExc (PyDict (List Char) Bool) :=
  simulateAllLoop simulate .empty (tbFiles .simDir simDir ++ tbFiles .tb tbDir)

/-- The exit status of the `sim` command: `quick_check` for a non-empty `--module`, otherwise
`simulate_all` and `0` when every result is `True`.  An exception that escapes `main` exits
with `1`. -/
def simCommand (rglobV : List Char → List RtlFile) : Option (List Char) → Nat
  | some module@(_ :: _) =>
    match quickCheck simDir tbDir simulate (rglobV module) module with
    | .ok true => 0
    | _ => 1
  | _ =>
    match simulateAll simDir tbDir simulate with
    | .ok results => if results.values.all id then 0 else 1
    | .error _ => 1

end Simulate

/-- The verdicts `simulate_all` sets, in order, when each simulation gives its output. -/
def simulationRecords (outcome : Testbench → Option (List Char)) (tbs : List Testbench) :
    List (List Char × Bool) :=
  tbs.map fun tb => (tb.module, checkAssertions (outcome tb))

theorem simulateAllLoop_ok (outcome : Testbench → Option (List Char)) :
    ∀ (results : PyDict (List Char) Bool) (tbs : List Testbench),
      simulateAllLoop (fun tb => .ok (outcome tb)) results tbs =
        .ok (results.insertAll (simulationRecords outcome tbs))
  | _, [] => rfl
  | results, tb :: tbs => simulateAllLoop_ok outcome (results.insert tb.module _) tbs

theorem values_all_iff {d : PyDict (List Char) Bool} :
    d.values.all id = true ↔ ∀ m v, d.get? m = some v → v = true := by
  simp only [List.all_eq_true, PyDict.mem_values, id]
  exact ⟨fun h m v hv => h v ⟨m, hv⟩, fun h v ⟨m, hv⟩ => h m v hv⟩

section SimAll
variable (rglobV : List Char → List RtlFile) (simDir tbDir : Option (List (List Char)))
  (outcome : Testbench → Option (List Char))

/-- **The `sim` command without `--module`**: for every listing of the two directories and
every output of each simulation, it exits `0` exactly when the last verdict set under each
module is `True`. -/
theorem simAll_exit_eq_zero_iff :
    simCommand simDir tbDir (fun tb => .ok (outcome tb)) rglobV none = 0 ↔
      ∀ m, ∀ r ∈ ((simulationRecords outcome (tbFiles .simDir simDir ++ tbFiles .tb tbDir)).filter
        fun r => r.1 = m).getLast?, r.2 = true := by
  simp only [simCommand, simulateAll, simulateAllLoop_ok]
  rw [ite_eq_left_iff, not_imp_comm, imp_iff_right one_ne_zero, values_all_iff]
  simp only [PyDict.get?_insertAll, PyDict.get?_empty, Option.or_none, Option.map_eq_some',
    Option.mem_def]
  exact ⟨fun h m r hr => h m r.2 ⟨r, hr, rfl⟩, fun h m v ⟨r, hr, hv⟩ => hv ▸ h m r hr⟩

/-- **No verdict is lost when no module has two testbenches**: then the `sim` command without
`--module` exits `0` exactly when every testbench it runs passes `check_assertions`. -/
theorem simAll_exit_eq_zero_iff_of_nodup
    (hnd : ((tbFiles .simDir simDir ++ tbFiles .tb tbDir).map Testbench.module).Nodup) :
    simCommand simDir tbDir (fun tb => .ok (outcome tb)) rglobV none = 0 ↔
      ∀ tb ∈ tbFiles .simDir simDir ++ tbFiles .tb tbDir, checkAssertions (outcome tb) = true := by
  have hkeys : ((simulationRecords outcome (tbFiles .simDir simDir ++ tbFiles .tb tbDir)).map
      Prod.fst).Nodup := by simpa [simulationRecords] using hnd
  simp only [simCommand, simulateAll, simulateAllLoop_ok]
  rw [ite_eq_left_iff, not_imp_comm, imp_iff_right one_ne_zero, PyDict.values,
    PyDict.insertAll_empty_items hkeys]
  generalize tbFiles .simDir simDir ++ tbFiles .tb tbDir = tbs
  simp [simulationRecords]

end SimAll

/-- `tb_uart.v` in both testbench directories: the copy in `sim_dir` prints an assertion
failure, the one in `rtl_dir/../tb` passes. -/
def uartOutcome (tb : Testbench) : Option (List Char) :=
  match tb.dir with
  | .simDir => some "ASSERTION FAILED: tx_done".toList
  | .tb => some "PASS".toList

/-- Both copies of `tb_uart.v` run, the first fails, and its verdict is overwritten: the results
are `{"uart": True}` and `sim` exits `0`. -/
theorem lost_simulation_verdict :
    tbFiles .simDir (some ["tb_uart.v".toList]) ++ tbFiles .tb (some ["tb_uart.v".toList]) =
        [⟨.simDir, "tb_uart.v".toList⟩, ⟨.tb, "tb_uart.v".toList⟩] ∧
      checkAssertions (uartOutcome ⟨.simDir, "tb_uart.v".toList⟩) = false ∧
      (simulateAll (some ["tb_uart.v".toList]) (some ["tb_uart.v".toList])
        fun tb => .ok (uartOutcome tb)).toOption.map PyDict.items = some [("uart".toList, true)] ∧
      simCommand (some ["tb_uart.v".toList]) (some ["tb_uart.v".toList])
        (fun tb => .ok (uartOutcome tb)) (fun _ => []) none = 0 := by
  decide

end FluxRipper
