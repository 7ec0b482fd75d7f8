import FluxRipper.DevLoop.World

/-! # The test runner

`TestRunner` holds a registry of `TestCase`s and the `results` dictionary of the runs so
far.  `run_all` reads the bring-up layer once, then walks the registry: an entry above
the layer is recorded `SKIP` without being run, one below `min_layer` is passed over, and
the others are run, their result recorded, or `ERROR` when the test function raised an
`Exception`.  `run_quick` walks the quick tests (timeout under 5 s), reading the layer
again before each, and fails at the first test that does not pass or raises.
`DevLoop.run_tests` calls one of them.

**`run_all_gating`** says that `run_all` refines `runAllRecords`, a statement of what it
should record, and makes exactly the calls it should: one layer query, then the test
functions of the entries in the layer window, in registration order; unless one of those
raises `KeyboardInterrupt`, which `except Exception` lets through and which ends the run.
**`unreachable_target_passes`** shows what the runner reports when the target answers no
layer query: every entry at a layer of zero or more is skipped in both modes.
-/

namespace FluxRipper

/-- A `TestCase`.  Its `description` is only printed, and is left out. -/
structure TestCase where
  name : List Char
  layerRequired : Int
  testFn : TestFn
  timeout : Float

/-- A `TestRunner`: its registry and the results of its runs so far. -/
structure TestRunner where
  tests : List TestCase
  results : PyDict (List Char) TestResult

/-- The result a test function's call is recorded as: what it returned, or `ERROR` when it
raised. -/
def recorded : Except PyExc TestResult → TestResult
  | .ok r => r
  | .error _ => .error

/-- The `try` block of `run_all`'s loop: run the test and record its result, or `ERROR`
when it raises an `Exception`. -/
def runTest (test : TestCase) (results : PyDict (List Char) TestResult) :
    Py (PyDict (List Char) TestResult) :=
  tryCatch (do
      let result ← callTest test.testFn
      pure (results.insert test.name result))
    fun e => if e.isException then pure (results.insert test.name .error) else throw e

/-- Test functions' answers compare by their result or their exception. -/
instance decEqAnswer : DecidableEq (Except PyExc TestResult)
  | .ok a, .ok b => decidable_of_iff (a = b) ⟨congrArg _, Except.ok.inj⟩
  | .error a, .error b => decidable_of_iff (a = b) ⟨congrArg _, Except.error.inj⟩
  | .ok _, .error _ => isFalse Except.noConfusion
  | .error _, .ok _ => isFalse Except.noConfusion

/-- None of the test functions' answers `answers` is a `KeyboardInterrupt`, the one
exception a test function raises that `except Exception` does not catch. -/
def NoInterrupt (answers : List (Except PyExc TestResult)) : Prop :=
  ∀ a ∈ answers, a ≠ .error .keyboardInterrupt

instance : DecidablePred NoInterrupt := fun _ => inferInstanceAs (Decidable (∀ a ∈ _, _))

/-- The loop of `run_all` over the registry, from the layer `current_layer` it read. -/
def runAllLoop (currentLayer minLayer : Int) :
    List TestCase → PyDict (List Char) TestResult → Py (PyDict (List Char) TestResult)
  | [], results => pure results
  | test :: tests, results =>
    if currentLayer < test.layerRequired then
      runAllLoop currentLayer minLayer tests (results.insert test.name .skip)
    else if test.layerRequired < minLayer then runAllLoop currentLayer minLayer tests results
    else do
      let results ← runTest test results
      runAllLoop currentLayer minLayer tests results

/-- `TestRunner.run_all(min_layer)`.  The counts it prints are left out. -/
def TestRunner.runAll (r : TestRunner) (minLayer : Int) : Py TestRunner := do
  let currentLayer ← CDCConsole.getLayer
  let results ← runAllLoop currentLayer minLayer r.tests r.results
  pure { r with results := results }

/-- The loop of `run_quick` over the quick tests. -/
def quickLoop : List TestCase → Py Bool
  | [] => pure true
  | test :: tests => do
    if test.layerRequired > (← CDCConsole.getLayer) then quickLoop tests
    else
      let passed ← tryCatch (do pure ((← callTest test.testFn) == .pass)) fun _ => pure false
      if passed then quickLoop tests else pure false

/-- `TestRunner.run_quick`: the tests with a timeout under 5 s. -/
def TestRunner.runQuick (r : TestRunner) : Py Bool :=
  quickLoop (r.tests.filter fun t => t.timeout < 5.0)

/-- `all(r in (TestResult.PASS, TestResult.SKIP) for r in results.values())`. -/
def allPassOrSkip (results : PyDict (List Char) TestResult) : Bool :=
  results.values.all fun r => r == .pass || r == .skip

/-- `DevLoop.run_tests(quick)`, over the loop's test runner (`none` before `connect`). -/
def runTests (runner : Option TestRunner) (quick : Bool) : Py (Bool × Option TestRunner) :=
  match runner with
  | none => pure (false, none)
  | some r =>
    if quick then do pure ((← r.runQuick), some r)
    else do
      let r ← r.runAll 0
      pure (allPassOrSkip r.results, some r)

/-! ## What `run_all` should record -/

/-- An entry `run_all` runs: in the window from `min_layer` to the layer read. -/
def InWindow (layer minLayer : Int) (t : TestCase) : Prop :=
  minLayer ≤ t.layerRequired ∧ t.layerRequired ≤ layer

instance (layer minLayer : Int) : DecidablePred (InWindow layer minLayer) :=
  fun _ => inferInstanceAs (Decidable (_ ∧ _))

/-- What `run_all` records, in order, when the layer read is `layer` and the test functions
it calls answer `answers` in turn: `SKIP` for an entry above the layer, nothing for one
below `min_layer`, and the recorded answer of its test function for the others. -/
def runAllRecords (layer minLayer : Int) :
    List TestCase → List (Except PyExc TestResult) → List (List Char × TestResult)
  | [], _ => []
  | t :: ts, answers =>
    if layer < t.layerRequired then (t.name, .skip) :: runAllRecords layer minLayer ts answers
    else if t.layerRequired < minLayer then runAllRecords layer minLayer ts answers
    else (t.name, recorded (answers.headD (.ok .pass))) :: runAllRecords layer minLayer ts answers.tail

/-! ## `run_all` meets its statement -/

/-- The test function answers with the world's next answer; an `Exception` is recorded as
`ERROR`. -/
theorem runTest_run (test : TestCase) (results : PyDict (List Char) TestResult) (w : World)
    (hint : ∀ a ∈ w.tests.head?, a ≠ .error .keyboardInterrupt) :
    (runTest test results).run w =
      (.ok (results.insert test.name (recorded (w.tests.headD (.ok .pass)))),
        { w with tests := w.tests.tail, calls := w.calls ++ [.test test.testFn] }) := by
  rcases w with ⟨hs, rs, ss, ts, bs, cs⟩
  cases ts with
  | nil => rfl
  | cons a ts =>
    cases a with
    | ok r => rfl
    | error e =>
      have he : e.isException = true := by
        simpa [PyExc.isException] using hint (.error e) rfl
      simp only [runTest, Py.run_tryCatch, Py.run_bind, callTest_run, he, if_true, Py.run_pure]
      rfl

theorem forall_mem_take_succ {α : Type} {P : α → Prop} {l : List α} {n : Nat}
    (h : ∀ a ∈ l.take (n + 1), P a) : (∀ a ∈ l.head?, P a) ∧ ∀ a ∈ l.tail.take n, P a := by
  cases l <;> simp_all

/-- **`run_all`'s loop refines `runAllRecords`**: it records what `runAllRecords` says and
calls the test functions of the entries in the window, in order, taking one answer each. -/
theorem runAllLoop_run (layer minLayer : Int) (ts : List TestCase)
    (results : PyDict (List Char) TestResult) (w : World)
    (hint : NoInterrupt (w.tests.take (ts.filter (InWindow layer minLayer)).length)) :
    (runAllLoop layer minLayer ts results).run w =
      (.ok (results.insertAll (runAllRecords layer minLayer ts w.tests)),
        { w with tests := w.tests.drop (ts.filter (InWindow layer minLayer)).length,
                 calls := w.calls ++ (ts.filter (InWindow layer minLayer)).map (Call.test ·.testFn) }) := by
  induction ts generalizing results w with
  | nil => simp [runAllLoop, runAllRecords, PyDict.insertAll]
  | cons t ts ih =>
    by_cases h1 : layer < t.layerRequired
    · have hw : ¬InWindow layer minLayer t := fun h => by have := h.2; omega
      simp only [NoInterrupt, List.filter_cons, decide_eq_true_iff, hw, if_false] at hint ⊢
      simp only [runAllLoop, runAllRecords, if_pos h1, ih _ _ hint]
      rfl
    by_cases h2 : t.layerRequired < minLayer
    · have hw : ¬InWindow layer minLayer t := fun h => by have := h.1; omega
      simp only [NoInterrupt, List.filter_cons, decide_eq_true_iff, hw, if_false] at hint ⊢
      simp only [runAllLoop, runAllRecords, if_neg h1, if_pos h2, ih _ _ hint]
    · have hw : InWindow layer minLayer t := ⟨by omega, by omega⟩
      simp only [NoInterrupt, List.filter_cons, decide_eq_true_iff, hw, if_true,
        List.length_cons] at hint ⊢
      obtain ⟨hhead, htail⟩ := forall_mem_take_succ hint
      simp only [runAllLoop, runAllRecords, if_neg h1, if_neg h2, Py.run_bind,
        runTest_run t results w hhead,
        ih _ { w with tests := w.tests.tail, calls := w.calls ++ [.test t.testFn] } htail]
      simp [PyDict.insertAll, List.drop_tail]

/-- A `KeyboardInterrupt` from a test function `run_all` calls escapes its
`except Exception` and ends the loop. -/
theorem runAllLoop_interrupt (layer minLayer : Int) (ts : List TestCase)
    (results : PyDict (List Char) TestResult) (w : World)
    (hint : ¬NoInterrupt (w.tests.take (ts.filter (InWindow layer minLayer)).length)) :
    ((runAllLoop layer minLayer ts results).run w).1 = .error .keyboardInterrupt := by
  induction ts generalizing results w with
  | nil => exact absurd (by simp [NoInterrupt]) hint
  | cons t ts ih =>
    by_cases h1 : layer < t.layerRequired
    · have hw : ¬InWindow layer minLayer t := fun h => by have := h.2; omega
      simp only [List.filter_cons, decide_eq_true_iff, hw, if_false] at hint
      simp only [runAllLoop, if_pos h1, ih _ _ hint]
    by_cases h2 : t.layerRequired < minLayer
    · have hw : ¬InWindow layer minLayer t := fun h => by have := h.1; omega
      simp only [List.filter_cons, decide_eq_true_iff, hw, if_false] at hint
      simp only [runAllLoop, if_neg h1, if_pos h2, ih _ _ hint]
    · have hw : InWindow layer minLayer t := ⟨by omega, by omega⟩
      simp only [List.filter_cons, decide_eq_true_iff, hw, if_true, List.length_cons] at hint
      rcases w with ⟨hs, rs, ss, _ | ⟨a, as⟩, bs, cs⟩
      · exact absurd (by simp [NoInterrupt]) hint
      · by_cases ha : a = .error .keyboardInterrupt
        · subst ha
          simp [runAllLoop, h1, h2, runTest, PyExc.isException]
        · have htail : ¬NoInterrupt (as.take (ts.filter (InWindow layer minLayer)).length) :=
            fun h => hint (by simpa [NoInterrupt, ha] using h)
          simp only [runAllLoop, if_neg h1, if_neg h2, Py.run_bind,
            runTest_run t results ⟨hs, rs, ss, a :: as, bs, cs⟩ (by simpa using ha)]
          exact ih _ _ htail

/-- **Layer gating of a full run.**  Whatever layer `L` the single layer query of
`run_all(min_layer)` returns, and whatever the test functions return or raise, short of a
`KeyboardInterrupt`, `run_all` records what `runAllRecords` says (`SKIP` above `L`, nothing
below `min_layer`, the result or `ERROR` in between, in registration order, so that a
later entry of a name overwrites an earlier one: `PyDict.get?_insertAll`), and the calls it
makes are the layer query and then the test functions of the entries with
`min_layer ≤ layer_required ≤ L`, each once, in registration order.  A test function of
the window that raises `KeyboardInterrupt` is not caught by `except Exception`: the run
ends with it. -/
theorem run_all_gating (r : TestRunner) (minLayer layer : Int) {w w' : World}
    (hlayer : CDCConsole.getLayer.run w = (.ok layer, w')) :
    (NoInterrupt (w.tests.take (r.tests.filter (InWindow layer minLayer)).length) →
      (r.runAll minLayer).run w =
        (.ok { r with results := r.results.insertAll (runAllRecords layer minLayer r.tests w.tests) },
          { w' with tests := w.tests.drop (r.tests.filter (InWindow layer minLayer)).length,
                    calls := w.calls ++ .send (readCommand 0x44A80074) ::
                      (r.tests.filter (InWindow layer minLayer)).map (Call.test ·.testFn) })) ∧
    (¬NoInterrupt (w.tests.take (r.tests.filter (InWindow layer minLayer)).length) →
      ((r.runAll minLayer).run w).1 = .error .keyboardInterrupt) := by
  have hw' : w' = (CDCConsole.getLayer.run w).2 := by rw [hlayer]
  obtain ⟨ht, hc⟩ := send_world (readCommand 0x44A80074) w
  rw [← CDCConsole.getLayer_world, ← hw'] at ht hc
  rw [← ht]
  refine ⟨fun hint => ?_, fun hint => ?_⟩
  · simp only [TestRunner.runAll, Py.run_bind, hlayer, runAllLoop_run _ _ _ _ w' hint, hc,
      Py.run_pure, List.append_assoc, List.singleton_append]
  · rcases hloop : (runAllLoop layer minLayer r.tests r.results).run w' with ⟨res, w''⟩
    have herr := runAllLoop_interrupt layer minLayer r.tests r.results w' hint
    rw [hloop] at herr
    subst herr
    simp only [TestRunner.runAll, Py.run_bind, hlayer, hloop]

/-- The registry of three entries, at layers 2, 5 and 5. -/
def layeredRunner : TestRunner where
  tests := [⟨"memory_basic".toList, 2, 0, 1.0⟩, ⟨"usb_enum".toList, 5, 1, 1.0⟩,
    ⟨"fdc_ready".toList, 5, 2, 1.0⟩]
  results := .empty

/-- A console that reports layer 3, and a test function that fails. -/
def layerThreeWorld : World := ⟨[], [], [.ok ["OK:00000003".toList]], [.ok .fail], [], []⟩

theorem run_all_gating_layer_three :
    CDCConsole.getLayer.run layerThreeWorld =
        (.ok 3, (CDCConsole.getLayer.run layerThreeWorld).2) ∧
      NoInterrupt (layerThreeWorld.tests.take (layeredRunner.tests.filter (InWindow 3 0)).length) ∧
      (layeredRunner.runAll 0).run layerThreeWorld =
        (.ok { layeredRunner with
            results := layeredRunner.results.insertAll
              (runAllRecords 3 0 layeredRunner.tests layerThreeWorld.tests) },
          { (CDCConsole.getLayer.run layerThreeWorld).2 with
            tests := layerThreeWorld.tests.drop (layeredRunner.tests.filter (InWindow 3 0)).length,
            calls := layerThreeWorld.calls ++ .send (readCommand 0x44A80074) ::
              (layeredRunner.tests.filter (InWindow 3 0)).map (Call.test ·.testFn) }) := by
  have hlayer : CDCConsole.getLayer.run layerThreeWorld =
      (.ok 3, (CDCConsole.getLayer.run layerThreeWorld).2) := rfl
  have hint : NoInterrupt
      (layerThreeWorld.tests.take (layeredRunner.tests.filter (InWindow 3 0)).length) := by
    decide
  exact ⟨hlayer, hint, (run_all_gating layeredRunner 0 3 hlayer).1 hint⟩

/-- A console that reports layer 3, and an operator who interrupts the first test
function `run_all` calls. -/
def interruptWorld : World :=
  ⟨[], [], [.ok ["OK:00000003".toList]], [.error .keyboardInterrupt], [], []⟩

/-- The interrupted test function is not recorded `ERROR`: the `KeyboardInterrupt` ends
`run_all`. -/
theorem run_all_interrupt_counterexample :
    ((layeredRunner.runAll 0).run interruptWorld).1 = .error .keyboardInterrupt := rfl

/-! ## A target that answers no layer query -/

/-- The console answers no layer query with a value: every `send` returns lines in which
`read_memory` finds nothing (as a closed console, which returns no lines, does). -/
def Silent (w : World) : Prop :=
  ∀ a ∈ w.sends, ∃ lines, a = .ok lines ∧ readMemory (fun _ => lines) 0x44A80074 = none

theorem getLayer_silent {w : World} (h : Silent w) :
    CDCConsole.getLayer.run w = (.ok (-1), ((send (readCommand 0x44A80074)).run w).2) ∧
      Silent ((send (readCommand 0x44A80074)).run w).2 := by
  rcases w with ⟨hs, rs, ss, ts, bs, cs⟩
  cases ss with
  | nil => exact ⟨rfl, fun a ha => absurd ha (List.not_mem_nil _)⟩
  | cons a ss =>
    obtain ⟨lines, rfl, hnone⟩ := h a (List.mem_cons_self _ _)
    refine ⟨?_, fun b hb => h b (List.mem_cons_of_mem _ hb)⟩
    simp only [CDCConsole.getLayer, Py.run_bind, send_run, Py.run_pure, getLayer, hnone]

/-- With no layer above `min_layer`, `run_all` runs nothing and skips every entry above the
layer. -/
theorem runAllRecords_below {layer minLayer : Int} (h : layer < minLayer) (ts : List TestCase)
    (answers : List (Except PyExc TestResult)) :
    runAllRecords layer minLayer ts answers =
      (ts.filter fun t => layer < t.layerRequired).map fun t => (t.name, .skip) := by
  induction ts with
  | nil => rfl
  | cons t ts ih =>
    by_cases h1 : layer < t.layerRequired
    · simp [runAllRecords, h1, ih]
    · simp [runAllRecords, h1, show t.layerRequired < minLayer by omega, ih]

theorem filter_inWindow_below {layer minLayer : Int} (h : layer < minLayer) (ts : List TestCase) :
    ts.filter (InWindow layer minLayer) = [] :=
  List.filter_eq_nil_iff.mpr fun t _ hw => by
    have hw' : InWindow layer minLayer t := of_decide_eq_true hw
    exact absurd (hw'.1.trans hw'.2) (not_le.mpr h)

/-- A test function's answer is `PASS`. -/
def isPass : Except PyExc TestResult → Bool
  | .ok .pass => true
  | _ => false

/-- With every layer query answered by `-1`, `run_quick`'s loop runs exactly the tests at a
negative layer, and passes when each of their test functions returns `PASS`. -/
theorem quickLoop_silent (ts : List TestCase) {w : World} (h : Silent w) :
    ((quickLoop ts).run w).1 =
      .ok ((w.tests.take (ts.filter fun t => t.layerRequired < 0).length).all isPass) := by
  induction ts generalizing w with
  | nil => rfl
  | cons t ts ih =>
    obtain ⟨hl, hs⟩ := getLayer_silent h
    have ht := (send_world (readCommand 0x44A80074) w).1
    by_cases hneg : t.layerRequired < 0
    · simp only [quickLoop, Py.run_bind, hl, show ¬t.layerRequired > -1 by omega, if_false,
        List.filter_cons, hneg, decide_True, if_true, List.length_cons]
      rcases hw : ((send (readCommand 0x44A80074)).run w).2 with ⟨hs', rs', ss', ts', bs', cs'⟩
      rw [hw] at ht hs
      simp only at ht
      rw [← ht]
      rcases ts' with _ | ⟨_ | r, ts'⟩
      · simpa [isPass] using @ih ⟨hs', rs', ss', [], bs', cs' ++ [.test t.testFn]⟩ hs
      · simp [isPass]
      · cases r with
        | pass => simpa [isPass] using @ih ⟨hs', rs', ss', ts', bs', cs' ++ [.test t.testFn]⟩ hs
        | _ => simp [isPass]
    · simp only [quickLoop, Py.run_bind, hl, show t.layerRequired > -1 by omega, if_true,
        List.filter_cons, hneg, decide_False, Bool.false_eq_true, if_false, ih hs, ht]

theorem mem_values_insert {d : PyDict (List Char) TestResult} {k : List Char}
    {v u : TestResult} (h : u ∈ (d.insert k v).values) : u = v ∨ u ∈ d.values := by
  obtain ⟨k', hk'⟩ := PyDict.mem_values.mp h
  rw [PyDict.get?_insert] at hk'
  split at hk'
  · exact .inl (Option.some.inj hk').symm
  · exact .inr (PyDict.mem_values.mpr ⟨k', hk'⟩)

/-- Marking entries `SKIP` keeps a dictionary of passes and skips one. -/
theorem allPassOrSkip_insertAll_skip {d : PyDict (List Char) TestResult}
    (h : allPassOrSkip d = true) (names : List (List Char)) :
    allPassOrSkip (d.insertAll (names.map fun n => (n, .skip))) = true := by
  induction names generalizing d with
  | nil => exact h
  | cons n names ih =>
    refine ih ?_
    simp only [allPassOrSkip, List.all_eq_true] at h ⊢
    intro u hu
    rcases mem_values_insert hu with rfl | hu
    · rfl
    · exact h u hu

/-- The results once `run_all` has marked `SKIP` every entry at a layer of zero or more. -/
def skipNonNegative (r : TestRunner) : PyDict (List Char) TestResult :=
  r.results.insertAll ((r.tests.filter fun t => 0 ≤ t.layerRequired).map fun t => (t.name, .skip))

/-- With every layer query answered by `-1`, `run_all(0)` makes the one query, calls no
test function, and marks `SKIP` every entry at a layer of zero or more. -/
theorem runAll_silent (r : TestRunner) {w : World} (h : Silent w) :
    (r.runAll 0).run w =
      (.ok { r with results := skipNonNegative r }, ((send (readCommand 0x44A80074)).run w).2) := by
  have hbelow : (-1 : Int) < 0 := by decide
  have hfilter : (r.tests.filter fun t => (-1 : Int) < t.layerRequired) =
      r.tests.filter fun t => 0 ≤ t.layerRequired :=
    List.filter_congr fun t _ => by simp only [decide_eq_decide]; omega
  have hloop := runAllLoop_run (-1) 0 r.tests r.results ((send (readCommand 0x44A80074)).run w).2
    (by simp [NoInterrupt, filter_inWindow_below hbelow])
  simp only [filter_inWindow_below hbelow, List.length_nil, List.drop_zero, List.map_nil,
    List.append_nil] at hloop
  simp only [TestRunner.runAll, Py.run_bind, (getLayer_silent h).1, hloop, Py.run_pure,
    runAllRecords_below hbelow, hfilter, skipNonNegative]

/-- **An unreachable target is reported by what the runner skips.**  When the console
answers no layer query with a value, `run_tests(quick=False)` runs no test function: it
records `SKIP` for every entry at a layer of zero or more and returns whether every result
the runner then holds is `PASS` or `SKIP`, which on a fresh runner it always is; and
`run_tests(quick=True)` runs only the quick tests at a negative layer, and returns `True`
when each of them passes. -/
theorem unreachable_target_passes (r : TestRunner) {w : World} (h : Silent w) :
    (∃ w', (runTests (some r) false).run w =
        (.ok (allPassOrSkip (skipNonNegative r), some { r with results := skipNonNegative r }), w') ∧
        w'.calls = w.calls ++ [.send (readCommand 0x44A80074)] ∧
        (r.results = .empty → allPassOrSkip (skipNonNegative r) = true)) ∧
      ((runTests (some r) true).run w).1 =
        .ok ((w.tests.take (((r.tests.filter fun t => t.timeout < 5.0).filter
          fun t => t.layerRequired < 0).length)).all isPass, some r) := by
  refine ⟨⟨((send (readCommand 0x44A80074)).run w).2, ?_, (send_world _ w).2, fun he => ?_⟩, ?_⟩
  · simp only [runTests, Bool.false_eq_true, if_false, Py.run_bind, runAll_silent r h, Py.run_pure]
  · have hm : ∀ xs : List TestCase, xs.map (fun t => (t.name, TestResult.skip)) =
        (xs.map TestCase.name).map fun n => (n, TestResult.skip) := fun xs => by
      rw [List.map_map]; rfl
    rw [skipNonNegative, he, hm]
    exact allPassOrSkip_insertAll_skip
      (show allPassOrSkip (PyDict.empty : PyDict (List Char) TestResult) = true from rfl) _
  · simp only [runTests, if_true, Py.run_bind, TestRunner.runQuick]
    have hq := quickLoop_silent (r.tests.filter fun t => t.timeout < 5.0) h
    rcases hrun : (quickLoop (r.tests.filter fun t => t.timeout < 5.0)).run w with ⟨res, w'⟩
    rw [hrun] at hq
    simp only at hq
    subst hq
    rfl

/-- A closed console answers no layer query, and the full run of `layeredRunner` reports
`True`. -/
theorem unreachable_target_counterexample :
    ¬ ∀ (r : TestRunner) (quick : Bool) (w : World), r.tests ≠ [] → Silent w →
        ((runTests (some r) quick).run w).1.toOption.map Prod.fst ≠ some true := by
  intro h
  exact h layeredRunner false ⟨[], [], [], [], [], []⟩ (by simp [layeredRunner])
    (fun a ha => absurd ha (List.not_mem_nil _)) rfl

theorem unreachable_target_passes_closed_console :
    Silent ⟨[], [], [], [], [], []⟩ ∧
      ((∃ w', (runTests (some layeredRunner) false).run ⟨[], [], [], [], [], []⟩ =
          (.ok (allPassOrSkip (skipNonNegative layeredRunner),
            some { layeredRunner with results := skipNonNegative layeredRunner }), w') ∧
          w'.calls = [] ++ [.send (readCommand 0x44A80074)] ∧
          (layeredRunner.results = .empty → allPassOrSkip (skipNonNegative layeredRunner) = true)) ∧
        ((runTests (some layeredRunner) true).run ⟨[], [], [], [], [], []⟩).1 =
          .ok ((([] : List (Except PyExc TestResult)).take
            (((layeredRunner.tests.filter fun t => t.timeout < 5.0).filter
              fun t => t.layerRequired < 0).length)).all isPass, some layeredRunner)) :=
  have h : Silent ⟨[], [], [], [], [], []⟩ := fun _ ha => absurd ha (List.not_mem_nil _)
  ⟨h, unreachable_target_passes layeredRunner h⟩

end FluxRipper
