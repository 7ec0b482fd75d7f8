import FluxRipper.DevLoop.TestRunner

/-! # What the runner's verdicts say

`run_quick` is read against `quickRun`, quick mode as the spec states it: walk the quick
tests in registration order, query the layer before each, invoke a test whose layer has
been reached, and stop at the first invoked test that does not pass.

**`run_quick_fail_fast`**: for every registry, every sequence of layers the target
reports and every behaviour of the test functions, `run_quick` makes the calls of
`quickRun` and returns its verdict, which is `True` exactly when every invoked test
returned `PASS`.

**`run_tests_verdict`**: on a fresh runner, `run_tests(quick=False)` returns `True`
exactly when the last result recorded for every name is `PASS` or `SKIP`; when the names
of the registry are distinct, exactly when no entry processed in the run ends `FAIL` or
`ERROR`.  Two entries of one name, the failed count `run_all` prints and the exit status
of `test_hardware.py` all break the agreement the spec asks for
(`verdicts_counterexample`).

**`stale_result_returned`**: `run_all` returns the runner's `results`, which keep what
earlier runs recorded.
-/

namespace FluxRipper

/-! ## Quick mode -/

/-- Whether a call is of a test function. -/
def Call.isTest : Call → Bool
  | .test _ => true
  | _ => false

/-- Quick mode as the spec states it, over the quick tests in registration order, the
layers the target reports to the query before each candidate (`-1` once it stops
answering), and the answers of the test functions in turn: the calls made and the verdict.
A candidate is invoked when the layer read just before it reaches its `layer_required`;
the first invoked one that does not return `PASS`, or raises, ends the run with `False`. -/
def quickRun : List TestCase → List Int → List (Except PyExc TestResult) → List Call × Bool
  | [], _, _ => ([], true)
  | t :: ts, layers, answers =>
    if t.layerRequired ≤ layers.headD (-1) then
      if isPass (answers.headD (.ok .pass)) then
        let rest := quickRun ts layers.tail answers.tail
        (.send (readCommand 0x44A80074) :: .test t.testFn :: rest.1, rest.2)
      else ([.send (readCommand 0x44A80074), .test t.testFn], false)
    else
      let rest := quickRun ts layers.tail answers
      (.send (readCommand 0x44A80074) :: rest.1, rest.2)

theorem getD_succ_tail {α : Type} (l : List α) (k : Nat) (d : α) :
    l.getD (k + 1) d = l.tail.getD k d := by
  cases l <;> simp

/-- **Quick mode passes exactly when every invoked test passed**: the `k`-th test function
it invokes answers with the `k`-th answer. -/
theorem quickRun_verdict (ts : List TestCase) (layers : List Int)
    (answers : List (Except PyExc TestResult)) :
    (quickRun ts layers answers).2 = true ↔
      ∀ k < ((quickRun ts layers answers).1.filter Call.isTest).length,
        isPass (answers.getD k (.ok .pass)) = true := by
  induction ts generalizing layers answers with
  | nil => simp [quickRun]
  | cons t ts ih =>
    have h0 : answers.getD 0 (.ok .pass) = answers.headD (.ok .pass) := by cases answers <;> rfl
    simp only [quickRun]
    split
    · split
      · rename_i hpass
        simp only [List.filter_cons, Call.isTest, if_true, Bool.false_eq_true, if_false,
          List.length_cons, Nat.forall_lt_succ_left, h0, hpass, true_and, getD_succ_tail, ih]
      · rename_i hfail
        exact iff_of_false Bool.false_ne_true fun h => hfail (h0 ▸ h 0 (by simp [Call.isTest]))
    · simpa [List.filter_cons, Call.isTest] using ih layers.tail answers

@[simp] theorem getLayer_no_lines : getLayer (fun _ => []) = -1 := rfl

/-- One layer query against replies that all arrive. -/
theorem getLayer_run_replies {replies : List (List (List Char))} {w : World}
    (hs : w.sends = replies.map .ok) :
    CDCConsole.getLayer.run w =
      (.ok ((replies.map fun ls => getLayer fun _ => ls).headD (-1)),
        { w.log (.send (readCommand 0x44A80074)) with sends := w.sends.tail }) := by
  rcases w with ⟨_, _, ss, _, _, _⟩
  simp only at hs
  subst hs
  cases replies <;> rfl

/-- The `try` of `run_quick`: the test passes, or it failed or raised anything at all. -/
theorem quickTest_run (fn : TestFn) (w : World) :
    (tryCatch (do pure ((← callTest fn) == TestResult.pass)) fun _ => pure false : Py Bool).run w =
      (.ok (isPass (w.tests.headD (.ok .pass))), { w.log (.test fn) with tests := w.tests.tail }) := by
  rcases w with ⟨hs, rs, ss, _ | ⟨_ | r, ts⟩, bs, cs⟩
  · rfl
  · rfl
  · cases r <;> rfl

/-- **`run_quick`'s loop refines `quickRun`**, over the layers the replies report. -/
theorem quickLoop_run (ts : List TestCase) (replies : List (List (List Char))) (w : World)
    (hs : w.sends = replies.map .ok) :
    ((quickLoop ts).run w).1 =
        .ok (quickRun ts (replies.map fun ls => getLayer fun _ => ls) w.tests).2 ∧
      ((quickLoop ts).run w).2.calls =
        w.calls ++ (quickRun ts (replies.map fun ls => getLayer fun _ => ls) w.tests).1 := by
  induction ts generalizing replies w with
  | nil => exact ⟨rfl, by simp [quickLoop, quickRun]⟩
  | cons t ts ih =>
    have hs₁ : w.sends.tail = replies.tail.map .ok := by rw [hs, List.map_tail]
    by_cases hreach : t.layerRequired ≤ (replies.map fun ls => getLayer fun _ => ls).headD (-1)
    · have hgt : ¬t.layerRequired > (replies.map fun ls => getLayer fun _ => ls).headD (-1) :=
        not_lt.mpr hreach
      simp only [quickLoop, quickRun, Py.run_bind, getLayer_run_replies hs, hgt, hreach, if_true,
        if_false, quickTest_run, World.log_tests, ← List.map_tail]
      cases hpass : isPass (w.tests.headD (.ok .pass))
      · simp only [hpass, Bool.false_eq_true, if_false, Py.run_pure]
        simp [World.log]
      · obtain ⟨h1, h2⟩ := ih replies.tail { ({ w.log (.send (readCommand 0x44A80074)) with
          sends := w.sends.tail }).log (.test t.testFn) with tests := w.tests.tail } hs₁
        simp only [hpass, if_true]
        exact ⟨by simpa [World.log] using h1, by simpa [World.log] using h2⟩
    · have hgt : t.layerRequired > (replies.map fun ls => getLayer fun _ => ls).headD (-1) :=
        lt_of_not_le hreach
      simp only [quickLoop, quickRun, Py.run_bind, getLayer_run_replies hs, hgt, hreach, if_true,
        if_false, ← List.map_tail]
      obtain ⟨h1, h2⟩ := ih replies.tail
        { w.log (.send (readCommand 0x44A80074)) with sends := w.sends.tail } hs₁
      exact ⟨h1, by simpa [World.log] using h2⟩

/-- **Quick-mode fail-fast.**  For every registry, every sequence of layers the target
reports to `run_quick`'s queries, and any behaviour of the test functions (a raise of any
kind included), `run_quick` walks the entries with a timeout under 5 s in registration
order and makes exactly the calls of `quickRun`: before each candidate a layer query, then
its test function when the layer read reaches its `layer_required`, until an invoked test
does not return `PASS`.  It returns `quickRun`'s verdict, which is `True` exactly when
every test function it invoked returned `PASS`. -/
theorem run_quick_fail_fast (r : TestRunner) (replies : List (List (List Char))) (w : World)
    (hs : w.sends = replies.map .ok) :
    (r.runQuick.run w).1 = .ok (quickRun (r.tests.filter fun t => t.timeout < 5.0)
        (replies.map fun ls => getLayer fun _ => ls) w.tests).2 ∧
      (r.runQuick.run w).2.calls = w.calls ++ (quickRun (r.tests.filter fun t => t.timeout < 5.0)
        (replies.map fun ls => getLayer fun _ => ls) w.tests).1 ∧
      ((quickRun (r.tests.filter fun t => t.timeout < 5.0)
          (replies.map fun ls => getLayer fun _ => ls) w.tests).2 = true ↔
        ∀ k < ((quickRun (r.tests.filter fun t => t.timeout < 5.0)
            (replies.map fun ls => getLayer fun _ => ls) w.tests).1.filter Call.isTest).length,
          isPass (w.tests.getD k (.ok .pass)) = true) :=
  ⟨(quickLoop_run _ replies w hs).1, (quickLoop_run _ replies w hs).2, quickRun_verdict _ _ _⟩

/-- The spec's registry: three quick tests at layer 0, answering `PASS`, `FAIL`, `PASS`. -/
def passFailPassRunner : TestRunner where
  tests := [⟨"first".toList, 0, 0, 1.0⟩, ⟨"second".toList, 0, 1, 1.0⟩, ⟨"third".toList, 0, 2, 1.0⟩]
  results := .empty

/-- The target at layer 0 for every query. -/
def layerZeroReplies : List (List (List Char)) := List.replicate 3 ["OK:00000000".toList]

/-- The test functions answer `PASS`, `FAIL`, `PASS`. -/
def passFailPassWorld : World :=
  ⟨[], [], layerZeroReplies.map .ok, [.ok .pass, .ok .fail, .ok .pass], [], []⟩

theorem run_quick_fail_fast_pass_fail_pass :
    passFailPassWorld.sends = layerZeroReplies.map .ok ∧
      ((passFailPassRunner.runQuick.run passFailPassWorld).1 =
          .ok (quickRun (passFailPassRunner.tests.filter fun t => t.timeout < 5.0)
            (layerZeroReplies.map fun ls => getLayer fun _ => ls) passFailPassWorld.tests).2 ∧
        (passFailPassRunner.runQuick.run passFailPassWorld).2.calls =
          passFailPassWorld.calls ++ (quickRun (passFailPassRunner.tests.filter fun t => t.timeout < 5.0)
            (layerZeroReplies.map fun ls => getLayer fun _ => ls) passFailPassWorld.tests).1 ∧
        ((quickRun (passFailPassRunner.tests.filter fun t => t.timeout < 5.0)
            (layerZeroReplies.map fun ls => getLayer fun _ => ls) passFailPassWorld.tests).2 = true ↔
          ∀ k < ((quickRun (passFailPassRunner.tests.filter fun t => t.timeout < 5.0)
              (layerZeroReplies.map fun ls => getLayer fun _ => ls)
                passFailPassWorld.tests).1.filter Call.isTest).length,
            isPass (passFailPassWorld.tests.getD k (.ok .pass)) = true)) :=
  ⟨rfl, run_quick_fail_fast passFailPassRunner layerZeroReplies passFailPassWorld rfl⟩

/-! ## A full run -/

/-- `run_all`'s value, from the layer its query read: the runner, with what
`runAllRecords` says recorded over its `results`. -/
theorem runAll_results (r : TestRunner) (minLayer layer : Int) {w w' : World}
    (hlayer : CDCConsole.getLayer.run w = (.ok layer, w'))
    (hint : NoInterrupt (w.tests.take (r.tests.filter (InWindow layer minLayer)).length)) :
    ((r.runAll minLayer).run w).1 =
      .ok { r with results := r.results.insertAll (runAllRecords layer minLayer r.tests w.tests) } := by
  have ht : w'.tests = w.tests := by
    have := (send_world (readCommand 0x44A80074) w).1
    rwa [← CDCConsole.getLayer_world, hlayer] at this
  rw [← ht] at hint ⊢
  simp only [TestRunner.runAll, Py.run_bind, hlayer, runAllLoop_run _ _ _ _ w' hint, Py.run_pure]

theorem allPassOrSkip_iff (d : PyDict (List Char) TestResult) :
    allPassOrSkip d = true ↔ ∀ n v, d.get? n = some v → v = .pass ∨ v = .skip := by
  simp only [allPassOrSkip, List.all_eq_true, PyDict.mem_values, Bool.or_eq_true, beq_iff_eq]
  exact ⟨fun h n v hv => h v ⟨n, hv⟩, fun h v ⟨n, hv⟩ => h n v hv⟩

theorem runAllRecords_names_sublist (layer minLayer : Int) (ts : List TestCase)
    (answers : List (Except PyExc TestResult)) :
    ((runAllRecords layer minLayer ts answers).map Prod.fst).Sublist (ts.map TestCase.name) := by
  induction ts generalizing answers with
  | nil => exact List.Sublist.slnil
  | cons t ts ih =>
    simp only [runAllRecords]
    split
    · exact (ih answers).cons₂ _
    · split
      · exact (ih answers).cons _
      · exact (ih answers.tail).cons₂ _

/-- A target at layer 0, and test functions that answer `answers` in turn. -/
def layerZeroWorld (answers : List (Except PyExc TestResult)) : World :=
  ⟨[], [], [.ok ["OK:00000000".toList]], answers, [], []⟩

/-- `memory_basic`, at layer 0. -/
def memoryBasic : TestCase := ⟨"memory_basic".toList, 0, 0, 1.0⟩

/-- **The verdict of `run_tests(quick=False)`.**  On a runner with no earlier runs, for
every registry, every layer the query reads and every behaviour of the test functions
short of an interrupt, `run_tests(quick=False)` returns a verdict that is `True` exactly
when the last result the run recorded for each name is `PASS` or `SKIP`; when the
registry's names are distinct, exactly when no entry processed in the run ends `FAIL` or
`ERROR`. -/
theorem run_tests_verdict (ts : List TestCase) {w w' : World} {layer : Int}
    (hlayer : CDCConsole.getLayer.run w = (.ok layer, w'))
    (hint : NoInterrupt (w.tests.take (ts.filter (InWindow layer 0)).length)) :
    ∃ v r', ((runTests (some ⟨ts, .empty⟩) false).run w).1 = .ok (v, some r') ∧
      (v = true ↔ ∀ n res, (((runAllRecords layer 0 ts w.tests).filter fun x => x.1 = n).getLast?.map
        Prod.snd) = some res → res = .pass ∨ res = .skip) ∧
      ((ts.map TestCase.name).Nodup →
        (v = true ↔ ∀ x ∈ runAllRecords layer 0 ts w.tests, x.2 ≠ .fail ∧ x.2 ≠ .error)) := by
  have hrun := runAll_results ⟨ts, .empty⟩ 0 layer hlayer hint
  refine ⟨allPassOrSkip (PyDict.empty.insertAll (runAllRecords layer 0 ts w.tests)),
    ⟨ts, PyDict.empty.insertAll (runAllRecords layer 0 ts w.tests)⟩, ?_, ?_, fun hnd => ?_⟩
  · rcases hr : (TestRunner.runAll ⟨ts, .empty⟩ 0).run w with ⟨res, w''⟩
    rw [hr] at hrun
    subst hrun
    simp only [runTests, Bool.false_eq_true, if_false, Py.run_bind, hr, Py.run_pure]
  · simp only [allPassOrSkip_iff, PyDict.get?_insertAll, PyDict.get?_empty, Option.or_none]
  · have hitems := PyDict.insertAll_empty_items ((runAllRecords_names_sublist layer 0 ts w.tests).nodup hnd)
    simp only [allPassOrSkip, PyDict.values, hitems, List.all_eq_true, List.mem_map,
      forall_exists_index, and_imp, forall_apply_eq_imp_iff₂]
    refine forall₂_congr fun x _ => ?_
    cases x.2 <;> simp

theorem run_tests_verdict_memory_basic :
    CDCConsole.getLayer.run (layerZeroWorld [.ok .pass]) =
        (.ok 0, (CDCConsole.getLayer.run (layerZeroWorld [.ok .pass])).2) ∧
      NoInterrupt ((layerZeroWorld [.ok .pass]).tests.take ([memoryBasic].filter (InWindow 0 0)).length) ∧
      ∃ v r', ((runTests (some ⟨[memoryBasic], .empty⟩) false).run (layerZeroWorld [.ok .pass])).1 =
          .ok (v, some r') ∧
        (v = true ↔ ∀ n res, ((((runAllRecords 0 0 [memoryBasic]
          (layerZeroWorld [.ok .pass]).tests).filter fun x => x.1 = n).getLast?.map
            Prod.snd) = some res → res = .pass ∨ res = .skip)) ∧
        (([memoryBasic].map TestCase.name).Nodup →
          (v = true ↔ ∀ x ∈ runAllRecords 0 0 [memoryBasic] (layerZeroWorld [.ok .pass]).tests,
            x.2 ≠ .fail ∧ x.2 ≠ .error)) :=
  have hlayer : CDCConsole.getLayer.run (layerZeroWorld [.ok .pass]) =
      (.ok 0, (CDCConsole.getLayer.run (layerZeroWorld [.ok .pass])).2) := rfl
  have hint : NoInterrupt
      ((layerZeroWorld [.ok .pass]).tests.take ([memoryBasic].filter (InWindow 0 0)).length) := by
    decide
  ⟨hlayer, hint, run_tests_verdict [memoryBasic] hlayer hint⟩

/-- The `failed` counter `run_all` prints: one for each entry it runs whose test function
returned anything but `PASS`, or raised. -/
def runAllFailed (layer minLayer : Int) : List TestCase → List (Except PyExc TestResult) → Nat
  | [], _ => 0
  | t :: ts, answers =>
    if layer < t.layerRequired then runAllFailed layer minLayer ts answers
    else if t.layerRequired < minLayer then runAllFailed layer minLayer ts answers
    else (if isPass (answers.headD (.ok .pass)) then 0 else 1) +
      runAllFailed layer minLayer ts answers.tail

/-- The exit status of `test_hardware.py` after its run: `sys.exit(0 if failed == 0 else 1)`,
where `failed` counts the results that are `FAIL`. -/
def testHardwareExit (results : PyDict (List Char) TestResult) : Nat :=
  if results.values.countP (· == .fail) = 0 then 0 else 1

/-- Two entries named `flux_capture`, the first failing, the second passing: `run_tests`
says `True`.  `gpio_loopback` returns `SKIP`: `run_all` counts it failed.
`memory_basic` raises: `test_hardware.py` exits with status 0. -/
theorem verdicts_counterexample :
    ¬(∀ (ts : List TestCase) (w w' : World) (layer : Int),
        CDCConsole.getLayer.run w = (.ok layer, w') →
        NoInterrupt w.tests →
        (((runTests (some ⟨ts, .empty⟩) false).run w).1.toOption.map Prod.fst = some true ↔
          ∀ x ∈ runAllRecords layer 0 ts w.tests, x.2 ≠ .fail ∧ x.2 ≠ .error)) ∧
      ¬(∀ (ts : List TestCase) (w w' : World) (layer : Int),
        CDCConsole.getLayer.run w = (.ok layer, w') →
        NoInterrupt w.tests →
        (runAllFailed layer 0 ts w.tests = 0 ↔
          ∀ x ∈ runAllRecords layer 0 ts w.tests, x.2 ≠ .fail ∧ x.2 ≠ .error)) ∧
      ¬(∀ (ts : List TestCase) (w w' : World) (layer : Int),
        CDCConsole.getLayer.run w = (.ok layer, w') →
        NoInterrupt w.tests →
        (((TestRunner.runAll ⟨ts, .empty⟩ 0).run w).1.toOption.map
            (fun r => testHardwareExit r.results) = some 0 ↔
          ∀ x ∈ runAllRecords layer 0 ts w.tests, x.2 ≠ .fail ∧ x.2 ≠ .error)) := by
  refine ⟨fun h => ?_, fun h => ?_, fun h => ?_⟩
  · have := h [⟨"flux_capture".toList, 0, 0, 1.0⟩, ⟨"flux_capture".toList, 0, 1, 1.0⟩]
      (layerZeroWorld [.ok .fail, .ok .pass]) _ 0 rfl (by decide)
    exact absurd this (by decide)
  · have := h [⟨"gpio_loopback".toList, 0, 0, 1.0⟩] (layerZeroWorld [.ok .skip]) _ 0 rfl
      (by decide)
    exact absurd this (by decide)
  · have := h [memoryBasic] (layerZeroWorld [.error .serialException])
      _ 0 rfl (by decide)
    exact absurd this (by decide)

/-! ## Results across runs -/

/-- `memory_basic`, on a runner with no earlier runs. -/
def memoryRunner : TestRunner := ⟨[memoryBasic], .empty⟩

/-- A target at layer 0 for two queries, and a `memory_basic` that fails. -/
def twoRunWorld : World :=
  ⟨[], [], [.ok ["OK:00000000".toList], .ok ["OK:00000000".toList]], [.ok .fail], [], []⟩

/-- `run_all(min_layer=0)` records `memory_basic` as `FAIL`; a second `run_all(min_layer=1)`
on the same runner processes no entry and still returns `{memory_basic: FAIL}`, where a
runner with no earlier runs returns `{}`. -/
theorem stale_result_returned :
    (((memoryRunner.runAll 0).run twoRunWorld).1.toOption.bind fun r₁ =>
        ((r₁.runAll 1).run ((memoryRunner.runAll 0).run twoRunWorld).2).1.toOption.map
          fun r₂ => r₂.results.items) = some [("memory_basic".toList, .fail)] ∧
      (((memoryRunner.runAll 1).run ((memoryRunner.runAll 0).run twoRunWorld).2).1.toOption.map
          fun r => r.results.items) = some [] := by
  decide

end FluxRipper
