import FluxRipper.HwTests.Memory

/-! # Tests over the console link

A test runs in the caller's thread of the console link: each register call is one
`send`, and what the test does next depends on the lines that `send` returned.  The link
of `Console/Link.lean` lets the target, the reader thread and the caller move in any
order; a test is running on it when the completed sends are the test's own calls, each
chosen from what the sends before it returned.  `RegProg.replay` feeds a test the lines
its sends returned and says which calls it made and where it stands.

**`healthy_link_runs_test`**: on a healthy link to a target that implements the register
protocol, in every interleaving, a test that has made the completed sends stands where it
stands on the register file: what is left of it, run on the register file holding the
target's memory after those commands, gives the verdict the whole test gives on the
register file from the target's initial memory.  So a memory test that returns over a
healthy link to such a target returns `PASS` (`memory_test_passes_over_link`).
-/

namespace FluxRipper

namespace RegProg

/-- The test, after `send` returned the lines `answers` to its first calls in turn: where it
then stands, and the commands of the calls answered. -/
def replay : RegProg → List (List (List Char)) → RegProg × List (List Char)
  | read addr k, lines :: answers =>
    let r := replay (k (readMemory (fun _ => lines) addr)) answers
    (r.1, readCommand addr :: r.2)
  | write addr data k, lines :: answers =>
    let r := replay (k (writeMemory (fun _ => lines) addr data)) answers
    (r.1, writeCommand addr data :: r.2)
  | p, _ => (p, [])

theorem bounded_replay {p : RegProg} (hp : p.Bounded) (answers : List (List (List Char))) :
    (p.replay answers).1.Bounded := by
  induction p generalizing answers with
  | done => exact hp
  | raise => exact hp
  | read addr k ih =>
    cases answers with
    | nil => exact hp
    | cons lines answers => exact ih _ (hp.2 _) answers
  | write addr data k ih =>
    cases answers with
    | nil => exact hp
    | cons lines answers => exact ih _ (hp.2 _) answers

/-- A read depends on `send` only through the lines it returns to the read's command. -/
theorem readMemory_const (send : List Char → List (List Char)) (addr : Nat) :
    readMemory send addr = readMemory (fun _ => send (readCommand addr)) addr := rfl

theorem writeMemory_const (send : List Char → List (List Char)) (addr data : Nat) :
    writeMemory send addr data = writeMemory (fun _ => send (writeCommand addr data)) addr data :=
  rfl

/-- **Replaying the target's answers runs the test on the console.**  When a test fed the
answers of `T` to the commands `cmds`, sent after `hist`, makes exactly those calls, what
is left of it runs from there as the whole test runs from `hist`. -/
theorem run_console_replay (T : Target) {p : RegProg} {hist cmds : List (List Char)}
    (h : (p.replay ((T.answersFrom hist cmds).map Prod.snd)).2 = cmds) :
    p.run (console T.respLines) hist =
      (p.replay ((T.answersFrom hist cmds).map Prod.snd)).1.run (console T.respLines)
        (hist ++ cmds) := by
  induction p generalizing hist cmds with
  | done => obtain rfl : cmds = [] := h.symm; simp [replay]
  | raise => obtain rfl : cmds = [] := h.symm; simp [replay]
  | read addr k ih =>
    cases cmds with
    | nil => simp [replay]
    | cons c cmds =>
      simp only [Target.answersFrom, List.map_cons, replay, List.cons.injEq] at h ⊢
      obtain ⟨rfl, h⟩ := h
      rw [run_read, console_read, console_next, readMemory_const]
      exact (ih _ h).trans (by rw [List.append_assoc, List.singleton_append])
  | write addr data k ih =>
    cases cmds with
    | nil => simp [replay]
    | cons c cmds =>
      simp only [Target.answersFrom, List.map_cons, replay, List.cons.injEq] at h ⊢
      obtain ⟨rfl, h⟩ := h
      rw [run_write, console_write, console_next, writeMemory_const]
      exact (ih _ h).trans (by rw [List.append_assoc, List.singleton_append])

end RegProg

/-- The answers a target gave so far are its answers to their own commands. -/
theorem Target.eq_answersFrom_of_prefix (T : Target) {l : List (List Char × List (List Char))}
    {hist cmds : List (List Char)} (h : l <+: T.answersFrom hist cmds) :
    l = T.answersFrom hist (l.map Prod.fst) := by
  induction cmds generalizing hist l with
  | nil => simp [List.prefix_nil.mp h, Target.answersFrom]
  | cons c cmds ih =>
    cases l with
    | nil => rfl
    | cons x l =>
      obtain ⟨rfl, hl⟩ := List.cons_prefix_cons.mp h
      simp only [List.map_cons, Target.answersFrom, List.cons.injEq, true_and]
      exact ih hl

/-- What the sends of a healthy run returned: each its command's answer from the target,
after the commands of the sends before it. -/
theorem returned_eq_answersFrom (T : Target) (es : List Event) (hes : ∀ e ∈ es, e ≠ .expire) :
    (run T.reply Link.init es).returned =
      T.answersFrom [] ((run T.reply Link.init es).returned.map Prod.fst) :=
  T.eq_answersFrom_of_prefix (healthy_returned T es hes)

/-- **A test over a healthy link stands where it stands on the register file.**  Over a
healthy link to a target that implements the register protocol, in every interleaving of
the target, the reader thread and the caller: when the completed sends are the calls of
a test, each chosen from what the sends before it returned, what is left of the test, run
on the register file holding the target's memory after those commands, gives what the
whole test gives on the register file from the target's initial memory. -/
theorem healthy_link_runs_test (R : RegisterTarget) {p : RegProg} (hp : p.Bounded)
    (es : List Event) (hes : ∀ e ∈ es, e ≠ .expire)
    (hcaller : (p.replay ((run R.target.reply Link.init es).returned.map Prod.snd)).2 =
      (run R.target.reply Link.init es).returned.map Prod.fst) :
    p.run registerFile R.init =
      (p.replay ((run R.target.reply Link.init es).returned.map Prod.snd)).1.run registerFile
        (R.memory ((run R.target.reply Link.init es).returned.map Prod.fst)) := by
  have hret := returned_eq_answersFrom R.target es hes
  set cmds := (run R.target.reply Link.init es).returned.map Prod.fst
  rw [hret] at hcaller ⊢
  calc p.run registerFile R.init = p.run (console R.target.respLines) [] :=
        ((console_simulation R).run_eq hp (show R.memory [] = R.init from rfl)).symm
    _ = _ := RegProg.run_console_replay R.target hcaller
    _ = _ := (console_simulation R).run_eq (RegProg.bounded_replay hp _) (by rw [List.nil_append])

theorem healthy_link_runs_test_write_read :
    (RegProg.writeReadBack 5 7 (.done .pass)).Bounded ∧ (∀ e ∈ writeReadRun, e ≠ .expire) ∧
      ((RegProg.writeReadBack 5 7 (.done .pass)).replay
          ((run zeroTarget.target.reply Link.init writeReadRun).returned.map Prod.snd)).2 =
        (run zeroTarget.target.reply Link.init writeReadRun).returned.map Prod.fst ∧
      (RegProg.writeReadBack 5 7 (.done .pass)).run registerFile zeroTarget.init =
        ((RegProg.writeReadBack 5 7 (.done .pass)).replay
            ((run zeroTarget.target.reply Link.init writeReadRun).returned.map Prod.snd)).1.run
          registerFile
          (zeroTarget.memory ((run zeroTarget.target.reply Link.init writeReadRun).returned.map
            Prod.fst)) := by
  have hp : (RegProg.writeReadBack 5 7 (.done .pass)).Bounded :=
    RegProg.bounded_writeReadBack (by norm_num) (by norm_num) trivial
  have hes : ∀ e ∈ writeReadRun, e ≠ .expire := by decide
  have hport : (run zeroTarget.target.reply Link.init (writeReadRun.take 4)).port ≠ [] := by decide
  have hs : run zeroTarget.target.reply Link.init writeReadRun =
      run zeroTarget.target.reply (step zeroTarget.target.reply
        (run zeroTarget.target.reply Link.init (writeReadRun.take 4)) .read) (writeReadRun.drop 5) :=
    rfl
  rw [step_read_data _ _ hport] at hs
  have hcaller : ((RegProg.writeReadBack 5 7 (.done .pass)).replay
      ((run zeroTarget.target.reply Link.init writeReadRun).returned.map Prod.snd)).2 =
      (run zeroTarget.target.reply Link.init writeReadRun).returned.map Prod.fst := by
    rw [hs]; decide
  exact ⟨hp, hes, hcaller, healthy_link_runs_test zeroTarget hp _ hes hcaller⟩

/-- **A memory test that returns over a healthy link passes.**  Over a healthy link to a
target that implements the register protocol, in every interleaving, a memory test of the
two suites that has returned, its calls being the completed sends, returned `PASS`. -/
theorem memory_test_passes_over_link (R : RegisterTarget) (es : List Event)
    (hes : ∀ e ∈ es, e ≠ .expire) {p : RegProg} (hmem : p ∈ memoryTests) {result : TestResult}
    (hcaller : p.replay ((run R.target.reply Link.init es).returned.map Prod.snd) =
      (.done result, (run R.target.reply Link.init es).returned.map Prod.fst)) :
    result = .pass := by
  have hret := returned_eq_answersFrom R.target es hes
  set cmds := (run R.target.reply Link.init es).returned.map Prod.fst
  rw [hret] at hcaller
  have hrun := RegProg.run_console_replay R.target
    (show (p.replay ((R.target.answersFrom [] cmds).map Prod.snd)).2 = cmds by rw [hcaller])
  rw [hcaller, (console_simulation R).run_eq (bounded_memoryTests p hmem) rfl,
    memoryTests_registerFile _ p hmem] at hrun
  simpa using hrun.symm

/-- `test_memory_basic` over a link to `zeroTarget`: its write, then its read, each
answered, read and collected. -/
def memoryBasicRun : List Event :=
  [.start (writeCommand 0x44A8006C 0xCAFEBABE), .drain, .write, .emit 20, .read, .poll, .poll,
    .start (readCommand 0x44A8006C), .drain, .write, .emit 20, .read, .poll, .poll]

theorem memory_test_passes_over_link_memory_basic :
    (∀ e ∈ memoryBasicRun, e ≠ .expire) ∧ testMemoryBasic ∈ memoryTests ∧
      testMemoryBasic.replay
          ((run zeroTarget.target.reply Link.init memoryBasicRun).returned.map Prod.snd) =
        (.done .pass, (run zeroTarget.target.reply Link.init memoryBasicRun).returned.map Prod.fst) ∧
      TestResult.pass = .pass := by
  have hes : ∀ e ∈ memoryBasicRun, e ≠ .expire := by decide
  have hport₁ : (run zeroTarget.target.reply Link.init (memoryBasicRun.take 4)).port ≠ [] := by
    decide
  have hs₁ : run zeroTarget.target.reply Link.init memoryBasicRun =
      run zeroTarget.target.reply (step zeroTarget.target.reply
        (run zeroTarget.target.reply Link.init (memoryBasicRun.take 4)) .read)
        (memoryBasicRun.drop 5) := rfl
  rw [step_read_data _ _ hport₁] at hs₁
  have hs₂ : ∀ s, run zeroTarget.target.reply s (memoryBasicRun.drop 5) =
      run zeroTarget.target.reply (step zeroTarget.target.reply
        (run zeroTarget.target.reply s ((memoryBasicRun.drop 5).take 6)) .read)
        ((memoryBasicRun.drop 5).drop 7) := fun _ => rfl
  rw [hs₂, step_read_data _ _ (by decide)] at hs₁
  have hmem : testMemoryBasic ∈ memoryTests := by
    simp only [memoryTests, List.mem_cons, true_or, or_true]
  have hcaller : testMemoryBasic.replay
      ((run zeroTarget.target.reply Link.init memoryBasicRun).returned.map Prod.snd) =
      (.done .pass, (run zeroTarget.target.reply Link.init memoryBasicRun).returned.map Prod.fst) := by
    rw [hs₁]; rfl
  exact ⟨hes, hmem, hcaller, memory_test_passes_over_link zeroTarget _ hes hmem hcaller⟩

end FluxRipper
