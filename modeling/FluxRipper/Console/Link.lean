import FluxRipper.Console.Reader

/-! # The console link: the target, the reader and `send`, interleaved

A `Link` is one open `CDCConsole` connection together with what is on its other end.
Three parties move on it, in any order (`Event`):

* the **target** answers each command it has received: `reply hist cmd` is what it sends
  back for `cmd` after the commands `hist`, and an `emit` step puts the next bytes of
  its answers on the wire, so the wire may be cut anywhere;
* the **reader thread** (`_reader_loop`) reads everything waiting on the wire and runs its
  split loop, enqueuing lines on `response_queue`;
* the **caller**, inside `CDCConsole.send(cmd)`, walks through its phases: the drain loop,
  one `write`, then the collection loop, whose every `get(timeout=0.1)` is a `poll`; the
  deadline may pass at any moment of the collection (`expire`), since nothing here fixes
  how fast the target or the reader are.

Two fields are bookkeeping the code does not keep: `log`, every line the reader has ever
enqueued, and `returned`, every `send` that has returned with its command and result;
`mark` in a phase records how many lines had been enqueued when the drain loop ended.

`send_returns_takeWhile` is the collection half of the framing contract: a `send`
returns the lines it collected, which with the prompt-free head of the queue make up the
longest prompt-free prefix of the lines enqueued since its drain ended.  It returns that
whole prefix when it ends at a prompt, or at its deadline with none of it still queued;
at a deadline with such lines queued it returns less (`console_framing_counterexample`).
-/

namespace FluxRipper

/-- `line.startswith('>')`: a prompt line ends a response. -/
def isPrompt (line : List Char) : Bool := startsWith line ['>']

/-- Where the caller of `CDCConsole.send` is. -/
inductive Phase
  | idle
  /-- In the `while not self.response_queue.empty()` loop. -/
  | draining (cmd : List Char)
  /-- The drain loop has ended, with `mark` lines enqueued so far; the command is not
  yet written. -/
  | writing (cmd : List Char) (mark : Nat)
  /-- In the collection loop, with `responses` collected. -/
  | collecting (cmd : List Char) (responses : List (List Char)) (mark : Nat)
  deriving DecidableEq

/-- One open console connection and the target at its other end. -/
structure Link where
  /-- What the target has produced and not yet put on the wire. -/
  outbox : List Char
  /-- The bytes waiting on the wire (`in_waiting`). -/
  port : List Char
  /-- `_reader_loop`'s `buffer`. -/
  buffer : List Char
  /-- `response_queue`. -/
  queue : List (List Char)
  phase : Phase
  /-- The commands the target has received, in order. -/
  written : List (List Char)
  log : List (List Char)
  returned : List (List Char × List (List Char))
  deriving DecidableEq

/-- A freshly connected console: nothing sent, nothing received. -/
def Link.init : Link := ⟨[], [], [], [], .idle, [], [], []⟩

/-- One move of one party. -/
inductive Event
  /-- The target puts the next `n` bytes of its answers on the wire. -/
  | emit (n : Nat)
  /-- One pass of `_reader_loop`. -/
  | read
  /-- The caller enters `send(cmd)`. -/
  | start (cmd : List Char)
  /-- One iteration of the drain loop. -/
  | drain
  /-- `self.serial.write(f"{command}\r\n".encode())`. -/
  | write
  /-- One `response_queue.get(timeout=0.1)`. -/
  | poll
  /-- `time.time() < deadline` fails. -/
  | expire
  deriving DecidableEq

section Step
variable (reply : List (List Char) → List Char → List Char)

/-- The effect of one event. -/
def step (s : Link) : Event → Link
  | .emit n => { s with outbox := s.outbox.drop n, port := s.port ++ s.outbox.take n }
  | .read =>
    let r := readerStep s.buffer (if s.port = [] then .idle else .data s.port)
    { s with port := [], buffer := r.2, queue := s.queue ++ r.1, log := s.log ++ r.1 }
  | .start cmd => if s.phase = .idle then { s with phase := .draining cmd } else s
  | .drain =>
    match s.phase, s.queue with
    | .draining cmd, [] => { s with phase := .writing cmd s.log.length }
    | .draining _, _ :: q => { s with queue := q }
    | _, _ => s
  | .write =>
    match s.phase with
    | .writing cmd m =>
      { s with phase := .collecting cmd [] m, outbox := s.outbox ++ reply s.written cmd,
               written := s.written ++ [cmd] }
    | _ => s
  | .poll =>
    match s.phase, s.queue with
    | .collecting cmd rs m, l :: q =>
      if isPrompt l then { s with queue := q, phase := .idle, returned := s.returned ++ [(cmd, rs)] }
      else { s with queue := q, phase := .collecting cmd (rs ++ [l]) m }
    | _, _ => s
  | .expire =>
    match s.phase with
    | .collecting cmd rs _ => { s with phase := .idle, returned := s.returned ++ [(cmd, rs)] }
    | _ => s

/-- A run: the events, in order. -/
def run (s : Link) (es : List Event) : Link := es.foldl (step reply) s

/-- A state some run from a fresh connection reaches. -/
def Reachable (s : Link) : Prop := ∃ es, run reply Link.init es = s

theorem run_append (s : Link) (es es' : List Event) :
    run reply s (es ++ es') = run reply (run reply s es) es' :=
  List.foldl_append _ _ _ _

/-- A `read` with bytes waiting runs the split loop on the buffer and those bytes. -/
theorem step_read_data (s : Link) (h : s.port ≠ []) :
    step reply s .read =
      { s with port := [], buffer := pendingSegment (s.buffer ++ s.port),
               queue := s.queue ++ streamLines (s.buffer ++ s.port),
               log := s.log ++ streamLines (s.buffer ++ s.port) } := by
  simp [step, h, readerStep_data]

/-- An invariant of every step holds of every reachable state. -/
theorem Reachable.induction (P : Link → Prop) (h0 : P Link.init)
    (hstep : ∀ s e, P s → P (step reply s e)) {s : Link} (hs : Reachable reply s) : P s := by
  obtain ⟨es, rfl⟩ := hs
  suffices ∀ t, P t → P (run reply t es) from this _ h0
  induction es with
  | nil => exact fun t ht => ht
  | cons e es ih => exact fun t ht => ih _ (hstep t e ht)

end Step

/-! ## The queue during a `send` -/

/-- Where the queue stands relative to everything enqueued: a suffix of it, and during a
`send`, exactly what was enqueued since the drain ended and has not been collected. -/
def QueueInv : Phase → List (List Char) → List (List Char) → Prop
  | .collecting _ rs m, q, log =>
    m ≤ log.length ∧ rs ++ q = log.drop m ∧ ∀ l ∈ rs, isPrompt l = false
  | .writing _ m, q, log => m ≤ log.length ∧ q = log.drop m
  | _, q, log => q <:+ log

theorem QueueInv.append {p : Phase} {q log : List (List Char)} (h : QueueInv p q log)
    (new : List (List Char)) : QueueInv p (q ++ new) (log ++ new) := by
  cases p with
  | collecting c rs m =>
    obtain ⟨hm, hq, hr⟩ := h
    exact ⟨hm.trans (by simp), by rw [← List.append_assoc, hq, List.drop_append_of_le_length hm],
      hr⟩
  | writing c m =>
    exact ⟨h.1.trans (by simp), by rw [h.2, List.drop_append_of_le_length h.1]⟩
  | idle | draining c =>
    obtain ⟨t, rfl⟩ := h
    exact ⟨t, by simp⟩

theorem suffix_of_drop_eq {l : List (List Char)} {q log : List (List Char)} {m : Nat}
    (h : l ++ q = log.drop m) : q <:+ log :=
  (List.suffix_append l q).trans (h ▸ List.drop_suffix m log)

theorem queueInv_step (reply : List (List Char) → List Char → List Char) {s : Link}
    (h : QueueInv s.phase s.queue s.log) (e : Event) :
    QueueInv (step reply s e).phase (step reply s e).queue (step reply s e).log := by
  rcases s with ⟨ob, pt, bf, q, p, w, log, ret⟩
  cases e with
  | emit n => exact h
  | read => exact h.append _
  | start c => cases p <;> exact h
  | drain =>
    cases p with
    | draining c =>
      cases q with
      | nil => exact ⟨le_refl _, by simp [step]⟩
      | cons l q => exact (List.suffix_cons l q).trans h
    | _ => exact h
  | write =>
    cases p with
    | writing c m => exact ⟨h.1, by simpa [step] using h.2, by simp⟩
    | _ => exact h
  | poll =>
    cases p with
    | collecting c rs m =>
      cases q with
      | nil => exact h
      | cons l q =>
        obtain ⟨hm, hd, hr⟩ := h
        by_cases hl : isPrompt l
        · have hd' : (rs ++ [l]) ++ q = log.drop m := by simpa using hd
          simpa [step, hl, QueueInv] using suffix_of_drop_eq hd'
        · simp only [step, hl]
          exact ⟨hm, by simpa using hd, by simpa [or_imp, forall_and, hl] using hr⟩
    | _ => exact h
  | expire =>
    cases p with
    | collecting c rs m => exact suffix_of_drop_eq h.2.1
    | _ => exact h

theorem queueInv_of_reachable {reply : List (List Char) → List Char → List Char} {s : Link}
    (hs : Reachable reply s) : QueueInv s.phase s.queue s.log :=
  Reachable.induction reply (fun s => QueueInv s.phase s.queue s.log) (List.suffix_refl _)
    (fun _ e h => queueInv_step reply h e) hs

/-- **Console framing, `send` side.**  A `send` returns the lines it has collected; with
the prompt-free lines still at the head of the queue, they make up the longest prefix
without a prompt line of the lines enqueued since its drain loop ended.  So it returns
that whole prefix when it ends at a prompt, or at its deadline with no such line queued. -/
theorem send_returns_takeWhile {reply : List (List Char) → List Char → List Char} {s : Link}
    (hs : Reachable reply s) {cmd : List Char} {rs : List (List Char)} {m : Nat}
    (hp : s.phase = .collecting cmd rs m) {e : Event} (hend : (step reply s e).phase = .idle) :
    (step reply s e).returned = s.returned ++ [(cmd, rs)] ∧
      rs ++ s.queue.takeWhile (fun l => !isPrompt l) =
        (s.log.drop m).takeWhile fun l => !isPrompt l := by
  have hq := queueInv_of_reachable hs
  rcases s with ⟨ob, pt, bf, q, p, w, log, ret⟩
  subst hp
  obtain ⟨-, hd, hr⟩ := hq
  refine ⟨?_, by rw [← hd, List.takeWhile_append_of_pos (by simpa using hr)]⟩
  cases e
  case expire => rfl
  case poll =>
    cases q with
    | nil => simp [step] at hend
    | cons l q =>
      by_cases hl : isPrompt l
      · simp [step, hl]
      · simp [step, hl] at hend
  all_goals simp [step] at hend

/-- **Console framing.**  However the target's bytes are cut into reads, with failed reads
in between, the reader enqueues exactly the stripped non-empty segments of the stream
before its last newline and keeps the last segment; and in every run of the link, a `send`
returns the lines it collected, which with the prompt-free lines still at the head of the
queue make up the longest prompt-free prefix of the lines enqueued since its drain ended. -/
theorem console_framing :
    (∀ es : List ReadEvent,
      readerLoop [] es = (streamLines (received es), pendingSegment (received es))) ∧
    ∀ (reply : List (List Char) → List Char → List Char) (s : Link) (cmd : List Char)
      (rs : List (List Char)) (m : Nat) (e : Event),
      Reachable reply s → s.phase = .collecting cmd rs m → (step reply s e).phase = .idle →
      (step reply s e).returned = s.returned ++ [(cmd, rs)] ∧
        rs ++ s.queue.takeWhile (fun l => !isPrompt l) =
          (s.log.drop m).takeWhile fun l => !isPrompt l :=
  ⟨readerLoop_frames, fun _ _ _ _ _ _ hs hp hend => send_returns_takeWhile hs hp hend⟩

/-- The target answers every command with `a`, `b` and a prompt, all of it read before
`send("c")` polls once; its deadline then passes with `b` and the prompt still queued. -/
def abRun : List Event := [.start ['c'], .drain, .write, .emit 6, .read, .poll]

/-- The answer `a`, `b`, `>` to `send("c")`. -/
def abReply : List (List Char) → List Char → List Char := fun _ _ => "a\nb\n>\n".toList

theorem abRun_eq : run abReply Link.init abRun =
    { Link.init with
        phase := .collecting ['c'] ["a".toList] 0, written := [['c']],
        queue := ["b".toList, ">".toList], log := ["a".toList, "b".toList, ">".toList] } := by
  have hread : (run abReply Link.init (abRun.take 4)).port ≠ [] := by decide
  have hs : run abReply Link.init abRun =
      run abReply (step abReply (run abReply Link.init (abRun.take 4)) .read) [.poll] := rfl
  rw [step_read_data _ _ hread] at hs
  rw [hs]
  decide

/-- Every line of the answer is enqueued before the deadline, yet the `send` that expires
returns `a` alone, not the longest prompt-free prefix `a`, `b`. -/
theorem console_framing_counterexample :
    Reachable abReply (run abReply Link.init abRun) ∧
      (run abReply Link.init abRun).phase = .collecting ['c'] ["a".toList] 0 ∧
      (step abReply (run abReply Link.init abRun) .expire).phase = .idle ∧
      (step abReply (run abReply Link.init abRun) .expire).returned = [(['c'], ["a".toList])] ∧
      ((run abReply Link.init abRun).log.drop 0).takeWhile (fun l => !isPrompt l) =
        ["a".toList, "b".toList] := by
  refine ⟨⟨_, rfl⟩, ?_⟩
  rw [abRun_eq]
  decide

/-- At that deadline `send("c")` returns `a`, and `b`, still queued, completes the
longest prompt-free prefix. -/
theorem console_framing_expire_queued :
    (Reachable abReply (run abReply Link.init abRun) ∧
      (run abReply Link.init abRun).phase = .collecting ['c'] ["a".toList] 0 ∧
      (step abReply (run abReply Link.init abRun) .expire).phase = .idle) ∧
    ((step abReply (run abReply Link.init abRun) .expire).returned =
        (run abReply Link.init abRun).returned ++ [(['c'], ["a".toList])] ∧
      ["a".toList] ++ (run abReply Link.init abRun).queue.takeWhile (fun l => !isPrompt l) =
        ((run abReply Link.init abRun).log.drop 0).takeWhile fun l => !isPrompt l) := by
  have hp : (run abReply Link.init abRun).phase = .collecting ['c'] ["a".toList] 0 := by
    rw [abRun_eq]
  have hend : (step abReply (run abReply Link.init abRun) .expire).phase = .idle := by
    rw [abRun_eq]; rfl
  exact ⟨⟨⟨_, rfl⟩, hp, hend⟩, console_framing.2 _ _ _ _ _ .expire ⟨_, rfl⟩ hp hend⟩

end FluxRipper
