import FluxRipper.Console.Link

/-! # Which command a response line belongs to

The target of spec §6 answers each command with its response lines and then one prompt
line (`Target`).  On the wire its answers follow each other in the order the commands
were written (`transcript`), so the reader's lines are, in order, the first lines of the
concatenated answers (`LinkInv`, from the framing lemmas of `Reader`), and a line's
position says which command it answers (`blocks`).

`send` drains the queue before writing, and that is all it does to keep answers apart.
`send_isolated` shows what this buys: if, when the drain loop ends, every line of the
earlier answers has been enqueued, then the lines `send(cmd)` returns are the first of
`cmd`'s response lines, and a prompt ends the collection only after all of them: the
prompt of `cmd` itself.  `late_reply_counterexample` shows the hypothesis is needed: an
answer that arrives after its command's deadline is returned by the next `send`.
-/

namespace FluxRipper

/-! ## What the target has sent -/

section Transcript
variable (reply : List (List Char) → List Char → List Char)

/-- Everything the target produces for the commands `cmds`, sent after `hist`. -/
def transcriptFrom (hist : List (List Char)) : List (List Char) → List Char
  | [] => []
  | cmd :: cmds => reply hist cmd ++ transcriptFrom (hist ++ [cmd]) cmds

/-- Everything the target produces for the commands written so far. -/
def transcript (cmds : List (List Char)) : List Char := transcriptFrom reply [] cmds

theorem transcriptFrom_snoc (hist cmds : List (List Char)) (cmd : List Char) :
    transcriptFrom reply hist (cmds ++ [cmd]) =
      transcriptFrom reply hist cmds ++ reply (hist ++ cmds) cmd := by
  induction cmds generalizing hist with
  | nil => simp [transcriptFrom]
  | cons c cmds ih => simp [transcriptFrom, ih]

theorem transcript_snoc (cmds : List (List Char)) (cmd : List Char) :
    transcript reply (cmds ++ [cmd]) = transcript reply cmds ++ reply cmds cmd :=
  transcriptFrom_snoc reply [] cmds cmd

end Transcript

/-! ## The invariant of every run -/

/-- The reader has read a prefix `R` of the transcript (the rest is on the wire or not yet
sent), has enqueued exactly its lines, and holds its last segment. -/
def Framed (reply : List (List Char) → List Char → List Char) (s : Link) : Prop :=
  ∃ R, R ++ s.port ++ s.outbox = transcript reply s.written ∧
    s.log = streamLines R ∧ s.buffer = pendingSegment R

/-- While a command is being sent: the drain ended with no more lines enqueued than the
earlier answers have, and during the collection the command is the last one written. -/
def WrittenInv (reply : List (List Char) → List Char → List Char) (s : Link) : Prop :=
  match s.phase with
  | .writing _ m => m ≤ (streamLines (transcript reply s.written)).length
  | .collecting cmd _ m =>
    ∃ ws, s.written = ws ++ [cmd] ∧ m ≤ (streamLines (transcript reply ws)).length
  | _ => True

/-- The invariant of the link. -/
structure LinkInv (reply : List (List Char) → List Char → List Char) (s : Link) : Prop where
  framed : Framed reply s
  queue : QueueInv s.phase s.queue s.log
  written : WrittenInv reply s

theorem streamLines_prefix {R X : List Char} : streamLines R <+: streamLines (R ++ X) := by
  rw [streamLines_append]
  exact List.prefix_append _ _

theorem Framed.log_prefix {reply : List (List Char) → List Char → List Char} {s : Link}
    (h : Framed reply s) : s.log <+: streamLines (transcript reply s.written) := by
  obtain ⟨R, hR, hlog, -⟩ := h
  rw [← hR, hlog, List.append_assoc]
  exact streamLines_prefix

/-- The caller's moves other than `write` leave the wire, the reader and the target alone. -/
theorem step_caller_frame (reply : List (List Char) → List Char → List Char) (s : Link)
    {e : Event} (he : (∃ c, e = .start c) ∨ e = .drain ∨ e = .poll ∨ e = .expire) :
    (step reply s e).outbox = s.outbox ∧ (step reply s e).port = s.port ∧
      (step reply s e).buffer = s.buffer ∧ (step reply s e).log = s.log ∧
      (step reply s e).written = s.written := by
  rcases s with ⟨ob, pt, bf, q, p, w, log, ret⟩
  rcases he with ⟨c, rfl⟩ | rfl | rfl | rfl
  · simp only [step]; split <;> simp
  · cases p <;> cases q <;> simp [step]
  · cases p <;> cases q <;> simp only [step] <;> (try split) <;> simp
  · cases p <;> simp [step]

theorem framed_caller (reply : List (List Char) → List Char → List Char) {s : Link}
    (h : Framed reply s) {e : Event}
    (he : (∃ c, e = .start c) ∨ e = .drain ∨ e = .poll ∨ e = .expire) :
    Framed reply (step reply s e) := by
  obtain ⟨hob, hpt, hbf, hl, hw⟩ := step_caller_frame reply s he
  obtain ⟨R, hR, hlog, hbuf⟩ := h
  exact ⟨R, by rw [hob, hpt, hw]; exact hR, by rw [hl]; exact hlog, by rw [hbf]; exact hbuf⟩

theorem framed_step (reply : List (List Char) → List Char → List Char) {s : Link}
    (h : Framed reply s) (e : Event) : Framed reply (step reply s e) := by
  obtain ⟨R, hR, hlog, hbuf⟩ := h
  cases e with
  | emit n => exact ⟨R, by simpa [step] using hR, hlog, hbuf⟩
  | read =>
    by_cases hp : s.port = []
    · exact ⟨R, by simpa [step, hp] using hR, by simp [step, hp, readerStep, hlog],
        by simp [step, hp, readerStep, hbuf]⟩
    · refine ⟨R ++ s.port, by simpa [step, hp] using hR, ?_, ?_⟩ <;>
        simp only [step, if_neg hp, readerStep_data, hlog, hbuf]
      · rw [streamLines_append R]
      · rw [pendingSegment_append R]
  | write =>
    rcases s with ⟨ob, pt, bf, q, p, w, log, ret⟩
    cases p with
    | writing c m =>
      exact ⟨R, by simp [step, transcript_snoc, ← hR], hlog, hbuf⟩
    | _ => exact ⟨R, hR, hlog, hbuf⟩
  | start c => exact framed_caller reply ⟨R, hR, hlog, hbuf⟩ (.inl ⟨c, rfl⟩)
  | drain => exact framed_caller reply ⟨R, hR, hlog, hbuf⟩ (.inr (.inl rfl))
  | poll => exact framed_caller reply ⟨R, hR, hlog, hbuf⟩ (.inr (.inr (.inl rfl)))
  | expire => exact framed_caller reply ⟨R, hR, hlog, hbuf⟩ (.inr (.inr (.inr rfl)))

theorem linkInv_step (reply : List (List Char) → List Char → List Char) {s : Link}
    (h : LinkInv reply s) (e : Event) : LinkInv reply (step reply s e) := by
  refine ⟨framed_step reply h.framed e, queueInv_step reply h.queue e, ?_⟩
  have hpre := h.framed.log_prefix
  have hw := h.written
  rcases s with ⟨ob, pt, bf, q, p, w, log, ret⟩
  cases e with
  | emit n | read => exact hw
  | start c => simp only [step]; split <;> simp_all [WrittenInv]
  | drain =>
    cases p with
    | draining c =>
      cases q with
      | nil => exact hpre.length_le
      | cons l q => trivial
    | _ => exact hw
  | write =>
    cases p with
    | writing c m => exact ⟨w, rfl, hw⟩
    | _ => exact hw
  | poll =>
    cases p with
    | collecting c rs m =>
      cases q with
      | nil => exact hw
      | cons l q => simp only [step]; split <;> simp_all [WrittenInv]
    | _ => exact hw
  | expire => cases p <;> simp_all [step, WrittenInv]

theorem linkInv_of_reachable {reply : List (List Char) → List Char → List Char} {s : Link}
    (hs : Reachable reply s) : LinkInv reply s :=
  Reachable.induction reply (LinkInv reply)
    ⟨⟨[], rfl, rfl, rfl⟩, List.suffix_refl _, trivial⟩ (fun _ e h => linkInv_step reply h e) hs

/-! ## A target that answers with lines and a prompt -/

/-- Lines on the wire, each followed by a newline. -/
def encodeLines (lines : List (List Char)) : List Char := lines.flatMap (· ++ ['\n'])

theorem encodeLines_cons (l : List Char) (ls : List (List Char)) :
    encodeLines (l :: ls) = l ++ '\n' :: encodeLines ls := by
  simp [encodeLines]

theorem framed_encodeLines {ls : List (List Char)} (h : ∀ l ∈ ls, '\n' ∉ l) :
    streamLines (encodeLines ls) = (ls.map strip).filter (fun l => !l.isEmpty) ∧
      pendingSegment (encodeLines ls) = [] := by
  induction ls with
  | nil => exact ⟨rfl, rfl⟩
  | cons l ls ih =>
    have hl := h l (List.mem_cons_self _ _)
    obtain ⟨ih1, ih2⟩ := ih fun x hx => h x (List.mem_cons_of_mem _ hx)
    rw [encodeLines_cons, streamLines_newline hl, pendingSegment_newline hl, ih1, ih2]
    refine ⟨?_, rfl⟩
    by_cases he : (strip l).isEmpty <;> simp [he, List.filter_cons]

/-- The target of spec §6: each command is answered with response lines and one prompt
line.  No line holds a newline, no response line strips to a prompt, the prompt does. -/
structure Target where
  /-- The response lines to a command, after the commands `hist`. -/
  resp : List (List Char) → List Char → List (List Char)
  prompt : List Char
  resp_newline : ∀ hist cmd, ∀ l ∈ resp hist cmd, '\n' ∉ l
  resp_not_prompt : ∀ hist cmd, ∀ l ∈ resp hist cmd, isPrompt (strip l) = false
  prompt_newline : '\n' ∉ prompt
  prompt_prompt : isPrompt (strip prompt) = true

namespace Target
variable (T : Target)

/-- The bytes of the answer to `cmd`. -/
def reply (hist : List (List Char)) (cmd : List Char) : List Char :=
  encodeLines (T.resp hist cmd ++ [T.prompt])

/-- The response lines to `cmd` as the reader enqueues them. -/
def respLines (hist : List (List Char)) (cmd : List Char) : List (List Char) :=
  ((T.resp hist cmd).map strip).filter fun l => !l.isEmpty

/-- Everything the reader enqueues for the answer to `cmd`. -/
def block (hist : List (List Char)) (cmd : List Char) : List (List Char) :=
  T.respLines hist cmd ++ [strip T.prompt]

/-- The blocks of the answers to `cmds`, sent after `hist`. -/
def blocksFrom (hist : List (List Char)) : List (List Char) → List (List Char)
  | [] => []
  | cmd :: cmds => T.block hist cmd ++ blocksFrom (hist ++ [cmd]) cmds

/-- The blocks of the answers to the commands written so far. -/
def blocks (cmds : List (List Char)) : List (List Char) := T.blocksFrom [] cmds

theorem blocksFrom_snoc (hist cmds : List (List Char)) (cmd : List Char) :
    T.blocksFrom hist (cmds ++ [cmd]) = T.blocksFrom hist cmds ++ T.block (hist ++ cmds) cmd := by
  induction cmds generalizing hist with
  | nil => simp [blocksFrom]
  | cons c cmds ih => simp [blocksFrom, ih]

theorem blocks_snoc (cmds : List (List Char)) (cmd : List Char) :
    T.blocks (cmds ++ [cmd]) = T.blocks cmds ++ T.block cmds cmd :=
  T.blocksFrom_snoc [] cmds cmd

theorem respLines_not_prompt {hist : List (List Char)} {cmd l : List Char}
    (h : l ∈ T.respLines hist cmd) : isPrompt l = false := by
  obtain ⟨l', hl', rfl⟩ := List.mem_map.mp (List.mem_filter.mp h).1
  exact T.resp_not_prompt hist cmd l' hl'

theorem framed_reply (hist : List (List Char)) (cmd : List Char) :
    streamLines (T.reply hist cmd) = T.block hist cmd ∧ pendingSegment (T.reply hist cmd) = [] := by
  have hnl : ∀ l ∈ T.resp hist cmd ++ [T.prompt], '\n' ∉ l := fun l hl => by
    rcases List.mem_append.mp hl with hl | hl
    · exact T.resp_newline hist cmd l hl
    · rw [List.mem_singleton.mp hl]; exact T.prompt_newline
  obtain ⟨h1, h2⟩ := framed_encodeLines hnl
  have hp : (strip T.prompt).isEmpty = false := by
    have := T.prompt_prompt
    cases h : strip T.prompt <;> simp_all [isPrompt, startsWith]
  refine ⟨?_, h2⟩
  rw [reply, h1, List.map_append, List.filter_append]
  simp [block, respLines, hp]

/-- The reader's lines for a whole transcript are the answers' blocks, in order. -/
theorem framed_transcriptFrom (hist cmds : List (List Char)) :
    streamLines (transcriptFrom T.reply hist cmds) = T.blocksFrom hist cmds ∧
      pendingSegment (transcriptFrom T.reply hist cmds) = [] := by
  induction cmds generalizing hist with
  | nil => exact ⟨rfl, rfl⟩
  | cons cmd cmds ih =>
    obtain ⟨h1, h2⟩ := T.framed_reply hist cmd
    obtain ⟨ih1, ih2⟩ := ih (hist ++ [cmd])
    rw [transcriptFrom, streamLines_append, pendingSegment_append, h1, h2, List.nil_append, ih1,
      ih2]
    exact ⟨rfl, rfl⟩

theorem streamLines_transcript (cmds : List (List Char)) :
    streamLines (transcript T.reply cmds) = T.blocks cmds :=
  (T.framed_transcriptFrom [] cmds).1

end Target

/-! ## Isolation -/

theorem prefix_of_prompt_free {rs A : List (List Char)} {p : List Char}
    (h : rs <+: A ++ [p]) (hp : isPrompt p = true) (hr : ∀ l ∈ rs, isPrompt l = false) :
    rs <+: A := by
  rcases List.prefix_concat_iff.mp h with rfl | h
  · simpa [hp] using hr p (by simp)
  · exact h

/-- During a collection that started after every earlier answer was enqueued, what has been
collected and what is still queued lie inside the current command's block. -/
theorem collected_prefix_block (T : Target) {s : Link} (inv : LinkInv T.reply s)
    {cmd : List Char} {rs : List (List Char)} {m : Nat} (hp : s.phase = .collecting cmd rs m)
    {ws : List (List Char)} (hw : s.written = ws ++ [cmd]) (hsettled : (T.blocks ws).length ≤ m) :
    rs ++ s.queue <+: T.block ws cmd ∧ m = (T.blocks ws).length := by
  have hwi := inv.written
  have hq := inv.queue
  have hpre := inv.framed.log_prefix
  simp only [WrittenInv, hp] at hwi
  rw [hp] at hq
  obtain ⟨ws', hw', hm⟩ := hwi
  obtain rfl : ws = ws' := List.append_cancel_right (hw.symm.trans hw')
  obtain ⟨-, hd, -⟩ := hq
  rw [T.streamLines_transcript] at hm
  rw [hw, T.streamLines_transcript, T.blocks_snoc] at hpre
  have hdrop : (T.blocks ws ++ T.block ws cmd).drop m = T.block ws cmd :=
    List.drop_left' (le_antisymm hsettled hm)
  refine ⟨?_, le_antisymm hm hsettled⟩
  rw [hd, ← hdrop]
  exact hpre.drop m

/-- A prompt polled after prompt-free lines inside a block is the block's own prompt. -/
theorem prompt_ends_block (T : Target) {rs q : List (List Char)} {l : List Char}
    {ws : List (List Char)} {cmd : List Char} (h : rs ++ l :: q <+: T.block ws cmd)
    (hl : isPrompt l = true) : rs ++ [l] = T.block ws cmd := by
  have h1 : rs ++ [l] <+: T.block ws cmd :=
    ((List.prefix_append_right_inj rs).mpr ((List.prefix_cons_inj l).mpr List.nil_prefix)).trans h
  rcases List.prefix_concat_iff.mp h1 with h | h
  · exact h
  · exact absurd (T.respLines_not_prompt (h.subset (List.mem_append_right rs
      (List.mem_singleton_self l)))) (by simp [hl])

/-- **Response isolation, under a settled drain.**  If, when `send(cmd)`'s drain loop
ended, the reader had enqueued every line of the answers to the earlier commands `ws`,
then the lines collected so far are the first of `cmd`'s response lines, and a prompt
that ends the collection comes right after all of them: it is `cmd`'s own. -/
theorem send_isolated (T : Target) {s : Link} (hs : Reachable T.reply s) {cmd : List Char}
    {rs : List (List Char)} {m : Nat} (hp : s.phase = .collecting cmd rs m)
    {ws : List (List Char)} (hw : s.written = ws ++ [cmd]) (hsettled : (T.blocks ws).length ≤ m) :
    rs <+: T.respLines ws cmd ∧
      ∀ l q, s.queue = l :: q → isPrompt l = true → rs ++ [l] = T.block ws cmd := by
  have inv := linkInv_of_reachable hs
  have hcur := (collected_prefix_block T inv hp hw hsettled).1
  have hr : ∀ l ∈ rs, isPrompt l = false := by
    have hq := inv.queue
    rw [hp] at hq
    exact hq.2.2
  refine ⟨prefix_of_prompt_free ((List.prefix_append _ _).trans hcur)
    (by simpa using T.prompt_prompt) hr, fun l q hq hl => ?_⟩
  rw [hq] at hcur
  exact prompt_ends_block T hcur hl

/-- A target whose `n`-th answer is one line of `n + 1` letters `R`, then the prompt `>`. -/
def countingTarget : Target where
  resp hist _ := [List.replicate (hist.length + 1) 'R']
  prompt := ['>']
  resp_newline hist _ l hl := by
    simp only [List.mem_singleton] at hl; subst hl; simp [List.mem_replicate]
  resp_not_prompt hist _ l hl := by
    simp only [List.mem_singleton] at hl; subst hl
    rw [strip_eq_self (by simp [List.mem_replicate]; decide)]
    rfl
  prompt_newline := by decide
  prompt_prompt := by decide

/-- `send("a")` returns its answer `R`; then `send("b")` drains an empty queue, writes, its
answer `RR` and `>` is read, and one `poll` collects `RR`. -/
def isolatedRun : List Event :=
  [.start ['a'], .drain, .write, .emit 4, .read, .poll, .poll,
    .start ['b'], .drain, .write, .emit 5, .read, .poll]

/-- After `send("a")` returned, `send("b")` has collected `RR` with its prompt queued: what
it collected is its own response, and the queued prompt ends its own block. -/
theorem send_isolated_second_command :
    (Reachable countingTarget.reply (run countingTarget.reply Link.init isolatedRun) ∧
      (run countingTarget.reply Link.init isolatedRun).phase = .collecting ['b'] [['R', 'R']] 2 ∧
      (run countingTarget.reply Link.init isolatedRun).written = [['a']] ++ [['b']] ∧
      (countingTarget.blocks [['a']]).length ≤ 2) ∧
    (run countingTarget.reply Link.init isolatedRun).returned = [(['a'], [['R']])] ∧
    (run countingTarget.reply Link.init isolatedRun).queue = [['>']] ∧
    ([['R', 'R']] <+: countingTarget.respLines [['a']] ['b'] ∧
      ∀ l q, (run countingTarget.reply Link.init isolatedRun).queue = l :: q →
        isPrompt l = true → [['R', 'R']] ++ [l] = countingTarget.block [['a']] ['b']) := by
  have h1 : (run countingTarget.reply Link.init (isolatedRun.take 4)).port ≠ [] := by decide
  have e1 : run countingTarget.reply Link.init (isolatedRun.take 11) =
      run countingTarget.reply (step countingTarget.reply
        (run countingTarget.reply Link.init (isolatedRun.take 4)) .read)
        [.poll, .poll, .start ['b'], .drain, .write, .emit 5] := rfl
  rw [step_read_data _ _ h1] at e1
  have h2 : (run countingTarget.reply Link.init (isolatedRun.take 11)).port ≠ [] := by
    rw [e1]; decide
  have hs : run countingTarget.reply Link.init isolatedRun =
      run countingTarget.reply (step countingTarget.reply
        (run countingTarget.reply Link.init (isolatedRun.take 11)) .read) [.poll] := rfl
  rw [step_read_data _ _ h2, e1] at hs
  have hp : (run countingTarget.reply Link.init isolatedRun).phase =
      .collecting ['b'] [['R', 'R']] 2 := by rw [hs]; decide
  have hw : (run countingTarget.reply Link.init isolatedRun).written = [['a']] ++ [['b']] := by
    rw [hs]; decide
  have hsettled : (countingTarget.blocks [['a']]).length ≤ 2 := by decide
  exact ⟨⟨⟨_, rfl⟩, hp, hw, hsettled⟩, by rw [hs]; decide, by rw [hs]; decide,
    send_isolated countingTarget ⟨_, rfl⟩ hp hw hsettled⟩

/-- `send("a")` reaches its deadline before the target answers; `send("b")` drains an empty
queue, writes, and then the answer to `a` arrives. -/
def lateReplyRun : List Event :=
  [.start ['a'], .drain, .write, .expire, .start ['b'], .drain, .write, .emit 8, .read, .poll]

/-- **A late answer is returned by the next `send`.**  After `lateReplyRun`, `send("b")` has
collected `R`, the response line of `a`, which is not a response line of `b` (`RR`); the
next `poll` ends its collection at `a`'s prompt. -/
theorem late_reply_counterexample :
    ¬ ∀ (T : Target) (s : Link) (cmd : List Char) (rs : List (List Char)) (m : Nat)
        (ws : List (List Char)),
        Reachable T.reply s → s.phase = .collecting cmd rs m → s.written = ws ++ [cmd] →
        rs <+: T.respLines ws cmd ∧
          ∀ l q, s.queue = l :: q → isPrompt l = true → rs ++ [l] = T.block ws cmd := by
  intro h
  have hA : (run countingTarget.reply Link.init (lateReplyRun.take 8)).port ≠ [] := by decide
  have hs : run countingTarget.reply Link.init lateReplyRun =
      run countingTarget.reply (step countingTarget.reply
        (run countingTarget.reply Link.init (lateReplyRun.take 8)) .read) [.poll] := rfl
  rw [step_read_data _ _ hA] at hs
  have hp : (run countingTarget.reply Link.init lateReplyRun).phase =
      .collecting ['b'] [['R']] 0 := by rw [hs]; decide
  have hw : (run countingTarget.reply Link.init lateReplyRun).written = [['a']] ++ [['b']] := by
    rw [hs]; decide
  have := (h countingTarget _ _ _ _ _ ⟨_, rfl⟩ hp hw).1
  revert this
  decide

end FluxRipper
