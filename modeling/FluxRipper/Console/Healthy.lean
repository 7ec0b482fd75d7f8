import FluxRipper.Console.Isolation

/-! # A healthy link

A healthy run is one with no `expire` event: no `send` reaches its deadline, so each one
returns only at its prompt.  Then every drain loop ends with all earlier answers enqueued,
`send_isolated`'s hypothesis always holds, and each `send` returns exactly its command's
response lines: `healthy_returned` says the sends completed so far returned `T.answers` of
the commands written, in order.  On the schedule that reads and polls each answer as it
arrives (`sessionEvents`), every `send` does return (`run_sessionEvents`).
-/
namespace FluxRipper

namespace Target
variable (T : Target)

/-- Each command of `cmds`, sent after `hist`, with the lines its `send` should return. -/
def answersFrom (hist : List (List Char)) :
    List (List Char) → List (List Char × List (List Char))
  | [] => []
  | cmd :: cmds => (cmd, T.respLines hist cmd) :: answersFrom (hist ++ [cmd]) cmds

/-- Each command written so far with the lines its `send` should return. -/
def answers (cmds : List (List Char)) : List (List Char × List (List Char)) :=
  T.answersFrom [] cmds

theorem answersFrom_snoc (hist cmds : List (List Char)) (cmd : List Char) :
    T.answersFrom hist (cmds ++ [cmd]) =
      T.answersFrom hist cmds ++ [(cmd, T.respLines (hist ++ cmds) cmd)] := by
  induction cmds generalizing hist with
  | nil => simp [answersFrom]
  | cons c cmds ih => simp [answersFrom, ih]

theorem answers_snoc (cmds : List (List Char)) (cmd : List Char) :
    T.answers (cmds ++ [cmd]) = T.answers cmds ++ [(cmd, T.respLines cmds cmd)] :=
  T.answersFrom_snoc [] cmds cmd

theorem answersFrom_map_fst (hist cmds : List (List Char)) :
    (T.answersFrom hist cmds).map Prod.fst = cmds := by
  induction cmds generalizing hist with
  | nil => rfl
  | cons c cmds ih => simp [answersFrom, ih]

end Target

/-- Where a healthy run stands: between sends every answer has been enqueued, a drain
ends at the end of the earlier answers, and every completed `send` returned its
command's response lines. -/
def Settled (T : Target) : Phase → List (List Char) → List (List Char) →
    List (List Char × List (List Char)) → Prop
  | .collecting cmd _ m, written, _, returned =>
    ∃ ws, written = ws ++ [cmd] ∧ m = (T.blocks ws).length ∧ returned = T.answers ws
  | .writing _ m, written, _, returned =>
    m = (T.blocks written).length ∧ returned = T.answers written
  | _, written, log, returned => log = T.blocks written ∧ returned = T.answers written

theorem eq_of_prefix_append {l new : List (List Char)} (h : l ++ new <+: l) : new = [] := by
  have := h.length_le
  simp only [List.length_append] at this
  exact List.eq_nil_of_length_eq_zero (by omega)

/-- A `read` only adds to the log; between sends, when everything is enqueued, it adds
nothing. -/
theorem settled_read (T : Target) {s : Link} (hinv : LinkInv T.reply s)
    (h : Settled T s.phase s.written s.log s.returned) :
    Settled T (step T.reply s .read).phase (step T.reply s .read).written
      (step T.reply s .read).log (step T.reply s .read).returned := by
  have hpre' := (linkInv_step T.reply hinv .read).framed.log_prefix
  obtain ⟨new, hnew⟩ : ∃ new, (step T.reply s .read).log = s.log ++ new := ⟨_, rfl⟩
  have hw : (step T.reply s .read).written = s.written := rfl
  have hp : (step T.reply s .read).phase = s.phase := rfl
  have hr : (step T.reply s .read).returned = s.returned := rfl
  rw [hnew, hw, hp, hr]
  rw [hnew, hw, T.streamLines_transcript] at hpre'
  rcases s with ⟨ob, pt, bf, q, p, w, log, ret⟩
  cases p with
  | collecting c rs m => exact h
  | writing c m => exact h
  | idle | draining c =>
    rw [← h.1] at hpre'
    rw [eq_of_prefix_append hpre', List.append_nil]
    exact h

/-- A prompt polled in a settled collection ends its command's block: the log then holds
every block, and the `send` returns the command's response lines. -/
theorem settled_prompt (T : Target) {ob pt bf l c : List Char} {q rs w log : List (List Char)}
    {m : Nat} {ret : List (List Char × List (List Char))}
    (hinv : LinkInv T.reply ⟨ob, pt, bf, l :: q, .collecting c rs m, w, log, ret⟩)
    (h : Settled T (.collecting c rs m) w log ret) (hl : isPrompt l) :
    log = T.blocks w ∧ ret ++ [(c, rs)] = T.answers w := by
  obtain ⟨ws, hw, hm, hret⟩ := h
  obtain ⟨-, hd, -⟩ := hinv.queue
  obtain ⟨hcur, -⟩ := collected_prefix_block T hinv rfl hw hm.ge
  have hblock := prompt_ends_block T hcur hl
  have hrs : rs = T.respLines ws c := (List.append_inj' hblock rfl).1
  have hpre := hinv.framed.log_prefix
  dsimp only at hd hpre
  rw [hw, T.streamLines_transcript] at hpre
  refine ⟨hw ▸ hpre.eq_of_length_le ?_, by rw [hw, T.answers_snoc, hret, hrs]⟩
  have hlen := congrArg List.length hd
  have hblen := congrArg List.length hblock
  simp only [Target.block, List.length_append, List.length_drop, List.length_cons,
    List.length_singleton, List.length_nil] at hlen hblen
  simp only [T.blocks_snoc, Target.block, List.length_append, List.length_singleton]
  omega

theorem settled_step (T : Target) {s : Link} (hinv : LinkInv T.reply s)
    (h : Settled T s.phase s.written s.log s.returned) {e : Event} (he : e ≠ .expire) :
    Settled T (step T.reply s e).phase (step T.reply s e).written (step T.reply s e).log
      (step T.reply s e).returned := by
  cases e with
  | expire => exact absurd rfl he
  | read => exact settled_read T hinv h
  | emit n => exact h
  | start c =>
    rcases s with ⟨ob, pt, bf, q, p, w, log, ret⟩
    cases p <;> exact h
  | drain =>
    rcases s with ⟨ob, pt, bf, q, p, w, log, ret⟩
    cases p with
    | draining c =>
      cases q with
      | nil => exact ⟨congrArg List.length h.1, h.2⟩
      | cons l q => exact h
    | _ => exact h
  | write =>
    rcases s with ⟨ob, pt, bf, q, p, w, log, ret⟩
    cases p with
    | writing c m => exact ⟨w, rfl, h.1, h.2⟩
    | _ => exact h
  | poll =>
    rcases s with ⟨ob, pt, bf, q, p, w, log, ret⟩
    cases p with
    | collecting c rs m =>
      cases q with
      | nil => exact h
      | cons l q =>
        by_cases hl : isPrompt l
        · simp only [step, hl, if_true]
          exact settled_prompt T hinv h hl
        · simp only [step, hl]
          exact h
    | _ => exact h

/-- In a run where no `send` reaches its deadline, the state is settled. -/
theorem settled_of_healthy (T : Target) (es : List Event) (hes : ∀ e ∈ es, e ≠ .expire) :
    LinkInv T.reply (run T.reply Link.init es) ∧
      Settled T (run T.reply Link.init es).phase (run T.reply Link.init es).written
        (run T.reply Link.init es).log (run T.reply Link.init es).returned := by
  induction es using List.reverseRecOn with
  | nil => exact ⟨linkInv_of_reachable ⟨[], rfl⟩, rfl, rfl⟩
  | append_singleton es e ih =>
    obtain ⟨hinv, hset⟩ := ih fun e' he' => hes e' (List.mem_append_left _ he')
    rw [run_append]
    exact ⟨linkInv_step T.reply hinv e,
      settled_step T hinv hset (hes e (List.mem_append_right _ (List.mem_singleton_self e)))⟩

/-- **On a healthy link every `send` returns its own command's response lines**: the
completed sends are the first of `T.answers` of the commands written. -/
theorem healthy_returned (T : Target) (es : List Event) (hes : ∀ e ∈ es, e ≠ .expire) :
    (run T.reply Link.init es).returned <+: T.answers (run T.reply Link.init es).written := by
  have h := (settled_of_healthy T es hes).2
  unfold Settled at h
  split at h
  · obtain ⟨ws, hw, -, hret⟩ := h
    rw [hret, hw, T.answers_snoc]
    exact List.prefix_append _ _
  · rw [h.2]
  · rw [h.2]

/-! ## The healthy schedule -/

/-- A link between sends with nothing in transit: the caller idle, and the target's outbox,
the wire, the reader's buffer and the queue all empty. -/
structure Quiet (s : Link) : Prop where
  idle : s.phase = .idle
  outbox : s.outbox = []
  port : s.port = []
  buffer : s.buffer = []
  queue : s.queue = []

theorem run_polls (reply : List (List Char) → List Char → List Char) {s : Link}
    {cmd : List Char} {rs : List (List Char)} {m : Nat} (hp : s.phase = .collecting cmd rs m)
    {ls q : List (List Char)} {p : List Char} (hq : s.queue = ls ++ p :: q)
    (hls : ∀ l ∈ ls, isPrompt l = false) (hpr : isPrompt p = true) :
    run reply s (List.replicate (ls.length + 1) .poll) =
      { s with queue := q, phase := .idle, returned := s.returned ++ [(cmd, rs ++ ls)] } := by
  induction ls generalizing s rs with
  | nil =>
    rcases s with ⟨ob, pt, bf, q', p', w, log, ret⟩
    cases hp; cases hq
    simp [run, step, hpr]
  | cons l ls ih =>
    rcases s with ⟨ob, pt, bf, q', p', w, log, ret⟩
    cases hp; cases hq
    have hl := hls l (List.mem_cons_self _ _)
    rw [List.length_cons, List.replicate_succ, run, List.foldl_cons, ← run]
    simp only [step, List.cons_append, hl]
    rw [ih rfl rfl fun l' hl' => hls l' (List.mem_cons_of_mem _ hl')]
    simp

namespace Target
variable (T : Target)

theorem reply_ne_nil (hist : List (List Char)) (cmd : List Char) : T.reply hist cmd ≠ [] := by
  simp [reply, encodeLines]

/-- One `send(cmd)` run to its end on a healthy schedule: the drain finds the queue empty,
the whole answer crosses the wire and is read at once, and the caller polls each response
line and then the prompt. -/
def callEvents (hist : List (List Char)) (cmd : List Char) : List Event :=
  [.start cmd, .drain, .write, .emit (T.reply hist cmd).length, .read] ++
    List.replicate ((T.respLines hist cmd).length + 1) .poll

/-- The calls of a session, one after the other. -/
def sessionEvents (hist : List (List Char)) : List (List Char) → List Event
  | [] => []
  | cmd :: cmds => T.callEvents hist cmd ++ sessionEvents (hist ++ [cmd]) cmds

theorem run_callEvents {s : Link} (hs : Quiet s) (cmd : List Char) :
    run T.reply s (T.callEvents s.written cmd) =
      { s with written := s.written ++ [cmd], log := s.log ++ T.block s.written cmd,
               returned := s.returned ++ [(cmd, T.respLines s.written cmd)] } := by
  rcases s with ⟨ob, pt, bf, q, p, w, log, ret⟩
  obtain ⟨rfl, rfl, rfl, rfl, rfl⟩ := hs
  have hport : (run T.reply ⟨[], [], [], [], .idle, w, log, ret⟩
      [.start cmd, .drain, .write, .emit (T.reply w cmd).length]).port ≠ [] := by
    simpa [run, step] using T.reply_ne_nil w cmd
  obtain ⟨hblock, hpend⟩ := T.framed_reply w cmd
  rw [callEvents, run_append, show [Event.start cmd, .drain, .write,
      .emit (T.reply w cmd).length, .read] = [.start cmd, .drain, .write,
      .emit (T.reply w cmd).length] ++ [.read] from rfl, run_append, run, run,
    List.foldl_cons, List.foldl_nil, step_read_data _ _ hport, ← run]
  simp only [run, step, List.foldl_cons, List.foldl_nil, List.nil_append, List.drop_length,
    List.take_length, hblock, hpend, ite_true]
  rw [← run, run_polls T.reply rfl (show T.block w cmd = T.respLines w cmd ++ [strip T.prompt]
    from rfl) (fun l hl => T.respLines_not_prompt hl) T.prompt_prompt]
  rfl

theorem sessionEvents_healthy (hist cmds : List (List Char)) :
    ∀ e ∈ T.sessionEvents hist cmds, e ≠ .expire := by
  induction cmds generalizing hist with
  | nil => simp [sessionEvents]
  | cons cmd cmds ih =>
    simp only [sessionEvents, List.mem_append]
    rintro e (he | he)
    · simp only [callEvents, List.mem_append, List.mem_cons, List.mem_replicate] at he
      rcases he with (rfl | rfl | rfl | rfl | rfl | he) | ⟨-, rfl⟩ <;> simp_all
    · exact ih _ e he

/-- **On the healthy schedule every `send` returns its answer.**  From a quiet link, the
calls of a session run to their ends, one after the other: each `send` returns its
command's response lines, and the link is quiet again. -/
theorem run_sessionEvents {s : Link} (hs : Quiet s) (cmds : List (List Char)) :
    run T.reply s (T.sessionEvents s.written cmds) =
      { s with written := s.written ++ cmds, log := s.log ++ T.blocksFrom s.written cmds,
               returned := s.returned ++ T.answersFrom s.written cmds } := by
  induction cmds generalizing s with
  | nil => simp [sessionEvents, run, blocksFrom, answersFrom]
  | cons cmd cmds ih =>
    have h := ih (s := { s with
        written := s.written ++ [cmd], log := s.log ++ T.block s.written cmd,
        returned := s.returned ++ [(cmd, T.respLines s.written cmd)] })
      ⟨hs.idle, hs.outbox, hs.port, hs.buffer, hs.queue⟩
    dsimp only at h
    rw [sessionEvents, run_append, T.run_callEvents hs, h]
    simp [blocksFrom, answersFrom]

end Target
end FluxRipper
