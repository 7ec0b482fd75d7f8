import FluxRipper.Python

/-! # The console's background reader

`CDCConsole._reader_loop` is the only code that turns the bytes of the serial port into
lines.  Each pass of its loop either finds nothing waiting, fails (the exception is
printed and the loop sleeps), or reads what is waiting, appends it to a local `buffer`
and then, `while '\n' in buffer`, cuts the buffer at its first newline, strips the line
and enqueues it if it is not empty.

The operating system decides how the stream is cut into reads.  `readerLoop_frames`
shows that the cut does not matter: whatever the reads, and whatever failed reads come
between them, the reader has enqueued exactly the stripped, non-empty segments of the
whole stream before its last newline (`streamLines`), in order, and holds the segment
after it (`pendingSegment`).  The serial bytes are ASCII, so decoding a chunk is reading
its characters, and a chunk is a `List Char`.
-/

namespace FluxRipper

/-! ## The loop -/

/-- `buffer.split('\n', 1)`, for a buffer with a newline: the text before the first
newline, and the text after it. -/
def splitFirst (buffer : List Char) : List Char × List Char :=
  (buffer.takeWhile (· ≠ '\n'), (buffer.dropWhile (· ≠ '\n')).drop 1)

theorem splitFirst_append {a : List Char} (hn : '\n' ∉ a) (b : List Char) :
    splitFirst (a ++ '\n' :: b) = (a, b) := by
  induction a with
  | nil => simp [splitFirst]
  | cons x a ih =>
    have hx : x ≠ '\n' := fun h => hn (h ▸ List.mem_cons_self _ _)
    simpa [splitFirst, hx] using ih (fun h => hn (List.mem_cons_of_mem _ h))

theorem exists_first_newline {s : List Char} (h : '\n' ∈ s) :
    ∃ a b, s = a ++ '\n' :: b ∧ '\n' ∉ a := by
  induction s with
  | nil => simp at h
  | cons x s ih =>
    by_cases hx : x = '\n'
    · exact ⟨[], s, by simp [hx], List.not_mem_nil _⟩
    · obtain ⟨a, b, rfl, hn⟩ := ih (by simpa [Ne.symm hx] using h)
      exact ⟨x :: a, b, rfl, by simp [Ne.symm hx, hn]⟩

/-- Induction over a text by its first newline: a text is newline-free, or a newline-free
head, a newline and a shorter text. -/
theorem newline_induction {P : List Char → Prop} (base : ∀ s, '\n' ∉ s → P s)
    (step : ∀ a b, '\n' ∉ a → P b → P (a ++ '\n' :: b)) (s : List Char) : P s := by
  induction' hs : s.length using Nat.strong_induction_on with n ih generalizing s
  by_cases h : '\n' ∈ s
  · obtain ⟨a, b, rfl, hn⟩ := exists_first_newline h
    exact step a b hn (ih b.length (by simp at hs; omega) b rfl)
  · exact base s h

theorem splitFirst_snd_lt {buffer : List Char} (h : '\n' ∈ buffer) :
    (splitFirst buffer).2.length < buffer.length := by
  obtain ⟨a, b, rfl, hn⟩ := exists_first_newline h
  rw [splitFirst_append hn]
  simp only [List.length_append, List.length_cons]
  omega

/-- The `while '\n' in buffer` loop of `_reader_loop`: the lines it enqueues, in order,
and the buffer it leaves. -/
def splitLines (buffer : List Char) : List (List Char) × List Char :=
  if h : '\n' ∈ buffer then
    let line := strip (splitFirst buffer).1
    let rest := splitLines (splitFirst buffer).2
    (if line.isEmpty then rest.1 else line :: rest.1, rest.2)
  else ([], buffer)
termination_by buffer.length
decreasing_by exact splitFirst_snd_lt h

/-- What one pass of `_reader_loop`'s body sees. -/
inductive ReadEvent
  /-- `in_waiting` bytes were waiting, and `read` returned them. -/
  | data (chunk : List Char)
  /-- Nothing was waiting: `time.sleep(0.01)`. -/
  | idle
  /-- `in_waiting` or `read` raised: the error is printed, `time.sleep(0.1)`. -/
  | error

/-- One pass of the loop body, from `buffer`: the lines it enqueues and the new buffer. -/
def readerStep (buffer : List Char) : ReadEvent → List (List Char) × List Char
  | .data chunk => splitLines (buffer ++ chunk)
  | .idle | .error => ([], buffer)

/-- `_reader_loop` over a sequence of passes: every line it enqueues, and its buffer. -/
def readerLoop (buffer : List Char) : List ReadEvent → List (List Char) × List Char
  | [] => ([], buffer)
  | e :: es =>
    let r := readerStep buffer e
    let rest := readerLoop r.2 es
    (r.1 ++ rest.1, rest.2)

/-- The bytes the reader has read, in order. -/
def received : List ReadEvent → List Char
  | [] => []
  | .data chunk :: es => chunk ++ received es
  | _ :: es => received es

/-! ## The stream, cut at its newlines -/

/-- The stripped, non-empty segments of a stream before its last newline. -/
def streamLines (s : List Char) : List (List Char) :=
  ((s.splitOn '\n').dropLast.map strip).filter fun l => !l.isEmpty

/-- The segment of a stream after its last newline. -/
def pendingSegment (s : List Char) : List Char :=
  (s.splitOn '\n').getLast (List.splitOnP_ne_nil _ _)

theorem splitOn_of_not_mem {s : List Char} (h : '\n' ∉ s) : s.splitOn '\n' = [s] :=
  List.splitOnP_eq_single _ _ fun x hx hn => h (by simpa using (beq_iff_eq.mp hn) ▸ hx)

theorem splitOn_newline {a : List Char} (hn : '\n' ∉ a) (b : List Char) :
    (a ++ '\n' :: b).splitOn '\n' = a :: b.splitOn '\n' :=
  List.splitOnP_first _ _ (fun x hx he => hn (by simpa using (beq_iff_eq.mp he) ▸ hx)) _
    (by simp) _

theorem splitOn_ne_nil (s : List Char) : s.splitOn '\n' ≠ [] := List.splitOnP_ne_nil _ _

theorem dropLast_cons_splitOn (a s : List Char) :
    (a :: s.splitOn '\n').dropLast = a :: (s.splitOn '\n').dropLast :=
  List.dropLast_cons_of_ne_nil (splitOn_ne_nil s)

theorem streamLines_of_not_mem {s : List Char} (h : '\n' ∉ s) : streamLines s = [] := by
  simp [streamLines, splitOn_of_not_mem h]

theorem pendingSegment_of_not_mem {s : List Char} (h : '\n' ∉ s) : pendingSegment s = s := by
  simp [pendingSegment, splitOn_of_not_mem h]

theorem streamLines_newline {a : List Char} (hn : '\n' ∉ a) (b : List Char) :
    streamLines (a ++ '\n' :: b) =
      (if (strip a).isEmpty then [] else [strip a]) ++ streamLines b := by
  rw [streamLines, splitOn_newline hn, dropLast_cons_splitOn, List.map_cons, List.filter_cons]
  split <;> simp_all [streamLines]

theorem pendingSegment_newline {a : List Char} (hn : '\n' ∉ a) (b : List Char) :
    pendingSegment (a ++ '\n' :: b) = pendingSegment b := by
  simp only [pendingSegment, splitOn_newline hn]
  exact List.getLast_cons _

theorem newline_not_mem_pendingSegment (s : List Char) : '\n' ∉ pendingSegment s := by
  induction s using newline_induction with
  | base s h => rwa [pendingSegment_of_not_mem h]
  | step a b hn ih => rwa [pendingSegment_newline hn]

/-- **The split loop frames its buffer**: it enqueues the buffer's complete lines and
keeps its last segment. -/
theorem splitLines_eq (buffer : List Char) :
    splitLines buffer = (streamLines buffer, pendingSegment buffer) := by
  induction buffer using newline_induction with
  | base s h => rw [splitLines, dif_neg h, streamLines_of_not_mem h, pendingSegment_of_not_mem h]
  | step a b hn ih =>
    rw [splitLines, dif_pos (by simp), splitFirst_append hn, ih, streamLines_newline hn,
      pendingSegment_newline hn]
    split <;> simp_all

/-- Cutting `s ++ t` at its newlines: the complete segments of `s`, then those of `s`'s
last segment followed by `t`. -/
theorem splitOn_append (s t : List Char) :
    (s ++ t).splitOn '\n' =
      (s.splitOn '\n').dropLast ++ (pendingSegment s ++ t).splitOn '\n' := by
  induction s using newline_induction with
  | base s h => simp [splitOn_of_not_mem h, pendingSegment_of_not_mem h]
  | step a b hn ih =>
    rw [List.append_assoc, List.cons_append, splitOn_newline hn, ih, splitOn_newline hn,
      dropLast_cons_splitOn, pendingSegment_newline hn, List.cons_append]

theorem streamLines_append (s t : List Char) :
    streamLines (s ++ t) = streamLines s ++ streamLines (pendingSegment s ++ t) := by
  rw [streamLines, splitOn_append, List.dropLast_append_of_ne_nil _ (splitOn_ne_nil _),
    List.map_append, List.filter_append]
  rfl

theorem pendingSegment_append (s t : List Char) :
    pendingSegment (s ++ t) = pendingSegment (pendingSegment s ++ t) := by
  have h := splitOn_append s t
  unfold pendingSegment
  simp only [h]
  exact List.getLast_append' _ _ (splitOn_ne_nil _)

/-! ## Chunk independence -/

theorem readerStep_data (buffer chunk : List Char) :
    readerStep buffer (.data chunk) =
      (streamLines (buffer ++ chunk), pendingSegment (buffer ++ chunk)) :=
  splitLines_eq _

/-- From a buffer with no newline, the reader has enqueued the complete lines of the
buffer followed by everything read, and holds their last segment. -/
theorem readerLoop_eq {buffer : List Char} (hb : '\n' ∉ buffer) (es : List ReadEvent) :
    readerLoop buffer es =
      (streamLines (buffer ++ received es), pendingSegment (buffer ++ received es)) := by
  induction es generalizing buffer with
  | nil => simp [readerLoop, received, streamLines_of_not_mem hb, pendingSegment_of_not_mem hb]
  | cons e es ih =>
    cases e with
    | data chunk =>
      simp only [readerLoop, readerStep_data, ih (newline_not_mem_pendingSegment _), received,
        ← List.append_assoc, ← streamLines_append, ← pendingSegment_append]
    | idle | error => simpa [readerLoop, readerStep, received] using ih hb

/-- **Console framing, reader side.**  However the stream is cut into reads, with any
failed reads between them, `_reader_loop` started on its empty buffer enqueues exactly
the stripped non-empty segments of the stream before its last newline, in order, and
its buffer holds the last segment. -/
theorem readerLoop_frames (es : List ReadEvent) :
    readerLoop [] es = (streamLines (received es), pendingSegment (received es)) :=
  readerLoop_eq (List.not_mem_nil _) es

end FluxRipper
