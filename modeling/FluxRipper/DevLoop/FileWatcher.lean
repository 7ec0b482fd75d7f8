import FluxRipper.DevLoop.World

/-! # Auto-sync

`FileWatcher.watch` of `remote_build.py` keeps the build server's copy of the project up
to date: it records the latest modification time of the RTL sources (`get_mtime`), then
polls it every second; when it is later than the one recorded, it waits out the debounce
delay, runs `sync_to_remote()`, and records the latest modification time it reads after
the sync.  Whoever edits the sources does so at any moment, also while `rsync` runs.

A `Watcher` holds the local sources with their latest modification time, the server's
copy, the recorded time `last_mtime` and where `watch` stands.  `rsync` copies the local
sources as they are when it reads them, and a failed `rsync` is taken to leave the
server's copy as it was.  An edit sets the sources and their latest modification time:
writing a file makes it the time of the write, later than every other; removing or moving
one (a move keeps the file's time) leaves it no later than before.

**`watch_keeps_remote_current`**: when the server's copy is current as `watch` starts,
every edit is a write made outside the window between `rsync` and the re-measure, and
every `rsync` succeeds, then whenever `watch` is at the top of its loop and finds nothing
newer than it recorded, the server holds the local sources.
**`watch_loses_edits`**: a copy already stale when `watch` starts, an edit made inside
that window, and one that does not make the latest modification time later than the
recorded one never reach the server unless a later edit does: no run of `watch` without
edits changes the server's copy again.
-/

namespace FluxRipper

/-- Where `watch` stands. -/
inductive WatchPc
  /-- At `current_mtime = self.get_mtime()`, the head of the loop. -/
  | top
  /-- Changes detected: in the debounce sleep, before `sync_to_remote()`. -/
  | debounce
  /-- `sync_to_remote()` returned; before `last_mtime = self.get_mtime()`. -/
  | synced
  /-- `KeyboardInterrupt`, or an exception that `watch` does not catch, ended it. -/
  | stopped
  deriving DecidableEq, Repr

/-- The sources, the server's copy, and the state of `watch`. -/
structure Watcher (T : Type) where
  tree : T
  /-- What `get_mtime()` reads now. -/
  mtime : Nat
  remote : T
  lastMtime : Nat
  pc : WatchPc
  deriving DecidableEq, Repr

/-- What happens next: a step of `watch`, or an edit of the sources. -/
inductive WatchEvent (T : Type)
  /-- The head of the loop: `get_mtime()` compared with `last_mtime`. -/
  | poll
  /-- `sync_to_remote()`, with whether `rsync` succeeded. -/
  | rsync (ok : Bool)
  /-- `last_mtime = self.get_mtime()` after the sync. -/
  | measure
  /-- The sources become `tree`, with latest modification time `mtime`. -/
  | edit (tree : T) (mtime : Nat)
  /-- The operator's `KeyboardInterrupt`, or an exception of `get_mtime` or `rsync`. -/
  | stop
  deriving DecidableEq, Repr

def WatchEvent.isEdit {T : Type} : WatchEvent T → Bool
  | .edit _ _ => true
  | _ => false

namespace Watcher

variable {T : Type}

/-- `watch()` begins: `last_mtime = self.get_mtime()`. -/
def start (tree : T) (mtime : Nat) (remote : T) : Watcher T := ⟨tree, mtime, remote, mtime, .top⟩

/-- One event.  A step of `watch` that is not where `watch` stands changes nothing. -/
def step (w : Watcher T) : WatchEvent T → Watcher T
  | .poll =>
    if w.pc = .top ∧ w.lastMtime < w.mtime then { w with pc := .debounce } else w
  | .rsync ok =>
    if w.pc = .debounce then { w with remote := if ok then w.tree else w.remote, pc := .synced }
    else w
  | .measure => if w.pc = .synced then { w with lastMtime := w.mtime, pc := .top } else w
  | .edit tree mtime => { w with tree := tree, mtime := mtime }
  | .stop => { w with pc := .stopped }

def run (w : Watcher T) (es : List (WatchEvent T)) : Watcher T := es.foldl step w

@[simp] theorem run_nil (w : Watcher T) : w.run [] = w := rfl

@[simp] theorem run_cons (w : Watcher T) (e : WatchEvent T) (es : List (WatchEvent T)) :
    w.run (e :: es) = (w.step e).run es := rfl

/-- An event of a run that keeps the sync's promise: an edit is a write, and not inside
the window between `rsync` and the re-measure; `rsync` succeeds. -/
def Clean (w : Watcher T) : WatchEvent T → Prop
  | .edit _ mtime => w.pc ≠ .synced ∧ w.mtime < mtime
  | .rsync ok => w.pc = .debounce → ok = true
  | _ => True

/-- Every event of the run is clean where it happens. -/
def RunClean : Watcher T → List (WatchEvent T) → Prop
  | _, [] => True
  | w, e :: es => w.Clean e ∧ RunClean (w.step e) es

/-- What `watch` guarantees along a clean run: the recorded time is never later than the
sources'; at the head of the loop with nothing newer, and right after the sync, the server
holds the sources. -/
structure Current (w : Watcher T) : Prop where
  last_le : w.lastMtime ≤ w.mtime
  top : w.pc = .top → w.mtime = w.lastMtime → w.remote = w.tree
  synced : w.pc = .synced → w.remote = w.tree

theorem current_start (tree : T) (mtime : Nat) : (start tree mtime tree).Current :=
  ⟨le_refl _, fun _ _ => rfl, fun h => nomatch h⟩

theorem current_step {w : Watcher T} (hw : w.Current) {e : WatchEvent T} (he : w.Clean e) :
    (w.step e).Current := by
  cases e with
  | poll =>
    by_cases h : w.pc = .top ∧ w.lastMtime < w.mtime
    · rw [step, if_pos h]
      exact ⟨hw.last_le, fun hpc => (nomatch hpc), fun hpc => nomatch hpc⟩
    · rw [step, if_neg h]; exact hw
  | rsync ok =>
    by_cases h : w.pc = .debounce
    · rw [step, if_pos h, he h, if_pos rfl]
      exact ⟨hw.last_le, fun hpc => (nomatch hpc), fun _ => rfl⟩
    · rw [step, if_neg h]; exact hw
  | measure =>
    by_cases h : w.pc = .synced
    · rw [step, if_pos h]
      exact ⟨le_refl _, fun _ _ => hw.synced h, fun hpc => nomatch hpc⟩
    · rw [step, if_neg h]; exact hw
  | edit tree mtime =>
    obtain ⟨hsync, hlater⟩ := he
    exact ⟨by simp only [step]; exact (hw.last_le.trans hlater.le),
      fun _ heq => absurd heq (by simp only [step]; have := hw.last_le; omega),
      fun hpc => absurd hpc hsync⟩
  | stop => exact ⟨hw.last_le, fun hpc => (nomatch hpc), fun hpc => nomatch hpc⟩

theorem current_run {w : Watcher T} (hw : w.Current) {es : List (WatchEvent T)}
    (hes : w.RunClean es) : (w.run es).Current := by
  induction es generalizing w with
  | nil => exact hw
  | cons e es ih => exact ih (current_step hw hes.1) hes.2

/-- **The server is current whenever `watch` sees no change**, along every clean run from a
current copy. -/
theorem watch_keeps_remote_current (tree : T) (mtime : Nat) (es : List (WatchEvent T))
    (hes : (start tree mtime tree).RunClean es)
    (htop : ((start tree mtime tree).run es).pc = .top)
    (hquiet : ((start tree mtime tree).run es).mtime ≤ ((start tree mtime tree).run es).lastMtime) :
    ((start tree mtime tree).run es).remote = ((start tree mtime tree).run es).tree :=
  have hcur := current_run (current_start tree mtime) hes
  hcur.top htop (le_antisymm hquiet hcur.last_le)

/-- A save, then `watch` detects it and syncs it. -/
theorem watch_keeps_remote_current_save :
    (start 0 5 0).RunClean [.edit 1 6, .poll, .rsync true, .measure] ∧
      ((start 0 5 0).run [.edit 1 6, .poll, .rsync true, .measure]).pc = .top ∧
      ((start 0 5 0).run [.edit 1 6, .poll, .rsync true, .measure]).mtime ≤
        ((start 0 5 0).run [.edit 1 6, .poll, .rsync true, .measure]).lastMtime ∧
      ((start 0 5 0).run [.edit 1 6, .poll, .rsync true, .measure]).remote =
        ((start 0 5 0).run [.edit 1 6, .poll, .rsync true, .measure]).tree := by
  have hes : (start 0 5 0).RunClean [.edit 1 6, .poll, .rsync true, .measure] := by
    simp [RunClean, Clean, start, step]
  have htop : ((start 0 5 0).run [.edit 1 6, .poll, .rsync true, .measure]).pc = .top := by
    decide
  have hquiet : ((start 0 5 0).run [.edit 1 6, .poll, .rsync true, .measure]).mtime ≤
      ((start 0 5 0).run [.edit 1 6, .poll, .rsync true, .measure]).lastMtime := by decide
  exact ⟨hes, htop, hquiet, watch_keeps_remote_current 0 5 _ hes htop hquiet⟩

/-- `watch` is settled: right after a sync, at the head of its loop with nothing newer than
recorded, or ended.  From there no step of its own syncs. -/
def Settled (w : Watcher T) : Prop :=
  w.pc = .synced ∨ (w.pc = .top ∧ w.mtime ≤ w.lastMtime) ∨ w.pc = .stopped

theorem settled_step {w : Watcher T} (hw : w.Settled) {e : WatchEvent T} (he : e.isEdit = false) :
    (w.step e).Settled ∧ (w.step e).remote = w.remote := by
  cases e with
  | poll =>
    rw [step, if_neg (by rintro ⟨htop, hlt⟩; rcases hw with h | h | h <;> simp_all; omega)]
    exact ⟨hw, rfl⟩
  | rsync ok =>
    rw [step, if_neg (by rcases hw with h | h | h <;> simp_all)]
    exact ⟨hw, rfl⟩
  | measure =>
    by_cases h : w.pc = .synced
    · rw [step, if_pos h]; exact ⟨.inr (.inl ⟨rfl, le_refl _⟩), rfl⟩
    · rw [step, if_neg h]; exact ⟨hw, rfl⟩
  | edit => cases he
  | stop => exact ⟨.inr (.inr rfl), rfl⟩

theorem settled_run {w : Watcher T} (hw : w.Settled) {es : List (WatchEvent T)}
    (hes : ∀ e ∈ es, e.isEdit = false) : (w.run es).remote = w.remote := by
  induction es generalizing w with
  | nil => rfl
  | cons e es ih =>
    have hs := settled_step hw (hes e (List.mem_cons_self _ _))
    rw [run_cons, ih hs.1 fun e he => hes e (List.mem_cons_of_mem _ he), hs.2]

/-- **What `watch` never syncs.**  Without an edit after it, none of these reaches the
server, whatever `watch` does next: a copy that was already stale when `watch` started (it
records the time and does not sync), an edit made between `rsync` and the re-measure, and
an edit at the head of the loop that leaves the latest modification time no later than the
recorded one. -/
theorem watch_loses_edits (w : Watcher T) (tree : T) (mtime : Nat) (es : List (WatchEvent T))
    (hes : ∀ e ∈ es, e.isEdit = false) :
    (∀ remote : T, ((start tree mtime remote).run es).remote = remote) ∧
    (w.pc = .synced → ((w.step (.edit tree mtime)).run es).remote = w.remote) ∧
    (w.pc = .top → mtime ≤ w.lastMtime → ((w.step (.edit tree mtime)).run es).remote = w.remote) :=
  ⟨fun remote => settled_run (show (start tree mtime remote).Settled from .inr (.inl ⟨rfl, le_refl _⟩)) hes,
    fun hpc => settled_run (show (w.step (.edit tree mtime)).Settled from .inl hpc) hes,
    fun hpc hle => settled_run (show (w.step (.edit tree mtime)).Settled from .inr (.inl ⟨hpc, hle⟩))
      hes⟩

/-- A save, detected and synced: `watch` is between `rsync` and the re-measure. -/
def savedInWindow : Watcher Nat := (start 0 5 0).run [.edit 1 6, .poll, .rsync true]

/-- The same save after the re-measure: `watch` is at the head of its loop, with time 6
recorded. -/
def savedAtTop : Watcher Nat := savedInWindow.step .measure

/-- An edit at time 7 inside the window is never synced; nor is a move at the head of the
loop that keeps the latest modification time at 6. -/
theorem watch_loses_edits_window :
    ((∀ e ∈ ([.measure, .poll, .poll] : List (WatchEvent Nat)), e.isEdit = false) ∧
      (∀ remote : Nat, ((start 2 7 remote).run [.measure, .poll, .poll]).remote = remote) ∧
      (savedInWindow.pc = .synced →
        ((savedInWindow.step (.edit 2 7)).run [.measure, .poll, .poll]).remote = savedInWindow.remote) ∧
      (savedInWindow.pc = .top → 7 ≤ savedInWindow.lastMtime →
        ((savedInWindow.step (.edit 2 7)).run [.measure, .poll, .poll]).remote = savedInWindow.remote)) ∧
    ((∀ e ∈ ([.poll, .poll] : List (WatchEvent Nat)), e.isEdit = false) ∧
      (∀ remote : Nat, ((start 2 6 remote).run [.poll, .poll]).remote = remote) ∧
      (savedAtTop.pc = .synced → ((savedAtTop.step (.edit 2 6)).run [.poll, .poll]).remote = savedAtTop.remote) ∧
      (savedAtTop.pc = .top → 6 ≤ savedAtTop.lastMtime →
        ((savedAtTop.step (.edit 2 6)).run [.poll, .poll]).remote = savedAtTop.remote)) ∧
    savedInWindow.pc = .synced ∧ savedAtTop.pc = .top ∧ 6 ≤ savedAtTop.lastMtime ∧ savedAtTop.remote = 1 :=
  have hes : ∀ e ∈ ([.measure, .poll, .poll] : List (WatchEvent Nat)), e.isEdit = false := by
    decide
  have hes' : ∀ e ∈ ([.poll, .poll] : List (WatchEvent Nat)), e.isEdit = false := by decide
  ⟨⟨hes, watch_loses_edits savedInWindow 2 7 _ hes⟩, ⟨hes', watch_loses_edits savedAtTop 2 6 _ hes'⟩,
    by decide, by decide, by decide, by decide⟩

end Watcher

end FluxRipper
