import FluxRipper.DevLoop.World

/-! # The worker threads of a builder

`RTLBuilder` and `RemoteBuilder` run their builds alike: a `start_build` that finds
`build_thread` dead spawns a worker and makes it `build_thread`, and a worker's
assignments to the shared fields are its steps.  Each builder keeps the program counter
of every worker it spawned, oldest first, and a worker's step replaces its own.

`Slots` is what both builders keep of this, for any type of program counters with an
`is_alive` test: every worker but `build_thread` has ended, a property `onLast` of the
shared fields holds at `build_thread`, and `whenNone` holds while no worker was spawned.
A spawn while `build_thread` is dead (`Slots.spawn`) and a step of `build_thread`
(`Slots.step_last`) keep it, and under it at most one worker is alive
(`Slots.filter_alive_length`).
-/

namespace FluxRipper

namespace Workers

variable {α : Type} (alive : α → Bool)

/-- `build_thread is not None and build_thread.is_alive()`: the last worker spawned is
alive. -/
def lastAlive (ws : List α) : Bool := (ws.getLast?.map alive).getD false

/-- The workers `ws` of a builder: every one but the last has ended, `onLast` holds of the
last, with its index, and `whenNone` holds while there is none. -/
structure Slots (ws : List α) (onLast : Nat → α → Prop) (whenNone : Prop) : Prop where
  others_ended : ∀ i pc, ws[i]? = some pc → i + 1 < ws.length → alive pc = false
  last : ∀ i pc, ws[i]? = some pc → i + 1 = ws.length → onLast i pc
  empty : ws = [] → whenNone

variable {alive}

theorem set_of_getElem? {l : List α} {i : Nat} {pc : α} (h : l[i]? = some pc) :
    l.set i pc = l :=
  List.ext_getElem? fun j => by
    rw [List.getElem?_set]
    split
    · subst i; rw [h, if_pos (List.getElem?_eq_some_iff.mp h).1]
    · rfl

theorem getLast?_eq_of_length {l : List α} {i : Nat} {pc : α} (h : l[i]? = some pc)
    (hlast : i + 1 = l.length) : l.getLast? = some pc := by
  rw [List.getLast?_eq_getElem?, show l.length - 1 = i by omega, h]

/-- A list whose every element but the last is dead holds at most one live one. -/
theorem filter_alive_length {l : List α}
    (h : ∀ i pc, l[i]? = some pc → i + 1 < l.length → alive pc = false) :
    (l.filter alive).length ≤ 1 := by
  induction l with
  | nil => simp
  | cons a t ih =>
    cases t with
    | nil => simp only [List.filter]; split <;> simp
    | cons a' t =>
      rw [List.filter_cons_of_neg (by simp [h 0 a rfl (by simp)])]
      exact ih fun i pc hi hlt => h (i + 1) pc (by rw [List.getElem?_cons_succ]; exact hi)
        (by simp at hlt ⊢; omega)

namespace Slots

variable {ws : List α} {onLast onLast' : Nat → α → Prop} {whenNone whenNone' : Prop}

/-- Shared fields that change without touching the workers keep the invariant when the
new fields still satisfy what `build_thread` and a builder without workers require. -/
theorem imp (h : Slots alive ws onLast whenNone) (hl : ∀ i pc, onLast i pc → onLast' i pc)
    (hn : whenNone → whenNone') : Slots alive ws onLast' whenNone' :=
  ⟨h.others_ended, fun i pc hi hlast => hl i pc (h.last i pc hi hlast), fun he => hn (h.empty he)⟩

/-- A worker spawned while `build_thread` is dead becomes `build_thread`. -/
theorem spawn (h : Slots alive ws onLast whenNone) (hb : lastAlive alive ws = false) {pc : α}
    (hpc : onLast' ws.length pc) : Slots alive (ws ++ [pc]) onLast' whenNone' := by
  refine ⟨fun i p hi hlt => ?_, fun i p hi hlast => ?_, fun he => by simp at he⟩
  · simp only [List.length_append, List.length_singleton] at hlt
    rw [List.getElem?_append_left (by omega)] at hi
    rcases Nat.lt_or_ge (i + 1) ws.length with hlt' | hge
    · exact h.others_ended i p hi hlt'
    · simpa [lastAlive, getLast?_eq_of_length hi (by omega)] using hb
  · simp only [List.length_append, List.length_singleton] at hlast
    obtain rfl : i = ws.length := by omega
    rw [List.getElem?_append_right (le_refl _), Nat.sub_self] at hi
    cases hi
    exact hpc

/-- A step of `build_thread` replaces its program counter and no other. -/
theorem step_last (h : Slots alive ws onLast whenNone) {i : Nat} {pc : α}
    (hw : ws[i]? = some pc) (hlast : i + 1 = ws.length) {pc' : α} (hpc : onLast' i pc') :
    Slots alive (ws.set i pc') onLast' whenNone' := by
  have hi : i < ws.length := by omega
  refine ⟨fun j p hj hlt => ?_, fun j p hj hl => ?_, fun he => ?_⟩
  · simp only [List.length_set] at hlt
    rw [List.getElem?_set_ne (by omega)] at hj
    exact h.others_ended j p hj hlt
  · simp only [List.length_set] at hl
    obtain rfl : j = i := by omega
    rw [List.getElem?_set_self hi] at hj
    cases hj
    exact hpc
  · simp only [List.set_eq_nil_iff] at he
    simp [he] at hi

/-- `onLast` holds of `build_thread`. -/
theorem last_of_getLast? (h : Slots alive ws onLast whenNone) {pc : α}
    (hl : ws.getLast? = some pc) : onLast (ws.length - 1) pc := by
  have hpos : 0 < ws.length := List.length_pos.mpr fun he => by simp [he] at hl
  exact h.last _ pc (by rwa [← List.getLast?_eq_getElem?]) (by omega)

/-- **At most one worker is alive.** -/
theorem filter_alive_length (h : Slots alive ws onLast whenNone) :
    (ws.filter alive).length ≤ 1 :=
  Workers.filter_alive_length h.others_ended

end Slots

end Workers

end FluxRipper
