import FluxRipper.HwTests.Program

/-! # The memory tests

The memory tests of the two suites, `test_bram_*` and `test_memory_stress` of
`test_hardware.py` and `test_memory_basic` and `test_memory_walking_ones` of
`fluxripper_dev.py`, with the register checks of `test_fdc_registers` and
`test_hdd_registers`, written as `RegProg`s.

What they can see of a broken memory is said against `faulty f`: the register file
reached through an address decoder `f.decode`, which picks the cell an address reaches,
and data lines `f.wire`, which may change a word on its way in.  `MemFaults.none` leaves
both alone and is the register file.  `stuckLine` and `shortedLines` are the classic
faults of one line stuck at a level and of two lines shorted together.

* **`bramDataLines_faulty`**: `test_bram_data_lines` passes exactly when the data lines
  carry its 64 walking patterns unchanged, on any decoder and from any contents; so it
  catches every stuck or shorted data line (`bramDataLines_catches_faults`).
* **`bramAddressLines_faulty`**: when the data lines are sound, `test_bram_address_lines`
  passes exactly when the decoder sends its 14 addresses to 14 different cells.  Two
  shorted address lines send two of them to one cell, and the test fails; one address
  line stuck at either level keeps them apart, since none of the 14 addresses is the base
  itself, and the test passes (`bramAddressLines_faults`).
* **`memory_tests_pass`**: every memory test passes over the console to any target that
  implements the register protocol, whatever the commands before it.
-/

namespace FluxRipper
open RegProg

/-! ## The tests -/

/-- `test_bram_basic`. -/
def testBramBasic : RegProg :=
  forEach [0x40000000, 0x40001000, 0x40002000, 0x4000F000]
    (fun addr => writeReadBack addr 0xA5A5A5A5) (.done .pass)

/-- The address `test_bram_address_lines` gives address line `i`: `base + (1 << i) * 4`. -/
def addressLineAddr (i : Nat) : Nat := 0x40000000 + (1 <<< i) * 4

/-- `test_bram_address_lines`: write `1 << i` at the address of line `i`, for the 14
lines of a 64 KB BRAM, then read each back.  The failure message formats the value read
with `08X`, which raises on `None`. -/
def testBramAddressLines : RegProg :=
  forEach (List.range 14)
    (fun i next => .write (addressLineAddr i) (1 <<< i) fun ok =>
      if !ok then .done .fail else next)
    (forEach (List.range 14)
      (fun i next => .read (addressLineAddr i) fun value =>
        if value ≠ some ((1 <<< i : Nat) : Int) then
          match value with
          | some _ => .done .fail
          | none => .raise
        else next)
      (.done .pass))

/-- `~(1 << bit) & 0xFFFFFFFF`, a walking-zeros pattern of `test_bram_data_lines`: for
`bit < 32`, the 32-bit word with only bit `bit` clear. -/
def walkingZero (bit : Nat) : Nat := 0xFFFFFFFF ^^^ (1 <<< bit)

/-- `test_bram_data_lines`: walking ones, then walking zeros, at `0x40000100`. -/
def testBramDataLines : RegProg :=
  forEach (List.range 32) (fun bit => writeReadBack 0x40000100 (1 <<< bit))
    (forEach (List.range 32) (fun bit => writeReadBack 0x40000100 (walkingZero bit))
      (.done .pass))

/-- The addresses and words of `test_bram_retention`. -/
def retentionPatterns : List (Nat × Nat) :=
  [(0x40000200, 0x12345678), (0x40000204, 0x87654321), (0x40000208, 0xAAAA5555),
    (0x4000020C, 0x5555AAAA)]

/-- `test_bram_retention`: write every pattern, ignoring the acknowledgements, then read
each back. -/
def testBramRetention : RegProg :=
  forEach retentionPatterns (fun p next => .write p.1 p.2 fun _ => next)
    (forEach retentionPatterns
      (fun p next => .read p.1 fun value =>
        if value ≠ some (p.2 : Int) then .done .fail else next)
      (.done .pass))

/-- `test_memory_stress`: `(i * 0x01010101) & 0xFFFFFFFF` written and read back at
`addr + (i % 256) * 4`, for 100 iterations. -/
def testMemoryStress : RegProg :=
  forEach (List.range 100)
    (fun i => writeReadBack (0x40000000 + (i % 256) * 4) ((i * 0x01010101) &&& 0xFFFFFFFF))
    (.done .pass)

/-- `test_memory_basic`: `0xCAFEBABE` at the scratch register. -/
def testMemoryBasic : RegProg := writeReadBack 0x44A8006C 0xCAFEBABE (.done .pass)

/-- `test_memory_walking_ones`. -/
def testMemoryWalkingOnes : RegProg :=
  forEach (List.range 32) (fun bit => writeReadBack 0x40000100 (1 <<< bit)) (.done .pass)

/-- The body `test_fdc_registers` and `test_hdd_registers` share: `ERROR` when the status
register cannot be read, then `value` written to `reg`, the acknowledgement ignored, and
read back. -/
def subsystemRegisters (status reg value : Nat) : RegProg :=
  .read status fun s => if s = none then .done .error else
    .write reg value fun _ => .read reg fun v => if v ≠ some (value : Int) then .done .fail else
      .done .pass

/-- `test_fdc_registers`: the status register, then the track register. -/
def testFdcRegisters : RegProg := subsystemRegisters 0x44100000 0x44100008 42

/-- `test_hdd_registers`: the status register, then the cylinder register. -/
def testHddRegisters : RegProg := subsystemRegisters 0x44200000 0x44200008 100

/-- The memory tests of the two suites. -/
def memoryTests : List RegProg :=
  [testBramBasic, testBramAddressLines, testBramDataLines, testBramRetention, testMemoryStress,
    testMemoryBasic, testMemoryWalkingOnes, testFdcRegisters, testHddRegisters]

/-! ## Broken memories -/

/-- What may be broken between the register interface and the memory cells: the cell an
address reaches, and what the data lines make of a word written. -/
structure MemFaults where
  decode : Nat → Nat
  wire : Nat → Nat

/-- Nothing broken. -/
def MemFaults.none : MemFaults := ⟨id, id⟩

/-- The register file behind the faults `f`. -/
def faulty (f : MemFaults) : Responder (Nat → Nat) where
  read mem addr := some (mem (f.decode addr))
  write _ _ _ := true
  next mem
    | .read _ => mem
    | .write addr data => Function.update mem (f.decode addr) (f.wire data)

@[simp] theorem faulty_read (f : MemFaults) (mem : Nat → Nat) (addr : Nat) :
    (faulty f).read mem addr = some (mem (f.decode addr) : Int) := rfl

@[simp] theorem faulty_write (f : MemFaults) (mem : Nat → Nat) (addr data : Nat) :
    (faulty f).write mem addr data = true := rfl

@[simp] theorem faulty_next_read (f : MemFaults) (mem : Nat → Nat) (addr : Nat) :
    (faulty f).next mem (.read addr) = mem := rfl

@[simp] theorem faulty_next_write (f : MemFaults) (mem : Nat → Nat) (addr data : Nat) :
    (faulty f).next mem (.write addr data) = Function.update mem (f.decode addr) (f.wire data) :=
  rfl

theorem faulty_none : faulty MemFaults.none = registerFile := by
  simp only [faulty, registerFile, Responder.mk.injEq, true_and]
  exact ⟨rfl, funext fun mem => funext fun op => by cases op <;> rfl⟩

/-- Line `k` stuck at `v`: bit `k` of every word that crosses it reads as `v`. -/
def stuckLine (k : Nat) (v : Bool) (x : Nat) : Nat := if x.testBit k = v then x else x ^^^ 2 ^ k

/-- Lines `p` and `q` shorted: both carry `g` of the two bits driven onto them (`&&` for
a wired AND, `||` for a wired OR). -/
def shortedLines (p q : Nat) (g : Bool → Bool → Bool) (x : Nat) : Nat :=
  stuckLine q (g (x.testBit p) (x.testBit q)) (stuckLine p (g (x.testBit p) (x.testBit q)) x)

theorem testBit_stuckLine (k : Nat) (v : Bool) (x j : Nat) :
    (stuckLine k v x).testBit j = if j = k then v else x.testBit j := by
  unfold stuckLine
  split <;> split
  · subst j; assumption
  · rfl
  · subst j; cases v <;> simp_all
  · simp [Nat.testBit_two_pow, Ne.symm ‹j ≠ k›]

theorem testBit_shortedLines (p q : Nat) (g : Bool → Bool → Bool) (x j : Nat) :
    (shortedLines p q g x).testBit j =
      if j = q ∨ j = p then g (x.testBit p) (x.testBit q) else x.testBit j := by
  simp only [shortedLines, testBit_stuckLine]
  by_cases hq : j = q <;> by_cases hp : j = p <;> simp [hq, hp]

/-! ## What the data-line test sees -/

/-- A write-and-read-back check against a broken memory fails exactly when the data lines
change its word. -/
theorem run_writeReadBack_faulty (f : MemFaults) (mem : Nat → Nat) (addr pattern : Nat)
    (next : RegProg) :
    (writeReadBack addr pattern next).run (faulty f) mem =
      if f.wire pattern = pattern then
        next.run (faulty f) (Function.update mem (f.decode addr) pattern)
      else .ok .fail := by
  by_cases h : f.wire pattern = pattern <;> simp [writeReadBack, h]

/-- A walking loop of the data-line test fails at the first pattern the data lines change,
and otherwise goes on with every pattern stored at the test address. -/
theorem run_walkingLoop_faulty (f : MemFaults) (pattern : Nat → Nat) (after : RegProg)
    (mem : Nat → Nat) :
    (forEach (List.range 32) (fun bit => writeReadBack 0x40000100 (pattern bit)) after).run
        (faulty f) mem =
      if ∀ bit : Nat, bit < 32 → f.wire (pattern bit) = pattern bit then
        after.run (faulty f) ((List.range 32).foldl
          (fun m bit => Function.update m (f.decode 0x40000100) (pattern bit)) mem)
      else .ok .fail := by
  rw [run_forEach_checked (fun bit => f.wire (pattern bit) = pattern bit) _
    (fun bit _ m next => run_writeReadBack_faulty f m 0x40000100 (pattern bit) next)]
  simp only [List.mem_range]

/-- **The data-line test passes exactly when the data lines carry its patterns.**  On
every decoder and from every memory, `test_bram_data_lines` passes when the data lines
carry each walking one and each walking zero unchanged, and fails otherwise. -/
theorem bramDataLines_faulty (f : MemFaults) (mem : Nat → Nat) :
    testBramDataLines.run (faulty f) mem =
      if ∀ bit : Nat, bit < 32 → f.wire (1 <<< bit) = 1 <<< bit ∧
        f.wire (walkingZero bit) = walkingZero bit
      then .ok .pass else .ok .fail := by
  rw [testBramDataLines, run_walkingLoop_faulty, run_walkingLoop_faulty]
  simp only [run_done, imp_and, forall_and, ite_and]

theorem testBit_walkingZero (bit j : Nat) :
    (walkingZero bit).testBit j = (decide (j < 32) ^^ decide (bit = j)) := by
  rw [walkingZero, Nat.one_shiftLeft, Nat.testBit_xor, Nat.testBit_two_pow,
    show 0xFFFFFFFF = 2 ^ 32 - 1 from rfl, Nat.testBit_two_pow_sub_one]

/-- **Stuck and shorted data lines fail the data-line test.**  On every decoder and from
every memory, `test_bram_data_lines` fails when one of the 32 data lines is stuck at
either level, and when two of them are shorted so that both carry one function of the two
bits driven onto them, as a wired AND or a wired OR does. -/
theorem bramDataLines_catches_faults (decode mem : Nat → Nat) :
    (∀ b < 32, ∀ v, testBramDataLines.run (faulty ⟨decode, stuckLine b v⟩) mem = .ok .fail) ∧
      ∀ p q, p < q → q < 32 → ∀ g : Bool → Bool → Bool, g true false = g false true →
        testBramDataLines.run (faulty ⟨decode, shortedLines p q g⟩) mem = .ok .fail := by
  -- Either walking loop fails on a pattern the fault changes.
  have hfails : ∀ wire : Nat → Nat, (∃ bit < 32, wire (1 <<< bit) ≠ 1 <<< bit ∨
      wire (walkingZero bit) ≠ walkingZero bit) →
      testBramDataLines.run (faulty ⟨decode, wire⟩) mem = .ok .fail := by
    rintro wire ⟨bit, hbit, hne⟩
    rw [testBramDataLines, run_walkingLoop_faulty, run_walkingLoop_faulty]
    split_ifs with h1 h2
    · exact (hne.elim (· (h1 bit hbit)) (· (h2 bit hbit))).elim
    all_goals rfl
  refine ⟨fun b hb v => hfails _ ⟨b, hb, ?_⟩, fun p q hpq hq g hg => hfails _ ⟨p, by omega, .inl ?_⟩⟩
  · cases v
    · refine .inl fun h => ?_
      have := congrArg (Nat.testBit · b) h
      simp [testBit_stuckLine, Nat.one_shiftLeft] at this
    · refine .inr fun h => ?_
      have := congrArg (Nat.testBit · b) h
      simp [testBit_stuckLine, testBit_walkingZero, hb] at this
  · intro h
    have hbp := congrArg (Nat.testBit · p) h
    have hbq := congrArg (Nat.testBit · q) h
    simp only [testBit_shortedLines, Nat.one_shiftLeft, Nat.testBit_two_pow_self, if_true,
      Nat.testBit_two_pow_of_ne hpq.ne, true_or, or_true] at hbp hbq
    rw [hg] at hbp hbq
    rw [hbp] at hbq
    exact Bool.noConfusion hbq

/-! ## What the address-line test sees -/

/-- Words `v x` stored in turn at cells `g x`: when the words differ, every cell of `xs`
reads back its own word exactly when no two elements of `xs` share a cell. -/
theorem readBack_iff_injOn {α : Type} {xs : List α} (hxs : xs.Nodup) (g v : α → Nat)
    (hv : ∀ x ∈ xs, ∀ y ∈ xs, v x = v y → x = y) (mem : Nat → Nat) :
    (∀ x ∈ xs, xs.foldl (fun m y => Function.update m (g y) (v y)) mem (g x) = v x) ↔
      ∀ x ∈ xs, ∀ y ∈ xs, g x = g y → x = y := by
  induction xs using List.reverseRecOn with
  | nil => simp
  | append_singleton xs z ih =>
    obtain ⟨hxs', -, hdisj⟩ := List.nodup_append.mp hxs
    have hz : z ∉ xs := fun h => hdisj h (List.mem_singleton_self z)
    set F := xs.foldl (fun m y => Function.update m (g y) (v y)) mem
    -- Each side keeps the cells of `xs` apart from `z`'s, and is then the side for `xs`.
    have hleft : (∀ x ∈ xs ++ [z], Function.update F (g z) (v z) (g x) = v x) ↔
        (∀ x ∈ xs, g x ≠ g z) ∧ ∀ x ∈ xs, F (g x) = v x := by
      simp only [List.forall_mem_append, List.forall_mem_singleton, Function.update_same, and_true]
      constructor
      · intro H
        have hsep : ∀ x ∈ xs, g x ≠ g z := fun x hx he => by
          have hvz := H x hx
          rw [he, Function.update_same] at hvz
          exact hz (hv z (by simp) x (by simp [hx]) hvz ▸ hx)
        exact ⟨hsep, fun x hx => by simpa [Function.update_noteq (hsep x hx)] using H x hx⟩
      · rintro ⟨hsep, H⟩ x hx
        rw [Function.update_noteq (hsep x hx), H x hx]
    have hright : (∀ x ∈ xs ++ [z], ∀ y ∈ xs ++ [z], g x = g y → x = y) ↔
        (∀ x ∈ xs, g x ≠ g z) ∧ ∀ x ∈ xs, ∀ y ∈ xs, g x = g y → x = y := by
      simp only [List.mem_append, List.mem_singleton]
      constructor
      · intro H
        exact ⟨fun x hx he => hz (H x (.inl hx) z (.inr rfl) he ▸ hx),
          fun x hx y hy => H x (.inl hx) y (.inl hy)⟩
      · rintro ⟨hsep, hinj⟩ x (hx | rfl) y (hy | rfl) he
        · exact hinj x hx y hy he
        · exact absurd he (hsep x hx)
        · exact absurd he.symm (hsep y hy)
        · rfl
    rw [List.foldl_append, List.foldl_cons, List.foldl_nil, hleft, hright,
      ih hxs' fun x hx y hy => hv x (List.mem_append_left _ hx) y (List.mem_append_left _ hy)]

theorem addressLineAddr_eq (i : Nat) : addressLineAddr i = 2 ^ 30 + 2 ^ (i + 2) := by
  rw [addressLineAddr, Nat.one_shiftLeft, Nat.pow_add]
  rfl

/-- The memory the write loop of the address-line test leaves, when the data lines carry
its words unchanged. -/
def addressLinesWritten (f : MemFaults) (mem : Nat → Nat) : Nat → Nat :=
  (List.range 14).foldl (fun m i => Function.update m (f.decode (addressLineAddr i)) (1 <<< i)) mem

/-- The address-line test against a memory whose data lines carry its words: it passes
exactly when every address reads back its own word after all 14 writes. -/
theorem run_bramAddressLines_faulty (f : MemFaults)
    (hwire : ∀ i : Nat, i < 14 → f.wire (1 <<< i) = 1 <<< i) (mem : Nat → Nat) :
    testBramAddressLines.run (faulty f) mem =
      if ∀ i ∈ List.range 14, addressLinesWritten f mem (f.decode (addressLineAddr i)) = 1 <<< i
      then .ok .pass else .ok .fail := by
  have hmem : (List.range 14).foldl (fun m i =>
      Function.update m (f.decode (addressLineAddr i)) (f.wire (1 <<< i))) mem =
      addressLinesWritten f mem :=
    List.foldl_ext _ _ _ fun m i hi => by rw [hwire i (List.mem_range.mp hi)]
  rw [testBramAddressLines, run_forEach_of_pass (fun m i =>
      Function.update m (f.decode (addressLineAddr i)) (f.wire (1 <<< i))) (fun i _ s next => by simp),
    hmem, run_forEach_reads (fun i => addressLinesWritten f mem (f.decode (addressLineAddr i)) = 1 <<< i)
      fun i _ next => by
        by_cases h : addressLinesWritten f mem (f.decode (addressLineAddr i)) = 1 <<< i <;> simp [h]]
  rfl

/-- Every address of the address-line test reads back its own word exactly when the
decoder sends the 14 addresses to 14 different cells. -/
theorem addressLinesWritten_iff (f : MemFaults) (mem : Nat → Nat) :
    (∀ i ∈ List.range 14, addressLinesWritten f mem (f.decode (addressLineAddr i)) = 1 <<< i) ↔
      ∀ i : Nat, i < 14 → ∀ j : Nat, j < 14 →
        f.decode (addressLineAddr i) = f.decode (addressLineAddr j) → i = j := by
  rw [addressLinesWritten, readBack_iff_injOn (List.nodup_range 14) _ (fun i => 1 <<< i)
    (fun i _ j _ h => Nat.pow_right_injective (le_refl 2) (by simpa [Nat.one_shiftLeft] using h))]
  simp only [List.mem_range]

/-- **The address-line test passes exactly when the decoder keeps its addresses apart.**
When the data lines carry the words `1 << i` unchanged, `test_bram_address_lines` passes,
from every memory, when the decoder sends its 14 addresses to 14 different cells, and
fails otherwise. -/
theorem bramAddressLines_faulty (f : MemFaults)
    (hwire : ∀ i : Nat, i < 14 → f.wire (1 <<< i) = 1 <<< i) (mem : Nat → Nat) :
    testBramAddressLines.run (faulty f) mem =
      if ∀ i : Nat, i < 14 → ∀ j : Nat, j < 14 →
        f.decode (addressLineAddr i) = f.decode (addressLineAddr j) → i = j
      then .ok .pass else .ok .fail := by
  rw [run_bramAddressLines_faulty f hwire]
  exact if_congr (addressLinesWritten_iff f mem) rfl rfl

theorem bramAddressLines_faulty_stuck_line :
    (∀ i : Nat, i < 14 → (MemFaults.mk (stuckLine 5 true) id).wire (1 <<< i) = 1 <<< i) ∧
      testBramAddressLines.run (faulty ⟨stuckLine 5 true, id⟩) (fun _ => 0) =
        if ∀ i : Nat, i < 14 → ∀ j : Nat, j < 14 →
          stuckLine 5 true (addressLineAddr i) = stuckLine 5 true (addressLineAddr j) → i = j
        then .ok .pass else .ok .fail :=
  ⟨fun _ _ => rfl, bramAddressLines_faulty ⟨stuckLine 5 true, id⟩ (fun _ _ => rfl) _⟩

theorem testBit_addressLineAddr {i : Nat} (hi : i < 14) (k : Nat) :
    (addressLineAddr i).testBit k = (decide (k = 30) || decide (k = i + 2)) := by
  rw [addressLineAddr_eq]
  rcases Nat.lt_trichotomy k 30 with hk | rfl | hk
  · rw [Nat.testBit_two_pow_add_gt hk, Nat.testBit_two_pow]
    simp only [show k ≠ 30 by omega, decide_False, Bool.false_or, eq_comm]
  · rw [Nat.testBit_two_pow_add_eq, Nat.testBit_two_pow_of_ne (by omega)]
    rfl
  · have h1 : 2 ^ (i + 2) < 2 ^ 30 := Nat.pow_lt_pow_right (by norm_num) (by omega)
    have h2 : 2 ^ 31 ≤ 2 ^ k := Nat.pow_le_pow_right (by norm_num) hk
    rw [Nat.testBit_lt_two_pow (by omega)]
    simp only [show k ≠ 30 by omega, show k ≠ i + 2 by omega, decide_False, Bool.or_false]

/-- One stuck line keeps the addresses of the address-line test apart: one of the two
bits that tell two of them apart is not the stuck one. -/
theorem stuckLine_addressLineAddr_inj (k : Nat) (v : Bool) {i j : Nat} (hi : i < 14)
    (hj : j < 14) (h : stuckLine k v (addressLineAddr i) = stuckLine k v (addressLineAddr j)) :
    i = j := by
  by_contra hij
  obtain ⟨b, hb, hbk⟩ : ∃ b, (b = i + 2 ∨ b = j + 2) ∧ b ≠ k :=
    if hk : k = i + 2 then ⟨j + 2, .inr rfl, by omega⟩ else ⟨i + 2, .inl rfl, Ne.symm hk⟩
  have hbit := congrArg (Nat.testBit · b) h
  simp only [testBit_stuckLine, if_neg hbk, testBit_addressLineAddr hi,
    testBit_addressLineAddr hj] at hbit
  rcases hb with rfl | rfl <;> simp at hbit <;> omega

/-- Two shorted address lines send the addresses of their two bits to one cell. -/
theorem shortedLines_addressLineAddr {i j : Nat} (hij : i ≠ j) (hi : i < 14) (hj : j < 14)
    {g : Bool → Bool → Bool} (hg : g true false = g false true) :
    shortedLines (i + 2) (j + 2) g (addressLineAddr i) =
      shortedLines (i + 2) (j + 2) g (addressLineAddr j) := by
  refine Nat.eq_of_testBit_eq fun k => ?_
  simp only [testBit_shortedLines, testBit_addressLineAddr hi, testBit_addressLineAddr hj]
  split_ifs with hk
  · simp [hij, Ne.symm hij, hg, show i ≠ 28 by omega, show j ≠ 28 by omega]
  · simp only [not_or] at hk
    simp [hk.1, hk.2]

/-- **Shorted address lines fail the address-line test; a stuck one passes it.**  From
every memory, `test_bram_address_lines` passes when one address line is stuck at either
level, and fails when two of the 14 word-address lines (bits 2 to 15 of the byte address)
are shorted so that both carry one function of the two bits driven onto them. -/
theorem bramAddressLines_faults (mem : Nat → Nat) :
    (∀ k v, testBramAddressLines.run (faulty ⟨stuckLine k v, id⟩) mem = .ok .pass) ∧
      ∀ i j, i < j → j < 14 → ∀ g : Bool → Bool → Bool, g true false = g false true →
        testBramAddressLines.run (faulty ⟨shortedLines (i + 2) (j + 2) g, id⟩) mem = .ok .fail := by
  refine ⟨fun k v => ?_, fun i j hij hj g hg => ?_⟩ <;>
    rw [run_bramAddressLines_faulty _ (fun _ _ => rfl)]
  · exact if_pos ((addressLinesWritten_iff _ mem).mpr fun i hi j hj h =>
      stuckLine_addressLineAddr_inj k v hi hj h)
  · refine if_neg fun H => hij.ne ?_
    exact (addressLinesWritten_iff _ mem).mp H i (by omega) j hj
      (shortedLines_addressLineAddr hij.ne (by omega) hj hg)

/-! ## On a faithful target -/

/-- A write-and-read-back check passes on the register file and leaves its word stored. -/
theorem run_writeReadBack_registerFile (mem : Nat → Nat) (addr pattern : Nat) (next : RegProg) :
    (writeReadBack addr pattern next).run registerFile mem =
      next.run registerFile (Function.update mem addr pattern) := by
  simp [writeReadBack, RegOp.apply]

/-- A loop of write-and-read-back checks passes on the register file. -/
theorem run_forEach_writeReadBack_registerFile {α : Type} (xs : List α) (addr pattern : α → Nat)
    (mem : Nat → Nat) :
    (forEach xs (fun x => writeReadBack (addr x) (pattern x)) (.done .pass)).run registerFile mem =
      .ok .pass :=
  run_forEach_of_pass (fun m x => Function.update m (addr x) (pattern x))
    (fun _ _ m next => run_writeReadBack_registerFile m _ _ next) _ mem

theorem one_shiftLeft_lt {i n : Nat} (h : i < n) : 1 <<< i < 2 ^ n := by
  rw [Nat.one_shiftLeft]
  exact Nat.pow_lt_pow_right (by norm_num) h

theorem addressLineAddr_lt {i : Nat} (hi : i < 14) : addressLineAddr i < 2 ^ 32 := by
  have : 2 ^ (i + 2) < 2 ^ 16 := Nat.pow_lt_pow_right (by norm_num) (by omega)
  rw [addressLineAddr_eq]
  omega

theorem bounded_subsystemRegisters {status reg value : Nat} (hs : status < 2 ^ 32)
    (hr : reg < 2 ^ 32) (hv : value < 2 ^ 32) : (subsystemRegisters status reg value).Bounded := by
  refine ⟨hs, fun s => ?_⟩
  dsimp only [subsystemRegisters]
  split
  · trivial
  · exact ⟨⟨hr, hv⟩, fun _ => ⟨hr, fun v => by dsimp only; split <;> trivial⟩⟩

theorem bounded_memoryTests : ∀ p ∈ memoryTests, p.Bounded := by
  have hpass : (RegProg.done .pass).Bounded := trivial
  have hbasic : ∀ a ∈ [0x40000000, 0x40001000, 0x40002000, 0x4000F000], a < 2 ^ 32 := by decide
  have hret : ∀ p ∈ retentionPatterns, p.1 < 2 ^ 32 ∧ p.2 < 2 ^ 32 := by decide
  simp only [memoryTests, List.mem_cons, List.mem_singleton, List.not_mem_nil, or_false]
  rintro p (rfl | rfl | rfl | rfl | rfl | rfl | rfl | rfl | rfl)
  · exact bounded_forEach (fun a ha next hn => bounded_writeReadBack (hbasic a ha) (by norm_num) hn)
      hpass
  · refine bounded_forEach (fun i hi next hn => ⟨⟨addressLineAddr_lt (List.mem_range.mp hi),
      one_shiftLeft_lt (by have := List.mem_range.mp hi; omega)⟩, fun ok => ?_⟩) ?_
    · cases ok <;> trivial
    · refine bounded_forEach (fun i hi next hn => ⟨addressLineAddr_lt (List.mem_range.mp hi),
        fun value => ?_⟩) hpass
      dsimp only
      split
      · split <;> trivial
      · exact hn
  · exact bounded_forEach (fun bit hb next hn => bounded_writeReadBack (by norm_num)
      (one_shiftLeft_lt (List.mem_range.mp hb)) hn)
      (bounded_forEach (fun bit hb next hn => bounded_writeReadBack (by norm_num)
        (Nat.xor_lt_two_pow (by norm_num) (one_shiftLeft_lt (List.mem_range.mp hb))) hn) hpass)
  · refine bounded_forEach (fun p hp next hn => ⟨hret p hp, fun _ => hn⟩)
      (bounded_forEach (fun p hp next hn => ⟨(hret p hp).1, fun value => ?_⟩) hpass)
    dsimp only
    split <;> trivial
  · exact bounded_forEach (fun i _ next hn => bounded_writeReadBack (by omega)
      (Nat.and_lt_two_pow _ (by norm_num)) hn) hpass
  · exact bounded_writeReadBack (by norm_num) (by norm_num) hpass
  · exact bounded_forEach (fun bit hb next hn => bounded_writeReadBack (by norm_num)
      (one_shiftLeft_lt (List.mem_range.mp hb)) hn) hpass
  all_goals exact bounded_subsystemRegisters (by norm_num) (by norm_num) (by norm_num)

theorem memoryTests_registerFile (mem : Nat → Nat) : ∀ p ∈ memoryTests,
    p.run registerFile mem = .ok .pass := by
  simp only [memoryTests, List.mem_cons, List.mem_singleton, List.not_mem_nil, or_false]
  rintro p (rfl | rfl | rfl | rfl | rfl | rfl | rfl | rfl | rfl)
  · exact run_forEach_writeReadBack_registerFile _ _ _ mem
  · rw [← faulty_none, run_bramAddressLines_faulty _ (fun _ _ => rfl), if_pos]
    refine (addressLinesWritten_iff _ mem).mpr fun i hi j hj h => ?_
    simp only [MemFaults.none, id, addressLineAddr_eq, Nat.add_left_cancel_iff] at h
    exact Nat.succ_injective (Nat.succ_injective (Nat.pow_right_injective (le_refl 2) h))
  · rw [testBramDataLines, run_forEach_of_pass (fun m bit => Function.update m 0x40000100 (1 <<< bit))
      (fun _ _ m next => run_writeReadBack_registerFile m _ _ next)]
    exact run_forEach_writeReadBack_registerFile _ _ _ _
  · have hread : ∀ (m : Nat → Nat) (p : Nat × Nat) next,
        (RegProg.read p.1 fun value => if value ≠ some (p.2 : Int) then .done .fail else next).run
          registerFile m = if m p.1 = p.2 then next.run registerFile m else .ok .fail := by
      intro m p next
      by_cases h : m p.1 = p.2 <;> simp [h, RegOp.apply]
    rw [testBramRetention, run_forEach_of_pass
      (fun (m : Nat → Nat) (p : Nat × Nat) => Function.update m p.1 p.2) (fun _ _ _ _ => by rfl),
      run_forEach_reads _ fun p _ next => hread _ p next]
    rw [if_pos ((readBack_iff_injOn (by decide) Prod.fst Prod.snd (by decide) mem).mpr (by decide))]
    rfl
  · exact run_forEach_writeReadBack_registerFile _ _ _ mem
  · exact run_writeReadBack_registerFile mem _ _ _
  · exact run_forEach_writeReadBack_registerFile _ _ _ mem
  all_goals simp [testFdcRegisters, testHddRegisters, subsystemRegisters, RegOp.apply]

/-- **Every memory test passes on a faithful target.**  Over the console to a target that
implements the register protocol, after any commands, each memory test of the two suites
returns `PASS`: the register file gives every address its own cell and reads back every
word written. -/
theorem memory_tests_pass (R : RegisterTarget) (hist : List (List Char)) :
    ∀ p ∈ memoryTests, p.run (console R.target.respLines) hist = .ok .pass := fun p hp => by
  rw [(console_simulation R).run_eq (bounded_memoryTests p hp) rfl]
  exact memoryTests_registerFile _ p hp

theorem memory_tests_pass_bram_basic :
    testBramBasic ∈ memoryTests ∧
      testBramBasic.run (console zeroTarget.target.respLines) [] = .ok .pass :=
  have hmem : testBramBasic ∈ memoryTests := List.mem_cons_self _ _
  ⟨hmem, memory_tests_pass zeroTarget [] _ hmem⟩

end FluxRipper
