import FluxRipper.DevLoop.Watch

/-! # Deploying the firmware image

`FirmwareBuilder.deploy` halts the CPU, writes the image word by word with
`write_block(0x40000000, binary)`, resets the CPU and runs it, each step a console command
whose reply must contain `OK`.  `sendAcked` is that pattern stated once: send the commands
in order and stop at the first reply without `OK`.  `deploy_eq` shows that `deploy`, on a
non-empty image, is `sendAcked` over `deploySequence`, the command list as the spec gives it.

**`deploy_sequence`**: for every non-empty image that fits below `2^32` and every pattern
of replies, `deploy` issues a prefix of `deploySequence` that ends at the first reply
without `OK`, each `dbg w` with an address and a word of exactly eight hex digits, and
returns `True` exactly when every command of the sequence was acknowledged.
**`write_block_word_packing`**: for every byte string, `write_block` packs it into
`⌈|d|/4⌉` words below `2^32`, whose 4-byte little-endian encodings (`toBytesLE`) are the
bytes followed by the zero padding of the last word.
-/

namespace FluxRipper

/-- Whether the reply to the `j`-th command contains `OK`.  A reply that never comes is
no lines, as `send` returns after its deadline. -/
def acked (replies : List (List (List Char))) (j : Nat) : Bool :=
  contains (joinLines (replies.getD j [])) "OK".toList

theorem acked_succ (replies : List (List (List Char))) (j : Nat) :
    acked replies (j + 1) = acked replies.tail j := by
  cases replies <;> rfl

/-- Send `cmds` in order, each acknowledged when its reply contains `OK`; stop with
`False` at the first that is not. -/
def sendAcked : List (List Char) → Py Bool
  | [] => pure true
  | cmd :: cmds => do
    let lines ← send cmd
    if contains (joinLines lines) "OK".toList then sendAcked cmds else pure false

theorem sendAcked_append (cmds₁ cmds₂ : List (List Char)) :
    sendAcked (cmds₁ ++ cmds₂) =
      sendAcked cmds₁ >>= fun ok => if ok then sendAcked cmds₂ else pure false := by
  induction cmds₁ with
  | nil => simp [sendAcked]
  | cons cmd cmds ih =>
    simp only [List.cons_append, sendAcked, bind_assoc, ih]
    congr
    funext lines
    split <;> simp [ih]

theorem sendAcked_cons_run (cmd : List Char) (cmds : List (List Char))
    {replies : List (List (List Char))} {w : World} (hs : w.sends = replies.map .ok) :
    (sendAcked (cmd :: cmds)).run w =
      if acked replies 0 then (sendAcked cmds).run { w.log (.send cmd) with sends := replies.tail.map .ok }
      else (.ok false, { w.log (.send cmd) with sends := replies.tail.map .ok }) := by
  rcases w with ⟨_, _, ss, _, _, _⟩
  simp only at hs
  subst hs
  cases replies with
  | nil => rfl
  | cons r rs =>
    cases hr : contains (joinLines r) "OK".toList <;>
      simp only [sendAcked, Py.run_bind, send_run, List.map_cons, acked, List.getD_cons_zero, hr] <;> rfl

/-- **What `sendAcked` issues.**  Against any replies, it sends a prefix of `cmds` that
ends at the first reply without `OK`, never raises, and returns `True` exactly when every
command was acknowledged. -/
theorem sendAcked_run (cmds : List (List Char)) (replies : List (List (List Char))) (w : World)
    (hs : w.sends = replies.map .ok) :
    ∃ k ≤ cmds.length,
      ((sendAcked cmds).run w).2.calls = w.calls ++ (cmds.take k).map .send ∧
        (∀ j, j + 1 < k → acked replies j = true) ∧
        (k < cmds.length → 0 < k ∧ acked replies (k - 1) = false) ∧
        ((sendAcked cmds).run w).1 = .ok (decide (∀ j < cmds.length, acked replies j = true)) := by
  induction cmds generalizing replies w with
  | nil => exact ⟨0, le_rfl, by simp [sendAcked], by simp, by simp, by simp [sendAcked]⟩
  | cons cmd cmds ih =>
    rw [sendAcked_cons_run cmd cmds hs]
    by_cases hr : acked replies 0 = true
    · rw [if_pos hr]
      obtain ⟨k, hk, hcalls, hacks, hstop, hres⟩ :=
        ih replies.tail { w.log (.send cmd) with sends := replies.tail.map .ok } rfl
      refine ⟨k + 1, by simpa using hk, ?_, fun j hj => ?_, fun hlt => ?_, ?_⟩
      · rw [hcalls]
        simp [World.log]
      · cases j with
        | zero => exact hr
        | succ j => exact (acked_succ replies j).trans (hacks j (by omega))
      · obtain ⟨hk0, hnak⟩ := hstop (by simp at hlt; omega)
        obtain ⟨k, rfl⟩ := Nat.exists_eq_add_of_lt hk0
        exact ⟨by omega, (acked_succ replies _).trans (by simpa using hnak)⟩
      · rw [hres]
        simp only [List.length_cons, Nat.forall_lt_succ_left, hr, acked_succ, true_and]
    · rw [if_neg hr, decide_eq_false fun h => hr (h 0 (Nat.succ_pos _))]
      exact ⟨1, by simp, by simp [World.log], by simp, fun _ => ⟨by omega, by simpa using hr⟩, rfl⟩

/-- The commands `deploy` sends for the image `b`, as the spec lists them: `dbg cpu halt`;
for `i = 0 .. ⌈|b|/4⌉ - 1`, the write of address `0x40000000 + 4i` with the word packed
from `b[4i:4i+4]`; `dbg cpu reset`; `dbg cpu run`. -/
def deploySequence (b : List UInt8) : List (List Char) :=
  "dbg cpu halt".toList ::
    ((List.range ((b.length + 3) / 4)).map fun i =>
      writeCommand (0x40000000 + 4 * i) (CDCConsole.wordOf ((b.drop (4 * i)).take 4))) ++
    ["dbg cpu reset".toList, "dbg cpu run".toList]

/-- `write_block`'s chunks are `data[i:i+4]` for `i` in `range(0, len(data), 4)`. -/
theorem chunks_eq_range (b : List UInt8) :
    CDCConsole.chunks b = (List.range ((b.length + 3) / 4)).map fun i => (b.drop (4 * i)).take 4 := by
  induction b using CDCConsole.chunks.induct with
  | case1 b0 b1 b2 b3 rest ih =>
    rw [CDCConsole.chunks, ih, List.length_cons, List.length_cons, List.length_cons,
      List.length_cons, show (rest.length + 1 + 1 + 1 + 1 + 3) / 4 = (rest.length + 3) / 4 + 1 by omega,
      List.range_succ_eq_map]
    simp [Nat.mul_succ]
  | case2 => rfl
  | case3 short hshort hnil =>
    match short, hshort, hnil with
    | [_], _, _ | [_, _], _, _ | [_, _, _], _, _ => simp [CDCConsole.chunks]; rfl
    | _ :: _ :: _ :: _ :: _, h, _ => exact absurd rfl (h _ _ _ _ _)
    | [], _, h => exact absurd rfl h

theorem wordOf_lt (chunk : List UInt8) : CDCConsole.wordOf chunk < 256 ^ chunk.length := by
  induction chunk with
  | nil => simp [CDCConsole.wordOf]
  | cons x xs ih =>
    have hx : x.toNat < 256 := x.toNat_lt_size
    simp only [CDCConsole.wordOf, List.foldr_cons, List.length_cons, pow_succ] at ih ⊢
    omega

/-! ## Word packing -/

/-- Modelled from the spec: `w.to_bytes(n, 'little')`, the `n` low bytes of `w`, least
significant first. -/
def toBytesLE : Nat → Nat → List UInt8
  | 0, _ => []
  | n + 1, w => UInt8.ofNat (w % 256) :: toBytesLE n (w / 256)

@[simp] theorem wordOf_nil : CDCConsole.wordOf [] = 0 := rfl

@[simp] theorem wordOf_cons (b : UInt8) (bs : List UInt8) :
    CDCConsole.wordOf (b :: bs) = b.toNat + 256 * CDCConsole.wordOf bs := rfl

/-- **`int.from_bytes` and the encoding are inverse**: the `n` little-endian bytes of the word
of a chunk of at most `n` bytes are the chunk, padded with zero bytes. -/
theorem toBytesLE_wordOf : ∀ {n : Nat} (chunk : List UInt8), chunk.length ≤ n →
    toBytesLE n (CDCConsole.wordOf chunk) = chunk ++ List.replicate (n - chunk.length) 0
  | 0, [], _ => rfl
  | n + 1, [], _ => by
    show UInt8.ofNat 0 :: toBytesLE n (CDCConsole.wordOf []) = _
    rw [toBytesLE_wordOf [] (Nat.zero_le n)]
    rfl
  | n + 1, b :: bs, h => by
    have hb : b.toNat < 256 := b.toNat_lt_size
    rw [wordOf_cons, toBytesLE, Nat.add_mul_mod_self_left, Nat.mod_eq_of_lt hb,
      UInt8.toNat.inj (UInt8.toNat_ofNat_of_lt hb), Nat.add_mul_div_left _ _ (by norm_num),
      Nat.div_eq_of_lt hb, Nat.zero_add, toBytesLE_wordOf bs (Nat.le_of_succ_le_succ h)]
    simp

example : toBytesLE 4 (CDCConsole.wordOf [1, 2, 3]) = [1, 2, 3, 0] := by decide

theorem length_le_of_mem_chunks {d c : List UInt8} (hc : c ∈ CDCConsole.chunks d) : c.length ≤ 4 := by
  rw [chunks_eq_range] at hc
  obtain ⟨i, -, rfl⟩ := List.mem_map.mp hc
  exact List.length_take_le _ _

/-- The chunks of `d`, each padded with zero bytes to four, are `d` padded with zero bytes to
a multiple of four. -/
theorem flatten_padded_chunks (d : List UInt8) :
    ((CDCConsole.chunks d).map fun c => c ++ List.replicate (4 - c.length) 0).flatten =
      d ++ List.replicate ((4 - d.length % 4) % 4) 0 := by
  induction d using CDCConsole.chunks.induct with
  | case1 b0 b1 b2 b3 rest ih =>
    rw [CDCConsole.chunks, List.map_cons, List.flatten_cons, ih]
    simp [Nat.add_assoc, Nat.add_mod_right]
  | case2 => rfl
  | case3 short hshort hnil =>
    match short, hshort, hnil with
    | [_], _, _ | [_, _], _, _ | [_, _, _], _, _ => rfl
    | _ :: _ :: _ :: _ :: _, h, _ => exact absurd rfl (h _ _ _ _ _)
    | [], _, h => exact absurd rfl h

theorem cpuCommand_eq (cmd : List Char) : CDCConsole.cpuCommand cmd = sendAcked [cmd] := by
  simp only [CDCConsole.cpuCommand, CDCConsole.command, sendAcked, bind_assoc, pure_bind]
  congr
  funext lines
  split <;> simp_all [command]

theorem writeWords_eq (addr : Nat) (f : Nat → Nat) (i n : Nat) :
    CDCConsole.writeWords addr i ((List.range' i n).map f) =
      sendAcked ((List.range' i n).map fun j => writeCommand (addr + j * 4) (f j)) := by
  induction n generalizing i with
  | zero => rfl
  | succ n ih =>
    simp only [List.range'_succ, List.map_cons, CDCConsole.writeWords, CDCConsole.writeMemory,
      sendAcked, bind_assoc, pure_bind, ih]
    rfl

/-- `write_block(0x40000000, b)` is `sendAcked` over the writes of `deploySequence`. -/
theorem writeBlock_eq (b : List UInt8) :
    CDCConsole.writeBlock 0x40000000 b =
      sendAcked ((List.range ((b.length + 3) / 4)).map fun i =>
        writeCommand (0x40000000 + 4 * i) (CDCConsole.wordOf ((b.drop (4 * i)).take 4))) := by
  rw [CDCConsole.writeBlock, chunks_eq_range, List.map_map, List.range_eq_range']
  simp only [Function.comp_def, writeWords_eq, Nat.mul_comm 4]

theorem ite_not_pure_false (h : Bool) (k : Py Bool) :
    (if (!h) = true then pure false else k) = if h then k else pure false := by
  cases h <;> rfl

/-- **`deploy` is `sendAcked` over `deploySequence`** once it has a non-empty image. -/
theorem deploy_eq {b : List UInt8} {bs : List (Option (List UInt8))} {w : World}
    (hb : b ≠ []) (hbin : w.binaries = some b :: bs) :
    FirmwareBuilder.deploy.run w =
      (sendAcked (deploySequence b)).run { w.log .binary with binaries := bs } := by
  have hbin' : getBinary.run w = (.ok (some b), { w.log .binary with binaries := bs }) := by
    simp only [getBinary, ExceptT.run, ExceptT.mk, World.log, hbin]
  simp only [FirmwareBuilder.deploy, Py.run_bind, hbin', List.isEmpty_iff, hb, if_false,
    CDCConsole.cpuHalt, CDCConsole.cpuReset, CDCConsole.cpuRun, cpuCommand_eq, writeBlock_eq,
    ite_not_pure_false, deploySequence, List.cons_append, ← sendAcked_append]
  rfl

/-- Each write of `deploySequence` carries an address and a word of exactly eight hex
digits when the image fits below `2^32`. -/
theorem deploySequence_write {b : List UInt8} (hfit : 0x40000000 + b.length ≤ 2 ^ 32)
    {i : Nat} (hi : i < (b.length + 3) / 4) :
    ∃ a d, (deploySequence b)[i + 1]? = some ("dbg w ".toList ++ a ++ ' ' :: d) ∧
      a.length = 8 ∧ d.length = 8 ∧ (∀ c ∈ a ++ d, IsHexDigit c) ∧
      hexValue a = 0x40000000 + 4 * i ∧ hexValue d = CDCConsole.wordOf ((b.drop (4 * i)).take 4) := by
  have ha : 0x40000000 + 4 * i < 2 ^ 32 := by omega
  have hd : CDCConsole.wordOf ((b.drop (4 * i)).take 4) < 2 ^ 32 :=
    calc _ < 256 ^ ((b.drop (4 * i)).take 4).length := wordOf_lt _
      _ ≤ 256 ^ 4 := Nat.pow_le_pow_right (by norm_num) (by simp)
      _ = 2 ^ 32 := by norm_num
  obtain ⟨ha8, hahex, haval⟩ := hex08_spec ha
  obtain ⟨hd8, hdhex, hdval⟩ := hex08_spec hd
  refine ⟨_, _, ?_, ha8, hd8, fun c hc => ?_, haval, hdval⟩
  · simp [deploySequence, List.getElem?_append_left, hi, writeCommand]
  · rcases List.mem_append.mp hc with hc | hc
    exacts [hahex c hc, hdhex c hc]

/-- **The deploy command sequence.**  For every non-empty image `b` with
`0x40000000 + |b| ≤ 2^32` and every pattern of replies, each write of `deploySequence b`
has an address and a word of exactly eight hex digits, and `deploy` reads the binary, then
issues the first `k` commands of `deploySequence b` and nothing else: every reply before
the last issued one contains `OK`, the last issued one does not unless the whole sequence
was issued, and `deploy` returns `True` exactly when every command was acknowledged. -/
theorem deploy_sequence {b : List UInt8} {bs : List (Option (List UInt8))}
    {replies : List (List (List Char))} {w : World} (hb : b ≠ [])
    (hfit : 0x40000000 + b.length ≤ 2 ^ 32) (hbin : w.binaries = some b :: bs)
    (hsends : w.sends = replies.map .ok) :
    (∀ i < (b.length + 3) / 4, ∃ a d,
      (deploySequence b)[i + 1]? = some ("dbg w ".toList ++ a ++ ' ' :: d) ∧
        a.length = 8 ∧ d.length = 8 ∧ (∀ c ∈ a ++ d, IsHexDigit c) ∧
        hexValue a = 0x40000000 + 4 * i ∧
        hexValue d = CDCConsole.wordOf ((b.drop (4 * i)).take 4)) ∧
      ∃ k ≤ (deploySequence b).length,
        (FirmwareBuilder.deploy.run w).2.calls =
            w.calls ++ .binary :: ((deploySequence b).take k).map .send ∧
          (∀ j, j + 1 < k → acked replies j = true) ∧
          (k < (deploySequence b).length → 0 < k ∧ acked replies (k - 1) = false) ∧
          (FirmwareBuilder.deploy.run w).1 =
            .ok (decide (∀ j < (deploySequence b).length, acked replies j = true)) := by
  refine ⟨fun i hi => deploySequence_write hfit hi, ?_⟩
  obtain ⟨k, hk, hcalls, hacks, hstop, hres⟩ :=
    sendAcked_run (deploySequence b) replies { w.log .binary with binaries := bs } hsends
  rw [deploy_eq hb hbin]
  exact ⟨k, hk, by simpa [World.log] using hcalls, hacks, hstop, hres⟩

/-- A five-byte image: two words, the second padded. -/
def deployImage : List UInt8 := [1, 2, 3, 4, 5]

/-- The target acknowledges all five commands. -/
def okReplies : List (List (List Char)) := List.replicate 5 ["OK".toList]

/-- A world holding `deployImage` and `okReplies`. -/
def deployWorld : World := ⟨[], [], okReplies.map .ok, [], [some deployImage], []⟩

theorem deploy_sequence_five_bytes :
    deployImage ≠ [] ∧ 0x40000000 + deployImage.length ≤ 2 ^ 32 ∧
      deployWorld.binaries = some deployImage :: [] ∧ deployWorld.sends = okReplies.map .ok ∧
      ((∀ i < (deployImage.length + 3) / 4, ∃ a d,
        (deploySequence deployImage)[i + 1]? = some ("dbg w ".toList ++ a ++ ' ' :: d) ∧
          a.length = 8 ∧ d.length = 8 ∧ (∀ c ∈ a ++ d, IsHexDigit c) ∧
          hexValue a = 0x40000000 + 4 * i ∧
          hexValue d = CDCConsole.wordOf ((deployImage.drop (4 * i)).take 4)) ∧
        ∃ k ≤ (deploySequence deployImage).length,
          (FirmwareBuilder.deploy.run deployWorld).2.calls =
              deployWorld.calls ++ .binary :: ((deploySequence deployImage).take k).map .send ∧
            (∀ j, j + 1 < k → acked okReplies j = true) ∧
            (k < (deploySequence deployImage).length → 0 < k ∧ acked okReplies (k - 1) = false) ∧
            (FirmwareBuilder.deploy.run deployWorld).1 =
              .ok (decide (∀ j < (deploySequence deployImage).length, acked okReplies j = true))) :=
  ⟨by decide, by decide, rfl, rfl, deploy_sequence (by decide) (by decide) rfl rfl⟩

end FluxRipper
