import FluxRipper.DevLoop.Watch

/-! # Hashing the source trees

`FirmwareBuilder.get_source_hash` and `RTLBuilder.get_source_hash` glob their source
directory with three patterns and feed the bytes of every file a glob yields, in the order
it yields them, to one SHA-256 (`hasherInput`); the hash, `hexdigest()[:16]`, is a
parameter.  A source tree is a list of files with distinct paths.

**`hasher_input_of_tree`**: the input is the tracked files' contents, each file once, in
glob's order; it has the tracked files' total size, and an edit of one tracked file's
contents, glob's order kept, always changes it.  It is not a function of the tree alone,
nor an injective one (`hasher_input_counterexample`): two orders of one tree give two
inputs, and a tree with an empty file added gives the same one.

**`last_hash_is_rehash`**: both builders set `last_hash` from a `get_source_hash` made
after the toolchain exited with status `0`, and `needs_rebuild` compares a fresh hash
with it.  A source edit that lands between the toolchain's read and that hash is recorded
as built (`rehash_after_edit_counterexample`).
-/

namespace FluxRipper

/-- A file of a source tree: its directory, its name and its bytes. -/
structure SrcFile where
  dir : List (List Char)
  name : List Char
  content : List UInt8
  deriving DecidableEq, Repr

/-- The file's path. -/
def SrcFile.path (f : SrcFile) : List (List Char) × List Char := (f.dir, f.name)

/-- A glob pattern of `get_source_hash`: `**/*.c` yields the files whose name ends in
`.c`, at any depth; `**/Makefile` those named `Makefile`. -/
inductive SrcPattern
  | suffix (s : List Char)
  | named (n : List Char)
  deriving DecidableEq

/-- The files a pattern's glob yields. -/
def SrcPattern.matches : SrcPattern → SrcFile → Bool
  | .suffix s, f => s.isSuffixOf f.name
  | .named n, f => f.name == n

/-- `FirmwareBuilder.get_source_hash`'s patterns. -/
def fwPatterns : List SrcPattern :=
  [.suffix ".c".toList, .suffix ".h".toList, .named "Makefile".toList]

/-- `RTLBuilder.get_source_hash`'s patterns. -/
def rtlPatterns : List SrcPattern :=
  [.suffix ".v".toList, .suffix ".sv".toList, .suffix ".xdc".toList]

/-- The bytes `get_source_hash` feeds its hasher: `hasher.update(f.read_bytes())` for each
file the patterns' globs yield, pattern by pattern. -/
def hasherInput (globbed : List (List SrcFile)) : List UInt8 :=
  globbed.flatten.flatMap SrcFile.content

/-- `get_source_hash`, from what the globs yield. -/
def getSourceHash (hash : List UInt8 → Nat) (globbed : List (List SrcFile)) : Nat :=
  hash (hasherInput globbed)

/-- The orders in which the patterns' globs may yield the files of the tree `T`. -/
def Globs (patterns : List SrcPattern) (T : List SrcFile) (globbed : List (List SrcFile)) :
    Prop :=
  List.Forall₂ (fun p fs => fs.Perm (T.filter p.matches)) patterns globbed

instance (patterns : List SrcPattern) (T : List SrcFile) (globbed : List (List SrcFile)) :
    Decidable (Globs patterns T globbed) :=
  inferInstanceAs (Decidable (List.Forall₂ _ _ _))

/-- The tracked files of the tree: those some pattern's glob yields. -/
def tracked (patterns : List SrcPattern) (T : List SrcFile) : List SrcFile :=
  T.filter fun f => patterns.any fun p => p.matches f

/-- No file is yielded by two of the patterns. -/
def PatternsDisjoint (patterns : List SrcPattern) : Prop :=
  patterns.Pairwise fun p q => ∀ f, ¬(p.matches f = true ∧ q.matches f = true)

theorem suffix_patterns_disjoint {s t : List Char} (h : ¬s <:+ t ∧ ¬t <:+ s) (f : SrcFile) :
    ¬((SrcPattern.suffix s).matches f = true ∧ (SrcPattern.suffix t).matches f = true) := by
  rintro ⟨hs, ht⟩
  simp only [SrcPattern.matches, List.isSuffixOf_iff_suffix] at hs ht
  rcases List.suffix_or_suffix_of_suffix hs ht with h' | h'
  exacts [h.1 h', h.2 h']

theorem fwPatterns_disjoint : PatternsDisjoint fwPatterns := by
  refine List.pairwise_cons.mpr ⟨?_, List.pairwise_cons.mpr ⟨?_, List.pairwise_singleton _ _⟩⟩
  · simp only [fwPatterns, List.mem_cons, List.mem_singleton, forall_eq_or_imp, forall_eq,
      List.not_mem_nil, or_false]
    refine ⟨suffix_patterns_disjoint (by decide), fun f ⟨hc, hm⟩ => ?_⟩
    simp only [SrcPattern.matches, beq_iff_eq] at hc hm
    rw [hm] at hc
    exact absurd hc (by decide)
  · simp only [List.mem_singleton, forall_eq]
    intro f ⟨hh, hm⟩
    simp only [SrcPattern.matches, beq_iff_eq] at hh hm
    rw [hm] at hh
    exact absurd hh (by decide)

theorem rtlPatterns_disjoint : PatternsDisjoint rtlPatterns := by
  refine List.pairwise_cons.mpr ⟨?_, List.pairwise_cons.mpr ⟨?_, List.pairwise_singleton _ _⟩⟩
  · simp only [rtlPatterns, List.mem_cons, List.mem_singleton, forall_eq_or_imp, forall_eq,
      List.not_mem_nil, or_false]
    exact ⟨suffix_patterns_disjoint (by decide), suffix_patterns_disjoint (by decide)⟩
  · simp only [List.mem_singleton, forall_eq]
    exact suffix_patterns_disjoint (by decide)

theorem filter_append_perm_of_disjoint {p q : SrcFile → Bool}
    (h : ∀ f, ¬(p f = true ∧ q f = true)) (T : List SrcFile) :
    (T.filter p ++ T.filter q).Perm (T.filter fun f => p f || q f) := by
  have hp : (T.filter fun f => p f || q f).filter p = T.filter p := by
    rw [List.filter_filter]
    exact List.filter_congr fun f _ => by cases p f <;> simp
  have hq : (T.filter fun f => p f || q f).filter (fun f => !p f) = T.filter q := by
    rw [List.filter_filter]
    refine List.filter_congr fun f _ => ?_
    have := h f
    cases hpf : p f <;> cases hqf : q f <;> simp_all
  rw [← hp, ← hq]
  exact List.filter_append_perm _ _

/-- The globs yield every tracked file once. -/
theorem Globs.flatten_perm {P : List SrcPattern} {T : List SrcFile} {globbed : List (List SrcFile)}
    (hg : Globs P T globbed) (hP : PatternsDisjoint P) : globbed.flatten.Perm (tracked P T) := by
  induction hg with
  | nil => simp [tracked]
  | @cons p fs P g hfs _ ih =>
    obtain ⟨hp, hP⟩ := List.pairwise_cons.mp hP
    have hdis : ∀ f, ¬(p.matches f = true ∧ (P.any fun q => q.matches f) = true) := by
      rintro f ⟨hpf, hqf⟩
      obtain ⟨q, hq, hqf⟩ := List.any_eq_true.mp hqf
      exact hp q hq f ⟨hpf, hqf⟩
    simpa [tracked, List.any_cons] using
      (hfs.append (ih hP)).trans (filter_append_perm_of_disjoint hdis T)

/-- The hasher input has the tracked files' total size. -/
theorem Globs.length_hasherInput {P : List SrcPattern} {T : List SrcFile}
    {globbed : List (List SrcFile)} (hg : Globs P T globbed) (hP : PatternsDisjoint P) :
    (hasherInput globbed).length = ((tracked P T).map fun f => f.content.length).sum := by
  simp only [hasherInput, List.flatMap, List.length_flatten, List.map_map]
  exact ((hg.flatten_perm hP).map _).sum_eq

/-- The tree after new contents `c` are written to the file at `p`. -/
def setContent (p : List (List Char) × List Char) (c : List UInt8) (f : SrcFile) : SrcFile :=
  if f.path = p then { f with content := c } else f

theorem matches_setContent (pat : SrcPattern) (p : List (List Char) × List Char)
    (c : List UInt8) (f : SrcFile) : pat.matches (setContent p c f) = pat.matches f := by
  unfold setContent; split <;> cases pat <;> rfl

theorem map_setContent_of_not_mem {p : List (List Char) × List Char} {c : List UInt8} :
    ∀ {s : List SrcFile}, p ∉ s.map SrcFile.path → s.map (setContent p c) = s
  | [], _ => rfl
  | g :: s, h => by
    simp only [List.map_cons, List.mem_cons, not_or] at h
    have hg : ¬g.path = p := fun e => h.1 e.symm
    simp only [List.map_cons, map_setContent_of_not_mem h.2, setContent, if_neg hg]

/-- Writing a file keeps the globs' order: they yield the written file where they yielded
the old one. -/
theorem Globs.setContent {P : List SrcPattern} {T : List SrcFile} {globbed : List (List SrcFile)}
    (hg : Globs P T globbed) (p : List (List Char) × List Char) (c : List UInt8) :
    Globs P (T.map (setContent p c)) (globbed.map (List.map (setContent p c))) := by
  refine List.forall₂_map_right_iff.mpr (hg.imp fun pat fs hfs => ?_)
  rw [List.filter_map]
  have : (pat.matches ∘ FluxRipper.setContent p c) = pat.matches :=
    funext (matches_setContent pat p c)
  rw [this]
  exact hfs.map _

/-- Changing the contents of one tracked file changes the hasher input, when the globs
keep their order. -/
theorem hasherInput_setContent_ne {P : List SrcPattern} {T : List SrcFile}
    {globbed : List (List SrcFile)} (hg : Globs P T globbed) (hP : PatternsDisjoint P)
    (hT : (T.map SrcFile.path).Nodup) {f : SrcFile} (hf : f ∈ tracked P T) {c : List UInt8}
    (hc : c ≠ f.content) :
    hasherInput (globbed.map (List.map (setContent f.path c))) ≠ hasherInput globbed := by
  have hperm := hg.flatten_perm hP
  have hnd : (globbed.flatten.map SrcFile.path).Nodup :=
    (hperm.map _).nodup_iff.mpr (hT.sublist ((List.filter_sublist T).map _))
  obtain ⟨s, t, hst⟩ := List.append_of_mem (hperm.mem_iff.mpr hf)
  rw [hst, List.map_append, List.map_cons, List.nodup_append, List.nodup_cons] at hnd
  have hs : s.map (setContent f.path c) = s :=
    map_setContent_of_not_mem fun hm => hnd.2.2 hm (List.mem_cons_self _ _)
  have ht : t.map (setContent f.path c) = t := map_setContent_of_not_mem hnd.2.1.1
  simp only [hasherInput, ← List.map_flatten, hst, List.map_append, List.map_cons, hs, ht,
    List.flatMap_append, List.flatMap_cons, FluxRipper.setContent, if_pos rfl, ne_eq,
    List.append_cancel_left_eq, List.append_cancel_right_eq]
  exact hc

/-- **What the source hash sees of the tree.**  For either builder's patterns and every
order of the globs, the hasher is fed every tracked file once, the input has the tracked
files' total size, and writing new contents to one tracked file, the globs' order kept,
changes the input. -/
theorem hasher_input_of_tree {P : List SrcPattern} (hP : P = fwPatterns ∨ P = rtlPatterns)
    {T : List SrcFile} (hT : (T.map SrcFile.path).Nodup) {globbed : List (List SrcFile)}
    (hg : Globs P T globbed) :
    globbed.flatten.Perm (tracked P T) ∧
      (hasherInput globbed).length = ((tracked P T).map fun f => f.content.length).sum ∧
      ∀ f ∈ tracked P T, ∀ c, c ≠ f.content →
        Globs P (T.map (setContent f.path c)) (globbed.map (List.map (setContent f.path c))) ∧
          hasherInput (globbed.map (List.map (setContent f.path c))) ≠ hasherInput globbed := by
  have hdis : PatternsDisjoint P := by
    rcases hP with rfl | rfl
    exacts [fwPatterns_disjoint, rtlPatterns_disjoint]
  exact ⟨hg.flatten_perm hdis, hg.length_hasherInput hdis, fun f hf c hc =>
    ⟨hg.setContent _ _, hasherInput_setContent_ne hg hdis hT hf hc⟩⟩

/-- `a.c`, holding `x`. -/
def srcA : SrcFile := ⟨[], "a.c".toList, [120]⟩

/-- `b.c`, holding `y`. -/
def srcB : SrcFile := ⟨[], "b.c".toList, [121]⟩

/-- An RTL tree: two Verilog modules in two directories, a SystemVerilog FIFO, the pin
constraints, and a README that no pattern tracks. -/
def rtlTree : List SrcFile :=
  [⟨["rtl".toList], "top.v".toList, [1, 2]⟩, ⟨["rtl".toList], "fifo.sv".toList, [3]⟩,
    ⟨["rtl".toList], "README".toList, [4]⟩, ⟨["rtl".toList], "pins.xdc".toList, [5, 6]⟩,
    ⟨["rtl".toList, "io".toList], "uart.v".toList, [7]⟩]

/-- The globs of `rtlTree`: `**/*.v` yields `uart.v` before `top.v`. -/
def rtlGlobbed : List (List SrcFile) :=
  [[⟨["rtl".toList, "io".toList], "uart.v".toList, [7]⟩, ⟨["rtl".toList], "top.v".toList, [1, 2]⟩],
    [⟨["rtl".toList], "fifo.sv".toList, [3]⟩], [⟨["rtl".toList], "pins.xdc".toList, [5, 6]⟩]]

theorem hasher_input_of_tree_rtl_tree :
    (rtlPatterns = fwPatterns ∨ rtlPatterns = rtlPatterns) ∧ (rtlTree.map SrcFile.path).Nodup ∧
      Globs rtlPatterns rtlTree rtlGlobbed ∧
      (rtlGlobbed.flatten.Perm (tracked rtlPatterns rtlTree) ∧
        (hasherInput rtlGlobbed).length =
          ((tracked rtlPatterns rtlTree).map fun f => f.content.length).sum ∧
        ∀ f ∈ tracked rtlPatterns rtlTree, ∀ c, c ≠ f.content →
          Globs rtlPatterns (rtlTree.map (setContent f.path c))
              (rtlGlobbed.map (List.map (setContent f.path c))) ∧
            hasherInput (rtlGlobbed.map (List.map (setContent f.path c))) ≠
              hasherInput rtlGlobbed) :=
  have hP : rtlPatterns = fwPatterns ∨ rtlPatterns = rtlPatterns := .inr rfl
  have hT : (rtlTree.map SrcFile.path).Nodup := by decide
  have hg : Globs rtlPatterns rtlTree rtlGlobbed := by decide
  ⟨hP, hT, hg, hasher_input_of_tree hP hT hg⟩

example : hasherInput rtlGlobbed = [7, 1, 2, 3, 5, 6] := rfl

/-- `b.c`, empty. -/
def srcEmpty : SrcFile := ⟨[], "b.c".toList, []⟩

/-- The globs of `a.c` and `b.c` may yield them in either order, and feed `xy` or `yx`;
and `a.c` alone feeds what `a.c` beside an empty `b.c` feeds. -/
theorem hasher_input_counterexample :
    ¬(∀ (T T' : List SrcFile) (g g' : List (List SrcFile)), (T.map SrcFile.path).Nodup →
        (T'.map SrcFile.path).Nodup → Globs fwPatterns T g → Globs fwPatterns T' g' →
        (tracked fwPatterns T).Perm (tracked fwPatterns T') → hasherInput g = hasherInput g') ∧
      ¬(∀ (T T' : List SrcFile) (g g' : List (List SrcFile)), (T.map SrcFile.path).Nodup →
        (T'.map SrcFile.path).Nodup → Globs fwPatterns T g → Globs fwPatterns T' g' →
        hasherInput g = hasherInput g' → (tracked fwPatterns T).Perm (tracked fwPatterns T')) := by
  refine ⟨fun h => ?_, fun h => ?_⟩
  · have := h [srcA, srcB] [srcA, srcB] [[srcA, srcB], [], []] [[srcB, srcA], [], []]
      (by decide) (by decide) (by decide) (by decide) (List.Perm.refl _)
    exact absurd this (by decide)
  · have := h [srcA] [srcA, srcEmpty] [[srcA], [], []] [[srcA, srcEmpty], [], []]
      (by decide) (by decide) (by decide) (by decide) rfl
    exact absurd this (by decide)

/-! ## What `last_hash` records -/

/-- `needs_rebuild`, the same in both builders: a fresh `get_source_hash` against
`last_hash`. -/
def needsRebuild (lastHash : Option Nat) : Py Bool := do
  let currentHash ← sourceHash
  pure (some currentHash != lastHash)

/-- A `build` that returns `True` saw the toolchain exit with status `0`, and records the
hash read after that. -/
theorem build_true_rehash {lastHash x : Option Nat} {w : World}
    (hb : ((FirmwareBuilder.build lastHash).run w).1 = .ok (true, x)) :
    ∃ stderr h, (subprocessRun.run w).1 = .ok (0, stderr) ∧
      (sourceHash.run (subprocessRun.run w).2).1 = .ok h ∧ x = some h := by
  obtain ⟨⟨code, stderr⟩, hrun, hk⟩ := Py.run_bind_ok hb
  simp only at hk
  split at hk
  · subst code
    obtain ⟨h, hh, hk⟩ := Py.run_bind_ok hk
    simp only [Py.run_pure, Except.ok.injEq, Prod.mk.injEq, true_and] at hk
    exact ⟨stderr, h, hrun, hh, hk.symm⟩
  · split at hk <;> simp at hk

/-- **Both builders record the hash read after the toolchain exits.**  A firmware `build`
that returns `True` saw `make` exit with status `0` and sets `last_hash` to the
`get_source_hash` made after that; in every run of the RTL builder, `last_hash` is a hash
some worker read after Vivado exited with status `0`, any events between; and
`needs_rebuild` is `True` exactly when a fresh hash differs from `last_hash`. -/
theorem last_hash_is_rehash :
    (∀ (lastHash x : Option Nat) (w : World),
        ((FirmwareBuilder.build lastHash).run w).1 = .ok (true, x) →
          ∃ stderr h, (subprocessRun.run w).1 = .ok (0, stderr) ∧
            (sourceHash.run (subprocessRun.run w).2).1 = .ok h ∧ x = some h) ∧
      (∀ (es : List RtlBuilder.Event) (h : Nat), (RtlBuilder.run .init es).lastHash = some h →
        ∃ es₁ s es₂ i es₃,
          es = es₁ ++ .worker i (.vivado (.exited 0 s)) :: es₂ ++ .worker i (.hash (.ok h)) :: es₃ ∧
            (RtlBuilder.run .init es₁).workers[i]? = some .building ∧
            (RtlBuilder.run .init (es₁ ++ .worker i (.vivado (.exited 0 s)) :: es₂)).workers[i]? =
              some .hashing) ∧
      ∀ (lastHash : Option Nat) (w : World) (h : Nat), (sourceHash.run w).1 = .ok h →
        ((needsRebuild lastHash).run w).1 = .ok (some h != lastHash) :=
  ⟨fun _ _ _ => build_true_rehash, fun _ _ => RtlBuilder.run_lastHash_after_exit,
    fun lastHash w h hh => by
      rcases hs : sourceHash.run w with ⟨r, w'⟩
      obtain rfl : r = .ok h := by rw [hs] at hh; exact hh
      simp only [needsRebuild, Py.run_bind, hs, Py.run_pure]⟩

/-- A hash with no collisions: the bytes, each plus one, as digits in base 257. -/
def byteCode : List UInt8 → Nat
  | [] => 0
  | b :: bs => b.toNat + 1 + 257 * byteCode bs

theorem byteCode_injective : Function.Injective byteCode := by
  intro xs
  induction xs with
  | nil =>
    intro ys h
    cases ys with
    | nil => rfl
    | cons y ys => simp only [byteCode] at h; omega
  | cons x xs ih =>
    intro ys h
    cases ys with
    | nil => simp [byteCode] at h
    | cons y ys =>
      have hx : x.toNat < 256 := x.toNat_lt_size
      have hy : y.toNat < 256 := y.toNat_lt_size
      simp only [byteCode] at h
      obtain ⟨hxy, hs⟩ : x.toNat = y.toNat ∧ byteCode xs = byteCode ys := by omega
      rw [UInt8.toNat.inj hxy, ih hs]

/-- `make` compiles `a.c` holding `x`; before `build` rehashes, `a.c` is rewritten to `yz`.
Even under a hash with no collisions, `last_hash` is the hash of the edited tree, and
`needs_rebuild` then says nothing is to be built. -/
theorem rehash_after_edit_counterexample :
    ¬∀ (hash : List UInt8 → Nat), Function.Injective hash →
      ∀ (T : List SrcFile) (p : List (List Char) × List Char) (c : List UInt8)
        (g g' : List (List SrcFile)) (stderr : List UInt8) (lastHash : Option Nat) (w : World),
        Globs fwPatterns T g → Globs fwPatterns (T.map (setContent p c)) g' →
        w.runs = [.exited 0 stderr] →
        w.hashes = [.ok (getSourceHash hash g'), .ok (getSourceHash hash g')] →
        ((FirmwareBuilder.build lastHash).run w).1 = .ok (true, some (getSourceHash hash g)) ∧
          (hasherInput g' ≠ hasherInput g →
            ((FirmwareBuilder.build lastHash >>= fun r => needsRebuild r.2).run w).1 = .ok true) :=
  fun h => by
    let g' := [[setContent srcA.path [121, 122] srcA], [], []]
    let w : World := ⟨[.ok (getSourceHash byteCode g'), .ok (getSourceHash byteCode g')],
      [.exited 0 []], [], [], [], []⟩
    have hbuilt := (h byteCode byteCode_injective [srcA] srcA.path [121, 122] [[srcA], [], []] g'
      [] none w (by decide) (by decide) rfl rfl).1
    have hrun : ((FirmwareBuilder.build none).run w).1 =
        .ok (true, some (getSourceHash byteCode g')) := rfl
    exact absurd (Except.ok.inj (hrun.symm.trans hbuilt)) (by decide)

end FluxRipper
