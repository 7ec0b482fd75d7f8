import FluxRipper.DevLoop.World

/-! # Incremental RTL builds

`rtl_tools.py` decides what to rebuild by hashing every RTL module.  `scan_rtl_modules`
walks `rglob("*.v")` and then `rglob("*.sv")` and keeps, under each file's stem, the hash
of its contents; `get_changed_modules` lists the modules whose hash is not the one the
cache file holds; `save_module_cache` writes the scan's hashes to the cache file; and
`RTLWorkflow.smart_build` scans, simulates the changed modules, builds, and saves the
scan it took only when the build succeeds.

The RTL tree is a list of files with distinct paths, and `rglob` may enumerate the
matching files in any order: `scanRtlModules` takes the two enumerations.
`get_module_hash` is a parameter, over any type of hashes.

**`change_detection_distinct_stems`**: when no two tracked files share a stem, the modules
reported changed do not depend on the enumeration, a change to one file leaves every
other module's report as it was, and is reported against the cache its tree's scan wrote.
With two files of one stem the scan keeps the one enumerated last, and a file added
beside another of its stem can go unreported (`shared_stem_counterexample`).
**`smart_build_cache`**: a `smart_build` run leaves the cache file as it was, or saves the
scan it took at its start when its build succeeded; after any sequence of runs the cache
holds the scan of the last run that saved, or what it held before, and every module whose
hash differs from that scan's is reported changed by the next run.
-/

namespace FluxRipper

/-- A file under `rtl_dir`: its directory, stem and suffix make its path. -/
structure RtlFile where
  dir : List (List Char)
  stem : List Char
  /-- The suffix after the stem's dot: `v` for `*.v`, `sv` for `*.sv`. -/
  ext : List Char
  content : List UInt8
  deriving DecidableEq, Repr

/-- The file's path. -/
def RtlFile.path (f : RtlFile) : List (List Char) × List Char × List Char := (f.dir, f.stem, f.ext)

/-- A file the scan tracks: `*.v` or `*.sv`. -/
def RtlFile.Tracked (f : RtlFile) : Prop := f.ext = "v".toList ∨ f.ext = "sv".toList

instance : DecidablePred RtlFile.Tracked := fun _ => inferInstanceAs (Decidable (_ ∨ _))

section Scan
variable {H : Type}

/-- `scan_rtl_modules`, from the files `rglob("*.v")` and `rglob("*.sv")` enumerate: each
file's stem mapped to the hash of its contents, a later file overwriting an earlier one
of the same stem.  `find_dependencies` first reads each file as text, so a file that is
not UTF-8 makes the scan raise; the modules' paths and the dependencies it extracts are
not read by the code below and are left out. -/
def scanRtlModules (hash : List UInt8 → H) (vfiles svfiles : List RtlFile) :
    Except PyExc (PyDict (List Char) H) :=
  if (vfiles ++ svfiles).all fun f => decodesUtf8 f.content then
    .ok (PyDict.empty.insertAll ((vfiles ++ svfiles).map fun f => (f.stem, hash f.content)))
  else .error .unicodeDecodeError

/-- `get_changed_modules`: the modules, in the scan's order, whose hash is not the cached
one; with no cache file, every module. -/
def getChangedModules [DecidableEq H] (modules : PyDict (List Char) H) (cache : Option (PyDict (List Char) H)) :
    List (List Char) :=
  let prevHashes := cache.getD .empty
  modules.items.filterMap fun p => if prevHashes.get? p.1 ≠ some p.2 then some p.1 else none

/-- `save_module_cache`: the cache file then holds the scan's hashes. -/
def saveModuleCache (modules : PyDict (List Char) H) : Option (PyDict (List Char) H) :=
  some modules

theorem mem_getChangedModules [DecidableEq H] {modules : PyDict (List Char) H}
    {cache : Option (PyDict (List Char) H)} {n : List Char} :
    n ∈ getChangedModules modules cache ↔
      ∃ h, modules.get? n = some h ∧ (cache.getD .empty).get? n ≠ some h := by
  simp only [getChangedModules, List.mem_filterMap, PyDict.get?_eq_some_iff]
  constructor
  · rintro ⟨⟨k, h⟩, hm, hk⟩
    split at hk
    · cases hk; exact ⟨h, hm, ‹_›⟩
    · cases hk
  · rintro ⟨h, hm, hne⟩
    exact ⟨(n, h), hm, by simp [hne]⟩

theorem scanRtlModules_of_decodes {hash : List UInt8 → H} {vfiles svfiles : List RtlFile}
    (h : ∀ f ∈ vfiles ++ svfiles, decodesUtf8 f.content) :
    scanRtlModules hash vfiles svfiles =
      .ok (PyDict.empty.insertAll ((vfiles ++ svfiles).map fun f => (f.stem, hash f.content))) := by
  rw [scanRtlModules, if_pos (List.all_eq_true.mpr h)]

/-- What the scan keeps under a stem: the hash of the last file enumerated with it. -/
theorem get?_scanRtlModules {hash : List UInt8 → H} {vfiles svfiles : List RtlFile}
    {M : PyDict (List Char) H} (h : scanRtlModules hash vfiles svfiles = .ok M) (n : List Char) :
    M.get? n =
      (((vfiles ++ svfiles).filter fun f => f.stem = n).getLast?).map (hash ∘ RtlFile.content) := by
  unfold scanRtlModules at h
  split at h
  · cases h
    rw [PyDict.get?_insertAll, PyDict.get?_empty, Option.or_none, List.filter_map,
      List.getLast?_map, Option.map_map]
    rfl
  · cases h

end Scan

/-! ## Change detection -/

/-- The orders in which `rglob("*.v")` and `rglob("*.sv")` may enumerate the tree `T`. -/
def Enumerates (T vfiles svfiles : List RtlFile) : Prop :=
  vfiles.Perm (T.filter fun g => g.ext = "v".toList) ∧
    svfiles.Perm (T.filter fun g => g.ext = "sv".toList)

instance (T vfiles svfiles : List RtlFile) : Decidable (Enumerates T vfiles svfiles) :=
  inferInstanceAs (Decidable (_ ∧ _))

/-- `T'` is `T` with the tracked file `f` added, or with `f`'s path given new contents. -/
def IsEdit (T : List RtlFile) (f : RtlFile) (T' : List RtlFile) : Prop :=
  f.Tracked ∧ f ∉ T ∧ T'.Perm (f :: T.filter fun g => g.path ≠ f.path)

instance (T : List RtlFile) (f : RtlFile) (T' : List RtlFile) : Decidable (IsEdit T f T') :=
  inferInstanceAs (Decidable (_ ∧ _ ∧ _))

/-- No two tracked files of the tree share a stem. -/
def StemsDistinct (T : List RtlFile) : Prop :=
  ((T.filter RtlFile.Tracked).map RtlFile.stem).Nodup

instance : DecidablePred StemsDistinct := fun _ => inferInstanceAs (Decidable (List.Nodup _))

/-- The tracked files of the tree the scan keys under `n`. -/
def moduleFiles (T : List RtlFile) (n : List Char) : List RtlFile :=
  (T.filter RtlFile.Tracked).filter fun g => g.stem = n

theorem RtlFile.eq_of_path_content {f g : RtlFile} (hp : g.path = f.path)
    (hc : g.content = f.content) : g = f := by
  cases f; cases g; simp_all [RtlFile.path]

theorem filter_ext_append_perm (T : List RtlFile) :
    ((T.filter fun g => g.ext = "v".toList) ++ T.filter fun g => g.ext = "sv".toList).Perm
      (T.filter RtlFile.Tracked) := by
  induction T with
  | nil => simp
  | cons g T ih =>
    by_cases hv : g.ext = "v".toList
    · rw [List.filter_cons_of_pos (by simpa using hv), List.filter_cons_of_neg (by simp [hv]),
        List.filter_cons_of_pos (by simp [RtlFile.Tracked, hv])]
      exact ih.cons g
    · by_cases hs : g.ext = "sv".toList
      · rw [List.filter_cons_of_neg (by simpa using hv), List.filter_cons_of_pos (by simpa using hs),
          List.filter_cons_of_pos (by simp [RtlFile.Tracked, hs])]
        exact List.perm_middle.trans (ih.cons g)
      · rw [List.filter_cons_of_neg (by simpa using hv), List.filter_cons_of_neg (by simpa using hs),
          List.filter_cons_of_neg (by simpa [RtlFile.Tracked] using not_or.mpr ⟨hv, hs⟩)]
        exact ih

theorem Enumerates.perm {T vfiles svfiles : List RtlFile} (h : Enumerates T vfiles svfiles) :
    (vfiles ++ svfiles).Perm (T.filter RtlFile.Tracked) :=
  (h.1.append h.2).trans (filter_ext_append_perm T)

theorem moduleFiles_length_le {T : List RtlFile} (hT : StemsDistinct T) (n : List Char) :
    (moduleFiles T n).length ≤ 1 := by
  have hnd : ((moduleFiles T n).map RtlFile.stem).Nodup :=
    hT.sublist ((List.filter_sublist _).map _)
  have hrep : (moduleFiles T n).map RtlFile.stem = List.replicate (moduleFiles T n).length n :=
    List.eq_replicate_iff.mpr ⟨List.length_map _ _, fun _ hb => by
      obtain ⟨g, hg, rfl⟩ := List.mem_map.mp hb
      have hg : g ∈ (T.filter RtlFile.Tracked).filter fun g => g.stem = n := hg
      simpa using List.of_mem_filter hg⟩
  rw [hrep] at hnd
  exact List.nodup_replicate.mp hnd

theorem eq_of_perm_of_length_le_one {α : Type} {l₁ l₂ : List α} (hp : l₁.Perm l₂)
    (h : l₂.length ≤ 1) : l₁ = l₂ :=
  match l₂, h with
  | [], _ => List.perm_nil.mp hp
  | [_], _ => List.perm_singleton.mp hp

theorem eq_singleton_of_length_le_one {α : Type} {l : List α} {a : α} (h : l.length ≤ 1)
    (ha : a ∈ l) : l = [a] :=
  match l, h, ha with
  | [_], _, ha => by rw [List.mem_singleton.mp ha]

/-- With distinct stems, the scan keeps under `n` the hash of the tree's one tracked file
of stem `n`, whatever order `rglob` enumerates the files in. -/
theorem get?_scan_of_distinct {hash : List UInt8 → H} {T vfiles svfiles : List RtlFile}
    {M : PyDict (List Char) H} (hT : StemsDistinct T) (he : Enumerates T vfiles svfiles)
    (hM : scanRtlModules hash vfiles svfiles = .ok M) (n : List Char) :
    M.get? n = ((moduleFiles T n).getLast?).map (hash ∘ RtlFile.content) := by
  rw [get?_scanRtlModules hM,
    eq_of_perm_of_length_le_one (he.perm.filter _) (moduleFiles_length_le hT n), moduleFiles]

/-- An edit changes the tracked files of no other stem. -/
theorem IsEdit.moduleFiles_perm {T T' : List RtlFile} {f : RtlFile} (hedit : IsEdit T f T')
    {n : List Char} (hn : n ≠ f.stem) : (moduleFiles T' n).Perm (moduleFiles T n) := by
  refine ((hedit.2.2.filter _).filter _).trans (List.Perm.of_eq ?_)
  rw [List.filter_cons_of_pos (by simpa using hedit.1),
    List.filter_cons_of_neg (by simpa using hn.symm), moduleFiles, List.filter_filter,
    List.filter_filter, List.filter_filter]
  refine List.filter_congr fun g _ => ?_
  by_cases hg : g.stem = n
  · have : g.path ≠ f.path := fun h => hn (hg ▸ congrArg (fun p => p.2.1) h)
    simp [hg, this]
  · simp [hg]

/-- After the edit, the edited file is the one tracked file of its stem. -/
theorem IsEdit.moduleFiles_self {T T' : List RtlFile} {f : RtlFile} (hedit : IsEdit T f T')
    (hT' : StemsDistinct T') : moduleFiles T' f.stem = [f] :=
  eq_singleton_of_length_le_one (moduleFiles_length_le hT' f.stem)
    (by simpa [moduleFiles, hedit.2.2.mem_iff] using hedit.1)

/-- Before the edit, no tracked file of the edited file's stem has its contents. -/
theorem IsEdit.content_ne {T T' : List RtlFile} {f : RtlFile} (hedit : IsEdit T f T')
    (hT' : StemsDistinct T') {g : RtlFile} (hg : g ∈ moduleFiles T f.stem) :
    g.content ≠ f.content := by
  intro hc
  have hgT : g ∈ T := List.mem_of_mem_filter (List.mem_of_mem_filter hg)
  by_cases hp : g.path = f.path
  · exact hedit.2.1 (RtlFile.eq_of_path_content hp hc ▸ hgT)
  · have hgT' : g ∈ moduleFiles T' f.stem := by
      have : g ∈ T' :=
        hedit.2.2.mem_iff.mpr (List.mem_cons_of_mem _ (List.mem_filter.mpr ⟨hgT, by simpa using hp⟩))
      simp only [moduleFiles, List.mem_filter] at hg ⊢
      exact ⟨⟨this, hg.1.2⟩, hg.2⟩
    rw [hedit.moduleFiles_self hT', List.mem_singleton] at hgT'
    exact hp (congrArg RtlFile.path hgT')

section ChangeDetection
variable {H : Type} [DecidableEq H]

theorem mem_getChangedModules_congr {M M₂ : PyDict (List Char) H}
    {C : Option (PyDict (List Char) H)} {n : List Char} (h : M.get? n = M₂.get? n) :
    n ∈ getChangedModules M C ↔ n ∈ getChangedModules M₂ C := by
  simp only [mem_getChangedModules, h]

theorem change_detection_distinct_stems (hash : List UInt8 → H) (hinj : Function.Injective hash)
    {T T' : List RtlFile} {f : RtlFile} (hT : StemsDistinct T) (hT' : StemsDistinct T')
    (hedit : IsEdit T f T') {vfiles svfiles vfiles' svfiles' : List RtlFile}
    {M M' : PyDict (List Char) H} (he : Enumerates T vfiles svfiles)
    (he' : Enumerates T' vfiles' svfiles') (hM : scanRtlModules hash vfiles svfiles = .ok M)
    (hM' : scanRtlModules hash vfiles' svfiles' = .ok M') (C : Option (PyDict (List Char) H)) :
    (∀ n, n ≠ f.stem → (n ∈ getChangedModules M' C ↔ n ∈ getChangedModules M C)) ∧
      (C = saveModuleCache M → f.stem ∈ getChangedModules M' C) ∧
      ∀ vfiles₂ svfiles₂ M₂, Enumerates T vfiles₂ svfiles₂ →
        scanRtlModules hash vfiles₂ svfiles₂ = .ok M₂ →
        ∀ n, n ∈ getChangedModules M₂ C ↔ n ∈ getChangedModules M C := by
  refine ⟨fun n hn => mem_getChangedModules_congr ?_, fun hC => ?_,
    fun _ _ _ he₂ hM₂ n => mem_getChangedModules_congr ?_⟩
  case refine_1 =>
    rw [get?_scan_of_distinct hT' he' hM', get?_scan_of_distinct hT he hM,
      eq_of_perm_of_length_le_one (hedit.moduleFiles_perm hn) (moduleFiles_length_le hT n)]
  case refine_2 =>
    subst hC
    refine mem_getChangedModules.mpr ⟨hash f.content, ?_, fun hs => ?_⟩
    · rw [get?_scan_of_distinct hT' he' hM', hedit.moduleFiles_self hT']; rfl
    · rw [saveModuleCache, Option.getD_some, get?_scan_of_distinct hT he hM] at hs
      obtain ⟨g, hg, hh⟩ := Option.map_eq_some'.mp hs
      exact hedit.content_ne hT' (List.mem_of_getLast?_eq_some hg) (hinj hh)
  case refine_3 => rw [get?_scan_of_distinct hT he₂ hM₂, get?_scan_of_distinct hT he hM]

/-- `b/foo.v`, empty. -/
def fooB : RtlFile := ⟨["b".toList], "foo".toList, "v".toList, []⟩

/-- `a/bar.sv`, empty. -/
def barA : RtlFile := ⟨["a".toList], "bar".toList, "sv".toList, []⟩

theorem change_detection_distinct_stems_new_module :
    Function.Injective (id : List UInt8 → List UInt8) ∧ StemsDistinct [fooB] ∧
      StemsDistinct [barA, fooB] ∧ IsEdit [fooB] barA [barA, fooB] ∧
      Enumerates [fooB] [fooB] [] ∧ Enumerates [barA, fooB] [fooB] [barA] ∧
      scanRtlModules id [fooB] [] = .ok (PyDict.empty.insertAll [(fooB.stem, [])]) ∧
      scanRtlModules id [fooB] [barA] =
        .ok (PyDict.empty.insertAll [(fooB.stem, []), (barA.stem, [])]) ∧
      let M := PyDict.empty.insertAll [(fooB.stem, [])]
      let M' := PyDict.empty.insertAll [(fooB.stem, []), (barA.stem, [])]
      (∀ n, n ≠ barA.stem →
          (n ∈ getChangedModules M' (saveModuleCache M) ↔
            n ∈ getChangedModules M (saveModuleCache M))) ∧
        (saveModuleCache M = saveModuleCache M →
          barA.stem ∈ getChangedModules M' (saveModuleCache M)) ∧
        ∀ vfiles₂ svfiles₂ M₂, Enumerates [fooB] vfiles₂ svfiles₂ →
          scanRtlModules id vfiles₂ svfiles₂ = .ok M₂ →
          ∀ n, n ∈ getChangedModules M₂ (saveModuleCache M) ↔
            n ∈ getChangedModules M (saveModuleCache M) := by
  have hM : scanRtlModules id [fooB] [] = .ok (PyDict.empty.insertAll [(fooB.stem, [])]) :=
    scanRtlModules_of_decodes (by simp [fooB])
  have hM' : scanRtlModules id [fooB] [barA] =
      .ok (PyDict.empty.insertAll [(fooB.stem, []), (barA.stem, [])]) :=
    scanRtlModules_of_decodes (by simp [fooB, barA])
  have hT : StemsDistinct [fooB] := by decide
  have hT' : StemsDistinct [barA, fooB] := by decide
  have hedit : IsEdit [fooB] barA [barA, fooB] := by decide
  have he : Enumerates [fooB] [fooB] [] := by decide
  have he' : Enumerates [barA, fooB] [fooB] [barA] := by decide
  exact ⟨Function.injective_id, hT, hT', hedit, he, he', hM, hM',
    change_detection_distinct_stems id Function.injective_id hT hT' hedit he he' hM hM' _⟩

end ChangeDetection

/-- `a/foo.v`, empty: a second file of stem `foo`. -/
def fooA : RtlFile := ⟨["a".toList], "foo".toList, "v".toList, []⟩

/-- Adding `a/foo.v` beside `b/foo.v`, when `rglob` enumerates `a/foo.v` first: the scan
keeps `b/foo.v`'s hash, and the change is not reported against the cache the old tree's
scan wrote. -/
theorem shared_stem_counterexample :
    ¬ ∀ (hash : List UInt8 → List UInt8), Function.Injective hash →
      ∀ (T T' : List RtlFile) (f : RtlFile), (T.map RtlFile.path).Nodup → IsEdit T f T' →
      ∀ (vfiles svfiles vfiles' svfiles' : List RtlFile)
        (M M' : PyDict (List Char) (List UInt8)),
        Enumerates T vfiles svfiles → Enumerates T' vfiles' svfiles' →
        scanRtlModules hash vfiles svfiles = .ok M →
        scanRtlModules hash vfiles' svfiles' = .ok M' →
        ∀ C : Option (PyDict (List Char) (List UInt8)),
          (∀ n, n ≠ f.stem → (n ∈ getChangedModules M' C ↔ n ∈ getChangedModules M C)) ∧
          (C = saveModuleCache M → f.stem ∈ getChangedModules M' C) ∧
          ∀ vfiles₂ svfiles₂ M₂, Enumerates T vfiles₂ svfiles₂ →
            scanRtlModules hash vfiles₂ svfiles₂ = .ok M₂ →
            ∀ n, n ∈ getChangedModules M₂ C ↔ n ∈ getChangedModules M C := by
  intro h
  have hs := (h id Function.injective_id [fooB] [fooA, fooB] fooA (by decide) (by decide)
    [fooB] [] [fooA, fooB] [] _ _ (by decide) (by decide)
    (scanRtlModules_of_decodes (by simp [fooB]))
    (scanRtlModules_of_decodes (by simp [fooA, fooB])) _).2.1 rfl
  exact absurd hs (by decide)

/-! ## `smart_build` -/

/-- What one `smart_build` run meets: the files the scan enumerates when the run starts, and
what `quick_check` and the Vivado build answer.  Edits to the tree after the scan reach the
run only through these answers, which are arbitrary, exceptions included. -/
structure BuildRun where
  vfiles : List RtlFile
  svfiles : List RtlFile
  quickCheck : List Char → Except PyExc Bool
  build : List (List Char) → Except PyExc Bool

/-- The simulation loop of `smart_build`: `quick_check` each changed module in turn, and
return `False` at the first that fails. -/
def checkChanged (quickCheck : List Char → Except PyExc Bool) :
    List (List Char) → Except PyExc Bool
  | [] => .ok true
  | m :: ms => quickCheck m >>= fun ok => if ok then checkChanged quickCheck ms else .ok false

section SmartBuild
variable {H : Type} [DecidableEq H] (hash : List UInt8 → H)

/-- `RTLWorkflow.smart_build`, with what the cache file holds passed in and out: the run's
result, or the exception it raised, and the cache after it. -/
def smartBuild (r : BuildRun) (cache : Option (PyDict (List Char) H)) :
    Except PyExc Bool × Option (PyDict (List Char) H) :=
  match scanRtlModules hash r.vfiles r.svfiles with
  | .error e => (.error e, cache)
  | .ok modules =>
    let changed := getChangedModules modules cache
    if changed.length = 0 then (.ok true, cache)
    else match checkChanged r.quickCheck changed with
      | .error e => (.error e, cache)
      | .ok false => (.ok false, cache)
      | .ok true => match r.build changed with
        | .error e => (.error e, cache)
        | .ok success => (.ok success, if success then saveModuleCache modules else cache)

/-- Runs of `smart_build` one after another, each from the cache the one before left. -/
def smartBuildRuns : List BuildRun → Option (PyDict (List Char) H) → Option (PyDict (List Char) H)
  | [], cache => cache
  | r :: rs, cache => smartBuildRuns rs (smartBuild hash r cache).2

/-- The scan a run saves: the one it took at its start, when it found changed modules and
returned `True`, its build having succeeded. -/
def savedScan (r : BuildRun) (cache : Option (PyDict (List Char) H)) :
    Option (PyDict (List Char) H) :=
  match scanRtlModules hash r.vfiles r.svfiles, (smartBuild hash r cache).1 with
  | .ok M, .ok true => if getChangedModules M cache = [] then none else some M
  | _, _ => none

/-- The scans the runs save, in order. -/
def savedScans : List BuildRun → Option (PyDict (List Char) H) → List (PyDict (List Char) H)
  | [], _ => []
  | r :: rs, cache => (savedScan hash r cache).toList ++ savedScans rs (smartBuild hash r cache).2

/-- A run leaves the cache as it was, unless it saves its scan. -/
theorem smartBuild_snd (r : BuildRun) (cache : Option (PyDict (List Char) H)) :
    (smartBuild hash r cache).2 = (savedScan hash r cache).or cache := by
  unfold savedScan smartBuild
  rcases scanRtlModules hash r.vfiles r.svfiles with e | M
  · rfl
  · dsimp only
    by_cases hc : getChangedModules M cache = []
    · simp [hc]
    · rcases checkChanged r.quickCheck (getChangedModules M cache) with e | _ | _ <;> simp [hc]
      rcases r.build (getChangedModules M cache) with e | _ | _ <;> simp [hc, saveModuleCache]

theorem savedScan_eq_some {r : BuildRun} {cache : Option (PyDict (List Char) H)}
    {M : PyDict (List Char) H} (h : savedScan hash r cache = some M) :
    scanRtlModules hash r.vfiles r.svfiles = .ok M ∧ getChangedModules M cache ≠ [] ∧
      (smartBuild hash r cache).1 = .ok true := by
  unfold savedScan at h
  split at h
  · split at h
    · cases h
    · cases h; exact ⟨‹_›, ‹_›, ‹_›⟩
  · cases h

/-- After any sequence of runs, the cache holds the scan the last saving run took, or what
it held before. -/
theorem smartBuildRuns_eq (rs : List BuildRun) (cache : Option (PyDict (List Char) H)) :
    smartBuildRuns hash rs cache = (savedScans hash rs cache).getLast?.or cache := by
  induction rs generalizing cache with
  | nil => rfl
  | cons r rs ih =>
    rw [smartBuildRuns, savedScans, ih, smartBuild_snd, List.getLast?_append]
    cases (savedScans hash rs _).getLast? <;> cases savedScan hash r cache <;> rfl

theorem smart_build_cache (rs : List BuildRun) (C₀ : Option (PyDict (List Char) H)) :
    (∀ r cache, (smartBuild hash r cache).2 = cache ∨
        ∃ M, scanRtlModules hash r.vfiles r.svfiles = .ok M ∧ getChangedModules M cache ≠ [] ∧
          smartBuild hash r cache = (.ok true, saveModuleCache M)) ∧
      smartBuildRuns hash rs C₀ = (savedScans hash rs C₀).getLast?.or C₀ ∧
      ∀ S ∈ (savedScans hash rs C₀).getLast?, ∀ (r : BuildRun) M,
        scanRtlModules hash r.vfiles r.svfiles = .ok M → ∀ n h, M.get? n = some h →
          S.get? n ≠ some h → n ∈ getChangedModules M (smartBuildRuns hash rs C₀) := by
  refine ⟨fun r cache => ?_, smartBuildRuns_eq hash rs C₀, fun S hS r M _ n h hn hS' => ?_⟩
  · rcases hs : savedScan hash r cache with _ | M
    · exact .inl (by rw [smartBuild_snd, hs]; rfl)
    · obtain ⟨hM, hc, hr⟩ := savedScan_eq_some hash hs
      exact .inr ⟨M, hM, hc, Prod.ext hr (by rw [smartBuild_snd, hs]; rfl)⟩
  · rw [smartBuildRuns_eq, Option.mem_def.mp hS]
    exact mem_getChangedModules.mpr ⟨h, hn, hS'⟩

end SmartBuild

end FluxRipper
