import Mathlib.Data.List.Basic
import Mathlib.Data.List.Infix
import Mathlib.Data.List.DropRight
import Mathlib.Data.Nat.Digits

/-! # The Python built-ins the tools rely on

The development loop (`fluxripper_dev.py`) and the RTL tools (`rtl_tools.py`) are Python.
What they do with text and dictionaries is fixed by the language; the built-ins they call
are modelled here once, and every module uses these definitions.

A Python `str` is a `List Char`.  `strip` removes what `str.isspace` calls whitespace from
both ends; `startsWith`, `contains` (`a in s`) and `joinLines` (`'\n'.join`) are what their
names say; `hex08` is the format spec `08x`; `parseHex` is `int(s, 16)`, with its error
paths as `none`.  A `PyDict` is a dictionary as Python 3.7+ keeps it: keys in first
insertion order, an assignment to a present key updating it in place.
-/

namespace FluxRipper

/-! ## Strings -/

/-- `str.isspace` on one character: the characters Python counts as whitespace. -/
def isSpace (c : Char) : Bool :=
  let n := c.toNat
  (0x09 ≤ n && n ≤ 0x0D) || (0x1C ≤ n && n ≤ 0x20) || n == 0x85 || n == 0xA0 ||
    n == 0x1680 || (0x2000 ≤ n && n ≤ 0x200A) || n == 0x2028 || n == 0x2029 ||
    n == 0x202F || n == 0x205F || n == 0x3000

/-- `s.strip()`. -/
def strip (s : List Char) : List Char := (s.dropWhile isSpace).rdropWhile isSpace

/-- `s.startswith(p)`. -/
def startsWith (s p : List Char) : Bool := p.isPrefixOf s

/-- `sub in s`. -/
def contains (s sub : List Char) : Bool := decide (sub <:+: s)

/-- `'\n'.join(lines)`. -/
def joinLines (lines : List (List Char)) : List Char := ['\n'].intercalate lines

theorem strip_eq_self {s : List Char} (h : ∀ c ∈ s, isSpace c = false) : strip s = s := by
  have hd : s.dropWhile isSpace = s :=
    List.dropWhile_eq_self_iff.mpr fun hl => by simp [h _ (List.getElem_mem hl)]
  rw [strip, hd, List.rdropWhile_eq_self_iff]
  intro hl
  simp [h _ (List.getLast_mem hl)]

/-! ## Hexadecimal -/

/-- `format(n, '08x')`: the lowercase hexadecimal digits of `n`, zero-padded to eight. -/
def hex08 (n : Nat) : List Char :=
  let d := Nat.toDigits 16 n
  List.replicate (8 - d.length) '0' ++ d

/-- The value of one hexadecimal digit of either case: `0`-`9` are 48-57, `a`-`f` are
97-102 and `A`-`F` are 65-70. -/
def hexVal (c : Char) : Option Nat :=
  let n := c.toNat
  if 48 ≤ n ∧ n ≤ 57 then some (n - 48)
  else if 97 ≤ n ∧ n ≤ 102 then some (n - 87)
  else if 65 ≤ n ∧ n ≤ 70 then some (n - 55)
  else none

/-- The digits after the first: a digit, or one underscore and a digit. -/
def hexDigits (acc : Nat) : List Char → Option Nat
  | [] => some acc
  | '_' :: c :: rest => (hexVal c).bind fun v => hexDigits (16 * acc + v) rest
  | c :: rest => (hexVal c).bind fun v => hexDigits (16 * acc + v) rest

/-- A digit string: a digit first, then `hexDigits`. -/
def hexBody : List Char → Option Nat
  | [] => none
  | c :: rest => (hexVal c).bind fun v => hexDigits v rest

/-- After the sign: an optional `0x` / `0X` prefix, which one underscore may follow. -/
def hexMagnitude : List Char → Option Nat
  | '0' :: x :: rest =>
    if x = 'x' ∨ x = 'X' then
      hexBody (match rest with | '_' :: r => r | r => r)
    else hexBody ('0' :: x :: rest)
  | s => hexBody s

/-- `int(s, 16)`: surrounding whitespace, one optional sign, an optional `0x` prefix and
single underscores between digits are accepted; anything else raises `ValueError`,
which is `none`.  (Python also accepts non-ASCII decimal digits; they are not modelled.) -/
def parseHex (s : List Char) : Option Int :=
  match strip s with
  | '-' :: r => (hexMagnitude r).map fun n => -(n : Int)
  | '+' :: r => (hexMagnitude r).map fun n => (n : Int)
  | r => (hexMagnitude r).map fun n => (n : Int)

/-- The value a list of hexadecimal digits spells, most significant first. -/
def hexValue : List Char → Nat
  | [] => 0
  | c :: ds => (hexVal c).getD 0 * 16 ^ ds.length + hexValue ds

/-- A character `hexVal` reads. -/
def IsHexDigit (c : Char) : Prop := (hexVal c).isSome

instance : DecidablePred IsHexDigit := fun c => inferInstanceAs (Decidable ((hexVal c).isSome))

theorem hexVal_digitChar {n : Nat} (h : n < 16) : hexVal (Nat.digitChar n) = some n := by
  have : ∀ k : Fin 16, hexVal (Nat.digitChar k) = some k := by decide
  exact this ⟨n, h⟩

theorem hexValue_replicate_zero (k : Nat) (ds : List Char) :
    hexValue (List.replicate k '0' ++ ds) = hexValue ds := by
  induction k with
  | zero => rfl
  | succ k ih => simpa [List.replicate_succ, hexValue, hexVal] using ih

theorem hexVal_lt {c : Char} {v : Nat} (h : hexVal c = some v) : v < 16 := by
  simp only [hexVal] at h
  split_ifs at h <;> simp only [Option.some.injEq, reduceCtorEq] at h <;> omega

theorem hexValue_lt {ds : List Char} (h : ∀ c ∈ ds, IsHexDigit c) :
    hexValue ds < 16 ^ ds.length := by
  induction ds with
  | nil => simp [hexValue]
  | cons c ds ih =>
    obtain ⟨v, hv⟩ := Option.isSome_iff_exists.mp (h c (List.mem_cons_self _ _))
    have hv16 := hexVal_lt hv
    have ihl := ih fun x hx => h x (List.mem_cons_of_mem _ hx)
    simp only [hexValue, hv, Option.getD_some, List.length_cons, pow_succ]
    nlinarith

theorem hexDigit_code {c : Char} (h : IsHexDigit c) :
    (48 ≤ c.toNat ∧ c.toNat ≤ 57) ∨ (97 ≤ c.toNat ∧ c.toNat ≤ 102) ∨
      (65 ≤ c.toNat ∧ c.toNat ≤ 70) := by
  simp only [IsHexDigit, hexVal] at h
  split_ifs at h <;> simp_all

theorem isSpace_of_hexDigit {c : Char} (h : IsHexDigit c) : isSpace c = false := by
  have := hexDigit_code h
  simp only [isSpace, Bool.or_eq_false_iff, Bool.and_eq_false_iff, decide_eq_false_iff_not,
    beq_eq_false_iff_ne, ne_eq]
  omega

theorem ne_of_hexDigit {c d : Char} (h : IsHexDigit c) (hd : ¬IsHexDigit d) : c ≠ d := by
  rintro rfl; exact hd h

theorem hexDigits_of_digits {ds : List Char} (h : ∀ c ∈ ds, IsHexDigit c) (acc : Nat) :
    hexDigits acc ds = some (acc * 16 ^ ds.length + hexValue ds) := by
  induction ds generalizing acc with
  | nil => simp [hexDigits, hexValue]
  | cons c ds ih =>
    have hc := h c (List.mem_cons_self _ _)
    obtain ⟨v, hv⟩ := Option.isSome_iff_exists.mp hc
    have hne : c ≠ '_' := ne_of_hexDigit hc (by decide)
    rw [hexDigits.eq_3 _ _ _ (fun _ _ h => absurd h hne), hv, Option.some_bind,
      ih (fun x hx => h x (List.mem_cons_of_mem _ hx))]
    simp only [hexValue, hv, Option.getD_some, List.length_cons, pow_succ]
    ring_nf

theorem hexMagnitude_of_digits {ds : List Char} (h : ∀ c ∈ ds, IsHexDigit c) :
    hexMagnitude ds = hexBody ds := by
  unfold hexMagnitude
  split
  · rename_i x rest
    have hx : ¬(x = 'x' ∨ x = 'X') := by
      rintro (rfl | rfl)
      · exact absurd (h 'x' (by simp)) (by decide)
      · exact absurd (h 'X' (by simp)) (by decide)
    simp [hx]
  · rfl

/-- **`int(s, 16)` reads a string of hexadecimal digits as the value it spells.** -/
theorem parseHex_digits {ds : List Char} (h : ∀ c ∈ ds, IsHexDigit c) (hne : ds ≠ []) :
    parseHex ds = some (hexValue ds) := by
  obtain ⟨c, rest, rfl⟩ := List.exists_cons_of_ne_nil hne
  have hc := h c (List.mem_cons_self _ _)
  obtain ⟨v, hv⟩ := Option.isSome_iff_exists.mp hc
  have hbody : hexBody (c :: rest) = some (hexValue (c :: rest)) := by
    simp [hexBody, hv, hexDigits_of_digits (fun x hx => h x (List.mem_cons_of_mem _ hx)),
      hexValue]
  rw [parseHex, strip_eq_self (fun x hx => isSpace_of_hexDigit (h x hx))]
  split
  · rename_i r heq
    exact absurd (List.cons.inj heq).1 (ne_of_hexDigit hc (by decide))
  · rename_i r heq
    exact absurd (List.cons.inj heq).1 (ne_of_hexDigit hc (by decide))
  · simp [hexMagnitude_of_digits h, hbody]

/-- `toDigitsCore` puts the digits of `n` in front of `ds`. -/
theorem toDigitsCore_hex (f : Nat) : ∀ n (ds : List Char), n < 16 ^ f →
    hexValue (Nat.toDigitsCore 16 f n ds) = n * 16 ^ ds.length + hexValue ds ∧
      ((∀ c ∈ ds, IsHexDigit c) → ∀ c ∈ Nat.toDigitsCore 16 f n ds, IsHexDigit c) := by
  induction f with
  | zero => intro n ds h; simp at h; subst h; simp [Nat.toDigitsCore]
  | succ f ih =>
    intro n ds h
    have hd : IsHexDigit (Nat.digitChar (n % 16)) := by
      simp [IsHexDigit, hexVal_digitChar (Nat.mod_lt n (by norm_num))]
    have hv : (hexVal (Nat.digitChar (n % 16))).getD 0 = n % 16 := by
      simp [hexVal_digitChar (Nat.mod_lt n (by norm_num))]
    by_cases hn : n / 16 = 0
    · simp only [Nat.toDigitsCore, hn, if_true, hexValue, hv]
      refine ⟨by rw [Nat.mod_eq_of_lt (by omega)], fun hds c hc => ?_⟩
      rcases List.mem_cons.mp hc with rfl | hc
      · exact hd
      · exact hds c hc
    · simp only [Nat.toDigitsCore, hn, if_false]
      obtain ⟨h1, h2⟩ := ih (n / 16) (Nat.digitChar (n % 16) :: ds)
        (by rw [pow_succ] at h; omega)
      refine ⟨?_, fun hds => h2 fun c hc => ?_⟩
      · rw [h1, hexValue, hv, List.length_cons, pow_succ]
        conv_rhs => rw [← Nat.div_add_mod n 16]
        ring
      · rcases List.mem_cons.mp hc with rfl | hc
        · exact hd
        · exact hds c hc

/-- **`%08x` writes eight hexadecimal digits that spell the value**, for every 32-bit value. -/
theorem hex08_spec {n : Nat} (h : n < 2 ^ 32) :
    (hex08 n).length = 8 ∧ (∀ c ∈ hex08 n, IsHexDigit c) ∧ hexValue (hex08 n) = n := by
  have h16 : n < 16 ^ 8 := by norm_num at h ⊢; omega
  have hlen : (Nat.toDigits 16 n).length ≤ 8 :=
    Nat.toDigitsCore_length 16 (by norm_num) (n + 1) n 8 h16 (by norm_num)
  obtain ⟨hval, hdig⟩ := toDigitsCore_hex (n + 1) n [] (by
    calc n < 16 ^ n := Nat.lt_pow_self (by norm_num) n
      _ ≤ 16 ^ (n + 1) := Nat.pow_le_pow_right (by norm_num) (by omega))
  refine ⟨by simp [hex08]; omega, fun c hc => ?_, ?_⟩
  · rcases List.mem_append.mp hc with hc | hc
    · rw [List.eq_of_mem_replicate hc]; decide
    · exact hdig (by simp) c hc
  · simpa [hex08, hexValue_replicate_zero, hexValue] using hval

/-! ## Dictionaries -/

/-- A Python `dict`: its items in insertion order, with no key twice. -/
structure PyDict (K V : Type) where
  items : List (K × V)
  nodup : (items.map Prod.fst).Nodup

namespace PyDict
variable {K V : Type} [DecidableEq K]

/-- `{}`. -/
def empty : PyDict K V := ⟨[], List.nodup_nil⟩

/-- `d[k]`, `none` for a `KeyError`. -/
def get? (d : PyDict K V) (k : K) : Option V := (d.items.find? fun p => p.1 = k).map Prod.snd

@[simp] theorem get?_empty (k : K) : (empty : PyDict K V).get? k = none := rfl

/-- `d.values()`. -/
def values (d : PyDict K V) : List V := d.items.map Prod.snd

/-- The items after `d[k] = v`: updated in place if `k` is present, appended otherwise. -/
def setItems (items : List (K × V)) (k : K) (v : V) : List (K × V) :=
  if k ∈ items.map Prod.fst then items.map fun p => if p.1 = k then (k, v) else p
  else items ++ [(k, v)]

theorem setItems_keys (items : List (K × V)) (k : K) (v : V) :
    (setItems items k v).map Prod.fst =
      if k ∈ items.map Prod.fst then items.map Prod.fst else items.map Prod.fst ++ [k] := by
  unfold setItems
  split
  · simp only [List.map_map]
    congr 1
    funext p
    by_cases h : p.1 = k <;> simp [h]
  · simp

/-- `d[k] = v`. -/
def insert (d : PyDict K V) (k : K) (v : V) : PyDict K V where
  items := setItems d.items k v
  nodup := by
    rw [setItems_keys]
    split
    · exact d.nodup
    · exact d.nodup.append (List.nodup_singleton k) (List.disjoint_singleton.mpr ‹_›)

theorem find?_key_eq_none {items : List (K × V)} {k : K} :
    items.find? (fun p => p.1 = k) = none ↔ k ∉ items.map Prod.fst := by
  simp only [List.find?_eq_none, decide_eq_true_eq, List.mem_map, not_exists, not_and]

theorem get?_eq_some_iff {d : PyDict K V} {k : K} {v : V} :
    d.get? k = some v ↔ (k, v) ∈ d.items := by
  constructor
  · intro h
    obtain ⟨q, hq, rfl⟩ := Option.map_eq_some'.mp h
    have hk : q.1 = k := by simpa using List.find?_some hq
    exact hk ▸ List.mem_of_find?_eq_some hq
  · intro h
    cases hf : d.items.find? (fun p => p.1 = k) with
    | none => exact absurd (List.mem_map_of_mem Prod.fst h) (find?_key_eq_none.mp hf)
    | some q =>
      have hk : q.1 = k := by simpa using List.find?_some hf
      have := List.inj_on_of_nodup_map d.nodup (List.mem_of_find?_eq_some hf) h hk
      simp [get?, hf, this]

/-- `d[k] = v` holds `v` under `k` and leaves every other key's entry alone. -/
theorem mem_setItems {items : List (K × V)} {k k' : K} {v v' : V} :
    (k', v') ∈ setItems items k v ↔ k' = k ∧ v' = v ∨ k' ≠ k ∧ (k', v') ∈ items := by
  unfold setItems
  split
  · rename_i hk
    obtain ⟨⟨k₀, w⟩, hw, hk₀⟩ := List.mem_map.mp hk
    simp only [List.mem_map]
    constructor
    · rintro ⟨p, hp, he⟩
      by_cases hpk : p.1 = k
      · simp only [hpk, if_true, Prod.mk.injEq] at he
        exact .inl ⟨he.1.symm, he.2.symm⟩
      · simp only [hpk, if_false] at he
        subst he
        exact .inr ⟨hpk, hp⟩
    · rintro (⟨rfl, rfl⟩ | ⟨hne, hm⟩)
      · exact ⟨_, hw, by simp [← hk₀]⟩
      · exact ⟨_, hm, by simp [hne]⟩
  · rename_i hk
    simp only [List.mem_append, List.mem_singleton, Prod.mk.injEq]
    by_cases hk' : k' = k
    · subst hk'
      have : (k', v') ∉ items := fun h => hk (List.mem_map_of_mem Prod.fst h)
      simp [this]
    · simp [hk']

theorem get?_insert (d : PyDict K V) (k k' : K) (v : V) :
    (d.insert k v).get? k' = if k' = k then some v else d.get? k' := by
  ext v'
  rw [Option.mem_def, get?_eq_some_iff]
  show (k', v') ∈ setItems d.items k v ↔ _
  rw [mem_setItems]
  by_cases hk : k' = k
  · simp [hk, eq_comm]
  · simp [hk, get?_eq_some_iff]

theorem mem_values {d : PyDict K V} {v : V} : v ∈ d.values ↔ ∃ k, d.get? k = some v := by
  simp only [get?_eq_some_iff, values, List.mem_map]
  exact ⟨fun ⟨⟨k, w⟩, h, hw⟩ => ⟨k, hw ▸ h⟩, fun ⟨k, h⟩ => ⟨(k, v), h, rfl⟩⟩

/-- The dictionary after the assignments `records`, in order. -/
def insertAll (d : PyDict K V) (records : List (K × V)) : PyDict K V :=
  records.foldl (fun d p => d.insert p.1 p.2) d

/-- **A later assignment overwrites an earlier one**: after the assignments `records`, a key
holds the value of its last assignment, or the value it held before. -/
theorem get?_insertAll (d : PyDict K V) (records : List (K × V)) (k : K) :
    (d.insertAll records).get? k =
      (((records.filter fun p => p.1 = k).getLast?).map Prod.snd).or (d.get? k) := by
  induction records using List.reverseRecOn generalizing d with
  | nil => simp [insertAll]
  | append_singleton records p ih =>
    simp only [insertAll, List.foldl_append, List.foldl_cons, List.foldl_nil] at ih ⊢
    rw [get?_insert, ih, List.filter_append]
    by_cases hk : k = p.1
    · subst hk; simp
    · simp [Ne.symm hk, hk]

/-- Assignments to distinct keys, from `{}`, are the dictionary's items, in order. -/
theorem insertAll_empty_items {records : List (K × V)} (h : (records.map Prod.fst).Nodup) :
    (empty.insertAll records).items = records := by
  induction records using List.reverseRecOn with
  | nil => rfl
  | append_singleton records p ih =>
    simp only [List.map_append, List.map_singleton, List.nodup_append] at h
    simp only [insertAll, List.foldl_append, List.foldl_cons, List.foldl_nil] at ih ⊢
    show setItems _ p.1 p.2 = _
    rw [ih h.1, setItems, if_neg fun hm => h.2.2 hm (List.mem_singleton_self _)]

end PyDict

end FluxRipper
