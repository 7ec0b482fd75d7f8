import FluxRipper.Bios.RomSum
import Mathlib.Data.List.DropRight
import Mathlib.Data.Nat.Bitwise

/-! # What the ROM tools report about an image

Two tools describe an option ROM image: `romsum.py --info` of the FDD BIOS (`show_info`)
and `rominfo.py` of the HDD BIOS (`dump_rom_info`).  Both print the image's size, checksum,
signature and declared size, the entry point the jump at offset 3 leads to, and where a
`$PnP` expansion header starts; the FDD tool adds the size of the code before the `0xFF`
padding, the HDD tool the header's fields and the identifying strings it finds.  Each
report is modelled as the record of what is printed, and each tool's `main` by its exit
status and what it writes.

**`pnp_device_id_decodes`**: the HDD tool cuts the PnP header's device id into the fields
the Plug and Play specification packs into it, so an EISA id packed there prints as its
three vendor letters, product number and revision.

The two tools decode the jump differently: the FDD tool tests the sign bit of the offset
with `&`, the HDD tool reads it with `struct.unpack` as a two's-complement integer.
**`rom_reports_agree`**: on every image of three bytes or more the two reports agree on
the size, checksum, signature, declared size and entry jump, the HDD tool reporting an
immediate entry exactly where the FDD tool prints none; the HDD tool scans for the PnP
header only at multiples of 16 below `len - 4`, so the FDD tool finds one at or before any
the HDD tool finds, and the same one when its own is so placed.

**`code_size_spec`**: the loop of `show_info` counts the bytes of the image but its last
(the checksum byte) up to the last one that is not `0xFF`; on an empty image the report
divides by zero.  **`romsum_fix_then_check`**: `romsum.py` fixes every non-empty image it
can write and exits `0`, its verification failure is unreachable, and `romsum.py --check`
then accepts what it wrote.
-/

namespace FluxRipper

/-- The entry point a tool prints from the instruction at offset 3 of an image. -/
inductive Entry
  | shortJmp (target : Int)
  | nearJmp (target : Int)
  | immediate
  deriving DecidableEq, Repr

/-- An exception that ends a run of the FDD tool. -/
inductive Crash
  | indexError
  | zeroDivisionError
  deriving DecidableEq, Repr

/-- `b'$PnP'`, the signature of a Plug and Play expansion header. -/
def pnpSignature : List UInt8 := [0x24, 0x50, 0x6E, 0x50]

/-- `data[i:i+4] == b'$PnP'`. -/
def pnpAt (data : List UInt8) (i : Nat) : Bool := (data.drop i).take 4 == pnpSignature

namespace Fdd

/-- `verify_signature(data)`: three bytes or more, the first two `55 AA`. -/
def verifySignature : List UInt8 → Bool
  | b0 :: b1 :: _ :: _ => b0 == 0x55 && b1 == 0xAA
  | _ => false

/-- `get_rom_size(data)`: the size byte at offset 2 in 512-byte blocks; `0` for an image of
fewer than three bytes. -/
def getRomSize : List UInt8 → Nat
  | _ :: _ :: b2 :: _ => b2.toNat * 512
  | _ => 0

/-- The entry point `show_info` prints, from an image of six bytes or more: a near jump's
16-bit offset is negative when `offset & 0x8000`, a short jump's 8-bit one when
`offset & 0x80`; nothing for another opcode. -/
def entryPoint : List UInt8 → Option Entry
  | _ :: _ :: _ :: op :: b4 :: b5 :: _ =>
    if op = 0xE9 then
      let offset := b4.toNat ||| (b5.toNat <<< 8)
      some (.nearJmp (if offset &&& 0x8000 ≠ 0 then 6 - (0x10000 - offset : Int) else 6 + offset))
    else if op = 0xEB then
      let offset : Int := if b4.toNat &&& 0x80 ≠ 0 then b4.toNat - 256 else b4.toNat
      some (.shortJmp (5 + offset))
    else none
  | _ => none

/-- The PnP header `show_info` finds: the first offset below `min(len(data), 256)`. -/
def pnpOffset (data : List UInt8) : Option Nat :=
  (List.range (min data.length 256)).find? (pnpAt data)

/-- The `while` loop of `show_info`: from `code_end`, step back while the byte before it is
`0xFF`. -/
def codeEnd (data : List UInt8) : Nat → Nat
  | 0 => 0
  | n + 1 => if data[n]? = some 0xFF then codeEnd data n else n + 1

/-- What `show_info` prints, but for the file name and the utilization percentage. -/
structure Info where
  size : Nat
  signature : Bool
  declared : Option Nat
  checksum : Nat
  entry : Option Entry
  pnp : Option Nat
  codeSize : Nat
  deriving DecidableEq, Repr

/-- `show_info(filename, data)`.  The loop starts from `len(data) - 1`; on an empty image
`code_size / len(data)` raises `ZeroDivisionError` once the rest is printed. -/
def showInfo (data : List UInt8) : Except Crash Info :=
  if data = [] then .error .zeroDivisionError
  else .ok
    { size := data.length, signature := verifySignature data,
      declared := if verifySignature data then some (getRomSize data) else none,
      checksum := calculateChecksum data, entry := entryPoint data, pnp := pnpOffset data,
      codeSize := codeEnd data (data.length - 1) }

/-- `main()` of the FDD tool after its arguments are parsed: `info` and `check` are its
flags, `file` the image `read_rom` returned (`none` when it raised `IOError`), and `writes`
whether `write_rom` succeeds.  The result is the exit status and the image written, or the
exception that ended the run; the warning on a bad signature changes neither. -/
def main (info check : Bool) (file : Option (List UInt8)) (writes : Bool) :
    Except Crash (Nat × Option (List UInt8)) :=
  match file with
  | none => .ok (1, none)
  | some data =>
    if info then (showInfo data).map fun _ => (0, none)
    else if check then .ok (if calculateChecksum data = 0 then 0 else 1, none)
    else match fixChecksum data with
      | none => .error .indexError
      | some (data', _) =>
        if writes then .ok (if calculateChecksum data' ≠ 0 then 1 else 0, some data')
        else .ok (1, none)

end Fdd

namespace Hdd

/-- `struct.unpack('<b', ...)`: a byte as a two's-complement integer. -/
def signed8 (b : UInt8) : Int := if b.toNat < 0x80 then b.toNat else b.toNat - 0x100

/-- `struct.unpack('<h', ...)`: two little-endian bytes as a two's-complement integer. -/
def signed16 (lo hi : UInt8) : Int :=
  let u := lo.toNat + 0x100 * hi.toNat
  if u < 0x8000 then u else u - 0x10000

/-- The entry point `dump_rom_info` prints, from an image of six bytes or more (its second
test of the length always holds): a short jump, a near jump, or else an immediate entry. -/
def entryPoint : List UInt8 → Option Entry
  | _ :: _ :: _ :: op :: b4 :: b5 :: _ =>
    if op = 0xEB then some (.shortJmp (3 + 2 + signed8 b4))
    else if op = 0xE9 then some (.nearJmp (3 + 3 + signed16 b4 b5))
    else some .immediate
  | _ => none

/-- The PnP header `dump_rom_info` finds: the first of `range(0, min(len(data) - 4, 256), 16)`,
the multiples of 16 below that bound. -/
def pnpOffset (data : List UInt8) : Option Nat :=
  ((List.range (min (data.length - 4) 256)).filter (· % 16 = 0)).find? (pnpAt data)

/-- `struct.unpack('>I', ...)` and the like: bytes as a big-endian number. -/
def unpackBE (bytes : List UInt8) : Nat := bytes.foldl (fun acc b => acc * 0x100 + b.toNat) 0

/-- `struct.unpack('<H', ...)`: bytes as a little-endian number. -/
def unpackLE (bytes : List UInt8) : Nat := bytes.foldr (fun b acc => b.toNat + 0x100 * acc) 0

/-- `read_string(data, offset, max_len)`: the printable ASCII bytes from `offset`, up to a
`0` or another byte outside `0x20`–`0x7E`, `max_len` bytes or the end of the image. -/
def readString (data : List UInt8) (offset maxLen : Nat) : List Char :=
  (((data.drop offset).take maxLen).takeWhile fun b => 0x20 ≤ b.toNat ∧ b.toNat ≤ 0x7E).map
    fun b => Char.ofNat b.toNat

/-- The fields `dump_rom_info` prints from a PnP header. -/
structure PnpInfo where
  version : Nat
  headerLen : Nat
  vendor : List Char
  product : Nat
  rev : Nat
  mfg : Option (List Char)
  prod : Option (List Char)
  deriving DecidableEq, Repr

/-- The header at `pnpOffset`, read when the image holds 26 bytes from there: the device id
is big-endian, its vendor three 5-bit letters; the manufacturer and product strings are
read from the little-endian offsets at 16 and 18 when these are not `0`. -/
def pnpInfo (data : List UInt8) (pnpOffset : Nat) : Option PnpInfo :=
  if data.length < pnpOffset + 26 then none
  else
    let pnp := (data.drop pnpOffset).take 32
    let deviceId := unpackBE ((pnp.drop 8).take 4)
    let letter (shift : Nat) : Char := Char.ofNat (((deviceId >>> shift) &&& 0x1F) + 0x40)
    let mfgStr := unpackLE ((pnp.drop 16).take 2)
    let prodStr := unpackLE ((pnp.drop 18).take 2)
    some
      { version := (pnp.getD 4 0).toNat, headerLen := (pnp.getD 5 0).toNat,
        vendor := [letter 26, letter 21, letter 16],
        product := (deviceId >>> 4) &&& 0xFFF, rev := deviceId &&& 0xF,
        mfg := if mfgStr ≠ 0 then some (readString data mfgStr 32) else none,
        prod := if prodStr ≠ 0 then some (readString data prodStr 32) else none }

/-- A string's bytes, for the ASCII patterns of `dump_rom_info`. -/
def ascii (s : String) : List UInt8 := s.toList.map fun c => UInt8.ofNat c.toNat

/-- The identifying strings `dump_rom_info` looks for. -/
def patterns : List (List UInt8) :=
  [ascii "FluxRipper", ascii "WD100", ascii "ST-506", ascii "ESDI", ascii "Copyright"]

/-- `data.find(pattern)`: the first offset where `pattern` occurs. -/
def find (data pattern : List UInt8) : Option Nat :=
  (List.range (data.length + 1)).find? fun i => (data.drop i).take pattern.length == pattern

/-- What `dump_rom_info` prints, but for the file name. -/
structure Report where
  size : Nat
  checksum : Nat
  signature : Nat
  sizeBlocks : Nat
  entry : Option Entry
  pnp : Option (Nat × Option PnpInfo)
  strings : List (Nat × List Char)
  deriving DecidableEq, Repr

/-- Why `dump_rom_info` returns `False`. -/
inductive DumpError
  | fileNotFound
  | tooSmall (length : Nat)
  deriving DecidableEq, Repr

/-- `dump_rom_info(rom_path)`, over the file's bytes (`none` when it does not exist). -/
def dumpRomInfo : Option (List UInt8) → Except DumpError Report
  | none => .error .fileNotFound
  | some data =>
    if data.length < 3 then .error (.tooSmall data.length)
    else .ok
      { size := data.length, checksum := calculateChecksum data,
        signature := (data.getD 0 0).toNat <<< 8 ||| (data.getD 1 0).toNat,
        sizeBlocks := (data.getD 2 0).toNat, entry := entryPoint data,
        pnp := (pnpOffset data).map fun i => (i, pnpInfo data i),
        strings := patterns.filterMap fun pattern =>
          (find data pattern).map fun idx => (idx, (readString data idx 64).take 60) }

end Hdd

/-! ### The entry jump -/

theorem or_shiftLeft_eight {lo : Nat} (hlo : lo < 2 ^ 8) (hi : Nat) :
    lo ||| (hi <<< 8) = 2 ^ 8 * hi + lo := by
  apply Nat.eq_of_testBit_eq
  intro j
  rw [Nat.testBit_or, Nat.testBit_shiftLeft, Nat.testBit_mul_pow_two_add _ hlo]
  by_cases hj : j < 8
  · simp [hj]
  · have hbit : lo.testBit j = false :=
      Nat.testBit_lt_two_pow (lt_of_lt_of_le hlo (Nat.pow_le_pow_right (by decide) (by omega)))
    simp [hj, hbit, Nat.not_lt.mp hj]

/-- The sign bit of a `k + 1`-bit number is set exactly when the number is `2 ^ k` or more. -/
theorem and_two_pow_ne_zero {x k : Nat} (hx : x < 2 ^ (k + 1)) : x &&& 2 ^ k ≠ 0 ↔ 2 ^ k ≤ x := by
  have hpos : 0 < 2 ^ k := Nat.two_pow_pos k
  have hlt : x / 2 ^ k < 2 := Nat.div_lt_of_lt_mul (by rwa [pow_succ] at hx)
  have hle : 2 ^ k ≤ x ↔ 1 ≤ x / 2 ^ k := by rw [Nat.le_div_iff_mul_le hpos, one_mul]
  rw [Nat.and_two_pow, Nat.testBit_to_div_mod, hle]
  have hq : x / 2 ^ k = 0 ∨ x / 2 ^ k = 1 := by generalize x / 2 ^ k = q at hlt; omega
  rcases hq with h | h <;> simp [h, hpos.ne']

theorem toNat_lt_two_pow_eight (b : UInt8) : b.toNat < 2 ^ 8 := b.toNat_lt_size

/-- The FDD tool's short-jump offset is `struct.unpack('<b')` of its byte. -/
theorem fdd_short_offset (b : UInt8) :
    (if b.toNat &&& 0x80 ≠ 0 then (b.toNat : Int) - 256 else b.toNat) = Hdd.signed8 b := by
  have h := and_two_pow_ne_zero (k := 7) (toNat_lt_two_pow_eight b)
  simp only [Nat.reducePow] at h
  rw [Hdd.signed8]
  by_cases hb : 128 ≤ b.toNat
  · rw [if_pos (h.mpr hb), if_neg (by omega)]
  · rw [if_neg (mt h.mp hb), if_pos (by omega)]

/-- The FDD tool's near-jump target is `6` past `struct.unpack('<h')` of its two bytes. -/
theorem fdd_near_target (lo hi : UInt8) :
    (if (lo.toNat ||| (hi.toNat <<< 8)) &&& 0x8000 ≠ 0 then
        6 - (0x10000 - (lo.toNat ||| (hi.toNat <<< 8) : Nat) : Int)
      else 6 + (lo.toNat ||| (hi.toNat <<< 8) : Nat)) = 3 + 3 + Hdd.signed16 lo hi := by
  have hhi := toNat_lt_two_pow_eight hi
  rw [or_shiftLeft_eight (toNat_lt_two_pow_eight lo)]
  have h := and_two_pow_ne_zero (k := 15) (x := 2 ^ 8 * hi.toNat + lo.toNat)
    (by have := toNat_lt_two_pow_eight lo; simp only [Nat.reducePow] at *; omega)
  simp only [Nat.reducePow] at h hhi ⊢
  rw [Hdd.signed16]
  by_cases hu : 32768 ≤ 256 * hi.toNat + lo.toNat
  · rw [if_pos (h.mpr hu), if_neg (by omega)]; push_cast; ring
  · rw [if_neg (mt h.mp hu), if_pos (by omega)]; push_cast; ring

/-- **The two tools decode the entry jump alike.**  On an image of six bytes or more the
HDD tool prints the jump target the FDD tool prints, and an immediate entry where the FDD
tool prints none; on a shorter image neither prints an entry point. -/
theorem entryPoint_agree (data : List UInt8) :
    Hdd.entryPoint data =
      if 6 ≤ data.length then some ((Fdd.entryPoint data).getD .immediate) else none := by
  match data with
  | [] | [_] | [_, _] | [_, _, _] | [_, _, _, _] | [_, _, _, _, _] => rfl
  | _ :: _ :: _ :: op :: b4 :: b5 :: rest =>
    rw [if_pos (by simp only [List.length_cons]; omega), Hdd.entryPoint, Fdd.entryPoint]
    by_cases hnear : op = 0xE9
    · rw [if_neg (by rw [hnear]; decide), if_pos hnear, if_pos hnear, ← fdd_near_target]
      rfl
    · by_cases hshort : op = 0xEB
      · rw [if_pos hshort, if_neg hnear, if_pos hshort, ← fdd_short_offset]
        rfl
      · rw [if_neg hshort, if_neg hnear, if_neg hnear, if_neg hshort]
        rfl

/-- A near jump back to offset 3: `E9 FD FF`, whose offset is `-3`. -/
example : Fdd.entryPoint [0x55, 0xAA, 0x01, 0xE9, 0xFD, 0xFF] = some (.nearJmp 3) ∧
    Hdd.entryPoint [0x55, 0xAA, 0x01, 0xE9, 0xFD, 0xFF] = some (.nearJmp 3) := by decide

/-! ### The PnP header scans -/

/-- Whatever header the HDD tool finds, the FDD tool finds one at or before it. -/
theorem Fdd.pnpOffset_le_of_hdd {data : List UInt8} {i : Nat} (h : Hdd.pnpOffset data = some i) :
    ∃ j ≤ i, Fdd.pnpOffset data = some j := by
  simp only [Hdd.pnpOffset, List.find?_filter, List.find?_range_eq_some, List.mem_range,
    Bool.and_eq_true, decide_eq_true_eq] at h
  obtain ⟨⟨-, hat⟩, hi, -⟩ := h
  cases hf : Fdd.pnpOffset data with
  | none =>
    simp only [Fdd.pnpOffset, List.find?_range_eq_none] at hf
    simpa [hat] using hf i (by omega)
  | some j =>
    simp only [Fdd.pnpOffset, List.find?_range_eq_some] at hf
    refine ⟨j, Nat.not_lt.mp fun hij => ?_, rfl⟩
    simpa [hat] using hf.2.2 i hij

/-- A header the FDD tool finds at a multiple of 16 below `len - 4` is the one the HDD tool
finds. -/
theorem Hdd.pnpOffset_of_fdd {data : List UInt8} {j : Nat} (h : Fdd.pnpOffset data = some j)
    (halign : j % 16 = 0) (hend : j + 4 < data.length) : Hdd.pnpOffset data = some j := by
  simp only [Fdd.pnpOffset, List.find?_range_eq_some, List.mem_range] at h
  obtain ⟨hat, hj, hfirst⟩ := h
  simp only [Hdd.pnpOffset, List.find?_filter, List.find?_range_eq_some, List.mem_range,
    Bool.and_eq_true, decide_eq_true_eq]
  refine ⟨⟨halign, hat⟩, by omega, fun k hk => ?_⟩
  simp [show pnpAt data k = false by simpa using hfirst k hk]

/-- **The two reports agree.**  On every image of three bytes or more, `dump_rom_info` and
`show_info` both print a report; they print the same size and checksum, the HDD tool's
signature word is `0x55AA` exactly when the FDD tool finds the signature valid, and then
the FDD tool's declared size is the HDD tool's count of 512-byte blocks; the entry jumps
agree, the HDD tool printing an immediate entry on an image of six bytes or more where the
FDD tool prints none; the FDD tool finds a PnP header at or before any the HDD tool finds,
and the same one when its own lies at a multiple of 16 below `len - 4`. -/
theorem rom_reports_agree (data : List UInt8) (h : 3 ≤ data.length) :
    ∃ r i, Hdd.dumpRomInfo (some data) = .ok r ∧ Fdd.showInfo data = .ok i ∧
      r.size = i.size ∧ r.checksum = i.checksum ∧ (r.signature = 0x55AA ↔ i.signature) ∧
      i.declared = (if i.signature then some (r.sizeBlocks * 512) else none) ∧
      r.entry = (if 6 ≤ data.length then some (i.entry.getD .immediate) else none) ∧
      (∀ k, r.pnp.map Prod.fst = some k → ∃ j ≤ k, i.pnp = some j) ∧
      (∀ j, i.pnp = some j → j % 16 = 0 → j + 4 < data.length → r.pnp.map Prod.fst = some j) := by
  obtain ⟨b0, b1, b2, rest, rfl⟩ : ∃ b0 b1 b2 rest, data = b0 :: b1 :: b2 :: rest :=
    match data, h with
    | b0 :: b1 :: b2 :: rest, _ => ⟨b0, b1, b2, rest, rfl⟩
  have hsig : (b0.toNat <<< 8 ||| b1.toNat = 0x55AA) ↔ (b0 == 0x55 && b1 == 0xAA) = true := by
    have h1 := toNat_lt_two_pow_eight b1
    rw [Nat.lor_comm, or_shiftLeft_eight h1, Bool.and_eq_true, beq_iff_eq, beq_iff_eq]
    simp only [Nat.reducePow] at h1 ⊢
    constructor
    · intro h
      exact ⟨UInt8.toNat.inj (show b0.toNat = 0x55 by omega),
        UInt8.toNat.inj (show b1.toNat = 0xAA by omega)⟩
    · rintro ⟨rfl, rfl⟩; rfl
  refine ⟨_, _, rfl, rfl, rfl, rfl, hsig, ?_, entryPoint_agree _, ?_, ?_⟩
  · simp only [Fdd.getRomSize]; rfl
  · intro k hk
    simp only [Option.map_map, Function.comp_def, Option.map_id'] at hk
    exact Fdd.pnpOffset_le_of_hdd hk
  · intro j hj halign hend
    simp only [Option.map_map, Function.comp_def, Option.map_id']
    exact Hdd.pnpOffset_of_fdd hj halign hend

theorem rom_reports_agree_near_jump :
    3 ≤ ([0x55, 0xAA, 0x01, 0xE9, 0xFD, 0xFF] : List UInt8).length ∧
      ∃ r i, Hdd.dumpRomInfo (some [0x55, 0xAA, 0x01, 0xE9, 0xFD, 0xFF]) = .ok r ∧
        Fdd.showInfo [0x55, 0xAA, 0x01, 0xE9, 0xFD, 0xFF] = .ok i ∧
        r.size = i.size ∧ r.checksum = i.checksum ∧ (r.signature = 0x55AA ↔ i.signature) ∧
        i.declared = (if i.signature then some (r.sizeBlocks * 512) else none) ∧
        r.entry = (if 6 ≤ ([0x55, 0xAA, 0x01, 0xE9, 0xFD, 0xFF] : List UInt8).length then
          some (i.entry.getD .immediate) else none) ∧
        (∀ k, r.pnp.map Prod.fst = some k → ∃ j ≤ k, i.pnp = some j) ∧
        (∀ j, i.pnp = some j → j % 16 = 0 →
          j + 4 < ([0x55, 0xAA, 0x01, 0xE9, 0xFD, 0xFF] : List UInt8).length →
          r.pnp.map Prod.fst = some j) :=
  ⟨by decide, rom_reports_agree _ (by decide)⟩

/-! ### The PnP device id -/

/-- A PnP header's device id as the Plug and Play BIOS specification packs an EISA id: three
letters `@`–`_` as five-bit codes from `0x40`, a 12-bit product number and a 4-bit revision,
bit 31 clear. -/
def eisaId (v₁ v₂ v₃ product rev : Nat) : Nat :=
  v₁ * 2 ^ 26 + v₂ * 2 ^ 21 + v₃ * 2 ^ 16 + product * 2 ^ 4 + rev

/-- The four bytes of a 32-bit number, most significant first: `struct.pack('>I', n)`. -/
def packBE32 (n : Nat) : List UInt8 :=
  [UInt8.ofNat (n / 2 ^ 24), UInt8.ofNat (n / 2 ^ 16), UInt8.ofNat (n / 2 ^ 8), UInt8.ofNat n]

theorem toNat_uint8_ofNat (x : Nat) : (UInt8.ofNat x).toNat = x % 256 := BitVec.toNat_ofNat x 8

theorem unpackBE_packBE32 {n : Nat} (h : n < 2 ^ 32) : Hdd.unpackBE (packBE32 n) = n := by
  simp only [packBE32, Hdd.unpackBE, List.foldl, toNat_uint8_ofNat, Nat.reducePow] at h ⊢
  omega

/-- The fields `dump_rom_info` cuts out of the device id are those the id packs. -/
theorem eisaId_fields {v₁ v₂ v₃ product rev : Nat} (hv : v₁ < 32 ∧ v₂ < 32 ∧ v₃ < 32)
    (hp : product < 2 ^ 12) (hr : rev < 16) :
    (eisaId v₁ v₂ v₃ product rev >>> 26) &&& 0x1F = v₁ ∧
      (eisaId v₁ v₂ v₃ product rev >>> 21) &&& 0x1F = v₂ ∧
      (eisaId v₁ v₂ v₃ product rev >>> 16) &&& 0x1F = v₃ ∧
      (eisaId v₁ v₂ v₃ product rev >>> 4) &&& 0xFFF = product ∧
      eisaId v₁ v₂ v₃ product rev &&& 0xF = rev ∧ eisaId v₁ v₂ v₃ product rev < 2 ^ 32 := by
  rw [show (0x1F : Nat) = 2 ^ 5 - 1 from rfl, show (0xFFF : Nat) = 2 ^ 12 - 1 from rfl,
    show (0xF : Nat) = 2 ^ 4 - 1 from rfl]
  simp only [Nat.and_pow_two_sub_one_eq_mod, Nat.shiftRight_eq_div_pow]
  simp only [eisaId, Nat.reducePow] at hp ⊢
  omega

theorem pnpInfo_eisaId {data : List UInt8} {i : Nat} (hlen : i + 26 ≤ data.length)
    {v₁ v₂ v₃ product rev : Nat} (hv : v₁ < 32 ∧ v₂ < 32 ∧ v₃ < 32) (hp : product < 2 ^ 12)
    (hr : rev < 16) (hid : (data.drop (i + 8)).take 4 = packBE32 (eisaId v₁ v₂ v₃ product rev)) :
    ∃ info, Hdd.pnpInfo data i = some info ∧
      info.vendor = [Char.ofNat (v₁ + 0x40), Char.ofNat (v₂ + 0x40), Char.ofNat (v₃ + 0x40)] ∧
      info.product = product ∧ info.rev = rev := by
  obtain ⟨h₁, h₂, h₃, hpr, hrv, hlt⟩ := eisaId_fields hv hp hr
  have hfield : (((data.drop i).take 32).drop 8).take 4 = (data.drop (i + 8)).take 4 := by
    rw [List.drop_take, List.take_take, List.drop_drop, Nat.add_comm]
    rfl
  rw [Hdd.pnpInfo, if_neg (by omega)]
  refine ⟨_, rfl, ?_, ?_, ?_⟩ <;>
    simp only [hfield, hid, unpackBE_packBE32 hlt, h₁, h₂, h₃, hpr, hrv]

/-- **`dump_rom_info` decodes the PnP device id.**  When the scan finds a PnP header whose
26 bytes lie in the image, and its device id field holds an EISA id packed as the PnP
specification packs it, the report prints the id's three vendor letters, its product
number and its revision. -/
theorem pnp_device_id_decodes {data : List UInt8} {i : Nat} (hpnp : Hdd.pnpOffset data = some i)
    (hlen : i + 26 ≤ data.length) {v₁ v₂ v₃ product rev : Nat}
    (hv : v₁ < 32 ∧ v₂ < 32 ∧ v₃ < 32) (hp : product < 2 ^ 12) (hr : rev < 16)
    (hid : (data.drop (i + 8)).take 4 = packBE32 (eisaId v₁ v₂ v₃ product rev)) :
    ∃ report info, Hdd.dumpRomInfo (some data) = .ok report ∧ report.pnp = some (i, some info) ∧
      info.vendor = [Char.ofNat (v₁ + 0x40), Char.ofNat (v₂ + 0x40), Char.ofNat (v₃ + 0x40)] ∧
      info.product = product ∧ info.rev = rev := by
  obtain ⟨info, hinfo, hvendor, hproduct, hrev⟩ := pnpInfo_eisaId hlen hv hp hr hid
  refine ⟨_, info, by rw [Hdd.dumpRomInfo, if_neg (by omega)], ?_, hvendor, hproduct, hrev⟩
  simp only [hpnp, hinfo, Option.map_some']

/-- An image whose PnP header, at offset 16, carries the id `FLX1234`. -/
def flxRom : List UInt8 :=
  [0x55, 0xAA, 0x01] ++ List.replicate 13 0 ++ [0x24, 0x50, 0x6E, 0x50, 0x10, 0x20, 0, 0] ++
    packBE32 (eisaId 6 12 24 0x123 4) ++ List.replicate 16 0

theorem pnp_device_id_decodes_flx :
    (Hdd.pnpOffset flxRom = some 16 ∧ 16 + 26 ≤ flxRom.length ∧
      ((6 : Nat) < 32 ∧ (12 : Nat) < 32 ∧ (24 : Nat) < 32) ∧ (0x123 : Nat) < 2 ^ 12 ∧
      (4 : Nat) < 16 ∧ (flxRom.drop (16 + 8)).take 4 = packBE32 (eisaId 6 12 24 0x123 4)) ∧
      ∃ report info, Hdd.dumpRomInfo (some flxRom) = .ok report ∧
        report.pnp = some (16, some info) ∧
        info.vendor = [Char.ofNat (6 + 0x40), Char.ofNat (12 + 0x40), Char.ofNat (24 + 0x40)] ∧
        info.product = 0x123 ∧ info.rev = 4 := by
  have hpnp : Hdd.pnpOffset flxRom = some 16 := by decide
  have hlen : 16 + 26 ≤ flxRom.length := by decide
  have hid : (flxRom.drop (16 + 8)).take 4 = packBE32 (eisaId 6 12 24 0x123 4) := rfl
  exact ⟨⟨hpnp, hlen, by norm_num, by norm_num, by norm_num, hid⟩,
    pnp_device_id_decodes hpnp hlen (by norm_num) (by norm_num) (by norm_num) hid⟩

/-! ### The code size and the checksum fix -/

/-- The loop steps back over the `0xFF` bytes at the end of the first `n` bytes. -/
theorem codeEnd_eq (data : List UInt8) {n : Nat} (hn : n ≤ data.length) :
    Fdd.codeEnd data n = ((data.take n).rdropWhile (· == 0xFF)).length := by
  induction n with
  | zero => simp [Fdd.codeEnd]
  | succ n ih =>
    obtain ⟨b, hb⟩ : ∃ b, data[n]? = some b := ⟨data[n], List.getElem?_eq_getElem (by omega)⟩
    rw [Fdd.codeEnd, List.take_succ, hb, Option.toList_some, List.rdropWhile_concat]
    by_cases hff : b = 0xFF
    · simp only [hff, beq_self_eq_true, if_true, ih (by omega)]
    · simp only [Option.some.injEq, hff, if_false, beq_iff_eq, List.length_append,
        List.length_take, List.length_singleton]
      omega

/-- **The code size `show_info` prints.**  On a non-empty image it is the length of the
image without its last byte and without the `0xFF` bytes that end what is left; on an empty
image the report raises `ZeroDivisionError`. -/
theorem code_size_spec (data : List UInt8) :
    (Fdd.showInfo data).map Fdd.Info.codeSize =
      if data = [] then .error .zeroDivisionError
      else .ok (data.dropLast.rdropWhile (· == 0xFF)).length := by
  by_cases h : data = []
  · rw [if_pos h, Fdd.showInfo, if_pos h]; rfl
  · rw [if_neg h, Fdd.showInfo, if_neg h, List.dropLast_eq_take, ← codeEnd_eq _ (by omega)]
    rfl

/-- The image the FDD tool writes sums to `0`. -/
theorem calculateChecksum_setLast (data : List UInt8) :
    calculateChecksum (setLast data (checksumByte data)) = 0 := by
  rw [setLast, calculateChecksum_append_eq_zero, toNat_ofNat_checksumByte, checksumByte_eq]

/-- **Fix, then check.**  On every image `romsum.py` without flags raises `IndexError` when
the image is empty; otherwise it exits `0` having written the fixed image when it can write
the file, and `1` when it cannot: its verification failure is never reported.  The image it
writes passes `romsum.py --check`. -/
theorem romsum_fix_then_check (data : List UInt8) (writes : Bool) :
    Fdd.main false false (some data) writes =
      (if data = [] then .error .indexError
        else if writes then .ok (0, some (setLast data (checksumByte data))) else .ok (1, none)) ∧
    (data ≠ [] → Fdd.main false true (some (setLast data (checksumByte data))) writes = .ok (0, none)) := by
  refine ⟨?_, fun _ => ?_⟩
  · by_cases h : data = []
    · simp [Fdd.main, Fdd.fixChecksum, h]
    · cases writes <;> simp [Fdd.main, Fdd.fixChecksum, h, calculateChecksum_setLast]
  · simp [Fdd.main, calculateChecksum_setLast]

end FluxRipper
