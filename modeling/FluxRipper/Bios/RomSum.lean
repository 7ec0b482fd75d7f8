import Mathlib

/-! # The option ROM checksum

An ISA option ROM is accepted by the BIOS's ROM scan when its bytes sum to `0` modulo 256.
The `romsum.py` tools of the FDD BIOS and of the HDD BIOS fix an image by writing into its
last byte `(0x100 - (sum(data[:-1]) & 0xFF)) & 0xFF` (`checksumByte`).  The FDD tool works
on the bytes and raises `IndexError` on an empty image; the HDD tool reads and writes the
file, and refuses an image of fewer than three bytes.

**`fix_checksum_spec`**: on every non-empty image the FDD tool changes only the last byte,
after which the bytes sum to `0` modulo 256; the byte it writes is the only one that does
so, an image that already sums to `0` is left as it is, and on an image of three bytes or
more the HDD tool writes the same bytes and reports success.
-/

namespace FluxRipper

/-- `calculate_checksum`, the same in both tools: `sum(data) & 0xFF`. -/
def calculateChecksum (data : List UInt8) : Nat := (data.map UInt8.toNat).sum &&& 0xFF

/-- The last byte both tools compute: `(0x100 - (sum(data[:-1]) & 0xFF)) & 0xFF`. -/
def checksumByte (data : List UInt8) : Nat :=
  (0x100 - ((data.dropLast.map UInt8.toNat).sum &&& 0xFF)) &&& 0xFF

/-- `data[-1] = b` on a `bytearray`. -/
def setLast (data : List UInt8) (b : Nat) : List UInt8 := data.dropLast ++ [UInt8.ofNat b]

namespace Fdd

/-- The FDD tool's `fix_checksum(data)`: the bytes after `data[-1] = required`, and
`required`; `none` on an empty image, where `data[-1]` raises `IndexError`. -/
def fixChecksum (data : List UInt8) : Option (List UInt8 × Nat) :=
  if data = [] then none else some (setLast data (checksumByte data), checksumByte data)

end Fdd

namespace Hdd

/-- The HDD tool's `fix_checksum(rom_path)`, over the file's bytes (`none` when the file
does not exist): the bytes it writes back, if it writes, and what it returns. -/
def fixChecksum : Option (List UInt8) → Option (List UInt8) × Bool
  | none => (none, false)
  | some data =>
    if data.length < 3 then (none, false)
    else
      let data' := setLast data (checksumByte data)
      (some data', calculateChecksum data' == 0)

end Hdd

theorem land_0xFF (n : Nat) : n &&& 0xFF = n % 256 := Nat.and_pow_two_sub_one_eq_mod n 8

theorem checksumByte_eq (data : List UInt8) :
    checksumByte data = (256 - (data.dropLast.map UInt8.toNat).sum % 256) % 256 := by
  rw [checksumByte, land_0xFF, land_0xFF]

/-- **The byte that completes a sum**: appended to `l`, the byte `b` makes the bytes sum
to `0` modulo 256 exactly when it is `(256 - sum l % 256) % 256`. -/
theorem calculateChecksum_append_eq_zero (l : List UInt8) (b : UInt8) :
    calculateChecksum (l ++ [b]) = 0 ↔ b.toNat = (256 - (l.map UInt8.toNat).sum % 256) % 256 := by
  have hb : b.toNat < 256 := b.toNat_lt_size
  rw [calculateChecksum, land_0xFF, List.map_append, List.sum_append, List.map_singleton,
    List.sum_singleton]
  omega

theorem setLast_dropLast (data : List UInt8) (b : Nat) : (setLast data b).dropLast = data.dropLast := by
  simp [setLast]

theorem toNat_ofNat_checksumByte (data : List UInt8) :
    (UInt8.ofNat (checksumByte data)).toNat = checksumByte data :=
  UInt8.toNat_ofNat_of_lt (by rw [checksumByte_eq]; exact Nat.mod_lt _ (by decide))

/-- **Fixing a ROM checksum.**  On every non-empty image `d`, the FDD tool's
`fix_checksum` returns the byte it wrote and an image `d'` of the same length that differs
from `d` at most in its last byte, which is that byte; `d'` sums to `0` modulo 256, and no
other last byte would; an image that already sums to `0` comes back unchanged; and when
`d` has three bytes or more, the HDD tool writes the same `d'` and reports success. -/
theorem fix_checksum_spec {d : List UInt8} (hd : d ≠ []) :
    ∃ d', Fdd.fixChecksum d = some (d', checksumByte d) ∧
      d'.length = d.length ∧ d'.dropLast = d.dropLast ∧
      d'.getLast? = some (UInt8.ofNat (checksumByte d)) ∧
      calculateChecksum d' = 0 ∧ (d'.map UInt8.toNat).sum % 256 = 0 ∧
      (∀ b : UInt8, calculateChecksum (d.dropLast ++ [b]) = 0 ↔ b = UInt8.ofNat (checksumByte d)) ∧
      (calculateChecksum d = 0 → d' = d) ∧
      (3 ≤ d.length → Hdd.fixChecksum (some d) = (some d', true)) := by
  have hunique : ∀ b : UInt8,
      calculateChecksum (d.dropLast ++ [b]) = 0 ↔ b = UInt8.ofNat (checksumByte d) := fun b => by
    rw [calculateChecksum_append_eq_zero, ← checksumByte_eq]
    exact ⟨fun h => UInt8.toNat.inj (h.trans (toNat_ofNat_checksumByte d).symm),
      fun h => h ▸ toNat_ofNat_checksumByte d⟩
  have hsum : calculateChecksum (setLast d (checksumByte d)) = 0 := (hunique _).mpr rfl
  refine ⟨setLast d (checksumByte d), if_neg hd, ?_, setLast_dropLast _ _, by simp [setLast],
    hsum, ?_, hunique, fun hvalid => ?_, fun h3 => ?_⟩
  · simp [setLast, Nat.sub_add_cancel (List.length_pos.mpr hd)]
  · rwa [calculateChecksum, land_0xFF] at hsum
  · have hd' : d.dropLast ++ [d.getLast hd] = d := List.dropLast_append_getLast hd
    rw [← hd'] at hvalid
    rw [setLast, ← (hunique _).mp hvalid, hd']
  · simp only [Hdd.fixChecksum, if_neg (Nat.not_lt.mpr h3), hsum]
    rfl

/-- A three-byte image with the option ROM signature `55 AA` and a last byte to fix. -/
theorem fix_checksum_spec_signature :
    [0x55, 0xAA, 0x07] ≠ ([] : List UInt8) ∧
      ∃ d', Fdd.fixChecksum [0x55, 0xAA, 0x07] = some (d', checksumByte [0x55, 0xAA, 0x07]) ∧
        d'.length = [0x55, 0xAA, 0x07].length ∧ d'.dropLast = [0x55, 0xAA, 0x07].dropLast ∧
        d'.getLast? = some (UInt8.ofNat (checksumByte [0x55, 0xAA, 0x07])) ∧
        calculateChecksum d' = 0 ∧ (d'.map UInt8.toNat).sum % 256 = 0 ∧
        (∀ b : UInt8, calculateChecksum ([0x55, 0xAA, 0x07].dropLast ++ [b]) = 0 ↔
          b = UInt8.ofNat (checksumByte [0x55, 0xAA, 0x07])) ∧
        (calculateChecksum [0x55, 0xAA, 0x07] = 0 → d' = [0x55, 0xAA, 0x07]) ∧
        (3 ≤ [0x55, 0xAA, 0x07].length → Hdd.fixChecksum (some [0x55, 0xAA, 0x07]) = (some d', true)) :=
  have hd : [0x55, 0xAA, 0x07] ≠ ([] : List UInt8) := by decide
  ⟨hd, fix_checksum_spec hd⟩

end FluxRipper
