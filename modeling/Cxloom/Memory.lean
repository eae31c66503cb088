import Mathlib.Algebra.Group.Nat.Defs
import Mathlib.Data.Nat.Basic

/-!
# Byte memory

Little-endian words of any width in a memory of bytes, and records whose fields lie at fixed
positions behind a base address.
-/

namespace Cxloom

/-- Bytes by address. -/
abbrev Memory : Type := Nat → UInt8

namespace Memory

variable {memory other : Memory} {address address' width width' value : Nat}

/-- The word of some bytes at an address. -/
def load (memory : Memory) (address : Nat) : Nat → Nat
  | 0 => 0
  | width + 1 => (memory address).toNat + 256 * load memory (address + 1) width

/-- Replace the word of some bytes at an address. -/
def store (memory : Memory) (address width value : Nat) : Memory := fun cell =>
  if address ≤ cell ∧ cell < address + width then UInt8.ofNat (value / 256 ^ (cell - address))
  else memory cell

def fill (memory : Memory) (address bytes : Nat) (byte : UInt8) : Memory := fun cell =>
  if address ≤ cell ∧ cell < address + bytes then byte else memory cell

/-- A word depends on its own bytes only. -/
theorem load_congr
    (agree : ∀ cell, address ≤ cell → cell < address + width → memory cell = other cell) :
    load memory address width = load other address width := by
  induction width generalizing address with
  | zero => rfl
  | succ width induction =>
      rw [load, load, agree address (Nat.le_refl _) (by omega),
        induction fun cell low high => agree cell (by omega) (by omega)]

theorem store_of_outside {cell : Nat} (outside : cell < address ∨ address + width ≤ cell) :
    store memory address width value cell = memory cell :=
  if_neg (by omega)

theorem fill_of_outside {cell bytes : Nat} {byte : UInt8}
    (outside : cell < address ∨ address + bytes ≤ cell) :
    fill memory address bytes byte cell = memory cell :=
  if_neg (by omega)

theorem load_digits (base : Nat) (value offset width : Nat) :
    load (fun cell => UInt8.ofNat (value / 256 ^ (cell - base))) (base + offset) width =
      value / 256 ^ offset % 256 ^ width := by
  induction width generalizing offset with
  | zero => simp [load, Nat.mod_one]
  | succ width induction =>
      have rest := induction (offset + 1)
      rw [Nat.pow_succ 256 offset, ← Nat.div_div_eq_div_mul] at rest
      rw [load, Nat.add_assoc, rest, Nat.add_sub_cancel_left, UInt8.toNat_ofNat',
        Nat.pow_succ 256 width, Nat.mul_comm (256 ^ width) 256, Nat.mod_mul]

/-- A stored word is read back, as far as it fits. -/
theorem load_store (memory : Memory) (address width value : Nat) :
    load (store memory address width value) address width = value % 256 ^ width := by
  have digits := load_digits address value 0 width
  rw [Nat.add_zero, Nat.pow_zero, Nat.div_one] at digits
  rw [← digits]
  exact load_congr fun cell low high => if_pos ⟨low, high⟩

/-- A store leaves the words that it does not overlap. -/
theorem load_store_of_disjoint
    (disjoint : address' + width' ≤ address ∨ address + width ≤ address') :
    load (store memory address width value) address' width' = load memory address' width' :=
  load_congr fun cell low high => store_of_outside (by omega)

/-- Words inside of cleared bytes are zero. -/
theorem load_fill_zero {bytes : Nat} (low : address' ≤ address)
    (high : address + width ≤ address' + bytes) :
    load (fill memory address' bytes 0) address width = 0 := by
  induction width generalizing address with
  | zero => rfl
  | succ width induction =>
      have cleared : fill memory address' bytes 0 address = 0 := if_pos (by omega)
      rw [load, cleared, induction (by omega) (by omega)]
      rfl

/-! ## Records -/

section Records

variable {Field : Type} (fieldAt : Nat → Option Field) (position : Field → Nat) (base : Nat)
  (values : Field → Nat)

/-- Store the fields of a record behind a base address.  `fieldAt` names the field of a position, if
there is one. -/
def storeFields (memory : Memory) : Memory := fun cell =>
  if cell < base then memory cell
  else
    match fieldAt (cell - base) with
    | none => memory cell
    | some field => UInt8.ofNat (values field / 256 ^ (cell - base - position field))

variable {fieldAt position base values}

theorem storeFields_of_outside {cell : Nat}
    (outside : base ≤ cell → fieldAt (cell - base) = none) :
    storeFields fieldAt position base values memory cell = memory cell := by
  rw [storeFields]
  split
  · rfl
  · rename_i behind
    rw [outside (Nat.le_of_not_lt behind)]

/-- Every stored field is read back. -/
theorem load_storeFields {field : Field} {size : Nat}
    (covers : ∀ offset, position field ≤ offset → offset < position field + size →
      fieldAt offset = some field) :
    load (storeFields fieldAt position base values memory) (base + position field) size =
      values field % 256 ^ size := by
  have digits := load_digits (base + position field) (values field) 0 size
  rw [Nat.add_zero, Nat.pow_zero, Nat.div_one] at digits
  rw [← digits]
  refine load_congr fun cell low high => ?_
  rw [storeFields, if_neg (by omega), covers (cell - base) (by omega) (by omega), ← Nat.sub_sub]

end Records

end Memory
end Cxloom
