import Mathlib.Algebra.Group.Nat.Defs
import Mathlib.Data.List.Basic

/-!
# Fixed-width numbers in byte strings

Numbers of a fixed number of bytes in either byte order, and the parts of a byte string at given
positions.
-/

namespace Cxloom

/-- The bytes of a number, least significant first. -/
def lowBytes : Nat → Nat → List UInt8
  | 0, _ => []
  | width + 1, value => UInt8.ofNat value :: lowBytes width (value / 256)

/-- The number of some bytes, least significant first. -/
def ofLowBytes : List UInt8 → Nat
  | [] => 0
  | byte :: rest => byte.toNat + 256 * ofLowBytes rest

@[simp] theorem length_lowBytes (width value : Nat) : (lowBytes width value).length = width := by
  induction width generalizing value with
  | zero => rfl
  | succ width induction => simp [lowBytes, induction]

theorem ofLowBytes_lowBytes (width value : Nat) :
    ofLowBytes (lowBytes width value) = value % 256 ^ width := by
  induction width generalizing value with
  | zero => simp [lowBytes, ofLowBytes, Nat.mod_one]
  | succ width induction =>
      rw [lowBytes, ofLowBytes, induction, UInt8.toNat_ofNat', Nat.pow_succ 256 width,
        Nat.mul_comm (256 ^ width) 256, Nat.mod_mul]

/-- Byte order of a platform. -/
inductive ByteOrder
  /-- Least significant byte first. -/
  | little
  /-- Most significant byte first. -/
  | big
deriving DecidableEq, Repr

namespace ByteOrder

/-- The bytes of a number. -/
def encode (order : ByteOrder) (width value : Nat) : List UInt8 :=
  match order with
  | .little => lowBytes width value
  | .big => (lowBytes width value).reverse

/-- The number of some bytes. -/
def decode (order : ByteOrder) (bytes : List UInt8) : Nat :=
  match order with
  | .little => ofLowBytes bytes
  | .big => ofLowBytes bytes.reverse

@[simp] theorem length_encode (order : ByteOrder) (width value : Nat) :
    (order.encode width value).length = width := by
  cases order <;> simp [encode]

/-- A number that fits is read back. -/
theorem decode_encode (order : ByteOrder) {width value : Nat} (fits : value < 256 ^ width) :
    order.decode (order.encode width value) = value := by
  cases order <;> simp [encode, decode, ofLowBytes_lowBytes, Nat.mod_eq_of_lt fits]

end ByteOrder

def slice (position width : Nat) (bytes : List UInt8) : List UInt8 :=
  (bytes.drop position).take width

/-- The first part of a byte string. -/
theorem slice_append_first {first second : List UInt8} {width : Nat}
    (length_eq : first.length = width) : slice 0 width (first ++ second) = first := by
  rw [slice, List.drop_zero, ← length_eq, List.take_left]

/-- What lies behind the first part of a byte string. -/
theorem slice_append_behind {first second : List UInt8} {position width : Nat}
    (behind : first.length ≤ position) :
    slice position width (first ++ second) = slice (position - first.length) width second := by
  rw [slice, slice, List.drop_append, List.drop_of_length_le behind, List.nil_append]

theorem getElem?_slice (position width : Nat) (bytes : List UInt8) (index : Nat) :
    (slice position width bytes)[index]? =
      if index < width then bytes[position + index]? else none := by
  rw [slice, List.getElem?_take, List.getElem?_drop]

theorem length_slice {position width : Nat} {bytes : List UInt8}
    (fits : position + width ≤ bytes.length) : (slice position width bytes).length = width := by
  rw [slice, List.length_take, List.length_drop]
  omega

/-- Replace the bytes of a byte string from a position on. -/
def overwrite (position : Nat) (source target : List UInt8) : List UInt8 :=
  target.take position ++ source ++ target.drop (position + source.length)

section Overwrite

variable {position : Nat} {source target : List UInt8}

theorem length_overwrite (fits : position + source.length ≤ target.length) :
    (overwrite position source target).length = target.length := by
  simp only [overwrite, List.length_append, List.length_take, List.length_drop]
  omega

/-- The replaced bytes are those of the source, the others stay. -/
theorem getElem?_overwrite (fits : position + source.length ≤ target.length) (index : Nat) :
    (overwrite position source target)[index]? =
      if index < position then target[index]?
      else if index < position + source.length then source[index - position]?
      else target[index]? := by
  have front : (target.take position).length = position := by
    rw [List.length_take]
    omega
  rw [overwrite, List.append_assoc, List.getElem?_append, front]
  split
  · rename_i before
    rw [List.getElem?_take, if_pos before]
  · rename_i behind
    rw [List.getElem?_append]
    split
    · rename_i inside
      rw [if_pos (by omega)]
    · rename_i outside
      rw [if_neg (by omega), List.getElem?_drop]
      congr 1
      omega

/-- Replacing everything. -/
theorem overwrite_all (whole : source.length = target.length) :
    overwrite 0 source target = source := by
  rw [overwrite, List.take_zero, List.nil_append, Nat.zero_add, whole, List.drop_length,
    List.append_nil]

end Overwrite

/-! ## Overlays -/

/-- Some bytes from a position on over what was there before. -/
def overlay (offset : Nat) (storage : List UInt8) (before : Nat → UInt8) (position : Nat) : UInt8 :=
  if offset ≤ position ∧ position < offset + storage.length then
    storage.getD (position - offset) 0
  else before position

theorem overlay_inside {offset index : Nat} {storage : List UInt8} (before : Nat → UInt8)
    (inside : index < storage.length) :
    storage[index]? = some (overlay offset storage before (offset + index)) := by
  rw [overlay, if_pos (by omega), Nat.add_sub_cancel_left, List.getD_eq_getElem?_getD,
    List.getElem?_eq_getElem inside, Option.getD_some]

theorem overlay_outside {offset position : Nat} {storage : List UInt8} (before : Nat → UInt8)
    (outside : ¬(offset ≤ position ∧ position < offset + storage.length)) :
    overlay offset storage before position = before position :=
  if_neg outside

/-- Bytes that are the ones that were there change nothing. -/
theorem overlay_same {offset : Nat} {storage : List UInt8} {before : Nat → UInt8}
    (same : ∀ index < storage.length, storage[index]? = some (before (offset + index))) :
    overlay offset storage before = before := by
  funext position
  rw [overlay]
  split
  · rename_i inside
    have found := same (position - offset) (by omega)
    rw [List.getD_eq_getElem?_getD, found, Option.getD_some]
    congr 1
    omega
  · rfl

end Cxloom
