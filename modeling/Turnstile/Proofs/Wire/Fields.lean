import Mathlib.Algebra.Group.Nat.Defs
import Turnstile.Wire.Message

/-!
Fields as they are written and read. A number, a key and a field come back with what stands behind
them, and so does a row of fields. The only obstacle is a payload with so many bytes that its length
does not fit into 64 bits; then nothing of the row is read.
-/

namespace Turnstile.Wire

namespace Varint

theorem scan_last {value : Nat} (last : value < 128) (most : Nat) (rest : Bytes) :
    scan (most + 1) (encode value ++ rest) = some (value, rest) := by
  have byte : (UInt8.ofNat value).toNat = value :=
    UInt8.toNat_ofNat_of_lt' (Nat.lt_trans last (by decide))
  rw [encode, if_pos last, List.singleton_append, scan, byte, if_pos last]

theorem scan_next {value : Nat} (more : ¬ value < 128) (most : Nat) (rest : Bytes) :
    scan (most + 1) (encode value ++ rest) =
      (scan most (encode (value / 128) ++ rest)).map fun (high, rest) =>
        (value % 128 + 128 * high, rest) := by
  have small : value % 128 + 128 < UInt8.size := Nat.add_lt_add_right (Nat.mod_lt _ (by decide)) 128
  have byte : (UInt8.ofNat (value % 128 + 128)).toNat = value % 128 + 128 :=
    UInt8.toNat_ofNat_of_lt' small
  have marked : ¬ value % 128 + 128 < 128 := Nat.not_lt.mpr (Nat.le_add_left 128 _)
  rw [encode, if_neg more, List.cons_append, scan, byte, if_neg marked, Nat.add_sub_cancel]

theorem scan_encode (most value : Nat) (rest : Bytes) :
    scan (most + 1) (encode value ++ rest) =
      if value < 128 ^ (most + 1) then some (value, rest) else none := by
  induction most generalizing value with
  | zero =>
      by_cases last : value < 128
      · rw [scan_last last, Nat.zero_add, Nat.pow_one, if_pos last]
      · rw [scan_next last, Nat.zero_add, Nat.pow_one, if_neg last]
        rfl
  | succ most induction =>
      by_cases last : value < 128
      · have room : 128 ^ 1 ≤ 128 ^ (most + 1 + 1) :=
          Nat.pow_le_pow_right (by decide) (Nat.le_add_left 1 _)
        rw [scan_last last, if_pos (Nat.lt_of_lt_of_le last room)]
      · have high : value / 128 < 128 ^ (most + 1) ↔ value < 128 ^ (most + 1 + 1) := by
          rw [Nat.pow_succ 128 (most + 1), Nat.div_lt_iff_lt_mul (by decide)]
        rw [scan_next last, induction]
        simp only [high]
        split
        · rw [Option.map_some, Nat.mod_add_div]
        · rfl

theorem decode?_encode (value : Nat) (rest : Bytes) :
    decode? (encode value ++ rest) =
      if value < 0x10000000000000000 then some (value, rest) else none := by
  rw [decode?, scan_encode]
  by_cases fits : value < 0x10000000000000000
  · have small : value < 128 ^ (9 + 1) := Nat.lt_trans fits (by decide)
    rw [if_pos small, if_pos fits, Option.filter_some, if_pos (decide_eq_true fits)]
  · rw [if_neg fits]
    split
    · rw [Option.filter_some, if_neg (by simpa using fits)]
    · rfl

theorem encode_ne_nil (value : Nat) : encode value ≠ [] := by
  rw [encode]
  split
  · exact List.cons_ne_nil _ _
  · exact List.cons_ne_nil _ _

end Varint

namespace Key

def isNumber (number : Nat) : Bool :=
  1 ≤ number && number < 0x20000000

theorem ofNat?_encode {key : Key} (valid : isNumber key.number) :
    ofNat? (8 * key.number + key.kind.number) = some key := by
  rw [isNumber, Bool.and_eq_true, decide_eq_true_eq, decide_eq_true_eq] at valid
  have kind : key.kind.number < 8 := by
    cases key.kind <;> decide
  have named : Kind.ofNumber? key.kind.number = some key.kind := by
    cases key.kind <;> rfl
  have range : 8 * key.number + key.kind.number < 0x100000000 ∧
      8 ≤ 8 * key.number + key.kind.number := by
    omega
  have lower : (8 * key.number + key.kind.number) % 8 = key.kind.number := by omega
  have upper : (8 * key.number + key.kind.number) / 8 = key.number := by omega
  rw [ofNat?, if_pos range, lower, upper, named, Option.map_some]

theorem decode?_encode {key : Key} (valid : isNumber key.number) (rest : Bytes) :
    decode? (encode key ++ rest) = some (key, rest) := by
  have read := ofNat?_encode valid
  have fits : 8 * key.number + key.kind.number < 0x10000000000000000 := by
    rw [ofNat?] at read
    split at read
    · omega
    · cases read
  rw [decode?, encode, Varint.decode?_encode, if_pos fits]
  dsimp only
  rw [read, Option.map_some]

end Key

theorem takeBytes_append (bytes rest : Bytes) :
    takeBytes bytes.length (bytes ++ rest) = some (bytes, rest) := by
  have enough : bytes.length ≤ (bytes ++ rest).length := by
    rw [List.length_append]
    exact Nat.le_add_right _ _
  rw [takeBytes, if_pos enough, List.take_left, List.drop_left]

theorem takeDelimited_append (bytes rest : Bytes) :
    takeDelimited (Varint.encode bytes.length ++ bytes ++ rest) =
      if bytes.length < 0x10000000000000000 then some (bytes, rest) else none := by
  rw [takeDelimited, List.append_assoc, Varint.decode?_encode]
  split
  · exact takeBytes_append bytes rest
  · rfl

/-! ## Fields -/

inductive Payload.IsPlain : Payload → Prop
  | varint {value : Nat} (small : value < 0x10000000000000000) : IsPlain (.varint value)
  | delimited (bytes : Bytes) : IsPlain (.delimited bytes)

/-- The length that is written in front of the payload, if one is, has no more than 64 bits. -/
def Payload.isMeasured : Payload → Bool
  | .delimited bytes => bytes.length < 0x10000000000000000
  | _ => true

namespace Field

structure IsPlain (field : Field) : Prop where
  number : Key.isNumber field.number
  payload : field.payload.IsPlain

def isMeasured (field : Field) : Bool :=
  field.payload.isMeasured

theorem encode_ne_nil (field : Field) : field.encode ≠ [] := by
  intro empty
  exact Varint.encode_ne_nil _ (List.append_eq_nil_iff.mp empty).left

theorem IsPlain.readPayload_eq {field : Field} (plain : field.IsPlain) (limit : Nat)
    (rest : Bytes) :
    readPayload limit ⟨field.number, field.payload.kind⟩ (field.payload.encode ++ rest) =
      if field.isMeasured then some (field.payload, rest) else none := by
  rcases field with ⟨number, payload⟩
  cases plain.payload with
  | varint small =>
      show (Varint.decode? (Varint.encode _ ++ rest)).map _ = _
      rw [Varint.decode?_encode, if_pos small]
      rfl
  | delimited bytes =>
      show (takeDelimited (Varint.encode bytes.length ++ bytes ++ rest)).map _ = _
      rw [takeDelimited_append]
      simp only [isMeasured, Payload.isMeasured, decide_eq_true_eq]
      split <;> rfl

theorem IsPlain.decode?_encode {field : Field} (plain : field.IsPlain) (limit : Nat)
    (rest : Bytes) :
    decode? limit (field.encode ++ rest) =
      if field.isMeasured then some (field, rest) else none := by
  rw [decode?, encode, List.append_assoc, Key.decode?_encode plain.number]
  dsimp only
  rw [plain.readPayload_eq]
  split <;> rfl

/-! ## Rows of fields -/

theorem decodeAll?_nil (limit : Nat) : decodeAll? limit [] = some [] := by
  rw [decodeAll?]
  rfl

theorem decodeAll?_of_decode? {limit : Nat} {field : Field} {bytes rest : Bytes}
    (read : decode? limit bytes = some (field, rest)) :
    decodeAll? limit bytes = (decodeAll? limit rest).map (field :: ·) := by
  have filled : bytes.isEmpty = false := by
    rw [← Bool.not_eq_true, List.isEmpty_iff]
    rintro rfl
    exact absurd (length_lt_of_decode? read) (Nat.not_lt_zero _)
  rw [decodeAll?, filled, if_neg Bool.false_ne_true]
  split
  · rename_i failed
    rw [failed] at read
    cases read
  · rename_i other after found
    rw [found] at read
    cases read
    rfl

theorem decodeAll?_of_decode?_eq_none {limit : Nat} {bytes : Bytes} (filled : bytes ≠ [])
    (failed : decode? limit bytes = none) : decodeAll? limit bytes = none := by
  rw [decodeAll?, List.isEmpty_eq_false_iff.mpr filled, if_neg Bool.false_ne_true]
  split
  · rfl
  · rename_i field rest found
    rw [found] at failed
    cases failed

/-- In front of other bytes the row is read as a whole or not at all. -/
theorem decodeAll?_encode_append {fields : List Field} (plain : ∀ field ∈ fields, field.IsPlain)
    (limit : Nat) (rest : Bytes) :
    decodeAll? limit (fields.flatMap encode ++ rest) =
      if fields.all isMeasured then (decodeAll? limit rest).map (fields ++ ·) else none := by
  induction fields with
  | nil => simp
  | cons field fields induction =>
      have read := (plain field (List.mem_cons_self ..)).decode?_encode limit
        (fields.flatMap encode ++ rest)
      have more := induction fun other member => plain other (List.mem_cons_of_mem _ member)
      rw [List.flatMap_cons, List.append_assoc, List.all_cons]
      by_cases measured : field.isMeasured = true
      · rw [if_pos measured] at read
        rw [decodeAll?_of_decode? read, more, measured, Bool.true_and]
        split
        · rw [Option.map_map]
          rfl
        · rfl
      · rw [if_neg measured] at read
        rw [Bool.eq_false_iff.mpr measured]
        exact decodeAll?_of_decode?_eq_none
          (List.append_ne_nil_of_left_ne_nil field.encode_ne_nil _) read

theorem decodeAll?_encode {fields : List Field} (plain : ∀ field ∈ fields, field.IsPlain)
    (limit : Nat) :
    decodeAll? limit (fields.flatMap encode) =
      if fields.all isMeasured then some fields else none := by
  have read := decodeAll?_encode_append plain limit []
  rwa [List.append_nil, decodeAll?_nil, Option.map_some, List.append_nil] at read

theorem isMeasured_of_length_encode {field : Field}
    (short : field.encode.length < 0x10000000000000000) : field.isMeasured = true := by
  rcases field with ⟨number, payload⟩
  cases payload with
  | delimited bytes =>
      rw [isMeasured, Payload.isMeasured, decide_eq_true_eq]
      refine Nat.lt_of_le_of_lt ?_ short
      rw [encode, Payload.encode, List.length_append, List.length_append]
      omega
  | _ => rfl

theorem all_isMeasured_of_length {fields : List Field}
    (short : (fields.flatMap encode).length < 0x10000000000000000) :
    fields.all isMeasured = true := by
  rw [List.all_eq_true]
  intro field member
  rcases List.append_of_mem member with ⟨front, back, rfl⟩
  rw [List.flatMap_append, List.flatMap_cons, List.length_append, List.length_append] at short
  apply isMeasured_of_length_encode
  omega

end Field

end Turnstile.Wire
