import Turnstile.Proofs.Wire.Messages

/-!
Messages among fields that nobody here knows. Whoever writes such a field may write it in any form
that can be read, with numbers and lengths in more bytes than they need. A reader gets past it,
finds what it knows behind it, and changes nothing of the message it has so far.
-/

namespace Turnstile.Wire

namespace Varint

/-- The bytes say the number, be it with more of them than it takes. -/
inductive Spells : (value : Nat) → Bytes → Prop
  | last {byte : UInt8} (unmarked : byte.toNat < 128) : Spells byte.toNat [byte]
  | next {byte : UInt8} {high : Nat} {bytes : Bytes} (marked : 128 ≤ byte.toNat)
      (more : Spells high bytes) : Spells (byte.toNat - 128 + 128 * high) (byte :: bytes)

structure IsForm (value : Nat) (bytes : Bytes) : Prop where
  spells : Spells value bytes
  brief : bytes.length ≤ 10
  fits : value < 0x10000000000000000

theorem Spells.scan_eq {value most : Nat} {bytes : Bytes} (spells : Spells value bytes)
    (brief : bytes.length ≤ most) (rest : Bytes) :
    scan most (bytes ++ rest) = some (value, rest) := by
  induction spells generalizing most with
  | @last byte unmarked =>
      cases most with
      | zero => cases brief
      | succ most => rw [List.singleton_append, scan, if_pos unmarked]
  | @next byte high bytes marked more induction =>
      cases most with
      | zero => cases brief
      | succ most =>
          rw [List.cons_append, scan, if_neg (Nat.not_lt.mpr marked),
            induction (Nat.le_of_succ_le_succ brief), Option.map_some]

theorem IsForm.decode?_eq {value : Nat} {bytes : Bytes} (form : IsForm value bytes)
    (rest : Bytes) : decode? (bytes ++ rest) = some (value, rest) := by
  rw [decode?, form.spells.scan_eq form.brief, Option.filter_some,
    if_pos (decide_eq_true form.fits)]

end Varint

/-- Payloads of every kind but groups, and the bytes they may have. -/
inductive Payload.IsForm : Payload → Bytes → Prop
  | varint {number : Nat} {bytes : Bytes} (value : Varint.IsForm number bytes) :
      IsForm (.varint number) bytes
  | fixed64 {bytes : Bytes} (length : bytes.length = 8) : IsForm (.fixed64 bytes) bytes
  | fixed32 {bytes : Bytes} (length : bytes.length = 4) : IsForm (.fixed32 bytes) bytes
  | delimited {front bytes : Bytes} (length : Varint.IsForm bytes.length front) :
      IsForm (.delimited bytes) (front ++ bytes)

namespace Field

structure IsForm (field : Field) (key payload : Bytes) : Prop where
  number : Key.isNumber field.number
  key : Varint.IsForm (8 * field.number + field.payload.kind.number) key
  payload : field.payload.IsForm payload

variable {field : Field} {key payload : Bytes}

theorem IsForm.readPayload_eq (form : field.IsForm key payload) (limit : Nat) (rest : Bytes) :
    readPayload limit ⟨field.number, field.payload.kind⟩ (payload ++ rest) =
      some (field.payload, rest) := by
  rcases field with ⟨number, content⟩
  cases form.payload with
  | varint value =>
      show (Varint.decode? (payload ++ rest)).map _ = _
      rw [value.decode?_eq, Option.map_some]
  | fixed64 length =>
      show (takeBytes 8 (payload ++ rest)).map _ = _
      rw [← length, takeBytes_append, Option.map_some]
  | fixed32 length =>
      show (takeBytes 4 (payload ++ rest)).map _ = _
      rw [← length, takeBytes_append, Option.map_some]
  | @delimited front bytes length =>
      show (takeDelimited (front ++ bytes ++ rest)).map _ = _
      rw [takeDelimited, List.append_assoc, length.decode?_eq, Option.bind_some]
      dsimp only
      rw [takeBytes_append, Option.map_some]

theorem IsForm.decode?_eq (form : field.IsForm key payload) (limit : Nat) (rest : Bytes) :
    decode? limit (key ++ payload ++ rest) = some (field, rest) := by
  have known := @Key.ofNat?_encode ⟨field.number, field.payload.kind⟩ form.number
  rw [decode?, List.append_assoc, Key.decode?, form.key.decode?_eq]
  dsimp only
  rw [known, Option.map_some]
  dsimp only
  rw [form.readPayload_eq, Option.map_some]

/-- Bytes that are a row of fields, all of them with numbers other than these. -/
inductive AreForeign (numbers : List Nat) : Bytes → Prop
  | nothing : AreForeign numbers []
  | next {field : Field} {key payload rest : Bytes} (unknown : field.number ∉ numbers)
      (form : field.IsForm key payload) (more : AreForeign numbers rest) :
      AreForeign numbers (key ++ payload ++ rest)

theorem AreForeign.exists_decodeAll?_append {numbers : List Nat} {bytes : Bytes}
    (foreign : AreForeign numbers bytes) (limit : Nat) :
    ∃ fields : List Field, (∀ field ∈ fields, field.number ∉ numbers) ∧
      ∀ rest, decodeAll? limit (bytes ++ rest) =
        (decodeAll? limit rest).map (fields ++ ·) := by
  induction foreign with
  | nothing =>
      exact ⟨[], ⟨by simp, by simp⟩⟩
  | @next field key payload behind unknown form more induction =>
      rcases induction with ⟨fields, foreign, read⟩
      refine ⟨field :: fields, List.forall_mem_cons.mpr ⟨unknown, foreign⟩, fun rest => ?_⟩
      rw [List.append_assoc, decodeAll?_of_decode? (form.decode?_eq limit _), read,
        Option.map_map]
      rfl

end Field

theorem Message.mergeBytes_append {M : Type} [Message M] {limit : Nat} {bytes rest : Bytes}
    {fields : List Field} {before after : M}
    (read : Field.decodeAll? limit (bytes ++ rest) =
      (Field.decodeAll? limit rest).map (fields ++ ·))
    (merged : fields.foldlM (merge limit) before = some after) :
    mergeBytes limit before (bytes ++ rest) = mergeBytes limit after rest := by
  rw [mergeBytes, mergeBytes, read, Option.bind_map]
  refine congrArg _ (funext fun more => ?_)
  rw [Function.comp_apply, List.foldlM_append, merged]
  rfl

namespace Shape

open Message

variable (shape : Shape)

def fieldCount : Shape → Nat
  | address => 6
  | kyc => 5
  | details => 1
  | user => 8
  | loginRequest => 2
  | loginResponse => 2
  | registerRequest => 5
  | registerResponse => 2
  | getProfileRequest => 0
  | getProfileResponse => 1
  | updateProfileRequest => 3
  | updateProfileResponse => 1

def numbers : List Nat :=
  List.range' 1 shape.fieldCount

theorem number_eq_of_not_mem {shape : Shape} {number : Nat} (unknown : number ∉ shape.numbers) :
    number = 0 ∨ ∃ beyond, number = beyond + (shape.fieldCount + 1) := by
  rw [numbers, List.mem_range'_1] at unknown
  by_cases zero : number = 0
  · exact .inl zero
  · exact .inr ⟨number - (shape.fieldCount + 1), by omega⟩

theorem merge_of_not_mem {shape : Shape} (limit : Nat) (message : shape.Value) {field : Field}
    (unknown : field.number ∉ shape.numbers) : merge limit message field = some message := by
  rcases field with ⟨number, payload⟩
  rcases number_eq_of_not_mem unknown with rfl | ⟨beyond, rfl⟩
  · cases shape <;> rfl
  · cases shape <;> rfl

theorem foldlM_merge_of_forall_not_mem {shape : Shape} {limit : Nat} (message : shape.Value)
    {fields : List Field} (unknown : ∀ field ∈ fields, field.number ∉ shape.numbers) :
    fields.foldlM (merge limit) message = some message := by
  induction fields with
  | nil => rfl
  | cons field fields induction =>
      rw [List.forall_mem_cons] at unknown
      rw [List.foldlM_cons, merge_of_not_mem limit message unknown.left]
      exact induction unknown.right

/-! What is foreign to a message changes nothing of it, and a message in between is merged. -/

variable {shape}

theorem mergeBytes_foreign_append {limit : Nat} {bytes : Bytes}
    (foreign : Field.AreForeign shape.numbers bytes) (message : shape.Value) (rest : Bytes) :
    mergeBytes limit message (bytes ++ rest) = mergeBytes limit message rest := by
  rcases foreign.exists_decodeAll?_append limit with ⟨fields, unknown, read⟩
  exact mergeBytes_append (read rest) (foldlM_merge_of_forall_not_mem message unknown)

theorem mergeBytes_encode_append {limit : Nat} (deep : 4 ≤ limit) (earlier later : shape.Value)
    (rest : Bytes) :
    mergeBytes limit earlier (encode later ++ rest) =
      if (fields later).all Field.isMeasured then
        mergeBytes limit (shape.combine earlier later) rest
      else none := by
  have carries := shape.isMerged.carries limit deep earlier later
  have read := Field.decodeAll?_encode_append carries.plain limit rest
  split
  · rename_i measured
    rw [if_pos measured] at read
    exact mergeBytes_append read (carries.merged measured)
  · rename_i unmeasured
    rw [if_neg unmeasured] at read
    rw [mergeBytes, encode, read, Option.bind_none]

theorem decode?_foreign_encode (earlier later : shape.Value) {first second third : Bytes}
    (foreignFirst : Field.AreForeign shape.numbers first)
    (foreignSecond : Field.AreForeign shape.numbers second)
    (foreignThird : Field.AreForeign shape.numbers third) :
    decode? (first ++ encode earlier ++ second ++ encode later ++ third) =
      if (fields earlier).all Field.isMeasured ∧ (fields later).all Field.isMeasured then
        some (shape.combine earlier later)
      else none := by
  have deep : 4 ≤ depth := by decide
  have finish (message : shape.Value) : mergeBytes depth message third = some message := by
    rw [← List.append_nil third, mergeBytes_foreign_append foreignThird, mergeBytes,
      Field.decodeAll?_nil]
    rfl
  rw [decode?, List.append_assoc, List.append_assoc, List.append_assoc,
    mergeBytes_foreign_append foreignFirst, mergeBytes_encode_append deep,
    mergeBytes_foreign_append foreignSecond, mergeBytes_encode_append deep, finish,
    shape.isMerged.empty_left]
  by_cases measured : (fields earlier).all Field.isMeasured = true
  · rw [if_pos measured]
    simp only [measured, true_and]
  · rw [if_neg measured, if_neg fun both => measured both.left]

/-- Two messages of one kind, one after the other and with fields around them that the kind does
not have, are read as the two put together; what the second leaves out is as the first has it. The
exception is a text, or a message within, of more bytes than 64 bits can count: then nothing is
read. -/
theorem decodes_among_foreign_fields (earlier later : shape.Value) {first second third : Bytes}
    (foreignFirst : Field.AreForeign shape.numbers first)
    (foreignSecond : Field.AreForeign shape.numbers second)
    (foreignThird : Field.AreForeign shape.numbers third) :
    decode? (first ++ encode earlier ++ second ++ encode later ++ third) =
        (if (fields earlier).all Field.isMeasured ∧ (fields later).all Field.isMeasured then
          some (shape.combine earlier later)
        else none) ∧
      ((encode earlier).length < 0x10000000000000000 →
        ((encode later).length < 0x10000000000000000 →
          decode? (first ++ encode earlier ++ second ++ encode later ++ third) =
            some (shape.combine earlier later)) ∧
        decode? (first ++ encode earlier ++ second ++ encode (empty : shape.Value) ++ third) =
          some earlier) := by
  have read (later : shape.Value) :=
    decode?_foreign_encode earlier later foreignFirst foreignSecond foreignThird
  refine ⟨read later, fun short => ⟨fun shortLater => ?_, ?_⟩⟩
  · rw [read, if_pos
      ⟨Field.all_isMeasured_of_length short, Field.all_isMeasured_of_length shortLater⟩]
  · have nothing : (fields (empty : shape.Value)).all Field.isMeasured := by
      cases shape <;> rfl
    rw [read, if_pos ⟨Field.all_isMeasured_of_length short, nothing⟩, shape.isMerged.empty_right]

theorem details_decode_among_foreign_fields :
    Field.AreForeign (numbers .details) [0x78, 0x80, 0x00] ∧
      Field.AreForeign (numbers .details) [0x12, 0x81, 0x00, 0xff] ∧
      Field.AreForeign (numbers .details) [0x1d, 0x01, 0x02, 0x03, 0x04] ∧
      (encode ({ kyc := some { documentType := "passport" } } : UserMeta)).length <
        0x10000000000000000 ∧
      (encode ({ kyc := some { address := some {} } } : UserMeta)).length < 0x10000000000000000 ∧
      decode? ([0x78, 0x80, 0x00]
          ++ encode ({ kyc := some { documentType := "passport" } } : UserMeta)
          ++ [0x12, 0x81, 0x00, 0xff]
          ++ encode ({ kyc := some { address := some {} } } : UserMeta)
          ++ [0x1d, 0x01, 0x02, 0x03, 0x04]) =
        some ({ kyc := some { documentType := "passport", address := some {} } } : UserMeta) := by
  have long {byte : UInt8} (marked : 128 ≤ byte.toNat) :
      Varint.IsForm (byte.toNat - 128) [byte, 0x00] := by
    have spells := Varint.Spells.next marked (@Varint.Spells.last 0x00 (by decide))
    have fits : byte.toNat < 0x10000000000000000 := Nat.lt_trans byte.toNat_lt (by decide)
    exact ⟨by simpa using spells, by simp, Nat.lt_of_le_of_lt (Nat.sub_le _ _) fits⟩
  have short {byte : UInt8} (unmarked : byte.toNat < 128) : Varint.IsForm byte.toNat [byte] :=
    ⟨.last unmarked, by simp, Nat.lt_trans unmarked (by decide)⟩
  have first : Field.AreForeign (numbers .details) [0x78, 0x80, 0x00] :=
    @Field.AreForeign.next _ ⟨15, .varint 0⟩ [0x78] [0x80, 0x00] [] (by decide)
      ⟨rfl, @short 0x78 (by decide), .varint (@long 0x80 (by decide))⟩ .nothing
  have length : Varint.IsForm 1 [0x81, 0x00] := @long 0x81 (by decide)
  have second : Field.AreForeign (numbers .details) [0x12, 0x81, 0x00, 0xff] :=
    @Field.AreForeign.next _ ⟨2, .delimited [0xff]⟩ [0x12] [0x81, 0x00, 0xff] [] (by decide)
      ⟨rfl, @short 0x12 (by decide), @Payload.IsForm.delimited [0x81, 0x00] [0xff] length⟩ .nothing
  have third : Field.AreForeign (numbers .details) [0x1d, 0x01, 0x02, 0x03, 0x04] :=
    @Field.AreForeign.next _ ⟨3, .fixed32 [0x01, 0x02, 0x03, 0x04]⟩ [0x1d]
      [0x01, 0x02, 0x03, 0x04] [] (by decide) ⟨rfl, @short 0x1d (by decide), .fixed32 rfl⟩ .nothing
  have measured : (encode ({ kyc := some { documentType := "passport" } } : UserMeta)).length <
      0x10000000000000000 := by decide +kernel
  have measuredLater : (encode ({ kyc := some { address := some {} } } : UserMeta)).length <
      0x10000000000000000 := by decide +kernel
  exact ⟨first, second, third, measured, measuredLater,
    ((@decodes_among_foreign_fields .details _ _ _ _ _ first second third).right
      measured).left measuredLater⟩

end Shape

end Turnstile.Wire
