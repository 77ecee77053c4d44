import Turnstile.Wire.Field

/-!
Messages with known fields. A message is written field by field, and what a message does not have
is not written. It is read by merging the fields into an empty message one by one: a text or a
number replaces the one before, a message within a message is merged into the one before, and what
has an unknown number is passed over.
-/

namespace Turnstile.Wire

class Message (M : Type) where
  empty : M
  fields : M → List Field
  /-- Merges one field; messages may be nested in it no deeper than the limit. -/
  merge : (limit : Nat) → M → Field → Option M

namespace Message

variable {M : Type} [Message M]

def encode (message : M) : Bytes :=
  (fields message).flatMap Field.encode

def mergeBytes (limit : Nat) (message : M) (bytes : Bytes) : Option M :=
  (Field.decodeAll? limit bytes).bind fun fields => fields.foldlM (merge limit) message

/-- Within a message, messages and groups may be nested up to this depth. -/
def depth : Nat := 100

def decode? (bytes : Bytes) : Option M :=
  mergeBytes depth empty bytes

/-! How the fields of a message are written. -/

def textField (number : Nat) (text : String) : List Field :=
  if text = "" then [] else [⟨number, .delimited (Text.Utf8.encode text)⟩]

/-- A text that can be absent is written also when it is empty. -/
def optionalTextField (number : Nat) : Option String → List Field
  | none => []
  | some text => [⟨number, .delimited (Text.Utf8.encode text)⟩]

/-- Negative numbers are written with 64 bits. -/
def int32Field (number : Nat) (value : Int32) : List Field :=
  if value = 0 then []
  else [⟨number, .varint (value.toInt % 0x10000000000000000).toNat⟩]

def messageField (number : Nat) : Option M → List Field
  | none => []
  | some message => [⟨number, .delimited (encode message)⟩]

/-- Merges a field that is a message into the one that is there, or into an empty one. -/
def mergeField (limit : Nat) (message : Option M) (field : Field) : Option M :=
  match limit, field.message? with
  | limit + 1, some bytes => mergeBytes limit (message.getD empty) bytes
  | _, _ => none

end Message

end Turnstile.Wire
