import Turnstile.Text.Utf8
import Turnstile.Wire.Key

/-!
Messages as bytes: a row of fields, each with a number and a payload of one of a few kinds. This
level knows nothing of what the numbers mean, so it can also carry fields that a reader does not
know.
-/

namespace Turnstile.Wire

/-- The bytes of a group are those between its key and its end, with the mark of the end. -/
inductive Payload where
  | varint (value : Nat)
  | fixed64 (bytes : Bytes)
  | delimited (bytes : Bytes)
  | group (bytes : Bytes)
  | fixed32 (bytes : Bytes)
  deriving DecidableEq

structure Field where
  number : Nat
  payload : Payload
  deriving DecidableEq

namespace Payload

def kind : Payload → Kind
  | varint _ => .varint
  | fixed64 _ => .fixed64
  | delimited _ => .delimited
  | group _ => .startGroup
  | fixed32 _ => .fixed32

def encode : Payload → Bytes
  | varint value => Varint.encode value
  | fixed64 bytes => bytes
  | delimited bytes => Varint.encode bytes.length ++ bytes
  | group bytes => bytes
  | fixed32 bytes => bytes

end Payload

namespace Field

def encode (field : Field) : Bytes :=
  Key.encode ⟨field.number, field.payload.kind⟩ ++ field.payload.encode

def readGroup (limit number : Nat) (bytes : Bytes) : Option (Payload × Bytes) :=
  (skipGroups limit [number] bytes).map fun rest =>
    (.group (bytes.take (bytes.length - rest.length)), rest)

def readPayload (limit : Nat) (key : Key) (bytes : Bytes) : Option (Payload × Bytes) :=
  match key.kind with
  | .varint => (Varint.decode? bytes).map fun (value, rest) => (.varint value, rest)
  | .fixed64 => (takeBytes 8 bytes).map fun (front, rest) => (.fixed64 front, rest)
  | .delimited => (takeDelimited bytes).map fun (front, rest) => (.delimited front, rest)
  | .startGroup => readGroup limit key.number bytes
  | .endGroup => none
  | .fixed32 => (takeBytes 4 bytes).map fun (front, rest) => (.fixed32 front, rest)

def decode? (limit : Nat) (bytes : Bytes) : Option (Field × Bytes) :=
  match Key.decode? bytes with
  | none => none
  | some (key, rest) =>
      (readPayload limit key rest).map fun (payload, rest) => (⟨key.number, payload⟩, rest)

theorem length_le_of_readPayload {limit : Nat} {key : Key} {payload : Payload}
    {bytes rest : Bytes} (read : readPayload limit key bytes = some (payload, rest)) :
    rest.length ≤ bytes.length := by
  unfold readPayload at read
  split at read
  · obtain ⟨⟨_, _⟩, found, equal⟩ := Option.map_eq_some_iff.mp read
    cases equal
    exact Nat.le_of_lt (Varint.length_lt_of_decode? found)
  · obtain ⟨⟨_, _⟩, taken, equal⟩ := Option.map_eq_some_iff.mp read
    cases equal
    exact length_le_of_takeBytes taken
  · obtain ⟨⟨_, _⟩, taken, equal⟩ := Option.map_eq_some_iff.mp read
    cases equal
    exact length_le_of_takeDelimited taken
  · obtain ⟨_, skipped, equal⟩ := Option.map_eq_some_iff.mp read
    cases equal
    exact length_le_of_skipGroups skipped
  · cases read
  · obtain ⟨⟨_, _⟩, taken, equal⟩ := Option.map_eq_some_iff.mp read
    cases equal
    exact length_le_of_takeBytes taken

theorem length_lt_of_decode? {limit : Nat} {field : Field} {bytes rest : Bytes}
    (found : decode? limit bytes = some (field, rest)) : rest.length < bytes.length := by
  unfold decode? at found
  split at found
  · cases found
  · rename_i key after read
    obtain ⟨⟨payload, remaining⟩, readPayload, equal⟩ := Option.map_eq_some_iff.mp found
    cases equal
    have := Key.length_lt_of_decode? read
    have := length_le_of_readPayload readPayload
    omega

def decodeAll? (limit : Nat) (bytes : Bytes) : Option (List Field) :=
  if bytes.isEmpty then some []
  else
    match found : decode? limit bytes with
    | none => none
    | some (field, rest) =>
        have := length_lt_of_decode? found
        (decodeAll? limit rest).map (field :: ·)
termination_by bytes.length

/-! What a field holds, if its payload is of the kind that is looked for. -/

def text? (field : Field) : Option String :=
  match field.payload with
  | .delimited bytes => Text.Utf8.decode? bytes
  | _ => none

def message? (field : Field) : Option Bytes :=
  match field.payload with
  | .delimited bytes => some bytes
  | _ => none

/-- The lowest 32 bits count. -/
def int32? (field : Field) : Option Int32 :=
  match field.payload with
  | .varint value => some (Int32.ofNat value)
  | _ => none

end Field

end Turnstile.Wire
