import Turnstile.Wire.Varint

/-!
The keys that stand before the fields of a message, and how to find the end of a field that nobody
here knows. A group is a field that holds further fields and ends with a key of its own; nobody
writes groups any more, but a reader has to get past them.
-/

namespace Turnstile.Wire

inductive Kind where
  | varint
  | fixed64
  | delimited
  | startGroup
  | endGroup
  | fixed32
  deriving DecidableEq, Repr

namespace Kind

def number : Kind → Nat
  | varint => 0
  | fixed64 => 1
  | delimited => 2
  | startGroup => 3
  | endGroup => 4
  | fixed32 => 5

def ofNumber? (number : Nat) : Option Kind :=
  [varint, fixed64, delimited, startGroup, endGroup, fixed32].find? fun kind =>
    kind.number == number

end Kind

structure Key where
  number : Nat
  kind : Kind
  deriving DecidableEq, Repr

namespace Key

def encode (key : Key) : Bytes :=
  Varint.encode (8 * key.number + key.kind.number)

/-- Keys have 32 bits, and no field has the number 0. -/
def ofNat? (value : Nat) : Option Key :=
  if value < 0x100000000 ∧ 8 ≤ value then
    (Kind.ofNumber? (value % 8)).map fun kind => ⟨value / 8, kind⟩
  else none

def decode? (bytes : Bytes) : Option (Key × Bytes) :=
  match Varint.decode? bytes with
  | some (value, rest) => (ofNat? value).map fun key => (key, rest)
  | none => none

theorem length_lt_of_decode? {key : Key} {bytes rest : Bytes}
    (found : decode? bytes = some (key, rest)) : rest.length < bytes.length := by
  unfold decode? at found
  split at found
  · rename_i value after read
    obtain ⟨_, _, equal⟩ := Option.map_eq_some_iff.mp found
    simp only [Prod.mk.injEq] at equal
    exact equal.2 ▸ Varint.length_lt_of_decode? read
  · cases found

end Key

def takeBytes (count : Nat) (bytes : Bytes) : Option (Bytes × Bytes) :=
  if count ≤ bytes.length then some (bytes.take count, bytes.drop count) else none

def takeDelimited (bytes : Bytes) : Option (Bytes × Bytes) :=
  (Varint.decode? bytes).bind fun (length, rest) => takeBytes length rest

def skipPlain (kind : Kind) (bytes : Bytes) : Option Bytes :=
  match kind with
  | .varint => (Varint.decode? bytes).map (·.2)
  | .fixed64 => (takeBytes 8 bytes).map (·.2)
  | .delimited => (takeDelimited bytes).map (·.2)
  | .fixed32 => (takeBytes 4 bytes).map (·.2)
  | .startGroup => none
  | .endGroup => none

theorem length_le_of_takeBytes {count : Nat} {bytes front rest : Bytes}
    (taken : takeBytes count bytes = some (front, rest)) : rest.length ≤ bytes.length := by
  unfold takeBytes at taken
  split at taken
  · simp only [Option.some.injEq, Prod.mk.injEq] at taken
    simp [← taken.2]
  · cases taken

theorem length_le_of_takeDelimited {bytes front rest : Bytes}
    (taken : takeDelimited bytes = some (front, rest)) : rest.length ≤ bytes.length := by
  obtain ⟨⟨length, after⟩, read, taken⟩ := Option.bind_eq_some_iff.mp taken
  have := Varint.length_lt_of_decode? read
  have := length_le_of_takeBytes taken
  omega

theorem length_le_of_skipPlain {kind : Kind} {bytes rest : Bytes}
    (skipped : skipPlain kind bytes = some rest) : rest.length ≤ bytes.length := by
  cases kind <;> simp only [skipPlain, Option.map_eq_some_iff, Prod.exists, reduceCtorEq] at skipped
  · obtain ⟨_, _, read, rfl⟩ := skipped
    exact Nat.le_of_lt (Varint.length_lt_of_decode? read)
  · obtain ⟨_, _, taken, rfl⟩ := skipped
    exact length_le_of_takeBytes taken
  · obtain ⟨_, _, taken, rfl⟩ := skipped
    exact length_le_of_takeDelimited taken
  · obtain ⟨_, _, taken, rfl⟩ := skipped
    exact length_le_of_takeBytes taken

/-- Passes over fields to the end of the outermost open group. The numbers of the open groups stand
innermost first; a field may lie in fewer groups than the limit. -/
def skipGroups (limit : Nat) : (opened : List Nat) → Bytes → Option Bytes
  | [], bytes => some bytes
  | number :: outer, bytes =>
      match read : Key.decode? bytes with
      | none => none
      | some (key, rest) =>
          have := Key.length_lt_of_decode? read
          if key.kind = .endGroup then
            if key.number = number then skipGroups limit outer rest else none
          else if (number :: outer).length < limit then
            if key.kind = .startGroup then skipGroups limit (key.number :: number :: outer) rest
            else
              match skipped : skipPlain key.kind rest with
              | none => none
              | some rest =>
                  have := length_le_of_skipPlain skipped
                  skipGroups limit (number :: outer) rest
          else none
termination_by _ bytes => bytes.length

theorem length_le_of_skipGroups {limit : Nat} {opened : List Nat} {bytes rest : Bytes}
    (skipped : skipGroups limit opened bytes = some rest) : rest.length ≤ bytes.length := by
  fun_induction skipGroups limit opened bytes <;> simp_all <;> omega

end Turnstile.Wire
