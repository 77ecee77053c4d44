/-!
Byte strings, and numbers written in them with the least significant byte first.
-/

namespace Turnstile

abbrev Bytes := List UInt8

namespace Bytes

def littleEndian : (count value : Nat) → Bytes
  | 0, _ => []
  | count + 1, value => UInt8.ofNat (value % 256) :: littleEndian count (value / 256)

def toNat : Bytes → Nat
  | [] => 0
  | byte :: rest => byte.toNat + 256 * toNat rest

@[simp] theorem length_littleEndian (count value : Nat) :
    (littleEndian count value).length = count := by
  induction count generalizing value with
  | zero => rfl
  | succ count hypothesis => simp [littleEndian, hypothesis]

example : littleEndian 4 0x01020304 = [4, 3, 2, 1] := by decide
example : toNat [4, 3, 2, 1] = 0x01020304 := by decide

def xor (left right : Bytes) : Bytes :=
  List.zipWith (· ^^^ ·) left right

structure Sized (size : Nat) where
  bytes : Bytes
  length_bytes : bytes.length = size
  deriving DecidableEq

def Sized.ofBytes? (size : Nat) (bytes : Bytes) : Option (Sized size) :=
  if length_bytes : bytes.length = size then some ⟨bytes, length_bytes⟩ else none

end Bytes

end Turnstile
