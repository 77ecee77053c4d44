import Turnstile.Bytes

/-!
The one-time authenticator Poly1305: a polynomial over the numbers modulo a prime whose
coefficients are the message, sixteen bytes at a time.
-/

namespace Turnstile.Crypto.Poly1305

def prime : Nat := 0x3fffffffffffffffffffffffffffffffb

/-- Some bits of the point at which the polynomial is taken are always zero. -/
def clamp (point : Nat) : Nat :=
  point &&& 0x0ffffffc0ffffffc0ffffffc0fffffff

def absorb (point total : Nat) (message : Bytes) : Nat :=
  if message.isEmpty then total
  else
    let chunk := Bytes.toNat (message.take 16 ++ [1])
    absorb point ((total + chunk) * point % prime) (message.drop 16)
termination_by message.length
decreasing_by
  have nonempty : message ≠ [] := by intro same; simp_all
  have := List.length_pos_iff.mpr nonempty
  simp only [List.length_drop]
  omega

/-- A key is 32 bytes: a point and a number to add at the end. -/
def tag (key message : Bytes) : Bytes :=
  let point := clamp (Bytes.toNat (key.take 16))
  let added := Bytes.toNat ((key.drop 16).take 16)
  Bytes.littleEndian 16 (absorb point 0 message + added)

@[simp] theorem length_tag (key message : Bytes) : (tag key message).length = 16 := by
  simp [tag]

end Turnstile.Crypto.Poly1305
