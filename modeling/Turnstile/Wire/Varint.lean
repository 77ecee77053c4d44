import Turnstile.Bytes

/-!
Numbers in a variable number of bytes: seven bits a byte, the lowest first, and in every byte but
the last the high bit set. A reader takes longer forms of a number than it needs, but no more than
ten bytes and no number of more than 64 bits.
-/

namespace Turnstile.Wire.Varint

def encode (value : Nat) : Bytes :=
  if value < 128 then [UInt8.ofNat value]
  else UInt8.ofNat (value % 128 + 128) :: encode (value / 128)

def scan : (most : Nat) → Bytes → Option (Nat × Bytes)
  | 0, _ => none
  | _, [] => none
  | most + 1, byte :: rest =>
      if byte.toNat < 128 then some (byte.toNat, rest)
      else (scan most rest).map fun (high, rest) => (byte.toNat - 128 + 128 * high, rest)

def decode? (bytes : Bytes) : Option (Nat × Bytes) :=
  (scan 10 bytes).filter fun (value, _) => value < 0x10000000000000000

theorem length_lt_of_scan {most value : Nat} {bytes rest : Bytes}
    (found : scan most bytes = some (value, rest)) : rest.length < bytes.length := by
  induction most generalizing bytes rest value with
  | zero => simp [scan] at found
  | succ most hypothesis =>
      cases bytes with
      | nil => simp [scan] at found
      | cons byte tail =>
          simp only [scan] at found
          split at found
          · simp only [Option.some.injEq, Prod.mk.injEq] at found
            simp [found.2]
          · obtain ⟨⟨high, after⟩, tailFound, equal⟩ := Option.map_eq_some_iff.mp found
            simp only [Prod.mk.injEq] at equal
            have shorter := hypothesis tailFound
            rw [equal.2] at shorter
            simp only [List.length_cons]
            omega

theorem length_lt_of_decode? {value : Nat} {bytes rest : Bytes}
    (found : decode? bytes = some (value, rest)) : rest.length < bytes.length :=
  length_lt_of_scan (Option.filter_eq_some_iff.mp found).1

example : encode 300 = [0xac, 0x02] := by decide +kernel
example : decode? [0xac, 0x02, 0x07] = some (300, [0x07]) := by decide
example : decode? [0x80, 0x00] = some (0, []) := by decide
example : decode? [0x80] = none := by decide

end Turnstile.Wire.Varint
