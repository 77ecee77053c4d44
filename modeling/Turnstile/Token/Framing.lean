import Turnstile.Bytes

/-!
Framing: several byte strings as one, such that no two lists of byte strings have the same frame.
First comes their number, then each of them after its length.
-/

namespace Turnstile.Token

/-- Eight bytes for a number of 63 bits. The highest bit is always clear, for the sake of readers
that have no unsigned numbers. -/
def lengthBytes (length : Nat) : Bytes :=
  Bytes.littleEndian 8 (length % 0x8000000000000000)

def frame (pieces : List Bytes) : Bytes :=
  lengthBytes pieces.length ++ pieces.flatMap fun piece => lengthBytes piece.length ++ piece

end Turnstile.Token
