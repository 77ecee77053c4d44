import Turnstile.Crypto.Argon2

/-!
Digests are as long as they are asked to be.
-/

namespace Turnstile.Crypto

theorem Blake2b.length_hash {size : Nat} (fits : size ≤ 64) (message : Bytes) :
    (Blake2b.hash size message).length = size := by
  rw [Blake2b.hash]
  generalize Blake2b.absorb _ 0 message = words
  have whole : (words.toList.flatMap fun word => Bytes.littleEndian 8 word.toNat).length = 64 := by
    simp [List.length_flatMap, List.map_const']
  rw [List.length_take, whole, Nat.min_eq_left fits]

namespace Argon2

theorem length_longHashChain (remaining : Nat) (link : Bytes) :
    (longHashChain remaining link).length = remaining := by
  induction remaining, link using longHashChain.induct with
  | case1 remaining link last =>
      rw [longHashChain, if_pos last, Blake2b.length_hash last]
  | case2 remaining link long next induction =>
      rw [longHashChain, if_neg long, List.length_append, List.length_take, induction,
        Blake2b.length_hash (Nat.le_refl 64)]
      omega

theorem length_longHash (size : Nat) (message : Bytes) :
    (longHash size message).length = size := by
  rw [longHash]
  split
  · rename_i short
    exact Blake2b.length_hash short _
  · rw [List.length_append, List.length_take, length_longHashChain,
      Blake2b.length_hash (Nat.le_refl 64)]
    omega

theorem length_hash (parameters : Parameters) (password salt : Bytes) :
    (hash parameters password salt).length = parameters.size :=
  length_longHash parameters.size _

end Argon2

end Turnstile.Crypto
