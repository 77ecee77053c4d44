import Turnstile.Crypto.Sealing

/-!
Sealing has one opening: a sealed byte string opens to exactly the bytes that sealing makes it
from. Of the cipher this needs only that it adds a key stream that is long enough, and of the tag
only its length.
-/

namespace Turnstile

namespace Bytes

theorem xor_xor_cancel : ∀ data stream : Bytes, data.length ≤ stream.length →
    xor (xor data stream) stream = data
  | [], _, _ => rfl
  | _ :: _, [], long => absurd long (by simp)
  | byte :: data, streamed :: stream, long => by
      have rest := xor_xor_cancel data stream (by simpa using long)
      have first : byte ^^^ streamed ^^^ streamed = byte := by
        rw [UInt8.xor_assoc, UInt8.xor_self, UInt8.xor_zero]
      simp only [xor, List.zipWith_cons_cons, first] at rest ⊢
      rw [rest]

end Bytes

namespace Crypto

open ChaCha20 (Key Nonce)

namespace ChaCha20

theorem length_wordsBytes (words : List UInt32) : (wordsBytes words).length = 4 * words.length := by
  simp [wordsBytes, List.length_flatMap, List.map_const', Nat.mul_comm]

theorem length_block (subkey : Bytes) (nonce : Nonce) (counter : Nat) :
    (block subkey nonce counter).length = 64 := by
  simp [block, length_wordsBytes, State.toList, Row.toList]

theorem length_keyStream (subkey : Bytes) (nonce : Nonce) (first count : Nat) :
    (keyStream subkey nonce first count).length = 64 * count := by
  simp [keyStream, List.length_flatMap, length_block, List.map_const', Nat.mul_comm]

theorem length_apply (subkey : Bytes) (nonce : Nonce) (data : Bytes) :
    (apply subkey nonce data).length = data.length := by
  simp only [apply, Bytes.xor, List.length_zipWith, length_keyStream]
  omega

theorem apply_apply (subkey : Bytes) (nonce : Nonce) (data : Bytes) :
    apply subkey nonce (apply subkey nonce data) = data := by
  have long : data.length ≤ (keyStream subkey nonce 1 ((data.length + 63) / 64)).length := by
    rw [length_keyStream]
    omega
  rw [apply, length_apply]
  exact Bytes.xor_xor_cancel data _ long

end ChaCha20

@[simp] theorem cipher_cipher (key : Key) (nonce : Nonce) (data : Bytes) :
    cipher key nonce (cipher key nonce data) = data :=
  ChaCha20.apply_apply ..

@[simp] theorem length_sealTag (key : Key) (nonce : Nonce) (associated encrypted : Bytes) :
    (sealTag key nonce associated encrypted).length = tagLength :=
  Poly1305.length_tag ..

theorem openBytes?_append (key : Key) (nonce : Nonce) (associated encrypted tag : Bytes)
    (length : tag.length = tagLength) :
    openBytes? key nonce associated (encrypted ++ tag) =
      if tag = sealTag key nonce associated encrypted then some (cipher key nonce encrypted)
      else none := by
  have enough : ¬ (encrypted ++ tag).length < tagLength := by
    rw [List.length_append]
    omega
  have place : (encrypted ++ tag).length - tagLength = encrypted.length := by
    rw [List.length_append]
    omega
  rw [openBytes?, if_neg enough]
  simp only [place, List.take_left, List.drop_left]

theorem openBytes?_eq_some_iff (key : Key) (nonce : Nonce) (associated sealedBytes plain : Bytes) :
    openBytes? key nonce associated sealedBytes = some plain ↔
      sealedBytes = sealBytes key nonce associated plain := by
  constructor
  · intro opened
    by_cases short : sealedBytes.length < tagLength
    · rw [openBytes?, if_pos short] at opened
      cases opened
    · have tag : (sealedBytes.drop (sealedBytes.length - tagLength)).length = tagLength := by
        rw [List.length_drop]
        omega
      rw [← List.take_append_drop (sealedBytes.length - tagLength) sealedBytes] at opened ⊢
      rw [openBytes?_append _ _ _ _ _ tag] at opened
      split at opened
      · rename_i genuine
        cases opened
        rw [sealBytes, cipher_cipher, ← genuine]
      · cases opened
  · rintro rfl
    rw [sealBytes, openBytes?_append _ _ _ _ _ (length_sealTag ..), if_pos rfl, cipher_cipher]

end Crypto

end Turnstile
