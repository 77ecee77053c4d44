import Turnstile.Bytes

/-!
Text as bytes. A byte string is text only if it is the UTF-8 form of some text, and then of one
text only.
-/

namespace Turnstile.Text.Utf8

def encode (text : String) : Bytes :=
  text.toUTF8.data.toList

def decode? (bytes : Bytes) : Option String :=
  String.fromUTF8? ⟨bytes.toArray⟩

theorem decode?_encode (text : String) : decode? (encode text) = some text := by
  have valid : (ByteArray.mk (encode text).toArray).IsValidUTF8 := by
    simpa [encode] using text.isValidUTF8
  simp only [decode?, String.fromUTF8?, valid, dif_pos]
  rfl

theorem encode_of_decode? {bytes : Bytes} {text : String} (decoded : decode? bytes = some text) :
    encode text = bytes := by
  unfold decode? String.fromUTF8? at decoded
  split at decoded
  · cases decoded
    simp [encode, String.fromUTF8]
  · cases decoded

end Turnstile.Text.Utf8
