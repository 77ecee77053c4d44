import Mathlib.Tactic.IntervalCases
import Turnstile.Account.Id

/-!
An identifier reads back from its text.
-/

namespace Turnstile

open Turnstile.Text

namespace Text.Hex

theorem value?_digit {value : Nat} (small : value < 16) : value? (digit value) = some value := by
  interval_cases value <;> decide

theorem length_encodeChars (bytes : Bytes) : (encodeChars bytes).length = 2 * bytes.length := by
  induction bytes with
  | nil => rfl
  | cons byte bytes hypothesis =>
      simp only [encodeChars, fixed, List.length_append, List.length_nil, List.length_cons,
        hypothesis]
      omega

theorem decodeChars?_encodeChars (bytes : Bytes) :
    decodeChars? (encodeChars bytes) = some bytes := by
  induction bytes with
  | nil => rfl
  | cons byte bytes hypothesis =>
      have bound := byte.toNat_lt
      have whole : 16 * (byte.toNat / 16 % 16) + byte.toNat % 16 = byte.toNat := by omega
      simp only [encodeChars, fixed, List.nil_append, List.cons_append, decodeChars?, hypothesis,
        value?_digit (Nat.mod_lt (byte.toNat / 16) (show 0 < 16 by decide)),
        value?_digit (Nat.mod_lt byte.toNat (show 0 < 16 by decide)), Option.bind_eq_bind,
        Option.bind_some, whole, UInt8.ofNat_toNat]
      rfl

end Text.Hex

namespace Account.Id

theorem ofGroups?_append {group₁ group₂ group₃ group₄ group₅ : List Char}
    (length₁ : group₁.length = 8) (length₂ : group₂.length = 4) (length₃ : group₃.length = 4)
    (length₄ : group₄.length = 4) (length₅ : group₅.length = 12) :
    ofGroups? (group₁ ++ '-' :: group₂ ++ '-' :: group₃ ++ '-' :: group₄ ++ '-' :: group₅) =
      ofDigits? (group₁ ++ group₂ ++ group₃ ++ group₄ ++ group₅) := by
  simp [ofGroups?, List.drop_append, List.drop_eq_nil_of_le, length₁, length₂,
    length₃, length₄, length₅]

theorem ofText?_text (id : Id) : ofText? id.text = some id := by
  have length : (Hex.encodeChars id.bytes).length = 32 := by
    rw [Hex.length_encodeChars, id.length_bytes]
  have digits : ofDigits? (Hex.encodeChars id.bytes) = some id := by
    rw [ofDigits?, Hex.decodeChars?_encodeChars, Option.bind_some, ofBytes?,
      dif_pos id.length_bytes]
  rw [ofText?, text, String.toList_ofList, textChars]
  generalize Hex.encodeChars id.bytes = letters at length digits
  have groups : letters.take 8 ++ (letters.drop 8).take 4 ++ (letters.drop 12).take 4
      ++ (letters.drop 16).take 4 ++ letters.drop 20 = letters := by
    have join (count : Nat) :
        (letters.drop count).take 4 ++ letters.drop (count + 4) = letters.drop count := by
      rw [← List.drop_drop, List.take_append_drop]
    rw [List.append_assoc, List.append_assoc, List.append_assoc, join 16, join 12, join 8,
      List.take_append_drop]
  rw [ofChars?, if_neg (by simp [length]), if_pos (by simp [length]),
    ofGroups?_append (by simp [length]) (by simp [length]) (by simp [length]) (by simp [length])
      (by simp [length]), groups, digits]

end Account.Id

end Turnstile
