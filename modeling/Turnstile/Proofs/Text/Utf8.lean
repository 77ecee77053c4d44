import Turnstile.Text.Utf8

/-!
The bytes of a text, letter by letter. A letter of ASCII is one byte, which is its code; all bytes
of any other letter lie beyond ASCII. So a text in which ASCII bytes are replaced by other texts is
a text again, whatever letters stand between them.
-/

namespace Turnstile.Text.Utf8

theorem encode_ofList (letters : List Char) :
    encode (String.ofList letters) = letters.flatMap String.utf8EncodeChar := by
  rw [encode, String.toUTF8, String.toByteArray_ofList, List.utf8Encode,
    List.toList_data_toByteArray]

theorem encode_append (left right : String) :
    encode (left ++ right) = encode left ++ encode right := by
  have letters (text : String) := encode_ofList text.toList
  simp only [String.ofList_toList] at letters
  rw [letters, letters, letters, String.toList_append, List.flatMap_append]

theorem utf8EncodeChar_of_ascii {letter : Char} (ascii : letter.toNat < 128) :
    String.utf8EncodeChar letter = [UInt8.ofNat letter.toNat] := by
  have small : letter.val.toNat ≤ 0x7f := Nat.le_of_lt_succ ascii
  simp only [String.utf8EncodeChar, small, if_true]
  rfl

theorem le_of_mem_utf8EncodeChar {letter : Char} (wide : ¬ letter.toNat < 128) {byte : UInt8}
    (member : byte ∈ String.utf8EncodeChar letter) : 0x80 ≤ byte := by
  have large : ¬ letter.val.toNat ≤ 0x7f := fun small => wide (Nat.lt_succ_of_le small)
  rw [UInt8.le_iff_toNat_le]
  simp only [String.utf8EncodeChar, large, if_false] at member
  split at member
  · simp only [List.mem_cons, List.not_mem_nil, or_false] at member
    rcases member with rfl | rfl <;> simp <;> omega
  · split at member
    · simp only [List.mem_cons, List.not_mem_nil, or_false] at member
      rcases member with rfl | rfl | rfl <;> simp <;> omega
    · simp only [List.mem_cons, List.not_mem_nil, or_false] at member
      rcases member with rfl | rfl | rfl | rfl <;> simp <;> omega

theorem encode_of_ascii {letters : List Char}
    (ascii : ∀ letter ∈ letters, letter.toNat < 128) :
    encode (String.ofList letters) = letters.map fun letter => UInt8.ofNat letter.toNat := by
  rw [encode_ofList]
  induction letters with
  | nil => rfl
  | cons letter letters induction =>
      have first := utf8EncodeChar_of_ascii (ascii letter (List.mem_cons_self ..))
      have rest := induction fun other member => ascii other (List.mem_cons_of_mem _ member)
      rw [List.flatMap_cons, first, rest]
      rfl

theorem ascii_of_encode {letters : List Char}
    (ascii : ∀ byte ∈ encode (String.ofList letters), byte < 0x80) :
    ∀ letter ∈ letters, letter.toNat < 128 := by
  intro letter member
  apply Decidable.byContradiction
  intro wide
  rw [encode_ofList] at ascii
  cases spelled : String.utf8EncodeChar letter with
  | nil =>
      have length := String.length_utf8EncodeChar letter
      rw [spelled] at length
      exact absurd length (Nat.ne_of_lt letter.utf8Size_pos)
  | cons byte bytes =>
      have inside : byte ∈ String.utf8EncodeChar letter := spelled ▸ List.mem_cons_self ..
      have beyond := le_of_mem_utf8EncodeChar wide inside
      have within := ascii byte (List.mem_flatMap.mpr ⟨letter, member, inside⟩)
      exact absurd beyond (UInt8.not_le.mpr within)

/-! ## Bytes that are text -/

def IsText (bytes : Bytes) : Prop :=
  ∃ text, encode text = bytes

theorem IsText.append {left right : Bytes} (isLeft : IsText left) (isRight : IsText right) :
    IsText (left ++ right) := by
  rcases isLeft with ⟨before, rfl⟩
  rcases isRight with ⟨after, rfl⟩
  exact ⟨before ++ after, encode_append before after⟩

theorem isText_of_ascii {bytes : Bytes} (ascii : ∀ byte ∈ bytes, byte < 0x80) : IsText bytes := by
  refine ⟨String.ofList (bytes.map fun byte => Char.ofNat byte.toNat), ?_⟩
  have codes : ∀ code < 128, (Char.ofNat code).toNat = code := by decide
  have code : ∀ byte ∈ bytes, (Char.ofNat byte.toNat).toNat = byte.toNat := fun byte member =>
    codes byte.toNat (UInt8.lt_iff_toNat_lt.mp (ascii byte member))
  rw [encode_of_ascii, List.map_map]
  · refine (List.map_congr_left ?_).trans (List.map_id bytes)
    intro byte member
    rw [Function.comp_apply, code byte member, UInt8.ofNat_toNat]
    rfl
  · intro letter member
    rcases List.mem_map.mp member with ⟨byte, inside, rfl⟩
    rw [code byte inside]
    exact UInt8.lt_iff_toNat_lt.mp (ascii byte inside)

theorem flatMap_eq_self {replace : UInt8 → Bytes} {bytes : Bytes}
    (kept : ∀ byte ∈ bytes, replace byte = [byte]) : bytes.flatMap replace = bytes := by
  induction bytes with
  | nil => rfl
  | cons byte bytes induction =>
      have rest := induction fun other member => kept other (List.mem_cons_of_mem _ member)
      rw [List.flatMap_cons, kept byte (List.mem_cons_self ..), rest, List.singleton_append]

/-- ASCII bytes may be replaced by texts, since none of them is a part of another letter. -/
theorem isText_flatMap {replace : UInt8 → Bytes} (ascii : ∀ byte < 0x80, IsText (replace byte))
    (kept : ∀ byte, 0x80 ≤ byte → replace byte = [byte]) (text : String) :
    IsText ((encode text).flatMap replace) := by
  rw [← text.ofList_toList, encode_ofList, List.flatMap_assoc]
  induction text.toList with
  | nil => exact ⟨"", rfl⟩
  | cons letter letters induction =>
      rw [List.flatMap_cons]
      refine IsText.append ?_ induction
      by_cases small : letter.toNat < 128
      · rw [utf8EncodeChar_of_ascii small, List.flatMap_singleton]
        apply ascii
        rw [UInt8.lt_iff_toNat_lt, UInt8.toNat_ofNat_of_lt' (Nat.lt_trans small (by decide))]
        exact small
      · rw [flatMap_eq_self fun byte member => kept byte (le_of_mem_utf8EncodeChar small member)]
        exact ⟨String.ofList [letter], by rw [encode_ofList, List.flatMap_singleton]⟩

end Turnstile.Text.Utf8
