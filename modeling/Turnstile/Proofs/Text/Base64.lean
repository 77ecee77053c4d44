import Turnstile.Text.Base64

/-!
Base 64 has one spelling for each byte string: writing reads back, and what reads at all is what
writing produces. The second half is where bits left over in a last, shorter group matter.
-/

namespace Turnstile.Text.Base64

structure Alphabet.IsFaithful (alphabet : Alphabet) : Prop where
  value?_letter : ∀ value < 64, value? alphabet (letter alphabet value) = some value
  letter_of_value? : ∀ symbol value,
    value? alphabet symbol = some value → value < 64 ∧ letter alphabet value = symbol

/-- Letters beyond ASCII have no value, so it is enough to look at those within. -/
theorem isFaithful_of_ascii {alphabet : Alphabet} (ascii₆₂ : alphabet.letter62.toNat < 128)
    (ascii₆₃ : alphabet.letter63.toNat < 128)
    (letters : ∀ value < 64, value? alphabet (letter alphabet value) = some value)
    (values : ∀ code < 128, ∀ value ∈ value? alphabet (Char.ofNat code),
      value < 64 ∧ letter alphabet value = Char.ofNat code) : alphabet.IsFaithful where
  value?_letter := letters
  letter_of_value? symbol value read := by
    by_cases beyond : 128 ≤ symbol.toNat
    · have noLetter (last : Char) (ascii : last.toNat < 128) : ¬ symbol ≤ last := by
        intro below
        have codes : symbol.toNat ≤ last.toNat := below
        omega
      have no₆₂ : symbol ≠ alphabet.letter62 := by
        rintro rfl
        omega
      have no₆₃ : symbol ≠ alphabet.letter63 := by
        rintro rfl
        omega
      simp [value?, noLetter, no₆₂, no₆₃] at read
    · have known := values symbol.toNat (by omega)
      rw [Char.ofNat_toNat] at known
      exact known value read

theorem urlSafe_isFaithful : urlSafe.IsFaithful :=
  isFaithful_of_ascii (by decide) (by decide) (by decide) (by decide +kernel)

theorem standard_isFaithful : standard.IsFaithful :=
  isFaithful_of_ascii (by decide) (by decide) (by decide) (by decide +kernel)

variable {alphabet : Alphabet}

theorem decodeChars?_encodeChars (faithful : alphabet.IsFaithful) : ∀ bytes : Bytes,
    decodeChars? alphabet (encodeChars alphabet bytes) = some bytes
  | [] => rfl
  | [byte₁] => by
      have bound₁ := byte₁.toNat_lt
      have read := faithful.value?_letter
      have whole : byte₁.toNat * 16 / 64 * 64 + byte₁.toNat * 16 % 64 = byte₁.toNat * 16 := by omega
      have spare : byte₁.toNat * 16 % 16 = 0 := by omega
      have first : byte₁.toNat * 16 / 16 = byte₁.toNat := by omega
      simp only [encodeChars, decodeChars?]
      rw [read _ (by omega), read _ (by omega)]
      simp only [Option.bind_eq_bind, Option.bind_some, whole, spare, first, UInt8.ofNat_toNat]
      rfl
  | [byte₁, byte₂] => by
      have bound₁ := byte₁.toNat_lt
      have bound₂ := byte₂.toNat_lt
      have read := faithful.value?_letter
      simp only [encodeChars, decodeChars?]
      generalize value : (byte₁.toNat * 256 + byte₂.toNat) * 4 = number
      have whole : (number / 4096 * 64 + number / 64 % 64) * 64 + number % 64 = number := by omega
      have spare : number % 4 = 0 := by omega
      have first : number / 1024 = byte₁.toNat := by omega
      have second : number / 4 % 256 = byte₂.toNat := by omega
      rw [read _ (by omega), read _ (by omega), read _ (by omega)]
      simp only [Option.bind_eq_bind, Option.bind_some, whole, spare, first, second,
        UInt8.ofNat_toNat]
      rfl
  | byte₁ :: byte₂ :: byte₃ :: rest => by
      have bound₁ := byte₁.toNat_lt
      have bound₂ := byte₂.toNat_lt
      have bound₃ := byte₃.toNat_lt
      have others := decodeChars?_encodeChars faithful rest
      have read := faithful.value?_letter
      simp only [encodeChars, decodeChars?, others]
      generalize value : (byte₁.toNat * 256 + byte₂.toNat) * 256 + byte₃.toNat = number
      have whole : ((number / 262144 * 64 + number / 4096 % 64) * 64 + number / 64 % 64) * 64
          + number % 64 = number := by omega
      have first : number / 65536 = byte₁.toNat := by omega
      have second : number / 256 % 256 = byte₂.toNat := by omega
      have third : number % 256 = byte₃.toNat := by omega
      rw [read _ (by omega), read _ (by omega), read _ (by omega), read _ (by omega)]
      simp only [Option.bind_eq_bind, Option.bind_some, whole, first, second, third,
        UInt8.ofNat_toNat]
      rfl

theorem length_encodeChars : ∀ bytes : Bytes,
    (encodeChars alphabet bytes).length = (4 * bytes.length + 2) / 3
  | [] => rfl
  | [_] => by simp [encodeChars]
  | [_, _] => by simp [encodeChars]
  | _ :: _ :: _ :: rest => by
      have others := length_encodeChars rest
      simp only [encodeChars, List.length_cons, others]
      omega

/-! What a group of letters that reads is made of. -/

theorem decodeChars?_two (letter₁ letter₂ : Char) (bytes : Bytes) :
    decodeChars? alphabet [letter₁, letter₂] = some bytes ↔
      ∃ value₁ value₂, value? alphabet letter₁ = some value₁ ∧
        value? alphabet letter₂ = some value₂ ∧
        (value₁ * 64 + value₂) % 16 = 0 ∧ [UInt8.ofNat ((value₁ * 64 + value₂) / 16)] = bytes := by
  simp [decodeChars?, Option.bind_eq_some_iff]

theorem decodeChars?_three (letter₁ letter₂ letter₃ : Char) (bytes : Bytes) :
    decodeChars? alphabet [letter₁, letter₂, letter₃] = some bytes ↔
      ∃ value₁ value₂ value₃, value? alphabet letter₁ = some value₁ ∧
        value? alphabet letter₂ = some value₂ ∧ value? alphabet letter₃ = some value₃ ∧
        ((value₁ * 64 + value₂) * 64 + value₃) % 4 = 0 ∧
        [UInt8.ofNat (((value₁ * 64 + value₂) * 64 + value₃) / 1024),
          UInt8.ofNat (((value₁ * 64 + value₂) * 64 + value₃) / 4 % 256)] = bytes := by
  simp [decodeChars?, Option.bind_eq_some_iff]

theorem decodeChars?_four (letter₁ letter₂ letter₃ letter₄ : Char) (rest : List Char)
    (bytes : Bytes) :
    decodeChars? alphabet (letter₁ :: letter₂ :: letter₃ :: letter₄ :: rest) = some bytes ↔
      ∃ value₁ value₂ value₃ value₄ others, value? alphabet letter₁ = some value₁ ∧
        value? alphabet letter₂ = some value₂ ∧ value? alphabet letter₃ = some value₃ ∧
        value? alphabet letter₄ = some value₄ ∧ decodeChars? alphabet rest = some others ∧
        UInt8.ofNat ((((value₁ * 64 + value₂) * 64 + value₃) * 64 + value₄) / 65536)
          :: UInt8.ofNat ((((value₁ * 64 + value₂) * 64 + value₃) * 64 + value₄) / 256 % 256)
          :: UInt8.ofNat ((((value₁ * 64 + value₂) * 64 + value₃) * 64 + value₄) % 256)
          :: others = bytes := by
  simp [decodeChars?, Option.bind_eq_some_iff]

theorem encodeChars_of_decodeChars? (faithful : alphabet.IsFaithful) : ∀ {letters : List Char}
    {bytes : Bytes}, decodeChars? alphabet letters = some bytes →
      encodeChars alphabet bytes = letters
  | [], bytes, read => by
      cases read
      rfl
  | [_], bytes, read => by
      cases read
  | [letter₁, letter₂], bytes, read => by
      rcases (decodeChars?_two ..).mp read with ⟨value₁, value₂, read₁, read₂, spare, rfl⟩
      rcases faithful.letter_of_value? _ _ read₁ with ⟨bound₁, rfl⟩
      rcases faithful.letter_of_value? _ _ read₂ with ⟨bound₂, rfl⟩
      have byte : (value₁ * 64 + value₂) / 16 % 2 ^ 8 * 16 = value₁ * 64 + value₂ := by omega
      have first : (value₁ * 64 + value₂) / 64 = value₁ := by omega
      have second : (value₁ * 64 + value₂) % 64 = value₂ := by omega
      simp only [encodeChars, UInt8.toNat_ofNat', byte, first, second]
  | [letter₁, letter₂, letter₃], bytes, read => by
      rcases (decodeChars?_three ..).mp read with
        ⟨value₁, value₂, value₃, read₁, read₂, read₃, spare, rfl⟩
      rcases faithful.letter_of_value? _ _ read₁ with ⟨bound₁, rfl⟩
      rcases faithful.letter_of_value? _ _ read₂ with ⟨bound₂, rfl⟩
      rcases faithful.letter_of_value? _ _ read₃ with ⟨bound₃, rfl⟩
      generalize number : (value₁ * 64 + value₂) * 64 + value₃ = value at spare ⊢
      have bytes : (value / 1024 % 2 ^ 8 * 256 + value / 4 % 256 % 2 ^ 8) * 4 = value := by omega
      have first : value / 4096 = value₁ := by omega
      have second : value / 64 % 64 = value₂ := by omega
      have third : value % 64 = value₃ := by omega
      simp only [encodeChars, UInt8.toNat_ofNat', bytes, first, second, third]
  | letter₁ :: letter₂ :: letter₃ :: letter₄ :: rest, bytes, read => by
      rcases (decodeChars?_four ..).mp read with
        ⟨value₁, value₂, value₃, value₄, others, read₁, read₂, read₃, read₄, readRest, rfl⟩
      rcases faithful.letter_of_value? _ _ read₁ with ⟨bound₁, rfl⟩
      rcases faithful.letter_of_value? _ _ read₂ with ⟨bound₂, rfl⟩
      rcases faithful.letter_of_value? _ _ read₃ with ⟨bound₃, rfl⟩
      rcases faithful.letter_of_value? _ _ read₄ with ⟨bound₄, rfl⟩
      have written := encodeChars_of_decodeChars? faithful readRest
      generalize number : ((value₁ * 64 + value₂) * 64 + value₃) * 64 + value₄ = value
      have bytes : (value / 65536 % 2 ^ 8 * 256 + value / 256 % 256 % 2 ^ 8) * 256
          + value % 256 % 2 ^ 8 = value := by omega
      have first : value / 262144 = value₁ := by omega
      have second : value / 4096 % 64 = value₂ := by omega
      have third : value / 64 % 64 = value₃ := by omega
      have fourth : value % 64 = value₄ := by omega
      simp only [encodeChars, written, UInt8.toNat_ofNat', bytes, first, second, third, fourth]

theorem decodeChars?_eq_some_iff (faithful : alphabet.IsFaithful) (letters : List Char)
    (bytes : Bytes) :
    decodeChars? alphabet letters = some bytes ↔ letters = encodeChars alphabet bytes := by
  constructor
  · intro read
    exact (encodeChars_of_decodeChars? faithful read).symm
  · rintro rfl
    exact decodeChars?_encodeChars faithful bytes

/-! ## What changes with a letter -/

theorem isSome_value?_of_mem : ∀ {letters : List Char} {bytes : Bytes},
    decodeChars? alphabet letters = some bytes →
      ∀ symbol ∈ letters, (value? alphabet symbol).isSome = true
  | [], _, _, symbol, member => by cases member
  | [_], _, read, _, _ => by cases read
  | [letter₁, letter₂], bytes, read, symbol, member => by
      rcases (decodeChars?_two ..).mp read with ⟨value₁, value₂, read₁, read₂, -⟩
      simp only [List.mem_cons, List.not_mem_nil, or_false] at member
      rcases member with rfl | rfl <;> simp only [read₁, read₂, Option.isSome_some]
  | [letter₁, letter₂, letter₃], bytes, read, symbol, member => by
      rcases (decodeChars?_three ..).mp read with ⟨value₁, value₂, value₃, read₁, read₂, read₃, -⟩
      simp only [List.mem_cons, List.not_mem_nil, or_false] at member
      rcases member with rfl | rfl | rfl <;> simp only [read₁, read₂, read₃, Option.isSome_some]
  | letter₁ :: letter₂ :: letter₃ :: letter₄ :: rest, bytes, read, symbol, member => by
      rcases (decodeChars?_four ..).mp read with
        ⟨value₁, value₂, value₃, value₄, others, read₁, read₂, read₃, read₄, readRest, -⟩
      simp only [List.mem_cons] at member
      rcases member with rfl | rfl | rfl | rfl | member
      · simp only [read₁, Option.isSome_some]
      · simp only [read₂, Option.isSome_some]
      · simp only [read₃, Option.isSome_some]
      · simp only [read₄, Option.isSome_some]
      · exact isSome_value?_of_mem readRest symbol member

/-- The last letter counts for the last byte alone: its value is below 64, and the bytes before the
last are quotients by more than that. -/
theorem exists_kept (faithful : alphabet.IsFaithful) {last other : Char} :
    ∀ {front : List Char} {bytes changed : Bytes},
      decodeChars? alphabet (front ++ [last]) = some bytes →
      decodeChars? alphabet (front ++ [other]) = some changed →
        ∃ kept byte byte', bytes = kept ++ [byte] ∧ changed = kept ++ [byte']
  | [], _, _, read, _ => by cases read
  | [letter₁], bytes, changed, read, readOther => by
      rcases (decodeChars?_two ..).mp read with ⟨value₁, value₂, -, -, -, rfl⟩
      rcases (decodeChars?_two ..).mp readOther with ⟨value₁', value₂', -, -, -, rfl⟩
      exact ⟨[], _, _, rfl, rfl⟩
  | [letter₁, letter₂], bytes, changed, read, readOther => by
      rcases (decodeChars?_three ..).mp read with
        ⟨value₁, value₂, value₃, read₁, read₂, read₃, -, rfl⟩
      rcases (decodeChars?_three ..).mp readOther with
        ⟨value₁', value₂', value₃', read₁', read₂', read₃', -, rfl⟩
      cases read₁.symm.trans read₁'
      cases read₂.symm.trans read₂'
      have bound := (faithful.letter_of_value? _ _ read₃).left
      have bound' := (faithful.letter_of_value? _ _ read₃').left
      have first : ((value₁ * 64 + value₂) * 64 + value₃') / 1024
          = ((value₁ * 64 + value₂) * 64 + value₃) / 1024 := by omega
      exact ⟨[_], _, _, rfl, by rw [first]; rfl⟩
  | [letter₁, letter₂, letter₃], bytes, changed, read, readOther => by
      rcases (decodeChars?_four ..).mp read with
        ⟨value₁, value₂, value₃, value₄, after, read₁, read₂, read₃, read₄, none, rfl⟩
      rcases (decodeChars?_four ..).mp readOther with
        ⟨value₁', value₂', value₃', value₄', after', read₁', read₂', read₃', read₄', none', rfl⟩
      cases none
      cases none'
      cases read₁.symm.trans read₁'
      cases read₂.symm.trans read₂'
      cases read₃.symm.trans read₃'
      have bound := (faithful.letter_of_value? _ _ read₄).left
      have bound' := (faithful.letter_of_value? _ _ read₄').left
      generalize front : ((value₁ * 64 + value₂) * 64 + value₃) * 64 = value
      have first : (value + value₄') / 65536 = (value + value₄) / 65536 := by omega
      have second : (value + value₄') / 256 % 256 = (value + value₄) / 256 % 256 := by omega
      exact ⟨[_, _], _, _, rfl, by rw [first, second]; rfl⟩
  | letter₁ :: letter₂ :: letter₃ :: letter₄ :: rest, bytes, changed, read, readOther => by
      rcases (decodeChars?_four ..).mp read with
        ⟨value₁, value₂, value₃, value₄, others, read₁, read₂, read₃, read₄, readRest, rfl⟩
      rcases (decodeChars?_four ..).mp readOther with
        ⟨value₁', value₂', value₃', value₄', others', read₁', read₂', read₃', read₄', readRest',
          rfl⟩
      cases read₁.symm.trans read₁'
      cases read₂.symm.trans read₂'
      cases read₃.symm.trans read₃'
      cases read₄.symm.trans read₄'
      rcases exists_kept faithful readRest readRest' with ⟨kept, byte, byte', rfl, rfl⟩
      exact ⟨_ :: _ :: _ :: kept, byte, byte', rfl, rfl⟩

end Turnstile.Text.Base64
