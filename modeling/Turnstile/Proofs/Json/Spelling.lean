import Turnstile.Json.Reader

/-!
Numbers and strings as others may write them. A number may come with an exponent or with zeros in
its places, and a letter of a string for itself or as an escape. The readers take all of these and
find what is spelled.
-/

namespace Turnstile.Json

/-! ## Blanks -/

def AreBlank (bytes : Bytes) : Prop :=
  ∀ byte ∈ bytes, isSpace byte = true

theorem areBlank_nil : AreBlank [] := by
  simp [AreBlank]

theorem skipSpace_cons {byte : UInt8} (noSpace : isSpace byte = false) (rest : Bytes) :
    skipSpace (byte :: rest) = byte :: rest := by
  simp [skipSpace, noSpace]

theorem AreBlank.skipSpace_append {blank : Bytes} (areBlank : AreBlank blank) (rest : Bytes) :
    skipSpace (blank ++ rest) = skipSpace rest :=
  List.dropWhile_append_of_pos areBlank

/-- What may follow a value: nothing, a blank, a comma, or what closes an array or an object. -/
def EndsValue (rest : Bytes) : Prop :=
  ∀ byte ∈ rest.head?, isSpace byte = true ∨ byte = 0x2c ∨ byte = 0x5d ∨ byte = 0x7d

@[simp] theorem endsValue_nil : EndsValue [] := by
  simp [EndsValue]

@[simp] theorem endsValue_cons (byte : UInt8) (rest : Bytes) :
    EndsValue (byte :: rest) ↔
      isSpace byte = true ∨ byte = 0x2c ∨ byte = 0x5d ∨ byte = 0x7d := by
  simp [EndsValue]

theorem AreBlank.endsValue_append {blank rest : Bytes} (areBlank : AreBlank blank)
    (ends : EndsValue rest) : EndsValue (blank ++ rest) := by
  cases blank with
  | nil => exact ends
  | cons byte blank =>
      rw [List.cons_append, endsValue_cons]
      exact .inl (areBlank byte (List.mem_cons_self ..))

theorem EndsValue.not_number {rest : Bytes} (ends : EndsValue rest) :
    ∀ byte ∈ rest.head?,
      isDigitByte byte = false ∧ byte ≠ 0x2e ∧ byte ≠ 0x65 ∧ byte ≠ 0x45 := by
  intro byte member
  rcases ends byte member with isBlank | rfl | rfl | rfl
  · simp only [isSpace, Bool.or_eq_true, beq_iff_eq] at isBlank
    rcases isBlank with ((rfl | rfl) | rfl) | rfl <;> decide
  all_goals decide

/-! ## Numbers -/

structure IsNumeral (digits : Bytes) : Prop where
  nonempty : digits ≠ []
  digits : ∀ byte ∈ digits, isDigitByte byte = true

/-- A numeral that does not begin with a zero, unless it is one. -/
structure SpellsWhole (value : Nat) (digits : Bytes) : Prop where
  numeral : IsNumeral digits
  noZero : ∀ rest, digits = 0x30 :: rest → rest = []
  value : digitsValue digits = value

inductive SpellsPlaces : List (Fin 10) → Bytes → Prop
  | absent : SpellsPlaces [] []
  | present {digits : Bytes} (numeral : IsNumeral digits) :
      SpellsPlaces (digits.map fun byte => Fin.ofNat 10 (byte.toNat - 0x30)) (0x2e :: digits)

inductive SpellsExponent : Int → Bytes → Prop
  | absent : SpellsExponent 0 []
  | unsigned {letter : UInt8} {digits : Bytes} (isLetter : letter = 0x65 ∨ letter = 0x45)
      (numeral : IsNumeral digits) : SpellsExponent (digitsValue digits) (letter :: digits)
  | positive {letter : UInt8} {digits : Bytes} (isLetter : letter = 0x65 ∨ letter = 0x45)
      (numeral : IsNumeral digits) :
      SpellsExponent (digitsValue digits) (letter :: 0x2b :: digits)
  | negative {letter : UInt8} {digits : Bytes} (isLetter : letter = 0x65 ∨ letter = 0x45)
      (numeral : IsNumeral digits) :
      SpellsExponent (-digitsValue digits) (letter :: 0x2d :: digits)

inductive SpellsNumber : Number → Bytes → Prop
  | positive {whole : Nat} {places : List (Fin 10)} {exponent : Int} {first second third : Bytes}
      (spellsWhole : SpellsWhole whole first) (spellsPlaces : SpellsPlaces places second)
      (spellsExponent : SpellsExponent exponent third) :
      SpellsNumber ⟨false, whole, places, exponent⟩ (first ++ second ++ third)
  | negative {whole : Nat} {places : List (Fin 10)} {exponent : Int} {first second third : Bytes}
      (spellsWhole : SpellsWhole whole first) (spellsPlaces : SpellsPlaces places second)
      (spellsExponent : SpellsExponent exponent third) :
      SpellsNumber ⟨true, whole, places, exponent⟩ (0x2d :: first ++ second ++ third)

theorem IsNumeral.readDigits_append {digits rest : Bytes} (numeral : IsNumeral digits)
    (ends : ∀ byte ∈ rest.head?, isDigitByte byte = false) :
    readDigits (digits ++ rest) = some (digits, rest) := by
  have taken : (digits ++ rest).takeWhile isDigitByte = digits := by
    rw [List.takeWhile_append_of_pos numeral.digits]
    cases rest with
    | nil => simp
    | cons byte rest => simp_all
  have dropped : (digits ++ rest).dropWhile isDigitByte = rest := by
    rw [List.dropWhile_append_of_pos numeral.digits]
    cases rest with
    | nil => rfl
    | cons byte rest => simp_all
  simp only [readDigits, taken, dropped]
  simp [numeral.nonempty]

theorem IsNumeral.exists_head {digits : Bytes} (numeral : IsNumeral digits) :
    ∃ first rest, digits = first :: rest ∧ isDigitByte first = true := by
  cases digits with
  | nil => exact absurd rfl numeral.nonempty
  | cons first rest => exact ⟨first, rest, rfl, numeral.digits first (List.mem_cons_self ..)⟩

theorem SpellsWhole.readWhole_append {value : Nat} {digits rest : Bytes}
    (spells : SpellsWhole value digits) (ends : ∀ byte ∈ rest.head?, isDigitByte byte = false) :
    readWhole (digits ++ rest) = some (value, rest) := by
  rw [readWhole, spells.numeral.readDigits_append ends]
  split
  · rename_i same
    cases spells.noZero _ (Prod.mk.inj (Option.some.inj same)).left
  · rename_i same
    cases same
    rw [spells.value]
  · rename_i same
    cases same

theorem SpellsPlaces.readPlaces_append {places : List (Fin 10)} {bytes rest : Bytes}
    (spells : SpellsPlaces places bytes)
    (ends : ∀ byte ∈ rest.head?, isDigitByte byte = false ∧ byte ≠ 0x2e) :
    readPlaces (bytes ++ rest) = some (places, rest) := by
  cases spells with
  | absent =>
      rw [List.nil_append, readPlaces]
      rintro more rfl
      exact (ends 0x2e rfl).right rfl
  | present numeral =>
      rw [List.cons_append, readPlaces,
        numeral.readDigits_append fun byte member => (ends byte member).left, Option.map_some]

theorem SpellsPlaces.head {places : List (Fin 10)} {bytes rest : Bytes}
    (spells : SpellsPlaces places bytes) (ends : ∀ byte ∈ rest.head?, isDigitByte byte = false) :
    ∀ byte ∈ (bytes ++ rest).head?, isDigitByte byte = false := by
  cases spells with
  | absent => exact ends
  | present numeral =>
      intro byte member
      cases member
      decide

theorem SpellsExponent.readExponent_append {exponent : Int} {bytes rest : Bytes}
    (spells : SpellsExponent exponent bytes) (ends : EndsValue rest) :
    readExponent (bytes ++ rest) = some (exponent, rest) := by
  have noDigit : ∀ byte ∈ rest.head?, isDigitByte byte = false :=
    fun byte member => (ends.not_number byte member).left
  cases spells with
  | absent =>
      cases rest with
      | nil => rfl
      | cons byte rest =>
          have noLetter := (ends.not_number byte rfl).right.right
          simp [readExponent, noLetter]
  | unsigned isLetter numeral =>
      rcases numeral.exists_head with ⟨first, more, rfl, isDigit⟩
      have noMinus : first ≠ 0x2d := by
        rintro rfl
        cases isDigit
      have noPlus : first ≠ 0x2b := by
        rintro rfl
        cases isDigit
      have read := numeral.readDigits_append noDigit
      rw [List.cons_append] at read
      simp [readExponent, isLetter, noMinus, noPlus, read]
  | positive isLetter numeral =>
      simp [readExponent, isLetter, numeral.readDigits_append noDigit]
  | negative isLetter numeral =>
      simp [readExponent, isLetter, numeral.readDigits_append noDigit]

theorem SpellsExponent.head {exponent : Int} {bytes rest : Bytes}
    (spells : SpellsExponent exponent bytes) (ends : EndsValue rest) :
    ∀ byte ∈ (bytes ++ rest).head?, isDigitByte byte = false ∧ byte ≠ 0x2e := by
  intro byte member
  cases spells with
  | absent =>
      have following := ends.not_number byte member
      exact ⟨following.left, following.right.left⟩
  | unsigned isLetter _ =>
      cases member
      rcases isLetter with rfl | rfl <;> decide
  | positive isLetter _ =>
      cases member
      rcases isLetter with rfl | rfl <;> decide
  | negative isLetter _ =>
      cases member
      rcases isLetter with rfl | rfl <;> decide

theorem SpellsNumber.readNumber_append {value : Number} {bytes rest : Bytes}
    (spells : SpellsNumber value bytes) (ends : EndsValue rest) :
    readNumber (bytes ++ rest) = some (value, rest) := by
  cases spells with
  | @positive whole places exponent first second third spellsWhole spellsPlaces spellsExponent =>
      have readExponent := spellsExponent.readExponent_append ends
      have readPlaces := spellsPlaces.readPlaces_append (spellsExponent.head ends)
      have readWhole := spellsWhole.readWhole_append
        (spellsPlaces.head fun byte member => (spellsExponent.head ends byte member).left)
      rcases spellsWhole.numeral.exists_head with ⟨digit, more, rfl, isDigit⟩
      have noSign : digit ≠ 0x2d := by
        rintro rfl
        cases isDigit
      simp only [List.append_assoc, List.cons_append] at readWhole ⊢
      simp [readNumber, noSign, readWhole, readPlaces, readExponent]
  | @negative whole places exponent first second third spellsWhole spellsPlaces spellsExponent =>
      have readExponent := spellsExponent.readExponent_append ends
      have readPlaces := spellsPlaces.readPlaces_append (spellsExponent.head ends)
      have readWhole := spellsWhole.readWhole_append
        (spellsPlaces.head fun byte member => (spellsExponent.head ends byte member).left)
      simp [readNumber, readWhole, readPlaces, readExponent]

/-! ## Strings -/

inductive SpellsPieces : List Piece → Bytes → Prop
  | nothing : SpellsPieces [] []
  | plain {byte : UInt8} {pieces : List Piece} {bytes : Bytes} (noControl : ¬ byte < 0x20)
      (noQuote : byte ≠ 0x22) (noBackslash : byte ≠ 0x5c) (more : SpellsPieces pieces bytes) :
      SpellsPieces (.byte byte :: pieces) (byte :: bytes)
  | short {letter byte : UInt8} {pieces : List Piece} {bytes : Bytes}
      (named : shortEscape? letter = some byte) (more : SpellsPieces pieces bytes) :
      SpellsPieces (.byte byte :: pieces) (0x5c :: letter :: bytes)
  | unit {digit₁ digit₂ digit₃ digit₄ : UInt8} {unit : Nat} {pieces : List Piece} {bytes : Bytes}
      (numbered : hexUnit? [digit₁, digit₂, digit₃, digit₄] = some unit)
      (more : SpellsPieces pieces bytes) :
      SpellsPieces (.unit unit :: pieces) (0x5c :: 0x75 :: digit₁ :: digit₂ :: digit₃ :: digit₄
        :: bytes)

inductive SpellsContent : Content → Bytes → Prop
  | quoted {pieces : List Piece} {bytes : Bytes} (spells : SpellsPieces pieces bytes) :
      SpellsContent (content pieces) (bytes ++ [0x22])

theorem shortEscape?_unit : shortEscape? 0x75 = none := by
  decide

theorem SpellsPieces.readPieces_append {pieces : List Piece} {bytes : Bytes}
    (spells : SpellsPieces pieces bytes) (rest : Bytes) :
    readPieces (bytes ++ 0x22 :: rest) = some (pieces, rest) := by
  induction spells with
  | nothing => rw [List.nil_append, readPieces]
  | @plain byte pieces bytes noControl noQuote noBackslash more induction =>
      rw [List.cons_append, readPieces, induction]
      · simp [noControl, noBackslash]
      · exact noQuote
      · intro _ _ _ _ _ same
        exact absurd same noBackslash
      · intro _ _ same
        exact absurd same noBackslash
  | @short letter byte pieces bytes named more induction =>
      rw [List.cons_append, List.cons_append, readPieces, named, induction]
      · rfl
      · rintro _ _ _ _ _ rfl
        rw [shortEscape?_unit] at named
        cases named
  | unit numbered more induction =>
      simp only [List.cons_append]
      rw [readPieces, numbered, induction]
      rfl

theorem SpellsContent.readContent_append {content : Content} {bytes : Bytes}
    (spells : SpellsContent content bytes) (rest : Bytes) :
    readContent (bytes ++ rest) = some (content, rest) := by
  cases spells with
  | quoted spells =>
      rw [readContent, List.append_assoc, List.singleton_append, spells.readPieces_append,
        Option.map_some]

end Turnstile.Json
