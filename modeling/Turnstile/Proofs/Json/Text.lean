import Turnstile.Proofs.Json.Values
import Turnstile.Proofs.Text.Utf8

/-!
What is written is text. Everything but the inside of a string is ASCII, and escaping a string
replaces ASCII letters by ASCII letters. So a document has a text, from which it reads back.
-/

namespace Turnstile.Json

open Turnstile.Text Turnstile.Text.Decimal Utf8

theorem isText_ascii {letters : List Char} (plain : ∀ letter ∈ letters, letter.toNat < 128) :
    IsText (ascii letters) :=
  ⟨String.ofList letters, encode_of_ascii plain⟩

theorem isText_singleton {byte : UInt8} (plain : byte < 0x80) : IsText [byte] :=
  isText_of_ascii fun _ member => List.mem_singleton.mp member ▸ plain

theorem IsText.cons {byte : UInt8} {bytes : Bytes} (plain : byte < 0x80) (rest : IsText bytes) :
    IsText (byte :: bytes) :=
  (isText_singleton plain).append rest

/-! ## Strings -/

theorem escapeByte_ascii {byte : UInt8} (plain : byte < 0x80) :
    ∀ other ∈ escapeByte byte, other < 0x80 := by
  have codes : ∀ code < 128, (escapeByte (UInt8.ofNat code)).all (· < 0x80) = true := by decide
  have all := codes byte.toNat (UInt8.lt_iff_toNat_lt.mp plain)
  rw [UInt8.ofNat_toNat, List.all_eq_true] at all
  exact fun other member => of_decide_eq_true (all other member)

theorem escapeByte_of_le {byte : UInt8} (wide : 0x80 ≤ byte) : escapeByte byte = [byte] := by
  have other {special : UInt8} (plain : special < 0x80) : byte ≠ special := by
    rintro rfl
    exact UInt8.not_le.mpr plain wide
  have noControl : ¬ byte < 0x20 := fun control =>
    UInt8.not_le.mpr (UInt8.lt_trans control (by decide)) wide
  simp only [escapeByte, other (show (0x22 : UInt8) < 0x80 by decide),
    other (show (0x5c : UInt8) < 0x80 by decide), other (show (0x08 : UInt8) < 0x80 by decide),
    other (show (0x09 : UInt8) < 0x80 by decide), other (show (0x0a : UInt8) < 0x80 by decide),
    other (show (0x0c : UInt8) < 0x80 by decide), other (show (0x0d : UInt8) < 0x80 by decide),
    noControl, if_false]

theorem isText_inside (content : Content) : IsText (inside content) := by
  cases content with
  | none => exact ⟨"\\ud800\"", rfl⟩
  | some text =>
      have quote : IsText [0x22] := isText_singleton (by decide)
      refine IsText.append (isText_flatMap ?_ (fun _ => escapeByte_of_le) text) quote
      exact fun byte plain => isText_of_ascii (escapeByte_ascii plain)

theorem isText_writeContent (content : Content) : IsText (writeContent content) := by
  rw [writeContent_eq]
  exact IsText.cons (by decide) (isText_inside content)

/-! ## Numbers -/

theorem ascii_of_areDigits {digits : List Char} (areDigits : AreDigits digits) :
    ∀ letter ∈ digits, letter.toNat < 128 := by
  intro letter member
  have bounds := toNat_digit_bounds (areDigits letter member)
  omega

theorem ascii_ofInt (number : Int) : ∀ letter ∈ ofInt number, letter.toNat < 128 := by
  cases number with
  | ofNat number => exact ascii_of_areDigits (areDigits_ofNat number)
  | negSucc number =>
      intro letter member
      rcases List.mem_cons.mp member with rfl | member
      · decide
      · exact ascii_of_areDigits (areDigits_ofNat _) letter member

theorem isText_writeNumber (value : Number) : IsText (writeNumber value) := by
  rw [writeNumber]
  apply isText_ascii
  intro letter member
  simp only [List.mem_append] at member
  rcases member with ((sign | whole) | places) | exponent
  · split at sign
    · rw [List.mem_singleton.mp sign]
      decide
    · cases sign
  · exact ascii_of_areDigits (areDigits_ofNat value.whole) letter whole
  · split at places
    · cases places
    · rcases List.mem_cons.mp places with rfl | places
      · decide
      · exact ascii_of_areDigits (areDigits_places value.places) letter places
  · split at exponent
    · cases exponent
    · rcases List.mem_cons.mp exponent with rfl | exponent
      · decide
      · exact ascii_ofInt value.exponent letter exponent

/-! ## Whole documents -/

mutual

theorem isText_write : ∀ json : Json, IsText json.write
  | null => ⟨"null", by rw [write]; rfl⟩
  | bool true => ⟨"true", by rw [write]; rfl⟩
  | bool false => ⟨"false", by rw [write]; rfl⟩
  | number value => by
      rw [write]
      exact isText_writeNumber value
  | string content => by
      rw [write]
      exact isText_writeContent content
  | array items => by
      rw [write]
      exact IsText.cons (by decide) (isText_writeItems items)
  | object members => by
      rw [write]
      exact IsText.cons (by decide) (isText_writeMembers members)

theorem isText_writeItems : ∀ items : List Json, IsText (writeItems items)
  | [] => isText_singleton (by decide)
  | [item] => (isText_write item).append (isText_singleton (by decide))
  | item :: other :: items => by
      rw [writeItems_next]
      exact (isText_write item).append
        (IsText.cons (by decide) (isText_writeItems (other :: items)))

theorem isText_writeMembers : ∀ members : List (Content × Json), IsText (writeMembers members)
  | [] => isText_singleton (by decide)
  | [(name, value)] => by
      have named := (isText_writeContent name).append
        (IsText.cons (show 0x3a < 0x80 by decide) (isText_write value))
      exact named.append (isText_singleton (by decide))
  | (name, value) :: other :: members => by
      have named := (isText_writeContent name).append
        (IsText.cons (show 0x3a < 0x80 by decide) (isText_write value))
      rw [writeMembers_next]
      exact named.append (IsText.cons (by decide) (isText_writeMembers (other :: members)))

end

theorem isSome_decode?_write (json : Json) : (decode? json.write).isSome := by
  rcases isText_write json with ⟨text, same⟩
  rw [← same, decode?_encode]
  rfl

def text (json : Json) : String :=
  (decode? json.write).get (isSome_decode?_write json)

theorem encode_text (json : Json) : encode json.text = json.write :=
  encode_of_decode? (Option.some_get _).symm

theorem ofText?_text (json : Json) : ofText? json.text = some json := by
  rw [ofText?, encode_text, ofBytes?_write]

end Turnstile.Json
