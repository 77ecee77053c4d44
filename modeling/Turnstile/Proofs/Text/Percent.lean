import Turnstile.Proofs.Text.Utf8
import Turnstile.Text.Percent

/-!
Percent-encoding is undone by decoding wherever a byte was escaped. A percent sign is not escaped,
so one that two hexadecimal digits follow in the text is taken for an escape: decoding what was
encoded gives what decoding the text itself would give.
-/

namespace Turnstile.Text.Percent

def digit? (byte : UInt8) : Option Nat :=
  Hex.value? (Char.ofNat byte.toNat)

def BeginsWithDigits (bytes : Bytes) : Prop :=
  ∃ high low rest, bytes = high :: low :: rest ∧ (digit? high).isSome ∧ (digit? low).isSome

def HoldsEscape (bytes : Bytes) : Prop :=
  ∃ before rest, bytes = before ++ 0x25 :: rest ∧ BeginsWithDigits rest

theorem beginsWithDigits_cons {high low : UInt8} {rest : Bytes} :
    BeginsWithDigits (high :: low :: rest) ↔ (digit? high).isSome ∧ (digit? low).isSome := by
  constructor
  · rintro ⟨_, _, _, same, both⟩
    cases same
    exact both
  · exact fun both => ⟨high, low, rest, rfl, both⟩

theorem not_beginsWithDigits_of_first {first : UInt8} (other : digit? first = none)
    (rest : Bytes) : ¬ BeginsWithDigits (first :: rest) := by
  rintro ⟨_, _, _, same, isDigit, -⟩
  cases same
  rw [other] at isDigit
  cases isDigit

theorem holdsEscape_cons {byte : UInt8} {rest : Bytes} :
    HoldsEscape (byte :: rest) ↔ (byte = 0x25 ∧ BeginsWithDigits rest) ∨ HoldsEscape rest := by
  constructor
  · rintro ⟨before, after, whole, begins⟩
    cases before with
    | nil =>
        cases whole
        exact .inl ⟨rfl, begins⟩
    | cons first before =>
        cases whole
        exact .inr ⟨before, after, rfl, begins⟩
  · rintro (⟨rfl, begins⟩ | ⟨before, after, rfl, begins⟩)
    · exact ⟨[], rest, rfl, begins⟩
    · exact ⟨byte :: before, after, rfl, begins⟩

theorem not_holdsEscape_of_not_mem {bytes : Bytes} (absent : 0x25 ∉ bytes) :
    ¬ HoldsEscape bytes := by
  rintro ⟨before, rest, rfl, -⟩
  exact absent (List.mem_append_right before List.mem_cons_self)

/-! ## Decoding by steps -/

theorem decodeBytes_of_ne {byte : UInt8} (plain : byte ≠ 0x25) (rest : Bytes) :
    decodeBytes (byte :: rest) = byte :: decodeBytes rest := by
  match rest with
  | [] => simp [decodeBytes, plain]
  | [_] => simp [decodeBytes, plain]
  | _ :: _ :: _ => rw [decodeBytes, if_neg plain]

theorem decodeBytes_escape {high low : UInt8} {highValue lowValue : Nat}
    (isHigh : digit? high = some highValue) (isLow : digit? low = some lowValue) (rest : Bytes) :
    decodeBytes (0x25 :: high :: low :: rest) =
      UInt8.ofNat (16 * highValue + lowValue) :: decodeBytes rest := by
  rw [digit?] at isHigh isLow
  rw [decodeBytes]
  simp only [if_true, isHigh, isLow]

theorem decodeBytes_percent {rest : Bytes} (plain : ¬ BeginsWithDigits rest) :
    decodeBytes (0x25 :: rest) = 0x25 :: decodeBytes rest := by
  match rest with
  | [] => rfl
  | [only] =>
    by_cases percent : only = 0x25
    · subst percent
      rfl
    · rw [decodeBytes_of_ne percent]
      rfl
  | high :: low :: rest =>
    rw [beginsWithDigits_cons, digit?, digit?] at plain
    rw [decodeBytes, if_pos rfl]
    split
    · rename_i isHigh isLow
      rw [isHigh, isLow] at plain
      exact absurd ⟨rfl, rfl⟩ plain
    · rfl

theorem decodeBytes_plain {byte : UInt8} {rest : Bytes}
    (plain : ¬ (byte = 0x25 ∧ BeginsWithDigits rest)) :
    decodeBytes (byte :: rest) = byte :: decodeBytes rest := by
  by_cases percent : byte = 0x25
  · subst percent
    exact decodeBytes_percent fun begins => plain ⟨rfl, begins⟩
  · exact decodeBytes_of_ne percent rest

/-- Bytes are taken one by one, and an escape at once. -/
theorem escapeInduction {motive : Bytes → Prop} (nil : motive [])
    (plain : ∀ byte rest, ¬ (byte = 0x25 ∧ BeginsWithDigits rest) → motive rest →
      motive (byte :: rest))
    (escape : ∀ high low highValue lowValue rest, digit? high = some highValue →
      digit? low = some lowValue → motive rest → motive (0x25 :: high :: low :: rest)) :
    ∀ bytes, motive bytes
  | [] => nil
  | byte :: rest => by
      by_cases begins : byte = 0x25 ∧ BeginsWithDigits rest
      · rcases begins with ⟨rfl, high, low, more, rfl, isHigh, isLow⟩
        rcases Option.isSome_iff_exists.mp isHigh with ⟨highValue, isHigh⟩
        rcases Option.isSome_iff_exists.mp isLow with ⟨lowValue, isLow⟩
        exact escape high low highValue lowValue more isHigh isLow
          (escapeInduction nil plain escape more)
      · exact plain byte rest begins (escapeInduction nil plain escape rest)

/-! ## What decoding changes -/

theorem length_decodeBytes_le (bytes : Bytes) : (decodeBytes bytes).length ≤ bytes.length := by
  induction bytes using escapeInduction with
  | nil => exact Nat.le_refl 0
  | plain byte rest plain induction =>
      rw [decodeBytes_plain plain]
      exact Nat.succ_le_succ induction
  | escape high low highValue lowValue rest isHigh isLow induction =>
      rw [decodeBytes_escape isHigh isLow]
      exact Nat.succ_le_succ (Nat.le_add_right_of_le (Nat.le_add_right_of_le induction))

theorem decodeBytes_eq_self_iff (bytes : Bytes) :
    decodeBytes bytes = bytes ↔ ¬ HoldsEscape bytes := by
  induction bytes using escapeInduction with
  | nil => exact iff_of_true rfl (not_holdsEscape_of_not_mem List.not_mem_nil)
  | plain byte rest plain induction =>
      rw [decodeBytes_plain plain, holdsEscape_cons, List.cons.injEq, induction]
      simp [plain]
  | escape high low highValue lowValue rest isHigh isLow induction =>
      refine iff_of_false ?_ fun free => free ?_
      · intro same
        have shorter := congrArg List.length same
        have bound := length_decodeBytes_le rest
        rw [decodeBytes_escape isHigh isLow] at shorter
        simp only [List.length_cons] at shorter
        omega
      · exact ⟨[], _, rfl, high, low, rest, rfl, Option.isSome_of_eq_some isHigh,
          Option.isSome_of_eq_some isLow⟩

/-! ## Encoding -/

def escapeBytes (byte : UInt8) : Bytes :=
  (escape byte).map fun letter => UInt8.ofNat letter.toNat

def digitByte (value : Nat) : UInt8 :=
  UInt8.ofNat (Hex.digit value).toUpper.toNat

theorem forall_byte (property : UInt8 → Prop) [DecidablePred property]
    (all : ((List.range 256).all fun code => property (UInt8.ofNat code)) = true)
    (byte : UInt8) : property byte := by
  rw [List.all_eq_true] at all
  have holds := all byte.toNat (List.mem_range.mpr byte.toNat_lt)
  rw [UInt8.ofNat_toNat] at holds
  exact of_decide_eq_true holds

def isVisible (letter : Char) : Bool :=
  0x21 ≤ letter.toNat && letter.toNat ≤ 0x7e

theorem isVisible_iff (letter : Char) :
    isVisible letter = true ↔ 0x21 ≤ letter.toNat ∧ letter.toNat ≤ 0x7e := by
  rw [isVisible, Bool.and_eq_true, decide_eq_true_iff, decide_eq_true_iff]

theorem isVisible_of_mem_escape (byte : UInt8) :
    ∀ letter ∈ escape byte, isVisible letter = true := by
  apply List.all_eq_true.mp
  apply forall_byte fun byte => (escape byte).all isVisible = true
  decide +kernel

theorem escapeBytes_of_kept (byte : UInt8) :
    isEscaped byte = false → escapeBytes byte = [byte] := by
  apply forall_byte fun byte => isEscaped byte = false → escapeBytes byte = [byte]
  decide +kernel

theorem escapeBytes_of_escaped (byte : UInt8) : isEscaped byte = true →
    escapeBytes byte = [0x25, digitByte (byte.toNat / 16), digitByte (byte.toNat % 16)] := by
  apply forall_byte fun byte => isEscaped byte = true →
    escapeBytes byte = [0x25, digitByte (byte.toNat / 16), digitByte (byte.toNat % 16)]
  decide +kernel

theorem digit?_digitByte : ∀ value < 16, digit? (digitByte value) = some value := by
  decide +kernel

theorem not_isEscaped_of_digit (byte : UInt8) :
    (digit? byte).isSome → isEscaped byte = false := by
  apply forall_byte fun byte => (digit? byte).isSome → isEscaped byte = false
  decide +kernel

theorem exists_first (byte : UInt8) :
    ∃ first more, escapeBytes byte = first :: more ∧
      ((digit? first).isSome ↔ (digit? byte).isSome) := by
  cases escaped : isEscaped byte with
  | false => exact ⟨byte, [], escapeBytes_of_kept byte escaped, Iff.rfl⟩
  | true =>
      refine ⟨0x25, _, escapeBytes_of_escaped byte escaped, iff_of_false (by decide) ?_⟩
      intro isDigit
      rw [not_isEscaped_of_digit byte isDigit] at escaped
      cases escaped

theorem beginsWithDigits_flatMap (bytes : Bytes) :
    BeginsWithDigits (bytes.flatMap escapeBytes) ↔ BeginsWithDigits bytes := by
  match bytes with
  | [] => exact Iff.rfl
  | high :: rest =>
    rw [List.flatMap_cons]
    by_cases isHigh : (digit? high).isSome
    · rw [escapeBytes_of_kept high (not_isEscaped_of_digit high isHigh), List.singleton_append]
      match rest with
      | [] => exact Iff.rfl
      | low :: rest =>
        rcases exists_first low with ⟨first, more, written, same⟩
        rw [List.flatMap_cons, written, List.cons_append, beginsWithDigits_cons,
          beginsWithDigits_cons, same]
    · rcases exists_first high with ⟨first, more, written, same⟩
      rw [written, List.cons_append]
      rw [← same, Option.not_isSome_iff_eq_none] at isHigh
      refine iff_of_false (not_beginsWithDigits_of_first isHigh _) ?_
      rw [← Option.not_isSome_iff_eq_none, same, Option.not_isSome_iff_eq_none] at isHigh
      exact not_beginsWithDigits_of_first isHigh rest

/-- An escape is undone, and what is no escape is not touched. -/
theorem decodeBytes_flatMap (bytes : Bytes) :
    decodeBytes (bytes.flatMap escapeBytes) = decodeBytes bytes := by
  induction bytes using escapeInduction with
  | nil => rfl
  | plain byte rest plain induction =>
      rw [List.flatMap_cons, decodeBytes_plain plain, ← induction]
      cases escaped : isEscaped byte with
      | false =>
          rw [escapeBytes_of_kept byte escaped, List.singleton_append]
          refine decodeBytes_plain fun begins => plain ⟨begins.left, ?_⟩
          exact (beginsWithDigits_flatMap rest).mp begins.right
      | true =>
          have bound := byte.toNat_lt
          have high := digit?_digitByte (byte.toNat / 16) (by omega)
          have low := digit?_digitByte (byte.toNat % 16) (by omega)
          rw [escapeBytes_of_escaped byte escaped, List.cons_append, List.cons_append,
            List.singleton_append, decodeBytes_escape high low, Nat.div_add_mod,
            UInt8.ofNat_toNat]
  | escape high low highValue lowValue rest isHigh isLow induction =>
      have keptHigh := not_isEscaped_of_digit high (Option.isSome_of_eq_some isHigh)
      have keptLow := not_isEscaped_of_digit low (Option.isSome_of_eq_some isLow)
      have keptPercent : isEscaped 0x25 = false := by decide
      rw [List.flatMap_cons, List.flatMap_cons, List.flatMap_cons,
        escapeBytes_of_kept _ keptPercent, escapeBytes_of_kept _ keptHigh,
        escapeBytes_of_kept _ keptLow, List.singleton_append, List.singleton_append,
        List.singleton_append, decodeBytes_escape isHigh isLow, decodeBytes_escape isHigh isLow,
        induction]

/-! ## Texts -/

theorem isVisible_of_mem_encode {text : String} :
    ∀ letter ∈ (encode text).toList, isVisible letter = true := by
  intro letter member
  rw [encode, String.toList_ofList] at member
  rcases List.mem_flatMap.mp member with ⟨byte, -, inside⟩
  exact isVisible_of_mem_escape byte letter inside

theorem utf8_encode (text : String) :
    Utf8.encode (encode text) = (Utf8.encode text).flatMap escapeBytes := by
  have ascii : ∀ letter ∈ (Utf8.encode text).flatMap escape, letter.toNat < 128 := by
    intro letter member
    rcases List.mem_flatMap.mp member with ⟨byte, -, inside⟩
    have visible := (isVisible_iff letter).mp (isVisible_of_mem_escape byte letter inside)
    exact Nat.lt_of_le_of_lt visible.right (by decide)
  rw [encode, Utf8.encode_of_ascii ascii, List.map_flatMap]
  rfl

theorem decode?_encode (text : String) : decode? (encode text) = decode? text := by
  rw [decode?, decode?, utf8_encode, decodeBytes_flatMap]

theorem decode?_eq_self_iff (text : String) :
    decode? text = some text ↔ ¬ HoldsEscape (Utf8.encode text) := by
  rw [← decodeBytes_eq_self_iff, decode?]
  constructor
  · exact fun decoded => (Utf8.encode_of_decode? decoded).symm
  · intro same
    rw [same, Utf8.decode?_encode]

end Turnstile.Text.Percent
