import Mathlib.Data.List.DropRight
import Mathlib.Tactic.IntervalCases
import Turnstile.Proofs.Json.Spelling

/-!
Documents as others may write them, with blanks around every part. The reader takes a document
however it is spelled and finds what it says. It counts down a number, so what is proved by
recursion over the spelling says that as many steps as there are bytes are enough.
-/

namespace Turnstile.Json

inductive SpellsName : Content → Bytes → Prop
  | mk {name : Content} {before inside after : Bytes} (blankBefore : AreBlank before)
      (spells : SpellsContent name inside) (blankAfter : AreBlank after) :
      SpellsName name (before ++ 0x22 :: inside ++ after ++ [0x3a])

mutual

/-- The bytes are a document. -/
inductive Spells : Json → Bytes → Prop
  | mk {json : Json} {before bytes after : Bytes} (blankBefore : AreBlank before)
      (spells : SpellsValue json bytes) (blankAfter : AreBlank after) :
      Spells json (before ++ bytes ++ after)

/-- The bytes are a value without the blanks around it. -/
inductive SpellsValue : Json → Bytes → Prop
  | nothing : SpellsValue null [0x6e, 0x75, 0x6c, 0x6c]
  | yes : SpellsValue (bool true) [0x74, 0x72, 0x75, 0x65]
  | no : SpellsValue (bool false) [0x66, 0x61, 0x6c, 0x73, 0x65]
  | number {value : Number} {bytes : Bytes} (spells : SpellsNumber value bytes) :
      SpellsValue (number value) bytes
  | string {content : Content} {inside : Bytes} (spells : SpellsContent content inside) :
      SpellsValue (string content) (0x22 :: inside)
  | emptyArray {blank : Bytes} (areBlank : AreBlank blank) :
      SpellsValue (array []) (0x5b :: blank ++ [0x5d])
  | array {items : List Json} {bytes : Bytes} (spells : SpellsItems items bytes) :
      SpellsValue (array items) (0x5b :: bytes)
  | emptyObject {blank : Bytes} (areBlank : AreBlank blank) :
      SpellsValue (object []) (0x7b :: blank ++ [0x7d])
  | object {members : List (Content × Json)} {bytes : Bytes}
      (spells : SpellsMembers members bytes) : SpellsValue (object members) (0x7b :: bytes)

inductive SpellsItems : List Json → Bytes → Prop
  | last {item : Json} {bytes : Bytes} (spells : Spells item bytes) :
      SpellsItems [item] (bytes ++ [0x5d])
  | next {item : Json} {items : List Json} {bytes following : Bytes} (spells : Spells item bytes)
      (more : SpellsItems items following) :
      SpellsItems (item :: items) (bytes ++ 0x2c :: following)

inductive SpellsMembers : List (Content × Json) → Bytes → Prop
  | last {name : Content} {value : Json} {front bytes : Bytes} (spellsName : SpellsName name front)
      (spells : Spells value bytes) : SpellsMembers [(name, value)] (front ++ bytes ++ [0x7d])
  | next {name : Content} {value : Json} {members : List (Content × Json)}
      {front bytes following : Bytes} (spellsName : SpellsName name front)
      (spells : Spells value bytes) (more : SpellsMembers members following) :
      SpellsMembers ((name, value) :: members) (front ++ bytes ++ 0x2c :: following)

end

/-- By its first byte a reader knows what kind of value it will be, or that a list ends. -/
def isMark (byte : UInt8) : Bool :=
  [0x22, 0x5b, 0x5d, 0x7b, 0x7d, 0x6e, 0x74, 0x66].contains byte

theorem isMark_digit {byte : UInt8} (isDigit : isDigitByte byte = true) :
    isSpace byte = false ∧ isMark byte = false := by
  have bounds : 0x30 ≤ byte.toNat ∧ byte.toNat ≤ 0x39 := by
    simpa [isDigitByte, UInt8.le_iff_toNat_le] using isDigit
  rw [← UInt8.ofNat_toNat (x := byte)]
  generalize byte.toNat = code at bounds
  rcases bounds with ⟨lower, upper⟩
  interval_cases code <;> decide

theorem SpellsNumber.exists_head {value : Number} {bytes : Bytes}
    (spells : SpellsNumber value bytes) :
    ∃ first rest, bytes = first :: rest ∧ isSpace first = false ∧ isMark first = false := by
  cases spells with
  | positive spellsWhole _ _ =>
      rcases spellsWhole.numeral.exists_head with ⟨digit, more, rfl, isDigit⟩
      exact ⟨digit, _, rfl, isMark_digit isDigit⟩
  | negative _ _ _ => exact ⟨0x2d, _, rfl, by decide, by decide⟩

theorem SpellsValue.exists_head {json : Json} {bytes : Bytes} (spells : SpellsValue json bytes) :
    ∃ first rest, bytes = first :: rest ∧ isSpace first = false ∧ first ≠ 0x5d := by
  cases spells with
  | number spells =>
      rcases spells.exists_head with ⟨first, rest, same, noSpace, noMark⟩
      refine ⟨first, rest, same, noSpace, ?_⟩
      rintro rfl
      cases noMark
  | nothing => exact ⟨_, _, rfl, by decide, by decide⟩
  | yes => exact ⟨_, _, rfl, by decide, by decide⟩
  | no => exact ⟨_, _, rfl, by decide, by decide⟩
  | string _ => exact ⟨_, _, rfl, by decide, by decide⟩
  | emptyArray _ => exact ⟨_, _, rfl, by decide, by decide⟩
  | array _ => exact ⟨_, _, rfl, by decide, by decide⟩
  | emptyObject _ => exact ⟨_, _, rfl, by decide, by decide⟩
  | object _ => exact ⟨_, _, rfl, by decide, by decide⟩

theorem Spells.exists_head {json : Json} {bytes : Bytes} (spells : Spells json bytes)
    (rest : Bytes) : ∃ first more, skipSpace (bytes ++ rest) = first :: more ∧ first ≠ 0x5d := by
  cases spells with
  | @mk _ before _ after blankBefore spells _ =>
      rcases spells.exists_head with ⟨first, more, rfl, noSpace, noEnd⟩
      refine ⟨first, more ++ (after ++ rest), ?_, noEnd⟩
      simp only [List.append_assoc, blankBefore.skipSpace_append, List.cons_append,
        skipSpace_cons noSpace]

theorem SpellsItems.exists_head {items : List Json} {bytes : Bytes}
    (spells : SpellsItems items bytes) (rest : Bytes) :
    ∃ first more, skipSpace (bytes ++ rest) = first :: more ∧ first ≠ 0x5d := by
  cases spells with
  | last spells => simpa only [List.append_assoc] using spells.exists_head _
  | next spells _ => simpa only [List.append_assoc] using spells.exists_head _

theorem SpellsName.exists_reading {name : Content} {front : Bytes} (spells : SpellsName name front)
    (rest : Bytes) : ∃ inside colon, skipSpace (front ++ rest) = 0x22 :: inside ∧
      readContent inside = some (name, colon) ∧ afterColon colon = some rest := by
  cases spells with
  | @mk before inside after blankBefore spells blankAfter =>
      refine ⟨inside ++ (after ++ ([0x3a] ++ rest)), after ++ ([0x3a] ++ rest), ?_, ?_, ?_⟩
      · simp only [List.append_assoc, blankBefore.skipSpace_append, List.cons_append]
        exact skipSpace_cons (by decide) _
      · exact spells.readContent_append _
      · rw [afterColon, blankAfter.skipSpace_append]
        rfl

theorem SpellsMembers.exists_head {members : List (Content × Json)} {bytes : Bytes}
    (spells : SpellsMembers members bytes) (rest : Bytes) :
    ∃ more, skipSpace (bytes ++ rest) = 0x22 :: more := by
  cases spells with
  | last spellsName _ =>
      rcases spellsName.exists_reading (_ ++ ([0x7d] ++ rest)) with ⟨inside, _, head, _⟩
      exact ⟨inside, by simpa only [List.append_assoc] using head⟩
  | @next _ _ _ _ bytes following spellsName _ _ =>
      rcases spellsName.exists_reading (bytes ++ (0x2c :: following ++ rest)) with
        ⟨inside, _, head, _⟩
      exact ⟨inside, by simpa only [List.append_assoc] using head⟩

/-! ## One step of a reader -/

@[simp] theorem skipSpace_skipSpace (bytes : Bytes) :
    skipSpace (skipSpace bytes) = skipSpace bytes :=
  List.dropWhile_idempotent isSpace bytes

theorem readValue_skipSpace (count : Nat) (bytes : Bytes) :
    readValue count (skipSpace bytes) = readValue count bytes := by
  cases count with
  | zero => rfl
  | succ count => simp only [readValue, skipSpace_skipSpace]

theorem readItems_skipSpace (count : Nat) (bytes : Bytes) :
    readItems count (skipSpace bytes) = readItems count bytes := by
  cases count with
  | zero => rfl
  | succ count => simp only [readItems, readValue_skipSpace]

theorem readMembers_skipSpace (count : Nat) (bytes : Bytes) :
    readMembers count (skipSpace bytes) = readMembers count bytes := by
  cases count with
  | zero => rfl
  | succ count => simp only [readMembers, skipSpace_skipSpace]

theorem readValue_number {first : UInt8} {bytes rest : Bytes} {value : Number} (count : Nat)
    (noSpace : isSpace first = false) (noMark : isMark first = false)
    (read : readNumber (first :: bytes) = some (value, rest)) :
    readValue (count + 1) (first :: bytes) = some (number value, rest) := by
  simp only [isMark, List.contains_cons, Bool.or_eq_false_iff, beq_eq_false_iff_ne] at noMark
  rw [readValue, skipSpace_cons noSpace]
  split <;> simp_all

theorem readValue_array {count : Nat} {bytes rest : Bytes} {items : List Json}
    (head : ∃ first more, skipSpace bytes = first :: more ∧ first ≠ 0x5d)
    (read : readItems count bytes = some (items, rest)) :
    readValue (count + 1) (0x5b :: bytes) = some (array items, rest) := by
  rcases head with ⟨first, more, same, noEnd⟩
  rw [← readItems_skipSpace, same] at read
  rw [readValue, skipSpace_cons (by decide)]
  simp only [same]
  split
  · rename_i found
    exact absurd (List.cons.inj found).left noEnd
  · rw [read, Option.map_some]

theorem readItems_last {count : Nat} {bytes blank rest : Bytes} {item : Json}
    (areBlank : AreBlank blank)
    (read : readValue count bytes = some (item, blank ++ 0x5d :: rest)) :
    readItems (count + 1) bytes = some ([item], rest) := by
  rw [readItems, read]
  simp only [Option.bind_eq_bind, Option.bind_some, areBlank.skipSpace_append]
  rw [skipSpace_cons (by decide)]
  rfl

theorem readItems_next {count : Nat} {bytes blank following rest : Bytes} {item : Json}
    {items : List Json} (areBlank : AreBlank blank)
    (read : readValue count bytes = some (item, blank ++ 0x2c :: following))
    (others : readItems count following = some (items, rest)) :
    readItems (count + 1) bytes = some (item :: items, rest) := by
  rw [readItems, read]
  simp only [Option.bind_eq_bind, Option.bind_some, areBlank.skipSpace_append]
  rw [skipSpace_cons (by decide)]
  simp only [others, Option.bind_some]
  rfl

theorem readValue_object {count : Nat} {bytes rest : Bytes} {members : List (Content × Json)}
    (head : ∃ more, skipSpace bytes = 0x22 :: more)
    (read : readMembers count bytes = some (members, rest)) :
    readValue (count + 1) (0x7b :: bytes) = some (object members, rest) := by
  rcases head with ⟨more, same⟩
  rw [← readMembers_skipSpace, same] at read
  rw [readValue, skipSpace_cons (by decide)]
  simp only [same]
  split
  · rename_i found
    exact absurd (List.cons.inj found).left (by decide)
  · rw [read, Option.map_some]

theorem readMembers_last {count : Nat} {name : Content} {value : Json}
    {front bytes blank rest : Bytes} (spells : SpellsName name front) (areBlank : AreBlank blank)
    (read : readValue count bytes = some (value, blank ++ 0x7d :: rest)) :
    readMembers (count + 1) (front ++ bytes) = some ([(name, value)], rest) := by
  rcases spells.exists_reading bytes with ⟨inside, colon, head, named, ready⟩
  simp only [readMembers, head, named, ready, read, Option.bind_eq_bind, Option.bind_some,
    areBlank.skipSpace_append]
  rw [skipSpace_cons (by decide)]
  rfl

theorem readMembers_next {count : Nat} {name : Content} {value : Json}
    {front bytes blank following rest : Bytes} {members : List (Content × Json)}
    (spells : SpellsName name front) (areBlank : AreBlank blank)
    (read : readValue count bytes = some (value, blank ++ 0x2c :: following))
    (others : readMembers count following = some (members, rest)) :
    readMembers (count + 1) (front ++ bytes) = some ((name, value) :: members, rest) := by
  rcases spells.exists_reading bytes with ⟨inside, colon, head, named, ready⟩
  simp only [readMembers, head, named, ready, read, Option.bind_eq_bind, Option.bind_some,
    areBlank.skipSpace_append]
  rw [skipSpace_cons (by decide)]
  simp only [others, Option.bind_some]
  rfl

/-! ## Whole documents -/

mutual

theorem Spells.exists_readValue : ∀ {json : Json} {bytes : Bytes}, Spells json bytes →
    ∀ (count : Nat) (rest : Bytes), bytes.length ≤ count → EndsValue rest →
      ∃ blank, AreBlank blank ∧ readValue count (bytes ++ rest) = some (json, blank ++ rest)
  | _, _, @Spells.mk json before bytes after blankBefore spells blankAfter, count, rest, enough,
      ends => by
      refine ⟨after, blankAfter, ?_⟩
      rw [List.length_append, List.length_append] at enough
      have read := spells.readValue_append count (after ++ rest) (by omega)
        (blankAfter.endsValue_append ends)
      rw [List.append_assoc, List.append_assoc, ← readValue_skipSpace,
        blankBefore.skipSpace_append, readValue_skipSpace, read]

theorem SpellsValue.readValue_append : ∀ {json : Json} {bytes : Bytes}, SpellsValue json bytes →
    ∀ (count : Nat) (rest : Bytes), bytes.length ≤ count → EndsValue rest →
      readValue count (bytes ++ rest) = some (json, rest)
  | _, _, spells, 0, rest, enough, _ => by
      rcases spells.exists_head with ⟨first, more, rfl, -, -⟩
      simp at enough
  | _, _, .nothing, count + 1, rest, _, _ => rfl
  | _, _, .yes, count + 1, rest, _, _ => rfl
  | _, _, .no, count + 1, rest, _, _ => rfl
  | _, _, .number spells, count + 1, rest, _, ends => by
      have read := spells.readNumber_append ends
      rcases spells.exists_head with ⟨first, more, rfl, noSpace, noMark⟩
      exact readValue_number count noSpace noMark read
  | _, _, .string spells, count + 1, rest, _, _ => by
      rw [List.cons_append, readValue, skipSpace_cons (by decide)]
      simp only [spells.readContent_append, Option.map_some]
  | _, _, .emptyArray areBlank, count + 1, rest, _, _ => by
      rw [List.append_assoc, List.cons_append, readValue, skipSpace_cons (by decide)]
      simp only [areBlank.skipSpace_append]
      rfl
  | _, _, .array spells, count + 1, rest, enough, _ => by
      rw [List.length_cons] at enough
      exact readValue_array (spells.exists_head rest)
        (spells.readItems_append count rest (by omega))
  | _, _, .emptyObject areBlank, count + 1, rest, _, _ => by
      rw [List.append_assoc, List.cons_append, readValue, skipSpace_cons (by decide)]
      simp only [areBlank.skipSpace_append]
      rfl
  | _, _, .object spells, count + 1, rest, enough, _ => by
      rw [List.length_cons] at enough
      exact readValue_object (spells.exists_head rest)
        (spells.readMembers_append count rest (by omega))

theorem SpellsItems.readItems_append : ∀ {items : List Json} {bytes : Bytes},
    SpellsItems items bytes → ∀ (count : Nat) (rest : Bytes), bytes.length ≤ count →
      readItems count (bytes ++ rest) = some (items, rest)
  | _, _, .last spells, 0, rest, enough => by simp at enough
  | _, _, .next spells more, 0, rest, enough => by simp at enough
  | _, _, @SpellsItems.last item bytes spells, count + 1, rest, enough => by
      rw [List.length_append, List.length_singleton] at enough
      rcases spells.exists_readValue count (0x5d :: rest) (by omega) (by simp) with
        ⟨blank, areBlank, read⟩
      rw [List.append_assoc]
      exact readItems_last areBlank read
  | _, _, @SpellsItems.next item items bytes following spells more, count + 1, rest, enough => by
      rw [List.length_append, List.length_cons] at enough
      rcases spells.exists_readValue count (0x2c :: (following ++ rest)) (by omega) (by simp) with
        ⟨blank, areBlank, read⟩
      rw [List.append_assoc]
      exact readItems_next areBlank read (more.readItems_append count rest (by omega))

theorem SpellsMembers.readMembers_append : ∀ {members : List (Content × Json)} {bytes : Bytes},
    SpellsMembers members bytes → ∀ (count : Nat) (rest : Bytes), bytes.length ≤ count →
      readMembers count (bytes ++ rest) = some (members, rest)
  | _, _, .last spellsName spells, 0, rest, enough => by simp at enough
  | _, _, .next spellsName spells more, 0, rest, enough => by simp at enough
  | _, _, @SpellsMembers.last name value front bytes spellsName spells, count + 1, rest,
      enough => by
      rw [List.length_append, List.length_append, List.length_singleton] at enough
      rcases spells.exists_readValue count (0x7d :: rest) (by omega) (by simp) with
        ⟨blank, areBlank, read⟩
      rw [List.append_assoc, List.append_assoc]
      exact readMembers_last spellsName areBlank read
  | _, _, @SpellsMembers.next name value members front bytes following spellsName spells more,
      count + 1, rest, enough => by
      rw [List.length_append, List.length_append, List.length_cons] at enough
      rcases spells.exists_readValue count (0x2c :: (following ++ rest)) (by omega) (by simp) with
        ⟨blank, areBlank, read⟩
      rw [List.append_assoc, List.append_assoc]
      exact readMembers_next spellsName areBlank read
        (more.readMembers_append count rest (by omega))

end

/-- A document is read as what it spells. -/
theorem Spells.ofBytes?_eq {json : Json} {bytes : Bytes} (spells : Spells json bytes) :
    ofBytes? bytes = some json := by
  rcases spells.exists_readValue (bytes.length + 1) [] (by omega) endsValue_nil with
    ⟨blank, areBlank, read⟩
  have nothing : skipSpace blank = [] := by
    rw [← List.append_nil blank, areBlank.skipSpace_append]
    rfl
  rw [List.append_nil, List.append_nil] at read
  rw [ofBytes?, read]
  exact if_pos nothing

end Turnstile.Json
