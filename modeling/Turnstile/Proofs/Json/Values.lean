import Turnstile.Proofs.Json.Documents
import Turnstile.Proofs.Json.Numbers
import Turnstile.Proofs.Json.Strings

/-!
Every document is written in one of its spellings, the one without blanks. So it reads back from
its bytes.
-/

namespace Turnstile.Json

theorem writeItems_next (item other : Json) (items : List Json) :
    writeItems (item :: other :: items) = item.write ++ 0x2c :: writeItems (other :: items) := by
  rw [writeItems]
  exact fun same => absurd same (List.cons_ne_nil _ _)

theorem writeMembers_next (name : Content) (value : Json) (other : Content × Json)
    (members : List (Content × Json)) :
    writeMembers ((name, value) :: other :: members) =
      writeContent name ++ 0x3a :: value.write ++ 0x2c :: writeMembers (other :: members) := by
  rw [writeMembers]
  exact fun same => absurd same (List.cons_ne_nil _ _)

/-! ## Without blanks -/

theorem SpellsValue.spells {json : Json} {bytes : Bytes} (spells : SpellsValue json bytes) :
    Spells json bytes := by
  have padded := Spells.mk areBlank_nil spells areBlank_nil
  rwa [List.nil_append, List.append_nil] at padded

theorem spellsName_write (name : Content) : SpellsName name (writeContent name ++ [0x3a]) := by
  have spells := SpellsName.mk areBlank_nil (spellsContent_inside name) areBlank_nil
  rwa [List.nil_append, List.append_nil, ← writeContent_eq] at spells

mutual

theorem spellsValue_write : ∀ json : Json, SpellsValue json json.write
  | null => .nothing
  | bool true => .yes
  | bool false => .no
  | number value => .number (spellsNumber_write value)
  | string content => by
      rw [write, writeContent_eq]
      exact .string (spellsContent_inside content)
  | array [] => .emptyArray areBlank_nil
  | array (item :: items) => by
      rw [write]
      exact .array (spellsItems_write (item :: items) (List.cons_ne_nil _ _))
  | object [] => .emptyObject areBlank_nil
  | object (member :: members) => by
      rw [write]
      exact .object (spellsMembers_write (member :: members) (List.cons_ne_nil _ _))

theorem spellsItems_write : ∀ items : List Json, items ≠ [] →
    SpellsItems items (writeItems items)
  | [], nonempty => absurd rfl nonempty
  | [item], _ => .last (spellsValue_write item).spells
  | item :: other :: items, _ => by
      rw [writeItems_next]
      exact .next (spellsValue_write item).spells
        (spellsItems_write (other :: items) (List.cons_ne_nil _ _))

theorem spellsMembers_write : ∀ members : List (Content × Json), members ≠ [] →
    SpellsMembers members (writeMembers members)
  | [], nonempty => absurd rfl nonempty
  | [(name, value)], _ => by
      have last := SpellsMembers.last (spellsName_write name) (spellsValue_write value).spells
      rw [writeMembers]
      simpa only [List.append_assoc, List.singleton_append] using last
  | (name, value) :: other :: members, _ => by
      have next := SpellsMembers.next (spellsName_write name) (spellsValue_write value).spells
        (spellsMembers_write (other :: members) (List.cons_ne_nil _ _))
      rw [writeMembers_next]
      simpa only [List.append_assoc, List.singleton_append] using next

end

theorem spells_write (json : Json) : Spells json json.write :=
  (spellsValue_write json).spells

theorem ofBytes?_write (json : Json) : ofBytes? json.write = some json :=
  (spells_write json).ofBytes?_eq

end Turnstile.Json
