import Turnstile.Json.Writer
import Turnstile.Proofs.Json.Spelling

/-!
A string is written in one of its spellings. Every byte of its text is written for itself, as it is
or escaped, so the argument goes byte by byte; that the bytes together are text is only used at the
end.
-/

namespace Turnstile.Json

open Turnstile.Text

def pieceOfByte (byte : UInt8) : Piece :=
  if byte < 0x20 ∧ byte ∉ [0x08, 0x09, 0x0a, 0x0c, 0x0d] then .unit byte.toNat else .byte byte

theorem hexUnit?_control : ∀ code : Fin 0x20,
    hexUnit? (ascii (['0', '0'] ++ Hex.fixed 2 code.val)) = some code.val := by
  decide

theorem spellsPieces_escapeByte (byte : UInt8) {pieces : List Piece} {bytes : Bytes}
    (more : SpellsPieces pieces bytes) :
    SpellsPieces (pieceOfByte byte :: pieces) (escapeByte byte ++ bytes) := by
  by_cases named : byte ∈ [0x22, 0x5c, 0x08, 0x09, 0x0a, 0x0c, 0x0d]
  · simp only [List.mem_cons, List.not_mem_nil, or_false] at named
    rcases named with rfl | rfl | rfl | rfl | rfl | rfl | rfl <;> exact .short rfl more
  · simp only [List.mem_cons, List.not_mem_nil, or_false, not_or] at named
    simp only [escapeByte, named, if_false]
    split
    · rename_i control
      have bound : byte.toNat < 0x20 := UInt8.lt_iff_toNat_lt.mp control
      have piece : pieceOfByte byte = .unit byte.toNat := by
        simp [pieceOfByte, control, named]
      rw [piece]
      exact .unit (hexUnit?_control ⟨byte.toNat, bound⟩) more
    · rename_i plain
      have piece : pieceOfByte byte = .byte byte := by
        simp [pieceOfByte, plain]
      rw [piece]
      exact .plain plain named.1 named.2.1 more

theorem piecesBytes?_unit {unit : Nat} (whole : unit < 0xd800) (rest : List Piece) :
    piecesBytes? (.unit unit :: rest) = (piecesBytes? rest).map (utf8OfCode unit ++ ·) := by
  have leading : isLeadingHalf unit = false := by
    simp [isLeadingHalf]
    omega
  have trailing : isTrailingHalf unit = false := by
    simp [isTrailingHalf]
    omega
  cases rest with
  | nil => simp [piecesBytes?, leading, trailing]
  | cons next rest =>
      cases next with
      | byte value => simp [piecesBytes?, leading, trailing]
      | unit value => simp [piecesBytes?, leading, trailing]

theorem utf8OfCode_control : ∀ code : Fin 0x20, utf8OfCode code.val = [UInt8.ofNat code.val] := by
  decide +kernel

theorem piecesBytes?_pieceOfByte (byte : UInt8) (rest : List Piece) :
    piecesBytes? (pieceOfByte byte :: rest) = (piecesBytes? rest).map (byte :: ·) := by
  rw [pieceOfByte]
  split
  · rename_i control
    have bound : byte.toNat < 0x20 := UInt8.lt_iff_toNat_lt.mp control.1
    rw [piecesBytes?_unit (by omega), utf8OfCode_control ⟨byte.toNat, bound⟩]
    simp
  · rw [piecesBytes?]

theorem piecesBytes?_map (bytes : Bytes) : piecesBytes? (bytes.map pieceOfByte) = some bytes := by
  induction bytes with
  | nil => rfl
  | cons byte bytes hypothesis =>
      rw [List.map_cons, piecesBytes?_pieceOfByte, hypothesis, Option.map_some]

theorem spellsPieces_escaped (bytes : Bytes) :
    SpellsPieces (bytes.map pieceOfByte) (bytes.flatMap escapeByte) := by
  induction bytes with
  | nil => exact .nothing
  | cons byte bytes induction =>
      rw [List.flatMap_cons]
      exact spellsPieces_escapeByte byte induction

def inside : Content → Bytes
  | some text => (Utf8.encode text).flatMap escapeByte ++ [0x22]
  | none => ascii ['\\', 'u', 'd', '8', '0', '0'] ++ [0x22]

theorem writeContent_eq (content : Content) : writeContent content = 0x22 :: inside content := by
  cases content <;> rfl

theorem spellsContent_inside (content : Content) : SpellsContent content (inside content) := by
  cases content with
  | none =>
      have half : hexUnit? [0x64, 0x38, 0x30, 0x30] = some 0xd800 := by decide
      exact .quoted (.unit half .nothing)
  | some text =>
      have spells := SpellsContent.quoted (spellsPieces_escaped (Utf8.encode text))
      rwa [Json.content, piecesBytes?_map, Option.bind_some, Utf8.decode?_encode] at spells

end Turnstile.Json
