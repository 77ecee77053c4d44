import Mathlib.Algebra.Group.Nat.Defs
import Turnstile.Token.Codec

/-!
Frames are told apart. A piece ends where the length before it says, so a reader never has to guess:
what begins with a frame begins with its pieces, and nothing but their number can go on after the
last of them. What is bound to a sealed text as the frame of a header, a nonce and a footer is thus
bound to each of the three.
-/

namespace Turnstile

theorem Bytes.toNat_littleEndian (count value : Nat) :
    toNat (littleEndian count value) = value % 256 ^ count := by
  induction count generalizing value with
  | zero => rw [littleEndian, toNat, Nat.pow_zero, Nat.mod_one]
  | succ count induction =>
      have byte : (UInt8.ofNat (value % 256)).toNat = value % 256 :=
        Nat.mod_mod value 256
      rw [littleEndian, toNat, induction, byte, Nat.pow_succ', Nat.mod_mul]

namespace Token

open Turnstile.Text
open Crypto.ChaCha20 (Nonce)

def lengthLimit : Nat := 0x8000000000000000

def AreShort (pieces : List Bytes) : Prop :=
  ∀ piece ∈ pieces, piece.length < lengthLimit

instance (pieces : List Bytes) : Decidable (AreShort pieces) :=
  inferInstanceAs (Decidable (∀ piece ∈ pieces, piece.length < lengthLimit))

theorem length_lengthBytes (length : Nat) : (lengthBytes length).length = 8 :=
  Bytes.length_littleEndian 8 _

theorem lengthBytes_eq_iff (left right : Nat) :
    lengthBytes left = lengthBytes right ↔ left % lengthLimit = right % lengthLimit := by
  have read (length : Nat) : Bytes.toNat (lengthBytes length) = length % lengthLimit := by
    rw [lengthBytes, Bytes.toNat_littleEndian, lengthLimit]
    omega
  constructor
  · intro same
    rw [← read, ← read, same]
  · intro same
    rw [lengthBytes, lengthBytes]
    exact congrArg (Bytes.littleEndian 8) same

theorem lengthBytes_inj {left right : Nat} (leftShort : left < lengthLimit)
    (rightShort : right < lengthLimit) : lengthBytes left = lengthBytes right ↔ left = right := by
  rw [lengthBytes_eq_iff, Nat.mod_eq_of_lt leftShort, Nat.mod_eq_of_lt rightShort]

theorem append_isPrefix_append_iff {first second : Bytes}
    (sameLength : first.length = second.length) (rest more : Bytes) :
    first ++ rest <+: second ++ more ↔ first = second ∧ rest <+: more := by
  constructor
  · rintro ⟨tail, same⟩
    rw [List.append_assoc] at same
    rcases List.append_inj same sameLength with ⟨rfl, rfl⟩
    exact ⟨rfl, List.prefix_append rest tail⟩
  · rintro ⟨rfl, begins⟩
    exact (List.prefix_append_right_inj first).mpr begins

def framePiece (piece : Bytes) : Bytes :=
  lengthBytes piece.length ++ piece

theorem frame_eq (pieces : List Bytes) :
    frame pieces = lengthBytes pieces.length ++ pieces.flatMap framePiece := rfl

theorem framePiece_append_isPrefix_iff {piece other : Bytes} (short : piece.length < lengthLimit)
    (otherShort : other.length < lengthLimit) (rest more : Bytes) :
    framePiece piece ++ rest <+: framePiece other ++ more ↔ piece = other ∧ rest <+: more := by
  rw [framePiece, framePiece, List.append_assoc, List.append_assoc,
    append_isPrefix_append_iff (by rw [length_lengthBytes, length_lengthBytes]),
    lengthBytes_inj short otherShort]
  constructor
  · rintro ⟨sameLength, begins⟩
    exact (append_isPrefix_append_iff sameLength rest more).mp begins
  · rintro ⟨rfl, begins⟩
    exact ⟨rfl, (append_isPrefix_append_iff rfl rest more).mpr ⟨rfl, begins⟩⟩

theorem framePiece_append_ne_nil (piece rest : Bytes) : framePiece piece ++ rest ≠ [] := by
  intro empty
  have length := congrArg List.length empty
  rw [framePiece, List.append_assoc, List.length_append, length_lengthBytes] at length
  simp at length

theorem flatMap_framePiece_isPrefix_iff {left right : List Bytes} (leftShort : AreShort left)
    (rightShort : AreShort right) :
    left.flatMap framePiece <+: right.flatMap framePiece ↔ left <+: right := by
  induction left generalizing right with
  | nil => exact iff_of_true (List.nil_prefix) (List.nil_prefix)
  | cons piece left induction =>
      rcases List.forall_mem_cons.mp leftShort with ⟨short, leftShort⟩
      cases right with
      | nil =>
          refine iff_of_false (fun begins => ?_) (fun begins => ?_)
          · exact framePiece_append_ne_nil piece _ (List.prefix_nil.mp begins)
          · cases List.prefix_nil.mp begins
      | cons other right =>
          rcases List.forall_mem_cons.mp rightShort with ⟨otherShort, rightShort⟩
          rw [List.flatMap_cons, List.flatMap_cons,
            framePiece_append_isPrefix_iff short otherShort, induction leftShort rightShort,
            List.cons_prefix_cons]

theorem frame_isPrefix_iff {left right : List Bytes} (leftShort : AreShort left)
    (rightShort : AreShort right) :
    frame left <+: frame right ↔
      left <+: right ∧ left.length % lengthLimit = right.length % lengthLimit := by
  rw [frame_eq, frame_eq,
    append_isPrefix_append_iff (by rw [length_lengthBytes, length_lengthBytes]),
    lengthBytes_eq_iff, flatMap_framePiece_isPrefix_iff leftShort rightShort, and_comm]

theorem frame_inj {left right : List Bytes} (leftShort : AreShort left)
    (rightShort : AreShort right) : frame left = frame right ↔ left = right := by
  constructor
  · intro same
    have forward := (frame_isPrefix_iff leftShort rightShort).mp (same ▸ List.prefix_refl _)
    have backward := (frame_isPrefix_iff rightShort leftShort).mp (same ▸ List.prefix_refl _)
    exact forward.left.eq_of_length_le backward.left.length_le
  · exact congrArg frame

theorem frame_isPrefix_iff_eq {left right : List Bytes} (leftShort : AreShort left)
    (rightShort : AreShort right) (few : right.length < lengthLimit) :
    frame left <+: frame right ↔ left = right := by
  rw [frame_isPrefix_iff leftShort rightShort]
  constructor
  · rintro ⟨begins, sameNumber⟩
    rw [Nat.mod_eq_of_lt few, Nat.mod_eq_of_lt (Nat.lt_of_le_of_lt begins.length_le few)]
      at sameNumber
    exact begins.eq_of_length sameNumber
  · rintro rfl
    exact ⟨List.prefix_refl left, rfl⟩

theorem areShort_associated (nonce : Nonce) :
    AreShort [Utf8.encode header, nonce.bytes, []] := by
  have nonceShort : nonce.bytes.length < lengthLimit := by
    rw [nonce.length_bytes]
    decide
  simp only [AreShort, List.forall_mem_cons]
  exact ⟨by decide +kernel, nonceShort, by decide, fun _ member => by cases member⟩

/-- Whatever the number of the pieces is, a frame has no other pieces. It is the beginning of
another frame only if the pieces go on there by a multiple of `2 ^ 63` of them; so among lists of
fewer pieces, and no memory holds others, it never is. For a header, a nonce and a footer this says
that no others have the same associated data, those of a token in particular. -/
theorem frames_tell_pieces_apart :
    (∀ left right : List Bytes, AreShort left → AreShort right →
      (frame left = frame right ↔ left = right) ∧
        (frame left <+: frame right ↔
          left <+: right ∧ left.length % lengthLimit = right.length % lengthLimit) ∧
        (right.length < lengthLimit → (frame left <+: frame right ↔ left = right))) ∧
      ∀ header' nonce' footer' : Bytes, AreShort [header', nonce', footer'] →
        (∀ header nonce footer : Bytes, AreShort [header, nonce, footer] →
          (frame [header, nonce, footer] = frame [header', nonce', footer'] ↔
            header = header' ∧ nonce = nonce' ∧ footer = footer')) ∧
        ∀ nonce : Nonce,
          (associated nonce.bytes = frame [header', nonce', footer'] ↔
            Utf8.encode header = header' ∧ nonce.bytes = nonce' ∧ [] = footer') := by
  have triples {header nonce footer header' nonce' footer' : Bytes}
      (short : AreShort [header, nonce, footer]) (short' : AreShort [header', nonce', footer']) :
      frame [header, nonce, footer] = frame [header', nonce', footer'] ↔
        header = header' ∧ nonce = nonce' ∧ footer = footer' := by
    rw [frame_inj short short', List.cons.injEq, List.cons.injEq, List.cons.injEq]
    simp only [and_true]
  constructor
  · intro left right leftShort rightShort
    exact ⟨frame_inj leftShort rightShort, frame_isPrefix_iff leftShort rightShort,
      frame_isPrefix_iff_eq leftShort rightShort⟩
  · intro header' nonce' footer' short'
    exact ⟨fun header nonce footer short => triples short short',
      fun nonce => triples (areShort_associated nonce) short'⟩

theorem shifted_cuts_are_told_apart :
    (AreShort [[1], [2, 3]] ∧ AreShort [[1, 2], [3], []] ∧ [[1, 2], [3], []].length < lengthLimit ∧
      ¬ frame [[1], [2, 3]] <+: frame [[1, 2], [3], []]) ∧
    AreShort [[1], [2], [3]] ∧ frame [[1], [2], [3]] ≠ frame [[1, 2], [3], []] := by
  have left : AreShort [[1], [2, 3]] := by decide
  have middle : AreShort [[1], [2], [3]] := by decide
  have right : AreShort [[1, 2], [3], []] := by decide
  have few : [[1, 2], [3], ([] : Bytes)].length < lengthLimit := by decide
  rcases frames_tell_pieces_apart with ⟨lists, triples⟩
  refine ⟨⟨left, right, few, ?_⟩, middle, ?_⟩
  · rw [((lists _ _ left right).right.right few)]
    decide
  · rw [ne_eq, (triples _ _ _ right).left _ _ _ middle]
    decide

end Token

end Turnstile
