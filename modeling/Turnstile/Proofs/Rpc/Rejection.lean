import Turnstile.Proofs.Rpc.HandOver
import Turnstile.Proofs.Text.Percent
import Turnstile.Rpc.Status

/-!
A refusal on its way to the caller. Its code always arrives, and every message can stand in a
header. The message arrives as it is, too, unless it holds a percent sign that two hexadecimal
digits follow: that is read as one byte.
-/

namespace Turnstile.Rpc

open Turnstile.Auth Turnstile.Text

namespace Status

theorem isHeaderText_encode (message : String) : isHeaderText (Percent.encode message) = true := by
  apply isHeaderText_of_isPlain
  intro letter member
  have visible := Percent.isVisible_of_mem_encode letter member
  rcases (Percent.isVisible_iff letter).mp visible with ⟨least, greatest⟩
  exact ⟨Nat.le_of_succ_le least, greatest⟩

theorem messageValue?_eq (message : String) :
    messageValue? message = some (Percent.encode message) := by
  have legal : (Utf8.encode (Percent.encode message)).all Header.isLegalByte = true := by
    have readable := all_isHeaderByte_encode (Percent.encode message)
    rw [isHeaderText_encode, List.all_eq_true] at readable
    exact List.all_eq_true.mpr fun byte member => isLegalByte_of_isHeaderByte (readable byte member)
  rw [messageValue?]
  exact if_pos legal

theorem headers_eq (status : Status) :
    status.headers =
      ("content-type", "application/grpc")
        :: (if status.message = "" then [] else [(messageName, Percent.encode status.message)])
        ++ [(codeName, String.ofList (Decimal.ofNat status.code.number))] := by
  rw [headers, messageValue?_eq]
  split <;> rfl

theorem lookup_codeName (status : Status) :
    status.headers.lookup codeName = some (String.ofList (Decimal.ofNat status.code.number)) := by
  rw [headers_eq]
  split <;> rfl

theorem lookup_messageName (status : Status) :
    status.headers.lookup messageName =
      if status.message = "" then none else some (Percent.encode status.message) := by
  rw [headers_eq]
  split <;> rfl

theorem decode?_empty : Percent.decode? "" = some "" := by decide +kernel

theorem ofHeaders?_headers (status : Status) :
    ofHeaders? status.headers = (Percent.decode? status.message).map (Status.mk status.code) := by
  have number : Decimal.ofChars? (Decimal.ofNat status.code.number) = some status.code.number :=
    Decimal.ofChars?_eq_some_iff.mpr
      ⟨Decimal.areDigits_ofNat _, Decimal.ofNat_ne_nil _, Decimal.value_ofNat _⟩
  rw [ofHeaders?, lookup_codeName, lookup_messageName]
  simp only [Option.bind_eq_bind, Option.bind_some, String.toList_ofList, number,
    Code.ofNumber?_number]
  by_cases empty : status.message = ""
  · rw [if_pos empty, empty, decode?_empty]
    rfl
  · rw [if_neg empty]
    dsimp only
    rw [Percent.decode?_encode]
    cases Percent.decode? status.message with
    | none => rfl
    | some message => rfl

theorem ofHeaders?_headers_eq_some_iff (status : Status) :
    ofHeaders? status.headers = some status ↔ ¬ Percent.HoldsEscape (Utf8.encode status.message) := by
  rw [ofHeaders?_headers, ← Percent.decode?_eq_self_iff]
  cases Percent.decode? status.message with
  | none => simp
  | some message =>
      rw [Option.map_some, Option.some.injEq, Option.some.injEq]
      constructor
      · exact congrArg Status.message
      · rintro rfl
        rfl

theorem all_isHeaderText_headers (status : Status) :
    status.headers.all (fun header => isHeaderText header.2) = true := by
  have number : ∀ code : Code, isHeaderText (String.ofList (Decimal.ofNat code.number)) = true := by
    intro code
    cases code <;> decide +kernel
  rw [List.all_eq_true]
  intro header member
  rw [headers_eq] at member
  rcases List.mem_append.mp member with member | member
  · rcases List.mem_cons.mp member with rfl | member
    · decide
    · split at member
      · cases member
      · rw [List.mem_singleton.mp member]
        exact isHeaderText_encode status.message
  · rw [List.mem_singleton.mp member]
    exact number status.code

theorem not_holdsEscape_message (error : Auth.Error) :
    error = .invalidArgument error.message ∨
      ¬ Percent.HoldsEscape (Utf8.encode error.message) := by
  cases error with
  | invalidArgument message => exact .inl rfl
  | _ => exact .inr (Percent.not_holdsEscape_of_not_mem (by decide +kernel))

/-- A refusal is answered with a code and a message that a header can hold, and the caller reads
both as they were, except for a message with a percent sign that two hexadecimal digits follow. -/
theorem rejections_arrive_unless_escaped (error : Auth.Error) :
    (ofError error).headers.all (fun header => isHeaderText header.2) = true ∧
      messageValue? error.message = some (Percent.encode error.message) ∧
      ofHeaders? (ofError error).headers =
        (Percent.decode? error.message).map (Status.mk (.ofKind error.kind)) ∧
      (ofHeaders? (ofError error).headers = some (ofError error) ↔
        ¬ Percent.HoldsEscape (Utf8.encode error.message)) ∧
      (error = .invalidArgument error.message ∨
        ofHeaders? (ofError error).headers = some (ofError error)) := by
  have arrives := ofHeaders?_headers_eq_some_iff (ofError error)
  refine ⟨all_isHeaderText_headers _, messageValue?_eq _, ofHeaders?_headers _, arrives, ?_⟩
  rcases not_holdsEscape_message error with argument | free
  · exact .inl argument
  · exact .inr (arrives.mpr free)

theorem escaped_message_is_read_as_letter :
    ofHeaders? (ofError (.invalidArgument "%41")).headers = some ⟨.invalidArgument, "A"⟩ ∧
      ofHeaders? (ofError (.invalidArgument "%41")).headers ≠
        some (ofError (.invalidArgument "%41")) := by
  decide +kernel

end Status

end Turnstile.Rpc
