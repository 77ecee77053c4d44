import Turnstile.Proofs.Wire.Merging

/-!
Messages as they are written and read. What is read is merged into an empty message, so it is what
was written: what is not written is what is empty already. A text that is absent is told from an
empty one by its field being there or not, and so is a message within a message.
-/

namespace Turnstile.Wire

open Message

inductive Shape where
  | address
  | kyc
  | details
  | user
  | loginRequest
  | loginResponse
  | registerRequest
  | registerResponse
  | getProfileRequest
  | getProfileResponse
  | updateProfileRequest
  | updateProfileResponse
  deriving DecidableEq, Repr

namespace Shape

abbrev Value : Shape → Type
  | address => Address
  | kyc => Kyc
  | details => UserMeta
  | user => User
  | loginRequest => LoginRequest
  | loginResponse => LoginResponse
  | registerRequest => RegisterRequest
  | registerResponse => RegisterResponse
  | getProfileRequest => GetProfileRequest
  | getProfileResponse => GetProfileResponse
  | updateProfileRequest => UpdateProfileRequest
  | updateProfileResponse => UpdateProfileResponse

instance : (shape : Shape) → Message shape.Value
  | address => inferInstanceAs (Message Address)
  | kyc => inferInstanceAs (Message Kyc)
  | details => inferInstanceAs (Message UserMeta)
  | user => inferInstanceAs (Message User)
  | loginRequest => inferInstanceAs (Message LoginRequest)
  | loginResponse => inferInstanceAs (Message LoginResponse)
  | registerRequest => inferInstanceAs (Message RegisterRequest)
  | registerResponse => inferInstanceAs (Message RegisterResponse)
  | getProfileRequest => inferInstanceAs (Message GetProfileRequest)
  | getProfileResponse => inferInstanceAs (Message GetProfileResponse)
  | updateProfileRequest => inferInstanceAs (Message UpdateProfileRequest)
  | updateProfileResponse => inferInstanceAs (Message UpdateProfileResponse)

variable (shape : Shape)

def combine : (shape : Shape) → shape.Value → shape.Value → shape.Value
  | address => Address.combine
  | kyc => Kyc.combine
  | details => UserMeta.combine
  | user => User.combine
  | loginRequest => LoginRequest.combine
  | loginResponse => LoginResponse.combine
  | registerRequest => RegisterRequest.combine
  | registerResponse => RegisterResponse.combine
  | getProfileRequest => GetProfileRequest.combine
  | getProfileResponse => GetProfileResponse.combine
  | updateProfileRequest => UpdateProfileRequest.combine
  | updateProfileResponse => UpdateProfileResponse.combine

theorem isMerged : IsMerged shape.combine 4 := by
  cases shape with
  | address => exact Address.isMerged.mono (by decide)
  | kyc => exact Kyc.isMerged.mono (by decide)
  | details => exact UserMeta.isMerged.mono (by decide)
  | user => exact User.isMerged.mono (by decide)
  | loginRequest => exact LoginRequest.isMerged.mono (by decide)
  | loginResponse => exact LoginResponse.isMerged
  | registerRequest => exact RegisterRequest.isMerged.mono (by decide)
  | registerResponse => exact RegisterResponse.isMerged
  | getProfileRequest => exact GetProfileRequest.isMerged.mono (by decide)
  | getProfileResponse => exact GetProfileResponse.isMerged
  | updateProfileRequest => exact UpdateProfileRequest.isMerged.mono (by decide)
  | updateProfileResponse => exact UpdateProfileResponse.isMerged

theorem decode?_encode (message : shape.Value) :
    decode? (encode message) =
      if (fields message).all Field.isMeasured then some message else none :=
  (shape.isMerged.carries_empty (by decide) message).mergeBytes_eq

/-- Every message reads back from its bytes. The exception is one with a text, or a message within
it, of more bytes than 64 bits can count, and its own bytes are as many. So no two messages are
written alike, be it that one has an empty text or message where the other has none. -/
theorem bytes_read_back (message : shape.Value) :
    decode? (encode message) =
        (if (fields message).all Field.isMeasured then some message else none) ∧
      ((encode message).length < 0x10000000000000000 →
        decode? (encode message) = some message ∧
          ∀ other : shape.Value, encode other = encode message → other = message) := by
  refine ⟨shape.decode?_encode message, fun short => ?_⟩
  have read (any : shape.Value) (few : (encode any).length < 0x10000000000000000) :
      decode? (encode any) = some any := by
    rw [shape.decode?_encode, if_pos (Field.all_isMeasured_of_length few)]
  refine ⟨read message short, fun other same => ?_⟩
  have readOther := read other (same ▸ short)
  rw [same, read message short] at readOther
  exact (Option.some.inj readOther).symm

theorem empty_name_reads_back :
    (encode ({ name := some "" } : UpdateProfileRequest)).length < 0x10000000000000000 ∧
      decode? (encode ({ name := some "" } : UpdateProfileRequest)) =
        some ({ name := some "" } : UpdateProfileRequest) := by
  have short : (encode ({ name := some "" } : UpdateProfileRequest)).length <
      0x10000000000000000 := by decide +kernel
  exact ⟨short, ((bytes_read_back .updateProfileRequest { name := some "" }).right short).left⟩

end Shape

example : encode ({ name := none } : UpdateProfileRequest) = [] := by decide +kernel
example : encode ({ name := some "" } : UpdateProfileRequest) = [0x0a, 0x00] := by decide +kernel
example : encode ({ user := some {} } : GetProfileResponse) = [0x0a, 0x00] := by decide +kernel

end Turnstile.Wire
