import Turnstile.Proofs.Wire.Fields
import Turnstile.Wire.Messages

/-!
One message after another. The fields of a message, merged one by one into the message that is
there, set one part of it after the other. What is written replaces what was there, what is not
written leaves it, and messages within the two are put together in the same way. Merged into an
empty message, the fields of a message make up that message.
-/

namespace Turnstile.Wire

open Turnstile.Text

theorem ofNat_toInt_emod (value : Int32) :
    Int32.ofNat (value.toInt % 0x10000000000000000).toNat = value := by
  have parts : ((Int32.size : Nat) : Int) ∣ 0x10000000000000000 := by decide
  rw [← Int32.toInt_inj, Int32.toInt_ofNat', Int.toNat_of_nonneg (Int.emod_nonneg _ (by decide)),
    ← Int.emod_bmod, Int.emod_emod_of_dvd _ parts, Int.emod_bmod]
  exact value.toInt_bmod

namespace Field

theorem text?_encode (number : Nat) (text : String) :
    text? ⟨number, .delimited (Utf8.encode text)⟩ = some text :=
  Utf8.decode?_encode text

theorem int32?_encode (number : Nat) (value : Int32) :
    int32? ⟨number, .varint (value.toInt % 0x10000000000000000).toNat⟩ = some value :=
  congrArg some (ofNat_toInt_emod value)

end Field

/-! A text or a number that is not written leaves the one before. -/

def laterText (earlier later : String) : String :=
  if later = "" then earlier else later

def laterInt32 (earlier later : Int32) : Int32 :=
  if later = 0 then earlier else later

@[simp] theorem laterText_empty_left (later : String) : laterText "" later = later := by
  rw [laterText]
  split
  · rename_i unset
    exact unset.symm
  · rfl

@[simp] theorem laterText_empty_right (earlier : String) : laterText earlier "" = earlier :=
  if_pos rfl

@[simp] theorem laterInt32_zero_left (later : Int32) : laterInt32 0 later = later := by
  rw [laterInt32]
  split
  · rename_i unset
    exact unset.symm
  · rfl

@[simp] theorem laterInt32_zero_right (earlier : Int32) : laterInt32 earlier 0 = earlier :=
  if_pos rfl

namespace Message

/-- Fields that can be read, and that make one message of another when they are merged into it. -/
structure Carries {M : Type} [Message M] (limit : Nat) (fields : List Field) (before after : M) :
    Prop where
  plain : ∀ field ∈ fields, field.IsPlain
  merged : fields.all Field.isMeasured → fields.foldlM (merge limit) before = some after

/-- Two messages are put together, with others nested in them over so many levels. -/
structure IsMerged {M : Type} [Message M] (combine : M → M → M) (levels : Nat) : Prop where
  carries : ∀ limit, levels ≤ limit → ∀ earlier later,
    Carries limit (fields later) earlier (combine earlier later)
  empty_left : ∀ later, combine empty later = later
  empty_right : ∀ earlier, combine earlier empty = earlier

variable {M : Type} [Message M]

theorem IsMerged.mono {combine : M → M → M} {levels more : Nat} (merged : IsMerged combine levels)
    (le : levels ≤ more) : IsMerged combine more :=
  { merged with carries := fun limit deep => merged.carries limit (Nat.le_trans le deep) }

theorem Carries.mergeBytes_eq {limit : Nat} {before after message : M}
    (carries : Carries limit (fields message) before after) :
    mergeBytes limit before (encode message) =
      if (fields message).all Field.isMeasured then some after else none := by
  rw [mergeBytes, encode, Field.decodeAll?_encode carries.plain]
  split
  · rename_i measured
    exact carries.merged measured
  · rfl

theorem IsMerged.carries_empty {combine : M → M → M} {levels limit : Nat}
    (merged : IsMerged combine levels) (deep : levels ≤ limit) (message : M) :
    Carries limit (fields message) empty message := by
  have carries := merged.carries limit deep empty message
  rwa [merged.empty_left] at carries

namespace Carries

variable {limit : Nat} {before between after : M}

theorem nothing (message : M) : Carries limit [] message message where
  plain field member := by cases member
  merged _ := rfl

theorem append {first second : List Field} (carries : Carries limit first before between)
    (carriesMore : Carries limit second between after) :
    Carries limit (first ++ second) before after where
  plain field member := by
    rcases List.mem_append.mp member with inFirst | inSecond
    · exact carries.plain field inFirst
    · exact carriesMore.plain field inSecond
  merged measured := by
    rw [List.all_append, Bool.and_eq_true] at measured
    rw [List.foldlM_append, carries.merged measured.left]
    exact carriesMore.merged measured.right

theorem single {field : Field} (plain : field.IsPlain)
    (merged : field.isMeasured → merge limit before field = some after) :
    Carries limit [field] before after where
  plain other member := by
    rw [List.mem_singleton.mp member]
    exact plain
  merged measured := by
    rw [List.all_cons, List.all_nil, Bool.and_true] at measured
    rw [List.foldlM_cons, merged measured]
    rfl

/-! Each kind of part, written after others. How a message takes it in is what the message's own
merging says; a part that is not written is what it has been before. -/

section Parts

variable {row : List Field} {start : M} (carries : Carries limit row start before)
include carries

theorem text (number : Nat) (old text : String) {set : String → M}
    (merges : ∀ payload, merge limit before ⟨number, payload⟩ =
      (Field.text? ⟨number, payload⟩).map set)
    (unset : set old = before) (valid : Key.isNumber number) :
    Carries limit (row ++ textField number text) start (set (laterText old text)) := by
  apply carries.append
  rw [textField, laterText]
  split
  · rw [unset]
    exact .nothing before
  · refine .single ⟨valid, .delimited _⟩ fun _ => ?_
    rw [merges, Field.text?_encode, Option.map_some]

theorem optionalText (number : Nat) (old text : Option String) {set : Option String → M}
    (merges : ∀ payload, merge limit before ⟨number, payload⟩ =
      ((Field.text? ⟨number, payload⟩).bind fun text => some (some text)).map set)
    (unset : set old = before) (valid : Key.isNumber number) :
    Carries limit (row ++ optionalTextField number text) start (set (text.or old)) := by
  apply carries.append
  cases text with
  | none =>
      rw [Option.none_or, unset]
      exact .nothing before
  | some text =>
      refine .single ⟨valid, .delimited _⟩ fun _ => ?_
      rw [merges, Field.text?_encode, Option.bind_some, Option.map_some, Option.some_or]

theorem int32 (number : Nat) (old value : Int32) {set : Int32 → M}
    (merges : ∀ payload, merge limit before ⟨number, payload⟩ =
      (Field.int32? ⟨number, payload⟩).map set)
    (unset : set old = before) (valid : Key.isNumber number) :
    Carries limit (row ++ int32Field number value) start (set (laterInt32 old value)) := by
  apply carries.append
  rw [int32Field, laterInt32]
  split
  · rw [unset]
    exact .nothing before
  · have fits : (value.toInt % 0x10000000000000000).toNat < 0x10000000000000000 := by omega
    refine .single ⟨valid, .varint fits⟩ fun _ => ?_
    rw [merges, Field.int32?_encode, Option.map_some]

theorem message {N : Type} [Message N] {combine : N → N → N} {levels : Nat}
    (merged : IsMerged combine levels) (deep : levels < limit) (number : Nat)
    (old part : Option N) {set : Option N → M}
    (merges : ∀ payload, merge limit before ⟨number, payload⟩ =
      ((mergeField limit old ⟨number, payload⟩).bind fun part => some (some part)).map set)
    (unset : set old = before) (valid : Key.isNumber number) :
    Carries limit (row ++ messageField number part) start (set (old.merge combine part)) := by
  apply carries.append
  cases part with
  | none =>
      rw [Option.merge_none_right, unset]
      exact .nothing before
  | some part =>
      refine .single ⟨valid, .delimited _⟩ fun measured => ?_
      rw [Field.isMeasured, Payload.isMeasured, decide_eq_true_eq] at measured
      cases limit with
      | zero => cases deep
      | succ limit =>
          have inner := merged.carries limit (Nat.le_of_lt_succ deep) (old.getD empty) part
          have read : mergeField (limit + 1) old ⟨number, .delimited (encode part)⟩ =
              some (combine (old.getD empty) part) := by
            show mergeBytes limit (old.getD empty) (encode part) = _
            rw [inner.mergeBytes_eq, if_pos (Field.all_isMeasured_of_length measured)]
          have both : old.merge combine (some part) = some (combine (old.getD empty) part) := by
            cases old with
            | none => rw [Option.getD_none, merged.empty_left]; rfl
            | some old => rfl
          rw [merges, read, both, Option.bind_some, Option.map_some]

end Parts

end Carries

end Message

open Message

namespace Address

def combine (earlier later : Address) : Address where
  line1 := laterText earlier.line1 later.line1
  line2 := laterText earlier.line2 later.line2
  city := laterText earlier.city later.city
  state := laterText earlier.state later.state
  country := laterText earlier.country later.country
  postalCode := laterText earlier.postalCode later.postalCode

theorem isMerged : IsMerged combine 0 where
  carries limit deep earlier later := Carries.nothing earlier
    |>.text 1 earlier.line1 later.line1 (fun _ => rfl) rfl rfl
    |>.text 2 earlier.line2 later.line2 (fun _ => rfl) rfl rfl
    |>.text 3 earlier.city later.city (fun _ => rfl) rfl rfl
    |>.text 4 earlier.state later.state (fun _ => rfl) rfl rfl
    |>.text 5 earlier.country later.country (fun _ => rfl) rfl rfl
    |>.text 6 earlier.postalCode later.postalCode (fun _ => rfl) rfl rfl
  empty_left later := by simp [combine, empty]
  empty_right earlier := by simp [combine, empty]

end Address

namespace Kyc

def combine (earlier later : Kyc) : Kyc where
  documentType := laterText earlier.documentType later.documentType
  documentNumber := laterText earlier.documentNumber later.documentNumber
  dateOfBirth := laterText earlier.dateOfBirth later.dateOfBirth
  address := earlier.address.merge Address.combine later.address
  verifiedAt := laterText earlier.verifiedAt later.verifiedAt

theorem isMerged : IsMerged combine 1 where
  carries limit deep earlier later := Carries.nothing earlier
    |>.text 1 earlier.documentType later.documentType (fun _ => rfl) rfl rfl
    |>.text 2 earlier.documentNumber later.documentNumber (fun _ => rfl) rfl rfl
    |>.text 3 earlier.dateOfBirth later.dateOfBirth (fun _ => rfl) rfl rfl
    |>.message Address.isMerged deep 4 earlier.address later.address (fun _ => rfl) rfl rfl
    |>.text 5 earlier.verifiedAt later.verifiedAt (fun _ => rfl) rfl rfl
  empty_left later := by simp [combine, empty]
  empty_right earlier := by simp [combine, empty]

end Kyc

namespace UserMeta

def combine (earlier later : UserMeta) : UserMeta where
  kyc := earlier.kyc.merge Kyc.combine later.kyc

theorem isMerged : IsMerged combine 2 where
  carries limit deep earlier later := Carries.nothing earlier
    |>.message Kyc.isMerged deep 1 earlier.kyc later.kyc (fun _ => rfl) rfl rfl
  empty_left later := by simp [combine, empty]
  empty_right earlier := by simp [combine, empty]

end UserMeta

namespace User

def combine (earlier later : User) : User where
  id := laterText earlier.id later.id
  name := laterText earlier.name later.name
  email := laterText earlier.email later.email
  phoneNumber := laterText earlier.phoneNumber later.phoneNumber
  status := laterInt32 earlier.status later.status
  details := earlier.details.merge UserMeta.combine later.details
  createdAt := laterText earlier.createdAt later.createdAt
  updatedAt := laterText earlier.updatedAt later.updatedAt

theorem isMerged : IsMerged combine 3 where
  carries limit deep earlier later := Carries.nothing earlier
    |>.text 1 earlier.id later.id (fun _ => rfl) rfl rfl
    |>.text 2 earlier.name later.name (fun _ => rfl) rfl rfl
    |>.text 3 earlier.email later.email (fun _ => rfl) rfl rfl
    |>.text 4 earlier.phoneNumber later.phoneNumber (fun _ => rfl) rfl rfl
    |>.int32 5 earlier.status later.status (fun _ => rfl) rfl rfl
    |>.message UserMeta.isMerged deep 6 earlier.details later.details (fun _ => rfl) rfl rfl
    |>.text 7 earlier.createdAt later.createdAt (fun _ => rfl) rfl rfl
    |>.text 8 earlier.updatedAt later.updatedAt (fun _ => rfl) rfl rfl
  empty_left later := by simp [combine, empty]
  empty_right earlier := by simp [combine, empty]

end User

namespace LoginRequest

def combine (earlier later : LoginRequest) : LoginRequest where
  email := laterText earlier.email later.email
  password := laterText earlier.password later.password

theorem isMerged : IsMerged combine 0 where
  carries limit deep earlier later := Carries.nothing earlier
    |>.text 1 earlier.email later.email (fun _ => rfl) rfl rfl
    |>.text 2 earlier.password later.password (fun _ => rfl) rfl rfl
  empty_left later := by simp [combine, empty]
  empty_right earlier := by simp [combine, empty]

end LoginRequest

namespace LoginResponse

def combine (earlier later : LoginResponse) : LoginResponse where
  user := earlier.user.merge User.combine later.user
  accessToken := laterText earlier.accessToken later.accessToken

theorem isMerged : IsMerged combine 4 where
  carries limit deep earlier later := Carries.nothing earlier
    |>.message User.isMerged deep 1 earlier.user later.user (fun _ => rfl) rfl rfl
    |>.text 2 earlier.accessToken later.accessToken (fun _ => rfl) rfl rfl
  empty_left later := by simp [combine, empty]
  empty_right earlier := by simp [combine, empty]

end LoginResponse

namespace RegisterRequest

def combine (earlier later : RegisterRequest) : RegisterRequest where
  name := laterText earlier.name later.name
  email := laterText earlier.email later.email
  phoneNumber := laterText earlier.phoneNumber later.phoneNumber
  password := laterText earlier.password later.password
  confirmPassword := laterText earlier.confirmPassword later.confirmPassword

theorem isMerged : IsMerged combine 0 where
  carries limit deep earlier later := Carries.nothing earlier
    |>.text 1 earlier.name later.name (fun _ => rfl) rfl rfl
    |>.text 2 earlier.email later.email (fun _ => rfl) rfl rfl
    |>.text 3 earlier.phoneNumber later.phoneNumber (fun _ => rfl) rfl rfl
    |>.text 4 earlier.password later.password (fun _ => rfl) rfl rfl
    |>.text 5 earlier.confirmPassword later.confirmPassword (fun _ => rfl) rfl rfl
  empty_left later := by simp [combine, empty]
  empty_right earlier := by simp [combine, empty]

end RegisterRequest

namespace RegisterResponse

def combine (earlier later : RegisterResponse) : RegisterResponse where
  user := earlier.user.merge User.combine later.user
  accessToken := laterText earlier.accessToken later.accessToken

theorem isMerged : IsMerged combine 4 where
  carries limit deep earlier later := Carries.nothing earlier
    |>.message User.isMerged deep 1 earlier.user later.user (fun _ => rfl) rfl rfl
    |>.text 2 earlier.accessToken later.accessToken (fun _ => rfl) rfl rfl
  empty_left later := by simp [combine, empty]
  empty_right earlier := by simp [combine, empty]

end RegisterResponse

namespace GetProfileRequest

def combine (_earlier _later : GetProfileRequest) : GetProfileRequest :=
  {}

theorem isMerged : IsMerged combine 0 where
  carries _ _ earlier _ := Carries.nothing earlier
  empty_left _ := rfl
  empty_right _ := rfl

end GetProfileRequest

namespace GetProfileResponse

def combine (earlier later : GetProfileResponse) : GetProfileResponse where
  user := earlier.user.merge User.combine later.user

theorem isMerged : IsMerged combine 4 where
  carries limit deep earlier later := Carries.nothing earlier
    |>.message User.isMerged deep 1 earlier.user later.user (fun _ => rfl) rfl rfl
  empty_left later := by simp [combine, empty]
  empty_right earlier := by simp [combine, empty]

end GetProfileResponse

namespace UpdateProfileRequest

def combine (earlier later : UpdateProfileRequest) : UpdateProfileRequest where
  name := later.name.or earlier.name
  phoneNumber := later.phoneNumber.or earlier.phoneNumber
  details := earlier.details.merge UserMeta.combine later.details

theorem isMerged : IsMerged combine 3 where
  carries limit deep earlier later := Carries.nothing earlier
    |>.optionalText 1 earlier.name later.name (fun _ => rfl) rfl rfl
    |>.optionalText 2 earlier.phoneNumber later.phoneNumber (fun _ => rfl) rfl rfl
    |>.message UserMeta.isMerged deep 3 earlier.details later.details (fun _ => rfl) rfl rfl
  empty_left later := by simp [combine, empty]
  empty_right earlier := by simp [combine, empty]

end UpdateProfileRequest

namespace UpdateProfileResponse

def combine (earlier later : UpdateProfileResponse) : UpdateProfileResponse where
  user := earlier.user.merge User.combine later.user

theorem isMerged : IsMerged combine 4 where
  carries limit deep earlier later := Carries.nothing earlier
    |>.message User.isMerged deep 1 earlier.user later.user (fun _ => rfl) rfl rfl
  empty_left later := by simp [combine, empty]
  empty_right earlier := by simp [combine, empty]

end UpdateProfileResponse

end Turnstile.Wire
