import Turnstile.Wire.Message

/-!
The messages of the two services. Times are texts here; an empty text is a time that is not set.
-/

namespace Turnstile.Wire

open Message

structure Address where
  line1 : String := ""
  line2 : String := ""
  city : String := ""
  state : String := ""
  country : String := ""
  postalCode : String := ""
  deriving DecidableEq

instance : Message Address where
  empty := {}
  fields address :=
    textField 1 address.line1 ++ textField 2 address.line2 ++ textField 3 address.city
      ++ textField 4 address.state ++ textField 5 address.country
      ++ textField 6 address.postalCode
  merge _ address field :=
    match field.number with
    | 1 => field.text?.map fun line1 => { address with line1 }
    | 2 => field.text?.map fun line2 => { address with line2 }
    | 3 => field.text?.map fun city => { address with city }
    | 4 => field.text?.map fun state => { address with state }
    | 5 => field.text?.map fun country => { address with country }
    | 6 => field.text?.map fun postalCode => { address with postalCode }
    | _ => some address

structure Kyc where
  documentType : String := ""
  documentNumber : String := ""
  dateOfBirth : String := ""
  address : Option Address := none
  verifiedAt : String := ""
  deriving DecidableEq

instance : Message Kyc where
  empty := {}
  fields kyc :=
    textField 1 kyc.documentType ++ textField 2 kyc.documentNumber ++ textField 3 kyc.dateOfBirth
      ++ messageField 4 kyc.address ++ textField 5 kyc.verifiedAt
  merge limit kyc field :=
    match field.number with
    | 1 => field.text?.map fun documentType => { kyc with documentType }
    | 2 => field.text?.map fun documentNumber => { kyc with documentNumber }
    | 3 => field.text?.map fun dateOfBirth => { kyc with dateOfBirth }
    | 4 => (mergeField limit kyc.address field).map fun address => { kyc with address }
    | 5 => field.text?.map fun verifiedAt => { kyc with verifiedAt }
    | _ => some kyc

structure UserMeta where
  kyc : Option Kyc := none
  deriving DecidableEq

instance : Message UserMeta where
  empty := {}
  fields details := messageField 1 details.kyc
  merge limit details field :=
    match field.number with
    | 1 => (mergeField limit details.kyc field).map fun kyc => { details with kyc }
    | _ => some details

structure User where
  id : String := ""
  name : String := ""
  email : String := ""
  phoneNumber : String := ""
  status : Int32 := 0
  details : Option UserMeta := none
  createdAt : String := ""
  updatedAt : String := ""
  deriving DecidableEq

instance : Message User where
  empty := {}
  fields user :=
    textField 1 user.id ++ textField 2 user.name ++ textField 3 user.email
      ++ textField 4 user.phoneNumber ++ int32Field 5 user.status ++ messageField 6 user.details
      ++ textField 7 user.createdAt ++ textField 8 user.updatedAt
  merge limit user field :=
    match field.number with
    | 1 => field.text?.map fun id => { user with id }
    | 2 => field.text?.map fun name => { user with name }
    | 3 => field.text?.map fun email => { user with email }
    | 4 => field.text?.map fun phoneNumber => { user with phoneNumber }
    | 5 => field.int32?.map fun status => { user with status }
    | 6 => (mergeField limit user.details field).map fun details => { user with details }
    | 7 => field.text?.map fun createdAt => { user with createdAt }
    | 8 => field.text?.map fun updatedAt => { user with updatedAt }
    | _ => some user

structure LoginRequest where
  email : String := ""
  password : String := ""
  deriving DecidableEq

instance : Message LoginRequest where
  empty := {}
  fields request := textField 1 request.email ++ textField 2 request.password
  merge _ request field :=
    match field.number with
    | 1 => field.text?.map fun email => { request with email }
    | 2 => field.text?.map fun password => { request with password }
    | _ => some request

structure LoginResponse where
  user : Option User := none
  accessToken : String := ""
  deriving DecidableEq

instance : Message LoginResponse where
  empty := {}
  fields response := messageField 1 response.user ++ textField 2 response.accessToken
  merge limit response field :=
    match field.number with
    | 1 => (mergeField limit response.user field).map fun user => { response with user }
    | 2 => field.text?.map fun accessToken => { response with accessToken }
    | _ => some response

structure RegisterRequest where
  name : String := ""
  email : String := ""
  phoneNumber : String := ""
  password : String := ""
  confirmPassword : String := ""
  deriving DecidableEq

instance : Message RegisterRequest where
  empty := {}
  fields request :=
    textField 1 request.name ++ textField 2 request.email ++ textField 3 request.phoneNumber
      ++ textField 4 request.password ++ textField 5 request.confirmPassword
  merge _ request field :=
    match field.number with
    | 1 => field.text?.map fun name => { request with name }
    | 2 => field.text?.map fun email => { request with email }
    | 3 => field.text?.map fun phoneNumber => { request with phoneNumber }
    | 4 => field.text?.map fun password => { request with password }
    | 5 => field.text?.map fun confirmPassword => { request with confirmPassword }
    | _ => some request

structure RegisterResponse where
  user : Option User := none
  accessToken : String := ""
  deriving DecidableEq

instance : Message RegisterResponse where
  empty := {}
  fields response := messageField 1 response.user ++ textField 2 response.accessToken
  merge limit response field :=
    match field.number with
    | 1 => (mergeField limit response.user field).map fun user => { response with user }
    | 2 => field.text?.map fun accessToken => { response with accessToken }
    | _ => some response

structure GetProfileRequest where
  deriving DecidableEq

instance : Message GetProfileRequest where
  empty := {}
  fields _ := []
  merge _ request _ := some request

structure GetProfileResponse where
  user : Option User := none
  deriving DecidableEq

instance : Message GetProfileResponse where
  empty := {}
  fields response := messageField 1 response.user
  merge limit response field :=
    match field.number with
    | 1 => (mergeField limit response.user field).map fun user => { response with user }
    | _ => some response

/-- A name and a phone number can be absent, which is not the same as being empty. -/
structure UpdateProfileRequest where
  name : Option String := none
  phoneNumber : Option String := none
  details : Option UserMeta := none
  deriving DecidableEq

instance : Message UpdateProfileRequest where
  empty := {}
  fields request :=
    optionalTextField 1 request.name ++ optionalTextField 2 request.phoneNumber
      ++ messageField 3 request.details
  merge limit request field :=
    match field.number with
    | 1 => field.text?.map fun name => { request with name }
    | 2 => field.text?.map fun phoneNumber => { request with phoneNumber }
    | 3 => (mergeField limit request.details field).map fun details => { request with details }
    | _ => some request

structure UpdateProfileResponse where
  user : Option User := none
  deriving DecidableEq

instance : Message UpdateProfileResponse where
  empty := {}
  fields response := messageField 1 response.user
  merge limit response field :=
    match field.number with
    | 1 => (mergeField limit response.user field).map fun user => { response with user }
    | _ => some response

end Turnstile.Wire
