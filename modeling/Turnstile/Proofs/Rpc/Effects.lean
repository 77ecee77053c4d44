import Turnstile.Proofs.Store.Memory
import Turnstile.Rpc.Server

/-!
What procedures may ask of the store. Only a registration creates, and only a change of a profile
updates, in which case it is the account of the caller.
-/

namespace Turnstile

open Turnstile.Store

namespace Auth

theorem Issuer.asks_login (issuer : Issuer) (moment : Moment) (email password : String) :
    (issuer.login moment email password).Asks Call.IsRead := by
  apply Dialogue.Asks.bind
  · exact asks_request _ rfl
  · intro credentials
    split
    · apply Dialogue.Asks.bind
      · exact asks_request _ rfl
      · intro account
        split
        · trivial
        · exact Dialogue.asks_ofExcept _
    · trivial

end Auth

namespace Rpc

open Auth Wire

theorem asks_exchange {Query Reply : Type} [Message Query] [Message Reply] {allowed : Call → Prop}
    {handler : Query → Session Auth.Error Reply} (asks : ∀ query, (handler query).Asks allowed)
    (body : Bytes) : (exchange handler body).Asks allowed := by
  rw [exchange]
  split
  · trivial
  · rename_i query read
    exact ((asks query).mapFailure _).map _

theorem asks_loginHandler (issuer : Issuer) (moment : Moment) (query : LoginRequest) :
    (loginHandler issuer moment query).Asks Call.IsRead := by
  apply Dialogue.Asks.bind
  · exact Dialogue.asks_ofExcept _
  · intro checked
    apply Dialogue.Asks.bind
    · exact issuer.asks_login moment query.email query.password
    · intro grant
      trivial

theorem asks_getProfileHandler (caller : Option Caller) (query : GetProfileRequest) :
    (getProfileHandler caller query).Asks Call.IsRead := by
  apply Dialogue.Asks.bind
  · exact Dialogue.asks_ofExcept _
  · intro caller
    trivial

theorem asks_updateProfileHandler_none (query : UpdateProfileRequest) :
    (updateProfileHandler none query).Asks Call.IsRead := trivial

theorem updateProfileHandler_some (caller : Caller) (query : UpdateProfileRequest) :
    updateProfileHandler (some caller) query = do
      .ofExcept (checkUpdateProfile query)
      let update ← .ofExcept (profileUpdateOf query)
      let account ← updateProfile caller update
      return { user := some (User.ofAccount account) } := rfl

theorem asks_updateProfileHandler_some (caller : Caller) (query : UpdateProfileRequest) :
    (updateProfileHandler (some caller) query).Asks (Call.Spares caller.account.id) := by
  rw [updateProfileHandler_some]
  apply Dialogue.Asks.bind
  · exact Dialogue.asks_ofExcept _
  · intro checked
    apply Dialogue.Asks.bind
    · exact Dialogue.asks_ofExcept _
    · intro update
      apply Dialogue.Asks.bind
      · apply asks_request
        exact .inr ⟨update.apply caller.account, rfl, rfl⟩
      · intro account
        trivial

end Rpc

end Turnstile
