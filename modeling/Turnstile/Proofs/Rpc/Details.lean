import Turnstile.Proofs.Rpc.Changes

/-!
Where the details of accounts come from. An account is registered without any, and later on they
are whatever has been read from the last message that brought some. So what is known of details that
have been read is known of all details in a store.
-/

namespace Turnstile.Rpc

open Turnstile.Auth Turnstile.Store Turnstile.Wire

def IsBrought (details : Account.Meta) : Prop :=
  ∃ sent : UserMeta, sent.toAccount = .ok details

theorem isBrought_empty : IsBrought {} :=
  ⟨{}, rfl⟩

theorem Rewrites.isBrought {query : UpdateProfileRequest} {now : Time.Instant}
    {before after : Account} (rewrites : Rewrites query now before after)
    (brought : IsBrought before.details) : IsBrought after.details := by
  cases carried : query.details with
  | none =>
      rw [rewrites.detailsKept carried]
      exact brought
  | some sent => exact ⟨sent, rewrites.detailsSet sent carried⟩

def AllBrought (memory : Memory) : Prop :=
  ∀ row ∈ memory.rows, IsBrought row.account.details

/-- One visit: registrations bring no details, and changes of profiles bring what they carry. -/
theorem Visit.allBrought (visit : Visit) (issuer : Issuer) {memory : Memory}
    (unique : memory.IsUnique) (brought : AllBrought memory) :
    AllBrought (visit.served issuer memory).2 := by
  refine (visit.changes_served issuer unique).forall_rows
    (fun row => IsBrought row.account.details) brought ?_ ?_
  · intro query salt applies salted inserted
    exact isBrought_empty
  · intro row query update stored brought asks rewrites
    exact rewrites.isBrought brought

theorem afterVisits_allBrought {issuer : Issuer} {memory : Memory} {visits : List Visit}
    (unique : memory.IsUnique) (fresh : AllFresh issuer memory visits)
    (brought : AllBrought memory) : AllBrought (afterVisits issuer memory visits) := by
  induction visits generalizing memory with
  | nil => exact brought
  | cons visit rest induction =>
      have kept := (visit.keeps issuer unique fresh.left).left
      exact induction kept fresh.right (visit.allBrought issuer unique brought)

/-- What accounts have as details can be sent back unless it was verified on one of two days. -/
theorem hasPlainYear_afterVisits_iff {issuer : Issuer} {visits : List Visit}
    (fresh : AllFresh issuer {} visits) {row : Row}
    (member : row ∈ (afterVisits issuer {} visits).rows) :
    row.account.details.hasPlainYear = false ↔ row.account.details.HasBorderDate := by
  have nothing : AllBrought {} := by
    intro row none
    cases none
  rcases afterVisits_allBrought Memory.isUnique_empty fresh nothing row member with ⟨sent, read⟩
  exact UserMeta.hasPlainYear_eq_false_iff read

end Turnstile.Rpc
