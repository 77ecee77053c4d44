import Turnstile.Proofs.Rpc.Lasting

/-!
Registrations that fail and leave their row. The account is created first, and only then is a token
issued for it. If there can be none the caller is told of an internal error, and the email of the
account stands in the way of the same request from then on.
-/

namespace Turnstile.Rpc

open Turnstile.Auth Turnstile.Store Turnstile.Time Turnstile.Wire

namespace Visit

/-- A registration with which nothing is wrong, but for which no token can be issued: its end lies
beyond the calendar, or there are no random bytes any more. -/
structure Strands (visit : Visit) (issuer : Issuer) (memory : Memory) (query : RegisterRequest)
    (salt : Password.Salt) : Prop extends Applies visit.request query where
  vacant : memory.conflict? none query.email query.phoneNumber = none
  salted : visit.moment.salt = some salt
  tokenless : visit.moment.now.add? issuer.lifetime = none ∨ visit.moment.nonce = none

variable {visit : Visit} {issuer : Issuer} {memory : Memory} {query : RegisterRequest}
  {salt : Password.Salt}

theorem Strands.served_eq (strands : visit.Strands issuer memory query salt) :
    visit.served issuer memory =
      (.error (.ofError .internal), memory.insert (visit.row query salt)) := by
  rw [visit.served_of_free issuer strands.toApplies strands.vacant, strands.salted]
  dsimp only
  rw [Issuer.grant_of_tokenless strands.tokenless]
  rfl

theorem exists_strands {status : Status} (failed : (visit.served issuer memory).1 = .error status)
    (left : (visit.served issuer memory).2 ≠ memory) :
    ∃ query salt, visit.Strands issuer memory query salt := by
  by_cases registers : visit.request.path = Procedure.register.path
  · rcases visit.served_of_registers issuer memory registers with
      ⟨_, unchanged⟩ | ⟨query, salt, applies, salted, vacant, created⟩
    · exact absurd (congrArg Prod.snd unchanged) left
    · refine ⟨query, salt, applies, vacant, salted, ?_⟩
      by_contra possible
      rcases Issuer.exists_grant possible (visit.row query salt).account with ⟨grant, granted⟩
      rw [created, granted] at failed
      cases failed
  · have traceless := failsWithoutTrace_serve issuer visit.moment registers
    exact absurd (traceless visit.instant visit.freshId memory status failed) left

theorem Strands.served_again (strands : visit.Strands issuer memory query salt) {later : Memory}
    (grows : (memory.insert (visit.row query salt)).GrowsInto later) {again : Visit}
    (same : again.request = visit.request) :
    again.served issuer later = (.error (.ofError .emailExists), later) := by
  rcases grows.exists_mem (List.mem_append_right _ (List.mem_singleton_self _)) with
    ⟨row, member, becomes⟩
  have taken : later.HasEmail query.email := ⟨row, member, becomes.email⟩
  have applies : Applies again.request query := same ▸ strands.toApplies
  exact again.served_of_conflict issuer applies
    (Memory.conflict?_of_hasEmail taken query.phoneNumber)

end Visit

/-- A failed request leaves the store as it was, unless it is a registration that comes as far as
its token and gets none. Then its row is there, and whatever requests come after it, the same
request finds its own email taken. For this the rows must be unique before, as they are in every
store that requests lead to. -/
theorem failure_leaves_registered_row_or_nothing (issuer : Issuer) (visit : Visit)
    (memory : Memory) :
    ((¬ ∃ query salt, visit.Strands issuer memory query salt) →
      ∀ status, (visit.served issuer memory).1 = .error status →
        (visit.served issuer memory).2 = memory) ∧
    (∀ query salt, visit.Strands issuer memory query salt →
      visit.served issuer memory =
          (.error (.ofError .internal), memory.insert (visit.row query salt)) ∧
        ∀ again : Visit, again.request = visit.request →
          again.served issuer (visit.served issuer memory).2 =
              (.error (.ofError .emailExists), (visit.served issuer memory).2) ∧
            ∀ visits, memory.IsUnique → AllFresh issuer memory (visit :: visits) →
              again.served issuer (afterVisits issuer memory (visit :: visits)) =
                (.error (.ofError .emailExists), afterVisits issuer memory (visit :: visits))) ∧
    ∀ visits, AllFresh issuer {} visits → (afterVisits issuer {} visits).IsUnique := by
  refine ⟨?_, ?_, fun visits fresh => (afterVisits_keeps Memory.isUnique_empty fresh).left⟩
  · intro unstranded status failed
    by_contra left
    exact unstranded (Visit.exists_strands failed left)
  · intro query salt strands
    refine ⟨strands.served_eq, fun again same => ⟨?_, fun visits unique fresh => ?_⟩⟩
    · rw [strands.served_eq]
      exact strands.served_again (.refl _) same
    · have kept := (visit.keeps issuer unique fresh.left).left
      rcases afterVisits_keeps kept fresh.right with ⟨-, grows⟩
      rw [strands.served_eq] at grows
      refine strands.served_again ?_ same
      show Memory.GrowsInto _ (afterVisits issuer (visit.served issuer memory).2 visits)
      rw [strands.served_eq]
      exact grows

def endless : Issuer :=
  { codec := { key := ⟨⟨List.replicate 32 0, rfl⟩⟩, application := "bridge" }
    lifetime := .ofSeconds 8208566876760 }

theorem enrolment_strands :
    enrolment.Strands endless {} applicant ⟨List.replicate 16 0, rfl⟩ :=
  { registers := rfl
    read := by decide +kernel
    valid := rfl
    confirmed := rfl
    vacant := rfl
    salted := rfl
    tokenless := .inl (by decide +kernel) }

def otherEnrolment : Visit :=
  { enrolment with
    request :=
      { application with
        body := Message.encode
          { applicant with email := "grace@example.com", phoneNumber := "+2348000000002" } }
    freshId := .ofNat 1 }

theorem enrolment_stays_refused :
    enrolment.Strands endless {} applicant ⟨List.replicate 16 0, rfl⟩ ∧
      AllFresh endless {} [enrolment, otherEnrolment] ∧
      (enrolment.served endless (afterVisits endless {} [enrolment, otherEnrolment])).1 =
        .error (.ofError .emailExists) := by
  have fresh : AllFresh endless {} [enrolment, otherEnrolment] := by
    refine ⟨?_, ?_, trivial⟩
    · intro registers row member
      cases member
    · intro registers row member
      rw [enrolment_strands.served_eq] at member
      rw [List.mem_singleton.mp member]
      decide
  have refused := (failure_leaves_registered_row_or_nothing endless enrolment {}).right.left _ _
    enrolment_strands
  exact ⟨enrolment_strands, fresh, congrArg Prod.fst ((refused.right enrolment rfl).right
    [otherEnrolment] Memory.isUnique_empty fresh)⟩

/-- The registration fails, its row is there, and it cannot be made good. -/
theorem application_leaves_row :
    let served := enrolment.served endless {}
    served.1 = .error (.ofError .internal) ∧ served.2.size = 1 ∧ served.2 ≠ {} ∧
      (enrolment.served endless served.2).1 =
        .error ⟨.alreadyExists, "Email is already in use."⟩ := by
  intro served
  have ended : served = _ := enrolment_strands.served_eq
  refine ⟨congrArg Prod.fst ended, ?_, ?_, ?_⟩
  · rw [ended]
    rfl
  · rw [ended]
    intro same
    cases congrArg Memory.size same
  · rw [ended]
    exact congrArg Prod.fst (enrolment_strands.served_again (.refl _) rfl)

end Turnstile.Rpc
