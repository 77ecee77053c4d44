import Mathlib.Data.List.Induction
import Turnstile.Proofs.Rpc.Profile

/-!
What requests make of the rows of a store. A visit changes nothing, or it adds the row of a
registration at the end, or it rewrites one row as its body asks for. So what holds of the rows that
registrations bring, and of a row that is rewritten if it has held before, holds of all rows.
-/

namespace Turnstile.Rpc

open Turnstile.Auth Turnstile.Store Turnstile.Wire

namespace Visit

/-- What a visit may leave behind. -/
inductive Changes (visit : Visit) (memory : Memory) : Memory → Prop
  | nothing : visit.Changes memory memory
  | registered {query : RegisterRequest} {salt : Password.Salt}
      (applies : Applies visit.request query) (salted : visit.moment.salt = some salt) :
      visit.Changes memory (memory.insert (visit.row query salt))
  | rewritten {row : Row} {query : UpdateProfileRequest} {update : ProfileUpdate}
      {stored : Account} {after : Memory} (member : row ∈ memory.rows)
      (asks : AsksFor visit.request.body query update)
      (rewrites : Rewrites query visit.instant row.account stored)
      (swaps : Memory.Swaps row stored memory after) : visit.Changes memory after

theorem changes_served (visit : Visit) (issuer : Issuer) {memory : Memory}
    (unique : memory.IsUnique) : visit.Changes memory (visit.served issuer memory).2 := by
  by_cases unchanged : (visit.served issuer memory).2 = memory
  · rw [unchanged]
    exact .nothing
  · have ended := run_serve (Memory.respond visit.instant visit.freshId) memory issuer visit.moment
      visit.request
    rcases changes_of_attributed visit.instant visit.freshId memory issuer visit.moment
      (congrArg Prod.snd ended).symm unchanged with
      registers | ⟨changes, caller, claims, admitted, -, -⟩
    · rcases visit.served_of_registers issuer memory registers with
        ⟨status, failed⟩ | ⟨query, salt, applies, salted, -, created⟩
      · rw [failed] at unchanged
        exact absurd rfl unchanged
      · rw [created]
        exact .registered applies salted
    · rcases exists_row_of_admitted admitted with ⟨row, member, loaded, -⟩
      have own := changesOwn unique member loaded admitted changes
      cases answer : (visit.served issuer memory).1 with
      | error status => exact absurd (own.fails status answer) unchanged
      | ok response =>
          rcases own.succeeds response answer with ⟨query, update, stored, asks, rewrites, swaps, -⟩
          exact .rewritten member asks rewrites swaps

theorem Changes.forall_rows {visit : Visit} {before after : Memory}
    (changes : visit.Changes before after) (Holds : Row → Prop)
    (holds : ∀ row ∈ before.rows, Holds row)
    (registered : ∀ query salt, Applies visit.request query → visit.moment.salt = some salt →
      after = before.insert (visit.row query salt) → Holds (visit.row query salt))
    (rewritten : ∀ row query update stored, Holds row → AsksFor visit.request.body query update →
      Rewrites query visit.instant row.account stored → Holds { row with account := stored }) :
    ∀ row ∈ after.rows, Holds row := by
  intro other member
  cases changes with
  | nothing => exact holds other member
  | registered applies salted =>
      rcases List.mem_append.mp member with there | created
      · exact holds other there
      · rw [List.mem_singleton.mp created]
        exact registered _ _ applies salted rfl
  | rewritten rowMember asks rewrites swaps =>
      rcases swaps with ⟨front, back, rows, swapped⟩
      rw [swapped] at member
      rw [rows] at holds
      rcases List.mem_append.mp member with inFront | member
      · exact holds other (List.mem_append_left _ inFront)
      · rcases List.mem_cons.mp member with rfl | inBack
        · exact rewritten _ _ _ _ (holds _ (rows ▸ rowMember)) asks rewrites
        · exact holds other (List.mem_append_right _ (List.mem_cons_of_mem _ inBack))

end Visit

/-- What may be said of a row after some visits, if it is said of the row of each registration, and
is not lost when the row is rewritten or when another visit is over. -/
theorem afterVisits_rows {issuer : Issuer} {Holds : List Visit → Row → Prop}
    (registered : ∀ visits visit query salt, Applies visit.request query →
      visit.moment.salt = some salt →
      afterVisits issuer {} (visits ++ [visit]) =
        (afterVisits issuer {} visits).insert (visit.row query salt) →
      Holds (visits ++ [visit]) (visit.row query salt))
    (rewritten : ∀ visits (visit : Visit) row query update stored, Holds visits row →
      AsksFor visit.request.body query update →
      Rewrites query visit.instant row.account stored →
      Holds visits { row with account := stored })
    (kept : ∀ visits visit row, Holds visits row → Holds (visits ++ [visit]) row)
    {visits : List Visit} (fresh : AllFresh issuer {} visits) :
    ∀ row ∈ (afterVisits issuer {} visits).rows, Holds visits row := by
  induction visits using List.reverseRecOn with
  | nil =>
      intro row member
      cases member
  | append_singleton visits visit induction =>
      have before := (allFresh_append.mp fresh).left
      have unique := (afterVisits_keeps Memory.isUnique_empty before).left
      have last : afterVisits issuer {} (visits ++ [visit]) =
          (visit.served issuer (afterVisits issuer {} visits)).2 :=
        afterVisits_append visits [visit]
      rw [last]
      apply (visit.changes_served issuer unique).forall_rows (Holds (visits ++ [visit]))
      · exact fun row member => kept visits visit row (induction before row member)
      · exact fun query salt applies salted inserted =>
          registered visits visit query salt applies salted (last.trans inserted)
      · exact fun row query update stored => rewritten _ visit row query update stored

end Turnstile.Rpc
