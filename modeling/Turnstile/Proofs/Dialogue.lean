import Turnstile.Dialogue

/-!
Laws of dialogues, and what follows for a whole run from the questions that a dialogue may ask: a
relation between states that every allowed question keeps is kept from the beginning of the run to
its end.
-/

namespace Turnstile.Dialogue

variable {Question : Type} {Answer : Question → Type} {Failure Failure' Failure'' : Type}
  {α β γ State : Type}

theorem bind_done (dialogue : Dialogue Answer Failure α) : dialogue.bind done = dialogue := by
  induction dialogue with
  | done value => rfl
  | fail failure => rfl
  | ask question next induction =>
      apply congrArg (ask question)
      funext answer
      exact induction answer

theorem bind_bind (dialogue : Dialogue Answer Failure α)
    (next : α → Dialogue Answer Failure β) (further : β → Dialogue Answer Failure γ) :
    (dialogue.bind next).bind further = dialogue.bind fun value => (next value).bind further := by
  induction dialogue with
  | done value => rfl
  | fail failure => rfl
  | ask question answered induction =>
      apply congrArg (ask question)
      funext answer
      exact induction answer

instance : LawfulMonad (Dialogue Answer Failure) :=
  LawfulMonad.mk' (Dialogue Answer Failure) bind_done (fun _ _ => rfl) bind_bind

theorem mapFailure_bind (rename : Failure → Failure') (dialogue : Dialogue Answer Failure α)
    (next : α → Dialogue Answer Failure β) :
    (dialogue >>= next).mapFailure rename =
      dialogue.mapFailure rename >>= fun value => (next value).mapFailure rename := by
  induction dialogue with
  | done value => rfl
  | fail failure => rfl
  | ask question answered induction =>
      apply congrArg (ask question)
      funext answer
      exact induction answer

theorem mapFailure_map (rename : Failure → Failure') (transform : α → β)
    (dialogue : Dialogue Answer Failure α) :
    (transform <$> dialogue).mapFailure rename = transform <$> dialogue.mapFailure rename := by
  rw [map_eq_pure_bind, map_eq_pure_bind, mapFailure_bind]
  rfl

theorem mapFailure_mapFailure (rename : Failure → Failure') (again : Failure' → Failure'')
    (dialogue : Dialogue Answer Failure α) :
    (dialogue.mapFailure rename).mapFailure again = dialogue.mapFailure (again ∘ rename) := by
  induction dialogue with
  | done value => rfl
  | fail failure => rfl
  | ask question next induction =>
      apply congrArg (ask question)
      funext answer
      exact induction answer

theorem mapFailure_id (dialogue : Dialogue Answer Failure α) :
    dialogue.mapFailure id = dialogue := by
  induction dialogue with
  | done value => rfl
  | fail failure => rfl
  | ask question next induction =>
      apply congrArg (ask question)
      funext answer
      exact induction answer

section Runs

variable (responder : Responder Answer State) (state : State)

theorem run_map (transform : α → β) (dialogue : Dialogue Answer Failure α) :
    (transform <$> dialogue).run responder state =
      ((dialogue.run responder state).1.map transform, (dialogue.run responder state).2) := by
  rw [map_eq_pure_bind, run_bind]
  rcases dialogue.run responder state with ⟨result, after⟩
  cases result with
  | ok value => rfl
  | error failure => rfl

theorem run_mapFailure (rename : Failure → Failure') (dialogue : Dialogue Answer Failure α) :
    (dialogue.mapFailure rename).run responder state =
      ((dialogue.run responder state).1.mapError rename, (dialogue.run responder state).2) := by
  induction dialogue generalizing state with
  | done value => rfl
  | fail failure => rfl
  | ask question next induction => exact induction _ _

theorem run_ofExcept (result : Except Failure α) :
    (ofExcept result : Dialogue Answer Failure α).run responder state = (result, state) := by
  cases result with
  | ok value => rfl
  | error failure => rfl

theorem asked_ofExcept (result : Except Failure α) :
    (ofExcept result : Dialogue Answer Failure α).asked responder state = [] := by
  cases result with
  | ok value => rfl
  | error failure => rfl

end Runs

/-- Whatever the answers are, every question is an allowed one. -/
def Asks (allowed : Question → Prop) : Dialogue Answer Failure α → Prop
  | done _ => True
  | fail _ => True
  | ask question next => allowed question ∧ ∀ answer, (next answer).Asks allowed

section Questions

variable {allowed : Question → Prop}

theorem Asks.mono {more : Question → Prop} (included : ∀ question, allowed question → more question)
    {dialogue : Dialogue Answer Failure α} (asks : dialogue.Asks allowed) :
    dialogue.Asks more := by
  induction dialogue with
  | done value => trivial
  | fail failure => trivial
  | ask question next induction =>
      exact ⟨included question asks.left, fun answer => induction answer (asks.right answer)⟩

theorem Asks.bind {dialogue : Dialogue Answer Failure α}
    {next : α → Dialogue Answer Failure β} (first : dialogue.Asks allowed)
    (rest : ∀ value, (next value).Asks allowed) : (dialogue >>= next).Asks allowed := by
  induction dialogue with
  | done value => exact rest value
  | fail failure => trivial
  | ask question answered induction =>
      exact ⟨first.left, fun answer => induction answer (first.right answer)⟩

theorem Asks.map {dialogue : Dialogue Answer Failure α} (transform : α → β)
    (asks : dialogue.Asks allowed) : (transform <$> dialogue).Asks allowed := by
  rw [map_eq_pure_bind]
  exact asks.bind fun _ => trivial

theorem Asks.mapFailure {dialogue : Dialogue Answer Failure α} (rename : Failure → Failure')
    (asks : dialogue.Asks allowed) : (dialogue.mapFailure rename).Asks allowed := by
  induction dialogue with
  | done value => trivial
  | fail failure => trivial
  | ask question next induction =>
      exact ⟨asks.left, fun answer => induction answer (asks.right answer)⟩

theorem asks_ofExcept (result : Except Failure α) :
    (ofExcept result : Dialogue Answer Failure α).Asks allowed := by
  cases result with
  | ok value => trivial
  | error failure => trivial

theorem Asks.related_run {responder : Responder Answer State} (related : State → State → Prop)
    (refl : ∀ state, related state state)
    (trans : ∀ {before between after},
      related before between → related between after → related before after)
    (step : ∀ question state, allowed question → related state (responder question state).2)
    {dialogue : Dialogue Answer Failure α} (asks : dialogue.Asks allowed) (state : State) :
    related state (dialogue.run responder state).2 := by
  induction dialogue generalizing state with
  | done value => exact refl state
  | fail failure => exact refl state
  | ask question next induction =>
      exact trans (step question state asks.left) (induction _ (asks.right _) _)

end Questions

/-- Wherever a question is asked, it and what follows its answers are as described. -/
def Everywhere
    (described : (question : Question) → (Answer question → Dialogue Answer Failure α) → Prop) :
    Dialogue Answer Failure α → Prop
  | done _ => True
  | fail _ => True
  | ask question next => described question next ∧ ∀ answer, (next answer).Everywhere described

theorem everywhere_of_asks {allowed : Question → Prop}
    {described : (question : Question) → (Answer question → Dialogue Answer Failure α) → Prop}
    (enough : ∀ question next, allowed question → described question next)
    {dialogue : Dialogue Answer Failure α} (asks : dialogue.Asks allowed) :
    dialogue.Everywhere described := by
  induction dialogue with
  | done value => trivial
  | fail failure => trivial
  | ask question next induction =>
      exact ⟨enough question next asks.left, fun answer => induction answer (asks.right answer)⟩

/-! ## What makes no difference -/

/-- Answers that are alike lead on in the same way. -/
def Overlooks (alike : (question : Question) → Answer question → Answer question → Prop)
    (dialogue : Dialogue Answer Failure α) : Prop :=
  dialogue.Everywhere fun question next =>
    ∀ left right, alike question left right → next left = next right

section Differences

variable {alike : (question : Question) → Answer question → Answer question → Prop}

theorem Overlooks.bind {dialogue : Dialogue Answer Failure α}
    {next : α → Dialogue Answer Failure β} (first : dialogue.Overlooks alike)
    (rest : ∀ value, (next value).Overlooks alike) : (dialogue >>= next).Overlooks alike := by
  induction dialogue with
  | done value => exact rest value
  | fail failure => trivial
  | ask question answered induction =>
      refine ⟨fun left right same => ?_, fun answer => induction answer (first.right answer)⟩
      dsimp only
      rw [first.left left right same]

theorem Overlooks.mapFailure {dialogue : Dialogue Answer Failure α} (rename : Failure → Failure')
    (overlooks : dialogue.Overlooks alike) : (dialogue.mapFailure rename).Overlooks alike := by
  induction dialogue with
  | done value => trivial
  | fail failure => trivial
  | ask question next induction =>
      refine ⟨fun left right same => ?_, fun answer => induction answer (overlooks.right answer)⟩
      dsimp only
      rw [overlooks.left left right same]

theorem Overlooks.map {dialogue : Dialogue Answer Failure α} (transform : α → β)
    (overlooks : dialogue.Overlooks alike) : (transform <$> dialogue).Overlooks alike := by
  rw [map_eq_pure_bind]
  exact overlooks.bind fun _ => trivial

theorem overlooks_ofExcept (result : Except Failure α) :
    (ofExcept result : Dialogue Answer Failure α).Overlooks alike := by
  cases result with
  | ok value => trivial
  | error failure => trivial

/-- Whoever always answers alike gets the same questions, and in the end there is the same
result. -/
theorem Overlooks.run_eq {State' : Type} {responder : Responder Answer State}
    {other : Responder Answer State'} {related : State → State' → Prop}
    (step : ∀ question state state', related state state' →
      alike question (responder question state).1 (other question state').1 ∧
        related (responder question state).2 (other question state').2)
    {dialogue : Dialogue Answer Failure α} (overlooks : dialogue.Overlooks alike) {state : State}
    {state' : State'} (start : related state state') :
    (dialogue.run responder state).1 = (dialogue.run other state').1 ∧
      dialogue.asked responder state = dialogue.asked other state' := by
  induction dialogue generalizing state state' with
  | done value => exact ⟨rfl, rfl⟩
  | fail failure => exact ⟨rfl, rfl⟩
  | ask question next induction =>
      rcases step question state state' start with ⟨same, related⟩
      have further := overlooks.left _ _ same
      rw [run, run, asked, asked]
      dsimp only
      rw [further]
      rcases induction _ (overlooks.right _) related with ⟨ended, questions⟩
      exact ⟨ended, congrArg (question :: ·) questions⟩

end Differences

end Turnstile.Dialogue
