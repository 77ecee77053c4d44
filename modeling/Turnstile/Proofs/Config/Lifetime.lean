import Turnstile.Config.Settings
import Turnstile.Proofs.Time.DateForms
import Turnstile.Proofs.Token.Lifetime

/-!
How long tokens may live. A number of minutes is taken if, counted from the start of the service, it
ends within the calendar, to the last nanosecond; any other text is refused. What was taken then
ends within the calendar for every token that is issued no later than the start.
-/

namespace Turnstile.Config

open Turnstile.Text Turnstile.Text.Decimal Turnstile.Time Turnstile.Token

/-! ## Blanks around -/

theorem skipBlanks_of_solid {letters : List Char} (nonempty : letters ≠ [])
    (solid : ∀ letter ∈ letters, isBlank letter = false) (rest : List Char) :
    skipBlanks (letters ++ rest) = letters ++ rest := by
  cases letters with
  | nil => exact absurd rfl nonempty
  | cons letter letters => exact skipBlanks_cons (solid letter List.mem_cons_self) _

theorem AreBlank.reverse {letters : List Char} (areBlank : AreBlank letters) :
    AreBlank letters.reverse :=
  fun letter member => areBlank letter (List.mem_reverse.mp member)

theorem trimChars_append {before letters after : List Char} (blankBefore : AreBlank before)
    (blankAfter : AreBlank after) (nonempty : letters ≠ [])
    (solid : ∀ letter ∈ letters, isBlank letter = false) :
    trimChars (before ++ letters ++ after) = letters := by
  have solidReversed : ∀ letter ∈ letters.reverse, isBlank letter = false :=
    fun letter member => solid letter (List.mem_reverse.mp member)
  have back := skipBlanks_of_solid (List.reverse_ne_nil_iff.mpr nonempty) solidReversed []
  rw [List.append_nil] at back
  rw [trimChars, List.append_assoc, skipBlanks_append blankBefore,
    skipBlanks_of_solid nonempty solid, List.reverse_append,
    skipBlanks_append (AreBlank.reverse blankAfter), back, List.reverse_reverse]

theorem exists_trimmed (letters : List Char) :
    ∃ before after, AreBlank before ∧ AreBlank after ∧
      letters = before ++ trimChars letters ++ after := by
  rcases exists_blanks letters with ⟨before, blankBefore, whole⟩
  rcases exists_blanks (skipBlanks letters).reverse with ⟨after, blankAfter, reversed⟩
  refine ⟨before, after.reverse, blankBefore, ?_, ?_⟩
  · exact AreBlank.reverse blankAfter
  · have rest := congrArg List.reverse reversed
    rw [List.reverse_reverse, List.reverse_append] at rest
    rw [List.append_assoc, trimChars, ← rest]
    exact whole

/-! ## Minutes as text -/

inductive SpellsNumeral : List Char → Nat → Prop
  | unsigned {digits : List Char} (areDigits : AreDigits digits) (nonempty : digits ≠ []) :
      SpellsNumeral digits (value digits)
  | signed {digits : List Char} (areDigits : AreDigits digits) (nonempty : digits ≠ []) :
      SpellsNumeral ('+' :: digits) (value digits)

inductive SpellsMinutes : List Char → Nat → Prop
  | between {before numeral after : List Char} {minutes : Nat} (blankBefore : AreBlank before)
      (spells : SpellsNumeral numeral minutes) (blankAfter : AreBlank after) :
      SpellsMinutes (before ++ numeral ++ after) minutes

theorem SpellsNumeral.solid {letters : List Char} {number : Nat}
    (spells : SpellsNumeral letters number) : ∀ letter ∈ letters, isBlank letter = false := by
  cases spells with
  | unsigned areDigits nonempty =>
      exact fun letter member => isBlank_of_isDigit (areDigits letter member)
  | signed areDigits nonempty =>
      refine List.forall_mem_cons.mpr ⟨by decide, ?_⟩
      exact fun letter member => isBlank_of_isDigit (areDigits letter member)

theorem SpellsNumeral.ne_nil {letters : List Char} {number : Nat}
    (spells : SpellsNumeral letters number) : letters ≠ [] := by
  cases spells with
  | unsigned areDigits nonempty => exact nonempty
  | signed areDigits nonempty => exact List.cons_ne_nil _ _

theorem spellsMinutes_iff {letters : List Char} {minutes : Nat} :
    SpellsMinutes letters minutes ↔ SpellsNumeral (trimChars letters) minutes := by
  constructor
  · rintro ⟨blankBefore, spells, blankAfter⟩
    rwa [trimChars_append blankBefore blankAfter spells.ne_nil spells.solid]
  · intro spells
    rcases exists_trimmed letters with ⟨before, after, blankBefore, blankAfter, whole⟩
    rw [whole]
    exact .between blankBefore spells blankAfter

theorem spellsNumeral_iff {letters : List Char} {number : Nat} :
    SpellsNumeral letters number ↔
      Decimal.ofChars? (match letters with
        | '+' :: digits => digits
        | digits => digits) = some number := by
  rw [ofChars?_eq_some_iff]
  constructor
  · intro spells
    cases spells with
    | unsigned areDigits nonempty =>
        split
        · exact absurd (areDigits '+' List.mem_cons_self) (by decide)
        · exact ⟨areDigits, nonempty, rfl⟩
    | signed areDigits nonempty => exact ⟨areDigits, nonempty, rfl⟩
  · intro read
    split at read
    · rcases read with ⟨areDigits, nonempty, rfl⟩
      exact .signed areDigits nonempty
    · rcases read with ⟨areDigits, nonempty, rfl⟩
      exact .unsigned areDigits nonempty

theorem minutes?_eq_some_iff {raw : String} {minutes : Nat} :
    minutes? raw = some minutes ↔
      SpellsMinutes raw.toList minutes ∧ 1 ≤ minutes ∧ minutes ≤ 2 ^ 63 - 1 := by
  rw [spellsMinutes_iff, spellsNumeral_iff, minutes?, Option.filter_eq_some_iff, Bool.and_eq_true,
    decide_eq_true_eq, decide_eq_true_eq]
  exact and_congr_right fun _ => by omega

/-! ## The end of the calendar -/

/-- A text allows this many minutes at a start. -/
structure Allows (now : Instant) (raw : String) (minutes : Nat) : Prop where
  spells : SpellsMinutes raw.toList minutes
  positive : 1 ≤ minutes
  fits : minutes ≤ 2 ^ 63 - 1
  ends : now.position + 60 * minutes * 1000000000 ≤ Instant.last.position

theorem nanoseconds_ofMinutes_nonneg (minutes : Nat) :
    0 ≤ (Duration.ofSeconds (60 * minutes)).nanoseconds := by
  simp only [Duration.ofSeconds]
  omega

section Start

variable {now : Instant} (ordinary : now.IsOrdinary)
include ordinary

/-- Neither the number of the seconds nor the length of a duration is in the way of a lifetime that
ends within the calendar. -/
theorem lifetime?_eq_some_iff {minutes : Nat} {lifetime : Duration} :
    lifetime? now minutes = some lifetime ↔
      now.position + 60 * minutes * 1000000000 ≤ Instant.last.position ∧
        lifetime = .ofSeconds (60 * minutes) := by
  have length : Duration.ofMinutes minutes = .ofSeconds (60 * minutes) := by
    rw [Duration.ofMinutes, Int.mul_comm]
  have ends := ordinary.add?_isSome_iff (nanoseconds_ofMinutes_nonneg minutes)
  rw [lifetime?, Option.filter_eq_some_iff, Duration.ofMinutes?_eq, length,
    Option.ite_none_right_eq_some, Option.some.injEq]
  constructor
  · rintro ⟨⟨-, rfl⟩, within⟩
    exact ⟨ends.mp within, rfl⟩
  · rintro ⟨within, rfl⟩
    refine ⟨⟨?_, rfl⟩, ends.mpr within⟩
    rcases now.bounds with ⟨lower, -, -⟩
    simp only [Instant.position, Instant.last, lastSecond] at within
    simp only [firstSecond] at lower
    simp only [Duration.ofSeconds, Duration.longest]
    omega

theorem allows_iff {raw : String} {minutes : Nat} :
    Allows now raw minutes ↔
      minutes? raw = some minutes ∧ (lifetime? now minutes).isSome := by
  rw [minutes?_eq_some_iff, Option.isSome_iff_exists]
  simp only [lifetime?_eq_some_iff ordinary, exists_and_left, exists_eq, and_true]
  constructor
  · rintro ⟨spells, positive, fits, ends⟩
    exact ⟨⟨spells, positive, fits⟩, ends⟩
  · rintro ⟨⟨spells, positive, fits⟩, ends⟩
    exact ⟨spells, positive, fits, ends⟩

theorem readLifetime_of_allows {raw : String} {minutes : Nat} (allows : Allows now raw minutes) :
    readLifetime now raw = .ok (.ofSeconds (60 * minutes)) := by
  have read := ((allows_iff ordinary).mp allows).left
  have taken := (lifetime?_eq_some_iff ordinary).mpr ⟨allows.ends, rfl⟩
  rw [readLifetime]
  simp only [read, taken]

theorem readLifetime_of_not_allows {raw : String} (none : ¬ ∃ minutes, Allows now raw minutes) :
    ∃ reason, readLifetime now raw = .error (.invalid lifetimeVariable reason) := by
  simp only [allows_iff ordinary] at none
  rw [readLifetime]
  split
  · exact ⟨_, rfl⟩
  · rename_i minutes read
    split
    · rename_i lifetime taken
      exact absurd ⟨minutes, read, Option.isSome_of_eq_some taken⟩ none
    · exact ⟨_, rfl⟩

theorem exists_claims_before {lifetime : Duration} (forward : 0 ≤ lifetime.nanoseconds)
    (ends : now.position + lifetime.nanoseconds ≤ Instant.last.position) {moment : Instant}
    (ordinaryMoment : moment.IsOrdinary) (before : moment ≤ now) (application : String)
    (account : Account) :
    ∃ claims, Claims.issue application account moment lifetime = .ok claims ∧
      claims.issuedAt = moment ∧ claims.expiresAt.IsOrdinary ∧
      claims.expiresAt.since claims.issuedAt = lifetime := by
  have earlier := (ordinaryMoment.le_iff ordinary).mp before
  have lasts := (ordinaryMoment.add?_isSome_iff forward).mpr (by omega)
  rcases Option.isSome_iff_exists.mp lasts with ⟨expiresAt, added⟩
  rcases ordinaryMoment.of_add? added with ⟨ordinaryEnd, position⟩
  refine ⟨Claims.of application account moment expiresAt, ?_, rfl, ordinaryEnd, ?_⟩
  · rw [Claims.issue_eq, added]
  · rw [Instant.since, Claims.of, position, add_sub_cancel_left]

end Start

namespace Settings

def filled? (lookup : String → Option String) (name : String) : Option String :=
  (lookup name).filter fun value => !isBlankText value

structure Completes (lookup : String → Option String) (raw : String) (address : SocketAddress) :
    Prop where
  given : lookup lifetimeVariable = some raw
  filled : isBlankText raw = false
  address : readAddress ((filled? lookup "GRPC_ADDR").getD defaultAddress) = .ok address

def living (lookup : String → Option String) (address : SocketAddress) (lifetime : Duration) :
    Settings :=
  { application := (filled? lookup "APP_NAME").getD defaultApplication, address
    database := filled? lookup "DATABASE_URL", tokenLifetime := lifetime }

theorem Completes.ofVariables_eq {lookup : String → Option String} {raw : String}
    {address : SocketAddress} (completes : Completes lookup raw address) (now : Instant) :
    ofVariables lookup now = (readLifetime now raw).map (living lookup address) := by
  have lifetime : (lookup lifetimeVariable).filter (fun value => !isBlankText value) =
      some raw := by
    rw [completes.given, Option.filter_some_pos (by rw [completes.filled]; rfl)]
  have read := completes.address
  rw [filled?] at read
  rw [ofVariables]
  simp only [read, lifetime]
  cases readLifetime now raw with
  | ok lifetime => rfl
  | error error => rfl

/-- With all other variables as they should be, a number of minutes is taken exactly if it ends
within the calendar, and any other text is refused. What is taken lasts whenever a token is issued
up to the start. -/
theorem lifetimes_end_within_calendar {lookup : String → Option String} {raw : String}
    {address : SocketAddress} {now : Instant} (completes : Completes lookup raw address)
    (ordinary : now.IsOrdinary) :
    (∀ settings, ofVariables lookup now = .ok settings ↔
      ∃ minutes : Nat, Allows now raw minutes ∧
        settings = living lookup address (.ofSeconds (60 * minutes))) ∧
    ((¬ ∃ minutes, Allows now raw minutes) →
      ∃ reason, ofVariables lookup now = .error (.invalid lifetimeVariable reason)) ∧
    ∀ settings, ofVariables lookup now = .ok settings →
      ∀ moment : Instant, moment.IsOrdinary → moment ≤ now → ∀ application account,
        ∃ claims,
          Claims.issue application account moment settings.tokenLifetime = .ok claims ∧
            claims.issuedAt = moment ∧ claims.expiresAt.IsOrdinary ∧
            claims.expiresAt.since claims.issuedAt = settings.tokenLifetime := by
  have read := completes.ofVariables_eq now
  by_cases allowed : ∃ minutes, Allows now raw minutes
  · rcases allowed with ⟨minutes, allows⟩
    rw [readLifetime_of_allows ordinary allows] at read
    refine ⟨fun settings => ?_, fun none => absurd ⟨minutes, allows⟩ none, ?_⟩
    · rw [read]
      constructor
      · intro same
        cases same
        exact ⟨minutes, allows, rfl⟩
      · rintro ⟨others, allowsOthers, rfl⟩
        have one := readLifetime_of_allows ordinary allowsOthers
        rw [readLifetime_of_allows ordinary allows, Except.ok.injEq] at one
        rw [← one]
        rfl
    · intro settings accepted
      rw [read] at accepted
      cases accepted
      exact fun moment ordinaryMoment before =>
        exists_claims_before ordinary (nanoseconds_ofMinutes_nonneg minutes) allows.ends
          ordinaryMoment before
  · rcases readLifetime_of_not_allows ordinary allowed with ⟨reason, refused⟩
    rw [refused] at read
    have never (settings : Settings) : ofVariables lookup now ≠ .ok settings := by
      rw [read]
      exact fun same => by cases same
    refine ⟨fun settings => ?_, fun _ => ⟨reason, read⟩, fun settings accepted =>
      absurd accepted (never settings)⟩
    refine iff_of_false (never settings) ?_
    rintro ⟨minutes, allows, -⟩
    exact allowed ⟨minutes, allows⟩

/-! A start at the last nanosecond of a minute: one more minute would end after the calendar. -/

def lateStart : Instant := ⟨59, 999999999, by decide⟩

def onlyLifetime (raw : String) (name : String) : Option String :=
  if name = lifetimeVariable then some raw else none

def everywhere : SocketAddress := .v4 ⟨[0, 0, 0, 0], rfl⟩ 8000

theorem completes_onlyLifetime {raw : String} (filled : isBlankText raw = false) :
    Completes (onlyLifetime raw) raw everywhere := by
  refine ⟨if_pos rfl, filled, ?_⟩
  have absent : filled? (onlyLifetime raw) "GRPC_ADDR" = none := by
    rw [filled?, onlyLifetime, if_neg (by decide)]
    rfl
  rw [absent]
  decide +kernel

def paddedMinutes : String := "\u2003+0136837781279\n"

def newcomer : Account :=
  { id := default, name := "Ada", email := "ada@example.com", phoneNumber := "+2348000000001"
    status := .pendingActive, details := {}, createdAt := lateStart, updatedAt := lateStart }

theorem last_minutes_are_taken :
    Completes (onlyLifetime paddedMinutes) paddedMinutes everywhere ∧
      Completes (onlyLifetime "136837781280") "136837781280" everywhere ∧ lateStart.IsOrdinary ∧
      ofVariables (onlyLifetime paddedMinutes) lateStart =
        .ok (living (onlyLifetime paddedMinutes) everywhere (.ofSeconds 8210266876740)) ∧
      (∃ claims,
        Claims.issue "bridge" newcomer lateStart (.ofSeconds 8210266876740) = .ok claims ∧
          claims.issuedAt = lateStart ∧ claims.expiresAt.IsOrdinary ∧
          claims.expiresAt.since claims.issuedAt = .ofSeconds 8210266876740) ∧
      ∃ reason, ofVariables (onlyLifetime "136837781280") lateStart =
        .error (.invalid lifetimeVariable reason) := by
  have ordinary : lateStart.IsOrdinary := by decide
  have taken : Completes (onlyLifetime paddedMinutes) paddedMinutes everywhere :=
    completes_onlyLifetime (by decide)
  have refused : Completes (onlyLifetime "136837781280") "136837781280" everywhere :=
    completes_onlyLifetime (by decide)
  rcases lifetimes_end_within_calendar taken ordinary with ⟨accepts, -, lasts⟩
  have accepted := (accepts _).mpr ⟨136837781279,
    (allows_iff ordinary).mpr ⟨by decide +kernel, by decide +kernel⟩, rfl⟩
  refine ⟨taken, refused, ordinary, accepted,
    lasts _ accepted lateStart ordinary (le_refl lateStart) "bridge" newcomer, ?_⟩
  apply (lifetimes_end_within_calendar refused ordinary).2.1
  rintro ⟨minutes, allows⟩
  have read := ((allows_iff ordinary).mp allows).left
  have same : minutes? "136837781280" = some 136837781280 := by decide +kernel
  rw [same] at read
  cases read
  exact absurd allows.ends (by decide)

end Settings

end Turnstile.Config
