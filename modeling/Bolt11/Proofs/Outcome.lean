/-
This file holds the laws by which outcomes and trails of composed operations are taken apart.

An operation that is put together from others succeeds if all of them do, and its questions are
theirs in order. If it fails, one of them has failed. What an operation can fail with is
therefore settled part by part, and a later part may rely on the success of those before it.
-/

import Bolt11.Trace

namespace Bolt11

/-! ### Outcomes -/

section Outcomes

variable {ε α β : Type}

theorem bind_eq_ok_iff {first : Except ε α} {second : α → Except ε β} {result : β} :
    first >>= second = .ok result ↔
      ∃ value, first = .ok value ∧ second value = .ok result := by
  cases first with
  | error fault =>
    constructor
    · intro succeeded
      cases succeeded
    · rintro ⟨value, succeeded, -⟩
      cases succeeded
  | ok value =>
    constructor
    · intro succeeded
      exact ⟨value, rfl, succeeded⟩
    · rintro ⟨other, same, succeeded⟩
      obtain rfl := Except.ok.inj same
      exact succeeded

theorem exists_of_isOk {outcome : Except ε α} (succeeded : outcome.isOk = true) :
    ∃ value, outcome = .ok value := by
  cases outcome with
  | error fault => cases succeeded
  | ok value => exact ⟨value, rfl⟩

theorem isOk_eq_true_iff {outcome : Except ε α} :
    outcome.isOk = true ↔ ∃ value, outcome = .ok value := by
  constructor
  · exact exists_of_isOk
  · rintro ⟨value, rfl⟩
    rfl

/-- What is computed of a result is computed of one that there is. -/
theorem exists_of_map_toOption {outcome : Except ε α} {view : α → β} {seen : β}
    (computed : outcome.toOption.map view = some seen) :
    ∃ value, outcome = .ok value ∧ view value = seen := by
  cases outcome with
  | error fault => cases computed
  | ok value => exact ⟨value, rfl, Option.some.inj computed⟩

theorem exists_of_not_isOk {outcome : Except ε α} (failed : outcome.isOk = false) :
    ∃ fault, outcome = .error fault := by
  cases outcome with
  | error fault => exact ⟨fault, rfl⟩
  | ok value => cases failed

theorem mapM_nil_eq_ok_iff {step : α → Except ε β} {results : List β} :
    ([] : List α).mapM step = .ok results ↔ results = [] := by
  rw [List.mapM_nil]
  constructor
  · intro succeeded
    exact (Except.ok.inj succeeded).symm
  · rintro rfl
    rfl

theorem mapM_cons_eq_ok_iff {step : α → Except ε β} {item : α} {rest : List α}
    {results : List β} :
    (item :: rest).mapM step = .ok results ↔
      ∃ head tail, step item = .ok head ∧ rest.mapM step = .ok tail ∧ results = head :: tail := by
  rw [List.mapM_cons]
  constructor
  · intro succeeded
    obtain ⟨head, headMade, others⟩ := bind_eq_ok_iff.mp succeeded
    obtain ⟨tail, tailMade, done⟩ := bind_eq_ok_iff.mp others
    exact ⟨head, tail, headMade, tailMade, (Except.ok.inj done).symm⟩
  · rintro ⟨head, tail, headMade, tailMade, rfl⟩
    exact bind_eq_ok_iff.mpr ⟨head, headMade, bind_eq_ok_iff.mpr ⟨tail, tailMade, rfl⟩⟩

/-- All items are transformed exactly if each of them is. -/
theorem exists_mapM_iff {step : α → Except ε β} {items : List α} :
    (∃ results, items.mapM step = .ok results) ↔
      ∀ item ∈ items, ∃ result, step item = .ok result := by
  induction items with
  | nil =>
    constructor
    · intro _ item member
      cases member
    · intro _
      exact ⟨[], mapM_nil_eq_ok_iff.mpr rfl⟩
  | cons item rest inductionHypothesis =>
    rw [List.forall_mem_cons, ← inductionHypothesis]
    constructor
    · rintro ⟨results, made⟩
      obtain ⟨head, tail, headMade, tailMade, -⟩ := mapM_cons_eq_ok_iff.mp made
      exact ⟨⟨head, headMade⟩, ⟨tail, tailMade⟩⟩
    · rintro ⟨⟨head, headMade⟩, ⟨tail, tailMade⟩⟩
      exact ⟨head :: tail, mapM_cons_eq_ok_iff.mpr ⟨head, tail, headMade, tailMade, rfl⟩⟩

end Outcomes

/-! ### Faults -/

/-- The fault of a number that the runtime does not write. -/
inductive Fault.IsUnwritten [Runtime] : Fault → Prop
  | beyond {limit : Nat} (known : limit ∈ Runtime.digitLimit) :
    IsUnwritten (.badValue (.writtenLength limit))

theorem Fault.isUnwritten_worded [Runtime] {fault : Fault} (unwritable : fault.isWritable = false) :
    fault.worded.IsUnwritten := by
  obtain ⟨limit, known, arises⟩ := Fault.worded_of_not_isWritable unwritable
  rw [arises]
  exact .beyond known

/-- There is one such fault at most, because a runtime has one limit at most. -/
theorem Fault.IsUnwritten.unique [Runtime] {fault other : Fault} (unwritten : fault.IsUnwritten)
    (unwrittenToo : other.IsUnwritten) : fault = other := by
  obtain ⟨known⟩ := unwritten
  obtain ⟨knownToo⟩ := unwrittenToo
  rw [Option.mem_unique known knownToo]

section Faults

variable {α β : Type} {kind : Fault → Prop}

/-- An outcome is no fault but one of a kind. -/
def FailsOnlyWith (kind : Fault → Prop) (outcome : Except Fault α) : Prop :=
  ∀ fault, outcome = .error fault → kind fault

theorem failsOnlyWith_ok (value : α) : FailsOnlyWith kind (.ok value) := by
  intro fault failed
  cases failed

theorem failsOnlyWith_error {fault : Fault} (fitting : kind fault) :
    FailsOnlyWith kind (.error fault : Except Fault α) := by
  intro other failed
  obtain rfl := Except.error.inj failed
  exact fitting

/-- What comes second may rely on the success of what comes first. -/
theorem failsOnlyWith_bind {first : Except Fault α} {second : α → Except Fault β}
    (firstFails : FailsOnlyWith kind first)
    (secondFails : ∀ value, first = .ok value → FailsOnlyWith kind (second value)) :
    FailsOnlyWith kind (first >>= second) := by
  cases first with
  | error fault => exact failsOnlyWith_error (firstFails fault rfl)
  | ok value => exact secondFails value rfl

theorem failsOnlyWith_mapM {step : α → Except Fault β} {items : List α}
    (stepFails : ∀ item ∈ items, FailsOnlyWith kind (step item)) :
    FailsOnlyWith kind (items.mapM step) := by
  induction items with
  | nil => exact failsOnlyWith_ok []
  | cons item rest inductionHypothesis =>
    rw [List.mapM_cons]
    refine failsOnlyWith_bind (stepFails item List.mem_cons_self) fun head _ => ?_
    refine failsOnlyWith_bind (inductionHypothesis fun other member =>
      stepFails other (List.mem_cons_of_mem item member)) fun tail _ => ?_
    exact failsOnlyWith_ok (head :: tail)

end Faults

namespace Traced

variable {α β : Type}

/-! ### Questions -/

@[simp] theorem pure_questions (value : α) : (pure value : Traced α).questions = [] := rfl

@[simp] theorem lift_questions (outcome : Except Fault α) :
    (liftM outcome : Traced α).questions = [] := rfl

@[simp] theorem note_questions (level : Level) (source text : String) :
    (note level source text).questions = [] := rfl

/-- The questions of a successful sequence are those of its parts in order. -/
theorem bind_ok {first : Traced α} {second : α → Traced β} {result : β}
    (succeeded : (first >>= second).outcome = .ok result) :
    ∃ value, first.outcome = .ok value ∧ (second value).outcome = .ok result ∧
      (first >>= second).questions = first.questions ++ (second value).questions := by
  obtain ⟨value, firstDone, secondDone⟩ := bind_outcome_ok_iff.mp succeeded
  refine ⟨value, firstDone, secondDone, ?_⟩
  rw [bind_of_ok second firstDone]
  exact List.filterMap_append

/-- Behind an operation that succeeds a sequence comes out as the next one does. -/
theorem bind_outcome_of_ok {first : Traced α} {second : α → Traced β} {value : α}
    (succeeded : first.outcome = .ok value) :
    (first >>= second).outcome = (second value).outcome := by
  rw [bind_of_ok second succeeded]

theorem bind_outcome_of_error {first : Traced α} {second : α → Traced β} {fault : Fault}
    (failed : first.outcome = .error fault) : (first >>= second).outcome = .error fault := by
  rw [bind_of_error second failed]

/-- A sequence fails with what its first or its second operation fails with. -/
theorem failsOnlyWith_bind {kind : Fault → Prop} {first : Traced α} {second : α → Traced β}
    (firstFails : FailsOnlyWith kind first.outcome)
    (secondFails : ∀ value, first.outcome = .ok value →
      FailsOnlyWith kind (second value).outcome) :
    FailsOnlyWith kind (first >>= second).outcome := by
  cases outcome : first.outcome with
  | error fault =>
    rw [bind_of_error second outcome]
    exact failsOnlyWith_error (firstFails fault outcome)
  | ok value =>
    rw [bind_of_ok second outcome]
    exact secondFails value outcome

end Traced

/-! ### Faults of another kind -/

section FaultsBeyond

variable {α β : Type} {kind : Fault → Prop} {fault : Fault}

/-- An outcome is a certain fault, and one that is not of a kind. -/
def FailsBeyond (kind : Fault → Prop) (outcome : Except Fault α) (fault : Fault) : Prop :=
  outcome = .error fault ∧ ¬ kind fault

theorem not_failsBeyond {outcome : Except Fault α} (fails : FailsOnlyWith kind outcome) :
    ¬ FailsBeyond kind outcome fault :=
  fun beyond => beyond.2 (fails fault beyond.1)

/-- What is put into words fails in another way exactly if the runtime does not write a number in
it. -/
theorem failsBeyond_worded_iff [Runtime] {plain : Fault} (fits : kind plain)
    (apart : ∀ other, Fault.IsUnwritten other → ¬ kind other) :
    FailsBeyond kind (.error plain.worded : Except Fault α) fault ↔
      plain.isWritable = false ∧ fault.IsUnwritten := by
  cases writable : plain.isWritable with
  | true =>
    rw [Fault.worded_of_isWritable writable]
    exact iff_of_false (not_failsBeyond (failsOnlyWith_error fits)) (by rintro ⟨⟨⟩, -⟩)
  | false =>
    have unwritten := Fault.isUnwritten_worded writable
    constructor
    · rintro ⟨failed, -⟩
      obtain rfl := Except.error.inj failed
      exact ⟨rfl, unwritten⟩
    · rintro ⟨-, unwrittenToo⟩
      rw [unwritten.unique unwrittenToo]
      exact ⟨rfl, apart fault unwrittenToo⟩

theorem failsBeyond_bind_iff {first : Except Fault α} {second : α → Except Fault β} :
    FailsBeyond kind (first >>= second) fault ↔ FailsBeyond kind first fault ∨
      ∃ value, first = .ok value ∧ FailsBeyond kind (second value) fault := by
  cases first with
  | error own =>
    rw [or_iff_left]
    · constructor
      · rintro ⟨⟨⟩, other⟩
        exact ⟨rfl, other⟩
      · rintro ⟨⟨⟩, other⟩
        exact ⟨rfl, other⟩
    · rintro ⟨value, succeeded, -⟩
      cases succeeded
  | ok value =>
    rw [or_iff_right]
    · constructor
      · intro beyond
        exact ⟨value, rfl, beyond⟩
      · rintro ⟨_, ⟨⟩, beyond⟩
        exact beyond
    · rintro ⟨failed, -⟩
      cases failed

/-- What comes second may not depend on the value of what comes first. Then it comes into play
exactly if what comes first succeeds. -/
theorem failsBeyond_step_iff {first : Except Fault α} {second : α → Except Fault β}
    {beyond passes later : Prop} (failing : FailsBeyond kind first fault ↔ beyond)
    (passing : (∃ value, first = .ok value) ↔ passes)
    (following : ∀ value, FailsBeyond kind (second value) fault ↔ later) :
    FailsBeyond kind (first >>= second) fault ↔ beyond ∨ passes ∧ later := by
  rw [failsBeyond_bind_iff, failing, ← passing, ← exists_and_right]
  simp only [following]

/-- A step that fails with a kind of faults only is either passed or ends in one of these. -/
theorem failsBeyond_passed_iff {first : Except Fault α} {second : α → Except Fault β}
    {passes later : Prop} (fails : FailsOnlyWith kind first)
    (passing : (∃ value, first = .ok value) ↔ passes)
    (following : ∀ value, FailsBeyond kind (second value) fault ↔ later) :
    FailsBeyond kind (first >>= second) fault ↔ passes ∧ later :=
  (failsBeyond_step_iff (iff_false_intro (not_failsBeyond fails)) passing following).trans
    (or_iff_right id)

theorem Traced.failsBeyond_bind_iff {first : Traced α} {second : α → Traced β} :
    FailsBeyond kind (first >>= second).outcome fault ↔ FailsBeyond kind first.outcome fault ∨
      ∃ value, first.outcome = .ok value ∧ FailsBeyond kind (second value).outcome fault := by
  rw [← Bolt11.failsBeyond_bind_iff]
  cases outcome : first.outcome with
  | error own => rw [bind_outcome_of_error outcome]; rfl
  | ok value => rw [bind_outcome_of_ok outcome]; rfl

/-- If what comes first fails with a kind of faults only, a fault of another kind comes from what
comes second. -/
theorem Traced.failsBeyond_second_iff {first : Traced α} {second : α → Traced β}
    (fails : FailsOnlyWith kind first.outcome) :
    FailsBeyond kind (first >>= second).outcome fault ↔
      ∃ value, first.outcome = .ok value ∧ FailsBeyond kind (second value).outcome fault := by
  rw [failsBeyond_bind_iff, or_iff_right (not_failsBeyond fails)]

end FaultsBeyond

end Bolt11
