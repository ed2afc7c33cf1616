/-
This file proves that rebuilding an invoice fails in one more way only than reading it: there is no
such request.

Encoding a request fails only because it has no encoding, unless its description was never read or
a number in it is refused and not written, and an invoice that comes from a text has no such
description and no such number. All that can go wrong is therefore a reason why the request cannot
be built. The amount and the provider's hint may be anything. Only an amount that is refused for not
being positive has to be written for that, and the runtime may not write it.
-/

import Bolt11.Invoice.Rebuilt
import Bolt11.Proofs.EncodingFaults
import Bolt11.Proofs.WellFormed

namespace Bolt11

/-- The faults of a request that cannot be built. -/
inductive Fault.IsOfBuilding : Fault → Prop
  | unbuildable (cause : Unbuildable) : IsOfBuilding (.unbuildable cause)

/-- An amount that is refused, and that the runtime does not write, and the fault of that. -/
structure Fault.IsOfAmount [Runtime] (amount : Datum) (fault : Fault) : Prop where
  refused : ∀ msat, amount.asInt? = some msat → msat ≤ 0
  unprintable : amount.isPrintable = false
  limit : fault.IsUnwritten

/-- The faults of a text that cannot be rebuilt as a request. -/
inductive Fault.IsOfRebuilding [Runtime] (signer : Signer) (amount : Datum) : Fault → Prop
  | reading {fault : Fault} (unacceptable : fault.IsOfReading signer) :
      IsOfRebuilding signer amount fault
  | unbuildable (cause : Unbuildable) : IsOfRebuilding signer amount (.unbuildable cause)
  | amount {fault : Fault} (unwritten : fault.IsOfAmount amount) :
      IsOfRebuilding signer amount fault

open Fault (IsOfBuilding IsOfAmount IsOfRebuilding)

/-! ### Merging -/

namespace RouteHint

/-- The hints that are kept are those that share no node with the provider's hint. -/
theorem keepApart_eq_ok (provider : RouteHint) (hints : List RouteHint) :
    (keepApart provider hints).outcome =
      .ok (hints.filter fun hint => (hint.sharedNodes provider).isEmpty) := by
  induction hints with
  | nil => rfl
  | cons hint rest inductionHypothesis =>
    rw [keepApart, List.filter_cons]
    split
    · exact Traced.bind_outcome_ok_iff.mpr ⟨_, inductionHypothesis, rfl⟩
    · exact Traced.bind_outcome_ok_iff.mpr ⟨(), rfl, inductionHypothesis⟩

/-- Merging never fails. -/
theorem merge_eq_ok (existing : List RouteHint) (provider : Option RouteHint)
    (includeExisting : Bool) :
    ∃ merged, (merge existing provider includeExisting).outcome = .ok merged := by
  cases provider with
  | none => exact ⟨existing, rfl⟩
  | some provider =>
    cases includeExisting with
    | false => exact ⟨[provider], rfl⟩
    | true => exact ⟨_, Traced.bind_outcome_ok_iff.mpr ⟨_, keepApart_eq_ok provider existing, rfl⟩⟩

end RouteHint

/-! ### Rebuilding -/

namespace Invoice

variable {signer : Signer}

/-- An amount is taken if it is a positive integer. -/
theorem rebuiltAmount_eq_ok_iff [Runtime] {value : Datum} {msat : Int} :
    rebuiltAmount value = .ok msat ↔ value.asInt? = some msat ∧ 0 < msat := by
  unfold rebuiltAmount
  cases value.asInt? with
  | none => simp
  | some amount =>
    simp only [Option.some.injEq]
    by_cases positive : 0 < amount
    · rw [if_pos positive, Except.ok.injEq]
      exact ⟨fun same => ⟨same, same ▸ positive⟩, And.left⟩
    · rw [if_neg positive]
      refine iff_of_false ?_ ?_
      · intro made
        cases made
      · rintro ⟨rfl, above⟩
        exact positive above

/-- An amount that is refused is named in the refusal. -/
theorem failsBeyond_rebuiltAmount_iff [Runtime] {amount : Datum} {fault : Fault} :
    FailsBeyond IsOfBuilding (rebuiltAmount amount) fault ↔ fault.IsOfAmount amount := by
  have refusal : FailsBeyond IsOfBuilding
      (.error (Fault.unbuildable (.amount amount)).worded : Except Fault Int) fault ↔
        amount.isPrintable = false ∧ fault.IsUnwritten :=
    failsBeyond_worded_iff (.unbuildable _) fun other unwritten => by
      obtain ⟨-⟩ := unwritten
      rintro ⟨⟩
  unfold rebuiltAmount
  cases integer : amount.asInt? with
  | none =>
    simp only
    rw [refusal]
    constructor
    · rintro ⟨unprintable, limit⟩
      exact ⟨fun msat same => (nomatch integer.symm.trans same), unprintable, limit⟩
    · rintro ⟨-, unprintable, limit⟩
      exact ⟨unprintable, limit⟩
  | some msat =>
    simp only
    by_cases positive : 0 < msat
    · rw [if_pos positive]
      exact iff_of_false (not_failsBeyond (failsOnlyWith_ok msat))
        fun unwritten => Int.not_lt.mpr (unwritten.refused msat integer) positive
    · rw [if_neg positive, refusal]
      constructor
      · rintro ⟨unprintable, limit⟩
        refine ⟨fun own same => ?_, unprintable, limit⟩
        obtain rfl := Option.some.inj (integer.symm.trans same)
        exact Int.not_lt.mp positive
      · rintro ⟨-, unprintable, limit⟩
        exact ⟨unprintable, limit⟩

theorem failsOnlyWith_checkHop (answers : ∀ key, ∃ answer, signer.isPubkey key = .ok answer)
    (hop : RouteHop) : FailsOnlyWith IsOfBuilding (checkHop signer hop).outcome := by
  unfold checkHop
  split
  · exact failsOnlyWith_error (.unbuildable _)
  refine Traced.failsOnlyWith_bind (Signer.failsOnlyWith_askIsPubkey answers _) fun answer _ => ?_
  cases answer with
  | true => exact failsOnlyWith_ok ()
  | false => exact failsOnlyWith_error (.unbuildable _)

theorem failsOnlyWith_checkHops (answers : ∀ key, ∃ answer, signer.isPubkey key = .ok answer)
    (hops : List RouteHop) : FailsOnlyWith IsOfBuilding (checkHops signer hops).outcome := by
  induction hops with
  | nil => exact failsOnlyWith_ok ()
  | cons hop rest inductionHypothesis =>
    rw [checkHops]
    exact Traced.failsOnlyWith_bind (failsOnlyWith_checkHop answers hop)
      fun _ _ => inductionHypothesis

theorem rebuild_of_not_described [Runtime] {invoice : Invoice}
    (undescribed : invoice.description.isSome = false) (amount : Datum) (hints : List RouteHint) :
    (rebuild signer invoice amount hints).outcome =
      .error (.unbuildable .noDescription) := by
  unfold rebuild
  rw [if_pos (by rw [← Option.not_isSome, undescribed]; rfl)]
  rfl

/-- An amount that is refused and not written comes before everything but the description. -/
theorem rebuild_of_isOfAmount [Runtime] {invoice : Invoice} {amount : Datum} {fault : Fault}
    (described : invoice.description.isSome = true) (unwritten : fault.IsOfAmount amount)
    (hints : List RouteHint) : (rebuild signer invoice amount hints).outcome = .error fault := by
  have refused := (failsBeyond_rebuiltAmount_iff.mpr unwritten).1
  unfold rebuild
  rw [if_neg (by rw [← Option.not_isSome, described]; exact Bool.false_ne_true)]
  exact Traced.bind_outcome_of_error refused

/-- Rebuilding an invoice that comes from a text, with any amount and any hints. The signer has to
answer one of its questions only. -/
theorem failsOnlyWith_rebuild [Runtime]
    (answers : ∀ key, ∃ answer, signer.isPubkey key = .ok answer) {invoice : Invoice}
    (wellFormed : invoice.IsWellFormed) (read : invoice.IsRead) (amount : Datum)
    (hints : List RouteHint) :
    FailsOnlyWith (fun fault => fault.IsOfBuilding ∨ fault.IsOfAmount amount)
      (rebuild signer invoice amount hints).outcome := by
  obtain ⟨⟨hash, hashRead, -⟩, secretThere, descriptionRead⟩ := read
  obtain ⟨secret, secretIs⟩ := Option.isSome_iff_exists.mp secretThere
  unfold rebuild
  split
  · exact failsOnlyWith_error (.inl (.unbuildable _))
  refine Traced.failsOnlyWith_bind ?_ fun msat taken => ?_
  · intro fault failed
    by_cases typed : fault.IsOfBuilding
    · exact .inl typed
    · exact .inr (failsBeyond_rebuiltAmount_iff.mp ⟨failed, typed⟩)
  refine Traced.failsOnlyWith_bind ?_ fun _ _ => ?_
  · exact fun fault failed => .inl (failsOnlyWith_checkHops answers _ fault failed)
  refine Traced.failsOnlyWith_bind ?_ fun paymentHash _ => ?_
  · rw [hashRead]
    exact failsOnlyWith_ok hash
  refine Traced.failsOnlyWith_bind ?_ fun paymentSecret _ => ?_
  · rw [rebuiltSecret, secretIs]
    exact failsOnlyWith_ok secret
  simp only
  split
  · rename_i fault failed
    by_cases typed : fault.IsOfEncoding
    · cases typed with
      | unencodable cause => exact failsOnlyWith_error (.inl (.unbuildable _))
    · refine absurd (UnsignedInvoice.failsBeyond_symbols_iff.mp ⟨failed, typed⟩)
        (UnsignedInvoice.not_derails ?_ wellFormed.timestamp descriptionRead ?_ ?_
          (Int.natCast_nonneg _))
      · rintro own ⟨⟩
        exact (rebuiltAmount_eq_ok_iff.mp taken).2
      · rintro own ⟨⟩
        exact wellFormed.expiry.1
      · rintro own ⟨⟩
        exact wellFormed.minFinalCltvDelta.1
  · exact failsOnlyWith_ok _

/-- Rebuilding a text, whatever the text, the settings, the provider's hint and the amount are. -/
theorem failsOnlyWith_mergeAndRebuild [Runtime] (answers : signer.Answers) (inUse : Network)
    (settings : Option Settings) (text : Option String) (includeExisting : Bool)
    (provider : Option RouteHint) (amount : Datum) :
    FailsOnlyWith (IsOfRebuilding signer amount)
      (mergeAndRebuild signer inUse settings text includeExisting provider amount).outcome := by
  unfold mergeAndRebuild
  refine Traced.failsOnlyWith_bind ?_ fun invoice parsed => ?_
  · intro fault failed
    exact .reading (failsOnlyWith_parse answers inUse settings text fault failed)
  refine Traced.failsOnlyWith_bind ?_ fun merged _ => ?_
  · obtain ⟨merged, isMerged⟩ := RouteHint.merge_eq_ok invoice.routeHints provider includeExisting
    rw [isMerged]
    exact failsOnlyWith_ok merged
  refine Traced.failsOnlyWith_bind (failsOnlyWith_ok ()) fun _ _ => ?_
  intro fault failed
  rcases failsOnlyWith_rebuild answers.isPubkey (isWellFormed_of_parse parsed)
    (isRead_of_parse parsed) amount merged fault failed with typed | unwritten
  · cases typed with
    | unbuildable cause => exact .unbuildable cause
  · exact .amount unwritten

end Invoice

end Bolt11
