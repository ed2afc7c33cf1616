/-
This file proves what is left of route hints that are merged again and again.

One merge drops hints and puts one hint behind the others. Whether it drops a hint depends on that
hint alone, and so it makes no difference when a hint joined: of all the hints that a run of merges
has seen, those are left that none of the merges after them drops. A hint that starts its hops at
other nodes than the provider's hints to come is never dropped, and the hint of the last merge has
no merge after it.
-/

import Bolt11.Proofs.Merging

namespace Bolt11.RouteHint

/-! ### One merge -/

/-- No hop of one hint starts at a node with the id of a hop of the other. -/
def IsApart (hint other : RouteHint) : Prop :=
  ∀ hop ∈ hint.hops, ∀ own ∈ other.hops, own.nodeId ≠ hop.nodeId

instance (hint other : RouteHint) : Decidable (hint.IsApart other) :=
  inferInstanceAs (Decidable (∀ hop ∈ hint.hops, ∀ own ∈ other.hops, own.nodeId ≠ hop.nodeId))

theorem IsApart.symm {hint other : RouteHint} (apart : hint.IsApart other) : other.IsApart hint :=
  fun own amongOther hop among same => apart hop among own amongOther same.symm

/-- A hint with a hop is not apart from itself. -/
theorem not_isApart_self {hint : RouteHint} (hops : hint.hops ≠ []) : ¬ hint.IsApart hint := by
  intro apart
  obtain ⟨hop, member⟩ := List.exists_mem_of_ne_nil hint.hops hops
  exact apart hop member hop member rfl

/-- Merging keeps the hints that share no node with the provider's hint. -/
theorem merge_wanted (existing : List RouteHint) (provider : RouteHint) :
    (merge existing (some provider) true).outcome =
      .ok (existing.filter (fun hint => hint.IsApart provider) ++ [provider]) := by
  refine Traced.bind_outcome_ok_iff.mpr ⟨_, keepApart_eq_ok provider existing, ?_⟩
  refine congrArg (fun kept => Except.ok (kept ++ [provider])) (List.filter_congr fun hint _ => ?_)
  rw [Bool.eq_iff_iff, isEmpty_sharedNodes_iff, decide_eq_true_iff, IsApart]

/-- The arguments of one merge: the provider's hint, if there is one, and whether the hints before
it are wanted. -/
structure Merging where
  provider : Option RouteHint
  includeExisting : Bool

/-- Whether a merge keeps a hint that is there before it. -/
def Merging.Keeps (merging : Merging) (hint : RouteHint) : Prop :=
  ∀ provider ∈ merging.provider, merging.includeExisting = true ∧ hint.IsApart provider

instance (merging : Merging) (hint : RouteHint) : Decidable (merging.Keeps hint) :=
  inferInstanceAs (Decidable (∀ provider ∈ merging.provider,
    merging.includeExisting = true ∧ hint.IsApart provider))

/-- A merge with a provider's hint that keeps the hints apart from it. -/
def Merging.including (provider : RouteHint) : Merging := ⟨some provider, true⟩

theorem Merging.keeps_including {provider hint : RouteHint} :
    (including provider).Keeps hint ↔ hint.IsApart provider := by
  constructor
  · intro kept
    exact (kept provider rfl).2
  · rintro apart _ ⟨⟩
    exact ⟨rfl, apart⟩

/-- A merge leaves the hints that it keeps, in their order, and the provider's hint behind them. -/
theorem merge_outcome (existing : List RouteHint) (merging : Merging) :
    (merge existing merging.provider merging.includeExisting).outcome =
      .ok (existing.filter (fun hint => merging.Keeps hint) ++ merging.provider.toList) := by
  obtain ⟨provider, includeExisting⟩ := merging
  cases provider with
  | none =>
    have keepsAll : existing.filter (fun hint => Merging.Keeps ⟨none, includeExisting⟩ hint) =
        existing := by
      refine List.filter_eq_self.mpr fun hint _ => decide_eq_true ?_
      intro provider there
      cases there
    rw [keepsAll, Option.toList_none, List.append_nil]
    rfl
  | some provider =>
    cases includeExisting with
    | false =>
      have keepsNone : existing.filter (fun hint => Merging.Keeps ⟨some provider, false⟩ hint) =
          [] := by
        refine List.filter_eq_nil_iff.mpr fun hint _ kept => ?_
        exact Bool.false_ne_true (of_decide_eq_true kept provider rfl).1
      rw [keepsNone]
      rfl
    | true =>
      rw [merge_wanted]
      exact congrArg (fun kept => Except.ok (kept ++ [provider])) (List.filter_congr fun hint _ =>
        decide_eq_decide.mpr Merging.keeps_including.symm)

/-! ### Runs of merges -/

/-- One merge after another. -/
def mergeAll (existing : List RouteHint) : List Merging → Traced (List RouteHint)
  | [] => pure existing
  | merging :: later => do
    mergeAll (← merge existing merging.provider merging.includeExisting) later

/-- The hints that the merges of a run bring in and that no later merge drops. -/
def lasting : List Merging → List RouteHint
  | [] => []
  | merging :: later =>
    merging.provider.toList.filter (fun own => ∀ other ∈ later, other.Keeps own) ++ lasting later

/-- A run leaves the hints that all of its merges keep, and behind them the hints that it brings in
itself and keeps. -/
theorem mergeAll_outcome (existing : List RouteHint) (mergings : List Merging) :
    (mergeAll existing mergings).outcome =
      .ok (existing.filter (fun hint => ∀ merging ∈ mergings, merging.Keeps hint) ++
        lasting mergings) := by
  induction mergings generalizing existing with
  | nil =>
    have keepsAll : existing.filter (fun hint => ∀ merging ∈ ([] : List Merging),
        merging.Keeps hint) = existing :=
      List.filter_eq_self.mpr fun hint _ => decide_eq_true (List.forall_mem_nil _)
    rw [keepsAll, lasting, List.append_nil]
    rfl
  | cons merging later inductionHypothesis =>
    rw [mergeAll, Traced.bind_outcome_of_ok (merge_outcome existing merging), inductionHypothesis,
      List.filter_append, List.filter_filter, List.append_assoc, lasting]
    simp only [List.forall_mem_cons, ← Bool.decide_and, and_comm]

/-! ### Runs in which every merge has a hint -/

/-- Of the hints of a run those that share no node with a later one. -/
def unclaimed : List RouteHint → List RouteHint
  | [] => []
  | own :: later =>
    if ∀ other ∈ later, own.IsApart other then own :: unclaimed later else unclaimed later

theorem lasting_including (providers : List RouteHint) :
    lasting (providers.map .including) = unclaimed providers := by
  induction providers with
  | nil => rfl
  | cons own later inductionHypothesis =>
    rw [List.map_cons, lasting, inductionHypothesis, unclaimed]
    simp only [List.forall_mem_map, Merging.keeps_including]
    rw [Merging.including, Option.toList_some, List.filter_singleton]
    by_cases apart : ∀ other ∈ later, own.IsApart other
    · rw [if_pos apart, decide_eq_true apart]
      rfl
    · rw [if_neg apart, decide_eq_false apart]
      rfl

/-- A run over provider's hints. -/
theorem mergeAll_including (existing providers : List RouteHint) :
    (mergeAll existing (providers.map .including)).outcome =
      .ok (existing.filter (fun hint => ∀ provider ∈ providers, hint.IsApart provider) ++
        unclaimed providers) := by
  rw [mergeAll_outcome, lasting_including]
  simp only [List.forall_mem_map, Merging.keeps_including]

/-- No later hint claims the nodes of the last one. -/
theorem getLast?_unclaimed (providers : List RouteHint) :
    (unclaimed providers).getLast? = providers.getLast? := by
  induction providers with
  | nil => rfl
  | cons own later inductionHypothesis =>
    rw [unclaimed]
    split
    · rw [List.getLast?_cons, inductionHypothesis, List.getLast?_cons]
    · rename_i claimed
      -- a hint is dropped for a later one, so there is a later one
      have behind : later ≠ [] := by
        rintro rfl
        exact claimed (List.forall_mem_nil _)
      obtain ⟨next, rest, rfl⟩ := List.exists_cons_of_ne_nil behind
      rw [inductionHypothesis, List.getLast?_cons_cons]

/-- Of a hint with a hop that is brought in again and again the last copy is left. -/
theorem unclaimed_replicate {provider : RouteHint} (hops : provider.hops ≠ []) (count : Nat) :
    unclaimed (List.replicate (count + 1) provider) = [provider] := by
  induction count with
  | zero => rfl
  | succ count inductionHypothesis =>
    rw [List.replicate_succ, unclaimed, if_neg, inductionHypothesis]
    intro apart
    exact not_isApart_self hops (apart provider (by simp))

/-- Of two hints without a common node both are left. -/
theorem unclaimed_pair {first second : RouteHint} (apart : first.IsApart second) :
    unclaimed [first, second] = [first, second] := by
  rw [unclaimed, if_pos (List.forall_mem_singleton.mpr apart)]
  rfl

/-- Merging a provider's hints in one after another leaves the existing hints that share no node
with any of them, in their order, and behind them those of the provider's hints that share no node
with a later one, so that the last one comes last. A hint that stands alone leaves nothing else,
and a merge without a hint changes nothing. A hint with a hop that is merged in again changes
nothing either, and two hints without a common node can be merged in either order but for the order
of the two themselves. -/
theorem merge_runs (existing : List RouteHint) :
    (∀ providers, (mergeAll existing (providers.map .including)).outcome =
        .ok (existing.filter (fun hint => ∀ provider ∈ providers, hint.IsApart provider) ++
          unclaimed providers) ∧
      (unclaimed providers).getLast? = providers.getLast?) ∧
    (∀ provider, (merge existing (some provider) false).outcome = .ok [provider]) ∧
    (∀ includeExisting, (merge existing none includeExisting).outcome = .ok existing) ∧
    (∀ provider, provider.hops ≠ [] → ∀ count,
      (mergeAll existing (List.replicate (count + 1) (.including provider))).outcome =
        (merge existing (some provider) true).outcome) ∧
    ∀ first second, first.IsApart second → ∃ kept,
      (mergeAll existing [.including first, .including second]).outcome =
          .ok (kept ++ [first, second]) ∧
        (mergeAll existing [.including second, .including first]).outcome =
          .ok (kept ++ [second, first]) := by
  refine ⟨fun providers => ⟨mergeAll_including existing providers, getLast?_unclaimed providers⟩,
    fun provider => rfl, fun includeExisting => rfl, ?_, ?_⟩
  · intro provider hops count
    calc (mergeAll existing (List.replicate (count + 1) (.including provider))).outcome
        = .ok (existing.filter (fun hint => hint.IsApart provider) ++ [provider]) := by
          rw [← List.map_replicate, mergeAll_including, unclaimed_replicate hops]
          simp only [List.forall_mem_replicate, Nat.succ_ne_zero, false_or]
      _ = (merge existing (some provider) true).outcome := (merge_wanted existing provider).symm
  · intro first second apart
    have inOrder := mergeAll_including existing [first, second]
    have swapped := mergeAll_including existing [second, first]
    rw [unclaimed_pair apart] at inOrder
    rw [unclaimed_pair apart.symm] at swapped
    simp only [List.forall_mem_cons, and_left_comm] at inOrder swapped
    exact ⟨_, inOrder, swapped⟩

/-- The first of three hints loses its node to the third, and an existing hint loses one of its two
nodes to the first. -/
theorem merge_runs_shared_nodes :
    let along (ids : List String) : RouteHint := ⟨ids.map fun id => ⟨id, 1, 0, 0, 0, .null, .null⟩⟩
    let existing := [along ["a"], along ["b", "c"], along [], along ["a"]]
    (mergeAll existing ([along ["c", "d"], along ["e"], along ["d"]].map .including)).outcome =
        .ok [along ["a"], along [], along ["a"], along ["e"], along ["d"]] ∧
      (along ["c"]).hops ≠ [] ∧
      (mergeAll existing (List.replicate 3 (.including (along ["c"])))).outcome =
        (merge existing (some (along ["c"])) true).outcome ∧
      (along ["c"]).IsApart (along ["d"]) ∧
      ∃ kept, (mergeAll existing [.including (along ["c"]), .including (along ["d"])]).outcome =
          .ok (kept ++ [along ["c"], along ["d"]]) ∧
        (mergeAll existing [.including (along ["d"]), .including (along ["c"])]).outcome =
          .ok (kept ++ [along ["d"], along ["c"]]) := by
  intro along existing
  obtain ⟨runs, -, -, again, eitherWay⟩ := merge_runs existing
  have hops : (along ["c"]).hops ≠ [] := List.cons_ne_nil _ _
  have apart : (along ["c"]).IsApart (along ["d"]) := by decide
  exact ⟨(runs _).1, hops, again _ hops 2, apart, eitherWay _ _ apart⟩

end Bolt11.RouteHint
