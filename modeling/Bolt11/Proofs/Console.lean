/-
This file proves what a run of calls that set up the console leaves.

The first call of a run remembers a console, and every later call finds one and does no more than
note so. The first call takes its filters one by one. A good filter sets the level of one journal
right away, and the first bad filter ends the call. The levels that were set before it stay, and the
console, which is attached at the end of the call, is not attached then and never will be: a run
whose first verbosity is bad leaves a console that is remembered and to which nothing is written,
whatever the later calls ask for.

What a filter asks for does not depend on the journals, so the filters of a verbosity are read here
apart from their effects. Two relations between journals carry the proofs. `Sets` says which levels
are set on the way from one to the other, the last one first, and composes along filters. `Hears`
says that only notes are taken on the way, and composes along notes and along the later calls. What
a run as a whole leaves is put together from the two in `Leaves`.
-/

import Bolt11.Journal

namespace Bolt11

namespace Journal

/-! ### What a verbosity asks for -/

/-- The level of the given name, in any case. -/
def levelNamed (name : List Char) : Except Fault Level :=
  let levelName := String.ofList (Text.upper name)
  match Level.ofName? levelName with
  | some level => .ok level
  | none => .error (.badValue (.logLevel levelName))

/-- The level that one filter asks for, and for which journal. An empty filter asks for none. -/
def asked (filter : List Char) : Except Fault (List (String × Level)) :=
  if filter.isEmpty then .ok []
  else match Text.splitAll '=' filter with
    | [level] => (levelNamed level).map fun level => [(main, level)]
    | [name, level] => (levelNamed level).map fun level => [(fullName (String.ofList name), level)]
    | _ => .error (.badValue (.logFilter (String.ofList filter)))

/-- The filters of a verbosity text. A star has none. -/
def filtersOf (verbosity : String) : List (List Char) :=
  if verbosity = "*" then [] else Text.splitAll ',' verbosity.toList

/-- Whether all filters are good, or the fault of the first bad one. -/
def verdict (filters : List (List Char)) : Except Fault Unit :=
  forM filters fun filter => (asked filter).map fun _ => ()

/-- The levels that the filters before the first bad one ask for. -/
def granted : List (List Char) → List (String × Level)
  | [] => []
  | filter :: rest =>
    match asked filter with
    | .ok levels => levels ++ granted rest
    | .error _ => []

/-- The console that a first call with this verbosity leaves. -/
def consoleFor (verbosity : String) : Console where
  threshold := if verbosity = "" then .warning else .debug
  attached := (verdict (filtersOf verbosity)).isOk

/-! ### Setting levels -/

/-- Between two journals the given levels were set, one after another, and the console was left
alone. -/
structure Sets (levels : List (String × Level)) (before after : Journal) : Prop where
  console : after.console = before.console
  written : after.written = before.written
  ownLevel : ∀ name, after.ownLevel name = (levels.reverse.lookup name).getD (before.ownLevel name)

theorem Sets.none (journal : Journal) : Sets [] journal journal := ⟨rfl, rfl, fun _ => rfl⟩

theorem Sets.trans {first second : List (String × Level)} {before between after : Journal}
    (earlier : Sets first before between) (later : Sets second between after) :
    Sets (first ++ second) before after where
  console := later.console.trans earlier.console
  written := later.written.trans earlier.written
  ownLevel name := by
    rw [later.ownLevel, earlier.ownLevel, List.reverse_append, List.lookup_append, Option.getD_or]

theorem lookup_cons_eq_ite (name other : String) (level : Level) (levels : List (String × Level)) :
    ((name, level) :: levels).lookup other =
      if other = name then some level else levels.lookup other := by
  rw [List.lookup_cons]
  by_cases same : other = name
  · rw [if_pos same, same, beq_self_eq_true]
  · rw [if_neg same, beq_false_of_ne same]

theorem lookup_filter_ne {name other : String} (different : other ≠ name)
    (levels : List (String × Level)) :
    (levels.filter fun entry => entry.1 != name).lookup other = levels.lookup other := by
  induction levels with
  | nil => rfl
  | cons entry rest inductionHypothesis =>
    obtain ⟨key, level⟩ := entry
    by_cases removed : key = name
    · rw [List.filter_cons_of_neg (by simp [removed]), inductionHypothesis, lookup_cons_eq_ite,
        removed, if_neg different]
    · rw [List.filter_cons_of_pos (by simp [removed]), lookup_cons_eq_ite, lookup_cons_eq_ite,
        inductionHypothesis]

theorem ownLevel_setLevel (journal : Journal) (name other : String) (level : Level) :
    (journal.setLevel name level).ownLevel other =
      if other = name then level else journal.ownLevel other := by
  rw [ownLevel, setLevel, lookup_cons_eq_ite]
  by_cases same : other = name
  · rw [if_pos same, if_pos same, Option.getD_some]
  · rw [if_neg same, if_neg same, lookup_filter_ne same, ownLevel]

theorem sets_setLevel (journal : Journal) (name : String) (level : Level) :
    Sets [(name, level)] journal (journal.setLevel name level) where
  console := rfl
  written := rfl
  ownLevel other := by
    rw [ownLevel_setLevel, List.reverse_singleton, lookup_cons_eq_ite]
    split <;> rfl

/-- A journal that is opened has no level of its own yet. -/
theorem sets_openUp (journal : Journal) (name : String) :
    Sets [] journal (journal.openUp name) := by
  unfold openUp
  split
  · exact .none journal
  · exact ⟨rfl, rfl, fun _ => rfl⟩

/-- A request that is refused sets nothing, and one that is granted sets what it asks for. -/
structure Obeys (request : Except Fault (List (String × Level))) (before : Journal)
    (result : Except Fault Unit × Journal) : Prop where
  outcome : result.1 = request.map fun _ => ()
  sets : Sets (request.toOption.getD []) before result.2

theorem obeys_setLevelByName (journal : Journal) (name : String) (level : List Char) :
    Obeys ((levelNamed level).map fun level => [(name, level)]) journal
      (journal.setLevelByName name level) := by
  simp only [setLevelByName, levelNamed]
  cases Level.ofName? (String.ofList (Text.upper level)) with
  | none => exact ⟨rfl, sets_openUp journal name⟩
  | some level => exact ⟨rfl, (sets_openUp journal name).trans (sets_setLevel _ name level)⟩

/-! ### Filters -/

theorem obeys_applyFilter (journal : Journal) (filter : List Char) :
    Obeys (asked filter) journal (journal.applyFilter filter) := by
  rw [applyFilter, asked]
  by_cases empty : filter.isEmpty
  · rw [if_pos empty, if_pos empty]
    exact ⟨rfl, .none journal⟩
  · rw [if_neg empty, if_neg empty]
    rcases Text.splitAll '=' filter with _ | ⟨first, _ | ⟨second, _ | ⟨third, rest⟩⟩⟩
    · exact ⟨rfl, .none journal⟩
    · exact obeys_setLevelByName journal main first
    · exact obeys_setLevelByName journal _ second
    · exact ⟨rfl, .none journal⟩

theorem verdict_cons (filter : List Char) (rest : List (List Char)) :
    verdict (filter :: rest) = (asked filter).bind fun _ => verdict rest := by
  rw [verdict, List.forM_cons]
  cases asked filter <;> rfl

/-- Filters are applied as long as they are good: what those ask for is set, and the fault of the
first bad one is the outcome. -/
theorem applyFilters_obeys (journal : Journal) (filters : List (List Char)) :
    (journal.applyFilters filters).1 = verdict filters ∧
      Sets (granted filters) journal (journal.applyFilters filters).2 := by
  induction filters generalizing journal with
  | nil => exact ⟨rfl, .none journal⟩
  | cons filter rest inductionHypothesis =>
    obtain ⟨outcome, sets⟩ := obeys_applyFilter journal filter
    rw [applyFilters, verdict_cons, granted]
    generalize journal.applyFilter filter = result at outcome sets
    obtain ⟨_, between⟩ := result
    cases read : asked filter with
    | error fault =>
      rw [read] at outcome sets
      obtain rfl := outcome
      exact ⟨rfl, sets⟩
    | ok levels =>
      rw [read] at outcome sets
      obtain rfl := outcome
      obtain ⟨restOutcome, restSets⟩ := inductionHypothesis between
      exact ⟨restOutcome, sets.trans restSets⟩

theorem applyVerbosity_text (journal : Journal) (verbosity : String) :
    journal.applyVerbosity (.text verbosity) = journal.applyFilters (filtersOf verbosity) := by
  rw [applyVerbosity, filtersOf]
  split <;> rfl

/-! ### Notes -/

/-- No console is attached. -/
def IsSilent (journal : Journal) : Prop := ∀ console ∈ journal.console, console.attached = false

theorem writes_of_isSilent {journal : Journal} (silent : journal.IsSilent) (note : Note) :
    journal.writes note = false := by
  unfold writes
  cases there : journal.console with
  | none => rfl
  | some console => simp only [silent console there, Bool.false_and]

/-- Between two journals notes were taken, which changes nothing but what was written, and not even
that where no console is attached. -/
structure Hears (before after : Journal) : Prop where
  same : after = { before with written := after.written }
  silent : before.IsSilent → after.written = before.written

theorem Hears.refl (journal : Journal) : Hears journal journal := ⟨rfl, fun _ => rfl⟩

theorem Hears.console {before after : Journal} (hears : Hears before after) :
    after.console = before.console := by rw [hears.same]

theorem Hears.ownLevel {before after : Journal} (hears : Hears before after) (name : String) :
    after.ownLevel name = before.ownLevel name := by
  rw [hears.same, Journal.ownLevel, Journal.ownLevel]

theorem Hears.isSilent_iff {before after : Journal} (hears : Hears before after) :
    after.IsSilent ↔ before.IsSilent := by rw [IsSilent, IsSilent, hears.console]

theorem Hears.trans {before between after : Journal} (earlier : Hears before between)
    (later : Hears between after) : Hears before after where
  same := by
    rw [later.same, earlier.same]
  silent silent := by
    rw [later.silent (earlier.isSilent_iff.mpr silent), earlier.silent silent]

theorem hears_take (journal : Journal) (note : Note) : Hears journal (journal.take note).2 := by
  rw [take]
  split
  · by_cases writes : journal.writes note
    · rw [if_pos writes]
      refine ⟨rfl, fun silent => ?_⟩
      rw [writes_of_isSilent silent] at writes
      cases writes
    · rw [if_neg writes]
      exact .refl journal
  · exact .refl journal

theorem hears_takeAll (journal : Journal) (notes : List Note) :
    Hears journal (journal.takeAll notes).2 := by
  induction notes generalizing journal with
  | nil => exact .refl journal
  | cons note rest inductionHypothesis =>
    exact (journal.hears_take note).trans (inductionHypothesis _)

/-! ### Calls -/

/-- The journal after a call with a verbosity text, whether it fails or not. -/
def configured (journal : Journal) (verbosity : String) : Journal :=
  (journal.configure (.text verbosity)).2.2

/-- A call greets once the console is installed. -/
theorem configure_of_ok {journal installed : Journal} {verbosity : Datum} {heard : List Note}
    (succeeded : journal.installConsole verbosity = (.ok (), heard, installed)) :
    (journal.configure verbosity).1 = .ok () ∧
      Hears installed (journal.configure verbosity).2.2 := by
  simp only [configure, succeeded]
  exact ⟨trivial, hears_takeAll installed (greetings verbosity)⟩

/-- A later call never fails and does no more than take notes. -/
theorem configure_of_console {journal : Journal} {console : Console}
    (there : journal.console = some console) (verbosity : Datum) :
    (journal.configure verbosity).1 = .ok () ∧ Hears journal (journal.configure verbosity).2.2 := by
  have warned := journal.hears_take ⟨.warning, own, "stderr handler already exists"⟩
  generalize taken : journal.take ⟨.warning, own, "stderr handler already exists"⟩ = result
    at warned
  have installed : journal.installConsole verbosity = (.ok (), result.1, result.2) := by
    rw [installConsole, there, taken]
  obtain ⟨succeeded, greeted⟩ := configure_of_ok installed
  exact ⟨succeeded, warned.trans greeted⟩

/-- Calls on the way between two journals leave a certain console, set levels, one after another,
and write nothing as long as no console is attached. -/
structure Leaves (console : Option Console) (levels : List (String × Level))
    (before after : Journal) : Prop where
  console : after.console = console
  ownLevel : ∀ name, after.ownLevel name = (levels.reverse.lookup name).getD (before.ownLevel name)
  silent : after.IsSilent → after.written = before.written

theorem Leaves.none (journal : Journal) : Leaves journal.console [] journal journal :=
  ⟨rfl, fun _ => rfl, fun _ => rfl⟩

/-- Notes that are taken afterwards make no difference. -/
theorem Leaves.hears {console : Option Console} {levels : List (String × Level)}
    {before between after : Journal} (leaves : Leaves console levels before between)
    (hears : Hears between after) : Leaves console levels before after where
  console := hears.console.trans leaves.console
  ownLevel name := (hears.ownLevel name).trans (leaves.ownLevel name)
  silent silent := by
    have wasSilent := hears.isSilent_iff.mp silent
    rw [hears.silent wasSilent, leaves.silent wasSilent]

/-- A first call succeeds if all filters are good. It remembers the console in any case and attaches
it if it succeeds, and it sets what the filters before the first bad one ask for. -/
theorem configure_of_no_console {journal : Journal} (absent : journal.console = none)
    (verbosity : String) :
    (journal.configure (.text verbosity)).1 = verdict (filtersOf verbosity) ∧
      Leaves (some (consoleFor verbosity)) (granted (filtersOf verbosity)) journal
        (journal.configured verbosity) := by
  by_cases given : verbosity = ""
  · subst given
    have installed : journal.installConsole (.text "") =
        (.ok (), [], { journal with console := some ⟨.warning, true⟩ }) := by
      rw [installConsole, absent]
      rfl
    have leaves : Leaves (some ⟨.warning, true⟩) [] journal
        { journal with console := some ⟨.warning, true⟩ } := ⟨rfl, fun _ => rfl, fun _ => rfl⟩
    obtain ⟨succeeded, greeted⟩ := configure_of_ok installed
    exact ⟨succeeded, leaves.hears greeted⟩
  · have console : consoleFor verbosity = ⟨.debug, (verdict (filtersOf verbosity)).isOk⟩ := by
      rw [consoleFor, if_neg given]
    have truthy : (Datum.text verbosity).isTruthy = true := bne_iff_ne.mpr given
    have applied := applyVerbosity_text { journal with console := some ⟨.debug, false⟩ } verbosity
    obtain ⟨outcome, sets⟩ := applyFilters_obeys
      { journal with console := some ⟨.debug, false⟩ } (filtersOf verbosity)
    generalize Journal.applyFilters { journal with console := some ⟨.debug, false⟩ }
      (filtersOf verbosity) = result at applied outcome sets
    obtain ⟨_, between⟩ := result
    obtain rfl := outcome
    rw [console]
    cases judged : verdict (filtersOf verbosity) with
    | ok _ =>
      have leaves : Leaves (some ⟨.debug, true⟩) (granted (filtersOf verbosity)) journal
          { between with console := some ⟨.debug, true⟩ } :=
        ⟨rfl, sets.ownLevel, fun _ => sets.written⟩
      have installed : journal.installConsole (.text verbosity) =
          (.ok (), [], { between with console := some ⟨.debug, true⟩ }) := by
        simp only [installConsole, absent, truthy, if_true, applied, judged]
      obtain ⟨succeeded, greeted⟩ := configure_of_ok installed
      exact ⟨succeeded, leaves.hears greeted⟩
    | error fault =>
      have failed : journal.configure (.text verbosity) = (.error fault, [], between) := by
        simp only [configure, installConsole, absent, truthy, if_true, applied, judged]
      rw [configured, failed]
      exact ⟨rfl, sets.console, sets.ownLevel, fun _ => sets.written⟩

/-- A call can fail only where there is no console, and then fails at the first bad filter. -/
theorem configure_outcome (journal : Journal) (verbosity : String) :
    (journal.configure (.text verbosity)).1 =
      if journal.console = none then verdict (filtersOf verbosity) else .ok () := by
  cases there : journal.console with
  | none => exact (configure_of_no_console there verbosity).1.trans (if_pos rfl).symm
  | some console => exact (configure_of_console there _).1.trans (if_neg (by rintro ⟨⟩)).symm

/-! ### Runs -/

/-- The levels that a run of calls sets: those that its first call grants, if there was no console
before it. -/
def heeded : Option Console → List String → List (String × Level)
  | none, first :: _ => granted (filtersOf first)
  | _, _ => []

/-- Once there is a console, calls do no more than take notes. -/
theorem hears_run {journal : Journal} {console : Console} (there : journal.console = some console)
    (verbosities : List String) : Hears journal (verbosities.foldl configured journal) := by
  induction verbosities generalizing journal with
  | nil => exact .refl journal
  | cons verbosity rest inductionHypothesis =>
    have hears := (configure_of_console there (.text verbosity)).2
    exact hears.trans (inductionHypothesis (hears.console.trans there))

theorem leaves_run (journal : Journal) (verbosities : List String) :
    Leaves (journal.console.or (verbosities.head?.map consoleFor))
      (heeded journal.console verbosities) journal (verbosities.foldl configured journal) := by
  cases there : journal.console with
  | some console =>
    have leaves := (Leaves.none journal).hears (hears_run there verbosities)
    rw [there] at leaves
    exact leaves
  | none =>
    cases verbosities with
    | nil => exact ⟨there, fun _ => rfl, fun _ => rfl⟩
    | cons first later =>
      obtain ⟨-, leaves⟩ := configure_of_no_console there first
      exact leaves.hears (hears_run leaves.console later)

/-- After any run of calls the console is the one that was there before it or else the one that the
first call left, which is attached if all filters of that call are good. The levels are those that
the filters before its first bad one ask for. Of all later calls none fails, sets a level or
attaches the console, and without an attached console nothing is ever written. -/
theorem configured_run (journal : Journal) (verbosities : List String) :
    let now := verbosities.foldl configured journal
    now.console = journal.console.or (verbosities.head?.map consoleFor) ∧
      (∀ name, now.ownLevel name =
        ((heeded journal.console verbosities).reverse.lookup name).getD (journal.ownLevel name)) ∧
      (∀ verbosity, (now.configure (.text verbosity)).1 =
        if now.console = none then verdict (filtersOf verbosity) else .ok ()) ∧
      (now.IsSilent → ∀ notes, (now.takeAll notes).2.written = journal.written) := by
  intro now
  have leaves : Leaves _ _ journal now := leaves_run journal verbosities
  refine ⟨leaves.console, leaves.ownLevel, now.configure_outcome, fun silent notes => ?_⟩
  rw [(now.hears_takeAll notes).silent silent, leaves.silent silent]

/-- A first verbosity with a bad second filter: the level of the first is set, the console is never
attached, and the next call succeeds all the same. -/
theorem configured_run_bad_filter :
    let now := ["error,nope", "debug"].foldl configured initial
    now.console = some ⟨.debug, false⟩ ∧ now.ownLevel main = .error ∧
      (now.configure (.text "debug")).1 = .ok () ∧
      ∀ notes, (now.takeAll notes).2.written = "" := by
  intro now
  obtain ⟨console, levels, outcome, written⟩ := configured_run initial ["error,nope", "debug"]
  have refused : now.console = some ⟨.debug, false⟩ := console.trans (by decide +kernel)
  refine ⟨refused, (levels main).trans (by decide +kernel), ?_, written ?_⟩
  · exact (outcome "debug").trans (if_neg (refused ▸ by rintro ⟨⟩))
  · intro console there
    obtain rfl := Option.some.inj (refused.symm.trans there)
    rfl

end Journal

end Bolt11
