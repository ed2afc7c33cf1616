/-
This file decides which notes are heard and which are written out.

Notes are written to journals whose names are dotted paths below one main journal. A journal
without a level of its own has the level of the nearest journal above it, and a note that weighs
less than the level of its journal is dropped. The others reach the journals above, the main one
among them, and the console, once one is installed.

Above a journal stand only journals that have been opened. The search for them goes from dot to
dot towards the head of the name, and steps over a dot that stands right before the one it came
from. So a journal whose name has two dots in a row can miss the journal that the part before
both of them names, even the main one.

A verbosity text sets levels. It is a list of filters with commas between them: a level alone
sets the main journal, a name and a level with an equals sign between them set one journal.
-/

import Bolt11.Text.LetterCase
import Bolt11.Text.Split
import Bolt11.Trace

namespace Bolt11

/-- The console: the weight a note must have to be written there, and whether notes reach it
at all. -/
structure Console where
  threshold : Level
  attached : Bool
  deriving DecidableEq, Repr

/-- The journals that have been opened, their levels, the console, and what was written there. With
no console attached, a runtime may write out warnings by itself; that is not recorded. -/
structure Journal where
  opened : List String
  levels : List (String × Level)
  console : Option Console
  written : String
  deriving Repr

namespace Journal

/-! ### Names -/

/-- The name of the main journal. -/
def main : String := "lninvoice"

/-- What the name of every other journal begins with. -/
def mainDot : List Char := main.toList ++ ['.']

/-- The name of a journal without the main journal's, if it begins with that. -/
def shortName (name : String) : String :=
  if mainDot.isPrefixOf name.toList then String.ofList (name.toList.drop mainDot.length) else name

/-- The full name of a journal below the main one. -/
def fullName (name : String) : String := String.ofList (mainDot ++ (shortName name).toList)

/-- The journal that a name stands for; no name stands for the main one. -/
def named : Option String → String
  | none => main
  | some name => fullName name

/-- The journal of this part. -/
def own : String := fullName "logging"

/-- Every journal that has been opened above a name, the nearest first. From a journal that is
found the search goes on at the last dot of its name. Where there is no journal, the character
before the dot is stepped over as well. -/
def above (isOpen : List Char → Bool) (name : List Char) : List (List Char) :=
  match _split : Text.splitLast '.' name with
  | none => []
  | some (before, _) =>
    if isOpen before then before :: above isOpen before else above isOpen before.dropLast
  termination_by name.length
  decreasing_by
    all_goals
      have longer := congrArg List.length (Text.eq_of_splitLast _split)
      have shorter := @List.length_dropLast _ before
      simp only [List.length_append, List.length_cons] at longer
      omega

/-! ### Levels -/

/-- The journals before anything is set. -/
def initial : Journal := ⟨[main, own], [(main, .debug), (own, .info)], none, ""⟩

/-- Opens a journal, unless it is open. -/
def openUp (journal : Journal) (name : String) : Journal :=
  if journal.opened.contains name then journal
  else { journal with opened := name :: journal.opened }

/-- A journal and every open one above it, the nearest first. -/
def lineage (journal : Journal) (name : String) : List String :=
  let isOpen := fun place => journal.opened.contains (String.ofList place)
  name :: (above isOpen name.toList).map String.ofList

/-- The level that a journal was given itself. -/
def ownLevel (journal : Journal) (name : String) : Level :=
  (journal.levels.lookup name).getD .unset

/-- The level that a journal goes by. Above all journals stands one at the level of warnings. -/
def effectiveLevel (journal : Journal) (name : String) : Level :=
  let levels := (journal.lineage name).map journal.ownLevel
  (levels.find? fun level => level != .unset).getD .warning

/-- Gives a journal that is open a level. -/
def setLevel (journal : Journal) (name : String) (level : Level) : Journal :=
  { journal with levels := (name, level) :: journal.levels.filter fun entry => entry.1 != name }

/-! ### Notes -/

/-- A note as the console shows it: the first letter of its level, the short name of its journal,
and its text. -/
def consoleLine (note : Note) : String :=
  String.ofList (note.level.name.toList.take 1) ++ " | " ++ shortName note.source ++ " | " ++
    note.text

/-- Whether a note weighs enough for its journal. -/
def admits (journal : Journal) (note : Note) : Bool :=
  (journal.effectiveLevel note.source).rank ≤ note.level.rank

/-- Whether a note that is admitted reaches the main journal. -/
def reachesMain (journal : Journal) (note : Note) : Bool :=
  (journal.lineage note.source).contains main

/-- Whether a note that is admitted is written to the console. -/
def writes (journal : Journal) (note : Note) : Bool :=
  match journal.console with
  | some console => console.attached && console.threshold.rank ≤ note.level.rank
  | none => false

/-- Takes one note. Gives the note if the main journal hears it. -/
def take (journal : Journal) (note : Note) : List Note × Journal :=
  if journal.admits note then
    (if journal.reachesMain note then [note] else [],
      if journal.writes note then
        { journal with written := journal.written ++ consoleLine note ++ "\n" }
      else journal)
  else ([], journal)

/-- Takes notes one after another. Gives those that are heard. -/
def takeAll (journal : Journal) : List Note → List Note × Journal
  | [] => ([], journal)
  | note :: rest =>
    let (heard, journal) := journal.take note
    let (more, journal) := journal.takeAll rest
    (heard ++ more, journal)

/-! ### Verbosity -/

/-- Opens a journal and gives it the level of the given name, in any case. -/
def setLevelByName (journal : Journal) (name : String) (level : List Char) :
    Except Fault Unit × Journal :=
  let journal := journal.openUp name
  let levelName := String.ofList (Text.upper level)
  match Level.ofName? levelName with
  | some level => (.ok (), journal.setLevel name level)
  | none => (.error (.badValue (.logLevel levelName)), journal)

/-- Applies one filter. An empty one changes nothing. -/
def applyFilter (journal : Journal) (filter : List Char) : Except Fault Unit × Journal :=
  if filter.isEmpty then (.ok (), journal)
  else match Text.splitAll '=' filter with
    | [level] => journal.setLevelByName main level
    | [name, level] => journal.setLevelByName (fullName (String.ofList name)) level
    | _ => (.error (.badValue (.logFilter (String.ofList filter))), journal)

/-- Applies filters one after another, up to the first bad one. -/
def applyFilters (journal : Journal) : List (List Char) → Except Fault Unit × Journal
  | [] => (.ok (), journal)
  | filter :: rest =>
    match journal.applyFilter filter with
    | (.ok (), journal) => journal.applyFilters rest
    | (.error fault, journal) => (.error fault, journal)

/-- Applies a verbosity text. A star, and anything that is not a text, changes nothing. -/
def applyVerbosity (journal : Journal) : Datum → Except Fault Unit × Journal
  | .text text =>
    if text = "*" then (.ok (), journal)
    else journal.applyFilters (Text.splitAll ',' text.toList)
  | _ => (.ok (), journal)

/-! ### Console -/

/-- Installs the console, unless there is one. Without a verbosity it shows warnings and worse,
with one it shows all that is heard. It is remembered before the verbosity is applied and
attached afterwards. -/
def installConsole (journal : Journal) (verbosity : Datum) :
    Except Fault Unit × List Note × Journal :=
  match journal.console with
  | some _ =>
    let (heard, journal) := journal.take ⟨.warning, own, "stderr handler already exists"⟩
    (.ok (), heard, journal)
  | none =>
    if verbosity.isTruthy then
      let remembered := { journal with console := some ⟨.debug, false⟩ }
      match remembered.applyVerbosity verbosity with
      | (.ok (), journal) => (.ok (), [], { journal with console := some ⟨.debug, true⟩ })
      | (.error fault, journal) => (.error fault, [], journal)
    else (.ok (), [], { journal with console := some ⟨.warning, true⟩ })

/-- What is noted once the console stands. The second note ends with a description of the
machine, which is left out. -/
def greetings (verbosity : Datum) : List Note := [
  ⟨.info, own, "lninvoice version: 0.1.0"⟩,
  ⟨.info, own, "Python version: "⟩,
  ⟨.info, own, "Log filters: verbosity " ++ verbosity.print⟩]

/-- Installs the console with a verbosity and notes so. -/
def configure (journal : Journal) (verbosity : Datum) : Except Fault Unit × List Note × Journal :=
  match journal.installConsole verbosity with
  | (.error fault, heard, journal) => (.error fault, heard, journal)
  | (.ok (), heard, journal) =>
    let (more, journal) := journal.takeAll (greetings verbosity)
    (.ok (), heard ++ more, journal)

/-- Takes what was written to the console since the last time. -/
def flush (journal : Journal) : String × Journal := (journal.written, { journal with written := "" })

end Journal

end Bolt11
