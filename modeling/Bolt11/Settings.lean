/-
This file holds the settings of the codec, in memory only.

Settings are entries under text keys. Some keys belong to a setting: it has a value to fall back
on, may hold its entry to a kind, and may read the entry in its own way. An entry that
is null counts as absent, though it stays among the entries until the key is set.
-/

import Bolt11.Datum.Reading
import Bolt11.Text.Blank
import Bolt11.Text.LetterCase
import Bolt11.Trace

namespace Bolt11

/-- The entries of the settings, in the order in which their keys were first set. -/
structure Settings where
  entries : List (String × Datum)
  deriving Repr

namespace Settings

/-! ### Entries -/

/-- The entry under a key, unless it is absent or null. -/
def get? (settings : Settings) (key : String) : Option Datum :=
  match Datum.lookup key settings.entries with
  | none => none
  | some .null => none
  | some value => some value

/-- Whether there is an entry under a key. -/
def isSet (settings : Settings) (key : String) : Bool := (settings.get? key).isSome

/-- The entry under a key, or the given value. -/
def get (settings : Settings) (key : String) (default : Datum) : Datum :=
  (settings.get? key).getD default

/-- Entries with a value put in place of the one under its key, or at the end. -/
def put (key : String) (value : Datum) : List (String × Datum) → List (String × Datum)
  | [] => [(key, value)]
  | (name, current) :: rest =>
    if name = key then (key, value) :: rest else (name, current) :: put key value rest

/-- Sets the entry under a key; null removes it. -/
def set (settings : Settings) (key : String) (value : Datum) : Settings :=
  match value with
  | .null => ⟨settings.entries.filter fun entry => entry.1 != key⟩
  | value => ⟨put key value settings.entries⟩

/-! ### Settings -/

/-- The kinds that an entry can be held to. -/
inductive Kind where
  | integer
  | text
  | truth
  deriving DecidableEq, Repr

namespace Kind

/-- The name of a kind in messages. -/
def label : Kind → String
  | integer => "<class 'int'>"
  | text => "<class 'str'>"
  | truth => "<class 'bool'>"

/-- Whether a value is of the kind; the truth values are integers too. -/
def admits : Kind → Datum → Bool
  | integer, .int _ => true
  | integer, .bool _ => true
  | text, .text _ => true
  | truth, .bool _ => true
  | _, _ => false

/-- A value made into one of the kind, if it can be. -/
def convert [Runtime] (kind : Kind) (value : Datum) : Option Datum :=
  match kind with
  | integer => value.toInt.toOption.map .int
  | text => if value.isPrintable then some (.text value.toText) else none
  | truth => some (.bool value.isTruthy)

end Kind

/-- Whether a value means yes. A text does if it is one of four words in any case; another value
does if it counts as true. -/
def meansYes : Datum → Bool
  | .text text =>
    ["1", "true", "yes", "on"].contains (String.ofList (Text.lower (Text.trim text.toList)))
  | value => value.isTruthy

/-- Ways of reading an entry. -/
inductive Reader where
  /-- Whether the entry means yes. -/
  | yesNo
  /-- Nothing, whatever the entry is. -/
  | nothing
  deriving DecidableEq, Repr

/-- What a reader makes of an entry. -/
def Reader.read : Reader → Datum → Datum
  | yesNo, value => .bool (meansYes value)
  | nothing, _ => .null

/-- The values to fall back on. -/
inductive Fallback where
  | fixed (value : Datum)
  /-- The name of the network in use. -/
  | networkInUse
  deriving Repr

/-- A setting. -/
structure Setting where
  key : String
  fallback : Fallback
  kind : Option Kind
  reader : Option Reader
  explanation : Option String
  deriving Repr

namespace Setting

/-- A setting as messages show it. -/
def display (setting : Setting) : String := "<ConfigVar key=" ++ Text.quoted setting.key ++ ">"

/-- An entry held to a kind. -/
def convert [Runtime] (setting : Setting) (kind : Kind) (value : Datum) : Except Fault Datum :=
  if value.isNull then .error .unmetCondition
  else match kind.convert value with
    | some converted => .ok converted
    | none => .error (Fault.badValue (.settingRead setting.key kind.label value)).worded

/-- The value of a setting while the given network is in use. -/
def read [Runtime] (setting : Setting) (inUse : Network) (settings : Settings) :
    Except Fault Datum :=
  match settings.get? setting.key with
  | none =>
    match setting.fallback with
    | .fixed value => .ok value
    | .networkInUse => .ok (.text inUse.name)
  | some value =>
    let value := match setting.reader with
      | some reader => reader.read value
      | none => value
    match setting.kind with
    | none => .ok value
    | some kind => setting.convert kind value

/-- Writes a setting; a value other than null has to be of the setting's kind. -/
def write [Runtime] (setting : Setting) (value : Datum) (settings : Settings) :
    Except Fault Settings :=
  match setting.kind with
  | none => .ok (settings.set setting.key value)
  | some kind =>
    if value.isNull || kind.admits value then .ok (settings.set setting.key value)
    else .error (Fault.badValue (.settingWrite setting.key kind.label value)).worded

end Setting

/-- Which notes are written where. -/
def verbosity : Setting where
  key := "verbosity"
  fallback := .fixed (.text "")
  kind := some .text
  reader := none
  explanation := none

/-- The network that invoices have to be of. -/
def network : Setting where
  key := "network"
  fallback := .networkInUse
  kind := some .text
  reader := none
  explanation := some "Network that invoices are expected to belong to"

/-- Whether an invoice has to have exactly one description. -/
def strictDescription : Setting where
  key := "bolt11_strict_description"
  fallback := .fixed (.bool false)
  kind := some .truth
  reader := some .yesNo
  explanation := some "Reject invoices without exactly one of the d/h fields"

/-- The settings of the codec. -/
def known : List Setting := [verbosity, network, strictDescription]

/-- The keys of the settings of the codec in rising order. -/
def knownKeys : List String :=
  (known.map Setting.key).mergeSort fun left right => decide (left ≤ right)

/-! ### Making and using -/

/-- The journal of settings. -/
def journal : String := "lninvoice.simple_config.SimpleConfig"

/-- Settings with the given entries. A note to the given journal names the keys that are not
known. -/
def make (journal : String) (familiar : List String) (entries : List (String × Datum)) :
    Traced Settings := do
  let unknown := (entries.map Prod.fst).filter fun key => !familiar.contains key
  if !unknown.isEmpty then
    Traced.note .debug journal ("ignoring unknown config keys: " ++
      Text.quotedList (unknown.mergeSort fun left right => decide (left ≤ right)))
  return ⟨entries⟩

/-- Settings of the codec with the given entries. -/
def ofEntries (entries : List (String × Datum)) : Traced Settings :=
  make journal (known.map Setting.key) entries

/-- Whether an invoice has to have exactly one description. -/
def isStrict [Runtime] (settings : Settings) (inUse : Network) : Except Fault Bool :=
  (strictDescription.read inUse settings).map Datum.isTruthy

/-- The network that invoices have to be of. -/
def expectedNetwork [Runtime] (settings : Settings) (inUse : Network) : Except Fault Network :=
  match network.read inUse settings with
  | .error fault => .error fault
  | .ok value =>
    match Network.ofName? value.toText with
    | some network => .ok network
    | none => .error (.wrongNetwork (.unknownSetting value.toText))

end Settings

end Bolt11
