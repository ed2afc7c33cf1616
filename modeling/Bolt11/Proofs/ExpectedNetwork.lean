/-
This file proves which network an invoice is held to at any point of a session.

In a session the network in use is switched, and entries of the settings are put, cleared and
written through their settings, in any order. What a check sees of all this is little: of the
network in use the last switch, and of the settings the last change to one key. A null, put by a
change or there from the start, counts as no entry, and without an entry the network in use decides
at the moment of the check. An entry is read as text, whatever it is, so a check can fail in one way
only, unless the entry holds a number that the runtime does not write. Such an entry has no text,
and the check fails for that.
-/

import Bolt11.Invoice
import Bolt11.Proofs.Numerals
import Bolt11.Proofs.Outcome
import Mathlib.Data.List.Induction

namespace Bolt11

/-- A value, unless it is null. -/
def Datum.unlessNull : Datum → Option Datum
  | null => none
  | value => some value

/-- The faults of an invoice that is not of the network it has to be of. -/
inductive Fault.IsOfNetwork : Fault → Prop
  | wrongNetwork (cause : WrongNetwork) : IsOfNetwork (.wrongNetwork cause)

theorem Network.ofName?_eq_some_iff {name : String} {network : Network} :
    ofName? name = some network ↔ network.name = name := by
  constructor
  · intro found
    exact eq_of_beq (List.find?_some found :)
  · rintro rfl
    cases network <;> rfl

/-- What holds a number that the runtime does not write is a number, a list or an object, and its
text does not begin with a letter. -/
theorem Datum.exists_head_of_not_isPrintable [Runtime] {value : Datum}
    (unprintable : value.isPrintable = false) :
    ∃ c rest, value.toText.toList = c :: rest ∧
      (c.isDigit || ['-', '[', '\x7b'].contains c) = true := by
  cases value with
  | int number =>
    change ∃ c rest, (print (.int number)).toList = c :: rest ∧ _
    rw [print]
    cases number with
    | ofNat number =>
      have present : (toString number).toList ≠ [] := by
        rw [Nat.toString_eq_ofList_toDigits, String.toList_ofList]
        exact Nat.toDigits_ne_nil
      obtain ⟨c, rest, spelled⟩ := List.exists_cons_of_ne_nil present
      have digit : c.isDigit = true :=
        Text.isDigit_of_mem_toString c (by rw [spelled]; exact List.mem_cons_self)
      exact ⟨c, rest, spelled, by rw [digit, Bool.true_or]⟩
    | negSucc below => exact ⟨'-', (toString (below + 1)).toList, String.toList_append, by decide⟩
  | list items =>
    change ∃ c rest, (print (.list items)).toList = c :: rest ∧ _
    rw [print, String.append_assoc, String.toList_append]
    exact ⟨'[', _, rfl, by decide⟩
  | object entries =>
    change ∃ c rest, (print (.object entries)).toList = c :: rest ∧ _
    rw [print, String.append_assoc, String.toList_append]
    exact ⟨'\x7b', _, rfl, by decide⟩
  | _ => cases unprintable

theorem Network.name_ne_toText [Runtime] (network : Network) {value : Datum}
    (unprintable : value.isPrintable = false) : network.name ≠ value.toText := by
  intro same
  obtain ⟨c, rest, spelled, mark⟩ := Datum.exists_head_of_not_isPrintable unprintable
  have letter : network.name.toList.head?.any
      (fun c => c.isDigit || ['-', '[', '\x7b'].contains c) = false := by
    cases network <;> decide
  rw [same, spelled, List.head?_cons, Option.any_some, mark] at letter
  cases letter

/-! ### Entries -/

namespace Settings

theorem lookup_put (key other : String) (value : Datum) (entries : List (String × Datum)) :
    Datum.lookup other (put key value entries) =
      if other = key then some value else Datum.lookup other entries := by
  induction entries with
  | nil => simp only [put, Datum.lookup, eq_comm]
  | cons entry rest inductionHypothesis =>
    obtain ⟨name, current⟩ := entry
    rw [put]
    by_cases replaced : name = key
    · rw [if_pos replaced, Datum.lookup, Datum.lookup, replaced]
      by_cases same : key = other
      · rw [if_pos same, if_pos same.symm]
      · rw [if_neg same, if_neg (Ne.symm same), if_neg same]
    · rw [if_neg replaced, Datum.lookup, Datum.lookup, inductionHypothesis]
      by_cases found : name = other
      · rw [if_pos found, if_pos found, if_neg (found ▸ replaced)]
      · rw [if_neg found, if_neg found]

theorem lookup_filter_ne (key other : String) (entries : List (String × Datum)) :
    Datum.lookup other (entries.filter fun entry => entry.1 != key) =
      if other = key then none else Datum.lookup other entries := by
  induction entries with
  | nil =>
    rw [List.filter_nil, Datum.lookup, ite_self]
  | cons entry rest inductionHypothesis =>
    obtain ⟨name, current⟩ := entry
    rw [List.filter_cons]
    by_cases removed : name = key
    · rw [if_neg (by simp [removed]), inductionHypothesis, Datum.lookup, removed]
      by_cases same : key = other
      · rw [if_pos same.symm, if_pos same.symm]
      · rw [if_neg (Ne.symm same), if_neg (Ne.symm same), if_neg same]
    · rw [if_pos (by simp [removed]), Datum.lookup, Datum.lookup, inductionHypothesis]
      by_cases found : name = other
      · rw [if_pos found, if_pos found, if_neg (found ▸ removed)]
      · rw [if_neg found, if_neg found]

theorem get?_eq_bind (settings : Settings) (key : String) :
    settings.get? key = (Datum.lookup key settings.entries).bind Datum.unlessNull := by
  unfold get?
  cases Datum.lookup key settings.entries with
  | none => rfl
  | some value => cases value <;> rfl

/-- Setting a key changes the entry under that key only, and null leaves none there. -/
theorem get?_set (settings : Settings) (key other : String) (value : Datum) :
    (settings.set key value).get? other =
      if other = key then value.unlessNull else settings.get? other := by
  rw [get?_eq_bind, get?_eq_bind]
  by_cases cleared : value = .null
  · rw [cleared, set, lookup_filter_ne, apply_ite (Option.bind · Datum.unlessNull)]
    rfl
  · have isPut : settings.set key value = ⟨put key value settings.entries⟩ := by
      cases value with
      | null => exact absurd rfl cleared
      | _ => rfl
    rw [isPut, lookup_put, apply_ite (Option.bind · Datum.unlessNull)]
    rfl

/-- An entry that is there is not null. -/
theorem ne_null_of_get? {settings : Settings} {key : String} {value : Datum}
    (there : settings.get? key = some value) : value ≠ .null := by
  rintro rfl
  rw [get?_eq_bind] at there
  obtain ⟨entry, -, shown⟩ := Option.bind_eq_some_iff.mp there
  cases entry <;> cases shown

/-- Settings can be made of any entries. -/
theorem ofEntries_outcome (entries : List (String × Datum)) :
    (ofEntries entries).outcome = .ok ⟨entries⟩ := by
  unfold ofEntries make
  simp only
  split
  · exact Traced.bind_outcome_ok_iff.mpr ⟨(), rfl, rfl⟩
  · rfl

/-- The text by which the expected network is chosen: that of the entry, or the name of the network
in use. -/
def networkName (settings : Settings) (inUse : Network) : String :=
  ((settings.get? network.key).map Datum.toText).getD inUse.name

section

variable [Runtime] {settings : Settings}

theorem read_network (inUse : Network)
    (printable : ∀ value ∈ settings.get? network.key, value.isPrintable = true) :
    network.read inUse settings = .ok (.text (settings.networkName inUse)) := by
  rw [Setting.read, networkName]
  cases there : settings.get? network.key with
  | none => rfl
  | some value =>
    have present : value.isNull = false := by
      cases value with
      | null => exact absurd rfl (ne_null_of_get? there)
      | _ => rfl
    simp only [network, Setting.convert, present, Bool.false_eq_true, if_false, Kind.convert,
      printable value there, if_true, Option.map_some, Option.getD_some]

/-- An entry that the runtime does not write is not read. -/
theorem read_network_of_not_isPrintable (inUse : Network) {value : Datum}
    (there : settings.get? network.key = some value) (unprintable : value.isPrintable = false) :
    ∃ fault, network.read inUse settings = .error fault ∧ fault.IsUnwritten := by
  have present : value.isNull = false := by
    cases value with
    | null => exact absurd rfl (ne_null_of_get? there)
    | _ => rfl
  have unwritable :
      (Fault.badValue (.settingRead network.key Kind.text.label value)).isWritable = false :=
    unprintable
  refine ⟨_, ?_, Fault.isUnwritten_worded unwritable⟩
  rw [Setting.read, there]
  simp only [network, Setting.convert, present, Bool.false_eq_true, if_false, Kind.convert,
    unprintable]

/-- The expected network is the one of that name, and there has to be one. -/
theorem expectedNetwork_eq_ok_iff {inUse expected : Network} :
    settings.expectedNetwork inUse = .ok expected ↔ expected.name = settings.networkName inUse := by
  rw [expectedNetwork]
  by_cases printable : ∀ value ∈ settings.get? network.key, value.isPrintable = true
  · rw [read_network inUse printable, ← Network.ofName?_eq_some_iff]
    simp only [Datum.toText]
    cases Network.ofName? (settings.networkName inUse) with
    | none => simp
    | some found => simp
  · obtain ⟨value, there, unprintable⟩ :
        ∃ value ∈ settings.get? network.key, value.isPrintable = false := by
      simpa using printable
    obtain ⟨fault, refused, -⟩ := read_network_of_not_isPrintable inUse there unprintable
    simp only [refused, reduceCtorEq, false_iff]
    rw [networkName, there]
    exact expected.name_ne_toText unprintable

end

end Settings

/-! ### Sessions -/

/-- What can happen between two checks: another network is in use, a value is set under a key, or
a setting is written. -/
inductive Change where
  | useNetwork (network : Network)
  | setKey (key : String) (value : Datum)
  | writeSetting (setting : Settings.Setting) (value : Datum)

/-- The network in use and the settings. -/
structure Session where
  inUse : Network
  settings : Settings

namespace Settings.Setting

/-- Whether a setting takes a value. -/
def takes (setting : Setting) (value : Datum) : Bool :=
  match setting.kind with
  | none => true
  | some kind => value.isNull || kind.admits value

/-- A value is written under the key of the setting if the setting takes it. -/
theorem write_of_takes [Runtime] {setting : Setting} {value : Datum} (settings : Settings)
    (taken : setting.takes value = true) :
    setting.write value settings = .ok (settings.set setting.key value) := by
  unfold takes at taken
  unfold write
  cases kind : setting.kind with
  | none => rfl
  | some kind =>
    simp only [kind] at taken ⊢
    rw [if_pos taken]

theorem write_of_not_takes [Runtime] {setting : Setting} {value : Datum} (settings : Settings)
    (refused : setting.takes value = false) :
    ∃ fault, setting.write value settings = .error fault := by
  unfold takes at refused
  unfold write
  cases kind : setting.kind with
  | none =>
    rw [kind] at refused
    cases refused
  | some kind =>
    simp only [kind] at refused ⊢
    rw [if_neg (by rw [refused]; exact Bool.false_ne_true)]
    exact ⟨_, rfl⟩

end Settings.Setting

namespace Change

/-- The network that a change puts in use. -/
def network? : Change → Option Network
  | useNetwork network => some network
  | _ => none

/-- What a change leaves under a key: an entry, or none where it puts null. A setting that does not
take a value leaves all as it was. -/
def entryUnder? (key : String) : Change → Option (Option Datum)
  | useNetwork _ => none
  | setKey name value => if name = key then some value.unlessNull else none
  | writeSetting setting value =>
    if setting.key = key ∧ setting.takes value = true then some value.unlessNull else none

end Change

namespace Session

/-- A session after one change. A setting that does not take a value stays as it is. -/
def apply [Runtime] (session : Session) : Change → Session
  | .useNetwork network => { session with inUse := network }
  | .setKey key value => { session with settings := session.settings.set key value }
  | .writeSetting setting value =>
    match setting.write value session.settings with
    | .ok settings => { session with settings := settings }
    | .error _ => session

/-- A session after changes one after another. -/
def run [Runtime] (session : Session) (changes : List Change) : Session :=
  changes.foldl apply session

theorem inUse_apply [Runtime] (session : Session) (change : Change) :
    (session.apply change).inUse = change.network?.getD session.inUse := by
  cases change with
  | useNetwork network => rfl
  | setKey key value => rfl
  | writeSetting setting value =>
    rw [apply]
    split <;> rfl

theorem get?_apply [Runtime] (key : String) (session : Session) (change : Change) :
    (session.apply change).settings.get? key =
      (change.entryUnder? key).getD (session.settings.get? key) := by
  cases change with
  | useNetwork network => rfl
  | setKey name value =>
    rw [apply, Settings.get?_set, Change.entryUnder?]
    by_cases same : name = key
    · rw [if_pos same, if_pos same.symm, Option.getD_some]
    · rw [if_neg same, if_neg (Ne.symm same), Option.getD_none]
  | writeSetting setting value =>
    rw [apply, Change.entryUnder?]
    cases taken : setting.takes value with
    | true =>
      simp only [Settings.Setting.write_of_takes session.settings taken, Settings.get?_set,
        and_true]
      by_cases same : setting.key = key
      · rw [if_pos same, if_pos same.symm, Option.getD_some]
      · rw [if_neg same, if_neg (Ne.symm same), Option.getD_none]
    | false =>
      obtain ⟨fault, refused⟩ := Settings.Setting.write_of_not_takes session.settings taken
      simp only [refused, Bool.false_eq_true, and_false, if_false, Option.getD_none]

/-- What each change either replaces or leaves alone is, after a run, what the last change that
replaces it made of it. -/
theorem run_last [Runtime] {α : Type} (view : Session → α) {replaced : Change → Option α}
    (step : ∀ session change, view (session.apply change) = (replaced change).getD (view session))
    (session : Session) (changes : List Change) :
    view (session.run changes) = (changes.reverse.findSome? replaced).getD (view session) := by
  induction changes using List.reverseRecOn with
  | nil => rfl
  | append_singleton earlier last inductionHypothesis =>
    rw [run, List.foldl_append, List.foldl_cons, List.foldl_nil, step, ← run, inductionHypothesis,
      List.reverse_concat, List.findSome?_cons]
    cases replaced last <;> rfl

end Session

namespace Invoice

/-- The demand of a network can be understood: where the settings decide, the runtime writes every
number in the entry. -/
def Demand.IsPrintable [Runtime] (settings : Option Settings) : Demand → Prop
  | decided => ∀ held ∈ settings, ∀ value ∈ held.get? "network", value.isPrintable = true
  | _ => True

section

variable [Runtime] {invoice : Invoice} {inUse network : Network} {settings : Option Settings}
  {demand : Demand}

/-- An invoice passes if it is of the network that the demand stands for. -/
theorem validateNetwork_eq_ok_iff :
    invoice.validateNetwork inUse settings demand = .ok () ↔
      demand.network inUse settings = .ok invoice.network := by
  rw [validateNetwork]
  cases demand.network inUse settings with
  | error fault => simp
  | ok expected =>
    simp only [Except.ok.injEq, eq_comm (a := expected)]
    by_cases same : invoice.network = expected
    · simp [same]
    · simp [same]

/-- A name stands for a network exactly if it is the name of one. -/
theorem network_named_eq_ok_iff {name : String} :
    Demand.network inUse settings (.named name) = .ok network ↔ network.name = name := by
  rw [Demand.network, ← Network.ofName?_eq_some_iff]
  cases Network.ofName? name with
  | none => simp
  | some found => simp

theorem failsOnlyWith_network (printable : demand.IsPrintable settings) :
    FailsOnlyWith Fault.IsOfNetwork (demand.network inUse settings) := by
  cases demand with
  | decided =>
    cases settings with
    | none => exact failsOnlyWith_ok inUse
    | some settings =>
      rw [Demand.network, Settings.expectedNetwork,
        Settings.read_network inUse (printable settings rfl)]
      simp only
      split
      · exact failsOnlyWith_ok _
      · exact failsOnlyWith_error (.wrongNetwork _)
  | named name =>
    rw [Demand.network]
    split
    · exact failsOnlyWith_ok _
    · exact failsOnlyWith_error (.wrongNetwork _)
  | given network => exact failsOnlyWith_ok network

theorem failsOnlyWith_validateNetwork (printable : demand.IsPrintable settings) :
    FailsOnlyWith Fault.IsOfNetwork (invoice.validateNetwork inUse settings demand) := by
  rw [validateNetwork]
  cases decision : demand.network inUse settings with
  | error fault => exact failsOnlyWith_error (failsOnlyWith_network printable _ decision)
  | ok expected =>
    simp only
    split
    · exact failsOnlyWith_ok ()
    · exact failsOnlyWith_error (.wrongNetwork _)

/-- An entry that the runtime does not write settles no network. -/
theorem validateNetwork_of_not_isPrintable (unprintable : ¬ demand.IsPrintable settings) :
    ∃ fault, invoice.validateNetwork inUse settings demand = .error fault ∧ fault.IsUnwritten := by
  cases demand with
  | decided =>
    obtain ⟨held, given, value, there, unprintable⟩ :
        ∃ held ∈ settings, ∃ value ∈ held.get? "network", value.isPrintable = false := by
      simpa [Demand.IsPrintable] using unprintable
    obtain ⟨fault, refused, unwritten⟩ :=
      Settings.read_network_of_not_isPrintable inUse there unprintable
    refine ⟨fault, ?_, unwritten⟩
    rw [Option.mem_def.mp given, validateNetwork, Demand.network, Settings.expectedNetwork, refused]
  | named name => exact absurd trivial unprintable
  | given network => exact absurd trivial unprintable

end

/-- A null from the start counts as no entry, a number is refused by the setting, and null clears
the key again. -/
example :
    let session := Session.run ⟨.mainnet, ⟨[("network", .null)]⟩⟩
      [.setKey "network" (.text "signet"), .useNetwork .regtest,
        .writeSetting Settings.network (.int 1)]
    (session.settings.networkName session.inUse,
      (session.apply (.setKey "network" .null)).settings.networkName session.inUse) =
        ("signet", "regtest") := by
  decide

end Invoice

end Bolt11
