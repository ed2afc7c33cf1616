/-
This file proves what a decoded request means, whatever fields it has and in whatever order.

Each field is read for one thing, its role, and what a section says about one thing is settled by
the fields of that role alone. Of some roles the first field counts, of features the last, of
others each. One field gains what its role says and nothing else; since the gains of two pieces of
a section add up, the gains of the whole section follow by going through it once. Nothing depends
on how the roles are interleaved, and every field has exactly one of them.
-/

import Bolt11.Proofs.HumanPart
import Bolt11.Proofs.Payload
import Mathlib.Data.List.Count
import Mathlib.Data.List.Forall2

namespace Bolt11

/-! ### Roles -/

namespace Field

/-- What a field is read for. -/
inductive Role where
  | route
  | description
  | expiry
  | cltvDelta
  | paymentHash
  | paymentSecret
  | payeeKey
  | features
  | unknown
  deriving DecidableEq, Repr

/-- All roles, each once. -/
def Role.all : List Role :=
  [route, description, expiry, cltvDelta, paymentHash, paymentSecret, payeeKey, features, unknown]

/-- The role of a field. A field of a type that has one length only is unknown with any other. -/
def role (field : Field) : Role :=
  match field.tag with
  | 'r' => .route
  | 'd' => .description
  | 'h' => if field.payload.length = 52 then .description else .unknown
  | 'x' => .expiry
  | 'c' => .cltvDelta
  | 'p' => if field.payload.length = 52 then .paymentHash else .unknown
  | 's' => if field.payload.length = 52 then .paymentSecret else .unknown
  | 'n' => if field.payload.length = 53 then .payeeKey else .unknown
  | '9' => .features
  | _ => .unknown

/-- The fields of a role, in order. -/
def ofRole (role : Role) (fields : List Field) : List Field :=
  fields.filter fun field => field.role = role

@[simp] theorem ofRole_append (role : Role) (fields others : List Field) :
    ofRole role (fields ++ others) = ofRole role fields ++ ofRole role others :=
  List.filter_append fields others

theorem ofRole_cons (role : Role) (field : Field) (rest : List Field) :
    ofRole role (field :: rest) =
      if field.role = role then field :: ofRole role rest else ofRole role rest := by
  simp [ofRole, List.filter_cons]

@[simp] theorem ofRole_singleton (role : Role) (field : Field) :
    ofRole role [field] = if field.role = role then [field] else [] :=
  ofRole_cons role field []

theorem mem_ofRole {role : Role} {field : Field} {fields : List Field} :
    field ∈ ofRole role fields ↔ field ∈ fields ∧ field.role = role := by
  simp [ofRole]

/-- The fields of all roles together are the fields, each as often as it occurs. -/
theorem perm_ofRole (fields : List Field) :
    (Role.all.flatMap fun role => ofRole role fields).Perm fields := by
  refine List.perm_iff_count.mpr fun field => ?_
  have share (role : Role) : (ofRole role fields).count field =
      if field.role = role then fields.count field else 0 := by
    by_cases same : field.role = role
    · rw [if_pos same]
      exact List.count_filter (decide_eq_true same)
    · rw [if_neg same, List.count_eq_zero]
      exact fun member => same (mem_ofRole.mp member).2
  simp only [Role.all, List.flatMap_cons, List.flatMap_nil, List.count_append, List.count_nil,
    share]
  cases field.role <;> simp

/-! ### What one field says -/

/-- The octets of a field are the given ones. -/
def Holds (field : Field) (octets : Bytes) : Prop := Symbols.StandFor field.payload octets

/-- The number of a field, its first symbol being the highest digit. -/
def number (field : Field) : Nat := Nat.ofDigits 32 field.payload.reverse

/-- A field says a number. -/
def Counts (field : Field) (value : Nat) : Prop := value = field.number

/-- A field says a description: in the clear, as the encoding of its text, or hashed. -/
def Describes (field : Field) : Description → Prop
  | .plain text => field.tag = 'd' ∧ field.Holds (Text.Utf8.encode text)
  | .hashed digest => field.tag = 'h' ∧ field.Holds digest.octets
  | .unread _ => False

/-- A field says a route hint: its octets are the wire form of the hint, which has a hop and is in
canonical form. -/
def Leads (field : Field) (hint : RouteHint) : Prop :=
  ∃ octets, field.Holds octets ∧ octets ≠ [] ∧ hint.toBytes = .ok octets ∧ hint.canonical = hint

/-- A field names a key that the signer owns to be one. -/
def Names (signer : Signer) (field : Field) (key : Bytes) : Prop :=
  field.Holds key ∧ signer.isPubkey key = .ok true

end Field

/-! ### Related values -/

section Related

variable {α β : Type} {relation : α → β → Prop}

theorem exists_left_of_rel {left : Option α} {value : β}
    (related : Option.Rel relation left (some value)) :
    ∃ item, left = some item ∧ relation item value := by
  cases related with
  | some holds => exact ⟨_, rfl, holds⟩

theorem exists_right_of_rel {item : α} {right : Option β}
    (related : Option.Rel relation (some item) right) :
    ∃ value, right = some value ∧ relation item value := by
  cases related with
  | some holds => exact ⟨_, rfl, holds⟩

theorem exists_right_of_forall₂ {left : List α} {right : List β}
    (related : List.Forall₂ relation left right) : ∀ item ∈ left, ∃ value, relation item value := by
  induction related with
  | nil => simp
  | cons head _ inductionHypothesis =>
    exact List.forall_mem_cons.mpr ⟨⟨_, head⟩, inductionHypothesis⟩

theorem exists_left_of_forall₂ {left : List α} {right : List β}
    (related : List.Forall₂ relation left right) :
    ∀ value ∈ right, ∃ item ∈ left, relation item value := by
  induction related with
  | nil => simp
  | cons head _ inductionHypothesis =>
    refine List.forall_mem_cons.mpr ⟨⟨_, List.mem_cons_self, head⟩, fun value member => ?_⟩
    obtain ⟨item, among, holds⟩ := inductionHypothesis value member
    exact ⟨item, List.mem_cons_of_mem _ among, holds⟩

theorem mem_of_sole {values : List α} {value : α} (only : WireInvoice.sole values = some value) :
    value ∈ values := by
  match values with
  | [_] =>
    obtain rfl := Option.some.inj only
    exact List.mem_cons_self
  | [] => cases only
  | _ :: _ :: _ => cases only

theorem rel_sole {left : List α} {right : List β} (related : List.Forall₂ relation left right) :
    Option.Rel relation (WireInvoice.sole left) (WireInvoice.sole right) := by
  cases related with
  | nil => exact .none
  | cons head tail =>
    cases tail with
    | nil => exact .some head
    | cons next others => exact .none

end Related

/-! ### What several fields of one role say -/

section Counting

variable {α : Type} {reads : Field → α → Prop} {fields others : List Field}

/-- The first field counts, unless something was said before. -/
def FirstCounts (reads : Field → α → Prop) (fields : List Field) : Option α → Option α → Prop
  | some value, after => after = some value
  | none, after => Option.Rel reads fields.head? after

/-- Each field counts. -/
def EachCounts (reads : Field → α → Prop) (fields : List Field) (before after : List α) : Prop :=
  ∃ gained, List.Forall₂ reads fields gained ∧ after = before ++ gained

@[simp] theorem firstCounts_nil {before after : Option α} :
    FirstCounts reads [] before after ↔ after = before := by
  cases before with
  | some value => exact Iff.rfl
  | none =>
    constructor
    · rintro ⟨⟩
      rfl
    · rintro rfl
      exact .none

theorem firstCounts_append {before between after : Option α}
    (first : FirstCounts reads fields before between)
    (second : FirstCounts reads others between after) :
    FirstCounts reads (fields ++ others) before after := by
  cases before with
  | some value =>
    obtain rfl : between = some value := first
    exact second
  | none =>
    cases fields with
    | nil =>
      obtain rfl := firstCounts_nil.mp first
      exact second
    | cons field rest =>
      cases first with
      | some read =>
        obtain rfl := second
        exact .some read

@[simp] theorem eachCounts_nil {before after : List α} :
    EachCounts reads [] before after ↔ after = before := by
  constructor
  · rintro ⟨gained, said, rfl⟩
    cases said
    exact List.append_nil before
  · rintro rfl
    exact ⟨[], .nil, (List.append_nil after).symm⟩

theorem eachCounts_singleton {field : Field} {value : α} (before : List α)
    (read : reads field value) : EachCounts reads [field] before (before ++ [value]) :=
  ⟨[value], .cons read .nil, rfl⟩

theorem eachCounts_append {before between after : List α}
    (first : EachCounts reads fields before between)
    (second : EachCounts reads others between after) :
    EachCounts reads (fields ++ others) before after := by
  obtain ⟨gained, said, rfl⟩ := first
  obtain ⟨more, saidToo, rfl⟩ := second
  exact ⟨gained ++ more, List.rel_append said saidToo, by rw [List.append_assoc]⟩

end Counting

open Bolt11.Field (Role ofRole)

namespace WireInvoice

/-! ### What a section gains -/

/-- What the contents gain from the fields of one role. -/
def Gains (signer : Signer) (contents : Contents) (fields : List Field) (after : Contents) :
    Role → Prop
  | .route => EachCounts Field.Leads fields contents.routeHints after.routeHints
  | .description => EachCounts Field.Describes fields contents.descriptions after.descriptions
  | .expiry => FirstCounts Field.Counts fields contents.expiry after.expiry
  | .cltvDelta =>
    FirstCounts Field.Counts fields contents.minFinalCltvDelta after.minFinalCltvDelta
  | .paymentHash => FirstCounts Field.Holds fields contents.paymentHash after.paymentHash
  | .paymentSecret => FirstCounts Field.Holds fields contents.paymentSecret after.paymentSecret
  | .payeeKey => FirstCounts (Field.Names signer) fields contents.namedKey after.namedKey ∧
      ∀ field ∈ fields, ∃ key, field.Names signer key
  | .features => after.features = (fields.getLast?.map Field.number).getD contents.features
  | .unknown => after.setAside = contents.setAside ++ fields

variable {signer : Signer}

theorem gains_nil (contents : Contents) (role : Role) :
    Gains signer contents [] contents role := by
  cases role <;> simp [Gains]

theorem gains_append {contents between after : Contents} {fields others : List Field} {role : Role}
    (first : Gains signer contents fields between role)
    (second : Gains signer between others after role) :
    Gains signer contents (fields ++ others) after role := by
  cases role with
  | route => exact eachCounts_append first second
  | description => exact eachCounts_append first second
  | expiry => exact firstCounts_append first second
  | cltvDelta => exact firstCounts_append first second
  | paymentHash => exact firstCounts_append first second
  | paymentSecret => exact firstCounts_append first second
  | payeeKey =>
    refine ⟨firstCounts_append first.1 second.1, fun field member => ?_⟩
    rcases List.mem_append.mp member with early | late
    · exact first.2 field early
    · exact second.2 field late
  | features =>
    show after.features = _
    rw [show after.features = _ from second, show between.features = _ from first,
      List.getLast?_append]
    cases others.getLast? with
    | none => rfl
    | some last => rfl
  | unknown =>
    show after.setAside = _
    rw [show after.setAside = _ from second, show between.setAside = _ from first,
      List.append_assoc]

/-- A field that gains something for its own role, and nothing for any other. -/
theorem gains_ofRole_singleton {contents after : Contents} {field : Field} (own : Role)
    (isOwn : field.role = own) (gains : Gains signer contents [field] after own)
    (idle : ∀ other, other = own ∨ Gains signer contents [] after other) (role : Role) :
    Gains signer contents (ofRole role [field]) after role := by
  rw [Field.ofRole_singleton]
  by_cases same : field.role = role
  · rw [if_pos same]
    rwa [← same, isOwn]
  · rw [if_neg same]
    exact (idle role).resolve_left fun other => same (isOwn.trans other.symm)

theorem firstCounts_of_firstOctets {payload : List Nat} (small : ∀ symbol ∈ payload, symbol < 32)
    {tag : Char} {before after : Option Bytes} (read : firstOctets before payload = .ok after) :
    FirstCounts Field.Holds [⟨tag, payload⟩] before after := by
  cases before with
  | some octets => exact (Except.ok.inj read).symm
  | none =>
    cases octetsRead : octetsOf payload with
    | error fault =>
      rw [firstOctets, octetsRead] at read
      cases read
    | ok octets =>
      rw [firstOctets, octetsRead] at read
      obtain rfl := Except.ok.inj read
      exact .some ((octetsOf_eq_ok_iff_standFor small).mp octetsRead)

theorem firstCounts_firstNumber (before : Option Nat) (tag : Char) (payload : List Nat) :
    FirstCounts Field.Counts [⟨tag, payload⟩] before (firstNumber before payload) := by
  cases before with
  | some value => rfl
  | none => exact .some (Symbols.toNat_eq_ofDigits payload)

theorem role_of_not_isKnown {field : Field} (unknown : field.isKnown = false) :
    field.role = .unknown := by
  unfold Field.isKnown at unknown
  unfold Field.role
  split at unknown <;> simp_all

/-- A field gains what its role says. -/
theorem gains_of_adds {contents after : Contents} {field : Field} {asked : List Question}
    (small : ∀ symbol ∈ field.payload, symbol < 32)
    (adds : Adds signer contents field after asked) (role : Role) :
    Gains signer contents (ofRole role [field]) after role := by
  cases adds with
  | route read =>
    refine gains_ofRole_singleton .route rfl ?_ (fun other => ?_) role
    · exact eachCounts_singleton _ ((routeOf_eq_ok_iff small).mp read)
    · cases other <;> simp [Gains]
  | plain read =>
    obtain ⟨text, stands, rfl⟩ := (plainOf_eq_ok_iff small).mp read
    refine gains_ofRole_singleton .description rfl ?_ (fun other => ?_) role
    · exact eachCounts_singleton _ ⟨rfl, stands⟩
    · cases other <;> simp [Gains]
  | hashed sized read =>
    obtain ⟨digest, stands, rfl⟩ := (hashedOf_eq_ok_iff small).mp read
    refine gains_ofRole_singleton .description ?_ ?_ (fun other => ?_) role
    · exact if_pos sized
    · exact eachCounts_singleton _ ⟨rfl, stands⟩
    · cases other <;> simp [Gains]
  | expiry =>
    refine gains_ofRole_singleton .expiry rfl ?_ (fun other => ?_) role
    · exact firstCounts_firstNumber _ _ _
    · cases other <;> simp [Gains]
  | cltvDelta =>
    refine gains_ofRole_singleton .cltvDelta rfl ?_ (fun other => ?_) role
    · exact firstCounts_firstNumber _ _ _
    · cases other <;> simp [Gains]
  | paymentHash sized read =>
    refine gains_ofRole_singleton .paymentHash ?_ ?_ (fun other => ?_) role
    · exact if_pos sized
    · exact firstCounts_of_firstOctets small read
    · cases other <;> simp [Gains]
  | paymentSecret sized read =>
    refine gains_ofRole_singleton .paymentSecret ?_ ?_ (fun other => ?_) role
    · exact if_pos sized
    · exact firstCounts_of_firstOctets small read
    · cases other <;> simp [Gains]
  | @payeeKey payload key sized read isKey =>
    have names : Field.Names signer ⟨'n', payload⟩ key :=
      ⟨(octetsOf_eq_ok_iff_standFor small).mp read, isKey⟩
    refine gains_ofRole_singleton .payeeKey ?_ ⟨?_, ?_⟩ (fun other => ?_) role
    · exact if_pos sized
    · cases contents.namedKey with
      | some earlier => rfl
      | none => exact .some names
    · simpa using ⟨key, names⟩
    · cases other <;> simp [Gains]
  | features =>
    refine gains_ofRole_singleton .features rfl ?_ (fun other => ?_) role
    · exact Symbols.toNat_eq_ofDigits _
    · cases other <;> simp [Gains]
  | setAside unknown =>
    refine gains_ofRole_singleton .unknown (role_of_not_isKnown unknown) ?_
      (fun other => ?_) role
    · rfl
    · cases other <;> simp [Gains, Contents.leave]

/-- A section gains for each role what the fields of that role say. -/
theorem gains_of_addsAll {contents after : Contents} {fields : List Field} {asked : List Question}
    (small : ∀ field ∈ fields, ∀ symbol ∈ field.payload, symbol < 32)
    (adds : AddsAll signer contents fields after asked) (role : Role) :
    Gains signer contents (ofRole role fields) after role := by
  induction adds with
  | none => exact gains_nil _ role
  | @next contents between after field rest asked later first others inductionHypothesis =>
    have head := gains_of_adds (small field List.mem_cons_self) first role
    have tail := inductionHypothesis fun other member =>
      small other (List.mem_cons_of_mem field member)
    have both := gains_append head tail
    rwa [← Field.ofRole_append, List.singleton_append] at both

/-! ### Cutting a request -/

/-- Whether the symbols of a request are a timestamp, the spellings of some fields, and a
signature. -/
structure IsCutInto (symbols : List Nat) (fields : List Field) : Prop where
  long : timestampLength + Signature.symbolCount ≤ symbols.length
  fit : ∀ field ∈ fields, field.Fits
  spelled : (symbols.take (symbols.length - Signature.symbolCount)).drop timestampLength =
    fields.flatMap Field.spelling

/-- The reader finds just the fields that the symbols are cut into. -/
theorem isCutInto_iff {symbols : List Nat} (small : ∀ symbol ∈ symbols, symbol < 32)
    {fields : List Field} :
    IsCutInto symbols fields ↔ timestampLength + Signature.symbolCount ≤ symbols.length ∧
      (Cursor.mk symbols timestampLength (symbols.length - Signature.symbolCount)).fields =
        (fields, none) := by
  constructor
  · rintro ⟨long, fit, spelled⟩
    exact ⟨long, (Cursor.fields_eq_iff small (by omega) (Nat.sub_le _ _)).mpr ⟨fit, spelled⟩⟩
  · rintro ⟨long, read⟩
    obtain ⟨fit, spelled⟩ := (Cursor.fields_eq_iff small (by omega) (Nat.sub_le _ _)).mp read
    exact ⟨long, fit, spelled⟩

/-- There is only one way to cut a request. -/
theorem isCutInto_unique {symbols : List Nat} (small : ∀ symbol ∈ symbols, symbol < 32)
    {fields others : List Field} (cut : IsCutInto symbols fields)
    (cutToo : IsCutInto symbols others) : fields = others := by
  have read := ((isCutInto_iff small).mp cut).2
  have readToo := ((isCutInto_iff small).mp cutToo).2
  exact (Prod.mk.inj (read.symm.trans readToo)).1

theorem payload_lt_of_isCutInto {symbols : List Nat} (small : ∀ symbol ∈ symbols, symbol < 32)
    {fields : List Field} (cut : IsCutInto symbols fields) :
    ∀ field ∈ fields, ∀ symbol ∈ field.payload, symbol < 32 := by
  have payloads := Cursor.payload_of_fields
    ⟨symbols, timestampLength, symbols.length - Signature.symbolCount⟩
  rw [((isCutInto_iff small).mp cut).2] at payloads
  exact fun field member symbol among => small symbol (payloads field member symbol among)

/-! ### The meaning of a request -/

/-- What a request says about each thing is what its fields of one role say. -/
structure Means (signer : Signer) (fields : List Field) (wire : WireInvoice) : Prop where
  paymentHash : Option.Rel Field.Holds (ofRole .paymentHash fields).head? (some wire.paymentHash)
  paymentSecret :
    Option.Rel Field.Holds (ofRole .paymentSecret fields).head? (some wire.paymentSecret)
  namedKey : Option.Rel (Field.Names signer) (ofRole .payeeKey fields).head? wire.namedKey
  expiry : wire.expiry = (ofRole .expiry fields).head?.map Field.number
  minFinalCltvDelta :
    wire.minFinalCltvDelta = (ofRole .cltvDelta fields).head?.map Field.number
  features : wire.features = ((ofRole .features fields).getLast?.map Field.number).getD 0
  routeHints : List.Forall₂ Field.Leads (ofRole .route fields) wire.routeHints
  description : Option.Rel Field.Describes (sole (ofRole .description fields)) wire.description
  setAside : wire.setAside = ofRole .unknown fields

/-- Of numbers the first counts, whatever is said before. -/
theorem eq_map_of_rel_counts {field : Option Field} {value : Option Nat}
    (counts : Option.Rel Field.Counts field value) : value = field.map Field.number := by
  cases counts with
  | none => rfl
  | some same => exact congrArg some same

theorem Means.exists_describes {signer : Signer} {fields : List Field} {wire : WireInvoice}
    (means : Means signer fields wire) {description : Description}
    (said : wire.description = some description) :
    ∃ field ∈ fields, field.Describes description := by
  obtain ⟨field, only, describes⟩ := exists_left_of_rel (said ▸ means.description)
  exact ⟨field, (Field.mem_ofRole.mp (mem_of_sole only)).1, describes⟩

theorem Means.exists_leads {signer : Signer} {fields : List Field} {wire : WireInvoice}
    (means : Means signer fields wire) :
    ∀ hint ∈ wire.routeHints, ∃ field ∈ fields, field.Leads hint := by
  intro hint member
  obtain ⟨field, among, leads⟩ := exists_left_of_forall₂ means.routeHints hint member
  exact ⟨field, (Field.mem_ofRole.mp among).1, leads⟩

/-- The descriptions are those of the fields that have the role, one for each. -/
theorem forall₂_describes {signer : Signer} {fields : List Field} {contents : Contents}
    (gains : ∀ role, Gains signer .empty (ofRole role fields) contents role) :
    List.Forall₂ Field.Describes (ofRole .description fields) contents.descriptions := by
  obtain ⟨gained, said, whole⟩ := gains .description
  rwa [whole]

/-- A request that is decoded is cut into fields that say what it says. -/
theorem means_of_isDecoding {signer : Signer} {strict : Bool} {text : String} {wire : WireInvoice}
    {symbols : List Nat} {contents : Contents}
    (parts : IsDecoding signer strict text wire symbols contents) :
    (∀ symbol ∈ symbols, symbol < 32) ∧ ∃ fields, IsCutInto symbols fields ∧
      (∀ role, Gains signer .empty (ofRole role fields) contents role) ∧
      Means signer fields wire := by
  obtain ⟨read, -, long⟩ := openText_eq_ok_iff.mp parts.opened
  obtain ⟨-, small⟩ := Bech32.decode_sound read
  obtain ⟨fields, fieldsRead, adds⟩ := ofSection_eq_ok parts.fields
  have cut := (isCutInto_iff small).mpr ⟨long, fieldsRead⟩
  have gains := gains_of_addsAll (payload_lt_of_isCutInto small cut) adds
  obtain ⟨hints, led, hintsWhole⟩ := gains .route
  refine ⟨small, fields, cut, gains, ?_⟩
  exact {
    paymentHash := parts.paymentHash ▸ gains .paymentHash
    paymentSecret := parts.paymentSecret ▸ gains .paymentSecret
    namedKey := parts.namedKey ▸ (gains .payeeKey).1
    expiry := parts.expiry ▸ eq_map_of_rel_counts (gains .expiry)
    minFinalCltvDelta := parts.minFinalCltvDelta ▸ eq_map_of_rel_counts (gains .cltvDelta)
    features := parts.features ▸ gains .features
    routeHints := by
      rw [parts.routeHints, hintsWhole]
      exact led
    description := by
      rw [(soleDescription_eq_ok_iff.mp parts.description).1]
      exact rel_sole (forall₂_describes gains)
    setAside := by
      rw [parts.setAside]
      exact gains .unknown }

/-- A request that is decoded is decoded the same if nobody insists on a description. -/
theorem isDecoding_of_not_strict {signer : Signer} {strict other : Bool} {text : String}
    {wire : WireInvoice} {symbols : List Nat} {contents : Contents}
    (parts : IsDecoding signer strict text wire symbols contents)
    (satisfied : other = true → contents.descriptions.length = 1) :
    IsDecoding signer other text wire symbols contents :=
  { parts with
    description := soleDescription_eq_ok_iff.mpr
      ⟨(soleDescription_eq_ok_iff.mp parts.description).1, satisfied⟩ }

/-- A request that is decoded is refused for its descriptions, and for nothing else, if somebody
insists on one and there is another number of them. -/
theorem decode_strict_of_length_ne {signer : Signer} {strict : Bool} {text : String}
    {wire : WireInvoice} {symbols : List Nat} {contents : Contents}
    (parts : IsDecoding signer strict text wire symbols contents)
    (other : contents.descriptions.length ≠ 1) :
    (decode signer true text).outcome =
      .error (.invalid (.descriptionCount contents.descriptions.length)) := by
  unfold decode
  -- up to the description nothing depends on who insists, so every part comes out as before
  refine (Traced.bind_outcome_of_ok parts.opened).trans ?_
  refine (Traced.bind_outcome_of_ok parts.fields).trans ?_
  refine (Traced.bind_outcome_of_ok (noteSetAside_spec _).1).trans ?_
  refine (Traced.bind_outcome_of_ok (demand_eq_ok_iff.mpr parts.paymentHash)).trans ?_
  refine (Traced.bind_outcome_of_ok (demand_eq_ok_iff.mpr parts.paymentSecret)).trans ?_
  refine Traced.bind_outcome_of_error ?_
  rw [soleDescription_of_length_ne other]
  rfl

/-- Whatever text is decoded: it is a timestamp, fields and a signature, and what it is decoded to
is what its fields say, role by role, each field having exactly one. Decoding it without insisting
on a description gives the same; so does insisting on one if just one field describes something,
and otherwise that is refused. -/
theorem decode_means {signer : Signer} {strict : Bool} {text : String} {wire : WireInvoice}
    (decoded : (decode signer strict text).outcome = .ok wire) :
    ∃ symbols fields, Bech32.decode text = .ok (wire.humanPart, symbols) ∧
      IsCutInto symbols fields ∧
      wire.timestamp = Nat.ofDigits 32 (symbols.take timestampLength).reverse ∧
      Means signer fields wire ∧
      (Role.all.flatMap fun role => ofRole role fields).Perm fields ∧
      (decode signer false text).outcome = .ok wire ∧
      (decode signer true text).outcome =
        if (ofRole .description fields).length = 1 then .ok wire
        else .error (.invalid (.descriptionCount (ofRole .description fields).length)) := by
  obtain ⟨symbols, contents, parts, -⟩ := isDecoding_of_decode decoded
  obtain ⟨-, fields, cut, gains, means⟩ := means_of_isDecoding parts
  have count := (forall₂_describes gains).length_eq
  refine ⟨symbols, fields, (openText_eq_ok_iff.mp parts.opened).1, cut, ?_, means,
    Field.perm_ofRole fields, ?_, ?_⟩
  · rw [parts.timestamp, Symbols.toNat_eq_ofDigits]
  · exact decode_of_isDecoding symbols contents (isDecoding_of_not_strict parts (by simp))
  · rw [count]
    by_cases only : contents.descriptions.length = 1
    · rw [if_pos only]
      exact decode_of_isDecoding symbols contents (isDecoding_of_not_strict parts fun _ => only)
    · rw [if_neg only]
      exact decode_strict_of_length_ne parts only

/-- The text of a mainnet request without an amount is opened, whatever its symbols are. -/
theorem openText_without_amount {symbols : List Nat} (small : ∀ symbol ∈ symbols, symbol < 32)
    (long : timestampLength + Signature.symbolCount ≤ symbols.length) :
    openText (String.ofList (Bech32.write .bech32 "lnbc".toList symbols)) =
      .ok ("lnbc", symbols, .mainnet, none) := by
  have writable : Bech32.IsHumanPart "lnbc".toList := HumanPart.isHumanPart_form .mainnet none
  exact openText_eq_ok_iff.mpr ⟨(Bech32.decode_encode writable small).2, by rfl, long⟩

/-- A request with a second payment hash that cannot be read, a key of a wrong length, two
descriptions, an empty expiry before another one, two fields of features, and a field of no known
type. -/
theorem decode_means_repeated :
    let fields : List Field := [⟨'9', [5]⟩, ⟨'p', List.replicate 52 0⟩, ⟨'x', []⟩,
      ⟨'p', List.replicate 52 31⟩, ⟨'n', [1, 2]⟩, ⟨'d', [12, 4]⟩, ⟨'s', List.replicate 52 0⟩,
      ⟨'x', [1, 0]⟩, ⟨'d', [12, 8]⟩, ⟨'9', [2]⟩, ⟨'q', [3]⟩]
    let symbols := List.replicate 7 1 ++ fields.flatMap Field.spelling ++ List.replicate 104 0
    let text := String.ofList (Bech32.write .bech32 "lnbc".toList symbols)
    let signer : Signer := ⟨fun _ _ _ => .ok false, fun _ _ _ => .ok [1, 2, 3], fun _ => .ok true⟩
    ∃ wire, (decode signer false text).outcome = .ok wire ∧ Means signer fields wire ∧
      wire.expiry = some 0 ∧ wire.features = 2 ∧ wire.description = none ∧
      wire.setAside = [⟨'n', [1, 2]⟩, ⟨'q', [3]⟩] ∧
      (decode signer true text).outcome = .error (.invalid (.descriptionCount 2)) := by
  intro fields symbols text signer
  have small : ∀ symbol ∈ symbols, symbol < 32 := by decide +kernel
  have opened : openText text = .ok ("lnbc", symbols, .mainnet, none) :=
    openText_without_amount small (by decide +kernel)
  have accepted : (decode signer false text).outcome.isOk = true := by
    rw [decode, opened]
    decide +kernel
  obtain ⟨wire, decoded⟩ := exists_of_isOk accepted
  obtain ⟨read, cutFields, receivedToo, cut, -, means, -, -, strictly⟩ := decode_means decoded
  obtain ⟨received, -⟩ := openText_eq_ok_iff.mp opened
  obtain ⟨-, rfl⟩ := Prod.mk.inj (Except.ok.inj (received.symm.trans receivedToo))
  have isCut : IsCutInto symbols fields := ⟨by decide +kernel, by decide +kernel, by decide +kernel⟩
  obtain rfl := isCutInto_unique small isCut cut
  refine ⟨wire, decoded, means, means.expiry, means.features, ?_, means.setAside, strictly⟩
  have none_alone := means.description
  cases described : wire.description with
  | none => rfl
  | some description =>
    rw [described] at none_alone
    cases none_alone

end WireInvoice

end Bolt11
