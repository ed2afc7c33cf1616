/-
This file proves that reading an invoice fails in three ways only: the text is empty, it is not
well formed, or it is well formed and not acceptable.

The parts below can fail in many other ways, each with a fault of its own. What rules those out is
always something that an earlier stage has seen to: the text form lets nothing through but ASCII
and symbols, the lengths of fields and of the signature fix the lengths of their byte strings, a
route hint is only cut into hops once it is whole hops. A signer may refuse to recover a key, which
is one more reason not to accept an invoice, but has to answer its other two questions. Its refusals
may be anything. One that nobody can report, or that nobody is to handle, gets through as it is.
-/

import Bolt11.Invoice
import Bolt11.Proofs.Decoding

namespace Bolt11

/-- A signer that answers whether a signature is good and whether octets are a key. It may still
refuse to recover one. -/
structure Signer.Answers (signer : Signer) : Prop where
  verify : ∀ key digest signature, ∃ answer, signer.verify key digest signature = .ok answer
  isPubkey : ∀ key, ∃ answer, signer.isPubkey key = .ok answer

/-- The faults of a text that is not an acceptable invoice: the three of the invoice, and what gets
through if the signer refuses to recover a key for a reason that cannot be reported. -/
inductive Fault.IsOfReading (signer : Signer) : Fault → Prop
  | emptyInput : IsOfReading signer .emptyInput
  | malformed (cause : Malformed) : IsOfReading signer (.malformed cause)
  | invalid (cause : Invalid) : IsOfReading signer (.invalid cause)
  | escaped {digest signature : Bytes} {number : Nat} {refusal other : Refusal}
      (refused : signer.recover digest signature number = .error refusal)
      (escapes : refusal.escaping? = some other) : IsOfReading signer (.refused other)

open Fault (IsOfReading)

/-! ### Questions -/

namespace Signer

variable {kind : Fault → Prop} {signer : Signer}

theorem failsOnlyWith_answer {α : Type} {given : Except Refusal α}
    (answered : ∃ value, given = .ok value) : FailsOnlyWith kind (answer given) := by
  obtain ⟨value, rfl⟩ := answered
  exact failsOnlyWith_ok value

theorem failsOnlyWith_askVerify (answers : signer.Answers) (key digest signature : Bytes) :
    FailsOnlyWith kind (signer.askVerify key digest signature).outcome :=
  failsOnlyWith_answer (answers.verify key digest signature)

theorem failsOnlyWith_askIsPubkey
    (answers : ∀ key, ∃ answer, signer.isPubkey key = .ok answer) (key : Bytes) :
    FailsOnlyWith kind (signer.askIsPubkey key).outcome :=
  failsOnlyWith_answer (answers key)

end Signer

/-! ### Fields -/

namespace WireInvoice

variable {signer : Signer}

theorem failsOnlyWith_octetsOf (payload : List Nat) :
    FailsOnlyWith (IsOfReading signer) (octetsOf payload) := by
  unfold octetsOf
  split
  · exact failsOnlyWith_ok _
  · exact failsOnlyWith_error (.malformed _)

theorem failsOnlyWith_routeOf (payload : List Nat) :
    FailsOnlyWith (IsOfReading signer) (routeOf payload) := by
  unfold routeOf
  split
  · rename_i failed
    exact failsOnlyWith_error (failsOnlyWith_octetsOf payload _ failed)
  · split
    · exact failsOnlyWith_error (.malformed _)
    · rename_i whole
      -- what is cut into hops is whole hops
      rw [RouteHint.ofBytes, if_pos (not_not.mp (not_or.mp whole).2)]
      exact failsOnlyWith_ok _

theorem failsOnlyWith_plainOf (payload : List Nat) :
    FailsOnlyWith (IsOfReading signer) (plainOf payload) := by
  unfold plainOf
  split
  · rename_i failed
    exact failsOnlyWith_error (failsOnlyWith_octetsOf payload _ failed)
  · split
    · exact failsOnlyWith_ok _
    · exact failsOnlyWith_error (.malformed _)

/-- Fifty-two symbols that are a byte string are thirty-two octets, which is what a hash has. -/
theorem failsOnlyWith_hashedOf {payload : List Nat} (small : ∀ symbol ∈ payload, symbol < 32)
    (sized : payload.length = 52) : FailsOnlyWith (IsOfReading signer) (hashedOf payload) := by
  unfold hashedOf
  split
  · rename_i failed
    exact failsOnlyWith_error (failsOnlyWith_octetsOf payload _ failed)
  · rename_i octets read
    have digestSized : octets.length = 32 := by
      rw [Symbols.length_of_toBytes small (octetsOf_eq_ok_iff.mp read), sized]
    rw [Description.ofDigest, dif_pos digestSized]
    exact failsOnlyWith_ok _

theorem failsOnlyWith_firstOctets (current : Option Bytes) (payload : List Nat) :
    FailsOnlyWith (IsOfReading signer) (firstOctets current payload) := by
  unfold firstOctets
  split
  · exact failsOnlyWith_ok _
  · intro fault failed
    cases read : octetsOf payload with
    | error cause =>
      rw [read] at failed
      obtain rfl := Except.error.inj failed
      exact failsOnlyWith_octetsOf payload _ read
    | ok octets =>
      rw [read] at failed
      cases failed

/-- An operation that reads a part and makes a value of it fails as the part does. -/
theorem failsOnlyWith_read_then {α β : Type} {kind : Fault → Prop} {part : Except Fault α}
    (partFails : FailsOnlyWith kind part) (next : α → β) :
    FailsOnlyWith kind ((liftM part : Traced α) >>= fun value => pure (next value)).outcome :=
  Traced.failsOnlyWith_bind partFails fun value _ => failsOnlyWith_ok (next value)

/-- One field, whatever it holds. -/
theorem failsOnlyWith_add (answers : signer.Answers) (contents : Contents) {field : Field}
    (small : ∀ symbol ∈ field.payload, symbol < 32) :
    FailsOnlyWith (IsOfReading signer) (contents.add signer field).outcome := by
  unfold Contents.add
  simp only
  split
  · exact failsOnlyWith_read_then (failsOnlyWith_routeOf _) _
  · exact failsOnlyWith_read_then (failsOnlyWith_plainOf _) _
  · split
    · exact failsOnlyWith_ok _
    · rename_i sized
      exact failsOnlyWith_read_then (failsOnlyWith_hashedOf small (not_not.mp sized)) _
  · exact failsOnlyWith_ok _
  · exact failsOnlyWith_ok _
  · split
    · exact failsOnlyWith_ok _
    · exact failsOnlyWith_read_then (failsOnlyWith_firstOctets _ _) _
  · split
    · exact failsOnlyWith_ok _
    · exact failsOnlyWith_read_then (failsOnlyWith_firstOctets _ _) _
  · split
    · exact failsOnlyWith_ok _
    · refine Traced.failsOnlyWith_bind (failsOnlyWith_octetsOf _) fun key _ => ?_
      refine Traced.failsOnlyWith_bind (Signer.failsOnlyWith_askIsPubkey answers.isPubkey key)
        fun answer _ => ?_
      cases answer with
      | true => exact failsOnlyWith_ok _
      | false => exact failsOnlyWith_error (.invalid _)
  · exact failsOnlyWith_ok _
  · exact failsOnlyWith_ok _

theorem failsOnlyWith_addAll (answers : signer.Answers) (contents : Contents) {fields : List Field}
    (small : ∀ field ∈ fields, ∀ symbol ∈ field.payload, symbol < 32) :
    FailsOnlyWith (IsOfReading signer) (contents.addAll signer fields).outcome := by
  induction fields generalizing contents with
  | nil => exact failsOnlyWith_ok contents
  | cons field rest inductionHypothesis =>
    rw [Contents.addAll]
    refine Traced.failsOnlyWith_bind
      (failsOnlyWith_add answers contents (small field List.mem_cons_self)) fun between _ => ?_
    exact inductionHypothesis between fun other member =>
      small other (List.mem_cons_of_mem field member)

theorem failsOnlyWith_ofSection (answers : signer.Answers) {symbols : List Nat}
    (small : ∀ symbol ∈ symbols, symbol < 32) (start stop : Nat) :
    FailsOnlyWith (IsOfReading signer) (Contents.ofSection signer symbols start stop).outcome := by
  have payloads := Cursor.payload_of_fields ⟨symbols, start, stop⟩
  unfold Contents.ofSection
  split
  rename_i fields trouble read
  rw [read] at payloads
  refine Traced.failsOnlyWith_bind (failsOnlyWith_addAll answers _ fun field member symbol among =>
    small symbol (payloads field member symbol among)) fun contents _ => ?_
  cases trouble with
  | none => exact failsOnlyWith_ok contents
  | some cause => exact failsOnlyWith_error (.malformed cause)

/-! ### The whole request -/

theorem failsOnlyWith_openText (text : String) :
    FailsOnlyWith (IsOfReading signer) (openText text) := by
  unfold openText
  split
  · exact failsOnlyWith_error (.malformed _)
  · split
    · exact failsOnlyWith_error (.invalid _)
    · split
      · exact failsOnlyWith_error (.malformed _)
      · exact failsOnlyWith_ok _

theorem failsOnlyWith_demand {α : Type} (cause : Invalid) (part : Option α) :
    FailsOnlyWith (IsOfReading signer) (demand cause part) := by
  cases part with
  | some value => exact failsOnlyWith_ok value
  | none => exact failsOnlyWith_error (.invalid cause)

theorem failsOnlyWith_soleDescription (strict : Bool) (descriptions : List Description) :
    FailsOnlyWith (IsOfReading signer) (soleDescription strict descriptions).outcome := by
  by_cases only : descriptions.length = 1
  · obtain ⟨description, rfl⟩ := List.length_eq_one_iff.mp only
    exact failsOnlyWith_ok _
  · rw [soleDescription_of_length_ne only]
    cases strict with
    | true => exact failsOnlyWith_error (.invalid _)
    | false => exact failsOnlyWith_ok _

/-- A check fails only because the signer does not stand by a key: text and symbols have a digest,
and the signature has its length. -/
theorem failsOnlyWith_check (answers : signer.Answers) {humanPart : String}
    (ascii : ∀ c ∈ humanPart.toList, c.toNat < 0x80) {symbols : List Nat}
    (small : ∀ symbol ∈ symbols, symbol < 32) {signature : Bytes}
    (sized : signature.length = Signature.length) (named : Option Bytes) :
    FailsOnlyWith (IsOfReading signer)
      (Signature.check signer humanPart symbols signature named).outcome := by
  obtain ⟨packed, -, hashed⟩ := Signature.digest_eq_ok ascii small
  unfold Signature.check
  rw [hashed]
  refine Traced.failsOnlyWith_bind (failsOnlyWith_ok _) fun digest _ => ?_
  rw [if_neg (not_not.mpr sized)]
  refine Traced.failsOnlyWith_bind (failsOnlyWith_ok _) fun _ _ => ?_
  cases named with
  | some key =>
    refine Traced.failsOnlyWith_bind (Signer.failsOnlyWith_askVerify answers _ _ _)
      fun answer _ => ?_
    cases answer with
    | true => exact failsOnlyWith_ok key
    | false => exact failsOnlyWith_error (.invalid _)
  | none =>
    refine Traced.failsOnlyWith_bind (failsOnlyWith_ok _) fun answer asked => ?_
    cases answer with
    | error refusal =>
      have refused := Except.ok.inj asked
      simp only
      split
      · rename_i other escapes
        exact failsOnlyWith_error (.escaped refused escapes)
      · exact failsOnlyWith_error (.invalid _)
    | ok key =>
      refine Traced.failsOnlyWith_bind (Signer.failsOnlyWith_askIsPubkey answers.isPubkey key)
        fun answer _ => ?_
      cases answer with
      | true => exact failsOnlyWith_ok key
      | false => exact failsOnlyWith_error (.invalid _)

/-- The symbols of a signature are sixty-five octets. -/
theorem length_signature {symbols : List Nat} (small : ∀ symbol ∈ symbols, symbol < 32)
    (long : timestampLength + Signature.symbolCount ≤ symbols.length) {signature : Bytes}
    (read : octetsOf (symbols.drop (symbols.length - Signature.symbolCount)) = .ok signature) :
    signature.length = Signature.length := by
  rw [Symbols.length_of_toBytes (fun symbol member => small symbol (List.mem_of_mem_drop member))
    (octetsOf_eq_ok_iff.mp read), length_drop_signature long]
  rfl

/-- Decoding a text, whatever it is. -/
theorem failsOnlyWith_decode (answers : signer.Answers) (strict : Bool) (text : String) :
    FailsOnlyWith (IsOfReading signer) (decode signer strict text).outcome := by
  unfold decode
  refine Traced.failsOnlyWith_bind (failsOnlyWith_openText text) ?_
  rintro ⟨humanPart, symbols, network, amount⟩ opened
  obtain ⟨read, -, long⟩ := openText_eq_ok_iff.mp opened
  obtain ⟨ascii, small⟩ := Bech32.decode_sound read
  refine Traced.failsOnlyWith_bind (failsOnlyWith_ofSection answers small _ _) fun contents _ => ?_
  refine Traced.failsOnlyWith_bind ?_ fun _ _ => ?_
  · rw [(noteSetAside_spec contents.setAside).1]
    exact failsOnlyWith_ok ()
  refine Traced.failsOnlyWith_bind (failsOnlyWith_demand _ _) fun paymentHash _ => ?_
  refine Traced.failsOnlyWith_bind (failsOnlyWith_demand _ _) fun paymentSecret _ => ?_
  refine Traced.failsOnlyWith_bind (failsOnlyWith_soleDescription _ _) fun description _ => ?_
  refine Traced.failsOnlyWith_bind (failsOnlyWith_octetsOf _) fun signature signatureRead => ?_
  refine Traced.failsOnlyWith_bind (failsOnlyWith_check answers ascii
    (fun symbol member => small symbol (List.mem_of_mem_take member))
    (length_signature small long signatureRead) _) fun payeeKey _ => ?_
  exact failsOnlyWith_ok _

end WireInvoice

/-! ### Invoices -/

namespace Settings

/-- Whether an invoice has to have exactly one description is always known: every entry means yes
or no. -/
theorem isStrict_eq_ok [Runtime] (settings : Settings) (inUse : Network) :
    ∃ strict, settings.isStrict inUse = .ok strict := by
  unfold isStrict Setting.read
  split
  · exact ⟨false, rfl⟩
  · exact ⟨_, rfl⟩

end Settings

namespace Invoice

variable {signer : Signer}

theorem failsOnlyWith_normalize (text : Option String) :
    FailsOnlyWith (IsOfReading signer) (normalize text) := by
  unfold normalize
  split
  · exact failsOnlyWith_error .emptyInput
  · simp only
    split
    · exact failsOnlyWith_error .emptyInput
    · exact failsOnlyWith_ok _

theorem strictness_eq_ok [Runtime] (inUse : Network) (settings : Option Settings) :
    ∃ strict, strictness inUse settings = .ok strict := by
  cases settings with
  | none => exact ⟨false, rfl⟩
  | some settings => exact settings.isStrict_eq_ok inUse

/-- Reading an invoice from a text, whatever the text and the settings are. -/
theorem failsOnlyWith_parse [Runtime] (answers : signer.Answers) (inUse : Network)
    (settings : Option Settings) (text : Option String) :
    FailsOnlyWith (IsOfReading signer) (parse signer inUse settings text).outcome := by
  unfold parse
  refine Traced.failsOnlyWith_bind (failsOnlyWith_normalize text) fun normalized _ => ?_
  split
  · exact failsOnlyWith_error .emptyInput
  obtain ⟨known, isKnown⟩ := strictness_eq_ok inUse settings
  rw [isKnown]
  refine Traced.failsOnlyWith_bind (failsOnlyWith_ok known) fun strict _ => ?_
  refine Traced.failsOnlyWith_bind
    (WireInvoice.failsOnlyWith_decode answers strict normalized) fun wire _ => ?_
  exact Traced.failsOnlyWith_bind (failsOnlyWith_ok ()) fun _ _ => failsOnlyWith_ok _

end Invoice

end Bolt11
