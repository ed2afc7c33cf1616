/-
This file says once what a field can do to the contents read so far.

A field whose type and length are known adds what its payload says; any other field is set aside.
Only the field of a payee key puts a question to the signer, and goes on only if the answer is
yes. What a whole section says follows by taking its fields one after the other, and everything
that is proved about reading fields goes through the two relations of this file.
-/

import Bolt11.Invoice.Wire
import Bolt11.Proofs.Framing
import Bolt11.Proofs.Outcome
import Bolt11.Proofs.Signature

namespace Bolt11

/-! ### Fields that are set aside -/

/-- Whether a field is of a known type and has a length that the type can have. -/
def Field.isKnown (field : Field) : Bool :=
  match field.tag with
  | 'r' | 'd' | 'x' | 'c' | '9' => true
  | 'h' | 'p' | 's' => field.payload.length == 52
  | 'n' => field.payload.length == 53
  | _ => false

/-- Whether a field holds a payee key: a field of a key's type and length. -/
def Field.isKey (field : Field) : Bool := field.tag == 'n' && field.payload.length == 53

namespace WireInvoice

/-! ### One field -/

/-- What one field adds to the contents, and what is asked on the way. -/
inductive Adds (signer : Signer) (contents : Contents) : Field → Contents → List Question → Prop
  | route {payload : List Nat} {route : RouteHint} (read : routeOf payload = .ok route) :
    Adds signer contents ⟨'r', payload⟩
      { contents with routeHints := contents.routeHints ++ [route] } []
  | plain {payload : List Nat} {description : Description}
      (read : plainOf payload = .ok description) :
    Adds signer contents ⟨'d', payload⟩
      { contents with descriptions := contents.descriptions ++ [description] } []
  | hashed {payload : List Nat} {description : Description} (sized : payload.length = 52)
      (read : hashedOf payload = .ok description) :
    Adds signer contents ⟨'h', payload⟩
      { contents with descriptions := contents.descriptions ++ [description] } []
  | expiry {payload : List Nat} :
    Adds signer contents ⟨'x', payload⟩
      { contents with expiry := firstNumber contents.expiry payload } []
  | cltvDelta {payload : List Nat} :
    Adds signer contents ⟨'c', payload⟩
      { contents with
        minFinalCltvDelta := firstNumber contents.minFinalCltvDelta payload } []
  | paymentHash {payload : List Nat} {octets : Option Bytes} (sized : payload.length = 52)
      (read : firstOctets contents.paymentHash payload = .ok octets) :
    Adds signer contents ⟨'p', payload⟩ { contents with paymentHash := octets } []
  | paymentSecret {payload : List Nat} {octets : Option Bytes} (sized : payload.length = 52)
      (read : firstOctets contents.paymentSecret payload = .ok octets) :
    Adds signer contents ⟨'s', payload⟩ { contents with paymentSecret := octets } []
  | payeeKey {payload : List Nat} {key : Bytes} (sized : payload.length = 53)
      (read : octetsOf payload = .ok key) (isKey : signer.isPubkey key = .ok true) :
    Adds signer contents ⟨'n', payload⟩
      { contents with namedKey := contents.namedKey.or (some key) } [.isPubkey key]
  | features {payload : List Nat} :
    Adds signer contents ⟨'9', payload⟩ { contents with features := Symbols.toNat payload } []
  | setAside {field : Field} (unknown : field.isKnown = false) :
    Adds signer contents field (contents.leave field) []

/-- An operation that reads a part and makes a value of it asks nothing. -/
theorem read_then_eq_ok {α β : Type} {part : Except Fault α} {next : α → β} {after : β}
    (succeeded : ((liftM part : Traced α) >>= fun value => pure (next value)).outcome =
      .ok after) :
    ∃ value, part = .ok value ∧ after = next value ∧
      ((liftM part : Traced α) >>= fun value => pure (next value)).questions = [] := by
  obtain ⟨value, read, done, questions⟩ := Traced.bind_ok succeeded
  exact ⟨value, read, (Except.ok.inj done).symm, questions⟩

theorem read_then_of_eq_ok {α β : Type} {part : Except Fault α} {next : α → β} {value : α}
    (read : part = .ok value) :
    ((liftM part : Traced α) >>= fun value => pure (next value)).outcome = .ok (next value) :=
  Traced.bind_outcome_ok_iff.mpr ⟨value, read, rfl⟩

/-- A field of a type that has one length only: with any other length it is set aside. -/
theorem adds_of_sized {signer : Signer} {contents after : Contents} {field : Field} {length : Nat}
    {read : Traced Contents}
    (succeeded : (if field.payload.length ≠ length then pure (contents.leave field)
      else read).outcome = .ok after)
    (unknown : field.payload.length ≠ length → field.isKnown = false)
    (known : field.payload.length = length → read.outcome = .ok after →
      Adds signer contents field after read.questions) :
    Adds signer contents field after
      (if field.payload.length ≠ length then pure (contents.leave field) else read).questions := by
  by_cases sized : field.payload.length = length
  · rw [if_neg (not_not.mpr sized)] at succeeded ⊢
    exact known sized succeeded
  · rw [if_pos sized] at succeeded ⊢
    obtain rfl := Except.ok.inj succeeded
    exact .setAside (unknown sized)

/-- Reading a field does what the relation says. -/
theorem adds_of_add {signer : Signer} {contents after : Contents} {field : Field}
    (succeeded : (contents.add signer field).outcome = .ok after) :
    Adds signer contents field after (contents.add signer field).questions := by
  obtain ⟨tag, payload⟩ := field
  unfold Contents.add at succeeded ⊢
  split at succeeded
  case h_1 same =>
    obtain rfl : tag = 'r' := same
    obtain ⟨route, read, rfl, quiet⟩ := read_then_eq_ok succeeded
    rw [quiet]
    exact .route read
  case h_2 same =>
    obtain rfl : tag = 'd' := same
    obtain ⟨description, read, rfl, quiet⟩ := read_then_eq_ok succeeded
    rw [quiet]
    exact .plain read
  case h_3 same =>
    obtain rfl : tag = 'h' := same
    refine adds_of_sized succeeded (by simp [Field.isKnown]) fun sized succeeded => ?_
    obtain ⟨description, read, rfl, quiet⟩ := read_then_eq_ok succeeded
    rw [quiet]
    exact .hashed sized read
  case h_4 same =>
    obtain rfl : tag = 'x' := same
    obtain rfl := Except.ok.inj succeeded
    exact .expiry
  case h_5 same =>
    obtain rfl : tag = 'c' := same
    obtain rfl := Except.ok.inj succeeded
    exact .cltvDelta
  case h_6 same =>
    obtain rfl : tag = 'p' := same
    refine adds_of_sized succeeded (by simp [Field.isKnown]) fun sized succeeded => ?_
    obtain ⟨octets, read, rfl, quiet⟩ := read_then_eq_ok succeeded
    rw [quiet]
    exact .paymentHash sized read
  case h_7 same =>
    obtain rfl : tag = 's' := same
    refine adds_of_sized succeeded (by simp [Field.isKnown]) fun sized succeeded => ?_
    obtain ⟨octets, read, rfl, quiet⟩ := read_then_eq_ok succeeded
    rw [quiet]
    exact .paymentSecret sized read
  case h_8 same =>
    obtain rfl : tag = 'n' := same
    refine adds_of_sized succeeded (by simp [Field.isKnown]) fun sized succeeded => ?_
    obtain ⟨key, read, asked, questions⟩ := Traced.bind_ok succeeded
    obtain ⟨answer, answered, done, moreQuestions⟩ := Traced.bind_ok asked
    rw [questions, moreQuestions]
    cases answer with
    | false => cases done
    | true =>
      obtain rfl := Except.ok.inj done
      exact .payeeKey sized read (Signer.answer_eq_ok_iff.mp answered)
  case h_9 same =>
    obtain rfl : tag = '9' := same
    obtain rfl := Except.ok.inj succeeded
    exact .features
  case h_10 =>
    obtain rfl := Except.ok.inj succeeded
    refine .setAside ?_
    unfold Field.isKnown
    split <;> simp_all

/-- What the relation says is what reading a field does. -/
theorem add_of_adds {signer : Signer} {contents after : Contents} {field : Field}
    {questions : List Question} (adds : Adds signer contents field after questions) :
    (contents.add signer field).outcome = .ok after := by
  cases adds with
  | route read => exact read_then_of_eq_ok read
  | plain read => exact read_then_of_eq_ok read
  | hashed sized read =>
    simp only [Contents.add, sized, ne_eq, not_true_eq_false, if_false]
    exact read_then_of_eq_ok read
  | expiry => rfl
  | cltvDelta => rfl
  | paymentHash sized read =>
    simp only [Contents.add, sized, ne_eq, not_true_eq_false, if_false]
    exact read_then_of_eq_ok read
  | paymentSecret sized read =>
    simp only [Contents.add, sized, ne_eq, not_true_eq_false, if_false]
    exact read_then_of_eq_ok read
  | payeeKey sized read isKey =>
    simp only [Contents.add, sized, ne_eq, not_true_eq_false, if_false]
    refine Traced.bind_outcome_ok_iff.mpr ⟨_, read, ?_⟩
    exact Traced.bind_outcome_ok_iff.mpr ⟨true, Signer.answer_eq_ok_iff.mpr isKey, rfl⟩
  | features => rfl
  | setAside unknown =>
    obtain ⟨tag, payload⟩ := field
    unfold Contents.add
    unfold Field.isKnown at unknown
    split <;> simp_all

/-! ### A section -/

/-- What the fields of a section add one after the other. -/
inductive AddsAll (signer : Signer) : Contents → List Field → Contents → List Question → Prop
  | none {contents : Contents} : AddsAll signer contents [] contents []
  | next {contents between after : Contents} {field : Field} {rest : List Field}
      {asked later : List Question} (first : Adds signer contents field between asked)
      (others : AddsAll signer between rest after later) :
    AddsAll signer contents (field :: rest) after (asked ++ later)

theorem addsAll_of_addAll {signer : Signer} {contents after : Contents} {fields : List Field}
    (succeeded : (contents.addAll signer fields).outcome = .ok after) :
    AddsAll signer contents fields after (contents.addAll signer fields).questions := by
  induction fields generalizing contents with
  | nil =>
    obtain rfl := Except.ok.inj succeeded
    exact .none
  | cons field rest inductionHypothesis =>
    rw [Contents.addAll] at succeeded ⊢
    obtain ⟨between, first, others, questions⟩ := Traced.bind_ok succeeded
    rw [questions]
    exact .next (adds_of_add first) (inductionHypothesis others)

theorem addAll_of_addsAll {signer : Signer} {contents after : Contents} {fields : List Field}
    {questions : List Question} (adds : AddsAll signer contents fields after questions) :
    (contents.addAll signer fields).outcome = .ok after := by
  induction adds with
  | none => rfl
  | next first others inductionHypothesis =>
    exact Traced.bind_outcome_ok_iff.mpr ⟨_, add_of_adds first, inductionHypothesis⟩

/-- Sections one after the other add what they add one after the other. -/
theorem addsAll_append {signer : Signer} {contents between after : Contents}
    {fields others : List Field} {asked later : List Question}
    (first : AddsAll signer contents fields between asked)
    (second : AddsAll signer between others after later) :
    AddsAll signer contents (fields ++ others) after (asked ++ later) := by
  induction first with
  | none => exact second
  | next head _ inductionHypothesis =>
    rw [List.append_assoc]
    exact .next head (inductionHypothesis second)

/-- A section is read to its end if no field of it is cut. -/
theorem ofSection_eq_ok {signer : Signer} {symbols : List Nat} {start stop : Nat}
    {contents : Contents}
    (succeeded : (Contents.ofSection signer symbols start stop).outcome = .ok contents) :
    ∃ fields, (Cursor.mk symbols start stop).fields = (fields, none) ∧
      AddsAll signer .empty fields contents
        (Contents.ofSection signer symbols start stop).questions := by
  unfold Contents.ofSection at succeeded ⊢
  split at succeeded
  rename_i fields trouble read
  obtain ⟨contents, added, ended, questions⟩ := Traced.bind_ok succeeded
  cases trouble with
  | some cause => cases ended
  | none =>
    obtain rfl := Except.ok.inj ended
    refine ⟨fields, read, ?_⟩
    rw [questions, Traced.pure_questions, List.append_nil]
    exact addsAll_of_addAll added

theorem ofSection_of_addsAll {signer : Signer} {symbols : List Nat} {start stop : Nat}
    {fields : List Field} {contents : Contents} {questions : List Question}
    (read : (Cursor.mk symbols start stop).fields = (fields, none))
    (adds : AddsAll signer .empty fields contents questions) :
    (Contents.ofSection signer symbols start stop).outcome = .ok contents := by
  rw [Contents.ofSection, read]
  exact Traced.bind_outcome_ok_iff.mpr ⟨contents, addAll_of_addsAll adds, rfl⟩

end WireInvoice

end Bolt11
