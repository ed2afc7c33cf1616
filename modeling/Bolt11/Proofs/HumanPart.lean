/-
This file proves which network a human readable part is for, and that it says what it was written
for.

One currency code can begin another, so more than one network may seem to fit. Behind the code of
its own network a part has nothing or a digit, though, and no longer code goes on with a digit. So
there is one network at most that fits, whatever else begins the part, and it does not matter in
which order the networks are tried. Only that network decides: the part is read if nothing follows
its code or an amount that is read.
-/

import Bolt11.HumanPart
import Bolt11.Proofs.Amount
import Bolt11.Proofs.Bech32

namespace Bolt11

/-! ### The characters of a short form -/

namespace Amount

/-- The short form of an amount begins with a digit. -/
theorem shortForm_eq_cons (msat : Nat) :
    ∃ c rest, (shortForm msat).toList = c :: rest ∧ isDigit c = true := by
  obtain ⟨number, places, cut, -, -⟩ := split?_shortForm msat
  exact exists_digit cut

theorem digit_facts {c : Char} (digit : isDigit c = true) :
    Bech32.isPlain c = true ∧ c.toLower = c := by
  have ofAscii : ∀ c : Char, c.toNat < 0x80 → isDigit c = true →
      Bech32.isPlain c = true ∧ c.toLower = c :=
    Text.forall_ascii (by decide)
  have ascii : c.toNat < 0x80 := Nat.lt_of_le_of_lt (isDigit_iff_bounds.mp digit).2 (by decide)
  exact ofAscii c ascii digit

theorem shortForm_plain (msat : Nat) :
    ∀ c ∈ (shortForm msat).toList, Bech32.isPlain c = true ∧ c.toLower = c := by
  obtain ⟨number, places, cut, -, -⟩ := split?_shortForm msat
  obtain ⟨-, numeric, shape⟩ := split?_eq_some_iff.mp cut
  have letters : ∀ entry ∈ units, Bech32.isPlain entry.1 = true ∧ entry.1.toLower = entry.1 := by
    decide
  intro c member
  rcases shape with ⟨text, -⟩ | ⟨unit, listed, text⟩
  · rw [text] at member
    exact digit_facts (numeric c member)
  · rw [text] at member
    rcases List.mem_append.mp member with digit | last
    · exact digit_facts (numeric c digit)
    · rw [List.mem_singleton.mp last]
      exact letters _ listed

end Amount

namespace HumanPart

/-- The part for a network and an amount, whether or not the runtime writes the amount. -/
def form (network : Network) : Option Int → String
  | none => "ln" ++ network.currency
  | some amount => "ln" ++ network.currency ++ Amount.shortForm amount

/-- The part is written if the short form of the amount is. -/
theorem write_eq_form [Runtime] (network : Network) {amount : Option Int}
    (written : ∀ msat ∈ amount, Amount.shorten msat = .ok (Amount.shortForm msat)) :
    write network amount = .ok (form network amount) := by
  cases amount with
  | none => rfl
  | some msat => rw [write, written msat rfl, form]

/-- The part for an amount that is not above the limit is written on every runtime. -/
theorem write_of_le [Runtime] (network : Network) {amount : Option Nat}
    (bounded : ∀ msat ∈ amount, msat ≤ Amount.supplyInMsat) :
    write network (amount.map Int.ofNat) = .ok (form network (amount.map Int.ofNat)) := by
  refine write_eq_form network fun msat member => ?_
  obtain ⟨natural, known, rfl⟩ := Option.mem_map.mp member
  exact Amount.shorten_of_le (bounded natural known)

/-- A part is fit for the text form. -/
theorem isHumanPart_form (network : Network) (amount : Option Nat) :
    Bech32.IsHumanPart (form network (amount.map Int.ofNat)).toList := by
  have code : ∀ c ∈ 'l' :: 'n' :: network.currency.toList,
      Bech32.isPlain c = true ∧ c.toLower = c := by
    cases network <;> exact Bech32.plain_of_all (by decide)
  have written : ∃ tail, (form network (amount.map Int.ofNat)).toList =
      'l' :: 'n' :: network.currency.toList ++ tail ∧
      ∀ c ∈ tail, Bech32.isPlain c = true ∧ c.toLower = c := by
    cases amount with
    | none =>
      refine ⟨[], ?_, by simp⟩
      simp [form]
    | some msat =>
      refine ⟨(Amount.shortForm msat).toList, ?_, Amount.shortForm_plain msat⟩
      simp [form]
  obtain ⟨tail, text, tailPlain⟩ := written
  have all : ∀ c ∈ (form network (amount.map Int.ofNat)).toList,
      Bech32.isPlain c = true ∧ c.toLower = c := by
    intro c member
    rw [text] at member
    rcases List.mem_append.mp member with head | rest
    · exact code c head
    · exact tailPlain c rest
  exact ⟨by rw [text]; simp, fun c member => (all c member).1, fun c member => (all c member).2⟩

/-! ### The network that fits -/

theorem mem_longestFirst (network : Network) : network ∈ Network.longestFirst := by
  cases network <;> decide

/-- What may follow the code of the network: nothing, or something that begins with a digit. -/
def IsNumeric (rest : List Char) : Prop := ∀ c ∈ rest.head?, Amount.isDigit c = true

theorem isNumeric_nil : IsNumeric [] := fun _ member => nomatch member

theorem isNumeric_cons {c : Char} {rest : List Char} :
    IsNumeric (c :: rest) ↔ Amount.isDigit c = true := by
  simp [IsNumeric]

/-- Behind the code of another network that begins the same text there is a letter. -/
theorem exists_letter {network other : Network} (different : other ≠ network)
    {rest tail : List Char} (numeric : IsNumeric rest)
    (same : other.currency.toList ++ tail = network.currency.toList ++ rest) :
    ∃ c more, tail = c :: more ∧ Amount.isDigit c = false := by
  cases other <;> cases network <;> simp_all [Network.currency]
  case mainnet.regtest => decide
  case testnet.signet => decide
  case signet.testnet =>
    subst same
    exact absurd (isNumeric_cons.mp numeric) (by decide)
  case regtest.mainnet =>
    subst same
    exact absurd (isNumeric_cons.mp numeric) (by decide)

/-- What stands behind the currency code. -/
theorem drop_currency (network : Network) (rest : List Char) :
    (network.currency.toList ++ rest).drop network.currency.length = rest := by
  rw [← String.length_toList, List.drop_left]

/-- A network fits a part if its code is followed by what may follow it. -/
def Fits (humanPart : String) (network : Network) (rest : List Char) : Prop :=
  humanPart.toList = 'l' :: 'n' :: (network.currency.toList ++ rest) ∧ IsNumeric rest

/-- The text behind a currency code as nothing or an amount. -/
def answer (network : Network) (rest : List Char) : Except Invalid (Network × Option Nat) :=
  if rest = [] then .ok (network, none)
  else (Amount.unshorten (String.ofList rest)).map fun amount => (network, some amount)

/-- The network that fits decides, wherever it stands among those that are tried. -/
theorem readTail_of_mem {whole : String} {network : Network} {rest : List Char}
    (numeric : IsNumeric rest) {candidates : List Network} (member : network ∈ candidates)
    (begins : ∀ other ∈ candidates,
      other.currency.toList <+: network.currency.toList ++ rest) :
    readTail whole (network.currency.toList ++ rest) candidates = answer network rest := by
  induction candidates with
  | nil => cases member
  | cons candidate others inductionHypothesis =>
    by_cases same : candidate = network
    · subst same
      rw [readTail, drop_currency]
      cases rest with
      | nil => rfl
      | cons c more =>
        simp only [answer, isNumeric_cons.mp numeric, if_true, reduceCtorEq, if_false]
        cases Amount.unshorten (String.ofList (c :: more)) <;> rfl
    · obtain ⟨tail, text⟩ := begins candidate List.mem_cons_self
      obtain ⟨c, more, rfl, letter⟩ := exists_letter same numeric text
      have later := inductionHypothesis ((List.mem_cons.mp member).resolve_left (Ne.symm same))
        fun other among => begins other (List.mem_cons_of_mem _ among)
      rw [← text] at later ⊢
      rw [readTail, drop_currency]
      simpa only [letter, Bool.false_eq_true, if_false] using later

/-- If no network fits, the networks may as well not be tried. -/
theorem readTail_of_unfit {whole : String} {text : List Char} {candidates : List Network}
    (begins : ∀ network ∈ candidates, network.currency.toList <+: text)
    (unfit : ∀ (network : Network) rest, text = network.currency.toList ++ rest → ¬ IsNumeric rest) :
    readTail whole text candidates = .error (.unknownNetwork whole) := by
  induction candidates with
  | nil => rfl
  | cons candidate others inductionHypothesis =>
    obtain ⟨tail, same⟩ := begins candidate List.mem_cons_self
    have later := inductionHypothesis fun other among => begins other (List.mem_cons_of_mem _ among)
    have lettered := unfit candidate tail same.symm
    rw [readTail, ← same, drop_currency, same]
    cases tail with
    | nil => exact absurd isNumeric_nil lettered
    | cons c more =>
      simp only [if_neg (mt isNumeric_cons.mpr lettered)]
      exact later

/-- A part is read as the network says that fits it, whatever networks are tried besides and in
whatever order. -/
theorem readAmong_of_fits {humanPart : String} {network : Network} {rest : List Char}
    (fits : Fits humanPart network rest) {order : List Network} (member : network ∈ order) :
    readAmong order humanPart = answer network rest := by
  simp only [readAmong, fits.1]
  refine readTail_of_mem fits.2 ?_ ?_
  · refine List.mem_filter.mpr ⟨member, ?_⟩
    exact List.isPrefixOf_iff_prefix.mpr (List.prefix_append _ _)
  · intro other among
    exact List.isPrefixOf_iff_prefix.mp (List.mem_filter.mp among).2

/-- A part that no network fits is refused as if there were no networks. -/
theorem readAmong_of_unfit {humanPart : String}
    (unfit : ∀ network rest, ¬ Fits humanPart network rest) (order : List Network) :
    readAmong order humanPart = readAmong [] humanPart := by
  unfold readAmong
  split
  · rename_i tail text
    rw [readTail_of_unfit]
    · rfl
    · intro network among
      exact List.isPrefixOf_iff_prefix.mp (List.mem_filter.mp among).2
    · intro network rest same numeric
      exact unfit network rest ⟨by rw [text, same], numeric⟩
  · rfl

/-- What is read begins with the letters ln. -/
theorem exists_mark_of_read {humanPart : String} {found : Network × Option Nat}
    (succeeded : read humanPart = .ok found) : ∃ tail, humanPart.toList = 'l' :: 'n' :: tail := by
  unfold read readAmong at succeeded
  split at succeeded
  · rename_i tail marked
    exact ⟨tail, marked⟩
  · cases succeeded

theorem readAmong_nil_ne_ok (humanPart : String) (found : Network × Option Nat) :
    readAmong [] humanPart ≠ .ok found := by
  unfold readAmong
  split
  · exact fun read => nomatch read
  · exact fun read => nomatch read

/-! ### What was written -/

/-- A part with an amount says its network, and of the amount what its short form says. -/
theorem read_form_some (network : Network) (msat : Nat) :
    read (form network (some (Int.ofNat msat))) =
      (Amount.unshorten (Amount.shortForm msat)).map fun amount => (network, some amount) := by
  obtain ⟨c, rest, text, digit⟩ := Amount.shortForm_eq_cons msat
  have fits : Fits (form network (some (Int.ofNat msat))) network
      (Amount.shortForm msat).toList := by
    refine ⟨by simp [form], ?_⟩
    rw [text]
    exact isNumeric_cons.mpr digit
  have nonempty : (Amount.shortForm msat).toList ≠ [] := by simp [text]
  rw [read, readAmong_of_fits fits (mem_longestFirst network), answer, if_neg nonempty,
    String.ofList_toList]

/-- A part says its network and its amount. -/
theorem read_form (network : Network) {amount : Option Nat}
    (bounded : ∀ msat ∈ amount, msat ≤ Amount.supplyInMsat) :
    read (form network (amount.map Int.ofNat)) = .ok (network, amount) := by
  cases amount with
  | none =>
    have fits : Fits (form network none) network [] := ⟨by simp [form], isNumeric_nil⟩
    rw [Option.map_none, read, readAmong_of_fits fits (mem_longestFirst network)]
    rfl
  | some msat =>
    rw [Option.map_some, read_form_some, Amount.unshorten_shortForm (bounded msat rfl)]
    rfl

/-! ### What is read -/

/-- A part is for a network if behind its code there is nothing or an amount that is read. -/
def IsFor (humanPart : String) (network : Network) (rest : String) : Prop :=
  humanPart = "ln" ++ network.currency ++ rest ∧
    (rest = "" ∨ ∃ msat, Amount.unshorten rest = .ok msat)

/-- What the text behind the code of the network says: no amount if it is empty. -/
def amountOf (rest : String) : Option Nat :=
  if rest = "" then none else (Amount.unshorten rest).toOption

theorem toList_eq_iff {humanPart : String} {network : Network} {rest : String} :
    humanPart = "ln" ++ network.currency ++ rest ↔
      humanPart.toList = 'l' :: 'n' :: (network.currency.toList ++ rest.toList) := by
  simp [String.ext_iff]

theorem answer_eq_ok_iff {network : Network} {rest : String} {found : Network × Option Nat} :
    answer network rest.toList = .ok found ↔
      (rest = "" ∨ ∃ msat, Amount.unshorten rest = .ok msat) ∧ found = (network, amountOf rest) := by
  by_cases empty : rest = ""
  · simp [answer, amountOf, empty, eq_comm]
  · have present : rest.toList ≠ [] := by simpa using empty
    rw [answer, if_neg present, String.ofList_toList, amountOf, if_neg empty]
    cases Amount.unshorten rest with
    | error cause => simp [empty, Except.map]
    | ok msat => simp [Except.map, Except.toOption, eq_comm]

theorem IsFor.fits {humanPart : String} {network : Network} {rest : String}
    (isFor : IsFor humanPart network rest) : Fits humanPart network rest.toList := by
  refine ⟨toList_eq_iff.mp isFor.1, ?_⟩
  rcases isFor.2 with rfl | ⟨msat, read⟩
  · exact isNumeric_nil
  · obtain ⟨digits, places, cut, -, -⟩ := Amount.unshorten_eq_ok_iff.mp read
    obtain ⟨c, more, text, digit⟩ := Amount.exists_digit cut
    rw [text]
    exact isNumeric_cons.mpr digit

/-- A part is for one network at most, and determines what stands behind its code. -/
theorem IsFor.unique {humanPart : String} {network other : Network} {rest tail : String}
    (isFor : IsFor humanPart network rest) (alsoFor : IsFor humanPart other tail) :
    other = network ∧ tail = rest := by
  obtain ⟨text, numeric⟩ := isFor.fits
  obtain ⟨otherText, otherNumeric⟩ := alsoFor.fits
  have same : other.currency.toList ++ tail.toList = network.currency.toList ++ rest.toList := by
    simpa using otherText.symm.trans text
  have one : other = network := by
    by_contra different
    obtain ⟨c, more, lettered, letter⟩ := exists_letter different numeric same
    rw [lettered, isNumeric_cons, letter] at otherNumeric
    cases otherNumeric
  subst one
  exact ⟨rfl, String.toList_inj.mp (List.append_cancel_left same)⟩

/-- The parts that are read, as which network and amount. -/
theorem read_eq_ok_iff {humanPart : String} {network : Network} {amount : Option Nat} :
    read humanPart = .ok (network, amount) ↔
      ∃ rest, IsFor humanPart network rest ∧ amount = amountOf rest := by
  constructor
  · intro found
    by_cases fitting : ∃ own rest, Fits humanPart own rest
    · obtain ⟨own, rest, fits⟩ := fitting
      rw [read, readAmong_of_fits fits (mem_longestFirst own), ← String.toList_ofList (l := rest),
        answer_eq_ok_iff] at found
      obtain ⟨allowed, same⟩ := found
      obtain ⟨rfl, rfl⟩ := Prod.mk.inj same
      refine ⟨String.ofList rest, ⟨toList_eq_iff.mpr ?_, allowed⟩, rfl⟩
      rw [fits.1, String.toList_ofList]
    · simp only [not_exists] at fitting
      rw [read, readAmong_of_unfit fitting] at found
      exact absurd found (readAmong_nil_ne_ok humanPart _)
  · rintro ⟨rest, isFor, rfl⟩
    rw [read, readAmong_of_fits isFor.fits (mem_longestFirst network)]
    exact answer_eq_ok_iff.mpr ⟨isFor.2, rfl⟩

/-- The amount of a human readable part, if it has one, is not above the limit. -/
theorem amount_le_of_read {humanPart : String} {network : Network} {amount : Option Nat}
    (readPart : read humanPart = .ok (network, amount)) :
    ∀ msat ∈ amount, msat ≤ Amount.supplyInMsat := by
  obtain ⟨rest, isFor, rfl⟩ := read_eq_ok_iff.mp readPart
  intro msat member
  rcases isFor.2 with rfl | ⟨own, readAmount⟩
  · cases member
  · have same : own = msat := by
      simp only [amountOf, readAmount, Except.toOption] at member
      split at member
      · cases member
      · exact Option.some.inj member
    exact same ▸ Amount.unshorten_le readAmount

/-- Which parts are read, and as what. A part is read if it is for a network; this network and what
stands behind its code are then the only ones, and it is read as the network and the amount behind
its code. Whether it is read or refused, and for what reason, does not depend on the order in which
the networks are tried. -/
theorem recognize (humanPart : String) :
    ((∃ found, read humanPart = .ok found) ↔ ∃ network rest, IsFor humanPart network rest) ∧
      (∀ network rest, IsFor humanPart network rest →
        (∀ other tail, IsFor humanPart other tail → other = network ∧ tail = rest) ∧
          read humanPart = .ok (network, amountOf rest)) ∧
      ∀ order, (∀ network, network ∈ order) → readAmong order humanPart = read humanPart := by
  refine ⟨⟨?_, ?_⟩, fun network rest isFor => ⟨fun other tail => isFor.unique, ?_⟩, ?_⟩
  · rintro ⟨⟨network, amount⟩, found⟩
    obtain ⟨rest, isFor, -⟩ := read_eq_ok_iff.mp found
    exact ⟨network, rest, isFor⟩
  · rintro ⟨network, rest, isFor⟩
    exact ⟨_, read_eq_ok_iff.mpr ⟨rest, isFor, rfl⟩⟩
  · exact read_eq_ok_iff.mpr ⟨rest, isFor, rfl⟩
  · intro order complete
    by_cases fitting : ∃ own rest, Fits humanPart own rest
    · obtain ⟨own, rest, fits⟩ := fitting
      rw [read, readAmong_of_fits fits (complete own),
        readAmong_of_fits fits (mem_longestFirst own)]
    · simp only [not_exists] at fitting
      rw [read, readAmong_of_unfit fitting order, readAmong_of_unfit fitting Network.longestFirst]

/-- The code of one network begins that of another; the shorter is tried first. -/
theorem recognize_signet :
    IsFor "lntbs20m" .signet "20m" ∧
      read "lntbs20m" = .ok (.signet, some 2000000000) ∧
      readAmong Network.longestFirst.reverse "lntbs20m" = .ok (.signet, some 2000000000) := by
  have amount : Amount.unshorten "20m" = .ok 2000000000 := by decide +kernel
  have isFor : IsFor "lntbs20m" .signet "20m" := ⟨by decide, .inr ⟨_, amount⟩⟩
  obtain ⟨-, named, anyOrder⟩ := recognize "lntbs20m"
  have found := (named .signet "20m" isFor).2
  rw [amountOf, amount] at found
  refine ⟨isFor, found, ?_⟩
  rw [anyOrder Network.longestFirst.reverse fun network => by cases network <;> decide]
  exact found

end HumanPart

end Bolt11
