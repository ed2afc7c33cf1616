/-
This file proves that the notations of a channel id agree, and how many octets an id has that is
made from something else.

The three numbers of an id and the number of the whole are views of its eight octets, so each way
of making an id is settled by which octets it makes: an id is made from numbers exactly if it is
whole and shows these numbers. No notation is mistaken for another, since the digits of hexadecimal
do not include the letter x and the notation of three numbers does.

One way of making ids does not see to it that they are whole. A text in hexadecimal has to have
sixteen characters, but reading it skips white space, so that it stands for one octet less for every
two characters that are skipped. What comes out then is an id of fewer octets, and it is shorter by
nothing else.
-/

import Bolt11.Proofs.Numerals
import Bolt11.Proofs.Octets
import Bolt11.Proofs.Outcome
import Bolt11.RouteHint

namespace Bolt11

namespace ChannelId

/-- Whether an id has all of its eight octets. -/
def IsWhole (id : ChannelId) : Prop := id.octets.length = 8

/-! ### The views of a whole id -/

/-- The number of an id is put together from the numbers of its parts. -/
theorem toNat_of_parts (first : Bytes) {second third : Bytes} (secondSized : second.length = 3)
    (thirdSized : third.length = 2) : toNat ⟨first ++ second ++ third⟩ =
      (Bytes.toNat first * 2 ^ 24 + Bytes.toNat second) * 2 ^ 16 + Bytes.toNat third := by
  rw [toNat, Bytes.toNat_append, Bytes.toNat_append, secondSized, thirdSized]
  norm_num

section Parts

variable {first second third : Bytes} (firstSized : first.length = 3)
  (secondSized : second.length = 3) (thirdSized : third.length = 2)

include firstSized secondSized thirdSized

theorem isWhole_of_parts : IsWhole ⟨first ++ second ++ third⟩ := by
  rw [IsWhole, List.length_append, List.length_append, firstSized, secondSized, thirdSized]

/-- The three numbers of an id are those of its parts. -/
theorem views_of_parts :
    blockHeight ⟨first ++ second ++ third⟩ = Bytes.toNat first ∧
      transactionIndex ⟨first ++ second ++ third⟩ = Bytes.toNat second ∧
      outputIndex ⟨first ++ second ++ third⟩ = Bytes.toNat third := by
  have firstPart : (first ++ second ++ third).take 3 = first := by
    rw [List.append_assoc]
    exact List.take_left' firstSized
  have secondPart : ((first ++ second ++ third).drop 3).take 3 = second :=
    Bytes.part_between first second third (List.append_assoc _ _ _) firstSized secondSized
  have thirdPart : ((first ++ second ++ third).drop 6).take 2 = third :=
    Bytes.part_between (first ++ second) third [] (by rw [List.append_nil])
      (by rw [List.length_append, firstSized, secondSized]) thirdSized
  refine ⟨?_, ?_, ?_⟩
  · rw [blockHeight, firstPart]
  · rw [transactionIndex, secondPart]
  · rw [outputIndex, thirdPart]

/-- An id is written as the numbers of its parts. -/
theorem format_of_parts :
    format ⟨first ++ second ++ third⟩ =
      toString (Bytes.toNat first) ++ "x" ++ toString (Bytes.toNat second) ++ "x" ++
        toString (Bytes.toNat third) := by
  obtain ⟨firstShown, secondShown, -⟩ := views_of_parts firstSized secondSized thirdSized
  have present : (first ++ second ++ third).isEmpty = false := by
    rw [List.isEmpty_eq_false_iff, ← List.length_pos_iff,
      isWhole_of_parts firstSized secondSized thirdSized]
    decide
  have rest : (first ++ second ++ third).drop 6 = third :=
    List.drop_left' (by rw [List.length_append, firstSized, secondSized])
  rw [blockHeight] at firstShown
  rw [transactionIndex] at secondShown
  rw [format, formatOctets, present, firstShown, secondShown, rest]
  rfl

end Parts

/-- A whole id is cut into its three parts. -/
theorem IsWhole.exists_parts {id : ChannelId} (whole : id.IsWhole) :
    ∃ first second third : Bytes, id = ⟨first ++ second ++ third⟩ ∧ first.length = 3 ∧
      second.length = 3 ∧ third.length = 2 := by
  have sized : id.octets.length = 8 := whole
  refine ⟨id.octets.take 3, (id.octets.drop 3).take 3, id.octets.drop 6, ?_, ?_, ?_, ?_⟩
  · have cut : id.octets.drop 6 = (id.octets.drop 3).drop 3 := by rw [List.drop_drop]
    rw [List.append_assoc, cut, List.take_append_drop, List.take_append_drop]
  · rw [List.length_take, sized]; rfl
  · rw [List.length_take, List.length_drop, sized]; rfl
  · rw [List.length_drop, sized]

/-! ### Ids made from numbers and octets -/

/-- The id of a byte string has these octets, and is whole. -/
theorem ofBytes_eq_ok_iff {octets : Bytes} {id : ChannelId} :
    ofBytes octets = .ok id ↔ id.IsWhole ∧ id.octets = octets := by
  unfold ofBytes
  split
  · rename_i sized
    constructor
    · intro made
      obtain rfl := Except.ok.inj made
      exact ⟨sized, rfl⟩
    · rintro ⟨-, rfl⟩
      rfl
  · rename_i sized
    refine iff_of_false ?_ ?_
    · intro made
      cases made
    · rintro ⟨whole, rfl⟩
      exact sized whole

/-- An id is made from a number exactly if it is whole and has that number. -/
theorem ofInt_eq_ok_iff [Runtime] {number : Int} {id : ChannelId} :
    ofInt number = .ok id ↔ id.IsWhole ∧ (id.toNat : Int) = number := by
  have same : ofInt number = .ok id ↔ Bytes.ofInt 8 number = .ok id.octets := by
    by_cases inRange : 0 ≤ number ∧ number < Nat.pow 2 64
    · have written : Bytes.ofInt 8 number = .ok (Bytes.ofNat 8 number.toNat) := by
        -- The two bounds, a power of two and one of the size of an octet, are the same number.
        rw [Bytes.ofInt, if_neg (not_lt.mpr inRange.1)]
        exact if_pos inRange.2
      rw [ofInt, if_pos inRange, written, Except.ok.injEq, Except.ok.injEq]
      exact ⟨congrArg octets, congrArg ChannelId.mk⟩
    · rw [ofInt, if_neg inRange]
      refine iff_of_false ?_ ?_
      · intro made
        cases made
      · intro written
        obtain ⟨natural, fits⟩ := Bytes.exists_ofInt_iff.mp ⟨_, written⟩
        exact inRange ⟨natural, fits⟩
  exact same.trans Bytes.ofInt_eq_ok_iff

/-- An id is made from three numbers exactly if it is whole and shows these numbers. -/
theorem ofComponents_eq_ok_iff {block transaction output : Int} {id : ChannelId} :
    ofComponents block transaction output = .ok id ↔
      id.IsWhole ∧ (id.blockHeight : Int) = block ∧ (id.transactionIndex : Int) = transaction ∧
        (id.outputIndex : Int) = output := by
  constructor
  · intro made
    obtain ⟨first, firstMade, made⟩ := bind_eq_ok_iff.mp made
    obtain ⟨second, secondMade, made⟩ := bind_eq_ok_iff.mp made
    obtain ⟨third, thirdMade, made⟩ := bind_eq_ok_iff.mp made
    obtain rfl := Except.ok.inj made
    obtain ⟨firstSized, rfl⟩ := Bytes.ofInt_eq_ok_iff.mp firstMade
    obtain ⟨secondSized, rfl⟩ := Bytes.ofInt_eq_ok_iff.mp secondMade
    obtain ⟨thirdSized, rfl⟩ := Bytes.ofInt_eq_ok_iff.mp thirdMade
    obtain ⟨firstShown, secondShown, thirdShown⟩ :=
      views_of_parts firstSized secondSized thirdSized
    exact ⟨isWhole_of_parts firstSized secondSized thirdSized, congrArg _ firstShown,
      congrArg _ secondShown, congrArg _ thirdShown⟩
  · rintro ⟨whole, rfl, rfl, rfl⟩
    obtain ⟨first, second, third, rfl, firstSized, secondSized, thirdSized⟩ := whole.exists_parts
    obtain ⟨firstShown, secondShown, thirdShown⟩ :=
      views_of_parts firstSized secondSized thirdSized
    rw [firstShown, secondShown, thirdShown]
    refine bind_eq_ok_iff.mpr ⟨first, Bytes.ofInt_eq_ok_iff.mpr ⟨firstSized, rfl⟩, ?_⟩
    refine bind_eq_ok_iff.mpr ⟨second, Bytes.ofInt_eq_ok_iff.mpr ⟨secondSized, rfl⟩, ?_⟩
    exact bind_eq_ok_iff.mpr ⟨third, Bytes.ofInt_eq_ok_iff.mpr ⟨thirdSized, rfl⟩, rfl⟩

/-- A text is read as three numbers exactly if it has three parts, each of which is a number, and
there is an id of these numbers. -/
theorem ofText_eq_ok_iff [Runtime] {text : String} {id : ChannelId} :
    ofText text = .ok id ↔ ∃ block transaction output : Int,
      (Text.splitAll 'x' text.toList).map (fun part => Text.readInt (String.ofList part)) =
          [.ok block, .ok transaction, .ok output] ∧
        ofComponents block transaction output = .ok id := by
  unfold ofText
  split
  · rename_i block transaction output parts
    constructor
    · intro read
      split at read
      · rename_i own made
        obtain rfl := Except.ok.inj read
        exact ⟨block, transaction, output, parts, made⟩
      · cases read
    · rintro ⟨_, _, _, same, made⟩
      rw [parts] at same
      cases same
      rw [made]
  · rename_i misfit
    refine iff_of_false ?_ ?_
    · intro read
      cases read
    · rintro ⟨block, transaction, output, parts, -⟩
      exact misfit block transaction output parts

/-- The letter x does not occur in hexadecimal. -/
theorem unmarked_of_readHex {text : String} {octets : Bytes}
    (read : Text.readHex text = .ok octets) : 'x' ∉ text.toList := by
  intro member
  rcases (Text.readHex_eq_ok_iff.mp read).gap_or_digit 'x' member with gap | ⟨value, digit⟩
  · cases gap
  · cases digit

/-- A text is read in the notation that the letter x tells: as three numbers, or as sixteen
characters in hexadecimal. -/
theorem ofNotation_eq_ok_iff [Runtime] {text : String} {id : ChannelId} :
    ofNotation text = .ok id ↔
      ('x' ∈ text.toList ∧ ofText text = .ok id) ∨
        ('x' ∉ text.toList ∧ text.length = 16 ∧ Text.readHex text = .ok id.octets) := by
  unfold ofNotation
  by_cases marked : 'x' ∈ text.toList
  · rw [if_pos (List.contains_iff_mem.mpr marked)]
    simp only [marked, true_and, not_true_eq_false, false_and, or_false]
  · rw [if_neg (mt List.contains_iff_mem.mp marked)]
    simp only [marked, not_false_eq_true, true_and, false_and, false_or]
    by_cases sized : text.length = 16
    · rw [if_neg (not_not.mpr sized)]
      cases Text.readHex text with
      | ok octets =>
        simp only [sized, true_and, Except.ok.injEq]
        exact ⟨congrArg ChannelId.octets, congrArg ChannelId.mk⟩
      | error position => simp
    · rw [if_pos sized]
      refine iff_of_false ?_ ?_
      · intro read
        cases read
      · intro parts
        exact sized parts.1

/-- An id is taken from a value that is a text or an integer. -/
theorem ofDatum_eq_some_iff [Runtime] {value : Datum} {id : ChannelId} :
    ofDatum value = .ok (some id) ↔
      (∃ text, value = .text text ∧ ofNotation text = .ok id) ∨
        ∃ number, value.asInt? = some number ∧ ofInt number = .ok id := by
  unfold ofDatum
  split
  · simp [Datum.asInt?]
  · rename_i text
    cases made : ofNotation text with
    | ok own => simp [Except.map, Datum.asInt?, made]
    | error fault => simp [Except.map, Datum.asInt?, made]
  · rename_i _ noText
    have other : ¬ ∃ text, value = .text text ∧ ofNotation text = .ok id := by
      rintro ⟨text, same, -⟩
      exact noText text same
    cases whole : value.asInt? with
    | none => simp [other]
    | some number =>
      cases made : ofInt number with
      | ok own => simp [other, made]
      | error cause => simp [other, made]

theorem normalize_value [Runtime] (value : Datum) : normalize (.value value) = ofDatum value := rfl

/-- An id is made from a value or from octets; one that is there already is left as it is. -/
theorem normalize_eq_some_iff [Runtime] {source : Source} {id : ChannelId} :
    normalize source = .ok (some id) ↔
      (∃ value, source = .value value ∧ ofDatum value = .ok (some id)) ∨
        (∃ octets, source = .octets octets ∧ ofBytes octets = .ok id) ∨ source = .id id := by
  cases source with
  | value value => simp [normalize]
  | octets octets => cases made : ofBytes octets <;> simp [normalize, made]
  | id own => simp [normalize]

/-! ### The views put together -/

section Whole

variable {id : ChannelId} (whole : id.IsWhole)

include whole

/-- The number of a whole id is put together from its three numbers. -/
theorem toNat_of_isWhole :
    id.toNat = (id.blockHeight * 2 ^ 24 + id.transactionIndex) * 2 ^ 16 + id.outputIndex := by
  obtain ⟨first, second, third, rfl, firstSized, secondSized, thirdSized⟩ := whole.exists_parts
  obtain ⟨firstShown, secondShown, thirdShown⟩ := views_of_parts firstSized secondSized thirdSized
  rw [firstShown, secondShown, thirdShown, toNat_of_parts first secondSized thirdSized]

/-- A whole id is written as its three numbers, none of which is large. -/
theorem format_of_isWhole :
    id.format = toString id.blockHeight ++ "x" ++ toString id.transactionIndex ++ "x" ++
        toString id.outputIndex ∧
      id.blockHeight < 2 ^ 24 ∧ id.transactionIndex < 2 ^ 24 ∧ id.outputIndex < 2 ^ 16 := by
  obtain ⟨first, second, third, rfl, firstSized, secondSized, thirdSized⟩ := whole.exists_parts
  obtain ⟨firstShown, secondShown, thirdShown⟩ := views_of_parts firstSized secondSized thirdSized
  have firstSmall := Bytes.toNat_lt first
  have secondSmall := Bytes.toNat_lt second
  have thirdSmall := Bytes.toNat_lt third
  rw [firstSized] at firstSmall
  rw [secondSized] at secondSmall
  rw [thirdSized] at thirdSmall
  rw [firstShown, secondShown, thirdShown, format_of_parts firstSized secondSized thirdSized]
  exact ⟨rfl, firstSmall, secondSmall, thirdSmall⟩

/-! ### Ids read from texts -/

variable [Runtime]

theorem ofText_format : ofText id.format = .ok id := by
  -- No digit is the letter x, so the text is cut into just the three numbers, and each of them is
  -- far below the limit of the reader.
  obtain ⟨written, blockSmall, transactionSmall, outputSmall⟩ := format_of_isWhole whole
  have read {number : Nat} (small : number < 2 ^ 24) :
      Text.readInt (toString number) = .ok (number : Int) := by
    have few : (Nat.toDigits 10 number).length ≤ 8 :=
      (Nat.length_toDigits_le_iff (by decide) (by decide)).mpr (by omega)
    refine Text.readInt_toString (Runtime.exceeded_eq_none (Nat.le_trans ?_ (by decide : 8 ≤ 640)))
    rwa [Nat.toString_eq_ofList_toDigits, String.length_ofList]
  have apart (number : Nat) : 'x' ∉ (toString number).toList := fun member =>
    absurd (Text.isDigit_of_mem_toString 'x' member) (by decide)
  have cut : Text.splitAll 'x' id.format.toList = [(toString id.blockHeight).toList,
      (toString id.transactionIndex).toList, (toString id.outputIndex).toList] := by
    have letter : "x".toList = ['x'] := rfl
    rw [written]
    simp only [String.toList_append, letter, List.append_assoc, List.cons_append, List.nil_append]
    rw [Text.splitAll_append (apart _), Text.splitAll_append (apart _),
      Text.splitAll_of_absent (apart _)]
  have outputFits : id.outputIndex < 2 ^ 24 := outputSmall.trans (by decide)
  have parts : (Text.splitAll 'x' id.format.toList).map
      (fun part => Text.readInt (String.ofList part)) =
        [.ok id.blockHeight, .ok id.transactionIndex, .ok id.outputIndex] := by
    rw [cut, List.map_cons, List.map_cons, List.map_singleton, String.ofList_toList,
      String.ofList_toList, String.ofList_toList, read blockSmall, read transactionSmall,
      read outputFits]
  have made := ofComponents_eq_ok_iff.mpr ⟨whole, rfl, rfl, rfl⟩
  exact ofText_eq_ok_iff.mpr ⟨_, _, _, parts, made⟩

/-- A whole id is read back from the way it is written. -/
theorem ofNotation_format : ofNotation id.format = .ok id := by
  obtain ⟨written, -⟩ := format_of_isWhole whole
  have marked : 'x' ∈ id.format.toList := by
    rw [written]
    simp only [String.toList_append, List.mem_append]
    exact .inl (.inr (List.mem_singleton_self 'x'))
  exact ofNotation_eq_ok_iff.mpr (.inl ⟨marked, ofText_format whole⟩)

/-- A text of the digits of an id, in either case, is read as that id. -/
theorem ofNotation_digits {text : String} (digits : text.toLower = Text.hexOf id.octets) :
    ofNotation text = .ok id := by
  have read : Text.readHex text = .ok id.octets := by
    rw [← Text.readHex_toLower, digits, Text.readHex_hexOf]
  have sized : text.length = 16 := by
    have lowered : text.toLower.toList = text.toList.map Char.toLower := String.toList_map
    rw [← String.length_toList, ← List.length_map Char.toLower, ← lowered, digits,
      (Text.isLowerHex_hexOf id.octets).1, whole]
  exact ofNotation_eq_ok_iff.mpr (.inr ⟨unmarked_of_readHex read, sized, read⟩)

end Whole

/-! ### The notations of a channel -/

/-- All notations of a channel agree. A number below the sixty-fourth power of two is the number of
one id, and that id is taken from the number, from its eight octets, from the digits of these in any
case and from the three numbers of the id, with the letter x between them or as numbers. Three
numbers that have room are the three numbers of an id, and no others make the same one. -/
theorem notations_agree [Runtime] :
    (∀ number : Nat, number < 2 ^ 64 → ∃ id, ofInt number = .ok id ∧ id.toNat = number ∧
      normalize (.value (.int number)) = .ok (some id) ∧
      normalize (.octets (Bytes.ofNat 8 number)) = .ok (some id) ∧
      (∀ text : String, text.toLower = Text.hexOf (Bytes.ofNat 8 number) →
        normalize (.value (.text text)) = .ok (some id)) ∧
      id.format = toString id.blockHeight ++ "x" ++ toString id.transactionIndex ++ "x" ++
        toString id.outputIndex ∧
      normalize (.value (.text id.format)) = .ok (some id) ∧
      ofComponents id.blockHeight id.transactionIndex id.outputIndex = .ok id) ∧
    (∀ block transaction output : Nat, block < 2 ^ 24 → transaction < 2 ^ 24 → output < 2 ^ 16 →
      ∃ id, ofComponents block transaction output = .ok id ∧ id.blockHeight = block ∧
        id.transactionIndex = transaction ∧ id.outputIndex = output) ∧
    ∀ (block transaction output otherBlock otherTransaction otherOutput : Int) (id : ChannelId),
      ofComponents block transaction output = .ok id →
      ofComponents otherBlock otherTransaction otherOutput = .ok id →
      block = otherBlock ∧ transaction = otherTransaction ∧ output = otherOutput := by
  refine ⟨fun number small => ?_, fun block transaction output blockSmall transactionSmall
    outputSmall => ?_, fun block transaction output otherBlock otherTransaction otherOutput id made
    madeToo => ?_⟩
  · have sized : (Bytes.ofNat 8 number).length = 8 := Bytes.length_ofNat 8 number
    have value : toNat ⟨Bytes.ofNat 8 number⟩ = number := by
      rw [toNat, Bytes.toNat_ofNat]
      exact Nat.mod_eq_of_lt small
    have made : ofInt number = .ok ⟨Bytes.ofNat 8 number⟩ :=
      ofInt_eq_ok_iff.mpr ⟨sized, congrArg _ value⟩
    have fromText {text : String} (read : ofNotation text = .ok ⟨Bytes.ofNat 8 number⟩) :
        ofDatum (.text text) = .ok (some ⟨Bytes.ofNat 8 number⟩) :=
      ofDatum_eq_some_iff.mpr (.inl ⟨text, rfl, read⟩)
    have fromInt : ofDatum (.int number) = .ok (some ⟨Bytes.ofNat 8 number⟩) :=
      ofDatum_eq_some_iff.mpr (.inr ⟨number, rfl, made⟩)
    refine ⟨⟨Bytes.ofNat 8 number⟩, made, value, ?_, ?_, fun text digits => ?_, ?_, ?_, ?_⟩
    · exact fromInt
    · exact normalize_eq_some_iff.mpr (.inr (.inl ⟨_, rfl, ofBytes_eq_ok_iff.mpr ⟨sized, rfl⟩⟩))
    · exact fromText (ofNotation_digits sized digits)
    · exact (format_of_isWhole sized).1
    · exact fromText (ofNotation_format sized)
    · exact ofComponents_eq_ok_iff.mpr ⟨sized, rfl, rfl, rfl⟩
  · have made : ofComponents block transaction output = .ok
        ⟨Bytes.ofNat 3 block ++ Bytes.ofNat 3 transaction ++ Bytes.ofNat 2 output⟩ := by
      refine bind_eq_ok_iff.mpr ⟨_, Bytes.ofInt_natCast blockSmall, ?_⟩
      refine bind_eq_ok_iff.mpr ⟨_, Bytes.ofInt_natCast transactionSmall, ?_⟩
      exact bind_eq_ok_iff.mpr ⟨_, Bytes.ofInt_natCast outputSmall, rfl⟩
    obtain ⟨-, blockShown, transactionShown, outputShown⟩ := ofComponents_eq_ok_iff.mp made
    exact ⟨_, made, Int.ofNat.inj blockShown, Int.ofNat.inj transactionShown,
      Int.ofNat.inj outputShown⟩
  · obtain ⟨-, rfl, rfl, rfl⟩ := ofComponents_eq_ok_iff.mp made
    exact (ofComponents_eq_ok_iff.mp madeToo).2

/-- The first output of transaction 356 of block 643920, also with its digits in capitals. -/
theorem notations_agree_in_capitals :
    let id : ChannelId := ⟨[0x09, 0xD3, 0x50, 0x00, 0x01, 0x64, 0x00, 0x00]⟩
    ofInt 0x09D3500001640000 = .ok id ∧
      normalize (.value (.int 0x09D3500001640000)) = .ok (some id) ∧
      normalize (.octets id.octets) = .ok (some id) ∧
      normalize (.value (.text "09D3500001640000")) = .ok (some id) ∧
      id.format = "643920x356x0" ∧ normalize (.value (.text "643920x356x0")) = .ok (some id) ∧
      ofComponents 643920 356 0 = .ok id ∧
      id.blockHeight = 643920 ∧ id.transactionIndex = 356 ∧ id.outputIndex = 0 ∧
      ∀ block transaction output : Int, ofComponents block transaction output = .ok id →
        block = 643920 ∧ transaction = 356 ∧ output = 0 := by
  intro id
  obtain ⟨ofNumber, ofThree, apart⟩ := notations_agree
  obtain ⟨own, made, -, taken, ofOctets, ofDigits, -, ofFormat, shown⟩ :=
    ofNumber 0x09D3500001640000 (by decide)
  obtain rfl : id = own := Except.ok.inj made
  obtain ⟨other, otherMade, block, transaction, output⟩ :=
    ofThree 643920 356 0 (by decide) (by decide) (by decide)
  have format : id.format = "643920x356x0" := by decide +kernel
  rw [format] at ofFormat
  refine ⟨made, taken, ofOctets, ofDigits _ (by decide +kernel), format, ofFormat, ?_⟩
  obtain rfl : id = other := Except.ok.inj (shown.symm.trans otherMade)
  exact ⟨otherMade, block, transaction, output, fun _ _ _ madeToo =>
    apart _ _ _ 643920 356 0 id madeToo otherMade⟩

/-! ### Ids that are too short -/

/-- The number of characters that are skipped when an id is made from a text. -/
def skipped : Source → Nat
  | .value (.text text) => if 'x' ∈ text.toList then 0 else text.toList.countP Text.isHexGap
  | _ => 0

/-- An id that is taken from a value lacks one octet for every two characters that are skipped. -/
theorem length_of_ofDatum [Runtime] {value : Datum} {id : ChannelId}
    (made : ofDatum value = .ok (some id)) :
    2 * id.octets.length + skipped (.value value) = 16 := by
  rcases ofDatum_eq_some_iff.mp made with ⟨text, rfl, read⟩ | ⟨number, isNumber, made⟩
  · rcases ofNotation_eq_ok_iff.mp read with ⟨marked, read⟩ | ⟨unmarked, sized, read⟩
    · obtain ⟨_, _, _, -, made⟩ := ofText_eq_ok_iff.mp read
      have whole : id.octets.length = 8 := (ofComponents_eq_ok_iff.mp made).1
      rw [skipped, if_pos marked, whole]
    · have counted := (Text.readHex_eq_ok_iff.mp read).length_eq
      rw [String.length_toList, sized] at counted
      rw [skipped, if_neg unmarked, ← counted]
  · have whole : id.octets.length = 8 := (ofInt_eq_ok_iff.mp made).1
    cases value with
    | text text => cases isNumber
    | _ =>
      show 2 * id.octets.length + 0 = 16
      rw [whole]

/-- What is made from anything but an id lacks one octet for every two characters that are
skipped. -/
theorem length_of_normalize [Runtime] {source : Source} {id : ChannelId}
    (fresh : ∀ own, source ≠ .id own) (made : normalize source = .ok (some id)) :
    2 * id.octets.length + skipped source = 16 := by
  rcases normalize_eq_some_iff.mp made with ⟨value, rfl, taken⟩ | ⟨octets, rfl, taken⟩ | same
  · exact length_of_ofDatum taken
  · have whole : id.octets.length = 8 := (ofBytes_eq_ok_iff.mp taken).1
    rw [whole]
    rfl
  · exact absurd same (fresh id)

end ChannelId

namespace RouteHop

variable [Runtime]

theorem channelNumber_eq_ok_iff {value : Datum} {number : Int} :
    channelNumber value = .ok number ↔
      ∃ id, ChannelId.ofDatum value = .ok (some id) ∧ number = id.toNat := by
  unfold channelNumber
  cases ChannelId.ofDatum value with
  | error fault => simp
  | ok taken =>
    cases taken with
    | none => simp
    | some id => simp [eq_comm]

/-- The channel of a stored hop is the number of the id that is taken from its document, however
many octets that has. -/
theorem channel_of_ofDatum {document : Datum} {hop : RouteHop}
    (restored : ofDatum document = .ok hop) :
    ∃ value id, document.require "short_channel_id" = .ok value ∧
      ChannelId.ofDatum value = .ok (some id) ∧ hop.channel = id.toNat := by
  obtain ⟨nodeId, -, restored⟩ := bind_eq_ok_iff.mp restored
  obtain ⟨value, required, restored⟩ := bind_eq_ok_iff.mp restored
  obtain ⟨channel, channelRead, restored⟩ := bind_eq_ok_iff.mp restored
  obtain ⟨id, taken, rfl⟩ := channelNumber_eq_ok_iff.mp channelRead
  refine ⟨value, id, required, taken, ?_⟩
  obtain ⟨_, -, restored⟩ := bind_eq_ok_iff.mp restored
  obtain ⟨baseFee, -, restored⟩ := bind_eq_ok_iff.mp restored
  obtain ⟨_, -, restored⟩ := bind_eq_ok_iff.mp restored
  obtain ⟨proportionalFee, -, restored⟩ := bind_eq_ok_iff.mp restored
  obtain ⟨_, -, restored⟩ := bind_eq_ok_iff.mp restored
  obtain ⟨cltvDelta, -, restored⟩ := bind_eq_ok_iff.mp restored
  obtain ⟨htlcMinimum, -, restored⟩ := bind_eq_ok_iff.mp restored
  obtain ⟨htlcMaximum, -, restored⟩ := bind_eq_ok_iff.mp restored
  split at restored
  · obtain rfl := Except.ok.inj restored
    rfl
  · cases restored

end RouteHop

namespace ChannelId

/-- How many octets an id has that is made from a value or from octets: one less than eight for
every two characters that are skipped in a text. So it is whole exactly if none is skipped. The
views of a whole id are its parts. A stored hop has the number of the id that is taken from its
document, whole or not. -/
theorem octets_of_normalize [Runtime] {source : Source} {id : ChannelId}
    (fresh : ∀ own, source ≠ .id own) (made : normalize source = .ok (some id)) :
    2 * id.octets.length + skipped source = 16 ∧ (id.IsWhole ↔ skipped source = 0) ∧
      (id.IsWhole →
        ofComponents id.blockHeight id.transactionIndex id.outputIndex = .ok id ∧
        id.toNat = (id.blockHeight * 2 ^ 24 + id.transactionIndex) * 2 ^ 16 + id.outputIndex) ∧
      ∀ document value hop, source = .value value →
        document.require "short_channel_id" = .ok value →
        RouteHop.ofDatum document = .ok hop → hop.channel = id.toNat := by
  have counted := length_of_normalize fresh made
  refine ⟨counted, ?_, fun whole => ⟨?_, toNat_of_isWhole whole⟩, ?_⟩
  · rw [IsWhole]
    omega
  · exact ofComponents_eq_ok_iff.mpr ⟨whole, rfl, rfl, rfl⟩
  · rintro document value hop rfl required restored
    obtain ⟨other, own, requiredToo, takenToo, channel⟩ := RouteHop.channel_of_ofDatum restored
    obtain rfl := Except.ok.inj (required.symm.trans requiredToo)
    have taken : ofDatum value = .ok (some id) := made
    obtain rfl := Option.some.inj (Except.ok.inj (taken.symm.trans takenToo))
    exact channel

/-- A text of sixteen characters, two of them blanks, is taken for an id of seven octets, and the
same text without blanks and with another octet for a whole one. -/
theorem octets_of_normalize_two_blanks :
    let text : Source := .value (.text "0102 0304 050607")
    let short : ChannelId := ⟨[1, 2, 3, 4, 5, 6, 7]⟩
    let hop := RouteHop.make "02" 0x01020304050607 1 2 3 .null .null
    let solid : Source := .value (.text "0102030405060708")
    let id : ChannelId := ⟨[1, 2, 3, 4, 5, 6, 7, 8]⟩
    (∀ own, text ≠ .id own) ∧ normalize text = .ok (some short) ∧ skipped text = 2 ∧
      ¬ short.IsWhole ∧ hop.channel = short.toNat ∧
      (∀ own, solid ≠ .id own) ∧ normalize solid = .ok (some id) ∧ skipped solid = 0 ∧
      id.IsWhole ∧ id.outputIndex = 0x0708 ∧
      id.toNat = (id.blockHeight * 2 ^ 24 + id.transactionIndex) * 2 ^ 16 + id.outputIndex := by
  intro text short hop solid id
  have fresh : ∀ own, text ≠ .id own := fun _ same => nomatch same
  have freshSolid : ∀ own, solid ≠ .id own := fun _ same => nomatch same
  have taken : ofDatum (.text "0102 0304 050607") = .ok (some short) :=
    ofDatum_eq_some_iff.mpr (.inl ⟨_, rfl, ofNotation_eq_ok_iff.mpr
      (.inr ⟨by decide +kernel, by decide +kernel, by decide +kernel⟩)⟩)
  have takenSolid : ofDatum (.text "0102030405060708") = .ok (some id) :=
    ofDatum_eq_some_iff.mpr (.inl ⟨_, rfl, ofNotation_eq_ok_iff.mpr
      (.inr ⟨by decide +kernel, by decide +kernel, by decide +kernel⟩)⟩)
  let document : Datum := .object [("src_node_id", .text "02"),
    ("short_channel_id", .text "0102 0304 050607"), ("fees_base_msat", .int 1),
    ("fees_proportional_millionths", .int 2), ("cltv_expiry_delta", .int 3)]
  have restored : RouteHop.ofDatum document = .ok hop := by
    refine bind_eq_ok_iff.mpr ⟨.text "02", rfl, ?_⟩
    refine bind_eq_ok_iff.mpr ⟨.text "0102 0304 050607", rfl, ?_⟩
    refine bind_eq_ok_iff.mpr ⟨_, RouteHop.channelNumber_eq_ok_iff.mpr ⟨short, taken, rfl⟩, ?_⟩
    rfl
  have made : normalize text = .ok (some short) := (normalize_value _).trans taken
  have madeSolid : normalize solid = .ok (some id) := (normalize_value _).trans takenSolid
  obtain ⟨counted, wholeIff, -, stored⟩ := octets_of_normalize fresh made
  obtain ⟨-, solidIff, views, -⟩ := octets_of_normalize freshSolid madeSolid
  have seven : short.octets.length = 7 := rfl
  have two : skipped text = 2 := by omega
  have noneSkipped : skipped solid = 0 := by decide +kernel
  have whole := solidIff.mpr noneSkipped
  exact ⟨fresh, made, two, fun isWhole => by have none := wholeIff.mp isWhole; omega,
    stored document _ hop rfl rfl restored, freshSolid, madeSolid, noneSkipped, whole, rfl,
    (views whole).2⟩

end ChannelId

end Bolt11
