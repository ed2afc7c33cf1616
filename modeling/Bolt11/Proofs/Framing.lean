/-
This file proves that a section is read as some fields exactly if it is their spellings.

The reader takes one field after another while symbols are left, and what the loop over them gives
is what it reads until it stops. A field says how long it is, so a reader that stands at the head of
one field ends at the head of the next. It follows that a section which is nothing but the spellings
of some fields is read as these fields, with nothing left over and nothing cut. In the other
direction, whatever section is read to its end, what the reader has walked over is the spellings of
the fields it has read. So a list of symbols is cut into fields in only one way, and not even with a
symbol more or less.
-/

import Bolt11.Field
import Bolt11.Proofs.Bech32

namespace Bolt11

/-! ### Spelling -/

namespace Field

/-- The symbols of a field: its tag, the two symbols of its length, and its payload. -/
def spelling (field : Field) : List Nat :=
  (Bech32.symbol? field.tag).getD 0 :: field.payload.length / 32 :: field.payload.length % 32 ::
    field.payload

/-- The most symbols that a payload can have. -/
def maxLength : Nat := 1023

/-- Whether a field has a spelling: its tag is in the alphabet, and the length of its payload
fits into two symbols. -/
structure Fits (field : Field) : Prop where
  known : (Bech32.symbol? field.tag).isSome
  short : field.payload.length < 1024

instance (field : Field) : Decidable field.Fits :=
  decidable_of_iff ((Bech32.symbol? field.tag).isSome ∧ field.payload.length < 1024)
    ⟨fun both => ⟨both.1, both.2⟩, fun fits => ⟨fits.known, fits.short⟩⟩

theorem length_spelling (field : Field) :
    field.spelling.length = 3 + field.payload.length := by
  simp only [spelling, List.length_cons]
  omega

theorem spelling_lt {field : Field} (fits : field.Fits)
    (small : ∀ symbol ∈ field.payload, symbol < 32) : ∀ symbol ∈ field.spelling, symbol < 32 := by
  obtain ⟨tag, known⟩ := Option.isSome_iff_exists.mp fits.known
  have short := fits.short
  intro symbol member
  rw [spelling, known] at member
  rcases List.mem_cons.mp member with rfl | member
  · exact Bech32.symbol_lt known
  rcases List.mem_cons.mp member with rfl | member
  · omega
  rcases List.mem_cons.mp member with rfl | member
  · exact Nat.mod_lt _ (by decide)
  · exact small symbol member

/-- What is written for a field is its spelling, and only a field that has one is written. -/
theorem write_eq_ok_iff {tag : String} {c : Char} (single : tag.toList = [c])
    {payload symbols : List Nat} :
    write tag payload = .ok symbols ↔
      Fits ⟨c, payload⟩ ∧ symbols = spelling ⟨c, payload⟩ := by
  rw [write, header]
  by_cases long : 1024 ≤ payload.length
  · rw [if_pos long]
    constructor
    · intro succeeded
      cases succeeded
    · rintro ⟨fits, -⟩
      exact absurd fits.short (Nat.not_lt.mpr long)
  rw [if_neg long]
  cases known : Bech32.symbol? c with
  | none =>
    simp only [single, known]
    constructor
    · intro succeeded
      cases succeeded
    · rintro ⟨fits, -⟩
      exact absurd fits.known (by simp [known])
  | some symbol =>
    have spelled : spelling ⟨c, payload⟩ =
        [symbol, payload.length / 32, payload.length % 32] ++ payload := by
      rw [spelling, known]
      rfl
    rw [spelled]
    simp only [single, known]
    constructor
    · intro succeeded
      exact ⟨⟨by rw [known]; rfl, Nat.lt_of_not_le long⟩, (Except.ok.inj succeeded).symm⟩
    · rintro ⟨-, rfl⟩
      rfl

end Field

namespace Cursor

/-! ### One field -/

/-- The cursor a number of symbols further on. -/
def advance (cursor : Cursor) (count : Nat) : Cursor :=
  { cursor with position := cursor.position + count }

theorem advance_advance (cursor : Cursor) (first second : Nat) :
    (cursor.advance first).advance second = cursor.advance (first + second) := by
  rw [advance, advance, advance, Nat.add_assoc]

theorem remaining_advance (cursor : Cursor) (count : Nat) :
    (cursor.advance count).remaining = cursor.remaining - count :=
  Nat.sub_add_eq cursor.stop cursor.position count

/-- As many symbols as are left can be taken. -/
theorem length_slice {cursor : Cursor} (inside : cursor.stop ≤ cursor.symbols.length)
    {skipped count : Nat} (room : skipped + count ≤ cursor.remaining) :
    ((cursor.symbols.drop (cursor.position + skipped)).take count).length = count := by
  rw [remaining] at room
  rw [List.length_take, List.length_drop]
  omega

theorem exists_header {cursor : Cursor} (inside : cursor.stop ≤ cursor.symbols.length)
    (room : 3 ≤ cursor.remaining) :
    ∃ tag high low, (cursor.symbols.drop cursor.position).take 3 = [tag, high, low] :=
  List.length_eq_three.mp (length_slice inside (show 0 + 3 ≤ cursor.remaining by omega))

theorem readField_of_narrow {cursor : Cursor} (narrow : cursor.remaining < 3) :
    cursor.readField = (.error .cutHeader, cursor) := by
  rw [readField, if_pos narrow]

/-- Behind a tag and a length it depends on the symbols left whether there is a field. -/
theorem readField_of_header {cursor : Cursor} (room : 3 ≤ cursor.remaining) {tag high low : Nat}
    (header : (cursor.symbols.drop cursor.position).take 3 = [tag, high, low]) :
    cursor.readField =
      if cursor.remaining < 3 + (32 * high + low) then
        (.error (.cutPayload (Bech32.letter tag) (32 * high + low)), cursor.advance 3)
      else
        (.ok ⟨Bech32.letter tag,
          (cursor.symbols.drop (cursor.position + 3)).take (32 * high + low)⟩,
          cursor.advance (3 + (32 * high + low))) := by
  have left : ({ cursor with position := cursor.position + 3 } : Cursor).remaining =
      cursor.remaining - 3 := remaining_advance cursor 3
  rw [readField, if_neg (Nat.not_lt.mpr room)]
  by_cases few : cursor.remaining < 3 + (32 * high + low)
  · rw [if_pos few]
    simp only [header]
    rw [if_pos (by rw [left]; omega)]
    rfl
  · rw [if_neg few, ← advance_advance]
    simp only [header]
    rw [if_neg (by rw [left]; omega)]
    rfl

/-- A tag and a length, of symbols of five bits, can be told from the letter and the number. -/
theorem header_digits {tag high low : Nat} (small : ∀ symbol ∈ [tag, high, low], symbol < 32) :
    Bech32.symbol? (Bech32.letter tag) = some tag ∧ (32 * high + low) / 32 = high ∧
      (32 * high + low) % 32 = low := by
  have tagSmall : tag < 32 := small tag (by simp)
  have lowSmall : low < 32 := small low (by simp)
  exact ⟨(Bech32.letter_facts tag tagSmall).1, by omega, by omega⟩

/-- The field that is read behind a tag and a length is spelled with just these. -/
theorem spelling_of_header {tag high low : Nat} (small : ∀ symbol ∈ [tag, high, low], symbol < 32)
    {payload : List Nat} (count : payload.length = 32 * high + low) :
    Field.spelling ⟨Bech32.letter tag, payload⟩ = [tag, high, low] ++ payload := by
  obtain ⟨known, quotient, rest⟩ := header_digits small
  rw [Field.spelling, known, count, quotient, rest]
  rfl

/-! ### The loop -/

theorem fields_of_readField_ok {cursor behind : Cursor} {field : Field}
    (unfinished : cursor.remaining ≠ 0) (read : cursor.readField = (.ok field, behind)) :
    cursor.fields = (field :: behind.fields.1, behind.fields.2) := by
  rw [fields, if_neg unfinished]
  split
  · rename_i failed
    rw [read] at failed
    cases failed
  · rename_i again
    rw [read] at again
    obtain ⟨same, rfl⟩ := Prod.mk.inj again
    rw [Except.ok.inj same]

/-- How the reader comes from one place to another and which fields it reads on its way: while
symbols are left, it may read one more. -/
inductive Walks : Cursor → List Field → Cursor → Prop
  | stay {cursor : Cursor} : Walks cursor [] cursor
  | onward {cursor behind last : Cursor} {field : Field} {rest : List Field}
      (unfinished : cursor.remaining ≠ 0) (read : cursor.readField = (.ok field, behind))
      (further : Walks behind rest last) : Walks cursor (field :: rest) last

/-- Where the reader stops: at the end, or before a field that it cannot read. -/
inductive Stops : Cursor → Option Malformed → Prop
  | finished {cursor : Cursor} (nothing : cursor.remaining = 0) : Stops cursor none
  | refused {cursor : Cursor} {cause : Malformed} (unfinished : cursor.remaining ≠ 0)
      (failed : cursor.readField.1 = .error cause) : Stops cursor (some cause)

/-- The loop comes to a place where the reader stops. -/
theorem exists_walks_stops (cursor : Cursor) :
    ∃ last, Walks cursor cursor.fields.1 last ∧ Stops last cursor.fields.2 := by
  fun_induction Cursor.fields cursor with
  | case1 cursor finished => exact ⟨cursor, .stay, .finished finished⟩
  | case2 cursor unfinished cause behind failed =>
    exact ⟨cursor, .stay, .refused unfinished (congrArg Prod.fst failed)⟩
  | case3 cursor unfinished field behind read others trouble rest inductionHypothesis =>
    obtain ⟨last, walks, stops⟩ := inductionHypothesis
    rw [rest] at walks stops
    exact ⟨last, .onward unfinished read walks, stops⟩

/-- However far the reader has come, the loop goes on from there. -/
theorem Walks.fields_eq {cursor last : Cursor} {read : List Field}
    (walks : Walks cursor read last) :
    cursor.fields = (read ++ last.fields.1, last.fields.2) := by
  induction walks with
  | stay => rfl
  | onward unfinished read further inductionHypothesis =>
    rw [fields_of_readField_ok unfinished read, inductionHypothesis, List.cons_append]

/-- Where the reader stops, the loop ends. -/
theorem Stops.fields_eq {last : Cursor} {trouble : Option Malformed} (stops : Stops last trouble) :
    last.fields = ([], trouble) := by
  cases stops with
  | finished nothing => rw [fields, if_pos nothing]
  | refused unfinished failed =>
    rw [fields, if_neg unfinished]
    split
    · rename_i again
      rw [again] at failed
      rw [Except.error.inj failed]
    · rename_i read
      rw [read] at failed
      cases failed

/-- The loop reads what the reader reads until it stops. -/
theorem fields_eq_iff_walks {cursor : Cursor} {read : List Field} {trouble : Option Malformed} :
    cursor.fields = (read, trouble) ↔ ∃ last, Walks cursor read last ∧ Stops last trouble := by
  constructor
  · intro looped
    obtain ⟨last, walks, stops⟩ := exists_walks_stops cursor
    rw [looped] at walks stops
    exact ⟨last, walks, stops⟩
  · rintro ⟨last, walks, stops⟩
    rw [walks.fields_eq, stops.fields_eq, List.append_nil]

/-! ### Reading what was spelled -/

/-- A cursor at the head of a field reads it and stands behind it. -/
theorem readField_spelling {field : Field} (fits : field.Fits) (before after : List Nat)
    {stop : Nat} (room : before.length + field.spelling.length ≤ stop) :
    readField ⟨before ++ (field.spelling ++ after), before.length, stop⟩ =
      (.ok field, ⟨before ++ (field.spelling ++ after), before.length + field.spelling.length,
        stop⟩) := by
  obtain ⟨tag, known⟩ := Option.isSome_iff_exists.mp fits.known
  have letter : Bech32.letter tag = field.tag := Bech32.letter_of_symbol known
  rw [Field.length_spelling] at room ⊢
  have lengths : 32 * (field.payload.length / 32) + field.payload.length % 32 =
      field.payload.length := Nat.div_add_mod _ _
  have header : ((before ++ (field.spelling ++ after)).drop before.length).take 3 =
      [tag, field.payload.length / 32, field.payload.length % 32] := by
    rw [List.drop_left, Field.spelling, known]
    rfl
  have payload : ((before ++ (field.spelling ++ after)).drop (before.length + 3)).take
      field.payload.length = field.payload := by
    rw [← List.drop_drop, List.drop_left]
    exact List.take_left
  have left : remaining ⟨before ++ (field.spelling ++ after), before.length, stop⟩ =
      stop - before.length := rfl
  rw [readField_of_header (by omega) header, lengths, if_neg (by omega), letter, payload]
  rfl

/-- A section that is made of the spellings of fields is read as these fields. -/
theorem fields_spellings {fields : List Field} (fit : ∀ field ∈ fields, field.Fits)
    (before after : List Nat) :
    Cursor.fields ⟨before ++ (fields.flatMap Field.spelling ++ after), before.length,
      before.length + (fields.flatMap Field.spelling).length⟩ = (fields, none) := by
  induction fields generalizing before with
  | nil =>
    rw [Cursor.fields, if_pos]
    simp [remaining]
  | cons field rest inductionHypothesis =>
    have room : before.length + field.spelling.length ≤
        before.length + ((field :: rest).flatMap Field.spelling).length := by
      rw [List.flatMap_cons, List.length_append]
      omega
    have first := readField_spelling (fit field List.mem_cons_self) before
      (rest.flatMap Field.spelling ++ after) room
    have restFit : ∀ other ∈ rest, other.Fits := fun other member =>
      fit other (List.mem_cons_of_mem _ member)
    have later := inductionHypothesis restFit (before ++ field.spelling)
    simp only [List.flatMap_cons, List.length_append, List.append_assoc, Nat.add_assoc]
      at first later ⊢
    rw [fields_of_readField_ok ?_ first, later]
    simp only [remaining, Field.length_spelling]
    omega

/-! ### What is read -/

/-- A payload is made of symbols of the section. -/
theorem payload_of_readField {cursor : Cursor} {field : Field}
    (succeeded : cursor.readField.1 = .ok field) :
    (∀ symbol ∈ field.payload, symbol ∈ cursor.symbols) ∧
      cursor.readField.2.symbols = cursor.symbols := by
  unfold readField at succeeded ⊢
  split at succeeded
  · cases succeeded
  rename_i room
  rw [if_neg room]
  split at succeeded
  · rename_i header
    simp only at succeeded ⊢
    split at succeeded
    · cases succeeded
    · rename_i enough
      rw [if_neg enough]
      obtain rfl := Except.ok.inj succeeded
      exact ⟨fun symbol member => List.mem_of_mem_drop (List.mem_of_mem_take member), rfl⟩
  · cases succeeded

/-- The payloads of all fields that are read are made of symbols of the section. -/
theorem payload_of_fields (cursor : Cursor) :
    ∀ field ∈ cursor.fields.1, ∀ symbol ∈ field.payload, symbol ∈ cursor.symbols := by
  fun_induction Cursor.fields cursor with
  | case1 cursor finished =>
    intro field member
    cases member
  | case2 cursor unfinished cause behind failed =>
    intro field member
    cases member
  | case3 cursor unfinished head behind read others trouble rest inductionHypothesis =>
    have headRead : cursor.readField.1 = .ok head := by rw [read]
    obtain ⟨inside, same⟩ := payload_of_readField headRead
    rw [read] at same
    rw [rest] at inductionHypothesis
    intro field member
    rcases List.mem_cons.mp member with rfl | later
    · exact inside
    · intro symbol among
      rw [← same]
      exact inductionHypothesis field later symbol among

/-! ### What was walked over -/

/-- The symbols between a cursor and its end. -/
def ahead (cursor : Cursor) : List Nat :=
  (cursor.symbols.drop cursor.position).take cursor.remaining

/-- A field that is read has been walked over: its spelling stood ahead, and what is ahead
afterwards stood behind it. -/
theorem ahead_of_readField {cursor : Cursor} (small : ∀ symbol ∈ cursor.symbols, symbol < 32)
    (inside : cursor.stop ≤ cursor.symbols.length) {field : Field}
    (succeeded : cursor.readField.1 = .ok field) :
    field.Fits ∧ cursor.ahead = field.spelling ++ cursor.readField.2.ahead ∧
      cursor.readField.2.stop = cursor.stop := by
  by_cases narrow : cursor.remaining < 3
  · rw [readField_of_narrow narrow] at succeeded
    cases succeeded
  obtain ⟨tag, high, low, header⟩ := exists_header inside (Nat.not_lt.mp narrow)
  have digits : ∀ symbol ∈ [tag, high, low], symbol < 32 := fun symbol member =>
    small symbol (List.mem_of_mem_drop (List.mem_of_mem_take (header ▸ member)))
  have highSmall : high < 32 := digits high (by simp)
  have lowSmall : low < 32 := digits low (by simp)
  obtain ⟨known, -, -⟩ := header_digits digits
  rw [readField_of_header (Nat.not_lt.mp narrow) header] at succeeded ⊢
  by_cases few : cursor.remaining < 3 + (32 * high + low)
  · rw [if_pos few] at succeeded
    cases succeeded
  rw [if_neg few] at succeeded ⊢
  obtain rfl := Except.ok.inj succeeded
  have count := length_slice inside (Nat.not_lt.mp few)
  refine ⟨⟨by rw [known]; rfl, by rw [count]; omega⟩, ?_, rfl⟩
  have left : cursor.remaining =
      3 + (32 * high + low + (cursor.advance (3 + (32 * high + low))).remaining) := by
    rw [remaining_advance]
    omega
  rw [spelling_of_header digits count, ahead, left, List.take_add, header, List.take_add,
    List.drop_drop, List.drop_drop, Nat.add_assoc cursor.position 3, List.append_assoc]
  rfl

/-- What has been walked over is the spellings of the fields that were read. -/
theorem Walks.ahead_eq {cursor last : Cursor} {read : List Field} (walks : Walks cursor read last)
    (small : ∀ symbol ∈ cursor.symbols, symbol < 32)
    (inside : cursor.stop ≤ cursor.symbols.length) :
    (∀ field ∈ read, field.Fits) ∧ cursor.ahead = read.flatMap Field.spelling ++ last.ahead ∧
      last.symbols = cursor.symbols ∧ last.stop = cursor.stop := by
  induction walks with
  | stay => exact ⟨by simp, rfl, rfl, rfl⟩
  | @onward cursor behind last field rest unfinished read further inductionHypothesis =>
    have headRead : cursor.readField.1 = .ok field := by rw [read]
    obtain ⟨fits, walked, sameStop⟩ := ahead_of_readField small inside headRead
    obtain ⟨-, sameSymbols⟩ := payload_of_readField headRead
    rw [read] at walked sameStop sameSymbols
    obtain ⟨restFit, spelled, lastSymbols, lastStop⟩ := inductionHypothesis
      (by rw [sameSymbols]; exact small) (by rw [sameStop, sameSymbols]; exact inside)
    refine ⟨List.forall_mem_cons.mpr ⟨fits, restFit⟩, ?_, lastSymbols.trans sameSymbols,
      lastStop.trans sameStop⟩
    rw [walked, spelled, List.flatMap_cons, List.append_assoc]

/-- A section that is read to its end is the spellings of the fields that were read. -/
theorem ahead_of_fields (cursor : Cursor) (small : ∀ symbol ∈ cursor.symbols, symbol < 32)
    (inside : cursor.stop ≤ cursor.symbols.length) {fields : List Field}
    (read : cursor.fields = (fields, none)) :
    (∀ field ∈ fields, field.Fits) ∧ cursor.ahead = fields.flatMap Field.spelling := by
  obtain ⟨last, walks, stops⟩ := fields_eq_iff_walks.mp read
  obtain ⟨fit, spelled, -, -⟩ := walks.ahead_eq small inside
  cases stops with
  | finished nothing =>
    refine ⟨fit, ?_⟩
    rw [spelled, ahead, nothing, List.take_zero, List.append_nil]

/-- A section is read as some fields, with nothing left over, exactly if it is their spellings. -/
theorem fields_eq_iff {symbols : List Nat} (small : ∀ symbol ∈ symbols, symbol < 32)
    {start stop : Nat} (ordered : start ≤ stop) (inside : stop ≤ symbols.length)
    {fields : List Field} :
    (Cursor.mk symbols start stop).fields = (fields, none) ↔
      (∀ field ∈ fields, field.Fits) ∧
        (symbols.take stop).drop start = fields.flatMap Field.spelling := by
  constructor
  · intro read
    obtain ⟨fit, spelled⟩ := ahead_of_fields ⟨symbols, start, stop⟩ small inside read
    refine ⟨fit, ?_⟩
    rw [List.drop_take]
    exact spelled
  · rintro ⟨fit, spelled⟩
    have whole := fields_spellings fit (symbols.take start) (symbols.drop stop)
    have length : (fields.flatMap Field.spelling).length = stop - start := by
      rw [← spelled, List.length_drop, List.length_take]
      omega
    have before : (symbols.take start).length = start := by
      rw [List.length_take]
      omega
    have first : symbols.take start = (symbols.take stop).take start := by
      rw [List.take_take, Nat.min_eq_left ordered]
    have joined : symbols.take start ++ (fields.flatMap Field.spelling ++ symbols.drop stop) =
        symbols := by
      rw [← spelled, ← List.append_assoc, first, List.take_append_drop, List.take_append_drop]
    rwa [joined, before, length, Nat.add_sub_cancel' ordered] at whole

/-! ### Only one way to cut -/

/-- Symbols begin with the spelling of one field at most, and what stands behind it is the same. -/
theorem spelling_append_injective {field other : Field} (fits : field.Fits) (fitsToo : other.Fits)
    {after beyond : List Nat} (same : field.spelling ++ after = other.spelling ++ beyond) :
    field = other ∧ after = beyond := by
  have room : 0 + field.spelling.length ≤ (field.spelling ++ after).length := by
    rw [List.length_append]
    omega
  have roomToo : 0 + other.spelling.length ≤ (field.spelling ++ after).length := by
    rw [same, List.length_append]
    omega
  have read := readField_spelling fits [] after room
  have readToo := readField_spelling fitsToo [] beyond roomToo
  simp only [List.nil_append, List.length_nil] at read readToo
  rw [← same] at readToo
  obtain rfl := Except.ok.inj (congrArg Prod.fst (read.symm.trans readToo))
  exact ⟨rfl, List.append_cancel_left same⟩

/-- Where fewer symbols than those of a tag and a length are left over on both sides, the fields
are the same and so are the leftover symbols. -/
theorem spellings_append_injective {fields others : List Field}
    (fit : ∀ field ∈ fields, field.Fits) (fitToo : ∀ field ∈ others, field.Fits)
    {excess beyond : List Nat} (excessShort : excess.length < 3) (beyondShort : beyond.length < 3)
    (same : fields.flatMap Field.spelling ++ excess = others.flatMap Field.spelling ++ beyond) :
    fields = others ∧ excess = beyond := by
  induction fields generalizing others with
  | nil =>
    cases others with
    | nil => exact ⟨rfl, same⟩
    | cons other rest =>
      have lengths := congrArg List.length same
      simp only [List.flatMap_nil, List.nil_append, List.flatMap_cons, List.length_append,
        Field.length_spelling] at lengths
      omega
  | cons field rest inductionHypothesis =>
    cases others with
    | nil =>
      have lengths := congrArg List.length same
      simp only [List.flatMap_nil, List.nil_append, List.flatMap_cons, List.length_append,
        Field.length_spelling] at lengths
      omega
    | cons other more =>
      rw [List.flatMap_cons, List.flatMap_cons, List.append_assoc, List.append_assoc] at same
      obtain ⟨rfl, behind⟩ := spelling_append_injective (fit field List.mem_cons_self)
        (fitToo other List.mem_cons_self) same
      obtain ⟨rfl, leftover⟩ := inductionHypothesis
        (fun later member => fit later (List.mem_cons_of_mem _ member))
        (fun later member => fitToo later (List.mem_cons_of_mem _ member)) behind
      exact ⟨rfl, leftover⟩

/-! ### Places -/

/-- A section from one place to a later one within the list can be read. -/
theorem over?_eq_some {symbols : List Nat} {start stop : Nat} (ordered : start ≤ stop)
    (inside : stop ≤ symbols.length) : over? symbols start stop = some ⟨symbols, start, stop⟩ := by
  rw [over?, if_pos ⟨Int.natCast_nonneg start, Int.ofNat_le.mpr ordered, Int.ofNat_le.mpr inside⟩]
  rfl

end Cursor

end Bolt11
