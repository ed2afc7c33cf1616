/-
This file proves that a route hint comes back from the wire in its canonical form, and that
whatever is read from the wire has that form.

The wire form has no room for the limits on a forwarded payment, and it holds the octets of a
node id and not the way they were written. What comes back is the hint without the limits and
with the ids written the one way the reader writes them; everything else is as it was. Hints in
canonical form and byte strings of whole hops therefore determine each other.

Writing asks each hop by itself: for thirty-three octets of a node, and for four numbers that have
room. A hint has a wire form exactly if all its hops do, and the first hop that has none says why.
-/

import Bolt11.Proofs.Octets
import Bolt11.Proofs.Outcome
import Bolt11.RouteHint
import Mathlib.Data.List.Forall2

namespace Bolt11

/-- The faults of a hop that has no wire form. -/
inductive Fault.IsOfHop : Fault → Prop
  | badValue (cause : BadValue) : IsOfHop (.badValue cause)
  | overflow (cause : Overflow) : IsOfHop (.overflow cause)

open Fault (IsOfHop)

namespace RouteHop

/-- What the wire keeps of a hop: the limits are gone, and the node id is in plain lower-case
hexadecimal. -/
def canonical (hop : RouteHop) : RouteHop where
  nodeId := (hop.nodeOctets.map Text.hexOf).toOption.getD hop.nodeId
  channel := hop.channel
  baseFee := hop.baseFee
  proportionalFee := hop.proportionalFee
  cltvDelta := hop.cltvDelta
  htlcMinimum := .null
  htlcMaximum := .null

theorem nodeOctets_eq_ok_iff {hop : RouteHop} {node : Bytes} :
    hop.nodeOctets = .ok node ↔ Text.readHex hop.nodeId = .ok node := by
  rw [nodeOctets]
  cases Text.readHex hop.nodeId with
  | ok octets => rw [Except.ok.injEq, Except.ok.injEq]
  | error position =>
    refine iff_of_false ?_ ?_
    · intro read
      cases read
    · intro read
      cases read

/-- The wire keeps the node id of a hop as the octets that it stands for. -/
theorem canonical_eq {hop : RouteHop} {node : Bytes} (read : hop.nodeOctets = .ok node) :
    hop.canonical = { hop with
      nodeId := Text.hexOf node, htlcMinimum := .null, htlcMaximum := .null } := by
  rw [canonical, read]
  rfl

/-- The id of a hop in canonical form is what is written for its octets. -/
theorem nodeId_of_canonical {hop : RouteHop} (canonical : hop.canonical = hop) {node : Bytes}
    (read : hop.nodeOctets = .ok node) : hop.nodeId = Text.hexOf node := by
  rw [← canonical, canonical_eq read]

/-- A number is written as the byte string of the width that stands for it. -/
theorem numberOctets_eq_ok_iff {width : Nat} {number : Int} {octets : Bytes} :
    numberOctets width number = .ok octets ↔
      octets.length = width ∧ ((Bytes.toNat octets : Nat) : Int) = number := by
  rw [← Bytes.ofInt_eq_ok_iff, numberOctets]
  cases Bytes.ofInt width number with
  | ok own => rw [Except.ok.injEq, Except.ok.injEq]
  | error cause =>
    refine iff_of_false ?_ ?_
    · intro written
      cases written
    · intro written
      cases written

/-- A written hop is the octets of its five parts one after the other. -/
theorem toBytes_eq_ok {hop : RouteHop} {octets : Bytes} (written : hop.toBytes = .ok octets) :
    ∃ node channel baseFee proportionalFee cltvDelta,
      octets = node ++ channel ++ baseFee ++ proportionalFee ++ cltvDelta ∧
      (hop.nodeOctets = .ok node ∧ node.length = 33) ∧
      numberOctets 8 hop.channel = .ok channel ∧ numberOctets 4 hop.baseFee = .ok baseFee ∧
      numberOctets 4 hop.proportionalFee = .ok proportionalFee ∧
      numberOctets 2 hop.cltvDelta = .ok cltvDelta := by
  unfold toBytes at written
  split at written
  · cases written
  rename_i node nodeRead
  split at written
  · cases written
  rename_i sized
  obtain ⟨channel, channelMade, written⟩ := bind_eq_ok_iff.mp written
  obtain ⟨baseFee, baseFeeMade, written⟩ := bind_eq_ok_iff.mp written
  obtain ⟨proportionalFee, proportionalFeeMade, written⟩ := bind_eq_ok_iff.mp written
  obtain ⟨cltvDelta, cltvDeltaMade, written⟩ := bind_eq_ok_iff.mp written
  exact ⟨node, channel, baseFee, proportionalFee, cltvDelta, (Except.ok.inj written).symm,
    ⟨nodeRead, not_not.mp sized⟩, channelMade, baseFeeMade, proportionalFeeMade, cltvDeltaMade⟩

/-- A written hop is fifty-one octets, from which its canonical form is read. -/
theorem ofOctets_toBytes {hop : RouteHop} {octets : Bytes} (written : hop.toBytes = .ok octets) :
    octets.length = wireLength ∧ ofOctets octets = hop.canonical := by
  obtain ⟨node, channel, baseFee, proportionalFee, cltvDelta, parts, ⟨nodeRead, nodeSized⟩,
    channelMade, baseFeeMade, proportionalFeeMade, cltvDeltaMade⟩ := toBytes_eq_ok written
  obtain ⟨channelSized, channelValue⟩ := numberOctets_eq_ok_iff.mp channelMade
  obtain ⟨baseFeeSized, baseFeeValue⟩ := numberOctets_eq_ok_iff.mp baseFeeMade
  obtain ⟨proportionalFeeSized, proportionalFeeValue⟩ :=
    numberOctets_eq_ok_iff.mp proportionalFeeMade
  obtain ⟨cltvDeltaSized, cltvDeltaValue⟩ := numberOctets_eq_ok_iff.mp cltvDeltaMade
  simp only [List.append_assoc] at parts
  constructor
  · simp only [parts, List.length_append, nodeSized, channelSized, baseFeeSized,
      proportionalFeeSized, cltvDeltaSized, wireLength]
  · have nodePart : octets.take 33 = node := by
      rw [parts]
      exact List.take_left' nodeSized
    have channelPart : (octets.drop 33).take 8 = channel :=
      Bytes.part_between node channel (baseFee ++ (proportionalFee ++ cltvDelta)) parts nodeSized
        channelSized
    have baseFeePart : (octets.drop 41).take 4 = baseFee :=
      Bytes.part_between (node ++ channel) baseFee (proportionalFee ++ cltvDelta)
        (by rw [parts, List.append_assoc])
        (by rw [List.length_append, nodeSized, channelSized]) baseFeeSized
    have proportionalFeePart : (octets.drop 45).take 4 = proportionalFee :=
      Bytes.part_between (node ++ (channel ++ baseFee)) proportionalFee cltvDelta
        (by simp only [parts, List.append_assoc])
        (by simp only [List.length_append, nodeSized, channelSized, baseFeeSized])
        proportionalFeeSized
    have cltvDeltaPart : (octets.drop 49).take 2 = cltvDelta :=
      Bytes.part_between (node ++ (channel ++ (baseFee ++ proportionalFee))) cltvDelta []
        (by simp only [parts, List.append_assoc, List.append_nil])
        (by simp only [List.length_append, nodeSized, channelSized, baseFeeSized,
          proportionalFeeSized])
        cltvDeltaSized
    simp only [ofOctets, canonical, nodeRead, Except.map, Except.toOption, Option.getD_some,
      ← channelValue, ← baseFeeValue, ← proportionalFeeValue, ← cltvDeltaValue, nodePart,
      channelPart, baseFeePart, proportionalFeePart, cltvDeltaPart]

/-- Whether a hop has a wire form: its node id is thirty-three octets in hexadecimal, and its
numbers are in the range of their widths. -/
structure Fits (hop : RouteHop) : Prop where
  node : ∃ octets, hop.nodeOctets = .ok octets ∧ octets.length = 33
  channel : 0 ≤ hop.channel ∧ hop.channel < 2 ^ 64
  baseFee : 0 ≤ hop.baseFee ∧ hop.baseFee < 2 ^ 32
  proportionalFee : 0 ≤ hop.proportionalFee ∧ hop.proportionalFee < 2 ^ 32
  cltvDelta : 0 ≤ hop.cltvDelta ∧ hop.cltvDelta < 2 ^ 16

theorem exists_numberOctets_iff (width : Nat) {number : Int} :
    (∃ octets, numberOctets width number = .ok octets) ↔ 0 ≤ number ∧ number < 256 ^ width := by
  simp only [numberOctets_eq_ok_iff, ← Bytes.ofInt_eq_ok_iff]
  exact Bytes.exists_ofInt_iff

/-- A hop is written exactly if it has a wire form. -/
theorem exists_toBytes_iff {hop : RouteHop} : (∃ octets, hop.toBytes = .ok octets) ↔ hop.Fits := by
  constructor
  · rintro ⟨octets, written⟩
    obtain ⟨node, channel, baseFee, proportionalFee, cltvDelta, -, nodeRead, channelMade,
      baseFeeMade, proportionalFeeMade, cltvDeltaMade⟩ := toBytes_eq_ok written
    exact ⟨⟨node, nodeRead⟩, (exists_numberOctets_iff 8).mp ⟨channel, channelMade⟩,
      (exists_numberOctets_iff 4).mp ⟨baseFee, baseFeeMade⟩,
      (exists_numberOctets_iff 4).mp ⟨proportionalFee, proportionalFeeMade⟩,
      (exists_numberOctets_iff 2).mp ⟨cltvDelta, cltvDeltaMade⟩⟩
  · rintro ⟨⟨node, nodeRead, sized⟩, channelFits, baseFeeFits, proportionalFeeFits, cltvDeltaFits⟩
    obtain ⟨channel, channelMade⟩ := (exists_numberOctets_iff 8).mpr channelFits
    obtain ⟨baseFee, baseFeeMade⟩ := (exists_numberOctets_iff 4).mpr baseFeeFits
    obtain ⟨proportionalFee, proportionalFeeMade⟩ :=
      (exists_numberOctets_iff 4).mpr proportionalFeeFits
    obtain ⟨cltvDelta, cltvDeltaMade⟩ := (exists_numberOctets_iff 2).mpr cltvDeltaFits
    refine ⟨node ++ channel ++ baseFee ++ proportionalFee ++ cltvDelta, ?_⟩
    rw [toBytes, nodeRead]
    simp only
    rw [if_neg (not_not.mpr sized)]
    refine bind_eq_ok_iff.mpr ⟨_, channelMade, ?_⟩
    refine bind_eq_ok_iff.mpr ⟨_, baseFeeMade, ?_⟩
    refine bind_eq_ok_iff.mpr ⟨_, proportionalFeeMade, ?_⟩
    exact bind_eq_ok_iff.mpr ⟨_, cltvDeltaMade, rfl⟩

theorem failsOnlyWith_numberOctets (width : Nat) (number : Int) :
    FailsOnlyWith IsOfHop (numberOctets width number) := by
  unfold numberOctets
  split
  · exact failsOnlyWith_ok _
  · exact failsOnlyWith_error (.overflow _)

/-- A hop without a wire form, whatever its node id and its numbers are. -/
theorem failsOnlyWith_toBytes (hop : RouteHop) : FailsOnlyWith IsOfHop hop.toBytes := by
  unfold toBytes
  split
  · exact failsOnlyWith_error (.badValue _)
  split
  · exact failsOnlyWith_error (.badValue _)
  refine failsOnlyWith_bind (failsOnlyWith_numberOctets _ _) fun channel _ => ?_
  refine failsOnlyWith_bind (failsOnlyWith_numberOctets _ _) fun baseFee _ => ?_
  refine failsOnlyWith_bind (failsOnlyWith_numberOctets _ _) fun proportionalFee _ => ?_
  refine failsOnlyWith_bind (failsOnlyWith_numberOctets _ _) fun cltvDelta _ => ?_
  exact failsOnlyWith_ok _

/-! ### What was read -/

theorem nodeOctets_ofOctets (octets : Bytes) :
    (ofOctets octets).nodeOctets = .ok (octets.take 33) := by
  simp only [nodeOctets, ofOctets, Text.readHex_hexOf]

theorem canonical_ofOctets (octets : Bytes) : (ofOctets octets).canonical = ofOctets octets := by
  rw [canonical, nodeOctets_ofOctets]
  rfl

/-- A hop that is read from fifty-one octets is written as these octets. -/
theorem toBytes_ofOctets {octets : Bytes} (sized : octets.length = wireLength) :
    (ofOctets octets).toBytes = .ok octets := by
  have cut (start width : Nat) : octets.drop start =
      (octets.drop start).take width ++ octets.drop (start + width) := by
    rw [← List.drop_drop, List.take_append_drop]
  have size (start width : Nat) (inside : start + width ≤ 51) :
      ((octets.drop start).take width).length = width := by
    rw [List.length_take, List.length_drop, sized, wireLength]
    omega
  have part (start width : Nat) (inside : start + width ≤ 51) :
      numberOctets width (Bytes.toNat ((octets.drop start).take width) : Nat) =
        .ok ((octets.drop start).take width) :=
    numberOctets_eq_ok_iff.mpr ⟨size start width inside, rfl⟩
  have node : (octets.take 33).length = 33 := size 0 33 (by decide)
  have channel := part 33 8 (by decide)
  have baseFee := part 41 4 (by decide)
  have proportionalFee := part 45 4 (by decide)
  have cltvDelta := part 49 2 (by decide)
  have nothing : octets.drop 51 = [] := List.drop_of_length_le (Nat.le_of_eq sized)
  have parts : octets = octets.take 33 ++ (octets.drop 33).take 8 ++ (octets.drop 41).take 4 ++
      (octets.drop 45).take 4 ++ (octets.drop 49).take 2 := by
    simp only [List.append_assoc]
    rw [← List.append_nil ((octets.drop 49).take 2), ← nothing, ← cut 49 2, ← cut 45 4, ← cut 41 4,
      ← cut 33 8, List.take_append_drop]
  rw [toBytes, nodeOctets_ofOctets]
  simp only
  rw [if_neg (not_not.mpr node)]
  refine bind_eq_ok_iff.mpr ⟨_, channel, ?_⟩
  refine bind_eq_ok_iff.mpr ⟨_, baseFee, ?_⟩
  refine bind_eq_ok_iff.mpr ⟨_, proportionalFee, ?_⟩
  refine bind_eq_ok_iff.mpr ⟨_, cltvDelta, ?_⟩
  exact congrArg Except.ok parts.symm

end RouteHop

namespace RouteHint

/-- What the wire keeps of a hint. -/
def canonical (hint : RouteHint) : RouteHint := ⟨hint.hops.map RouteHop.canonical⟩

/-- Written hops are read one after the other. -/
theorem hopsOf_flatten {hops : List RouteHop} {pieces : List Bytes}
    (written : hops.mapM RouteHop.toBytes = .ok pieces) :
    pieces.flatten.length = RouteHop.wireLength * hops.length ∧
      hopsOf hops.length pieces.flatten = hops.map RouteHop.canonical := by
  induction hops generalizing pieces with
  | nil =>
    obtain rfl := mapM_nil_eq_ok_iff.mp written
    exact ⟨rfl, rfl⟩
  | cons hop rest inductionHypothesis =>
    obtain ⟨piece, pieces, pieceMade, piecesMade, rfl⟩ := mapM_cons_eq_ok_iff.mp written
    obtain ⟨sized, read⟩ := RouteHop.ofOctets_toBytes pieceMade
    obtain ⟨restSized, restRead⟩ := inductionHypothesis piecesMade
    constructor
    · rw [List.flatten_cons, List.length_append, sized, restSized, List.length_cons]
      ring
    · rw [List.flatten_cons, List.length_cons, hopsOf, ← sized, List.take_left, List.drop_left,
        read, restRead, List.map_cons]

/-- A written hint is whole hops, from which its canonical form is read. -/
theorem ofBytes_toBytes {hint : RouteHint} {octets : Bytes} (written : hint.toBytes = .ok octets) :
    octets.length = RouteHop.wireLength * hint.hops.length ∧
      ofBytes octets = .ok hint.canonical := by
  obtain ⟨pieces, piecesMade, joined⟩ := bind_eq_ok_iff.mp written
  obtain rfl := Except.ok.inj joined
  obtain ⟨sized, read⟩ := hopsOf_flatten piecesMade
  refine ⟨sized, ?_⟩
  have count : pieces.flatten.length / RouteHop.wireLength = hint.hops.length := by
    rw [sized, Nat.mul_div_cancel_left _ (by decide)]
  rw [ofBytes, if_pos (by rw [sized, Nat.mul_mod_right]), count, read, canonical]

/-- Hops that are read one after the other are in canonical form and are written as what they were
read from. -/
theorem toBytes_hopsOf {count : Nat} {octets : Bytes}
    (sized : octets.length = RouteHop.wireLength * count) :
    (⟨hopsOf count octets⟩ : RouteHint).toBytes = .ok octets ∧
      (hopsOf count octets).map RouteHop.canonical = hopsOf count octets := by
  induction count generalizing octets with
  | zero =>
    obtain rfl := List.eq_nil_of_length_eq_zero sized
    exact ⟨rfl, rfl⟩
  | succ count inductionHypothesis =>
    have first : (octets.take RouteHop.wireLength).length = RouteHop.wireLength := by
      rw [List.length_take, sized]
      exact Nat.min_eq_left (Nat.le_mul_of_pos_right _ (Nat.succ_pos count))
    have others : (octets.drop RouteHop.wireLength).length = RouteHop.wireLength * count := by
      rw [List.length_drop, sized, Nat.mul_succ, Nat.add_sub_cancel]
    obtain ⟨written, canonical⟩ := inductionHypothesis others
    obtain ⟨pieces, made, joined⟩ := bind_eq_ok_iff.mp written
    constructor
    · refine bind_eq_ok_iff.mpr ⟨octets.take RouteHop.wireLength :: pieces, ?_, ?_⟩
      · exact mapM_cons_eq_ok_iff.mpr
          ⟨_, pieces, RouteHop.toBytes_ofOctets first, made, rfl⟩
      · have rest : pieces.flatten = octets.drop RouteHop.wireLength := Except.ok.inj joined
        show Except.ok _ = _
        rw [List.flatten_cons, rest, List.take_append_drop]
    · rw [hopsOf, List.map_cons, RouteHop.canonical_ofOctets, canonical]

/-- A byte string is read as a hint exactly if the hint is in canonical form and is written as that
byte string. -/
theorem ofBytes_eq_ok_iff {octets : Bytes} {hint : RouteHint} :
    ofBytes octets = .ok hint ↔ hint.toBytes = .ok octets ∧ hint.canonical = hint := by
  constructor
  · intro read
    unfold ofBytes at read
    split at read
    · rename_i whole
      obtain rfl := Except.ok.inj read
      have sized := (Nat.mul_div_cancel' (Nat.dvd_of_mod_eq_zero whole)).symm
      obtain ⟨written, canonical⟩ := toBytes_hopsOf sized
      exact ⟨written, congrArg RouteHint.mk canonical⟩
    · cases read
  · rintro ⟨written, canonical⟩
    obtain ⟨-, read⟩ := ofBytes_toBytes written
    rw [read, canonical]

/-- A byte string is the wire form of some hint exactly if it is whole hops. -/
theorem exists_toBytes_eq_iff {octets : Bytes} :
    (∃ hint : RouteHint, hint.toBytes = .ok octets ∧ hint.canonical = hint) ↔
      RouteHop.wireLength ∣ octets.length := by
  simp only [← ofBytes_eq_ok_iff]
  unfold ofBytes
  by_cases whole : octets.length % RouteHop.wireLength = 0
  · rw [if_pos whole]
    exact iff_of_true ⟨_, rfl⟩ (Nat.dvd_of_mod_eq_zero whole)
  · rw [if_neg whole]
    refine iff_of_false ?_ fun divides => whole (Nat.mod_eq_zero_of_dvd divides)
    rintro ⟨hint, read⟩
    cases read

/-- A hint is written exactly if each of its hops has a wire form. -/
theorem exists_toBytes_iff {hint : RouteHint} :
    (∃ octets, hint.toBytes = .ok octets) ↔ ∀ hop ∈ hint.hops, hop.Fits := by
  simp only [← RouteHop.exists_toBytes_iff, ← exists_mapM_iff]
  constructor
  · rintro ⟨octets, written⟩
    obtain ⟨pieces, made, -⟩ := bind_eq_ok_iff.mp written
    exact ⟨pieces, made⟩
  · rintro ⟨pieces, made⟩
    exact ⟨pieces.flatten, bind_eq_ok_iff.mpr ⟨pieces, made, rfl⟩⟩

theorem failsOnlyWith_toBytes (hint : RouteHint) : FailsOnlyWith IsOfHop hint.toBytes := by
  unfold toBytes
  exact failsOnlyWith_bind (failsOnlyWith_mapM fun hop _ => hop.failsOnlyWith_toBytes)
    fun pieces _ => failsOnlyWith_ok pieces.flatten

/-- Whole hops on the wire and hints determine each other as far as the wire goes. A byte string of
whole hops is read as a hint, and the hint is written as that byte string. A hint is written exactly
if each of its hops has a wire form; otherwise one of its values is bad or has no room. What is
written is fifty-one octets for each hop, and what is read from them is the hint without limits and
with each node id in plain lower-case hexadecimal. -/
theorem ofBytes_inverts_toBytes :
    (∀ octets : Bytes, 51 ∣ octets.length →
      ∃ hint, ofBytes octets = .ok hint ∧ hint.toBytes = .ok octets) ∧
    ∀ hint : RouteHint,
      ((∃ octets, hint.toBytes = .ok octets) ↔ ∀ hop ∈ hint.hops, hop.Fits) ∧
      (∀ fault, hint.toBytes = .error fault → IsOfHop fault) ∧
      ∀ octets, hint.toBytes = .ok octets →
        octets.length = 51 * hint.hops.length ∧
        ∃ hops, ofBytes octets = .ok ⟨hops⟩ ∧
          List.Forall₂ (fun hop own => ∃ node, hop.nodeOctets = .ok node ∧
            own = { hop with
              nodeId := Text.hexOf node, htlcMinimum := .null, htlcMaximum := .null })
            hint.hops hops := by
  refine ⟨fun octets whole => ?_, fun hint =>
    ⟨exists_toBytes_iff, failsOnlyWith_toBytes hint, fun octets written => ?_⟩⟩
  · obtain ⟨hint, written, canonical⟩ := exists_toBytes_eq_iff.mpr whole
    exact ⟨hint, ofBytes_eq_ok_iff.mpr ⟨written, canonical⟩, written⟩
  · obtain ⟨sized, read⟩ := ofBytes_toBytes written
    have fits := exists_toBytes_iff.mp ⟨octets, written⟩
    refine ⟨sized, _, read, List.forall₂_map_right_iff.mpr (List.forall₂_same.mpr ?_)⟩
    intro hop member
    obtain ⟨node, nodeRead, -⟩ := (fits hop member).node
    exact ⟨node, nodeRead, RouteHop.canonical_eq nodeRead⟩

/-- A hint over two hops whose ids are written in capitals and with a blank. -/
theorem ofBytes_inverts_toBytes_two_hops :
    let node : Bytes := List.replicate 33 10
    let own : RouteHop := ⟨"0A " ++ Text.hexOf (List.replicate 32 10), 2 ^ 64 - 1, 2, 3, 4, .int 5,
      .null⟩
    let hint : RouteHint := ⟨[own, own]⟩
    (∀ hop ∈ hint.hops, hop.Fits) ∧ ∃ octets hops, hint.toBytes = .ok octets ∧
      octets.length = 102 ∧ ofBytes octets = .ok ⟨hops⟩ ∧
      hops = List.replicate 2 { own with nodeId := Text.hexOf node, htlcMinimum := .null } ∧
      51 ∣ octets.length ∧ (⟨hops⟩ : RouteHint).toBytes = .ok octets := by
  intro node own hint
  have isNode : own.nodeOctets = .ok node := RouteHop.nodeOctets_eq_ok_iff.mpr (by decide +kernel)
  have ownFits : own.Fits := ⟨⟨node, isNode, rfl⟩, by decide, by decide, by decide, by decide⟩
  have fits : ∀ hop ∈ hint.hops, hop.Fits := fun hop member => by
    obtain rfl : hop = own := by simpa [hint] using member
    exact ownFits
  obtain ⟨written, -, read⟩ := ofBytes_inverts_toBytes.2 hint
  obtain ⟨octets, made⟩ := written.mpr fits
  obtain ⟨sized, hops, isRead, kept⟩ := read octets made
  have whole : 51 ∣ octets.length := ⟨2, sized⟩
  obtain ⟨other, otherRead, otherWritten⟩ := ofBytes_inverts_toBytes.1 octets whole
  obtain rfl := Except.ok.inj (isRead.symm.trans otherRead)
  refine ⟨fits, octets, hops, made, sized, isRead, ?_, whole, otherWritten⟩
  cases kept with
  | cons first rest =>
    cases rest with
    | cons second none_left =>
      cases none_left
      obtain ⟨firstNode, firstRead, rfl⟩ := first
      obtain ⟨secondNode, secondRead, rfl⟩ := second
      obtain rfl := Except.ok.inj (isNode.symm.trans firstRead)
      obtain rfl := Except.ok.inj (isNode.symm.trans secondRead)
      rfl

end RouteHint

end Bolt11
