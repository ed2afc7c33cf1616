/-
This file lists everything that can go wrong, by cause, and fixes the wording of each.

The causes fall into families. The first five belong to the invoice itself: an empty text, a
text that is not well formed, an invoice that is well formed but unacceptable, one of the wrong
network, and a request that cannot be rebuilt. Their wording begins with the name of the family.
The others arise in the parts below: values outside their range, numbers that do not fit their
width, missing keys, and the refusals of whoever checks signatures.

A wording may hold numbers of the caller's. If the runtime does not write one of them there is no
wording, and that is the fault instead. Lengths and places are never too long to write.
-/

import Bolt11.Bytes
import Bolt11.Datum
import Bolt11.Network
import Bolt11.Text.Hex
import Bolt11.Text.Utf8

namespace Bolt11

open Text (quoted hexOf)

/-! ### Refusals of a signer -/

/-- Why a signer gives no answer. A signer may be anybody's, and so may its reasons: one may be
without a wording, and one may be no failure but an order to stop that nobody is to handle. -/
inductive Refusal where
  /-- The signer cannot do this at all. -/
  | unsupported
  /-- The signature does not have its form. -/
  | unreadable
  /-- No public key fits the signature. -/
  | noKey
  /-- The recovery number is not one of the four. -/
  | recoveryNumber (number : Int)
  /-- The digest does not have thirty-two octets. -/
  | digestLength (octets : Nat)
  /-- A reason in the signer's own words. -/
  | stated (reason : String)
  /-- A reason that cannot be put into words; whoever tries meets the other refusal. -/
  | unspeakable (other : Refusal)
  /-- An order to stop, by its name. -/
  | stop (name : String)
  deriving DecidableEq, Repr

namespace Refusal

/-- The wording of a refusal. -/
def message : Refusal → String
  | unsupported => ""
  | unreadable => "failed to parse signature"
  | noKey => "failed to recover public key"
  | recoveryNumber number => "recid is " ++ toString number ++ ", but should be 0 <= recid <= 3"
  | digestLength octets => toString octets
  | stated reason => reason
  | unspeakable _ => ""
  | stop _ => ""

/-- The name under which a refusal is reported inside another message. -/
def title : Refusal → String
  | unsupported => "NotImplementedError"
  | unreadable => "Exception"
  | noKey => "InvalidECPointException"
  | recoveryNumber _ => "ValueError"
  | digestLength _ => "AssertionError"
  | stated _ => "ValueError"
  | unspeakable _ => "Exception"
  | stop name => name

/-- The refusal that gets past whoever handles failures and reports them, if one does. -/
def escaping? : Refusal → Option Refusal
  | unspeakable other => some other
  | stop name => some (stop name)
  | _ => none

/-- A refusal as another message reports it: its title and its wording, which stands in quotation
marks unless it is a number. -/
def report (refusal : Refusal) : String :=
  match refusal with
  | unsupported => refusal.title ++ "()"
  | digestLength octets => refusal.title ++ "(" ++ toString octets ++ ")"
  | _ => refusal.title ++ "(" ++ quoted refusal.message ++ ")"

end Refusal

/-! ### Values outside their range -/

/-- A value that is of the right kind but cannot be used. -/
inductive BadValue where
  | notHex (position : Nat)
  | notNumeral (text : String)
  /-- A numeral has more digits than the runtime reads. -/
  | numeralLength (limit digits : Nat)
  /-- A number has more digits than the runtime writes. -/
  | writtenLength (limit : Nat)
  | nodeIdLength (octets : Nat)
  | channelRange (number : Int)
  | channelText (text : String)
  | channelHexLength (text : String)
  | channelLength (octets : Nat)
  | digestLength (octets : Nat)
  | signatureLength (octets : Nat)
  | recoveryByte (octet : Nat)
  | negativeShift
  | notSymbols
  | tooFewValues (values : Nat)
  | settingRead (key kind : String) (value : Datum)
  | settingWrite (key kind : String) (value : Datum)
  | logFilter (filter : String)
  | logLevel (name : String)
  deriving Repr

/-- The wording of a value outside its range. What is no literal is quoted up to two hundred
characters, the quotation marks included. -/
def BadValue.message : BadValue → String
  | notHex position =>
    "non-hexadecimal number found in fromhex() arg at position " ++ toString position
  | notNumeral text =>
    "invalid literal for int() with base 10: " ++ String.ofList ((quoted text).toList.take 200)
  | numeralLength limit digits =>
    "Exceeds the limit (" ++ toString limit ++ " digits) for integer string conversion: " ++
      "value has " ++ toString digits ++
      " digits; use sys.set_int_max_str_digits() to increase the limit"
  | writtenLength limit =>
    "Exceeds the limit (" ++ toString limit ++ " digits) for integer string conversion; " ++
      "use sys.set_int_max_str_digits() to increase the limit"
  | nodeIdLength octets => "src_node_id must be 33 bytes, not " ++ toString octets
  | channelRange number => "short channel id out of range: " ++ toString number
  | channelText text => "failed to parse ShortChannelID: " ++ quoted text
  | channelHexLength text => "short channel id hex must be 16 chars: " ++ quoted text
  | channelLength octets => "short channel id must be 8 bytes, not " ++ toString octets
  | digestLength octets => "hash must be 32 bytes, not " ++ toString octets
  | signatureLength octets => "signature must be 65 bytes, not " ++ toString octets
  | recoveryByte octet => "invalid recovery id " ++ toString octet
  | negativeShift => "negative shift count"
  | notSymbols => "data5 values must be 5-bit integers"
  | tooFewValues values =>
    "not enough values to unpack (expected 3, got " ++ toString values ++ ")"
  | settingRead key kind value =>
    "ConfigVar.get type-check and auto-conversion failed. key=" ++ quoted key ++ ". type=" ++
      kind ++ ". value=" ++ value.print
  | settingWrite key kind value =>
    "ConfigVar.set type-check failed. key=" ++ quoted key ++ ". type=" ++ kind ++ ". value=" ++
      value.print
  | logFilter filter => "invalid log filter: " ++ quoted filter
  | logLevel name => "Unknown level: " ++ quoted name

/-! ### The invoice -/

/-- Why a text is not a well-formed invoice. -/
inductive Malformed where
  | checksum
  | variant
  | tooShort
  | padding
  | cutData (wanted : Nat)
  | cutHeader
  | cutPayload (tag : Char) (wanted : Nat)
  | routeLength (octets : Nat)
  | description (fault : Text.Utf8.Fault)
  deriving DecidableEq, Repr

/-- The wording of a malformation. -/
def Malformed.message : Malformed → String
  | checksum => "Bad bech32 checksum"
  | variant => "Bad bech32 encoding: must be using vanilla BECH32"
  | tooShort => "Too short to contain timestamp and signature"
  | padding => "Invalid padding in tagged field"
  | cutData wanted => "Truncated data: expected " ++ toString wanted ++ " values"
  | cutHeader => "Truncated field"
  | cutPayload tag wanted =>
    "Truncated " ++ tag.toString ++ " field: expected " ++ toString wanted ++ " values"
  | routeLength octets =>
    "Truncated 'r' field: " ++ toString octets ++ " bytes is not a multiple of 51"
  | description fault => "'d' field is not valid utf-8: " ++ fault.message

/-- Why a well-formed invoice is not acceptable. -/
inductive Invalid where
  | noLightningMark
  | amountText (text : String)
  | amountRange (text : String)
  | amountFraction (text : String)
  | unknownNetwork (humanPart : String)
  | payeeKey (key : Bytes)
  | noPaymentHash
  | noPaymentSecret
  | descriptionCount (count : Nat)
  | signature
  | unrecoverable (refusal : Refusal)
  | recoveredKey
  deriving DecidableEq, Repr

/-- The wording of an unacceptable invoice. -/
def Invalid.message : Invalid → String
  | noLightningMark => "Does not start with ln"
  | amountText text => "Invalid amount '" ++ text ++ "'"
  | amountRange text => "amount is out-of-bounds: " ++ quoted text
  | amountFraction text => "Invalid amount '" ++ text ++ "': fractional millisatoshi"
  | unknownNetwork humanPart => "Unknown network in invoice prefix " ++ quoted humanPart
  | payeeKey key => "invalid payee pubkey in 'n' field: " ++ hexOf key
  | noPaymentHash => "missing mandatory field: payment hash ('p')"
  | noPaymentSecret => "missing mandatory field: payment secret ('s')"
  | descriptionCount count =>
    "invoice must contain exactly one 'd' or 'h' field, found " ++ toString count
  | signature => "invalid signature"
  | unrecoverable refusal => "failed to recover payee pubkey from signature: " ++ refusal.report
  | recoveredKey => "recovered payee pubkey is invalid"

/-- Why an invoice does not belong to the network it is held to. -/
inductive WrongNetwork where
  | unknownName (name : String)
  | unknownSetting (name : String)
  | mismatch (found expected : Network)
  deriving DecidableEq, Repr

/-- The wording of a wrong network. -/
def WrongNetwork.message : WrongNetwork → String
  | unknownName name => "Unknown network " ++ quoted name
  | unknownSetting name => "Unknown network " ++ quoted name ++ " in config"
  | mismatch found expected =>
    "Invoice network does not match config: invoice is for " ++ found.name ++ ", expected " ++
      expected.name

/-- Why an invoice has no encoding. -/
inductive Unencodable where
  | fieldLength (tag : String) (values : Nat)
  | negative (number : Int)
  | tooWide (number bits : Int)
  | amount (number : Int)
  | paymentHash
  | paymentSecret
  | descriptionLength (octets : Nat)
  | noDescription
  | payeeKey
  | emptyRoute
  | routeValue (cause : BadValue)
  | routeNumber (cause : Overflow)
  deriving Repr

/-- The wording of a missing encoding. -/
def Unencodable.message : Unencodable → String
  | fieldLength tag values =>
    "'" ++ tag ++ "' field too long: " ++ toString values ++ " values"
  | negative number => "cannot encode negative value " ++ toString number
  | tooWide number bits =>
    "val=" ++ toString number ++ " too big for bit_len=" ++ toString bits
  | amount number => "amount must be positive, not " ++ toString number
  | paymentHash => "payment hash must be 32 bytes"
  | paymentSecret => "payment secret must be 32 bytes"
  | descriptionLength octets => "description too long: " ++ toString octets ++ " bytes"
  | noDescription => "Must include either 'd' or 'h'"
  | payeeKey => "payee pubkey must be 33 bytes"
  | emptyRoute => "route hint without hops"
  | routeValue cause => "cannot encode route hint: " ++ cause.message
  | routeNumber cause => "cannot encode route hint: " ++ cause.message

/-- Why a request cannot be rebuilt from an invoice. -/
inductive Unbuildable where
  | noDescription
  | amount (value : Datum)
  | malformedNode (nodeId : String)
  | invalidNode (nodeId : String)
  | encoding (cause : Unencodable)
  deriving Repr

/-- The wording of a request that cannot be rebuilt. -/
def Unbuildable.message : Unbuildable → String
  | noDescription => "original invoice has no usable description or description hash"
  | amount value => "invalid amount: " ++ value.print ++ " msat"
  | malformedNode nodeId => "route hint hop has malformed src_node_id " ++ quoted nodeId
  | invalidNode nodeId => "route hint hop src_node_id is not a valid public key: " ++ nodeId
  | encoding cause => "cannot re-encode invoice: " ++ cause.message

/-! ### Families of invoice faults -/

/-- The families that the faults of an invoice fall into. -/
inductive Family where
  | invoice
  | emptyInput
  | malformed
  | validation
  | network
  | generic
  deriving DecidableEq, Repr

namespace Family

/-- The name that begins the wording of every fault of the family. -/
def label : Family → String
  | invoice => "Generic"
  | emptyInput => "EmptyInput"
  | malformed => "MalformedEncoding"
  | validation => "Validation"
  | network => "InvalidNetwork"
  | generic => "Generic"

/-- The families that a family is part of, the nearest first. -/
def ancestors : Family → List Family
  | invoice => []
  | network => [validation, invoice]
  | _ => [invoice]

/-- A message under the name of its family; an empty message leaves the name alone. -/
def announce (family : Family) (message : String) : String :=
  if message = "" then family.label else family.label ++ ": " ++ message

end Family

/-! ### Faults -/

/-- A fault of any kind. -/
inductive Fault where
  | emptyInput
  | malformed (cause : Malformed)
  | invalid (cause : Invalid)
  | wrongNetwork (cause : WrongNetwork)
  | unbuildable (cause : Unbuildable)
  | unencodable (cause : Unencodable)
  | badValue (cause : BadValue)
  | overflow (cause : Overflow)
  /-- A text with characters beyond ASCII where only ASCII can be hashed: the first run of them
  and its position. -/
  | notAscii (position : Nat) (run : List Char)
  | missingKey (key : Datum)
  | refused (refusal : Refusal)
  /-- A caller broke a condition that the operation relies on. -/
  | unmetCondition
  /-- A value is of a kind that the operation does not take. -/
  | wrongKind
  /-- A value lacks an operation that its place asks for. -/
  | noSuchOperation
  /-- A place lies outside the list that it counts in. -/
  | noSuchPlace
  /-- A value needs more room than there is. -/
  | noRoom
  deriving Repr

namespace Fault

/-- The wording of characters beyond ASCII: one is quoted, several are named by position. -/
def notAsciiMessage (position : Nat) (run : List Char) : String :=
  let blamed :=
    match run with
    | [c] => "character '" ++ String.ofList (Text.escapedCode c.toNat) ++ "' in position " ++
        toString position
    | _ => "characters in position " ++ toString position ++ "-" ++
        toString (position + run.length - 1)
  "'ascii' codec can't encode " ++ blamed ++ ": ordinal not in range(128)"

/-- The wording of a fault. -/
def message : Fault → String
  | emptyInput => Family.emptyInput.announce "bolt11 is an empty string"
  | malformed cause => Family.malformed.announce cause.message
  | invalid cause => Family.validation.announce cause.message
  | wrongNetwork cause => Family.network.announce cause.message
  | unbuildable cause => Family.generic.announce cause.message
  | unencodable cause => cause.message
  | badValue cause => cause.message
  | overflow cause => cause.message
  | notAscii position run => notAsciiMessage position run
  | missingKey key => key.print
  | refused refusal => refusal.message
  | unmetCondition => ""
  | wrongKind => ""
  | noSuchOperation => ""
  | noSuchPlace => ""
  | noRoom => ""

end Fault

/-! ### Numbers that the runtime does not write -/

section

variable [Runtime]

/-- A number in decimal, if the runtime writes it. -/
def written (number : Int) : Except BadValue String :=
  match Runtime.digitLimit with
  | none => .ok (toString number)
  | some limit =>
    if Runtime.writes number then .ok (toString number) else .error (.writtenLength limit)

/-- Whether the numbers in the wording can be written. -/
def BadValue.isWritable : BadValue → Bool
  | channelRange number => Runtime.writes number
  | settingRead _ _ value => value.isPrintable
  | settingWrite _ _ value => value.isPrintable
  | _ => true

/-- Whether the numbers in the wording can be written. -/
def Malformed.isWritable : Malformed → Bool
  | cutData wanted => Runtime.writes wanted
  | cutPayload _ wanted => Runtime.writes wanted
  | _ => true

/-- Whether the numbers in the wording can be written. -/
def Unencodable.isWritable : Unencodable → Bool
  | negative number => Runtime.writes number
  | tooWide number bits => Runtime.writes number && Runtime.writes bits
  | amount number => Runtime.writes number
  | routeValue cause => cause.isWritable
  | _ => true

/-- Whether the numbers in the wording can be written. -/
def Unbuildable.isWritable : Unbuildable → Bool
  | amount value => value.isPrintable
  | encoding cause => cause.isWritable
  | _ => true

/-- Whether the numbers in the wording can be written. -/
def Fault.isWritable : Fault → Bool
  | malformed cause => cause.isWritable
  | unbuildable cause => cause.isWritable
  | unencodable cause => cause.isWritable
  | badValue cause => cause.isWritable
  | _ => true

/-- What arises when a value outside its range is to be put into words: that, or that a number in
the wording is beyond the limit of the runtime. -/
def BadValue.worded (cause : BadValue) : BadValue :=
  match Runtime.digitLimit with
  | none => cause
  | some limit => if cause.isWritable then cause else .writtenLength limit

/-- What arises when a fault is to be put into words: the fault, or that a number in its wording is
beyond the limit of the runtime. -/
def Fault.worded (fault : Fault) : Fault :=
  match Runtime.digitLimit with
  | none => fault
  | some limit => if fault.isWritable then fault else .badValue (.writtenLength limit)

/-! ### What arises -/

theorem written_of_writes {number : Int} (writable : Runtime.writes number = true) :
    written number = .ok (toString number) := by
  unfold written
  split
  · rfl
  · rw [if_pos writable]

theorem written_of_not_writes {number : Int} (unwritable : Runtime.writes number = false) :
    ∃ limit ∈ Runtime.digitLimit, written number = .error (.writtenLength limit) := by
  cases known : Runtime.digitLimit with
  | none =>
    rw [Runtime.writes_of_unlimited known] at unwritable
    cases unwritable
  | some limit => exact ⟨limit, rfl, by rw [written, known, unwritable]; rfl⟩

section

variable (unlimited : Runtime.digitLimit = none)

include unlimited

theorem BadValue.isWritable_of_unlimited (cause : BadValue) : cause.isWritable = true := by
  cases cause with
  | channelRange number => exact Runtime.writes_of_unlimited unlimited number
  | settingRead _ _ value => exact Datum.isPrintable_of_unlimited unlimited value
  | settingWrite _ _ value => exact Datum.isPrintable_of_unlimited unlimited value
  | _ => rfl

theorem Malformed.isWritable_of_unlimited (cause : Malformed) : cause.isWritable = true := by
  cases cause with
  | cutData wanted => exact Runtime.writes_of_unlimited unlimited wanted
  | cutPayload _ wanted => exact Runtime.writes_of_unlimited unlimited wanted
  | _ => rfl

theorem Unencodable.isWritable_of_unlimited (cause : Unencodable) : cause.isWritable = true := by
  cases cause with
  | negative number => exact Runtime.writes_of_unlimited unlimited number
  | tooWide number bits =>
    rw [isWritable, Runtime.writes_of_unlimited unlimited number,
      Runtime.writes_of_unlimited unlimited bits]
    rfl
  | amount number => exact Runtime.writes_of_unlimited unlimited number
  | routeValue cause => exact BadValue.isWritable_of_unlimited unlimited cause
  | _ => rfl

theorem Unbuildable.isWritable_of_unlimited (cause : Unbuildable) : cause.isWritable = true := by
  cases cause with
  | amount value => exact Datum.isPrintable_of_unlimited unlimited value
  | encoding cause => exact Unencodable.isWritable_of_unlimited unlimited cause
  | _ => rfl

/-- Without a limit every fault can be put into words. -/
theorem Fault.isWritable_of_unlimited (fault : Fault) : fault.isWritable = true := by
  cases fault with
  | malformed cause => exact Malformed.isWritable_of_unlimited unlimited cause
  | unbuildable cause => exact Unbuildable.isWritable_of_unlimited unlimited cause
  | unencodable cause => exact Unencodable.isWritable_of_unlimited unlimited cause
  | badValue cause => exact BadValue.isWritable_of_unlimited unlimited cause
  | _ => rfl

end

namespace Fault

/-- A fault arises as it is if the numbers in its wording can be written. -/
theorem worded_of_isWritable {fault : Fault} (writable : fault.isWritable = true) :
    fault.worded = fault := by
  unfold worded
  split
  · rfl
  · rw [if_pos writable]

theorem worded_of_not_isWritable {fault : Fault} (unwritable : fault.isWritable = false) :
    ∃ limit ∈ Runtime.digitLimit, fault.worded = .badValue (.writtenLength limit) := by
  cases known : Runtime.digitLimit with
  | none =>
    rw [isWritable_of_unlimited known] at unwritable
    cases unwritable
  | some limit => exact ⟨limit, rfl, by rw [worded, known, unwritable]; rfl⟩

end Fault

end

end Bolt11
