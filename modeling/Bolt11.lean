import Bolt11.Amount
import Bolt11.Bech32
import Bolt11.Bech32.Integers
import Bolt11.Bytes
import Bolt11.ChannelId
import Bolt11.Datum
import Bolt11.Datum.Reading
import Bolt11.Decimal
import Bolt11.Description
import Bolt11.Fault
import Bolt11.Field
import Bolt11.Fraction
import Bolt11.HumanPart
import Bolt11.Invoice
import Bolt11.Invoice.Rebuilt
import Bolt11.Invoice.Stored
import Bolt11.Invoice.Unsigned
import Bolt11.Invoice.Wire
import Bolt11.Journal
import Bolt11.Network
import Bolt11.Proofs.Acceptance
import Bolt11.Proofs.Agreement
import Bolt11.Proofs.Amount
import Bolt11.Proofs.AmountLimit
import Bolt11.Proofs.Authenticity
import Bolt11.Proofs.Bech32
import Bolt11.Proofs.Bits
import Bolt11.Proofs.Bursts
import Bolt11.Proofs.Canonical
import Bolt11.Proofs.ChannelId
import Bolt11.Proofs.Checksum
import Bolt11.Proofs.Console
import Bolt11.Proofs.Contents
import Bolt11.Proofs.CursorRuns
import Bolt11.Proofs.Decimal
import Bolt11.Proofs.Decoding
import Bolt11.Proofs.Encodable
import Bolt11.Proofs.Encoding
import Bolt11.Proofs.EncodingFaults
import Bolt11.Proofs.ExpectedNetwork
import Bolt11.Proofs.Framing
import Bolt11.Proofs.Grammar
import Bolt11.Proofs.HumanPart
import Bolt11.Proofs.LetterCase
import Bolt11.Proofs.Meaning
import Bolt11.Proofs.Merging
import Bolt11.Proofs.MergingRuns
import Bolt11.Proofs.Numerals
import Bolt11.Proofs.Octets
import Bolt11.Proofs.Outcome
import Bolt11.Proofs.Parsing
import Bolt11.Proofs.Payload
import Bolt11.Proofs.Presentation
import Bolt11.Proofs.ReadingFaults
import Bolt11.Proofs.Rebuildable
import Bolt11.Proofs.Rebuilding
import Bolt11.Proofs.RebuildingFaults
import Bolt11.Proofs.RecoveryOctet
import Bolt11.Proofs.Regrouping
import Bolt11.Proofs.RestoredFaults
import Bolt11.Proofs.RoundTrip
import Bolt11.Proofs.RouteHint
import Bolt11.Proofs.Secp256k1.Keys
import Bolt11.Proofs.Secp256k1.Order
import Bolt11.Proofs.Secp256k1.Points
import Bolt11.Proofs.Secp256k1.Powers
import Bolt11.Proofs.Secp256k1.Recovery
import Bolt11.Proofs.Sections
import Bolt11.Proofs.ShortestAmount
import Bolt11.Proofs.Signature
import Bolt11.Proofs.SignedMessage
import Bolt11.Proofs.Storing
import Bolt11.Proofs.Symbols
import Bolt11.Proofs.Utf8
import Bolt11.Proofs.WellFormed
import Bolt11.Proofs.Widths
import Bolt11.Regroup
import Bolt11.RouteHint
import Bolt11.RouteHint.Merging
import Bolt11.Runtime
import Bolt11.Secp256k1
import Bolt11.Settings
import Bolt11.Sha256
import Bolt11.Signature
import Bolt11.Symbols
import Bolt11.Symbols.Integers
import Bolt11.Tape
import Bolt11.Text.Blank
import Bolt11.Text.Cased
import Bolt11.Text.DecimalDigit
import Bolt11.Text.Hex
import Bolt11.Text.LetterCase
import Bolt11.Text.Numeral
import Bolt11.Text.Quoted
import Bolt11.Text.Split
import Bolt11.Text.Utf8
import Bolt11.Text.Visible
import Bolt11.Trace
