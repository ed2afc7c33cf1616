/-
This file checks the signature of a payment request.

What is signed is the hash of the human readable part followed by the data part, packed into
octets and filled up with zeros. The signature is sixty-four octets and one more that tells which
of up to four keys it belongs to. A request that names the payee's key is checked against that
key; otherwise the key is recovered from the signature.

The curve arithmetic belongs to a signer, and all that is known of a signer is its answers to
three questions. The usual signer puts them to a library for the curve, which may be any; this
development brings one of its own.
-/

import Bolt11.Regroup
import Bolt11.Secp256k1
import Bolt11.Sha256
import Bolt11.Trace

namespace Bolt11

/-! ### Signers -/

/-- The number of octets of a public key. -/
def Signature.keyLength : Nat := 33

/-- What can be asked about keys and signatures. -/
structure Signer where
  verify : (key digest signature : Bytes) → Except Refusal Bool
  recover : (digest signature : Bytes) → (number : Nat) → Except Refusal Bytes
  isPubkey : (key : Bytes) → Except Refusal Bool

namespace Signer

/-- A library for the curve. It reads public keys of several lengths. -/
structure Library where
  readsKey : (key : Bytes) → Bool
  verify : (key digest signature : Bytes) → Bool
  recover : (digest signature : Bytes) → (number : Nat) → Except Refusal Bytes

/-- The signer that puts its questions to a library. A signature verifies no key that is not read,
and only a key of thirty-three octets is a public key. -/
def ofLibrary (library : Library) : Signer where
  verify key digest signature := .ok (library.readsKey key && library.verify key digest signature)
  recover := library.recover
  isPubkey key := .ok (key.length == Signature.keyLength && library.readsKey key)

/-- The library that computes its answers on the curve. -/
def Library.onCurve : Library where
  readsKey key := (Secp256k1.readKey? key).isSome
  verify := Secp256k1.verify
  recover digest signature number := Secp256k1.recover digest signature number

/-- The signer that computes its answers on the curve. -/
def onCurve : Signer := ofLibrary .onCurve

/-- The signer that answers nothing. -/
def silent : Signer where
  verify _ _ _ := .error .unsupported
  recover _ _ _ := .error .unsupported
  isPubkey _ := .error .unsupported

/-- An answer as the outcome of an operation: a refusal is a fault. -/
def answer {α : Type} : Except Refusal α → Except Fault α
  | .ok value => .ok value
  | .error refusal => .error (.refused refusal)

/-- Asks whether a signature is the key owner's. -/
def askVerify (signer : Signer) (key digest signature : Bytes) : Traced Bool :=
  ⟨answer (signer.verify key digest signature), [.asked (.verify key digest signature)]⟩

/-- Asks for the key of a signature; a refusal is an answer like any other. -/
def askRecover (signer : Signer) (digest signature : Bytes) (number : Nat) :
    Traced (Except Refusal Bytes) :=
  ⟨.ok (signer.recover digest signature number), [.asked (.recover digest signature number)]⟩

/-- Asks whether a byte string is a public key. -/
def askIsPubkey (signer : Signer) (key : Bytes) : Traced Bool :=
  ⟨answer (signer.isPubkey key), [.asked (.isPubkey key)]⟩

end Signer

namespace Signature

/-- The number of octets of a signature with its recovery octet. -/
def length : Nat := 65

/-- The number of symbols that a signature takes at the end of the data part. -/
def symbolCount : Nat := 104

/-- The journal of signature checks. -/
def journal : String := "lninvoice.lnsig"

/-! ### Digest -/

/-- The octets of a text in ASCII. -/
def asciiOctets (text : String) : Except Fault Bytes :=
  let characters := text.toList
  match characters.findIdx? fun c => 0x80 ≤ c.toNat with
  | some position =>
    .error (.notAscii position ((characters.drop position).takeWhile fun c => 0x80 ≤ c.toNat))
  | none => .ok (characters.map fun c => UInt8.ofNat c.toNat)

/-- The byte string that is hashed for the signature. -/
def message (humanPart : String) (symbols : List Nat) : Except Fault Bytes :=
  match asciiOctets humanPart with
  | .error fault => .error fault
  | .ok head =>
    match Regroup.run 5 8 true symbols with
    | none => .error .wrongKind
    | some octets => .ok (head ++ octets.map UInt8.ofNat)

/-- The digest that is signed. -/
def digest (humanPart : String) (symbols : List Nat) : Except Fault Bytes :=
  match message humanPart symbols with
  | .error fault => .error fault
  | .ok octets => .ok (Sha256.hash octets)

/-! ### Checking -/

/-- The note that a check leaves. -/
def checkNote (compact digest : Bytes) (number : Nat) : String :=
  "signature data: sig64=" ++ Text.hexOf compact ++ ", recid=" ++ toString number ++
    ", digest=" ++ Text.hexOf digest

/-- The public key that signed a request. The key that the request names, if it names one, is
checked; otherwise the key is recovered. -/
def check (signer : Signer) (humanPart : String) (symbols : List Nat) (signature : Bytes)
    (named : Option Bytes) : Traced Bytes := do
  let digest ← digest humanPart symbols
  if signature.length ≠ length then
    Traced.fail .unmetCondition
  else
    let compact := signature.take 64
    let number := (signature.getD 64 0).toNat
    Traced.note .debug journal (checkNote compact digest number)
    match named with
    | some key =>
      if ← signer.askVerify key digest compact then pure key
      else Traced.fail (.invalid .signature)
    | none =>
      match ← signer.askRecover digest compact number with
      | .error refusal =>
        match refusal.escaping? with
        | some other => Traced.fail (.refused other)
        | none => Traced.fail (.invalid (.unrecoverable refusal))
      | .ok key =>
        if ← signer.askIsPubkey key then pure key
        else Traced.fail (.invalid .recoveredKey)

/-! ### Integers in place of symbols -/

/-- The digest of a list of integers, which have to be symbols. -/
def digestOfInts (humanPart : String) (values : List Int) : Except Fault Bytes :=
  match asciiOctets humanPart with
  | .error fault => .error fault
  | .ok _ =>
    if values.all fun value => decide (0 ≤ value) then digest humanPart (values.map Int.toNat)
    else .error .wrongKind

/-- The public key that signed a list of integers, which have to be symbols. -/
def checkInts (signer : Signer) (humanPart : String) (values : List Int) (signature : Bytes)
    (named : Option Bytes) : Traced Bytes := do
  let _ ← digestOfInts humanPart values
  check signer humanPart (values.map Int.toNat) signature named

end Signature

end Bolt11
