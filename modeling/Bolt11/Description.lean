/-
This file holds the description of what a request asks payment for: in the clear, or as the hash
of a text that the parties exchange elsewhere.
-/

import Bolt11.Datum.Reading

namespace Bolt11

/-- The hash of a description that is told elsewhere: thirty-two octets. -/
structure DescriptionHash where
  octets : Bytes
  sized : octets.length = 32
  deriving DecidableEq, Repr

/-- A description. A stored value that is not a text is kept, but has no encoding. -/
inductive Description where
  | plain (text : String)
  | hashed (digest : DescriptionHash)
  | unread (value : Datum)
  deriving BEq, Repr

namespace Description

/-- The description with the given hash, which has to have thirty-two octets. -/
def ofDigest (digest : Bytes) : Except BadValue Description :=
  if sized : digest.length = 32 then .ok (hashed ⟨digest, sized⟩)
  else .error (.digestLength digest.length)

/-- The description whose hash is written in hexadecimal. -/
def ofHex (value : Datum) : Except Fault Description :=
  match value.toBytes with
  | .error fault => .error fault
  | .ok digest =>
    match ofDigest digest with
    | .ok description => .ok description
    | .error cause => .error (.badValue cause)

/-- The description of a stored invoice. One in the clear goes before a hash. -/
def ofDatum (document : Datum) : Except Fault (Option Description) := do
  match ← document.optional "description" with
  | .text text => return some (plain text)
  | .null =>
    match ← document.optional "description_hash" with
    | .null => return none
    | value => return some (← ofHex value)
  | value => return some (unread value)

/-- The text of a description in the clear. -/
def text : Option Description → Datum
  | some (plain text) => .text text
  | some (unread value) => value
  | _ => .null

/-- The hash of a hashed description. -/
def digest : Option Description → Datum
  | some (hashed digest) => .text (Text.hexOf digest.octets)
  | _ => .null

end Description

end Bolt11
