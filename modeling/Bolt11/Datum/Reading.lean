/-
This file reads values out of documents, with the faults that arise when a value is missing or of
the wrong kind.
-/

import Bolt11.Fault

namespace Bolt11.Datum

/-- The value under a key that has to be there. Only an object has keys. -/
def require (document : Datum) (key : String) : Except Fault Datum :=
  match document with
  | object entries =>
    match lookup key entries with
    | some value => .ok value
    | none => .error (.missingKey (.text key))
  | _ => .error .wrongKind

/-- The value under a key, or null if there is none. Only an object can be asked. -/
def optional (document : Datum) (key : String) : Except Fault Datum :=
  match document with
  | object entries => .ok (ofOption (lookup key entries))
  | _ => .error .noSuchOperation

/-- The value under a key, or the given one if there is none. Only an object can be asked. -/
def optionalOr (document : Datum) (key : String) (default : Datum) : Except Fault Datum :=
  match document with
  | object entries => .ok ((lookup key entries).getD default)
  | _ => .error .noSuchOperation

/-- The items of a value that has any: those of a list, the characters of a text, the keys of an
object. -/
def items : Datum → Except Fault (List Datum)
  | list values => .ok values
  | text value => .ok (value.toList.map fun c => .text (String.singleton c))
  | object entries => .ok (entries.map fun entry => .text entry.1)
  | _ => .error .wrongKind

/-- A value as an integer. A fraction is dropped and a text is read as a literal. -/
def toInt [Runtime] : Datum → Except Fault Int
  | bool value => .ok (if value then 1 else 0)
  | int value => .ok value
  | fraction value =>
    match value.truncated? with
    | some number => .ok number
    | none => .error (.overflow .infinite)
  | text value =>
    match Text.readInt value with
    | .ok number => .ok number
    | .error .notLiteral => .error (.badValue (.notNumeral value))
    | .error (.tooLong limit digits) => .error (.badValue (.numeralLength limit digits))
  | _ => .error .wrongKind

/-- A text in hexadecimal as a byte string. -/
def toBytes : Datum → Except Fault Bytes
  | text value =>
    match Text.readHex value with
    | .ok octets => .ok octets
    | .error position => .error (.badValue (.notHex position))
  | _ => .error .wrongKind

end Bolt11.Datum
