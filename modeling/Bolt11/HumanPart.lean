/-
This file holds the human readable part of a payment request: the letters ln, the currency code
of the network, and the amount if there is one.
-/

import Bolt11.Amount

namespace Bolt11.HumanPart

/-- The network and amount that the text after ln stands for, if the first of the candidate
networks that fits it is the right one. A network fits if its code begins the text and is
followed by nothing or by a digit. `whole` is the human readable part that messages quote. -/
def readTail (whole : String) (text : List Char) :
    List Network → Except Invalid (Network × Option Nat)
  | [] => .error (.unknownNetwork whole)
  | network :: others =>
    match text.drop network.currency.length with
    | [] => .ok (network, none)
    | c :: rest =>
      if Amount.isDigit c then
        match Amount.unshorten (String.ofList (c :: rest)) with
        | .ok amount => .ok (network, some amount)
        | .error cause => .error cause
      else readTail whole text others

/-- Reads a human readable part, trying the networks in the given order. -/
def readAmong (candidates : List Network) (humanPart : String) :
    Except Invalid (Network × Option Nat) :=
  match humanPart.toList with
  | 'l' :: 'n' :: tail => readTail humanPart tail (Network.matchingAmong candidates tail)
  | _ => .error .noLightningMark

/-- The network and amount of a human readable part. -/
def read (humanPart : String) : Except Invalid (Network × Option Nat) :=
  readAmong Network.longestFirst humanPart

/-- The human readable part for a network and an amount. -/
def write [Runtime] (network : Network) : Option Int → Except BadValue String
  | none => .ok ("ln" ++ network.currency)
  | some amount =>
    match Amount.shorten amount with
    | .ok short => .ok ("ln" ++ network.currency ++ short)
    | .error cause => .error cause

end Bolt11.HumanPart
