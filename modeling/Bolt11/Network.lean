/-
This file lists the networks that a payment request can belong to.

Each network has a name and a currency code; the code follows the letters ln at the head of a
request. One code can begin another (bc begins bcrt, and tb begins tbs), so a reader that looks
for a code at the head of a text tries the long ones first.
-/

namespace Bolt11

/-- A network. -/
inductive Network where
  | mainnet
  | testnet
  | signet
  | regtest
  deriving DecidableEq, Repr, Inhabited

namespace Network

/-- The name under which settings and stored invoices know the network. -/
def name : Network → String
  | mainnet => "mainnet"
  | testnet => "testnet"
  | signet => "signet"
  | regtest => "regtest"

/-- The currency code. -/
def currency : Network → String
  | mainnet => "bc"
  | testnet => "tb"
  | signet => "tbs"
  | regtest => "bcrt"

/-- Whether coins on the network have no value. -/
def isTest : Network → Bool
  | mainnet => false
  | _ => true

/-- All networks, those with long currency codes first. -/
def longestFirst : List Network := [regtest, signet, mainnet, testnet]

/-- The network of the given name. -/
def ofName? (name : String) : Option Network :=
  longestFirst.find? fun network => network.name == name

/-- The networks among `candidates` whose currency code begins a text, in their order. -/
def matchingAmong (candidates : List Network) (text : List Char) : List Network :=
  candidates.filter fun network => network.currency.toList.isPrefixOf text

/-- The networks whose currency code begins a text, those with long codes first. -/
def matching (text : List Char) : List Network := matchingAmong longestFirst text

end Network

end Bolt11
