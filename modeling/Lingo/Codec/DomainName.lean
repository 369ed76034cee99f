import Lingo.Codec.Punycode
import Lingo.Codec.Unicode.Nameprep
import Lingo.Codec.Unicode.Normalize
import Lingo.Text.Quoted

/-!
# Domain names

The domain name codec (RFC 3490, with the nameprep profile of RFC 3491 for queries) writes each
label of a name in ASCII. A name all in ASCII is kept as it is, once every label but the last is
checked to hold 1 to 63 characters and the last fewer than 64. In any other name the labels are
separated by any of four dots, and a final empty label is dropped.

A label all in ASCII is kept. Any other label is prepared: the characters that map to nothing are
dropped, the others are case folded, and the text is normalized to form KC. No character may
then be prohibited, and a label with a right-to-left character may hold no left-to-right one and
must begin and end with a right-to-left character. A prepared label in ASCII is kept; any other
must not begin with `xn--`, and is written as `xn--` followed by its Punycode. Every label written
holds 1 to 63 characters.
-/

namespace Lingo.Codec.DomainName

open Unicode

/-- The case folding map of nameprep. -/
def caseFold : Std.HashMap Nat (List Nat) := readGroups caseFoldGroups

/-- Whether every code point is ASCII. -/
def isAscii (cps : List Nat) : Bool := cps.all (· < 0x80)

/-- The prefix of a label written in Punycode. -/
def acePrefix : List Nat := [0x78, 0x6E, 0x2D, 0x2D]

/-- Prepares a label, or gives the reason it cannot be. -/
def prepare (label : List Nat) : Except String (List Nat) := do
  let mapped := (label.filter (!inRanges mappedToNothing ·)).flatMap fun c => caseFold.getD c [c]
  let normal := nfkc mapped
  if let some n := normal.find? (inRanges prohibited ·) then
    throw ("Invalid character " ++ Text.quote (Text.ofCodePoints [n]))
  if normal.any (inRanges rightToLeft ·) then
    if normal.any (inRanges leftToRight ·) then throw "Violation of BIDI requirement 2"
    if !(inRanges rightToLeft (normal.headD 0) && inRanges rightToLeft (normal.getLastD 0)) then
      throw "Violation of BIDI requirement 3"
  pure normal

/-- Keeps a label of 1 to 63 characters. -/
def checkLength (label : List Nat) : Except String (List Nat) :=
  if 0 < label.length ∧ label.length < 64 then pure label else throw "label empty or too long"

/-- The ASCII form of a label, or the reason it has none. -/
def labelToAscii (label : List Nat) : Except String (List Nat) := do
  if isAscii label then return ← checkLength label
  let prepared ← prepare label
  if isAscii prepared then return ← checkLength prepared
  if acePrefix.isPrefixOf prepared then throw "Label starts with ACE prefix"
  checkLength (acePrefix ++ Punycode.encode prepared)

/-- The characters that separate labels. -/
def isDot (n : Nat) : Bool := n = 0x2E || n = 0x3002 || n = 0xFF0E || n = 0xFF61

/-- The labels of a name: the pieces between its dots. -/
def splitLabels : List Nat → List (List Nat)
  | [] => [[]]
  | n :: ns =>
      if isDot n then [] :: splitLabels ns
      else match splitLabels ns with
        | l :: ls => (n :: l) :: ls
        | [] => [[n]]

/-- Checks the labels of a name all in ASCII: every label before the last holds 1 to 63
characters, and the last fewer than 64. -/
def checkAsciiLabels : List (List Nat) → Except String Unit
  | [] => pure ()
  | [last] => if 64 ≤ last.length then throw "label too long" else pure ()
  | l :: rest =>
      if l.isEmpty ∨ 64 ≤ l.length then throw "label empty or too long"
      else checkAsciiLabels rest

/-- The ASCII form of a name, or the reason it has none. -/
def encode (cps : List Nat) : Except String (List Nat) := do
  if cps.isEmpty then return []
  if isAscii cps then
    checkAsciiLabels (cps.splitOn 0x2E)
    return cps
  let labels := splitLabels cps
  let trailing := labels.getLast? == some []
  let labels := if trailing then labels.dropLast else labels
  let written ← labels.mapM labelToAscii
  pure ((written.intersperse [0x2E]).flatten ++ (if trailing then [0x2E] else []))

theorem encode_nil : encode [] = .ok [] := rfl

end Lingo.Codec.DomainName
