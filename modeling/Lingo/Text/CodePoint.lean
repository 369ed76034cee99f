/-!
# Code points in strings

Text is a sequence of code points, and a code point may be a lone surrogate (U+D800 to U+DFFF),
which a `String` cannot hold. Text is therefore held in a `String` under a prefix code that changes
only the top of the code space:

* a lone surrogate `s` is the character `U+10F800 + (s - 0xD800)`, one of the last 2048;
* a code point among those last 2048, or the escape `U+10F7FF` itself, is the escape followed by
  that code point;
* every other code point is itself.

No word of the code is a prefix of another, so joining strings joins the sequences they hold, and
equal strings hold equal sequences. `codePoints` reads the sequence back; the length of a text,
the order of texts and the quoting of a text are taken from it. All other characters, the ASCII
ones among them, stand for themselves, so a search for an ASCII character needs no decoding.
-/

namespace Lingo.Text

/-- The first code point that carries a lone surrogate. -/
def carrierBase : Nat := 0x10F800

/-- The code point of the escape that marks a carrier standing for itself. -/
def escapePoint : Nat := 0x10F7FF

/-- Whether a code point is a surrogate. -/
def isSurrogate (n : Nat) : Bool := 0xD800 ≤ n && n < 0xE000

/-- The characters that hold code point `n`. -/
def encodePoint (n : Nat) : List Char :=
  if isSurrogate n then [Char.ofNat (carrierBase + (n - 0xD800))]
  else if escapePoint ≤ n then [Char.ofNat escapePoint, Char.ofNat n]
  else [Char.ofNat n]

/-- The string that holds a sequence of code points. -/
def ofCodePoints (ns : List Nat) : String := String.ofList (ns.flatMap encodePoint)

/-- Appends code point `n` to a string. -/
def pushPoint (s : String) (n : Nat) : String := (encodePoint n).foldl String.push s

/-- The code points that a list of characters holds. -/
def decodePoints : List Char → List Nat
  | [] => []
  | c :: cs =>
      if c.toNat = escapePoint then
        match cs with
        | d :: rest => d.toNat :: decodePoints rest
        | [] => [c.toNat]
      else if carrierBase ≤ c.toNat then (c.toNat - carrierBase + 0xD800) :: decodePoints cs
      else c.toNat :: decodePoints cs

/-- The code points a string holds. -/
def codePoints (s : String) : List Nat := decodePoints s.toList

/-- The number of code points a string holds. -/
def codeLength (s : String) : Nat := (codePoints s).length

/-- Compares sequences of code points lexicographically. -/
def lexCompare : List Nat → List Nat → Ordering
  | [], [] => .eq
  | [], _ :: _ => .lt
  | _ :: _, [] => .gt
  | a :: as, b :: bs =>
      match compare a b with
      | .eq => lexCompare as bs
      | o => o

/-- Compares texts by their code points. -/
def compareText (a b : String) : Ordering := lexCompare (codePoints a) (codePoints b)

/-- Whether a text comes before or equals another in code-point order. -/
def textLe (a b : String) : Bool := compareText a b != .gt

/-- Whether the code points `p` occur together in `s`. -/
def occursIn (p : List Nat) : List Nat → Bool
  | [] => p.isEmpty
  | c :: cs => p.isPrefixOf (c :: cs) || occursIn p cs

/-- A character below the escape holds itself. -/
theorem encodePoint_of_lt (n : Nat) (hs : isSurrogate n = false) (h : n < escapePoint) :
    encodePoint n = [Char.ofNat n] := by
  simp [encodePoint, hs, Nat.not_le.mpr h]

end Lingo.Text
