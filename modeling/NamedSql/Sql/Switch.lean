import NamedSql.Sql.Numeral
import NamedSql.Sql.Token

/-!
# Switches

Settings are switched on and off by words and by numbers, and only the number that a text starts
with counts. A number has a byte: if its lowest eight bits are zero, it switches the setting off,
and so does one that is too big to be read.

## Main definitions

* `Switch.number` — the number that a text starts with
* `Switch.isOn` — whether a text switches a setting on

## Main results

* `Switch.number_lt` — numbers that are read have thirty-one bits
-/

namespace NamedSql.Sql.Switch

/-- A number that is small enough, or else zero, as too large a number counts. -/
def limited (n : Nat) : Nat := if n < 1 <<< 31 then n else 0

/-- The number that a text starts with, in decimal digits, or in hexadecimal ones behind their
mark. -/
def number (s : List Char) : Nat :=
  match s with
  | '0' :: x :: rest =>
    let digits := rest.takeWhile Token.isHexDigit
    if (x == 'x' || x == 'X') && !digits.isEmpty then limited (Token.hexValue digits)
    else limited (digitsValue (s.takeWhile Token.isDigit) 0)
  | _ => limited (digitsValue (s.takeWhile Token.isDigit) 0)

/-- Whether a text switches a setting on: by a number that is not zero in its last byte, or by one
of three words. -/
def isOn (text : String) : Bool :=
  if text.toList.head?.any Token.isDigit then number text.toList % 256 != 0
  else ["on", "yes", "true"].contains (Token.fold text)

theorem limited_lt (n : Nat) : limited n < 1 <<< 31 := by
  unfold limited
  split
  · assumption
  · decide

theorem number_lt (s : List Char) : number s < 1 <<< 31 := by
  unfold number
  split
  · dsimp only
    split <;> exact limited_lt _
  · exact limited_lt _

end NamedSql.Sql.Switch
