import SmartAccount.Numeral
/-!
# Labels in Punycode

A label in ASCII can stand for one with other letters: behind the letters that it shares with
it, digits of base 36 say which letters to insert where. The decoder is a fold over the digits.
-/

namespace SmartAccount.Url.Punycode

/-- The value of a digit: letters come before the decimal digits. -/
def digit? (c : Char) : Option Nat :=
  if 'a' ≤ c ∧ c ≤ 'z' then some (c.toNat - 97)
  else if 'A' ≤ c ∧ c ≤ 'Z' then some (c.toNat - 65)
  else if '0' ≤ c ∧ c ≤ '9' then some (c.toNat - 48 + 26)
  else none

/-- Where a digit is the last one of a number. -/
def threshold (place bias : Nat) : Nat :=
  if place ≤ bias then 1 else if bias + 26 ≤ place then 26 else place - bias

/-- Scales a delta down and counts the places that takes. -/
def scaleDown (delta place : Nat) : Nat × Nat :=
  if 455 < delta then scaleDown (delta / 35) (place + 36) else (delta, place)
termination_by delta

/-- The bias after a delta. -/
def adapt (delta count : Nat) (isFirst : Bool) : Nat :=
  let delta := if isFirst then delta / 700 else delta / 2
  let (delta, place) := scaleDown (delta + delta / count) 0
  place + 36 * delta / (delta + 38)

/-- A decoder between two digits. -/
structure Decoder where
  code : Nat := 128
  /-- Where the last insertion ended. -/
  start : Nat := 0
  /-- The number that is being read, added to `start`. -/
  index : Nat := 0
  weight : Nat := 1
  place : Nat := 36
  bias : Nat := 72
  letters : List Char

/-- Reads one digit. The last digit of a number inserts a letter. -/
def Decoder.read? (d : Decoder) (c : Char) : Option Decoder := do
  let digit ← digit? c
  let index := d.index + digit * d.weight
  let limit := threshold d.place d.bias
  if digit < limit then
    let count := d.letters.length + 1
    let code := d.code + index / count
    if code.isValidChar then
      let position := index % count
      return {
        code := code, start := position + 1, index := position + 1
        bias := adapt (index - d.start) count (d.start = 0)
        letters := d.letters.take position ++ Char.ofNat code :: d.letters.drop position }
    else none
  else return { d with index := index, weight := d.weight * (36 - limit), place := d.place + 36 }

/-- The label that the text after the marker stands for. Its last hyphen ends the shared
letters. -/
def decode? (text : List Char) : Option (List Char) := do
  let digits := (text.reverse.takeWhile (· ≠ '-')).reverse
  let shared := (text.take (text.length - digits.length)).dropLast
  let d ← digits.foldlM Decoder.read? { letters := shared }
  if d.place = 36 then some d.letters else none

end SmartAccount.Url.Punycode
