import SmartAccount.Text.Composition
import SmartAccount.Text.Direction
import SmartAccount.Text.Joining
import SmartAccount.Url.Folding
import SmartAccount.Url.Punycode
/-!
# Labels of a domain

A domain is a list of labels. A label may be written in ASCII although it stands for other
letters. Its letters must be allowed, it must not begin with a mark, and a joiner needs letters
to act on. Where a label is written from right to left, every label of the domain must have one
direction, and begin and end with letters that show it.
-/

namespace SmartAccount.Url

/-- The characters that no host holds. -/
def forbiddenInHost : List Char :=
  ['\x00', '\t', '\n', '\r', ' ', '#', '/', ':', '<', '>', '?', '@', '[', '\\', ']', '^', '|']

/-- Whether an ASCII character is allowed in a domain. -/
def isDomainAscii (c : Char) : Bool :=
  33 ≤ c.toNat && c.toNat < 127 && c ≠ '%' && !(forbiddenInHost.contains c)

/-- Keeps two letters apart that would join. -/
def nonJoiner : Char := '\u200c'

/-- Joins two letters that would not. -/
def joiner : Char := '\u200d'

/-- Whether a character is allowed in a domain. -/
def isDomainChar (c : Char) : Bool :=
  if c.toNat < 128 then isDomainAscii c
  else
    !refusedRanges.contains c && (c = nonJoiner || c = joiner || !Text.isUnprintable c)

/-- Whether the first letter of a text, behind any marks, is one of some kind. -/
def startsWith (isOfKind : Char → Bool) (text : List Char) : Bool :=
  (text.dropWhile Text.isNonspacing).head?.any isOfKind

/-- Whether each joiner of a label stands behind a virama, or keeps apart two letters that would
join. The part of the label before the text is given backwards. -/
def areJoinersAllowed (before : List Char) : List Char → Bool
  | [] => true
  | c :: rest =>
    (c ≠ nonJoiner && c ≠ joiner || before.head?.any Text.isVirama
      || c = nonJoiner && startsWith Text.joinsNext before && startsWith Text.joinsPrevious rest)
    && areJoinersAllowed (c :: before) rest

/-- Whether a label may stand in a domain, directions not counted. -/
def isLabel (label : List Char) : Bool :=
  label.all isDomainChar && !label.head?.any Text.isMark && areJoinersAllowed [] label

/-- The letters that a label stands for. The form in ASCII is only for labels that need it, whose
letters are folded and composed. -/
def labelLetters? (label : List Char) : Option (List Char) :=
  match label with
  | 'x' :: 'n' :: '-' :: '-' :: rest =>
    if rest.all (·.toNat < 128) then
      (Punycode.decode? rest).filter fun letters =>
        letters.all (fun c => isStable c && !isIgnored c) && Text.composed letters = letters
          && letters.any (128 ≤ ·.toNat)
    else none
  | _ => some label

/-- Whether a label has letters or digits that are written from right to left. -/
def isFromRight (label : List Char) : Bool :=
  label.any fun c => Text.direction c = .rightToLeft || Text.direction c = .arabicDigit

/-- Whether a label has one direction and shows it at both ends. One from right to left has
digits of one kind at most. -/
def hasOneDirection (label : List Char) : Bool :=
  match label.map Text.direction with
  | [] => true
  | first :: rest =>
    let last := (rest.reverse.dropWhile (· = .mark)).head?.getD first
    match first with
    | .leftToRight =>
      rest.all (fun d => d ≠ .rightToLeft && d ≠ .arabicDigit)
        && (last = .leftToRight || last = .europeanDigit)
    | .rightToLeft =>
      rest.all (· ≠ .leftToRight) && last ≠ .neutral
        && !(rest.contains .europeanDigit && rest.contains .arabicDigit)
    | _ => false

/-- Whether the labels of a folded domain may stand together. -/
def areLabels (labels : List (List Char)) : Bool :=
  match labels.mapM labelLetters? with
  | none => false
  | some labels =>
    labels.all isLabel && (!labels.any isFromRight || labels.all hasOneDirection)

end SmartAccount.Url
