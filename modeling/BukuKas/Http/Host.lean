import BukuKas.Fault
import BukuKas.Http.Percent
import BukuKas.Number.Numeral
import BukuKas.Text.Blank
import BukuKas.Text.Case
import BukuKas.Text.Punycode

/-!
# Hosts of addresses

A host is four numbers with points between them, or up to eight numbers with colons between them in
square brackets, or a name.  A name is written in small letters; characters outside ASCII are
written label by label in ASCII.

## Main results

* `normal_nil` : without a host there is nothing to be wrong.
-/

namespace BukuKas.Http.Host

open Number (natOfDigits)
open Text (Punycode.isAscii Punycode.encode)

/-! ## Four numbers -/

/-- Whether a text is a number, some character, a number and so on, so many characters being left
between numbers; `inside` says whether a digit stands before. -/
def isDotted : (left : Nat) → (inside : Bool) → List Char → Bool
  | left, inside, [] => left == 0 && inside
  | 0, _, c :: cs => c.isDigit && isDotted 0 true cs
  | left + 1, inside, c :: cs =>
    (c.isDigit && isDotted (left + 1) true cs) || (inside && isDotted left false cs)

/-- Whether a text is a number from 0 to 255 without zeros at its head. -/
def isOctet (cs : List Char) : Bool :=
  !cs.isEmpty && cs.all Char.isDigit && cs.length ≤ 3 && natOfDigits cs ≤ 255 &&
    (cs.length == 1 || cs.head? != some '0')

/-- Whether a text is four such numbers with points between them. -/
def isAddress4 (cs : List Char) : Bool :=
  let parts := Text.splitAt '.' cs
  parts.length == 4 && parts.all isOctet

/-! ## Eight numbers -/

/-- Whether a text is a number of up to four digits of base sixteen. -/
def isGroup (cs : List Char) : Bool :=
  !cs.isEmpty && cs.length ≤ 4 && cs.all fun c => (Json.hexDigit? c).isSome

/-- The parts with four numbers in the last one counted as two parts. -/
def widened (parts : List (List Char)) : Option (List (List Char)) :=
  match parts.reverse with
  | last :: before =>
    if last.contains '.' then
      if isAddress4 last then some (before.reverse ++ [['0'], ['0']]) else none
    else some parts
  | [] => some parts

/-- Whether the parts between colons are eight groups, or fewer with one gap. -/
def areGroups (parts : List (List Char)) : Bool :=
  let inner := (parts.drop 1).dropLast
  match inner.count [] with
  | 0 => parts.length == 8 && parts.all isGroup
  | 1 =>
    let before := parts.take (1 + (inner.takeWhile (!·.isEmpty)).length)
    let behind := parts.drop (before.length + 1)
    let before := if before == [[]] then [] else before
    let behind := if behind == [[]] then [] else behind
    before.length + behind.length < 8 && before.all isGroup && behind.all isGroup
  | _ => false

/-- Whether a text is eight numbers, perhaps with the name of a scope behind a percent sign. -/
def isAddress6 (cs : List Char) : Bool :=
  let numbers := cs.takeWhile (· != '%')
  let scopeIsNamed := match cs.dropWhile (· != '%') with
    | [] => true
    | _ :: scope => !scope.isEmpty && !scope.contains '%'
  let parts := Text.splitAt ':' numbers
  scopeIsNamed && 3 ≤ parts.length &&
    match widened parts with
    | some parts => parts.length ≤ 9 && areGroups parts
    | none => false

/-! ## Names -/

/-- The characters that a name in ASCII may hold. -/
def isNameChar (c : Char) : Bool :=
  c.isAlphanum || "-._~!$&'()*+,;=\"`\x7b\x7d%|\\".toList.contains c

/-- The points that divide the labels of a name. -/
def isPoint (c : Char) : Bool := c == '.' || c == '\u3002' || c == '\uFF0E' || c == '\uFF61'

/-- Whether a character may stand in a label: letters and digits of any kind, and hyphens. -/
def isLabelChar (c : Char) : Bool := (Text.isWordChar c && c != '_') || c == '-'

/-- Whether the hyphens of a label stand neither at an end nor together behind two characters, where
they would mark a label as written in ASCII. -/
def hasPlainHyphens (cs : List Char) : Bool :=
  cs.head? != some '-' && cs.getLast? != some '-' && (cs.drop 2).take 2 != ['-', '-']

/-- A label of a name in ASCII, if its characters can stand in one. -/
def label? (cs : List Char) : Option (List Char) :=
  if cs.isEmpty || !cs.all isLabelChar then none
  else
    let mark := "xn--".toList
    let isAscii := cs.all Punycode.isAscii
    let written := if isAscii then cs else mark ++ Punycode.encode cs
    if (hasPlainHyphens cs || isAscii && mark.isPrefixOf cs) && written.length ≤ 63
      then some written
    else none

/-- A name in ASCII, label by label; a last point stays. -/
def name? (cs : List Char) : Option (List Char) := do
  let labels := Text.splitAt '.' (cs.map fun c => if isPoint c then '.' else c)
  let (labels, ending) :=
    if labels.getLast? == some [] then (labels.dropLast, ['.']) else (labels, [])
  let written := ['.'].intercalate (← labels.mapM label?)
  if written.length ≤ 253 then some (written ++ ending) else none

/-! ## Normal forms -/

/-- The normal form of a host, without the brackets of eight numbers. -/
def normal (cs : List Char) : Except AddressFlaw (List Char) :=
  if cs.isEmpty then .ok []
  else if isDotted 3 false cs then
    if isAddress4 cs then .ok cs else .error (.badHost4 (String.ofList cs))
  else if cs.head? == some '[' && cs.getLast? == some ']' && 1 < cs.length then
    let inner := (cs.drop 1).dropLast
    if isAddress6 inner then .ok inner else .error (.badHost6 (String.ofList cs))
  else if cs.all Punycode.isAscii then .ok (Percent.quote isNameChar (Text.lower cs))
  else
    match name? (Text.lower cs) with
    | some written => .ok written
    | none => .error (.badHostName (String.ofList cs))

@[simp] theorem normal_nil : normal [] = .ok [] := rfl

end BukuKas.Http.Host
