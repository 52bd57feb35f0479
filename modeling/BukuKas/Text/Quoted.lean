import BukuKas.Text.HiddenSpans
import BukuKas.Text.Word

/-!
# Quoted texts

A text in quotation marks, as it is shown in reports.  The marks are single ones unless the text
holds a single mark and no double one.  Within them a reverse solidus stands before itself and
before the mark, line ends and tabs are written with a letter, and what cannot be seen with its code
in digits of base sixteen.

## Main results

* `quoted_of_plain` : a text of plain characters is shown as it is, between single marks.
-/

namespace BukuKas.Text

/-- Whether a character can be seen, or is the space. -/
def isVisible (c : Char) : Bool := !inSpans hiddenSpans c.toNat

/-- A number in so many digits of base sixteen. -/
def hexDigits (width n : Nat) : List Char :=
  let digits := Nat.toDigits 16 n
  List.replicate (width - digits.length) '0' ++ digits

/-- A character that cannot be seen, by its code. -/
def codeEscape (c : Char) : List Char :=
  let n := c.toNat
  if n < 0x100 then '\\' :: 'x' :: hexDigits 2 n
  else if n < 0x10000 then '\\' :: 'u' :: hexDigits 4 n
  else '\\' :: 'U' :: hexDigits 8 n

/-- A character as it stands between such quotation marks. -/
def quotedChar (mark c : Char) : List Char :=
  if c == mark || c == '\\' then ['\\', c]
  else if c == '\n' then ['\\', 'n']
  else if c == '\r' then ['\\', 'r']
  else if c == '\t' then ['\\', 't']
  else if isVisible c then [c]
  else codeEscape c

/-- The quotation mark for a text. -/
def markFor (cs : List Char) : Char :=
  if cs.contains '\'' && !cs.contains '"' then '"' else '\''

/-- The text in quotation marks. -/
def quoted (cs : List Char) : List Char :=
  let mark := markFor cs
  mark :: cs.flatMap (quotedChar mark) ++ [mark]

/-- Whether a character stands for itself between single quotation marks. -/
def isPlain (c : Char) : Bool :=
  c != '\'' && c != '\\' && c != '\n' && c != '\r' && c != '\t' && isVisible c

theorem quotedChar_of_isPlain {c : Char} (h : isPlain c = true) : quotedChar '\'' c = [c] := by
  simp only [isPlain, Bool.and_eq_true, bne_iff_ne, ne_eq] at h
  obtain ⟨⟨⟨⟨⟨h1, h2⟩, h3⟩, h4⟩, h5⟩, h6⟩ := h
  simp [quotedChar, h1, h2, h3, h4, h5, h6]

/-- Plain characters need no care. -/
theorem quoted_of_plain {cs : List Char} (h : ∀ c ∈ cs, isPlain c = true) :
    quoted cs = '\'' :: cs ++ ['\''] := by
  have hmark : markFor cs = '\'' := by
    have hno : '\'' ∉ cs := fun hm => absurd (h _ hm) (by decide)
    simp [markFor, hno]
  have hbody : cs.flatMap (quotedChar '\'') = cs := by
    clear hmark
    induction cs with
    | nil => rfl
    | cons c cs ih =>
      rw [List.flatMap_cons, quotedChar_of_isPlain (h c List.mem_cons_self),
        ih fun d hd => h d (List.mem_cons_of_mem c hd)]
      rfl
  simp [quoted, hmark, hbody]

end BukuKas.Text
