import BukuKas.Json.Reader
import BukuKas.Text.Utf8

/-!
# Percent escapes

In an address a byte may be written as a percent sign with two digits of base sixteen.  Quoting
writes all characters outside a set in this way and leaves the escapes that are already there;
unquoting reads the bytes as UTF-8.

## Main results

* `quote_of_allowed` : a text of allowed characters is its own quoted form.
-/

namespace BukuKas.Http.Percent

/-- A digit of base sixteen in capitals. -/
def capitalDigit (n : Nat) : Char := Char.ofNat (if n < 10 then 48 + n else 55 + n)

/-- The escape of a byte. -/
def escapeByte (b : Nat) : List Char := ['%', capitalDigit (b / 16), capitalDigit (b % 16)]

/-- The escapes of the bytes of a character. -/
def escapeChar (c : Char) : List Char :=
  (String.utf8EncodeChar c).flatMap fun b => escapeByte b.toNat

/-- Whether a text begins with an escape. -/
def beginsEscape : List Char → Bool
  | '%' :: a :: b :: _ => (Json.hexDigit? a).isSome && (Json.hexDigit? b).isSome
  | _ => false

/-- A character as it stands in a text in which some are allowed. -/
def quoteChar (allowed : Char → Bool) (c : Char) : List Char :=
  if allowed c then [c] else escapeChar c

/-- The text with all characters that are not allowed escaped; so many characters at its head belong
to an escape that is already there. -/
def quoteFrom (allowed : Char → Bool) : (kept : Nat) → List Char → List Char
  | _, [] => []
  | kept + 1, c :: cs => c :: quoteFrom allowed kept cs
  | 0, c :: cs =>
    if beginsEscape (c :: cs) then c :: quoteFrom allowed 2 cs
    else quoteChar allowed c ++ quoteFrom allowed 0 cs

/-- The text with all characters escaped that are neither allowed nor part of an escape. -/
def quote (allowed : Char → Bool) (cs : List Char) : List Char := quoteFrom allowed 0 cs

theorem quoteFrom_of_allowed {allowed : Char → Bool} (kept : Nat) (cs : List Char)
    (h : ∀ c ∈ cs, allowed c = true) : quoteFrom allowed kept cs = cs := by
  induction cs generalizing kept with
  | nil => cases kept <;> rfl
  | cons c cs ih =>
    have hrest (n : Nat) : quoteFrom allowed n cs = cs :=
      ih n fun d hd => h d (List.mem_cons_of_mem c hd)
    have hc : allowed c = true := h c List.mem_cons_self
    cases kept <;> simp [quoteFrom, quoteChar, hc, hrest]

theorem quote_of_allowed {allowed : Char → Bool} {cs : List Char}
    (h : ∀ c ∈ cs, allowed c = true) : quote allowed cs = cs :=
  quoteFrom_of_allowed 0 cs h

/-- The text with the bytes of its escapes read; `bytes` are those read just before. -/
def unquoteFrom (bytes : List Nat) : List Char → List Char
  | [] => Text.Utf8.decode bytes
  | '%' :: a :: b :: cs =>
    match Json.hexDigit? a, Json.hexDigit? b with
    | some high, some low => unquoteFrom (bytes ++ [16 * high + low]) cs
    | _, _ => Text.Utf8.decode bytes ++ '%' :: unquoteFrom [] (a :: b :: cs)
  | c :: cs => Text.Utf8.decode bytes ++ c :: unquoteFrom [] cs

/-- The text with its escapes read. -/
def unquote (cs : List Char) : List Char := unquoteFrom [] cs

end BukuKas.Http.Percent
