/-!
# Pieces of a text

A text is cut into the finds of a search and the characters between them.  The search goes from
left to right, a find begins as early as it can, and no two finds overlap.  Amounts, category
tags and filler words are all found this way; removing the finds or reading the first of them are
two views of one cut.

## Main results

* `withoutFinds_of_none` : a search that finds nothing leaves every character as it is.
-/

namespace BukuKas.Text

/-- A character between finds, or a find. -/
inductive Piece (α : Type) where
  | plain (c : Char)
  | found (find : α)
  deriving DecidableEq, Repr

/-- A search at one place: the character before it and the text from it on give a find together
with the number of characters that it holds beyond its first. -/
abbrev Search (α : Type) := Option Char → List Char → Option (α × Nat)

/-- Cuts the text at the finds.  The number of characters still to pass over belongs to the find
before them. -/
def piecesFrom {α : Type} (search : Search α) :
    (before : Option Char) → (skip : Nat) → List Char → List (Piece α)
  | _, _, [] => []
  | _, skip + 1, c :: cs => piecesFrom search (some c) skip cs
  | before, 0, c :: cs =>
    match search before (c :: cs) with
    | none => .plain c :: piecesFrom search (some c) 0 cs
    | some (find, more) => .found find :: piecesFrom search (some c) more cs

/-- The whole text cut at its finds. -/
def pieces {α : Type} (search : Search α) (cs : List Char) : List (Piece α) :=
  piecesFrom search none 0 cs

/-- The finds alone, in order. -/
def finds {α : Type} (search : Search α) (cs : List Char) : List α :=
  (pieces search cs).filterMap fun
    | .plain _ => none
    | .found find => some find

/-- The text without its finds. -/
def withoutFinds {α : Type} (search : Search α) (cs : List Char) : List Char :=
  (pieces search cs).filterMap fun
    | .plain c => some c
    | .found _ => none

@[simp] theorem pieces_nil {α : Type} (search : Search α) : pieces search [] = [] := rfl

theorem piecesFrom_of_none {α : Type} {search : Search α}
    (h : ∀ before cs, search before cs = none) :
    ∀ (before : Option Char) (cs : List Char),
      piecesFrom search before 0 cs = cs.map Piece.plain
  | _, [] => rfl
  | before, c :: cs => by
    simp [piecesFrom, h, piecesFrom_of_none h (some c) cs]

/-- A search that finds nothing leaves the text as it is. -/
theorem withoutFinds_of_none {α : Type} {search : Search α}
    (h : ∀ before cs, search before cs = none) (cs : List Char) :
    withoutFinds search cs = cs := by
  rw [withoutFinds, pieces, piecesFrom_of_none h, List.filterMap_map]
  show cs.filterMap some = cs
  exact List.filterMap_some

end BukuKas.Text
