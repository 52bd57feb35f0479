import BukuKas.Http.Host

/-!
# Addresses

An address names a scheme, a host with a socket and perhaps a user, a path, a query and a fragment.
Each part has a normal form: the scheme and the name of the host are written in small letters, the
socket of the scheme itself is left out, the path loses its segments of one and of two dots, and
what a part may not hold is escaped.

## Main results

* `withoutDots_of_plain` : a path without segments of dots stays as it is.
* `rooted_head` : the path below a root begins with a slash.
-/

namespace BukuKas.Http

/-- An address in normal form. -/
structure Address where
  /-- How the place is spoken to, such as `http`. -/
  scheme : List Char := []
  /-- The user who speaks, perhaps with a password behind a colon. -/
  user : List Char := []
  /-- The name or the number of the machine. -/
  host : List Char := []
  /-- The socket of the machine, where it is not the one its scheme stands for. -/
  socket : Option Int := none
  /-- The place on the machine. -/
  path : List Char := []
  /-- What stands behind the question mark. -/
  query : Option (List Char) := none
  /-- What stands behind the number sign. -/
  fragment : Option (List Char) := none
  deriving DecidableEq, Repr

namespace Address

/-! ## What the parts may hold -/

/-- Whether a character is visible ASCII and none of these. -/
def isVisibleBut (excluded : String) (c : Char) : Bool :=
  0x20 ≤ c.toNat && c.toNat < 0x7F && !excluded.toList.contains c

/-- The characters of a fragment. -/
def isFragmentChar : Char → Bool := isVisibleBut " \"<>`"

/-- The characters of a query. -/
def isQueryChar : Char → Bool := isVisibleBut " \"#<>"

/-- The characters of a path. -/
def isPathChar : Char → Bool := isVisibleBut " \"#<>?`\x7b\x7d"

/-- The characters of a user. -/
def isUserChar : Char → Bool := isVisibleBut " \"#<>?`\x7b\x7d/;=@[\\]^|"

/-! ## Paths -/

/-- One more segment of a path: one dot is passed over, two take the last segment back, and the
first one of a path from a root stays.  The segments are kept in reverse. -/
def addSegment (done : List (List Char)) (segment : List Char) : List (List Char) :=
  if segment == ['.'] then done
  else if segment == ['.', '.'] then
    if done == [[]] then done else done.tail
  else segment :: done

/-- The path without segments of dots. -/
def withoutDots (path : List Char) : List Char :=
  ['/'].intercalate ((Text.splitAt '/' path).foldl addSegment []).reverse

theorem foldl_addSegment_of_plain (segments done : List (List Char))
    (h : ∀ s ∈ segments, s ≠ ['.'] ∧ s ≠ ['.', '.']) :
    segments.foldl addSegment done = segments.reverse ++ done := by
  induction segments generalizing done with
  | nil => rfl
  | cons s rest ih =>
    have hs := h s List.mem_cons_self
    rw [List.foldl_cons, ih _ fun t ht => h t (List.mem_cons_of_mem s ht)]
    simp [addSegment, hs.1, hs.2]

theorem withoutDots_of_plain {path : List Char}
    (h : ∀ s ∈ Text.splitAt '/' path, s ≠ ['.'] ∧ s ≠ ['.', '.']) : withoutDots path = path := by
  rw [withoutDots, foldl_addSegment_of_plain _ _ h]
  simp [Text.intercalate_splitAt]

/-! ## Reading -/

/-- The most characters of an address. -/
def maxLength : Nat := 65536

/-- The first control character of a text, with the number of characters before it. -/
def control? (cs : List Char) : Option (Char × Nat) :=
  (cs.zipIdx.find? fun p => p.1.toNat < 0x20 || p.1.toNat == 0x7F)

/-- The scheme at the head of a text, and the rest behind its colon. -/
def splitScheme (cs : List Char) : List Char × List Char :=
  let run := if cs.head?.any Char.isAlpha then
      cs.takeWhile fun c => c.isAlphanum || c == '+' || c == '.' || c == '-'
    else []
  match cs.drop run.length with
  | ':' :: rest => (run, rest)
  | _ => ([], cs)

/-- The part behind two slashes at the head of a text, and the rest. -/
def splitAuthority (cs : List Char) : List Char × List Char :=
  match cs with
  | '/' :: '/' :: rest =>
    (rest.takeWhile fun c => !"/?#".toList.contains c,
      rest.dropWhile fun c => !"/?#".toList.contains c)
  | _ => ([], cs)

/-- The text before the last such character, if there is one, and the text behind it. -/
def splitLast (mark : Char) (cs : List Char) : Option (List Char) × List Char :=
  let behind := (cs.reverse.takeWhile (· != mark)).reverse
  if cs.contains mark then (some (cs.take (cs.length - behind.length - 1)), behind)
  else (none, cs)

/-- The host at the head of a text, brackets and all, and the rest. -/
def splitHost (cs : List Char) : List Char × List Char :=
  match cs, splitLast ']' cs with
  | '[' :: _, (some inner, rest) => (inner ++ [']'], rest)
  | _, _ => (cs.takeWhile fun c => c != ':' && c != '@', cs.dropWhile fun c => c != ':' && c != '@')

/-- The socket that each scheme has by itself. -/
def standardSocket? (scheme : List Char) : Option Int :=
  if scheme == "http".toList || scheme == "ws".toList then some 80
  else if scheme == "https".toList || scheme == "wss".toList then some 443
  else if scheme == "ftp".toList then some 21
  else none

/-- The socket that a text names, unless it is that of the scheme. -/
def readSocket (scheme cs : List Char) : Except AddressFlaw (Option Int) :=
  if cs.isEmpty then .ok none
  else
    match Number.readInt? (Text.trim cs) with
    | some n => .ok (if standardSocket? scheme = some n then none else some n)
    | none => .error (.badSocket (String.ofList cs))

/-- The path of an address, in normal form.  Without a scheme and a host it must not look as if it
had one of them. -/
def readPath (bound : Bool) (cs : List Char) : Except AddressFlaw (List Char) :=
  if bound then .ok (Percent.quote isPathChar (withoutDots cs))
  else if "//".toList.isPrefixOf cs then .error .doubleSlash
  else if cs.head? == some ':' then .error .leadingColon
  else .ok (Percent.quote isPathChar cs)

/-- The address that a text writes. -/
def read (cs : List Char) : Except AddressFlaw Address := do
  if maxLength < cs.length then throw .tooLong
  if let some (c, place) := control? cs then throw (.control c place)
  let (scheme, cs) := splitScheme cs
  let (authority, cs) := splitAuthority cs
  let path := cs.takeWhile fun c => c != '?' && c != '#'
  let cs := cs.dropWhile fun c => c != '?' && c != '#'
  let (query, cs) := match cs with
    | '?' :: rest => (some (rest.takeWhile (· != '#')), rest.dropWhile (· != '#'))
    | rest => (none, rest)
  let fragment := match cs with
    | _ :: rest => some rest
    | [] => none
  let (user, place) := splitLast '@' authority
  let user := Percent.quote isUserChar (user.getD [])
  let (host, rest) := splitHost place
  let host ← Host.normal host
  let socket ← readSocket scheme (if rest.head? == some ':' then rest.drop 1 else rest)
  let path ← readPath (!scheme.isEmpty || !user.isEmpty || !host.isEmpty || socket.isSome) path
  return {
    scheme := scheme.map Char.toLower
    user := user
    host := host
    socket := socket
    path := path
    query := query.map (Percent.quote isQueryChar)
    fragment := fragment.map (Percent.quote isFragmentChar) }

/-! ## Writing -/

/-- The part of an address between two slashes and the path. -/
def authority (a : Address) : List Char :=
  (if a.user.isEmpty then [] else a.user ++ ['@']) ++
    (if a.host.contains ':' then '[' :: a.host ++ [']'] else a.host) ++
    match a.socket with
    | some n => ':' :: (toString n).toList
    | none => []

/-- An address as a text. -/
def text (a : Address) : List Char :=
  let part (mark : Char) : Option (List Char) → List Char
    | some cs => mark :: cs
    | none => []
  (if a.scheme.isEmpty then [] else a.scheme ++ [':']) ++
    (if a.authority.isEmpty then [] else "//".toList ++ a.authority) ++
    a.path ++ part '?' a.query ++ part '#' a.fragment

/-! ## Resolving -/

/-- Whether an address says by itself where it leads. -/
def isAbsolute (a : Address) : Bool := !a.scheme.isEmpty && !a.host.isEmpty

/-- The path of an address below a root. -/
def rooted (a : Address) : List Char := '/' :: a.path.dropWhile (· == '/')

@[simp] theorem rooted_head (a : Address) : a.rooted.head? = some '/' := rfl

/-- The address as it is used where nothing else is known: without a host only its path below the
root and its query count. -/
def resolved (a : Address) : Address :=
  if a.isAbsolute then a else { path := a.rooted, query := a.query }

/-- The path to which an address leads on a host. -/
def pathOnHost (a : Address) : List Char :=
  let path := if a.isAbsolute then a.path else withoutDots a.rooted
  if path.isEmpty then ['/'] else path

end Address

end BukuKas.Http
