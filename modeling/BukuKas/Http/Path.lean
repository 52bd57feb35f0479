import BukuKas.Http.Address

/-!
# Paths of requests

A path names what a request is about.  It is taken from the address of the request in normal form,
and its escapes are read.

## Main results

* `withoutEndSlashes_append_slash` : one more slash at the end of a path is taken off like the
  others.
* `Destination.ofPath_of_route` : the path of a route leads to it.
-/

namespace BukuKas.Http

/-- The path of a request to an address on the host of the service. -/
def pathOf (address : String) : Except AddressFlaw (List Char) :=
  (Address.read address.toList).map fun a => Percent.unquote a.pathOnHost

/-- What a path leads to. -/
inductive Route where
  /-- The front page. -/
  | front
  /-- The health of the service. -/
  | health
  /-- The entrance of messages. -/
  | incoming
  /-- A job, by its name. -/
  | job (name : String)
  deriving DecidableEq, Repr

namespace Route

/-- What paths to jobs begin with. -/
def jobsPath : List Char := "/jobs/".toList

/-- The route with a path. -/
def ofPath? (path : List Char) : Option Route :=
  if path == "/".toList then some .front
  else if path == "/healthz".toList then some .health
  else if path == "/wa/incoming".toList then some .incoming
  else if jobsPath.isPrefixOf path then
    let name := path.drop jobsPath.length
    if name.isEmpty || name.contains '/' then none else some (.job (String.ofList name))
  else none

/-- A path without the slashes at its end. -/
def withoutEndSlashes (path : List Char) : List Char := (path.reverse.dropWhile (· == '/')).reverse

/-- The method with which a route is used. -/
def method : Route → String
  | .front => "GET"
  | .health => "GET"
  | .incoming => "POST"
  | .job _ => "POST"

theorem withoutEndSlashes_append_slash (path : List Char) :
    withoutEndSlashes (path ++ ['/']) = withoutEndSlashes path := by
  simp [withoutEndSlashes]

end Route

/-- Where a path leads. -/
inductive Destination where
  /-- To a route. -/
  | route (r : Route)
  /-- To a route whose path is known without the slashes at the end of this one. -/
  | moved
  /-- Nowhere. -/
  | nowhere
  deriving DecidableEq, Repr

/-- Where a path leads. -/
def Destination.ofPath (path : List Char) : Destination :=
  match Route.ofPath? path with
  | some r => .route r
  | none => if (Route.ofPath? (Route.withoutEndSlashes path)).isSome then .moved else .nowhere

theorem Destination.ofPath_of_route {path : List Char} {r : Route}
    (h : Route.ofPath? path = some r) : ofPath path = .route r := by
  simp [ofPath, h]

end BukuKas.Http
