/-!
# Routes of the service

A route is what the path of a request leads to. A path without a route of its own points at the path
that differs from it in the slash at its end, if that one has a route. The pages have routes only if
there are pages. Where a path is compared with a fixed text, one line feed may follow at its end.
-/

namespace BrainfuckWasm.Service

/-- What a path leads to. -/
inductive Route where
  | index
  | page (segments : List String)
  | compile
  | artifact (id : String)
  | moduleText (id : String)
  | moduleBinary (id : String)
  deriving DecidableEq, Repr

/-- What comes of a path. -/
inductive Course where
  | leads (route : Route)
  /-- The path with the other ending has a route. -/
  | moved
  deriving DecidableEq, Repr

/-- Whether a last segment is a word, up to one line feed at its end. -/
def isLast (word segment : String) : Bool :=
  segment = word || segment = word ++ "\n"

/-- The way to a page below `static`. There is no line feed in it but perhaps one at its end, and
then `static` itself counts as a part of the way unless a second slash follows it. -/
def pageRoute? (segments : List String) : Option Route :=
  let cs := (String.intercalate "/" segments).toList
  if cs.dropLast.contains '\n' then none
  else if cs.getLast? = some '\n' && cs.head? ≠ some '/' then some (.page ("static" :: segments))
  else some (.page segments)

/-- The route of a path, given as its segments. -/
def route? (hasPages : Bool) : List String → Option Route
  | ["", last] => if hasPages && isLast "" last then some .index else none
  | "" :: "static" :: segment :: more =>
    if hasPages then pageRoute? (segment :: more) else none
  | ["", "api", last] => if isLast "compile" last then some .compile else none
  | ["", "api", "compile", id] => if id = "" then none else some (.artifact id)
  | ["", "api", "compile", id, last] =>
    if id = "" then none
    else if isLast "module.wat" last then some (.moduleText id)
    else if isLast "module.wasm" last then some (.moduleBinary id)
    else none
  | _ => none

/-- The path with its final slashes taken away, or with one added if it has none. -/
def otherEnding (segments : List String) : List String :=
  if segments.getLast? = some "" then (segments.reverse.dropWhile (· = "")).reverse
  else segments ++ [""]

/-- What comes of a path, by itself or with its other ending. -/
def courseOf? (hasPages : Bool) (segments : List String) : Option Course :=
  match route? hasPages segments with
  | some route => some (.leads route)
  | none => if (route? hasPages (otherEnding segments)).isSome then some .moved else none

end BrainfuckWasm.Service
