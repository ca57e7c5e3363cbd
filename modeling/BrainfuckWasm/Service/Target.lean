import BrainfuckWasm.Service.Reference
import BrainfuckWasm.Text.Utf8

/-!
# Request targets

Of a reference only the path leads anywhere, and it always starts from the root. Dot segments are
resolved before percent escapes are decoded, so an escaped dot or slash is an ordinary character of
a segment in the first of these steps only. Escapes are decoded twice: by the sender of the request
and by its receiver. The rest of a reference matters where the answer points at another path: the
reference to that one has a greatest length too.
-/

namespace BrainfuckWasm.Service

/-- The segments kept so far, in reverse, after one more segment: a dot is dropped, and two dots
take back the segment before them but not the root. -/
def keepSegment (kept : List (List Char)) (segment : List Char) : List (List Char) :=
  if segment = ['.'] then kept
  else if segment = ['.', '.'] then
    match kept with
    | [] => []
    | [root] => if root = [] then [root] else []
    | _ :: before => before
  else segment :: kept

/-- A path without dot segments. -/
def removeDotSegments (path : List Char) : List Char :=
  List.intercalate ['/'] ((Path.splitOn '/' path).foldl keepSegment []).reverse

/-- A path that starts with exactly one slash. -/
def rooted (path : List Char) : List Char :=
  '/' :: path.dropWhile (· = '/')

/-- Whether a character of a query is sent as it is. -/
def isPlainInQuery (c : Char) : Bool :=
  0x20 < c.toNat && c.toNat < 0x7F && c ∉ ['"', '#', '<', '>']

/-- Whether a character of a path is sent as it is. -/
def isPlainInPath (c : Char) : Bool :=
  isPlainInQuery c && c ∉ ['?', '\x60', '\x7b', '\x7d']

/-- A text in which each character that is not plain is escaped byte by byte. -/
def escape (isPlain : Char → Bool) (cs : List Char) : List Char :=
  cs.flatMap fun c =>
    if isPlain c then [c]
    else (Text.encodeUtf8 [c]).flatMap fun byte =>
      '%' :: (Text.hexPadded 2 byte.toNat).toList.map Char.toUpper

/-- The path of a reference that does not say by itself where it leads. -/
def relativePath (reference : Reference) : Except TargetError (List Char) :=
  let isBare := reference.scheme.isEmpty && !reference.authority.isGiven
  match isBare, reference.path with
  | true, '/' :: '/' :: _ => .error .doubleSlash
  | true, ':' :: _ => .error .colon
  | _, _ =>
    let path := rooted (if isBare then reference.path else removeDotSegments reference.path)
    if maxTargetLength < (escape isPlainInPath path).length then .error (.partTooLong "path")
    else if maxTargetLength < (escape isPlainInQuery reference.query).length then
      .error (.partTooLong "query")
    else .ok (removeDotSegments path)

/-- The schemes that are served. -/
def servedSchemes : List String := ["http", "https", "ws", "wss"]

/-- The bytes that percent escapes stand for; a percent sign without two hexadecimal digits stands
for itself. -/
def percentDecode : List UInt8 → List UInt8
  | a :: b :: c :: rest =>
    if a = 0x25 then
      match Text.hexValue? (Char.ofNat b.toNat), Text.hexValue? (Char.ofNat c.toNat) with
      | some high, some low => UInt8.ofNat (16 * high + low) :: percentDecode rest
      | _, _ => a :: percentDecode (b :: c :: rest)
    else a :: percentDecode (b :: c :: rest)
  | short => short

/-- A text with its percent escapes decoded. -/
def unescape (cs : List Char) : List Char :=
  Text.decodeUtf8 (percentDecode (Text.encodeUtf8 cs))

/-- Where a target leads to. -/
structure Destination where
  scheme : List Char
  authority : Authority
  path : List Char
  query : List Char
  deriving DecidableEq, Repr

/-- The scheme and the authority of a reference that has none of its own. -/
def ownScheme : List Char := "http".toList

@[inherit_doc ownScheme]
def ownAuthority : Authority := ⟨[], "testserver".toList, none⟩

/-- Where a reference leads to. -/
def Reference.destination (reference : Reference) : Except TargetError Destination :=
  let received (cs : List Char) : List Char :=
    unescape (unescape (if cs.isEmpty then ['/'] else cs))
  if reference.isAbsolute then
    .ok ⟨reference.scheme, reference.authority, received (removeDotSegments reference.path),
      reference.query⟩
  else
    (relativePath reference).map fun path =>
      ⟨ownScheme, ownAuthority, received path, reference.query⟩

/-- Where a target leads to. -/
def destinationOf (target : String) : Except TargetError Destination :=
  match readReference target with
  | .error cause => .error cause
  | .ok reference => reference.destination

/-- What keeps a host from being sent: the first run of characters outside ASCII. -/
def unsendable? (host : List Char) : Option TargetError :=
  let isAscii : Char → Bool := fun c => c.toNat < 0x80
  match host.dropWhile isAscii with
  | [] => none
  | first :: rest =>
    some (.outsideAscii (host.takeWhile isAscii).length first
      (rest.takeWhile (!isAscii ·)).length)

/-- Why a request for a destination is not served. -/
def Destination.obstacle? (destination : Destination) : Option TargetError :=
  let scheme := String.ofList destination.scheme
  match unsendable? destination.authority.host with
  | some cause => some cause
  | none =>
    if !servedSchemes.contains scheme then some (.unknownScheme scheme)
    else (receivedError? destination.authority.host).map .notADomain

/-- The scheme and the authority of a destination as text, without the user. -/
def Destination.origin (destination : Destination) : List Char :=
  let number := match destination.authority.number with
    | some number => (":" ++ toString number).toList
    | none => []
  destination.scheme ++ "://".toList ++ destination.authority.host ++ number

/-- Whether a character of the reference in an answer is sent as it is. -/
def isPlainInAnswer (c : Char) : Bool :=
  c.isAlphanum || "_.-~:/%#?=@[]!$&'()*+,;".toList.contains c

/-- A path with its final slashes taken away, or with one added if it has none. -/
def withOtherEnding (path : List Char) : List Char :=
  if path.getLast? = some '/' then (path.reverse.dropWhile (· = '/')).reverse else path ++ ['/']

/-- The reference to the path with the other ending. -/
def Destination.otherEnding (destination : Destination) : List Char :=
  let query := escape isPlainInQuery destination.query
  escape isPlainInAnswer (destination.origin ++ withOtherEnding destination.path ++
    if query.isEmpty then [] else '?' :: query)

/-- The segments of a path; one that starts with a slash has an empty first segment. -/
def segmentsOf (path : List Char) : List String :=
  (Path.splitOn '/' path).map String.ofList

end BrainfuckWasm.Service
