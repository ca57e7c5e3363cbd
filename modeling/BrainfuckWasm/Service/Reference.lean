import BrainfuckWasm.Service.Host
import BrainfuckWasm.Text.Numeral

/-!
# References

The target of a request is a reference: a scheme, an authority, a path, a query and a fragment, all
of them optional. The authority holds the name of a user, a host and a number. References that are
too long, hold control characters, or have a host or a number that is none are refused.
-/

namespace BrainfuckWasm.Service

/-- Why a target is refused. -/
inductive TargetError where
  | tooLong
  | partTooLong (part : String)
  | unprintable (c : Char) (position : Nat)
  | badQuad (host : String)
  | badGroups (host : String)
  | badName (host : String)
  | notANumber (text : String)
  | doubleSlash
  | colon
  /-- The host holds a run of characters outside ASCII: where it starts, its first member and how
  many follow that. -/
  | outsideAscii (start : Nat) (first : Char) (more : Nat)
  /-- The reference names a scheme that is not served. -/
  | unknownScheme (scheme : String)
  /-- The host is written for a domain name that is none. -/
  | notADomain (cause : Domain.NameError)
  deriving DecidableEq, Repr

/-- The diagnostic of a refused target. -/
def TargetError.message : TargetError → String
  | .tooLong => "URL too long"
  | .partTooLong part => "URL component '" ++ part ++ "' too long"
  | .unprintable c position =>
    "Invalid non-printable ASCII character in URL, " ++ Text.quoted (String.singleton c) ++
      " at position " ++ toString position ++ "."
  | .badQuad host => "Invalid IPv4 address: " ++ Text.quoted host
  | .badGroups host => "Invalid IPv6 address: " ++ Text.quoted host
  | .badName host => "Invalid IDNA hostname: " ++ Text.quoted host
  | .notANumber text => "Invalid port: " ++ Text.quoted text
  | .doubleSlash => "Relative URLs cannot have a path starting with '//'"
  | .colon => "Relative URLs cannot have a path starting with ':'"
  | .outsideAscii start first more =>
    let place :=
      if more = 0 then
        let shown := String.ofList (Text.escapedChar first)
        "character '" ++ shown ++ "' in position " ++ toString start
      else "characters in position " ++ toString start ++ "-" ++ toString (start + more)
    "'ascii' codec can't encode " ++ place ++ ": ordinal not in range(128)"
  | .unknownScheme scheme => Text.quoted scheme
  | .notADomain cause => cause.message

/-- The greatest length of a target, and of its path and its query once they are escaped. -/
def maxTargetLength : Nat := 65536

/-- Whether a character is an ASCII control character. -/
def isControl (c : Char) : Bool :=
  c.toNat < 0x20 || c.toNat = 0x7F

/-- The first control character of a text, with its position. -/
def firstControl? (cs : List Char) : Option (Char × Nat) :=
  (cs.zipIdx).find? fun (c, _) => isControl c

/-- Whether a character may follow the first letter of a scheme. -/
def isSchemeChar (c : Char) : Bool :=
  c.isAlphanum || c = '+' || c = '.' || c = '-'

/-- The scheme at the start of a reference, and what follows its colon. A colon alone ends an empty
scheme. -/
def splitScheme (cs : List Char) : List Char × List Char :=
  match cs.takeWhile isSchemeChar, cs.dropWhile isSchemeChar with
  | [], ':' :: rest => ([], rest)
  | first :: word, ':' :: rest => if first.isAlpha then (first :: word, rest) else ([], cs)
  | _, _ => ([], cs)

/-- The authority after two slashes at the start of a text, and what follows it. -/
def splitAuthority : List Char → List Char × List Char
  | '/' :: '/' :: rest =>
    let ends : Char → Bool := fun c => c = '/' || c = '?' || c = '#'
    (rest.takeWhile (!ends ·), rest.dropWhile (!ends ·))
  | cs => ([], cs)

/-- A text split after the last of some character, if there is one. -/
def splitAfterLast (separator : Char) (cs : List Char) : List Char × List Char :=
  let backwards := cs.reverse
  ((backwards.dropWhile (· ≠ separator)).reverse, (backwards.takeWhile (· ≠ separator)).reverse)

/-- The host at the start of an authority without a user, and what follows it. A host in brackets
ends at the last bracket. -/
def splitHost (cs : List Char) : List Char × List Char :=
  let bracketed := splitAfterLast ']' cs
  if cs.head? = some '[' && !bracketed.1.isEmpty then bracketed
  else (cs.takeWhile (· ≠ ':'), cs.dropWhile (· ≠ ':'))

/-- Who is addressed by a reference; the host is the one that is sent. -/
structure Authority where
  user : List Char
  host : List Char
  number : Option Int
  deriving DecidableEq, Repr

/-- Whether an authority says anything. -/
def Authority.isGiven (authority : Authority) : Bool :=
  !authority.user.isEmpty || !authority.host.isEmpty || authority.number.isSome

/-- Read a host. -/
def readHost (host : List Char) : Except TargetError (List Char) :=
  if looksQuad host && !isQuad host then .error (.badQuad (String.ofList host))
  else if isBracketed host && !isGrouped (host.drop 1).dropLast then
    .error (.badGroups (String.ofList host))
  else (sentHost host).mapError fun _ => .badName (String.ofList host)

/-- The number of the connection that a scheme stands for. -/
def schemeNumber? (scheme : List Char) : Option Int :=
  [("ftp", 21), ("http", 80), ("https", 443), ("ws", 80), ("wss", 443)].lookup
    (String.ofList scheme)

/-- Read an authority, where the last sign `@` ends the user. The number that the scheme stands for
anyway is left out. -/
def readAuthority (scheme cs : List Char) : Except TargetError Authority :=
  let (user, hostOn) := splitAfterLast '@' cs
  let (host, rest) := splitHost hostOn
  let digits := String.ofList (if rest.head? = some ':' then rest.drop 1 else rest)
  match readHost host with
  | .error cause => .error cause
  | .ok sent =>
    if digits.isEmpty then .ok ⟨user.dropLast, sent, none⟩
    else
      match Text.integer? digits with
      | none => .error (.notANumber digits)
      | some number =>
        .ok ⟨user.dropLast, sent,
          if schemeNumber? scheme = some number then none else some number⟩

/-- A reference without its fragment. -/
structure Reference where
  scheme : List Char
  authority : Authority
  path : List Char
  query : List Char
  deriving DecidableEq, Repr

/-- Whether a reference says by itself where it leads: it has a scheme and a host. -/
def Reference.isAbsolute (reference : Reference) : Bool :=
  !reference.scheme.isEmpty && !reference.authority.host.isEmpty

/-- Read a reference. -/
def readReference (target : String) : Except TargetError Reference :=
  let cs := target.toList
  if maxTargetLength < cs.length then .error .tooLong
  else
    match firstControl? cs with
    | some (c, position) => .error (.unprintable c position)
    | none =>
      let (scheme, rest) := splitScheme cs
      let (authorityText, rest) := splitAuthority rest
      let rest := rest.takeWhile (· ≠ '#')
      (readAuthority scheme authorityText).map fun authority =>
        { scheme := scheme.map Char.toLower
          authority := authority
          path := rest.takeWhile (· ≠ '?')
          query := (rest.dropWhile (· ≠ '?')).drop 1 }

end BrainfuckWasm.Service
