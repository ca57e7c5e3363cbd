import BrainfuckWasm.Domain.Name

/-!
# Hosts

A host that looks like a numeric address has to be one: four decimal numbers with dots between
them, or, in brackets, eight hexadecimal numbers with colons between them. In the second form a run
of zeros may be left out once, the last two numbers may be written as an address of the first form,
and a zone may follow after a percent sign. Any other host is a name. A name outside ASCII has to be
a domain name, and is sent in ASCII.
-/

namespace BrainfuckWasm.Service

/-- Whether a host looks like four decimal numbers with dots between them. -/
def looksQuad (host : List Char) : Bool :=
  let pieces := Path.splitOn '.' host
  pieces.length = 4 && pieces.all fun piece => piece ≠ [] && piece.all Char.isDigit

/-- Whether digits are a number of an address: at most 255, without leading zeros. -/
def isOctet (digits : List Char) : Bool :=
  digits ≠ [] && digits.all Char.isDigit && digits.length ≤ 3 &&
    (digits = ['0'] || digits.head? ≠ some '0') &&
    digits.foldl (fun n c => 10 * n + (c.toNat - 0x30)) 0 ≤ 255

/-- Whether a host is four decimal numbers with dots between them. -/
def isQuad (host : List Char) : Bool :=
  let octets := Path.splitOn '.' host
  octets.length = 4 && octets.all isOctet

/-- Whether digits are a hexadecimal number of at most four digits. -/
def isGroup (digits : List Char) : Bool :=
  digits ≠ [] && digits.length ≤ 4 && digits.all fun c => (Text.hexValue? c).isSome

/-- Groups with two in the place of a last one that is an address of four decimal numbers. -/
def expandQuad (groups : List (List Char)) : List (List Char) :=
  match groups.getLast? with
  | some last => if isQuad last then groups.dropLast ++ [['0'], ['0']] else groups
  | none => groups

/-- The groups on one side of the zeros that are left out; there may be none. -/
def sideGroups (groups : List (List Char)) : List (List Char) :=
  if groups = [[]] then [] else groups

/-- Whether groups are those of an address. An empty group that is neither the first nor the last
stands for the zeros that are left out. -/
def areGroups (groups : List (List Char)) : Bool :=
  let inner := (groups.drop 1).dropLast
  if inner.contains [] then
    let place := 1 + inner.findIdx (· = [])
    let present := sideGroups (groups.take place) ++ sideGroups (groups.drop (place + 1))
    present.length ≤ 7 && present.all isGroup
  else groups.length = 8 && groups.all isGroup

/-- Whether a text is an address of hexadecimal numbers, with a zone or without. -/
def isGrouped (text : List Char) : Bool :=
  let address := text.takeWhile (· ≠ '%')
  let zone := text.dropWhile (· ≠ '%')
  let groups := Path.splitOn ':' address
  (zone = [] || (zone.length ≥ 2 && !(zone.drop 1).contains '%')) && groups.length ≥ 3 &&
    areGroups (expandQuad groups)

/-- Whether a host stands in brackets. -/
def isBracketed (host : List Char) : Bool :=
  host.head? = some '[' && host.getLast? = some ']'

/-- Whether a character of a host in ASCII is sent as it is. -/
def isPlainInHost (c : Char) : Bool :=
  c.isAlphanum || "-._~!$&'()*+,;=\"\x60\x7b\x7d%|\\".toList.contains c

/-- A character of a host in ASCII as it is sent. -/
def sentChar (c : Char) : List Char :=
  if isPlainInHost c then [c]
  else '%' :: ((Text.hexPadded 2 c.toNat).toList.map Char.toUpper)

/-- A host as it is sent: in lower case, and in ASCII. Only names can be refused for their labels,
and only those outside ASCII are. -/
def sentHost (host : List Char) : Except Domain.NameError (List Char) :=
  if isBracketed host then .ok host
  else if host.all (·.toNat < 0x80) then .ok ((host.map Char.toLower).flatMap sentChar)
  else Domain.write (Text.lowercase host)

/-- What is wrong with a host that is read from what was sent. Only a name whose first label is
written for another one is read at all. -/
def receivedError? (sent : List Char) : Option Domain.NameError :=
  if Domain.writtenMark.isPrefixOf sent then Domain.readError? sent else none

end BrainfuckWasm.Service
