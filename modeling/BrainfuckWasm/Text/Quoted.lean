import BrainfuckWasm.Text.Printable
import BrainfuckWasm.Text.Wide

/-!
# Quoted text

The form in which diagnostics show a text. It stands between apostrophes, or between double
quotes if it holds an apostrophe and no double quote. The delimiter in use and the backslash are
escaped, and so is every character that is not printable, in the shortest escape that holds it.
Surrogates are escaped too.
-/

namespace BrainfuckWasm.Text

/-- The apostrophe. -/
def apostrophe : Char := '\x27'

/-- The delimiter that quoting a text uses. -/
def delimiter (cs : List Char) : Char :=
  if cs.contains apostrophe && !cs.contains '"' then '"' else apostrophe

/-- A character by its number, in the shortest escape that holds it. -/
def escapedChar (c : Char) : List Char :=
  if c.toNat < 0x100 then '\\' :: 'x' :: (hexPadded 2 c.toNat).toList
  else if c.toNat < 0x10000 then '\\' :: 'u' :: (hexPadded 4 c.toNat).toList
  else '\\' :: 'U' :: (hexPadded 8 c.toNat).toList

/-- One character of a text quoted with the given delimiter. -/
def quoteChar (delim c : Char) : List Char :=
  if c = delim || c = '\\' then ['\\', c]
  else if c = '\n' then ['\\', 'n']
  else if c = '\r' then ['\\', 'r']
  else if c = '\t' then ['\\', 't']
  else if isPrintable c then [c]
  else escapedChar c

/-- A text as diagnostics show it. -/
def quoted (s : String) : String :=
  let cs := s.toList
  let delim := delimiter cs
  String.ofList (delim :: cs.flatMap (quoteChar delim) ++ [delim])

/-- One code point of a text quoted with the given delimiter. -/
def quotePoint (delim : Char) (point : Point) : List Char :=
  if point.isSurrogate then '\\' :: 'u' :: (hexPadded 4 point.value).toList
  else quoteChar delim point.char

/-- A text that may hold surrogates as diagnostics show it. -/
def quotedWide (text : Wide) : String :=
  let delim := delimiter (text.map Point.char)
  String.ofList (delim :: text.flatMap (quotePoint delim) ++ [delim])

end BrainfuckWasm.Text
