import JarLens.Text.Number
import JarLens.Text.Printable

/-!
# Quoted text

The form in which messages show a name: between single quotes, or double ones when the text holds a
single quote and no double one. The quote and the backslash are escaped, tab, line feed and carriage
return have their letters, and what does not print is written by its code.
-/

namespace JarLens.Text

/-- The single quote. -/
def apostrophe : Char := '\x27'

/-- The quote that a text is written between. -/
def quoteFor (t : Text) : Char :=
  if t.contains apostrophe && !t.contains '"' then '"' else apostrophe

/-- The escape of a code point that does not print, as short as its size allows. -/
def codeEscape (n : Nat) : Text :=
  if n < 0x100 then '\\' :: 'x' :: ofHex 2 n
  else if n < 0x10000 then '\\' :: 'u' :: ofHex 4 n
  else '\\' :: 'U' :: ofHex 8 n

/-- One character as written between `quote`s, where `plain` tells what prints as itself. -/
def quoteChar (plain : Char → Bool) (quote c : Char) : Text :=
  if c = quote || c = '\\' then ['\\', c]
  else if c = '\n' then ['\\', 'n']
  else if c = '\r' then ['\\', 'r']
  else if c = '\t' then ['\\', 't']
  else if plain c then [c]
  else codeEscape c.toNat

/-- A text between quotes. -/
def quoted (t : Text) : Text :=
  let quote := quoteFor t
  quote :: t.flatMap (quoteChar isPrintable quote) ++ [quote]

/-- Bytes between quotes after a `b`, ASCII as itself and all else by code. -/
def quotedBytes (bytes : List UInt8) : Text :=
  let t := bytes.map fun b => Char.ofNat b.toNat
  let quote := quoteFor t
  'b' :: quote :: t.flatMap (quoteChar (fun c => 32 ≤ c.toNat && c.toNat < 127) quote) ++ [quote]

/-- Texts in brackets, each quoted. -/
def quotedList (ts : List Text) : Text :=
  '[' :: join [',', ' '] (ts.map quoted) ++ [']']

end JarLens.Text
