import Dialogue.Text.Hex
import Dialogue.Text.Printable

/-!
# Quoted texts

A text inside a list or a record is shown between quotes: single ones, unless it holds a single
quote and no double one. Backslashes and the quote are escaped, and so is what is not printable.
-/
namespace Dialogue.Text

def quoteChar (quote c : Char) : List Char :=
  if c = quote ∨ c = '\\' then ['\\', c]
  else if c = '\n' then ['\\', 'n']
  else if c = '\r' then ['\\', 'r']
  else if c = '\t' then ['\\', 't']
  else if isPrintable c then [c]
  else if c.toNat < 0x100 then '\\' :: 'x' :: hex 2 c.toNat
  else if c.toNat < 0x10000 then '\\' :: 'u' :: hex 4 c.toNat
  else '\\' :: 'U' :: hex 8 c.toNat

def quote (s : String) : String :=
  let cs := s.toList
  let mark := if cs.contains '\x27' && !cs.contains '"' then '"' else '\x27'
  String.ofList (mark :: cs.flatMap (quoteChar mark) ++ [mark])

end Dialogue.Text
