import Gatehouse.Text.Ascii
import Gatehouse.Text.Hidden

/-!
# Quoted text

A message that names a file or a setting puts it between double quotes and escapes the quote, the
backslash and every character that is not shown as it is.
-/

namespace Gatehouse.Text

/-- A character inside quotes; `others` lists further characters that take a backslash. -/
def quotedChar (others : List Char) (c : Char) : List Char :=
  if c = '\x00' then ['\\', '0']
  else if c = '\t' then ['\\', 't']
  else if c = '\r' then ['\\', 'r']
  else if c = '\n' then ['\\', 'n']
  else if c = '"' ∨ c = '\\' ∨ c ∈ others then ['\\', c]
  else if isHidden c then '\\' :: 'u' :: '\x7b' :: (hexText c.toNat).toList ++ ['\x7d']
  else [c]

def quoted (s : String) : String :=
  String.ofList ('"' :: s.toList.flatMap (quotedChar []) ++ ['"'])

/-- A file name between quotes; a single quote takes a backslash as well. -/
def quotedPath (s : String) : String :=
  String.ofList ('"' :: s.toList.flatMap (quotedChar ['\'']) ++ ['"'])

end Gatehouse.Text
