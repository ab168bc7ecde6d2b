import BuildSession.Text.Hexadecimal
import BuildSession.Unicode.GraphemeExtend
import BuildSession.Unicode.Printable

/-!
# Quoted texts for diagnostics

A quoted text stands between double quotes on one line. Quotes, backslashes and the usual controls
have short escapes; every other character that is not printable, or that would join the one
before it, is written by its number.
-/

namespace BuildSession.Text

/-- A character inside a quoted text. -/
def quoteChar (c : Char) : List Char :=
  if c = '"' then ['\\', '"']
  else if c = '\\' then ['\\', '\\']
  else if c = '\n' then ['\\', 'n']
  else if c = '\r' then ['\\', 'r']
  else if c = '\t' then ['\\', 't']
  else if c = '\x00' then ['\\', '0']
  else if Unicode.isPrintable c && !Unicode.extendsGrapheme c then [c]
  else ['\\', 'u', '\x7b'] ++ Hexadecimal.write c.toNat ++ ['\x7d']

def quote (s : String) : String :=
  String.ofList ('"' :: s.toList.flatMap quoteChar ++ ['"'])

end BuildSession.Text
