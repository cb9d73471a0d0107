import DotGraph.Text.Hex
import DotGraph.Text.Printable

/-!
# Quoted display of a text

A text is shown between single quotes, or between double quotes if it holds single quotes and no
double ones. What could not be seen or would end the quotation is written as an escape.
-/

namespace DotGraph.Text

def escapeForDisplay (quote c : Char) : List Char :=
  if c = quote ∨ c = '\\' then ['\\', c]
  else if c = '\n' then ['\\', 'n']
  else if c = '\r' then ['\\', 'r']
  else if c = '\t' then ['\\', 't']
  else if isPrintable c then [c]
  else if c.toNat ≤ 0xff then '\\' :: 'x' :: hexDigits 2 c.toNat
  else if c.toNat ≤ 0xffff then '\\' :: 'u' :: hexDigits 4 c.toNat
  else '\\' :: 'U' :: hexDigits 8 c.toNat

def displayQuote (text : List Char) : Char :=
  if text.contains '\'' && !text.contains '"' then '"' else '\''

def quoted (text : String) : String :=
  let quote := displayQuote text.toList
  String.ofList (quote :: text.toList.flatMap (escapeForDisplay quote) ++ [quote])

example : quoted "a'b" = "\"a'b\"" := by decide +kernel
example : quoted "a'\"b" = "'a\\'\"b'" := by decide +kernel
example : quoted "\u200b\x00é" = "'\\u200b\\x00é'" := by decide +kernel

end DotGraph.Text
