import SignalCatalog.Json.Printer
import SignalCatalog.Text.Unprintable

/-!
# Quoted text

Texts in messages and log lines stand in quotes. The quote and the backslash are escaped, line
breaks, tabs and NUL have short forms, and every other character without a printed form is shown as
its hexadecimal number in braces.
-/

namespace SignalCatalog.Text

/-- The hexadecimal digits of a number, without leading zeros. -/
def lowHexDigits : Nat → Nat → List Char
  | 0, _ => []
  | fuel + 1, n =>
    if n < 16 then [Json.hexDigit n]
    else lowHexDigits fuel (n / 16) ++ [Json.hexDigit (n % 16)]

def quotedChar (c : Char) : List Char :=
  if c = '"' then ['\\', '"']
  else if c = '\\' then ['\\', '\\']
  else if c = '\n' then ['\\', 'n']
  else if c = '\r' then ['\\', 'r']
  else if c = '\t' then ['\\', 't']
  else if c.toNat = 0 then ['\\', '0']
  else if isUnprintable c then
    ['\\', 'u', '\x7b'] ++ lowHexDigits 6 c.toNat ++ ['\x7d']
  else [c]

def quoted (text : String) : String :=
  String.ofList ('"' :: text.toList.flatMap quotedChar ++ ['"'])

end SignalCatalog.Text
