import AtomicCss.Text.Classes

/-!
# Quoted texts

Texts as messages show them: between double quotes, with everything that would not
show up plainly written as an escape.
-/

set_option autoImplicit false

namespace AtomicCss.Text

/-- The hexadecimal digits of a code point, lower case and without leading zeros. -/
def hexDigits (code : Nat) : String := String.ofList (Nat.toDigits 16 code)

def quoteChar (c : Char) : String :=
  if c = '"' then "\\\""
  else if c = '\\' then "\\\\"
  else if c = '\n' then "\\n"
  else if c = '\r' then "\\r"
  else if c = '\t' then "\\t"
  else if c = '\x00' then "\\0"
  else if isUnprintable c then "\\u\x7b" ++ hexDigits c.toNat ++ "\x7d"
  else c.toString

def quote (text : String) : String :=
  "\"" ++ String.join (text.toList.map quoteChar) ++ "\""

end AtomicCss.Text
