import Provisioning.Yaml.Cursor

/-!
# Writing scalars

A text is written in double quotes, so that it is read back as it is whatever it holds.
-/

namespace Provisioning.Yaml

/-- A number in hexadecimal with at least so many digits. -/
def paddedHex (width n : Nat) : List Char :=
  let ds := Nat.toDigits 16 n
  List.replicate (width - ds.length) '0' ++ ds

/-- A character that is written as it is: it is permitted, ends no line, and is no mark of the byte
order. -/
def isPlainlyWritten (c : Char) : Bool :=
  isPermitted c && !isBreak c && c.toNat != 0x85 && c != byteOrderMark

/-- A character in double quotes. -/
def quoteChar (c : Char) : List Char :=
  if c == '"' then ['\\', '"']
  else if c == '\\' then ['\\', '\\']
  else if c == '\n' then ['\\', 'n']
  else if c == '\t' then ['\\', 't']
  else if c == '\r' then ['\\', 'r']
  else if isPlainlyWritten c then [c]
  else if c.toNat < 0x10000 then '\\' :: 'u' :: paddedHex 4 c.toNat
  else '\\' :: 'U' :: paddedHex 8 c.toNat

/-- A text in double quotes. -/
def quote (s : String) : String :=
  String.ofList ('"' :: s.toList.flatMap quoteChar ++ ['"'])

/-- A line of a mapping. -/
def line (indent : Nat) (key value : String) : String :=
  String.ofList (List.replicate indent ' ') ++ key ++ ": " ++ value ++ "\n"

end Provisioning.Yaml
