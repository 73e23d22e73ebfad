import ProviderWallet.Json.Basic
import ProviderWallet.Text.Hex

namespace ProviderWallet.Json

def escape (c : Char) : List Char :=
  if c = '"' then ['\\', '"']
  else if c = '\\' then ['\\', '\\']
  else if c = '\n' then ['\\', 'n']
  else if c = '\r' then ['\\', 'r']
  else if c = '\t' then ['\\', 't']
  else if c = '\x08' then ['\\', 'b']
  else if c = '\x0c' then ['\\', 'f']
  else if c.toNat < 0x20 then
    ['\\', 'u', '0', '0', Text.Hex.digit (c.toNat / 16), Text.Hex.digit (c.toNat % 16)]
  else [c]

def quoteChars (s : String) : List Char :=
  '"' :: s.toList.flatMap escape ++ ['"']

def Number.chars : Number → List Char
  | .whole n =>
    if n < 0 then '-' :: Decimal.digits n.natAbs else Decimal.digits n.natAbs
  | .double negative x => if negative then '-' :: x.text.toList else x.text.toList

mutual

def chars : Json → List Char
  | .null => "null".toList
  | .bool true => "true".toList
  | .bool false => "false".toList
  | .number n => n.chars
  | .string s => quoteChars s
  | .array items => '[' :: itemChars items
  | .object fields => '\x7b' :: fieldChars fields

def itemChars : List Json → List Char
  | [] => [']']
  | [item] => chars item ++ [']']
  | item :: items => chars item ++ ',' :: itemChars items

def fieldChars : List (String × Json) → List Char
  | [] => ['\x7d']
  | [(name, value)] => quoteChars name ++ ':' :: chars value ++ ['\x7d']
  | (name, value) :: fields => quoteChars name ++ ':' :: chars value ++ ',' :: fieldChars fields

end

def text (j : Json) : String :=
  String.ofList (chars j)

end ProviderWallet.Json
