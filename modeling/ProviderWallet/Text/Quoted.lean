import ProviderWallet.Text.Graphic

namespace ProviderWallet.Text.Quoted

def hexDigits (n : Nat) : List Char :=
  Nat.toDigits 16 n

def escape (c : Char) : List Char :=
  if c = '"' then ['\\', '"']
  else if c = '\\' then ['\\', '\\']
  else if c = '\n' then ['\\', 'n']
  else if c = '\r' then ['\\', 'r']
  else if c = '\t' then ['\\', 't']
  else if c = '\x00' then ['\\', '0']
  else if Graphic.isGraphic c then [c]
  else "\\u\x7b".toList ++ hexDigits c.toNat ++ "\x7d".toList

def quote (s : String) : String :=
  String.ofList ('"' :: s.toList.flatMap escape ++ ['"'])

end ProviderWallet.Text.Quoted
