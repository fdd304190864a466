import ParcelPricing.Text.Unprinted

namespace ParcelPricing.Text

def codePointText (c : Char) : List Char :=
  "\\u\x7b".toList ++ Nat.toDigits 16 c.toNat ++ ['\x7d']

def quotedChar (c : Char) : List Char :=
  match c with
  | '"' => ['\\', '"']
  | '\\' => ['\\', '\\']
  | '\n' => ['\\', 'n']
  | '\r' => ['\\', 'r']
  | '\t' => ['\\', 't']
  | '\x00' => ['\\', '0']
  | c => if isUnprinted c then codePointText c else [c]

def quoted (text : List Char) : List Char := '"' :: text.flatMap quotedChar ++ ['"']

end ParcelPricing.Text
