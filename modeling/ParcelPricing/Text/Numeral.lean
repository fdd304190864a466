/-! Numbers in decimal. Only ASCII digits count. -/
namespace ParcelPricing.Text

def decimal (n : Nat) : List Char := Nat.toDigits 10 n

def signedDecimal : Int → List Char
  | .ofNat n => decimal n
  | .negSucc n => '-' :: decimal (n + 1)

/-- At least `width` digits, with zeros in front. -/
def padded (width n : Nat) : List Char :=
  List.replicate (width - (decimal n).length) '0' ++ decimal n

def value (digits : List Char) : Nat := Nat.ofDigitChars 10 digits 0

def leadingDigits (text : List Char) : List Char := text.takeWhile Char.isDigit

/-- Reads one digit or more, at most `most` of them, and returns what follows. -/
def readDigits (most : Nat) (text : List Char) : Option (Nat × List Char) :=
  let digits := leadingDigits (text.take most)
  if digits = [] then none else some (value digits, text.drop digits.length)

/-- Reads exactly `count` digits. -/
def readExactly (count : Nat) (text : List Char) : Option (Nat × List Char) :=
  if (leadingDigits (text.take count)).length = count then readDigits count text else none

def expect (c : Char) : List Char → Option (List Char)
  | d :: rest => if d = c then some rest else none
  | [] => none

end ParcelPricing.Text
