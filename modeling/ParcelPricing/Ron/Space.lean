namespace ParcelPricing.Ron

def isSpace (c : Char) : Bool :=
  (9 ≤ c.toNat && c.toNat ≤ 13) || [0x20, 0x85, 0x200E, 0x200F, 0x2028, 0x2029].contains c.toNat

/-- The text after so many open comments and all blanks, none if a comment does not end. The first
argument bounds the work. -/
def skip : Nat → Nat → List Char → Option (List Char)
  | 0, _, _ => none
  | fuel + 1, 0, '/' :: '/' :: text => skip fuel 0 (text.dropWhile (· ≠ '\n'))
  | fuel + 1, depth, '/' :: '*' :: text => skip fuel (depth + 1) text
  | fuel + 1, depth + 1, '*' :: '/' :: text => skip fuel depth text
  | fuel + 1, depth + 1, _ :: text => skip fuel (depth + 1) text
  | fuel + 1, 0, c :: text => if isSpace c then skip fuel 0 text else some (c :: text)
  | _ + 1, 0, [] => some []
  | _ + 1, _ + 1, [] => none

def skipSpace (text : List Char) : Option (List Char) := skip text.length.succ 0 text

end ParcelPricing.Ron
