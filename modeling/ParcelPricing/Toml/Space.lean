namespace ParcelPricing.Toml

def isSpace (c : Char) : Bool := c = ' ' || c = '\t'

def isLineEnd (c : Char) : Bool := c = '\n' || c = '\r'

/-- No control but the tab stands inside a line. -/
def isPermitted : List Char → Bool
  | '\r' :: '\n' :: rest => isPermitted rest
  | c :: rest =>
    (c = '\t' || c = '\n' || (0x20 ≤ c.toNat && c.toNat ≠ 0x7F)) && isPermitted rest
  | [] => true

def skipSpace (text : List Char) : List Char := text.dropWhile isSpace

def skipLine (text : List Char) : List Char := text.dropWhile fun c => !isLineEnd c

/-- Past spaces, line ends and comments. -/
def skipLines : List Char → List Char
  | [] => []
  | c :: rest =>
    if isSpace c || isLineEnd c then skipLines rest
    else if c = '#' then skipLines (skipLine rest)
    else c :: rest
termination_by text => text.length
decreasing_by
  · simp
  · have := (List.dropWhile_sublist (l := rest) fun c => !isLineEnd c).length_le
    simp only [skipLine, List.length_cons]
    omega

/-- The end of a line, after an optional comment. -/
def endLine (text : List Char) : Option (List Char) :=
  let rest := match skipSpace text with
    | '#' :: rest => skipLine rest
    | rest => rest
  match rest with
  | [] => some []
  | c :: rest => if isLineEnd c then some rest else none

end ParcelPricing.Toml
