set_option autoImplicit false

/-!
Small parsers over lists of characters. A parser yields a result and the rest of the input, or
fails and leaves the choice to an alternative.
-/

namespace RecordFilter.Text

abbrev Parser := StateT (List Char) Option

namespace Parser

variable {α β : Type}

/-- The next characters, which stay in the input. -/
def peek (n : Nat) : Parser (List Char) := return (← get).take n

/-- The next character, which stays in the input. -/
def peekChar? : Parser (Option Char) := return (← get).head?

def satisfy (p : Char → Bool) : Parser Char := do
  match ← get with
  | c :: rest => if p c then set rest; return c else failure
  | [] => failure

def char (c : Char) : Parser Unit := do discard (satisfy (· == c))

/-- Exactly the given characters. -/
def exactly (s : String) : Parser Unit := s.toList.forM char

/-- As many characters of a kind as there are. -/
def span (p : Char → Bool) : Parser (List Char) := do
  let input ← get
  set (input.dropWhile p)
  return input.takeWhile p

private def manyUpTo (p : Parser α) : Nat → Parser (List α)
  | 0 => pure []
  | n + 1 => (do let a ← p; return a :: (← manyUpTo p n)) <|> pure []

/-- A parser as often as it succeeds. It has to use up input every time. -/
def many (p : Parser α) : Parser (List α) := do manyUpTo p (← get).length

/-- One or more results with separators between them. -/
def separated (p : Parser α) (separator : Parser β) : Parser (List α) := do
  let first ← p
  return first :: (← many (separator *> p))

/-- A parser repeated a fixed number of times. -/
def times : Nat → Parser α → Parser (List α)
  | 0, _ => pure []
  | n + 1, p => do let a ← p; return a :: (← times n p)

/-- The end of the input. -/
def finished : Parser Unit := do if (← get).isEmpty then pure () else failure

/-- The result of a parser that uses up all of its input. -/
def parse? (p : Parser α) (input : List Char) : Option α := (p <* finished).run' input

end Parser

/-- The value of a hexadecimal digit. -/
def hexValue? (c : Char) : Option Nat :=
  if '0' ≤ c && c ≤ '9' then some (c.toNat - '0'.toNat)
  else if 'a' ≤ c && c ≤ 'f' then some (c.toNat - 'a'.toNat + 10)
  else if 'A' ≤ c && c ≤ 'F' then some (c.toNat - 'A'.toNat + 10)
  else none

/-- The number written by digits of a base. -/
def digitsValue (base : Nat) (digits : List Char) : Nat :=
  digits.foldl (fun n c => n * base + (hexValue? c).getD 0) 0

/-- The character with a code point, if there is one. -/
def charOfCodePoint? (n : Nat) : Option Char :=
  if n < 0xd800 || (0xe000 ≤ n && n ≤ 0x10ffff) then some (Char.ofNat n) else none

end RecordFilter.Text
