import RecordFilter.Text.Parser

set_option autoImplicit false

/-!
The scalars of a settings file in key-value form: four kinds of strings, truth values, numbers in
four bases, floats, and dates. Of numbers and dates only the form matters here, and that they are
in range.
-/

namespace RecordFilter.Toml

open Text (Parser)
open Text.Parser

def isBlank (c : Char) : Bool := c == ' ' || c == '\t'

/-- Characters that may stand in a comment or a string on one line. -/
def isPrintable (c : Char) : Bool := c == '\t' || (' ' ≤ c && c ≠ '\x7f')

def blanks : Parser Unit := discard (span isBlank)

def newline : Parser Unit := exactly "\n" <|> exactly "\r\n"

def comment : Parser Unit := do char '#'; discard (span isPrintable)

/-! ### Strings -/

/-- A code point in a fixed number of hexadecimal digits. -/
private def codePoint (digits : Nat) : Parser Char := do
  let ds ← times digits (satisfy fun c => (Text.hexValue? c).isSome)
  match Text.charOfCodePoint? (Text.digitsValue 16 ds) with
  | some c => return c
  | none => failure

/-- What follows a backslash. -/
private def escapeBody : Parser Char := do
  match ← satisfy fun _ => true with
  | 'b' => return '\x08'
  | 't' => return '\t'
  | 'n' => return '\n'
  | 'f' => return '\x0c'
  | 'r' => return '\r'
  | '"' => return '"'
  | '\\' => return '\\'
  | 'u' => codePoint 4
  | 'U' => codePoint 8
  | _ => failure

private def basicChar : Parser Char :=
  satisfy (fun c => isPrintable c && c ≠ '"' && c ≠ '\\') <|> (char '\\' *> escapeBody)

private def literalChar : Parser Char := satisfy fun c => isPrintable c && c ≠ '\''

def basicString : Parser String := do
  char '"'
  let body ← many basicChar
  char '"'
  return String.ofList body

def literalString : Parser String := do
  char '\''
  let body ← many literalChar
  char '\''
  return String.ofList body

/-- A backslash at the end of a line: it takes all following space with it. -/
private def lineContinuation : Parser Unit := do
  char '\\'
  blanks
  newline
  discard (many (discard (satisfy isBlank) <|> newline))

/-- One piece of a string over several lines. -/
private def multilinePiece (delimiter : Char) : Parser (List Char) :=
  (newline *> pure ['\n']) <|>
    (if delimiter == '"' then (lineContinuation *> pure []) <|> (return [← basicChar])
      else return [← literalChar])

/-- One or two delimiters that do not end the string. -/
private def innerQuotes (delimiter : Char) : Parser (List Char) := do
  let run := ((← get).takeWhile (· == delimiter)).length
  if run == 1 || run == 2 then span (· == delimiter) else failure

/-- A string over several lines. Up to two delimiters may stand right before the three that
end it. -/
private def multilineString (delimiter : Char) : Parser String := do
  discard (times 3 (char delimiter))
  discard (optional newline)
  let body ← many (multilinePiece delimiter <|> innerQuotes delimiter)
  let closing ← span (· == delimiter)
  if 3 ≤ closing.length && closing.length ≤ 5 then
    return String.ofList (body.flatten ++ closing.drop 3)
  else failure

def string : Parser String :=
  multilineString '"' <|> multilineString '\'' <|> basicString <|> literalString

/-! ### Numbers -/

/-- Digits with single underscores between them. -/
private def digits (isDigit : Char → Bool) : Parser (List Char) := do
  let first ← satisfy isDigit
  let rest ← many ((optional (char '_')) *> satisfy isDigit)
  return first :: rest

private def sign : Parser Bool := (char '-' *> pure true) <|> (optional (char '+') *> pure false)

/-- Decimal digits without a leading zero. -/
private def wholeNumber : Parser (List Char) := do
  match ← peekChar? with
  | some '0' => return [← satisfy (· == '0')]
  | _ => digits Char.isDigit

private def basedInteger (mark : String) (base : Nat) : Parser Nat := do
  exactly mark
  let ds ← digits fun c => (Text.hexValue? c).any (· < base)
  return Text.digitsValue base ds

/-- An integer of 64 bits with a sign. -/
private def integer : Parser Unit := do
  let based ← optional (basedInteger "0x" 16 <|> basedInteger "0o" 8 <|> basedInteger "0b" 2)
  match based with
  | some n => if n < Nat.pow 2 63 then pure () else failure
  | none =>
    let negative ← sign
    let n := Text.digitsValue 10 (← wholeNumber)
    if n < Nat.pow 2 63 || (negative && n == Nat.pow 2 63) then pure () else failure

private def exponent : Parser Int := do
  discard (satisfy fun c => c == 'e' || c == 'E')
  let negative ← sign
  let n : Int := Text.digitsValue 10 (← digits Char.isDigit)
  return if negative then -n else n

/-- Whether a positive decimal number is too large for double precision. -/
private def overflows (mantissa : Nat) (exponent : Int) : Bool :=
  let limit := (Nat.pow 2 54 - 1) * Nat.pow 2 970
  if mantissa == 0 then false
  else if 400 < exponent then true
  else if 0 ≤ exponent then limit ≤ mantissa * Nat.pow 10 exponent.toNat
  else limit * Nat.pow 10 (min (-exponent).toNat ((Nat.toDigits 10 mantissa).length)) ≤ mantissa

/-- A float; a positive one must be finite. -/
private def float : Parser Unit := do
  let negative ← sign
  let special ← optional (exactly "inf" <|> exactly "nan")
  if special.isSome then return
  let whole ← wholeNumber
  let fraction ← optional (char '.' *> digits Char.isDigit)
  let power ← optional exponent
  if fraction.isNone && power.isNone then failure
  let places := fraction.getD []
  if !negative && overflows (Text.digitsValue 10 (whole ++ places)) (power.getD 0 - places.length)
  then failure

/-! ### Dates -/

private def twoDigits (low high : Nat) : Parser Nat := do
  let n := Text.digitsValue 10 (← times 2 (satisfy Char.isDigit))
  if low ≤ n && n ≤ high then return n else failure

private def daysIn (year month : Nat) : Nat :=
  if month == 2 then
    if year % 4 == 0 && (year % 100 ≠ 0 || year % 400 == 0) then 29 else 28
  else if [4, 6, 9, 11].contains month then 30
  else 31

private def date : Parser Unit := do
  let year := Text.digitsValue 10 (← times 4 (satisfy Char.isDigit))
  char '-'
  let month ← twoDigits 1 12
  char '-'
  discard (twoDigits 1 (daysIn year month))

private def time : Parser Unit := do
  discard (twoDigits 0 23)
  char ':'
  discard (twoDigits 0 59)
  char ':'
  discard (twoDigits 0 60)
  discard (optional (do char '.'; discard (satisfy Char.isDigit); discard (span Char.isDigit)))

private def timeOffset : Parser Unit :=
  discard (satisfy fun c => c == 'Z' || c == 'z') <|> do
    discard (satisfy fun c => c == '+' || c == '-')
    discard (twoDigits 0 23)
    char ':'
    discard (twoDigits 0 59)

private def dateTime : Parser Unit :=
  (do
    date
    discard <| optional do
      discard (satisfy fun c => c == 'T' || c == 't' || c == ' ')
      time
      discard (optional timeOffset)) <|> time

/-- A number or a date. -/
def plainScalar : Parser Unit := dateTime <|> float <|> integer

def boolean : Parser Bool :=
  (exactly "true" *> pure true) <|> (exactly "false" *> pure false)

end RecordFilter.Toml
