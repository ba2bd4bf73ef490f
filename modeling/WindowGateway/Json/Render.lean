import WindowGateway.Decimal.Shortest
import WindowGateway.Json.Value
import WindowGateway.Text.Utf8

/-! The compact text of a JSON document: no blanks, members in their order, and in strings only the
escapes that cannot be left out. -/

namespace WindowGateway.Json

/-- A character inside a string literal. -/
def escapeChar (c : Char) : List Char :=
  if c = '"' ∨ c = '\\' then ['\\', c]
  else if c = '\x08' then ['\\', 'b']
  else if c = '\x0c' then ['\\', 'f']
  else if c = '\n' then ['\\', 'n']
  else if c = '\r' then ['\\', 'r']
  else if c = '\t' then ['\\', 't']
  else if c.toNat < 0x20 then
    ['\\', 'u', '0', '0', Nat.digitChar (c.toNat / 16), Nat.digitChar (c.toNat % 16)]
  else [c]

def literal (s : String) : List Char := '"' :: s.toList.flatMap escapeChar ++ ['"']

def naturalChars (n : Nat) : List Char := Nat.toDigits 10 n

/-- An integer, with a minus sign if it is negative. -/
def intChars : Int → List Char
  | .ofNat n => naturalChars n
  | .negSucc n => '-' :: naturalChars (n + 1)

/-- The text of `digits · 10^(leading - length + 1)`, where `leading` is the exponent of the first
digit: positional from `10^-5` up to below `10^16`, always with a point, and otherwise one digit
before the point and an exponent with its sign. -/
def decimalChars (digits : List Char) (leading : Int) : List Char :=
  if leading < -5 ∨ 15 < leading then
    let point := if digits.length ≤ 1 then digits else digits.take 1 ++ '.' :: digits.drop 1
    point ++ 'e' :: (if leading < 0 then '-' else '+') :: naturalChars leading.natAbs
  else if leading < 0 then
    '0' :: '.' :: List.replicate (leading.natAbs - 1) '0' ++ digits
  else
    let whole := leading.toNat + 1
    if digits.length ≤ whole then
      digits ++ List.replicate (whole - digits.length) '0' ++ ['.', '0']
    else digits.take whole ++ '.' :: digits.drop whole

/-- The text of a nonnegative floating-point number, by its shortest digits. -/
def binary64Chars (x : Binary64) : List Char :=
  if x.isZero then ['0', '.', '0']
  else
    let d := Decimal.shortest x
    let digits := naturalChars d.digits
    decimalChars digits (d.place + digits.length - 1)

def Number.chars : Number → List Char
  | integer value _ => intChars value
  | real negative magnitude => (if negative then ['-'] else []) ++ binary64Chars magnitude

namespace Value

mutual

def chars : Value → List Char
  | null => ['n', 'u', 'l', 'l']
  | bool true => ['t', 'r', 'u', 'e']
  | bool false => ['f', 'a', 'l', 's', 'e']
  | number n => n.chars
  | string s => literal s
  | array items => '[' :: itemsChars items ++ [']']
  | object members => '\x7b' :: membersChars members ++ ['\x7d']

/-- The items of an array, with commas between them. -/
def itemsChars : List Value → List Char
  | [] => []
  | [v] => v.chars
  | v :: vs => v.chars ++ ',' :: itemsChars vs

/-- The members of an object, with commas between them. -/
def membersChars : List (String × Value) → List Char
  | [] => []
  | [(key, v)] => literal key ++ ':' :: v.chars
  | (key, v) :: ms => literal key ++ ':' :: v.chars ++ ',' :: membersChars ms

end

end Value

namespace Document

def render (d : Document) : String := String.ofList d.value.chars

def bytes (d : Document) : List UInt8 := Text.Utf8.encode d.value.chars

end Document

end WindowGateway.Json
