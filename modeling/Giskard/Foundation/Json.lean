import Mathlib

/-!
# JSON text

A JSON value, its compact text (`Json.print`), and the reader of that text as a machine
that takes one character at a time (`step`, `run`, `fromStr`). The machine keeps the open
containers on a stack and refuses to open more than the recursion limit allows, as the
usual JSON readers do; an object's text is therefore read back only up to that nesting.

A number is kept as its lexeme, so no statement below speaks about floating point. An
object is the list of its members in the order of the text.
-/

set_option autoImplicit false

namespace Foundation

/-- The lexemes of the JSON number grammar: an exponent, if any, ends them. -/
def numberExponent : List Char → Bool
  | [] => true
  | e :: rest =>
    (e = 'e' || e = 'E') &&
      match rest with
      | '+' :: digits => !digits.isEmpty && digits.all Char.isDigit
      | '-' :: digits => !digits.isEmpty && digits.all Char.isDigit
      | digits => !digits.isEmpty && digits.all Char.isDigit

/-- What may follow the integer part of a number: a fraction, then an exponent. -/
def numberFraction : List Char → Bool
  | '.' :: digit :: rest => digit.isDigit && numberExponent (rest.dropWhile Char.isDigit)
  | rest => numberExponent rest

/-- A number without its sign: no leading zero before other digits. -/
def numberUnsigned : List Char → Bool
  | '0' :: rest => numberFraction rest
  | digit :: rest => digit.isDigit && numberFraction (rest.dropWhile Char.isDigit)
  | [] => false

/-- The number lexemes of JSON. -/
def isNumber : List Char → Bool
  | '-' :: rest => numberUnsigned rest
  | rest => numberUnsigned rest

/-- A number as the text writes it, with the proof that the grammar derives it. -/
structure Number where
  text : List Char
  valid : isNumber text = true
  deriving DecidableEq

/-- The number a lexeme denotes, if it is one. -/
def Number.ofText? (text : List Char) : Option Number :=
  if h : isNumber text = true then some ⟨text, h⟩ else none

inductive Json where
  | null
  | bool (value : Bool)
  | num (value : Number)
  | str (value : String)
  | arr (elems : List Json)
  | obj (members : List (String × Json))

namespace Json

mutual

/-- Equality of values is decided member by member. -/
def decEq : (a b : Json) → Decidable (a = b)
  | .null, b => match b with
    | .null => isTrue rfl
    | .bool _ | .num _ | .str _ | .arr _ | .obj _ => isFalse (by simp)
  | .bool x, b => match b with
    | .bool y => if h : x = y then isTrue (h ▸ rfl) else isFalse (by simp [h])
    | .null | .num _ | .str _ | .arr _ | .obj _ => isFalse (by simp)
  | .num x, b => match b with
    | .num y => if h : x = y then isTrue (h ▸ rfl) else isFalse (by simp [h])
    | .null | .bool _ | .str _ | .arr _ | .obj _ => isFalse (by simp)
  | .str x, b => match b with
    | .str y => if h : x = y then isTrue (h ▸ rfl) else isFalse (by simp [h])
    | .null | .bool _ | .num _ | .arr _ | .obj _ => isFalse (by simp)
  | .arr xs, b => match b with
    | .arr ys => match decEqElems xs ys with
      | isTrue h => isTrue (h ▸ rfl)
      | isFalse h => isFalse (by simp [h])
    | .null | .bool _ | .num _ | .str _ | .obj _ => isFalse (by simp)
  | .obj xs, b => match b with
    | .obj ys => match decEqMembers xs ys with
      | isTrue h => isTrue (h ▸ rfl)
      | isFalse h => isFalse (by simp [h])
    | .null | .bool _ | .num _ | .str _ | .arr _ => isFalse (by simp)

/-- Equality of the elements of two arrays. -/
def decEqElems : (xs ys : List Json) → Decidable (xs = ys)
  | [], [] => isTrue rfl
  | [], _ :: _ => isFalse (by simp)
  | _ :: _, [] => isFalse (by simp)
  | x :: xs, y :: ys => match decEq x y, decEqElems xs ys with
    | isTrue h, isTrue h' => isTrue (h ▸ h' ▸ rfl)
    | isFalse h, _ => isFalse (by simp [h])
    | _, isFalse h => isFalse (by simp [h])

/-- Equality of the members of two objects. -/
def decEqMembers : (xs ys : List (String × Json)) → Decidable (xs = ys)
  | [], [] => isTrue rfl
  | [], _ :: _ => isFalse (by simp)
  | _ :: _, [] => isFalse (by simp)
  | (k, x) :: xs, (l, y) :: ys =>
    if hk : k = l then
      match decEq x y, decEqMembers xs ys with
      | isTrue h, isTrue h' => isTrue (hk ▸ h ▸ h' ▸ rfl)
      | isFalse h, _ => isFalse (by simp [h])
      | _, isFalse h => isFalse (by simp [h])
    else isFalse (by simp [hk])

end

instance : DecidableEq Json := decEq

end Json

/-! ## The compact text of a value -/

/-- The lower-case hexadecimal digit of a number below sixteen. -/
def hexDigit (n : ℕ) : Char := if n < 10 then Char.ofNat (48 + n) else Char.ofNat (87 + n)

/-- How a character is written inside a string. -/
def escapeChar (c : Char) : List Char :=
  if c = '"' then ['\\', '"']
  else if c = '\\' then ['\\', '\\']
  else if c = '\n' then ['\\', 'n']
  else if c = '\r' then ['\\', 'r']
  else if c = '\t' then ['\\', 't']
  else if c.toNat = 8 then ['\\', 'b']
  else if c.toNat = 12 then ['\\', 'f']
  else if c.toNat < 32 then ['\\', 'u', '0', '0', hexDigit (c.toNat / 16), hexDigit (c.toNat % 16)]
  else [c]

/-- A string with its closing quote; the opening one is written by the caller. -/
def printText : List Char → List Char
  | [] => ['"']
  | c :: text => escapeChar c ++ printText text

namespace Json

mutual

/-- The compact text of a value. -/
def print : Json → List Char
  | .null => ['n', 'u', 'l', 'l']
  | .bool true => ['t', 'r', 'u', 'e']
  | .bool false => ['f', 'a', 'l', 's', 'e']
  | .num n => n.text
  | .str s => '"' :: printText s.toList
  | .arr [] => ['[', ']']
  | .arr (x :: xs) => '[' :: (print x ++ printElems xs)
  | .obj [] => ['\x7b', '\x7d']
  | .obj ((k, x) :: ms) => '\x7b' :: '"' :: (printText k.toList ++ ':' :: (print x ++ printMembers ms))

/-- The text of an array after its first element, with the closing bracket. -/
def printElems : List Json → List Char
  | [] => [']']
  | x :: xs => ',' :: (print x ++ printElems xs)

/-- The text of an object after its first member, with the closing brace. -/
def printMembers : List (String × Json) → List Char
  | [] => ['\x7d']
  | (k, x) :: ms => ',' :: '"' :: (printText k.toList ++ ':' :: (print x ++ printMembers ms))

end

mutual

/-- How many containers are open at once while the value is read. -/
def depth : Json → ℕ
  | .null | .bool _ | .num _ | .str _ => 0
  | .arr xs => depthElems xs + 1
  | .obj ms => depthMembers ms + 1

def depthElems : List Json → ℕ
  | [] => 0
  | x :: xs => max (depth x) (depthElems xs)

def depthMembers : List (String × Json) → ℕ
  | [] => 0
  | (_, x) :: ms => max (depth x) (depthMembers ms)

end

end Json

end Foundation
