import Testbench.Decimal.Shortest
import Testbench.Json.Reader
/-!
# JSON numbers

An integer of 64 bits stays an integer; any other number becomes a binary64 number, by one
multiplication with or division by a power of ten.
-/
namespace Testbench.Json

inductive Number where
  | natural (n : Nat)
  | negative (n : Nat)
  | decimal (x : Float)

/-- What was found if this number was not expected. -/
def Number.found : Number → Found
  | natural n => .integer n
  | negative n => .integer (-n)
  | decimal x => .decimal (Decimal.plain x)

def startsWithDigit : List Char → Bool
  | c :: _ => c.isDigit
  | [] => false

/-- Digits are added to a number as long as it stays below `limit`. -/
def takeDigits (limit n : Nat) : List Char → Nat × List Char
  | [] => (n, [])
  | c :: s =>
    if c.isDigit && n * 10 + (c.toNat - 48) < limit then
      takeDigits limit (n * 10 + (c.toNat - 48)) s
    else (n, c :: s)

def powerOfTen (n : Nat) : Float := Float.ofScientific 1 false n

/-- The number `x * 10 ^ e`, unless it is too large; `fuel` bounds the steps for small ones. -/
def scaled (x : Float) (e : Int) : Nat → Option Float
  | 0 => some x
  | fuel + 1 =>
    if e.natAbs ≤ 308 then
      if 0 ≤ e then
        let y := x * powerOfTen e.natAbs
        if y.isInf then none else some y
      else some (x / powerOfTen e.natAbs)
    else if x == 0.0 then some x
    else if 0 ≤ e then none
    else scaled (x / powerOfTen 308) (e + 308) fuel

/-- The number with this sign, significand and exponent. -/
def fromParts (negative : Bool) (significand : Nat) (e : Int) (s : List Char) :
    Except Problem (Number × List Char) :=
  match scaled significand.toUInt64.toFloat e (e.natAbs / 308 + 2) with
  | none => .error (.here .outOfRange s)
  | some x => .ok (.decimal (if negative then -x else x), s)

/-- The digits of an exponent after its sign. -/
def readExponentDigits (negative : Bool) (significand : Nat) (e : Int) (down : Bool) :
    Reader Number
  | [] => .error (.here .endInValue [])
  | c :: s =>
    if c.isDigit then
      let (n, r) := takeDigits (Nat.pow 2 31) 0 (c :: s)
      if startsWithDigit r then
        if significand ≠ 0 ∧ !down then .error (.atNext .outOfRange r)
        else .ok (.decimal (if negative then -0.0 else 0.0), r.dropWhile Char.isDigit)
      else fromParts negative significand (if down then e - n else e + n) r
    else .error (.atNext .invalidNumber (c :: s))

/-- An exponent after its letter. -/
def readExponent (negative : Bool) (significand : Nat) (e : Int) : Reader Number
  | '+' :: s => readExponentDigits negative significand e false s
  | '-' :: s => readExponentDigits negative significand e true s
  | s => readExponentDigits negative significand e false s

/-- An exponent if one follows. -/
def readTail (negative : Bool) (significand : Nat) (e : Int) : Reader Number
  | [] => fromParts negative significand e []
  | c :: s =>
    if c = 'e' ∨ c = 'E' then readExponent negative significand e s
    else fromParts negative significand e (c :: s)

/-- The digits after a point; those past 64 bits are dropped. -/
def readFraction (negative : Bool) (significand : Nat) (e : Int) : Reader Number := fun s =>
  let (n, r) := takeDigits UInt64.size significand s
  let taken : Nat := s.length - r.length
  if startsWithDigit r then readTail negative n (e - taken) (r.dropWhile Char.isDigit)
  else if taken = 0 then
    if r.isEmpty then .error (.atNext .endInValue r) else .error (.atNext .invalidNumber r)
  else readTail negative n (e - taken) r

/-- What follows the digits of an integer that has more than 64 bits. -/
def readLong (negative : Bool) (significand : Nat) : Reader Number := fun s =>
  let r := s.dropWhile Char.isDigit
  let e : Int := (s.length - r.length : Nat)
  match r with
  | '.' :: r' => readFraction negative significand e r'
  | r' => readTail negative significand e r'

/-- What follows the digits of an integer of 64 bits. -/
def afterInteger (negative : Bool) (n : Nat) : Reader Number
  | '.' :: s => readFraction negative n 0 s
  | s =>
    match s with
    | c :: r =>
      if c = 'e' ∨ c = 'E' then readExponent negative n 0 r else .ok (whole, s)
    | [] => .ok (whole, s)
where
  /-- The integer itself, unless its sign takes it out of 64 bits or it is a negative zero. -/
  whole : Number :=
    if !negative then .natural n
    else if n = 0 ∨ Nat.pow 2 63 < n then .decimal (-n.toUInt64.toFloat)
    else .negative n

/-- A number after its sign. -/
def readNumber (negative : Bool) : Reader Number
  | [] => .error (.here .endInValue [])
  | c :: s =>
    if c = '0' then
      if startsWithDigit s then .error (.atNext .invalidNumber s) else afterInteger negative 0 s
    else if c.isDigit then
      let (n, r) := takeDigits UInt64.size 0 (c :: s)
      if startsWithDigit r then readLong negative n r else afterInteger negative n r
    else .error (.atNext .invalidNumber (c :: s))

/-! ## Numbers that nobody asked for -/

def skipExponentDigits : List Char → Except Problem (List Char)
  | [] => .error (.here .invalidNumber [])
  | c :: s =>
    if c.isDigit then .ok (s.dropWhile Char.isDigit)
    else .error (.atNext .invalidNumber (c :: s))

def skipExponent : List Char → Except Problem (List Char)
  | '+' :: s => skipExponentDigits s
  | '-' :: s => skipExponentDigits s
  | s => skipExponentDigits s

def skipFraction (s : List Char) : Except Problem (List Char) :=
  if startsWithDigit s then
    match s.dropWhile Char.isDigit with
    | 'e' :: r => skipExponent r
    | 'E' :: r => skipExponent r
    | r => .ok r
  else .error (.atNext .invalidNumber s)

/-- What is left after a number, whatever its size. -/
def skipNumber : List Char → Except Problem (List Char)
  | [] => .error (.here .invalidNumber [])
  | c :: s =>
    if c = '0' then
      if startsWithDigit s then .error (.atNext .invalidNumber s) else tail s
    else if c.isDigit then tail (s.dropWhile Char.isDigit)
    else .error (.atNext .invalidNumber (c :: s))
where
  tail : List Char → Except Problem (List Char)
    | '.' :: r => skipFraction r
    | 'e' :: r => skipExponent r
    | 'E' :: r => skipExponent r
    | r => .ok r

end Testbench.Json
