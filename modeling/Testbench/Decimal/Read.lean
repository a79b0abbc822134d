/-!
# Reading decimals

A number is an optional sign, then digits with at most one point among them and at least one digit, and
then possibly an exponent; or, in any case of letters, one of the names of infinity and of the number
that is none.
-/
namespace Testbench.Decimal

def digitsOf (cs : List Char) : Nat := cs.foldl (fun n c => n * 10 + (c.toNat - 48)) 0

/-- A sign in front, and what follows it. -/
def signed : List Char → Bool × List Char
  | '-' :: cs => (true, cs)
  | '+' :: cs => (false, cs)
  | cs => (false, cs)

/-- The exponent after the digits; nothing means zero. -/
def exponent? : List Char → Option Int
  | [] => some 0
  | c :: cs =>
    if c = 'e' ∨ c = 'E' then
      let (negative, digits) := signed cs
      if digits.isEmpty || !digits.all Char.isDigit then none
      else some (if negative then -(digitsOf digits : Int) else digitsOf digits)
    else none

/-- A magnitude without its sign. -/
def magnitude? (cs : List Char) : Option Float :=
  let name := String.ofList (cs.map Char.toLower)
  if name = "inf" ∨ name = "infinity" then some (1.0 / 0.0)
  else if name = "nan" then some (0.0 / 0.0)
  else
    let whole := cs.takeWhile Char.isDigit
    let rest := cs.dropWhile Char.isDigit
    let (fraction, rest) :=
      match rest with
      | '.' :: more => (more.takeWhile Char.isDigit, more.dropWhile Char.isDigit)
      | _ => ([], rest)
    let digits := whole ++ fraction
    if digits.isEmpty then none
    else
      (exponent? rest).map fun written =>
        let n := digitsOf digits
        let e : Int := written - (fraction.length : Int)
        let lead := e + (Nat.toDigits 10 n).length
        if n = 0 then 0.0
        else if 400 < lead then 1.0 / 0.0
        else if lead < -400 then 0.0
        else Float.ofScientific n (e < 0) e.natAbs

/-- The number nearest to what a text says. -/
def read? (s : String) : Option Float :=
  let (negative, cs) := signed s.toList
  (magnitude? cs).map fun x => if negative then -x else x

end Testbench.Decimal
