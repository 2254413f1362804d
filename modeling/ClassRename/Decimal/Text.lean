import ClassRename.Decimal.Shortest

/-!
# The text of a double in a message

A double is written with its shortest digits: positionally where the first digit stands no more than
sixteen places before the point and no more than five after it, and with an exponent elsewhere. A
positional number always has a point.
-/

namespace ClassRename.Decimal

/-- The text of digits whose point stands after `places` of them, which may be negative. -/
def layout (digits : List Char) (places : Int) : List Char :=
  let count : Int := digits.length
  if count ≤ places ∧ places ≤ 16 then
    digits ++ List.replicate (places - count).toNat '0' ++ ['.', '0']
  else if 0 < places ∧ places ≤ 16 then
    digits.take places.toNat ++ '.' :: digits.drop places.toNat
  else if -5 < places ∧ places ≤ 0 then
    '0' :: '.' :: List.replicate (-places).toNat '0' ++ digits
  else
    let exponent := (toString (places - 1)).toList
    match digits with
    | [] => []
    | [first] => first :: 'e' :: exponent
    | first :: later => first :: '.' :: later ++ 'e' :: exponent

def text (value : Float) : String :=
  let negative := value.toBits.toNat / Nat.pow 2 63 = 1
  let sign := if negative then "-" else ""
  if value == 0.0 then sign ++ "0.0"
  else
    let found := shortest value.abs
    let digits := Nat.toDigits 10 found.digits
    sign ++ String.ofList (layout digits (digits.length + found.exponent))

end ClassRename.Decimal
