import ComposeHarness.Data.Content
import ComposeHarness.Text.Decimal
import ComposeHarness.Yaml.Node

/-!
# What scalars mean

A scalar is read as a text wherever a text is wanted. Where anything may stand, a plain scalar is
null, a truth value, an integer or a float if it is written like one, and a text otherwise; the tags
of the core schema force one of these readings.
-/
namespace ComposeHarness.Yaml

def isNull (s : String) : Bool := s == "null" || s == "Null" || s == "NULL" || s == "~"

def bool? (s : String) : Option Bool :=
  if s == "true" || s == "True" || s == "TRUE" then some true
  else if s == "false" || s == "False" || s == "FALSE" then some false
  else none

/-! ### Numbers -/

def dropSign (cs : List Char) : List Char :=
  match cs with
  | '-' :: rest => rest
  | '+' :: rest => rest
  | _ => cs

/-- Digits with a zero in front are no number, a zero alone is. -/
def isPaddedNumber (cs : List Char) : Bool :=
  match dropSign cs with
  | '0' :: rest => !rest.isEmpty && rest.all Char.isDigit
  | _ => false

/-- An integer of any size: decimal, or with a prefix hexadecimal, octal or binary. -/
def integer? (s : String) : Option Int :=
  let cs := s.toList
  let (negative, digits) := Text.splitSign cs
  let value := match digits with
    | '0' :: 'x' :: rest => Text.numeral? 16 rest
    | '0' :: 'o' :: rest => Text.numeral? 8 rest
    | '0' :: 'b' :: rest => Text.numeral? 2 rest
    | _ => if isPaddedNumber cs then none else Text.numeral? 10 digits
  value.map fun n => if negative then -(n : Int) else n

/-- Whether a text is a decimal fraction that does not round to an infinity: digits with at most one
point among them, and an exponent. -/
def isDecimalFraction (cs : List Char) : Bool :=
  let cs := dropSign cs
  let whole := cs.takeWhile Char.isDigit
  let rest := cs.dropWhile Char.isDigit
  let (places, rest) := match rest with
    | '.' :: rest => (rest.takeWhile Char.isDigit, rest.dropWhile Char.isDigit)
    | _ => ([], rest)
  let exponent : Option Int := match rest with
    | [] => some 0
    | e :: rest =>
      if e == 'e' || e == 'E' then
        let minus := rest.head? == some '-'
        (Text.numeral? 10 (dropSign rest)).bind fun n =>
          if (dropSign rest).all Char.isDigit then some (if minus then -(n : Int) else n) else none
      else none
  match exponent with
  | none => false
  | some power =>
    !(whole.isEmpty && places.isEmpty) &&
      Text.isFinite (Text.numeral 10 (whole ++ places)) (power - places.length)

def isFloat (s : String) : Bool :=
  let cs := s.toList
  let positive := match cs with
    | '+' :: rest => rest
    | _ => cs
  let signTwice :=
    cs.head? == some '+' && (positive.head? == some '+' || positive.head? == some '-')
  let rest := String.ofList positive
  !signTwice &&
    ([".inf", ".Inf", ".INF"].contains rest ||
      ["-.inf", "-.Inf", "-.INF", ".nan", ".NaN", ".NAN"].contains s ||
      isDecimalFraction positive)

/-- Integers that 64 bits can hold; other integers cannot be kept. `s` is the integer as it is
written. -/
def keepInteger (s : String) (n : Int) : Except String Data.Content :=
  if -Int.pow 2 63 ≤ n ∧ n < Int.pow 2 64 then
    .ok (if s.startsWith "-" then .negative (-n).toNat else .natural n.toNat)
  else .error "integer out of range"

/-- Whether an integer is one that 128 bits can hold. -/
def isWide (n : Int) : Bool := -Int.pow 2 127 ≤ n && n < Int.pow 2 128

/-- A plain scalar without a tag. -/
def plainContent (s : String) : Except String Data.Content :=
  if s.isEmpty || isNull s then .ok .unit
  else
    match bool? s with
    | some b => .ok (.bool b)
    | none =>
      match (integer? s).filter isWide with
      | some n => keepInteger s n
      | none =>
        if !isPaddedNumber s.toList && isFloat s then .ok .float else .ok (.text s)

/-- A scalar where anything may stand. A local tag that names nothing changes nothing. -/
def scalarContent (tag : Option Tag) (style : Style) (s : String) :
    Except String Data.Content :=
  let untagged := if style = .plain then plainContent s else .ok (.text s)
  match tag with
  | none => untagged
  | some t =>
    if t.localName?.isSome then .error "unexpected local tag"
    else if t = Tag.core "bool" then
      match bool? s with
      | some b => .ok (.bool b)
      | none => .error "expected a boolean"
    else if t = Tag.core "int" then
      match (integer? s).filter isWide with
      | some n => keepInteger s n
      | none => .error "expected an integer"
    else if t = Tag.core "float" then
      if isFloat s then .ok .float else .error "expected a float"
    else if t = Tag.core "null" then if isNull s then .ok .unit else .error "expected null"
    else if t.isLocal then untagged
    else .ok (.text s)

end ComposeHarness.Yaml
