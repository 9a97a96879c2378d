import ComposeHarness.Machine.Arithmetic
import ComposeHarness.Text.Binary64

/-!
# Formatted texts

What the shell's printf makes of a format and its arguments, and what its echo makes of escapes.
Formats are used again as long as arguments are left. All texts are texts of bytes.
-/
namespace ComposeHarness.Machine.Format

open Text (Binary64)

/-! ### Escapes -/

/-- The characters that a letter after a backslash stands for. -/
def letters : List (Char × Nat) :=
  [('\\', 92), ('a', 7), ('b', 8), ('e', 27), ('f', 12), ('n', 10), ('r', 13), ('t', 9), ('v', 11)]

def isOctal (c : Char) : Bool := Text.isDigitOf 8 c

/-- What follows a backslash: the character that both stand for, and what comes after it. A backslash
before anything else stands for itself. -/
def escape (cs : List Char) : Char × List Char :=
  let digits := (cs.take 3).takeWhile isOctal
  if !digits.isEmpty then (Char.ofNat (Text.numeral 8 digits % 256), cs.drop digits.length)
  else
    match cs with
    | c :: rest =>
      match letters.lookup c with
      | some n => (Char.ofNat n, rest)
      | none => ('\\', cs)
    | [] => ('\\', [])

/-- The text that escapes stand for, and whether one of them ends all output. Here octal digits may
follow a zero. -/
def unescape : (fuel : Nat) → List Char → List Char → String × Bool
  | 0, taken, _ => (String.ofList taken.reverse, false)
  | _, taken, [] => (String.ofList taken.reverse, false)
  | fuel + 1, taken, '\\' :: rest =>
    match rest with
    | 'c' :: _ => (String.ofList taken.reverse, true)
    | '0' :: d :: more =>
      let (c, after) := escape (if isOctal d then d :: more else rest)
      unescape fuel (c :: taken) after
    | _ =>
      let (c, after) := escape rest
      unescape fuel (c :: taken) after
  | fuel + 1, taken, c :: rest => unescape fuel (c :: taken) rest

/-- The text that escapes in an argument stand for, and whether one of them ends all output. -/
def escaped (s : String) : String × Bool := unescape (s.length + 1) [] s.toList

/-- What echo writes. -/
def echo (args : List String) : String :=
  match args with
  | "-n" :: rest => joined "" rest
  | _ => joined "\n" args
where
  joined (last : String) : List String → String
    | [] => last
    | arg :: rest =>
      let (text, stops) := escaped arg
      if stops then text
      else if rest.isEmpty then text ++ last
      else text ++ " " ++ joined last rest

/-! ### Conversions -/

/-- How a value is to be written. -/
structure Spec where
  left : Bool := false
  plus : Bool := false
  blank : Bool := false
  alternate : Bool := false
  zeros : Bool := false
  width : Nat := 0
  places : Option Nat := none
  deriving Repr

namespace Spec

/-- Fills a text up to the width. Zeros come between its head and its body. -/
def fill (s : Spec) (zeros : Bool) (head body : String) : String :=
  let gap := s.width - (head.length + body.length)
  let of (c : Char) : String := String.ofList (List.replicate gap c)
  if s.left then head ++ body ++ of ' '
  else if zeros then head ++ of '0' ++ body
  else of ' ' ++ head ++ body

def sign (s : Spec) (negative : Bool) : String :=
  if negative then "-" else if s.plus then "+" else if s.blank then " " else ""

def text (s : Spec) (value : String) : String :=
  s.fill false "" (match s.places with
    | some n => String.ofList (value.toList.take n)
    | none => value)

/-- The digits of a number: no fewer than the places, and none for a zero without places. -/
def digits (s : Spec) (base n : Nat) : String :=
  let ds := if n = 0 && s.places = some 0 then [] else Nat.toDigits base n
  String.ofList (List.replicate (s.places.getD 1 - ds.length) '0' ++ ds)

def signed (s : Spec) (n : Int) : String :=
  s.fill (s.zeros && s.places.isNone) (s.sign (n < 0)) (s.digits 10 n.natAbs)

def unsigned (s : Spec) (kind : Char) (n : Nat) : String :=
  let zeros := s.zeros && s.places.isNone
  match kind with
  | 'u' => s.fill zeros "" (s.digits 10 n)
  | 'o' =>
    let ds := s.digits 8 n
    s.fill zeros "" (if s.alternate && ds.toList.head? ≠ some '0' then "0" ++ ds else ds)
  | _ =>
    let head := if s.alternate && n ≠ 0 then "0x" else ""
    let whole := s.fill zeros head (s.digits 16 n)
    if kind = 'X' then whole.map Char.toUpper else whole

def fraction (s : Spec) (kind : Char) (v : Binary64) : String :=
  let whole := match v with
    | .infinite negative => s.fill false (s.sign negative) "inf"
    | .notANumber negative => s.fill false (s.sign negative) "nan"
    | .finite negative m e =>
      let (num, den) := Binary64.quotient m e
      let (head, body) : String × String := match kind.toLower with
        | 'f' => ("", Binary64.fixed num den (s.places.getD 6) s.alternate)
        | 'e' => ("", Binary64.scientific num den (s.places.getD 6) s.alternate)
        | 'g' => ("", Binary64.general num den (s.places.getD 6) s.alternate)
        | _ =>
          let all := Binary64.hexadecimal m e s.places s.alternate
          ("0x", String.ofList (all.toList.drop 2))
      s.fill s.zeros (s.sign negative ++ head) body
  if kind.isUpper then whole.map Char.toUpper else whole

end Spec

/-! ### Formats -/

structure Writer where
  arguments : List String
  text : String := ""
  /-- What is to be told, the latest first. -/
  warnings : List String := []

/-- Writes with the arguments that are left. What has been written stays if the format is wrong. -/
abbrev Writing := ExceptT String (StateM Writer)

def put (s : String) : Writing Unit := modify fun w => { w with text := w.text ++ s }

def warn (s : String) : Writing Unit := modify fun w => { w with warnings := s :: w.warnings }

def nextArgument : Writing (Option String) := do
  let w ← get
  set { w with arguments := w.arguments.drop 1 }
  return w.arguments.head?

/-- Warns of an argument that is no number, or not only one. -/
def checkConversion (arg : String) (length rest : Nat) (told : Bool) : Writing Unit := do
  if rest ≠ 0 then
    warn (arg ++ if rest = length then ": expected numeric value" else ": not completely converted")
  else if !told then warn (arg ++ ": Numerical result out of range")

/-- The byte after a quotation mark at the start of an argument. -/
def quotedByte? (arg : String) : Option Nat :=
  match arg.toList with
  | '"' :: rest => some ((rest.head?.map Char.toNat).getD 0)
  | '\'' :: rest => some ((rest.head?.map Char.toNat).getD 0)
  | _ => none

/-- The number that the next argument holds. Its least value is zero unless it may have a sign. -/
def integerArgument (signed : Bool) : Writing Int := do
  match ← nextArgument with
  | none => return 0
  | some arg =>
    match quotedByte? arg with
    | some n => return n
    | none =>
      let cs := arg.toList
      let (negative, body) := Text.splitSign (cs.dropWhile Arithmetic.isSpace)
      let (n, rest) := Arithmetic.literal body
      let v : Int := if negative then -(n : Int) else n
      let converted := rest.length < body.length
      if signed then
        let held := Arithmetic.saturate v
        checkConversion arg cs.length (if converted then rest.length else cs.length) (held == v)
        return held
      else
        let fits := n < Nat.pow 2 64
        checkConversion arg cs.length (if converted then rest.length else cs.length) fits
        return if fits then v % Nat.pow 2 64 else Nat.pow 2 64 - 1

def fractionArgument : Writing Binary64 := do
  match ← nextArgument with
  | none => return .finite false 0 0
  | some arg =>
    match quotedByte? arg with
    | some n => return .finite false n 0
    | none =>
      match Binary64.read? arg.toList with
      | some (v, told, rest) =>
        checkConversion arg arg.length rest.length told
        return v
      | none =>
        checkConversion arg arg.length arg.length true
        return .finite false 0 0

/-- A number of places that an argument gives. -/
def starArgument : Writing Int := do return (← integerArgument true).bmod (Nat.pow 2 32)

/-- The flags at the front of a conversion. -/
def flags (s : Spec) : List Char → Spec × List Char
  | '#' :: rest => flags { s with alternate := true } rest
  | '-' :: rest => flags { s with left := true } rest
  | '+' :: rest => flags { s with plus := true } rest
  | ' ' :: rest => flags { s with blank := true } rest
  | '0' :: rest => flags { s with zeros := true } rest
  | rest => (s, rest)

/-- A number in a conversion, in digits or given by an argument. -/
def measure (cs : List Char) : Writing (Int × List Char) := do
  match cs with
  | '*' :: rest => return (← starArgument, rest)
  | _ => return (Text.numeral 10 (cs.takeWhile Char.isDigit), cs.dropWhile Char.isDigit)

/-- The conversion after a percent sign, and what follows it. -/
def spec (cs : List Char) : Writing (Spec × List Char) := do
  let (s, rest) := flags {} cs
  let (width, rest) ← measure rest
  let s := { s with left := s.left || width < 0, width := width.natAbs }
  match rest with
  | '.' :: rest =>
    let (places, rest) ← measure rest
    return ({ s with places := if places < 0 then none else some places.natAbs }, rest)
  | _ => return (s, rest)

/-- The greatest width of a conversion. -/
def widthLimit : Nat := Nat.pow 2 31 - 1

/-- Writes one value, and says whether that ends all output. -/
def convert (written : String) (s : Spec) (kind : Char) : Writing Bool := do
  if widthLimit ≤ s.width then throw "xvsnprintf failed"
  match kind with
  | 'b' =>
    let (text, stops) := escaped ((← nextArgument).getD "")
    put (s.text text)
    return stops
  | 'c' =>
    let arg := (← nextArgument).getD ""
    put (s.fill false "" (String.singleton (arg.toList.head?.getD '\x00')))
    return false
  | 's' =>
    put (s.text ((← nextArgument).getD ""))
    return false
  | _ =>
    if kind = 'd' || kind = 'i' then put (s.signed (← integerArgument true))
    else if "ouxX".toList.contains kind then
      put (s.unsigned kind (← integerArgument false).toNat)
    else if "aAeEfFgG".toList.contains kind then put (s.fraction kind (← fractionArgument))
    else throw (written ++ ": invalid directive")
    return false

/-- Goes over the format once, and says whether an argument has ended all output. -/
def pass : (fuel : Nat) → List Char → Writing Bool
  | 0, _ => return true
  | _, [] => return false
  | fuel + 1, '\\' :: rest => do
    let (c, rest) := escape rest
    put (String.singleton c)
    pass fuel rest
  | fuel + 1, '%' :: '%' :: rest => do
    put "%"
    pass fuel rest
  | fuel + 1, '%' :: rest => do
    let (s, after) ← spec rest
    match after with
    | [] => throw "missing format character"
    | kind :: after =>
      let written := String.ofList ('%' :: rest.take (rest.length - after.length))
      if ← convert written s kind then return true else pass fuel after
  | fuel + 1, c :: rest => do
    put (String.singleton c)
    pass fuel rest

/-- Uses a format as long as it takes arguments and some are left. -/
def passes (format : List Char) : (fuel : Nat) → Writing Unit
  | 0 => return ()
  | fuel + 1 => do
    let before := (← get).arguments.length
    let stopped ← pass (format.length + 1) format
    let left := (← get).arguments.length
    if !stopped && left < before && left ≠ 0 then passes format fuel

/-- What a format makes of arguments: the text, the warnings in order, and what is wrong with it. -/
def print (format : String) (args : List String) : String × List String × Option String :=
  let (outcome, w) := (passes format.toList (args.length + 1)).run.run { arguments := args }
  (w.text, w.warnings.reverse, match outcome with
    | .ok _ => none
    | .error text => some text)

example : (print "%5.2f|%-4d|%#x\\n" ["3.14159", "42", "255"]).1 = " 3.14|42  |0xff\n" := by
  decide +kernel

end ComposeHarness.Machine.Format
