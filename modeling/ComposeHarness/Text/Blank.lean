/-!
# Blank characters, words and lines

Blank is the White_Space property of Unicode: zero-width characters and the separators
U+001C to U+001F are not blank. Trimming, splitting into words and the test whether a text says
anything at all use this one class.
-/
namespace ComposeHarness.Text

def isBlank (c : Char) : Bool :=
  let n := c.toNat
  (0x09 ≤ n && n ≤ 0x0D) || n == 0x20 || n == 0x85 || n == 0xA0 || n == 0x1680 ||
  (0x2000 ≤ n && n ≤ 0x200A) || n == 0x2028 || n == 0x2029 || n == 0x202F || n == 0x205F ||
  n == 0x3000

theorem isBlank_space : isBlank ' ' = true := by decide

/-- Drops the blanks at the end. -/
def dropBlankEnd (cs : List Char) : List Char :=
  cs.foldr (fun c rest => if rest.isEmpty && isBlank c then [] else c :: rest) []

def trimEnd (s : String) : String :=
  String.ofList (dropBlankEnd s.toList)

/-- A text that holds nothing but blanks. -/
def isAllBlank (s : String) : Bool :=
  s.toList.all isBlank

/-- Splits at every character of the class; the pieces between two of them may be empty. -/
def splitAt (stop : Char → Bool) : List Char → List (List Char)
  | [] => [[]]
  | c :: cs =>
    match splitAt stop cs with
    | [] => [[c]]
    | piece :: rest => if stop c then [] :: piece :: rest else (c :: piece) :: rest

/-- The maximal runs of characters that are not blank. -/
def words (s : String) : List String :=
  ((splitAt isBlank s.toList).filter (fun w => !w.isEmpty)).map String.ofList

/-- Drops one carriage return at the end. -/
def dropReturn (cs : List Char) : List Char :=
  if cs.getLast? = some '\r' then cs.dropLast else cs

/-- The lines of a text. A line ends at a line feed, with the carriage return before it if there is
one; what follows the last line feed is a line only if it is not empty. -/
def lines (s : String) : List String :=
  let pieces := splitAt (· == '\n') s.toList
  let ended := (pieces.dropLast).map dropReturn
  let last := pieces.getLastD []
  (if last.isEmpty then ended else ended ++ [last]).map String.ofList

theorem dropBlankEnd_eq_nil_iff (cs : List Char) :
    dropBlankEnd cs = [] ↔ ∀ c ∈ cs, isBlank c = true := by
  induction cs with
  | nil => simp [dropBlankEnd]
  | cons c cs ih =>
    have step : dropBlankEnd (c :: cs) =
        if (dropBlankEnd cs).isEmpty && isBlank c then [] else c :: dropBlankEnd cs := rfl
    rw [step]
    by_cases h : dropBlankEnd cs = [] <;> by_cases hc : isBlank c = true <;> simp_all

end ComposeHarness.Text
