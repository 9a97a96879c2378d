import ComposeHarness.Text.CharRanges
import ComposeHarness.Text.Unicode.AgeTable
import ComposeHarness.Text.Unicode.BinaryTable
import ComposeHarness.Text.Unicode.BreakTable
import ComposeHarness.Text.Unicode.CategoryTable
import ComposeHarness.Text.Unicode.FoldingTable
import ComposeHarness.Text.Unicode.ScriptTable
import ComposeHarness.Text.Unicode.ScriptUseTable

/-!
# Properties of characters by name

Looks a property up by its name, written loosely: case, blanks, hyphens, underscores and a leading
"is" do not count. Characters that differ in case only form the groups of the folding table.
-/
namespace ComposeHarness.Text.Unicode

/-- The loose form of a property name: ASCII letters in lower case, without blanks, hyphens,
underscores and a leading "is". The name of the category C keeps its "is". -/
def looseName (name : List Char) : String :=
  let (hasIs, rest) := match name with
    | i :: s :: rest => if i.toLower == 'i' && s.toLower == 's' then (true, rest) else (false, name)
    | _ => (false, name)
  let kept := rest.filter (fun c => c != ' ' && c != '_' && c != '-' && c.toNat < 0x80)
  let loose := String.ofList (kept.map Char.toLower)
  if hasIs && loose == "c" then "isc" else loose

def find? (table : List (List String × List String)) (name : String) : Option CharRanges :=
  (table.find? (fun entry => entry.1.contains name)).map (fun entry => .ofTable entry.2)

/-- The union of some categories. -/
def categoryUnion (names : List String) : CharRanges :=
  (names.filterMap (find? categoryTable)).foldl CharRanges.union .empty

def assigned (_ : Unit) : CharRanges :=
  .ofRanges (categoryTable.flatMap (fun entry => (CharRanges.ofTable entry.2).toList))

/-- The unassigned code points lie in no table. -/
def unassigned (_ : Unit) : CharRanges := (assigned ()).complement

/-- A general category or a group of them, by its loose name. -/
def category? (name : String) : Option CharRanges :=
  if name == "any" then some .all
  else if name == "ascii" then some (.ofRanges [(0, 0x7F)])
  else if name == "assigned" then some (unassigned ()).complement
  else if name == "cn" || name == "unassigned" then some (unassigned ())
  else
    match find? categoryTable name with
    | some set => some set
    | none =>
      match categoryGroups.find? (fun group => group.1.contains name) with
      | none => none
      | some (_, members) =>
        let listed := categoryUnion members
        some (if members.contains "cn" then listed.union (unassigned ()) else listed)

def script? (name : String) : Option CharRanges := find? scriptTable name

def binary? (name : String) : Option CharRanges := find? binaryTable name

/-- Names of properties that hold a value of a list, so that they stand for no set alone. -/
def valuedProperties : List String :=
  ["age", "bc", "bidiclass", "blk", "block", "bmg", "ccc", "dm", "dt", "ea", "gc", "gcb",
    "generalcategory", "graphemeclusterbreak", "hst", "isc", "jg", "jt", "lb", "linebreak", "na",
    "name", "nt", "numerictype", "nv", "sb", "script", "scriptextensions", "scx", "sentencebreak",
    "wb", "wordbreak"]

/-- The set a name stands for by itself. The short names of three categories are also short names
of properties; the categories win. -/
def named? (name : List Char) : Option CharRanges :=
  let loose := looseName name
  let categoryOrScript := (category? loose).orElse fun _ => script? loose
  if loose == "cf" || loose == "sc" || loose == "lc" then categoryOrScript
  else if valuedProperties.contains loose then none
  else (binary? loose).orElse fun _ => categoryOrScript

/-! ### Properties with a value -/

/-- The characters a script uses: those of the table of uses, else just its own. -/
def scriptUse? (name : String) : Option CharRanges :=
  (find? scriptUseTable name).orElse fun _ => script? name

/-- The characters that a version of the standard has, so those of all versions up to it. -/
def age? (name : String) : Option CharRanges :=
  match ageTable.findIdx? (fun entry => entry.1.contains name) with
  | none => none
  | some last =>
    let versions := (ageTable.take (last + 1)).map (fun entry => CharRanges.ofTable entry.2)
    some (versions.foldl CharRanges.union .empty)

/-- The composed Hangul syllables without a closing consonant: one in 28. -/
def openSyllables (_ : Unit) : CharRanges :=
  .ofRanges ((List.range 399).map fun i => (0xAC00 + 28 * i, 0xAC00 + 28 * i))

def closedSyllables (_ : Unit) : CharRanges :=
  .ofRanges ((List.range 399).map fun i => (0xAC00 + 28 * i + 1, 0xAC00 + 28 * i + 27))

/-- A class of the boundaries between characters as a reader sees them. -/
def graphemeBreak? (name : String) : Option CharRanges :=
  if name == "lv" then some (openSyllables ())
  else if name == "lvt" then some (closedSyllables ())
  else find? graphemeBreakTable name

/-- The set of the characters whose property has the value. -/
def valued? (property value : List Char) : Option CharRanges :=
  let loose := looseName property
  let value := looseName value
  if loose == "gc" || loose == "generalcategory" then category? value
  else if loose == "sc" || loose == "script" then script? value
  else if loose == "scx" || loose == "scriptextensions" then scriptUse? value
  else if loose == "age" then age? value
  else if loose == "gcb" || loose == "graphemeclusterbreak" then graphemeBreak? value
  else if loose == "wb" || loose == "wordbreak" then find? wordBreakTable value
  else if loose == "sb" || loose == "sentencebreak" then find? sentenceBreakTable value
  else none

/-! ### Case -/

def startAt (first : Nat) : List Nat → List Nat
  | [] => [first]
  | step :: rest => first :: startAt (first + step) rest

def foldingGroupsFrom (before : Nat) : List (List Nat) → List (List Nat)
  | [] => []
  | [] :: rest => foldingGroupsFrom before rest
  | (gap :: steps) :: rest =>
    startAt (before + gap) steps :: foldingGroupsFrom (before + gap) rest

/-- The groups of characters that differ in case only. -/
def foldingGroups (_ : Unit) : List (List Nat) :=
  foldingGroupsFrom 0 (((String.intercalate " " foldingTable).splitOn ",").map CharRanges.numbers)

/-- Adds to a set every character that differs from one of its members in case only. -/
def foldCase (set : CharRanges) : CharRanges :=
  let added := (foldingGroups ()).flatMap fun group =>
    if group.any set.holdsCode then group.map (fun n => (n, n)) else []
  .ofRanges (set.toList ++ added)

/-- The same for the letters of ASCII alone. -/
def foldAsciiCase (set : CharRanges) : CharRanges :=
  let letters := (List.range 26).map (fun i => [0x41 + i, 0x61 + i])
  let added := letters.flatMap fun group =>
    if group.any set.holdsCode then group.map (fun n => (n, n)) else []
  .ofRanges (set.toList ++ added)

end ComposeHarness.Text.Unicode
