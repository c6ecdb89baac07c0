import LintRepair.Text.Property.Age
import LintRepair.Text.Property.Binary
import LintRepair.Text.Property.Category
import LintRepair.Text.Property.Script
import LintRepair.Text.Property.ScriptExtension
import LintRepair.Text.Property.Segmentation
import LintRepair.Text.WordChar

/-! # Character properties by name

Names are compared loosely: case, spaces, hyphens, underscores and a leading "is" do not count. A
bare name is tried as a yes-or-no property, then as a general category, then as a script.
-/

namespace LintRepair.Text.Property

/-- The letters of a name that count in comparisons. -/
def looseChars (cs : List Char) : List Char :=
  (cs.filter fun c => c.toNat < 128 && c != ' ' && c != '_' && c != '-').map Char.toLower

/-- The form of a name in which names are compared. The abbreviation "isc" keeps its first letters,
    so that it is not taken for the category "c". -/
def looseName (name : List Char) : String :=
  match name with
  | a :: b :: rest =>
    if a.toLower == 'i' && b.toLower == 's' then
      let cs := looseChars rest
      if cs = ['c'] then "isc" else String.ofList cs
    else String.ofList (looseChars name)
  | _ => String.ofList (looseChars name)

/-- The basic categories of which each group of categories consists. -/
def categoryGroups : List (List String × List String) :=
  [(["lc", "casedletter"], ["lu", "ll", "lt"]),
   (["l", "letter"], ["lu", "ll", "lt", "lm", "lo"]),
   (["m", "mark", "combiningmark"], ["mn", "mc", "me"]),
   (["n", "number"], ["nd", "nl", "no"]),
   (["p", "punctuation", "punct"], ["pc", "pd", "ps", "pe", "pi", "pf", "po"]),
   (["s", "symbol"], ["sm", "sc", "sk", "so"]),
   (["z", "separator"], ["zs", "zl", "zp"]),
   (["c", "other"], ["cc", "cf", "co", "cn"])]

/-- A general category, a group of them, or one of the three classes named beside them. -/
def category? (name : String) : Option CharSet :=
  if name == "any" then some .all
  else if name == "assigned" then (find? categories "cn").map CharSet.complement
  else if name == "ascii" then some ⟨[(0, 127)]⟩
  else match categoryGroups.find? (·.1.contains name) with
    | some (_, parts) => some (.ofRanges ((parts.filterMap (find? categories)).flatMap (·.ranges)))
    | none => find? categories name

/-- The characters of the named version of the standard and of all versions before it. -/
def age? (name : String) : Option CharSet :=
  match ages.span fun row => !row.names.contains name with
  | (_, []) => none
  | (older, row :: _) => some (.ofRanges ((row :: older).flatMap (·.chars.ranges)))

/-- The class that a bare name stands for. -/
def named? (name : List Char) : Option CharSet :=
  let loose := looseName name
  (find? binaries loose <|> category? loose) <|> find? scripts loose

/-- The class that a property name and a value stand for. -/
def valued? (name value : List Char) : Option CharSet :=
  let value := looseName value
  match looseName name with
  | "gc" | "generalcategory" => category? value
  | "sc" | "script" => find? scripts value
  | "scx" | "scriptextensions" => find? scriptExtensions value
  | "age" => age? value
  | "gcb" | "graphemeclusterbreak" => find? graphemeBreaks value
  | "wb" | "wordbreak" => find? wordBreaks value
  | "sb" | "sentencebreak" => find? sentenceBreaks value
  | _ => none

end LintRepair.Text.Property
