import Rulebook.Unicode.Category
import Rulebook.Unicode.Script
import Rulebook.Unicode.Age
import Rulebook.Unicode.Segmentation
import Rulebook.Unicode.Property

/-!
# Classes of code points by name

A class is looked up by loose name, alone or as the value of a property. The properties that the
standard derives from others are derived here by its own formulas; the rest are listed.
-/

namespace Rulebook.Unicode

/-! ## General categories -/

/-- The categories that unite others, with the abbreviations of their parts. -/
def categoryUnions : List (List String × List String) := [
  (["c", "other"], ["cc", "cf", "cn", "co"]),
  (["l", "letter"], ["ll", "lm", "lo", "lt", "lu"]),
  (["lc", "casedletter"], ["ll", "lt", "lu"]),
  (["m", "mark", "combiningmark"], ["mc", "me", "mn"]),
  (["n", "number"], ["nd", "nl", "no"]),
  (["p", "punctuation", "punct"], ["pc", "pd", "pe", "pf", "pi", "po", "ps"]),
  (["s", "symbol"], ["sc", "sk", "sm", "so"]),
  (["z", "separator"], ["zl", "zp", "zs"])]

def categories (parts : List String) : CharSet :=
  CharSet.unions (parts.filterMap (NamedTable.find? categoryTables))

/-- A general category by loose name. -/
def category? (name : String) : Option CharSet :=
  if name = "any" then some CharSet.all
  else if name = "ascii" then some (CharSet.range 0 0x7F)
  else if name = "assigned" then some (categories ["cn"]).complement
  else match categoryUnions.find? fun u => u.1.contains name with
    | some u => some (categories u.2)
    | none => NamedTable.find? categoryTables name

/-! ## Binary properties -/

def listed (name : String) : CharSet :=
  (NamedTable.find? propertyTables name).getD CharSet.empty

def lowercase : CharSet := (categories ["ll"]).union (listed "otherlowercase")

def uppercase : CharSet := (categories ["lu"]).union (listed "otheruppercase")

def alphabetic : CharSet :=
  CharSet.unions [lowercase, uppercase, categories ["lt", "lm", "lo", "nl"],
    listed "otheralphabetic"]

def graphemeExtend : CharSet := (categories ["me", "mn"]).union (listed "othergraphemeextend")

def patternPunctuation : CharSet :=
  (listed "patternsyntax").union (listed "patternwhitespace")

def idStart : CharSet :=
  ((categories ["ll", "lm", "lo", "lt", "lu", "nl"]).union (listed "otheridstart")).diff
    patternPunctuation

def idContinue : CharSet :=
  (CharSet.unions [idStart, categories ["mn", "mc", "nd", "pc"], listed "otheridcontinue"]).diff
    patternPunctuation

/-- What identifiers closed under compatibility normalization may not begin with. -/
def notXidStart : CharSet :=
  CharSet.ofTable "37a e33 eb3 309b-309c fc5e-fc63 fdfa-fdfb fe70 fe72 fe74 fe76 fe78 fe7a fe7c
    fe7e ff9e-ff9f"

/-- What identifiers closed under compatibility normalization may not contain. -/
def notXidContinue : CharSet :=
  CharSet.ofTable "37a 309b-309c fc5e-fc63 fdfa-fdfb fe70 fe72 fe74 fe76 fe78 fe7a fe7c fe7e"

def caseIgnorable : CharSet :=
  CharSet.unions
    (categories ["mn", "me", "cf", "lm", "sk"] ::
      ["midletter", "midnumlet", "singlequote"].filterMap
        (NamedTable.find? wordBreakTables))

def defaultIgnorable : CharSet :=
  (CharSet.unions [listed "otherdefaultignorablecodepoint", categories ["cf"],
      listed "variationselector"]).diff
    (CharSet.unions [listed "whitespace", listed "prependedconcatenationmark",
      CharSet.range 0xFFF9 0xFFFB, CharSet.range 0x13430 0x13440])

/-- A binary property by loose name. -/
def property? (name : String) : Option CharSet :=
  match name with
  | "alphabetic" | "alpha" => some alphabetic
  | "lowercase" | "lower" => some lowercase
  | "uppercase" | "upper" => some uppercase
  | "math" => some ((categories ["sm"]).union (listed "othermath"))
  | "idstart" | "ids" => some idStart
  | "idcontinue" | "idc" => some idContinue
  | "xidstart" | "xids" => some (idStart.diff notXidStart)
  | "xidcontinue" | "xidc" => some (idContinue.diff notXidContinue)
  | "graphemeextend" | "grext" => some graphemeExtend
  | "graphemebase" | "grbase" =>
    some ((categories ["cc", "cf", "cn", "co", "zl", "zp"]).union graphemeExtend).complement
  | "cased" => some (CharSet.unions [lowercase, uppercase, categories ["lt"]])
  | "caseignorable" | "ci" => some caseIgnorable
  | "changeswhencasemapped" | "cwcm" =>
    some (CharSet.unions [listed "changeswhenlowercased", listed "changeswhenuppercased",
      listed "changeswhentitlecased"])
  | "defaultignorablecodepoint" | "di" => some defaultIgnorable
  | _ => NamedTable.find? propertyTables name

/-! ## Scripts and properties with values -/

def script? (name : String) : Option CharSet := NamedTable.find? scriptTables name

def scriptExtension? (name : String) : Option CharSet :=
  (NamedTable.find? scriptExtensionTables name).orElse fun _ => script? name

/-- The code points assigned in a version of the standard or before it. -/
def age? (name : String) : Option CharSet :=
  let older := ageTables.takeWhile fun t => !t.names.contains name
  if older.length < ageTables.length then
    some (CharSet.unions ((ageTables.take (older.length + 1)).map fun t =>
      CharSet.ofTable t.table))
  else none

/-- The class that a single name stands for. The abbreviations `cf`, `sc` and `lc` are those of
general categories. -/
def named? (text : String) : Option CharSet :=
  let name := looseName text
  let property := if name = "cf" || name = "sc" || name = "lc" then none else property? name
  property.orElse fun _ => (category? name).orElse fun _ => script? name

/-- The class of the code points whose property has a value. -/
def valued? (property value : String) : Option CharSet :=
  let value := looseName value
  match looseName property with
  | "generalcategory" | "gc" => category? value
  | "script" | "sc" => script? value
  | "scriptextensions" | "scx" => scriptExtension? value
  | "age" => age? value
  | "graphemeclusterbreak" | "gcb" => NamedTable.find? graphemeBreakTables value
  | "wordbreak" | "wb" => NamedTable.find? wordBreakTables value
  | "sentencebreak" | "sb" => NamedTable.find? sentenceBreakTables value
  | _ => none

/-- Characters that count as letters or numbers. -/
def alphanumeric : CharSet := alphabetic.union (categories ["nd", "nl", "no"])

end Rulebook.Unicode
