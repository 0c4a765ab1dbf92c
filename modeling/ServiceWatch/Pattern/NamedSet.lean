import ServiceWatch.Unicode.CaseFold
import ServiceWatch.Unicode.Category
import ServiceWatch.Unicode.Division
import ServiceWatch.Unicode.Property
import ServiceWatch.Unicode.Script

/-! The sets of characters that patterns call by a name. -/
namespace ServiceWatch.Pattern.NamedSet

open ServiceWatch.Unicode

def asciiDigit : CodeSet := .range 48 57

def asciiWord : CodeSet := .unions [.range 48 57, .range 65 90, .range 95 95, .range 97 122]

def asciiSpace : CodeSet := .union (.range 9 13) (.range 32 32)

/-- The decimal digits of all scripts. -/
def digit : CodeSet := Category.set [.decimalNumber]

def word : CodeSet :=
  let property (name : String) : CodeSet := (Property.ofName? name).getD .empty
  .unions [property "alphabetic", property "joincontrol",
    Category.set [.nonspacingMark, .spacingMark, .enclosingMark, .decimalNumber, .connectorPunctuation]]

def space : CodeSet := (Property.ofName? "whitespace").getD .empty

/-- The named classes that stand in brackets and colons within a bracket. -/
def ofAsciiName? : String → Option CodeSet
  | "alnum" => some (.unions [.range 48 57, .range 65 90, .range 97 122])
  | "alpha" => some (.union (.range 65 90) (.range 97 122))
  | "ascii" => some (.range 0 127)
  | "blank" => some (.union (.range 9 9) (.range 32 32))
  | "cntrl" => some (.union (.range 0 31) (.range 127 127))
  | "digit" => some asciiDigit
  | "graph" => some (.range 33 126)
  | "lower" => some (.range 97 122)
  | "print" => some (.range 32 126)
  | "punct" => some (.unions [.range 33 47, .range 58 64, .range 91 96, .range 123 126])
  | "space" => some asciiSpace
  | "upper" => some (.range 65 90)
  | "word" => some asciiWord
  | "xdigit" => some (.unions [.range 48 57, .range 65 70, .range 97 102])
  | _ => none

/-- The names of the general categories and of their groups, in lower case and without separators.
Surrogates are no characters, so their category has no name. -/
def categoryNames : List (List String × List Category) :=
  let letters : List Category :=
    [.uppercaseLetter, .lowercaseLetter, .titlecaseLetter, .modifierLetter, .otherLetter]
  let marks : List Category := [.nonspacingMark, .spacingMark, .enclosingMark]
  let numbers : List Category := [.decimalNumber, .letterNumber, .otherNumber]
  let punctuation : List Category :=
    [.connectorPunctuation, .dashPunctuation, .openPunctuation, .closePunctuation,
      .initialPunctuation, .finalPunctuation, .otherPunctuation]
  let symbols : List Category := [.mathSymbol, .currencySymbol, .modifierSymbol, .otherSymbol]
  let separators : List Category := [.spaceSeparator, .lineSeparator, .paragraphSeparator]
  let others : List Category := [.control, .format, .privateUse, .unassigned]
  [(["l", "letter"], letters), (["m", "mark", "combiningmark"], marks), (["n", "number"], numbers),
    (["p", "punctuation", "punct"], punctuation), (["s", "symbol"], symbols),
    (["z", "separator"], separators), (["c", "other"], others),
    (["lc", "casedletter"], [.uppercaseLetter, .lowercaseLetter, .titlecaseLetter]),
    (["lu", "uppercaseletter"], [.uppercaseLetter]), (["ll", "lowercaseletter"], [.lowercaseLetter]),
    (["lt", "titlecaseletter"], [.titlecaseLetter]), (["lm", "modifierletter"], [.modifierLetter]),
    (["lo", "otherletter"], [.otherLetter]), (["mn", "nonspacingmark"], [.nonspacingMark]),
    (["mc", "spacingmark"], [.spacingMark]), (["me", "enclosingmark"], [.enclosingMark]),
    (["nd", "decimalnumber", "digit"], [.decimalNumber]), (["nl", "letternumber"], [.letterNumber]),
    (["no", "othernumber"], [.otherNumber]),
    (["pc", "connectorpunctuation"], [.connectorPunctuation]),
    (["pd", "dashpunctuation"], [.dashPunctuation]), (["ps", "openpunctuation"], [.openPunctuation]),
    (["pe", "closepunctuation"], [.closePunctuation]),
    (["pi", "initialpunctuation"], [.initialPunctuation]),
    (["pf", "finalpunctuation"], [.finalPunctuation]),
    (["po", "otherpunctuation"], [.otherPunctuation]), (["sm", "mathsymbol"], [.mathSymbol]),
    (["sc", "currencysymbol"], [.currencySymbol]), (["sk", "modifiersymbol"], [.modifierSymbol]),
    (["so", "othersymbol"], [.otherSymbol]), (["zs", "spaceseparator"], [.spaceSeparator]),
    (["zl", "lineseparator"], [.lineSeparator]), (["zp", "paragraphseparator"], [.paragraphSeparator]),
    (["cc", "control", "cntrl"], [.control]), (["cf", "format"], [.format]),
    (["co", "privateuse"], [.privateUse]), (["cn", "unassigned"], [.unassigned])]

/-- The set of a general category, or of all, all assigned or all ASCII characters. -/
def ofCategoryName? (name : String) : Option CodeSet :=
  match name with
  | "any" => some .characters
  | "assigned" => some (Category.set [.unassigned]).compl
  | "ascii" => some (.range 0 127)
  | _ => (categoryNames.find? fun (names, _) => names.contains name).map fun (_, cs) => Category.set cs

def ofScriptName? (name : String) : Option CodeSet := (Script.ofName? name).map Script.set

/-- A name in lower case without spaces, underscores and dashes. A leading `is` does not count, except
that `isc` is a name of its own. -/
def normalize (cs : List Char) : String :=
  let isPrefixed := match cs with
    | i :: s :: _ => (i = 'i' || i = 'I') && (s = 's' || s = 'S')
    | _ => false
  let kept := ((if isPrefixed then cs.drop 2 else cs).filter fun c =>
    c ≠ ' ' && c ≠ '_' && c ≠ '-' && c.toNat < 128).map Char.toLower
  if isPrefixed && kept = ['c'] then "isc" else String.ofList kept

/-- The set that a name without a value stands for: a property, a category or a script. -/
def ofName? (cs : List Char) : Option CodeSet :=
  let name := normalize cs
  let property := if ["cf", "sc", "lc"].contains name then none else Property.ofName? name
  (property.orElse fun _ => ofCategoryName? name).orElse fun _ => ofScriptName? name

def ofNameAndValue? (cs value : List Char) : Option CodeSet :=
  let value := normalize value
  match normalize cs with
  | "gc" | "generalcategory" => ofCategoryName? value
  | "sc" | "script" => ofScriptName? value
  | "scx" | "scriptextensions" => (Script.ofName? value).map Script.extendedSet
  | "age" => Age.upTo? value
  | "gcb" | "graphemeclusterbreak" => Division.clusters.ofName? value
  | "wb" | "wordbreak" => Division.words.ofName? value
  | "sb" | "sentencebreak" => Division.sentences.ofName? value
  | _ => none

end ServiceWatch.Pattern.NamedSet
