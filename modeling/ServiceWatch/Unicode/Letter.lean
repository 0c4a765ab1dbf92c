import ServiceWatch.Unicode.Category
import ServiceWatch.Unicode.Property

/-! Letters, digits and marks as messages and names take them, after version 17 of the standard. -/
namespace ServiceWatch.Unicode

/-- The letters that version 17 of the standard adds. -/
def newLetters : CodeSet :=
  .ofTable
    ["2191a972a127a39665bbaaa28a24910z1387c50b3172h584.44.20676yby286e6145h1289v97.115.22733.31a",
      "vhb53306f5986l21762.4298"]

/-- The marks that version 17 of the standard adds and that extend the character before them. -/
def newExtenders : CodeSet :=
  .ofTable
    ["6863obl62478b3172aacaa52092abagbea"]

def letters : CodeSet := ((Property.ofName? "alphabetic").getD .empty).union newLetters

def extenders : CodeSet := ((Property.ofName? "graphemeextend").getD .empty).union newExtenders

/-- All characters that are not shown where a font has no sign for them. -/
def ignorable : CodeSet := (Property.ofName? "defaultignorablecodepoint").getD .empty

def isLetter (c : Char) : Bool := letters.contains c.toNat

def isNumeral (c : Char) : Bool :=
  [Category.decimalNumber, .letterNumber, .otherNumber].contains (Category.ofChar c)

end ServiceWatch.Unicode
