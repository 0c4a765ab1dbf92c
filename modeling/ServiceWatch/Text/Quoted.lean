import ServiceWatch.Text.Hexadecimal
import ServiceWatch.Unicode.Letter

/-! Quoted text for messages: what cannot be seen is written as an escape. -/
namespace ServiceWatch.Text.Quoted

/-- A mark that is drawn together with the character before it. -/
def isExtender (c : Char) : Bool :=
  [Unicode.Category.nonspacingMark, .spacingMark, .enclosingMark].contains (Unicode.Category.ofChar c) &&
    Unicode.extenders.contains c.toNat

/-- A character that is drawn: neither a separator other than the space, nor a control, nor unassigned,
nor a letter that fills a place without being seen. -/
def isPrintable (c : Char) : Bool :=
  c = ' ' ||
    match Unicode.Category.ofChar c with
    | .spaceSeparator | .lineSeparator | .paragraphSeparator => false
    | .control | .format | .surrogate | .privateUse | .unassigned => false
    | _ => !Unicode.ignorable.contains c.toNat

def encodeChar (c : Char) : List Char :=
  if c = '"' then ['\\', '"']
  else if c = '\\' then ['\\', '\\']
  else if c = '\n' then ['\\', 'n']
  else if c = '\r' then ['\\', 'r']
  else if c = '\t' then ['\\', 't']
  else if c.toNat = 0 then ['\\', '0']
  else if !isExtender c && isPrintable c then [c]
  else '\\' :: 'u' :: '{' :: (Hexadecimal.digits c.toNat ++ ['}'])

def quote (s : String) : String :=
  String.ofList ('"' :: (s.toList.flatMap encodeChar ++ ['"']))

end ServiceWatch.Text.Quoted
