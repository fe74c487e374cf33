import Questline.Text.Blank

/-!
# Keywords

The forms under which words of a script are looked up: a keyword is trimmed and its ASCII capitals
are lowered, a folded word is lowered only.
-/

namespace Questline.Text

/-- Text without the blanks around it and in ASCII lower case. -/
def keyword (s : String) : String := String.ofList ((trim s.toList).map Char.toLower)

/-- Lower case as far as it can meet an ASCII word: the ASCII capitals, and the Kelvin sign, whose
lower case is `k`. No other character has a lower case within ASCII. -/
def foldChar (c : Char) : Char := if c = '\u212A' then 'k' else c.toLower

def fold (s : String) : String := String.ofList (s.toList.map foldChar)

theorem toList_keyword (s : String) : (keyword s).toList = (trim s.toList).map Char.toLower :=
  String.toList_ofList

end Questline.Text
