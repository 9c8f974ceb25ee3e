import FieldMenu.Text.LetterTable
import FieldMenu.Text.Lowercase

namespace FieldMenu.Text

def isAlphabetic (c : Char) : Bool :=
  inRanges c alphabeticRanges

def isNumeric (c : Char) : Bool :=
  inRanges c numericRanges

end FieldMenu.Text
