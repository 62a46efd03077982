import Pipeline.Text.HiddenTable
import Pipeline.Text.Blank

/-!
# Hidden characters

A character is hidden if a reader of a message could not see it: it has no shape, or it changes the
character before it. Quoted text spells such characters out.
-/

namespace Pipeline.Text

def isHidden (c : Char) : Bool :=
  if c.toNat < 0x20 then true
  else if c.toNat < 0x7F then false
  else inRanges hiddenRanges c.toNat

end Pipeline.Text
