import TagAudit.Text.CodePointSet

/-!
# Blank characters

White space in the wide sense: the six ASCII blanks, the four information separators, the next
line control, the no-break space and the spaces and separators of the general punctuation blocks.
A zero width space is not blank.
-/

namespace TagAudit.Text

/-- The blank code points. -/
def blanks : CodePointSet := ⟨[
  0x9, 0xe, 0x1c, 0x21, 0x85, 0x86, 0xa0, 0xa1, 0x1680, 0x1681, 0x2000, 0x200b, 0x2028, 0x202a,
  0x202f, 0x2030, 0x205f, 0x2060, 0x3000, 0x3001]⟩

/-- Is the character white space? -/
def isBlank (c : Char) : Bool := blanks.contains c

end TagAudit.Text
