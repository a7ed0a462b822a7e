/-!
# Line breaks

A line may end with a line feed, with a carriage return or with both. On reading, all of them
count as a line feed.
-/

namespace TagAudit.Text

/-- The text with a line feed for every line break. -/
def unifyLineBreaks : List Char → List Char
  | '\r' :: '\n' :: rest => '\n' :: unifyLineBreaks rest
  | '\r' :: rest => '\n' :: unifyLineBreaks rest
  | c :: rest => c :: unifyLineBreaks rest
  | [] => []

end TagAudit.Text
