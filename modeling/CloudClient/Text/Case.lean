namespace CloudClient.Text

/-- Lower-cases an ASCII letter; every other character is kept. -/
def asciiLower (c : Char) : Char :=
  if 'A' ≤ c && c ≤ 'Z' then Char.ofNat (c.toNat + 32) else c

/-- Lower-cases the ASCII letters of a text. -/
def lowerAscii (text : String) : String := String.ofList (text.toList.map asciiLower)

/-- Folds the case of a character for comparing with ASCII words. -/
def foldChar (c : Char) : Char :=
  if c == '\u017F' then 's' else if c == '\u212A' then 'k' else asciiLower c

/-- Folds the case of a text for comparing with ASCII words. -/
def foldCase (text : String) : String := String.ofList (text.toList.map foldChar)

end CloudClient.Text
