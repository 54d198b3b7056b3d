import CardMachine.Text.CaseTable

/-! # Small letters

A text in small letters, by Unicode's full mapping. Each capital becomes its small letter; `İ`
becomes an `i` with a dot above; and a capital sigma at the end of a word becomes the final small
sigma. It is at the end of a word if a letter with case comes before it and none after it, where
apostrophes, combining marks and the like in between are passed over. -/

namespace CardMachine.Text

/-- Whether the first character that is not passed over has case. -/
def meetsLetter (s : List Char) : Bool :=
  match s.dropWhile caseIgnorables.contains with
  | [] => false
  | c :: _ => casedLetters.contains c

/-- The small form of one character, whatever stands around it. -/
def lowerChar (c : Char) : List Char :=
  if c = 'İ' then ['i', '\u0307']
  else [((caseRuns.findSome? fun r => r.small? c.toNat).map Char.ofNat).getD c]

/-- The small form of a text whose preceding characters, from the last to the first, are
`before`. -/
def lowerAfter : List Char → List Char → List Char
  | _, [] => []
  | before, c :: rest =>
    if c = 'Σ' then
      (if meetsLetter before && !meetsLetter rest then 'ς' else 'σ') ::
        lowerAfter (c :: before) rest
    else lowerChar c ++ lowerAfter (c :: before) rest

/-- A text in small letters. -/
def lowercase (s : List Char) : List Char := lowerAfter [] s

/-- Whether a text occurs in another. -/
def occursIn (s : List Char) : List Char → Bool
  | [] => s.isEmpty
  | c :: t => s.isPrefixOf (c :: t) || occursIn s t

/-- Whether two texts are equal but for the case of ASCII letters. -/
def sameIgnoringCase (s t : String) : Bool :=
  s.toList.map Char.toLower == t.toList.map Char.toLower

end CardMachine.Text
