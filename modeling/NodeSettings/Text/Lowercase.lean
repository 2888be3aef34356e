-- Lower-casing of whole texts by the full Unicode mapping. Two characters
-- need more than a partner: the dotted capital I becomes two characters,
-- and a capital sigma looks at its neighbours.
import NodeSettings.Text.CaseTable

namespace NodeSettings.Text

def isCased (c : Char) : Bool := inRanges casedRanges c

def isCaseIgnorable (c : Char) : Bool := inRanges caseIgnorableRanges c

/-- The lower-case partner of a single character, itself if it has none. -/
def lowerChar (c : Char) : Char :=
  match caseRuns.find? (·.covers c.toNat) with
  | some r => Char.ofNat (c.toNat + r.offset).toNat
  | none => c

/-- The first character that is not passed over is a cased one. -/
def meetsCased (cs : List Char) : Bool := (cs.dropWhile isCaseIgnorable).head?.any isCased

/-- A sigma ends a word if a cased character comes before it and none comes after it.
The characters before it are given nearest first. -/
def sigma (before after : List Char) : Char :=
  if meetsCased before && !meetsCased after then 'ς' else 'σ'

/-- Lower-cases `cs`, which follows `before`, given nearest first. -/
def lowerAfter (before : List Char) : List Char → List Char
  | [] => []
  | c :: cs =>
    let here :=
      if c == 'Σ' then [sigma before cs]
      else if c == 'İ' then ['i', '\u0307']
      else [lowerChar c]
    here ++ lowerAfter (c :: before) cs

def lowercase (cs : List Char) : List Char := lowerAfter [] cs

end NodeSettings.Text
