import Harvester.Text.Entity
namespace Harvester.Text

-- A tag runs from `<` to the next `>` and has at least one character between them.
def stripTags (inside : Bool) : List Char → List Char
  | [] => []
  | c :: rest =>
    if inside then stripTags (c != '>') rest
    else if c = '<' ∧ rest.head? ≠ some '>' ∧ rest.contains '>' then stripTags true rest
    else c :: stripTags false rest

-- Typographic quotes as their ASCII counterparts.
def plainQuote (c : Char) : Char :=
  let n := c.toNat
  if n = 0x201C ∨ n = 0x201D ∨ n = 0xAB ∨ n = 0xBB then '"'
  else if n = 0x2018 ∨ n = 0x2019 then '\''
  else c

def textLimit : Nat := 1500

-- Everything after the entities are decoded. The cut comes last, so a cut text may end in a space.
def cleanDecoded (cs : List Char) : List Char :=
  (trim (collapse ((stripTags false cs).map plainQuote))).take textLimit

def cleanWith (decode : List Char → List Char) (cs : List Char) : List Char := cleanDecoded (decode cs)

-- Text as it is shown: entities decoded, tags removed, quotes plain, blanks single, at most 1500 characters.
def clean (s : String) : String := String.ofList (cleanWith decodeEntities s.toList)

-- Nothing when no text is left.
def clean? (s : Option String) : Option String :=
  match s with
  | none => none
  | some s => if (clean s).isEmpty then none else some (clean s)

end Harvester.Text
