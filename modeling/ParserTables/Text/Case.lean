import ParserTables.Text.Letter

/-!
# Upper case and lower case

A character is mapped by the tables of the Unicode standard, and may become several characters.
A text is mapped character by character, with one exception: a capital sigma that ends a word
becomes the final form of the small sigma. Whether it ends a word is decided by the nearest
character on either side that is not case-ignorable.
-/

namespace ParserTables.Text

/-- The form of `c` that a table of expansions and a table of shifts give, or `c` itself. -/
def mapCase (expansions : List (Nat × List Nat)) (shifts : List Shift) (c : Char) : List Char :=
  match expansions.lookup c.toNat with
  | some form => form.map Char.ofNat
  | none =>
    match shifts.findSome? (·.image? c.toNat) with
    | some n => [Char.ofNat n]
    | none => [c]

/-- The lowercase form of one character, without regard to its neighbours. -/
def lowerChar (c : Char) : List Char :=
  if isAscii c then [c.toLower] else mapCase lowercaseExpansions lowercaseShifts c

/-- The uppercase form of one character. -/
def upperChar (c : Char) : List Char :=
  if isAscii c then [c.toUpper] else mapCase uppercaseExpansions uppercaseShifts c

theorem lowerChar_of_ascii {c : Char} (h : isAscii c = true) : lowerChar c = [c.toLower] := by
  simp [lowerChar, h]

theorem upperChar_of_ascii {c : Char} (h : isAscii c = true) : upperChar c = [c.toUpper] := by
  simp [upperChar, h]

/-- Whether the nearest character that is not case-ignorable has a case. -/
def meetsCased (cs : List Char) : Bool :=
  match cs.find? (!isCaseIgnorable ·) with
  | some c => isCased c
  | none => false

/-- The capital sigma. -/
def capitalSigma : Char := Char.ofNat 0x3A3

/-- The small sigma that replaces a capital one between `before`, read backwards, and
`after`. -/
def smallSigma (before after : List Char) : Char :=
  if meetsCased before && !meetsCased after then Char.ofNat 0x3C2 else Char.ofNat 0x3C3

/-- The lowercase form of a text that follows `before`, where `before` is read backwards. -/
def lowerAfter (before : List Char) : List Char → List Char
  | [] => []
  | c :: rest =>
    (if c = capitalSigma then [smallSigma before rest] else lowerChar c) ++
      lowerAfter (c :: before) rest

/-- The lowercase form of a text. -/
def lower (cs : List Char) : List Char := lowerAfter [] cs

/-- The uppercase form of a text. -/
def upper (cs : List Char) : List Char := cs.flatMap upperChar

theorem lowerAfter_cons (before : List Char) (c : Char) (rest : List Char) :
    lowerAfter before (c :: rest) =
      (if c = capitalSigma then [smallSigma before rest] else lowerChar c) ++
        lowerAfter (c :: before) rest := rfl

/-- The first character in upper case, the others in lower case. -/
def capitalize : List Char → List Char
  | [] => []
  | c :: rest => upperChar c ++ rest.flatMap lowerChar

theorem capitalize_cons (c : Char) (rest : List Char) :
    capitalize (c :: rest) = upperChar c ++ rest.flatMap lowerChar := rfl

end ParserTables.Text
