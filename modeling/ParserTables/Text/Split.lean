/-!
# Cutting and joining texts

A text is cut at every occurrence of a separating character, or at the first one. Joining the
pieces with the separator gives the text back (`joinWith_pieces`).
-/

namespace ParserTables.Text

/-- Put a character in front of the first piece. -/
def pushFront (c : Char) : List (List Char) → List (List Char)
  | [] => [[c]]
  | piece :: pieces => (c :: piece) :: pieces

/-- The pieces of a text between the occurrences of `sep`; there is one more piece than
occurrences. -/
def pieces (sep : Char) : List Char → List (List Char)
  | [] => [[]]
  | c :: rest => if c = sep then [] :: pieces sep rest else pushFront c (pieces sep rest)

/-- The pieces written one after the other with `sep` between them. -/
def joinWith (sep : List Char) : List (List Char) → List Char
  | [] => []
  | [piece] => piece
  | piece :: next :: rest => piece ++ sep ++ joinWith sep (next :: rest)

@[simp] theorem pieces_nil (sep : Char) : pieces sep [] = [[]] := rfl

theorem pieces_cons (sep c : Char) (rest : List Char) :
    pieces sep (c :: rest) =
      if c = sep then [] :: pieces sep rest else pushFront c (pieces sep rest) := rfl

theorem pieces_ne_nil (sep : Char) (cs : List Char) : pieces sep cs ≠ [] := by
  cases cs with
  | nil => simp
  | cons c rest =>
    rw [pieces_cons]
    split
    · simp
    · cases pieces sep rest <;> simp [pushFront]

theorem joinWith_pushFront (sep : List Char) (c : Char) {ps : List (List Char)} (h : ps ≠ []) :
    joinWith sep (pushFront c ps) = c :: joinWith sep ps := by
  match ps, h with
  | [p], _ => rfl
  | p :: q :: rest, _ => simp [pushFront, joinWith]

/-- Joining the pieces undoes the cut. -/
theorem joinWith_pieces (sep : Char) (cs : List Char) :
    joinWith [sep] (pieces sep cs) = cs := by
  induction cs with
  | nil => rfl
  | cons c rest ih =>
    rw [pieces_cons]
    split
    · next h =>
      cases hp : pieces sep rest with
      | nil => exact absurd hp (pieces_ne_nil sep rest)
      | cons p ps => rw [hp] at ih; simp [joinWith, ih, h]
    · rw [joinWith_pushFront _ _ (pieces_ne_nil sep rest), ih]

/-- The parts before and after the first occurrence of `sep`, if there is one. -/
def cutAtFirst? (sep : Char) : List Char → Option (List Char × List Char)
  | [] => none
  | c :: rest =>
    if c = sep then some ([], rest)
    else (cutAtFirst? sep rest).map fun p => (c :: p.1, p.2)

theorem cutAtFirst?_eq_none_iff (sep : Char) (cs : List Char) :
    cutAtFirst? sep cs = none ↔ sep ∉ cs := by
  induction cs with
  | nil => simp [cutAtFirst?]
  | cons c rest ih =>
    by_cases h : c = sep
    · simp [cutAtFirst?, h]
    · simp [cutAtFirst?, h, ih, Ne.symm h]

/-- Every occurrence of `c` replaced by `text`. -/
def replaceChar (c : Char) (text : List Char) (cs : List Char) : List Char :=
  cs.flatMap fun d => if d = c then text else [d]

theorem replaceChar_append (c : Char) (text cs ds : List Char) :
    replaceChar c text (cs ++ ds) = replaceChar c text cs ++ replaceChar c text ds := by
  simp [replaceChar]

end ParserTables.Text
