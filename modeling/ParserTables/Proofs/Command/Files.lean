import ParserTables.Command.Files

/-!
# What writing does to the files

A text that is written to a path goes to one file, the destination of the path, and all other files
stay as they are. If it cannot be written, either nothing has changed, or the file that was emptied
for it holds the beginning of it (`write_error_cases`). The second way needs a file or a disk
without room, so in a tree with room a text that cannot be written changes nothing.
-/

namespace ParserTables.Command

/-! ### One file -/

namespace Content

/-- A text that may be written finds room as a whole, or nothing of it does. -/
def HasRoom : Content → Prop
  | .limited _ limits => limits.room = none
  | _ => True

/-- The file holds the beginning of a text. -/
def HoldsBeginning (text : String) : Content → Prop
  | .limited content _ => content.data.toList <+: text.toUTF8.data.toList
  | _ => False

variable {text : String} {e : FileError}

/-- If a text cannot be written to a file that may be written to, there was room for the beginning
of it only. -/
theorem write_error_of_writable {content : ByteArray} {limits : Limits}
    (hwritable : limits.writable = true)
    (h : ((limited content limits).write text).1 = .error e) :
    ¬ (limited content limits).HasRoom ∧
      ((limited content limits).write text).2.HoldsBeginning text := by
  rw [write, if_pos hwritable] at h ⊢
  cases hroom : limits.room with
  | none => rw [hroom] at h; cases h
  | some room =>
      rw [hroom] at h
      dsimp only at h ⊢
      by_cases hfits : text.utf8ByteSize ≤ room
      · rw [if_pos hfits] at h
        cases h
      · rw [if_neg hfits, HasRoom, hroom, HoldsBeginning, ByteArray.data_extract,
          Array.toList_extract]
        exact ⟨nofun, by simpa using List.take_prefix room _⟩

/-- A text that cannot be written leaves a file as it was, unless there was room for the beginning
of it only. -/
theorem write_error_cases {c : Content} (h : (c.write text).1 = .error e) :
    (c.write text).2 = c ∨ ¬ c.HasRoom ∧ (c.write text).2.HoldsBeginning text := by
  cases c with
  | bytes content => cases h
  | null => cases h
  | full => exact .inl rfl
  | limited content limits =>
      by_cases hwritable : limits.writable = true
      · exact .inr (write_error_of_writable hwritable h)
      · exact .inl (by rw [write, if_neg hwritable])

end Content

namespace FileTree

/-! ### The files of a tree -/

section Putting

variable {fresh : Content} {file other : List String} {text : String}
  {files : List (List String × Content)}

theorem lookup_cons_of_ne (hne : other ≠ file) (content : Content) :
    ((file, content) :: files).lookup other = files.lookup other := by
  rw [List.lookup_cons, beq_eq_false_iff_ne.2 hne]

/-- The other files stay as they are. -/
theorem lookup_put_of_ne (hne : other ≠ file) :
    (put fresh file text files).2.lookup other = files.lookup other := by
  induction files with
  | nil => exact lookup_cons_of_ne hne _
  | cons f rest ih =>
      rw [put]
      split
      · next hf =>
          subst hf
          exact (lookup_cons_of_ne hne _).trans (lookup_cons_of_ne hne _).symm
      · show (f :: (put fresh file text rest).2).lookup other = (f :: rest).lookup other
        rw [List.lookup_cons, List.lookup_cons, ih]

/-- The text is written to the file with this path, or to a new one. -/
theorem put_spec (fresh : Content) (file : List String) (text : String)
    (files : List (List String × Content)) :
    (put fresh file text files).1 = (((files.lookup file).getD fresh).write text).1 ∧
      (put fresh file text files).2.lookup file =
        some (((files.lookup file).getD fresh).write text).2 := by
  induction files with
  | nil => exact ⟨rfl, List.lookup_cons_self⟩
  | cons f rest ih =>
      obtain ⟨path, content⟩ := f
      rw [put]
      split
      · next hf =>
          subst hf
          rw [List.lookup_cons_self]
          exact ⟨rfl, List.lookup_cons_self⟩
      · next hf =>
          rw [lookup_cons_of_ne (Ne.symm hf)]
          exact ⟨ih.1, (lookup_cons_of_ne (Ne.symm hf) content).trans ih.2⟩

/-- If the file with this path is there and stays as it is, nothing changes at all. -/
theorem put_eq_self {content : Content} (hfile : files.lookup file = some content)
    (h : (content.write text).2 = content) : (put fresh file text files).2 = files := by
  induction files with
  | nil => cases hfile
  | cons f rest ih =>
      obtain ⟨path, held⟩ := f
      rw [put]
      split
      · next hf =>
          subst hf
          rw [List.lookup_cons_self] at hfile
          obtain rfl := Option.some.inj hfile
          exact congrArg (fun c => (path, c) :: rest) h
      · next hf =>
          rw [lookup_cons_of_ne (Ne.symm hf)] at hfile
          exact congrArg ((path, held) :: ·) (ih hfile)

end Putting

/-! ### The tree -/

/-- The tree after its files have been replaced by others. -/
theorem write_of_destination {t : FileTree} {path : String} {file : List String}
    (h : t.destination path = .ok file) (text : String) :
    t.write path text = ((put t.fresh file text t.files).1,
      { t with files := (put t.fresh file text t.files).2 }) := by
  rw [write, h]

/-- In no file, and nowhere on the disk, is there room for the beginning of a text only. -/
structure HasRoom (t : FileTree) : Prop where
  files : ∀ f ∈ t.files, f.2.HasRoom
  disk : t.room = none

/-- The trees differ in one file only, and in the second one it holds the beginning of a text. -/
structure CutAt (t : FileTree) (file : List String) (text : String) (t' : FileTree) : Prop where
  others : ∀ other, other ≠ file → t'.files.lookup other = t.files.lookup other
  surroundings : t' = { t with files := t'.files }
  beginning : ∃ content, t'.files.lookup file = some content ∧ content.HoldsBeginning text

variable {t : FileTree} {path text : String} {e : FileError}

/-- A new file takes every text, if there is room for it. -/
theorem fresh_write_error (h : (t.fresh.write text).1 = .error e) :
    ¬ t.HasRoom ∧ (t.fresh.write text).2.HoldsBeginning text := by
  rw [fresh] at h ⊢
  cases hroom : t.room with
  | none => rw [hroom] at h; cases h
  | some room =>
      rw [hroom] at h
      refine ⟨fun hall => ?_, (Content.write_error_of_writable rfl h).2⟩
      rw [hall.disk] at hroom
      cases hroom

/-- A text that cannot be written leaves the tree as it was, or there was room for the beginning of
it only, which stands at the destination of the path. -/
theorem write_error_cases (h : (t.write path text).1 = .error e) :
    (t.write path text).2 = t ∨ ¬ t.HasRoom ∧
      ∃ file, t.destination path = .ok file ∧ t.CutAt file text (t.write path text).2 := by
  cases hdestination : t.destination path with
  | error e' => exact .inl (by rw [write, hdestination])
  | ok file =>
      rw [write_of_destination hdestination] at h ⊢
      obtain ⟨hresult, hheld⟩ := put_spec t.fresh file text t.files
      have hcut (hbeginning : (((t.files.lookup file).getD t.fresh).write text).2.HoldsBeginning
          text) : t.CutAt file text { t with files := (put t.fresh file text t.files).2 } :=
        ⟨fun other hne => lookup_put_of_ne hne, rfl, _, hheld, hbeginning⟩
      rw [hresult] at h
      cases hlookup : t.files.lookup file with
      | none =>
          rw [hlookup] at h hcut
          obtain ⟨hroom, hbeginning⟩ := fresh_write_error h
          exact .inr ⟨hroom, file, rfl, hcut hbeginning⟩
      | some content =>
          rw [hlookup] at h hcut
          obtain hsame | ⟨hroom, hbeginning⟩ := Content.write_error_cases h
          · exact .inl (by rw [put_eq_self hlookup hsame])
          · refine .inr ⟨fun hall => hroom (hall.files (file, content) ?_), file, rfl,
              hcut hbeginning⟩
            obtain ⟨before, after, hfiles, -⟩ := List.lookup_eq_some_iff.1 hlookup
            simp [hfiles]

/-- In a tree that is made of input files there is room. -/
theorem hasRoom_ofFiles (files : List (List String × ByteArray)) : (ofFiles files).HasRoom := by
  refine ⟨fun f hf => ?_, rfl⟩
  obtain hf | hf := List.mem_append.1 hf
  · obtain ⟨g, -, rfl⟩ := List.mem_map.1 hf
    exact trivial
  · have hdevices : ∀ f ∈ usualDevices, f.2.HasRoom := by
      simp [usualDevices, Content.HasRoom]
    exact hdevices f hf

end FileTree

end ParserTables.Command
