/-!
# Maps that keep their order

An ordered map is a list of entries with pairwise distinct keys. The order of the entries is the
order in which the keys came in, and everything that is generated from a map follows it.

There are two ways to build one. `insert` replaces the value of a key that is there already,
and leaves it in its place. `ofPairs?` takes a list of entries as it stands, and refuses it when
a key repeats an earlier one.
-/

namespace ParserTables

/-- Entries in order, with pairwise distinct keys. -/
structure OrderedMap (κ ν : Type) where
  entries : List (κ × ν)
  distinct : (entries.map Prod.fst).Nodup
deriving DecidableEq

namespace OrderedMap

variable {κ ν : Type}

/-- The map without entries. -/
def empty : OrderedMap κ ν := ⟨[], List.nodup_nil⟩

/-- The map with one entry. -/
def single (k : κ) (v : ν) : OrderedMap κ ν := ⟨[(k, v)], List.pairwise_singleton _ k⟩

instance : Inhabited (OrderedMap κ ν) := ⟨empty⟩

/-- The keys in order. -/
def keys (m : OrderedMap κ ν) : List κ := m.entries.map Prod.fst

/-- The number of entries. -/
def size (m : OrderedMap κ ν) : Nat := m.entries.length

@[simp] theorem entries_empty : (empty : OrderedMap κ ν).entries = [] := rfl

theorem ext_entries {m n : OrderedMap κ ν} (h : m.entries = n.entries) : m = n := by
  obtain ⟨es, hes⟩ := m
  obtain ⟨fs, hfs⟩ := n
  obtain rfl : es = fs := h
  rfl

variable [DecidableEq κ]

/-- The value of a key. -/
def get? (m : OrderedMap κ ν) (k : κ) : Option ν := m.entries.lookup k

/-- Whether the map has an entry with this key. -/
def contains (m : OrderedMap κ ν) (k : κ) : Bool := m.keys.contains k

/-- The entries with the value of `k` replaced, or with a new entry for `k` at the end. -/
def insertEntry (k : κ) (v : ν) : List (κ × ν) → List (κ × ν)
  | [] => [(k, v)]
  | (k', v') :: rest => if k = k' then (k, v) :: rest else (k', v') :: insertEntry k v rest

theorem mem_keys_insertEntry (k : κ) (v : ν) (es : List (κ × ν)) (x : κ) :
    x ∈ (insertEntry k v es).map Prod.fst ↔ x = k ∨ x ∈ es.map Prod.fst := by
  induction es with
  | nil => simp [insertEntry]
  | cons e rest ih =>
    obtain ⟨k', v'⟩ := e
    by_cases h : k = k'
    · simp [insertEntry, h]
    · simp only [insertEntry, h, if_false, List.map_cons, List.mem_cons, ih]
      constructor
      · rintro (h | h | h) <;> simp [h]
      · rintro (h | h | h) <;> simp [h]

theorem nodup_keys_insertEntry (k : κ) (v : ν) (es : List (κ × ν))
    (h : (es.map Prod.fst).Nodup) : ((insertEntry k v es).map Prod.fst).Nodup := by
  induction es with
  | nil => simp [insertEntry]
  | cons e rest ih =>
    obtain ⟨k', v'⟩ := e
    rw [List.map_cons, List.nodup_cons] at h
    by_cases hk : k = k'
    · simpa [insertEntry, hk] using h
    · simp only [insertEntry, hk, if_false, List.map_cons, List.nodup_cons]
      refine ⟨?_, ih h.2⟩
      rw [mem_keys_insertEntry]
      rintro (rfl | hm)
      · exact hk rfl
      · exact h.1 hm

/-- An entry is the new one, or was there before. -/
theorem eq_or_mem_of_mem_insertEntry {k : κ} {v : ν} {es : List (κ × ν)} {e : κ × ν}
    (h : e ∈ insertEntry k v es) : e = (k, v) ∨ e ∈ es := by
  induction es with
  | nil => exact .inl (List.mem_singleton.1 h)
  | cons e' rest ih =>
    obtain ⟨k', v'⟩ := e'
    rw [insertEntry] at h
    split at h
    · exact (List.mem_cons.1 h).imp id (List.mem_cons_of_mem _)
    · rcases List.mem_cons.1 h with rfl | h
      · exact .inr List.mem_cons_self
      · exact (ih h).imp id (List.mem_cons_of_mem _)

theorem insertEntry_of_not_mem {k : κ} {v : ν} {es : List (κ × ν)}
    (h : k ∉ es.map Prod.fst) : insertEntry k v es = es ++ [(k, v)] := by
  induction es with
  | nil => rfl
  | cons e es ih =>
      rw [List.map_cons, List.mem_cons, not_or] at h
      rw [insertEntry, if_neg h.1, ih h.2, List.cons_append]

/-- The map with a value for `k`. A key that is there already keeps its place. -/
def insert (m : OrderedMap κ ν) (k : κ) (v : ν) : OrderedMap κ ν :=
  ⟨insertEntry k v m.entries, nodup_keys_insertEntry k v m.entries m.distinct⟩

/-- The first key of the list that repeats one of the keys `seen` or an earlier key. -/
def firstRepeated? (seen : List κ) : List κ → Option κ
  | [] => none
  | k :: rest => if k ∈ seen then some k else firstRepeated? (k :: seen) rest

theorem nodup_of_firstRepeated?_eq_none {seen ks : List κ}
    (h : firstRepeated? seen ks = none) : ks.Nodup ∧ ∀ k ∈ ks, k ∉ seen := by
  induction ks generalizing seen with
  | nil => simp
  | cons k rest ih =>
    rw [firstRepeated?] at h
    split at h
    · exact absurd h (by simp)
    · next hk =>
      obtain ⟨hn, hs⟩ := ih h
      refine ⟨List.nodup_cons.2 ⟨fun hm => hs k hm (by simp), hn⟩, ?_⟩
      intro x hx
      rcases List.mem_cons.1 hx with rfl | hx
      · exact hk
      · exact fun hm => hs x hx (List.mem_cons_of_mem _ hm)

theorem firstRepeated?_eq_none {seen ks : List κ} (h : ks.Nodup) (hs : ∀ k ∈ ks, k ∉ seen) :
    firstRepeated? seen ks = none := by
  induction ks generalizing seen with
  | nil => rfl
  | cons k ks ih =>
      obtain ⟨hk, hn⟩ := List.nodup_cons.1 h
      rw [firstRepeated?, if_neg (hs k List.mem_cons_self)]
      refine ih hn fun x hx hmem => ?_
      rcases List.mem_cons.1 hmem with rfl | hmem
      · exact hk hx
      · exact hs x (List.mem_cons_of_mem k hx) hmem

/-- The map with exactly these entries, or the earliest key that repeats an earlier one. -/
def ofPairs? (pairs : List (κ × ν)) : Except κ (OrderedMap κ ν) :=
  match h : firstRepeated? [] (pairs.map Prod.fst) with
  | none => .ok ⟨pairs, (nodup_of_firstRepeated?_eq_none h).1⟩
  | some k => .error k

@[simp] theorem entries_insert (m : OrderedMap κ ν) (k : κ) (v : ν) :
    (m.insert k v).entries = insertEntry k v m.entries := rfl

theorem entries_of_ofPairs? {pairs : List (κ × ν)} {m : OrderedMap κ ν}
    (h : ofPairs? pairs = .ok m) : m.entries = pairs := by
  unfold ofPairs? at h
  split at h
  · cases h; rfl
  · cases h

/-- The entries of a map are the pairs of the map. -/
theorem ofPairs?_entries (m : OrderedMap κ ν) : ofPairs? m.entries = .ok m := by
  have hnone : firstRepeated? [] (m.entries.map Prod.fst) = none :=
    firstRepeated?_eq_none m.distinct fun k _ hk => nomatch hk
  unfold ofPairs?
  split
  · rfl
  · next k hk =>
    rw [hnone] at hk
    cases hk

theorem entries_foldl_insert (m : OrderedMap κ ν) {es : List (κ × ν)}
    (h : ((m.entries ++ es).map Prod.fst).Nodup) :
    (es.foldl (fun m e => m.insert e.1 e.2) m).entries = m.entries ++ es := by
  induction es generalizing m with
  | nil => rw [List.foldl_nil, List.append_nil]
  | cons e es ih =>
      have hfresh : e.1 ∉ m.entries.map Prod.fst := by
        rw [List.map_append, List.map_cons, List.nodup_append] at h
        exact fun hmem => h.2.2 e.1 hmem e.1 List.mem_cons_self rfl
      have hinsert : (m.insert e.1 e.2).entries = m.entries ++ [e] :=
        insertEntry_of_not_mem hfresh
      have happend : m.entries ++ e :: es = (m.insert e.1 e.2).entries ++ es := by
        rw [hinsert, List.append_assoc, List.singleton_append]
      rw [happend] at h
      rw [List.foldl_cons, ih (m.insert e.1 e.2) h, ← happend]

/-- Inserting the entries of a map one after the other makes the map. -/
theorem foldl_insert_entries (m : OrderedMap κ ν) :
    m.entries.foldl (fun m e => m.insert e.1 e.2) empty = m :=
  ext_entries (entries_foldl_insert empty m.distinct)

end OrderedMap

/-- The elements of a list in the order in which they first appear. -/
def firstAppearances {α : Type} [DecidableEq α] (seen : List α) : List α → List α
  | [] => []
  | a :: rest =>
    if a ∈ seen then firstAppearances seen rest else a :: firstAppearances (a :: seen) rest

theorem mem_firstAppearances {α : Type} [DecidableEq α] {seen as : List α} {a : α} :
    a ∈ firstAppearances seen as ↔ a ∈ as ∧ a ∉ seen := by
  induction as generalizing seen with
  | nil => simp [firstAppearances]
  | cons b rest ih =>
    by_cases hb : b ∈ seen
    · simp only [firstAppearances, hb, if_true, ih, List.mem_cons]
      constructor
      · exact fun h => ⟨.inr h.1, h.2⟩
      · rintro ⟨rfl | h, hs⟩
        · exact absurd hb hs
        · exact ⟨h, hs⟩
    · simp only [firstAppearances, hb, if_false, List.mem_cons, ih]
      constructor
      · rintro (rfl | ⟨h, hs⟩)
        · exact ⟨.inl rfl, hb⟩
        · exact ⟨.inr h, fun h' => hs (.inr h')⟩
      · rintro ⟨rfl | h, hs⟩
        · exact .inl rfl
        · by_cases hab : a = b
          · exact .inl hab
          · exact .inr ⟨h, fun h' => h'.elim hab hs⟩

theorem nodup_firstAppearances {α : Type} [DecidableEq α] (seen as : List α) :
    (firstAppearances seen as).Nodup := by
  induction as generalizing seen with
  | nil => simp [firstAppearances]
  | cons b rest ih =>
    by_cases hb : b ∈ seen
    · simpa [firstAppearances, hb] using ih seen
    · simp only [firstAppearances, hb, if_false, List.nodup_cons]
      exact ⟨fun h => (mem_firstAppearances.1 h).2 (by simp), ih _⟩

theorem firstAppearances_of_nodup {α : Type} [DecidableEq α] {seen as : List α} (h : as.Nodup)
    (hs : ∀ a ∈ as, a ∉ seen) : firstAppearances seen as = as := by
  induction as generalizing seen with
  | nil => rfl
  | cons a as ih =>
      obtain ⟨ha, hn⟩ := List.nodup_cons.1 h
      rw [firstAppearances, if_neg (hs a List.mem_cons_self), ih hn]
      intro x hx hmem
      rcases List.mem_cons.1 hmem with rfl | hmem
      · exact ha hx
      · exact hs x (List.mem_cons_of_mem a hx) hmem

end ParserTables
