/-! # Dictionaries in key order

`Dict α` maps strings to values and lists its entries by strictly increasing key; strings compare
by code point, which is also the order of their UTF-8 bytes.  Each operation comes with the lemma
that says what it does to the look-up `find?`. -/

namespace FirewallProbe

/-- The value at the first entry with the `key`. -/
def valueAt? {α : Type u} (key : String) : List (String × α) → Option α
  | [] => none
  | (k, v) :: rest => if k = key then some v else valueAt? key rest

/-- Puts an entry at its place in a list ordered by key, replacing one with the same `key`. -/
def insertEntry {α : Type u} (key : String) (value : α) : List (String × α) → List (String × α)
  | [] => [(key, value)]
  | (k, v) :: rest =>
    if k = key then (key, value) :: rest
    else if key < k then (key, value) :: (k, v) :: rest
    else (k, v) :: insertEntry key value rest

/-- `insertEntry` changes what `valueAt?` finds at its own `key` only. -/
theorem valueAt?_insertEntry {α : Type u} (key other : String) (value : α)
    (entries : List (String × α)) :
    valueAt? other (insertEntry key value entries) =
      if key = other then some value else valueAt? other entries := by
  fun_induction insertEntry key value entries <;> grind [valueAt?]

/-- `insertEntry` adds no entry but its own. -/
theorem mem_insertEntry {α : Type u} {key : String} {value : α} {entries : List (String × α)}
    {e : String × α} (h : e ∈ insertEntry key value entries) :
    e = (key, value) ∨ e ∈ entries := by
  fun_induction insertEntry key value entries <;> grind

private theorem lt_of_not_lt_of_ne {a b : String} (h : ¬a < b) (hne : b ≠ a) : b < a := by
  rcases Classical.em (b < a) with h' | h'
  · exact h'
  · exact absurd (String.le_antisymm (String.not_lt.1 h) (String.not_lt.1 h')) hne

/-- `insertEntry` keeps the keys increasing. -/
theorem pairwise_insertEntry {α : Type u} (key : String) (value : α)
    {entries : List (String × α)} (h : entries.Pairwise fun a b => a.1 < b.1) :
    (insertEntry key value entries).Pairwise fun a b => a.1 < b.1 := by
  induction entries with
  | nil => simp [insertEntry]
  | cons e rest ih =>
    obtain ⟨k, v⟩ := e
    rw [List.pairwise_cons] at h
    unfold insertEntry
    split
    · next heq => subst heq; exact List.pairwise_cons.2 ⟨fun x hx => h.1 x hx, h.2⟩
    · next hne =>
      split
      -- The new key is smaller than `k`, and so than all after it.
      · next hlt =>
        refine List.pairwise_cons.2 ⟨fun x hx => ?_, List.pairwise_cons.2 h⟩
        rcases List.mem_cons.1 hx with rfl | hx
        · exact hlt
        · exact String.lt_trans hlt (h.1 x hx)
      -- The new key goes further back, where `k` is still smaller.
      · next hnlt =>
        refine List.pairwise_cons.2 ⟨fun x hx => ?_, ih h.2⟩
        rcases mem_insertEntry hx with rfl | hx
        · exact lt_of_not_lt_of_ne hnlt hne
        · exact h.1 x hx

/-- A finite map with string keys. -/
structure Dict (α : Type u) where
  entries : List (String × α)
  sorted : entries.Pairwise fun a b => a.1 < b.1

namespace Dict

variable {α : Type u}

/-- The map without entries. -/
def empty : Dict α := ⟨[], List.Pairwise.nil⟩

instance : Inhabited (Dict α) := ⟨empty⟩

/-- The value at `key`. -/
def find? (d : Dict α) (key : String) : Option α := valueAt? key d.entries

/-- Puts `value` at `key`, replacing the one there. -/
def insert (d : Dict α) (key : String) (value : α) : Dict α :=
  ⟨insertEntry key value d.entries, pairwise_insertEntry key value d.sorted⟩

/-- The number of keys. -/
def size (d : Dict α) : Nat := d.entries.length

/-- Whether there is no entry. -/
def isEmpty (d : Dict α) : Bool := d.entries.isEmpty

/-- Inserts the `entries` one after the other, so that the last one with a key stays. -/
def ofList (entries : List (String × α)) : Dict α :=
  entries.foldl (fun d e => d.insert e.1 e.2) empty

@[simp] theorem find?_empty (key : String) : (empty : Dict α).find? key = none := rfl

/-- `insert` changes what `find?` finds at its own `key` only. -/
theorem find?_insert (d : Dict α) (key other : String) (value : α) :
    (d.insert key value).find? other = if key = other then some value else d.find? other :=
  valueAt?_insertEntry key other value d.entries

@[simp] theorem ofList_nil : (ofList [] : Dict α) = empty := rfl

/-- `ofList` inserts the last entry last. -/
theorem ofList_append_singleton (entries : List (String × α)) (e : String × α) :
    ofList (entries ++ [e]) = (ofList entries).insert e.1 e.2 := by
  simp [ofList]

end Dict
end FirewallProbe
