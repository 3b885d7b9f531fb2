/-! # Grouping by key

`distinctKeys` lists the keys that occur, each once and in increasing order; `group` gives each of
them the members that have it, in the order in which they came. -/

namespace FirewallProbe

section

variable {κ : Type u} [LT κ] [DecidableLT κ] [DecidableEq κ]

/-- Inserts `key` at its place in an increasing list unless it is there already. -/
def insertKey (key : κ) : List κ → List κ
  | [] => [key]
  | k :: rest =>
    if key = k then k :: rest
    else if key < k then key :: k :: rest
    else k :: insertKey key rest

/-- The `keys` of a list, each once and in increasing order. -/
def distinctKeys (keys : List κ) : List κ := keys.foldr insertKey []

@[simp] theorem mem_insertKey {key other : κ} {keys : List κ} :
    other ∈ insertKey key keys ↔ other = key ∨ other ∈ keys := by
  fun_induction insertKey key keys <;> grind

@[simp] theorem mem_distinctKeys {key : κ} {keys : List κ} :
    key ∈ distinctKeys keys ↔ key ∈ keys := by
  induction keys with
  | nil => simp [distinctKeys]
  | cons k rest ih =>
    have h : distinctKeys (k :: rest) = insertKey k (distinctKeys rest) := rfl
    rw [h, mem_insertKey, ih, List.mem_cons]

/-- The `members` by the key that `keyOf` gives them: one entry for each key, in increasing order,
with its members in the order of the list. -/
def group {α : Type v} (keyOf : α → κ) (members : List α) : List (κ × List α) :=
  (distinctKeys (members.map keyOf)).map fun key => (key, members.filter fun a => keyOf a = key)

/-- `group` has an entry for each of `distinctKeys`, in their order. -/
theorem map_fst_group {α : Type v} (keyOf : α → κ) (members : List α) :
    (group keyOf members).map (·.1) = distinctKeys (members.map keyOf) := by
  simp [group, Function.comp_def]

end

end FirewallProbe
