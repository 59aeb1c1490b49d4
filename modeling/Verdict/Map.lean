/-! Finite maps from texts. Some remember the order in which their names first came: putting a name
again replaces its value and keeps its place. The others keep their entries in the order of their
names, by code point: two such maps with the same values are equal, whatever the order in which they
were filled. -/
namespace Verdict

/-! ### Maps in the order of arrival -/

/-- The entries after giving `name` the value `value`: in place if the name occurs, else last. -/
def putEntry {β : Type} (name : String) (value : β) : List (String × β) → List (String × β)
  | [] => [(name, value)]
  | (other, old) :: rest =>
    if other = name then (name, value) :: rest else (other, old) :: putEntry name value rest

/-- Putting adds at most the name that is put. -/
private theorem map_fst_putEntry {β : Type} (name : String) (value : β)
    (entries : List (String × β)) : (putEntry name value entries).map Prod.fst =
      if name ∈ entries.map Prod.fst then entries.map Prod.fst
      else entries.map Prod.fst ++ [name] := by
  induction entries with
  | nil => simp [putEntry]
  | cons entry rest ih => grind [putEntry]

private theorem nodup_putEntry {β : Type} {name : String} {value : β} {entries : List (String × β)}
    (distinct : (entries.map Prod.fst).Nodup) :
    ((putEntry name value entries).map Prod.fst).Nodup := by
  rw [map_fst_putEntry]
  split
  · exact distinct
  · rename_i absent
    rw [List.nodup_append]
    refine ⟨distinct, by simp, fun left present right last => ?_⟩
    rw [List.mem_singleton] at last
    rintro rfl
    exact absent (last ▸ present)

/-- A finite map from texts, in the order in which the names first came. -/
structure OrderedMap (β : Type) where
  entries : List (String × β)
  distinct : (entries.map Prod.fst).Nodup
  deriving DecidableEq

namespace OrderedMap

variable {β : Type}

@[ext] theorem ext {left right : OrderedMap β} (same : left.entries = right.entries) :
    left = right := by
  cases left; cases right; cases same; rfl

def empty : OrderedMap β := ⟨[], by simp⟩

def names (map : OrderedMap β) : List String := map.entries.map Prod.fst

def isEmpty (map : OrderedMap β) : Bool := map.entries.isEmpty

/-- The value of a name, if the map has it. -/
def get? (map : OrderedMap β) (name : String) : Option β := map.entries.lookup name

/-- Gives a name a value: a new name comes last, a known one keeps its place. -/
def put (map : OrderedMap β) (name : String) (value : β) : OrderedMap β :=
  ⟨putEntry name value map.entries, nodup_putEntry map.distinct⟩

/-- Puts pairs one after the other, so a repeated name keeps its first place and last value. -/
def putAll (map : OrderedMap β) (pairs : List (String × β)) : OrderedMap β :=
  pairs.foldl (fun map pair => map.put pair.1 pair.2) map

def ofList (pairs : List (String × β)) : OrderedMap β := empty.putAll pairs

/-- Putting changes the value of one name only. -/
theorem get?_put (map : OrderedMap β) (name other : String) (value : β) :
    (map.put name value).get? other = if other = name then some value else map.get? other := by
  simp only [get?, put]
  generalize map.entries = entries
  induction entries with
  | nil => grind [putEntry]
  | cons entry rest ih => grind [putEntry]

theorem names_put (map : OrderedMap β) (name : String) (value : β) :
    (map.put name value).names =
      if name ∈ map.names then map.names else map.names ++ [name] :=
  map_fst_putEntry name value map.entries

end OrderedMap

/-! ### Maps in the order of names -/

/-- The entries after giving `name` the value `value`, at the place where the name belongs. -/
def insertEntry {β : Type} (name : String) (value : β) : List (String × β) → List (String × β)
  | [] => [(name, value)]
  | (other, old) :: rest =>
    if name = other then (name, value) :: rest
    else if name < other then (name, value) :: (other, old) :: rest
    else (other, old) :: insertEntry name value rest

private theorem mem_insertEntry {β : Type} {name : String} {value : β} {entry : String × β}
    {entries : List (String × β)} (present : entry ∈ insertEntry name value entries) :
    entry = (name, value) ∨ entry ∈ entries := by
  induction entries with
  | nil => simpa [insertEntry] using present
  | cons head rest ih => grind [insertEntry]

/-- Strictly increasing names, hence no name twice. -/
def SortedByName {β : Type} (entries : List (String × β)) : Prop :=
  entries.Pairwise (fun left right => left.1 < right.1)

instance {β : Type} (entries : List (String × β)) : Decidable (SortedByName entries) :=
  inferInstanceAs (Decidable (List.Pairwise _ entries))

private theorem sortedByName_insertEntry {β : Type} {name : String} {value : β}
    {entries : List (String × β)} (sorted : SortedByName entries) :
    SortedByName (insertEntry name value entries) := by
  induction entries with
  | nil => simp [insertEntry, SortedByName]
  | cons head rest ih =>
    obtain ⟨other, old⟩ := head
    have tail : SortedByName rest := List.Pairwise.of_cons sorted
    have bound : ∀ entry ∈ rest, other < entry.1 :=
      fun entry present => List.rel_of_pairwise_cons sorted present
    rw [insertEntry]
    split
    · subst_vars
      exact List.Pairwise.cons bound tail
    · split
      · rename_i different smaller
        refine List.Pairwise.cons ?_ sorted
        intro entry present
        rcases List.mem_cons.mp present with rfl | later
        · exact smaller
        · exact String.lt_trans smaller (bound entry later)
      · rename_i different notSmaller
        refine List.Pairwise.cons ?_ (ih tail)
        intro entry present
        rcases mem_insertEntry present with rfl | later
        · rcases Std.lt_trichotomy name other with h | h | h
          · exact absurd h notSmaller
          · exact absurd h different
          · exact h
        · exact bound entry later

/-- A finite map from texts, in the order of its names. -/
structure SortedMap (β : Type) where
  entries : List (String × β)
  sorted : SortedByName entries
  deriving DecidableEq

namespace SortedMap

variable {β : Type}

@[ext] theorem ext {left right : SortedMap β} (same : left.entries = right.entries) :
    left = right := by
  cases left; cases right; cases same; rfl

def empty : SortedMap β := ⟨[], List.Pairwise.nil⟩

def names (map : SortedMap β) : List String := map.entries.map Prod.fst

/-- The value of a name, if the map has it. -/
def get? (map : SortedMap β) (name : String) : Option β := map.entries.lookup name

/-- Gives a name a value. -/
def put (map : SortedMap β) (name : String) (value : β) : SortedMap β :=
  ⟨insertEntry name value map.entries, sortedByName_insertEntry map.sorted⟩

/-- Puts pairs one after the other, so the last value of a repeated name stays. -/
def putAll (map : SortedMap β) (pairs : List (String × β)) : SortedMap β :=
  pairs.foldl (fun map pair => map.put pair.1 pair.2) map

def ofList (pairs : List (String × β)) : SortedMap β := empty.putAll pairs

/-- Putting changes the value of one name only. -/
theorem get?_put (map : SortedMap β) (name other : String) (value : β) :
    (map.put name value).get? other = if other = name then some value else map.get? other := by
  simp only [get?, put]
  generalize map.entries = entries
  induction entries with
  | nil => grind [insertEntry]
  | cons entry rest ih => grind [insertEntry]

end SortedMap

end Verdict
