import Mathlib.Data.List.Induction
import Mathlib.Data.List.Nodup
import Verdict.Map
/-! What maps hold. A name that was put several times has the value that was put last; in a map
that remembers the order of names it stands where it was put first, so that the order of two pairs
with different names can be told by nothing but the order of names. A map in the order of its names
is known by the values that it gives. -/
namespace Verdict

variable {α β : Type}

/-! ### The last value of a name -/

/-- The value of the last pair with this name. -/
def lastValue? (pairs : List (String × β)) (name : String) : Option β := pairs.reverse.lookup name

theorem lastValue?_concat (pairs : List (String × β)) (other : String) (value : β) (name : String) :
    lastValue? (pairs ++ [(other, value)]) name =
      if name = other then some value else lastValue? pairs name := by
  unfold lastValue?
  rw [List.reverse_append, List.reverse_singleton, List.singleton_append, List.lookup_cons]
  by_cases same : name = other
  · simp [same]
  · simp [same, beq_false_of_ne same]

theorem lookup_eq_none_of_absent {pairs : List (String × β)} {name : String}
    (absent : name ∉ pairs.map Prod.fst) : pairs.lookup name = none := by
  rw [List.lookup_eq_none_iff]
  intro pair member
  rw [bne_iff_ne]
  rintro rfl
  exact absent (List.mem_map_of_mem member)

/-- Among pairs that never repeat a name, the last value is the only one. -/
theorem lastValue?_of_distinct {pairs : List (String × β)} (distinct : (pairs.map Prod.fst).Nodup)
    (name : String) : lastValue? pairs name = pairs.lookup name := by
  induction pairs with
  | nil => rfl
  | cons pair rest ih =>
    obtain ⟨other, value⟩ := pair
    obtain ⟨absent, distinct⟩ := List.nodup_cons.mp distinct
    unfold lastValue? at ih ⊢
    rw [List.reverse_cons, List.lookup_append, ih distinct, List.lookup_cons]
    by_cases same : name = other
    · simp [same, lookup_eq_none_of_absent absent]
    · simp [List.lookup_cons, beq_false_of_ne same]

/-- Only a name that no pair has is without a last value. -/
theorem absent_of_lastValue? {pairs : List (String × β)} {name : String}
    (none : lastValue? pairs name = none) : name ∉ pairs.map Prod.fst := by
  intro listed
  obtain ⟨⟨name, value⟩, member, rfl⟩ := List.mem_map.mp listed
  have differs := List.lookup_eq_none_iff.mp none _ (List.mem_reverse.mpr member)
  exact absurd rfl (bne_iff_ne.mp differs)

theorem lastValue?_append (pairs later : List (String × β)) (name : String) :
    lastValue? (pairs ++ later) name = (lastValue? later name).or (lastValue? pairs name) := by
  rw [lastValue?, List.reverse_append, List.lookup_append]
  rfl

/-- What comes last is not changed by what came before. -/
theorem lastValue?_of_suffix {pairs later : List (String × β)} (suffix : later <:+ pairs)
    {name : String} {value : β} (found : lastValue? later name = some value) :
    lastValue? pairs name = some value := by
  obtain ⟨earlier, rfl⟩ := suffix
  rw [lastValue?_append, found]
  rfl

theorem mem_of_lastValue? {pairs : List (String × β)} {name : String} {value : β}
    (found : lastValue? pairs name = some value) : (name, value) ∈ pairs := by
  obtain ⟨before, after, listed, -⟩ := List.lookup_eq_some_iff.mp found
  rw [← List.mem_reverse, listed]
  simp

/-- Two pairs with different names give the same values in either order. -/
theorem lookup_swap {first second : String × β} (differ : first.1 ≠ second.1)
    (earlier later : List (String × β)) (name : String) :
    (earlier ++ second :: first :: later).lookup name =
      (earlier ++ first :: second :: later).lookup name := by
  obtain ⟨firstName, firstValue⟩ := first
  obtain ⟨secondName, secondValue⟩ := second
  rw [List.lookup_append, List.lookup_append]
  congr 1
  by_cases isFirst : name = firstName
  · have notSecond : (name == secondName) = false := beq_false_of_ne (isFirst ▸ differ)
    simp [List.lookup_cons, isFirst, beq_false_of_ne differ]
  · simp [List.lookup_cons, beq_false_of_ne isFirst]

theorem lastValue?_swap {first second : String × β} (differ : first.1 ≠ second.1)
    (before after : List (String × β)) (name : String) :
    lastValue? (before ++ second :: first :: after) name =
      lastValue? (before ++ first :: second :: after) name := by
  have turned := lookup_swap differ.symm after.reverse before.reverse name
  simpa [lastValue?] using turned

/-- A pair with its value changed. -/
def mapValue (change : α → β) (pair : String × α) : String × β := (pair.1, change pair.2)

private theorem lookup_mapValue (change : α → β) (pairs : List (String × α)) (name : String) :
    (pairs.map (mapValue change)).lookup name = (pairs.lookup name).map change := by
  induction pairs with
  | nil => rfl
  | cons pair pairs ih =>
    rw [List.map_cons, mapValue, List.lookup_cons, List.lookup_cons, ih]
    cases name == pair.1 <;> rfl

theorem lastValue?_mapValue (change : α → β) (pairs : List (String × α)) (name : String) :
    lastValue? (pairs.map (mapValue change)) name = (lastValue? pairs name).map change := by
  rw [lastValue?, ← List.map_reverse, lookup_mapValue]
  rfl

/-! ### Maps in the order of first occurrence -/

/-- Of an element at the end a first occurrence is kept if it is one. -/
private theorem eraseDups_concat (names : List String) (name : String) :
    (names ++ [name]).eraseDups =
      if name ∈ names then names.eraseDups else names.eraseDups ++ [name] := by
  rw [List.eraseDups_append]
  by_cases known : name ∈ names <;> simp [List.removeAll, known, List.eraseDups_cons]

private theorem eraseDups_of_nodup {names : List String} (distinct : names.Nodup) :
    names.eraseDups = names := by
  induction names using List.reverseRecOn with
  | nil => rfl
  | append_singleton names name ih =>
    rw [← List.concat_eq_append, List.nodup_concat] at distinct
    rw [eraseDups_concat, if_neg distinct.1, ih distinct.2]

/-- Two names that stand side by side trade their places among the first occurrences if both come
there for the first time; otherwise nothing changes. -/
private theorem eraseDups_swap {first second : String} (differ : first ≠ second)
    (before after : List String) :
    (before ++ second :: first :: after).eraseDups =
        (before ++ first :: second :: after).eraseDups ∨
      ∃ earlier later,
        (before ++ first :: second :: after).eraseDups = earlier ++ first :: second :: later ∧
        (before ++ second :: first :: after).eraseDups = earlier ++ second :: first :: later := by
  have parted (left right : String) : (before ++ left :: right :: after).eraseDups =
      (before ++ [left] ++ [right]).eraseDups ++
        (after.removeAll (before ++ [left] ++ [right])).eraseDups := by
    rw [← List.eraseDups_append, List.append_assoc, List.append_assoc]
    rfl
  have rest : after.removeAll (before ++ [second] ++ [first]) =
      after.removeAll (before ++ [first] ++ [second]) := by
    simp [List.removeAll, Bool.and_comm]
  rw [parted first second, parted second first, rest]
  simp only [eraseDups_concat, List.mem_append, List.mem_singleton, differ, differ.symm, or_false]
  by_cases known : first ∈ before
  · left
    simp only [known, if_true]
  · by_cases knownToo : second ∈ before
    · left
      simp only [knownToo, if_true]
    · right
      refine ⟨before.eraseDups, (after.removeAll (before ++ [first] ++ [second])).eraseDups,
        ?_, ?_⟩ <;>
      simp [known, knownToo]

/-- Pairs that never repeat a name are known by their names in order and the values they give. -/
theorem eq_of_names_of_lookup {left right : List (String × β)}
    (distinct : (left.map Prod.fst).Nodup) (names : left.map Prod.fst = right.map Prod.fst)
    (same : ∀ name, left.lookup name = right.lookup name) : left = right := by
  induction left generalizing right with
  | nil => exact (List.map_eq_nil_iff.mp names.symm).symm
  | cons pair left ih =>
    obtain ⟨name, value⟩ := pair
    obtain ⟨⟨other, otherValue⟩, right, rfl⟩ :=
      List.exists_cons_of_ne_nil (fun empty => by simp [empty] at names : right ≠ [])
    obtain ⟨isFirst, others⟩ := List.cons.inj names
    obtain rfl : name = other := isFirst
    obtain ⟨absent, distinct⟩ := List.nodup_cons.mp distinct
    have first := same name
    rw [List.lookup_cons_self, List.lookup_cons_self, Option.some.injEq] at first
    -- The first name is in neither rest, so each rest gives it no value.
    have rests : left = right := by
      refine ih distinct others fun asked => ?_
      by_cases isName : asked = name
      · rw [isName, lookup_eq_none_of_absent absent, lookup_eq_none_of_absent (others ▸ absent)]
      · simpa [List.lookup_cons, beq_false_of_ne isName] using same asked
    rw [first, rests]

namespace OrderedMap

private theorem putAll_concat (map : OrderedMap β) (pairs : List (String × β)) (pair : String × β) :
    map.putAll (pairs ++ [pair]) = (map.putAll pairs).put pair.1 pair.2 := by
  simp [putAll]

private theorem putAll_append (map : OrderedMap β) (pairs later : List (String × β)) :
    map.putAll (pairs ++ later) = (map.putAll pairs).putAll later := by
  simp [putAll]

/-- A name that is put has its last value, every other name keeps its own. -/
theorem get?_putAll (map : OrderedMap β) (pairs : List (String × β)) (name : String) :
    (map.putAll pairs).get? name = (lastValue? pairs name).or (map.get? name) := by
  induction pairs using List.reverseRecOn with
  | nil => rfl
  | append_singleton pairs pair ih =>
    rw [putAll_concat, get?_put, ih, lastValue?_concat]
    split <;> rfl

/-- Names stand in the order in which they first came. -/
theorem names_putAll (map : OrderedMap β) (pairs : List (String × β)) :
    (map.putAll pairs).names = (map.names ++ pairs.map Prod.fst).eraseDups := by
  induction pairs using List.reverseRecOn with
  | nil =>
    rw [List.map_nil, List.append_nil]
    exact (eraseDups_of_nodup map.distinct).symm
  | append_singleton pairs pair ih =>
    rw [putAll_concat, names_put, ih, List.map_append, List.map_singleton, ← List.append_assoc,
      eraseDups_concat]
    simp only [List.mem_eraseDups]

theorem get?_ofList (pairs : List (String × β)) (name : String) :
    (ofList pairs).get? name = lastValue? pairs name := by
  rw [ofList, get?_putAll]
  exact Option.or_none

theorem ofList_append (pairs later : List (String × β)) :
    ofList (pairs ++ later) = (ofList pairs).putAll later :=
  putAll_append empty pairs later

theorem names_ofList (pairs : List (String × β)) :
    (ofList pairs).names = (pairs.map Prod.fst).eraseDups := by
  rw [ofList, names_putAll]
  rfl

/-- A name that is new comes last. -/
theorem entries_put_of_absent {map : OrderedMap β} {name : String} (absent : name ∉ map.names)
    (value : β) : (map.put name value).entries = map.entries ++ [(name, value)] := by
  change putEntry name value map.entries = _
  unfold names at absent
  generalize map.entries = entries at absent
  induction entries with
  | nil => rfl
  | cons entry entries ih => grind [putEntry]

/-- Pairs that never repeat a name are the entries of their map, in the same order. -/
theorem entries_ofList {pairs : List (String × β)} (distinct : (pairs.map Prod.fst).Nodup) :
    (ofList pairs).entries = pairs := by
  induction pairs using List.reverseRecOn with
  | nil => rfl
  | append_singleton pairs pair ih =>
    rw [List.map_append, List.map_singleton, ← List.concat_eq_append, List.nodup_concat] at distinct
    obtain ⟨absent, distinct⟩ := distinct
    rw [← ih distinct] at absent
    rw [ofList, putAll_concat, ← ofList, entries_put_of_absent absent, ih distinct]

theorem ofList_entries (map : OrderedMap β) : ofList map.entries = map :=
  ext (entries_ofList map.distinct)

/-- A map is known by its names in their order and the values that it gives. -/
theorem ext_get? {left right : OrderedMap β} (names : left.names = right.names)
    (same : ∀ name, left.get? name = right.get? name) : left = right :=
  ext (eq_of_names_of_lookup left.distinct names same)

theorem isEmpty_iff {map : OrderedMap β} : map.isEmpty = true ↔ ∀ name, map.get? name = none := by
  rw [isEmpty, List.isEmpty_iff]
  constructor
  · intro empty name
    rw [get?, empty]
    rfl
  · intro absent
    cases entries : map.entries with
    | nil => rfl
    | cons entry others =>
      have found := absent entry.1
      rw [get?, entries, List.lookup_cons_self] at found
      cases found

theorem isEmpty_ofList {pairs : List (String × β)} (nonempty : pairs ≠ []) :
    (ofList pairs).isEmpty = false := by
  obtain ⟨pair, others, rfl⟩ := List.exists_cons_of_ne_nil nonempty
  rw [← Bool.not_eq_true, isEmpty_iff]
  intro absent
  refine absent_of_lastValue? ((get?_ofList _ _).symm.trans (absent pair.1)) ?_
  exact List.mem_cons_self

/-- Of two pairs that are put one after the other, with different names, the order can be told only
if both names are new; then their entries stand side by side in this order. -/
theorem entries_ofList_swap {first second : String × β} (differ : first.1 ≠ second.1)
    (before after : List (String × β)) :
    (ofList (before ++ second :: first :: after)).entries =
        (ofList (before ++ first :: second :: after)).entries ∨
      ∃ earlier left right later,
        (ofList (before ++ first :: second :: after)).entries =
            earlier ++ left :: right :: later ∧
          (ofList (before ++ second :: first :: after)).entries =
            earlier ++ right :: left :: later := by
  have same (name : String) : (ofList (before ++ second :: first :: after)).get? name =
      (ofList (before ++ first :: second :: after)).get? name := by
    rw [get?_ofList, get?_ofList, lastValue?_swap differ]
  have names (left right : String × β) : (ofList (before ++ left :: right :: after)).names =
      (before.map Prod.fst ++ left.1 :: right.1 :: after.map Prod.fst).eraseDups := by
    rw [names_ofList, List.map_append, List.map_cons, List.map_cons]
  rcases eraseDups_swap differ (before.map Prod.fst) (after.map Prod.fst) with
    unmoved | ⟨earlier, later, order, reversed⟩
  · left
    rw [ext_get? ((names _ _).trans (unmoved.trans (names _ _).symm)) same]
  · right
    rw [← names] at order reversed
    obtain ⟨front, back, entries, rfl, rest⟩ := List.map_eq_append_iff.mp order
    obtain ⟨left, others, rfl, isFirst, others'⟩ := List.map_eq_cons_iff.mp rest
    obtain ⟨right, back, rfl, isSecond, rfl⟩ := List.map_eq_cons_iff.mp others'
    refine ⟨front, left, right, back, entries, ?_⟩
    refine eq_of_names_of_lookup (ofList _).distinct ?_ fun name => ?_
    · exact reversed.trans (by simp [isFirst, isSecond])
    · rw [lookup_swap (by rw [isFirst, isSecond]; exact differ), ← entries]
      exact same name

/-- Pairs that were put already may be put again. -/
theorem putAll_again (map : OrderedMap β) (pairs : List (String × β)) :
    (map.putAll pairs).putAll pairs = map.putAll pairs := by
  refine ext_get? ?_ fun name => ?_
  · have added : (pairs.map Prod.fst).removeAll (map.putAll pairs).names = [] := by
      rw [List.removeAll, List.filter_eq_nil_iff]
      intro name member
      simp [names_putAll, member]
    have known : (map.putAll pairs).names.eraseDups = (map.putAll pairs).names :=
      eraseDups_of_nodup (map.putAll pairs).distinct
    rw [names_putAll (map.putAll pairs), List.eraseDups_append, added, known]
    exact List.append_nil _
  · rw [get?_putAll, get?_putAll, ← Option.or_assoc, Option.or_self]

end OrderedMap

/-! ### Maps in the order of names -/

theorem SortedByName.distinct {entries : List (String × β)} (sorted : SortedByName entries) :
    (entries.map Prod.fst).Nodup := by
  rw [List.nodup_iff_pairwise_ne, List.pairwise_map]
  refine sorted.imp fun {left right} smaller same => ?_
  rw [same] at smaller
  exact String.lt_irrefl _ smaller

theorem sortedByName_mapValue_iff {entries : List (String × α)} {change : α → β} :
    SortedByName (entries.map (mapValue change)) ↔ SortedByName entries :=
  List.pairwise_map

theorem mem_iff_lookup {entries : List (String × β)} (distinct : (entries.map Prod.fst).Nodup)
    {name : String} {value : β} :
    (name, value) ∈ entries ↔ entries.lookup name = some value := by
  constructor
  · intro member
    obtain ⟨before, after, rfl⟩ := List.append_of_mem member
    rw [List.map_append, List.map_cons, List.nodup_middle, List.nodup_cons, List.mem_append,
      not_or] at distinct
    rw [List.lookup_append, lookup_eq_none_of_absent distinct.1.1, List.lookup_cons]
    simp
  · intro found
    rw [← lastValue?_of_distinct distinct] at found
    exact mem_of_lastValue? found

private theorem lookup_filterMap {entries : List (String × α)}
    (distinct : (entries.map Prod.fst).Nodup) (change : String → α → Option β) (name : String) :
    (entries.filterMap fun entry => (change entry.1 entry.2).map (entry.1, ·)).lookup name =
      (entries.lookup name).bind (change name) := by
  induction entries with
  | nil => rfl
  | cons entry entries ih =>
    obtain ⟨absent, distinct⟩ := List.nodup_cons.mp distinct
    rw [List.filterMap_cons, List.lookup_cons]
    by_cases same : name = entry.1
    · have nothing := ih distinct
      rw [same, lookup_eq_none_of_absent absent] at nothing
      cases made : change entry.1 entry.2 <;> simp [same, made, nothing]
    · cases made : change entry.1 entry.2 <;>
        simp [List.lookup_cons, beq_false_of_ne same, ih distinct]

/-- Entries in the order of their names are known by the values that they give. -/
theorem SortedByName.eq_of_lookup {left right : List (String × β)} (sortedLeft : SortedByName left)
    (sortedRight : SortedByName right) (same : ∀ name, left.lookup name = right.lookup name) :
    left = right := by
  have permuted : left.Perm right := by
    rw [List.perm_ext_iff_of_nodup (List.Nodup.of_map _ sortedLeft.distinct)
      (List.Nodup.of_map _ sortedRight.distinct)]
    rintro ⟨name, value⟩
    rw [mem_iff_lookup sortedLeft.distinct, mem_iff_lookup sortedRight.distinct, same]
  refine permuted.eq_of_pairwise ?_ sortedLeft sortedRight
  intro first second _ _ below above
  exact absurd above (String.lt_asymm below)

namespace SortedMap

theorem ext_get? {left right : SortedMap β} (same : ∀ name, left.get? name = right.get? name) :
    left = right :=
  ext (left.sorted.eq_of_lookup right.sorted same)

theorem get?_eq_none_iff {map : SortedMap β} {name : String} :
    map.get? name = none ↔ name ∉ map.names := by
  refine ⟨fun absent listed => ?_, lookup_eq_none_of_absent⟩
  obtain ⟨⟨name, value⟩, member, rfl⟩ := List.mem_map.mp listed
  cases absent.symm.trans ((mem_iff_lookup map.sorted.distinct).mp member)

theorem get?_ofList (pairs : List (String × β)) (name : String) :
    (ofList pairs).get? name = lastValue? pairs name := by
  induction pairs using List.reverseRecOn with
  | nil => rfl
  | append_singleton pairs pair ih =>
    have last : ofList (pairs ++ [pair]) = (ofList pairs).put pair.1 pair.2 := by
      simp [ofList, putAll]
    rw [last, get?_put, ih, lastValue?_concat]

theorem ofList_entries (map : SortedMap β) : ofList map.entries = map :=
  ext_get? fun name => (get?_ofList _ _).trans (lastValue?_of_distinct map.sorted.distinct name)

/-- Changing all values and bringing pairs in order may be exchanged. -/
theorem entries_ofList_mapValue (change : α → β) (pairs : List (String × α)) :
    (ofList (pairs.map (mapValue change))).entries =
      (ofList pairs).entries.map (mapValue change) := by
  refine SortedByName.eq_of_lookup (ofList _).sorted
    (sortedByName_mapValue_iff.mpr (ofList pairs).sorted) ?_
  intro name
  rw [lookup_mapValue]
  change (ofList _).get? name = ((ofList pairs).get? name).map change
  rw [get?_ofList, get?_ofList, lastValue?_mapValue]

/-- The map of what is made of each entry; entries of which nothing is made are left out. -/
def filterMap (map : SortedMap α) (change : String → α → Option β) : SortedMap β where
  entries := map.entries.filterMap fun entry => (change entry.1 entry.2).map (entry.1, ·)
  sorted := by
    refine List.Pairwise.filterMap _ ?_ map.sorted
    intro left right smaller leftChanged leftMade rightChanged rightMade
    obtain ⟨_, -, rfl⟩ := Option.map_eq_some_iff.mp leftMade
    obtain ⟨_, -, rfl⟩ := Option.map_eq_some_iff.mp rightMade
    exact smaller

theorem get?_filterMap (map : SortedMap α) (change : String → α → Option β) (name : String) :
    (map.filterMap change).get? name = (map.get? name).bind (change name) :=
  lookup_filterMap map.sorted.distinct change name

end SortedMap

end Verdict
