import Verdict.Exec
import Verdict.Proofs.Map.Lookup
import Verdict.Proofs.Text.Cutting
/-! What a process sees of its environment. It is handed texts of the form `NAME=value` and looks
for a name in them from the front. A process that is launched with overrides is handed one text for
every variable, in the order of the names, so it finds under each name of an override its value, and
the order in which overrides were given does not reach it. -/
namespace Verdict

/-- A name that a variable can have: it ends before the first equals sign of `NAME=value`. -/
def VariableName (name : String) : Prop := name ≠ "" ∧ '=' ∉ name.toList

/-- The text of a variable. -/
def variableText (pair : String × String) : String := pair.1 ++ "=" ++ pair.2

theorem toList_variableText (pair : String × String) :
    (variableText pair).toList = pair.1.toList ++ '=' :: pair.2.toList := by
  simp [variableText]

/-- An environment as a process is handed it: the texts of variables. -/
abbrev Environment := List String

/-- What a text has behind a beginning. -/
def textBehind? (beginning text : String) : Option String :=
  (text.toList.dropPrefix? beginning.toList).map String.ofList

/-- The value that a process finds for a name: it looks for the first text that begins with the name
and an equals sign. -/
def Environment.value? (environment : Environment) (name : String) : Option String :=
  environment.findSome? (textBehind? (name ++ "="))

/-- The name and the value that a text says. An equals sign in front is part of the name, and a text
without any other says nothing. -/
def readVariable? (text : String) : Option (String × String) :=
  match text.toList with
  | [] => none
  | first :: rest =>
    match rest.span (· ≠ '=') with
    | (_, []) => none
    | (name, _ :: value) => some (String.ofList (first :: name), String.ofList value)

namespace Launch

/-- The variables of a launched process: those that are inherited, covered by the overrides. -/
def mergedVariables (launch : Launch) (inherited : Environment) : SortedMap String :=
  .ofList (inherited.filterMap readVariable? ++ launch.overrides.entries)

/-- The environment that a launched process is handed. Without overrides it is what is inherited, as
it is; with overrides every variable has one text, in the order of the names. -/
def environment (launch : Launch) (inherited : Environment) : Environment :=
  if launch.overrides.isEmpty then inherited
  else (launch.mergedVariables inherited).entries.map variableText

end Launch

/-! ### Texts of variables -/

private theorem textBehind?_eq_some_iff {beginning text rest : String} :
    textBehind? beginning text = some rest ↔ text = beginning ++ rest := by
  rw [textBehind?, Option.map_eq_some_iff, ← String.toList_inj, String.toList_append]
  constructor
  · rintro ⟨back, dropped, rfl⟩
    obtain ⟨front, whole, same⟩ := List.dropPrefix?_eq_some_iff.mp dropped
    rw [whole, beq_iff_eq.mp same, String.toList_ofList]
  · intro whole
    refine ⟨rest.toList, List.dropPrefix?_eq_some_iff.mpr ⟨_, whole, ?_⟩, String.ofList_toList⟩
    exact beq_self_eq_true _

/-- A name that can be read from a text: an equals sign ends it, unless it stands in front. -/
def ReadableName (name : String) : Prop :=
  ∃ first rest, name.toList = first :: rest ∧ '=' ∉ rest

private theorem VariableName.readable {name : String} (named : VariableName name) :
    ReadableName name := by
  obtain ⟨nonempty, absent⟩ := named
  have some : name.toList ≠ [] := by simpa using nonempty
  obtain ⟨first, rest, split⟩ := List.exists_cons_of_ne_nil some
  rw [split, List.mem_cons, not_or] at absent
  exact ⟨first, rest, split, absent.2⟩

private theorem readable_of_readVariable? {text : String} {pair : String × String}
    (read : readVariable? text = some pair) : ReadableName pair.1 := by
  unfold readVariable? at read
  split at read
  · cases read
  · rename_i first rest split
    split at read
    · cases read
    · rename_i name sign value parted
      cases read
      exact ⟨first, name, String.toList_ofList, (span_eq_cons_iff.mp parted).2.1⟩

/-- Whoever looks for a name and an equals sign finds no other variable, not even one whose name
begins in the same way. -/
theorem VariableName.begins_iff {name other value rest : String} (named : VariableName name)
    (readable : ReadableName other) :
    variableText (other, value) = variableText (name, rest) ↔ other = name ∧ value = rest := by
  constructor
  · intro same
    rw [← String.toList_inj, toList_variableText, toList_variableText] at same
    -- Both names begin with the same character, which is no equals sign.
    have noSign : '=' ∉ other.toList := by
      obtain ⟨first, tail, split, absent⟩ := named.readable
      obtain ⟨otherFirst, otherTail, otherSplit, otherAbsent⟩ := readable
      rw [split, otherSplit] at same
      obtain ⟨heads, -⟩ := List.cons.inj same
      rw [otherSplit, List.mem_cons, not_or]
      refine ⟨fun sign => named.2 ?_, otherAbsent⟩
      rw [split, ← heads, ← sign]
      exact List.mem_cons_self
    have spanned := span_eq_cons_iff.mpr ⟨rfl, noSign, same.symm⟩
    rw [span_eq_cons_iff.mpr ⟨rfl, named.2, rfl⟩] at spanned
    simpa [String.toList_inj, eq_comm] using spanned
  · rintro ⟨rfl, rfl⟩
    rfl

private theorem VariableName.textBehind?_eq {name other : String} (named : VariableName name)
    (readable : ReadableName other) (value : String) :
    textBehind? (name ++ "=") (variableText (other, value)) =
      if name = other then some value else none := by
  ext rest
  rw [textBehind?_eq_some_iff, ← variableText.eq_def (name, rest), named.begins_iff readable]
  by_cases same : name = other <;> simp [same, eq_comm]

/-- The texts of variables are looked through like the pairs that they say. -/
private theorem value?_map_variableText {name : String} (named : VariableName name)
    {pairs : List (String × String)} (readable : ∀ pair ∈ pairs, ReadableName pair.1) :
    Environment.value? (pairs.map variableText) name = pairs.lookup name := by
  induction pairs with
  | nil => rfl
  | cons pair pairs ih =>
    obtain ⟨other, value⟩ := pair
    obtain ⟨first, others⟩ := List.forall_mem_cons.mp readable
    rw [Environment.value?] at ih ⊢
    rw [List.map_cons, List.findSome?_cons, named.textBehind?_eq first, ih others, List.lookup_cons]
    by_cases same : name = other
    · simp [same]
    · simp [same, beq_false_of_ne same]

/-! ### What is handed to a process -/

/-- Under the name of each pair a process finds the value of the last pair with this name. -/
def Environment.HasLast (environment : Environment) (pairs : List (String × String)) : Prop :=
  ∀ name ∈ pairs.map Prod.fst,
    ∃ value, lastValue? pairs name = some value ∧ environment.value? name = some value

namespace Launch

variable {launch other : Launch} {inherited : Environment}

private theorem get?_mergedVariables (launch : Launch) (inherited : Environment) (name : String) :
    (launch.mergedVariables inherited).get? name =
      (launch.overrides.get? name).or (lastValue? (inherited.filterMap readVariable?) name) := by
  rw [mergedVariables, SortedMap.get?_ofList, lastValue?_append,
    lastValue?_of_distinct launch.overrides.distinct]
  rfl

/-- Every variable comes from a text that is inherited or from an override. -/
theorem mem_mergedVariables {pair : String × String}
    (member : pair ∈ (launch.mergedVariables inherited).entries) :
    (∃ text ∈ inherited, readVariable? text = some pair) ∨ pair ∈ launch.overrides.entries := by
  have found := (mem_iff_lookup (launch.mergedVariables inherited).sorted.distinct).mp member
  have listed := mem_of_lastValue? ((SortedMap.get?_ofList _ _).symm.trans found)
  exact (List.mem_append.mp listed).imp_left List.mem_filterMap.mp

/-- With overrides, a process finds under each of their names its value, and under every other name
what is inherited. -/
theorem value?_environment (named : ∀ name ∈ launch.overrides.names, VariableName name)
    (given : launch.overrides.isEmpty = false) {name : String} (asked : VariableName name) :
    (launch.environment inherited).value? name =
      (launch.overrides.get? name).or (lastValue? (inherited.filterMap readVariable?) name) := by
  have readable : ∀ pair ∈ (launch.mergedVariables inherited).entries, ReadableName pair.1 := by
    intro pair member
    rcases mem_mergedVariables member with ⟨text, -, read⟩ | override
    · exact readable_of_readVariable? read
    · exact (named _ (List.mem_map_of_mem override)).readable
  rw [environment, if_neg (by simp [given]), value?_map_variableText asked readable,
    ← get?_mergedVariables]
  rfl

theorem hasLast_environment {pairs : List (String × String)}
    (overrides : launch.overrides = .ofList pairs) (named : ∀ pair ∈ pairs, VariableName pair.1)
    (inherited : Environment) : (launch.environment inherited).HasLast pairs := by
  intro name listed
  have namedToo : ∀ other ∈ pairs.map Prod.fst, VariableName other := List.forall_mem_map.mpr named
  have names : ∀ other ∈ launch.overrides.names, VariableName other := by
    intro other member
    rw [overrides, OrderedMap.names_ofList, List.mem_eraseDups] at member
    exact namedToo other member
  have given : launch.overrides.isEmpty = false := by
    rw [overrides]
    refine OrderedMap.isEmpty_ofList ?_
    rintro rfl
    cases listed
  obtain ⟨value, last⟩ : ∃ value, lastValue? pairs name = some value :=
    Option.ne_none_iff_exists'.mp fun none => absent_of_lastValue? none listed
  refine ⟨value, last, ?_⟩
  rw [value?_environment names given (namedToo name listed), overrides, OrderedMap.get?_ofList,
    last]
  rfl

/-- What a process is handed depends on the values of the overrides, not on their order. -/
theorem environment_congr (same : ∀ name, other.overrides.get? name = launch.overrides.get? name)
    (inherited : Environment) : other.environment inherited = launch.environment inherited := by
  have emptyToo : other.overrides.isEmpty = launch.overrides.isEmpty := by
    rw [Bool.eq_iff_iff, OrderedMap.isEmpty_iff, OrderedMap.isEmpty_iff]
    simp only [same]
  have mergedToo : other.mergedVariables inherited = launch.mergedVariables inherited := by
    refine SortedMap.ext_get? fun name => ?_
    rw [get?_mergedVariables, get?_mergedVariables, same]
  rw [environment, environment, emptyToo, mergedToo]

end Launch

/-! ### Hosts that regard what is handed to processes -/

/-- What comes of a launch on this host depends on nothing but what the process is handed: its words
and its environment. -/
def Host.Regards (host : Host) (inherited : Environment) : Prop :=
  ∀ launch other : Launch, other.argv = launch.argv →
    other.environment inherited = launch.environment inherited → host other = host launch

private theorem variableText_of_readVariable? {text : String} {pair : String × String}
    (read : readVariable? text = some pair) : variableText pair = text := by
  unfold readVariable? at read
  split at read
  · cases read
  · rename_i first rest split
    split at read
    · cases read
    · rename_i name sign value parted
      cases read
      obtain ⟨rfl, -, whole⟩ := span_eq_cons_iff.mp parted
      rw [← String.toList_inj, toList_variableText, split, whole, String.toList_ofList,
        String.toList_ofList]
      rfl

/-- A process is handed texts that are inherited and those of overrides. -/
theorem Launch.mem_environment_cases {launch : Launch} {inherited : Environment} {text : String}
    (member : text ∈ launch.environment inherited) :
    text ∈ inherited ∨ text ∈ launch.overrides.entries.map variableText := by
  unfold environment at member
  split at member
  · exact .inl member
  · obtain ⟨pair, listed, rfl⟩ := List.mem_map.mp member
    rcases mem_mergedVariables listed with ⟨text, inherits, read⟩ | override
    · rw [variableText_of_readVariable? read]
      exact .inl inherits
    · exact .inr (List.mem_map_of_mem override)

private theorem Launch.mem_environment_of_override {launch : Launch} {pair : String × String}
    (override : pair ∈ launch.overrides.entries) (inherited : Environment) :
    variableText pair ∈ launch.environment inherited := by
  have given : launch.overrides.isEmpty = false := by
    simpa [OrderedMap.isEmpty] using List.ne_nil_of_mem override
  have found : launch.overrides.get? pair.1 = some pair.2 :=
    (mem_iff_lookup launch.overrides.distinct).mp override
  have merged : (launch.mergedVariables inherited).get? pair.1 = some pair.2 := by
    rw [get?_mergedVariables, found]
    rfl
  rw [environment, if_neg (by simp [given])]
  exact List.mem_map_of_mem ((mem_iff_lookup (launch.mergedVariables inherited).sorted.distinct).mpr
    merged)

private theorem nul_mem_variableText_iff {pair : String × String} :
    '\x00' ∈ (variableText pair).toList ↔ '\x00' ∈ pair.1.toList ∨ '\x00' ∈ pair.2.toList := by
  simp [toList_variableText]

/-- Whether a launch holds a text that no process can be given is seen from what would be handed to
the process. -/
theorem Launch.hasNul_iff {inherited : Environment}
    (clean : ∀ text ∈ inherited, '\x00' ∉ text.toList) (launch : Launch) :
    launch.hasNul = true ↔ ∃ text ∈ launch.argv ++ launch.environment inherited,
      '\x00' ∈ text.toList := by
  have overridden : (∃ text ∈ launch.environment inherited, '\x00' ∈ text.toList) ↔
      ∃ pair ∈ launch.overrides.entries, '\x00' ∈ (variableText pair).toList := by
    constructor
    · rintro ⟨text, member, nul⟩
      rcases mem_environment_cases member with inherits | override
      · exact absurd nul (clean text inherits)
      · obtain ⟨pair, listed, rfl⟩ := List.mem_map.mp override
        exact ⟨pair, listed, nul⟩
    · rintro ⟨pair, override, nul⟩
      exact ⟨_, mem_environment_of_override override inherited, nul⟩
  simp only [List.mem_append, or_and_right, exists_or, overridden, nul_mem_variableText_iff]
  simp [hasNul]

/-- A program with a known behaviour regards nothing else. -/
theorem Program.host_regards (program : Program) {inherited : Environment}
    (clean : ∀ text ∈ inherited, '\x00' ∉ text.toList) : program.host.Regards inherited := by
  intro launch other argv environment
  have hasNul : other.hasNul = launch.hasNul := by
    rw [Bool.eq_iff_iff, Launch.hasNul_iff clean, Launch.hasNul_iff clean, argv, environment]
  have sameProgram : other.program = launch.program := (List.cons.inj argv).1
  funext earlier
  simp only [host, hasNul, sameProgram]

end Verdict
