import Rulebook.Proofs.Entries
import Rulebook.Proofs.PolicyNames
import Rulebook.Proofs.Strictness
import Mathlib.Data.Set.List
import Mathlib.Tactic.Tauto

/-!
# Policies and the lists that name them

A failure policy is a set of conditions, and a list of their names stands for the set of the
conditions that it names.

**Theorem (`parse_list`).** A list is read when each of its entries is the name of a condition, and
refused for the first that is not. Lists one after the other stand for the union of their policies,
and lists with the same entries for the same policy, however they are written. Of the conditions
that are named, those that hold for a failure are told in the order of their names, and the failure
is fatal when there are any. A policy that is written out is read back.

The names are read one by one, and what is read of a list that is not refused are the conditions
whose names make up its entries (`parse_eq_ok_iff`). Everything else is about sets: a policy is
determined by what it contains (`eq_of_contains`).
-/

namespace Rulebook

namespace FailureCondition

theorem exists_token_eq_iff {name : String} :
    (∃ c : FailureCondition, c.token = name) ↔ name ∈ ["all", "dsl", "import"] := by
  constructor
  · intro h
    obtain ⟨c, rfl⟩ := h
    cases c <;> decide
  · intro h
    simp only [List.mem_cons, List.not_mem_nil, or_false] at h
    rcases h with rfl | rfl | rfl
    · exact ⟨.all, rfl⟩
    · exact ⟨.dsl, rfl⟩
    · exact ⟨.imports, rfl⟩

theorem token_injective {c d : FailureCondition} (h : c.token = d.token) : c = d := by
  have hc := ofToken?_eq_some_iff.2 h
  rw [ofToken?_eq_some_iff.2 rfl] at hc
  exact (Option.some.inj hc).symm

theorem isEntry_token (c : FailureCondition) : Text.IsEntry c.token := by
  have htrim : Text.trim c.token = c.token := by cases c <;> decide
  exact ⟨Text.trim_eq_self_iff.1 htrim, by cases c <;> decide, by cases c <;> decide⟩

/-- Names are read one by one. -/
theorem mapM_parse_eq_ok_iff {names : List String} {cs : List FailureCondition} :
    names.mapM parse = .ok cs ↔ names = cs.map token := by
  induction names generalizing cs with
  | nil => cases cs <;> simp [pure, Except.pure]
  | cons name names ih =>
    simp only [List.mapM_cons, bind_eq_ok_iff, parse_eq_ok_iff, ih]
    constructor
    · intro h
      obtain ⟨c, rfl, cs', rfl, hcs⟩ := h
      cases hcs
      rfl
    · intro h
      cases cs with
      | nil => cases h
      | cons c cs =>
        cases h
        exact ⟨c, rfl, cs, rfl, rfl⟩

end FailureCondition

namespace FailurePolicy

/-! ## Policies as sets -/

/-- The policy with the conditions of both. -/
def union (p q : FailurePolicy) : FailurePolicy :=
  ⟨p.all || q.all, p.dsl || q.dsl, p.imports || q.imports⟩

theorem contains_union (p q : FailurePolicy) (c : FailureCondition) :
    (p.union q).contains c = (p.contains c || q.contains c) := by
  cases c <;> rfl

theorem contains_ofConditions (cs : List FailureCondition) (c : FailureCondition) :
    (ofConditions cs).contains c = cs.contains c := by
  cases c <;> rfl

/-- A policy is determined by what it contains. -/
theorem eq_of_contains {p q : FailurePolicy} (h : ∀ c, p.contains c = q.contains c) : p = q := by
  have hall := h .all
  have hdsl := h .dsl
  have himports := h .imports
  cases p
  cases q
  simp_all [contains]

theorem mem_conditions_iff {p : FailurePolicy} {c : FailureCondition} :
    c ∈ p.conditions ↔ p.contains c = true := by
  have hvalues : c ∈ FailureCondition.values := by cases c <;> decide
  simp [conditions, hvalues]

theorem ofConditions_append (cs ds : List FailureCondition) :
    ofConditions (cs ++ ds) = (ofConditions cs).union (ofConditions ds) := by
  apply eq_of_contains
  intro c
  simp [contains_union, contains_ofConditions]

theorem ofConditions_conditions (p : FailurePolicy) : ofConditions p.conditions = p := by
  apply eq_of_contains
  intro c
  rw [contains_ofConditions, Bool.eq_iff_iff, List.contains_iff_mem, mem_conditions_iff]

/-! ## What is read -/

theorem parse_eq_ok_iff {flag : String} {p : FailurePolicy} : parse flag = .ok p ↔
    ∃ cs, Text.entries flag = cs.map FailureCondition.token ∧ ofConditions cs = p := by
  simp only [← FailureCondition.mapM_parse_eq_ok_iff]
  exact map_eq_ok_iff

/-- A policy contains what the list names. -/
theorem mem_conditions_of_parse {flag : String} {p : FailurePolicy} (h : parse flag = .ok p)
    {c : FailureCondition} : c ∈ p.conditions ↔ c.token ∈ Text.entries flag := by
  obtain ⟨cs, hentries, rfl⟩ := parse_eq_ok_iff.1 h
  rw [mem_conditions_iff, contains_ofConditions, List.contains_iff_mem, hentries, List.mem_map]
  constructor
  · intro hc
    exact ⟨c, hc, rfl⟩
  · intro hc
    obtain ⟨d, hd, htoken⟩ := hc
    exact FailureCondition.token_injective htoken ▸ hd

/-- A list is read when each of its entries is a name. -/
theorem exists_parse_eq_ok_iff_forall {flag : String} : (∃ p, parse flag = .ok p) ↔
    ∀ name ∈ Text.entries flag, name ∈ ["all", "dsl", "import"] := by
  have hmap :
      (∃ cs : List FailureCondition, Text.entries flag = cs.map FailureCondition.token) ↔
      ∀ name ∈ Text.entries flag, ∃ c : FailureCondition, c.token = name := by
    have hrange := Set.range_list_map FailureCondition.token
    simpa [Set.ext_iff, eq_comm] using congrArg (Text.entries flag ∈ ·) hrange
  simp only [parse_eq_ok_iff, ← FailureCondition.exists_token_eq_iff, ← hmap]
  constructor
  · intro h
    obtain ⟨-, cs, hcs, -⟩ := h
    exact ⟨cs, hcs⟩
  · intro h
    obtain ⟨cs, hcs⟩ := h
    exact ⟨ofConditions cs, cs, hcs, rfl⟩

/-- What is read does not depend on the order of the entries, nor on how often one is there. -/
theorem parse_eq_ok_of_mem_iff {flag flag' : String} {p : FailurePolicy}
    (hmem : ∀ name, name ∈ Text.entries flag ↔ name ∈ Text.entries flag')
    (h : parse flag = .ok p) : parse flag' = .ok p := by
  have hknown : ∀ name ∈ Text.entries flag', name ∈ ["all", "dsl", "import"] := by
    intro name hname
    exact exists_parse_eq_ok_iff_forall.1 ⟨p, h⟩ name ((hmem name).2 hname)
  obtain ⟨q, hq⟩ := exists_parse_eq_ok_iff_forall.2 hknown
  have heq : p = q := by
    apply eq_of_contains
    intro c
    rw [Bool.eq_iff_iff, ← mem_conditions_iff, ← mem_conditions_iff,
      mem_conditions_of_parse h, mem_conditions_of_parse hq, hmem]
  rw [hq, heq]

/-- **Lists one after the other** stand for the union, and a fault of the first comes first. -/
theorem parse_append (a b : String) :
    parse (a ++ "," ++ b) = do return (← parse a).union (← parse b) := by
  unfold parse
  rw [Text.entries_append, List.mapM_append]
  cases (Text.entries a).mapM FailureCondition.parse with
  | error e => rfl
  | ok cs =>
    cases (Text.entries b).mapM FailureCondition.parse with
    | error e => rfl
    | ok ds => exact congrArg Except.ok (ofConditions_append cs ds)

/-- **A policy that is written out is read back.** -/
theorem parse_text (p : FailurePolicy) : parse p.text = .ok p := by
  refine parse_eq_ok_iff.2 ⟨p.conditions, ?_, ofConditions_conditions p⟩
  refine Text.entries_intercalate fun e he => ?_
  obtain ⟨c, -, rfl⟩ := List.mem_map.1 he
  exact c.isEntry_token

/-- A list is refused for the first of its entries that is no name. -/
theorem parse_eq_error_iff_split {flag : String} {e : UnknownCondition} : parse flag = .error e ↔
    ∃ before after, Text.entries flag = before ++ e.token :: after ∧
      (∀ name ∈ before, name ∈ ["all", "dsl", "import"]) ∧
      e.token ∉ ["all", "dsl", "import"] := by
  simp only [parse_eq_error_iff, ← FailureCondition.exists_token_eq_iff, not_exists]
  constructor
  · intro h
    obtain ⟨⟨before, after, hsplit, hbefore⟩, hunknown⟩ := h
    exact ⟨before, after, Text.entriesOf_iff.1 hsplit, hbefore, hunknown⟩
  · intro h
    obtain ⟨before, after, hsplit, hbefore, hunknown⟩ := h
    exact ⟨⟨before, after, Text.entriesOf_iff.2 hsplit, hbefore⟩, hunknown⟩

/-! ## What is fatal -/

theorem mem_fatalConditions_iff {p : FailurePolicy} {c : FailureCondition} {e : LoadError} :
    c ∈ p.fatalConditions e ↔ c ∈ p.conditions ∧ c.holds e = true := by
  simp [fatalConditions]

theorem fatalConditions_ne_nil_iff {p : FailurePolicy} {e : LoadError} :
    p.fatalConditions e ≠ [] ↔ p.isFatal e = true := by
  simp only [ne_eq, List.eq_nil_iff_forall_not_mem, not_forall, not_not, mem_fatalConditions_iff,
    isFatal_iff]

theorem isFatal_union (p q : FailurePolicy) (e : LoadError) :
    (p.union q).isFatal e = (p.isFatal e || q.isFatal e) := by
  rw [Bool.eq_iff_iff, Bool.or_eq_true]
  simp only [isFatal_iff, mem_conditions_iff, contains_union, Bool.or_eq_true, or_and_right,
    exists_or]

/-- The conditions that hold for a failure are told by name: those of certain names and no others,
in the order of the names and without repeats. -/
structure TellsNamed (names : List String) (p : FailurePolicy) (e : LoadError) : Prop where
  named : ∀ c, c ∈ p.fatalConditions e ↔ c.token ∈ names ∧ c.holds e = true
  inOrder : ((p.fatalConditions e).map FailureCondition.token).Sublist ["all", "dsl", "import"]

theorem tellsNamed_of_parse {flag : String} {p : FailurePolicy} (h : parse flag = .ok p)
    (e : LoadError) : TellsNamed (Text.entries flag) p e := by
  constructor
  case named =>
    intro c
    rw [mem_fatalConditions_iff, mem_conditions_of_parse h]
  case inOrder =>
    have hsublist : (p.fatalConditions e).Sublist FailureCondition.values :=
      List.filter_sublist.trans List.filter_sublist
    exact hsublist.map FailureCondition.token

/-- **Lists of conditions.** A list is read when each of its entries is a name, and refused for the
first that is not. Lists one after the other stand for the union, and are refused as the first that
is refused. Only the entries matter, and for what is read only which there are. Of the conditions
that are named, those that hold for a failure are told; it is fatal when there are any, and under a
union when it is under either policy. A policy that is written out is read back. -/
theorem parse_list (a b : String) :
    (∃ names, Text.EntriesOf a names ∧
      ((∃ p, parse a = .ok p) ↔ ∀ name ∈ names, name ∈ ["all", "dsl", "import"]) ∧
      (∀ e, parse a = .error e ↔ ∃ before after, names = before ++ e.token :: after ∧
        (∀ name ∈ before, name ∈ ["all", "dsl", "import"]) ∧
        e.token ∉ ["all", "dsl", "import"]) ∧
      ∀ p, parse a = .ok p → ∀ e, TellsNamed names p e ∧
        (p.fatalConditions e ≠ [] ↔ p.isFatal e = true)) ∧
    parse (a ++ "," ++ b) = (do return (← parse a).union (← parse b)) ∧
    (∀ names names', Text.EntriesOf a names → Text.EntriesOf b names' →
      (names = names' → parse a = parse b) ∧
      ((∀ name, name ∈ names ↔ name ∈ names') → ∀ p, parse a = .ok p ↔ parse b = .ok p)) ∧
    (∀ p q, parse a = .ok p → parse b = .ok q → ∃ pq, parse (a ++ "," ++ b) = .ok pq ∧
      ∀ e, pq.isFatal e = (p.isFatal e || q.isFatal e)) ∧
    ∀ p, parse a = .ok p → parse p.text = .ok p := by
  refine ⟨⟨Text.entries a, Text.entriesOf_iff.2 rfl, exists_parse_eq_ok_iff_forall,
    fun e => parse_eq_error_iff_split, ?_⟩, parse_append a b, ?_, ?_, fun p _ => parse_text p⟩
  case refine_1 =>
    intro p hp e
    exact ⟨tellsNamed_of_parse hp e, fatalConditions_ne_nil_iff⟩
  case refine_2 =>
    intro names names' ha hb
    rw [Text.entriesOf_iff] at ha hb
    subst ha hb
    constructor
    · intro heq
      unfold parse
      rw [heq]
    · intro hmem p
      exact ⟨parse_eq_ok_of_mem_iff hmem, parse_eq_ok_of_mem_iff fun name => (hmem name).symm⟩
  case refine_3 =>
    intro p q hp hq
    refine ⟨p.union q, ?_, isFatal_union p q⟩
    rw [parse_append, hp, hq]
    rfl

/-- A padded list with a repeated name: it is read as the shorter one is, and stands for the union
with what comes after it. -/
theorem parse_list_padded :
    let a := " import , dsl,import"
    let p := FailurePolicy.ofConditions [.imports, .dsl]
    parse a = .ok p ∧ parse p.text = .ok p ∧ parse "dsl,import" = .ok p ∧
    (∃ names, Text.EntriesOf a names ∧ ∀ e, TellsNamed names p e) ∧
    ∃ pq, parse (a ++ "," ++ "dsl,import") = .ok pq ∧
      ∀ e, pq.isFatal e = (p.isFatal e || p.isFatal e) := by
  intro a p
  have hp : parse a = .ok p := by decide +kernel
  have ha : Text.EntriesOf a ["import", "dsl", "import"] :=
    Text.entriesOf_iff.2 (by decide +kernel)
  have hb : Text.EntriesOf "dsl,import" ["dsl", "import"] :=
    Text.entriesOf_iff.2 (by decide +kernel)
  have hmem : ∀ name, name ∈ ["import", "dsl", "import"] ↔ name ∈ ["dsl", "import"] := by
    intro name
    simp only [List.mem_cons, List.not_mem_nil, or_false]
    tauto
  obtain ⟨⟨names, hnames, -, -, htells⟩, -, hentries, hunion, htext⟩ := parse_list a "dsl,import"
  have hq : parse "dsl,import" = .ok p := ((hentries _ _ ha hb).2 hmem p).1 hp
  exact ⟨hp, htext p hp, hq, ⟨names, hnames, fun e => (htells p hp e).1⟩, hunion p p hp hq⟩

end FailurePolicy

end Rulebook
