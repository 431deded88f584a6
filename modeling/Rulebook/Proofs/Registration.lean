import Rulebook.Proofs.ByteOrder
import Rulebook.Proofs.CheckInput

/-!
# Registered checkers

Checkers are registered one after the other, and a call that fails leaves no mark.

**Theorem (`build_afterAll`).** After any calls no two checkers have names that differ in the case
of ASCII letters alone, so that a name finds one checker at most, in whatever case it is written,
and looking the checker up and building it find the same one. A checker is set up with exactly the
parameters that it declares, or not at all.

Each call keeps names apart (`Distinct.after`), and by induction so do any calls. What is built is
settled by the one entry that a name finds and by the values that are set (`buildsFrom_of_entry?`).
-/

namespace Rulebook

theorem sameName_iff {a b : String} :
    sameName a b = true ↔ a.toList.map Char.toLower = b.toList.map Char.toLower := by
  simp [sameName]

/-- Of two names that are the same, either may stand for the other. -/
theorem sameName_congr {a b : String} (h : sameName a b = true) (c : String) :
    sameName c a = sameName c b := by
  rw [Bool.eq_iff_iff, sameName_iff, sameName_iff, sameName_iff.1 h]

namespace Registry

/-! ## Calls -/

/-- The registry after a call. A call that fails leaves it as it was. -/
def after (r : Registry) (c : RegisteredChecker) : Registry :=
  match r.register c with
  | .ok r' => r'
  | .error _ => r

/-- The registry after calls. -/
def afterAll (r : Registry) (calls : List RegisteredChecker) : Registry := calls.foldl after r

/-- A name is taken when a checker goes by it. -/
def Taken (r : Registry) (name : String) : Prop := ∃ i ∈ r.infos, sameName i.name name = true

/-- The catalogue and the building of checkers look a name up by themselves, and they find the
same. -/
theorem find?_eq_map_info (r : Registry) (name : String) :
    r.find? name = (r.entry? name).map RegisteredChecker.info := by
  unfold find? entry?
  induction r.checkers with
  | nil => rfl
  | cons c checkers ih =>
    rw [List.findSome?_cons, List.find?_cons]
    cases sameName c.info.name name with
    | true => rfl
    | false => exact ih

theorem isSome_find?_iff {r : Registry} {name : String} :
    (r.find? name).isSome = true ↔ r.Taken name := by
  rw [find?_eq_map_info, Option.isSome_map]
  unfold entry? Taken infos
  rw [List.find?_isSome]
  constructor
  · rintro ⟨c, hc, hname⟩
    exact ⟨c.info, List.mem_map_of_mem hc, hname⟩
  · rintro ⟨i, hi, hname⟩
    obtain ⟨c, hc, rfl⟩ := List.mem_map.1 hi
    exact ⟨c, hc, hname⟩

theorem register_of_taken {r : Registry} {c : RegisteredChecker} (h : r.Taken c.info.name) :
    r.register c = .error (.duplicateChecker c.info.name) :=
  if_pos (isSome_find?_iff.2 h)

theorem register_of_not_taken {r : Registry} {c : RegisteredChecker} (h : ¬ r.Taken c.info.name) :
    r.register c = .ok ⟨r.checkers ++ [c]⟩ :=
  if_neg fun hsome => h (isSome_find?_iff.1 hsome)

/-- A call fails when the name is taken. -/
theorem register_eq_error_iff {r : Registry} {c : RegisteredChecker} :
    (∃ e, r.register c = .error e) ↔ r.Taken c.info.name := by
  by_cases h : r.Taken c.info.name
  · exact iff_of_true ⟨_, register_of_taken h⟩ h
  · refine iff_of_false ?_ h
    rw [register_of_not_taken h]
    exact fun ⟨e, he⟩ => nomatch he

theorem after_of_taken {r : Registry} {c : RegisteredChecker} (h : r.Taken c.info.name) :
    r.after c = r := by
  simp only [after, register_of_taken h]

theorem after_of_not_taken {r : Registry} {c : RegisteredChecker} (h : ¬ r.Taken c.info.name) :
    r.after c = ⟨r.checkers ++ [c]⟩ := by
  simp only [after, register_of_not_taken h]

theorem afterAll_append (r : Registry) (calls calls' : List RegisteredChecker) :
    r.afterAll (calls ++ calls') = (r.afterAll calls).afterAll calls' :=
  List.foldl_append

/-! ## Names -/

/-- After a call its name is taken, whether it succeeds or not, and so are those that were. -/
theorem taken_after_iff {r : Registry} {c : RegisteredChecker} {name : String} :
    (r.after c).Taken name ↔ r.Taken name ∨ sameName c.info.name name = true := by
  by_cases h : r.Taken c.info.name
  · rw [after_of_taken h]
    refine ⟨.inl, fun hor => hor.elim id fun hname => ?_⟩
    obtain ⟨i, hi, hsame⟩ := h
    exact ⟨i, hi, by rwa [← sameName_congr hname]⟩
  · rw [after_of_not_taken h]
    simp [Taken, infos, or_and_right, exists_or]

/-- The names that are taken are those of the calls. -/
theorem taken_afterAll_iff {r : Registry} {calls : List RegisteredChecker} {name : String} :
    (r.afterAll calls).Taken name ↔
      r.Taken name ∨ ∃ c ∈ calls, sameName c.info.name name = true := by
  induction calls generalizing r with
  | nil => simp [afterAll]
  | cons c calls ih =>
    change ((r.after c).afterAll calls).Taken name ↔ _
    simp only [ih, taken_after_iff, or_assoc, List.mem_cons, or_and_right, exists_or,
      exists_eq_left]

/-- No two checkers have the same name. -/
def Distinct (r : Registry) : Prop :=
  r.infos.Pairwise fun a b => sameName a.name b.name = false

/-- **One call.** -/
theorem Distinct.after {r : Registry} (h : r.Distinct) (c : RegisteredChecker) :
    (r.after c).Distinct := by
  by_cases htaken : r.Taken c.info.name
  · rw [after_of_taken htaken]
    exact h
  · rw [after_of_not_taken htaken]
    unfold Distinct infos
    rw [List.map_append, List.pairwise_append]
    refine ⟨h, List.pairwise_singleton _ _, fun a ha b hb => ?_⟩
    cases List.mem_singleton.1 hb
    exact Bool.eq_false_iff.2 fun hsame => htaken ⟨a, ha, hsame⟩

/-- **All calls.** -/
theorem Distinct.afterAll {r : Registry} (h : r.Distinct) (calls : List RegisteredChecker) :
    (r.afterAll calls).Distinct := by
  induction calls generalizing r with
  | nil => exact h
  | cons c calls ih => exact ih (h.after c)

/-- A name finds the one checker that goes by it. -/
theorem Distinct.entry?_eq_some_iff {r : Registry} (h : r.Distinct) {c : RegisteredChecker}
    {name : String} :
    r.entry? name = some c ↔ c ∈ r.checkers ∧ sameName c.info.name name = true := by
  unfold entry?
  rw [List.find?_eq_some_iff_append]
  constructor
  · rintro ⟨hname, before, rest, hsplit, -⟩
    exact ⟨hsplit ▸ List.mem_append_right before (List.mem_cons_self ..), hname⟩
  · rintro ⟨hc, hname⟩
    obtain ⟨before, rest, hsplit⟩ := List.append_of_mem hc
    refine ⟨hname, before, rest, hsplit, fun b hb => ?_⟩
    unfold Distinct infos at h
    rw [hsplit, List.map_append, List.pairwise_append] at h
    have hbc : sameName b.info.name c.info.name = false :=
      h.2.2 _ (List.mem_map_of_mem hb) _ (List.mem_cons_self ..)
    rw [← sameName_congr hname, hbc]
    rfl

theorem entry?_congr {r : Registry} {a b : String} (h : sameName a b = true) :
    r.entry? a = r.entry? b := by
  unfold entry?
  simp only [sameName_congr h]

/-! ## Parameters -/

/-- The parameters that a checker is set up with: exactly those that it declares, each with the
value that it is set to, or else with its default. -/
structure Resolves (info : CheckerInfo) (overrides p : Params) : Prop where
  declared : ∀ k ∈ overrides.keys, k ∈ info.params.keys
  keys : ∀ k, k ∈ p.keys ↔ k ∈ info.params.keys
  value : ∀ k param, info.params.find? k = some param →
    p.find? k = some ((overrides.find? k).getD param.default)

/-- Of the names that are set and not declared, the first by their bytes. -/
structure FirstUndeclared (info : CheckerInfo) (overrides : Params) (k : String) : Prop where
  set : k ∈ overrides.keys
  undeclared : k ∉ info.params.keys
  first : ∀ k' ∈ overrides.keys, k' ∉ info.params.keys → k' = k ∨ Text.bytes k < Text.bytes k'

theorem contains_iff {info : CheckerInfo} {k : String} :
    info.params.contains k = true ↔ k ∈ info.params.keys :=
  SortedMap.isSome_find?_iff

/-- Values that are all declared resolve. -/
theorem exists_resolves {info : CheckerInfo} {overrides : Params}
    (h : ∀ k ∈ overrides.keys, k ∈ info.params.keys) :
    ∃ p, resolveParams info overrides = .ok p ∧ Resolves info overrides p := by
  obtain ⟨p, hp⟩ := exists_resolveParams_eq_ok fun k hk => contains_iff.2 (h k hk)
  have hfind := find?_of_resolveParams_eq_ok hp
  refine ⟨p, hp, h, fun k => ?_, fun k param hparam => ?_⟩
  · rw [← SortedMap.isSome_find?_iff, hfind, Option.isSome_or, Option.isSome_map, Bool.or_eq_true,
      SortedMap.isSome_find?_iff, SortedMap.isSome_find?_iff]
    exact or_iff_right_of_imp (h k)
  · rw [hfind, hparam]
    cases overrides.find? k <;> rfl

/-- The first value that is not declared is told. -/
theorem exists_firstUndeclared {info : CheckerInfo} {overrides : Params}
    (h : ¬ ∀ k ∈ overrides.keys, k ∈ info.params.keys) :
    ∃ k, FirstUndeclared info overrides k ∧
      resolveParams info overrides = .error (.unknownParam info.name k) := by
  cases hk : overrides.keys.find? fun k => !info.params.contains k with
  | none =>
    refine absurd (fun k hmem => ?_) h
    have hdeclared := List.find?_eq_none.1 hk k hmem
    simpa [contains_iff] using hdeclared
  | some k =>
    obtain ⟨hundeclared, before, rest, hsplit, hbefore⟩ := List.find?_eq_some_iff_append.1 hk
    refine ⟨k, ⟨List.mem_of_find?_eq_some hk, ?_, fun k' hk' hundeclared' => ?_⟩, ?_⟩
    · rw [← contains_iff]
      simpa using hundeclared
    · have hsorted : overrides.keys.Pairwise (· < ·) := List.pairwise_map.2 overrides.sorted
      rw [hsplit] at hk' hsorted
      rcases List.mem_append.1 hk' with hmem | hmem
      · have hdeclared := hbefore k' hmem
        rw [Bool.not_not] at hdeclared
        exact absurd (contains_iff.1 hdeclared) hundeclared'
      · rcases List.mem_cons.1 hmem with rfl | hmem
        · exact .inl rfl
        · have hlt := (List.pairwise_cons.1 (List.pairwise_append.1 hsorted).2.1).1 k' hmem
          exact .inr ((Text.lt_iff_bytes_lt k k').1 hlt)
    · simp only [resolveParams, hk]

/-! ## Building -/

/-- The same catalogue with other ways to set the checkers up. -/
def withSetups (r : Registry)
    (setup : RegisteredChecker → Params → Except SetupError Checker) : Registry :=
  ⟨r.checkers.map fun c => { c with setup := setup c }⟩

theorem entry?_withSetups (r : Registry)
    (setup : RegisteredChecker → Params → Except SetupError Checker) (name : String) :
    entry? (r.withSetups setup) name =
      (r.entry? name).map fun c => { c with setup := setup c } := by
  unfold entry? withSetups
  rw [List.find?_map]
  rfl

theorem build_of_entry?_eq_none {r : Registry} {name : String} (h : r.entry? name = none)
    (overrides : Params) : r.build name overrides = .error (.unknownChecker name) := by
  unfold build
  rw [h]

theorem build_of_firstUndeclared {r : Registry} {c : RegisteredChecker} {name k : String}
    {overrides : Params} (h : r.entry? name = some c)
    (hk : resolveParams c.info overrides = .error (.unknownParam c.info.name k)) :
    r.build name overrides = .error (.unknownParam c.info.name k) := by
  unfold build
  rw [h]
  change resolveParams c.info overrides >>= _ = _
  rw [hk]
  rfl

/-- How a checker is built. Either a value is set that is not declared, and then no checker is set
up, whatever the ways to do so; or the parameters resolve, and then only what the checker comes to
with these matters. -/
def BuildsFrom (r : Registry) (name : String) (c : RegisteredChecker) (overrides : Params) : Prop :=
  (∃ k, FirstUndeclared c.info overrides k ∧
    ∀ setup, (r.withSetups setup).build name overrides = .error (.unknownParam c.info.name k)) ∨
  ∃ p, Resolves c.info overrides p ∧
    ∀ setup, (r.withSetups setup).build name overrides =
      (setup c p).mapError (.setup c.info.name)

theorem buildsFrom_of_entry? {r : Registry} {c : RegisteredChecker} {name : String}
    (h : r.entry? name = some c) (overrides : Params) : r.BuildsFrom name c overrides := by
  have hentry (setup : RegisteredChecker → Params → Except SetupError Checker) :
      entry? (r.withSetups setup) name = some { c with setup := setup c } := by
    rw [entry?_withSetups, h, Option.map_some]
  by_cases hdeclared : ∀ k ∈ overrides.keys, k ∈ c.info.params.keys
  · obtain ⟨p, hp, hresolves⟩ := exists_resolves hdeclared
    exact .inr ⟨p, hresolves, fun setup =>
      build_of_resolves (c := { c with setup := setup c }) (hentry setup) hp⟩
  · obtain ⟨k, hfirst, hk⟩ := exists_firstUndeclared hdeclared
    exact .inl ⟨k, hfirst, fun setup =>
      build_of_firstUndeclared (c := { c with setup := setup c }) (hentry setup) hk⟩

theorem withSetups_setup (r : Registry) : r.withSetups RegisteredChecker.setup = r :=
  congrArg Registry.mk (List.map_id r.checkers)

/-- A checker that is found is not unknown. -/
theorem build_ne_unknownChecker {r : Registry} {c : RegisteredChecker} {name : String}
    (h : r.entry? name = some c) (overrides : Params) (unknown : String) :
    r.build name overrides ≠ .error (.unknownChecker unknown) := by
  rcases buildsFrom_of_entry? h overrides with ⟨k, -, hbuild⟩ | ⟨p, -, hbuild⟩
  · rw [← r.withSetups_setup, hbuild]
    simp
  · rw [← r.withSetups_setup, hbuild]
    cases c.setup p <;> simp

/-- **Registered checkers.** After any calls no two registered names are the same up to the case of
ASCII letters. A further call fails if its name is taken, which it is by an earlier call with the
same name, and then it changes nothing that comes later; else the checker is registered behind the
others. A name is unknown to the catalogue if it is when building. Otherwise it is the name of one
checker alone, which is found and built under it in any case, and set up with the parameters that it
declares if no others are set. -/
theorem build_afterAll (calls : List RegisteredChecker) :
    let r := afterAll {} calls
    r.Distinct ∧
    (∀ c, ((∃ e, r.register c = .error e) ↔ r.Taken c.info.name) ∧
      (r.Taken c.info.name ↔ ∃ earlier ∈ calls, sameName earlier.info.name c.info.name = true) ∧
      (r.Taken c.info.name →
        ∀ later, afterAll {} (calls ++ c :: later) = afterAll {} (calls ++ later)) ∧
      (¬ r.Taken c.info.name → (afterAll {} (calls ++ [c])).infos = r.infos ++ [c.info])) ∧
    (∀ name overrides, (r.find? name).isSome = true ↔
      ∀ unknown, r.build name overrides ≠ .error (.unknownChecker unknown)) ∧
    ∀ name info, r.find? name = some info → ∃ c ∈ r.checkers, c.info = info ∧
      (∀ c' ∈ r.checkers, sameName c'.info.name name = true ↔ c' = c) ∧
      (∀ name', sameName name' name = true → r.find? name' = some info ∧
        ∀ overrides, r.build name' overrides = r.build name overrides) ∧
      ∀ overrides, r.BuildsFrom name c overrides := by
  intro r
  have hempty : Distinct {} := List.Pairwise.nil
  have hdistinct : r.Distinct := hempty.afterAll calls
  have hstep (c : RegisteredChecker) (later : List RegisteredChecker) :
      afterAll {} (calls ++ c :: later) = (r.after c).afterAll later :=
    afterAll_append {} calls (c :: later)
  refine ⟨hdistinct, fun c => ⟨register_eq_error_iff, ?_, fun h later => ?_, fun h => ?_⟩,
    fun name overrides => ?_, fun name info h => ?_⟩
  · exact taken_afterAll_iff.trans (or_iff_right fun ⟨_, hi, _⟩ => List.not_mem_nil hi)
  · rw [hstep, after_of_taken h]
    exact (afterAll_append {} calls later).symm
  · rw [hstep, after_of_not_taken h]
    exact List.map_append
  · rw [find?_eq_map_info, Option.isSome_map]
    cases hentry : r.entry? name with
    | none =>
      refine iff_of_false (by simp) fun hne => hne name ?_
      exact build_of_entry?_eq_none hentry overrides
    | some c => exact iff_of_true rfl (build_ne_unknownChecker hentry overrides)
  · rw [find?_eq_map_info] at h
    obtain ⟨c, hentry, rfl⟩ := Option.map_eq_some_iff.1 h
    obtain ⟨hc, hname⟩ := hdistinct.entry?_eq_some_iff.1 hentry
    refine ⟨c, hc, rfl, fun c' hc' => ⟨fun hname' => ?_, ?_⟩, fun name' hname' => ?_,
      buildsFrom_of_entry? hentry⟩
    · exact Option.some.inj ((hdistinct.entry?_eq_some_iff.2 ⟨hc', hname'⟩).symm.trans hentry)
    · rintro rfl
      exact hname
    · have hsame : r.entry? name' = r.entry? name := entry?_congr hname'
      refine ⟨?_, fun overrides => ?_⟩
      · rw [find?_eq_map_info, hsame, hentry]
        rfl
      · unfold build
        rw [hsame, hentry]

end Registry

end Rulebook
