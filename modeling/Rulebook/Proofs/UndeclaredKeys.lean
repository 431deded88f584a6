import Rulebook.Proofs.Discovery
import Rulebook.Proofs.LoadHistory
import Rulebook.Proofs.PolicyNames

/-!
# Mistyped keys

Rule files and the configuration are made of tables of a few kinds, and each kind declares its keys.

**Theorem (`refused_of_undeclared`).** Add a key that is not declared to a table of any kind,
anywhere in a document: as a rule file it is then refused as a fault of the text, and as a
configuration as invalid. Nothing else in the document can hide the key.

A table of a document is a hole in it (`Section.Around`), and the document is what stands around the
hole. The proof goes from the table outwards: what does not decode makes the table around it fail,
whatever the other fields are and wherever it stands among them (`Section.Around.fails`).
-/

namespace Rulebook

open Decoder

/-! ## Tables in documents -/

/-- The kinds of tables in rule files and configurations. -/
inductive Section where
  | file | header | rule | conditions | report
  | config | checker | parse
  deriving DecidableEq

namespace Section

/-- The keys that are declared for a kind of table. -/
def declared : Section → List String
  | file => ["package", "rules"]
  | header => ["name", "imports"]
  | rule => ["name", "group", "description", "match", "report"]
  | conditions =>
    ["kind", "text_pattern", "not_text_pattern", "type_pattern", "path_pattern", "package"]
  | report => ["message"]
  | config => ["checker", "parse"]
  | checker => ["rules", "debug", "fail_on_error", "order"]
  | parse => ["importable"]

/-- What stands around the value of a declared key: a table with that key, or a list of the values
in the order in which the keys are declared. -/
inductive Slot (s : Section) (name : String) : (Data → Data) → Prop
  | key {place : Extent} {before after : List (Key × Data)} {ending : Ending} {key : Key} :
      key.text = some name →
      Slot s name fun d => .record place (before ++ (key, d) :: after) ending
  | item {place : Extent} {before after : List Data} {ending : Ending} :
      s.declared[before.length]? = some name →
      Slot s name fun d => .list place (before ++ d :: after) ending

/-- What stands around a table of one kind in a table of another, however deep. -/
inductive Around (root : Section) : Section → (Data → Data) → Prop
  | here : Around root root id
  | header {c f : Data → Data} : Around root file c → Slot file "package" f →
      Around root header (c ∘ f)
  | rule {c f : Data → Data} {place : Extent} {before after : List Data} {ending : Ending} :
      Around root file c → Slot file "rules" f →
      Around root rule fun d => c (f (.list place (before ++ d :: after) ending))
  | conditions {c f : Data → Data} : Around root rule c → Slot rule "match" f →
      Around root conditions (c ∘ f)
  | report {c f : Data → Data} : Around root rule c → Slot rule "report" f →
      Around root report (c ∘ f)
  | checker {c f : Data → Data} : Around root config c → Slot config "checker" f →
      Around root checker (c ∘ f)
  | parse {c f : Data → Data} : Around root config c → Slot config "parse" f →
      Around root parse (c ∘ f)

/-- A tree does not decode as a table of a kind. -/
def Fails : Section → Data → Prop
  | file, d => ∃ e, RuleFile.ofData d = .error e
  | header, d => ∃ e, optional PackageHeader.ofData d = .error e
  | rule, d => ∃ e, RuleSource.ofData d = .error e
  | conditions, d => ∃ e, MatchSource.ofData d = .error e
  | report, d => ∃ e, messageOfData d = .error e
  | config, d => ∃ e, Config.ofData d = .error e
  | checker, d => ∃ e, Config.checkerShape.decode {} (fun draft _ => .ok draft) d = .error e
  | parse, d => ∃ e, Config.parseShape.decode [] (fun draft _ => .ok draft) d = .error e

end Section

/-! ## Records -/

theorem exists_mapM_eq_error {α β ε : Type} {f : α → Except ε β} {as : List α} {a : α}
    (hmem : a ∈ as) (ha : ∃ e, f a = .error e) : ∃ e, as.mapM f = .error e := by
  induction as with
  | nil => exact absurd hmem List.not_mem_nil
  | cons b bs ih =>
    simp only [mapM_cons_eq_error_iff]
    cases hb : f b with
    | error e => exact ⟨e, .inl rfl⟩
    | ok c =>
      rcases List.mem_cons.1 hmem with rfl | hmem
      · obtain ⟨e, he⟩ := ha
        cases hb.symm.trans he
      · obtain ⟨e, he⟩ := ih hmem
        exact ⟨e, .inr ⟨⟨c, rfl⟩, he⟩⟩

theorem exists_foldlM_eq_error {α σ ε : Type} {f : σ → α → Except ε σ} {as : List α} {a : α}
    (hmem : a ∈ as) (ha : ∀ s, ∃ e, f s a = .error e) (s : σ) :
    ∃ e, as.foldlM f s = .error e := by
  induction as generalizing s with
  | nil => exact absurd hmem List.not_mem_nil
  | cons b bs ih =>
    simp only [List.foldlM_cons, bind_eq_error_iff]
    cases hb : f s b with
    | error e => exact ⟨e, .inl rfl⟩
    | ok s' =>
      rcases List.mem_cons.1 hmem with rfl | hmem
      · obtain ⟨e, he⟩ := ha s
        cases hb.symm.trans he
      · obtain ⟨e, he⟩ := ih hmem s'
        exact ⟨e, .inr ⟨s', rfl, he⟩⟩

theorem exists_map_eq_error {α β ε : Type} {x : Except ε α} (f : α → β)
    (h : ∃ e, x = .error e) : ∃ e, f <$> x = .error e := by
  obtain ⟨e, rfl⟩ := h
  exact ⟨e, rfl⟩

namespace Section

variable {α δ : Type} {shape : Shape δ} {s : Section} {name : String} {f : Data → Data} {d : Data}

/-- **One table outwards.** A value that does not go into any draft makes the record around it
fail. -/
theorem Slot.exists_decode_eq_error (h : s.Slot name f) (hshape : shape.fields = s.declared)
    (hname : name ∈ s.declared) (hset : ∀ draft, ∃ e, shape.set draft name d = .error e)
    (empty : δ) (finish : δ → (String → Fault) → Except Fault α) :
    ∃ e, shape.decode empty finish (f d) = .error e := by
  rw [← hshape] at hname
  cases h with
  | @key place before after ending key hkey =>
    have hfield : Data.HasField (.record place (before ++ (key, d) :: after) ending) name d :=
      .mk (List.mem_append_right before List.mem_cons_self) hkey
    exact Shape.exists_decode_eq_error hfield (Shape.refuses_of_set hname hset) empty finish
  | @item place before after ending hplace =>
    have hmem : (name, d) ∈ shape.fields.zip (before ++ d :: after) := by
      refine List.mem_of_getElem? (List.getElem?_zip_eq_some.2 ⟨hshape ▸ hplace, ?_⟩)
      simp
    obtain ⟨e, he⟩ := exists_foldlM_eq_error
      (f := fun draft (field : String × Data) => shape.set draft field.1 field.2) hmem hset empty
    refine ⟨e, bind_eq_error_iff.2 (.inl ?_)⟩
    exact bind_eq_error_iff.2 (.inl he)

variable {empty : δ} {finish : δ → (String → Fault) → Except Fault α} {place : Extent}
  {fields : List (Key × Data)} {ending : Ending} {key : Key} {value : Data}

/-- A key that is not declared makes the record fail that has it. -/
theorem exists_decode_eq_error_of_undeclared (hstrict : shape.strict = true)
    (hshape : shape.fields = s.declared) (hkey : key.text = some name) (hname : name ∉ s.declared)
    (hmem : (key, value) ∈ fields) :
    ∃ e, shape.decode empty finish (.record place fields ending) = .error e := by
  have hrefuses : shape.Refuses name value :=
    Shape.refuses_of_undeclared hstrict (hshape ▸ hname) value
  exact Shape.exists_decode_eq_error (.mk hmem hkey) hrefuses empty finish

theorem fails_of_undeclared (s : Section) (hkey : key.text = some name) (hname : name ∉ s.declared)
    (hmem : (key, value) ∈ fields) : s.Fails (.record place fields ending) := by
  cases s with
  | header =>
    refine exists_map_eq_error some ?_
    exact exists_decode_eq_error_of_undeclared rfl rfl hkey hname hmem
  | file | rule | conditions | report | config | checker | parse =>
    exact exists_decode_eq_error_of_undeclared rfl rfl hkey hname hmem

/-! ## From a table outwards -/

theorem file_fails_of_header (h : Slot file "package" f) (hd : header.Fails d) :
    file.Fails (f d) := by
  refine h.exists_decode_eq_error rfl (by decide) (fun draft => ?_) _ _
  exact exists_map_eq_error (fun package => { draft with package := package }) hd

theorem file_fails_of_rule {before after : List Data} (h : Slot file "rules" f)
    (hd : rule.Fails d) : file.Fails (f (.list place (before ++ d :: after) ending)) := by
  refine h.exists_decode_eq_error rfl (by decide) (fun draft => ?_) _ _
  have hitems : ∃ e, (before ++ d :: after).mapM RuleSource.ofData = .error e :=
    exists_mapM_eq_error (List.mem_append_right before List.mem_cons_self) hd
  obtain ⟨e, he⟩ := hitems
  exact ⟨e, bind_eq_error_iff.2 (.inl (bind_eq_error_iff.2 (.inl he)))⟩

theorem rule_fails_of_conditions (h : Slot rule "match" f) (hd : conditions.Fails d) :
    rule.Fails (f d) := by
  refine h.exists_decode_eq_error rfl (by decide) (fun draft => ?_) _ _
  exact exists_map_eq_error (fun m => { draft with conditions := some m }) hd

theorem rule_fails_of_report (h : Slot rule "report" f) (hd : report.Fails d) :
    rule.Fails (f d) := by
  refine h.exists_decode_eq_error rfl (by decide) (fun draft => ?_) _ _
  exact exists_map_eq_error (fun m => { draft with message := some m }) hd

theorem config_fails_of_checker (h : Slot config "checker" f) (hd : checker.Fails d) :
    config.Fails (f d) := by
  refine h.exists_decode_eq_error rfl (by decide) (fun draft => ?_) _ _
  exact exists_map_eq_error (fun c => { draft with checker := c }) hd

theorem config_fails_of_parse (h : Slot config "parse" f) (hd : parse.Fails d) :
    config.Fails (f d) := by
  refine h.exists_decode_eq_error rfl (by decide) (fun draft => ?_) _ _
  exact exists_map_eq_error (fun names => { draft with importable := names }) hd

/-- **Nothing hides what does not decode.** When a table fails, so does all that stands around
it. -/
theorem Around.fails {root s : Section} {c : Data → Data} (h : root.Around s c) {d : Data}
    (hd : s.Fails d) : root.Fails (c d) := by
  induction h generalizing d with
  | here => exact hd
  | header _ hslot ih => exact ih (file_fails_of_header hslot hd)
  | rule _ hslot ih => exact ih (file_fails_of_rule hslot hd)
  | conditions _ hslot ih => exact ih (rule_fails_of_conditions hslot hd)
  | report _ hslot ih => exact ih (rule_fails_of_report hslot hd)
  | checker _ hslot ih => exact ih (config_fails_of_checker hslot hd)
  | parse _ hslot ih => exact ih (config_fails_of_parse hslot hd)

end Section

/-! ## Documents -/

/-- **A key that is not declared is refused**, in whatever table it is added and whatever else is in
the document. A rule file is then at fault as a text, in every context, and no engine takes it in; a
configuration is invalid. -/
theorem refused_of_undeclared {s : Section} {place : Extent} {before after : List (Key × Data)}
    {ending : Ending} {key : Key} {name : String} {value : Data} (hkey : key.text = some name)
    (hname : name ∉ s.declared) {c : Data → Data} {text : String}
    (hparse : Toml.parse text = .ok (c (.record place (before ++ (key, value) :: after) ending))) :
    (Section.file.Around s c → ∀ ctx file, ∃ line message,
      RuleFile.compile ctx file text = .error (.dsl file line message) ∧
      ∀ l : LoadedRules, l.load ctx file text = .error (.dsl file line message) ∧
        l.after ⟨ctx, file, text⟩ = l) ∧
    (Section.config.Around s c → ∀ (fs : FileSystem) path,
      fs.isThere path = .ok true → fs.read path = .ok text →
      ∃ fault, Config.load fs path = .error (.invalid path fault)) := by
  have hfails : s.Fails (.record place (before ++ (key, value) :: after) ending) :=
    s.fails_of_undeclared hkey hname (List.mem_append_right before List.mem_cons_self)
  constructor
  · intro haround ctx file
    obtain ⟨fault, hfault⟩ := Toml.exists_decode_eq_error hparse (haround.fails hfails)
    have hcompile : RuleFile.compile ctx file text = _ := RuleFile.compile_of_decode_error hfault
    refine ⟨_, _, hcompile, fun l => ?_⟩
    have hload : l.load ctx file text = _ := l.load_eq ctx file text
    rw [hcompile] at hload
    exact ⟨hload, LoadedRules.after_of_load_eq_error hload⟩
  · intro haround fs path hthere hread
    obtain ⟨fault, hfault⟩ := Toml.exists_decode_eq_error hparse (haround.fails hfails)
    have hloads : Config.Loads fs path (.error (.invalid path fault)) :=
      .invalid hthere hread hfault
    exact ⟨fault, Config.loads_iff.1 hloads⟩

/-- A file system in which every file holds a configuration with a mistyped parameter. -/
def mistypedConfig : FileSystem where
  root := "/"
  isThere _ := .ok true
  read _ := .ok "checker.typo=1"
  metadata _ := .ok (.file 0)
  glob _ := .ok []

/-- A mistyped condition of a rule, and a mistyped parameter of a configuration. -/
theorem refused_of_undeclared_typo :
    "typo" ∉ Section.conditions.declared ∧ "typo" ∉ Section.checker.declared ∧
    (∃ line message, RuleFile.compile {} "r" "rules=[\x7bmatch=\x7btypo=1\x7d\x7d]" =
      .error (.dsl "r" line message)) ∧
    ∃ fault, Config.load mistypedConfig "c" = .error (.invalid "c" fault) := by
  have hconditions : "typo" ∉ Section.conditions.declared := by decide
  have hchecker : "typo" ∉ Section.checker.declared := by decide
  refine ⟨hconditions, hchecker, ?_, ?_⟩
  · have hrules : Section.Slot .file "rules"
        fun d => .record ⟨0, 24⟩ ([] ++ (⟨"rules", some "rules", ⟨0, 5⟩⟩, d) :: []) .loose :=
      .key rfl
    have hmatch : Section.Slot .rule "match"
        fun d => .record ⟨7, 23⟩ ([] ++ (⟨"match", some "match", ⟨8, 13⟩⟩, d) :: []) .loose :=
      .key rfl
    have hrule : Section.file.Around .rule fun d => .record ⟨0, 24⟩
        ([] ++ (⟨"rules", some "rules", ⟨0, 5⟩⟩, .list ⟨6, 24⟩ ([] ++ d :: []) .loose) :: [])
        .loose := .rule .here hrules
    have hparse : Toml.parse "rules=[\x7bmatch=\x7btypo=1\x7d\x7d]" =
        .ok (.record ⟨0, 24⟩ [(⟨"rules", some "rules", ⟨0, 5⟩⟩, .list ⟨6, 24⟩ [.record ⟨7, 23⟩
          [(⟨"match", some "match", ⟨8, 13⟩⟩, .record ⟨14, 22⟩
            ([] ++ (⟨"typo", some "typo", ⟨15, 19⟩⟩, .scalar ⟨20, 21⟩ (.integer 1)) :: [])
            .loose)] .loose] .loose)] .loose) := by decide +kernel
    obtain ⟨line, message, hcompile, -⟩ :=
      (refused_of_undeclared rfl hconditions hparse).1 (.conditions hrule hmatch) {} "r"
    exact ⟨line, message, hcompile⟩
  · have hslot : Section.Slot .config "checker"
        fun d => .record ⟨0, 14⟩ ([] ++ (⟨"checker", some "checker", ⟨0, 7⟩⟩, d) :: []) .loose :=
      .key rfl
    have hparse : Toml.parse "checker.typo=1" =
        .ok (.record ⟨0, 14⟩ [(⟨"checker", some "checker", ⟨0, 7⟩⟩, .record ⟨0, 7⟩
          ([] ++ (⟨"typo", some "typo", ⟨8, 12⟩⟩, .scalar ⟨13, 14⟩ (.integer 1)) :: []) .loose)]
          .loose) := by decide +kernel
    exact (refused_of_undeclared rfl hchecker hparse).2 (.checker .here hslot)
      mistypedConfig "c" rfl rfl

end Rulebook
