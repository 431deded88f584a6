import Rulebook.Files.Tree
import Rulebook.Proofs.Names
import Rulebook.Proofs.Failures

/-!
# Names in a tree

A path in a tree is followed name by name. Where the tree is well-formed, a path that is made of
names leads to what the names lead to from the top (`follow_ofNames`), and a path that goes down
from the root to what they lead to from there (`metadata_intercalate`, `belowRoot_ofNames`).
-/

namespace Rulebook

namespace FileEntry

/-- A tree as a disk can hold it: in each directory the names are different, and all are proper
names without a NUL character. -/
inductive WellFormed : FileEntry → Prop
  | file (content : ByteArray) : WellFormed (.file content)
  | dir {entries : List (String × FileEntry)} (nodup : (entries.map Prod.fst).Nodup)
      (names : ∀ e ∈ entries, Path.IsName e.1 ∧ '\x00' ∉ e.1.toList)
      (below : ∀ e ∈ entries, e.2.WellFormed) : WellFormed (.dir entries)

theorem find?_cons (e : String × FileEntry) (es : List (String × FileEntry)) (name : String) :
    find? (e :: es) name = if e.1 = name then some e.2 else find? es name := by
  unfold find?
  rw [List.find?_cons]
  by_cases h : e.1 = name <;> simp [h]

theorem find?_eq_some_iff {entries : List (String × FileEntry)}
    (h : (entries.map Prod.fst).Nodup) {name : String} {e : FileEntry} :
    find? entries name = some e ↔ (name, e) ∈ entries := by
  induction entries with
  | nil => simp [find?]
  | cons x xs ih =>
    obtain ⟨hnew, hxs⟩ := List.nodup_cons.1 h
    rw [find?_cons, List.mem_cons]
    split
    · next hname =>
      subst hname
      constructor
      · rintro ⟨rfl⟩
        exact .inl rfl
      · rintro (heq | hmem)
        · rw [← heq]
        · exact absurd (List.mem_map_of_mem hmem) hnew
    · next hname =>
      rw [ih hxs]
      refine (or_iff_right fun heq => hname ?_).symm
      rw [← heq]

theorem at?_nil (e : FileEntry) : e.at? [] = some e := by
  cases e <;> rfl

/-- Names lead to a directory through directories. -/
theorem isDir_of_at? {e : FileEntry} {names : List String} {entries : List (String × FileEntry)}
    (h : e.at? names = some (.dir entries)) : e.isDir = true := by
  cases e with
  | dir _ => rfl
  | file content => cases names <;> cases h

theorem at?_append (e : FileEntry) (names more : List String) :
    e.at? (names ++ more) = (e.at? names).bind (·.at? more) := by
  induction names generalizing e with
  | nil => rw [List.nil_append, at?_nil, Option.bind_some]
  | cons n names ih =>
    cases e with
    | file content => rfl
    | dir entries =>
      show ((find? entries n).bind fun e => e.at? (names ++ more)) =
        ((find? entries n).bind fun e => e.at? names).bind (·.at? more)
      rw [Option.bind_assoc]
      congr 1
      funext e
      exact ih e

theorem at?_singleton (entries : List (String × FileEntry)) (name : String) :
    (dir entries).at? [name] = find? entries name := by
  show (find? entries name).bind (·.at? []) = find? entries name
  cases find? entries name with
  | none => rfl
  | some e => exact at?_nil e

/-- What a well-formed tree leads to is well-formed, through names of the tree. -/
theorem WellFormed.of_at? {e e' : FileEntry} (h : e.WellFormed) {names : List String}
    (hat : e.at? names = some e') :
    e'.WellFormed ∧ ∀ n ∈ names, Path.IsName n ∧ '\x00' ∉ n.toList := by
  induction names generalizing e with
  | nil =>
    rw [at?_nil] at hat
    cases hat
    exact ⟨h, fun _ hn => absurd hn List.not_mem_nil⟩
  | cons n names ih =>
    cases h with
    | file content => cases hat
    | dir hnodup hnames hbelow =>
      obtain ⟨x, hx, hat⟩ := Option.bind_eq_some_iff.1 hat
      have hmem := (find?_eq_some_iff hnodup).1 hx
      obtain ⟨he', hrest⟩ := ih (hbelow _ hmem) hat
      exact ⟨he', List.forall_mem_cons.2 ⟨hnames _ hmem, hrest⟩⟩

theorem WellFormed.isName {e : FileEntry} (h : e.WellFormed) {names : List String}
    (hsome : (e.at? names).isSome = true) : ∀ n ∈ names, Path.IsName n := by
  obtain ⟨e', hat⟩ := Option.isSome_iff_exists.1 hsome
  exact fun n hn => ((h.of_at? hat).2 n hn).1

end FileEntry

namespace FileTree

/-- A step leads on by a name. -/
theorem step_of_isName {top : FileEntry} {names : List String} {n : String} (hn : Path.IsName n) :
    step top names n =
      if (top.at? (names ++ [n])).isSome then .ok (names ++ [n])
      else match top.at? names with
        | some (.file _) => .error .notADirectory
        | _ => .error .missing := by
  rw [FileEntry.at?_append]
  unfold step
  cases hat : top.at? names with
  | none => rfl
  | some e =>
    cases e with
    | file content => rfl
    | dir entries =>
      rw [Option.bind_some, FileEntry.at?_singleton]
      simp only [hn.ne_empty, hn.ne_here, hn.ne_up, decide_false, Bool.or_self, if_false]
      rfl

/-- **Names are followed as far as the tree goes.** -/
theorem toOption_foldlM_step {top : FileEntry} {names : List String}
    (h : ∀ n ∈ names, Path.IsName n) {dir : List String} (hdir : (top.at? dir).isSome = true) :
    (names.foldlM (step top) dir).toOption =
      if (top.at? (dir ++ names)).isSome then some (dir ++ names) else none := by
  induction names generalizing dir with
  | nil =>
    rw [List.append_nil, if_pos hdir]
    rfl
  | cons n names ih =>
    rw [List.forall_mem_cons] at h
    rw [List.foldlM_cons, step_of_isName h.1, List.append_cons dir n names]
    by_cases hn : (top.at? (dir ++ [n])).isSome = true
    · rw [if_pos hn]
      exact ih h.2 hn
    · rw [if_neg hn, FileEntry.at?_append top (dir ++ [n]), Option.not_isSome_iff_eq_none.1 hn]
      split <;> rfl

theorem lookup_eq (top : FileEntry) (path : String) :
    lookup top path = (follow top path).toOption.map Prod.snd := by
  unfold lookup
  cases follow top path <;> rfl

/-- A path that is made of names does not fail for what it is as a text. -/
theorem toOption_follow {top : FileEntry} {path : String} (hnul : '\x00' ∉ path.toList)
    (hne : path ≠ "") :
    (follow top path).toOption = ((Path.segments path).tail.foldlM (step top) []).toOption.bind
      fun names => (top.at? names).map fun e => (names, e) := by
  have hcontains : path.toList.contains '\x00' = false := by simpa using hnul
  unfold follow
  rw [hcontains, if_neg Bool.false_ne_true, if_neg hne]
  cases hfold : (Path.segments path).tail.foldlM (step top) [] with
  | error f => rfl
  | ok names =>
    simp only [bind, Except.bind, Except.toOption, Option.bind]
    cases top.at? names <;> rfl

theorem follow_of_nul {top : FileEntry} {path : String} (hnul : '\x00' ∈ path.toList) :
    follow top path = .error .badName := by
  unfold follow
  rw [if_pos (List.contains_iff_mem.2 hnul)]
  rfl

/-- Where a path is followed to is there. -/
theorem at?_of_follow {top : FileEntry} {path : String} {names : List String} {e : FileEntry}
    (h : follow top path = .ok (names, e)) : top.at? names = some e := by
  by_cases hnul : '\x00' ∈ path.toList
  · rw [follow_of_nul hnul] at h
    cases h
  · by_cases hne : path = ""
    · subst hne
      cases h
    · have hsome := congrArg Except.toOption h
      rw [toOption_follow hnul hne] at hsome
      obtain ⟨names', -, hat⟩ := Option.bind_eq_some_iff.1 hsome
      obtain ⟨e', hat, heq⟩ := Option.map_eq_some_iff.1 hat
      cases heq
      exact hat

/-- **What stands at a path made of names** is what the names lead to. -/
theorem follow_ofNames {top : FileEntry} (h : top.WellFormed) (hdir : top.isDir = true)
    {names : List String} (hnames : ∀ n ∈ names, Path.IsName n) :
    (follow top (Path.ofNames names)).toOption = (top.at? names).map fun e => (names, e) := by
  by_cases hnul : '\x00' ∈ (Path.ofNames names).toList
  · rw [follow_of_nul hnul]
    cases hat : top.at? names with
    | none => rfl
    | some e =>
      have hnames := (h.of_at? hat).2
      have hslash : '\x00' ≠ '/' := by decide
      obtain ⟨n, hn, hmem⟩ := (Path.mem_ofNames hnul).resolve_left hslash
      exact absurd hmem (hnames n hn).2
  · have hne : Path.ofNames names ≠ "" := by
      simp [Path.ofNames]
    have htop : (top.at? []).isSome = true := by
      rw [FileEntry.at?_nil]
      rfl
    rw [toOption_follow hnul hne, Path.segments_ofNames, List.tail_cons,
      Path.segments_intercalate hnames]
    have hfollow : ((if names = [] then [""] else names).foldlM (step top) []).toOption =
        if (top.at? names).isSome then some names else none := by
      split
      · next hnil =>
        subst hnil
        cases top with
        | file content => cases hdir
        | dir entries => rfl
      · exact toOption_foldlM_step hnames htop
    rw [hfollow]
    cases hat : top.at? names with
    | none => rfl
    | some e => simp [hat]

theorem lookup_ofNames {top : FileEntry} (h : top.WellFormed) (hdir : top.isDir = true)
    {names : List String} (hnames : ∀ n ∈ names, Path.IsName n) :
    lookup top (Path.ofNames names) = top.at? names := by
  rw [lookup_eq, follow_ofNames h hdir hnames, Option.map_map]
  exact Option.map_id'

/-- A root is a directory of the tree. -/
theorem exists_at?_root {top : FileEntry} {path : String} {t : FileTree}
    (h : openAt top path = .ok t) :
    t.top = top ∧ ∃ entries, top.at? t.root = some (.dir entries) := by
  unfold openAt at h
  split at h
  · next names entries hfollow =>
    cases h
    exact ⟨rfl, entries, at?_of_follow hfollow⟩
  · cases h
  · cases h

/-! ## Paths seen from the root -/

/-- What is known of a path that goes down from the root. -/
theorem metadata_intercalate {t : FileTree} (h : t.top.WellFormed) (hdir : t.top.isDir = true)
    {names : List String} (hne : names ≠ []) {e : FileEntry}
    (hat : t.top.at? (t.root ++ names) = some e) :
    t.metadata ("/".intercalate names) = .ok (match e with
      | .file content => .file content.size
      | .dir _ => .directory) := by
  have hnames : ∀ n ∈ t.root ++ names, Path.IsName n := fun n hn => ((h.of_at? hat).2 n hn).1
  have hfollow := follow_ofNames h hdir hnames
  rw [hat, Option.map_some, ← Path.join_ofNames (fun n hn => hnames n (List.mem_append_left _ hn))
    (fun n hn => hnames n (List.mem_append_right _ hn)) hne] at hfollow
  have hentry : t.entry ("/".intercalate names) = .ok e := by
    unfold entry rootPath
    cases hpath : follow t.top (Path.join (Path.ofNames t.root) ("/".intercalate names)) with
    | error f =>
      rw [hpath] at hfollow
      cases hfollow
    | ok r =>
      rw [hpath] at hfollow
      cases hfollow
      rfl
  unfold metadata
  rw [hentry]
  cases e <;> rfl

theorem strip_append {root : List String} (h : ∀ n ∈ root, Path.IsName n) (names : List String) :
    belowRoot.strip root (root ++ names) = some names := by
  induction root with
  | nil => cases names <;> rfl
  | cons n root ih =>
    rw [List.forall_mem_cons] at h
    show (if (n = "" || n = ".") = true then _ else _) = some names
    rw [if_neg (by simp [h.1.ne_empty, h.1.ne_here]), if_pos rfl]
    exact ih h.2

theorem dropWhile_isBlank {names : List String} (h : ∀ n ∈ names, Path.IsName n) :
    names.dropWhile (fun s => s = "" || s = ".") = names := by
  cases names with
  | nil => rfl
  | cons n names =>
    have hn := h n (List.mem_cons_self ..)
    exact List.dropWhile_cons_of_neg (by simp [hn.ne_empty, hn.ne_here])

/-- A path below the root is seen from there. -/
theorem belowRoot_ofNames {t : FileTree} {names : List String}
    (h : ∀ n ∈ t.root ++ names, Path.IsName n) (hne : names ≠ []) :
    t.belowRoot (Path.ofNames (t.root ++ names)) = "/".intercalate names := by
  have hroot : ∀ n ∈ t.root, Path.IsName n := fun n hn => h n (List.mem_append_left _ hn)
  have hnames : ∀ n ∈ names, Path.IsName n := fun n hn => h n (List.mem_append_right _ hn)
  have hreverse : ∀ n ∈ names.reverse, Path.IsName n := fun n hn => hnames n (List.mem_reverse.1 hn)
  unfold belowRoot
  rw [Path.segments_ofNames, List.tail_cons, Path.segments_intercalate h, if_neg (by simp [hne]),
    strip_append hroot]
  show "/".intercalate (((names.dropWhile _).reverse.dropWhile _).reverse) = _
  rw [dropWhile_isBlank hnames, dropWhile_isBlank hreverse, List.reverse_reverse]

end FileTree
end Rulebook
