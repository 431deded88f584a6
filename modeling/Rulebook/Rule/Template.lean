import Rulebook.Text.Blank

/-!
# Message templates

The message of a rule may refer to variables as `$name` or `${name}`, and `$$` stands for a dollar
sign. Which variables there are is known when the template is read, so a reference to any other is
refused then. What is put in for a variable is not read again.
-/

namespace Rulebook

/-- A piece of a template: text as it stands, or a variable. -/
inductive Segment where
  | literal (text : String)
  | ref (name : String)
  deriving Repr, DecidableEq, Inhabited

/-- The text of a piece, where a variable without a value stands for nothing. -/
def Segment.render (value? : String → Option String) : Segment → String
  | literal text => text
  | ref name => (value? name).getD ""

/-- A template as its pieces. -/
structure Template where
  segments : List Segment
  deriving Repr, DecidableEq, Inhabited

namespace Template

/-- Why a text is no template. Offsets are those of the dollar sign, in bytes. -/
inductive Fault where
  | blank
  | unterminated (offset : Nat)
  | nameless (offset : Nat)
  | unknown (name : String)
  deriving Repr, DecidableEq

def Fault.message : Fault → String
  | blank => "message is empty"
  | unterminated offset => "unterminated '$\x7b' at offset " ++ toString offset
  | nameless offset =>
    s!"'$' at offset {offset} is not followed by a variable name (use '$$' for a literal '$')"
  | unknown name => s!"unknown variable '${name}'"

/-- The variables that every rule has. -/
def builtins : List String := ["text", "kind", "type", "line", "column", "package"]

/-- Whether a character can be in the name after a bare dollar sign. -/
def isNameChar (c : Char) : Bool := c.isAlphanum || c = '_'

/-- The number of bytes that characters take. -/
def byteCount (cs : List Char) : Nat := cs.foldl (fun n c => n + c.utf8Size) 0

/-- Adds a character to pieces that are listed last first. -/
def pushChar (c : Char) : List Segment → List Segment
  | .literal text :: done => .literal (text.push c) :: done
  | done => .literal (String.singleton c) :: done

/-- A reference whose dollar sign stands at an offset, if its name may be used. -/
def reference (known : String → Bool) (offset : Nat) (name : List Char) :
    Except Fault Segment :=
  if name.isEmpty then .error (.nameless offset)
  else if known (String.ofList name) then .ok (.ref (String.ofList name))
  else .error (.unknown (String.ofList name))

/-- Reads the text that is left at an offset, after pieces that are listed last first. -/
def readFrom (known : String → Bool) (offset : Nat) (done : List Segment) (cs : List Char) :
    Except Fault (List Segment) :=
  match cs with
  | [] => .ok done.reverse
  | c :: cs =>
    if c ≠ '$' then readFrom known (offset + c.utf8Size) (pushChar c done) cs
    else match cs with
      | '$' :: rest => readFrom known (offset + 2) (pushChar '$' done) rest
      | '\x7b' :: rest =>
        let name := rest.takeWhile (· ≠ '\x7d')
        match _h : rest.dropWhile (· ≠ '\x7d') with
        | [] => .error (.unterminated offset)
        | _ :: after =>
          match reference known offset name with
          | .error e => .error e
          | .ok piece => readFrom known (offset + 3 + byteCount name) (piece :: done) after
      | rest =>
        let name := rest.takeWhile isNameChar
        match reference known offset name with
        | .error e => .error e
        | .ok piece =>
          readFrom known (offset + 1 + byteCount name) (piece :: done) (rest.dropWhile isNameChar)
termination_by cs.length
decreasing_by
  · simp only [List.length_cons]
    omega
  · simp only [List.length_cons]
    omega
  · have := (List.dropWhile_sublist (· ≠ '\x7d') (l := rest)).length_le
    rw [_h] at this
    simp only [List.length_cons] at this ⊢
    omega
  · have := (List.dropWhile_sublist isNameChar (l := rest)).length_le
    simp only [List.length_cons]
    omega

/-- Reads a template that may refer to the builtin variables and to some others. -/
def parse (captures : List String) (source : String) : Except Fault Template :=
  if Text.allBlank source then .error .blank
  else Template.mk <$>
    readFrom (fun name => builtins.contains name || captures.contains name) 0 [] source.toList

/-- The message for some values of the variables. -/
def render (t : Template) (value? : String → Option String) : String :=
  String.join (t.segments.map (Segment.render value?))

/-- The names of the variables, in order and with repeats. -/
def variableNames (t : Template) : List String :=
  t.segments.filterMap fun
    | .ref name => some name
    | .literal _ => none

end Template

end Rulebook
