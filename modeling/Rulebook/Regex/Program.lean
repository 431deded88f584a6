import Rulebook.Regex.Expr

/-!
# Programs

An expression is compiled to a list of instructions, each of which names its successors. The code
is built from the end: the code for an expression is given the instruction to go on with, so that
`seq a b` compiles `b` first. The order of the two successors of a split is the order of
preference.
-/

namespace Rulebook.Regex

/-- One instruction. -/
inductive Inst where
  | accept
  | fail
  | set (s : CharSet) (next : Nat)
  | look (l : Look) (next : Nat)
  | split (first second : Nat)
  | save (slot : Nat) (next : Nat)
  deriving DecidableEq, Inhabited

/-- The instructions with the one to start from. -/
structure Program where
  code : Array Inst
  start : Nat
  slots : Nat
  deriving DecidableEq

namespace Program

/-- Code that goes on to a given instruction: the entry and the instructions extended. -/
abbrev Fragment := Nat → Array Inst → Nat × Array Inst

def emit (i : Inst) (code : Array Inst) : Nat × Array Inst := (code.size, code.push i)

/-- A split in order of preference. -/
def choice (greedy : Bool) (enter leave : Nat) : Inst :=
  if greedy then .split enter leave else .split leave enter

/-- A fragment `n` times in a row. -/
def times (f : Fragment) : Nat → Fragment
  | 0, next, code => (next, code)
  | n + 1, next, code =>
    let (entry, code) := f next code
    times f n entry code

/-- A fragment up to `n` times; stopping early always goes on to `leave`. -/
def upTo (f : Fragment) (greedy : Bool) (leave : Nat) : Nat → Fragment
  | 0, next, code => (next, code)
  | n + 1, next, code =>
    let (body, code) := f next code
    let (entry, code) := emit (choice greedy body leave) code
    upTo f greedy leave n entry code

/-- A fragment once or more. -/
def atLeastOnce (f : Fragment) (greedy : Bool) : Fragment := fun next code =>
  let loop := code.size
  let (body, code) := f loop (code.push .fail)
  (body, code.setIfInBounds loop (choice greedy body next))

/-- A fragment any number of times. When it can match the empty text, the choice to skip it is
made apart from the choice to repeat it. -/
def anyTimes (f : Fragment) (greedy : Bool) (nonempty : Bool) : Fragment := fun next code =>
  let loop := code.size
  let (body, code) := atLeastOnce f greedy next code
  if nonempty then (loop, code) else emit (choice greedy body next) code

def ofExpr : Expr → Fragment
  | .empty, next, code => (next, code)
  | .set s, next, code => emit (.set s next) code
  | .look l, next, code => emit (.look l next) code
  | .seq a b, next, code =>
    let (middle, code) := ofExpr b next code
    ofExpr a middle code
  | .alt a b, next, code =>
    let (second, code) := ofExpr b next code
    let (first, code) := ofExpr a next code
    emit (.split first second) code
  | .group i _ e, next, code =>
    let (close, code) := emit (.save (2 * i + 1) next) code
    let (body, code) := ofExpr e close code
    emit (.save (2 * i) body) code
  | .rep min max greedy e, next, code =>
    match max with
    | some max =>
      let (entry, code) := upTo (ofExpr e) greedy next (max - min) next code
      times (ofExpr e) min entry code
    | none =>
      if min = 0 then anyTimes (ofExpr e) greedy (e.minLength.any (0 < ·)) next code
      else
        let (entry, code) := atLeastOnce (ofExpr e) greedy next code
        times (ofExpr e) (min - 1) entry code

/-- The program of a whole pattern, whose match is group zero. -/
def compile (e : Expr) : Program :=
  let (start, code) := ofExpr (.group 0 none e) 0 #[.accept]
  let last := e.groups.foldl (fun n g => max n g.1) 0
  ⟨code, start, 2 * (last + 1)⟩

end Program

end Rulebook.Regex
