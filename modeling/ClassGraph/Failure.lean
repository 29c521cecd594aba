import ClassGraph.Text.Basic

/-!
# Failures

Why something could not be done: what was attempted, and from the outside in why it did not work.
-/

namespace ClassGraph

/-- A failure with its causes, the nearest first. -/
structure Failure where
  /-- What was attempted or is wrong. -/
  message : String
  /-- Why, the nearest cause first. -/
  causes : List String := []
deriving DecidableEq, Repr, Inhabited

namespace Failure

/-- The failure of something of which `f` is a part. -/
def within (context : String) (f : Failure) : Failure := ⟨context, f.message :: f.causes⟩

/-- The message and the causes on one line. -/
def line (f : Failure) : String := ": ".intercalate (f.message :: f.causes)

/-- A cause behind a mark; the lines of one cause stand below each other. -/
def causeText (mark : String) (cause : String) : String :=
  let lines := (Text.splitAll '\n' cause.toList).map String.ofList
  mark ++ ("\n" ++ String.ofList (List.replicate mark.length ' ')).intercalate lines

/-- The causes below a heading; several are numbered. -/
def causeLines (f : Failure) : List String :=
  match f.causes with
  | [] => []
  | [cause] => ["", "Caused by:", causeText "    " cause]
  | causes =>
    ["", "Caused by:"] ++ causes.zipIdx.map fun (cause, i) => causeText s!"    {i}: " cause

/-- The failure as it is reported to a user. -/
def report (f : Failure) : String :=
  String.join ((("Error: " ++ f.message) :: f.causeLines).map (· ++ "\n"))

end Failure

/-- What a result fails with when it is a part of something larger. -/
def failWithin {α : Type} (context : String) : Except Failure α → Except Failure α
  | .ok a => .ok a
  | .error f => .error (f.within context)

end ClassGraph
