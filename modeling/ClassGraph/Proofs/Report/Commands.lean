import Mathlib.Tactic.SplitIfs
import ClassGraph.Command.Run

/-!
# Commands on files

When the files of a selection can be read, and the classes in them have a graph, a command acts on
both, behind the line on what was parsed (`withGraph_eq_after`). So what a check and a report on an
impact say of files is what is found in the classes that are read from them.
-/

namespace ClassGraph.Command

variable {w : Workspace} {settings : Settings} {selection : Selection}
  {files : List (String × String)} {classes : List Classifier} {i : Instantiation}

/-- A command on files acts on their classes and on the graph of these. -/
theorem withGraph_eq_after (hfiles : selection.files w = .ok files)
    (hclasses : Source.extractAll settings.extraction files = classes)
    (hi : instantiate settings.extraction classes = .ok i)
    (act : List Classifier → Instantiation → Outcome) :
    withGraph w settings selection act =
      (act classes i).after s!"Parsed {classes.length} classes from {files.length} files\n" := by
  unfold withGraph withClasses
  rw [hfiles]
  dsimp only
  rw [hclasses, hi]
  rfl

/-! ## Checks -/

/-- A check of files from which classes are read fails exactly when it has findings on them. -/
theorem status_runCheck (hfiles : selection.files w = .ok files)
    (hi : instantiate settings.extraction (Source.extractAll settings.extraction files) = .ok i) :
    (runCheck w settings selection).status = .failure ↔ (Findings.ofInstantiation i).count ≠ 0 := by
  rw [runCheck, withGraph_eq_after hfiles rfl hi]
  dsimp only [Outcome.after]
  split_ifs with hcount
  · simp [hcount]
  · simp [hcount, Outcome.fail]

/-- What a check of files prints is what it finds in their classes. -/
theorem output_runCheck (hfiles : selection.files w = .ok files)
    (hi : instantiate settings.extraction (Source.extractAll settings.extraction files) = .ok i) :
    (runCheck w settings selection).output = textOfLines (Findings.ofInstantiation i).lines := by
  rw [runCheck, withGraph_eq_after hfiles rfl hi]
  dsimp only [Outcome.after]
  split_ifs <;> rfl

/-! ## Impacts -/

/-- The impact of a class that is read from files is what a command reports. -/
theorem runImpact_of_ofClass (hfiles : selection.files w = .ok files)
    (hi : instantiate settings.extraction (Source.extractAll settings.extraction files) = .ok i)
    {name : String} {impact : Impact}
    (himpact : Impact.ofClass (Source.extractAll settings.extraction files) i name = .ok impact) :
    (runImpact w settings selection name).status = .success ∧
      (runImpact w settings selection name).output = textOfLines impact.lines := by
  rw [runImpact, withGraph_eq_after hfiles rfl hi, himpact]
  exact ⟨rfl, rfl⟩

/-- Where a class has no impact, a command fails with the reason. -/
theorem runImpact_of_error (hfiles : selection.files w = .ok files)
    (hclasses : Source.extractAll settings.extraction files = classes)
    (hi : instantiate settings.extraction classes = .ok i) {name : String} {e : NoImpact}
    (hnone : Impact.ofClass classes i name = .error e) :
    (runImpact w settings selection name).status = .failure ∧
      (runImpact w settings selection name).messages =
        s!"Parsed {classes.length} classes from {files.length} files\n" ++
          Failure.report { message := e.message } := by
  rw [runImpact, withGraph_eq_after hfiles hclasses hi, hnone]
  exact ⟨rfl, rfl⟩

end ClassGraph.Command
