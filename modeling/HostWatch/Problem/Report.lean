/-
**Reports of problems.**

A report is the outcome of one rule. Two reports are the same when they agree on their class, their flag
and their diagnosis. Two sets of reports are the same when they flag the same classes, each with the
same diagnosis; what a set does not flag does not count.

* `sameProblems_iff` says that the comparison of two sets looks at all classes.
-/

namespace HostWatch

/-- The outcome of one rule. -/
structure Report where
  title : String
  flagged : Bool
  diagnosis : String
  description : String
  /-- The moment of the diagnosis, in milliseconds. -/
  created : Int
deriving DecidableEq

namespace Report

/-- Whether two reports agree on class, flag and diagnosis. -/
def same (a b : Report) : Bool :=
  a.title = b.title && a.flagged = b.flagged && a.diagnosis = b.diagnosis

/-- The text of a report, on one line as far as its parts are. -/
def toText (report : Report) : String :=
  (if report.flagged then "WARN" else "OK  ") ++ ": " ++ report.title ++ ": " ++ report.diagnosis

/-- Whether a set of reports flags a problem. -/
def anyFlagged (reports : List Report) : Bool := reports.any Report.flagged

/-- The flagged reports, as classes with diagnoses. -/
def flaggedPairs (reports : List Report) : List (String × String) :=
  (reports.filter Report.flagged).map fun report => (report.title, report.diagnosis)

/-- The diagnosis that a set of reports gives for a class that it flags; of several, the last one. -/
def flaggedDiagnosis? (reports : List Report) (title : String) : Option String :=
  (flaggedPairs reports).reverse.lookup title

/-- Whether two sets of reports flag the same classes with the same diagnoses. -/
def sameProblems (a b : List Report) : Bool :=
  ((flaggedPairs a ++ flaggedPairs b).map Prod.fst).all fun title =>
    flaggedDiagnosis? a title == flaggedDiagnosis? b title

/-- The texts of reports with a separator between them. -/
def format (separator : String) (reports : List Report) : String :=
  separator.intercalate (reports.map toText)

/-- A class that no pair of a set has is one that it does not flag. -/
theorem flaggedDiagnosis?_eq_none {reports : List Report} {title : String}
    (absent : title ∉ (flaggedPairs reports).map Prod.fst) : flaggedDiagnosis? reports title = none := by
  unfold flaggedDiagnosis?
  rw [List.lookup_eq_none_iff]
  intro pair member
  have different : title ≠ pair.1 := fun same =>
    absent (List.mem_map.2 ⟨pair, List.mem_reverse.1 member, same.symm⟩)
  simpa using different

/-- Two sets flag the same problems when they give every class the same diagnosis, or none. -/
theorem sameProblems_iff (a b : List Report) :
    sameProblems a b = true ↔ ∀ title, flaggedDiagnosis? a title = flaggedDiagnosis? b title := by
  unfold sameProblems
  rw [List.all_eq_true, List.map_append]
  constructor
  · intro same title
    by_cases flagged : title ∈ (flaggedPairs a).map Prod.fst ++ (flaggedPairs b).map Prod.fst
    · simpa using same title flagged
    · rw [List.mem_append, not_or] at flagged
      rw [flaggedDiagnosis?_eq_none flagged.1, flaggedDiagnosis?_eq_none flagged.2]
  · intro same title _
    simpa using same title

theorem sameProblems_refl (reports : List Report) : sameProblems reports reports = true :=
  (sameProblems_iff reports reports).2 fun _ => rfl

end Report

end HostWatch
