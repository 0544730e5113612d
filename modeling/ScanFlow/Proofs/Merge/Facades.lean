import ScanFlow.Proofs.Merge.Passes
import ScanFlow.Proofs.Number.Digits

/-!
Facades are read back as they are written.

The facade of a place with a file name and a 32-bit line splits into that name and that line
again. The name may hold colons and digits itself: what counts is the last colon, and no
digit is one. The facade of a path is therefore that of its last step and of no other place.
-/

namespace ScanFlow

namespace Text

theorem cutLast?_eq_none {mark : Char} {cs : List Char} (h : mark ∉ cs) :
    cutLast? mark cs = none := by
  induction cs with
  | nil => rfl
  | cons c rest ih =>
    simp only [List.mem_cons, not_or] at h
    rw [cutLast?, ih h.2]
    exact if_neg (Ne.symm h.1)

theorem cutLast?_append {mark : Char} (before : List Char) {after : List Char}
    (h : mark ∉ after) : cutLast? mark (before ++ mark :: after) = some (before, after) := by
  induction before with
  | nil =>
    rw [List.nil_append, cutLast?, cutLast?_eq_none h]
    exact if_pos rfl
  | cons c rest ih => rw [List.cons_append, cutLast?, ih]

end Text

namespace Facade

/-- The last colon of a facade is the one before its line, whatever the file is called. -/
theorem cutLast?_render (file : String) (line : Nat) :
    Text.cutLast? ':' (render file line).toList = some (file.toList, Digits.chars line) := by
  have hmark : ':' ∉ Digits.chars line := by
    intro member
    exact absurd (Digits.isDigit_of_mem_chars member) (by decide)
  rw [render, String.toList_ofList, Text.cutLast?_append _ hmark]

/-- A facade splits into the file and the line that it was rendered from. -/
theorem split?_render {file : String} {line : Nat} (hfile : file ≠ "")
    (hline : line ≤ Digits.maxWord32) : split? (render file line) = some (file, line) := by
  have hname : file.toList.isEmpty = false := by
    simpa using hfile
  unfold split?
  rw [cutLast?_render]
  dsimp only
  rw [Digits.parse?_chars hline]
  simp [hname]

/-- A facade without a file name does not split. -/
theorem split?_render_empty (line : Nat) : split? (render "" line) = none := by
  unfold split?
  rw [cutLast?_render]
  dsimp only
  split
  · rfl
  · rfl

/-- Two places have one facade only if they are the same place. -/
theorem render_eq_iff {file file' : String} {line line' : Nat} :
    render file line = render file' line' ↔ file = file' ∧ line = line' := by
  constructor
  · intro h
    -- One text has one last colon, and lines are read back from their digits.
    have hcut := cutLast?_render file line
    rw [h, cutLast?_render, Option.some.injEq, Prod.mk.injEq] at hcut
    obtain ⟨hfile, hline⟩ := hcut
    refine ⟨(String.toList_inj.mp hfile).symm, ?_⟩
    rw [← Digits.value_chars line, ← hline, Digits.value_chars]
  · rintro ⟨rfl, rfl⟩
    rfl

theorem ofPath_eq_render {path : List PathStep} (hpath : path ≠ []) :
    ofPath path = render (path.getLast hpath).file (path.getLast hpath).line := by
  rw [ofPath, List.getLast?_eq_some_getLast hpath]

/-- **Splitting undoes the building of facades.** The facade of a path with 32-bit lines splits
into the file and the line of the last step, whatever characters that file's name has, unless it
has none at all; just then correlation stops at a finding with this facade, which it calls
malformed. So two paths have one facade exactly if they end in the same line of the same file. -/
theorem splitting_undoes_ofPath {path : List PathStep} (hpath : path ≠ [])
    (hlines : ∀ step ∈ path, step.line ≤ Digits.maxWord32) :
    (split? (ofPath path) =
      if (path.getLast hpath).file = "" then none
      else some ((path.getLast hpath).file, (path.getLast hpath).line)) ∧
    (∀ group finding, finding.facade = ofPath path →
      (Merge.findingRecord group finding = .error (.malformedFacade (ofPath path)) ↔
        (path.getLast hpath).file = "")) ∧
    ∀ (other : List PathStep) (hother : other ≠ []),
      ofPath path = ofPath other ↔
        (path.getLast hpath).file = (other.getLast hother).file ∧
          (path.getLast hpath).line = (other.getLast hother).line := by
  have hsplit : split? (ofPath path) =
      if (path.getLast hpath).file = "" then none
      else some ((path.getLast hpath).file, (path.getLast hpath).line) := by
    rw [ofPath_eq_render hpath]
    split
    · rename_i hnameless
      rw [hnameless, split?_render_empty]
    · rename_i hnamed
      exact split?_render hnamed (hlines _ (List.getLast_mem hpath))
  refine ⟨hsplit, ?_, ?_⟩
  · intro group finding hfacade
    rw [Merge.findingRecord_error_iff, hfacade, hsplit]
    simp
  · intro other hother
    rw [ofPath_eq_render hpath, ofPath_eq_render hother, render_eq_iff]

/-- From a page to the last line there can be, in a file whose name holds colons and digits. -/
def farPath : List PathStep :=
  [{ file := "shop.jsp", line := 12 }, { file := "C:/shop:8080/Cart.java", line := 4294967295 }]

def namelessPath : List PathStep := [{ file := "shop.jsp", line := 12 }, { file := "", line := 7 }]

/-- The far path splits at its last colon, the nameless one does not split, and each of them has
its own facade. -/
theorem farPath_splits_back :
    ofPath farPath = "C:/shop:8080/Cart.java:4294967295" ∧
    split? (ofPath farPath) = some ("C:/shop:8080/Cart.java", 4294967295) ∧
    split? (ofPath namelessPath) = none ∧
    ofPath farPath ≠ ofPath namelessPath := by
  have hfar : farPath ≠ [] := by decide
  have hnameless : namelessPath ≠ [] := by decide
  obtain ⟨hsplit, -, hsame⟩ := splitting_undoes_ofPath hfar (by decide)
  obtain ⟨hnone, -, -⟩ := splitting_undoes_ofPath hnameless (by decide)
  refine ⟨by decide +kernel, hsplit, hnone, ?_⟩
  intro heq
  obtain ⟨hfile, -⟩ := (hsame namelessPath hnameless).mp heq
  simp [farPath, namelessPath] at hfile

end Facade

/-- The file in which the path of a finding ends; an empty path ends nowhere. -/
def Finding.sinkFile (finding : Finding) : String :=
  match finding.path.getLast? with
  | some step => step.file
  | none => ""

/-- The facade of the finding is that of its path, whose lines are 32-bit numbers. -/
structure Finding.Regular (finding : Finding) : Prop where
  facade : finding.facade = Facade.ofPath finding.path
  lines : ∀ step ∈ finding.path, step.line ≤ Digits.maxWord32

/-- The facade of a finding that ends in some file splits. -/
theorem Finding.Regular.split {finding : Finding} (h : finding.Regular)
    (hsink : finding.sinkFile ≠ "") : ∃ place, Facade.split? finding.facade = some place := by
  rw [h.facade]
  unfold sinkFile at hsink
  unfold Facade.ofPath
  cases hlast : finding.path.getLast? with
  | none =>
    rw [hlast] at hsink
    exact absurd rfl hsink
  | some step =>
    rw [hlast] at hsink
    exact ⟨_, Facade.split?_render hsink (h.lines step (List.mem_of_getLast? hlast))⟩

/-- The facade of a finding that ends in no file does not split. -/
theorem Finding.Regular.split_none {finding : Finding} (h : finding.Regular)
    (hsink : finding.sinkFile = "") : Facade.split? finding.facade = none := by
  rw [h.facade]
  unfold sinkFile at hsink
  unfold Facade.ofPath
  cases hlast : finding.path.getLast? with
  | none => rfl
  | some step =>
    rw [hlast] at hsink
    dsimp only at hsink ⊢
    rw [hsink]
    exact Facade.split?_render_empty step.line

end ScanFlow
