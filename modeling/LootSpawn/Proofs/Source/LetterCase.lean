import LootSpawn.Proofs.Source.Governing
import LootSpawn.Proofs.Text.LowerParts

/-!
# Reading ignores letter case

A line is read in lower case, and it may be put in lower case before or after its blanks are
trimmed. Two lines that are equal in lower case therefore say the same, and two sources of such
lines give the same records, or fail at the same line for the same reason. Only the text that an
error quotes keeps its own letters.
-/

namespace LootSpawn

open Text

namespace Line

theorem normalize_eq (raw : String) : normalize raw = trim (lowerString raw).toList := by
  rw [normalize, lowerString, String.toList_ofList, trim_lower]

/-- Lines that are equal in lower case are read alike. -/
theorem read_congr {first second : String} (h : lowerString first = lowerString second) :
    read first = read second := by
  rw [read, read, readTrying, readTrying, normalize_eq, normalize_eq, h]

end Line

theorem Context.readLine_congr {first second : String} (h : lowerString first = lowerString second)
    (context : Context) : context.readLine first = context.readLine second := by
  rw [readLine, readLine, Line.read_congr h]

/-- The errors agree in the fault and the number of the line, and the lines that they quote are
equal in lower case. -/
structure ReadError.SameUpToCase (first second : ReadError) : Prop where
  fault : first.fault = second.fault
  lineNumber : first.lineNumber = second.lineNumber
  line : lowerString first.line = lowerString second.line

/-- Two sources are both accepted and are the same, or both are rejected for the same fault of the
same line. -/
inductive ReadAlike : Except ReadError Source → Except ReadError Source → Prop where
  | accepted (source : Source) : ReadAlike (.ok source) (.ok source)
  | rejected {first second : ReadError} (h : first.SameUpToCase second) :
      ReadAlike (.error first) (.error second)

/-- Line by line, the two lists are equal in lower case. -/
abbrev SameLines : List String → List String → Prop :=
  List.Forall₂ fun first second => lowerString first = lowerString second

namespace Reading

theorem readFrom_congr {first second : List String} (h : SameLines first second)
    (context : Context) (lineNumber : Nat) :
    (readFrom context lineNumber first).records = (readFrom context lineNumber second).records ∧
      Option.Rel ReadError.SameUpToCase (readFrom context lineNumber first).failure
        (readFrom context lineNumber second).failure := by
  induction h generalizing context lineNumber with
  | nil => exact ⟨rfl, .none⟩
  | @cons raw other first second hline _ ih =>
      rw [readFrom, readFrom, context.readLine_congr hline]
      split
      next fault _ => exact ⟨rfl, .some ⟨rfl, rfl, hline⟩⟩
      next => exact ih context (lineNumber + 1)
      next record _ =>
        obtain ⟨hrecords, hfailure⟩ := ih (context.after record) (lineNumber + 1)
        exact ⟨congrArg (List.cons _) hrecords, hfailure⟩

theorem readAlike_result {first second : Reading} (hrecords : first.records = second.records)
    (hfailure : Option.Rel ReadError.SameUpToCase first.failure second.failure) :
    ReadAlike first.result second.result := by
  obtain ⟨records, failure⟩ := first
  obtain ⟨records', failure'⟩ := second
  obtain rfl : records = records' := hrecords
  cases hfailure with
  | none => exact .accepted ⟨records⟩
  | some h => exact .rejected h

end Reading

namespace Source

theorem readAlike_ofLines {first second : List String} (h : SameLines first second) :
    ReadAlike (ofLines first) (ofLines second) := by
  obtain ⟨hrecords, hfailure⟩ := Reading.readFrom_congr h {} 1
  exact Reading.readAlike_result hrecords hfailure

/-- A text may be put in lower case before it is divided into lines. -/
theorem linesOfText_lowerString (text : String) :
    linesOfText (lowerString text) = (linesOfText text).map lowerString := by
  rw [linesOfText, linesOfText, lowerString, String.toList_ofList, dropMark_lower, lines_lower,
    List.map_map, List.map_map]
  apply List.map_congr_left
  intro line _
  simp [lowerString]

theorem sameLines_map_lowerString (lines : List String) :
    SameLines lines (lines.map lowerString) := by
  induction lines with
  | nil => exact .nil
  | cons line lines ih => exact .cons (lowerString_lowerString line).symm ih

/-- Sources whose lines are equal in lower case are read alike, whatever their lines say. So are a
source and the same source in lower case, given by its lines or as one text. -/
theorem reading_ignores_case :
    (∀ first second : List String, SameLines first second →
      ReadAlike (ofLines first) (ofLines second)) ∧
    (∀ lines : List String, ReadAlike (ofLines lines) (ofLines (lines.map lowerString))) ∧
    ∀ text : String, ReadAlike (ofText text) (ofText (lowerString text)) := by
  refine ⟨fun first second => readAlike_ofLines, fun lines => ?_, fun text => ?_⟩
  · exact readAlike_ofLines (sameLines_map_lowerString lines)
  · rw [ofText, ofText, linesOfText_lowerString]
    exact readAlike_ofLines (sameLines_map_lowerString _)

/-- A scene whose name ends in a capital sigma before blanks, a tag with a dotted capital, and a
number with a kelvin sign. -/
def streetLines : List String :=
  ["SCENE = ΟΔΟΣ\u3000 ", "Tag = İZMİR", "Item = Rope\tC = 1\u212A"]

/-- The same lines in other letters. -/
def streetLinesRespelled : List String :=
  ["scene = οδοΣ\u3000 ", "TAG = İzmi̇r", "iTEM = rope\tc = 1k"]

theorem reading_ignores_case_street :
    SameLines streetLines streetLinesRespelled ∧ streetLines ≠ streetLinesRespelled ∧
      ofLines streetLines = .error ⟨.invalidNumber "1k", 3, "Item = Rope\tC = 1\u212A"⟩ ∧
      ∃ line, ofLines streetLinesRespelled = .error ⟨.invalidNumber "1k", 3, line⟩ := by
  have hsame : SameLines streetLines streetLinesRespelled :=
    .cons (by decide +kernel) (.cons (by decide +kernel) (.cons (by decide +kernel) .nil))
  have hread : ofLines streetLines =
      .error ⟨.invalidNumber "1k", 3, "Item = Rope\tC = 1\u212A"⟩ := by
    decide +kernel
  refine ⟨hsame, by decide +kernel, hread, ?_⟩
  have halike := reading_ignores_case.1 streetLines streetLinesRespelled hsame
  rw [hread] at halike
  generalize ofLines streetLinesRespelled = result at halike ⊢
  cases halike with
  | @rejected _ second h =>
      obtain ⟨fault, number, line⟩ := second
      obtain ⟨rfl, rfl, -⟩ := h
      exact ⟨line, rfl⟩

end Source

end LootSpawn
