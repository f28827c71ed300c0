import LootSpawn.Proofs.Text.LowerParts
import LootSpawn.Source.Reading

/-!
# Line endings

Lines may be written down with a line feed after each, with a carriage return before the line feed,
or with both endings mixed, and a byte-order mark may stand in front. None of this is part of a
line: the text is read exactly as its lines are, down to the number and the quoted text of a line
at fault.
-/

namespace LootSpawn

open Text

/-- What stands after a line. -/
inductive LineEnding where
  | feed
  | returnFeed
  deriving DecidableEq

def LineEnding.text : LineEnding → String
  | .feed => "\n"
  | .returnFeed => "\r\n"

/-- The text is made of the lines: each is followed by an ending of either kind, and the last one
may go without if it is not empty. -/
inductive WrittenLines : List String → String → Prop where
  | nil : WrittenLines [] ""
  | unended {line : String} (hne : line ≠ "") : WrittenLines [line] line
  | ended (line : String) (ending : LineEnding) {rest : List String} {text : String}
      (hrest : WrittenLines rest text) : WrittenLines (line :: rest) (line ++ ending.text ++ text)

/-- The line holds no ending, nor the beginning of one at its end. -/
def IsUnbroken (line : String) : Prop :=
  '\n' ∉ line.toList ∧ line.toList.getLast? ≠ some '\r'

theorem dropReturn_of_isUnbroken {line : String} (h : IsUnbroken line) :
    dropReturn line.toList = line.toList := by
  unfold dropReturn
  rw [if_neg h.2]

theorem dropReturn_append_return (line : List Char) : dropReturn (line ++ ['\r']) = line := by
  unfold dropReturn
  rw [List.getLast?_concat, if_pos rfl, List.dropLast_concat]

namespace WrittenLines

variable {written : List String} {text : String}

theorem lines_ended {line : String} (h : IsUnbroken line) (ending : LineEnding) (rest : List Char) :
    lines (line.toList ++ ending.text.toList ++ rest) = line.toList :: lines rest := by
  cases ending with
  | feed =>
      have hsplit : line.toList ++ LineEnding.feed.text.toList ++ rest =
          line.toList ++ '\n' :: rest := by
        simp [LineEnding.text]
      rw [hsplit, lines_append_cons h.1, dropReturn_of_isUnbroken h]
  | returnFeed =>
      have hsplit : line.toList ++ LineEnding.returnFeed.text.toList ++ rest =
          (line.toList ++ ['\r']) ++ '\n' :: rest := by
        simp [LineEnding.text]
      have hreturn : '\n' ∉ line.toList ++ ['\r'] := by
        simp [h.1]
      rw [hsplit, lines_append_cons hreturn, dropReturn_append_return]

/-- A text divides into the lines that it is made of. -/
theorem lines_eq (h : WrittenLines written text) (hunbroken : ∀ line ∈ written, IsUnbroken line) :
    lines text.toList = written.map String.toList := by
  induction h with
  | nil => rfl
  | @unended line hne =>
      have hline := hunbroken line List.mem_cons_self
      exact lines_of_notMem hline.1 (by simpa using hne)
  | @ended line ending rest text _ ih =>
      have hline := hunbroken line List.mem_cons_self
      rw [String.toList_append, String.toList_append, lines_ended hline,
        ih fun other hother => hunbroken other (List.mem_cons_of_mem line hother)]
      rfl

/-- A text starts with a mark only if its first line does. -/
theorem stops_mark (h : WrittenLines written text)
    (hmark : ∀ line ∈ written.head?, line.toList.head? ≠ some '\uFEFF') :
    Stops (· == '\uFEFF') text.toList := by
  have hline : ∀ line ∈ written.head?, Stops (· == '\uFEFF') line.toList := by
    intro line hfirst c hc
    rw [beq_eq_false_iff_ne]
    rintro rfl
    exact hmark line hfirst hc
  cases h with
  | nil => exact stops_nil
  | unended => exact hline _ rfl
  | ended line ending hrest =>
      cases hchars : line.toList with
      | nil =>
          rw [String.toList_append, String.toList_append, hchars]
          cases ending with
          | _ => exact stops_cons.mpr (by decide)
      | cons c cs =>
          have hfirst := hline line rfl
          rw [hchars] at hfirst
          rw [String.toList_append, String.toList_append, hchars]
          exact stops_cons.mpr (hfirst c rfl)

theorem linesOfText_eq (h : WrittenLines written text)
    (hunbroken : ∀ line ∈ written, IsUnbroken line)
    (hmark : ∀ line ∈ written.head?, line.toList.head? ≠ some '\uFEFF') :
    Source.linesOfText text = written ∧ Source.linesOfText ("\uFEFF" ++ text) = written := by
  have hlines : (lines text.toList).map String.ofList = written := by
    rw [h.lines_eq hunbroken, List.map_map]
    simp
  constructor
  · rw [Source.linesOfText, dropMark_of_stops (h.stops_mark hmark), hlines]
  · have hdrop : dropMark ("\uFEFF" ++ text).toList = text.toList := by
      rw [String.toList_append]
      rfl
    rw [Source.linesOfText, hdrop, hlines]

end WrittenLines

/-- Neither the endings of lines nor a byte-order mark matter. Lines without a line feed or a final
carriage return, the first of which does not start with a mark, are read in the same way from any
text that is made of them, with a mark in front or without: the result is the same source, or the
same fault of the same line with the same number and text. -/
theorem Source.reading_ignores_line_endings {written : List String} {text : String}
    (hwritten : WrittenLines written text) (hunbroken : ∀ line ∈ written, IsUnbroken line)
    (hmark : ∀ line ∈ written.head?, line.toList.head? ≠ some '\uFEFF') :
    ofText text = ofLines written ∧ ofText ("\uFEFF" ++ text) = ofLines written := by
  obtain ⟨hplain, hmarked⟩ := hwritten.linesOfText_eq hunbroken hmark
  rw [ofText, ofText, hplain, hmarked]
  exact ⟨rfl, rfl⟩

/-- Lines with a blank one and with a carriage return inside of the one at fault. -/
def quayLines : List String := ["Scene = Quay", "", "item = rope\rc = 5", "item = tea\rc = lots"]

/-- The lines with both endings, the last one without any. -/
def quayText : String := "Scene = Quay\r\n\r\nitem = rope\rc = 5\nitem = tea\rc = lots"

theorem Source.reading_ignores_line_endings_quay :
    WrittenLines quayLines quayText ∧
      ofText quayText = .error ⟨.invalidNumber "lots", 4, "item = tea\rc = lots"⟩ ∧
      ofText ("\uFEFF" ++ quayText) =
        .error ⟨.invalidNumber "lots", 4, "item = tea\rc = lots"⟩ := by
  have hwritten : WrittenLines quayLines quayText :=
    .ended "Scene = Quay" .returnFeed (.ended "" .returnFeed (.ended "item = rope\rc = 5" .feed
      (.unended (by decide))))
  have hunbroken : ∀ line ∈ quayLines, IsUnbroken line := by
    unfold IsUnbroken
    decide +kernel
  have hread : ofLines quayLines = .error ⟨.invalidNumber "lots", 4, "item = tea\rc = lots"⟩ := by
    decide +kernel
  obtain ⟨hplain, hmarked⟩ := reading_ignores_line_endings hwritten hunbroken (by decide +kernel)
  exact ⟨hwritten, hplain.trans hread, hmarked.trans hread⟩

end LootSpawn
