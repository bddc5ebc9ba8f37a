import XPathScan.Command.Scan
import XPathScan.Proofs.Scanner.LineEnds

/-!
# Expressions in files

An expression that stands in a file is the text of the file without the line
ends at its end.  There is one way to cut them off (`IsExpression.unique`).
The main statement, `readExpression_of_file`, says what is lost with them: the
expression and the whole file have the same tokens and the same faults, and
only an offset in the line ends is no place to start any more.
-/

namespace XPathScan

namespace Command

open Text (IsLineEnds)

/-- A content is an expression with some line ends behind it. -/
structure IsExpression (content expression tail : Text) : Prop where
  whole : content = expression ++ tail
  ends : IsLineEnds tail
  /-- No line end is left at the end of the expression. -/
  last :
    ∀ character ∈ expression.getLast?, character ≠ '\r' ∧ character ≠ '\n'

theorem isLineEnd_iff {character : Char} :
    isLineEnd character = true ↔ character = '\r' ∨ character = '\n' := by
  simp [isLineEnd]

theorem IsExpression.dropLineEnds_eq {content expression tail : Text}
    (cut : IsExpression content expression tail) :
    dropLineEnds content = expression := by
  have skipped :
      ∀ character ∈ tail.reverse, isLineEnd character = true := by
    intro character member
    exact isLineEnd_iff.2 (cut.ends character (List.mem_reverse.1 member))
  have stops :
      ∀ first ∈ expression.reverse.head?, isLineEnd first = false := by
    intro first member
    rw [List.head?_reverse] at member
    rw [← Bool.not_eq_true, isLineEnd_iff, not_or]
    exact cut.last first member
  rw [dropLineEnds, cut.whole, List.reverse_append,
    Text.dropWhile_append_of_head? skipped stops, List.reverse_reverse]

theorem isExpression_dropLineEnds (content : Text) :
    IsExpression content (dropLineEnds content)
      (content.reverse.takeWhile isLineEnd).reverse where
  whole := by
    rw [dropLineEnds, ← List.reverse_append,
      List.takeWhile_append_dropWhile, List.reverse_reverse]
  ends := by
    intro character member
    rw [List.mem_reverse] at member
    exact isLineEnd_iff.1 (List.mem_takeWhile_imp member)
  last := by
    intro character member
    rw [dropLineEnds, List.getLast?_reverse] at member
    have stops := Text.head?_dropWhile_eq_false _ _ character member
    rwa [← Bool.not_eq_true, isLineEnd_iff, not_or] at stops

/-- The line ends are cut off in one way only. -/
theorem IsExpression.unique {content expression tail expression' tail' : Text}
    (cut : IsExpression content expression tail)
    (cut' : IsExpression content expression' tail') :
    expression' = expression ∧ tail' = tail := by
  have same : expression' = expression :=
    cut'.dropLineEnds_eq.symm.trans cut.dropLineEnds_eq
  subst same
  exact ⟨rfl, List.append_cancel_left (cut'.whole.symm.trans cut.whole)⟩

theorem text_file (content : String) :
    (Entry.file content.toByteArray).text = .ok content.toList := by
  have decoded :
      String.fromUTF8? content.toByteArray = some content := by
    rw [String.fromUTF8?, dif_pos content.isValidUTF8]
    rfl
  rw [Entry.text, decoded]

/--
The expression in a file is the one text that its content is with line ends
behind it.  A scan that starts inside the expression goes the same way through
the whole content; one that starts behind the expression is refused, and finds
nothing but the end of the content.
-/
theorem readExpression_of_file (files : Files) (path : Text)
    (content : String)
    (entry : files path = .file content.toByteArray) :
    ∃ expression tail,
      IsExpression content.toList expression tail ∧
        (∀ expression' tail',
          IsExpression content.toList expression' tail' →
            expression' = expression ∧ tail' = tail) ∧
        readExpression files none (some path) = .ok expression ∧
        (∀ start, Text.IsBoundary expression start →
          start < Text.size expression →
            ScannedAlike expression content.toList start) ∧
        ∀ start, Text.size expression ≤ start →
          Stream.start? expression start =
              .error (.outOfRange start (Text.size expression)) ∧
            (start < Text.size content.toList →
              ∃ stream,
                Stream.start? content.toList start = .ok stream ∧
                  stream.items =
                    [.ok (.atEnd (Text.size content.toList))]) := by
  have cut := isExpression_dropLineEnds content.toList
  refine ⟨_, _, cut, fun _ _ => cut.unique, ?_, ?_, ?_⟩
  · rw [readExpression, entry, text_file]
  · intro start boundary inside
    have alike := Stream.scannedAlike_append cut.ends boundary inside
    rwa [← cut.whole] at alike
  · intro start behind
    refine ⟨Stream.start?_of_failure ?_, ?_⟩
    · exact (Scanner.start?_eq_outOfRange_iff _ start).2 (Or.inl behind)
    · intro inside
      have found := @Stream.items_of_lineEnds
        (dropLineEnds content.toList) _ start cut.ends behind
      rw [← cut.whole] at found
      exact found inside

/-- An open string in front of two line ends, started before and behind it. -/
theorem readExpression_of_file_unclosed :
    (fun _ => Entry.file
        (String.ofList ['a', '\'', 'é', '\r', '\n']).toByteArray : Files)
          ['f'] =
        .file (String.ofList ['a', '\'', 'é', '\r', '\n']).toByteArray ∧
      readExpression
          (fun _ => Entry.file
            (String.ofList ['a', '\'', 'é', '\r', '\n']).toByteArray)
          none (some ['f']) =
        .ok ['a', '\'', 'é'] ∧
      ScannedAlike ['a', '\'', 'é'] ['a', '\'', 'é', '\r', '\n'] 0 ∧
      Stream.start? ['a', '\'', 'é'] 5 = .error (.outOfRange 5 4) ∧
      ∃ stream,
        Stream.start? ['a', '\'', 'é', '\r', '\n'] 5 = .ok stream ∧
          stream.items = [.ok (.atEnd 6)] := by
  refine ⟨rfl, ?_⟩
  rcases readExpression_of_file
      (fun _ => Entry.file
        (String.ofList ['a', '\'', 'é', '\r', '\n']).toByteArray)
      ['f'] _ rfl with
    ⟨expression, tail, -, unique, read, alike, behind⟩
  rw [String.toList_ofList] at unique alike behind
  have cut :
      IsExpression ['a', '\'', 'é', '\r', '\n'] ['a', '\'', 'é']
        ['\r', '\n'] :=
    ⟨rfl, by simp [IsLineEnds], by simp⟩
  rcases unique _ _ cut with ⟨rfl, rfl⟩
  have inside : (0 : Nat) < Text.size ['a', '\'', 'é'] := by decide
  rcases behind 5 (by decide) with ⟨refused, ended⟩
  exact ⟨read, alike 0 (Text.isBoundary_zero _) inside, refused,
    ended (by decide)⟩

end Command

end XPathScan
