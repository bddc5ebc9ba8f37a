import XPathScan.Proofs.Diagnostic.Context
import XPathScan.Proofs.Scanner.Interleaving
import XPathScan.Proofs.Scanner.Tiling

/-!
# Complaints about lexemes

Whoever parses an expression takes the place of a lexeme from the scanner and
may complain about it later, when the scanner has moved on.  `Exact` says what
becomes of such a complaint: it is about the very span of the lexeme, and its
context shows the lexeme between two markers and the text around it, as much of
each as there is room for.  No end of a span is ever inside a character, so no
part of a context is ever missing (`exact_of_kept`).
-/

namespace XPathScan

namespace Scanner

open Context (ShowsEnd ShowsEnds ShowsFront)

/--
A place that has been taken from a stream, while the stream is stepped and asked
for items.
-/
inductive Kept (source : Text) (offset : Nat) (taken : Stream) :
    Stream → Anchor → Prop
  | take (reached : Stream.Reached source offset taken) :
      Kept source offset taken taken taken.scanner.anchor
  | advance {later : Stream} {anchor : Anchor}
      (kept : Kept source offset taken later anchor) :
      Kept source offset taken later.advance.2 anchor
  | next {later : Stream} {anchor : Anchor}
      (kept : Kept source offset taken later anchor) :
      Kept source offset taken later.next.2 anchor

/-- A complaint is about the lexeme on which a scanner stands. -/
structure Exact
    (source : Text) (scanner : Scanner) (diagnostic : Diagnostic) : Prop where
  source_eq : diagnostic.source = source
  span_eq : diagnostic.span = scanner.span
  /-- Clamping does not change the span. -/
  unclamped : scanner.span.clampTo (Text.size source) = scanner.span
  context :
    ∃ before behind left right,
      source.slice? 0 diagnostic.span.start = some before ∧
        source.slice? diagnostic.span.stop (Text.size source) =
          some behind ∧
        ShowsEnd before left ∧ ShowsFront behind right ∧
        (scanner.kind = .eof → diagnostic.context = left ++ right) ∧
        (scanner.kind ≠ .eof →
          ∃ middle,
            diagnostic.span.slice? source = some scanner.spelling ∧
              ShowsEnds scanner.spelling middle ∧
              diagnostic.context =
                left ++ (" -->".toList ++ middle ++ "<-- ".toList) ++ right)

namespace Placed

variable {source front gap : Text} {offset : Nat} {scanner : Scanner}

theorem span_eq (placed : Placed source offset scanner front gap) :
    scanner.span =
      ⟨Text.size (front ++ gap),
        Text.size (front ++ gap) + Text.size scanner.current.text⟩ := by
  rw [placed.size_front_append_gap]
  rfl

/-- The text before the lexeme ends where its span begins. -/
theorem slice?_before
    (placed : Placed source offset scanner front gap) :
    source.slice? 0 scanner.span.start = some (front ++ gap) := by
  rw [Text.slice?_eq_some_iff]
  refine
    ⟨[], scanner.current.text ++ scanner.unread, placed.whole_at_start,
      rfl, ?_⟩
  rw [Nat.zero_add]
  exact placed.size_front_append_gap

/-- The text behind the lexeme begins where its span ends. -/
theorem slice?_behind
    (placed : Placed source offset scanner front gap) :
    source.slice? scanner.span.stop (Text.size source) =
      some scanner.unread := by
  rw [Text.slice?_eq_some_iff]
  refine
    ⟨front ++ (gap ++ scanner.current.text), [], ?_, placed.stop_eq.symm, ?_⟩
  · rw [List.append_nil]
    exact placed.whole_at_stop
  · have total := congrArg Text.size placed.whole_at_stop
    rw [Text.size_append, ← placed.stop_eq] at total
    exact total.symm

/-- Every complaint about the current lexeme is exact. -/
theorem exact_complain
    (placed : Placed source offset scanner front gap)
    (complaint : Complaint) :
    Exact source scanner (scanner.anchor.complain complaint) := by
  have context := renderContext_of_split placed.whole_at_start
  rw [← placed.span_eq] at context
  rw [placed.complain_eq]
  refine
    { source_eq := rfl
      span_eq := rfl
      unclamped := placed.clampTo_span
      context :=
        ⟨_, _, _, _, placed.slice?_before, placed.slice?_behind,
          Context.showsEnd_keepEnd _, Context.showsFront_keepFront _,
          ?_, ?_⟩ }
  · intro ended
    rw [Diagnostic.context, context, if_pos (placed.text_eq_nil_iff.2 ended),
      List.append_nil]
  · intro inside
    have filled : scanner.current.text ≠ [] := by
      rw [ne_eq, placed.text_eq_nil_iff]
      exact inside
    have covered := placed.lexeme?_eq
    rw [lexeme?, placed.source_eq] at covered
    rw [spelling, if_neg inside]
    refine ⟨_, covered, Context.showsEnds_keepEnds _, ?_⟩
    rw [Diagnostic.context, context, if_neg filled]
    rfl

end Placed

section

variable {source : Text} {offset : Nat} {taken later : Stream}
  {anchor : Anchor}

theorem Kept.reached (kept : Kept source offset taken later anchor) :
    Stream.Reached source offset taken := by
  induction kept with
  | take reached => exact reached
  | advance kept induction => exact induction
  | next kept induction => exact induction

/-- Moving on does not change a place that has been taken. -/
theorem Kept.anchor_eq (kept : Kept source offset taken later anchor) :
    anchor = taken.scanner.anchor := by
  induction kept with
  | take reached => rfl
  | advance kept induction => exact induction
  | next kept induction => exact induction

/--
Every complaint about a place that was taken anywhere is about the lexeme there,
wherever the scanner has gone since.
-/
theorem exact_of_kept (kept : Kept source offset taken later anchor)
    (complaint : Complaint) :
    Exact source taken.scanner (anchor.complain complaint) := by
  rcases kept.reached.exists_placed with ⟨front, gap, placed⟩
  rw [kept.anchor_eq]
  exact placed.exact_complain complaint

end

/--
A complaint about an open string of wide characters, when the scanner has come to
the end.
-/
theorem exact_of_kept_open_string :
    ∃ taken later anchor,
      Kept
          (List.replicate 34 'a' ++ '=' :: '\'' :: List.replicate 32 'é')
          0 taken later anchor ∧
        taken.scanner.kind = .unknown ∧ later.scanner.kind = .eof ∧
        Exact
          (List.replicate 34 'a' ++ '=' :: '\'' :: List.replicate 32 'é')
          taken.scanner (anchor.complain .unclosedString) ∧
        (anchor.complain .unclosedString).context =
          "...".toList ++ List.replicate 31 'a' ++ "= -->'".toList ++
            List.replicate 15 'é' ++ "...".toList ++
            List.replicate 16 'é' ++ "<-- ".toList := by
  have started :
      Stream.start?
          (List.replicate 34 'a' ++ '=' :: '\'' :: List.replicate 32 'é')
          0 =
        .ok _ := rfl
  have reached := (Stream.Reached.start started).next.next
  have kept := (Kept.take reached).next.advance
  exact
    ⟨_, _, _, kept, rfl, rfl, exact_of_kept kept .unclosedString, rfl⟩

end Scanner

end XPathScan
