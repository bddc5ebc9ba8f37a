import XPathScan.Checked.Diagnostic
import XPathScan.Proofs.Checked.Cursor

/-!
# Checked contexts agree with contexts

Only zones that are long enough are trimmed, so no difference is ever below
zero, and every diagnostic can be shown, whatever its span is.
-/

namespace XPathScan

namespace Checked

theorem keepEnd_eq (zone : Text) :
    keepEnd zone = .ok (Context.keepEnd zone) := by
  unfold keepEnd Context.keepEnd
  split
  next => rfl
  next long =>
    rw [subtract_eq_ok (Nat.le_of_not_le long)]
    rfl

theorem keepEnds_eq (zone : Text) :
    keepEnds zone = .ok (Context.keepEnds zone) := by
  unfold keepEnds Context.keepEnds
  split
  next => rfl
  next long =>
    have order : Context.zoneLength / 2 ≤ zone.length :=
      Nat.le_trans (Nat.div_le_self _ _) (Nat.le_of_not_le long)
    simp only [subtract_eq_ok order, ok_bind]
    rfl

theorem renderCovered_eq (source : Text) (covered : Span) :
    renderCovered source covered =
      .ok
        (if covered.isEmpty then
          []
        else
          Context.openMark ++
              Context.keepEnds
                (Context.zone source covered.start covered.stop) ++
            Context.closeMark) := by
  unfold renderCovered
  split
  next => rfl
  next =>
    rw [keepEnds_eq]
    rfl

/-- An empty text has an empty context. -/
theorem renderContext_nil (span : Span) :
    XPathScan.renderContext [] span = [] := by
  have clamped : span.clampTo (Text.size []) = .zero := by
    simp [Span.clampTo, Span.zero]
  simp only [XPathScan.renderContext, clamped]
  rfl

theorem renderContext_eq (source : Text) (span : Span) :
    renderContext source span = .ok (XPathScan.renderContext source span) := by
  unfold renderContext
  split
  next empty =>
    subst empty
    rw [renderContext_nil]
    rfl
  next =>
    simp only [keepEnd_eq, renderCovered_eq, ok_bind]
    rfl

/-- Every diagnostic can be shown. -/
theorem report_eq (diagnostic : Diagnostic) :
    report diagnostic = .ok diagnostic.report := by
  unfold report Diagnostic.report Diagnostic.context
  rw [renderContext_eq, ok_bind]
  cases XPathScan.renderContext diagnostic.source diagnostic.span with
  | nil => rfl
  | cons first rest => cases diagnostic.message <;> rfl

/-- Every scan error can be worded. -/
theorem describe_eq (error : ScanError) :
    describe error = .ok error.message := by
  cases error with
  | outOfRange offset size => rfl
  | malformed diagnostic => exact report_eq diagnostic

end Checked

end XPathScan
