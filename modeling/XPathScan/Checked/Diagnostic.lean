import XPathScan.Checked.Basic
import XPathScan.Diagnostic.Basic
import XPathScan.Scanner.Basic

/-!
# Checked contexts and complaints

Trimming a zone of a context counts how many of its characters are left out,
and attaching a complaint to a place asks for the span of the place.  Both are
checked; the wording of complaints is not.
-/

namespace XPathScan

namespace Checked

open Context

/-- Keep the last characters of a zone. -/
def keepEnd (zone : Text) : Checked Text :=
  if zone.length ≤ zoneLength then
    pure zone
  else do
    let omitted ← subtract zone.length zoneLength
    pure (ellipsis ++ zone.drop omitted)

/-- Keep the same number of characters at both ends of a zone. -/
def keepEnds (zone : Text) : Checked Text :=
  if zone.length ≤ zoneLength then
    pure zone
  else do
    let half := zoneLength / 2
    let omitted ← subtract zone.length half
    pure (zone.take half ++ ellipsis ++ zone.drop omitted)

/-- Show the part of a text that a span covers, between its markers. -/
def renderCovered (source : Text) (covered : Span) : Checked Text :=
  if covered.isEmpty then
    pure []
  else do
    let shown ← keepEnds (zone source covered.start covered.stop)
    pure (openMark ++ shown ++ closeMark)

/-- Show where in a text a span lies, after clamping it to the text. -/
def renderContext (source : Text) (span : Span) : Checked Text :=
  if source = [] then
    pure []
  else do
    let covered := span.clampTo source.size
    let before ← keepEnd (zone source 0 covered.start)
    let middle ← renderCovered source covered
    let behind := keepFront (zone source covered.stop source.size)
    pure (before ++ middle ++ behind)

/-- The message of a diagnostic, with the context where there is one. -/
def report (diagnostic : Diagnostic) : Checked Text := do
  let context ← renderContext diagnostic.source diagnostic.span
  match context, diagnostic.message with
  | [], message => pure message
  | context, [] => pure context
  | context, message => pure (message ++ '\n' :: context)

/-- The wording of a scan error. -/
def describe : ScanError → Checked Text
  | .outOfRange offset size => pure (ScanError.outOfRange offset size).message
  | .malformed diagnostic => report diagnostic

end Checked

end XPathScan
