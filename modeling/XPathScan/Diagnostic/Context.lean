import XPathScan.Span

/-!
# Contexts of diagnostics

A context shows where in a text a span lies, in a bounded number of
characters.  The text before the span keeps its end, the text behind it keeps
its front, and a covered part stands between two markers and keeps both its
ends.  A zone that begins or ends inside a character is left empty.
-/

namespace XPathScan

namespace Context

/-- The most characters that a zone shows without being trimmed. -/
def zoneLength : Nat := 32

/-- What stands in the place of trimmed characters. -/
def ellipsis : Text := ['.', '.', '.']

/-- Keep the last characters of a zone. -/
def keepEnd (zone : Text) : Text :=
  if zone.length ≤ zoneLength then
    zone
  else
    ellipsis ++ zone.drop (zone.length - zoneLength)

/-- Keep the first characters of a zone. -/
def keepFront (zone : Text) : Text :=
  if zone.length ≤ zoneLength then
    zone
  else
    zone.take zoneLength ++ ellipsis

/-- Keep the same number of characters at both ends of a zone. -/
def keepEnds (zone : Text) : Text :=
  if zone.length ≤ zoneLength then
    zone
  else
    zone.take (zoneLength / 2) ++ ellipsis ++
      zone.drop (zone.length - zoneLength / 2)

/-- The marker in front of the covered part. -/
def openMark : Text := " -->".toList

/-- The marker behind the covered part. -/
def closeMark : Text := "<-- ".toList

/-- The part of a text between two offsets; empty where there is none. -/
def zone (source : Text) (start stop : Nat) : Text :=
  (source.slice? start stop).getD []

end Context

open Context in
/-- Show where in a text a span lies, after clamping it to the text. -/
def renderContext (source : Text) (span : Span) : Text :=
  let covered := span.clampTo source.size
  let before := zone source 0 covered.start
  let behind := zone source covered.stop source.size
  let middle :=
    if covered.isEmpty then
      []
    else
      openMark ++ keepEnds (zone source covered.start covered.stop) ++
        closeMark
  keepEnd before ++ middle ++ keepFront behind

end XPathScan
