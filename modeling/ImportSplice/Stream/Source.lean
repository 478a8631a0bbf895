import ImportSplice.Source.Lines
import ImportSplice.Fault

/-!
A source of bytes as its reader meets it: a number of reads, the last of which
also reports the end.  The end may come with data or by itself.
-/

namespace ImportSplice

inductive Ending where
  | finished
  | failed (cause : Fault)
  deriving DecidableEq, Repr

structure Source where
  /-- The reads that do not report the end. -/
  reads : List Bytes
  /-- What comes with the end. -/
  final : Bytes
  ending : Ending

namespace Source

def bytes (source : Source) : Bytes := source.reads.flatten ++ source.final

/-- The lines of a source, cut while its reads arrive. -/
def lines (source : Source) : List Bytes :=
  ((source.reads.foldl Cutter.feed {}).feed source.final).lines

private theorem feed_reads (cutter : Cutter) (reads : List Bytes) :
    reads.foldl Cutter.feed cutter = cutter.feed reads.flatten := by
  induction reads generalizing cutter with
  | nil => rfl
  | cons read rest inductionHypothesis =>
      rw [List.foldl_cons, inductionHypothesis, List.flatten_cons, Cutter.feed_append]

/-- How the bytes are spread over the reads does not change the lines. -/
theorem lines_eq (source : Source) : source.lines = ImportSplice.lines source.bytes := by
  rw [Source.lines, feed_reads, ← Cutter.feed_append, Cutter.lines_feed _ _ (by simp)]
  rfl

end Source

end ImportSplice
