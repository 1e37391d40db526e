import Reindexing.Text.Blank
import Reindexing.Text.Search

/-!
# Trace links

A link names the trace and the span in which something happened, and where to
look at it. The address is rendered from a template with places for the trace
and for the span; a link that has an address keeps it.
-/
namespace Reindexing

structure TraceLink where
  traceId : String
  spanId : Option String
  url : Option String
  deriving DecidableEq, Repr

/-- The trace and span that are active. -/
structure SpanContext where
  traceId : String
  spanId : String
  deriving DecidableEq, Repr

structure TraceLinker where
  template : Option String
  deriving DecidableEq, Repr, Inhabited

namespace TraceLinker

/-- A linker with a template; a blank template counts as none. -/
def ofTemplate (template : Option String) : TraceLinker := ⟨template.filter fun t => !Text.isBlankText t⟩

def tracePlace : String := "\x7btrace_id\x7d"

def spanPlace : String := "\x7bspan_id\x7d"

/-- The address of a link: the places of the trace are filled first, then those of the span. -/
def render (template : String) (link : TraceLink) : String :=
  Text.replaceAll (Text.replaceAll template tracePlace link.traceId) spanPlace (link.spanId.getD "")

/-- Fills in the address of a link that has none. -/
def decorate (linker : TraceLinker) (link : TraceLink) : TraceLink :=
  match link.url, linker.template with
  | none, some template => { link with url := some (render template link) }
  | _, _ => link

/-- The link for a trace named by a caller, or else for the active span. -/
def link (linker : TraceLinker) (active : Option SpanContext) (explicit : Option String) : Option TraceLink :=
  match (explicit.map Text.trim).filter (· ≠ "") with
  | some traceId => some (linker.decorate ⟨traceId, active.map (·.spanId), none⟩)
  | none => active.map fun c => linker.decorate ⟨c.traceId, some c.spanId, none⟩

end TraceLinker

end Reindexing
