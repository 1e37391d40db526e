import Reindexing.Config
import Reindexing.Http.Target
import Reindexing.Log.Directive

/-!
# Log filters and log output

A filter is a list of directives. Those without spans and fields decide by the
most specific target; those with a span let everything inside it through from
their level on. A span is shown around an event only if the filter lets the span
itself through. The settings send log events through a filter, and onto lines of
JSON or of text, which hold everything about an event except the time. They are
refused when the filter is malformed or the address for traces is none.
-/
namespace Reindexing

/-! ### Filters -/

structure LogFilter where
  directives : List Directive
  deriving DecidableEq, Repr

namespace LogFilter

/-- Reads directives between commas; all of them must be well-formed. -/
def ofText? (s : String) : Option LogFilter :=
  (((Text.splitAt (· == ',') s.toList).map String.ofList).filter (· ≠ "")).mapM Directive.ofText? |>.map .mk

/-- The directives that look at spans. -/
def spanDirectives (f : LogFilter) : List Directive :=
  f.directives.filter fun d => d.span.isSome || !d.fields.isEmpty

/-- The directives that do not need a span. Without any directive, errors pass. -/
def plainDirectives (f : LogFilter) : List Directive :=
  if f.directives.isEmpty then [⟨none, none, [], some .error⟩]
  else f.directives.filter (fun d => d.span.isNone && d.fields.isEmpty) ++
    f.directives.filter fun d => d.span.isNone && !d.fields.isEmpty && d.fields.all (·.2.isNone)

def matchesTarget (d : Directive) (target : String) : Bool :=
  d.target.all fun t => t.toList.isPrefixOf target.toList

/-- How specific a directive is: the length of its target, then the number of its fields. -/
def specificity (d : Directive) : Nat × Nat :=
  ((d.target.map fun t => t.utf8ByteSize + 1).getD 0, d.fields.length)

def fieldNames (d : Directive) : List String := d.fields.map (·.1)

/-- Of directives with as many fields, those whose names come later count as more specific. -/
def lessSpecific (a b : Directive) : Bool :=
  let (x, m) := specificity a
  let (y, n) := specificity b
  x < y || (x == y && (m < n || (m == n && decide (fieldNames a < fieldNames b))))

/-- The most specific of some directives, and of equally specific ones the last. -/
def mostSpecific? (ds : List Directive) : Option Directive :=
  ds.foldl (fun best d => match best with
    | some b => if lessSpecific d b then best else some d
    | none => some d) none

/-- What passes at a target by the directives that do not need a span; `fields` are those of an event. -/
def plainThreshold (f : LogFilter) (target : String) (fields : Option (List String)) : Threshold :=
  let applies (d : Directive) : Bool :=
    matchesTarget d target && fields.all fun names => d.fields.all fun field => names.contains field.1
  ((mostSpecific? (f.plainDirectives.filter applies)).map (·.level)).getD none

/-- The directives about a span. -/
def directivesFor (f : LogFilter) (span : LogSpan) : List Directive :=
  f.spanDirectives.filter fun d => matchesTarget d span.target && d.span.all (· = span.name) &&
    d.fields.all fun field => span.fields.any (·.1 = field.1)

/-- What passes inside a span. -/
def insideThreshold (f : LogFilter) (span : LogSpan) : Threshold :=
  let holds (d : Directive) : Bool := d.fields.all fun (name, pattern) =>
    pattern.all fun p => span.fields.any fun (n, value) => n = name && p.matchesValue value
  Threshold.widest (((f.directivesFor span).filter holds).map (·.level))

/-- What may pass anywhere. A directive with a value needs to see every span. -/
def reach (f : LogFilter) : Threshold :=
  if f.spanDirectives.any fun d => d.fields.any (·.2.isSome) then some .trace
  else Threshold.widest ((f.plainDirectives ++ f.spanDirectives).map (·.level))

def allowsInside (f : LogFilter) (around : Option LogSpan) (level : LogLevel) : Bool :=
  around.any fun span => (f.insideThreshold span).allows level

/-- Whether a span inside another one is let through. -/
def allowsSpan (f : LogFilter) (around : Option LogSpan) (span : LogSpan) : Bool :=
  f.reach.allows span.level && (!(f.directivesFor span).isEmpty || f.allowsInside around span.level ||
    (f.plainThreshold span.target none).allows span.level)

/-- Marks those of nested spans that are let through. -/
def markSpans (f : LogFilter) (around : Option LogSpan) : List LogSpan → List (LogSpan × Bool)
  | [] => []
  | span :: rest =>
    if f.allowsSpan around span then (span, true) :: f.markSpans (some span) rest
    else (span, false) :: f.markSpans around rest

/-- The spans that are shown around an event: none unless the innermost is let through. -/
def shownSpans (f : LogFilter) (spans : List LogSpan) : List LogSpan :=
  let marked := f.markSpans none spans
  if (marked.getLast?.map (·.2)).getD false then (marked.filter (·.2)).map (·.1) else []

/-- An event as it is shown, if it is let through. -/
def show? (f : LogFilter) (e : LogEvent) : Option LogEvent :=
  let spans := f.shownSpans e.spans
  let names := "message" :: e.fields.map (·.1)
  if f.reach.allows e.level && (f.allowsInside spans.getLast? e.level ||
      (f.plainThreshold e.target (some names)).allows e.level) then some { e with spans }
  else none

end LogFilter

/-! ### Output -/

structure LogOutput where
  filter : LogFilter
  isJson : Bool
  deriving DecidableEq, Repr

namespace LogOutput

/-- Sets up the output. A filter of its own wins over the configured level if it is well-formed. -/
def ofSettings? (filter : Option String) (s : ObservabilitySettings) : Option LogOutput :=
  match filter.bind LogFilter.ofText? <|> LogFilter.ofText? s.logLevel with
  | none => none
  | some filter =>
    if s.otlpEndpoint.all fun address => (Http.Target.ofText? address).isSome then some ⟨filter, s.jsonLogging⟩
    else none

def spanJson (span : LogSpan) : Json :=
  .record (span.fields.map (fun (name, value) => (name, value.toJson)) ++ [("name", .text span.name)])

/-- The line of an event as JSON. -/
def lineJson (e : LogEvent) : Json :=
  let spans := match e.spans.getLast? with
    | some inner => [("span", spanJson inner), ("spans", .list (e.spans.map spanJson))]
    | none => []
  .record ([("level", .text e.level.name), ("fields", e.fieldsToJson), ("target", .text e.target)] ++ spans)

def valuesText (values : List (String × LogValue)) : List String :=
  values.map fun (name, value) => name ++ "=" ++ value.toText

def spanText (span : LogSpan) : String :=
  if span.fields.isEmpty then span.name ++ ":"
  else span.name ++ "\x7b" ++ Text.join " " (valuesText span.fields) ++ "\x7d:"

/-- The line of an event as text. -/
def lineText (e : LogEvent) : String :=
  let level := String.ofList (List.replicate (5 - e.level.name.length) ' ') ++ e.level.name
  let spans := if e.spans.isEmpty then [] else [String.join (e.spans.map spanText)]
  Text.join " " (level :: spans ++ (e.target ++ ":") :: e.message :: valuesText e.fields)

def line (o : LogOutput) (e : LogEvent) : Json := if o.isJson then lineJson e else .text (lineText e)

/-- The lines of the events that are let through. -/
def lines (o : LogOutput) (events : List LogEvent) : List Json := (events.filterMap o.filter.show?).map o.line

end LogOutput

end Reindexing
