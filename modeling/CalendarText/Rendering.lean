import CalendarText.Directive
import CalendarText.Template
import CalendarText.Value

/-! Rendering a template. The pieces are rendered from left to right and joined. A preferred directive
is replaced by the rendering of its own template, padded as a whole; while that goes on the same
directive may not come up again, so at most three templates are open at a time. -/

namespace CalendarText

/-- The pieces of a rendering as one text; anything else among them is found out here. -/
def joinTexts : List Datum → Outcome Text
  | [] => .ok []
  | .text t :: rest => do return t ++ (← joinTexts rest)
  | _ :: _ => .error .wrongKind

/-- One section, given what the preferred directives expand to. -/
def renderSection (f : Fields) (o : Options) (expand : Preferred → Outcome Text) (position : Nat)
    (s : Section) : Outcome Datum :=
  match s.directive.bind Directive.ofLetter? with
  | none =>
    if o.passesUnknown then .ok (.text s.text)
    else .error (.malformed (if s.directive.isNone then .unfinished else .unknown) s.text position)
  | some d =>
    let m := s.resolve d.defaultFill d.defaultWidth
    match d with
    | .preferred p => do return .text (padLeading (← expand p) m.width m.fill)
    | d => d.format f o m

/-- The pieces from a position of the template on. -/
def renderPieces (f : Fields) (o : Options) (expand : Preferred → Outcome Text) :
    Nat → List Piece → Outcome (List Datum)
  | _, [] => .ok []
  | position, .literal c :: rest => do
    return .text [c] :: (← renderPieces f o expand (position + 1) rest)
  | position, .directive s :: rest => do
    let d ← renderSection f o expand position s
    return d :: (← renderPieces f o expand (position + s.text.length) rest)

/-- Renders a template in which only the given preferred directives may still be expanded. -/
def renderWithin (f : Fields) (o : Options) (free : List Preferred) (template : Text) :
    Outcome Text := do
  let expand (p : Preferred) : Outcome Text :=
    if p ∈ free then renderWithin f o (free.erase p) (o.template p) else .error (.cyclic p)
  joinTexts (← renderPieces f o expand 0 (Template.read template))
termination_by free.length
decreasing_by
  rename_i h
  have := List.length_pos_of_mem h
  rw [List.length_erase_of_mem h]
  omega

def renderFields (f : Fields) (o : Options) (template : Text) : Outcome Text :=
  renderWithin f o Preferred.all template

/-- The template is looked at before the value. -/
def render (template : Datum) (v : Value) (o : Options) : Outcome Text :=
  match template with
  | .text t => do renderFields (← Fields.ofValue v) o t
  | d => .error (.templateNotText d.kind)

/-- The options of one call: those given, or the default ones, under changes by keyword. -/
def callOptions (options : Option Options) (changes : Keywords) : Outcome Options :=
  match options with
  | none => Options.ofKeywords changes
  | some o => o.replaceKeywords changes

def format (v : Value) (template : Datum) (options : Option Options) (changes : Keywords) :
    Outcome Text := do
  render template v (← callOptions options changes)

/-- Formatting as an operation of the value itself, which only dates, times and datetimes have.
That of civil values is another one and takes the template alone. -/
def Value.format (v : Value) (template : Datum) (options : Option Options) (changes : Keywords) :
    Outcome Text :=
  match v with
  | .date _ | .time _ | .datetime _ => CalendarText.format v template options changes
  | .civil _ => .error .wrongKind
  | _ => .error .noAttribute

def Value.plain? : Value → Option (Outcome Text)
  | .date d => some (render (.text Options.defaultDate) (.date d) Options.default)
  | .time t => some (render (.text Options.defaultTime) (.time t) Options.default)
  | .datetime x => some (render (.text Options.defaultDateTime) (.datetime x) Options.default)
  | .zone z => some (.ok z.expression)
  | _ => none

def Value.expression? : Value → Option Text
  | .date d => some d.expression
  | .time t => some t.expression
  | .datetime x => some x.expression
  | .zone z => some z.expression
  | _ => none

end CalendarText
