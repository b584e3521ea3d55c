import Metrology.Cell.Reading

/-!
# Display

The text that a cell is shown with. Numbers and the values of quantities are written with the
precision of the setting. A quantity without label, unless it is of dimension one, is shown in
its normal form.
-/

namespace Metrology.Cell

mutual

/-- The text that a cell is shown with. -/
def render (s : Setting) : Cell → Except Failure String
  | error e => .ok e.message
  | truth b => .ok (if b then "true" else "false")
  | quantity q =>
    if q.label = "" ∧ q.isDimensionless = false then
      match s.normalize q with
      | .ok q => q.textTo s.precision
      | .error f => .error f
    else q.textTo s.precision
  | number n =>
    match n.exact with
    | .ok q => Number.formatTo s.precision q
    | .error f => .error f
  | object fields =>
    (renderFields s fields).map fun parts => "\x7b" ++ ", ".intercalate parts ++ "\x7d"
  | absent => .ok absent.plainText
  | text t => .ok t
  | list items => .ok (list items).plainText

/-- The fields of an object, each under its name. -/
def renderFields (s : Setting) : List (String × Cell) → Except Failure (List String)
  | [] => .ok []
  | (name, c) :: rest =>
    match render s c with
    | .ok shown => (renderFields s rest).map fun parts => (name ++ ": " ++ shown) :: parts
    | .error f => .error f

end

end Metrology.Cell
