import Workflow.Error.Basic
import Workflow.Path

/-!
# Templates

A template is a text with placeholders, written `{path}` or `{{ path }}`. Rendering puts the value of
each path in the place of its placeholder, once: what is put in is not looked at again, and a
placeholder whose path leads nowhere stays as it is.
-/

namespace Workflow.Template

open Number

/-- Whether a character is a brace. -/
def isBrace (c : Char) : Bool :=
  c = '\x7b' || c = '\x7d'

/-- A placeholder: all of its text, and its path. -/
structure Placeholder where
  source : List Char
  path : String
  deriving DecidableEq

/-- A double placeholder at the front of a text: two braces, a path without braces, two braces. -/
def double? : List Char → Option Placeholder
  | '\x7b' :: '\x7b' :: rest =>
    let body := rest.takeWhile (!isBrace ·)
    match rest.dropWhile (!isBrace ·) with
    | '\x7d' :: '\x7d' :: _ =>
      if body.isEmpty then none
      else some ⟨['\x7b', '\x7b'] ++ body ++ ['\x7d', '\x7d'], String.ofList (Text.trim body)⟩
    | _ => none
  | _ => none

/-- A single placeholder at the front of a text: a brace, a path without braces that does not start
with white space, a brace. -/
def single? : List Char → Option Placeholder
  | '\x7b' :: rest =>
    let body := rest.takeWhile (!isBrace ·)
    match rest.dropWhile (!isBrace ·) with
    | '\x7d' :: _ =>
      if body.head?.all Text.isBlank then none
      else some ⟨'\x7b' :: (body ++ ['\x7d']), String.ofList (Text.trim body)⟩
    | _ => none
  | _ => none

/-- The placeholder at the front of a text. -/
def placeholder? (cs : List Char) : Option Placeholder :=
  (double? cs).or (single? cs)

/-- A part of a template. -/
inductive Segment where
  | char (c : Char)
  | hole (placeholder : Placeholder)
  deriving DecidableEq

/-- The parts of a template. `skip` tells how many characters belong to the placeholder before. -/
def segmentsFrom : (skip : Nat) → List Char → List Segment
  | _, [] => []
  | skip + 1, _ :: rest => segmentsFrom skip rest
  | 0, c :: rest =>
    match placeholder? (c :: rest) with
    | some found => .hole found :: segmentsFrom (found.source.length - 1) rest
    | none => .char c :: segmentsFrom 0 rest

/-- The parts of a template. -/
def segments (template : String) : List Segment :=
  segmentsFrom 0 template.toList

/-- The text that stands for a value in a rendered template: null, truth values, lists and mappings as
JSON, and anything else as it is shown on its own. -/
def stringify (value : Value) : Except Json.WriteError String :=
  match value with
  | .null | .bool _ | .list _ | .group _ | .dict _ | .loop _ _ => Json.writeWithDates value
  | .scalar _ | .set _ => .ok value.plain

/-- The text of one part. -/
def renderSegment (data : Value) : Segment → Except Failure (List Char)
  | .char c => .ok [c]
  | .hole placeholder => do
    match ← (Path.get? data placeholder.path).mapError Failure.integer with
    | some value => do
      let text ← (stringify value).mapError Failure.unwritable
      .ok text.toList
    | none => .ok placeholder.source

/-- The text of several parts. -/
def renderSegments (data : Value) : List Segment → Except Failure (List Char)
  | [] => .ok []
  | segment :: rest => do
    let chars ← renderSegment data segment
    let more ← renderSegments data rest
    .ok (chars ++ more)

/-- A template with the values of its paths put in. -/
def render (template : String) (data : Value) : Except Failure String :=
  String.ofList <$> renderSegments data (segments template)

mutual

/-- A value with every text inside it rendered; keys and other scalars stay as they are. -/
def renderValue (data : Value) : Value → Except Failure Value
  | .text template => Value.text <$> render template data
  | .scalar value => .ok (.scalar value)
  | .list items => Value.list <$> renderItems data items
  | .dict entries => Value.dict <$> renderEntries data entries
  | other => .ok other

/-- The items of a list, rendered. -/
def renderItems (data : Value) : List Value → Except Failure (List Value)
  | [] => .ok []
  | item :: rest => do
    let item ← renderValue data item
    let rest ← renderItems data rest
    .ok (item :: rest)

/-- The entries of a mapping, with their values rendered. -/
def renderEntries (data : Value) : List (Scalar × Value) → Except Failure (List (Scalar × Value))
  | [] => .ok []
  | (key, value) :: rest => do
    let value ← renderValue data value
    let rest ← renderEntries data rest
    .ok ((key, value) :: rest)

end

end Workflow.Template
