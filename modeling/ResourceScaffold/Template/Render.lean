import ResourceScaffold.Template.Helper

/-!
Contract: the text that a template renders to.

Owns:
- writing text with the margin of embedded templates;
- blocks, alternatives, embedded templates and templates defined inside templates;
- the place and the template that a fault is reported at.

Does not own: which templates there are.
-/

namespace ResourceScaffold.Template

/-! ## State -/

/-- A template as it can be embedded: its name, if it is registered under one, and its nodes. -/
structure Entry where
  name : Option String
  nodes : List Node

/-- What has to be remembered between the parts of a template: whether anything was written since
the enclosing tag began, whether the text ends with a line end, whether the margin has to be written
before the next text, the templates defined so far in each of the enclosing scopes, innermost first,
and the template being rendered. -/
structure Progress where
  wrote : Bool
  endedLine : Bool
  marginDue : Bool
  defined : List (List (String × Entry))
  rendering : Option String

namespace Progress

def start : Progress := ⟨false, false, false, [[]], none⟩

/-- The state in which the nodes of a block are rendered: they belong to no registered template. -/
def inBlock (progress : Progress) : Progress := { progress with rendering := none }

def openScope (progress : Progress) : Progress :=
  { progress with defined := [] :: progress.defined }

/-- The state after the innermost scope, with what was defined in it forgotten. -/
def closeScope (progress : Progress) : Progress :=
  { progress with defined := progress.defined.tail }

def define (progress : Progress) (name : String) (entry : Entry) : Progress :=
  { progress with
    defined := ((name, entry) :: progress.defined.headD []) :: progress.defined.tail }

/-- The template that is defined under a name, innermost scope first and last definition first. -/
def definition? (progress : Progress) (name : String) : Option Entry :=
  progress.defined.findSome? (List.lookup name)

end Progress

/-- A part of the output and the state after it, or a fault. -/
abbrev Rendered := Except RenderFault (List Char × Progress)

/-! ## Writing -/

/-- A text whose lines, but for the first one, start with a margin. -/
def withMargin (margin : List Char) : List Char → List Char
  | [] => []
  | character :: rest =>
      if character = '\n' && !rest.isEmpty then character :: margin ++ withMargin margin rest
      else character :: withMargin margin rest

def endsLine (text : List Char) : Bool :=
  text.getLast?.any fun character => character = '\n' || character = '\r'

def startsWithLineEnd (text : List Char) : Bool :=
  text.head?.any fun character => character = '\n' || character = '\r'

/-- Writes a text. The margin goes in front of it if it is due and the text does not start with a
line end, and in front of the further lines of the text. -/
def write (margin text : List Char) (progress : Progress) : List Char × Progress :=
  if text.isEmpty then ([], progress)
  else
    let lead := if progress.marginDue && !startsWithLineEnd text then margin else []
    (lead ++ withMargin margin text,
      { progress with wrote := true, endedLine := endsLine text, marginDue := endsLine text })

/-- Renders something for a tag. A tag on a line of its own lets the margin be due; afterwards the
margin is due as the written text says, or as before if nothing was written. -/
def forTag (marginDue : Bool) (render : Progress → Rendered) (progress : Progress) : Rendered :=
  match render { progress with wrote := false, marginDue := marginDue } with
  | .error fault => .error fault
  | .ok (text, after) =>
      .ok (text,
        if after.wrote then { after with marginDue := after.endedLine }
        else { after with wrote := progress.wrote, marginDue := progress.marginDue })

/-- A cause as a fault without a place. -/
def causing {α : Type} : Except RenderCause α → Except RenderFault α
  | .ok value => .ok value
  | .error cause => .error (.ofCause cause)

/-! ## Blocks -/

def itemScope (call : Call) (locals : List (String × Value)) (key item : Value) : Scope where
  current := item
  named :=
    match call.blockNames with
    | [name] => [(name, item)]
    | [name, keyName] => [(name, item), (keyName, key)]
    | _ => []
  locals := locals

def indexValue (index : Nat) : Value := .number (.whole index)

def listScopes (call : Call) (index count : Nat) : List Value → List Scope
  | [] => []
  | item :: rest =>
      itemScope call
          [("first", .boolean (index == 0)), ("last", .boolean (index + 1 == count)),
            ("index", indexValue index)]
          (indexValue index) item ::
        listScopes call (index + 1) count rest

def recordScopes (call : Call) (index count : Nat) : List (String × Value) → List Scope
  | [] => []
  | field :: rest =>
      itemScope call
          [("first", .boolean (index == 0)), ("last", .boolean (index + 1 == count)),
            ("key", .string field.1), ("index", indexValue index)]
          (.string field.1) field.2 ::
        recordScopes call (index + 1) count rest

/-- The scopes that a block is rendered with once for each part of a value, if the value has parts
or is a list or record for which nothing is rendered otherwise. -/
def partScopes? (call : Call) (hasOtherwise : Bool) : Value → Option (List Scope)
  | .list items =>
      if items.isEmpty && hasOtherwise then none
      else some (listScopes call 0 items.length items)
  | .record fields =>
      if fields.isEmpty && hasOtherwise then none
      else some (recordScopes call 0 fields.length fields)
  | _ => none

def valueScope (call : Call) (value : Value) : Scope where
  current := value
  named :=
    match call.blockNames with
    | [name] => [(name, value)]
    | _ => []
  locals := []

def renderEach (step : Scope → Progress → Rendered) : List Scope → Progress → Rendered
  | [], progress => .ok ([], progress)
  | scope :: rest, progress =>
      match step scope progress with
      | .error fault => .error fault
      | .ok (text, next) =>
          match renderEach step rest next with
          | .error fault => .error fault
          | .ok (others, last) => .ok (text ++ others, last)

def inScope (render : Progress → Rendered) (progress : Progress) : Rendered :=
  (render progress.openScope).map fun rendered => (rendered.1, rendered.2.closeScope)

def renderAlternative (otherwise : Option (Progress → Rendered)) (progress : Progress) : Rendered :=
  match otherwise with
  | some alternative => alternative progress
  | none => .ok ([], progress)

/-- Renders what a helper with a block stands for, given how to render its block in a scope and how
to render its alternative, if it has one. -/
def renderHelper (helper : Helper) (call : Call) (around : Surroundings) (arguments : List Found)
    (options : List (String × Found)) (body : Surroundings → Progress → Rendered)
    (otherwise : Option (Progress → Rendered)) (progress : Progress) : Rendered :=
  match helper with
  | .condition expected => do
      let argument ← causing (argumentAt "if" arguments 0)
      let includeZero :=
        match (options.lookup "includeZero").bind Found.value with
        | some (.boolean value) => value
        | _ => false
      if argument.orNull.isTrue includeZero = expected then body around progress
      else renderAlternative otherwise progress
  | .each => do
      let argument ← causing (argumentAt "each" arguments 0)
      match partScopes? call otherwise.isSome argument.orNull, otherwise with
      | some scopes, _ =>
          inScope (renderEach (fun scope => body (around.enter scope)) scopes) progress
      | none, some alternative => alternative progress
      | none, none => .error (.ofCause (.missingVariable argument.path))
  | .scoped => do
      let argument ← causing (argumentAt "with" arguments 0)
      if argument.orNull.isTrue false then
        inScope (body (around.enter (valueScope call argument.orNull))) progress
      else
        match otherwise with
        | some alternative => alternative progress
        | none => .error (.ofCause (.missingVariable argument.path))
  | .raw => body around progress
  | .log => do
      causing (checkLogLevel options)
      return ([], progress)
  | .value computed => do
      let value ← causing (computed.apply arguments)
      return write around.margin value.text progress
  | .predicate asked => do
      let answer ← causing (asked.apply arguments)
      if answer then body around progress else renderAlternative otherwise progress

/-! ## Embedded templates -/

def indexedFields (index : Nat) : List Value → List (String × Value)
  | [] => []
  | item :: rest => (toString index, item) :: indexedFields (index + 1) rest

/-- The fields of a value: those of a record, and the items of a list and the characters of a text
by their index. -/
def fieldsOf : Value → List (String × Value)
  | .record fields => fields
  | .list items => indexedFields 0 items
  | .string text => indexedFields 0 (text.toList.map fun character => .string character.toString)
  | _ => []

/-- A value extended by fields, if there are any. It becomes a record then. -/
def extendValue (base : Value) (fields : List (String × Value)) : Value :=
  if fields.isEmpty then base else Value.ofFields (fieldsOf base ++ fields)

/-- The scope of an embedded template: its argument, or else the current value, extended by the
options, which are also named values. -/
def embeddedScope (around : Surroundings) (arguments : List Found)
    (options : List (String × Found)) : Scope :=
  let base :=
    match arguments.head? with
    | some argument => argument.orNull
    | none => (currentAt around 0).getD .null
  let fields := options.map fun option => (option.1, option.2.orNull)
  ⟨extendValue base fields, fields, []⟩

/-- The name under which an embedded template embeds the body that it was given. -/
def bodyName : String := "@partial-block"

/-- The surroundings of an embedded template. A body that is embedded sees the body around it, and
any other template the one before. -/
def embeddedSurroundings (around : Surroundings) (name : String) (embedding : Embedding)
    (body : Option (List Node)) (scope : Scope) : Surroundings :=
  { around with
    scopes := scope :: around.scopes
    margin := around.margin ++ embedding.margin
    bodies := body.toList ++ around.bodies
    bodyDepth := if name = bodyName then around.bodyDepth + 1 else around.bodyDepth - 1 }

/-- How a template is embedded: by rendering it in surroundings of its own. -/
abbrev Embedder := Entry → Surroundings → Progress → Rendered

/-- The template that a name stands for in an embedding: a body, a template defined inside a
template or a registered one, and otherwise the body of the embedding itself. -/
def templateToEmbed? (registered : String → Option Entry) (around : Surroundings) (name : String)
    (body : Option (List Node)) (progress : Progress) : Option Entry :=
  let given :=
    if name = bodyName then around.bodies[around.bodyDepth]?.map fun nodes => ⟨none, nodes⟩
    else progress.definition? name
  given <|> registered name <|> body.map fun nodes => ⟨none, nodes⟩

def renderEmbedded (embed : Embedder) (registered : String → Option Entry) (around : Surroundings)
    (name : String) (body : Option (List Node)) (inner : Surroundings)
    (progress : Progress) : Rendered :=
  if progress.rendering = some name then .error (.ofCause .embedsItself)
  else
    match templateToEmbed? registered around name body progress with
    | none => .error (.ofCause (.embeddedNotFound name))
    | some template =>
        (inScope (embed template inner) progress).map fun rendered =>
          (rendered.1, { rendered.2 with rendering := progress.rendering })

def definedName (arguments : List Found) : Except RenderCause String :=
  match arguments.head? with
  | none => .error (.argumentMissing "inline" 0)
  | some argument =>
      match argument.value with
      | some (.string name) => .ok name
      | _ => .error .textRequired

def defineTemplate (around : Surroundings) (call : Call) (body : Option (List Node)) (place : Place)
    (progress : Progress) : Except RenderFault Progress :=
  Except.mapError (RenderFault.atPlace place) (do
    let arguments ← causing (findArguments around call.arguments)
    let _ ← causing (findOptions around call.options)
    if call.name = "inline" then
      let name ← causing (definedName arguments)
      match body with
      | none => throw (.ofCause .blockRequired)
      | some nodes => return progress.define name ⟨none, nodes⟩
    else throw (.ofCause (.decoratorNotFound call.name)))

def defineTemplates (around : Surroundings) : List Node → Progress → Except RenderFault Progress
  | [], progress => .ok progress
  | .decorate call body place :: rest, progress =>
      match defineTemplate around call body place progress with
      | .error fault => .error fault
      | .ok next => defineTemplates around rest next
  | _ :: rest, progress => defineTemplates around rest progress

/-! ## Nodes -/

/-- Renders a helper without a block, or a call of something that is no helper. -/
def renderBlockless (name : String) (around : Surroundings) (arguments : List Found)
    (options : List (String × Found)) (progress : Progress) : Rendered :=
  match Helper.ofName? name with
  | none => .error (.ofCause (.helperNotFound name))
  | some helper =>
      forTag progress.marginDue
        (fun inner => do
          let computed ← causing (helper.blockless arguments options)
          match computed with
          | none => return ([], inner)
          | some value =>
              if helper.isPredicate then return (value.text, inner)
              else return write around.margin value.text inner)
        progress

/-- Renders a tag that holds a name alone: a helper of that name, or a value. -/
def renderOutput (around : Surroundings) (operand : Operand) (progress : Progress) : Rendered := do
  let name ←
    match operand with
    | .reference reference => pure reference.text
    | other => do
        let found ← causing (findOperand around other)
        pure (String.ofList found.orNull.text)
  if (Helper.ofName? name).isSome then renderBlockless name around [] [] progress
  else
    let found ← causing (findOperand around operand)
    match found.value with
    | some value => return write around.margin value.text progress
    | none => throw (.ofCause (.missingVariable found.path))

def embeddedName (around : Surroundings) : EmbeddedName → Except RenderFault String
  | .word name => .ok name
  | .computed (.reference reference) => .ok reference.text
  | .computed operand =>
      (causing (findOperand around operand)).map fun found => String.ofList found.orNull.text

/-- A rendering whose faults are reported at a place, unless they have one. -/
def placed (place : Option Place) (rendered : Rendered) : Rendered :=
  rendered.mapError (RenderFault.atPlace place)

mutual

def renderNode (embed : Embedder) (registered : String → Option Entry) (around : Surroundings) :
    Node → Progress → Rendered
  | .text content, progress => .ok (write around.margin content progress)
  | .output operand place, progress => placed place (renderOutput around operand progress)
  | .helper call place, progress =>
      placed place (do
        let arguments ← causing (findArguments around call.arguments)
        let options ← causing (findOptions around call.options)
        renderBlockless call.name around arguments options progress)
  | .block call ownLine body otherwise place, progress =>
      placed place (do
        let arguments ← causing (findArguments around call.arguments)
        let options ← causing (findOptions around call.options)
        match Helper.ofName? call.name with
        | none => throw (.ofCause (.helperNotFound call.name))
        | some helper =>
            forTag (progress.marginDue || (ownLine && progress.endedLine))
              (renderHelper helper call around arguments options
                (fun inner progress =>
                  renderNodes embed registered inner body progress.inBlock)
                (renderOtherwise embed registered around otherwise))
              progress)
  | .embed embedding body place, progress =>
      placed place (do
        let name ← embeddedName around embedding.name
        let arguments ← causing (findArguments around embedding.arguments)
        let options ← causing (findOptions around embedding.options)
        let scope := embeddedScope around arguments options
        forTag (embedding.ownLine && (progress.endedLine || !embedding.margin.isEmpty))
          (fun inner => do
            let prepared ← defineTemplates around (body.getD []) inner
            renderEmbedded embed registered around name body
              (embeddedSurroundings around name embedding body scope) prepared)
          progress)
  | .decorate call body place, progress =>
      (defineTemplate around call body place progress).map fun next => ([], next)
termination_by structural node => node

def renderNodes (embed : Embedder) (registered : String → Option Entry) (around : Surroundings) :
    List Node → Progress → Rendered
  | [], progress => .ok ([], progress)
  | node :: rest, progress =>
      match renderNode embed registered around node progress with
      | .error fault => .error fault
      | .ok (text, next) =>
          match renderNodes embed registered around rest next with
          | .error fault => .error fault
          | .ok (others, last) => .ok (text ++ others, last)
termination_by structural nodes => nodes

def renderOtherwise (embed : Embedder) (registered : String → Option Entry)
    (around : Surroundings) : Option (List Node) → Option (Progress → Rendered)
  | none => none
  | some nodes =>
      some fun progress => renderNodes embed registered around nodes progress.inBlock
termination_by structural otherwise => otherwise

end

/-! ## Templates -/

/-- The greatest depth in which templates are embedded in each other. -/
def embeddingLimit : Nat := 1000

def renderWithin (registered : String → Option Entry) : Nat → Embedder
  | 0, _, _, _ => .error (.ofCause .embeddedTooDeeply)
  | depth + 1, template, around, progress =>
      (renderNodes (renderWithin registered depth) registered around template.nodes
        { progress with rendering := template.name }).mapError
          (RenderFault.inTemplate template.name)

def render (registered : String → Option Entry) (template : Entry) (data : Value) :
    Except RenderFault String :=
  (renderWithin registered embeddingLimit template (.ofData data) .start).map fun rendered =>
    String.ofList rendered.1

end ResourceScaffold.Template
