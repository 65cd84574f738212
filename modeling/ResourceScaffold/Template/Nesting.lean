import ResourceScaffold.Template.Layout
import ResourceScaffold.Text.Quoted

/-!
Contract: the tree of a template, built from its pieces.

Owns:
- which tags may stand where;
- the faults of a source that is no template;
- reading a whole source.

Does not own: rendering.
-/

namespace ResourceScaffold.Template

/-! ## Faults -/

/-- Why a source is no template. -/
inductive SourceFault where
  | invalidSource
  | invalidLiteral (text : String)
  | mismatchedHelper (opened closed : String)
  | mismatchedDecorator (opened closed : String)
deriving DecidableEq, Repr

def quotedName (name : String) : String :=
  String.ofList (Text.quoted name.toList)

def SourceFault.message : SourceFault → String
  | invalidSource => "invalid template syntax"
  | invalidLiteral text => "invalid parameter " ++ quotedName text
  | mismatchedHelper opened closed =>
      "helper " ++ quotedName opened ++ " was opened, but " ++ quotedName closed ++ " is closing"
  | mismatchedDecorator opened closed =>
      "decorator " ++ quotedName opened ++ " was opened, but " ++ quotedName closed ++
        " is closing"

/-! ## Open blocks -/

/-- A part of a block that has been opened: the call that it belongs to, whether the call stood on a
line of its own, its place, and the nodes read so far, last one first. -/
structure OpenBranch where
  call : Call
  ownLine : Bool
  place : Option Place
  nodes : List Node

/-- A block that has been opened and not closed. A chain holds its finished branches, last one
first; after an alternative without a condition no other may follow. -/
inductive OpenBlock where
  | chain (finished : List OpenBranch) (current : OpenBranch)
  | chainEnd (finished : List OpenBranch) (nodes : List Node)
  | raw (branch : OpenBranch)
  | decorator (branch : OpenBranch)
  | embedding (embedding : Embedding) (place : Place) (nodes : List Node)

def OpenBlock.add (node : Node) : OpenBlock → OpenBlock
  | .chain finished current => .chain finished { current with nodes := node :: current.nodes }
  | .chainEnd finished nodes => .chainEnd finished (node :: nodes)
  | .raw branch => .raw { branch with nodes := node :: branch.nodes }
  | .decorator branch => .decorator { branch with nodes := node :: branch.nodes }
  | .embedding opened place nodes => .embedding opened place (node :: nodes)

/-- A branch as a block, given what is rendered otherwise. -/
def OpenBranch.toNode (branch : OpenBranch) (otherwise : Option (List Node)) : Node :=
  .block branch.call branch.ownLine branch.nodes.reverse otherwise branch.place

/-- The block of a chain of branches, last one first, given what the last one renders otherwise. -/
def chainNode : List OpenBranch → Option (List Node) → Option Node
  | [], _ => none
  | [branch], otherwise => some (branch.toNode otherwise)
  | branch :: rest, otherwise => chainNode rest (some [branch.toNode otherwise])

/-- The state of the construction: the blocks that are open, innermost first, and the nodes outside
of them, last one first. -/
structure Forest where
  openBlocks : List OpenBlock
  nodes : List Node

def Forest.add (node : Node) (forest : Forest) : Forest :=
  match forest.openBlocks with
  | [] => { forest with nodes := node :: forest.nodes }
  | block :: rest => { forest with openBlocks := block.add node :: rest }

def Forest.push (block : OpenBlock) (forest : Forest) : Forest :=
  { forest with openBlocks := block :: forest.openBlocks }

/-- Whether a block or an alternative has a line of its own, so that its content starts a line. -/
def Tag.startsContent (tag : Tag) : Bool :=
  tag.isAlone && !tag.written.trimsBefore

/-- Whether a name can stand in the tag that closes a block of a helper or decorator. -/
def isIdentifier (name : String) : Bool :=
  name.toList.all isSymbolChar

/-- Whether a name can stand in the tag that closes an embedding. -/
def isEmbeddedWord (name : String) : Bool :=
  name.toList.all isEmbeddedChar || name.toList.head? = some '\''

/-- The blocks around a finished block, with the node that it became. -/
def Forest.close (forest : Forest) (outer : List OpenBlock) (node : Node) : Forest :=
  ({ forest with openBlocks := outer } : Forest).add node

/-- Closes the innermost block by a tag with a name. A block of a helper or decorator and an
embedding have different names in their closing tags. -/
def Forest.closeBlock (forest : Forest) (name : String) : Option Forest :=
  match forest.openBlocks with
  | .chain finished current :: rest =>
      if isIdentifier name then
        (chainNode (current :: finished) none).map (forest.close rest)
      else none
  | .chainEnd finished nodes :: rest =>
      if isIdentifier name then
        (chainNode finished (some nodes.reverse)).map (forest.close rest)
      else none
  | .decorator opened :: rest =>
      if isIdentifier name then
        opened.place.map fun place =>
          forest.close rest (.decorate opened.call (some opened.nodes.reverse) place)
      else none
  | .embedding opened place nodes :: rest =>
      if isEmbeddedWord name then
        some (forest.close rest (.embed opened (some nodes.reverse) place))
      else none
  | _ => none

/-- Takes the next tag into the construction. There is no result where the tag may not stand. -/
def Forest.take (forest : Forest) (tag : Tag) : Option Forest :=
  let branch (call : Call) (place : Option Place) : OpenBranch :=
    ⟨call, tag.startsContent, place, []⟩
  match tag.written.kind with
  | .comment => some forest
  | .output operand => some (forest.add (.output operand tag.place))
  | .helper call => some (forest.add (.helper call tag.place))
  | .decorate call => some (forest.add (.decorate call none tag.place))
  | .embed name arguments options =>
      some (forest.add (.embed
        { name := name, arguments := arguments, options := options
          ownLine := tag.startsContent
          margin := if tag.written.trimsBefore then [] else tag.margin } none tag.place))
  | .openEmbed name arguments options =>
      some (forest.push (.embedding
        { name := name, arguments := arguments, options := options
          ownLine := tag.startsContent
          margin := [] } tag.place []))
  | .openBlock call => some (forest.push (.chain [] (branch call tag.place)))
  | .openRaw call =>
      match forest.openBlocks with
      | .raw _ :: _ => none
      | _ => some (forest.push (.raw (branch call tag.place)))
  | .openDecorator call => some (forest.push (.decorator (branch call tag.place)))
  | .otherwise =>
      match forest.openBlocks with
      | .chain finished current :: rest =>
          some { forest with openBlocks := .chainEnd (current :: finished) [] :: rest }
      | _ => none
  | .otherwiseCall call =>
      match forest.openBlocks with
      | .chain finished current :: rest =>
          some { forest with openBlocks := .chain (current :: finished) (branch call none) :: rest }
      | _ => none
  | .close name => forest.closeBlock name
  | .closeRaw _ =>
      match forest.openBlocks with
      | .raw opened :: rest =>
          some (forest.close rest (opened.toNode none))
      | _ => none

def Forest.takeAll (forest : Forest) : List Piece → Option Forest
  | [] => some forest
  | .text content :: rest => (forest.add (.text content)).takeAll rest
  | .tag tag :: rest => (forest.take tag).bind fun next => next.takeAll rest

def nest (pieces : List Piece) : Option (List Node) :=
  match (Forest.mk [] []).takeAll pieces with
  | some ⟨[], nodes⟩ => some nodes.reverse
  | _ => none

/-! ## Names of blocks -/

/-- An opened block, the name that its closing tag has to repeat, if it has one, and whether the
name may be left out there. -/
structure OpenedName where
  name : Option String
  mayOmit : Bool

/-- Ends the innermost block, if its name is repeated, or left out where it may be. -/
def closeNamed (opened : List OpenedName) (name : String) : Except SourceFault (List OpenedName) :=
  match opened with
  | [] => .ok []
  | innermost :: outer =>
      if innermost.name = some name then .ok outer
      else if !innermost.mayOmit then
        .error (.mismatchedHelper (innermost.name.getD "") name)
      else if name = "" then .ok outer
      else .error (.mismatchedDecorator (innermost.name.getD "") name)

/-- The blocks that are open after a tag. A tag whose literal is no data value is at fault, and so
is a closing tag with another name than the tag that it closes. -/
def checkTag (opened : List OpenedName) (written : WrittenTag) :
    Except SourceFault (List OpenedName) :=
  match written.badLiteral with
  | some text => .error (.invalidLiteral text)
  | none =>
      match written.kind with
      | .openBlock call => .ok (⟨some call.name, false⟩ :: opened)
      | .openRaw call => .ok (⟨some call.name, false⟩ :: opened)
      | .openDecorator call => .ok (⟨some call.name, true⟩ :: opened)
      | .openEmbed name _ _ => .ok (⟨name.written?, true⟩ :: opened)
      | .close name => closeNamed opened name
      | .closeRaw name => closeNamed opened name
      | _ => .ok opened

def checkTags (opened : List OpenedName) : List Piece → Except SourceFault Unit
  | [] => .ok ()
  | .text _ :: rest => checkTags opened rest
  | .tag tag :: rest =>
      match checkTag opened tag.written with
      | .error fault => .error fault
      | .ok next => checkTags next rest

def ofChars (source : List Char) : Except SourceFault (List Node) :=
  match cut source with
  | none => .error .invalidSource
  | some pieces =>
      match nest (settle pieces) with
      | none => .error .invalidSource
      | some nodes =>
          match checkTags [] pieces with
          | .error fault => .error fault
          | .ok () => .ok nodes

def ofSource (source : String) : Except SourceFault (List Node) :=
  ofChars source.toList

@[simp] theorem ofSource_ofList (source : List Char) :
    ofSource (String.ofList source) = ofChars source := by
  simp [ofSource]

end ResourceScaffold.Template
