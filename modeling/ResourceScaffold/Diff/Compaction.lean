import ResourceScaffold.Diff.Script

/-!
Contract: scripts in which neighbouring edits are brought together.

Owns:
- moving an edit up and down past its neighbours;
- joining edits of one kind that meet.

Does not own: finding a script. Compaction changes neither of the two texts of a script.
-/

namespace ResourceScaffold.Diff

/-! ## Kept runs that grow and shrink -/

namespace Edit

def growUp (edit : Edit) (lines : List Line) : Edit :=
  { edit with
    lines := lines ++ edit.lines
    oldIndex := edit.oldIndex - lines.length
    newIndex := edit.newIndex - lines.length }

def growDown (edit : Edit) (lines : List Line) : Edit :=
  { edit with lines := edit.lines ++ lines }

def shrinkUp (edit : Edit) (count : Nat) : Edit :=
  { edit with lines := edit.lines.take (edit.lines.length - count) }

def shrinkDown (edit : Edit) (count : Nat) : Edit :=
  { edit with
    lines := edit.lines.drop count
    oldIndex := edit.oldIndex + count
    newIndex := edit.newIndex + count }

/-- An added run that has moved up past lines with which it ends: it now begins with them. -/
def slideUp (edit : Edit) (lines : List Line) : Edit :=
  { edit with
    lines := lines ++ edit.lines.take (edit.lines.length - lines.length)
    oldIndex := edit.oldIndex - lines.length
    newIndex := edit.newIndex - lines.length }

/-- An added run that has moved down past lines with which it begins: it now ends with them. -/
def slideDown (edit : Edit) (lines : List Line) : Edit :=
  { edit with
    lines := edit.lines.drop lines.length ++ lines
    oldIndex := edit.oldIndex + lines.length
    newIndex := edit.newIndex + lines.length }

end Edit

/-! ## An edit among its neighbours -/

/-- An edit with the edits in front of it, nearest first, and those after it. -/
structure Focus where
  above : List Edit
  edit : Edit
  below : List Edit

namespace Focus

def script (focus : Focus) : Script :=
  focus.above.reverse ++ focus.edit :: focus.below

def keepBelow (lines : List Line) (oldIndex newIndex : Nat) : List Edit → List Edit
  | next :: rest =>
      if next.kind = .keep then next.growUp lines :: rest
      else ⟨.keep, lines, oldIndex, newIndex⟩ :: next :: rest
  | [] => [⟨.keep, lines, oldIndex, newIndex⟩]

def keepAbove (lines : List Line) (oldIndex newIndex : Nat) : List Edit → List Edit
  | next :: rest =>
      if next.kind = .keep then next.growDown lines :: rest
      else ⟨.keep, lines, oldIndex, newIndex⟩ :: next :: rest
  | [] => [⟨.keep, lines, oldIndex, newIndex⟩]

/-- Edits with a kept run in front of them, unless it has no lines left. -/
def pushKept (edit : Edit) (edits : List Edit) : List Edit :=
  if edit.lines.isEmpty then edits else edit :: edits

/-- An added run moved up past the last `count` lines of the kept run above it. -/
def slideUp (count : Nat) (kept : Edit) (rest : List Edit) (edit : Edit) (below : List Edit) :
    Focus :=
  let lines := kept.lines.drop (kept.lines.length - count)
  { above := pushKept (kept.shrinkUp count) rest
    edit := edit.slideUp lines
    below :=
      keepBelow lines (kept.oldIndex + kept.lines.length - count)
        (edit.newIndex + edit.lines.length - count) below }

/-- An added run moved down past the first `count` lines of the kept run below it. -/
def slideDown (count : Nat) (above : List Edit) (edit : Edit) (kept : Edit) (rest : List Edit) :
    Focus :=
  let lines := kept.lines.take count
  { above := keepAbove lines kept.oldIndex edit.newIndex above
    edit := edit.slideDown lines
    below := pushKept (kept.shrinkDown count) rest }

/-- Moves an edit up as far as it goes, within a number of steps. A removal and an addition change
places, equal kinds are joined, and an added run slides over kept lines that it ends with. -/
def upWithin : Nat → Focus → Focus
  | 0, focus => focus
  | steps + 1, focus =>
      match focus.above with
      | [] => focus
      | prior :: rest =>
          if prior.kind = .keep then
            let count :=
              if focus.edit.kind = .add then sharedEnd prior.lines focus.edit.lines else 0
            if count = 0 then focus
            else upWithin steps (slideUp count prior rest focus.edit focus.below)
          else if prior.kind = focus.edit.kind then
            upWithin steps ⟨rest, prior.growDown focus.edit.lines, focus.below⟩
          else
            upWithin steps ⟨rest, focus.edit, prior :: focus.below⟩

def downWithin : Nat → Focus → Focus
  | 0, focus => focus
  | steps + 1, focus =>
      match focus.below with
      | [] => focus
      | next :: rest =>
          if next.kind = .keep then
            let count :=
              if focus.edit.kind = .add then sharedStart next.lines focus.edit.lines else 0
            if count = 0 then focus
            else downWithin steps (slideDown count focus.above focus.edit next rest)
          else if next.kind = focus.edit.kind then
            downWithin steps ⟨focus.above, focus.edit.growDown next.lines, rest⟩
          else
            downWithin steps ⟨next :: focus.above, focus.edit, rest⟩

def settle (focus : Focus) : Focus :=
  let raised := focus.upWithin (Script.size focus.above + 1)
  raised.downWithin (Script.size raised.below + 1)

end Focus

/-! ## Passes over a script -/

/-- Settles the edits of a kind one after the other, within a number of steps. The edits that are
done are listed nearest first. -/
def settleWithin (kind : EditKind) : Nat → List Edit → List Edit → Script
  | 0, done, rest => done.reverse ++ rest
  | _ + 1, done, [] => done.reverse
  | steps + 1, done, edit :: rest =>
      if edit.kind = kind then
        let settled := (Focus.mk done edit rest).settle
        settleWithin kind steps (settled.edit :: settled.above) settled.below
      else settleWithin kind steps (edit :: done) rest

def settleKind (kind : EditKind) (script : Script) : Script :=
  settleWithin kind (Script.size script + 1) [] script

/-- Settles the removals, then the additions. -/
def compact (script : Script) : Script :=
  settleKind .add (settleKind .remove script)

end ResourceScaffold.Diff
