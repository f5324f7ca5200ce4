import ChatNotify.Markup.Node

namespace ChatNotify.Markup

/-- A run of one mark. -/
structure Run where
  mark : Char
  /-- The length as written. -/
  length : Nat
  /-- The marks not yet used up. -/
  left : Nat
  opens : Bool
  closes : Bool

/-- An item of a stretch of text: a finished node or a run of marks. -/
inductive Item where
  | finished (node : Node)
  | marks (run : Run)

namespace Run

/-- The marks that are left, as plain text. -/
def toNode (run : Run) : Node :=
  .text (String.ofList (List.replicate run.left run.mark))

/-- Holds when the run may be closed by `closer`. If one of the two may both open and close, their
lengths may not add up to a multiple of three, unless both are multiples of three. -/
def pairsWith (opener closer : Run) : Bool :=
  opener.opens && opener.mark = closer.mark &&
    !((closer.opens || opener.closes) && (opener.length + closer.length) % 3 = 0 &&
      !(opener.length % 3 = 0 && closer.length % 3 = 0))

/-- The kind of node that a pair makes of what is between, by how many marks it uses up. -/
def branch (run : Run) (used : Nat) : Branch :=
  if run.mark = '~' then .strikethrough else if used = 1 then .emphasis else .strong

/-- How many marks a pair uses up on both sides: two if both have two left, else one. -/
def used (opener closer : Run) : Nat :=
  if 2 ≤ closer.left && 2 ≤ opener.left then 2 else 1

theorem used_pos (opener closer : Run) : 0 < opener.used closer := by
  unfold used; split <;> decide

end Run

namespace Item

/-- The item as a node; what is left of a run is plain text. -/
def toNode : Item → Node
  | .finished node => node
  | .marks run => run.toNode

/-- The nearest opener for the closer among the items before it, nearest first: the items between,
the opener, and the items before the opener. -/
def findOpener (closer : Run) (between : List Item) : List Item →
    Option (List Item × Run × List Item)
  | [] => none
  | .marks run :: before =>
    if run.pairsWith closer then some (between, run, before)
    else findOpener closer (.marks run :: between) before
  | item :: before => findOpener closer (item :: between) before

/-- How much is left to be done on the items. -/
def weight : List Item → Nat
  | [] => 0
  | .finished _ :: rest => weight rest + 1
  | .marks run :: rest => weight rest + run.left + 1

/-- Pairs the runs in `after`, where `before` holds the items in front, nearest first. Two runs of
tildes that differ in length end the search: everything from there on is left as it is. -/
def resolveAfter (before : List Item) : List Item → List Node
  | [] => before.reverse.map toNode
  | .finished node :: rest => resolveAfter (.finished node :: before) rest
  | .marks run :: rest =>
    if run.closes then
      match findOpener run [] before with
      | none =>
        if run.opens then resolveAfter (.marks run :: before) rest
        else resolveAfter (.finished run.toNode :: before) rest
      | some (between, opener, below) =>
        let used := opener.used run
        if run.mark = '~' && (opener.left ≠ run.left || used < opener.left) then
          (before.reverse ++ .marks run :: rest).map toNode
        else
          let below :=
            if opener.left ≤ used then below
            else .marks { opener with left := opener.left - used } :: below
          let before := .finished (.branch (run.branch used) (between.map toNode)) :: below
          if _h : run.left ≤ used then resolveAfter before rest
          else resolveAfter before (.marks { run with left := run.left - used } :: rest)
    else resolveAfter (.marks run :: before) rest
termination_by after => weight after
decreasing_by
  all_goals simp only [weight]
  all_goals try omega
  have := opener.used_pos run
  omega

/-- The nodes that the items make up. From left to right, each run that may close is paired with the
nearest run before it that may open and has the same mark. -/
def resolve (items : List Item) : List Node :=
  resolveAfter [] items

end Item

end ChatNotify.Markup
