import Stepwise.Draft.Operations
import Stepwise.Draft.Reader

/-!
# Sessions

A session holds one current draft.  Each command answers with a reply and may replace the draft.
A command that fails leaves it as it was; one that succeeds replaces it even if the new draft
cannot be shown, and then the reply is the reason why it cannot.
-/

namespace Stepwise

/-- A draft as a request gives it: a source to be read, or the draft itself. -/
inductive Entry where
  | source (text : String)
  | given (draft : Draft)

/-- The draft that an entry stands for. -/
def Entry.read : Entry → Except Draft.Fault Draft
  | source text =>
    match Draft.parse text with
    | (d, none) => .ok d
    | (_, some e) => .error (.malformed e)
  | given d => .ok d

namespace Draft

/-- A draft with its printed form. -/
structure Printed where
  draft : Draft
  text : String

/-- Prints a draft. -/
def printed (d : Draft) : Except Fault Printed := do return ⟨d, ← d.text⟩

/-- A draft with its printed form and its size. -/
structure Shown extends Printed where
  size : Nat

/-- Prints and measures a draft. -/
def shown (d : Draft) : Except Fault Shown := do
  let p ← d.printed
  return ⟨p, ← d.size⟩

/-- Reads the printed form of a draft. -/
def reparse (d : Draft) : Except Fault Draft := do (Entry.source (← d.text)).read

end Draft

namespace Session

/-- What can be asked of a session. -/
inductive Command where
  /-- Replace the draft by an entry. -/
  | put (entry : Entry)
  /-- One step of the named strategy. -/
  | step (strategy : String)
  /-- At most `count` steps of the named strategy. -/
  | steps (strategy : String) (count : Nat)
  /-- Substitute an entry for a name in the draft. -/
  | subst (name : String) (replacement : Entry)
  /-- Substitute the draft for a name in an entry. -/
  | substIn (entry : Entry) (name : String)
  /-- The canonical form. -/
  | canonical
  /-- Read the printed form. -/
  | reparse
  /-- Abstract over a name. -/
  | abs (name : String)
  /-- Apply the draft to an entry. -/
  | app (argument : Entry)
  /-- Apply an entry to the draft. -/
  | arg (function : Entry)
  /-- Apply the draft to itself. -/
  | self
  /-- Ask for the free names. -/
  | freeNames
  /-- Ask whether a name is free. -/
  | isFree (name : String)
  /-- Ask whether an entry has the same canonical form. -/
  | sameCanonical (entry : Entry)
  /-- Ask whether an entry is the same draft. -/
  | equal (entry : Entry)

/-- What a session answers. -/
inductive Reply where
  | shown (s : Draft.Shown)
  /-- The printed forms after each step, and the stuck application at which the steps ended. -/
  | texts (texts : List String) (stopped : Option Draft.Fault)
  | names (names : List String)
  | truth (value : Bool)
  | failed (fault : Draft.Fault)

/-- The reply that shows a draft. -/
def display (d : Draft) : Reply :=
  match d.shown with
  | .ok s => .shown s
  | .error f => .failed f

/-- Replaces the draft `d` by the outcome of an operation. -/
def replace (d : Draft) : Except Draft.Fault Draft → Draft × Reply
  | .ok new => (new, display new)
  | .error f => (d, .failed f)

/-- Answers a question about the draft `d`. -/
def answer {α : Type} (d : Draft) (reply : α → Reply) : Except Draft.Fault α → Draft × Reply
  | .ok a => (d, reply a)
  | .error f => (d, .failed f)

/-- At most `count` steps from `d`, with the printed forms `texts` of the earlier steps, last
first.  A stuck application ends the steps; any other fault is a fault of the whole command. -/
def steps (strategy : String) : (count : Nat) → (d : Draft) → (texts : List String) → Draft × Reply
  | 0, d, texts => (d, .texts texts.reverse none)
  | count + 1, d, texts =>
    match d.stepNamed strategy with
    | .error (.stuck left right) => (d, .texts texts.reverse (some (.stuck left right)))
    | .error f => (d, .failed f)
    | .ok new =>
      match new.text with
      | .ok text => steps strategy count new (text :: texts)
      | .error f => (new, .failed f)

/-- The draft after a command, and the reply to it. -/
def run (d : Draft) : Command → Draft × Reply
  | .put entry => replace d entry.read
  | .step strategy => replace d (d.stepNamed strategy)
  | .steps strategy count => steps strategy count d []
  | .subst name replacement => replace d do d.subst name (← replacement.read)
  | .substIn entry name => replace d do (← entry.read).subst name d
  | .canonical => replace d d.canonical
  | .reparse => replace d d.reparse
  | .abs name => replace d (.ok (.abs name d))
  | .app argument => replace d do return .app d (← argument.read)
  | .arg function => replace d do return .app (← function.read) d
  | .self => replace d (.ok (.app d d))
  | .freeNames => answer d .names d.freeNames
  | .isFree name => answer d .truth (d.isFree name)
  | .sameCanonical entry => answer d .truth do d.sameCanonical (← entry.read)
  | .equal entry => answer d .truth do return d = (← entry.read)

end Session

end Stepwise
