import Stepwise.Yaml.Token

/-!
# Layout

A colon may turn what stands before it into a key, and then two tokens come before tokens that have
been read already.  So tokens wait in a queue, and a `Layout` remembers for every depth of braces
and brackets where a key may have started.  A key must stand on one line and be short.  A token
leaves the queue when two more have been read after it and it cannot start a key any more; until
then a fault in what follows it comes first.

A `Layout` also remembers the columns of the sequences and maps that the columns delimit.
-/

namespace Stepwise

namespace Yaml

/-- A token that may start a key. -/
structure Candidate where
  /-- The number of the token. -/
  number : Nat
  place : Place
  possible : Bool
  /-- Whether nothing but a key can stand there. -/
  required : Bool

/-- The tokens that wait, and what decides about them. -/
structure Layout where
  /-- What has not been read. -/
  rest : List Spot
  /-- Where the characters that have been read end. -/
  place : Place
  /-- The columns of the sequences and maps that are not closed, innermost first. -/
  columns : List Nat
  /-- Whether a key may start here. -/
  keyAllowed : Bool
  /-- The candidate outside braces and brackets. -/
  outermost : Candidate
  /-- The candidates at the depths of braces and brackets, innermost first. -/
  inner : List Candidate
  /-- The numbers of tokens that wait for a decision, with the depth whose candidate decides. -/
  watched : List (Nat × Nat)
  /-- The tokens that wait. -/
  queue : List Token
  /-- The number of the tokens that have left the queue. -/
  released : Nat

/-- How deep braces and brackets, or columns, may be nested. -/
def maxDepth : Nat := 10000

/-- How many characters a key and its colon may be apart. -/
def maxKeyLength : Nat := 1024

/-- Whether a candidate can still be a key. -/
inductive Outlook where
  | undecided
  | settled
  /-- It had to be one and cannot be any more. -/
  | missed (fault : Fault)

namespace Candidate

/-- The candidate of a depth at which nothing has been read. -/
def absent (number : Nat) (place : Place) : Candidate := ⟨number, place, false, false⟩

/-- The fault of a candidate that must be a key and is none. -/
def fault (c : Candidate) (now : Place) : Fault := .ofToken .noColon c.place.line now.line

/-- Whether a candidate can still be a key when the place `now` is reached. -/
def outlook (c : Candidate) (now : Place) : Outlook :=
  if !c.possible then .settled
  else if c.place.line < now.line ∨ c.place.index + maxKeyLength < now.index then
    if c.required then .missed (c.fault now) else .settled
  else .undecided

end Candidate

namespace Layout

/-- The layout before the first token. -/
def initial (spots : List Spot) : Layout :=
  ⟨spots, .origin, [], true, .absent 0 .origin, [], [], [], 0⟩

/-- Whether the layout is inside braces or brackets. -/
def inFlow (l : Layout) : Bool := !l.inner.isEmpty

/-- The number that the next token gets. -/
def nextNumber (l : Layout) : Nat := l.released + l.queue.length

/-- The candidate of the current depth. -/
def candidate (l : Layout) : Candidate := l.inner.headD l.outermost

/-- The layout with another candidate at the current depth. -/
def setCandidate (l : Layout) (c : Candidate) : Layout :=
  match l.inner with
  | [] => { l with outermost := c }
  | _ :: outer => { l with inner := c :: outer }

/-- The layout that does not wait for a decision about a token. -/
def unwatch (l : Layout) (number : Nat) : Layout :=
  { l with watched := l.watched.filter (·.1 ≠ number) }

/-- Adds a token at the end of the queue. -/
def push (l : Layout) (kind : TokenKind) (place : Place) : Layout :=
  { l with queue := l.queue ++ [⟨kind, place⟩] }

/-- Adds a token before the token with the given number, or at the end if that one has left. -/
def insert (l : Layout) (number : Nat) (kind : TokenKind) (place : Place) : Layout :=
  if number < l.released then l.push kind place
  else { l with queue := l.queue.insertIdx (number - l.released) ⟨kind, place⟩ }

/-- Moves on to the given spots. -/
def moveTo (l : Layout) (e : Ending) (rest : List Spot) : Layout :=
  { l with rest := rest, place := e.here rest }

/-! ## Columns -/

/-- The column of the innermost sequence or map that columns delimit. -/
def column? (l : Layout) : Option Nat := l.columns.head?

/-- Whether the column is further to the right than all that columns delimit so far. -/
def isDeeper (l : Layout) (column : Nat) : Bool := l.column?.all (· < column)

/-- Opens a sequence or map in the given column unless there is one already.  Its token is put
before the token with the given number. -/
def indent (l : Layout) (column number : Nat) (kind : TokenKind) (place : Place) :
    Except Fault Layout :=
  if l.inFlow || !l.isDeeper column then .ok l
  else if l.columns.length ≥ maxDepth then
    .error (.ofToken .tooDeep l.outermost.place.line l.place.line)
  else .ok ({ l with columns := column :: l.columns }.insert number kind place)

/-- The columns that are left when everything further to the right than `limit` is closed. -/
def columnsWithin (limit : Option Nat) (columns : List Nat) : List Nat :=
  columns.dropWhile fun column => limit.all (· < column)

/-- Closes all sequences and maps further to the right than `limit`, or all if there is none. -/
def dedent (l : Layout) (limit : Option Nat) : Layout :=
  if l.inFlow then l
  else
    let left := columnsWithin limit l.columns
    let ends := List.replicate (l.columns.length - left.length) (⟨.dedent, l.place⟩ : Token)
    { l with columns := left, queue := l.queue ++ ends }

/-! ## Keys -/

/-- Gives up the candidate of the current depth. -/
def dropCandidate (l : Layout) : Except Fault Layout :=
  let c := l.candidate
  if !c.possible then .ok l
  else if c.required then .error (c.fault l.place)
  else .ok ((l.setCandidate { c with possible := false }).unwatch c.number)

/-- Makes the next token the candidate of the current depth if a key may start here. -/
def saveCandidate (l : Layout) : Except Fault Layout :=
  if l.keyAllowed then do
    let required := !l.inFlow && l.column? = some l.place.column
    let next : Candidate := ⟨l.nextNumber, l.place, true, required⟩
    let l ← l.dropCandidate
    return { l.setCandidate next with watched := (next.number, l.inner.length) :: l.watched }
  else return l

/-- Goes one deeper into braces or brackets. -/
def enterFlow (l : Layout) : Except Fault Layout :=
  if l.inner.length ≥ maxDepth then .error (.ofToken .tooDeep l.place.line l.place.line)
  else .ok { l with inner := .absent l.nextNumber l.place :: l.inner }

/-- Leaves the innermost braces or brackets. -/
def leaveFlow (l : Layout) : Layout :=
  match l.inner with
  | [] => l
  | c :: outer => { l with inner := outer }.unwatch c.number

/-! ## Leaving the queue -/

/-- The candidate of the given depth. -/
def candidateAt? (l : Layout) (depth : Nat) : Option Candidate :=
  (l.outermost :: l.inner.reverse)[depth]?

/-- Whether the first token of the queue can still start a key. -/
def headOutlook (l : Layout) : Outlook :=
  match (l.watched.lookup l.released).bind l.candidateAt? with
  | some c => c.outlook l.place
  | none => .settled

/-- The tokens of the queue that can leave it, and the layout after them. -/
def release (l : Layout) : List Token → List Token × Except Fault Layout
  | t :: a :: b :: more =>
    match l.headOutlook with
    | .undecided => ([], .ok { l with queue := t :: a :: b :: more })
    | .missed fault => ([], .error fault)
    | .settled =>
      let l := l.unwatch l.released
      let (tokens, result) := release { l with released := l.released + 1 } (a :: b :: more)
      (t :: tokens, result)
  | queue => ([], .ok { l with queue := queue })

end Layout

end Yaml

end Stepwise
