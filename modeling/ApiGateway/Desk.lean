import ApiGateway.Duration.Basic

/-!
# Calls that wait

Many calls are open at the same time, each under a name, and each may wait for an answer until an
instant. A desk keeps them together with the state that they share and the time. Whenever the time
goes on, the calls whose time is over are ended, the earliest first; what has ended is kept until
somebody collects it.

The time goes on in two ways. It can pass, and then everything happens at its own instant; or it
can jump, and then everything that became due happens at the instant it jumped to.
-/

namespace ApiGateway

/-- How calls are brought to an end, and what else has to be done as time goes on. -/
structure Conduct (σ κ α : Type) where
  deadline? : κ → Option Instant
  isOver : κ → Bool
  answer : Instant → σ → κ → α → σ × κ
  expire : Instant → σ → κ → σ × κ
  abandon : Instant → σ → κ → σ
  /-- The work that became due between two instants, done at the latter. -/
  upkeep : Instant → Instant → σ → σ := fun _ _ s => s
  /-- The first instant after another one at which there is work. -/
  nextUpkeep? : Instant → Option Instant := fun _ => none

/-- A state, the time, the calls that wait, and those that have ended and were not collected. -/
structure Desk (σ κ : Type) where
  state : σ
  now : Instant := 0
  waiting : List (String × κ) := []
  ended : List (String × κ) := []

namespace Desk

variable {σ κ α : Type}

/-- Calls without the one under a name. -/
def without (name : String) (calls : List (String × κ)) : List (String × κ) :=
  calls.filter (·.1 ≠ name)

def isDue (c : Conduct σ κ α) (now : Instant) (call : κ) : Bool :=
  match c.deadline? call with
  | some t => t ≤ now
  | none => false

/-- Files a call: among those that have ended, or among those that wait. -/
def file (c : Conduct σ κ α) (name : String) (call : κ) (d : Desk σ κ) : Desk σ κ :=
  if c.isOver call then
    { d with waiting := without name d.waiting, ended := (name, call) :: without name d.ended }
  else
    { d with waiting := (name, call) :: without name d.waiting, ended := without name d.ended }

def expire (c : Conduct σ κ α) (d : Desk σ κ) (w : String × κ) : Desk σ κ :=
  let (state, call) := c.expire d.now d.state w.2
  file c w.1 call { d with state }

/-- The waiting calls whose time is over, the earliest first. -/
def due (c : Conduct σ κ α) (d : Desk σ κ) : List (String × κ) :=
  let deadline (w : String × κ) := (c.deadline? w.2).getD 0
  (d.waiting.filter fun w => isDue c d.now w.2).reverse.mergeSort
    fun a b => decide (deadline a ≤ deadline b)

/-- Moves the time to an instant, and does everything that became due there. -/
def jumpTo (c : Conduct σ κ α) (t : Instant) (d : Desk σ κ) : Desk σ κ :=
  let d := { d with state := c.upkeep d.now t d.state, now := t }
  (due c d).foldl (expire c) d

/-- The next instant, up to another one, at which something becomes due. -/
def nextEvent? (c : Conduct σ κ α) (t : Instant) (d : Desk σ κ) : Option Instant :=
  (((d.waiting.filterMap fun w => c.deadline? w.2) ++ (c.nextUpkeep? d.now).toList).filter
    fun e => decide (d.now < e ∧ e ≤ t)).min?

/-- Lets the time pass; the number bounds the instants at which something happens on the way. -/
def passThrough (c : Conduct σ κ α) (t : Instant) : Nat → Desk σ κ → Desk σ κ
  | 0, d => jumpTo c t d
  | n + 1, d =>
      match nextEvent? c t d with
      | some e => passThrough c t n (jumpTo c e d)
      | none => { d with now := t }

/-- Lets the time pass until an instant. -/
def passTo (c : Conduct σ κ α) (t : Instant) (d : Desk σ κ) : Desk σ κ :=
  -- something happens at later and later instants, so their difference bounds the steps
  passThrough c t (t - d.now) d

/-- Puts a new call on the desk; one whose time is over at once is ended. -/
def put (c : Conduct σ κ α) (name : String) (call : κ) (d : Desk σ κ) : Desk σ κ :=
  let d := match d.waiting.lookup name with
    | some old => { d with state := c.abandon d.now d.state old }
    | none => d
  let d := file c name call d
  if isDue c d.now call then expire c d (name, call) else d

/-- Gives up a call, and tells whether there was one. -/
def abandon (c : Conduct σ κ α) (name : String) (d : Desk σ κ) : Desk σ κ × Bool :=
  match d.waiting.lookup name with
  | some call =>
      ({ d with
          state := c.abandon d.now d.state call
          waiting := without name d.waiting }, true)
  | none =>
      ({ d with ended := without name d.ended }, d.ended.any (·.1 = name))

/-- Takes a call that has ended off the desk. -/
def collect (name : String) (d : Desk σ κ) : Desk σ κ × Option κ :=
  ({ d with ended := without name d.ended }, d.ended.lookup name)

/-- Takes all calls that have ended off the desk, in the order of their names. -/
def collectAll (d : Desk σ κ) : Desk σ κ × List (String × κ) :=
  ({ d with ended := [] }, d.ended.mergeSort fun a b => decide (a.1 ≤ b.1))

/--
Waits for the answer to a call that is not on the desk, which comes after a while. The time of the
call may be over before; an answer at the very end of it still counts. A call may need several
answers, one after another; the number bounds them.
-/
def await (c : Conduct σ κ α) (delay : Duration) (a : α) : Nat → Desk σ κ → κ → Desk σ κ × κ
  | 0, d, call => (d, call)
  | n + 1, d, call =>
      if c.isOver call then (d, call)
      else
        let arrival := d.now + delay
        match c.deadline? call with
        | some t =>
            if t < arrival then
              let d := passTo c t d
              let (state, call) := c.expire d.now d.state call
              await c delay a n { d with state } call
            else
              let d := passTo c arrival d
              let (state, call) := c.answer d.now d.state call a
              await c delay a n { d with state } call
        | none =>
            let d := passTo c arrival d
            let (state, call) := c.answer d.now d.state call a
            await c delay a n { d with state } call

/--
Waits for the answer to a call that is on the desk, and takes the call off it; one that has ended
needs no answer.
-/
def conclude (c : Conduct σ κ α) (name : String) (delay : Duration) (a : α) (n : Nat)
    (d : Desk σ κ) : Desk σ κ × Option κ :=
  match d.waiting.lookup name with
  | some call =>
      let (d, call) := await c delay a n { d with waiting := without name d.waiting } call
      (d, some call)
  | none => collect name d

end Desk

end ApiGateway
