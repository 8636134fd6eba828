import ApiGateway.Error

/-!
# Path templates

A template is literal text with placeholders `{name}`. A path matches an upstream template if it
can be cut into the literal pieces and values for the placeholders, where no value holds a line
break; of several ways to cut it, the first placeholder takes as much as it can, then the second,
and so on.

Main statements: `table_eq` says that the table of partial results that `Template.bind?` works
with holds, for every tail of the path, what the plain search `bindFrom` finds for that tail.
-/

namespace ApiGateway

/-- A piece of a template. -/
inductive Segment
  | literal (text : String)
  | placeholder (name : String)
deriving DecidableEq

namespace Segment

def render : Segment → String
  | literal text => text
  | placeholder name => "\x7b" ++ name ++ "\x7d"

def name? : Segment → Option String
  | literal _ => none
  | placeholder name => some name

end Segment

namespace Template

/-- Why a text is no template. -/
inductive Fault
  | unmatched
  | unclosed
  | invalidName (name : String)
deriving DecidableEq

def Fault.message (template : String) : Fault → String
  | .unmatched => "unmatched '\x7d' in template '" ++ template ++ "'"
  | .unclosed => "unclosed '\x7b' in template '" ++ template ++ "'"
  | .invalidName name =>
      "invalid placeholder '\x7b" ++ name ++ "\x7d' in template '" ++ template ++ "'"

/-- The refusal of a template. -/
def Fault.toError (template : String) (f : Fault) : GatewayError :=
  .config (f.message template)

/-- What the reader of a template is in the middle of, with the characters so far in reverse. -/
inductive Mode
  | literal (reversed : List Char)
  | name (reversed : List Char)

/-- A name is not empty and holds neither an opening brace nor a slash. -/
def isName (cs : List Char) : Bool :=
  ! cs.isEmpty && cs.all fun c => c ≠ '\x7b' && c ≠ '/'

/-- Puts a literal piece in front, unless it is empty. -/
def consLiteral (reversed : List Char) (segments : List Segment) : List Segment :=
  if reversed.isEmpty then segments
  else .literal (String.ofList reversed.reverse) :: segments

/-- Reads the pieces of a template from the middle of one. -/
def tokenizeFrom : Mode → List Char → Except Fault (List Segment)
  | .literal rev, [] => .ok (consLiteral rev [])
  | .literal rev, c :: cs =>
      if c = '\x7d' then .error .unmatched
      else if c = '\x7b' then (tokenizeFrom (.name []) cs).map (consLiteral rev)
      else tokenizeFrom (.literal (c :: rev)) cs
  | .name _, [] => .error .unclosed
  | .name rev, c :: cs =>
      if c = '\x7d' then
        if isName rev.reverse then
          (tokenizeFrom (.literal []) cs).map (.placeholder (String.ofList rev.reverse) :: ·)
        else .error (.invalidName (String.ofList rev.reverse))
      else tokenizeFrom (.name (c :: rev)) cs

/-- The pieces of a template. -/
def tokenize (s : String) : Except Fault (List Segment) :=
  tokenizeFrom (.literal []) s.toList

def render (segments : List Segment) : String :=
  String.join (segments.map Segment.render)

/-- The rest of a text after a literal piece. -/
def afterLiteral? : List Char → List Char → Option (List Char)
  | [], cs => some cs
  | l :: ls, c :: cs => if l = c then afterLiteral? ls cs else none
  | _ :: _, [] => none

/-- Puts a character in front of the first value. -/
def extend (c : Char) : List (List Char) → List (List Char)
  | [] => []
  | v :: vs => (c :: v) :: vs

/--
The values of the placeholders by plain search: a placeholder first tries to take one more
character, then to stop.
-/
def bindFrom : List Segment → List Char → Option (List (List Char))
  | [], [] => some []
  | [], _ :: _ => none
  | .literal l :: segs, cs =>
      match afterLiteral? l.toList cs with
      | some rest => bindFrom segs rest
      | none => none
  | .placeholder _ :: segs, [] => (bindFrom segs []).map ([] :: ·)
  | .placeholder n :: segs, c :: cs =>
      ((if c = '\n' then none else bindFrom (.placeholder n :: segs) cs).map (extend c)).or
        ((bindFrom segs (c :: cs)).map ([] :: ·))
termination_by segs cs => (segs.length, cs.length)

/-- The tails of a text, the text itself first and the empty text last. -/
def tails : List Char → List (List Char)
  | [] => [[]]
  | c :: cs => (c :: cs) :: tails cs

/-- Results for a literal piece at every tail, from those of the rest of the template. -/
def literalTable (l : List Char) :
    List Char → List (Option (List (List Char))) → List (Option (List (List Char)))
  | [], rest =>
      [if (afterLiteral? l []).isSome then (rest.drop l.length).head?.join else none]
  | c :: cs, rest =>
      (if (afterLiteral? l (c :: cs)).isSome then (rest.drop l.length).head?.join else none)
        :: literalTable l cs rest.tail

/-- Results for a placeholder at every tail, from those of the rest of the template. -/
def placeholderTable :
    List Char → List (Option (List (List Char))) → List (Option (List (List Char)))
  | [], rest => [rest.head?.join.map ([] :: ·)]
  | c :: cs, rest =>
      let later := placeholderTable cs rest.tail
      (((if c = '\n' then none else later.head?.join).map (extend c)).or
        (rest.head?.join.map ([] :: ·))) :: later

/-- The results of the search at every tail of a path. -/
def table : List Segment → List Char → List (Option (List (List Char)))
  | [], cs => (tails cs).map fun t => if t.isEmpty then some [] else none
  | .literal l :: segs, cs => literalTable l.toList cs (table segs cs)
  | .placeholder _ :: segs, cs => placeholderTable cs (table segs cs)

theorem afterLiteral?_eq_some {l cs rest : List Char} :
    afterLiteral? l cs = some rest ↔ cs = l ++ rest := by
  induction l generalizing cs with
  | nil => simp [afterLiteral?, eq_comm]
  | cons a l ih =>
      cases cs with
      | nil => simp [afterLiteral?]
      | cons c cs =>
          by_cases h : a = c
          · subst h
            simp [afterLiteral?, ih]
          · simp [afterLiteral?, h, Ne.symm h]

theorem tails_eq_cons (cs : List Char) : ∃ ts, tails cs = cs :: ts := by
  cases cs with
  | nil => exact ⟨[], rfl⟩
  | cons c cs => exact ⟨tails cs, rfl⟩

theorem head?_drop_tails (l cs : List Char) :
    ((tails (l ++ cs)).drop l.length).head? = some cs := by
  induction l with
  | nil =>
      obtain ⟨ts, h⟩ := tails_eq_cons cs
      simp [h]
  | cons c l ih => simpa [tails] using ih

/-- One entry of the table of a literal piece. -/
theorem literal_entry (l cs : List Char) (f : List Char → Option (List (List Char))) :
    (if (afterLiteral? l cs).isSome then (((tails cs).map f).drop l.length).head?.join else none)
      = (afterLiteral? l cs).bind f := by
  cases h : afterLiteral? l cs with
  | none => simp
  | some rest =>
      obtain rfl := afterLiteral?_eq_some.1 h
      rw [← List.map_drop, List.head?_map, head?_drop_tails]
      simp

theorem literalTable_map (l cs : List Char) (f : List Char → Option (List (List Char))) :
    literalTable l cs ((tails cs).map f) = (tails cs).map fun t => (afterLiteral? l t).bind f := by
  induction cs with
  | nil => simpa [literalTable, tails] using literal_entry l [] f
  | cons c cs ih =>
      have h := literal_entry l (c :: cs) f
      simp only [tails, List.map_cons] at h
      simp only [literalTable, tails, List.map_cons, List.tail_cons, ih]
      exact congrArg (· :: _) h

theorem placeholderTable_map (n : String) (segs : List Segment) (cs : List Char) :
    placeholderTable cs ((tails cs).map (bindFrom segs))
      = (tails cs).map (bindFrom (.placeholder n :: segs)) := by
  induction cs with
  | nil => simp [placeholderTable, tails, bindFrom]
  | cons c cs ih =>
      obtain ⟨ts, h⟩ := tails_eq_cons cs
      simp only [placeholderTable, tails, List.map_cons, List.tail_cons, ih]
      simp [h, bindFrom]

/-- The table holds, for every tail of a path, what the plain search finds for it. -/
theorem table_eq (segs : List Segment) (cs : List Char) :
    table segs cs = (tails cs).map (bindFrom segs) := by
  induction segs with
  | nil =>
      refine List.map_congr_left fun t _ => ?_
      cases t <;> simp [bindFrom]
  | cons seg segs ih =>
      cases seg with
      | literal l =>
          rw [table, ih, literalTable_map]
          refine List.map_congr_left fun t _ => ?_
          cases h : afterLiteral? l.toList t <;> simp [bindFrom, h]
      | placeholder n => rw [table, ih, placeholderTable_map n]

end Template

structure Binding where
  name : String
  value : String
deriving DecidableEq

/-- A path that matches a template: the values in the order of the placeholders. -/
structure PathMatch where
  bindings : List Binding
  matched : String
deriving DecidableEq

/-- A template that was read. -/
structure Template where
  text : String
  segments : List Segment
deriving DecidableEq

namespace Template

def compile (s : String) : Except GatewayError Template :=
  match tokenize s with
  | .ok segments => .ok ⟨s, segments⟩
  | .error f => .error (f.toError s)

def placeholders (t : Template) : List String :=
  t.segments.filterMap Segment.name?

/-- The template with every placeholder shown as a wildcard, and an end mark. -/
def pattern (t : Template) : String :=
  String.join (t.segments.map fun
    | .literal text => text
    | .placeholder _ => ".*") ++ "$"

/-- The values of the placeholders in a path. -/
def bind? (t : Template) (path : List Char) : Option (List (List Char)) :=
  (table t.segments path).head?.join

/-- The table gives what the plain search gives. -/
theorem bind?_eq_bindFrom (t : Template) (path : List Char) :
    t.bind? path = bindFrom t.segments path := by
  obtain ⟨ts, h⟩ := tails_eq_cons path
  simp [bind?, table_eq, h]

def isMatch (t : Template) (path : String) : Bool :=
  (t.bind? path.toList).isSome

def match? (t : Template) (path : String) : Option PathMatch :=
  (t.bind? path.toList).map fun values =>
    ⟨(t.placeholders.zip values).map fun b => ⟨b.1, String.ofList b.2⟩, path⟩

end Template
end ApiGateway
