import ApiGateway.Toml.Scalar

/-!
# Reading TOML

A document is a sequence of lines. A header line opens a table, or adds one to a list of tables;
a line `key = value` sets a field of the table that is open. Keys may be dotted, which makes
tables on the way.

No table may be defined twice. For that each table in the making remembers whether it only came
about on the way to another one, and whether a dotted key made it: a header may still open a table
of the first kind, and dotted keys may only extend tables of the second kind.
-/

namespace ApiGateway
namespace Toml

/-- A part of a document in the making. -/
inductive Node
  | value (d : Data)
  /-- A table; `onTheWay` if no header has opened it, `dotted` if a dotted key made it. -/
  | table (onTheWay dotted : Bool) (fields : List (String × Node))
  /-- A list of tables, the latest one first. -/
  | tables (latestFirst : List Node)

mutual

def Node.toData : Node → Data
  | .value d => d
  | .table _ _ fields => .table (fieldsToData fields)
  | .tables ts => .list (nodesToData ts).reverse

/-- The finished parts of a list. -/
def nodesToData : List Node → List Data
  | [] => []
  | n :: ns => n.toData :: nodesToData ns

/-- The finished fields of a table. -/
def fieldsToData : List (String × Node) → List (String × Data)
  | [] => []
  | (k, n) :: fs => (k, n.toData) :: fieldsToData fs

end

/-- Sets a field, in place if it is there and at the end if not. -/
def putField (k : String) (n : Node) : List (String × Node) → List (String × Node)
  | [] => [(k, n)]
  | (j, m) :: fs => if j = k then (k, n) :: fs else (j, m) :: putField k n fs

/--
Changes the table at the end of a path, making tables on the way. Dotted keys may not pass
through a table that a header has opened, and nothing passes through a value; a list of tables
stands for its latest table.
-/
def Node.update (dotted : Bool) (change : Node → Option Node) : List String → Node → Option Node
  | [], n => change n
  | k :: path, .table w d fields =>
      match (fields.lookup k).getD (.table true dotted []) with
      | .value _ => none
      | .tables [] => none
      | .tables (latest :: earlier) => do
          let latest ← Node.update dotted change path latest
          return .table w d (putField k (.tables (latest :: earlier)) fields)
      | .table w' d' fields' =>
          if dotted && ! w' then none
          else do
            let child ← Node.update dotted change path (.table w' d' fields')
            return .table w d (putField k child fields)
  | _ :: _, _ => none

/-- What stands at the end of a path: nothing where the path cannot be followed. -/
def Node.find? : List String → Node → Option (Option Node)
  | [], n => some (some n)
  | k :: path, .table _ _ fields =>
      match fields.lookup k with
      | none => some none
      | some (.tables (latest :: _)) =>
          if path.isEmpty then some (some (.tables [latest])) else Node.find? path latest
      | some (.tables []) => none
      | some (.value d) => if path.isEmpty then some (some (.value d)) else none
      | some (.table w d fs) => Node.find? path (.table w d fs)
  | _ :: _, _ => none

/-- Sets a field of a table by a dotted or a plain key. -/
def Node.setKey (n : Node) (path : List String) (k : String) (v : Node) : Option Node :=
  n.update true
    (fun
      | .table w d fields =>
          if d = path.isEmpty ∨ (fields.lookup k).isSome then none
          else some (.table w d (fields ++ [(k, v)]))
      | _ => none)
    path

/-- Sets the fields of a table written within braces. -/
def inlineTable (pairs : List (List String × String × Data)) : Option Data := do
  let table ← pairs.foldlM
    (fun table p => table.setKey p.1 p.2.1 (.value p.2.2)) (Node.table false false [])
  return table.toData

/-- A character of a key without quotes. -/
def isKeyChar (c : Char) : Bool :=
  c.isAlphanum || c == '_' || c == '-'

/-- One part of a key. -/
def keyPart? (cs : List Char) : Option (String × List Char) :=
  match cs with
  | '"' :: rest => (basicText (rest.length + 1) rest).map fun r => (String.ofList r.1, r.2)
  | '\'' :: rest => (literalText rest).map fun r => (String.ofList r.1, r.2)
  | _ =>
      let name := cs.takeWhile isKeyChar
      if name.isEmpty then none else some (String.ofList name, cs.drop name.length)

/-- A key: its parts but the last, the last one, and the rest after blanks. -/
def key? : Nat → List Char → Option (List String × String × List Char)
  | 0, _ => none
  | n + 1, cs => do
      let (part, rest) ← keyPart? (skipBlanks cs)
      match skipBlanks rest with
      | '.' :: rest =>
          let (path, last, rest) ← key? n rest
          return (part :: path, last, rest)
      | rest => return ([], part, rest)

/-- The most parts of a key and the deepest nesting of values. -/
def maxDepth : Nat := 79

/-- The text after a comment, if the text starts with one. -/
def skipComment (cs : List Char) : List Char :=
  match cs with
  | '#' :: rest => rest.dropWhile isPlain
  | _ => cs

/-- The text after blanks, line ends and comments. -/
def skipLines : Nat → List Char → List Char
  | 0, cs => cs
  | n + 1, cs =>
      let rest := skipComment (skipBlanks cs)
      match afterNewline? rest with
      | some rest => skipLines n rest
      | none => rest

/-- The rest after a word. -/
def afterWord? (word cs : List Char) : Option (List Char) :=
  if word.isPrefixOf cs then some (cs.drop word.length) else none

mutual

/--
Reads a value. The first number bounds the work and the second counts how many more levels of
nesting are allowed.
-/
def value? : Nat → Nat → List Char → Option (Data × List Char)
  | 0, _, _ => none
  | fuel + 1, depth, cs =>
      match cs with
      | [] => none
      | c :: rest =>
          if c = '"' ∨ c = '\'' then (text? cs).map fun r => (.text r.1, r.2)
          else if c = '[' then
            match depth with
            | 0 => none
            | depth + 1 => (items? fuel depth rest).map fun r => (.list r.1, r.2)
          else if c = '\x7b' then
            match depth with
            | 0 => none
            | depth + 1 =>
                match skipBlanks rest with
                | '\x7d' :: rest => some (.table [], rest)
                | rest =>
                    match pairs? fuel depth rest with
                    | none => none
                    | some (pairs, rest) => (inlineTable pairs).map fun d => (d, rest)
          else if c = 't' then (afterWord? "true".toList cs).map fun r => (.bool true, r)
          else if c = 'f' then (afterWord? "false".toList cs).map fun r => (.bool false, r)
          else if c = 'i' ∨ c = 'n' then fractional? cs
          else numeric? cs

/-- Reads the items of a list up to its closing bracket; a comma may follow the last one. -/
def items? : Nat → Nat → List Char → Option (List Data × List Char)
  | 0, _, _ => none
  | fuel + 1, depth, cs =>
      match skipLines (cs.length + 1) cs with
      | ']' :: rest => some ([], rest)
      | rest =>
          match value? fuel depth rest with
          | none => none
          | some (d, rest) =>
              match skipLines (rest.length + 1) rest with
              | ']' :: rest => some ([d], rest)
              | ',' :: rest => (items? fuel depth rest).map fun r => (d :: r.1, r.2)
              | _ => none

/-- Reads the fields of a table within braces, all on one line, up to the closing brace. -/
def pairs? : Nat → Nat → List Char → Option (List (List String × String × Data) × List Char)
  | 0, _, _ => none
  | fuel + 1, depth, cs =>
      match key? maxDepth cs with
      | none => none
      | some (path, last, rest) =>
          match rest with
          | '=' :: rest =>
              match value? fuel depth (skipBlanks rest) with
              | none => none
              | some (d, rest) =>
                  match skipBlanks rest with
                  | '\x7d' :: rest => some ([(path, last, d)], rest)
                  | ',' :: rest =>
                      (pairs? fuel depth rest).map fun r => ((path, last, d) :: r.1, r.2)
                  | _ => none
          | _ => none

end

/-- A document in the making: the finished tables, and the one that is open. -/
structure Draft where
  root : Node := .table false false []
  current : Node := .table false false []
  path : List String := []
  inList : Bool := false

/-- Puts the open table in its place. -/
def Draft.close (s : Draft) : Option Node :=
  match s.path.getLast? with
  | none => some s.current
  | some k =>
      s.root.update false
        (fun
          | .table w d fields =>
              if s.inList then
                match fields.lookup k with
                | none => some (.table w d (putField k (.tables [s.current]) fields))
                | some (.tables ts) =>
                    some (.table w d (putField k (.tables (s.current :: ts)) fields))
                | _ => none
              else some (.table w d (putField k s.current fields))
          | _ => none)
        s.path.dropLast

/-- Opens the table of a header; one that was only on the way keeps its fields. -/
def Draft.openTable (s : Draft) (path : List String) : Option Draft := do
  let root ← s.close
  match ← root.find? path with
  | none => return ⟨root, .table false false [], path, false⟩
  | some (.table true false fields) => return ⟨root, .table false false fields, path, false⟩
  | some _ => none

/-- Opens a new table of a list of tables. -/
def Draft.openInList (s : Draft) (path : List String) : Option Draft := do
  let root ← s.close
  match ← root.find? path with
  | none => return ⟨root, .table false false [], path, true⟩
  | some (.tables _) => return ⟨root, .table false false [], path, true⟩
  | some _ => none

/-- One line without what follows its value or header: the new draft and the rest. -/
def Draft.line (s : Draft) (cs : List Char) : Option (Draft × List Char) :=
  match cs with
  | '[' :: '[' :: rest => do
      let (path, last, rest) ← key? maxDepth rest
      let s ← s.openInList (path ++ [last])
      match rest with
      | ']' :: ']' :: rest => return (s, rest)
      | _ => none
  | '[' :: rest => do
      let (path, last, rest) ← key? maxDepth rest
      let s ← s.openTable (path ++ [last])
      match rest with
      | ']' :: rest => return (s, rest)
      | _ => none
  | _ => do
      let (path, last, rest) ← key? maxDepth cs
      match rest with
      | '=' :: rest =>
          let (d, rest) ← value? (2 * rest.length + 2) maxDepth (skipBlanks rest)
          let table ← s.current.setKey path last (.value d)
          return ({ s with current := table }, rest)
      | _ => none

/-- The text after a line, which ends with a line end or with the document. -/
def lineEnd? (cs : List Char) : Option (List Char) :=
  if cs.isEmpty then some [] else afterNewline? cs

/-- The lines of a document; the number bounds how many there are. -/
def lines? : Nat → Draft → List Char → Option Draft
  | 0, _, _ => none
  | n + 1, s, cs =>
      match skipBlanks cs with
      | [] => some s
      | '#' :: rest => (lineEnd? (rest.dropWhile isPlain)).bind (lines? n s)
      | c :: rest =>
          match afterNewline? (c :: rest) with
          | some rest => lines? n s rest
          | none =>
              match s.line (c :: rest) with
              | none => none
              | some (s, rest) => (lineEnd? (skipComment (skipBlanks rest))).bind (lines? n s)

/-- The document that a text denotes. -/
def read? (text : String) : Option Data := do
  let cs := match text.toList with
    | '\uFEFF' :: cs => cs
    | cs => cs
  let s ← lines? (cs.length + 2) {} cs
  let root ← s.close
  return root.toData

end Toml
end ApiGateway
