import ApiGateway.Text.Ascii

/-!
# Request targets

A target is a path with an optional query, or a scheme with an authority and such a path, or an
authority alone. The reader follows the text from the left: the scheme, if there is one, then the
authority up to the first `/`, `?` or `#`, then the path, then the query; a fragment is dropped.

The authority is read by a small machine that counts colons and watches brackets, the percent
sign and the at sign, since these decide whether the text can be a host with a port.
-/

namespace ApiGateway

/-- A path as written, which may be empty, and the query after the first question mark. -/
structure PathAndQuery where
  path : String
  query : Option String
deriving DecidableEq

structure Uri where
  scheme : Option String
  authority : Option String
  pathAndQuery : Option PathAndQuery
deriving DecidableEq

namespace PathAndQuery

/-- The text as written; an empty one reads as the root path. -/
def text (pq : PathAndQuery) : String :=
  match pq.query with
  | some q => pq.path ++ "?" ++ q
  | none => if pq.path.isEmpty then "/" else pq.path

end PathAndQuery

namespace Uri

/-- Why a text is no request target. -/
inductive Fault
  | tooLong
  | empty
  | invalidCharacter
  | invalidAuthority
  | invalidFormat
  | schemeTooLong
deriving DecidableEq

def Fault.message : Fault → String
  | .tooLong => "uri too long"
  | .empty => "empty string"
  | .invalidCharacter => "invalid uri character"
  | .invalidAuthority => "invalid authority"
  | .invalidFormat => "invalid format"
  | .schemeTooLong => "scheme too long"

/-- The longest target in bytes. -/
def maxLength : Nat := 65534

/-- The longest scheme. -/
def maxSchemeLength : Nat := 64

/-- The path; an empty one reads as the root path if there is a scheme. -/
def path (u : Uri) : String :=
  match u.pathAndQuery with
  | some pq => if pq.path.isEmpty then "/" else pq.path
  | none => ""

def query (u : Uri) : Option String :=
  u.pathAndQuery.bind (·.query)

def print (u : Uri) : String :=
  let front := match u.scheme with
    | some s => s ++ "://"
    | none => ""
  let query := match u.query with
    | some q => "?" ++ q
    | none => ""
  front ++ u.authority.getD "" ++ u.path ++ query

/-- A character that ends the authority. -/
def endsAuthority (c : Char) : Bool :=
  c == '/' || c == '?' || c == '#'

/-- What the reader of an authority has seen. -/
structure AuthorityScan where
  colons : Nat := 0
  opened : Bool := false
  closed : Bool := false
  percent : Bool := false
  endsWithAt : Bool := false

/-- The most colons that may be counted at once. -/
def maxColons : Nat := 8

/-- A character that an authority may hold beside colons, brackets, at signs and percent signs. -/
def isAuthorityChar (c : Char) : Bool :=
  c.isAlphanum || "!$&'()*+,;=-._~".toList.contains c

/-- One character of an authority. -/
def AuthorityScan.step (s : AuthorityScan) (c : Char) : Except Fault AuthorityScan :=
  let s := { s with endsWithAt := false }
  if c = ':' then
    if maxColons ≤ s.colons then .error .invalidAuthority
    else .ok { s with colons := s.colons + 1 }
  else if c = '[' then
    if s.percent ∨ s.opened then .error .invalidAuthority
    else .ok { s with opened := true }
  else if c = ']' then
    if ¬ s.opened ∨ s.closed then .error .invalidAuthority
    else .ok { s with closed := true, colons := 0, percent := false }
  else if c = '@' then .ok { s with endsWithAt := true, colons := 0, percent := false }
  else if c = '%' then .ok { s with percent := true }
  else if isAuthorityChar c then .ok s
  else .error .invalidCharacter

/-- The end of an authority. -/
def AuthorityScan.finish (s : AuthorityScan) : Except Fault Unit :=
  if (s.opened ^^ s.closed) || 1 < s.colons || s.endsWithAt || s.percent then
    .error .invalidAuthority
  else .ok ()

/-- Cuts off the authority and checks it: the authority and the rest. -/
def readAuthority (cs : List Char) : Except Fault (List Char × List Char) := do
  if cs.isEmpty then .error .empty
  else
    let name := cs.takeWhile (! endsAuthority ·)
    let scan ← name.foldlM AuthorityScan.step {}
    scan.finish
    return (name, cs.dropWhile (! endsAuthority ·))

def isPathChar (c : Char) : Bool :=
  let n := c.toNat
  n == 0x21 || (0x24 ≤ n && n ≤ 0x3B) || n == 0x3D || (0x40 ≤ n && n ≤ 0x5F)
    || (0x61 ≤ n && n ≤ 0x7A) || n == 0x7C || n == 0x7E || n == 0x22 || n == 0x7B || n == 0x7D
    || 0x80 ≤ n

def isQueryChar (c : Char) : Bool :=
  let n := c.toNat
  n == 0x21 || (0x24 ≤ n && n ≤ 0x3B) || n == 0x3D || (0x3F ≤ n && n ≤ 0x7E) || 0x80 ≤ n

/-- Reads a path and a query; the fragment after them is dropped. -/
def readPathAndQuery (cs : List Char) : Except Fault PathAndQuery :=
  let path := cs.takeWhile fun c => c != '?' && c != '#'
  let rest := cs.dropWhile fun c => c != '?' && c != '#'
  if ! path.all isPathChar then .error .invalidCharacter
  else
    match rest with
    | '?' :: rest =>
        let query := rest.takeWhile (· != '#')
        if ! query.all isQueryChar then .error .invalidCharacter
        else .ok ⟨String.ofList path, some (String.ofList query)⟩
    | _ => .ok ⟨String.ofList path, none⟩

def isSchemeChar (c : Char) : Bool :=
  c.isAlphanum || c == '+' || c == '.' || c == '~' || c == '-'

/--
The scheme at the front of a target and the rest after its `://`. The two usual schemes are
found in any case and kept in lower case; every other scheme keeps its case.
-/
def readScheme (cs : List Char) : Except Fault (Option String × List Char) :=
  if (cs.take 7).map Char.toLower = "http://".toList then .ok (some "http", cs.drop 7)
  else if (cs.take 8).map Char.toLower = "https://".toList then .ok (some "https", cs.drop 8)
  else
    let name := cs.takeWhile isSchemeChar
    match cs.drop name.length with
    | ':' :: '/' :: '/' :: rest =>
        if name.isEmpty ∧ rest.isEmpty then .ok (none, cs)
        else if maxSchemeLength < name.length then .error .schemeTooLong
        else .ok (some (String.ofList name), rest)
    | _ => .ok (none, cs)

def read (s : String) : Except Fault Uri :=
  if maxLength < s.utf8ByteSize then .error .tooLong
  else
    match s.toList with
    | [] => .error .empty
    | ['/'] => .ok ⟨none, none, some ⟨"/", none⟩⟩
    | ['*'] => .ok ⟨none, none, some ⟨"*", none⟩⟩
    | '/' :: cs => do return ⟨none, none, some (← readPathAndQuery ('/' :: cs))⟩
    | [c] => do
        let (name, rest) ← readAuthority [c]
        if rest.isEmpty then return ⟨none, some (String.ofList name), none⟩
        else .error .invalidCharacter
    | cs => do
        let (scheme, rest) ← readScheme cs
        let (name, rest) ← readAuthority rest
        match scheme with
        | none =>
            if rest.isEmpty then return ⟨none, some (String.ofList name), none⟩
            else .error .invalidFormat
        | some _ =>
            if name.isEmpty then .error .invalidFormat
            else return ⟨scheme, some (String.ofList name), some (← readPathAndQuery rest)⟩

end Uri
end ApiGateway
