import ApiGateway.Route.Template

/-!
# Substitution

The downstream path of a request: the n-th placeholder of the downstream template takes the n-th
value that the upstream template has bound, whatever the names are. Values are copied as they
are, and never read as templates.
-/

namespace ApiGateway
namespace Template

/-- The name of the first placeholder for which no value is left, or the filled pieces. -/
def fill : List Segment → List Binding → Except String (List String)
  | [], _ => .ok []
  | .literal text :: segs, bs => (fill segs bs).map (text :: ·)
  | .placeholder name :: _, [] => .error name
  | .placeholder _ :: segs, b :: bs => (fill segs bs).map (b.value :: ·)

/-- The text of a template with its placeholders replaced by the values in order. -/
def substitute (template : String) (m : PathMatch) : Except GatewayError String :=
  if template.isEmpty ∧ m.bindings.isEmpty then .ok ""
  else
    match tokenize template with
    | .error f => .error (f.toError template)
    | .ok segments =>
        match fill segments m.bindings with
        | .ok texts => .ok (String.join texts)
        | .error name =>
            .error (.internal
              ("downstream template '" ++ template ++
                "' has more placeholders than the upstream match, missing '\x7b" ++ name
                ++ "\x7d'"))

end Template
end ApiGateway
