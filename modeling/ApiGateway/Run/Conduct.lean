import ApiGateway.Desk
import ApiGateway.Run.Basic

/-!
# Many runs at a time

How the runs of a gateway are kept on a desk. A run that gets its answer, or whose time is over,
goes on through the remaining stages at once. Sweeps of the counters and of the cache are done
while the time goes on, where they are switched on.
-/

namespace ApiGateway

/-- How a backend answers requests. -/
abbrev Backend := Request → Except GatewayError Response

/-- How the runs of a gateway are brought to an end. -/
def Run.conduct (surroundings : Instant → Surroundings) (sweeping : Bool) :
    Conduct Gateway Run Backend where
  deadline? := Run.deadline?
  isOver := Run.isOver
  answer now g r backend :=
    match r.call? with
    | some c =>
        let (g, r) := r.answer now g (backend c.request)
        r.drive (surroundings now) g
    | none => (g, r)
  expire now g r :=
    let (g, r) := r.expire now g
    r.drive (surroundings now) g
  abandon now g r := r.abandon now g
  upkeep before now g := if sweeping then g.sweep before now else g
  nextUpkeep? now := if sweeping then some (Gateway.nextSweep now) else none

end ApiGateway
