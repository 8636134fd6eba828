import ApiGateway.Proofs.Traffic.Lookups

/-!
# Successive configurations

A configuration comes into force in two parts. It is checked and its table is made, which draws a
number; for this nobody has to wait. Then it waits until no other one is being put in force, and is
put in force by several changes, one after the other. Requests go on in between.

`Gateway.reloadWith` is all of this at once, where clients of service registries are made by
somebody who may fail; `Succession` takes it apart.
-/

namespace ApiGateway

/-- Somebody who makes clients of service registries, and may fail for certain settings. -/
abbrev ClientMaker := Config.ServiceDiscovery → Except GatewayError Unit

/-- Asks for the client that a configuration needs, if it needs one. -/
def ClientMaker.serve (maker : ClientMaker) (c : Config.Gateway) : Except GatewayError Unit :=
  match c.global.serviceDiscovery with
  | none => .ok ()
  | some settings => maker settings

namespace Gateway

/-- Checks a configuration, makes its table, and asks for the client that it needs. -/
def prepareWith (maker : ClientMaker) (g : Gateway) (c : Config.Gateway) :
    Gateway × Except Config.Fault Prepared :=
  match g.prepare c with
  | (g, .error f) => (g, .error f)
  | (g, .ok p) =>
      match maker.serve c with
      | .error e => (g, .error (.gateway e))
      | .ok () => (g, .ok p)

/-- Takes a new configuration, or refuses it. -/
def reloadWith (maker : ClientMaker) (g : Gateway) (c : Config.Gateway) :
    Gateway × Except Config.Fault Unit :=
  match g.prepareWith maker c with
  | (g, .error f) => (g, .error f)
  | (g, .ok p) => (g.install p, .ok ())

/-- Where all clients can be made, this is how a gateway takes a new configuration. -/
theorem reloadWith_of_ok (g : Gateway) (c : Config.Gateway) :
    g.reloadWith (fun _ => .ok ()) c = g.reload c := by
  have hserve : ClientMaker.serve (fun _ => .ok ()) c = .ok () := by
    unfold ClientMaker.serve
    split <;> rfl
  unfold reloadWith reload prepareWith
  rw [hserve]
  cases g.prepare c with
  | mk g' result => cases result <;> rfl

/-- A gateway that has drawn a number for a table. -/
def drawn (g : Gateway) : Gateway := { g with nextGeneration := g.nextGeneration + 1 }

/-- How the preparation of a configuration goes. -/
inductive Preparing (maker : ClientMaker) (g : Gateway) (c : Config.Gateway) :
    Gateway × Except Config.Fault Prepared → Prop
  | invalid {v : Config.Violation} :
      c.validate = .error v →
      Preparing maker g c (g, .error (.violation v))
  | uncompiled {e : GatewayError} :
      c.validate = .ok () →
      RouteTable.compile g.nextGeneration c = .error e →
      Preparing maker g c (g.drawn, .error (.gateway e))
  | unserved {table : RouteTable} {e : GatewayError} :
      c.validate = .ok () →
      RouteTable.compile g.nextGeneration c = .ok table →
      maker.serve c = .error e →
      Preparing maker g c (g.drawn, .error (.gateway e))
  | ready {table : RouteTable} :
      c.validate = .ok () →
      RouteTable.compile g.nextGeneration c = .ok table →
      maker.serve c = .ok () →
      Preparing maker g c (g.drawn, .ok ⟨c, table⟩)

theorem preparing_prepareWith (maker : ClientMaker) (g : Gateway) (c : Config.Gateway) :
    Preparing maker g c (g.prepareWith maker c) := by
  unfold prepareWith prepare
  cases hvalid : c.validate with
  | error v => exact .invalid hvalid
  | ok u =>
      dsimp only
      cases htable : RouteTable.compile g.nextGeneration c with
      | error e => exact .uncompiled hvalid htable
      | ok table =>
          cases hserve : maker.serve c with
          | error e => exact .unserved hvalid htable hserve
          | ok u => exact .ready hvalid htable hserve

end Gateway

/-- One of the things that are done to put a configuration in force. -/
inductive Change
  | table (t : RouteTable)
  | config (c : Config.Gateway)
  | directory (d : ServiceDirectory)
  | forgetBalancers
  | forgetBreakers
  | report (t : RouteTable)

/-- A gateway after a change. -/
def Change.make (g : Gateway) : Change → Gateway
  | .table t => { g with table := t }
  | .config c => { g with config := c }
  | .directory d => { g with balancers := { g.balancers with directory := d } }
  | .forgetBalancers => { g with balancers := g.balancers.clear }
  | .forgetBreakers => { g with breakers := g.breakers.clear }
  | .report t =>
      { g with metrics := (Gateway.countRoutes g.metrics t).count "gateway_config_reloads_total" }

/-- A configuration on its way into force, with the number that its table has drawn. -/
structure Ticket extends Gateway.Prepared where
  generation : Nat

namespace Ticket

def directory (k : Ticket) : ServiceDirectory :=
  .ofConfig k.config.global.serviceDiscovery

def changes (k : Ticket) : List Change :=
  [.table k.table, .config k.config, .directory k.directory, .forgetBalancers, .forgetBreakers,
    .report k.table]

/-- Without anything in between, the changes put the configuration in force as a whole. -/
theorem foldl_changes (g : Gateway) (k : Ticket) :
    k.changes.foldl Change.make g = g.install k.toPrepared :=
  rfl

end Ticket

open BalancerRegistry in
/-- The roster of a registry after a change. -/
def Change.enter (r : Roster) : Change → Roster
  | .directory d => { r with registry := { r.registry with directory := d } }
  | .forgetBalancers => r.meet .clear
  | _ => r

open BalancerRegistry in
/-- A roster when the load balancer of a route is looked up, if one is sought. -/
def BalancerRegistry.Roster.seek (r : Roster) : Option Route → Roster
  | none => r
  | some route => r.meet (.ask .whole route)

/--
Traffic at a gateway whose configuration is changed from time to time. Beside the configurations
that wait and the changes that are still to be made, it keeps a record of what has happened.
-/
structure Succession where
  traffic : Traffic
  waiting : List Ticket := []
  /-- What is still to be done for the configuration that is being put in force. -/
  turn : List Change := []
  /-- All configurations that got a table, in the order in which the numbers were drawn. -/
  drawn : List Ticket
  /-- All configurations that were put in force, the latest one first. -/
  installed : List Ticket
  /-- The load balancers in outline, with what was told since they were last forgotten. -/
  roster : BalancerRegistry.Roster

namespace Succession

/-- The configuration and the table with which a gateway starts; it has the number zero. -/
def first (g : Gateway) : Ticket := ⟨⟨g.config, g.table⟩, 0⟩

/-- A gateway to which no request was made yet. -/
def new (g : Gateway) : Succession where
  traffic := .new g
  drawn := [first g]
  installed := [first g]
  roster := { registry := g.balancers }

/-- What happens. -/
inductive Event
  | request (event : Traffic.Event)
  | prepare (maker : ClientMaker) (config : Config.Gateway)
  /-- One of the configurations that wait gets its turn. -/
  | enter (i : Nat)
  /-- The next change is made. -/
  | change

variable (o : Succession)

def gateway : Gateway := o.traffic.gateway

/-- Another state of the gateway. -/
def withGateway (g : Gateway) : Succession :=
  { o with traffic := { o.traffic with gateway := g } }

def request (e : Traffic.Event) : Succession :=
  { o with traffic := o.traffic.meet e, roster := o.roster.seek (o.traffic.seeks? e) }

/-- A configuration is ready and begins to wait. -/
def await (k : Ticket) : Succession :=
  { o.withGateway o.gateway.drawn with waiting := o.waiting ++ [k], drawn := o.drawn ++ [k] }

/-- A configuration gets its turn. -/
def callUp (i : Nat) (k : Ticket) : Succession :=
  { o with waiting := o.waiting.eraseIdx i, turn := k.changes, installed := k :: o.installed }

/-- A change is made, and some are left. -/
def make (c : Change) (rest : List Change) : Succession :=
  { o.withGateway (Change.make o.gateway c) with turn := rest, roster := Change.enter o.roster c }

/-- What comes of an event. Configurations are put in force one after the other. -/
def meet (o : Succession) : Event → Succession
  | .request e => if e.renews then o else o.request e
  | .prepare maker c =>
      match o.gateway.prepareWith maker c with
      | (g, .error _) => o.withGateway g
      | (_, .ok p) => o.await ⟨p, o.gateway.nextGeneration⟩
  | .enter i =>
      match o.turn, o.waiting[i]? with
      | [], some k => o.callUp i k
      | _, _ => o
  | .change =>
      match o.turn with
      | [] => o
      | c :: rest => o.make c rest

def after (o : Succession) (events : List Event) : Succession :=
  events.foldl meet o

/-- All that an event may come to. -/
inductive Met (o : Succession) : Succession → Prop
  | idle :
      Met o o
  | request {e : Traffic.Event} :
      e.renews = false →
      Met o (o.request e)
  | refused :
      Met o (o.withGateway o.gateway.drawn)
  | ready {c : Config.Gateway} {table : RouteTable} :
      c.validate = .ok () →
      RouteTable.compile o.gateway.nextGeneration c = .ok table →
      Met o (o.await ⟨⟨c, table⟩, o.gateway.nextGeneration⟩)
  | calledUp {i : Nat} {k : Ticket} :
      o.turn = [] →
      k ∈ o.waiting →
      Met o (o.callUp i k)
  | changed {c : Change} {rest : List Change} :
      o.turn = c :: rest →
      Met o (o.make c rest)

theorem met_meet (o : Succession) (e : Event) : Met o (o.meet e) := by
  cases e with
  | request e =>
      rw [meet]
      cases he : e.renews with
      | true => exact .idle
      | false => exact .request he
  | prepare maker c =>
      have hpreparing := Gateway.preparing_prepareWith maker o.gateway c
      rw [meet]
      generalize o.gateway.prepareWith maker c = result at hpreparing ⊢
      cases hpreparing with
      | invalid _ => exact .idle
      | uncompiled _ _ => exact .refused
      | unserved _ _ _ => exact .refused
      | ready hvalid htable _ => exact .ready hvalid htable
  | enter i =>
      rw [meet]
      split
      · rename_i hturn hk
        exact .calledUp hturn (List.mem_of_getElem? hk)
      · exact .idle
  | change =>
      rw [meet]
      split
      · exact .idle
      · rename_i hturn
        exact .changed hturn

/-- What holds of a new gateway and is kept by whatever an event may come to holds after events. -/
theorem after_of_met
    {P : Succession → Prop}
    (hstep : ∀ o o', P o → Met o o' → P o')
    {o : Succession}
    (h : P o)
    (events : List Event) :
    P (o.after events) := by
  induction events generalizing o with
  | nil => exact h
  | cons e es ih => exact ih (hstep _ _ h (o.met_meet e))

/-- The events by which a configuration is taken as a whole, if none waits before. -/
def reload (maker : ClientMaker) (c : Config.Gateway) : List Event :=
  .prepare maker c :: .enter 0 :: List.replicate 6 .change

/-- If nothing comes between them, the changes of a turn are made one after the other. -/
theorem gateway_after_changes (o : Succession) :
    (o.after (List.replicate o.turn.length .change)).gateway =
      o.turn.foldl Change.make o.gateway := by
  induction hturn : o.turn generalizing o with
  | nil => rfl
  | cons c rest ih =>
      have hmade : o.meet .change = o.make c rest := by rw [meet, hturn]
      rw [List.length_cons, List.replicate_succ, after, List.foldl_cons, hmade]
      exact ih (o.make c rest) rfl

/-- If nothing comes between its parts, a configuration is taken as a whole. -/
theorem gateway_after_reload
    {o : Succession}
    (hwaiting : o.waiting = [])
    (hturn : o.turn = [])
    (maker : ClientMaker)
    (c : Config.Gateway) :
    (o.after (reload maker c)).gateway = (o.gateway.reloadWith maker c).1 := by
  obtain ⟨traffic, waiting, turn, drawn, installed, roster⟩ := o
  subst hwaiting hturn
  have hpreparing := Gateway.preparing_prepareWith maker traffic.gateway c
  rw [reload, after, List.foldl_cons, meet, gateway, Gateway.reloadWith]
  dsimp only [gateway]
  generalize traffic.gateway.prepareWith maker c = result at hpreparing ⊢
  cases hpreparing with
  | invalid _ => rfl
  | uncompiled _ _ => rfl
  | unserved _ _ _ => rfl
  | @ready table _ _ _ =>
      let g := traffic.gateway
      let k : Ticket := ⟨⟨c, table⟩, g.nextGeneration⟩
      let entered : Succession :=
        { traffic := { traffic with gateway := g.drawn }
          turn := k.changes
          drawn := drawn ++ [k]
          installed := k :: installed
          roster := roster }
      calc (entered.after (List.replicate entered.turn.length .change)).gateway
        _ = k.changes.foldl Change.make g.drawn := entered.gateway_after_changes
        _ = g.drawn.install ⟨c, table⟩ := Ticket.foldl_changes g.drawn k

section Overlap

/-- A configuration with one route, to one backend. -/
def servedBy (host : String) : Config.Gateway where
  routes :=
    [{ upstreamPathTemplate := "/a"
       downstreamPathTemplate := "/a"
       downstreamHosts := [⟨host, 80⟩] }]

/-- An event at which a request passes its next stage. -/
def passing (id : Nat) : Traffic.Event := .meet id (.pass { now := 1 })

/-- A request arrives and finds its route. -/
def arrival (id : Nat) : List Event :=
  [.request (.arrive ⟨.get, ⟨none, none, some ⟨"/a", none⟩⟩, {}, []⟩ ⟨.v4 127 0 0 1, 4000⟩ "" 0),
    .request (passing id)]

/-- A request that has found its route passes the stages in front of the lease. -/
def upToLease (id : Nat) : List Event :=
  List.replicate 5 (.request (passing id))

/--
Two configurations are prepared, and the second one gets its turn first. In the middle of its turn a
request arrives, which is served on its route.
-/
def overlapping : List Event :=
  [.prepare (fun _ => .ok ()) (servedBy "one"), .prepare (fun _ => .ok ()) (servedBy "two"),
    .enter 1, .change, .change, .change, .change]
    ++ arrival 0
    ++ [.change, .change, .enter 0]
    ++ List.replicate 6 .change

end Overlap

end Succession
end ApiGateway
