import ConsoleSession.Session.Gate
import ConsoleSession.Session.Provider
import ConsoleSession.Session.Task

/-!
One running console: a token store, a refresher, a provider, a guard and the tasks over them. `turn`
lets one strand run until it waits; `apply` is everything that can happen to a console, and `run`
what a list of such events makes of it.
-/

namespace ConsoleSession

structure Console where
  now : UInt64
  base : String
  loginBase : String
  guard : Guard
  redirects : RedirectStore
  tokens : TokenStore := {}
  refresher : Refresher := {}
  provider : Provider := {}
  tasks : List Task := []
  ready : List Strand := []
  navigations : List Navigation := []
  deriving Repr

namespace Console

def setStage (c : Console) (t : Nat) (s : Stage) : Console :=
  { c with tasks := c.tasks.modify t fun k => { k with stage := s } }

def finish (c : Console) (t : Nat) (r : Ending) : Console :=
  c.setStage t (.ended r)

def wake (c : Console) (strands : List Strand) : Console :=
  { c with ready := c.ready ++ strands }

def navigate (c : Console) (path : String) : Decision × Console :=
  let (d, redirects) := c.guard.decide c.provider.state path c.now c.redirects
  (d, { c with redirects := redirects, navigations := c.navigations ++ d.navigation.toList })

def arrive (c : Console) (t : Nat) : Goal → Console
  | .visit path =>
    let (d, c) := c.navigate path
    c.finish t (.decided d)
  | _ => c.finish t (.state c.provider.state)

def conclude (c : Console) (t : Nat) (goal : Goal) (s : AuthState) : Console :=
  match goal with
  | .resolve => c.finish t (.state s)
  | _ =>
    let queue := c.provider.queue
    let c := { c with provider := c.provider.mounted s }
    (c.wake (queue.map .task)).arrive t goal

def project (c : Console) (t : Nat) (goal : Goal) (now : UInt64) : Console :=
  let (s, tokens) := Gate.project c.tokens now
  let c := { c with tokens := tokens }
  c.conclude t goal s

def attempt (c : Console) (call : Call) : Attempt where
  method := call.method
  url := Endpoint.resource c.base call.path
  bearer := c.tokens.token
  body := match call.body with | .json v => some v | _ => none

def send (c : Console) (t : Nat) (call : Call) : Console :=
  { c with tasks := c.tasks.modify t fun k =>
      { k with stage := .sending, sent := k.sent ++ [c.attempt call] } }

def proceed (c : Console) (t : Nat) (goal : Goal) (outcome : RefreshOutcome) : After → Console
  | .report => c.finish t (.refreshed outcome)
  | .project now => c.project t goal now
  | .retry refused =>
    match goal, outcome with
    | .call call, .ok _ => c.send t call
    | _, _ => c.finish t (.answered (.error refused))

def look (c : Console) (t : Nat) (goal : Goal) (k : Nat) (after : After) : Option Console :=
  match c.refresher.collect k with
  | (some outcome, refresher) =>
    let c := { c with refresher := refresher }
    some (c.proceed t goal outcome after)
  | (none, _) => none

def join (c : Console) (t : Nat) (goal : Goal) (after : After) : Console :=
  let (k, refresher) := c.refresher.enter c.tokens.epoch
  let started := c.refresher.pending.isNone
  let c := { c with refresher := refresher }
  let c := if started then c.wake [.operation k] else c
  match c.look t goal k after with
  | some c => c
  | none =>
    let c := { c with refresher := c.refresher.wait k t }
    c.setStage t (.joined k after)

def resolve (c : Console) (t : Nat) (goal : Goal) : Console :=
  let (due, tokens) := Gate.inspect c.tokens c.now
  let c := { c with tokens := tokens }
  if due then c.join t goal (.project c.now) else c.project t goal c.now

def mount (c : Console) (t : Nat) (goal : Goal) : Console :=
  let c := { c with provider := c.provider.enter t }
  match c.provider.mounting with
  | .running holder _ => if holder = t then c.resolve t goal else c.setStage t .queued
  | _ => c.arrive t goal

def begin (c : Console) (t : Nat) (goal : Goal) : Console :=
  match goal with
  | .refresh => c.join t goal .report
  | .resolve => c.resolve t goal
  | .mount | .visit _ => c.mount t goal
  | .logout => c.setStage t .leaving
  | .call call =>
    match call.body with
    | .unwritable why => c.finish t (.answered (.error (.parse why.message)))
    | _ => c.send t call

def resume (c : Console) (t : Nat) (task : Task) : Console :=
  match task.stage with
  | .fresh => c.begin t task.goal
  | .queued => c.mount t task.goal
  | .joined k after => (c.look t task.goal k after).getD c
  | _ => c

def turn (c : Console) (s : Strand) : Console :=
  if s ∈ c.ready then
    let c := { c with ready := c.ready.erase s }
    match s with
    | .operation k => { c with refresher := c.refresher.call k }
    | .task t =>
      match c.tasks[t]? with
      | some task => c.resume t task
      | none => c
  else c

def spawn (c : Console) (goal : Goal) : Console :=
  { c with
    tasks := c.tasks ++ [{ goal := goal }]
    ready := c.ready ++ [.task c.tasks.length] }

/-- Drops a task wherever it stands; what it ran for others is handed on. -/
def drop (c : Console) (t : Nat) : Console :=
  match c.tasks[t]? with
  | none => c
  | some task =>
    match task.stage with
    | .ended _ | .dropped => c
    | stage =>
      let refresher := match stage with
        | .joined k _ => c.refresher.leave k t
        | _ => c.refresher
      let (next, provider) := c.provider.leave t
      let c := { c with
        refresher := refresher
        provider := provider
        ready := c.ready.erase (.task t) }
      (c.wake (next.toList.map .task)).setStage t .dropped

def refreshed (c : Console) (k : Nat) (a : RefreshAnswer) : Console :=
  if c.refresher.phase? k = some .calling then
    let (refresher, tokens) := c.refresher.answer k a c.tokens
    { c with
      refresher := refresher
      tokens := tokens
      ready := c.ready ++ (refresher.waiting k).map .task }
  else c

/-- The backend's answer to a logout says nothing; a call that crashed takes the task with it. -/
def loggedOut (c : Console) (t : Nat) (crashed : Bool) : Console :=
  match c.tasks[t]? with
  | some { stage := .leaving, .. } =>
    if crashed then c.finish t .crashed
    else
      let c := { c with tokens := c.tokens.clear, provider := c.provider.publish .unauthenticated }
      c.finish t .loggedOut
  | _ => c

def answered (goal : Goal) (r : Except ApiError (Option Utf8.Octets)) : Ending :=
  match goal with
  | .call { method := .delete, .. } => .answered (r.map fun _ => none)
  | _ => .answered (r.map some)

/-- A call that was refused for its credentials is sent once more after a refresh. -/
def replied (c : Console) (t : Nat) (e : Exchange) : Console :=
  match c.tasks[t]? with
  | some { goal, stage := .sending, sent } =>
    match e.accept with
    | .error why =>
      if why.isUnauthorized ∧ sent.length = 1 then c.join t goal (.retry why)
      else c.finish t (.answered (.error why))
    | .ok body => c.finish t (answered goal (.ok body))
  | _ => c

def completeLogin (c : Console) (token : String) : Console :=
  let (s, tokens) := Gate.adopt c.tokens token c.now
  { c with tokens := tokens, provider := c.provider.publish s }

end Console

inductive Event
  | spawn (goal : Goal)
  | turn (s : Strand)
  | drop (t : Nat)
  | refreshed (k : Nat) (a : RefreshAnswer)
  | loggedOut (t : Nat) (crashed : Bool)
  | replied (t : Nat) (e : Exchange)
  | setToken (token : String)
  | setTokenIfEpoch (token : String) (epoch : UInt64)
  | completeLogin (token : String)
  | login (provider : String)
  | navigate (path : String)
  | decide (path : String)
  | saveIntent (path : String)
  | tick (now : UInt64)
  deriving Repr

namespace Console

def apply (c : Console) : Event → Console
  | .spawn goal => c.spawn goal
  | .turn s => c.turn s
  | .drop t => c.drop t
  | .refreshed k a => c.refreshed k a
  | .loggedOut t crashed => c.loggedOut t crashed
  | .replied t e => c.replied t e
  | .setToken token => { c with tokens := c.tokens.set token }
  | .setTokenIfEpoch token epoch => { c with tokens := (c.tokens.setIfEpoch token epoch).2 }
  | .completeLogin token => c.completeLogin token
  | .login provider =>
    { c with navigations := c.navigations ++ [.assign (Endpoint.login c.loginBase provider)] }
  | .navigate path => (c.navigate path).2
  | .decide path =>
    { c with redirects := (c.guard.decide c.provider.state path c.now c.redirects).2 }
  | .saveIntent path => { c with redirects := (c.redirects.save ⟨path, c.now⟩).2 }
  | .tick now => { c with now := now }

def run (c : Console) (events : List Event) : Console :=
  events.foldl apply c

end Console

end ConsoleSession
