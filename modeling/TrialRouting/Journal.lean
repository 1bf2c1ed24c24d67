import TrialRouting.Catalog
import TrialRouting.Telemetry

/-!
# Journal

What implementations, scopes, modes, decorators and the telemetry recorder do to a
call, in the order it happens.
-/

namespace TrialRouting

/-- One line of the journal. -/
inductive Note where
  | scopeOpened (scope : Nat)
  | resolving (scope : Nat) (key implementation : String)
  | scopeDisposed (scope : Nat)
  | built (name : String) (number : Nat)
  /-- An instance takes up a request. -/
  | called (made : Instance) (request : Request)
  /-- An instance is abandoned before it has answered. -/
  | dropped (made : Instance)
  /-- A bare piece of work starts for a key. -/
  | workBegan (key : String)
  /-- A bare piece of work is abandoned. -/
  | workDropped (key : String)
  | modeAsked (mode service method selector defaultKey : String) (candidates : Nat)
  | created (kind service router : String)
  | telemetry (scope : Telemetry.Scope) (report : Telemetry.Report)
  /-- A decorator's own remark. -/
  | remark (text : String)
  deriving DecidableEq, Repr

/-- The line as it is written. -/
def Note.text : Note → String
  | scopeOpened n => s!"scope{n} open"
  | resolving n key implementation => s!"scope{n} resolve {key}={implementation}"
  | scopeDisposed n => s!"scope{n} dispose"
  | built name number => s!"build {name}#{number}"
  | called made request =>
      request.operation.name ++ " " ++ made.label ++ " "
        ++ if request.operation = .ping then "-" else request.argument
  | dropped made => "dropped " ++ made.label
  | workBegan key => s!"terminal {key}"
  | workDropped key => s!"dropped {key}"
  | modeAsked mode service method selector defaultKey candidates =>
      s!"mode {mode} {service}.{method} {selector} default={defaultKey} of {candidates}"
  | created kind service router => s!"create {kind} {service} {router}"
  | telemetry scope report => report.text scope
  | remark text => text

end TrialRouting
