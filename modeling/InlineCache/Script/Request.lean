import InlineCache.Script.Machine
import InlineCache.Script.Decode
import InlineCache.Json.Parse
import InlineCache.Json.Print
/-!
# Requests

A request is one JSON document. A scenario request runs its steps against one fresh
context and answers the list of step answers. Any other request is one step, run in a fresh
context and answered directly. Either way the context knows the builtin kinds unless
`builtins` is false, and the hub listens to the registry when `hub` is true.

A line that is not one JSON document is answered with the reader's message. A panic
anywhere in a request replaces the request's whole answer.
-/
namespace InlineCache.Request

/-- Fuel for a request: far more than its nesting can use. -/
def fuelFor (j : Json) : Nat := 64 * (j.size + 64)

/-- The answer to a request, unless it panics. -/
def answer (j : Json) : Except Panic Json :=
  let fuel := fuelFor j
  let builtins := ((j.field? "builtins").bind Json.toBool?).getD true
  let hub := ((j.field? "hub").bind Json.toBool?).getD false
  let ctx := Context.fresh builtins hub
  match (j.get? "op").bind Json.toStr? with
  | some "scenario" =>
    match Decode.optList j "steps" with
    | .ok items =>
      ((Machine.runSteps fuel items).run ctx).map fun (results, _) =>
        .obj [("results", .arr results)]
    | .error msg => .ok (Render.badInput msg)
  | _ => ((Machine.runSteps fuel [j]).run ctx).map fun (results, _) => results.headD .null

/-- The answer of a panic. -/
def panicked (p : Panic) : Json := .obj [("error", .str "Panic"), ("message", .str p.message)]

/-- The answer line to a request line. -/
def respond (line : String) : String :=
  match Json.parse line with
  | .ok j =>
    match answer j with
    | .ok a => a.render
    | .error p => (panicked p).render
  | .error msg => (Render.badInput ("invalid JSON: " ++ msg)).render

end InlineCache.Request
