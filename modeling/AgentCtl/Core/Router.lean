import AgentCtl.Models

set_option relaxedAutoImplicit false
set_option autoImplicit false

/-!
# Routing

`core/router.py`: a model name resolves to an ordered chain of targets, by route, by alias, or as
a direct `provider/model` name.

## Main definitions

* `AgentCtl.Router`, `AgentCtl.Router.resolve`.
-/

namespace AgentCtl

/-- Parsed routes and aliases. -/
structure Router where
  routes : OrderedDict Str (List Target)
  aliases : OrderedDict Str Target := []

namespace Router

variable (py : Runtime)

/-- `Router.__init__`: every target of every route and alias must parse. -/
def init (routes : OrderedDict Str (List Str)) (aliases : OrderedDict Str Str) :
    Except Exc Router := do
  let routes ← routes.mapM fun p => do return (p.1, ← p.2.mapM (Target.parse py))
  let aliases ← aliases.mapM fun p => do return (p.1, ← Target.parse py p.2)
  return ⟨routes, aliases⟩

/-- `Router.resolve`. -/
def resolve (r : Router) (model : Str) : Except Exc (List Target) :=
  match r.routes.get? model with
  | some targets => .ok targets
  | none =>
    match r.aliases.get? model with
    | some target => .ok [target]
    | none =>
      if List.elem 47 model then do return [← Target.parse py model]
      else
        -- the text of a `KeyError` is the `repr` of its argument
        .error ⟨.keyError, py.repr (.str ("unknown model: " ++ py.repr (.str model) ++
          " (not in routes/aliases, no '/')")), none⟩

end Router

end AgentCtl
