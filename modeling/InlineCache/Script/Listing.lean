import InlineCache.Script.Context
import InlineCache.Text.Literal
/-!
# Structure listings

The one-line texts that show a value or a runtime structure to a developer: a record name
followed by its chosen fields in braces, with strings quoted and escaped, `..` where fields
are left out, and ids as `TypeId(N)`.
-/
namespace InlineCache.Listing

open InlineCache.Text

/-- The text of a value. -/
def value (ctx : Context) : Value → String
  | .none => "None"
  | .bool b => if b then "true" else "false"
  | .int n => toString n.toInt
  | .float x => FloatStyle.listing.render x
  | .str s => quote s
  | .bytes b => "bytes[" ++ ", ".intercalate (b.data.toList.map fun x => toString x.toNat) ++ "]"
  | .object r => "<" ++ ctx.registry.typeName (.object r) ++ " object>"
  | v@(.foreign ..) => "<foreign " ++ ctx.registry.typeName v ++ ">"
  | .cls id => "<class " ++ ((ctx.registry.class? id).map (·.name)).getD "" ++ ">"

/-- The text of a class. -/
def «class» (ctx : Context) (c : Class) : String :=
  let super := match c.superclass?.bind ctx.registry.class? with
    | some s => "Some(" ++ quote s.name ++ ")"
    | none => "None"
  "Class \x7b name: " ++ quote c.name ++ ", type_id: " ++ c.id.debugText ++ ", superclass: " ++ super ++
    ", version: " ++ toString c.version ++ ", .. \x7d"

/-- The text of an instance. -/
def inst (ctx : Context) (r : ObjectRef) : String :=
  "Instance \x7b class: " ++ quote (ctx.registry.typeName (.object r)) ++ ", fields: " ++
    toString (ctx.heap.fields r).length ++ " \x7d"

/-- The text of a foreign type. -/
def foreignType (t : ForeignType) : String :=
  "ForeignType \x7b name: " ++ quote t.name ++ ", type_id: " ++ t.id.debugText ++ ", methods: " ++
    toString t.methods.size ++ " \x7d"

/-- The text of a foreign object. -/
def foreignObject (ctx : Context) (v : Value) : String :=
  "ForeignObject \x7b type: " ++ quote (ctx.registry.typeName v) ++ ", .. \x7d"

/-- The text of a parameter type. -/
def paramType : ParamType → String
  | .any => "Any"
  | .exact t => "Exact(" ++ t.debugText ++ ")"

/-- The text of a method's flags. -/
def flags (f : MethodFlags) : String :=
  let names := (if f.isStatic then ["STATIC"] else []) ++ (if f.isConstructor then ["CONSTRUCTOR"] else [])
  if names.isEmpty then "MethodFlags(0x0)" else "MethodFlags(" ++ " | ".intercalate names ++ ")"

/-- The text of a method. -/
def method (m : Method) : String :=
  "Method \x7b name: " ++ quote m.name ++ ", params: [" ++ ", ".intercalate (m.params.map paramType) ++
    "], flags: " ++ flags m.flags ++ ", .. \x7d"

/-- The text of an argument kind. -/
def argKind : ArgKind → String
  | .dynamic => "Dynamic"
  | .typed t => "Typed(" ++ t.debugText ++ ")"

/-- The text of a kind of call. -/
def callKind : CallKind → String
  | .inst => "Instance"
  | .stat => "Static"
  | .ctor => "Constructor"
  | .oper => "Operator"

/-- The text of a call descriptor. -/
def descriptor (d : CallDescriptor) : String :=
  "CallDescriptor \x7b name: " ++ quote d.name ++ ", params: [" ++ ", ".intercalate (d.params.map argKind) ++
    "], kind: " ++ callKind d.kind ++ " \x7d"

/-- The text of a variant. -/
def variant : SiteVariant → String
  | .selfDescribing => "SelfDescribingInstance"
  | .foreignInstance => "ForeignInstance"
  | .staticTarget => "StaticTarget"
  | .ctorTarget => "ConstructorTarget"
  | .accessor => "SpecializedAccessor"
  | .operator => "Operator"

/-- The text of a site's state. -/
def state : SiteState → String
  | .empty => "Empty"
  | .failed => "Failed"
  | .cached v => "Cached(" ++ variant v ++ ")"

/-- The text of a call site. -/
def site (s : CallSite) : String :=
  "CallSite \x7b index: " ++ toString s.index ++ ", descriptor: " ++ descriptor s.descriptor ++
    ", state: " ++ state s.state ++ " \x7d"

/-- The text of an array of call sites. -/
def array (a : SiteArray) : String :=
  "CallSiteArray \x7b unit: " ++ quote a.unit ++ ", sites: " ++ toString a.size ++ ", generation: " ++
    toString a.generation ++ " \x7d"

end InlineCache.Listing
