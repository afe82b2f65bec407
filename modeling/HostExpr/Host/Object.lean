import HostExpr.Host.Interface

/-!
# Host objects with declared members and methods

* `Descriptor`: what a type of host objects declares: its members, its methods with their
  parameters, and which calls an object allows in its state;
* `HostObject`: a descriptor with the state of one object;
* `HostTable`: all host objects of an evaluation;
* `HostTable.interface`: what expressions can do with the objects of a table.

A member or method that is declared again keeps its place and takes the later declaration.
-/

namespace HostExpr

variable {σ : Type}

/-- A method: its parameters, and what it does with the state of its object and with a value for
each parameter. -/
structure Method (σ : Type) where
  params : List Param
  run : σ → List Value → Except EvalError Value × σ

/-- A method that leaves the state of its object alone. -/
def Method.reading (params : List Param) (run : σ → List Value → Except EvalError Value) :
    Method σ :=
  ⟨params, fun state args => (run state args, state)⟩

/-! ### Descriptors -/

/-- What a type of host objects declares. -/
structure Descriptor (σ : Type) where
  typeName : String
  allows : σ → String → Bool
  members : List (String × (σ → Value)) := []
  methods : List (String × Method σ) := []

namespace Descriptor

/-- Declares a member. -/
def withMember (name : String) (value : σ → Value) (d : Descriptor σ) : Descriptor σ :=
  { d with members := Entries.insert name value d.members }

/-- Declares a method. -/
def withMethod (name : String) (method : Method σ) (d : Descriptor σ) : Descriptor σ :=
  { d with methods := Entries.insert name method d.methods }

/-- Declares a method that leaves the state of its object alone. -/
def withReading (name : String) (params : List Param)
    (run : σ → List Value → Except EvalError Value) (d : Descriptor σ) : Descriptor σ :=
  d.withMethod name (.reading params run)

end Descriptor

/-! ### Objects -/

/-- A host object: what its type declares, and its state. -/
structure HostObject (σ : Type) where
  descriptor : Descriptor σ
  state : σ

namespace HostObject

/-- Whether the object allows calls of a method. -/
def allows (object : HostObject σ) (method : String) : Bool :=
  object.descriptor.allows object.state method

/-- The value of a member, if it is declared. -/
def member? (object : HostObject σ) (member : String) : Option Value :=
  (Entries.find? member object.descriptor.members).map (· object.state)

/-- The parameters of a method, if it is declared. -/
def params? (object : HostObject σ) (method : String) : Option (List Param) :=
  (Entries.find? method object.descriptor.methods).map Method.params

/-- Runs a method, if it is declared, and keeps the state that it leaves. -/
def invoke (object : HostObject σ) (method : String) (args : List Value) :
    Except EvalError Value × HostObject σ :=
  match Entries.find? method object.descriptor.methods with
  | none => (.error (.unknownMethod object.descriptor.typeName method), object)
  | some m =>
    let (result, state) := m.run object.state args
    (result, { object with state })

end HostObject

/-! ### Tables of objects -/

/-- The host objects of an evaluation; a reference names an object by its place. -/
structure HostTable (σ : Type) where
  objects : List (HostObject σ) := []

namespace HostTable

/-- The object that a reference names. -/
def object? (table : HostTable σ) (ref : HostRef) : Option (HostObject σ) :=
  table.objects[ref.id]?

/-- Adds an object, and gives the reference to it. -/
def add (object : HostObject σ) (table : HostTable σ) : HostRef × HostTable σ :=
  (⟨table.objects.length, object.descriptor.typeName⟩, ⟨table.objects ++ [object]⟩)

/-- Runs a method of an object of the table. -/
def invoke (ref : HostRef) (method : String) (args : List Value) : Eval (HostTable σ) Value := do
  let table ← get
  match table.object? ref with
  | none => throw (.unknownMethod ref.typeName method)
  | some object =>
    let (result, object) := object.invoke method args
    set (HostTable.mk (table.objects.set ref.id object))
    Eval.ofExcept result

/-- What expressions can do with the objects of a table. -/
def interface : HostInterface (HostTable σ) where
  allows table ref method := (table.object? ref).any (·.allows method)
  member? table ref member := (table.object? ref).bind (·.member? member)
  params? table ref method := (table.object? ref).bind (·.params? method)
  invoke := invoke

end HostTable

end HostExpr
