import ApiDocs.Live.Standard.Operation

/-! What the attributes have that classes which are built in offer. -/

namespace ApiDocs.Live.Standard

/-- What operations of classes have. -/
def operationMembers : List (Text × Member) :=
  operations ["__repr__", "__call__", "__getattribute__", "__get__"] ++
  bare .method ["__reduce__"] ++
  bare .computed ["__doc__", "__qualname__", "__text_signature__"] ++
  bare .stored ["__objclass__", "__name__"]

/-- The class of operations that are built in, as classes have them. -/
def operationClass : Class := {
  home := "builtins", path := "wrapper_descriptor", isBuiltIn := true
  bases := [objectId], order := [operationId, objectId]
  layout := some ⟨56, 0, 0, 0, 0xa5180⟩
  members := operationMembers }

/-- What methods have that are built in. -/
def builtinMethodMembers : List (Text × Member) :=
  operations ["__repr__", "__call__", "__getattribute__", "__get__"] ++
  bare .method ["__reduce__"] ++
  bare .computed ["__doc__", "__qualname__", "__text_signature__"] ++
  bare .stored ["__objclass__", "__name__"]

/-- The class of methods that are built in, as classes have them. -/
def builtinMethodClass : Class := {
  home := "builtins", path := "method_descriptor", isBuiltIn := true
  bases := [objectId], order := [builtinMethodId, objectId]
  layout := some ⟨56, 0, 0, 0, 0xa5980⟩
  members := builtinMethodMembers }

/-- What methods of classes have that are built in. -/
def classwideMembers : List (Text × Member) :=
  operations ["__repr__", "__call__", "__getattribute__", "__get__"] ++
  bare .computed ["__doc__", "__qualname__", "__text_signature__"] ++
  bare .stored ["__objclass__", "__name__"]

/-- The class of methods of classes that are built in, as classes have them. -/
def classwideClass : Class := {
  home := "builtins", path := "classmethod_descriptor", isBuiltIn := true
  bases := [objectId], order := [classwideId, objectId]
  layout := some ⟨56, 0, 0, 0, 0x85180⟩
  members := classwideMembers }

/-- What attributes have that are computed. -/
def computedMembers : List (Text × Member) :=
  operations ["__repr__", "__getattribute__", "__get__", "__set__", "__delete__"] ++
  bare .computed ["__doc__", "__qualname__"] ++
  bare .stored ["__objclass__", "__name__"]

/-- The class of attributes that are computed. -/
def computedClass : Class := {
  home := "builtins", path := "getset_descriptor", isBuiltIn := true
  bases := [objectId], order := [computedId, objectId]
  layout := some ⟨48, 0, 0, 0, 0x85180⟩
  members := computedMembers }

/-- What attributes have that are stored. -/
def storedMembers : List (Text × Member) :=
  operations ["__repr__", "__getattribute__", "__get__", "__set__", "__delete__"] ++
  bare .method ["__reduce__"] ++
  bare .computed ["__doc__", "__qualname__"] ++
  bare .stored ["__objclass__", "__name__"]

/-- The class of attributes that are stored in a place of their own. -/
def storedClass : Class := {
  home := "builtins", path := "member_descriptor", isBuiltIn := true
  bases := [objectId], order := [storedId, objectId]
  layout := some ⟨48, 0, 0, 0, 0x85180⟩
  members := storedMembers }

/-- What operations of objects have. -/
def boundOperationMembers : List (Text × Member) :=
  operations [
    "__repr__", "__hash__", "__call__", "__getattribute__", "__lt__", "__le__", "__eq__", "__ne__", "__gt__",
    "__ge__"] ++
  bare .method ["__reduce__"] ++
  bare .computed ["__objclass__", "__name__", "__qualname__", "__doc__", "__text_signature__"] ++
  bare .stored ["__self__"]

/-- The class of operations that are built in, as objects have them. -/
def boundOperationClass : Class := {
  home := "builtins", path := "method-wrapper", isBuiltIn := true
  bases := [objectId], order := [boundOperationId, objectId]
  layout := some ⟨32, 0, 0, 0, 0x85180⟩
  members := boundOperationMembers }

end ApiDocs.Live.Standard
