import ApiDocs.Live.Standard.Operation

/-! What all objects, all classes and all modules have. -/

namespace ApiDocs.Live.Standard

/-- What all objects have. -/
def objectMembers : List (Text × Member) :=
  remark [
    "The base class of the class hierarchy.",
    "",
    "When called, it accepts no arguments and returns a new featureless",
    "instance that has no instance attributes and cannot be given any.",
    ""] ++
  [maker objectId] ++
  operations [
    "__repr__", "__hash__", "__str__", "__getattribute__", "__setattr__", "__delattr__", "__lt__", "__le__",
    "__eq__", "__ne__", "__gt__", "__ge__", "__init__"] ++
  features .method [
    ("__reduce_ex__", "($self, protocol, /)", ["Helper for pickle."]),
    ("__reduce__", "($self, /)", ["Helper for pickle."]),
    ("__getstate__", "($self, /)", ["Helper for pickle."]),
    ("__format__", "($self, format_spec, /)", ["Default object formatter."]),
    ("__sizeof__", "($self, /)", ["Size of object in memory, in bytes."]),
    ("__dir__", "($self, /)", ["Default dir() implementation."])] ++
  features .classwide [
    ("__subclasshook__", "", [
      "Abstract classes can override this to customize issubclass().", "",
      "This is invoked early on by abc.ABCMeta.__subclasscheck__().",
      "It should return True, False or NotImplemented.  If it returns",
      "NotImplemented, the normal algorithm is used.  Otherwise, it",
      "overrides the normal algorithm (and the outcome is cached).", ""]),
    ("__init_subclass__", "", [
      "This method is called when a class is subclassed.", "",
      "The default implementation does nothing. It may be", "overridden to extend subclasses.", ""])] ++
  features .computed [
    ("__class__", "", ["the object's class"])]

/-- The class from which all others descend. -/
def objectClass : Class := {
  home := "builtins", path := "object", isBuiltIn := true
  bases := [], order := [objectId]
  signature := unlines? ["()"]
  layout := some ⟨16, 0, 0, 0, 0x81500⟩
  members := objectMembers }

/-- What all classes have. -/
def typeMembers : List (Text × Member) :=
  [maker typeId] ++
  operations [
    "__repr__", "__call__", "__getattribute__", "__setattr__", "__delattr__", "__init__", "__or__", "__ror__"] ++
  features .method [
    ("mro", "($self, /)", ["Return a type's method resolution order."]),
    ("__subclasses__", "($self, /)", ["Return a list of immediate subclasses."]),
    ("__instancecheck__", "($self, instance, /)", ["Check if an object is an instance."]),
    ("__subclasscheck__", "($self, subclass, /)", ["Check if a class is a subclass."]),
    ("__dir__", "($self, /)", ["Specialized __dir__ implementation for types."]),
    ("__sizeof__", "($self, /)", ["Return memory consumption of the type object."])] ++
  features .classwide [
    ("__prepare__", "", ["__prepare__() -> dict", "used to create the namespace for the class statement"])] ++
  bare .computed [
    "__name__", "__qualname__", "__bases__", "__module__", "__abstractmethods__", "__dict__", "__doc__",
    "__text_signature__", "__annotations__"] ++
  bare .stored [
    "__basicsize__", "__itemsize__", "__flags__", "__weakrefoffset__", "__base__", "__dictoffset__", "__mro__"]

/-- The class of classes. -/
def typeClass : Class := {
  home := "builtins", path := "type", isBuiltIn := true
  bases := [objectId], order := [typeId, objectId]
  comment := unlines? [
    "type(object) -> the object's type",
    "type(name, bases, dict, **kwds) -> a new type"]
  layout := some ⟨904, 40, 264, 368, 0x80085d00⟩
  members := typeMembers }

/-- What modules have. -/
def homeMembers : List (Text × Member) :=
  remark [
    "Create a module object.",
    "",
    "The name must be a string; the optional doc argument can have any type."] ++
  [maker homeId] ++
  operations ["__repr__", "__getattribute__", "__setattr__", "__delattr__", "__init__"] ++
  features .method [
    ("__dir__", "", ["__dir__() -> list", "specialized dir() implementation"])] ++
  bare .computed ["__annotations__"] ++
  bare .stored ["__dict__"]

/-- The class of modules. -/
def homeClass : Class := {
  home := "builtins", path := "module", isBuiltIn := true
  bases := [objectId], order := [homeId, objectId]
  signature := unlines? ["(name, doc=None)"]
  layout := some ⟨56, 0, 16, 40, 0x85500⟩
  members := homeMembers }

end ApiDocs.Live.Standard
