import ApiDocs.Live.Class

/-! The parts from which the tables of standard classes are made. An operation, which a construct of the language stands
    for, is described in the same way wherever it is found; everything else has a comment of its own. How something is
    called is given before its comment, and is empty where nothing is said about it. -/

namespace ApiDocs.Live.Standard

/-- The text of some lines, of which there may be none. -/
def unlines? : List String → Option Text
  | [] => none
  | lines => some (Text.unlines (lines.map String.toList))

/-- What is said about something that is built in. -/
def help (signature : String) (lines : List String) : Help :=
  { comment := unlines? lines, signature := if signature.isEmpty then none else some signature.toList }

/-- How operations are called and what they do, by name. -/
def operationHelp : List (String × String × List String) := [
  ("__repr__", "($self, /)", ["Return repr(self)."]),
  ("__hash__", "($self, /)", ["Return hash(self)."]),
  ("__str__", "($self, /)", ["Return str(self)."]),
  ("__getattribute__", "($self, name, /)", ["Return getattr(self, name)."]),
  ("__setattr__", "($self, name, value, /)", ["Implement setattr(self, name, value)."]),
  ("__delattr__", "($self, name, /)", ["Implement delattr(self, name)."]),
  ("__lt__", "($self, value, /)", ["Return self<value."]),
  ("__le__", "($self, value, /)", ["Return self<=value."]),
  ("__eq__", "($self, value, /)", ["Return self==value."]),
  ("__ne__", "($self, value, /)", ["Return self!=value."]),
  ("__gt__", "($self, value, /)", ["Return self>value."]),
  ("__ge__", "($self, value, /)", ["Return self>=value."]),
  ("__init__", "($self, /, *args, **kwargs)", ["Initialize self.  See help(type(self)) for accurate signature."]),
  ("__call__", "($self, /, *args, **kwargs)", ["Call self as a function."]),
  ("__or__", "($self, value, /)", ["Return self|value."]),
  ("__ror__", "($self, value, /)", ["Return value|self."]),
  ("__get__", "($self, instance, owner=None, /)", ["Return an attribute of instance, which is of type owner."]),
  ("__set__", "($self, instance, value, /)", ["Set an attribute of instance to value."]),
  ("__delete__", "($self, instance, /)", ["Delete an attribute of instance."]),
  ("__add__", "($self, value, /)", ["Return self+value."]),
  ("__radd__", "($self, value, /)", ["Return value+self."]),
  ("__sub__", "($self, value, /)", ["Return self-value."]),
  ("__rsub__", "($self, value, /)", ["Return value-self."]),
  ("__mul__", "($self, value, /)", ["Return self*value."]),
  ("__rmul__", "($self, value, /)", ["Return value*self."]),
  ("__mod__", "($self, value, /)", ["Return self%value."]),
  ("__rmod__", "($self, value, /)", ["Return value%self."]),
  ("__divmod__", "($self, value, /)", ["Return divmod(self, value)."]),
  ("__rdivmod__", "($self, value, /)", ["Return divmod(value, self)."]),
  ("__pow__", "($self, value, mod=None, /)", ["Return pow(self, value, mod)."]),
  ("__rpow__", "($self, value, mod=None, /)", ["Return pow(value, self, mod)."]),
  ("__neg__", "($self, /)", ["-self"]),
  ("__pos__", "($self, /)", ["+self"]),
  ("__abs__", "($self, /)", ["abs(self)"]),
  ("__bool__", "($self, /)", ["True if self else False"]),
  ("__invert__", "($self, /)", ["~self"]),
  ("__lshift__", "($self, value, /)", ["Return self<<value."]),
  ("__rlshift__", "($self, value, /)", ["Return value<<self."]),
  ("__rshift__", "($self, value, /)", ["Return self>>value."]),
  ("__rrshift__", "($self, value, /)", ["Return value>>self."]),
  ("__and__", "($self, value, /)", ["Return self&value."]),
  ("__rand__", "($self, value, /)", ["Return value&self."]),
  ("__xor__", "($self, value, /)", ["Return self^value."]),
  ("__rxor__", "($self, value, /)", ["Return value^self."]),
  ("__int__", "($self, /)", ["int(self)"]),
  ("__float__", "($self, /)", ["float(self)"]),
  ("__floordiv__", "($self, value, /)", ["Return self//value."]),
  ("__rfloordiv__", "($self, value, /)", ["Return value//self."]),
  ("__truediv__", "($self, value, /)", ["Return self/value."]),
  ("__rtruediv__", "($self, value, /)", ["Return value/self."]),
  ("__index__", "($self, /)", [
    "Return self converted to an integer, if self is suitable for use as an index into a list."]),
  ("__iter__", "($self, /)", ["Implement iter(self)."]),
  ("__len__", "($self, /)", ["Return len(self)."]),
  ("__getitem__", "($self, key, /)", ["Return self[key]."]),
  ("__contains__", "($self, key, /)", ["Return key in self."]),
  ("__ior__", "($self, value, /)", ["Return self|=value."]),
  ("__setitem__", "($self, key, value, /)", ["Set self[key] to value."]),
  ("__delitem__", "($self, key, /)", ["Delete self[key]."])]

/-- An object as it is. -/
def plain (name : Text) (object : Object) : Text × Member := (name, .value object)

/-- A class's own comment. -/
def remark (lines : List String) : List (Text × Member) := [("__doc__", .value (.ofText? (unlines? lines)))]

/-- Operations. -/
def operations (names : List String) : List (Text × Member) :=
  names.map fun name =>
    let found := (operationHelp.lookup name).map fun (signature, lines) => help signature lines
    (name.toList, .feature .operation (found.getD {}))

/-- Features of a kind, each with how it is called and the lines of its comment. -/
def features (kind : Feature) (entries : List (String × String × List String)) : List (Text × Member) :=
  entries.map fun (name, signature, lines) => (name.toList, .feature kind (help signature lines))

/-- Features of a kind about which nothing is said. -/
def bare (kind : Feature) (names : List String) : List (Text × Member) :=
  names.map fun name => (name.toList, .feature kind {})

/-- The function that makes the objects of a class. -/
def maker (id : ClassId) : Text × Member :=
  ("__new__", .value (.bound .method "__new__" id (.cls id)
    (help "($type, *args, **kwargs)" ["Create and return a new object.  See help(type) for accurate signature."])))

/-- A function of a class that is built in and bound to nothing. -/
def free (id : ClassId) (name : Text) (signature : String) (lines : List String) : Text × Member :=
  (name, .value (.static (.bound .free name id .nothing (help signature lines)) false))

end ApiDocs.Live.Standard
