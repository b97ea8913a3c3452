import ApiDocs.Live.Standard.Operation

/-! What functions have, in the ways in which they belong to classes and objects. -/

namespace ApiDocs.Live.Standard

/-- What functions have. -/
def functionMembers : List (Text × Member) :=
  [maker functionId] ++
  operations ["__repr__", "__call__", "__get__"] ++
  bare .computed [
    "__code__", "__defaults__", "__kwdefaults__", "__annotations__", "__dict__", "__name__", "__qualname__"] ++
  bare .stored ["__closure__", "__doc__", "__globals__", "__module__", "__builtins__"]

/-- The class of functions. -/
def functionClass : Class := {
  home := "builtins", path := "function", isBuiltIn := true
  bases := [objectId], order := [functionId, objectId]
  comment := unlines? [
    "Create a function object.",
    "",
    "  code",
    "    a code object",
    "  globals",
    "    the globals dictionary",
    "  name",
    "    a string that overrides the name from the code object",
    "  argdefs",
    "    a tuple that specifies the default argument values",
    "  closure",
    "    a tuple that supplies the bindings for free variables"]
  signature := unlines? ["(code, globals, name=None, argdefs=None, closure=None)"]
  layout := some ⟨136, 0, 88, 96, 0xa5900⟩
  members := functionMembers }

/-- What functions have that are bound. -/
def methodMembers : List (Text × Member) :=
  [maker methodId] ++
  operations [
    "__repr__", "__hash__", "__call__", "__getattribute__", "__setattr__", "__delattr__", "__lt__", "__le__",
    "__eq__", "__ne__", "__gt__", "__ge__"] ++
  features .method [
    ("__reduce__", "($self, /)", [])] ++
  bare .computed ["__doc__"] ++
  features .stored [
    ("__func__", "", ["the function (or other callable) implementing a method"]),
    ("__self__", "", ["the instance to which a method is bound"])]

/-- The class of functions that are bound to what they are called on. -/
def methodClass : Class := {
  home := "builtins", path := "method", isBuiltIn := true
  bases := [objectId], order := [methodId, objectId]
  comment := unlines? ["Create a bound instance method object."]
  signature := unlines? ["(function, instance, /)"]
  layout := some ⟨48, 0, 0, 32, 0x85900⟩
  members := methodMembers }

/-- What functions have that are built in. -/
def builtinMembers : List (Text × Member) :=
  operations [
    "__repr__", "__hash__", "__call__", "__getattribute__", "__lt__", "__le__", "__eq__", "__ne__", "__gt__",
    "__ge__"] ++
  bare .method ["__reduce__"] ++
  bare .computed ["__doc__", "__name__", "__qualname__", "__self__", "__text_signature__"] ++
  bare .stored ["__module__"]

/-- The class of functions that are built in. -/
def builtinClass : Class := {
  home := "builtins", path := "builtin_function_or_method", isBuiltIn := true
  bases := [objectId], order := [builtinId, objectId]
  layout := some ⟨56, 0, 0, 40, 0x85980⟩
  members := builtinMembers }

/-- What properties have. -/
def propertyMembers : List (Text × Member) :=
  [maker propertyId] ++
  operations ["__getattribute__", "__get__", "__set__", "__delete__", "__init__"] ++
  features .method [
    ("getter", "", ["Descriptor to obtain a copy of the property with a different getter."]),
    ("setter", "", ["Descriptor to obtain a copy of the property with a different setter."]),
    ("deleter", "", ["Descriptor to obtain a copy of the property with a different deleter."]),
    ("__set_name__", "", ["Method to set name of a property."])] ++
  bare .computed ["__isabstractmethod__"] ++
  bare .stored ["fget", "fset", "fdel", "__doc__"]

/-- The class of properties. -/
def propertyClass : Class := {
  home := "builtins", path := "property", isBuiltIn := true
  bases := [objectId], order := [propertyId, objectId]
  comment := unlines? [
    "Property attribute.",
    "",
    "  fget",
    "    function to be used for getting an attribute value",
    "  fset",
    "    function to be used for setting an attribute value",
    "  fdel",
    "    function to be used for del'ing an attribute",
    "  doc",
    "    docstring",
    "",
    "Typical use is to define a managed attribute x:",
    "",
    "class C(object):",
    "    def getx(self): return self._x",
    "    def setx(self, value): self._x = value",
    "    def delx(self): del self._x",
    "    x = property(getx, setx, delx, \"I'm the 'x' property.\")",
    "",
    "Decorators make defining new properties or modifying existing ones easy:",
    "",
    "class C(object):",
    "    @property",
    "    def x(self):",
    "        \"I am the 'x' property.\"",
    "        return self._x",
    "    @x.setter",
    "    def x(self, value):",
    "        self._x = value",
    "    @x.deleter",
    "    def x(self):",
    "        del self._x"]
  signature := unlines? ["(fget=None, fset=None, fdel=None, doc=None)"]
  layout := some ⟨64, 0, 0, 0, 0x85500⟩
  members := propertyMembers }

/-- What the code of a function has. -/
def codeMembers : List (Text × Member) :=
  remark ["Create a code object.  Not for the faint of heart."] ++
  [maker codeId] ++
  operations [
    "__repr__", "__hash__", "__getattribute__", "__lt__", "__le__", "__eq__", "__ne__", "__gt__", "__ge__"] ++
  features .method [
    ("replace", "($self, /, **changes)", [
      "Return a copy of the code object with new values for the specified fields."]),
    ("_varname_from_oparg", "($self, /, oparg)", [
      "(internal-only) Return the local variable name for the given oparg.", "",
      "WARNING: this method is for internal use only and may change or go away."])] ++
  bare .method ["__sizeof__", "co_lines", "co_positions"] ++
  bare .computed [
    "co_lnotab", "_co_code_adaptive", "co_varnames", "co_cellvars", "co_freevars", "co_code"] ++
  bare .stored [
    "co_argcount", "co_posonlyargcount", "co_kwonlyargcount", "co_stacksize", "co_flags", "co_nlocals",
    "co_consts", "co_names", "co_filename", "co_name", "co_qualname", "co_firstlineno", "co_linetable",
    "co_exceptiontable"]

/-- The class of the code of functions. -/
def codeClass : Class := {
  home := "builtins", path := "code", isBuiltIn := true
  bases := [objectId], order := [codeId, objectId]
  signature := unlines? [
    "(argcount, posonlyargcount, kwonlyargcount, nlocals, stacksize,",
    "     flags, codestring, constants, names, varnames, filename, name,",
    "     qualname, firstlineno, linetable, exceptiontable, freevars=(),",
    "     cellvars=(), /)"]
  layout := some ⟨184, 2, 0, 144, 0x81100⟩
  members := codeMembers }

/-- What functions have that are marked to take no object. -/
def staticMembers : List (Text × Member) :=
  remark [
    "staticmethod(function) -> method",
    "",
    "Convert a function to be a static method.",
    "",
    "A static method does not receive an implicit first argument.",
    "To declare a static method, use this idiom:",
    "",
    "     class C:",
    "         @staticmethod",
    "         def f(arg1, arg2, argN):",
    "             ...",
    "",
    "It can be called either on the class (e.g. C.f()) or on an instance",
    "(e.g. C().f()). Both the class and the instance are ignored, and",
    "neither is passed implicitly as the first argument to the method.",
    "",
    "Static methods in Python are similar to those found in Java or C++.",
    "For a more advanced concept, see the classmethod builtin."] ++
  [maker staticId] ++
  operations ["__repr__", "__call__", "__get__", "__init__"] ++
  bare .computed ["__isabstractmethod__", "__dict__"] ++
  bare .stored ["__func__", "__wrapped__"]

/-- The class of functions that are marked to take no object. -/
def staticClass : Class := {
  home := "builtins", path := "staticmethod", isBuiltIn := true
  bases := [objectId], order := [staticId, objectId]
  layout := some ⟨32, 0, 24, 0, 0x85500⟩
  members := staticMembers }

/-- What functions have that are marked to take a class. -/
def classMethodMembers : List (Text × Member) :=
  remark [
    "classmethod(function) -> method",
    "",
    "Convert a function to be a class method.",
    "",
    "A class method receives the class as implicit first argument,",
    "just like an instance method receives the instance.",
    "To declare a class method, use this idiom:",
    "",
    "  class C:",
    "      @classmethod",
    "      def f(cls, arg1, arg2, argN):",
    "          ...",
    "",
    "It can be called either on the class (e.g. C.f()) or on an instance",
    "(e.g. C().f()).  The instance is ignored except for its class.",
    "If a class method is called for a derived class, the derived class",
    "object is passed as the implied first argument.",
    "",
    "Class methods are different than C++ or Java static methods.",
    "If you want those, see the staticmethod builtin."] ++
  [maker classMethodId] ++
  operations ["__repr__", "__get__", "__init__"] ++
  bare .computed ["__isabstractmethod__", "__dict__"] ++
  bare .stored ["__func__", "__wrapped__"]

/-- The class of functions that are marked to take a class. -/
def classMethodClass : Class := {
  home := "builtins", path := "classmethod", isBuiltIn := true
  bases := [objectId], order := [classMethodId, objectId]
  layout := some ⟨32, 0, 24, 0, 0x85500⟩
  members := classMethodMembers }

end ApiDocs.Live.Standard
