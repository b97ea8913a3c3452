import ApiDocs.Live.Standard.Operation

/-! The standard bases of classes with abstract members, of classes with type parameters and of protocols, and the classes
    of such classes. These are written in the language itself, so that they have functions of their own. -/

namespace ApiDocs.Live.Standard

/-- A function of the standard library. Its name is the last part of its path. -/
def functionAt (number : Nat) (home path : Text) (lines : List String) : Function :=
  { number, home, path, name := ((Text.dotted path).getLast?).getD [], comment := unlines? lines }

/-- A function of a class, under its own name. -/
def ownFunction (f : Function) : Text × Member := (f.name, .value (.function f))

/-- A function of a class that takes the class, under its own name. -/
def classFunction (f : Function) : Text × Member := (f.name, .value (.classwide (.function f) false))

/-! ### Abstract members -/

/-- Makes a class with abstract members. -/
def makeAbstract : Function := functionAt 0 "abc" "ABCMeta.__new__" []

/-- Makes a class count as a subclass. -/
def registerSubclass : Function := functionAt 1 "abc" "ABCMeta.register" [
  "Register a virtual subclass of an ABC.",
  "",
  "            Returns the subclass, to allow usage as a class decorator.",
  "            "]

/-- The base of classes with abstract members. -/
def abstractClass : Class := {
  home := "abc", path := "ABC"
  bases := [objectId], order := [abstractId, objectId], type := abstractTypeId
  members :=
    remark [
      "Helper class that provides a standard way to create an ABC using",
      "    inheritance.",
      "    "] ++
    [plain "__module__" (.text "abc"), plain "__slots__" (.row []), plain "__abstractmethods__" (.thing frozenSetId),
      plain "_abc_impl" (.thing abstractDataId)] }

/-- The class of classes with abstract members. -/
def abstractTypeClass : Class := {
  home := "abc", path := "ABCMeta"
  bases := [typeId], order := [abstractTypeId, typeId, objectId]
  members :=
    remark [
      "Metaclass for defining Abstract Base Classes (ABCs).",
      "",
      "        Use this metaclass to create an ABC.  An ABC can be subclassed",
      "        directly, and then acts as a mix-in class.  You can also register",
      "        unrelated concrete classes (even built-in classes) and unrelated",
      "        ABCs as 'virtual subclasses' -- these and their descendants will",
      "        be considered subclasses of the registering ABC by the built-in",
      "        issubclass() function, but the registering ABC won't show up in",
      "        their MRO (Method Resolution Order) nor will method",
      "        implementations defined by the registering ABC be callable (not",
      "        even via super()).",
      "        "] ++
    [plain "__module__" (.text "abc"), (makeAbstract.name, .value (.static (.function makeAbstract) false)),
      ownFunction registerSubclass,
      ownFunction (functionAt 2 "abc" "ABCMeta.__instancecheck__" ["Override for isinstance(instance, cls)."]),
      ownFunction (functionAt 3 "abc" "ABCMeta.__subclasscheck__" ["Override for issubclass(subclass, cls)."]),
      ownFunction (functionAt 4 "abc" "ABCMeta._dump_registry" ["Debug helper to print the ABC registry."]),
      ownFunction (functionAt 5 "abc" "ABCMeta._abc_registry_clear" ["Clear the registry (for debugging or testing)."]),
      ownFunction (functionAt 6 "abc" "ABCMeta._abc_caches_clear" ["Clear the caches (for debugging or testing)."])] }

/-! ### Type parameters -/

/-- Gives a class its parameters. -/
def parameterize : Function := functionAt 7 "typing" "Generic.__class_getitem__" [
  "Parameterizes a generic class.",
  "",
  "        At least, parameterizing a generic class is the *main* thing this method",
  "        does. For example, for some generic class `Foo`, this is called when we",
  "        do `Foo[int]` - there, with `cls=Foo` and `params=int`.",
  "",
  "        However, note that this method is also called when defining generic",
  "        classes in the first place with `class Foo(Generic[T]): ...`.",
  "        "]

/-- Is called for every class with type parameters. -/
def initGeneric : Function := functionAt 8 "typing" "Generic.__init_subclass__" []

/-- The base of classes with type parameters. -/
def genericClass : Class := {
  home := "typing", path := "Generic"
  bases := [objectId], order := [genericId, objectId]
  members :=
    remark [
      "Abstract base class for generic types.",
      "",
      "    A generic type is typically declared by inheriting from",
      "    this class parameterized with one or more type variables.",
      "    For example, a generic mapping type might be defined as::",
      "",
      "      class Mapping(Generic[KT, VT]):",
      "          def __getitem__(self, key: KT) -> VT:",
      "              ...",
      "          # Etc.",
      "",
      "    This class can then be used as follows::",
      "",
      "      def lookup_name(mapping: Mapping[KT, VT], key: KT, default: VT) -> VT:",
      "          try:",
      "              return mapping[key]",
      "          except KeyError:",
      "              return default",
      "    "] ++
    [plain "__module__" (.text "typing"), plain "__slots__" (.row []), plain "_is_protocol" (.flag false),
      classFunction parameterize, classFunction initGeneric] }

/-! ### Protocols -/

/-- Is called for every class that follows a protocol. -/
def initProtocol : Function := functionAt 9 "typing" "Protocol.__init_subclass__" []

/-- Keeps protocols from having objects. -/
def refuseObjects : Function := functionAt 11 "typing" "_no_init_or_replace_init" []

/-- Decides whether a class follows a protocol. -/
def followsProtocol : Function := functionAt 12 "typing" "Protocol.__init_subclass__.<locals>._proto_hook" []

/-- The base of protocols. -/
def protocolClass : Class := {
  home := "typing", path := "Protocol"
  bases := [genericId], order := [protocolId, genericId, objectId], type := protocolTypeId
  members :=
    remark [
      "Base class for protocol classes.",
      "",
      "    Protocol classes are defined as::",
      "",
      "        class Proto(Protocol):",
      "            def meth(self) -> int:",
      "                ...",
      "",
      "    Such classes are primarily used with static type checkers that recognize",
      "    structural subtyping (static duck-typing), for example::",
      "",
      "        class C:",
      "            def meth(self) -> int:",
      "                return 0",
      "",
      "        def func(x: Proto) -> int:",
      "            return x.meth()",
      "",
      "        func(C())  # Passes static type check",
      "",
      "    See PEP 544 for details. Protocol classes decorated with",
      "    @typing.runtime_checkable act as simple-minded runtime protocols that check",
      "    only the presence of given attributes, ignoring their type signatures.",
      "    Protocol classes can be generic, they are defined as::",
      "",
      "        class GenProto(Protocol[T]):",
      "            def meth(self) -> T:",
      "                ...",
      "    "] ++
    [plain "__module__" (.text "typing"), plain "__slots__" (.row []), plain "_is_protocol" (.flag true),
      plain "_is_runtime_protocol" (.flag false), classFunction initProtocol,
      plain "__parameters__" (.row []), plain "__abstractmethods__" (.thing frozenSetId),
      plain "_abc_impl" (.thing abstractDataId)] }

/-- The class of protocols. -/
def protocolTypeClass : Class := {
  home := "typing", path := "_ProtocolMeta"
  bases := [abstractTypeId], order := [protocolTypeId, abstractTypeId, typeId, objectId]
  members :=
    remark [] ++
    [plain "__module__" (.text "typing"), ownFunction (functionAt 10 "typing" "_ProtocolMeta.__instancecheck__" [])] }

/-- How many functions the standard library has. -/
def functionCount : Nat := 13

end ApiDocs.Live.Standard
