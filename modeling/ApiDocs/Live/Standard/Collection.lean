import ApiDocs.Live.Standard.Operation

/-! What tables and sets have, and what nothing has. -/

namespace ApiDocs.Live.Standard

/-- What nothing has. -/
def nothingMembers : List (Text × Member) :=
  remark [] ++
  [maker nothingId] ++
  operations ["__repr__", "__bool__"]

/-- The class of nothing. -/
def nothingClass : Class := {
  home := "builtins", path := "NoneType", isBuiltIn := true
  bases := [objectId], order := [nothingId, objectId]
  layout := some ⟨16, 0, 0, 0, 0x81100⟩
  members := nothingMembers }

/-- What tables have. -/
def tableMembers : List (Text × Member) :=
  remark [
    "dict() -> new empty dictionary",
    "dict(mapping) -> new dictionary initialized from a mapping object's",
    "    (key, value) pairs",
    "dict(iterable) -> new dictionary initialized as if via:",
    "    d = \x7b\x7d",
    "    for k, v in iterable:",
    "        d[k] = v",
    "dict(**kwargs) -> new dictionary initialized with the name=value pairs",
    "    in the keyword argument list.  For example:  dict(one=1, two=2)"] ++
  [maker tableId] ++
  [plain "__hash__" .nothing] ++
  operations [
    "__repr__", "__getattribute__", "__lt__", "__le__", "__eq__", "__ne__", "__gt__", "__ge__", "__iter__",
    "__init__", "__or__", "__ror__", "__ior__", "__len__", "__setitem__", "__delitem__"] ++
  features .method [
    ("__getitem__", "", ["x.__getitem__(y) <==> x[y]"]),
    ("__contains__", "($self, key, /)", ["True if the dictionary has the specified key, else False."]),
    ("__sizeof__", "", ["D.__sizeof__() -> size of D in memory, in bytes"]),
    ("get", "($self, key, default=None, /)", [
      "Return the value for key if key is in the dictionary, else default."]),
    ("setdefault", "($self, key, default=None, /)", [
      "Insert key with a value of default if key is not in the dictionary.", "",
      "Return the value for key if key is in the dictionary, else default."]),
    ("pop", "($self, key, default=<unrepresentable>, /)", [
      "D.pop(k[,d]) -> v, remove specified key and return the corresponding value.", "",
      "If the key is not found, return the default if given; otherwise,", "raise a KeyError."]),
    ("popitem", "($self, /)", [
      "Remove and return a (key, value) pair as a 2-tuple.", "",
      "Pairs are returned in LIFO (last-in, first-out) order.", "Raises KeyError if the dict is empty."]),
    ("keys", "", ["D.keys() -> a set-like object providing a view on D's keys"]),
    ("items", "", ["D.items() -> a set-like object providing a view on D's items"]),
    ("values", "", ["D.values() -> an object providing a view on D's values"]),
    ("update", "", [
      "D.update([E, ]**F) -> None.  Update D from dict/iterable E and F.",
      "If E is present and has a .keys() method, then does:  for k in E: D[k] = E[k]",
      "If E is present and lacks a .keys() method, then does:  for k, v in E: D[k] = v",
      "In either case, this is followed by: for k in F:  D[k] = F[k]"]),
    ("clear", "", ["D.clear() -> None.  Remove all items from D."]),
    ("copy", "", ["D.copy() -> a shallow copy of D"]),
    ("__reversed__", "($self, /)", ["Return a reverse iterator over the dict keys."])] ++
  features .classwide [
    ("fromkeys", "($type, iterable, value=None, /)", [
      "Create a new dictionary with keys from iterable and values set to value."]),
    ("__class_getitem__", "", ["See PEP 585"])]

/-- The class of tables. -/
def tableClass : Class := {
  home := "builtins", path := "dict", isBuiltIn := true
  bases := [objectId], order := [tableId, objectId]
  layout := some ⟨48, 0, 0, 0, 0x20485540⟩
  members := tableMembers }

/-- What the contents of classes have. -/
def contentMembers : List (Text × Member) :=
  remark [] ++
  [maker contentId] ++
  [plain "__hash__" .nothing] ++
  operations [
    "__repr__", "__str__", "__getattribute__", "__lt__", "__le__", "__eq__", "__ne__", "__gt__", "__ge__",
    "__iter__", "__or__", "__ror__", "__ior__", "__len__", "__getitem__", "__contains__"] ++
  features .method [
    ("get", "", ["D.get(k[,d]) -> D[k] if k in D, else d.  d defaults to None."]),
    ("keys", "", ["D.keys() -> a set-like object providing a view on D's keys"]),
    ("values", "", ["D.values() -> an object providing a view on D's values"]),
    ("items", "", ["D.items() -> a set-like object providing a view on D's items"]),
    ("copy", "", ["D.copy() -> a shallow copy of D"]),
    ("__reversed__", "", ["D.__reversed__() -> reverse iterator"])] ++
  features .classwide [
    ("__class_getitem__", "", ["See PEP 585"])]

/-- The class of the contents of classes. -/
def contentClass : Class := {
  home := "builtins", path := "mappingproxy", isBuiltIn := true
  bases := [objectId], order := [contentId, objectId]
  layout := some ⟨24, 0, 0, 0, 0x85140⟩
  members := contentMembers }

/-- What sets have that do not change. -/
def frozenSetMembers : List (Text × Member) :=
  remark [
    "frozenset() -> empty frozenset object",
    "frozenset(iterable) -> frozenset object",
    "",
    "Build an immutable unordered collection of unique elements."] ++
  [maker frozenSetId] ++
  operations [
    "__repr__", "__hash__", "__getattribute__", "__lt__", "__le__", "__eq__", "__ne__", "__gt__", "__ge__",
    "__iter__", "__sub__", "__rsub__", "__and__", "__rand__", "__xor__", "__rxor__", "__or__", "__ror__",
    "__len__"] ++
  features .method [
    ("__contains__", "", ["x.__contains__(y) <==> y in x."]),
    ("copy", "", ["Return a shallow copy of a set."]),
    ("difference", "", [
      "Return the difference of two or more sets as a new set.", "",
      "(i.e. all elements that are in this set but not the others.)"]),
    ("intersection", "", [
      "Return the intersection of two sets as a new set.", "", "(i.e. all elements that are in both sets.)"]),
    ("isdisjoint", "", ["Return True if two sets have a null intersection."]),
    ("issubset", "($self, other, /)", ["Test whether every element in the set is in other."]),
    ("issuperset", "($self, other, /)", ["Test whether every element in other is in the set."]),
    ("__reduce__", "", ["Return state information for pickling."]),
    ("__sizeof__", "", ["S.__sizeof__() -> size of S in memory, in bytes"]),
    ("symmetric_difference", "", [
      "Return the symmetric difference of two sets as a new set.", "",
      "(i.e. all elements that are in exactly one of the sets.)"]),
    ("union", "", ["Return the union of sets as a new set.", "", "(i.e. all elements that are in either set.)"])] ++
  features .classwide [
    ("__class_getitem__", "", ["See PEP 585"])]

/-- The class of sets that do not change. -/
def frozenSetClass : Class := {
  home := "builtins", path := "frozenset", isBuiltIn := true
  bases := [objectId], order := [frozenSetId, objectId]
  layout := some ⟨200, 0, 0, 192, 0x485500⟩
  members := frozenSetMembers }

/-- What there is in what is kept about classes with abstract members. -/
def abstractDataMembers : List (Text × Member) :=
  remark ["Internal state held by ABC machinery."] ++
  [maker abstractDataId] ++
  [plain "__module__" (.text "_abc")]

/-- The class of what is kept about classes with abstract members. -/
def abstractDataClass : Class := {
  home := "_abc", path := "_abc_data", isBuiltIn := true
  bases := [objectId], order := [abstractDataId, objectId]
  layout := some ⟨48, 0, 0, 0, 0x85200⟩
  members := abstractDataMembers }

end ApiDocs.Live.Standard
