import ApiDocs.Live.Standard.Operation

/-! What classes have that are given arguments. -/

namespace ApiDocs.Live.Standard

/-- What classes with arguments have. -/
def aliasMembers : List (Text × Member) :=
  remark [
    "Represent a PEP 585 generic type",
    "",
    "E.g. for t = list[int], t.__origin__ is list and t.__args__ is (int,)."] ++
  [maker aliasId] ++
  operations [
    "__repr__", "__hash__", "__call__", "__getattribute__", "__lt__", "__le__", "__eq__", "__ne__", "__gt__",
    "__ge__", "__iter__", "__or__", "__ror__", "__getitem__"] ++
  bare .method ["__mro_entries__", "__instancecheck__", "__subclasscheck__", "__reduce__", "__dir__"] ++
  features .computed [
    ("__parameters__", "", ["Type variables in the GenericAlias."])] ++
  bare .computed ["__typing_unpacked_tuple_args__"] ++
  bare .stored ["__origin__", "__args__", "__unpacked__"]

/-- The class of classes with arguments. -/
def aliasClass : Class := {
  home := "types", path := "GenericAlias", isBuiltIn := true
  bases := [objectId], order := [aliasId, objectId]
  layout := some ⟨64, 0, 0, 40, 0x85d00⟩
  members := aliasMembers }

end ApiDocs.Live.Standard
