import ApiDocs.Live.Standard.Abstract
import ApiDocs.Live.Standard.Alias
import ApiDocs.Live.Standard.Attribute
import ApiDocs.Live.Standard.Callable
import ApiDocs.Live.Standard.Collection
import ApiDocs.Live.Standard.Number
import ApiDocs.Live.Standard.Raisable
import ApiDocs.Live.Standard.Root
import ApiDocs.Live.Standard.Sequence
import ApiDocs.Live.World

/-! The world before anything is declared. -/

namespace ApiDocs.Live

namespace Standard

/-- The function that counts the elements of something. -/
def length : Object :=
  .bound .method "len" objectId (.home "builtins")
    (help "($module, obj, /)" ["Return the number of items in a container."])

/-- The classes that every program has, each at its place. -/
def classes : List Class := [
  objectClass, typeClass, abstractClass, abstractTypeClass, genericClass, protocolClass, protocolTypeClass, raisableClass,
  errorClass, functionClass, methodClass, builtinClass, propertyClass, numberClass, flagClass, textClass, nothingClass,
  rowClass, tableClass, contentClass, frozenSetClass, abstractDataClass, operationClass, builtinMethodClass,
  classwideClass, computedClass, storedClass, boundOperationClass, homeClass, codeClass, bytesClass, staticClass,
  classMethodClass, aliasClass]

/-- The modules of the standard classes. -/
def homes : List (Text × List (Text × Object)) := [
  ("builtins", [
    ("object", .cls objectId), ("type", .cls typeId), ("BaseException", .cls raisableId), ("Exception", .cls errorId),
    ("property", .cls propertyId), ("int", .cls numberId), ("bool", .cls flagId), ("str", .cls textId),
    ("tuple", .cls rowId), ("dict", .cls tableId), ("frozenset", .cls frozenSetId), ("bytes", .cls bytesId),
    ("staticmethod", .cls staticId), ("classmethod", .cls classMethodId), ("len", length)]),
  ("abc", [("ABC", .cls abstractId), ("ABCMeta", .cls abstractTypeId)]),
  ("typing", [
    ("Generic", .cls genericId), ("Protocol", .cls protocolId), ("_ProtocolMeta", .cls protocolTypeId)])]

end Standard

/-- The world before anything is declared. -/
def World.standard : World where
  classes := Standard.classes
  homes := Standard.homes
  keys := [("object", objectId), ("abc.ABC", abstractId), ("typing.Generic", genericId), ("typing.Protocol", protocolId),
    ("builtins.BaseException", raisableId), ("builtins.Exception", errorId)]
  functions := Standard.functionCount

end ApiDocs.Live
