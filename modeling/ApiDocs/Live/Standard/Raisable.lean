import ApiDocs.Live.Standard.Operation

/-! What everything that can be raised has. -/

namespace ApiDocs.Live.Standard

/-- What everything has that can be raised. -/
def raisableMembers : List (Text × Member) :=
  remark ["Common base class for all exceptions"] ++
  [maker raisableId] ++
  operations ["__repr__", "__str__", "__getattribute__", "__setattr__", "__delattr__", "__init__"] ++
  features .method [
    ("with_traceback", "", [
      "Exception.with_traceback(tb) --", "    set self.__traceback__ to tb and return self."]),
    ("add_note", "", ["Exception.add_note(note) --", "    add a note to the exception"])] ++
  bare .method ["__reduce__", "__setstate__"] ++
  features .computed [
    ("__context__", "", ["exception context"]),
    ("__cause__", "", ["exception cause"])] ++
  bare .computed ["__dict__", "args", "__traceback__"] ++
  bare .stored ["__suppress_context__"]

/-- The base of everything that can be raised. -/
def raisableClass : Class := {
  home := "builtins", path := "BaseException", isBuiltIn := true
  bases := [objectId], order := [raisableId, objectId]
  layout := some ⟨72, 0, 16, 0, 0x40085500⟩
  members := raisableMembers }

/-- What errors have besides. -/
def errorMembers : List (Text × Member) :=
  remark ["Common base class for all non-exit exceptions."] ++
  [maker errorId] ++
  operations ["__init__"]

/-- The base of errors. -/
def errorClass : Class := {
  home := "builtins", path := "Exception", isBuiltIn := true
  bases := [raisableId], order := [errorId, raisableId, objectId]
  layout := some ⟨72, 0, 16, 0, 0x40085500⟩
  members := errorMembers }

end ApiDocs.Live.Standard
